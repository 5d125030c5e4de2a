import Jukebox.Proofs.Station.Refusal

/-!
Whatever guilds set and whenever they are asked, the station works with settings that it can use. So
no vote is ever opened for a share that votes cannot have, a queue that counts as full holds a track,
and a request that fails before the backend is asked has not made a session.
-/

namespace Jukebox

namespace SettingsCache

/-- Settings can be read unless the store cannot. -/
theorem effective_persistence {c : SettingsCache} {g : GuildId} {e : PlayerError}
    (failed : (c.effective g).1 = .error e) : ∃ text, e = .persistence text := by
  have missing : (c.snapshot g).1 = .error e := Except.error_of_map failed
  rcases c.snapshot_cases g with ⟨_, _, same⟩ | ⟨text, same⟩ | ⟨_, _, same⟩
  · rw [same] at missing
    cases missing
  · rw [same] at missing
    cases missing
    exact ⟨text, rfl⟩
  · rw [same] at missing
    cases missing

theorem Bounded.cachedEffective {c : SettingsCache} (h : c.Bounded) (g : GuildId) :
    (c.cachedEffective g).Usable := by
  rw [SettingsCache.cachedEffective]
  cases cached : c.cached? g with
  | none => exact GuildSettings.inBounds_empty.resolve h.defaults
  | some own => exact (h.cached g own cached).resolve h.defaults

end SettingsCache

/-- A vote for a share that votes can have is not refused for the share. -/
theorem VoteDesk.start_ne_validation {d : VoteDesk} {now : Nat} {r : VoteRequest}
    (share : 1 ≤ r.ratio ∧ r.ratio ≤ 100) (text : String) :
    (d.start now r).result ≠ .error (.validation text) := by
  unfold start
  rw [if_neg (by omega)]
  split
  · nofun
  · split
    · nofun
    · nofun

/-- Input for a queue is bad only if the queue is full. -/
theorem Session.full_of_enqueue {s : Session} {e : Entry} {capacity : Nat} {b : Backend}
    {now : Nat} {text : String}
    (failed : (s.enqueue e capacity b now).result = .error (.validation text)) :
    capacity ≤ s.queue.length ∧ text = (QueueError.full capacity).message := by
  rcases s.enqueue_cases e capacity b now with
    ⟨full, same⟩ | ⟨_, _, same⟩ | ⟨_, _, _, only, same⟩
  · rw [same] at failed
    cases failed
    exact ⟨full, rfl⟩
  · rw [same] at failed
    cases failed
  · rw [same] at failed
    obtain ⟨_, other⟩ := only _ failed
    cases other

namespace Station

variable {s : Station}

theorem voteTarget_ne_validation (kind : VoteKind) (session : Session) (text : String) :
    voteTarget kind session ≠ .error (.validation text) := by
  unfold voteTarget
  split
  all_goals
    split
    all_goals
      intro refused
      cases refused

/-- A guild's vote is never refused as bad input. -/
theorem startVote_ne_validation (h : s.Sound) (g : GuildId) (kind : VoteKind) (m : MemberId)
    (text : String) : (s.startVote g kind m).1 ≠ .error (.validation text) := by
  unfold startVote
  split
  · next e settings read =>
      obtain ⟨_, rfl⟩ := SettingsCache.effective_persistence (congrArg Prod.fst read)
      nofun
  · next effective settings read =>
      have usable := h.bounded.of_effective (congrArg Prod.fst read)
      dsimp only
      split
      · next e closed =>
          unfold viewSession at closed
          split at closed
          · cases closed
            nofun
          · intro same
            cases same
            exact voteTarget_ne_validation _ _ _ closed
      · exact VoteDesk.start_ne_validation usable.share text

/-- A request for a track is bad input only for a live session whose queue is full, and a full queue
holds a track. -/
theorem full_of_enqueue (h : s.Sound) {g : GuildId} {m : MemberId} {track : TrackRef}
    {metadata : Option TrackMetadata} {text : String}
    (failed : (s.enqueue g m track metadata).1 = .error (.validation text)) :
    ∃ slot capacity, s.registry.live.get? g = some slot ∧ 1 ≤ capacity ∧
      capacity ≤ slot.session.queue.length ∧ text = (QueueError.full capacity).message := by
  unfold enqueue at failed
  split at failed
  · next e settings read =>
      obtain ⟨_, rfl⟩ := SettingsCache.effective_persistence (congrArg Prod.fst read)
      cases failed
  · next effective settings read =>
      have usable := h.bounded.of_effective (congrArg Prod.fst read)
      have refused := Except.error_of_map failed
      cases found : s.registry.live.get? g with
      | none =>
          simp only [Registry.getOrCreate, found] at refused
          cases enqueue_create usable.room _ _ refused
      | some slot =>
          simp only [Registry.getOrCreate, found] at refused
          obtain ⟨full, same⟩ := Session.full_of_enqueue refused
          exact ⟨slot, effective.maxQueueSize, rfl, usable.room, full, same⟩

/-- Over rows within bounds and an accepted configuration, in every state that a run can reach, what a
guild has set is within its bounds wherever it is read, and what is in effect can be used. Opening a
vote never fails as bad input, as it would for a share outside its range. Adding a track does so
only where a session is live and its queue is full and not empty; and if it fails, but not because
the track cannot be loaded, sessions and votes are as they were. -/
theorem settings_usable {env : Config.Environment} {config : Config}
    (accepted : Config.ofEnvironment env = .ok config) {repository : Repository}
    (rows : repository.shelf.InBounds) (backend : Backend) {os : List Occurrence}
    (outside : ∀ o ∈ os, o.KeepsBounds) :
    let s := (create config repository backend).through os
    (∀ g,
      (s.settings.repository.shelf.read g).InBounds ∧
      (∀ own, s.settings.cached? g = some own → own.InBounds) ∧
      (∀ own, s.settings.Holds g own → (EffectiveSettings.resolve own s.settings.defaults).Usable) ∧
      (∀ effective, (s.settings.effective g).1 = .ok effective → effective.Usable) ∧
      (s.settings.cachedEffective g).Usable) ∧
    (∀ g kind m text, (s.startVote g kind m).1 ≠ .error (.validation text)) ∧
    ∀ g m track metadata,
      let answer := s.enqueue g m track metadata
      (∀ text, answer.1 = .error (.validation text) →
        ∃ slot capacity, s.registry.live.get? g = some slot ∧ 1 ≤ capacity ∧
          capacity ≤ slot.session.queue.length ∧ text = (QueueError.full capacity).message) ∧
      ∀ e, answer.1 = .error e → e.isLoad = false → answer.2.registry = s.registry := by
  intro s
  have created : (create config repository backend).Sound :=
    .create (Config.defaults_usable accepted) rows backend
  have sound : s.Sound := created.through outside
  have bounded := sound.bounded
  refine ⟨fun g => ⟨bounded.stored g, bounded.cached g, ?_, ?_, bounded.cachedEffective g⟩, ?_, ?_⟩
  · intro own held
    exact (bounded.of_holds held).resolve bounded.defaults
  · intro effective read
    exact bounded.of_effective read
  · exact startVote_ne_validation sound
  · intro g m track metadata answer
    refine ⟨fun text failed => full_of_enqueue sound failed, fun e failed other => ?_⟩
    obtain ⟨_, untouched⟩ := declines_enqueue sound g m track metadata e failed other
    rw [untouched.same]

/-- The program is set up to let one track wait. A guild has asked for every listener to agree, and of
three tracks the last finds the queue full. -/
theorem settings_usable_of_full_queue :
    let env : Config.Environment := fun v =>
      if v = "GUILDBOX_MAX_QUEUE_SIZE" then some "1" else none
    let config : Config := { defaults := { maxQueueSize := 1 } }
    let g : GuildId := ⟨1⟩
    let repository : Repository := { shelf := (Shelf.database {}).write g { skipRatio := some 100 } }
    let os : List Occurrence :=
      [.act (.ask (.enqueue g ⟨1⟩ ⟨"a"⟩ none)), .act (.ask (.enqueue g ⟨1⟩ ⟨"b"⟩ none))]
    let s := (create config repository { nextHandle := ⟨1⟩ }).through os
    Config.ofEnvironment env = .ok config ∧ repository.shelf.InBounds ∧
      (s.settings.cachedEffective g).skipRatio = 100 ∧ (s.settings.cachedEffective g).Usable ∧
      (s.enqueue g ⟨1⟩ ⟨"c"⟩ none).1 = .error (.validation "queue is full (1 tracks)") ∧
      ∃ slot, s.registry.live.get? g = some slot ∧ 1 ≤ slot.session.queue.length := by
  intro env config g repository os s
  have accepted : Config.ofEnvironment env = .ok config := by decide +kernel
  have rows : repository.shelf.InBounds :=
    Shelf.InBounds.write (s := .database {}) (fun _ => GuildSettings.inBounds_empty) g
      (GuildSettings.inBounds_empty.set (k := .skipRatio) (v := some (.number 100)) (by decide))
  have full : (s.enqueue g ⟨1⟩ ⟨"c"⟩ none).1 = .error (.validation "queue is full (1 tracks)") := by
    decide +kernel
  have outside : ∀ o ∈ os, o.KeepsBounds := by
    simp [os, Occurrence.KeepsBounds, StationAct.KeepsBounds]
  obtain ⟨usable, _, tracks⟩ := settings_usable accepted rows { nextHandle := ⟨1⟩ } outside
  obtain ⟨_, _, _, _, shown⟩ := usable g
  obtain ⟨slot, capacity, live, some_, held, _⟩ := (tracks g ⟨1⟩ ⟨"c"⟩ none).1 _ full
  exact ⟨accepted, rows, by decide +kernel, shown, full, slot, live, Nat.le_trans some_ held⟩

end Station

end Jukebox
