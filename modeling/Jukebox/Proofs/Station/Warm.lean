import Jukebox.Proofs.Settings.Faithful
import Jukebox.Proofs.Station.Service

/-!
The cache of a station in service. A guild gets a session only after its settings were looked up, and
it is dropped from the cache only together with its session. So as long as nobody but the station
writes to the store, every guild with a session is cached, and cached as it is stored.
-/

namespace Jukebox

/-- The guild that a request drops from the cache. -/
def SettingsRequest.drops? : SettingsRequest → Option GuildId
  | invalidate g => some g
  | _ => none

namespace StationAct

/-- The act may make a session. -/
def enqueues : StationAct → Bool
  | ask (.enqueue _ _ _ _) => true
  | _ => false

theorem enqueues_cases (a : StationAct) :
    (∃ g m track metadata, a = .ask (.enqueue g m track metadata)) ∨ a.enqueues = false := by
  cases a with
  | ask q =>
      cases q with
      | enqueue g m track metadata => exact .inl ⟨g, m, track, metadata, rfl⟩
      | _ => exact .inr rfl
  | _ => exact .inr rfl

/-- The stored rows are left to the station: a store that is handed over has them as they were. -/
def LeavesRows (shelf : Shelf) : StationAct → Prop
  | store repository => repository.shelf = shelf
  | _ => True

end StationAct

def Occurrence.LeavesRows (shelf : Shelf) : Occurrence → Prop
  | act a => a.LeavesRows shelf
  | command _ => True

namespace SettingsCache

variable {c : SettingsCache} {g : GuildId}

/-- Whatever else the cache is asked, it keeps a guild that it is not told to drop. -/
theorem answer_keeps {r : SettingsRequest} (kept : r.drops? ≠ some g)
    (there : c.entries.contains g = true) : (r.answer c).2.entries.contains g = true := by
  cases r with
  | snapshot i | get i _ | effective i =>
      change (c.snapshot i).2.entries.contains g = true
      rcases (Warmed.snapshot c i).cached with entries | ⟨_, _, entries⟩
      · rwa [entries]
      · rw [entries]
        exact (Table.contains_insert _ _ _ _).mpr (.inr there)
  | set i k v =>
      change (c.set i k v).2.entries.contains g = true
      rcases c.set_cases i k v with ⟨_, _, _, same⟩ | ⟨_, _, _, _, same⟩
      · rwa [same]
      · rw [same]
        exact (Table.contains_insert _ _ _ _).mpr (.inr there)
  | invalidate i =>
      have other : g ≠ i := fun same => kept (congrArg some same.symm)
      change (c.entries.erase i).contains g = true
      rwa [Table.contains, Table.get?_erase_ne _ other]
  | store | rejectReads | rejectWrites | defaults => exact there

theorem serve_keeps {rs : List SettingsRequest} (kept : ∀ r ∈ rs, r.drops? ≠ some g)
    (there : c.entries.contains g = true) : (c.serve rs).entries.contains g = true := by
  induction rs generalizing c with
  | nil => exact there
  | cons r rest ih =>
      obtain ⟨first, later⟩ := List.forall_mem_cons.mp kept
      exact ih later (answer_keeps first there)

/-- A guild whose settings were looked up is cached. -/
theorem contains_of_effective {e : EffectiveSettings} (read : (c.effective g).1 = .ok e) :
    (c.snapshot g).2.entries.contains g = true := by
  rw [effective_eq] at read
  rcases c.snapshot_cases g with ⟨_, cached, same⟩ | ⟨_, same⟩ | ⟨_, _, same⟩
  · rw [same]
    exact Table.contains_iff.mpr ⟨_, cached⟩
  · rw [same] at read
    cases read
  · rw [same]
    exact (Table.contains_insert _ _ _ _).mpr (.inl rfl)

end SettingsCache

namespace Station

/-- No guild gets a session. -/
def Recedes (s s' : Station) : Prop :=
  ∀ g, s'.registry.live.contains g = true → s.registry.live.contains g = true

/-- Unless a slot is made, no guild gets a session. -/
theorem Move.recedes {s s' : Station} (grounded : s.registry.Grounded) (move : Move s s') :
    s.registry.created ≤ s'.registry.created ∧
      (s'.registry.created = s.registry.created → Recedes s s') := by
  cases move with
  | works found keeps =>
      rw [apply_eq]
      refine ⟨Nat.le_refl _, ?_⟩
      intro _ g there
      rcases (Table.contains_insert _ _ _ _).mp there with rfl | old
      · rw [(grounded.fits _ _ found).ref]
        exact Table.contains_iff.mpr ⟨_, found⟩
      · exact old
  | makes absent =>
      simp only [Registry.getOrCreate, absent, Registry.count]
      exact ⟨Nat.le_succ _, fun same => absurd same (Nat.succ_ne_self _)⟩
  | givesUp found =>
      refine ⟨Nat.le_refl _, ?_⟩
      intro _ g there
      obtain ⟨slot, left⟩ := Table.contains_iff.mp there
      exact Table.contains_iff.mpr ⟨slot, (Table.get?_erase_eq_some.mp left).2⟩
  | casts | cancels | timesOut | takes => exact ⟨Nat.le_refl _, fun _ _ there => there⟩
  | aside same =>
      refine ⟨Nat.le_of_eq same.created.symm, ?_⟩
      intro _ g there
      rwa [same.live] at there

theorem Moves.recedes {s s' : Station} (grounded : s.registry.Grounded) (moves : Moves s s') :
    s.registry.created ≤ s'.registry.created ∧
      (s'.registry.created = s.registry.created → Recedes s s') := by
  induction moves with
  | refl => exact ⟨Nat.le_refl _, fun _ _ there => there⟩
  | tail before step ih =>
      obtain ⟨first, recedes⟩ := ih
      obtain ⟨last, recedes'⟩ := step.recedes (Moves.grounded grounded before)
      refine ⟨first.trans last, ?_⟩
      -- The count of slots only grows, so when it ends where it began it has not moved on the way.
      intro same g there
      have still := Nat.le_antisymm (same ▸ last) first
      exact recedes still g (recedes' (same.trans still.symm) g there)

theorem foldl_passMoment_created (s : Station) (moments : List Nat) :
    (moments.foldl passMoment s).registry.created = s.registry.created := by
  induction moments generalizing s with
  | nil => rfl
  | cons moment moments ih =>
      exact (ih (s.passMoment moment)).trans (Steady.sweepIfDue { s with now := moment }).created

theorem handle_created {α : Type} (s : Station) (q : Request α)
    (old : (StationAct.ask q).enqueues = false) :
    (s.handle q).2.registry.created = s.registry.created := by
  cases q with
  | enqueue => cases old
  | startVote g kind m =>
      rw [handle]
      rcases s.startVote_cases g kind m with ⟨_, _, same⟩ | ⟨_, _, _, _, _, _, _, same⟩
      · rw [same]
      · rw [same]
        rfl
  | removeGuild g => exact (Steady.evict s g).created
  | trackStarted g | trackFinished g | trackFailed g | skip g | stop g | clearQueue g | pause g
  | resume g | setRepeat g | removeAt g | removeByRequester g | swap g | move g | shuffle g =>
      exact (Steady.withSession s g _).created
  | setSetting | setSkipRatio | settings | memberJoined | memberLeft | castVote | cancelVote | queue
  | status | page | voteProgress | stats => rfl

theorem next_created (s : Station) {a : StationAct} (old : a.enqueues = false) :
    (s.next a).registry.created = s.registry.created := by
  cases a with
  | ask q => exact s.handle_created q old
  | apply place => exact (Steady.applyAt s place).created
  | settle => exact (Steady.settle s).created
  | sweep guilds => exact (Steady.sweepGuilds s guilds).created
  | startSweeper period => exact (Steady.startSweeper s period).created
  | advance duration => exact s.foldl_passMoment_created _
  | stopSweeper | lag | expireVotes | refuse | store | arrange => rfl

/-- Only a track brings a guild to its session. -/
theorem next_recedes {s : Station} (grounded : s.registry.Grounded) {a : StationAct}
    (old : a.enqueues = false) : Recedes s (s.next a) := by
  rcases s.next_cases a with ⟨g, kind, m, rfl⟩ | ⟨g, m, track, metadata, rfl⟩ | moves
  · intro h there
    rw [next, handle] at there
    rcases s.startVote_cases g kind m with ⟨_, _, same⟩ | ⟨_, _, _, _, _, _, _, same⟩
    · rwa [same] at there
    · rwa [same] at there
  · cases old
  · exact (Moves.recedes grounded moves).2 (s.next_created old)

/-- A guild that gets a session with a track has had its settings looked up. -/
theorem enqueue_live {s : Station} (grounded : s.registry.Grounded) {g h : GuildId} {m : MemberId}
    {track : TrackRef} {metadata : Option TrackMetadata}
    (there : (s.enqueue g m track metadata).2.registry.live.contains h = true) :
    s.registry.live.contains h = true ∨ (s.settings.snapshot g).2.entries.contains h = true := by
  unfold enqueue at there
  cases read : s.settings.effective g with
  | mk result settings =>
      rw [read] at there
      cases result with
      | error e => exact .inl there
      | ok effective =>
          have cached : (s.settings.snapshot g).2.entries.contains g = true :=
            SettingsCache.contains_of_effective (congrArg Prod.fst read)
          obtain ⟨grounded', found⟩ := prepared_grounded grounded g settings
          change (Station.apply (s.prepared g settings) _ _).2.registry.live.contains h = true at there
          rw [apply_eq, (grounded'.fits _ _ found).ref] at there
          rcases (Table.contains_insert _ _ _ _).mp there with rfl | made
          · exact .inr cached
          · change (s.registry.getOrCreate s.now g).2.live.contains h = true at made
            cases absent : s.registry.live.get? g with
            | some slot =>
                rw [Registry.getOrCreate, absent] at made
                exact .inl made
            | none =>
                rw [Registry.getOrCreate, absent] at made
                rcases (Table.contains_insert _ _ _ _).mp made with rfl | old
                · exact .inr cached
                · exact .inl old

/-- The cache drops a guild only together with its session. -/
theorem next_drops {s : Station} (grounded : s.registry.Grounded) {a : StationAct}
    {r : SettingsRequest} (asked : r ∈ a.asks) {g : GuildId} (drops : r.drops? = some g) :
    (s.next a).registry.live.contains g = false := by
  cases a with
  | ask q =>
      cases q with
      | removeGuild h =>
          obtain rfl := List.mem_singleton.mp asked
          obtain rfl : h = g := Option.some.inj drops
          change (s.registry.evict h).2.live.contains h = false
          unfold Registry.evict
          cases found : s.registry.live.get? h with
          | none => exact Table.contains_eq_false.mpr found
          | some slot =>
              apply Table.contains_eq_false.mpr
              change (s.registry.live.erase slot.ref.guild).get? h = none
              rw [(grounded.fits h slot found).ref]
              exact Table.get?_erase_self _ _
      | enqueue | startVote | settings | setSetting | setSkipRatio =>
          obtain rfl := List.mem_singleton.mp asked
          cases drops
      | _ => cases asked
  | _ => cases asked

/-- Every guild with a session is cached, and whatever is cached is cached as it is stored. -/
structure Warm (s : Station) : Prop where
  faithful : s.settings.Faithful
  cached : ∀ g, s.registry.live.contains g = true → s.settings.entries.contains g = true

namespace Warm

variable {s : Station} (h : s.Warm) (grounded : s.registry.Grounded)
include h

/-- What the sweep finds in the cache is what is stored. -/
theorem cachedEffective {g : GuildId} (live : s.registry.live.contains g = true) :
    s.settings.cachedEffective g =
      .resolve ((s.settings.repository.stored? g).getD {}) s.settings.defaults := by
  obtain ⟨settings, cached⟩ := Table.contains_iff.mp (h.cached g live)
  change s.settings.cached? g = some settings at cached
  rw [SettingsCache.cachedEffective, cached, Option.getD_some, h.faithful g settings cached,
    Repository.read_eq_stored]

include grounded

theorem next {a : StationAct} (left : a.LeavesRows s.settings.repository.shelf) : (s.next a).Warm := by
  by_cases stores : ∃ repository, a = .store repository
  · obtain ⟨repository, rfl⟩ := stores
    exact ⟨h.faithful.of_same rfl left, h.cached⟩
  · have served := s.next_serve fun repository same => stores ⟨repository, same⟩
    refine ⟨served ▸ h.faithful.serve a.asks_own, ?_⟩
    intro g there
    have kept (old : s.registry.live.contains g = true) :
        (s.settings.serve a.asks).entries.contains g = true := by
      apply SettingsCache.serve_keeps _ (h.cached g old)
      intro r asked drops
      rw [next_drops grounded asked drops] at there
      cases there
    rw [served]
    rcases a.enqueues_cases with ⟨g', m, track, metadata, rfl⟩ | old
    · rcases enqueue_live grounded there with old | cached
      · exact kept old
      · exact cached
    · exact kept (next_recedes grounded old g there)

theorem on {o : Occurrence} (left : o.LeavesRows s.settings.repository.shelf) : (s.on o).Warm := by
  cases o with
  | act a => exact h.next grounded left
  | command i =>
      exact dispatch_keeps h (fun q => h.next grounded (a := .ask q) trivial)
        (fun _ kept => ⟨kept.faithful, kept.cached⟩) i

end Warm

/-- In a run nobody but the station writes to the store. The store may be handed over on the way, to
refuse reads or writes, or to accept them again. -/
def Undisturbed (s : Station) : List Occurrence → Prop
  | [] => True
  | o :: os => o.LeavesRows s.settings.repository.shelf ∧ (s.on o).Undisturbed os

theorem Warm.through {s : Station} (h : s.Warm) (grounded : s.registry.Grounded) {os : List Occurrence}
    (own : s.Undisturbed os) : (s.through os).Warm := by
  induction os generalizing s with
  | nil => exact h
  | cons o os ih => exact ih (h.on grounded own.1) (on_grounded grounded o) own.2

theorem next_defaults (s : Station) (a : StationAct) :
    (s.next a).settings.defaults = s.settings.defaults := by
  by_cases stores : ∃ repository, a = .store repository
  · obtain ⟨repository, rfl⟩ := stores
    rfl
  · rw [s.next_serve fun repository same => stores ⟨repository, same⟩]
    exact s.settings.serve_defaults a.asks

theorem dispatch_defaults (s : Station) (i : Invocation) :
    (s.dispatch i).2.settings.defaults = s.settings.defaults :=
  dispatch_keeps (P := fun t => t.settings.defaults = s.settings.defaults) rfl
    (fun q => s.next_defaults (.ask q)) (fun _ kept => kept) i

/-- The defaults stay those of the configuration. -/
theorem through_defaults (s : Station) (os : List Occurrence) :
    (s.through os).settings.defaults = s.settings.defaults := by
  induction os generalizing s with
  | nil => rfl
  | cons o os ih =>
      rw [through, ih]
      cases o with
      | act a => exact s.next_defaults a
      | command i =>
          rw [on]
          exact s.dispatch_defaults i

end Station

end Jukebox
