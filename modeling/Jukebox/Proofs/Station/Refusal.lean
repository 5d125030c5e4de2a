import Jukebox.Proofs.Session.Declined
import Jukebox.Proofs.Station.Origin
import Jukebox.Proofs.Station.Service
import Jukebox.Proofs.Config

/-!
A request that is refused changes nothing. What it may leave behind is the settings of a guild in the
cache, as they are stored, and a number that no entry will get. A track that the backend will not load
is another matter: the request for it was accepted. So is a ballot that comes before anybody has noticed
that the time of its vote is up: it does what the deadline was going to do.
-/

namespace Jukebox

namespace VoteDesk

theorem start_declined {d : VoteDesk} {now : Nat} {r : VoteRequest} {e : PlayerError}
    (failed : (d.start now r).result = .error e) :
    e.isDenial = false ∧ (d.start now r).desk = d ∧ (d.start now r).resolved = [] := by
  unfold start at failed ⊢
  split at failed
  · next bad =>
      cases failed
      rw [if_pos bad]
      exact ⟨rfl, rfl, rfl⟩
  · next good =>
      rw [if_neg good]
      split at failed
      · next absent =>
          cases failed
          rw [if_pos absent]
          exact ⟨rfl, rfl, rfl⟩
      · next present =>
          rw [if_neg present]
          split at failed
          · next pending =>
              cases failed
              rw [if_pos pending]
              exact ⟨rfl, rfl, rfl⟩
          · cases failed

/-- The time of a vote on the desk is up. -/
def Lapsed (d : VoteDesk) (now : Nat) (key : VoteKey) (v : Vote) : Prop :=
  d.pending.get? key = some v ∧ v.deadline ≤ now

/-- A ballot for a vote whose time is up times it out. -/
theorem cast_of_lapsed {d : VoteDesk} {now : Nat} {key : VoteKey} {v : Vote}
    (lapsed : d.Lapsed now key v) (voter : MemberId) (b : Ballot) :
    d.cast now key voter b =
      { result := .error .noActiveVote
        desk := (d.timeOut [v]).1
        resolved := (d.timeOut [v]).2 } := by
  rw [cast, lapsed.1]
  dsimp only
  rw [if_pos lapsed.2]
  rfl

/-- A ballot for a vote that still has time is refused without a trace. -/
theorem cast_declined {d : VoteDesk} {now : Nat} {key : VoteKey} {voter : MemberId} {b : Ballot}
    (early : ∀ v, ¬ d.Lapsed now key v) {e : PlayerError}
    (failed : (d.cast now key voter b).result = .error e) :
    e.isDenial = false ∧ (d.cast now key voter b).desk = d ∧
      (d.cast now key voter b).resolved = [] := by
  unfold cast at failed ⊢
  split at failed
  · cases failed
    exact ⟨rfl, rfl, rfl⟩
  · next v found =>
      have time : ¬ v.deadline ≤ now := fun up => early v ⟨found, up⟩
      rw [if_neg time] at failed ⊢
      split at failed
      · next stranger =>
          cases failed
          rw [if_pos stranger]
          exact ⟨rfl, rfl, rfl⟩
      · next eligible =>
          rw [if_neg eligible]
          split at failed
          · next again =>
              cases failed
              rw [if_pos again]
              exact ⟨rfl, rfl, rfl⟩
          · cases failed

theorem cancel_declined {d : VoteDesk} {key : VoteKey} (failed : (d.cancel key).result = false) :
    (d.cancel key).desk = d ∧ (d.cancel key).resolved = [] := by
  unfold cancel at failed ⊢
  split at failed
  · exact ⟨rfl, rfl⟩
  · cases failed

end VoteDesk

namespace Station

/-- Nothing is different but what a look at the settings leaves, and perhaps the next entry id. -/
structure Untouched (s s' : Station) : Prop where
  same : s' = { s with settings := s'.settings, nextEntry := s'.nextEntry }
  settings : s.settings.Warmed s'.settings
  numbers : s'.nextEntry = s.nextEntry ∨ s'.nextEntry = s.nextEntry.next

namespace Untouched

theorem refl (s : Station) : Untouched s s := ⟨rfl, .refl s.settings, .inl rfl⟩

theorem of_warmed {s : Station} {settings : SettingsCache} (warmed : s.settings.Warmed settings) :
    Untouched s { s with settings } :=
  ⟨rfl, warmed, .inl rfl⟩

theorem count {s s' : Station} (h : Untouched s s') (f : Metrics → Metrics) :
    Untouched (s.count f) (s'.count f) := by
  refine ⟨?_, h.settings, h.numbers⟩
  conv => lhs; rw [h.same]
  rfl

end Untouched

/-- What an answer is like: if it is an error, and not that a track cannot be loaded, the station is
untouched, and the error is not a denial. -/
def Declines {α : Type} (s : Station) (answer : Except PlayerError α × Station) : Prop :=
  ∀ e, answer.1 = .error e → e.isLoad = false → e.isDenial = false ∧ Untouched s answer.2

theorem declines_ok {α : Type} (s : Station) {answer : Except PlayerError α × Station} {a : α}
    (ok : answer.1 = .ok a) : s.Declines answer := by
  intro e failed _
  rw [ok] at failed
  cases failed

theorem declines_view {α : Type} (s : Station) {view : Except PlayerError α}
    (right : ∀ e, view = .error e → e.isDenial = false) : s.Declines (view, s) :=
  fun e failed _ => ⟨right e failed, .refl s⟩

theorem viewSession_error {s : Station} {g : GuildId} {e : PlayerError}
    (failed : s.viewSession g = .error e) : e.isDenial = false := by
  unfold viewSession at failed
  split at failed
  · cases failed
    rfl
  · cases failed

theorem queuePage_error {s : Station} {g : GuildId} {index : Nat} {e : PlayerError}
    (failed : s.queuePage g index = .error e) : e.isDenial = false := by
  unfold queuePage at failed
  split at failed
  · next missing =>
      cases failed
      exact viewSession_error missing
  · split at failed
    · cases failed
    · dsimp only at failed
      split at failed
      · cases failed
        rfl
      · cases failed

section Requests

variable {s : Station}

theorem declines_withSession (grounded : s.registry.Grounded) {α : Type} (g : GuildId)
    {operation : Backend → Nat → Session → Outcome (Except PlayerError α)}
    (declines : ∀ b now session, Session.Declines session (operation b now session)) :
    s.Declines (s.withSession g operation) := by
  intro e failed other
  unfold withSession at failed ⊢
  cases found : s.registry.live.get? g with
  | none =>
      simp only [found] at failed
      cases failed
      exact ⟨rfl, .refl s⟩
  | some slot =>
      simp only [found] at failed
      obtain ⟨right, same, silent⟩ := declines s.registry.backend s.now slot.session e failed other
      refine ⟨right, ?_⟩
      dsimp only
      rw [apply_idle grounded found same silent]
      exact .refl s

theorem snapshot_error {c : SettingsCache} {g : GuildId} {e : PlayerError}
    (failed : (c.snapshot g).1 = .error e) : e.isDenial = false := by
  rcases c.snapshot_cases g with ⟨_, _, same⟩ | ⟨_, same⟩ | ⟨_, _, same⟩
  · rw [same] at failed
    cases failed
  · rw [same] at failed
    cases failed
    rfl
  · rw [same] at failed
    cases failed

theorem effective_error {c : SettingsCache} {g : GuildId} {e : PlayerError}
    (failed : (c.effective g).1 = .error e) : e.isDenial = false :=
  snapshot_error (Except.error_of_map failed)

/-- A new session has room for a track, so it can only be that the backend will not load it. -/
theorem enqueue_create {g : GuildId} {e : Entry} {capacity : Nat} (room : 1 ≤ capacity)
    (b : Backend) (now : Nat) {err : PlayerError}
    (failed : ((Session.create g now).enqueue e capacity b now).result = .error err) :
    err.isLoad = true := by
  rcases (Session.create g now).enqueue_cases e capacity b now with
    ⟨full, _⟩ | ⟨_, busy, _⟩ | ⟨_, _, _, only, same⟩
  · exact absurd full (Nat.not_le.mpr room)
  · exact absurd rfl busy
  · rw [same] at failed
    obtain ⟨text, rfl⟩ := only err failed
    rfl

theorem declines_enqueue (h : s.Sound) (g : GuildId) (m : MemberId) (track : TrackRef)
    (metadata : Option TrackMetadata) : s.Declines (s.enqueue g m track metadata) := by
  have warmed := SettingsCache.Warmed.snapshot s.settings g
  intro e failed other
  unfold enqueue at failed ⊢
  split at failed
  · next err settings read =>
      cases failed
      have same : settings = (s.settings.snapshot g).2 := (congrArg Prod.snd read).symm
      exact ⟨effective_error (congrArg Prod.fst read), .of_warmed (same ▸ warmed)⟩
  · next effective settings read =>
      have same : settings = (s.settings.snapshot g).2 := (congrArg Prod.snd read).symm
      have usable := h.bounded.of_effective (congrArg Prod.fst read)
      have refused := Except.error_of_map failed
      cases found : s.registry.live.get? g with
      | none =>
          simp only [Registry.getOrCreate, found] at refused
          rw [enqueue_create usable.room _ _ refused] at other
          cases other
      | some slot =>
          have there : s.registry.getOrCreate s.now g = (slot, s.registry) := by
            simp only [Registry.getOrCreate, found]
          rw [there] at refused ⊢
          let entry : Entry := ⟨s.nextEntry, m, track, metadata.getD (.unresolved track)⟩
          obtain ⟨right, kept, silent⟩ :=
            slot.session.declines_enqueue entry effective.maxQueueSize s.registry.backend s.now e
              refused other
          have idle : (apply { s with settings, nextEntry := s.nextEntry.next } slot
              (Session.enqueue entry effective.maxQueueSize)).2 =
              { s with settings, nextEntry := s.nextEntry.next } := by
            apply apply_idle (s := { s with settings, nextEntry := s.nextEntry.next })
              h.grounded found
            · exact kept
            · exact silent
          refine ⟨right, ?_⟩
          change s.Untouched (apply { s with settings, nextEntry := s.nextEntry.next } slot
            (Session.enqueue entry effective.maxQueueSize)).2
          rw [idle]
          exact ⟨rfl, same ▸ warmed, .inr rfl⟩

theorem voteTarget_error {session : Session} {kind : VoteKind} {e : PlayerError}
    (failed : voteTarget kind session = .error e) : e.isDenial = false := by
  unfold voteTarget at failed
  split at failed
  all_goals
    split at failed
    all_goals cases failed
    all_goals rfl

theorem declines_startVote (g : GuildId) (kind : VoteKind) (m : MemberId) :
    s.Declines (s.startVote g kind m) := by
  have warmed := SettingsCache.Warmed.snapshot s.settings g
  intro e failed _
  unfold startVote at failed ⊢
  split at failed
  · next err settings read =>
      cases failed
      have same : settings = (s.settings.snapshot g).2 := (congrArg Prod.snd read).symm
      exact ⟨effective_error (congrArg Prod.fst read), .of_warmed (same ▸ warmed)⟩
  · next effective settings read =>
      have same : settings = (s.settings.snapshot g).2 := (congrArg Prod.snd read).symm
      dsimp only at failed ⊢
      split at failed
      · next err closed =>
          cases failed
          refine ⟨?_, .of_warmed (same ▸ warmed)⟩
          cases view : ({ s with settings } : Station).viewSession g with
          | error err =>
              rw [view] at closed
              cases closed
              exact viewSession_error view
          | ok session =>
              rw [view] at closed
              exact voteTarget_error closed
      · next target open_ =>
          obtain ⟨right, desk, resolved⟩ := VoteDesk.start_declined failed
          refine ⟨right, ?_⟩
          dsimp only
          rw [desk, resolved, withDesk_nothing]
          exact .of_warmed (same ▸ warmed)

/-- The station once the time of a vote is up. -/
def timedOut (s : Station) (v : Vote) : Station :=
  s.withDesk (s.desk.timeOut [v]).1 (s.desk.timeOut [v]).2

/-- The request is a ballot, and the time of the vote that it is for is up. -/
def ComesLate (s : Station) {α : Type} : Request α → Prop
  | .castVote g kind _ _ => ∃ v, s.desk.Lapsed s.now ⟨g, kind⟩ v
  | _ => False

theorem castVote_of_lapsed {g : GuildId} {kind : VoteKind} {v : Vote}
    (lapsed : s.desk.Lapsed s.now ⟨g, kind⟩ v) (m : MemberId) (b : Ballot) :
    s.castVote g kind m b = (.error .noActiveVote, s.timedOut v) := by
  simp only [castVote, VoteDesk.cast_of_lapsed lapsed]
  rfl

theorem declines_castVote {g : GuildId} {kind : VoteKind} {m : MemberId} {b : Ballot}
    (early : ¬ s.ComesLate (.castVote g kind m b)) : s.Declines (s.castVote g kind m b) := by
  intro e failed _
  obtain ⟨right, desk, resolved⟩ :=
    VoteDesk.cast_declined (fun v lapsed => early ⟨v, lapsed⟩) failed
  refine ⟨right, ?_⟩
  simp only [castVote]
  rw [desk, resolved, withDesk_nothing]
  exact .refl s

theorem declines_cancelVote (g : GuildId) (kind : VoteKind) :
    s.Declines (s.cancelVote g kind) := by
  intro e failed _
  simp only [cancelVote] at failed ⊢
  split at failed
  · cases failed
  · next missing =>
      cases failed
      obtain ⟨desk, resolved⟩ := VoteDesk.cancel_declined (Bool.eq_false_of_not_eq_true missing)
      rw [desk, resolved, withDesk_nothing]
      exact ⟨rfl, .refl s⟩

theorem declines_setSetting (g : GuildId) (k : SettingKey) (v : Option SettingValue) :
    s.Declines (s.setSetting g k v) := by
  intro e failed _
  simp only [setSetting] at failed ⊢
  rcases s.settings.set_cases g k v with ⟨_, loads, right, same⟩ | ⟨_, _, _, _, same⟩
  · rw [same] at failed ⊢
    cases failed
    exact ⟨right, .of_warmed (.counting s.settings loads)⟩
  · rw [same] at failed
    cases failed

theorem declines_guildSettings (g : GuildId) : s.Declines (s.guildSettings g) := by
  intro e failed _
  exact ⟨snapshot_error failed, .of_warmed (.snapshot s.settings g)⟩

/-- Whatever the request, unless it is a ballot that comes late. -/
theorem declines_handle (h : s.Sound) {α : Type} {q : Request α} (early : ¬ s.ComesLate q) :
    s.Declines (s.handle q) := by
  cases q with
  | enqueue g m track metadata => exact declines_enqueue h g m track metadata
  | startVote g kind m => exact declines_startVote g kind m
  | castVote g kind m b => exact declines_castVote early
  | cancelVote g kind => exact declines_cancelVote g kind
  | setSetting g k v => exact declines_setSetting g k v
  | setSkipRatio g ratio => exact declines_setSetting g .skipRatio _
  | settings g => exact declines_guildSettings g
  | skip g => exact declines_withSession h.grounded g fun b now s => s.declines_skip b now
  | pause g => exact declines_withSession h.grounded g fun _ now s => s.declines_pause now
  | resume g => exact declines_withSession h.grounded g fun _ now s => s.declines_resume now
  | removeAt g position =>
      exact declines_withSession h.grounded g fun _ now s => s.declines_edit now _
  | removeByRequester g m =>
      exact declines_withSession h.grounded g fun _ now s => s.declines_edit now _
  | swap g a b => exact declines_withSession h.grounded g fun _ now s => s.declines_edit now _
  | move g source target =>
      exact declines_withSession h.grounded g fun _ now s => s.declines_edit now _
  | shuffle g => exact declines_withSession h.grounded g fun _ now s => s.declines_shuffle _ now
  | trackStarted g | trackFinished g | trackFailed g | stop g | clearQueue g | setRepeat g =>
      exact declines_withSession h.grounded g fun _ _ s => s.declines_accepted _
  | queue g | status g =>
      exact s.declines_view fun _ failed => viewSession_error (Except.error_of_map failed)
  | page g index => exact s.declines_view fun _ failed => queuePage_error failed
  | memberJoined | memberLeft | removeGuild | voteProgress | stats => exact s.declines_ok rfl

/-- A late ballot is not denied either. -/
theorem denial_of_late {α : Type} {q : Request α} (late : s.ComesLate q) {e : PlayerError}
    (failed : (s.handle q).1 = .error e) : e.isDenial = false := by
  cases q with
  | castVote g kind m b =>
      obtain ⟨v, lapsed⟩ := late
      rw [handle, castVote_of_lapsed lapsed] at failed
      cases failed
      rfl
  | _ => exact late.elim

/-- The command is a ballot that comes late. -/
def CommandsLate (s : Station) (i : Invocation) : Prop :=
  ∃ spec p, findCommand? i.name = some spec ∧ i.plan spec.action = .ok p ∧ s.ComesLate p.request

/-- A command is handled even if it is refused, unless it is denied; then nothing has happened. -/
theorem dispatch_declines (h : s.Sound) {i : Invocation} {e : PlayerError}
    (failed : (s.dispatch i).1 = .error e) (other : e.isLoad = false) :
    if e.isDenial then (s.dispatch i).2 = s
    else ¬ s.CommandsLate i → Untouched (s.count Metrics.commandHandled) (s.dispatch i).2 := by
  rcases s.dispatch_cases i with ⟨_, denied, same⟩ | ⟨_, same⟩ | ⟨spec, p, found, planned, same⟩
  · rw [same] at failed ⊢
    cases failed
    rw [if_pos denied]
  · rw [same] at failed ⊢
    cases failed
    exact fun _ => .refl _
  · rw [same] at failed ⊢
    have refused := Except.error_of_map failed
    by_cases late : s.ComesLate p.request
    · rw [if_neg (by simp [denial_of_late late refused])]
      exact fun early => absurd ⟨spec, p, found, planned, late⟩ early
    · obtain ⟨right, untouched⟩ := declines_handle h late e refused other
      rw [if_neg (by simp [right])]
      exact fun _ => untouched.count _

theorem OnTime.not_comesLate (early : s.OnTime) {α : Type} (q : Request α) : ¬ s.ComesLate q := by
  cases q with
  | castVote g kind m b =>
      rintro ⟨v, found, up⟩
      exact absurd (early ⟨g, kind⟩ v found) (Nat.not_lt.mpr up)
  | _ => exact id

theorem OnTime.not_commandsLate (early : s.OnTime) (i : Invocation) : ¬ s.CommandsLate i := by
  rintro ⟨_, p, _, _, late⟩
  exact early.not_comesLate p.request late

theorem OnTime.dispatch_declines (early : s.OnTime) (h : s.Sound) {i : Invocation} {e : PlayerError}
    (failed : (s.dispatch i).1 = .error e) (other : e.isLoad = false) :
    if e.isDenial then (s.dispatch i).2 = s
    else Untouched (s.count Metrics.commandHandled) (s.dispatch i).2 := by
  have refused := Station.dispatch_declines h failed other
  cases denied : e.isDenial with
  | true =>
      rw [denied, if_pos rfl] at refused
      exact refused
  | false =>
      rw [denied, if_neg Bool.false_ne_true] at refused
      exact refused (early.not_commandsLate i)

end Requests

/-- Over rows within bounds and an accepted configuration, in every state of a run in which everything
that is due happens at its moment: a request that fails for any other reason than that a track cannot be
loaded leaves the station untouched, and so does a command, which only counts as handled; a denied command
does not even that. Where the clock may run ahead of what is due there is one exception: a ballot that
comes late, in a request or in a command, times its vote out as the deadline was going to. -/
theorem refused_untouched {env : Config.Environment} {config : Config}
    (accepted : Config.ofEnvironment env = .ok config) {repository : Repository}
    (rows : repository.shelf.InBounds) (backend : Backend) {os : List Occurrence}
    (outside : ∀ o ∈ os, o.KeepsBounds) :
    let s := (create config repository backend).through os
    ((∀ o ∈ os, o.isLag = false) →
      (∀ {α : Type} (q : Request α) e, (s.handle q).1 = .error e → e.isLoad = false →
        e.isDenial = false ∧ Untouched s (s.handle q).2) ∧
      ∀ i e, (s.dispatch i).1 = .error e → e.isLoad = false →
        if e.isDenial then (s.dispatch i).2 = s
        else Untouched (s.count Metrics.commandHandled) (s.dispatch i).2) ∧
    (∀ {α : Type} (q : Request α) e, (s.handle q).1 = .error e → e.isLoad = false →
      ¬ s.ComesLate q → e.isDenial = false ∧ Untouched s (s.handle q).2) ∧
    (∀ i e, (s.dispatch i).1 = .error e → e.isLoad = false →
      if e.isDenial then (s.dispatch i).2 = s
      else ¬ s.CommandsLate i →
        Untouched (s.count Metrics.commandHandled) (s.dispatch i).2) ∧
    (∀ g kind v, s.desk.Lapsed s.now ⟨g, kind⟩ v → ∀ m b,
      s.handle (.castVote g kind m b) = (.error .noActiveVote, s.timedOut v)) ∧
    ((∀ o ∈ os, o.isLag = false) →
      (∀ {α : Type} (q : Request α), ¬ s.ComesLate q) ∧ ∀ i, ¬ s.CommandsLate i) := by
  intro s
  have created : (create config repository backend).Sound :=
    .create (Config.defaults_usable accepted) rows backend
  have sound : s.Sound := created.through outside
  have onTime (prompt : ∀ o ∈ os, o.isLag = false) : s.OnTime :=
    created.onTime_through nofun outside prompt
  refine ⟨fun prompt => ⟨fun q e failed other => ?_, fun i e failed other => ?_⟩,
    fun q e failed other early => declines_handle sound early e failed other,
    fun i e failed other => dispatch_declines sound failed other,
    fun g kind v lapsed m b => castVote_of_lapsed lapsed m b,
    fun prompt => ⟨fun q => (onTime prompt).not_comesLate q, (onTime prompt).not_commandsLate⟩⟩
  · exact declines_handle sound ((onTime prompt).not_comesLate q) e failed other
  · exact (onTime prompt).dispatch_declines sound failed other

/-- The guild allows one track to wait, and a second one comes. -/
theorem refused_untouched_of_full_queue :
    let g : GuildId := ⟨1⟩
    let os : List Occurrence :=
      [.act (.ask (.setSetting g .maxQueueSize (some (.number 1)))),
        .act (.ask (.enqueue g ⟨1⟩ ⟨"a"⟩ none)), .act (.ask (.enqueue g ⟨1⟩ ⟨"b"⟩ none))]
    let s := (create {} {} { nextHandle := ⟨1⟩ }).through os
    let q : Request Receipt := .enqueue g ⟨1⟩ ⟨"c"⟩ none
    Config.ofEnvironment (fun _ => none) = .ok {} ∧
      (s.handle q).1 = .error (QueueError.full 1).toPlayerError ∧ Untouched s (s.handle q).2 := by
  intro g os s q
  have accepted : Config.ofEnvironment (fun _ => none) = .ok {} := by decide
  have full : (s.handle q).1 = .error (QueueError.full 1).toPlayerError := by decide +kernel
  have outside : ∀ o ∈ os, o.KeepsBounds := by
    simp [os, Occurrence.KeepsBounds, StationAct.KeepsBounds]
  have prompt : ∀ o ∈ os, o.isLag = false := by decide
  have rows : ({} : Repository).shelf.InBounds := Shelf.inBounds_empty
  obtain ⟨onTime, _⟩ := refused_untouched accepted rows { nextHandle := ⟨1⟩ } outside
  obtain ⟨requests, _⟩ := onTime prompt
  exact ⟨accepted, full, (requests q _ full rfl).2⟩

end Station

end Jukebox
