import Jukebox.Proofs.Station.Mirrored

/-!
What is asked of a guild in two stations that have the same of it: it has the same answer in both, and
both have the same of the guild afterwards. That goes for every request and every command, for the
sweep, for the votes that time out, and for the action of a vote that has passed.
-/

namespace Jukebox

namespace Station

/-- The action of a passed vote does the same, whatever the vote's ticket. -/
theorem echoes_voteAction {ρ : Renumbering} (g : GuildId) {r r' : Resolution}
    (same : r'.unticketed = r.renumber ρ) : Echoes ρ g id (voteAction r) (voteAction r') := by
  intro b b' now session mirrors here
  have kind : r'.key.kind = r.key.kind := congrArg (fun r => r.key.kind) same
  have target : r'.target = r.target.map ρ.entry := congrArg (fun r => r.target) same
  unfold voteAction
  rw [kind]
  cases r.key.kind with
  | skip =>
      have skipped := Session.echoes_skip ρ g b b' now session mirrors here
      have about : (session.renumber ρ).currentId = r'.target ↔ session.currentId = r.target := by
        rw [Session.renumber_currentId, target]
        exact ρ.map_entry_inj
      have loaded : (session.renumber ρ).currentId.isSome = session.currentId.isSome := by
        rw [Session.renumber_currentId, Option.isSome_map]
      simp only [about, loaded]
      split
      · rw [skipped]
        refine Outcome.renumber_map (fun result => ?_) _
        cases result with
        | error | ok => rfl
      · rfl
  | stop =>
      have stopped := Session.echoes_stop ρ g b b' now session mirrors here
      dsimp only at stopped ⊢
      rw [stopped]
      rfl
  | clearQueue =>
      have cleared := Session.echoes_clearQueue ρ g b b' now session mirrors here
      dsimp only at cleared ⊢
      rw [cleared]
      rfl

/-- Where in a list the votes of all guilds are, the vote is that has a place among those of one. -/
def seat (g : GuildId) : List Resolution → Nat → Nat
  | [], _ => 0
  | r :: rest, place =>
    if r.key.guild = g then
      match place with
      | 0 => 0
      | place + 1 => seat g rest place + 1
    else seat g rest place + 1

theorem getElem?_seat (g : GuildId) (l : List Resolution) (place : Nat) :
    l[seat g l place]? = (l.filter fun r => r.key.guild = g)[place]? := by
  induction l generalizing place with
  | nil => rfl
  | cons r rest ih =>
      by_cases own : r.key.guild = g
      · cases place with
        | zero => simp [seat, own]
        | succ place => simp [seat, own, ih]
      · simp [seat, own, ih]

theorem filter_eraseIdx_seat (g : GuildId) (l : List Resolution) (place : Nat) :
    (l.eraseIdx (seat g l place)).filter (fun r => r.key.guild = g) =
      (l.filter fun r => r.key.guild = g).eraseIdx place := by
  induction l generalizing place with
  | nil => rfl
  | cons r rest ih =>
      by_cases own : r.key.guild = g
      · cases place with
        | zero => simp [seat, own]
        | succ place => simp [seat, own, ih]
      · simp [seat, own, ih]

/-- A request that names no guild is answered, and changes nothing. -/
theorem handle_unnamed (s : Station) {α : Type} {q : Request α} (unnamed : q.guild? = none) :
    ∃ a, s.handle q = (.ok a, s) := by
  cases q with
  | stats => exact ⟨s.metrics, rfl⟩
  | _ => cases unnamed

namespace Mirrors

variable {ρ : Renumbering} {g : GuildId} {start start' s s' : Station}
  (h : Mirrors ρ g start start' s s')

section Sessions

variable (grounded : s.registry.Grounded) (grounded' : s'.registry.Grounded)
include h

/-- Neither station has a session of the guild, or both have. -/
theorem slots :
    (s.registry.live.get? g = none ∧ s'.registry.live.get? g = none) ∨
      ∃ slot slot', s.registry.live.get? g = some slot ∧ s'.registry.live.get? g = some slot' ∧
        slot'.session = slot.session.renumber ρ := by
  have session := h.session
  unfold Station.session? Registry.session? at session
  cases found : s.registry.live.get? g with
  | none =>
      rw [found] at session
      exact .inl ⟨rfl, Option.map_eq_none_iff.mp session⟩
  | some slot =>
      rw [found] at session
      obtain ⟨slot', found', same⟩ := Option.map_eq_some_iff.mp session
      exact .inr ⟨slot, slot', rfl, found', same⟩

include grounded grounded'

theorem apply {α : Type} {slot slot' : Slot} (found : s.registry.live.get? g = some slot)
    (found' : s'.registry.live.get? g = some slot')
    (same : slot'.session = slot.session.renumber ρ)
    {f : Except PlayerError α → Except PlayerError α}
    {operation operation' : Backend → Nat → Session → Outcome (Except PlayerError α)}
    (echoes : Echoes ρ g f operation operation') :
    Answers ρ g start start' f (s.apply slot operation) (s'.apply slot' operation') := by
  obtain ⟨_, guild, _⟩ := grounded.fits g slot found
  have outcome : s'.outcomeIn slot' operation' = (s.outcomeIn slot operation).renumber ρ f := by
    rw [outcomeIn, outcomeIn, h.now, same]
    exact echoes _ _ _ _ h.backend guild
  have here := apply_session? grounded found operation
  have here' := apply_session? grounded' found' operation'
  have pending := apply_pending s slot operation grounded.keyed
  have pending' := apply_pending s' slot' operation' grounded'.keyed
  rw [outcome] at here' pending'
  refine ⟨?_, ?_⟩
  · rw [apply_eq, apply_eq, outcome]
    rfl
  · have votes : VoteDesk.Mirrors ρ g (s.apply slot operation).2.desk
        (s'.apply slot' operation').2.desk := by
      intro kind
      refine (h.votes kind).filter (pending ⟨g, kind⟩) (pending' ⟨g, kind⟩) fun _ _ => ?_
      rw [same]
      exact not_congr (and_congr_right fun _ => kind.moot_renumber ρ _ _)
    have session : (s'.apply slot' operation').2.session? g =
        ((s.apply slot operation).2.session? g).map (Session.renumber ρ) := by
      rw [here, here']
      rfl
    rw [apply_eq, apply_eq, outcome] at votes session ⊢
    exact
      { h with
        session, votes
        backend := h.backend.record _
        published := h.published.append _
        calls := h.calls.append _ }

/-- What does the same on a session does the same to the station. -/
theorem withSession {α : Type} {f : Except PlayerError α → Except PlayerError α}
    {operation operation' : Backend → Nat → Session → Outcome (Except PlayerError α)}
    (echoes : Echoes ρ g f operation operation')
    (missing : f (.error (.noSession g)) = .error (.noSession g)) :
    Answers ρ g start start' f (s.withSession g operation) (s'.withSession g operation') := by
  rcases h.slots with ⟨none_, none'⟩ | ⟨slot, slot', found, found', same⟩
  · rw [Station.withSession, Station.withSession, none_, none']
    exact ⟨missing.symm, h⟩
  · rw [withSession_of_found found, withSession_of_found found']
    exact h.apply grounded grounded' found found' same echoes

omit h grounded grounded' in
/-- A session made for the guild is made in both. -/
theorem prepared (h : Mirrors ρ g start start' s s') {settings settings' : SettingsCache}
    (agree : SettingsCache.Agree g settings settings') :
    Mirrors ρ g start start' (s.prepared g settings) (s'.prepared g settings') := by
  obtain ⟨made, pending, backend⟩ := s.registry.getOrCreate_parts s.now g
  obtain ⟨made', pending', backend'⟩ := s'.registry.getOrCreate_parts s'.now g
  have session : (s'.prepared g settings').session? g =
      ((s.prepared g settings).session? g).map (Session.renumber ρ) := by
    have same : s'.registry.session? g = (s.registry.session? g).map (Session.renumber ρ) := h.session
    refine made'.trans ?_
    rw [same, h.now]
    refine Eq.trans ?_ (congrArg _ made).symm
    cases s.registry.session? g with
    | none | some => rfl
  have votes : VoteDesk.Mirrors ρ g (s.prepared g settings).desk (s'.prepared g settings').desk := by
    intro kind
    have there : SameVote ρ (s.registry.desk.pending.get? ⟨g, kind⟩)
      (s'.registry.desk.pending.get? ⟨g, kind⟩) := h.votes kind
    rw [← pending, ← pending'] at there
    exact there
  have backends : Backend.Mirrors ρ g (s.prepared g settings).registry.backend
      (s'.prepared g settings').registry.backend := by
    have there := h.backend
    rw [← backend, ← backend'] at there
    exact there
  have calls := h.calls
  rw [← backend, ← backend'] at calls
  have nextEntry : s'.nextEntry.next = ρ.entry s.nextEntry.next := by
    rw [h.nextEntry, ρ.entry_next]
  exact { h with session, votes, backend := backends, settings := agree, nextEntry, calls }

theorem enqueue (m : MemberId) (track : TrackRef) (metadata : Option TrackMetadata) :
    Answers ρ g start start' (Except.map (Receipt.renumber ρ)) (s.enqueue g m track metadata)
      (s'.enqueue g m track metadata) := by
  obtain ⟨same, agree⟩ := h.settings.effective
  obtain ⟨read, first, second⟩ := exists_of_fst_eq same
  generalize (s.settings.effective g).2 = settings at first agree
  generalize (s'.settings.effective g).2 = settings' at second agree
  unfold Station.enqueue
  rw [first, second]
  cases read with
  | error e => exact ⟨rfl, { h with settings := agree }⟩
  | ok effective =>
      let e : Entry := ⟨s.nextEntry, m, track, metadata.getD (.unresolved track)⟩
      have added : (⟨s'.nextEntry, m, track, metadata.getD (.unresolved track)⟩ : Entry) =
          e.renumber ρ := by
        rw [h.nextEntry]
        rfl
      obtain ⟨sound, found⟩ := prepared_grounded grounded g settings
      obtain ⟨sound', found'⟩ := prepared_grounded grounded' g settings'
      have ready := h.prepared agree
      have session := ready.session
      rw [session?_of_found found, session?_of_found found'] at session
      have done := ready.apply sound sound' found found' (Option.some.inj session)
        (Session.echoes_enqueue ρ g e effective.maxQueueSize)
      rw [← added] at done
      have told (r : Except PlayerError Enqueued) :
          (r.map fun outcome => (⟨s'.nextEntry, outcome⟩ : Receipt)) =
            (r.map fun outcome => (⟨s.nextEntry, outcome⟩ : Receipt)).map (Receipt.renumber ρ) := by
        rw [h.nextEntry]
        cases r with
        | error | ok => rfl
      exact ⟨(congrArg (Except.map _) done.result).trans (told _), done.station⟩

omit h grounded grounded' in
theorem voteTarget_renumber (ρ : Renumbering) (kind : VoteKind) (session : Session) :
    voteTarget kind (session.renumber ρ) = (voteTarget kind session).map (Option.map ρ.entry) := by
  have waiting : (session.renumber ρ).queue.isEmpty = session.queue.isEmpty :=
    session.queue.renumber_isEmpty ρ
  cases kind with
  | skip =>
      unfold voteTarget Session.renumber
      cases session.current with
      | none | some => rfl
  | stop =>
      simp only [voteTarget, waiting, Session.renumber_isIdle]
      split
      · rfl
      · rfl
  | clearQueue =>
      simp only [voteTarget, waiting]
      split
      · rfl
      · rfl

omit grounded grounded' in
theorem viewSession : s'.viewSession g = (s.viewSession g).map (Session.renumber ρ) := by
  unfold Station.viewSession
  rw [h.session]
  cases s.session? g with
  | none | some => rfl

omit grounded grounded' in
/-- The same votes of the guild are resolved, so the same pass. -/
theorem withDesk {β : Type} {o o' : DeskOutcome β} (same : o.Mirrors ρ g o') :
    Mirrors ρ g start start' (s.withDesk o.desk o.resolved) (s'.withDesk o'.desk o'.resolved) := by
  have own : ∀ (x : Station) (desk : VoteDesk) (resolved : List Resolution),
      (x.withDesk desk resolved).passedIn g =
        x.passedIn g ++ (resolved.filter fun r => r.progress.outcome.isPassed).filter
          fun r => r.key.guild = g := fun x desk resolved => List.filter_append ..
  have kept (p : Resolution → Bool) (marked : ∀ r, p r.unticketed = p r)
      (moved : ∀ r, p (r.renumber ρ) = p r) {l l' : List Resolution}
      (same : l'.map Resolution.unticketed = l.map (Resolution.renumber ρ)) :
      (l'.filter p).map Resolution.unticketed = (l.filter p).map (Resolution.renumber ρ) := by
    have first : p ∘ Resolution.unticketed = p := funext marked
    have second : p ∘ Resolution.renumber ρ = p := funext moved
    calc (l'.filter p).map Resolution.unticketed
        = (l'.map Resolution.unticketed).filter p := by rw [List.filter_map, first]
      _ = (l.map (Resolution.renumber ρ)).filter p := by rw [same]
      _ = (l.filter p).map (Resolution.renumber ρ) := by rw [List.filter_map, second]
  have passed := kept (fun r => r.key.guild = g) (fun _ => rfl) (fun _ => rfl)
    (kept (fun r => r.progress.outcome.isPassed) (fun _ => rfl) (fun _ => rfl) same.resolved)
  exact
    { h with
      votes := same.desk
      passed := by rw [own, own, List.map_append, List.map_append, h.passed, passed] }

omit grounded grounded' in
theorem startVote (kind : VoteKind) (m : MemberId) :
    Answers ρ g start start' id (s.startVote g kind m) (s'.startVote g kind m) := by
  obtain ⟨same, agree⟩ := h.settings.effective
  obtain ⟨read, first, second⟩ := exists_of_fst_eq same
  generalize (s.settings.effective g).2 = settings at first agree
  generalize (s'.settings.effective g).2 = settings' at second agree
  unfold Station.startVote
  rw [first, second]
  cases read with
  | error e => exact ⟨rfl, { h with settings := agree }⟩
  | ok effective =>
      have ready : Mirrors ρ g start start' { s with settings } { s' with settings := settings' } :=
        { h with settings := agree }
      have about : ({ s' with settings := settings' }.viewSession g).bind (voteTarget kind) =
          (({ s with settings }.viewSession g).bind (voteTarget kind)).map (Option.map ρ.entry) := by
        rw [ready.viewSession]
        cases { s with settings }.viewSession g with
        | error e => rfl
        | ok session => exact voteTarget_renumber ρ kind session
      dsimp only
      rw [about]
      cases ({ s with settings }.viewSession g).bind (voteTarget kind) with
      | error e => exact ⟨rfl, ready⟩
      | ok target =>
          let asked (listeners : MemberSet) (target : Option EntryId) : VoteRequest :=
            { guild := g
              kind
              initiator := m
              eligible := listeners
              ratio := effective.skipRatio
              timeout := effective.voteTimeoutSecs * 1000
              selfVote := effective.selfVote
              target }
          have started : (s.desk.start s.now (asked (s.presence.listeners g) target)).Mirrors ρ g
              (s'.desk.start s'.now (asked (s'.presence.listeners g) (target.map ρ.entry))) := by
            rw [h.now, h.presence.listeners]
            exact h.votes.start s.now rfl
          exact ⟨started.result, ready.withDesk started⟩

omit grounded grounded' in
theorem castVote (kind : VoteKind) (m : MemberId) (b : Ballot) :
    Answers ρ g start start' id (s.castVote g kind m b) (s'.castVote g kind m b) := by
  have counted := h.votes.cast s.now kind m b
  unfold Station.castVote
  rw [h.now]
  exact ⟨counted.result, h.withDesk counted⟩

omit grounded grounded' in
theorem cancelVote (kind : VoteKind) :
    Answers ρ g start start' id (s.cancelVote g kind) (s'.cancelVote g kind) := by
  have cancelled := h.votes.cancel kind
  refine ⟨?_, h.withDesk cancelled⟩
  unfold Station.cancelVote
  dsimp only
  rw [cancelled.result]
  rfl

theorem tearDown {slot slot' : Slot} (found : s.registry.live.get? g = some slot)
    (found' : s'.registry.live.get? g = some slot')
    (same : slot'.session = slot.session.renumber ρ) :
    Mirrors ρ g start start' { s with registry := s.registry.tearDown slot }
      { s' with registry := s'.registry.tearDown slot' } := by
  obtain ⟨ref, guild, _⟩ := grounded.fits g slot found
  obtain ⟨ref', _, _⟩ := grounded'.fits g slot' found'
  have released : slot'.session.release = slot.session.release.renumber ρ id := by
    rw [same]
    exact Session.echoes_release ρ g _ _ s.now slot.session h.backend guild
  have gone (r : Registry) {slot : Slot} (ref : slot.ref.guild = g) :
      (r.tearDown slot).session? g = none := by
    rw [← ref]
    exact congrArg (Option.map Slot.session) (Table.get?_erase_self _ _)
  have cancelled (r : Registry) {slot : Slot} (ref : slot.ref.guild = g) :
      (r.tearDown slot).desk.pending = (r.desk.cancelAll g).desk.pending := by
    rw [← ref]
    rfl
  have told (r : Registry) (slot : Slot) :
      (r.tearDown slot).backend = r.backend.record slot.session.release.signals.calls := rfl
  have session : (s'.registry.tearDown slot').session? g =
      ((s.registry.tearDown slot).session? g).map (Session.renumber ρ) := by
    rw [gone s.registry ref, gone s'.registry ref']
    rfl
  have votes : VoteDesk.Mirrors ρ g (s.registry.tearDown slot).desk
      (s'.registry.tearDown slot').desk := by
    intro kind
    rw [cancelled s.registry ref, cancelled s'.registry ref']
    exact h.votes.cancelAll grounded.keyed grounded'.keyed kind
  have backend : Backend.Mirrors ρ g (s.registry.tearDown slot).backend
      (s'.registry.tearDown slot').backend := by
    rw [told, told, released]
    exact h.backend.record _
  have calls : Alongside (Call.renumber ρ) start.registry.backend.calls start'.registry.backend.calls
      (s.registry.tearDown slot).backend.calls (s'.registry.tearDown slot').backend.calls := by
    rw [told, told, released]
    exact h.calls.append _
  exact { h with session, votes, backend, calls }

/-- The guild's session is given up in both, if there is one. -/
theorem evict :
    Answers ρ g start start' id
      ((s.registry.evict g).1, { s with registry := (s.registry.evict g).2 })
      ((s'.registry.evict g).1, { s' with registry := (s'.registry.evict g).2 }) := by
  unfold Registry.evict
  rcases h.slots with ⟨none_, none'⟩ | ⟨slot, slot', found, found', same⟩
  · rw [none_, none']
    exact ⟨rfl, h⟩
  · rw [found, found']
    exact ⟨rfl, h.tearDown grounded grounded' found found' same⟩

theorem evictIfIdle (threshold : Nat) :
    Answers ρ g start start' id
      ((s.registry.evictIfIdle s.now g threshold).1,
        { s with registry := (s.registry.evictIfIdle s.now g threshold).2 })
      ((s'.registry.evictIfIdle s'.now g threshold).1,
        { s' with registry := (s'.registry.evictIfIdle s'.now g threshold).2 }) := by
  unfold Registry.evictIfIdle
  rcases h.slots with ⟨none_, none'⟩ | ⟨slot, slot', found, found', same⟩
  · rw [none_, none']
    exact ⟨rfl, h⟩
  · have idle : s'.registry.isIdleFor s'.now slot' threshold =
        s.registry.isIdleFor s.now slot threshold := by
      have pending : s'.registry.desk.hasPending g = s.registry.desk.hasPending g :=
        h.votes.hasPending
      unfold Registry.isIdleFor
      rw [same, h.now, (grounded.fits g slot found).ref, (grounded'.fits g slot' found').ref, pending]
      rfl
    rw [found, found']
    dsimp only
    rw [idle]
    cases s.registry.isIdleFor s.now slot threshold with
    | true => exact ⟨rfl, h.tearDown grounded grounded' found found' same⟩
    | false => exact ⟨rfl, h⟩

theorem removeGuild : Answers ρ g start start' id (s.removeGuild g) (s'.removeGuild g) := by
  obtain ⟨same, gone⟩ := h.evict grounded grounded'
  exact ⟨same, { gone with
    presence := .forget_both
    settings := h.settings.invalidate }⟩

theorem sweepGuild : Answers ρ g start start' id (s.sweepGuild g) (s'.sweepGuild g) := by
  have windows : s'.settings.cachedEffective g = s.settings.cachedEffective g :=
    h.settings.cachedEffective
  have alone : s'.isAbandoned g = s.isAbandoned g := by
    unfold Station.isAbandoned Presence.aloneFor
    rw [h.presence.alone, h.now, windows]
  unfold Station.sweepGuild
  rw [alone]
  cases s.isAbandoned g with
  | true =>
      obtain ⟨same, gone⟩ := h.evict grounded grounded'
      exact ⟨same, { gone with presence := h.presence.clearAlone_both }⟩
  | false =>
      rw [windows]
      exact h.evictIfIdle grounded grounded' _

omit grounded grounded' in
theorem queueOf : s'.queueOf g = (s.queueOf g).map (List.map (Entry.renumber ρ)) := by
  unfold Station.queueOf
  rw [h.viewSession]
  cases s.viewSession g with
  | error | ok => rfl

omit grounded grounded' in
theorem statusOf : s'.statusOf g = (s.statusOf g).map (SessionStatus.renumber ρ) := by
  unfold Station.statusOf
  rw [h.viewSession]
  cases s.viewSession g with
  | error e => rfl
  | ok session =>
      have waiting : (session.renumber ρ).queue.length = session.queue.length :=
        session.queue.renumber_length ρ
      simp only [Except.map, waiting]
      rfl

omit grounded grounded' in
theorem queuePage (index : Nat) :
    s'.queuePage g index = (s.queuePage g index).map (Option.map (QueuePage.renumber ρ)) := by
  unfold Station.queuePage
  rw [h.viewSession]
  cases s.viewSession g with
  | error e => rfl
  | ok session =>
      have total : (session.renumber ρ).queue.totalDuration? = session.queue.totalDuration? :=
        session.queue.renumber_totalDuration? ρ
      have length : (session.renumber ρ).queue.length = session.queue.length :=
        session.queue.renumber_length ρ
      have pages : (session.renumber ρ).queue.pageCount s'.pageSize =
          session.queue.pageCount s.pageSize := by
        rw [Queue.pageCount, Queue.pageCount, length, h.pageSize]
      have page : (session.renumber ρ).queue.page index s'.pageSize =
          (session.queue.page index s.pageSize).map fun placed => (placed.1, placed.2.renumber ρ) := by
        rw [h.pageSize]
        exact session.queue.renumber_page ρ index s.pageSize
      simp only [Except.map, total]
      cases session.queue.totalDuration? with
      | none => rfl
      | some secs =>
          simp only [pages, page, length]
          split
          · rfl
          · rfl

/-- A request about the guild has the same answer, and the guild stays the same in both. -/
theorem handle {α : Type} {q : Request α} (named : q.guild? = some g) :
    Answers ρ g start start' (Except.map (q.renumber ρ)) (s.handle q) (s'.handle q) := by
  have works {α : Type}
      {operation operation' : Backend → Nat → Session → Outcome (Except PlayerError α)}
      (echoes : Echoes ρ g id operation operation') :
      Answers ρ g start start' (Except.map id) (s.withSession g operation)
        (s'.withSession g operation') :=
    (h.withSession grounded grounded' echoes rfl).map_id
  cases q with
  | memberJoined _ m =>
      cases named
      exact ⟨rfl, { h with presence := h.presence.joined_both m }⟩
  | memberLeft _ m =>
      cases named
      have left : Presence.SameIn g (s.presence.left s.now g m).2 (s'.presence.left s'.now g m).2 := by
        rw [h.now]
        exact h.presence.left_both s.now m
      exact ⟨rfl, { h with presence := left }⟩
  | trackStarted =>
      cases named
      exact works (Session.echoes_trackStarted ρ g).accepted
  | trackFinished =>
      cases named
      exact works (Session.echoes_trackFinished ρ g).accepted
  | trackFailed _ reason =>
      cases named
      exact works (Session.echoes_trackFailed ρ g reason).accepted
  | removeGuild =>
      cases named
      obtain ⟨same, gone⟩ := h.removeGuild grounded grounded'
      exact ⟨congrArg Except.ok same, gone⟩
  | enqueue _ m track metadata =>
      cases named
      exact h.enqueue grounded grounded' m track metadata
  | skip =>
      cases named
      exact h.withSession grounded grounded' (Session.echoes_skip ρ g) rfl
  | stop =>
      cases named
      exact works (Session.echoes_stop ρ g).accepted
  | clearQueue =>
      cases named
      exact works (Session.echoes_clearQueue ρ g).accepted
  | pause =>
      cases named
      exact works (Session.echoes_pause ρ g)
  | resume =>
      cases named
      exact works (Session.echoes_resume ρ g)
  | setRepeat _ mode =>
      cases named
      exact works (Session.echoes_setRepeat ρ g mode).accepted
  | removeAt _ position =>
      cases named
      exact h.withSession grounded grounded' (Session.echoes_removeAt ρ g position) rfl
  | removeByRequester _ m =>
      cases named
      exact h.withSession grounded grounded' (Session.echoes_removeByRequester ρ g m) rfl
  | swap _ x y =>
      cases named
      exact works (Session.echoes_swap ρ g x y)
  | move _ source target =>
      cases named
      exact works (Session.echoes_move ρ g source target)
  | shuffle =>
      cases named
      exact works (Session.echoes_shuffle ρ g h.arrangement)
  | queue =>
      cases named
      exact ⟨h.queueOf, h⟩
  | status =>
      cases named
      exact ⟨h.statusOf, h⟩
  | page _ index =>
      cases named
      exact ⟨h.queuePage index, h⟩
  | startVote _ kind m =>
      cases named
      exact (h.startVote kind m).map_id
  | castVote _ kind m b =>
      cases named
      exact (h.castVote kind m b).map_id
  | cancelVote _ kind =>
      cases named
      exact (h.cancelVote kind).map_id
  | voteProgress _ kind =>
      cases named
      exact ⟨congrArg Except.ok (h.votes.progress? kind), h⟩
  | setSetting _ k v =>
      cases named
      obtain ⟨same, agree⟩ := h.settings.set k v
      exact Answers.map_id ⟨same, { h with settings := agree }⟩
  | setSkipRatio _ ratio =>
      cases named
      obtain ⟨same, agree⟩ := h.settings.set .skipRatio (ratio.map fun n => .number n.toUInt32)
      exact Answers.map_id ⟨same, { h with settings := agree }⟩
  | settings =>
      cases named
      obtain ⟨same, agree⟩ := h.settings.snapshot
      exact Answers.map_id ⟨same, { h with settings := agree }⟩
  | stats => cases named

/-- A command given in the guild has the same reply, but for the counters. -/
theorem dispatch {i : Invocation} (here : i.guild = g) :
    (s'.dispatch i).1.map CommandReply.uncounted = (s.dispatch i).1.map (CommandReply.renumber ρ) ∧
      Mirrors ρ g start start' (s.dispatch i).2 (s'.dispatch i).2 := by
  unfold Station.dispatch
  cases findCommand? i.name with
  | none => exact ⟨rfl, h⟩
  | some spec =>
      dsimp only
      split
      · unfold perform
        cases plan : i.plan spec.action with
        | error e => exact ⟨rfl, { h with }⟩
        | ok p =>
            rcases Invocation.renumber_of_plans ρ (i.plans_plan spec.action p plan) with
              ⟨named, told⟩ | ⟨unnamed, told⟩
            · rw [here] at named
              obtain ⟨result, same⟩ := h.handle grounded grounded' named
              refine ⟨?_, { same with }⟩
              unfold carryOut
              dsimp only
              rw [result]
              cases (s.handle p.request).1 with
              | error e => rfl
              | ok a => exact congrArg Except.ok (told a)
            · obtain ⟨a, asked⟩ := s.handle_unnamed unnamed
              obtain ⟨a', asked'⟩ := s'.handle_unnamed unnamed
              unfold carryOut
              dsimp only
              rw [asked, asked']
              exact ⟨congrArg Except.ok (told a' a), { h with }⟩
      · exact ⟨rfl, h⟩

theorem applyVote {r r' : Resolution} (own : r.key.guild = g)
    (same : r'.unticketed = r.renumber ρ) :
    Mirrors ρ g start start' (s.applyVote r) (s'.applyVote r') := by
  have own' : r'.key.guild = g := by
    rw [← own]
    exact congrArg (fun r => r.key.guild) same
  unfold Station.applyVote
  rw [own, own']
  exact (h.withSession grounded grounded' (echoes_voteAction g same) rfl).station

/-- The action of the vote that stands at one place among the passed votes of the guild runs. -/
theorem applyAt (place : Nat) :
    Mirrors ρ g start start' (s.applyAt (seat g s.inFlight place))
      (s'.applyAt (seat g s'.inFlight place)) := by
  have there := congrArg (fun l => l[place]?) h.passed
  simp only [List.getElem?_map] at there
  have seated (x : Station) : x.inFlight[seat g x.inFlight place]? = (x.passedIn g)[place]? :=
    getElem?_seat g x.inFlight place
  unfold Station.applyAt
  rw [seated, seated]
  cases found : (s.passedIn g)[place]? with
  | none =>
      rw [found] at there
      rw [Option.map_eq_none_iff.mp there]
      exact h
  | some r =>
      rw [found] at there
      obtain ⟨r', found', same⟩ := Option.map_eq_some_iff.mp there
      rw [found']
      have own : r.key.guild = g := by
        have member := List.mem_filter.mp (List.mem_of_getElem? found)
        simpa using member.2
      have passed : ((s'.inFlight.eraseIdx (seat g s'.inFlight place)).filter
          fun r => r.key.guild = g).map Resolution.unticketed =
          ((s.inFlight.eraseIdx (seat g s.inFlight place)).filter
            fun r => r.key.guild = g).map (Resolution.renumber ρ) := by
        rw [filter_eraseIdx_seat, filter_eraseIdx_seat, ← List.eraseIdx_map, ← List.eraseIdx_map]
        exact congrArg (fun l => l.eraseIdx place) h.passed
      have taken : Mirrors ρ g start start'
          { s with inFlight := s.inFlight.eraseIdx (seat g s.inFlight place) }
          { s' with inFlight := s'.inFlight.eraseIdx (seat g s'.inFlight place) } :=
        { h with passed }
      exact taken.applyVote grounded grounded' own same

/-- Votes that time out leave nothing in flight. -/
theorem expireVotes : Mirrors ρ g start start' s.expireVotes s'.expireVotes := by
  have quiet (x : Station) : x.expireVotes.passedIn g = x.passedIn g := by
    have unpassed : (x.desk.expire x.now).2.filter (fun r => r.progress.outcome.isPassed) = [] := by
      apply List.filter_eq_nil_iff.mpr
      intro r member
      rw [VoteDesk.timeOut_outcome member]
      decide
    unfold Station.expireVotes passedIn Station.withDesk
    dsimp only
    rw [unpassed, List.append_nil]
  have votes : VoteDesk.Mirrors ρ g s.expireVotes.desk s'.expireVotes.desk := by
    change VoteDesk.Mirrors ρ g (s.desk.expire s.now).1 (s'.desk.expire s'.now).1
    rw [h.now]
    exact h.votes.expire grounded.keyed grounded'.keyed s.now
  have passed := h.passed
  rw [← quiet s, ← quiet s'] at passed
  exact { h with votes, passed }

end Sessions

end Mirrors

end Station

end Jukebox
