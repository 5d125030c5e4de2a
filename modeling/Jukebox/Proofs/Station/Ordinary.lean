import Jukebox.Proofs.Session.Others
import Jukebox.Proofs.Station.Confined

/-!
What a member can do who is neither a DJ nor a manager. The table of commands leaves such a member the
tracks of one's own, the pause, the repeat mode and the votes; so unless a vote passes, what plays goes
on playing and what others have asked for stays in line.
-/

namespace Jukebox

namespace Action

/-- Every member may take it. -/
def isOpen : Action → Bool
  | play | pause | resume | nowPlaying | queue | setRepeat | removeMine | voteSkip | voteStop
  | voteClear | voteYes | voteNo => true
  | _ => false

/-- It opens a vote or casts a ballot. -/
def isVote : Action → Bool
  | voteSkip | voteStop | voteClear | voteYes | voteNo => true
  | _ => false

end Action

theorem isOpen_of_anyone :
    ∀ spec ∈ commands, spec.permission = .anyone → spec.action.isOpen = true := by
  decide

theorem dj_of_voteCancel : ∀ spec ∈ commands, spec.action = .voteCancel → spec.permission = .dj := by
  decide

theorem Permission.anyone_of_allows {p : Permission} {roles : MemberRoles} (dj : roles.dj = false)
    (manager : roles.manager = false) (allowed : p.allows roles = true) : p = .anyone := by
  cases p with
  | anyone => rfl
  | dj | manager => simp [allows, dj, manager] at allowed

namespace Station

/-- The session of a guild keeps what is loaded and what others than the member have asked for; one
that is new holds nothing that others have asked for. -/
structure SparesOthers (m : MemberId) (g : GuildId) (s s' : Station) : Prop where
  kept : ∀ session, s.session? g = some session →
    ∃ session', s'.session? g = some session' ∧ session.Spares m session'
  made : s.session? g = none → ∀ session', s'.session? g = some session' →
    session'.queue.others m = []

namespace SparesOthers

variable {m : MemberId} {g : GuildId} {s s' : Station}

theorem of_same (same : s'.session? g = s.session? g) : SparesOthers m g s s' where
  kept session there := ⟨session, same.trans there, .refl session⟩
  made absent session' there := by
    rw [same, absent] at there
    cases there

theorem trans {t : Station} (first : SparesOthers m g s s') (later : SparesOthers m g s' t) :
    SparesOthers m g s t where
  kept session there := by
    obtain ⟨session', between, spares⟩ := first.kept session there
    obtain ⟨session'', there', spares'⟩ := later.kept session' between
    exact ⟨session'', there', fun e loaded => spares'.current e (spares.current e loaded),
      spares'.others.trans spares.others⟩
  made absent session'' there := by
    cases between : s'.session? g with
    | none => exact later.made between session'' there
    | some session' =>
        obtain ⟨found, there', spares⟩ := later.kept session' between
        rw [there] at there'
        cases there'
        rw [spares.others]
        exact first.made absent session' between

section Sessions

variable (grounded : s.registry.Grounded)
include grounded

theorem apply {slot : Slot} (found : s.registry.live.get? g = some slot) {α : Type}
    {operation : Backend → Nat → Session → Outcome (Except PlayerError α)}
    (spares : slot.session.Spares m (s.outcomeIn slot operation).session) :
    SparesOthers m g s (s.apply slot operation).2 := by
  have before := session?_of_found found
  have after := apply_session? grounded found operation
  constructor
  · intro session there
    rw [before] at there
    cases there
    exact ⟨_, after, spares⟩
  · intro absent
    rw [before] at absent
    cases absent

theorem withSession {α : Type} {operation : Backend → Nat → Session → Outcome (Except PlayerError α)}
    (spares : ∀ b now (session : Session), session.Spares m (operation b now session).session) :
    SparesOthers m g s (s.withSession g operation).2 := by
  cases found : s.registry.live.get? g with
  | none =>
      rw [Station.withSession, found]
      exact .of_same rfl
  | some slot =>
      rw [withSession_of_found found]
      exact apply grounded found (spares _ _ _)

omit grounded in
theorem prepared (settings : SettingsCache) : SparesOthers m g s (s.prepared g settings) := by
  cases found : s.registry.live.get? g with
  | some slot =>
      apply of_same
      change (s.registry.getOrCreate s.now g).2.session? g = s.registry.session? g
      rw [Registry.getOrCreate, found]
  | none =>
      have absent : s.session? g = none := by
        rw [session?, Registry.session?, found]
        rfl
      have after : (s.prepared g settings).session? g = some (.create g s.now) := by
        change (s.registry.getOrCreate s.now g).2.session? g = _
        rw [Registry.getOrCreate, found, Registry.session?]
        dsimp only [Registry.count]
        rw [Table.get?_insert_self]
        rfl
      constructor
      · intro session there
        rw [absent] at there
        cases there
      · intro _ session' there
        rw [after] at there
        cases there
        rfl

end Sessions

end SparesOthers

section Requests

variable {s : Station} (grounded : s.registry.Grounded)
include grounded

theorem enqueue_spares (g : GuildId) (m : MemberId) (track : TrackRef)
    (metadata : Option TrackMetadata) : SparesOthers m g s (s.enqueue g m track metadata).2 := by
  unfold enqueue
  split
  · exact .of_same rfl
  · next effective settings _ =>
      obtain ⟨grounded', found⟩ := prepared_grounded grounded g settings
      have coherent := (grounded'.fits g _ found).coherent
      let e : Entry := ⟨s.nextEntry, m, track, metadata.getD (.unresolved track)⟩
      have own : e.requester = m := rfl
      apply (SparesOthers.prepared settings).trans
      exact .apply grounded' found (Session.enqueue_spares coherent own effective.maxQueueSize _ _)

/-- A member's part in a vote passes it, or does nothing to any session. -/
theorem step_spares (key : VoteKey) (step : VoteStep) (m : MemberId) (g : GuildId) :
    (∃ r, (s.handle (step.request key)).1 = .ok r ∧ r.outcome = .passed) ∨
    ((s.handle (step.request key)).2.inFlight = s.inFlight ∧
      SparesOthers m g s (s.handle (step.request key)).2) := by
  obtain ⟨settings, o, judged, result, same, _, _⟩ := handle_step grounded key step
  cases judged with
  | passes passed => exact .inl ⟨_, result, passed⟩
  | rests _ unpassed =>
      refine .inr ⟨?_, .of_same (by rw [same]; rfl)⟩
      have none : o.resolved.filter (fun r => r.progress.outcome.isPassed) = [] := by
        apply List.filter_eq_nil_iff.mpr
        intro r member isPassed
        exact unpassed r member (by simpa [VoteOutcome.isPassed] using isPassed)
      rw [same, withDesk, none, List.append_nil]

end Requests

theorem withSession_inFlight {α : Type} (s : Station) (g : GuildId)
    (operation : Backend → Nat → Session → Outcome (Except PlayerError α)) :
    (s.withSession g operation).2.inFlight = s.inFlight := by
  unfold withSession
  split
  · rfl
  · rw [apply_eq]

theorem enqueue_inFlight (s : Station) (g : GuildId) (m : MemberId) (track : TrackRef)
    (metadata : Option TrackMetadata) : (s.enqueue g m track metadata).2.inFlight = s.inFlight := by
  rcases s.enqueue_cases g m track metadata with ⟨_, _, same⟩ | ⟨_, _, _, _, same⟩
  · rw [same]
  · rw [same, apply_eq]
    rfl

/-- Whatever a member may ask for passes a vote, or leaves nothing in flight and spares the others. -/
theorem open_spares {s : Station} (grounded : s.registry.Grounded) {i : Invocation} {a : Action}
    {p : Plan a.Answer} (plans : i.Plans a p) (isOpen : a.isOpen = true) :
    (a.isVote = true ∧ ∃ r, (s.handle p.request).1.map p.reply = .ok (.vote r) ∧
      r.outcome = .passed) ∨
    ((s.handle p.request).2.inFlight = s.inFlight ∧
      SparesOthers i.member i.guild s (s.handle p.request).2) := by
  have voted (key : VoteKey) (step : VoteStep) :
      (true = true ∧ ∃ r, (s.handle (step.request key)).1.map CommandReply.vote = .ok (.vote r) ∧
        r.outcome = .passed) ∨
      ((s.handle (step.request key)).2.inFlight = s.inFlight ∧
        SparesOthers i.member i.guild s (s.handle (step.request key)).2) := by
    rcases step_spares grounded key step i.member i.guild with ⟨r, result, passed⟩ | spared
    · refine .inl ⟨rfl, r, ?_, passed⟩
      rw [result]
      rfl
    · exact .inr spared
  cases a with
  | play =>
      obtain ⟨track, metadata, rfl⟩ := plans
      exact .inr ⟨s.enqueue_inFlight _ _ _ _, enqueue_spares grounded _ _ _ _⟩
  | pause =>
      subst plans
      exact .inr ⟨s.withSession_inFlight _ _, .withSession grounded fun _ => Session.pause_spares⟩
  | resume =>
      subst plans
      exact .inr ⟨s.withSession_inFlight _ _, .withSession grounded fun _ => Session.resume_spares⟩
  | setRepeat =>
      obtain ⟨mode, rfl⟩ := plans
      exact .inr ⟨s.withSession_inFlight _ _,
        .withSession grounded fun _ => Session.setRepeat_spares mode⟩
  | removeMine =>
      subst plans
      exact .inr ⟨s.withSession_inFlight _ _,
        .withSession grounded fun _ => Session.removeByRequester_spares⟩
  | nowPlaying =>
      subst plans
      exact .inr ⟨rfl, .of_same rfl⟩
  | queue =>
      obtain ⟨index, rfl⟩ := plans
      exact .inr ⟨rfl, .of_same rfl⟩
  | voteSkip =>
      subst plans
      exact voted ⟨i.guild, .skip⟩ (.opens i.member)
  | voteStop =>
      subst plans
      exact voted ⟨i.guild, .stop⟩ (.opens i.member)
  | voteClear =>
      subst plans
      exact voted ⟨i.guild, .clearQueue⟩ (.opens i.member)
  | voteYes =>
      obtain ⟨kind, rfl⟩ := plans
      exact voted ⟨i.guild, kind⟩ (.casts i.member .yes)
  | voteNo =>
      obtain ⟨kind, rfl⟩ := plans
      exact voted ⟨i.guild, kind⟩ (.casts i.member .no)
  | skip | stop | clearQueue | remove | move | swap | shuffle | voteCancel | showSettings | setSetting
  | resetSetting | setSkipRatio | stats => cases isOpen

theorem open_asks {i : Invocation} {a : Action} {p : Plan a.Answer} (plans : i.Plans a p)
    (isOpen : a.isOpen = true) :
    p.request.asks = [] ∨ p.request.asks = [.snapshot i.guild] := by
  cases a with
  | play =>
      obtain ⟨track, metadata, rfl⟩ := plans
      exact .inr rfl
  | voteSkip | voteStop | voteClear =>
      subst plans
      exact .inr rfl
  | pause | resume | removeMine | nowPlaying =>
      subst plans
      exact .inl rfl
  | queue | setRepeat | voteYes | voteNo =>
      obtain ⟨_, rfl⟩ := plans
      exact .inl rfl
  | skip | stop | clearQueue | remove | move | swap | shuffle | voteCancel | showSettings | setSetting
  | resetSetting | setSkipRatio | stats => cases isOpen

/-- Whatever a member may ask for at most reads settings. -/
theorem open_settings {s : Station} {i : Invocation} {a : Action} {p : Plan a.Answer}
    (plans : i.Plans a p) (isOpen : a.isOpen = true) :
    (s.handle p.request).2.settings = s.settings ∨
      (s.handle p.request).2.settings = (s.settings.snapshot i.guild).2 := by
  rw [s.handle_serve]
  rcases open_asks plans isOpen with nothing | read
  · rw [nothing]
    exact .inl rfl
  · rw [read]
    exact .inr rfl

theorem dispatch_denied (s : Station) {i : Invocation} {spec : CommandSpec}
    (found : findCommand? i.name = some spec) (denied : spec.permission.allows i.roles = false) :
    s.dispatch i = (.error (.unauthorized spec.permission.name), s) := by
  rw [dispatch, found]
  dsimp only
  rw [if_neg (by rw [denied]; nofun)]

/-- A command of a member without special roles is refused, or carries out what every member may do. -/
theorem dispatch_plain (s : Station) {i : Invocation} (dj : i.roles.dj = false)
    (manager : i.roles.manager = false) :
    (∃ e, s.dispatch i = (.error e, s) ∨
      s.dispatch i = (.error e, s.count Metrics.commandHandled)) ∨
    ∃ spec p, findCommand? i.name = some spec ∧ spec.action.isOpen = true ∧
      i.Plans spec.action p ∧
      s.dispatch i = ((s.handle p.request).1.map p.reply,
        (s.handle p.request).2.count Metrics.commandHandled) := by
  rcases s.dispatch_cases i with ⟨e, _, same⟩ | ⟨text, same⟩ | ⟨spec, p, found, plan, same⟩
  · exact .inl ⟨e, .inl same⟩
  · exact .inl ⟨_, .inr same⟩
  · cases allowed : spec.permission.allows i.roles with
    | false => exact .inl ⟨_, .inl (s.dispatch_denied found allowed)⟩
    | true =>
        have anyone := Permission.anyone_of_allows dj manager allowed
        have isOpen := isOpen_of_anyone spec (mem_commands found) anyone
        exact .inr ⟨spec, p, found, isOpen, i.plans_plan spec.action p plan, same⟩

theorem complete_settings (s done : Station) : (s.complete done).settings = done.settings :=
  (Steady.foldl_applyVote _ _).settings

theorem complete_of_same {s done : Station} (same : done.inFlight = s.inFlight) :
    s.complete done = done := by
  rw [complete, ← same, List.drop_length]
  rfl

section Plain

variable {i : Invocation} (dj : i.roles.dj = false) (manager : i.roles.manager = false)
include dj manager

/-- What is stored and what is in effect stays so in every guild, whatever was read on the way. -/
theorem dispatch_settings (s : Station) (g : GuildId) :
    let done := s.complete (s.dispatch i).2
    done.settings.repository.stored? g = s.settings.repository.stored? g ∧
      (done.settings.effective g).1 = (s.settings.effective g).1 := by
  have read : (s.dispatch i).2.settings = s.settings ∨
      (s.dispatch i).2.settings = (s.settings.snapshot i.guild).2 := by
    rcases s.dispatch_plain dj manager with ⟨_, same | same⟩ | ⟨_, p, _, isOpen, plans, same⟩
    · exact .inl (by rw [same])
    · exact .inl (by rw [same]; rfl)
    · rw [same]
      exact open_settings plans isOpen
  dsimp only
  rw [complete_settings]
  rcases read with same | same
  · rw [same]
    exact ⟨rfl, rfl⟩
  · rw [same]
    exact ⟨(SettingsCache.Warmed.snapshot s.settings i.guild).stored? g,
      s.settings.effective_after_snapshot i.guild g⟩

theorem voteCancel_denied (s : Station) {spec : CommandSpec}
    (found : findCommand? i.name = some spec) (cancels : spec.action = .voteCancel) :
    s.dispatch i = (.error (.unauthorized "dj"), s) := by
  have permission := dj_of_voteCancel spec (mem_commands found) cancels
  have denied : spec.permission.allows i.roles = false := by
    simp [permission, Permission.allows, dj, manager]
  rw [s.dispatch_denied found denied, permission]
  rfl

theorem dispatch_spares {s : Station} (grounded : s.registry.Grounded) :
    (∃ spec r, findCommand? i.name = some spec ∧ spec.action.isVote = true ∧
      (s.dispatch i).1 = .ok (.vote r) ∧ r.outcome = .passed) ∨
    ∀ g, SparesOthers i.member g s (s.complete (s.dispatch i).2) := by
  have confined := (Confined.dispatch grounded i).complete (dispatch_grounded grounded i)
  rcases s.dispatch_plain dj manager with ⟨_, same | same⟩ | ⟨spec, p, found, isOpen, plans, same⟩
  · refine .inr fun g => .of_same ?_
    rw [same, complete_of_same rfl]
  · have ended : s.complete (s.count Metrics.commandHandled) = s.count Metrics.commandHandled :=
      complete_of_same rfl
    refine .inr fun g => .of_same ?_
    rw [same, ended]
    rfl
  · rcases open_spares grounded plans isOpen with ⟨isVote, r, reply, passed⟩ | ⟨quiet, spares⟩
    · refine .inl ⟨spec, r, found, isVote, ?_, passed⟩
      rw [same]
      exact reply
    · refine .inr fun g => ?_
      by_cases here : g = i.guild
      · have ended : s.complete (s.dispatch i).2 =
            (s.handle p.request).2.count Metrics.commandHandled := by
          rw [same]
          exact complete_of_same quiet
        rw [ended, here]
        exact spares.trans (.of_same rfl)
      · exact .of_same (confined.others g here).session?

end Plain

/-- In every state that a run can reach, a command of a member who is neither a DJ nor a manager,
carried through, changes no settings of any guild and cancels no vote; and unless it is one of the
commands to vote and passes the vote, every session keeps what is loaded and what others have asked
for. -/
theorem ordinary_member_spares_others (config : Config) (repository : Repository)
    (backend : Backend) (os : List Occurrence) (i : Invocation) (dj : i.roles.dj = false)
    (manager : i.roles.manager = false) :
    let s := (create config repository backend).through os
    let answer := s.dispatch i
    let done := s.complete answer.2
    (∀ g, done.settings.repository.stored? g = s.settings.repository.stored? g ∧
      (done.settings.effective g).1 = (s.settings.effective g).1) ∧
    (∀ spec, findCommand? i.name = some spec → spec.action = .voteCancel →
      answer = (.error (.unauthorized "dj"), s)) ∧
    ((∃ spec r, findCommand? i.name = some spec ∧ spec.action.isVote = true ∧
        answer.1 = .ok (.vote r) ∧ r.outcome = .passed) ∨
      ∀ g, SparesOthers i.member g s done) := by
  intro s answer done
  have grounded : s.registry.Grounded := through_grounded (.empty backend) os
  exact ⟨s.dispatch_settings dj manager, fun _ => s.voteCancel_denied dj manager,
    dispatch_spares dj manager grounded⟩

/-- A member takes back the one track of their own, which waits between two of somebody else. -/
theorem ordinary_member_spares_others_of_removemine :
    let g : GuildId := ⟨1⟩
    let os : List Occurrence :=
      [.act (.ask (.enqueue g ⟨1⟩ ⟨"a"⟩ none)), .act (.ask (.enqueue g ⟨1⟩ ⟨"b"⟩ none)),
        .act (.ask (.enqueue g ⟨2⟩ ⟨"c"⟩ none)), .act (.ask (.enqueue g ⟨1⟩ ⟨"d"⟩ none))]
    let s := (create {} {} { nextHandle := ⟨1⟩ }).through os
    let i : Invocation := { guild := g, member := ⟨2⟩, name := "rmm" }
    let done := s.complete (s.dispatch i).2
    i.roles.dj = false ∧ i.roles.manager = false ∧
      (s.dispatch i).1 = .ok (.removed [⟨⟨3⟩, ⟨2⟩, ⟨"c"⟩, .unresolved ⟨"c"⟩⟩]) ∧
      (done.session? g).map (fun x => (x.currentId, x.queue.entries.map (·.id))) =
        some (some ⟨1⟩, [⟨2⟩, ⟨4⟩]) ∧
      SparesOthers ⟨2⟩ g s done := by
  intro g os s i done
  have reply : (s.dispatch i).1 = .ok (.removed [⟨⟨3⟩, ⟨2⟩, ⟨"c"⟩, .unresolved ⟨"c"⟩⟩]) := by
    decide +kernel
  refine ⟨rfl, rfl, reply, by decide +kernel, ?_⟩
  obtain ⟨_, _, voted | spares⟩ :=
    ordinary_member_spares_others {} {} { nextHandle := ⟨1⟩ } os i rfl rfl
  · obtain ⟨_, r, _, _, answered, _⟩ := voted
    have other : Except.ok (.vote r) = (s.dispatch i).1 := answered.symm
    rw [reply] at other
    cases other
  · exact spares g

end Station

end Jukebox
