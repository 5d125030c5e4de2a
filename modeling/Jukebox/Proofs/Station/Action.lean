import Jukebox.Proofs.Station.Grounded

/-!
A passed vote does what a privileged member could have done at once. The way of a vote goes over the
desk, an action left in flight and a look at the session again; the direct way is one operation on
the session. Both lead to the same station but for the vote itself.
-/

namespace Jukebox

/-- What a privileged member does to a session without a vote. -/
def VoteKind.operation (kind : VoteKind) (b : Backend) (now : Nat) (session : Session) :
    Outcome (Except PlayerError Unit) :=
  match kind with
  | .skip => (session.skip b now).map fun result => result.map fun _ => ()
  | .stop => (session.stop now).map fun _ => .ok ()
  | .clearQueue => (session.clearQueue now).map fun _ => .ok ()

/-- A member's part in a vote. -/
inductive VoteStep
  | opens (initiator : MemberId)
  | casts (voter : MemberId) (ballot : Ballot)

def VoteStep.request (key : VoteKey) : VoteStep → Request VoteProgress
  | opens initiator => .startVote key.guild key.kind initiator
  | casts voter ballot => .castVote key.guild key.kind voter ballot

namespace VoteDesk

/-- What comes of a vote that members open or cast ballots in: it passes and is off the desk, with a
ticket and a target of which something is known, or nothing has passed. -/
inductive Judged (key : VoteKey) (about : Nat → Option EntryId → Prop) :
    DeskOutcome (Except PlayerError VoteProgress) → Prop
  | passes {p : VoteProgress} {d : VoteDesk} {r : Resolution} : p.outcome = .passed →
      r.progress.outcome = .passed → r.key = key → about r.ticket r.target →
      d.pending.get? key = none → Judged key about { result := .ok p, desk := d, resolved := [r] }
  | rests {o : DeskOutcome (Except PlayerError VoteProgress)} :
      (∀ p, o.result = .ok p → p.outcome ≠ .passed) →
      (∀ r ∈ o.resolved, r.progress.outcome ≠ .passed) → Judged key about o

theorem judge_judged (d : VoteDesk) (v : Vote) {about : Nat → Option EntryId → Prop}
    (known : about v.ticket v.target) :
    Judged v.key about
      { result := .ok (d.judge v).result, desk := (d.judge v).desk,
        resolved := (d.judge v).resolved } := by
  by_cases passed : v.evaluate = .passed
  · rw [judge_decided (by rw [passed]; nofun), passed]
    exact .passes rfl rfl rfl known (Table.get?_erase_self _ _)
  · refine .rests ?_ ?_
    · rintro p same
      cases same
      rw [judge_result]
      exact passed
    · by_cases undecided : v.evaluate = .pending
      · rw [judge_pending undecided]
        nofun
      · rw [judge_decided undecided]
        intro r member
        rw [List.mem_singleton.mp member]
        exact passed

theorem start_judged (d : VoteDesk) (now : Nat) (q : VoteRequest) {about : Nat → Option EntryId → Prop}
    (known : about d.opened q.target) : Judged ⟨q.guild, q.kind⟩ about (d.start now q) := by
  rcases start_cases d now q with ⟨e, same⟩ | ⟨_, same⟩
  · rw [same]
    exact .rests nofun nofun
  · rw [same]
    exact d.countOpened.judge_judged (Vote.ofRequest q d.opened now) known

theorem cast_judged {d : VoteDesk} (keyed : d.Keyed) (now : Nat) (key : VoteKey) (voter : MemberId)
    (b : Ballot) {about : Nat → Option EntryId → Prop}
    (known : ∀ v, d.pending.get? key = some v → about v.ticket v.target) :
    Judged key about (d.cast now key voter b) := by
  rcases cast_cases d now key voter b with ⟨e, same⟩ | ⟨v, _, _, same⟩ | ⟨v, hears, same⟩
  · rw [same]
    exact .rests nofun nofun
  · rw [same]
    refine .rests nofun ?_
    intro r member
    rw [List.mem_singleton.mp member]
    nofun
  · rw [same]
    have here : (v.withBallot voter b).key = key := by
      rw [Vote.withBallot_key, keyed key v hears.found]
    have still : about (v.withBallot voter b).ticket (v.withBallot voter b).target := by
      rw [Vote.withBallot_ticket, Vote.withBallot_target]
      exact known v hears.found
    exact here ▸ d.judge_judged (v.withBallot voter b) still

theorem Judged.of_passed {key : VoteKey} {about : Nat → Option EntryId → Prop}
    {o : DeskOutcome (Except PlayerError VoteProgress)} (judged : Judged key about o)
    {r : Resolution} (member : r ∈ o.resolved) (passed : r.progress.outcome = .passed) :
    r.key = key ∧ about r.ticket r.target ∧ ∃ p, o.result = .ok p := by
  cases judged with
  | passes _ _ here known _ =>
      rw [List.mem_singleton.mp member]
      exact ⟨here, known, _, rfl⟩
  | rests _ unpassed => exact absurd passed (unpassed r member)

end VoteDesk

namespace Station

/-- The stations agree but for the vote under a key and the counters of votes. -/
structure AgreeBut (key : VoteKey) (s t : Station) : Prop where
  now : s.now = t.now
  live : s.registry.live = t.registry.live
  retired : s.registry.retired = t.registry.retired
  backend : s.registry.backend = t.registry.backend
  published : s.published = t.published
  votes : ∀ k ≠ key, s.desk.pending.get? k = t.desk.pending.get? k
  counted : s.metrics.apartFromVotes = t.metrics.apartFromVotes

theorem AgreeBut.apply {key : VoteKey} {s t : Station} (h : s.AgreeBut key t)
    (keyed : s.desk.Keyed) (keyed' : t.desk.Keyed) {α : Type} (slot : Slot)
    (operation : Backend → Nat → Session → Outcome (Except PlayerError α)) :
    (s.apply slot operation).2.AgreeBut key (t.apply slot operation).2 := by
  have same : s.outcomeIn slot operation = t.outcomeIn slot operation := by
    rw [outcomeIn, outcomeIn, h.backend, h.now]
  constructor
  · rw [apply_eq, apply_eq]
    exact h.now
  · rw [apply_eq, apply_eq, h.live, same]
  · rw [apply_eq, apply_eq]
    exact h.retired
  · rw [apply_eq, apply_eq, h.backend, same]
  · rw [apply_eq, apply_eq, h.published, same]
  · intro k other
    apply Option.ext
    intro v
    rw [apply_pending s slot operation keyed, apply_pending t slot operation keyed',
      h.votes k other, same]
  · rw [apply_apart, apply_apart, h.counted, same]

/-- A privileged member's request of the kind that a vote is about. -/
def privileged (s : Station) (key : VoteKey) : Except PlayerError Unit × Station :=
  match key.kind with
  | .skip => ((s.skip key.guild).1.map fun _ => (), (s.skip key.guild).2)
  | .stop => ((s.stop key.guild).1.map fun _ => (), (s.stop key.guild).2)
  | .clearQueue => ((s.clearQueue key.guild).1.map fun _ => (), (s.clearQueue key.guild).2)

theorem privileged_eq (s : Station) (key : VoteKey) :
    s.privileged key = s.withSession key.guild key.kind.operation := by
  obtain ⟨g, kind⟩ := key
  cases kind with
  | skip => exact (s.withSession_map g Session.skip fun _ => ()).symm
  | stop => exact (s.withSession_map g _ fun _ => ()).symm
  | clearQueue => exact (s.withSession_map g _ fun _ => ()).symm

theorem operation_result {session : Session} {kind : VoteKind} {target : Option EntryId}
    (supports : session.Supports kind target) (b : Backend) (now : Nat) :
    (kind.operation b now session).result = .ok () := by
  cases kind with
  | skip =>
      have loaded := (supports.entry rfl).1
      cases current : session.current with
      | none => simp [Session.currentId, current] at loaded
      | some e => simp [VoteKind.operation, Session.skip, current, Outcome.map, Except.map]
  | stop | clearQueue => rfl

theorem voteAction_eq {session : Session} {r : Resolution}
    (supports : session.Supports r.key.kind r.target) (b : Backend) (now : Nat) :
    voteAction r b now session = r.key.kind.operation b now session := by
  unfold voteAction VoteKind.operation
  cases kind : r.key.kind with
  | skip =>
      obtain ⟨loaded, target⟩ := supports.entry kind
      exact if_pos ⟨loaded, target.symm⟩
  | stop | clearQueue => rfl

theorem settle_nothing {s : Station} (quiet : s.inFlight = []) : s.settle = s := by
  rw [settle, quiet]
  exact congrArg (fun left => { s with inFlight := left }) quiet.symm

theorem settle_single {s : Station} {r : Resolution} (alone : s.inFlight = [r]) :
    s.settle = { s with inFlight := [] }.applyVote r := by
  rw [settle, alone]
  rfl

theorem applyVote_inFlight (s : Station) (r : Resolution) :
    (s.applyVote r).inFlight = s.inFlight := by
  unfold applyVote withSession
  cases s.registry.live.get? r.key.guild with
  | none => rfl
  | some slot =>
      dsimp only
      rw [apply_eq]

/-- On a session that has what the vote was about, its action is the privileged request. -/
theorem applyVote_eq_privileged {s : Station} {slot : Slot} {r : Resolution}
    (found : s.registry.live.get? r.key.guild = some slot)
    (supports : slot.session.Supports r.key.kind r.target) :
    s.applyVote r = (s.privileged r.key).2 := by
  have action : s.outcomeIn slot (voteAction r) = s.outcomeIn slot r.key.kind.operation :=
    voteAction_eq supports _ _
  rw [applyVote, privileged_eq, withSession_of_found found, withSession_of_found found,
    apply_congr s slot _ action]

theorem privileged_accepted {s : Station} {key : VoteKey} {slot : Slot} {target : Option EntryId}
    (found : s.registry.live.get? key.guild = some slot)
    (supports : slot.session.Supports key.kind target) : (s.privileged key).1 = .ok () := by
  rw [privileged_eq, withSession_of_found found, apply_eq]
  exact operation_result supports _ _

theorem AgreeBut.privileged {s t : Station} {key : VoteKey} (h : t.AgreeBut key s)
    (keyed : t.desk.Keyed) (keyed' : s.desk.Keyed) :
    (t.privileged key).2.AgreeBut key (s.privileged key).2 := by
  rw [privileged_eq, privileged_eq, withSession, withSession, h.live]
  cases s.registry.live.get? key.guild with
  | none => exact h
  | some slot => exact h.apply keyed keyed' slot _

theorem withDesk_nothing (s : Station) : s.withDesk s.desk [] = s := by
  rw [withDesk, List.filter_nil, List.append_nil]
  rfl

theorem applyVote_pending_none {s : Station} {k : VoteKey} (keyed : s.desk.Keyed)
    (missing : s.desk.pending.get? k = none) (r : Resolution) :
    (s.applyVote r).desk.pending.get? k = none := by
  unfold applyVote
  cases found : s.registry.live.get? r.key.guild with
  | none =>
      rw [withSession, found]
      exact missing
  | some slot =>
      rw [withSession_of_found found]
      apply Option.eq_none_iff_forall_ne_some.mpr
      intro v there
      have old := ((apply_pending s slot (voteAction r) keyed k v).mp there).1
      rw [missing] at old
      cases old

/-- What is known of a vote's target: the guild's session has what the vote is about. -/
def Stands (s : Station) (key : VoteKey) (target : Option EntryId) : Prop :=
  ∃ slot, s.registry.live.get? key.guild = some slot ∧ slot.session.Supports key.kind target

/-- A member's part in a vote changes nothing but the settings and the vote. -/
theorem handle_step {s : Station} (grounded : s.registry.Grounded) (key : VoteKey)
    (step : VoteStep) :
    ∃ settings o, VoteDesk.Judged key (fun _ target => s.Stands key target) o ∧
      (s.handle (step.request key)).1 = o.result ∧
      (s.handle (step.request key)).2 = { s with settings }.withDesk o.desk o.resolved ∧
      (∀ k ≠ key, o.desk.pending.get? k = s.desk.pending.get? k) ∧
      o.desk.metrics.apartFromVotes = s.metrics.apartFromVotes := by
  cases step with
  | opens m =>
      rcases s.startVote_cases key.guild key.kind m with
        ⟨e, settings, same⟩ | ⟨settings, slot, q, found, guild, kind, open_, same⟩
      · refine ⟨settings, { result := .error e, desk := s.desk }, .rests nofun nofun, ?_, ?_,
          fun _ _ => rfl, rfl⟩
        · exact congrArg Prod.fst same
        · exact (congrArg Prod.snd same).trans (withDesk_nothing _).symm
      · have here : key = ⟨q.guild, q.kind⟩ := by rw [guild, kind]
        have stands : s.Stands key q.target :=
          ⟨slot, found, Session.supports_of_voteTarget (grounded.fits _ _ found).coherent open_⟩
        refine ⟨settings, s.desk.start s.now q, ?_, congrArg Prod.fst same, congrArg Prod.snd same,
          ?_, s.desk.start_apart s.now q⟩
        · rw [here] at stands ⊢
          exact s.desk.start_judged s.now q stands
        · intro k other
          exact s.desk.start_others s.now q (here ▸ other)
  | casts voter b =>
      refine ⟨s.settings, s.desk.cast s.now key voter b, ?_, rfl, rfl, ?_,
        s.desk.cast_apart s.now key voter b⟩
      · exact VoteDesk.cast_judged grounded.keyed s.now key voter b
          fun v found => grounded.supported key v found
      · intro k other
        exact VoteDesk.cast_others grounded.keyed s.now voter b other

theorem passed_agrees {s t : Station} {key : VoteKey} {r : Resolution}
    (agrees : { t with inFlight := [] }.AgreeBut key s) (keyed : t.desk.Keyed)
    (keyed' : s.desk.Keyed) (alone : t.inFlight = [r]) (here : r.key = key)
    (stands : s.Stands key r.target) (gone : t.desk.pending.get? key = none) :
    t.settle.inFlight = [] ∧ (s.privileged key).1 = .ok () ∧
      t.settle = ({ t with inFlight := [] }.privileged key).2 ∧
      t.settle.AgreeBut key (s.privileged key).2 ∧ t.settle.desk.pending.get? key = none := by
  subst here
  obtain ⟨slot, found, supports⟩ := stands
  have live : t.registry.live = s.registry.live := agrees.live
  have found' : t.registry.live.get? r.key.guild = some slot := by rw [live, found]
  have acted : t.settle = { t with inFlight := [] }.applyVote r := settle_single alone
  have closed : t.settle = ({ t with inFlight := [] }.privileged r.key).2 :=
    acted.trans (applyVote_eq_privileged found' supports)
  refine ⟨?_, privileged_accepted found supports, closed, ?_, ?_⟩
  · rw [acted]
    exact applyVote_inFlight _ r
  · rw [closed]
    exact agrees.privileged keyed keyed'
  · rw [acted]
    exact applyVote_pending_none (s := { t with inFlight := [] }) keyed gone r

/-- In every state that a run can reach with no action in flight, a member's part in a vote either
passes it, and then the station ends up as the privileged request would have left it at once, or
does not, and then no session, event or call changes. A vote that passes is closed first: what
happens then is the privileged request on a station where it is counted and off the desk. -/
theorem vote_acts_as_privileged (config : Config) (repository : Repository) (backend : Backend)
    (acts : List StationAct)
    (quiet : ((create config repository backend).after acts).inFlight = [])
    (key : VoteKey) (step : VoteStep) :
    let s := (create config repository backend).after acts
    let answer := s.handle (step.request key)
    let done := answer.2.settle
    done.inFlight = [] ∧
    (∀ p, answer.1 = .ok p → p.outcome = .passed →
      (s.privileged key).1 = .ok () ∧ done = ({ answer.2 with inFlight := [] }.privileged key).2 ∧
      done.AgreeBut key (s.privileged key).2 ∧ done.desk.pending.get? key = none) ∧
    ((∀ p, answer.1 = .ok p → p.outcome ≠ .passed) → done.AgreeBut key s) := by
  intro s answer done
  have grounded : s.registry.Grounded := after_grounded config repository backend acts
  have grounded' : answer.2.registry.Grounded := next_grounded grounded (.ask (step.request key))
  obtain ⟨settings, o, judged, (result : answer.1 = _), (state : answer.2 = _), others, apart⟩ :=
    handle_step grounded key step
  have agrees : { answer.2 with inFlight := [] }.AgreeBut key s := by
    rw [state]
    exact ⟨rfl, rfl, rfl, rfl, rfl, others, apart⟩
  have inFlight : answer.2.inFlight =
      o.resolved.filter fun r => r.progress.outcome.isPassed := by
    rw [state, withDesk, quiet, List.nil_append]
  -- With nothing in flight before, the action of this vote is the only one, and it finds the session
  -- that the privileged request would have found.
  cases judged with
  | passes passed passed' here stands gone =>
      have alone : answer.2.inFlight = [_] :=
        inFlight.trans (List.filter_cons_of_pos (by simp [VoteOutcome.isPassed, passed']))
      have missing : answer.2.desk.pending.get? key = none := by
        rw [state]
        exact gone
      obtain ⟨settled, same⟩ := passed_agrees agrees grounded'.keyed grounded.keyed alone here
        stands missing
      refine ⟨settled, fun _ _ _ => same, ?_⟩
      intro other
      exact absurd passed (other _ result)
  | rests rests unpassed =>
      have nothing : answer.2.inFlight = [] := by
        rw [inFlight]
        apply List.filter_eq_nil_iff.mpr
        intro r member
        simpa [VoteOutcome.isPassed] using unpassed r member
      have same : done = answer.2 := settle_nothing nothing
      rw [same]
      refine ⟨nothing, ?_, ?_⟩
      · intro p accepted passed
        exact absurd passed (rests p (result.symm.trans accepted))
      · intro _
        rw [← nothing] at agrees
        exact agrees

/-- The only listener of a guild opens a vote to skip, with two tracks waiting. -/
theorem vote_acts_as_privileged_on_skip :
    let key : VoteKey := ⟨⟨1⟩, .skip⟩
    let acts : List StationAct :=
      [.ask (.memberJoined ⟨1⟩ ⟨1⟩), .ask (.enqueue ⟨1⟩ ⟨1⟩ ⟨"a"⟩ none),
        .ask (.enqueue ⟨1⟩ ⟨1⟩ ⟨"b"⟩ none), .ask (.enqueue ⟨1⟩ ⟨1⟩ ⟨"c"⟩ none)]
    let s := (create {} {} { nextHandle := ⟨1⟩ }).after acts
    let done := (s.handle ((VoteStep.opens ⟨1⟩).request key)).2.settle
    s.inFlight = [] ∧ done.AgreeBut key (s.privileged key).2 ∧
      (done.session? ⟨1⟩).map (·.currentId) = some (some ⟨2⟩) := by
  intro key acts s done
  have quiet : s.inFlight = [] := by decide +kernel
  have passed : (s.handle ((VoteStep.opens ⟨1⟩).request key)).1 =
      .ok ⟨.skip, 1, 0, 1, 1, .passed⟩ := by
    decide +kernel
  have agrees := (vote_acts_as_privileged {} {} { nextHandle := ⟨1⟩ } acts quiet key
    (.opens ⟨1⟩)).2.1 ⟨.skip, 1, 0, 1, 1, .passed⟩ passed rfl
  refine ⟨quiet, agrees.2.2.1, ?_⟩
  decide +kernel

end Station

end Jukebox
