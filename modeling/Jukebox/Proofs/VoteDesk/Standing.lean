import Jukebox.Proofs.VoteDesk.Resolution

/-!
How the votes on the desk stand. A vote that is still on the desk is short of its threshold and can
still reach it, so the members who have not voted can carry it either way.
-/

namespace Jukebox

/-- The outcome that ballots of a kind work towards. -/
def Ballot.outcome : Ballot → VoteOutcome
  | .yes => .passed
  | .no => .failed

namespace Vote

/-- A ballot leaves a vote undecided or brings the outcome that it works towards. -/
theorem evaluate_withBallot {v : Vote} (fair : v.Fair) (undecided : v.evaluate = .pending)
    {m : MemberId} (eligible : v.eligible.contains m = true) (fresh : v.hasVoted m = false)
    (b : Ballot) :
    (v.withBallot m b).evaluate = .pending ∨ (v.withBallot m b).evaluate = b.outcome := by
  obtain ⟨short, reachable⟩ := evaluate_eq_pending.mp undecided
  obtain ⟨notYes, notNo⟩ := hasVoted_eq_false.mp fresh
  have counts := (fair.withBallot eligible fresh b).ballots_le
  cases b with
  | yes =>
      have one : (v.withBallot m .yes).yes.size = v.yes.size + 1 :=
        MemberSet.size_insert_of_absent notYes
      by_cases enough : v.required ≤ v.yes.size + 1
      · exact .inr (evaluate_eq_passed.mpr (one ▸ enough))
      · refine .inl (evaluate_eq_pending.mpr ?_)
        simp only [withBallot] at one counts ⊢
        omega
  | no =>
      have one : (v.withBallot m .no).no.size = v.no.size + 1 :=
        MemberSet.size_insert_of_absent notNo
      by_cases hope : v.required ≤ v.yes.size + (v.eligible.size - v.yes.size - (v.no.size + 1))
      · exact .inl (evaluate_eq_pending.mpr ⟨short, one ▸ hope⟩)
      · refine .inr (evaluate_eq_failed.mpr ⟨short, ?_⟩)
        simp only [withBallot] at one ⊢
        omega

/-- Once everybody has voted, the vote is decided. -/
theorem uncast_ne_nil {v : Vote} (fair : v.Fair) (undecided : v.evaluate = .pending) :
    v.uncast ≠ [] := by
  intro nobody
  obtain ⟨short, reachable⟩ := evaluate_eq_pending.mp undecided
  have left := fair.length_uncast
  rw [nobody, List.length_nil] at left
  omega

theorem hasVoted_withBallot {v : Vote} {m n : MemberId} (b : Ballot) :
    (v.withBallot m b).hasVoted n = false ↔ n ≠ m ∧ v.hasVoted n = false := by
  have inserted : ∀ s : MemberSet, (Table.insert s m ()).contains n = false ↔
      n ≠ m ∧ s.contains n = false := by
    intro s
    rw [← Bool.not_eq_true, Table.contains_insert, not_or, Bool.not_eq_true]
  cases b with
  | yes =>
      simp only [hasVoted_eq_false, withBallot, inserted]
      tauto
  | no =>
      simp only [hasVoted_eq_false, withBallot, inserted]
      tauto

/-- After a ballot, those remain who had not voted, without the voter. -/
theorem perm_uncast_withBallot {v : Vote} {m : MemberId} {voters : List MemberId}
    (perm : (m :: voters).Perm v.uncast) (b : Ballot) :
    voters.Perm (v.withBallot m b).uncast := by
  obtain ⟨absent, distinct⟩ := List.nodup_cons.mp (perm.nodup_iff.mpr v.uncast_nodup)
  apply (List.perm_ext_iff_of_nodup distinct (uncast_nodup _)).mpr
  intro n
  have here : n ∈ m :: voters ↔ n ∈ v.uncast := perm.mem_iff
  have same : (v.withBallot m b).eligible = v.eligible := by
    cases b with
    | yes => rfl
    | no => rfl
  rw [List.mem_cons, mem_uncast] at here
  rw [mem_uncast, same, hasVoted_withBallot]
  constructor
  · intro member
    have other : n ≠ m := fun equal => absent (equal ▸ member)
    obtain ⟨eligible, fresh⟩ := here.mp (.inr member)
    exact ⟨eligible, other, fresh⟩
  · rintro ⟨eligible, other, fresh⟩
    exact (here.mpr ⟨eligible, fresh⟩).resolve_left other

end Vote

namespace VoteDesk

theorem Undecided.of_subset {d d' : VoteDesk} (h : d.Undecided)
    (within : ∀ k v, d'.pending.get? k = some v → d.pending.get? k = some v) : d'.Undecided :=
  fun k v found => h k v (within k v found)

/-- A vote that cannot pass any more is not opened in the first place. -/
theorem start_ne_failed {d : VoteDesk} {now : Nat} {r : VoteRequest} {p : VoteProgress}
    (accepted : (d.start now r).result = .ok p) : p.outcome ≠ .failed := by
  rcases start_cases d now r with ⟨e, same⟩ | ⟨admits, same⟩
  · rw [same] at accepted
    cases accepted
  · rw [same] at accepted
    cases accepted
    rw [judge_result]
    exact Vote.evaluate_ofRequest_ne_failed admits.share admits.eligible d.opened now

end VoteDesk

namespace Ledger

theorem start_desk (l : Ledger) (r : VoteRequest) :
    (l.enter (.start r)).desk = (l.desk.start l.now r).desk := by
  simp only [enter]
  split
  · rfl
  · rfl

theorem cast_desk (l : Ledger) (key : VoteKey) (voter : MemberId) (b : Ballot) :
    (l.enter (.cast key voter b)).desk = (l.desk.cast l.now key voter b).desk := by
  simp only [enter]
  split
  · rfl
  · rfl

/-- No act leaves a vote on the desk that its count decides. -/
theorem enter_undecided {l : Ledger} (keyed : l.desk.Keyed) (h : l.desk.Undecided) (a : DeskAct) :
    (l.enter a).desk.Undecided := by
  cases a with
  | start r =>
      intro k v found
      rw [start_desk] at found
      rcases VoteDesk.start_pending_get? found with old | ⟨_, _, _, undecided⟩
      · exact h k v old
      · exact undecided
  | cast key voter b =>
      intro k v found
      rw [cast_desk] at found
      rcases VoteDesk.cast_pending_get? keyed found with old | ⟨_, _, _, _, undecided⟩
      · exact h k v old
      · exact undecided
  | cancel key => exact h.of_subset (VoteDesk.cancel_subset keyed key)
  | cancelAll guild =>
      exact h.of_subset fun k v found => ((VoteDesk.cancelAll_pending keyed guild k v).mp found).1
  | advance duration => exact h.of_subset (VoteDesk.expireAt_subset l.desk _)
  | lag duration => exact h
  | timer ticket => exact h.of_subset fun k v found => ((VoteDesk.timeOut_pending _ _ k v).mp found).1
  | timers => exact h.of_subset (VoteDesk.expire_subset l.desk l.now)

theorem undecided_after {l : Ledger} (sound : l.Sound) (h : l.desk.Undecided)
    (acts : List DeskAct) : (l.after acts).desk.Undecided :=
  (after_induction (P := fun l => l.Sound ∧ l.desk.Undecided)
    (fun _ a both => ⟨both.1.enter a, enter_undecided both.1.keyed both.2 a⟩)
    ⟨sound, h⟩ acts).2

theorem undecided_ofActs (acts : List DeskAct) : (ofActs acts).desk.Undecided :=
  undecided_after sound_empty nofun acts

def ResolvedAs (l : Ledger) (ticket : Nat) (outcome : VoteOutcome) : Prop :=
  ∃ e ∈ l.resolved, e.2.ticket = ticket ∧ e.2.progress.outcome = outcome

/-- The acts by which members cast the same ballot, one after the other. -/
def castAll (key : VoteKey) (b : Ballot) (voters : List MemberId) : List DeskAct :=
  voters.map fun voter => .cast key voter b

theorem ResolvedAs.after {l : Ledger} {ticket : Nat} {outcome : VoteOutcome}
    (h : l.ResolvedAs ticket outcome) (sound : l.Sound) (acts : List DeskAct) :
    (l.after acts).ResolvedAs ticket outcome := by
  obtain ⟨e, member, same, under⟩ := h
  exact ⟨e, (resolved_grows_after sound acts).subset member, same, under⟩

/-- Whoever has not voted may do so in any order; together they bring the outcome they vote for. -/
theorem resolvedAs_castAll {l : Ledger} {key : VoteKey} {v : Vote} {voters : List MemberId}
    (sound : l.Sound) (found : l.desk.pending.get? key = some v) (undecided : v.evaluate = .pending)
    (early : l.now < v.deadline) (perm : voters.Perm v.uncast) (b : Ballot) :
    (l.after (castAll key b voters)).ResolvedAs v.ticket b.outcome := by
  -- Each ballot decides the vote or leaves one voter fewer; when nobody is left it is decided.
  induction voters generalizing l v with
  | nil => exact absurd perm.nil_eq.symm (Vote.uncast_ne_nil ((sound.covered key v found).fair) undecided)
  | cons m voters ih =>
      obtain ⟨eligible, fresh⟩ := Vote.mem_uncast.mp (perm.subset List.mem_cons_self)
      have hears : l.desk.Hears l.now key m v := ⟨found, early, eligible, fresh⟩
      have next := sound.enter (.cast key m b)
      have fair := (sound.covered key v found).fair
      rw [← Vote.withBallot_ticket v m b]
      rcases Vote.evaluate_withBallot fair undecided eligible fresh b with open_ | decided
      · have same := enter_counting hears open_
        have there : (l.counting v m b).desk.pending.get? key = some (v.withBallot m b) := by
          apply VoteDesk.put_pending_get?.mpr
          exact .inl ⟨by rw [Vote.withBallot_key, sound.keyed key v found], rfl⟩
        have deadline : (v.withBallot m b).deadline = v.deadline := by
          cases b with
          | yes => rfl
          | no => rfl
        rw [castAll, List.map_cons, Ledger.after, same]
        exact ih (same ▸ next) there open_ (deadline.symm ▸ early)
          (Vote.perm_uncast_withBallot perm b)
      · -- The ballots after this one find no vote and take back nothing.
        have ended : (v.withBallot m b).evaluate ≠ .pending := by
          rw [decided]
          cases b with
          | yes => decide
          | no => decide
        have same := enter_settling hears ended
        apply ResolvedAs.after ?_ next
        rw [same]
        refine ⟨(l.now, (v.withBallot m b).resolve (v.withBallot m b).evaluate), ?_, rfl, decided⟩
        exact List.mem_append_right _ (List.mem_singleton.mpr rfl)

/-- A pending vote as a moment finds it: its ballots are those of eligible members, one each, its
threshold is the least number that reaches the share, and the ballots that are still to come can
reach it in time. -/
structure Standing (v : Vote) (r : VoteRequest) (now : Nat) : Prop where
  pending : v.evaluate = .pending
  fair : v.Fair
  eligible : v.eligible = r.eligible
  threshold : IsLeast (Reaching r.eligible.size r.ratio) v.required
  positive : 1 ≤ v.required
  attainable : v.required ≤ v.eligible.size
  short : v.yes.size < v.required
  reachable : v.required ≤ v.yes.size + (v.eligible.size - v.yes.size - v.no.size)
  early : now < v.deadline

theorem Sound.standing {l : Ledger} (h : l.Sound) (undecided : l.desk.Undecided) {k : VoteKey}
    {v : Vote} (found : l.desk.pending.get? k = some v) {now : Nat} (early : now < v.deadline) :
    ∃ opened r, l.requests[v.ticket]? = some (opened, r) ∧ v.OpenedBy opened r ∧
      Standing v r now := by
  obtain ⟨opened, r, recorded, origin⟩ := (h.covered k v found).request
  have pending := undecided k v found
  obtain ⟨short, reachable⟩ := Vote.evaluate_eq_pending.mp pending
  have least : IsLeast (Reaching r.eligible.size r.ratio) v.required := by
    rw [origin.required]
    exact requiredVotes_isLeast r.eligible.size r.ratio
  have attainable : v.required ≤ v.eligible.size := by
    have counts := (h.covered k v found).fair.ballots_le
    omega
  exact ⟨opened, r, recorded, origin, pending, (h.covered k v found).fair, origin.eligible, least, least.1.1,
    attainable, short, reachable, early⟩

/-- Once the votes that are due have timed out, the time of every other is still to come. -/
theorem early_of_pending {l : Ledger} (keyed : l.desk.Keyed) {k : VoteKey} {v : Vote}
    (found : (l.enter .timers).desk.pending.get? k = some v) :
    (l.enter .timers).now < v.deadline :=
  ((VoteDesk.expire_pending keyed l.now k v).mp found).2

/-- After every run, once the votes that are due have timed out: each vote on the desk is pending,
its ballots are those of disjoint sets of the members who were eligible when it opened, it is short
of the least number that reaches the share, and it can still reach it before its deadline; the
members who have not voted carry it by their yes and end it by their no, in whatever order they
vote. No count that is ever taken has more ballots than eligible members, and no request is answered
with a vote that has failed. -/
theorem standing_after_timers (acts : List DeskAct) :
    let past := ofActs acts
    let l := past.enter .timers
    (∀ k v, l.desk.pending.get? k = some v →
      (∃ opened r, l.requests[v.ticket]? = some (opened, r) ∧ v.OpenedBy opened r ∧
        Standing v r l.now) ∧
      ∀ voters, voters.Perm v.uncast →
        (l.after (castAll k .yes voters)).ResolvedAs v.ticket .passed ∧
        (l.after (castAll k .no voters)).ResolvedAs v.ticket .failed) ∧
    (∀ r, past.desk.Admits r → ∀ v, v = Vote.ofRequest r past.desk.opened past.now →
      v.yes.size + v.no.size ≤ v.eligible.size) ∧
    (∀ k voter v b, past.desk.Hears past.now k voter v → ∀ u, u = v.withBallot voter b →
      u.yes.size + u.no.size ≤ u.eligible.size) ∧
    (∀ r p, (past.desk.start past.now r).result = .ok p → p.outcome ≠ .failed) := by
  intro past l
  have before : past.Sound := sound_ofActs acts
  have sound : l.Sound := before.enter .timers
  have undecided : l.desk.Undecided :=
    enter_undecided before.keyed (undecided_ofActs acts) .timers
  refine ⟨?_, ?_, ?_, ?_⟩
  · intro k v found
    have early : l.now < v.deadline := early_of_pending before.keyed found
    refine ⟨sound.standing undecided found early, ?_⟩
    intro voters perm
    have pending := undecided k v found
    exact ⟨resolvedAs_castAll sound found pending early perm .yes,
      resolvedAs_castAll sound found pending early perm .no⟩
  · rintro r admits v rfl
    exact (Vote.fair_ofRequest admits.eligible past.desk.opened past.now).ballots_le
  · rintro k voter v b hears u rfl
    exact ((before.covered k v hears.found).fair.withBallot hears.eligible hears.fresh b).ballots_le
  · intro r p accepted
    exact VoteDesk.start_ne_failed accepted

end Ledger

end Jukebox
