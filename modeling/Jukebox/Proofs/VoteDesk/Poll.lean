import Jukebox.Proofs.VoteDesk.Spared

/-!
Polls. All members who may vote cast their ballots in some order, in time, while the desk is busy
with other votes. The vote ends with the first ballot that decides it, and the way it ends depends
on the ballots alone and not on their order.
-/

namespace Jukebox

/-- A count decides a vote: enough have said yes, or too many have said no. -/
def Decisive (required eligible yes no : Nat) : Prop := required ≤ yes ∨ eligible - required < no

def verdict (required yes : Nat) : VoteOutcome := if required ≤ yes then .passed else .failed

/-- A count that decides a vote decides it as the complete count does. -/
theorem verdict_eq_of_decisive {required eligible yes no allYes allNo : Nat}
    (complete : allYes + allNo = eligible) (attainable : required ≤ eligible)
    (moreYes : yes ≤ allYes) (moreNo : no ≤ allNo) (decisive : Decisive required eligible yes no) :
    verdict required yes = verdict required allYes := by
  unfold verdict
  rcases decisive with enough | tooMany
  · rw [if_pos enough, if_pos (enough.trans moreYes)]
  · rw [if_neg (by omega), if_neg (by omega)]

theorem decisive_of_complete {required eligible yes no : Nat} (complete : yes + no = eligible)
    (attainable : required ≤ eligible) : Decisive required eligible yes no := by
  unfold Decisive
  omega

theorem Decisive.mono {required eligible yes no yes' no' : Nat}
    (h : Decisive required eligible yes no) (moreYes : yes ≤ yes') (moreNo : no ≤ no') :
    Decisive required eligible yes' no' :=
  h.imp (fun enough => enough.trans moreYes) (fun tooMany => tooMany.trans_le moreNo)

namespace Vote

theorem evaluate_ne_pending {v : Vote} (fair : v.Fair) (attainable : v.required ≤ v.eligible.size) :
    v.evaluate ≠ .pending ↔ Decisive v.required v.eligible.size v.yes.size v.no.size := by
  have counts := fair.ballots_le
  rw [Ne, evaluate_eq_pending, Decisive]
  omega

theorem evaluate_eq_verdict {v : Vote} (decided : v.evaluate ≠ .pending) :
    v.evaluate = verdict v.required v.yes.size := by
  unfold verdict
  rcases v.evaluate_cases with pending | passed | failed
  · exact absurd pending decided
  · rw [if_pos (evaluate_eq_passed.mp passed), passed]
  · have short := (evaluate_eq_failed.mp failed).1
    rw [if_neg (Nat.not_le.mpr short), failed]

end Vote

namespace VoteRequest

/-- The initiator, if opening the vote counts as a ballot. -/
def own (r : VoteRequest) : List MemberId := if r.selfVote then [r.initiator] else []

/-- Who may vote once the vote is open: the eligible members who have not voted by opening it. -/
def voters (r : VoteRequest) : List MemberId := r.eligible.keys.filter fun m => m ∉ r.own

theorem mem_voters {r : VoteRequest} {m : MemberId} :
    m ∈ r.voters ↔ r.eligible.contains m = true ∧ m ∉ r.own := by
  simp only [voters, List.mem_filter, Table.mem_keys, decide_eq_true_eq]

theorem own_nodup (r : VoteRequest) : r.own.Nodup := by
  unfold own
  split
  · exact List.nodup_singleton _
  · exact .nil

/-- The initiator's own ballot and those still to come are all that there can be. -/
theorem perm_keys {r : VoteRequest} (eligible : r.eligible.contains r.initiator = true) :
    (r.own ++ r.voters).Perm r.eligible.keys := by
  have apart : (r.own ++ r.voters).Nodup := by
    refine List.nodup_append.mpr ⟨r.own_nodup, r.eligible.keys_nodup.filter _, ?_⟩
    rintro m own n voter rfl
    exact (mem_voters.mp voter).2 own
  apply (List.perm_ext_iff_of_nodup apart r.eligible.keys_nodup).mpr
  intro m
  have within : m ∈ r.own → r.eligible.contains m = true := by
    unfold own
    split
    · rintro member
      rw [List.mem_singleton.mp member]
      exact eligible
    · nofun
  rw [List.mem_append, mem_voters, Table.mem_keys]
  tauto

end VoteRequest

/-- A member's turn at the desk: what happens there before, and who votes then. -/
structure Visit where
  meanwhile : List DeskAct
  voter : MemberId

/-- How many of those who voted cast a ballot of a kind. -/
def Visit.count (ballot : MemberId → Ballot) (b : Ballot) (voted : List Visit) : Nat :=
  voted.countP fun x => ballot x.voter = b

theorem Visit.count_append (ballot : MemberId → Ballot) (b : Ballot) (voted : List Visit)
    (x : Visit) :
    count ballot b (voted ++ [x]) = count ballot b voted + if ballot x.voter = b then 1 else 0 := by
  simp [count, List.countP_cons]

theorem Visit.count_take_le (ballot : MemberId → Ballot) (b : Ballot) (visits : List Visit)
    (n : Nat) : count ballot b (visits.take n) ≤ count ballot b visits :=
  (List.take_sublist n visits).countP_le

theorem Visit.count_yes_add_no (ballot : MemberId → Ballot) (visits : List Visit) :
    count ballot .yes visits + count ballot .no visits = visits.length := by
  have no : count ballot .no visits = visits.countP fun x => ¬ ballot x.voter = .yes := by
    apply List.countP_congr
    intro x _
    cases ballot x.voter with
    | yes => decide
    | no => decide
  rw [no]
  simpa [count] using (List.length_eq_countP_add_countP (l := visits)
    (p := fun x => ballot x.voter = .yes)).symm

namespace Ledger

def castAt (l : Ledger) (key : VoteKey) (ballot : MemberId → Ballot) (x : Visit) :
    Except PlayerError VoteProgress :=
  let now := l.after x.meanwhile
  (now.desk.cast now.now key x.voter (ballot x.voter)).result

def visit (l : Ledger) (key : VoteKey) (ballot : MemberId → Ballot) (x : Visit) : Ledger :=
  (l.after x.meanwhile).enter (.cast key x.voter (ballot x.voter))

def visits (l : Ledger) (key : VoteKey) (ballot : MemberId → Ballot) (voted : List Visit) :
    Ledger :=
  voted.foldl (fun l x => l.visit key ballot x) l

theorem visits_append (l : Ledger) (key : VoteKey) (ballot : MemberId → Ballot)
    (voted : List Visit) (x : Visit) :
    l.visits key ballot (voted ++ [x]) = (l.visits key ballot voted).visit key ballot x :=
  List.foldl_concat ..

end Ledger

/-- A poll that opens with a request: everybody who may vote visits the desk once before the
deadline, and nobody else touches the vote. -/
structure Poll (past : Ledger) (r : VoteRequest) (ballot : MemberId → Ballot)
    (visits : List Visit) : Prop where
  own : r.selfVote = true → ballot r.initiator = .yes
  order : (visits.map fun x => x.voter).Perm r.voters
  apart : ∀ x ∈ visits, ∀ a ∈ x.meanwhile, a.Spares ⟨r.guild, r.kind⟩
  early : ∀ n (h : n < visits.length),
    (((past.enter (.start r)).visits ⟨r.guild, r.kind⟩ ballot (visits.take n)).after
      visits[n].meanwhile).now < past.now + r.timeout

namespace Vote

theorem yes_size_withBallot {v : Vote} {m : MemberId} (fresh : v.hasVoted m = false) (b : Ballot) :
    (v.withBallot m b).yes.size = v.yes.size + if b = .yes then 1 else 0 := by
  cases b with
  | yes => exact MemberSet.size_insert_of_absent (hasVoted_eq_false.mp fresh).1
  | no => rfl

theorem no_size_withBallot {v : Vote} {m : MemberId} (fresh : v.hasVoted m = false) (b : Ballot) :
    (v.withBallot m b).no.size = v.no.size + if b = .no then 1 else 0 := by
  cases b with
  | yes => rfl
  | no => exact MemberSet.size_insert_of_absent (hasVoted_eq_false.mp fresh).2

theorem yes_size_ofRequest (r : VoteRequest) (ticket now : Nat) :
    (ofRequest r ticket now).yes.size = r.own.length := by
  unfold ofRequest VoteRequest.own
  cases r.selfVote with
  | true => exact Table.size_insert_of_none (Table.get?_empty _) ()
  | false => rfl

theorem mem_own_of_hasVoted {r : VoteRequest} {ticket now : Nat} {m : MemberId}
    (voted : (ofRequest r ticket now).hasVoted m = true) : m ∈ r.own := by
  unfold ofRequest hasVoted at voted
  unfold VoteRequest.own
  cases own : r.selfVote with
  | true =>
      have same : m = r.initiator := by
        simp only [own, if_true, Bool.or_eq_true, Table.contains_insert] at voted
        simpa [Table.contains] using voted
      rw [same]
      exact List.mem_singleton.mpr rfl
  | false => simp [own, Table.contains] at voted

/-- The vote is that of a request and has the ballots of those who have voted, and no others. -/
structure Holds (v : Vote) (opened : Nat) (r : VoteRequest) (ballot : MemberId → Ballot)
    (voted : List Visit) : Prop where
  origin : v.OpenedBy opened r
  fair : v.Fair
  voters : ∀ m, v.hasVoted m = true → m ∈ r.own ++ voted.map fun x => x.voter
  yes : v.yes.size = r.own.length + Visit.count ballot .yes voted
  no : v.no.size = Visit.count ballot .no voted

theorem holds_ofRequest {r : VoteRequest} (eligible : r.eligible.contains r.initiator = true)
    (ticket now : Nat) (ballot : MemberId → Ballot) :
    (ofRequest r ticket now).Holds now r ballot [] where
  origin := openedBy_ofRequest r ticket now
  fair := fair_ofRequest eligible ticket now
  voters := fun _ voted => List.mem_append_left _ (mem_own_of_hasVoted voted)
  yes := yes_size_ofRequest r ticket now
  no := rfl

theorem Holds.withBallot {v : Vote} {opened : Nat} {r : VoteRequest} {ballot : MemberId → Ballot}
    {voted : List Visit} {x : Visit} (h : v.Holds opened r ballot voted)
    (eligible : v.eligible.contains x.voter = true) (fresh : v.hasVoted x.voter = false) :
    (v.withBallot x.voter (ballot x.voter)).Holds opened r ballot (voted ++ [x]) where
  origin := h.origin.withBallot _ _
  fair := h.fair.withBallot eligible fresh _
  voters := by
    intro m already
    by_cases same : m = x.voter
    · simp [same]
    · have before : v.hasVoted m = true := by
        by_contra not
        have still := (hasVoted_withBallot (ballot x.voter)).mpr ⟨same, Bool.eq_false_iff.mpr not⟩
        rw [already] at still
        cases still
      rw [List.map_append, ← List.append_assoc]
      exact List.mem_append_left _ (h.voters m before)
  yes := by rw [yes_size_withBallot fresh, h.yes, Visit.count_append, Nat.add_assoc]
  no := by rw [no_size_withBallot fresh, h.no, Visit.count_append]

end Vote

namespace Ledger

theorem ResolvedAs.unique {l : Ledger} (sound : l.Sound) {ticket : Nat} {o o' : VoteOutcome}
    (h : l.ResolvedAs ticket o) (h' : l.ResolvedAs ticket o') : o = o' := by
  obtain ⟨e, member, here, rfl⟩ := h
  obtain ⟨e', member', here', rfl⟩ := h'
  rw [List.inj_on_of_nodup_map sound.once member member' (here.trans here'.symm)]

theorem settling_resolvedAs (l : Ledger) (v : Vote) (outcome : VoteOutcome) (moment : Nat) :
    (l.settling v outcome moment).ResolvedAs v.ticket outcome :=
  ⟨_, List.mem_append_right _ (List.mem_singleton.mpr rfl), rfl, rfl⟩

/-- The vote of a request is pending with the ballots of those who have voted. -/
structure Running (l : Ledger) (opened : Nat) (r : VoteRequest) (ticket : Nat)
    (ballot : MemberId → Ballot) (voted : List Visit) (v : Vote) : Prop where
  found : l.desk.pending.get? ⟨r.guild, r.kind⟩ = some v
  undecided : v.evaluate = .pending
  ticket : v.ticket = ticket
  holds : v.Holds opened r ballot voted

/-- A vote has been resolved, and no other has been opened under its key. -/
structure Ended (l : Ledger) (key : VoteKey) (ticket : Nat) (outcome : VoteOutcome) : Prop where
  free : l.desk.pending.get? key = none
  resolved : l.ResolvedAs ticket outcome

section Turns

variable {l : Ledger} {opened ticket : Nat} {r : VoteRequest} {ballot : MemberId → Ballot}
  {voted : List Visit} {x : Visit}

theorem Running.hears {v : Vote} (h : l.Running opened r ticket ballot voted v) (sound : l.Sound)
    (apart : ∀ a ∈ x.meanwhile, a.Spares ⟨r.guild, r.kind⟩)
    (early : (l.after x.meanwhile).now < opened + r.timeout)
    (voter : x.voter ∈ r.voters) (fresh : x.voter ∉ voted.map fun y => y.voter) :
    (l.after x.meanwhile).desk.Hears (l.after x.meanwhile).now ⟨r.guild, r.kind⟩ x.voter v := by
  obtain ⟨eligible, notOwn⟩ := VoteRequest.mem_voters.mp voter
  have soon : (l.after x.meanwhile).now < v.deadline := by
    rw [h.holds.origin.deadline]
    exact early
  refine ⟨after_spared_keeps sound apart h.found soon, soon, ?_, ?_⟩
  · rw [h.holds.origin.eligible]
    exact eligible
  · by_contra already
    rcases List.mem_append.mp (h.holds.voters x.voter (Bool.eq_true_of_not_eq_false already)) with
      own | before
    · exact notOwn own
    · exact fresh before

/-- A ballot that decides nothing is added to the others, and one that decides the vote ends it. -/
theorem Running.visit {v : Vote} (h : l.Running opened r ticket ballot voted v)
    (sound : (l.after x.meanwhile).Sound)
    (hears : (l.after x.meanwhile).desk.Hears (l.after x.meanwhile).now ⟨r.guild, r.kind⟩ x.voter v) :
    ∃ u : Vote, u.Holds opened r ballot (voted ++ [x]) ∧
      ((l.visit ⟨r.guild, r.kind⟩ ballot x).Running opened r ticket ballot (voted ++ [x]) u ∨
        u.evaluate ≠ .pending ∧
          (l.visit ⟨r.guild, r.kind⟩ ballot x).Ended ⟨r.guild, r.kind⟩ ticket u.evaluate) := by
  let u := v.withBallot x.voter (ballot x.voter)
  have holds : u.Holds opened r ballot (voted ++ [x]) :=
    h.holds.withBallot hears.eligible hears.fresh
  have same : u.ticket = ticket := (Vote.withBallot_ticket v _ _).trans h.ticket
  refine ⟨u, holds, ?_⟩
  by_cases undecided : u.evaluate = .pending
  · refine .inl ?_
    rw [Ledger.visit, enter_counting hears undecided]
    exact ⟨(sound.counting_get? hears _).mpr (.inl ⟨rfl, rfl⟩), undecided, same, holds⟩
  · refine .inr ⟨undecided, ?_⟩
    rw [Ledger.visit, enter_settling hears undecided, ← holds.origin.key, ← same]
    exact ⟨Table.get?_erase_self _ _, settling_resolvedAs _ u _ _⟩

/-- A ballot that counts is answered with the count that includes it. -/
theorem Running.castAt {v : Vote} (h : l.Running opened r ticket ballot voted v)
    (hears : (l.after x.meanwhile).desk.Hears (l.after x.meanwhile).now ⟨r.guild, r.kind⟩ x.voter v) :
    ∃ u : Vote, u.Holds opened r ballot (voted ++ [x]) ∧
      l.castAt ⟨r.guild, r.kind⟩ ballot x = .ok (u.progress u.evaluate) := by
  refine ⟨_, h.holds.withBallot hears.eligible hears.fresh, ?_⟩
  rw [Ledger.castAt, hears.cast]
  dsimp only
  rw [VoteDesk.judge_result]

/-- Whoever comes to vote after the end finds no vote and changes nothing. -/
theorem Ended.castAt {key : VoteKey} {outcome : VoteOutcome} (h : l.Ended key ticket outcome)
    (sound : l.Sound) (apart : ∀ a ∈ x.meanwhile, a.Spares key) :
    l.castAt key ballot x = .error .noActiveVote := by
  have free := after_spared_free sound apart h.free
  simp only [Ledger.castAt, VoteDesk.cast, free]

theorem Ended.visit {key : VoteKey} {outcome : VoteOutcome} (h : l.Ended key ticket outcome)
    (sound : l.Sound) (apart : ∀ a ∈ x.meanwhile, a.Spares key) :
    (l.visit key ballot x).Ended key ticket outcome := by
  have free := after_spared_free sound apart h.free
  have next := sound.after x.meanwhile
  constructor
  · rw [Ledger.visit, cast_desk]
    simp only [VoteDesk.cast, free]
  · exact (h.resolved.after sound x.meanwhile).after next [.cast key x.voter (ballot x.voter)]

end Turns

/-- The vote that opens has its initiator's own ballot, which may be all that it takes. -/
theorem running_or_ended {past : Ledger} {r : VoteRequest} (sound : past.Sound)
    (admits : past.desk.Admits r) (ballot : MemberId → Ballot) :
    ∃ v : Vote, v.Holds past.now r ballot [] ∧
      ((past.enter (.start r)).Running past.now r past.requests.length ballot [] v ∨
        v.evaluate ≠ .pending ∧
          (past.enter (.start r)).Ended ⟨r.guild, r.kind⟩ past.requests.length v.evaluate) := by
  let v := Vote.ofRequest r past.desk.opened past.now
  have holds : v.Holds past.now r ballot [] := Vote.holds_ofRequest admits.eligible _ _ ballot
  refine ⟨v, holds, ?_⟩
  by_cases undecided : v.evaluate = .pending
  · refine .inl ?_
    rw [enter_opening admits undecided]
    exact ⟨Table.get?_insert_self _ _ _, undecided, sound.opened, holds⟩
  · refine .inr ⟨undecided, ?_⟩
    rw [enter_opening_settling admits undecided, ← sound.opened]
    exact ⟨Table.get?_erase_self _ _, settling_resolvedAs _ v _ _⟩

end Ledger

namespace Poll

variable {past : Ledger} {r : VoteRequest} {ballot : MemberId → Ballot} {visits : List Visit}

/-- Whether the ballots of those who have voted decide the vote, the initiator's own included. -/
def Decided (r : VoteRequest) (ballot : MemberId → Ballot) (voted : List Visit) : Prop :=
  Decisive (requiredVotes r.eligible.size r.ratio) r.eligible.size
    (r.own.length + Visit.count ballot .yes voted) (Visit.count ballot .no voted)

/-- What the ballots of all eligible members make of the vote. -/
def outcome (r : VoteRequest) (ballot : MemberId → Ballot) : VoteOutcome :=
  verdict (requiredVotes r.eligible.size r.ratio)
    (r.eligible.keys.countP fun m => ballot m = .yes)

theorem required_le (admits : past.desk.Admits r) :
    requiredVotes r.eligible.size r.ratio ≤ r.eligible.size := by
  have member : r.initiator ∈ r.eligible.members := MemberSet.mem_members.mpr admits.eligible
  have somebody : 1 ≤ r.eligible.size := by
    rw [← MemberSet.card_members]
    exact Finset.card_pos.mpr ⟨_, member⟩
  exact requiredVotes_le somebody admits.share

/-- Nobody is counted twice and nobody is left out. -/
theorem complete (poll : Poll past r ballot visits) (admits : past.desk.Admits r) :
    (r.own.length + Visit.count ballot .yes visits) + Visit.count ballot .no visits =
      r.eligible.size := by
  have all := (VoteRequest.perm_keys admits.eligible).length_eq
  have turns := poll.order.length_eq
  have both := Visit.count_yes_add_no ballot visits
  rw [List.length_append, Table.length_keys] at all
  rw [List.length_map] at turns
  omega

theorem countP_keys (poll : Poll past r ballot visits) (admits : past.desk.Admits r) :
    r.eligible.keys.countP (fun m => ballot m = .yes) =
      r.own.length + Visit.count ballot .yes visits := by
  have own : r.own.countP (fun m => ballot m = .yes) = r.own.length := by
    apply List.countP_eq_length.mpr
    intro m member
    unfold VoteRequest.own at member
    split at member
    · next self =>
        rw [List.mem_singleton.mp member]
        exact decide_eq_true (poll.own self)
    · cases member
  rw [← (VoteRequest.perm_keys admits.eligible).countP_eq, List.countP_append, own,
    ← poll.order.countP_eq, List.countP_map]
  rfl

/-- The ballots that decide the vote agree with those still to come. -/
theorem verdict_take (poll : Poll past r ballot visits) (admits : past.desk.Admits r) {n : Nat}
    (decided : Decided r ballot (visits.take n)) :
    verdict (requiredVotes r.eligible.size r.ratio)
        (r.own.length + Visit.count ballot .yes (visits.take n)) = outcome r ballot := by
  rw [outcome, poll.countP_keys admits]
  exact verdict_eq_of_decisive (poll.complete admits) (required_le admits)
    (Nat.add_le_add_left (Visit.count_take_le ballot .yes visits n) _)
    (Visit.count_take_le ballot .no visits n) decided

theorem Decided.append {voted : List Visit} (h : Decided r ballot voted) (x : Visit) :
    Decided r ballot (voted ++ [x]) := by
  refine Decisive.mono h ?_ ?_
  · rw [Visit.count_append, ← Nat.add_assoc]
    exact Nat.le_add_right _ _
  · rw [Visit.count_append]
    exact Nat.le_add_right _ _

/-- A vote that holds the ballots cast so far is decided when they decide it. -/
theorem decided_iff {v : Vote} {opened : Nat} {voted : List Visit} (admits : past.desk.Admits r)
    (holds : v.Holds opened r ballot voted) : v.evaluate ≠ .pending ↔ Decided r ballot voted := by
  have attainable : v.required ≤ v.eligible.size := by
    rw [holds.origin.required, holds.origin.eligible]
    exact required_le admits
  rw [Vote.evaluate_ne_pending holds.fair attainable, holds.origin.required, holds.origin.eligible,
    holds.yes, holds.no]
  rfl

theorem evaluate_eq_outcome (poll : Poll past r ballot visits) (admits : past.desk.Admits r)
    {v : Vote} {opened n : Nat} (holds : v.Holds opened r ballot (visits.take n))
    (ended : v.evaluate ≠ .pending) : v.evaluate = outcome r ballot := by
  rw [Vote.evaluate_eq_verdict ended, holds.origin.required, holds.yes]
  exact poll.verdict_take admits ((decided_iff admits holds).mp ended)

/-- The station of the vote on its way: it runs undecided, or it has ended with the outcome of the
whole poll. -/
inductive Stage (l : Ledger) (opened : Nat) (r : VoteRequest) (ticket : Nat)
    (ballot : MemberId → Ballot) (voted : List Visit) : Prop
  | running (v : Vote) : ¬ Decided r ballot voted → l.Running opened r ticket ballot voted v →
      Stage l opened r ticket ballot voted
  | ended : Decided r ballot voted → l.Ended ⟨r.guild, r.kind⟩ ticket (outcome r ballot) →
      Stage l opened r ticket ballot voted

theorem stage_of_holds (poll : Poll past r ballot visits) (admits : past.desk.Admits r)
    {l : Ledger} {v : Vote} {opened ticket n : Nat} (holds : v.Holds opened r ballot (visits.take n))
    (either : l.Running opened r ticket ballot (visits.take n) v ∨
      v.evaluate ≠ .pending ∧ l.Ended ⟨r.guild, r.kind⟩ ticket v.evaluate) :
    Stage l opened r ticket ballot (visits.take n) := by
  rcases either with running | ⟨decided, ended⟩
  · refine .running v ?_ running
    rw [← decided_iff admits holds]
    exact fun decided => decided running.undecided
  · rw [poll.evaluate_eq_outcome admits holds decided] at ended
    exact .ended ((decided_iff admits holds).mp decided) ended

theorem voter_mem (poll : Poll past r ballot visits) {n : Nat} {x : Visit}
    (next : visits[n]? = some x) : x.voter ∈ r.voters :=
  poll.order.subset (List.mem_map.mpr ⟨x, List.mem_of_getElem? next, rfl⟩)

theorem take_succ {n : Nat} {x : Visit} (next : visits[n]? = some x) :
    visits.take (n + 1) = visits.take n ++ [x] := by
  rw [List.take_add_one, next]
  rfl

/-- Whoever comes next has not come before. -/
theorem voter_fresh (poll : Poll past r ballot visits) {n : Nat} {x : Visit}
    (next : visits[n]? = some x) : x.voter ∉ (visits.take n).map fun y => y.voter := by
  have once : (visits.map fun y => y.voter).Nodup :=
    poll.order.nodup_iff.mpr (r.eligible.keys_nodup.filter _)
  have sofar := ((List.take_sublist (n + 1) visits).map fun y => y.voter).nodup once
  rw [take_succ next, List.map_append] at sofar
  intro before
  exact (List.nodup_append.mp sofar).2.2 x.voter before x.voter (List.mem_singleton.mpr rfl) rfl

/-- After any number of ballots the vote runs undecided or has ended. -/
theorem stage (poll : Poll past r ballot visits) (sound : past.Sound) (admits : past.desk.Admits r)
    {n : Nat} (within : n ≤ visits.length) :
    let l := (past.enter (.start r)).visits ⟨r.guild, r.kind⟩ ballot (visits.take n)
    l.Sound ∧ Stage l past.now r past.requests.length ballot (visits.take n) := by
  -- One visit after the other. A vote that runs gets the next ballot, and one that has ended stays
  -- so, since nothing that happens between two visits is about it.
  induction n with
  | zero =>
      obtain ⟨v, holds, either⟩ := Ledger.running_or_ended sound admits ballot
      exact ⟨sound.enter (.start r), poll.stage_of_holds admits (n := 0) holds either⟩
  | succ n ih =>
      obtain ⟨before, stage⟩ := ih (Nat.le_of_succ_le within)
      have next : visits[n]? = some visits[n] := List.getElem?_eq_getElem within
      have longer := take_succ next
      have apart := poll.apart visits[n] (List.getElem_mem within)
      have between := before.after visits[n].meanwhile
      rw [longer, Ledger.visits_append]
      refine ⟨between.enter _, ?_⟩
      cases stage with
      | running v undecided running =>
          have hears := running.hears before apart (poll.early n within) (poll.voter_mem next)
            (poll.voter_fresh next)
          obtain ⟨u, holds, either⟩ := running.visit between hears
          rw [← longer] at holds either ⊢
          exact poll.stage_of_holds admits holds either
      | ended decided ended => exact .ended (decided.append _) (ended.visit before apart)

/-- What can be seen of the vote at a stage. -/
theorem Stage.seen {l : Ledger} {opened ticket : Nat} {voted : List Visit} (sound : l.Sound)
    (stage : Stage l opened r ticket ballot voted) :
    (l.Pending ticket ↔ ¬ Decided r ballot voted) ∧
      ∀ o, l.ResolvedAs ticket o ↔ Decided r ballot voted ∧ o = outcome r ballot := by
  have closed : ∀ o, l.ResolvedAs ticket o → ¬ l.Pending ticket := by
    rintro o ⟨e, member, same, _⟩
    exact sound.settled ticket ⟨e, member, same⟩
  cases stage with
  | running v undecided running =>
      have pending : l.Pending ticket := ⟨_, v, running.found, running.ticket⟩
      refine ⟨iff_of_true pending undecided, ?_⟩
      intro o
      exact iff_of_false (fun resolved => closed o resolved pending) (fun both => undecided both.1)
  | ended decided ended =>
      refine ⟨iff_of_false (closed _ ended.resolved) (not_not.mpr decided), ?_⟩
      intro o
      constructor
      · intro resolved
        exact ⟨decided, resolved.unique sound ended.resolved⟩
      · rintro ⟨_, rfl⟩
        exact ended.resolved

/-- A vote in which everybody who may vote does so in time, in whatever order and whatever else
happens at the desk, ends with the outcome of all ballots together. It is pending as long as the
ballots cast so far leave it open and no longer, the initiator's own ballot among them: the ballot
that decides it is answered with the outcome, and whoever comes later finds no vote. -/
theorem decided_by_ballots {acts : List DeskAct} {r : VoteRequest} {p : VoteProgress}
    {ballot : MemberId → Ballot} {visits : List Visit}
    (accepted : ((Ledger.ofActs acts).desk.start (Ledger.ofActs acts).now r).result = .ok p)
    (poll : Poll (Ledger.ofActs acts) r ballot visits) :
    let past := Ledger.ofActs acts
    let opening := past.enter (.start r)
    let key : VoteKey := ⟨r.guild, r.kind⟩
    let ticket := past.requests.length
    opening.requests[ticket]? = some (past.now, r) ∧
    (∀ o, (opening.visits key ballot visits).ResolvedAs ticket o ↔ o = outcome r ballot) ∧
    ∀ n ≤ visits.length,
      let l := opening.visits key ballot (visits.take n)
      (l.Pending ticket ↔ ¬ Decided r ballot (visits.take n)) ∧
      (∀ o, l.ResolvedAs ticket o ↔ Decided r ballot (visits.take n) ∧ o = outcome r ballot) ∧
      ∀ x, visits[n]? = some x →
        (Decided r ballot (visits.take n) → l.castAt key ballot x = .error .noActiveVote) ∧
        (¬ Decided r ballot (visits.take n) → ∃ q, l.castAt key ballot x = .ok q ∧
          (q.outcome ≠ .pending ↔ Decided r ballot (visits.take (n + 1)))) := by
  intro past opening key ticket
  have sound : past.Sound := Ledger.sound_ofActs acts
  have admits := VoteDesk.admits_of_ok accepted
  refine ⟨?_, ?_, ?_⟩
  · have accepted' : (past.desk.start past.now r).result = .ok p := accepted
    simp only [opening, ticket, Ledger.enter, accepted', Except.isOk, Except.toBool, if_true]
    exact List.getElem?_concat_length
  · intro o
    obtain ⟨after, stage⟩ := poll.stage sound admits (Nat.le_refl visits.length)
    rw [List.take_length] at after stage
    have all : Decided r ballot visits :=
      decisive_of_complete (poll.complete admits) (required_le admits)
    rw [(stage.seen after).2 o]
    exact and_iff_right all
  · intro n within l
    obtain ⟨after, stage⟩ := poll.stage sound admits within
    obtain ⟨pending, resolved⟩ := stage.seen after
    refine ⟨pending, resolved, ?_⟩
    intro x next
    obtain ⟨below, rfl⟩ := List.getElem?_eq_some_iff.mp next
    have apart := poll.apart visits[n] (List.getElem_mem below)
    cases stage with
    | running v undecided running =>
        refine ⟨fun decided => absurd decided undecided, fun _ => ?_⟩
        have hears := running.hears after apart (poll.early n below) (poll.voter_mem next)
          (poll.voter_fresh next)
        obtain ⟨u, holds, answer⟩ := running.castAt hears
        refine ⟨_, answer, ?_⟩
        rw [take_succ next]
        exact decided_iff admits holds
    | ended decided ended =>
        exact ⟨fun _ => ended.castAt after apart, fun undecided => absurd decided undecided⟩

/-- Four members vote on a skip that needs three of them. The initiator has said yes by opening the
vote; after a no and a yes the last ballot decides it. -/
theorem decided_by_ballots_of_four :
    let r : VoteRequest :=
      { guild := ⟨1⟩, kind := .skip, initiator := ⟨1⟩
        eligible := .ofList [⟨1⟩, ⟨2⟩, ⟨3⟩, ⟨4⟩], ratio := 60, timeout := 30000, selfVote := true }
    let ballot : MemberId → Ballot := fun m => if m = ⟨3⟩ then .no else .yes
    let visits : List Visit := [⟨[.lag 1000], ⟨3⟩⟩, ⟨[.timers, .lag 2000], ⟨4⟩⟩, ⟨[], ⟨2⟩⟩]
    let past := Ledger.ofActs [.lag 5000]
    (past.desk.start past.now r).result =
      .ok { kind := .skip, yes := 1, no := 0, eligible := 4, required := 3, outcome := .pending } ∧
    Poll past r ballot visits ∧
    ∀ o, ((past.enter (.start r)).visits ⟨⟨1⟩, .skip⟩ ballot visits).ResolvedAs 0 o ↔
      o = .passed := by
  intro r ballot visits past
  have accepted : (past.desk.start past.now r).result =
      .ok { kind := .skip, yes := 1, no := 0, eligible := 4, required := 3, outcome := .pending } := by
    decide +kernel
  have poll : Poll past r ballot visits := by
    refine ⟨by decide, by decide, ?_, by decide⟩
    simp [visits, DeskAct.Spares]
  have passed : outcome r ballot = .passed := by decide
  refine ⟨accepted, poll, ?_⟩
  rw [← passed]
  exact (decided_by_ballots accepted poll).2.1

end Poll

end Jukebox
