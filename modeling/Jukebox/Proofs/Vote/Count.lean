import Mathlib.Order.Bounds.Defs
import Jukebox.Proofs.Table
import Jukebox.Vote

/-!
The count of one vote. The threshold is the least number that reaches the share; the ballots of a
fair vote come from disjoint sets of eligible members, so the count of those who have not voted is
an exact difference; and a vote that is not decided can still be decided either way.
-/

namespace Jukebox

/-- The numbers of yes ballots that reach a share of the eligible members. -/
def Reaching (eligible ratio : Nat) : Set Nat := { n | 1 ≤ n ∧ eligible * ratio ≤ 100 * n }

/-- The threshold is the least number of yes ballots that reaches the share. -/
theorem requiredVotes_isLeast (eligible ratio : Nat) :
    IsLeast (Reaching eligible ratio) (requiredVotes eligible ratio) := by
  constructor
  · constructor
    · exact Nat.le_max_right _ 1
    · have up : eligible * ratio ≤ 100 * ((eligible * ratio + 99) / 100) := by omega
      exact up.trans (Nat.mul_le_mul_left 100 (Nat.le_max_left _ 1))
  · rintro n ⟨positive, reaches⟩
    apply Nat.max_le.mpr
    refine ⟨?_, positive⟩
    omega

/-- A share of at most all members never asks for more than there are. -/
theorem requiredVotes_le {eligible ratio : Nat} (somebody : 1 ≤ eligible) (share : ratio ≤ 100) :
    requiredVotes eligible ratio ≤ eligible := by
  apply (requiredVotes_isLeast eligible ratio).2
  exact ⟨somebody, by rw [Nat.mul_comm 100]; exact Nat.mul_le_mul_left eligible share⟩

namespace Vote

/-- Every ballot is that of an eligible member who has cast no other. -/
structure Fair (v : Vote) : Prop where
  yes_eligible : v.yes.members ⊆ v.eligible.members
  no_eligible : v.no.members ⊆ v.eligible.members
  disjoint : Disjoint v.yes.members v.no.members

/-- The eligible members who have not voted. -/
def uncast (v : Vote) : List MemberId := v.eligible.keys.filter fun m => !v.hasVoted m

theorem mem_uncast {v : Vote} {m : MemberId} :
    m ∈ v.uncast ↔ v.eligible.contains m = true ∧ v.hasVoted m = false := by
  simp only [uncast, List.mem_filter, Table.mem_keys, Bool.not_eq_true']

theorem uncast_nodup (v : Vote) : v.uncast.Nodup := v.eligible.keys_nodup.filter _

theorem hasVoted_eq_false {v : Vote} {m : MemberId} :
    v.hasVoted m = false ↔ v.yes.contains m = false ∧ v.no.contains m = false := by
  simp only [hasVoted, Bool.or_eq_false_iff]

namespace Fair

variable {v : Vote} (h : v.Fair)
include h

/-- There are at most as many ballots as eligible members, so no count of the others is cut off. -/
theorem ballots_le : v.yes.size + v.no.size ≤ v.eligible.size := by
  rw [← MemberSet.card_members, ← MemberSet.card_members, ← MemberSet.card_members,
    ← Finset.card_union_of_disjoint h.disjoint]
  exact Finset.card_le_card (Finset.union_subset h.yes_eligible h.no_eligible)

/-- Everybody eligible has voted yes, has voted no, or has not voted. -/
theorem length_uncast : v.uncast.length = v.eligible.size - v.yes.size - v.no.size := by
  have parts : v.uncast.toFinset = v.eligible.members \ (v.yes.members ∪ v.no.members) := by
    ext m
    simp only [List.mem_toFinset, mem_uncast, hasVoted_eq_false, Finset.mem_sdiff,
      Finset.mem_union, MemberSet.mem_members, not_or, Bool.not_eq_true]
  have within := Finset.union_subset h.yes_eligible h.no_eligible
  rw [← List.toFinset_card_of_nodup v.uncast_nodup, parts, Finset.card_sdiff_of_subset within,
    Finset.card_union_of_disjoint h.disjoint, MemberSet.card_members, MemberSet.card_members,
    MemberSet.card_members, Nat.sub_sub]

/-- A ballot of an eligible member who has not voted keeps a vote fair. -/
theorem withBallot {m : MemberId} (eligible : v.eligible.contains m = true)
    (fresh : v.hasVoted m = false) (b : Ballot) : (v.withBallot m b).Fair := by
  obtain ⟨notYes, notNo⟩ := hasVoted_eq_false.mp fresh
  have member : m ∈ v.eligible.members := MemberSet.mem_members.mpr eligible
  have outsideYes : m ∉ v.yes.members := by simp [notYes]
  have outsideNo : m ∉ v.no.members := by simp [notNo]
  cases b with
  | yes =>
      refine ⟨?_, h.no_eligible, ?_⟩
      · rw [Vote.withBallot, MemberSet.members_insert]
        exact Finset.insert_subset member h.yes_eligible
      · rw [Vote.withBallot, MemberSet.members_insert]
        exact Finset.disjoint_insert_left.mpr ⟨outsideNo, h.disjoint⟩
  | no =>
      refine ⟨h.yes_eligible, ?_, ?_⟩
      · rw [Vote.withBallot, MemberSet.members_insert]
        exact Finset.insert_subset member h.no_eligible
      · rw [Vote.withBallot, MemberSet.members_insert]
        exact Finset.disjoint_insert_right.mpr ⟨outsideYes, h.disjoint⟩

end Fair

/-- A vote opens fairly when its initiator is eligible. -/
theorem fair_ofRequest {r : VoteRequest} (eligible : r.eligible.contains r.initiator = true)
    (ticket now : Nat) : (ofRequest r ticket now).Fair := by
  refine ⟨?_, Finset.empty_subset _, Finset.disjoint_empty_right _⟩
  unfold ofRequest
  split
  · rw [MemberSet.members_insert]
    exact Finset.insert_subset (MemberSet.mem_members.mpr eligible) (Finset.empty_subset _)
  · exact Finset.empty_subset _

theorem evaluate_eq_pending {v : Vote} :
    v.evaluate = .pending ↔
      v.yes.size < v.required ∧
        v.required ≤ v.yes.size + (v.eligible.size - v.yes.size - v.no.size) := by
  unfold evaluate
  dsimp only
  split
  · simp; omega
  · split
    · simp; omega
    · simp; omega

theorem evaluate_eq_passed {v : Vote} : v.evaluate = .passed ↔ v.required ≤ v.yes.size := by
  unfold evaluate
  dsimp only
  split
  · simp [*]
  · split
    · simp [*]
    · simp [*]

theorem evaluate_eq_failed {v : Vote} :
    v.evaluate = .failed ↔
      v.yes.size < v.required ∧
        v.yes.size + (v.eligible.size - v.yes.size - v.no.size) < v.required := by
  unfold evaluate
  dsimp only
  split
  · simp; omega
  · split
    · simp; omega
    · simp; omega

/-- The count alone never times a vote out and never cancels it. -/
theorem evaluate_cases (v : Vote) :
    v.evaluate = .pending ∨ v.evaluate = .passed ∨ v.evaluate = .failed := by
  unfold evaluate
  dsimp only
  split
  · exact .inr (.inl rfl)
  · split
    · exact .inr (.inr rfl)
    · exact .inl rfl

/-- Nobody has to wait for a vote that cannot pass any more: it never even opens. -/
theorem evaluate_ofRequest_ne_failed {r : VoteRequest} (share : r.ratio ≤ 100)
    (eligible : r.eligible.contains r.initiator = true) (ticket now : Nat) :
    (ofRequest r ticket now).evaluate ≠ .failed := by
  intro failed
  obtain ⟨_, short⟩ := evaluate_eq_failed.mp failed
  have member : r.initiator ∈ r.eligible.members := MemberSet.mem_members.mpr eligible
  have somebody : 1 ≤ r.eligible.size := by
    rw [← MemberSet.card_members]
    exact Finset.card_pos.mpr ⟨_, member⟩
  have enough := requiredVotes_le somebody share
  have counts := (fair_ofRequest eligible ticket now).ballots_le
  simp only [ofRequest, Table.size_empty] at short counts
  omega

end Vote

end Jukebox
