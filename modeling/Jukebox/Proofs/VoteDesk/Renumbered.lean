import Jukebox.Proofs.Session.Renumbered
import Jukebox.Proofs.VoteDesk.Pending

/-!
Votes under other numbers. A vote has a ticket, which only says how many were opened before, and the
number of the entry that it is about. Two desks that hold the same votes of a guild but for these
numbers answer everything about the guild alike, and the same votes are resolved.
-/

namespace Jukebox

/-- The vote with another ticket, about the same entry under other numbers. -/
def Vote.renumber (ρ : Renumbering) (ticket : Nat) (v : Vote) : Vote :=
  { v with ticket, target := v.target.map ρ.entry }

theorem Vote.withBallot_renumber (ρ : Renumbering) (ticket : Nat) (v : Vote) (m : MemberId)
    (b : Ballot) : (v.renumber ρ ticket).withBallot m b = (v.withBallot m b).renumber ρ ticket := by
  cases b with
  | yes | no => rfl

def VoteRequest.renumber (ρ : Renumbering) (r : VoteRequest) : VoteRequest :=
  { r with target := r.target.map ρ.entry }

/-- What matters of a resolved vote: everything but its ticket. -/
def Resolution.unticketed (r : Resolution) : Resolution := { r with ticket := 0 }

def Resolution.renumber (ρ : Renumbering) (r : Resolution) : Resolution :=
  { r with ticket := 0, target := r.target.map ρ.entry }

/-- Two places of a desk hold the same vote under other numbers, or none. -/
def SameVote (ρ : Renumbering) : Option Vote → Option Vote → Prop
  | none, none => True
  | some v, some v' => ∃ ticket, v' = v.renumber ρ ticket
  | _, _ => False

/-- A desk holds the same votes of a guild as another one, under other numbers. -/
def VoteDesk.Mirrors (ρ : Renumbering) (g : GuildId) (d d' : VoteDesk) : Prop :=
  ∀ kind, SameVote ρ (d.pending.get? ⟨g, kind⟩) (d'.pending.get? ⟨g, kind⟩)

/-- What comes of an operation on two such desks. -/
structure DeskOutcome.Mirrors {α : Type} (ρ : Renumbering) (g : GuildId) (o o' : DeskOutcome α) :
    Prop where
  result : o'.result = o.result
  desk : VoteDesk.Mirrors ρ g o.desk o'.desk
  resolved : o'.resolved.map Resolution.unticketed = o.resolved.map (Resolution.renumber ρ)

namespace SameVote

variable {ρ : Renumbering} {x x' y y' : Option Vote}

theorem cases (h : SameVote ρ x x') :
    (x = none ∧ x' = none) ∨ ∃ v ticket, x = some v ∧ x' = some (v.renumber ρ ticket) := by
  cases x with
  | none =>
      cases x' with
      | none => exact .inl ⟨rfl, rfl⟩
      | some v' => exact h.elim
  | some v =>
      cases x' with
      | none => exact h.elim
      | some v' =>
          obtain ⟨ticket, rfl⟩ := h
          exact .inr ⟨v, ticket, rfl, rfl⟩

/-- A place is empty once no vote in it has a property that every vote kept there has. -/
theorem emptied {P : Vote → Prop} (kept : ∀ v, y = some v ↔ x = some v ∧ P v)
    (gone : ∀ v, x = some v → ¬P v) : y = none := by
  refine Option.eq_none_iff_forall_ne_some.mpr fun v there => ?_
  obtain ⟨here, stays⟩ := (kept v).mp there
  exact gone v here stays

/-- Both places are emptied of the votes that do not have a property. -/
theorem filter (h : SameVote ρ x x') {P P' : Vote → Prop}
    (kept : ∀ v, y = some v ↔ x = some v ∧ P v) (kept' : ∀ v, y' = some v ↔ x' = some v ∧ P' v)
    (same : ∀ v ticket, P' (v.renumber ρ ticket) ↔ P v) : SameVote ρ y y' := by
  rcases h.cases with ⟨rfl, rfl⟩ | ⟨v, ticket, rfl, rfl⟩
  · rw [emptied kept nofun, emptied kept' nofun]
    trivial
  · by_cases stays : P v
    · rw [(kept v).mpr ⟨rfl, stays⟩, (kept' _).mpr ⟨rfl, (same v ticket).mpr stays⟩]
      exact ⟨ticket, rfl⟩
    · have gone : ∀ u, some v = some u → ¬P u := by
        rintro _ ⟨⟩
        exact stays
      have gone' : ∀ u, some (v.renumber ρ ticket) = some u → ¬P' u := by
        rintro _ ⟨⟩
        exact fun holds => stays ((same v ticket).mp holds)
      rw [emptied kept gone, emptied kept' gone']
      trivial

end SameVote

namespace VoteDesk

variable {ρ : Renumbering} {g : GuildId} {d d' : VoteDesk}

namespace Mirrors

theorem contains (h : Mirrors ρ g d d') (kind : VoteKind) :
    d'.pending.contains ⟨g, kind⟩ = d.pending.contains ⟨g, kind⟩ := by
  unfold Table.contains
  rcases (h kind).cases with ⟨missing, missing'⟩ | ⟨v, ticket, found, found'⟩
  · rw [missing, missing']
  · rw [found, found']
    rfl

theorem hasPending (h : Mirrors ρ g d d') : d'.hasPending g = d.hasPending g := by
  simp only [VoteDesk.hasPending, h.contains]

theorem progress? (h : Mirrors ρ g d d') (kind : VoteKind) :
    d'.progress? ⟨g, kind⟩ = d.progress? ⟨g, kind⟩ := by
  unfold VoteDesk.progress?
  rcases (h kind).cases with ⟨missing, missing'⟩ | ⟨v, ticket, found, found'⟩
  · rw [missing, missing']
  · rw [found, found']
    rfl

/-- A vote of the guild is put on both desks. -/
theorem put (h : Mirrors ρ g d d') (v : Vote) (ticket : Nat) :
    Mirrors ρ g (d.put v) (d'.put (v.renumber ρ ticket)) := by
  intro kind
  change SameVote ρ ((d.pending.insert v.key v).get? ⟨g, kind⟩)
    ((d'.pending.insert v.key (v.renumber ρ ticket)).get? ⟨g, kind⟩)
  rw [Table.get?_insert, Table.get?_insert]
  split
  · exact ⟨ticket, rfl⟩
  · exact h kind

/-- A vote is taken off both desks. -/
theorem settle (h : Mirrors ρ g d d') (v : Vote) (ticket : Nat) (outcome : VoteOutcome) :
    Mirrors ρ g (d.settle v outcome).1 (d'.settle (v.renumber ρ ticket) outcome).1 := by
  intro kind
  change SameVote ρ ((d.pending.erase v.key).get? ⟨g, kind⟩)
    ((d'.pending.erase v.key).get? ⟨g, kind⟩)
  by_cases here : (⟨g, kind⟩ : VoteKey) = v.key
  · rw [here, Table.get?_erase_self, Table.get?_erase_self]
    trivial
  · rw [Table.get?_erase_ne _ here, Table.get?_erase_ne _ here]
    exact h kind

theorem judge (h : Mirrors ρ g d d') (v : Vote) (ticket : Nat) :
    (d.judge v).Mirrors ρ g (d'.judge (v.renumber ρ ticket)) := by
  by_cases undecided : v.evaluate = .pending
  · have undecided' : (v.renumber ρ ticket).evaluate = .pending := undecided
    rw [judge_pending undecided, judge_pending undecided']
    exact ⟨rfl, h.put v ticket, rfl⟩
  · have decided' : (v.renumber ρ ticket).evaluate ≠ .pending := undecided
    rw [judge_decided undecided, judge_decided decided']
    exact ⟨rfl, h.settle v ticket v.evaluate, rfl⟩

theorem countOpened (h : Mirrors ρ g d d') : Mirrors ρ g d.countOpened d'.countOpened := h

theorem start (h : Mirrors ρ g d d') (now : Nat) {r : VoteRequest} (here : r.guild = g) :
    (d.start now r).Mirrors ρ g (d'.start now (r.renumber ρ)) := by
  subst here
  have free : d'.pending.contains ⟨r.guild, r.kind⟩ = d.pending.contains ⟨r.guild, r.kind⟩ :=
    h.contains r.kind
  have opened := h.countOpened.judge (Vote.ofRequest r d.opened now) d'.opened
  unfold VoteDesk.start
  simp only [VoteRequest.renumber, free]
  split
  · exact ⟨rfl, h, rfl⟩
  · split
    · exact ⟨rfl, h, rfl⟩
    · split
      · exact ⟨rfl, h, rfl⟩
      · exact ⟨congrArg Except.ok opened.result, opened.desk, opened.resolved⟩

theorem cast (h : Mirrors ρ g d d') (now : Nat) (kind : VoteKind) (voter : MemberId) (b : Ballot) :
    (d.cast now ⟨g, kind⟩ voter b).Mirrors ρ g (d'.cast now ⟨g, kind⟩ voter b) := by
  unfold VoteDesk.cast
  rcases (h kind).cases with ⟨missing, missing'⟩ | ⟨v, ticket, found, found'⟩
  · rw [missing, missing']
    exact ⟨rfl, h, rfl⟩
  · rw [found, found']
    have counted := h.judge (v.withBallot voter b) ticket
    have late : (v.renumber ρ ticket).deadline = v.deadline := rfl
    have eligible : (v.renumber ρ ticket).eligible = v.eligible := rfl
    have voted : (v.renumber ρ ticket).hasVoted voter = v.hasVoted voter := rfl
    simp only [late, eligible, voted, Vote.withBallot_renumber]
    split
    · exact ⟨rfl, h.settle v ticket .timedOut, rfl⟩
    · split
      · exact ⟨rfl, h, rfl⟩
      · split
        · exact ⟨rfl, h, rfl⟩
        · exact ⟨congrArg Except.ok counted.result, counted.desk, counted.resolved⟩

theorem cancel (h : Mirrors ρ g d d') (kind : VoteKind) :
    (d.cancel ⟨g, kind⟩).Mirrors ρ g (d'.cancel ⟨g, kind⟩) := by
  unfold VoteDesk.cancel
  rcases (h kind).cases with ⟨missing, missing'⟩ | ⟨v, ticket, found, found'⟩
  · rw [missing, missing']
    exact ⟨rfl, h, rfl⟩
  · rw [found, found']
    exact ⟨rfl, h.settle v ticket .cancelled, rfl⟩

/-- The votes whose deadline has come time out on both desks. -/
theorem expire (h : Mirrors ρ g d d') (keyed : d.Keyed) (keyed' : d'.Keyed) (now : Nat) :
    Mirrors ρ g (d.expire now).1 (d'.expire now).1 := fun kind =>
  (h kind).filter (expire_pending keyed now ⟨g, kind⟩) (expire_pending keyed' now ⟨g, kind⟩)
    fun _ _ => Iff.rfl

/-- All votes of the guild are cancelled on both desks. -/
theorem cancelAll (h : Mirrors ρ g d d') (keyed : d.Keyed) (keyed' : d'.Keyed) :
    Mirrors ρ g (d.cancelAll g).desk (d'.cancelAll g).desk := fun kind =>
  (h kind).filter (cancelAll_pending keyed g ⟨g, kind⟩) (cancelAll_pending keyed' g ⟨g, kind⟩)
    fun _ _ => Iff.rfl

end Mirrors

end VoteDesk

end Jukebox
