import Jukebox.Error
import Jukebox.Metrics

/-!
Votes on disruptive actions.

A vote asks a fixed set of members whether an action shall be taken. It passes as soon as enough
of them have said yes, fails as soon as those who have not voted can no longer bring it there,
and otherwise times out at its deadline. This module holds one vote and its count.
-/

namespace Jukebox

inductive VoteKind
  | skip
  | stop
  | clearQueue
deriving DecidableEq, Repr

namespace VoteKind

def all : List VoteKind := [skip, stop, clearQueue]

/-- The place of the kind among all kinds. -/
def index : VoteKind → Nat
  | skip => 0
  | stop => 1
  | clearQueue => 2

def name : VoteKind → String
  | skip => "skip"
  | stop => "stop"
  | clearQueue => "clear_queue"

def display : VoteKind → String
  | skip => "skip"
  | stop => "stop"
  | clearQueue => "clear-queue"

def ofWord? (word : String) : Option VoteKind :=
  match word with
  | "skip" => some skip
  | "stop" => some stop
  | "clear" | "clear-queue" | "clearqueue" => some clearQueue
  | _ => none

end VoteKind

inductive Ballot
  | yes
  | no
deriving DecidableEq, Repr

/-- A guild has at most one pending vote of a kind. -/
structure VoteKey where
  guild : GuildId
  kind : VoteKind
deriving DecidableEq, Repr

instance : Ranked VoteKey where
  rank k := rank k.guild * 3 + k.kind.index
  rank_injective {a b} h := by
    obtain ⟨g, k⟩ := a
    obtain ⟨g', k'⟩ := b
    have hk : k.index < 3 := by cases k <;> decide
    have hk' : k'.index < 3 := by cases k' <;> decide
    simp only at h
    have hg : rank g = rank g' := by omega
    have hi : k.index = k'.index := by omega
    have hkk : k = k' := by
      cases k <;> cases k' <;> first | rfl | (simp [VoteKind.index] at hi)
    rw [rank_inj.1 hg, hkk]

/-- The count of a vote at some moment. -/
structure VoteProgress where
  kind : VoteKind
  yes : Nat
  no : Nat
  eligible : Nat
  required : Nat
  outcome : VoteOutcome
deriving DecidableEq, Repr

/-- What it takes to open a vote. -/
structure VoteRequest where
  guild : GuildId
  kind : VoteKind
  initiator : MemberId
  eligible : MemberSet
  /-- The share of the eligible members that must say yes, in percent. -/
  ratio : Nat
  /-- How long the vote may stay open, in milliseconds. -/
  timeout : Nat
  /-- Whether the initiator says yes by opening the vote. -/
  selfVote : Bool
  /-- The entry that the vote is about, for a kind that is about one. -/
  target : Option EntryId := none

/-- How many must say yes: the given share of the eligible members, rounded up, and at least one. -/
def requiredVotes (eligible ratio : Nat) : Nat := max ((eligible * ratio + 99) / 100) 1

structure Vote where
  key : VoteKey
  /-- The place of the vote among all that were opened. -/
  ticket : Nat
  initiator : MemberId
  eligible : MemberSet
  yes : MemberSet := .empty
  no : MemberSet := .empty
  required : Nat
  deadline : Nat
  target : Option EntryId := none

/-- A vote that has reached its outcome, with the count of that moment. -/
structure Resolution where
  key : VoteKey
  ticket : Nat
  initiator : MemberId
  progress : VoteProgress
  target : Option EntryId := none
deriving DecidableEq, Repr

namespace Vote

/-- The vote that a request opens. The clock is taken never to run out: `now + timeout` is a moment
however long the timeout, where a clock of finite range could not tell the deadline. -/
def ofRequest (r : VoteRequest) (ticket now : Nat) : Vote where
  key := ⟨r.guild, r.kind⟩
  ticket
  initiator := r.initiator
  eligible := r.eligible
  yes := if r.selfVote then Table.empty.insert r.initiator () else .empty
  required := requiredVotes r.eligible.size r.ratio
  deadline := now + r.timeout
  target := r.target

def progress (v : Vote) (outcome : VoteOutcome := .pending) : VoteProgress where
  kind := v.key.kind
  yes := v.yes.size
  no := v.no.size
  eligible := v.eligible.size
  required := v.required
  outcome

/-- The outcome that the count implies, whatever the deadline. -/
def evaluate (v : Vote) : VoteOutcome :=
  let uncast := v.eligible.size - v.yes.size - v.no.size
  if v.required ≤ v.yes.size then .passed
  else if v.yes.size + uncast < v.required then .failed
  else .pending

def hasVoted (v : Vote) (m : MemberId) : Bool := v.yes.contains m || v.no.contains m

def withBallot (v : Vote) (m : MemberId) : Ballot → Vote
  | .yes => { v with yes := v.yes.insert m () }
  | .no => { v with no := v.no.insert m () }

/-- The vote as one that has reached an outcome. -/
def resolve (v : Vote) (outcome : VoteOutcome) : Resolution where
  key := v.key
  ticket := v.ticket
  initiator := v.initiator
  progress := v.progress outcome
  target := v.target

end Vote

end Jukebox
