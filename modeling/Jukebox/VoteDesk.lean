import Jukebox.Vote

/-!
The desk where votes are held: the pending votes of all guilds, how many votes were opened so far,
and the counters. An operation that resolves votes reports them, each with the count of that
moment, and takes them off the desk in the same step.
-/

namespace Jukebox

structure VoteDesk where
  pending : Table VoteKey Vote := .empty
  opened : Nat := 0
  metrics : Metrics := {}

/-- The desk after an operation, its result, and the votes that it resolved. -/
structure DeskOutcome (α : Type) where
  result : α
  desk : VoteDesk
  resolved : List Resolution := []

namespace VoteDesk

/-- Takes a vote off the desk under an outcome and counts it. -/
def settle (d : VoteDesk) (v : Vote) (outcome : VoteOutcome) : VoteDesk × Resolution :=
  ({ d with
      pending := d.pending.erase v.key
      metrics := d.metrics.voteResolved outcome },
    v.resolve outcome)

/-- Resolves a vote if its count decides it, and keeps it on the desk otherwise. -/
def judge (d : VoteDesk) (v : Vote) : DeskOutcome VoteProgress :=
  match v.evaluate with
  | .pending => { result := v.progress, desk := { d with pending := d.pending.insert v.key v } }
  | outcome =>
    let (desk, resolution) := d.settle v outcome
    { result := resolution.progress, desk, resolved := [resolution] }

/-- Opens a vote. The initiator's own ballot may already decide it. -/
def start (d : VoteDesk) (now : Nat) (r : VoteRequest) :
    DeskOutcome (Except PlayerError VoteProgress) :=
  if r.ratio < 1 ∨ 100 < r.ratio then
    { result := .error (.validation ("vote ratio " ++ toString r.ratio ++ " is outside 1-100"))
      desk := d }
  else if !r.eligible.contains r.initiator then { result := .error .notEligible, desk := d }
  else if d.pending.contains ⟨r.guild, r.kind⟩ then
    { result :=
        .error (.stateConflict ("a " ++ r.kind.display ++ " vote is already in progress"))
      desk := d }
  else
    let opened :=
      { d with opened := d.opened + 1, metrics := d.metrics.voteStarted }
    let o := opened.judge (Vote.ofRequest r d.opened now)
    { result := .ok o.result, desk := o.desk, resolved := o.resolved }

/-- Casts a ballot. A vote whose deadline has come times out instead. -/
def cast (d : VoteDesk) (now : Nat) (key : VoteKey) (voter : MemberId) (ballot : Ballot) :
    DeskOutcome (Except PlayerError VoteProgress) :=
  match d.pending.get? key with
  | none => { result := .error .noActiveVote, desk := d }
  | some v =>
    if v.deadline ≤ now then
      let (desk, resolution) := d.settle v .timedOut
      { result := .error .noActiveVote, desk, resolved := [resolution] }
    else if !v.eligible.contains voter then { result := .error .notEligible, desk := d }
    else if v.hasVoted voter then { result := .error .alreadyVoted, desk := d }
    else
      let o := d.judge (v.withBallot voter ballot)
      { result := .ok o.result, desk := o.desk, resolved := o.resolved }

/-- Cancels a pending vote. The result says whether there was one. -/
def cancel (d : VoteDesk) (key : VoteKey) : DeskOutcome Bool :=
  match d.pending.get? key with
  | none => { result := false, desk := d }
  | some v =>
    let (desk, resolution) := d.settle v .cancelled
    { result := true, desk, resolved := [resolution] }

/-- Cancels the pending votes of a guild that have one of the kinds. -/
def cancelKinds (d : VoteDesk) (guild : GuildId) : List VoteKind → DeskOutcome Nat
  | [] => { result := 0, desk := d }
  | kind :: kinds =>
    let first := d.cancel ⟨guild, kind⟩
    let others := first.desk.cancelKinds guild kinds
    { result := (if first.result then 1 else 0) + others.result
      desk := others.desk
      resolved := first.resolved ++ others.resolved }

/-- Cancels every pending vote of a guild. The result is how many there were. -/
def cancelAll (d : VoteDesk) (guild : GuildId) : DeskOutcome Nat :=
  d.cancelKinds guild VoteKind.all

def progress? (d : VoteDesk) (key : VoteKey) : Option VoteProgress :=
  (d.pending.get? key).map (·.progress)

def hasPending (d : VoteDesk) (guild : GuildId) : Bool :=
  VoteKind.all.any fun kind => d.pending.contains ⟨guild, kind⟩

def overdue (d : VoteDesk) (now : Nat) : List Vote :=
  d.pending.values.filter fun v => v.deadline ≤ now

/-- Takes votes off the desk, one after the other, as timed out. -/
def timeOut (d : VoteDesk) : List Vote → VoteDesk × List Resolution
  | [] => (d, [])
  | v :: votes =>
    let (first, resolution) := d.settle v .timedOut
    let (last, resolutions) := first.timeOut votes
    (last, resolution :: resolutions)

/-- Every pending vote among the first `count` opened whose deadline has come times out. -/
def expireFirst (d : VoteDesk) (now count : Nat) : VoteDesk × List Resolution :=
  d.timeOut ((d.overdue now).filter fun v => v.ticket < count)

/-- Every pending vote whose deadline has come times out. -/
def expire (d : VoteDesk) (now : Nat) : VoteDesk × List Resolution := d.timeOut (d.overdue now)

/-- The moments up to `target` at which a vote on the desk is due, in order, none before `now`. -/
def dueTimes (d : VoteDesk) (now target : Nat) : List Nat :=
  ((d.overdue target).map fun v => max now v.deadline).mergeSort (· ≤ ·)

/-- Lets votes time out at the given moments, one after the other. -/
def expireAt (d : VoteDesk) : List Nat → VoteDesk × List (Nat × Resolution)
  | [] => (d, [])
  | moment :: moments =>
    let (first, resolved) := d.expire moment
    let (last, later) := first.expireAt moments
    (last, resolved.map (fun r => (moment, r)) ++ later)

/-- Lets the time pass to `target`. Votes time out at their own moments, in order; each resolution
comes with its moment. -/
def advance (d : VoteDesk) (now target : Nat) : VoteDesk × List (Nat × Resolution) :=
  d.expireAt (d.dueTimes now target)

end VoteDesk

end Jukebox
