/-!
Counters of what the program has done, and two gauges of what it holds. The gauges never fall
below zero.
-/

namespace Jukebox

inductive VoteOutcome
  | pending
  | passed
  | failed
  | timedOut
  | cancelled
deriving DecidableEq, Repr

namespace VoteOutcome

def all : List VoteOutcome := [pending, passed, failed, timedOut, cancelled]

def name : VoteOutcome → String
  | pending => "pending"
  | passed => "passed"
  | failed => "failed"
  | timedOut => "timed_out"
  | cancelled => "cancelled"

def isPending (o : VoteOutcome) : Bool := o = pending

def isPassed (o : VoteOutcome) : Bool := o = passed

end VoteOutcome

structure Metrics where
  activeSessions : Nat := 0
  sessionsCreated : Nat := 0
  sessionsEvicted : Nat := 0
  queuedTracks : Nat := 0
  votesStarted : Nat := 0
  votesPassed : Nat := 0
  votesFailed : Nat := 0
  votesCancelled : Nat := 0
  trackFailures : Nat := 0
  commandsHandled : Nat := 0
deriving DecidableEq, Repr

namespace Metrics

def sessionCreated (m : Metrics) : Metrics :=
  { m with
    activeSessions := m.activeSessions + 1
    sessionsCreated := m.sessionsCreated + 1 }

/-- A session that still held `queued` entries was given up. -/
def sessionEvicted (m : Metrics) (queued : Nat) : Metrics :=
  { m with
    activeSessions := m.activeSessions - 1
    queuedTracks := m.queuedTracks - queued
    sessionsEvicted := m.sessionsEvicted + 1 }

def queueChanged (m : Metrics) (before after : Nat) : Metrics :=
  if before < after then { m with queuedTracks := m.queuedTracks + (after - before) }
  else { m with queuedTracks := m.queuedTracks - (before - after) }

def voteStarted (m : Metrics) : Metrics := { m with votesStarted := m.votesStarted + 1 }

/-- A vote reached an outcome. A vote that timed out counts as failed. -/
def voteResolved (m : Metrics) : VoteOutcome → Metrics
  | .passed => { m with votesPassed := m.votesPassed + 1 }
  | .failed | .timedOut => { m with votesFailed := m.votesFailed + 1 }
  | .cancelled => { m with votesCancelled := m.votesCancelled + 1 }
  | .pending => m

def trackFailed (m : Metrics) : Metrics := { m with trackFailures := m.trackFailures + 1 }

def commandHandled (m : Metrics) : Metrics := { m with commandsHandled := m.commandsHandled + 1 }

end Metrics

end Jukebox
