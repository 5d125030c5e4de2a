import Jukebox.Config
import Jukebox.Presence
import Jukebox.Registry
import Jukebox.Settings.Cache

/-!
The station: the sessions, votes, settings and listeners of all guilds, under one clock.

Every change of a session goes through `Station.apply`, which keeps the gauges, cancels the votes
that the change has made pointless, and publishes the events. A vote that passes leaves its action
in flight; the action runs later and on its own.
-/

namespace Jukebox

/-- What runs the sweep over idle sessions: how often, and when next. -/
structure Sweeper where
  period : Nat
  next : Nat
  /-- How many votes had been opened when the next time was set. Of what is due at one moment, that
  which was set earlier comes first. -/
  opened : Nat
deriving DecidableEq, Repr

structure Station where
  now : Nat := 0
  pageSize : Nat := 10
  /-- How a shuffle rearranges a queue. -/
  arrangement : Arrangement := .byId
  registry : Registry
  settings : SettingsCache := {}
  presence : Presence := {}
  nextEntry : EntryId := ⟨1⟩
  /-- Every event so far, oldest first. -/
  published : List Event := []
  /-- The passed votes whose action has not run yet, in the order in which they passed. -/
  inFlight : List Resolution := []
  sweeper : Option Sweeper := none

namespace Station

def create (config : Config) (repository : Repository) (backend : Backend) : Station where
  pageSize := max config.pageSize 1
  registry := { backend }
  settings := { repository, defaults := config.defaults }

def metrics (s : Station) : Metrics := s.registry.metrics

def desk (s : Station) : VoteDesk := s.registry.desk

def session? (s : Station) (guild : GuildId) : Option Session := s.registry.session? guild

def count (s : Station) (f : Metrics → Metrics) : Station :=
  { s with registry := s.registry.count f }

/-- Puts a desk in place of the station's, with the actions of the votes that passed in flight. -/
def withDesk (s : Station) (desk : VoteDesk) (resolved : List Resolution) : Station :=
  { s with
    registry := { s.registry with desk }
    inFlight := s.inFlight ++ resolved.filter fun r => r.progress.outcome.isPassed }

/-- Publishes an event. A failed track is counted. -/
def publish (s : Station) (e : Event) : Station :=
  let s := if e.isTrackFailed then s.count Metrics.trackFailed else s
  { s with published := s.published ++ [e] }

end Station

/-- Cancels the votes that a change of a session has made pointless: a skip vote when another
entry is loaded, a vote to clear when the queue is empty, a vote to stop when nothing is left. -/
def VoteDesk.cancelMoot (d : VoteDesk) (before after : Session) : VoteDesk :=
  let d :=
    if before.currentId.isSome ∧ after.currentId ≠ before.currentId then
      (d.cancel ⟨after.guild, .skip⟩).desk
    else d
  if after.queue.isEmpty then
    let d := (d.cancel ⟨after.guild, .clearQueue⟩).desk
    if after.isIdle then (d.cancel ⟨after.guild, .stop⟩).desk else d
  else d

namespace Station

def apply {α : Type} (s : Station) (slot : Slot)
    (operation : Backend → Nat → Session → Outcome (Except PlayerError α)) :
    Except PlayerError α × Station :=
  let before := slot.session
  let o := operation s.registry.backend s.now before
  let registry := (s.registry.commit slot o).count fun m =>
    m.queueChanged before.queue.length o.session.queue.length
  let registry := { registry with desk := registry.desk.cancelMoot before o.session }
  (o.result, o.signals.events.foldl publish { s with registry })

/-- Runs an operation on the live session of a guild. -/
def withSession {α : Type} (s : Station) (guild : GuildId)
    (operation : Backend → Nat → Session → Outcome (Except PlayerError α)) :
    Except PlayerError α × Station :=
  match s.registry.live.get? guild with
  | none => (.error (.noSession guild), s)
  | some slot => s.apply slot operation

def viewSession (s : Station) (guild : GuildId) : Except PlayerError Session :=
  match s.session? guild with
  | none => .error (.noSession guild)
  | some session => .ok session

end Station

end Jukebox
