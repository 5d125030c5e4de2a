import Jukebox.Station.Basic

/-!
What a listener finds who has not listened for a while: the latest events, and how many older ones
were dropped for want of room.
-/

namespace Jukebox

/-- How many events are kept for a listener. -/
def audienceCapacity : Nat := 256

structure Backlog where
  dropped : Nat
  events : List Event
deriving DecidableEq, Repr

/-- What is kept of a sequence of events. -/
def Backlog.ofEvents (events : List Event) : Backlog where
  dropped := events.length - audienceCapacity
  events := events.drop (events.length - audienceCapacity)

/-- What a listener finds who has heard the first `heard` events. -/
def Station.backlog (s : Station) (heard : Nat) : Backlog := .ofEvents (s.published.drop heard)

end Jukebox
