/-!
Playing times: whole seconds below 2^64 and nanoseconds below a second.

A sum of playing times is defined when its exact value still has fewer than 2^64 seconds.
-/

namespace Jukebox

def wordLimit : Nat := UInt64.size

def nanosPerSecond : Nat := 1000000000

/-- A playing time in seconds and nanoseconds. -/
structure Playtime where
  secs : Nat
  nanos : Nat
  secs_lt : secs < wordLimit
  nanos_lt : nanos < nanosPerSecond
deriving DecidableEq, Repr

namespace Playtime

def zero : Playtime := ⟨0, 0, by decide, by decide⟩

/-- The playing time with the given seconds and nanoseconds, where a full second of nanoseconds
is carried into the seconds. `none` when the seconds do not fit a word. -/
def carry? (secs nanos : Nat) : Option Playtime :=
  if h : secs + nanos / nanosPerSecond < wordLimit then
    some ⟨secs + nanos / nanosPerSecond, nanos % nanosPerSecond, h, Nat.mod_lt _ (by decide)⟩
  else none

def toNanos (p : Playtime) : Nat := p.secs * nanosPerSecond + p.nanos

/-- Adds up seconds and nanoseconds apart from each other. `none` as soon as the seconds alone do
not fit a word. -/
def accumulate (secs nanos : Nat) : List Playtime → Option (Nat × Nat)
  | [] => some (secs, nanos)
  | p :: rest =>
    if secs + p.secs < wordLimit then accumulate (secs + p.secs) (nanos + p.nanos) rest
    else none

/-- The sum of playing times. `none` when it does not fit. -/
def sum? (ps : List Playtime) : Option Playtime :=
  (accumulate 0 0 ps).bind fun t => carry? t.1 t.2

end Playtime

end Jukebox
