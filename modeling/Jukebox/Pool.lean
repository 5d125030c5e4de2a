/-!
A pool of workers that runs tasks in the order in which they are submitted.

All tasks are submitted at once. A task starts as soon as a worker is free, and the workers are
handed out first come, first served. Each worker is a permit of one semaphore, and a pool that needs
more permits than a semaphore can hold is not made.
-/

namespace Jukebox

structure Span where
  start : Nat
  finish : Nat
deriving DecidableEq, Repr

structure Pool where
  size : Nat
  size_pos : 0 < size
deriving DecidableEq, Repr

namespace Pool

/-- The most permits that a semaphore can hold: three bits of the word that counts them are taken. -/
def maxPermits : Nat := (UInt64.size - 1) / 8

/-- The workers of a pool of the given size, of which there is one at least. Whether there can be a
permit for each is up to `ofSize?`. -/
def ofSize (size : Nat) : Pool := ⟨max size 1, by omega⟩

/-- Makes a pool of the given size. There is none if the semaphore cannot hold a permit for each of its
workers. -/
def ofSize? (size : Nat) : Option Pool :=
  let p := ofSize size
  if p.size ≤ maxPermits then some p else none

theorem ofSize?_eq_some {size : Nat} (fits : max size 1 ≤ maxPermits) :
    ofSize? size = some (ofSize size) := if_pos fits

theorem ofSize?_eq_none {size : Nat} (wide : maxPermits < max size 1) : ofSize? size = none :=
  if_neg (Nat.not_le.mpr wide)

def insertMoment (t : Nat) : List Nat → List Nat
  | [] => [t]
  | u :: rest => if u ≤ t then u :: insertMoment t rest else t :: u :: rest

/-- When a task starts, given when the busy workers get free, in ascending order: at once if there
is a worker that has not been needed yet, and else when the first one gets free. With it, the
workers that stay busy. -/
def assign (p : Pool) (busy : List Nat) : Nat × List Nat :=
  if busy.length < p.size then (0, busy)
  else match busy with
    | [] => (0, [])
    | t :: others => (t, others)

def scheduleFrom (p : Pool) (busy : List Nat) : List Nat → List Span
  | [] => []
  | duration :: rest =>
    let (start, others) := p.assign busy
    ⟨start, start + duration⟩ :: p.scheduleFrom (insertMoment (start + duration) others) rest

def schedule (p : Pool) (durations : List Nat) : List Span := p.scheduleFrom [] durations

/-- How many workers are free at a moment, once what ends at it has ended. -/
def available (p : Pool) (spans : List Span) (moment : Nat) : Nat :=
  p.size - spans.countP fun s => s.start ≤ moment && moment < s.finish

end Pool

end Jukebox
