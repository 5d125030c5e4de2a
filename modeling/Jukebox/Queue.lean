import Jukebox.Error
import Jukebox.Track

/-!
The queue of a guild: its entries in order, addressed by dense positions from zero.

Edits that refer to positions check them first: a pair of equal positions is refused before any
bound is looked at, and otherwise the first of the two that lies outside is reported.
-/

namespace Jukebox

/-- A way to rearrange a list without losing or inventing anything. -/
structure Arrangement where
  apply : List Entry → List Entry
  perm : ∀ l, (apply l).Perm l

/-- The arrangement by ascending entry id. -/
def Arrangement.byId : Arrangement where
  apply l := l.mergeSort fun a b => a.id.val ≤ b.id.val
  perm l := List.mergeSort_perm l _

/-- The entries of a guild that wait to be played, the next one first. -/
structure Queue where
  entries : List Entry := []
deriving DecidableEq, Repr

namespace Queue

def empty : Queue := {}

def length (q : Queue) : Nat := q.entries.length

def isEmpty (q : Queue) : Bool := q.entries.isEmpty

/-- Appends an entry; the result is its position. -/
def enqueue (q : Queue) (e : Entry) : Nat × Queue := (q.length, ⟨q.entries ++ [e]⟩)

/-- Appends an entry unless the queue already holds `capacity` entries. -/
def tryEnqueue (q : Queue) (e : Entry) (capacity : Nat) : Except QueueError (Nat × Queue) :=
  if capacity ≤ q.length then .error (.full capacity) else .ok (q.enqueue e)

def removeAt (q : Queue) (position : Nat) : Except QueueError (Entry × Queue) :=
  match q.entries[position]? with
  | none => .error (.notFound position)
  | some e => .ok (e, ⟨q.entries.eraseIdx position⟩)

def removeByRequester (q : Queue) (member : MemberId) : Except QueueError (List Entry × Queue) :=
  match q.entries.partition (fun e => e.requester = member) with
  | ([], _) => .error (.noTracksFrom member)
  | (removed, kept) => .ok (removed, ⟨kept⟩)

/-- The positions of a pair are different and both in the queue. -/
def checkPair (q : Queue) (a b : Nat) : Except QueueError Unit :=
  if a = b then .error (.invalidRange a)
  else if q.length ≤ a then .error (.outOfBounds a q.length)
  else if q.length ≤ b then .error (.outOfBounds b q.length)
  else .ok ()

def swap (q : Queue) (a b : Nat) : Except QueueError Queue := do
  q.checkPair a b
  match q.entries[a]?, q.entries[b]? with
  | some x, some y => return ⟨(q.entries.set a y).set b x⟩
  | _, _ => return q

/-- Takes the entry at `source` out and puts it back at `target`. -/
def move (q : Queue) (source target : Nat) : Except QueueError Queue := do
  q.checkPair source target
  match q.entries[source]? with
  | some e => return ⟨(q.entries.eraseIdx source).insertIdx target e⟩
  | none => return q

/-- Empties the queue; the result is how many entries were dropped. -/
def clear (q : Queue) : Nat × Queue := (q.length, empty)

def shuffle (q : Queue) (arrangement : Arrangement) : Queue := ⟨arrangement.apply q.entries⟩

def peek? (q : Queue) : Option Entry := q.entries.head?

def pop? (q : Queue) : Option (Entry × Queue) :=
  match q.entries with
  | [] => none
  | e :: rest => some (e, ⟨rest⟩)

/-- The sum of the known durations. `none` when it does not fit a playing time. -/
def totalDuration? (q : Queue) : Option Playtime :=
  Playtime.sum? (q.entries.filterMap (·.metadata.duration))

/-- How many pages of `size` entries show the queue. -/
def pageCount (q : Queue) (size : Nat) : Nat :=
  if size = 0 then 0 else (q.length + size - 1) / size

/-- The entries of a page with their positions. -/
def page (q : Queue) (index size : Nat) : List (Nat × Entry) :=
  ((q.entries.zipIdx.map fun p => (p.2, p.1)).drop (index * size)).take size

end Queue

end Jukebox
