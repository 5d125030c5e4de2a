/-!
Tables of character properties, written as text.

A table is a sequence of ranges of code points in hexadecimal, each with what it means: refused
(`x`), ignored (`i`), every second character mapped to the next (`~`), mapped to a sequence of
targets (`>`), a decomposition that is not undone (`!`), or a number (`=`).
-/

namespace Jukebox.Unicode

/-- What a range of characters means. -/
inductive Meaning
  | refused
  | ignored
  | alternating
  | targets (ts : List Nat)
  | excluded (ts : List Nat)
  | constant (n : Nat)
deriving DecidableEq, Repr

structure Range where
  first : Nat
  last : Nat
  meaning : Meaning
deriving Repr

def hexDigit? (c : Char) : Option Nat :=
  if '0' ≤ c ∧ c ≤ '9' then some (c.toNat - 48)
  else if 'a' ≤ c ∧ c ≤ 'f' then some (c.toNat - 87)
  else none

/-- A state of reading: the ranges read so far, latest first, and the one in progress. -/
structure Reader where
  ranges : List Range := []
  first : Nat := 0
  last : Option Nat := none
  mark : Option Char := none
  targets : List Nat := []

namespace Reader

def close (r : Reader) : Reader :=
  let range (m : Meaning) : Reader :=
    { ranges := ⟨r.first, r.last.getD r.first, m⟩ :: r.ranges }
  match r.mark with
  | some 'x' => range .refused
  | some 'i' => range .ignored
  | some '~' => range .alternating
  | some '>' => range (.targets r.targets.reverse)
  | some '!' => range (.excluded r.targets.reverse)
  | some '=' => range (.constant (r.targets.head?.getD 0))
  | _ => { ranges := r.ranges }

/-- Takes in a hexadecimal digit: of a target after a mark, of the end of the range after a dash,
and of its beginning otherwise. -/
def digit (r : Reader) (d : Nat) : Reader :=
  match r.mark, r.targets, r.last with
  | some _, t :: ts, _ => { r with targets := (t * 16 + d) :: ts }
  | some _, [], _ => { r with targets := [d] }
  | none, _, some l => { r with last := some (l * 16 + d) }
  | none, _, none => { r with first := r.first * 16 + d }

def step (r : Reader) (c : Char) : Reader :=
  match hexDigit? c with
  | some d => r.digit d
  | none =>
    if c = '-' then { r with last := some 0 }
    else if c = '.' then { r with targets := 0 :: r.targets }
    else if c = ' ' ∨ c = '\n' then r.close
    else { r with mark := some c }

end Reader

/-- The ranges of a table in ascending order. -/
structure Table where
  ranges : List Range

namespace Table

def read (text : String) : Table :=
  ⟨((text.toList.foldl Reader.step {}).close).ranges.reverse⟩

/-- The range that holds a character: its beginning and its meaning. -/
def find? (t : Table) (c : Nat) : Option (Nat × Meaning) :=
  (t.ranges.find? fun r => r.first ≤ c ∧ c ≤ r.last).map fun r => (r.first, r.meaning)

/-- The first character of the first range with a meaning. -/
def firstOf? (t : Table) (m : Meaning) : Option Nat :=
  (t.ranges.find? fun r => r.meaning = m).map (·.first)

end Table

end Jukebox.Unicode
