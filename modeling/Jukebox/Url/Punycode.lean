/-!
Punycode: a label outside ASCII in ASCII. The ASCII characters come first, then a hyphen if there
are any, then the insertions of the others in ascending order. Each insertion is a number of
digits to base 36 whose thresholds adapt to the numbers before it.
-/

namespace Jukebox.Url.Punycode

/-- The threshold of the digit with weight index `k`, which counts in steps of 36. -/
def threshold (k bias : Nat) : Nat := if k ≤ bias then 1 else if bias + 26 ≤ k then 26 else k - bias

theorem threshold_pos (k bias : Nat) : 1 ≤ threshold k bias := by
  unfold threshold
  split
  · exact Nat.le_refl 1
  · split <;> omega

/-- Divides by 35 until at most 455 is left, and counts 36 for each division. -/
def shrink (delta k : Nat) : Nat × Nat :=
  if 455 < delta then shrink (delta / 35) (k + 36) else (delta, k)
termination_by delta
decreasing_by exact Nat.div_lt_self (by omega) (by omega)

/-- The bias after an insertion of distance `delta` into a label that then has `points`
characters. -/
def adapt (delta points : Nat) (first : Bool) : Nat :=
  let d := if first then delta / 700 else delta / 2
  let (d, k) := shrink (d + d / points) 0
  k + 36 * d / (d + 38)

def digitChar (d : Nat) : Nat := if d < 26 then 97 + d else 22 + d

def digits (bias k n : Nat) : List Nat :=
  if n < threshold k bias then [digitChar n]
  else
    digitChar (threshold k bias + (n - threshold k bias) % (36 - threshold k bias)) ::
      digits bias (k + 36) ((n - threshold k bias) / (36 - threshold k bias))
termination_by n
decreasing_by
  have hp := threshold_pos k bias
  have hd := Nat.div_le_self (n - threshold k bias) (36 - threshold k bias)
  omega

/-- A state of writing: what has been written, the distance to the next insertion, the bias, and
how many characters have been handled. -/
structure Writer where
  written : List Nat := []
  delta : Nat := 0
  bias : Nat := 72
  handled : Nat

/-- Passes a character of the label while the insertions of `point` are written. -/
def Writer.pass (basic point : Nat) (w : Writer) (c : Nat) : Writer :=
  if c < point then { w with delta := w.delta + 1 }
  else if c = point then
    { written := w.written ++ digits w.bias 36 w.delta
      delta := 0
      bias := adapt w.delta (w.handled + 1) (w.handled = basic)
      handled := w.handled + 1 }
  else w

/-- Writes the insertions of each point in turn, coming from the point before `next`. -/
def Writer.insertAll (label : List Nat) (basic : Nat) (next : Nat) (w : Writer) : List Nat → Writer
  | [] => w
  | point :: points =>
    let reached := { w with delta := w.delta + (point - next) * (w.handled + 1) }
    let passed := label.foldl (Writer.pass basic point) reached
    Writer.insertAll label basic (point + 1) { passed with delta := passed.delta + 1 } points

def maxDecodedLength : Nat := 1000

/-- The ASCII form of a label, without the mark in front. `none` if it is too long. -/
def encode? (label : List Nat) : Option (List Nat) :=
  if maxDecodedLength < label.length then none
  else
    let basic := label.filter (· < 128)
    let points := ((label.filter (128 ≤ ·)).mergeSort (· ≤ ·)).eraseReps
    let w := Writer.insertAll label basic.length 128 { handled := basic.length } points
    some (basic ++ (if basic.isEmpty then [] else [45]) ++ w.written)

def digitValue? (c : Nat) : Option Nat :=
  if 97 ≤ c ∧ c ≤ 122 then some (c - 97)
  else if 65 ≤ c ∧ c ≤ 90 then some (c - 65)
  else if 48 ≤ c ∧ c ≤ 57 then some (c - 22)
  else none

/-- A state of reading: the characters so far, where and what was inserted last, and the number in
progress with the weight of its next digit. -/
structure Scan where
  label : List Nat
  place : Nat := 0
  point : Nat := 128
  bias : Nat := 72
  number : Nat := 0
  weight : Nat := 1
  k : Nat := 36

namespace Scan

def isOpen (s : Scan) : Bool := s.k ≠ 36

/-- Inserts the character that the finished number stands for. -/
def insert? (s : Scan) (number : Nat) : Option Scan :=
  let size := s.label.length + 1
  let reached := s.place + number
  let point := s.point + reached / size
  if point.isValidChar then
    some
      { label := s.label.insertIdx (reached % size) point
        place := reached % size + 1
        point
        bias := adapt number size (s.place = 0) }
  else none

def digit? (s : Scan) (c : Nat) : Option Scan := do
  let d ← digitValue? c
  let number := s.number + d * s.weight
  let t := threshold s.k s.bias
  if d < t then s.insert? number
  else return { s with number, weight := s.weight * (36 - t), k := s.k + 36 }

end Scan

/-- The longest text that is decoded. -/
def maxEncodedLength : Nat := 2000

/-- What precedes the last hyphen and what follows it. A text without a hyphen, or with none but
at its beginning, has nothing before. -/
def splitLastHyphen (cs : List Nat) : List Nat × List Nat :=
  let tail := (cs.reverse.takeWhile (· ≠ 45)).reverse
  let head := cs.take (cs.length - tail.length - 1)
  if head.isEmpty then ([], cs) else (head, tail)

/-- The label whose ASCII form is given, without the mark in front. -/
def decode? (cs : List Nat) : Option (List Nat) := do
  if maxEncodedLength < cs.length then none
  let (basic, rest) := splitLastHyphen cs
  let scanned ← rest.foldlM Scan.digit? { label := basic }
  if scanned.isOpen then none else return scanned.label

end Jukebox.Url.Punycode
