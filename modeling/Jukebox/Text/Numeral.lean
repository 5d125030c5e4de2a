/-!
Decimal numerals with an upper limit.

A numeral is an optional plus sign followed by one or more ASCII digits. Digits are read from
the left, and the first one that is no digit or takes the value past the limit decides the error.
-/

namespace Jukebox.Text

inductive NumeralError
  | empty
  | invalidDigit
  | tooLarge
deriving DecidableEq, Repr

namespace NumeralError

def message : NumeralError → String
  | empty => "cannot parse integer from empty string"
  | invalidDigit => "invalid digit found in string"
  | tooLarge => "number too large to fit in target type"

end NumeralError

def digitValue? (c : Char) : Option Nat :=
  if '0' ≤ c ∧ c ≤ '9' then some (c.toNat - 48) else none

def readDigits (limit : Nat) (value : Nat) : List Char → Except NumeralError Nat
  | [] => .ok value
  | c :: rest =>
    match digitValue? c with
    | none => .error .invalidDigit
    | some d =>
      if value * 10 + d ≤ limit then readDigits limit (value * 10 + d) rest
      else .error .tooLarge

/-- Reads a numeral whose value is at most `limit`. -/
def readNumeral (limit : Nat) : List Char → Except NumeralError Nat
  | [] => .error .empty
  | ['+'] => .error .invalidDigit
  | '+' :: digits => readDigits limit 0 digits
  | digits => readDigits limit 0 digits

/-- Reads the numeral that a text is, without blanks around it. -/
def numeral (limit : Nat) (s : String) : Except NumeralError Nat := readNumeral limit s.toList

theorem readDigits_le {limit value n : Nat} {cs : List Char} (hv : value ≤ limit)
    (h : readDigits limit value cs = .ok n) : n ≤ limit := by
  induction cs generalizing value with
  | nil => simp only [readDigits] at h; injection h with h; omega
  | cons c rest ih =>
    rw [readDigits] at h
    split at h
    · nomatch h
    · split at h
      · exact ih (by assumption) h
      · nomatch h

/-- A numeral that is read lies within the limit. -/
theorem readNumeral_le {limit n : Nat} {cs : List Char} (h : readNumeral limit cs = .ok n) :
    n ≤ limit := by
  unfold readNumeral at h
  split at h
  · nomatch h
  · nomatch h
  · exact readDigits_le (Nat.zero_le _) h
  · exact readDigits_le (Nat.zero_le _) h

theorem numeral_le {limit n : Nat} {s : String} (h : numeral limit s = .ok n) : n ≤ limit :=
  readNumeral_le h

end Jukebox.Text
