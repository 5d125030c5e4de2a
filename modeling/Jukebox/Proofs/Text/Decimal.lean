import Mathlib.Data.List.TakeWhile
import Jukebox.Proofs.Text.Numeral

/-!
Which texts are numerals. A text is read as a number if and only if it is an optional plus sign with digits
behind it, at least one, whose value keeps within the limit; leading zeros do not count. Any other text is
turned down, and for which reason depends on the digits that stand at its beginning alone.
-/

namespace Jukebox.Text

/-- The text is an optional plus sign, and then digits of the given value. -/
def Denotes (cs : List Char) (n : Nat) : Prop :=
  ∃ digits, (cs = digits ∨ cs = '+' :: digits) ∧ digits ≠ [] ∧ (∀ c ∈ digits, c.isDigit = true) ∧
    Nat.ofDigitChars 10 digits 0 = n

/-- The text without the plus sign that other characters follow. -/
def unsigned : List Char → List Char
  | '+' :: c :: rest => c :: rest
  | cs => cs

/-- The digits with which the text begins, behind a plus sign. -/
def leadingDigits (cs : List Char) : List Char := (unsigned cs).takeWhile (·.isDigit)

/-- Why a text that is no numeral within the limit is turned down. -/
def complaint (limit : Nat) (cs : List Char) : NumeralError :=
  if cs = [] then .empty
  else if limit < Nat.ofDigitChars 10 (leadingDigits cs) 0 then .tooLarge
  else .invalidDigit

theorem digitValue?_of_not_isDigit {c : Char} (other : c.isDigit = false) :
    digitValue? c = none := by
  refine if_neg fun within => ?_
  simp only [Char.isDigit, Bool.and_eq_false_iff, decide_eq_false_iff_not] at other
  exact other.elim (absurd within.1) (absurd within.2)

/-- Reading stops at the first character that is no digit, or as soon as the value passes the limit. -/
theorem readDigits_eq {limit value : Nat} (small : value ≤ limit) (cs : List Char) :
    readDigits limit value cs =
      if limit < Nat.ofDigitChars 10 (cs.takeWhile (·.isDigit)) value then .error .tooLarge
      else if cs.all (·.isDigit) then .ok (Nat.ofDigitChars 10 cs value)
      else .error .invalidDigit := by
  induction cs generalizing value with
  | nil => simpa [readDigits] using small
  | cons c cs ih =>
      rw [readDigits]
      cases digit : c.isDigit with
      | false =>
          rw [digitValue?_of_not_isDigit digit]
          simpa [digit] using small
      | true =>
          rw [digitValue?_of_isDigit digit, List.takeWhile_cons_of_pos digit, Nat.ofDigitChars_cons,
            Nat.ofDigitChars_cons, Nat.mul_comm 10 value]
          dsimp only
          split
          · next fits =>
              rw [ih fits]
              simp [digit]
          · next large =>
              have more := le_ofDigitChars (cs.takeWhile (·.isDigit))
                (value * 10 + (c.toNat - '0'.toNat))
              rw [if_pos (Nat.lt_of_lt_of_le (Nat.not_le.mp large) more)]

theorem unsigned_of_ne {c : Char} {rest : List Char} (plain : c ≠ '+') :
    unsigned (c :: rest) = c :: rest := by
  unfold unsigned
  split
  · next sign => exact absurd (List.cons.inj sign).1 plain
  · rfl

theorem readNumeral_eq {limit : Nat} {cs : List Char} (some : cs ≠ []) :
    readNumeral limit cs = readDigits limit 0 (unsigned cs) := by
  cases cs with
  | nil => exact absurd rfl some
  | cons c rest =>
      by_cases sign : c = '+'
      · subst sign
        cases rest <;> rfl
      · rw [unsigned_of_ne sign]
        unfold readNumeral
        split
        · next none => cases none
        · next lone => exact absurd (List.cons.inj lone).1 sign
        · next signed => exact absurd (List.cons.inj signed).1 sign
        · rfl

theorem denotes_iff {cs : List Char} {n : Nat} :
    Denotes cs n ↔ unsigned cs ≠ [] ∧ (∀ c ∈ unsigned cs, c.isDigit = true) ∧
      Nat.ofDigitChars 10 (unsigned cs) 0 = n := by
  have sign : ('+').isDigit = false := rfl
  constructor
  · rintro ⟨digits, same | same, some, all, value⟩
    · subst same
      have plain : unsigned cs = cs := by
        unfold unsigned
        split
        · simp [sign] at all
        · rfl
      rw [plain]
      exact ⟨some, all, value⟩
    · subst same
      cases digits with
      | nil => exact absurd rfl some
      | cons c rest => exact ⟨some, all, value⟩
  · rintro ⟨some, all, value⟩
    refine ⟨unsigned cs, ?_, some, all, value⟩
    unfold unsigned
    split
    · exact .inr rfl
    · exact .inl rfl

theorem unsigned_eq_nil {cs : List Char} : unsigned cs = [] ↔ cs = [] := by
  unfold unsigned
  split <;> simp

theorem Denotes.unique {cs : List Char} {n n' : Nat} (h : Denotes cs n) (h' : Denotes cs n') :
    n = n' :=
  (denotes_iff.mp h).2.2.symm.trans (denotes_iff.mp h').2.2

theorem readNumeral_of_denotes {limit n : Nat} {cs : List Char} (h : Denotes cs n)
    (fits : n ≤ limit) : readNumeral limit cs = .ok n := by
  obtain ⟨some, all, rfl⟩ := denotes_iff.mp h
  rw [readNumeral_eq fun none => some (unsigned_eq_nil.mpr none)]
  exact readDigits_of_digits all fits

theorem readNumeral_of_nothing {limit : Nat} {cs : List Char}
    (nothing : ¬ ∃ n, Denotes cs n ∧ n ≤ limit) :
    readNumeral limit cs = .error (complaint limit cs) := by
  by_cases none : cs = []
  · subst none
    rfl
  · have begins : readNumeral limit cs =
        if limit < Nat.ofDigitChars 10 (leadingDigits cs) 0 then .error .tooLarge
        else if (unsigned cs).all (·.isDigit) then .ok (Nat.ofDigitChars 10 (unsigned cs) 0)
        else .error .invalidDigit :=
      (readNumeral_eq none).trans (readDigits_eq (Nat.zero_le limit) (unsigned cs))
    rw [begins, complaint, if_neg none]
    by_cases large : limit < Nat.ofDigitChars 10 (leadingDigits cs) 0
    · rw [if_pos large, if_pos large]
    · rw [if_neg large, if_neg large, if_neg]
      intro digits
      have all := List.all_eq_true.mp digits
      rw [leadingDigits, List.takeWhile_eq_self_iff.mpr all] at large
      have some : unsigned cs ≠ [] := fun empty => none (unsigned_eq_nil.mp empty)
      exact nothing ⟨_, denotes_iff.mpr ⟨some, all, rfl⟩, Nat.not_lt.mp large⟩

/-- A text is read if it is a numeral of a number within the limit, and otherwise turned down. -/
theorem numeral_cases (limit : Nat) (s : String) :
    (∃ n, Denotes s.toList n ∧ n ≤ limit ∧ numeral limit s = .ok n) ∨
    (¬ ∃ n, Denotes s.toList n ∧ n ≤ limit) ∧
      numeral limit s = .error (complaint limit s.toList) := by
  by_cases some : ∃ n, Denotes s.toList n ∧ n ≤ limit
  · obtain ⟨n, is, fits⟩ := some
    exact .inl ⟨n, is, fits, readNumeral_of_denotes is fits⟩
  · exact .inr ⟨some, readNumeral_of_nothing some⟩

theorem denotes_toString (n : Nat) : Denotes (toString n).toList n := by
  refine ⟨(toString n).toList, .inl rfl, ?_, ?_, ?_⟩ <;> rw [Nat.toString_eq_repr, Nat.toList_repr]
  · exact Nat.toDigits_ne_nil
  · exact fun _ => Nat.isDigit_of_mem_toDigits (by decide) (by decide)
  · exact Nat.ofDigitChars_ten_toDigits

end Jukebox.Text
