import Jukebox.Config
import Jukebox.Text.Blank

/-!
Numbers as a member writes them. Every number that fits a word has a text that is read back as this
number, so whatever is said of a text that spells a number is said of every such number.
-/

namespace Jukebox.Text

/-- The text, without the blanks around it, is a numeral of the number. -/
def Spells (raw : String) (n : Nat) : Prop := numeral Config.maxWord64 (trim raw) = .ok n

theorem Spells.unique {raw : String} {n n' : Nat} (h : Spells raw n) (h' : Spells raw n') :
    n = n' :=
  Except.ok.inj (h.symm.trans h')

theorem toNat_of_isDigit {c : Char} (digit : c.isDigit = true) : 48 ≤ c.toNat ∧ c.toNat ≤ 57 := by
  simp only [Char.isDigit, Bool.and_eq_true, decide_eq_true_eq] at digit
  exact digit

theorem digitValue?_of_isDigit {c : Char} (digit : c.isDigit = true) :
    digitValue? c = some (c.toNat - '0'.toNat) :=
  if_pos (toNat_of_isDigit digit)

theorem isBlank_of_isDigit {c : Char} (digit : c.isDigit = true) : isBlank c = false := by
  obtain ⟨low, high⟩ := toNat_of_isDigit digit
  simp only [isBlank, Bool.or_eq_false_iff, Bool.and_eq_false_iff, decide_eq_false_iff_not,
    beq_eq_false_iff_ne]
  omega

/-- Further digits do not make a number less. -/
theorem le_ofDigitChars (cs : List Char) (value : Nat) : value ≤ Nat.ofDigitChars 10 cs value := by
  induction cs generalizing value with
  | nil => exact Nat.le_refl value
  | cons c cs ih =>
      rw [Nat.ofDigitChars_cons]
      have first : value ≤ 10 * value + (c.toNat - '0'.toNat) := by omega
      exact Nat.le_trans first (ih _)

theorem readDigits_of_digits {limit value : Nat} {cs : List Char}
    (digits : ∀ c ∈ cs, c.isDigit = true) (fits : Nat.ofDigitChars 10 cs value ≤ limit) :
    readDigits limit value cs = .ok (Nat.ofDigitChars 10 cs value) := by
  induction cs generalizing value with
  | nil => rfl
  | cons c cs ih =>
      obtain ⟨digit, others⟩ := List.forall_mem_cons.mp digits
      rw [Nat.ofDigitChars_cons, Nat.mul_comm] at fits ⊢
      -- What is read so far is no more than the whole, so the limit is not passed on the way.
      have first := Nat.le_trans (le_ofDigitChars cs (value * 10 + (c.toNat - '0'.toNat))) fits
      rw [readDigits, digitValue?_of_isDigit digit]
      dsimp only
      rw [if_pos first]
      exact ih others fits

theorem readNumeral_of_digits {limit : Nat} {cs : List Char} (some : cs ≠ [])
    (digits : ∀ c ∈ cs, c.isDigit = true) (fits : Nat.ofDigitChars 10 cs 0 ≤ limit) :
    readNumeral limit cs = .ok (Nat.ofDigitChars 10 cs 0) := by
  have sign : ('+').isDigit = false := rfl
  rw [← readDigits_of_digits digits fits]
  unfold readNumeral
  split
  · exact absurd rfl some
  · simp [sign] at digits
  · simp [sign] at digits
  · rfl

theorem trimBlanks_of_digits {cs : List Char} (digits : ∀ c ∈ cs, c.isDigit = true) :
    trimBlanks cs = cs := by
  have front {cs : List Char} (digits : ∀ c ∈ cs, c.isDigit = true) : cs.dropWhile isBlank = cs := by
    cases cs with
    | nil => rfl
    | cons c cs =>
        have seen := isBlank_of_isDigit (List.forall_mem_cons.mp digits).1
        exact List.dropWhile_cons_of_neg (by rw [seen]; exact Bool.false_ne_true)
  have back : ∀ c ∈ cs.reverse, c.isDigit = true := by simpa using digits
  rw [trimBlanks, front digits, front back, List.reverse_reverse]

theorem spells_toString {n : Nat} (fits : n ≤ Config.maxWord64) : Spells (toString n) n := by
  have digits : ∀ c ∈ Nat.toDigits 10 n, c.isDigit = true := fun _ =>
    Nat.isDigit_of_mem_toDigits (by decide) (by decide)
  have value : Nat.ofDigitChars 10 (Nat.toDigits 10 n) 0 = n := Nat.ofDigitChars_ten_toDigits
  rw [Spells, numeral, trim, String.toList_ofList, Nat.toString_eq_repr, Nat.toList_repr,
    trimBlanks_of_digits digits, readNumeral_of_digits Nat.toDigits_ne_nil digits (by rwa [value]),
    value]

end Jukebox.Text
