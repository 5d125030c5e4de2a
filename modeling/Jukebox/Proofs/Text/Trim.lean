import Mathlib.Data.List.TakeWhile
import Jukebox.Proofs.Text.Words

/-!
Trimming. A text has one core: what is left without the blanks at both ends, which begins and ends with a
character that is not blank, or is empty.
-/

namespace Jukebox.Text

structure Core (cs core : List Char) : Prop where
  around : ∃ lead trail, Blanks lead ∧ Blanks trail ∧ cs = lead ++ (core ++ trail)
  first : ∀ c ∈ core.head?, isBlank c = false
  last : ∀ c ∈ core.getLast?, isBlank c = false

theorem dropWhile_of_first {cs : List Char} (first : ∀ c ∈ cs.head?, isBlank c = false) :
    cs.dropWhile isBlank = cs := by
  cases cs with
  | nil => rfl
  | cons c cs => exact List.dropWhile_cons_of_neg (by simp [first c rfl])

theorem first_of_dropWhile (cs : List Char) :
    ∀ c ∈ (cs.dropWhile isBlank).head?, isBlank c = false := by
  intro c first
  have stops := List.head?_dropWhile_not isBlank cs
  rw [Option.mem_def.mp first] at stops
  simpa using stops

theorem dropWhile_blanks {lead : List Char} (blank : Blanks lead) (cs : List Char) :
    (lead ++ cs).dropWhile isBlank = cs.dropWhile isBlank :=
  List.dropWhile_append_of_pos blank

theorem trimBlanks_of_blanks {cs : List Char} (blank : Blanks cs) : trimBlanks cs = [] := by
  have none : cs.dropWhile isBlank = [] := List.dropWhile_eq_nil_iff.mpr blank
  rw [trimBlanks, none]
  rfl

theorem Blanks.reverse {cs : List Char} (blank : Blanks cs) : Blanks cs.reverse :=
  fun c there => blank c (List.mem_reverse.mp there)

theorem Core.eq_trimBlanks {cs core : List Char} (h : Core cs core) : core = trimBlanks cs := by
  obtain ⟨⟨lead, trail, leading, trailing, rfl⟩, first, last⟩ := h
  rw [trimBlanks, dropWhile_blanks leading]
  by_cases none : core = []
  · subst none
    exact (trimBlanks_of_blanks trailing).symm
  · have front : (core ++ trail).dropWhile isBlank = core ++ trail := by
      refine dropWhile_of_first fun c there => first c ?_
      rwa [List.head?_append, List.head?_eq_some_head none, Option.some_or,
        ← List.head?_eq_some_head none] at there
    have back : core.reverse.dropWhile isBlank = core.reverse := by
      refine dropWhile_of_first fun c there => last c ?_
      rwa [List.head?_reverse] at there
    rw [front, List.reverse_append, dropWhile_blanks trailing.reverse, back, List.reverse_reverse]

theorem core_trimBlanks (cs : List Char) : Core cs (trimBlanks cs) := by
  let front := cs.dropWhile isBlank
  have behind : front = trimBlanks cs ++ (front.reverse.takeWhile isBlank).reverse := by
    rw [trimBlanks, ← List.reverse_append, List.takeWhile_append_dropWhile, List.reverse_reverse]
  refine ⟨⟨cs.takeWhile isBlank, (front.reverse.takeWhile isBlank).reverse, ?_, ?_, ?_⟩, ?_, ?_⟩
  · exact fun c there => List.mem_takeWhile_imp there
  · exact Blanks.reverse fun c there => List.mem_takeWhile_imp there
  · rw [← behind, List.takeWhile_append_dropWhile]
  · intro c there
    refine first_of_dropWhile cs c ?_
    change c ∈ front.head?
    rw [behind, List.head?_append, Option.mem_def.mp there]
    rfl
  · intro c there
    rw [trimBlanks, List.getLast?_reverse] at there
    exact first_of_dropWhile _ c there

/-- The core of a text is what trimming leaves of it, and nothing else. -/
theorem core_iff {cs core : List Char} : Core cs core ↔ core = trimBlanks cs := by
  constructor
  · exact Core.eq_trimBlanks
  · rintro rfl
    exact core_trimBlanks cs

end Jukebox.Text
