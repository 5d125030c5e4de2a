import Jukebox.Text.Blank

/-!
The words of a line. A line falls apart into words and the blanks between them in exactly one way, in which
no word could be longer; whatever blanks words are written with, these words are read back.
-/

namespace Jukebox.Text

def Blanks (cs : List Char) : Prop := ∀ c ∈ cs, isBlank c = true

/-- Characters without a blank among them, at least one. -/
structure IsWord (w : List Char) : Prop where
  some : w ≠ []
  solid : ∀ c ∈ w, isBlank c = false

/-- A word goes on up to a blank or to the end of the line. -/
def Ends (cs : List Char) : Prop := ∀ c ∈ cs.head?, isBlank c = true

/-- The line is these words, with blanks in front of each of them and behind the last. -/
inductive Splits : List Char → List (List Char) → Prop
  | rest {cs : List Char} (blank : Blanks cs) : Splits cs []
  | word {lead w cs : List Char} {ws : List (List Char)} (blank : Blanks lead) (word : IsWord w)
      (ends : Ends cs) (others : Splits cs ws) : Splits (lead ++ (w ++ cs)) (w :: ws)

theorem ends_nil : Ends [] := nofun

theorem ends_cons {c : Char} {cs : List Char} : Ends (c :: cs) ↔ isBlank c = true := by
  simp [Ends]

theorem wordLists_blank {c : Char} (cs : List Char) (blank : isBlank c = true) :
    wordLists (c :: cs) = wordLists cs := by
  cases cs <;> simp [wordLists, blank]

theorem wordLists_alone {c : Char} {cs : List Char} (solid : isBlank c = false) (ends : Ends cs) :
    wordLists (c :: cs) = [c] :: wordLists cs := by
  cases cs with
  | nil => simp [wordLists, solid]
  | cons d rest => simp [wordLists, solid, ends_cons.mp ends]

theorem wordLists_further {c d : Char} {rest w : List Char} {ws : List (List Char)}
    (solid : isBlank c = false) (next : isBlank d = false)
    (others : wordLists (d :: rest) = w :: ws) :
    wordLists (c :: d :: rest) = (c :: w) :: ws := by
  simp [wordLists, solid, next, others]

theorem wordLists_blanks {lead : List Char} (blank : Blanks lead) (cs : List Char) :
    wordLists (lead ++ cs) = wordLists cs := by
  induction lead with
  | nil => rfl
  | cons c lead ih =>
      obtain ⟨first, others⟩ := List.forall_mem_cons.mp blank
      exact (wordLists_blank (lead ++ cs) first).trans (ih others)

theorem wordLists_word {w cs : List Char} (word : IsWord w) (ends : Ends cs) :
    wordLists (w ++ cs) = w :: wordLists cs := by
  obtain ⟨some, solid⟩ := word
  induction w with
  | nil => exact absurd rfl some
  | cons c w ih =>
      obtain ⟨first, others⟩ := List.forall_mem_cons.mp solid
      cases w with
      | nil => exact wordLists_alone first ends
      | cons d w =>
          exact wordLists_further first (others d List.mem_cons_self)
            (ih (List.cons_ne_nil d w) others)

theorem Splits.wordLists_eq {cs : List Char} {ws : List (List Char)} (h : Splits cs ws) :
    wordLists cs = ws := by
  induction h with
  | rest blank =>
      have none := wordLists_blanks blank []
      rwa [List.append_nil] at none
  | word blank word ends others ih => rw [wordLists_blanks blank, wordLists_word word ends, ih]

theorem Splits.cons_blank {c : Char} {cs : List Char} {ws : List (List Char)} (h : Splits cs ws)
    (blank : isBlank c = true) : Splits (c :: cs) ws := by
  cases h with
  | rest blanks => exact .rest (List.forall_mem_cons.mpr ⟨blank, blanks⟩)
  | word blanks word ends others =>
      exact .word (List.forall_mem_cons.mpr ⟨blank, blanks⟩) word ends others

/-- A further character in front of a word makes the word longer. -/
theorem Splits.cons_solid {c d : Char} {cs : List Char} {ws : List (List Char)}
    (h : Splits (d :: cs) ws) (solid : isBlank c = false) (next : isBlank d = false) :
    ∃ w others, ws = w :: others ∧ Splits (c :: d :: cs) ((c :: w) :: others) := by
  generalize line : d :: cs = l at h
  cases h with
  | rest blanks =>
      have blank := blanks d (line ▸ List.mem_cons_self)
      exact absurd blank (by simp [next])
  | @word lead w rest ws blanks word ends others =>
      cases lead with
      | cons e lead =>
          cases line
          exact absurd (blanks d List.mem_cons_self) (by simp [next])
      | nil =>
          have longer : IsWord (c :: w) :=
            ⟨List.cons_ne_nil c w, List.forall_mem_cons.mpr ⟨solid, word.solid⟩⟩
          exact ⟨w, ws, rfl, @Splits.word [] _ _ _ nofun longer ends others⟩

theorem splits_wordLists (cs : List Char) : Splits cs (wordLists cs) := by
  induction cs with
  | nil => exact .rest nofun
  | cons c cs ih =>
      cases solid : isBlank c with
      | true =>
          rw [wordLists_blank cs solid]
          exact ih.cons_blank solid
      | false =>
          by_cases ends : Ends cs
          · have alone : IsWord [c] := ⟨List.cons_ne_nil c [], by simpa using solid⟩
            rw [wordLists_alone solid ends]
            exact @Splits.word [] _ _ _ nofun alone ends ih
          · cases cs with
            | nil => exact absurd ends_nil ends
            | cons d rest =>
                have next : isBlank d = false := by simpa [ends_cons] using ends
                obtain ⟨w, others, same, longer⟩ := ih.cons_solid solid next
                rw [wordLists_further solid next same]
                exact longer

/-- A line falls apart into words in one way. -/
theorem splits_iff {cs : List Char} {ws : List (List Char)} : Splits cs ws ↔ ws = wordLists cs := by
  constructor
  · exact fun h => h.wordLists_eq.symm
  · rintro rfl
    exact splits_wordLists cs

/-- Words written with blanks in front of each. -/
def spaced (parts : List (List Char × List Char)) : List Char :=
  parts.flatMap fun part => part.1 ++ part.2

/-- The blanks before the first word and behind the last may be missing, those between two words may not. -/
structure Spacing (lead trail : List Char) (parts : List (List Char × List Char)) : Prop where
  lead : Blanks lead
  trail : Blanks trail
  between : ∀ part ∈ parts, Blanks part.1 ∧ part.1 ≠ []

theorem ends_spaced {trail : List Char} {parts : List (List Char × List Char)}
    (trailing : Blanks trail) (between : ∀ part ∈ parts, Blanks part.1 ∧ part.1 ≠ []) :
    Ends (spaced parts ++ trail) := by
  cases parts with
  | nil =>
      intro c first
      exact trailing c (List.mem_of_mem_head? first)
  | cons part parts =>
      obtain ⟨⟨blank, some⟩, _⟩ := List.forall_mem_cons.mp between
      obtain ⟨gap, w⟩ := part
      cases gap with
      | nil => exact absurd rfl some
      | cons c gap => exact ends_cons.mpr (blank c List.mem_cons_self)

/-- However words are spaced out on a line, they are the words of the line. -/
theorem wordLists_spaced {lead trail first : List Char} {parts : List (List Char × List Char)}
    (spacing : Spacing lead trail parts) (word : IsWord first)
    (words : ∀ part ∈ parts, IsWord part.2) :
    wordLists (lead ++ (first ++ (spaced parts ++ trail))) = first :: parts.map (·.2) := by
  obtain ⟨leading, trailing, between⟩ := spacing
  rw [wordLists_blanks leading, wordLists_word word (ends_spaced trailing between)]
  congr 1
  clear leading word
  induction parts with
  | nil => exact (Splits.rest trailing).wordLists_eq
  | cons part parts ih =>
      obtain ⟨⟨blank, _⟩, between⟩ := List.forall_mem_cons.mp between
      obtain ⟨word, words⟩ := List.forall_mem_cons.mp words
      have line : spaced (part :: parts) ++ trail =
          part.1 ++ (part.2 ++ (spaced parts ++ trail)) := by
        simp [spaced]
      rw [line, wordLists_blanks blank, wordLists_word word (ends_spaced trailing between),
        ih words between, List.map_cons]

end Jukebox.Text
