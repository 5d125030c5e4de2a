import Mathlib.Data.List.InsertIdx
import Mathlib.Data.List.Perm.Basic
import Jukebox.Queue

/-!
The queue as a plain list. Every operation is described by what stands at which position before and
after it, and by its answer. The description leaves nothing open but the order of a shuffle, and what it
says about exchanging and moving reads the same in both directions, so each of the two undoes itself.
-/

namespace Jukebox

/-- Two different positions of a list. -/
structure SoundPair (length a b : Nat) : Prop where
  differ : a ≠ b
  first : a < length
  second : b < length

/-- Why a pair of positions is refused: equal positions are, in a list of any length, and of
different ones the first that lies outside is reported. -/
inductive PairFault (length : Nat) : Nat → Nat → QueueError → Prop
  | same (a : Nat) : PairFault length a a (.invalidRange a)
  | first {a b : Nat} (differ : a ≠ b) (outside : length ≤ a) :
      PairFault length a b (.outOfBounds a length)
  | second {a b : Nat} (differ : a ≠ b) (inside : a < length) (outside : length ≤ b) :
      PairFault length a b (.outOfBounds b length)

theorem SoundPair.symm {length a b : Nat} (h : SoundPair length a b) : SoundPair length b a :=
  ⟨h.differ.symm, h.second, h.first⟩

namespace PairFault

variable {length a b : Nat} {e : QueueError}

theorem not_sound (h : PairFault length a b e) : ¬ SoundPair length a b := by
  intro sound
  cases h with
  | same => exact sound.differ rfl
  | first _ outside => exact absurd sound.first (Nat.not_lt.mpr outside)
  | second _ _ outside => exact absurd sound.second (Nat.not_lt.mpr outside)

theorem unique {e' : QueueError} (h : PairFault length a b e) (h' : PairFault length a b e') :
    e = e' := by
  cases h with
  | same =>
      cases h' with
      | same => rfl
      | first differ _ | second differ _ _ => exact absurd rfl differ
  | first differ outside =>
      cases h' with
      | same => exact absurd rfl differ
      | first => rfl
      | second _ inside _ => exact absurd inside (Nat.not_lt.mpr outside)
  | second differ inside _ =>
      cases h' with
      | same => exact absurd rfl differ
      | first _ outside => exact absurd inside (Nat.not_lt.mpr outside)
      | second => rfl

/-- A pair that is refused is refused the other way round as well. -/
theorem flipped (h : PairFault length a b e) : ∃ e', PairFault length b a e' := by
  cases h with
  | same => exact ⟨_, .same a⟩
  | first differ outside =>
      by_cases inside : b < length
      · exact ⟨_, .second differ.symm inside outside⟩
      · exact ⟨_, .first differ.symm (Nat.not_lt.mp inside)⟩
  | second differ _ outside => exact ⟨_, .first differ.symm outside⟩

end PairFault

/-- A pair is sound and passes the check, or it is refused for its fault. -/
theorem Queue.checkPair_cases (q : Queue) (a b : Nat) :
    (SoundPair q.entries.length a b ∧ q.checkPair a b = .ok ()) ∨
      ∃ e, PairFault q.entries.length a b e ∧ q.checkPair a b = .error e := by
  unfold checkPair length
  by_cases same : a = b
  · rw [if_pos same, ← same]
    exact .inr ⟨_, .same a, rfl⟩
  · rw [if_neg same]
    by_cases first : q.entries.length ≤ a
    · rw [if_pos first]
      exact .inr ⟨_, .first same first, rfl⟩
    · rw [if_neg first]
      by_cases second : q.entries.length ≤ b
      · rw [if_pos second]
        exact .inr ⟨_, .second same (Nat.not_le.mp first) second, rfl⟩
      · rw [if_neg second]
        exact .inl ⟨⟨same, Nat.not_le.mp first, Nat.not_le.mp second⟩, rfl⟩

section Places

variable {α : Type}

/-- Two positions have changed their elements, and all others are as before. -/
structure Exchanged (a b : Nat) (l l' : List α) : Prop where
  length : l'.length = l.length
  first : l'[a]? = l[b]?
  second : l'[b]? = l[a]?
  others : ∀ i, i ≠ a → i ≠ b → l'[i]? = l[i]?

/-- The element at one position has come to another, and the others follow each other as before. -/
structure Moved (source target : Nat) (l l' : List α) : Prop where
  length : l'.length = l.length
  moved : l'[target]? = l[source]?
  others : l'.eraseIdx target = l.eraseIdx source

/-- One position has lost its element, and those behind it have come one nearer. -/
structure Removed (position : Nat) (l l' : List α) : Prop where
  before : ∀ i, i < position → l'[i]? = l[i]?
  behind : ∀ i, position ≤ i → l'[i]? = l[i + 1]?

variable {l l₁ l₂ : List α}

theorem Exchanged.symm {a b : Nat} (h : Exchanged a b l l₁) : Exchanged a b l₁ l :=
  ⟨h.length.symm, h.second.symm, h.first.symm,
    fun i notFirst notSecond => (h.others i notFirst notSecond).symm⟩

theorem Exchanged.unique {a b : Nat} (h₁ : Exchanged a b l l₁) (h₂ : Exchanged a b l l₂) :
    l₁ = l₂ := by
  ext1 i
  by_cases first : i = a
  · rw [first, h₁.first, h₂.first]
  · by_cases second : i = b
    · rw [second, h₁.second, h₂.second]
    · rw [h₁.others i first second, h₂.others i first second]

theorem exchanged_set {a b : Nat} (differ : a ≠ b) (first : a < l.length) (second : b < l.length) :
    Exchanged a b l ((l.set a l[b]).set b l[a]) where
  length := by simp
  first := by
    rw [List.getElem?_set_ne differ.symm, List.getElem?_set_self first]
    exact (List.getElem?_eq_getElem second).symm
  second := by
    rw [List.getElem?_set_self (by simpa using second)]
    exact (List.getElem?_eq_getElem first).symm
  others := by
    intro i notFirst notSecond
    rw [List.getElem?_set_ne (Ne.symm notSecond), List.getElem?_set_ne (Ne.symm notFirst)]

theorem Moved.symm {source target : Nat} (h : Moved source target l l₁) :
    Moved target source l₁ l :=
  ⟨h.length.symm, h.moved.symm, h.others.symm⟩

/-- A list is known from one element, its position and the list without it. -/
theorem eq_of_eraseIdx_eq {position : Nat} (inside : position < l₁.length)
    (same : l₂[position]? = l₁[position]?) (rest : l₂.eraseIdx position = l₁.eraseIdx position) :
    l₂ = l₁ := by
  obtain ⟨inside₂, element⟩ :=
    List.getElem?_eq_some_iff.mp (same.trans (List.getElem?_eq_getElem inside))
  calc
    l₂ = (l₂.eraseIdx position).insertIdx position l₂[position] :=
      (List.insertIdx_eraseIdx_getElem inside₂).symm
    _ = (l₁.eraseIdx position).insertIdx position l₁[position] := by rw [rest, element]
    _ = l₁ := List.insertIdx_eraseIdx_getElem inside

theorem Moved.unique {source target : Nat} (inside : target < l.length)
    (h₁ : Moved source target l l₁) (h₂ : Moved source target l l₂) : l₁ = l₂ := by
  apply eq_of_eraseIdx_eq (h₂.length.symm ▸ inside)
  · rw [h₁.moved, h₂.moved]
  · rw [h₁.others, h₂.others]

/-- Without the element that moves the list is one shorter, and the target may be its end. -/
theorem le_length_eraseIdx {source target : Nat} (first : source < l.length)
    (second : target < l.length) : target ≤ (l.eraseIdx source).length := by
  rw [List.length_eraseIdx_of_lt first]
  omega

theorem moved_insertIdx {source target : Nat} (first : source < l.length)
    (second : target < l.length) :
    Moved source target l ((l.eraseIdx source).insertIdx target l[source]) := by
  have room := le_length_eraseIdx first second
  refine ⟨?_, ?_, List.eraseIdx_insertIdx_self _⟩
  · rw [List.length_insertIdx_of_le_length room, List.length_eraseIdx_of_lt first]
    exact Nat.sub_add_cancel (Nat.one_le_of_lt first)
  · rw [List.getElem?_insertIdx_self, if_pos room]
    exact (List.getElem?_eq_getElem first).symm

theorem Removed.unique {position : Nat} (h₁ : Removed position l l₁)
    (h₂ : Removed position l l₂) : l₁ = l₂ := by
  ext1 i
  by_cases before : i < position
  · rw [h₁.before i before, h₂.before i before]
  · rw [h₁.behind i (Nat.not_lt.mp before), h₂.behind i (Nat.not_lt.mp before)]

theorem removed_eraseIdx (l : List α) (position : Nat) : Removed position l (l.eraseIdx position) where
  before i before := by rw [List.getElem?_eraseIdx, if_pos before]
  behind i behind := by rw [List.getElem?_eraseIdx, if_neg (Nat.not_lt.mpr behind)]

end Places

namespace Queue

theorem tryEnqueue_cases (q : Queue) (e : Entry) (capacity : Nat) :
    (capacity ≤ q.entries.length ∧ q.tryEnqueue e capacity = .error (.full capacity)) ∨
      q.entries.length < capacity ∧
        q.tryEnqueue e capacity = .ok (q.entries.length, ⟨q.entries ++ [e]⟩) := by
  unfold tryEnqueue
  split
  · next full => exact .inl ⟨full, rfl⟩
  · next room => exact .inr ⟨Nat.not_le.mp room, rfl⟩

theorem swap_cases (q : Queue) (a b : Nat) :
    (∃ e, PairFault q.entries.length a b e ∧ q.swap a b = .error e) ∨
      ∃ (_ : a ≠ b) (first : a < q.entries.length) (second : b < q.entries.length),
        q.swap a b = .ok ⟨(q.entries.set a q.entries[b]).set b q.entries[a]⟩ := by
  unfold swap
  rcases q.checkPair_cases a b with ⟨sound, checked⟩ | ⟨e, fault, checked⟩
  · refine .inr ⟨sound.differ, sound.first, sound.second, ?_⟩
    rw [checked, List.getElem?_eq_getElem sound.first, List.getElem?_eq_getElem sound.second]
    rfl
  · rw [checked]
    exact .inl ⟨e, fault, rfl⟩

theorem move_cases (q : Queue) (source target : Nat) :
    (∃ e, PairFault q.entries.length source target e ∧ q.move source target = .error e) ∨
      ∃ (_ : source ≠ target) (first : source < q.entries.length) (_ : target < q.entries.length),
        q.move source target =
          .ok ⟨(q.entries.eraseIdx source).insertIdx target q.entries[source]⟩ := by
  unfold move
  rcases q.checkPair_cases source target with ⟨sound, checked⟩ | ⟨e, fault, checked⟩
  · refine .inr ⟨sound.differ, sound.first, sound.second, ?_⟩
    rw [checked, List.getElem?_eq_getElem sound.first]
    rfl
  · rw [checked]
    exact .inl ⟨e, fault, rfl⟩

theorem swap_perm {q q' : Queue} {a b : Nat} (done : q.swap a b = .ok q') :
    q'.entries.Perm q.entries := by
  rcases q.swap_cases a b with ⟨e, _, same⟩ | ⟨_, first, second, same⟩
  · rw [same] at done
    cases done
  · rw [same] at done
    cases done
    exact List.set_set_perm first second

theorem move_perm {q q' : Queue} {source target : Nat} (done : q.move source target = .ok q') :
    q'.entries.Perm q.entries := by
  rcases q.move_cases source target with ⟨e, _, same⟩ | ⟨_, first, second, same⟩
  · rw [same] at done
    cases done
  · rw [same] at done
    cases done
    exact (List.perm_insertIdx _ _ (le_length_eraseIdx first second)).trans
      (List.getElem_cons_eraseIdx_perm first)

theorem removeAt_cases (q : Queue) (position : Nat) :
    (q.entries.length ≤ position ∧ q.removeAt position = .error (.notFound position)) ∨
      ∃ e, q.entries[position]? = some e ∧
        q.removeAt position = .ok (e, ⟨q.entries.eraseIdx position⟩) := by
  unfold removeAt
  cases there : q.entries[position]? with
  | none => exact .inl ⟨List.getElem?_eq_none_iff.mp there, rfl⟩
  | some e => exact .inr ⟨e, rfl, rfl⟩

/-- A queue is sifted into the entries of a member and the others, each in the order of before. -/
theorem partition_requester (q : Queue) (m : MemberId) :
    q.entries.partition (fun e => e.requester = m) =
      (q.entries.filter fun e => e.requester = m, q.entries.filter fun e => e.requester ≠ m) := by
  rw [List.partition_eq_filter_filter]
  congr 2
  funext e
  simp

theorem removeByRequester_cases (q : Queue) (m : MemberId) :
    ((∀ e ∈ q.entries, e.requester ≠ m) ∧ q.removeByRequester m = .error (.noTracksFrom m)) ∨
      (q.entries.filter fun e => e.requester = m) ≠ [] ∧
        q.removeByRequester m =
          .ok (q.entries.filter fun e => e.requester = m,
            ⟨q.entries.filter fun e => e.requester ≠ m⟩) := by
  unfold removeByRequester
  rw [partition_requester]
  split
  · next none =>
      refine .inl ⟨?_, rfl⟩
      intro e member
      simpa using List.filter_eq_nil_iff.mp (Prod.mk.inj none).1 e member
  · next found same =>
      obtain ⟨rfl, rfl⟩ := Prod.mk.inj same
      exact .inr ⟨found, rfl⟩

end Queue

end Jukebox
