/-!
Finite tables with keys in ascending order.

A key type has a rank in the natural numbers, and distinct keys have distinct ranks. A table is
a list of pairs whose ranks ascend strictly, so two tables with the same lookups are equal.
-/

namespace Jukebox

/-- A type whose members stand in a fixed order, given by an injective rank. -/
class Ranked (κ : Type) where
  rank : κ → Nat
  rank_injective : ∀ {a b : κ}, rank a = rank b → a = b

export Ranked (rank)

theorem rank_inj {κ : Type} [Ranked κ] {a b : κ} : rank a = rank b ↔ a = b :=
  ⟨Ranked.rank_injective, fun h => h ▸ rfl⟩

namespace Assoc

variable {κ α : Type} [Ranked κ]

/-- The value of the first pair with key `k`. -/
def find (k : κ) : List (κ × α) → Option α
  | [] => none
  | (j, a) :: rest => if rank j = rank k then some a else find k rest

/-- Puts a pair where its rank belongs, in place of the pair with the same key. -/
def put (k : κ) (a : α) : List (κ × α) → List (κ × α)
  | [] => [(k, a)]
  | (j, b) :: rest =>
    if rank k < rank j then (k, a) :: (j, b) :: rest
    else if rank k = rank j then (k, a) :: rest
    else (j, b) :: put k a rest

/-- Leaves out the pairs with key `k`. -/
def drop (k : κ) (l : List (κ × α)) : List (κ × α) :=
  l.filter fun p => rank p.1 ≠ rank k

theorem drop_cons_of_eq {k j : κ} (h : rank j = rank k) (a : α) (l : List (κ × α)) :
    drop k ((j, a) :: l) = drop k l := by
  simp [drop, h]

theorem drop_cons_of_ne {k j : κ} (h : rank j ≠ rank k) (a : α) (l : List (κ × α)) :
    drop k ((j, a) :: l) = (j, a) :: drop k l := by
  rw [drop, List.filter_cons_of_pos (by simpa using h)]
  rfl

/-- The ranks of the keys ascend strictly. -/
def Ascending (l : List (κ × α)) : Prop :=
  l.Pairwise fun p q => rank p.1 < rank q.1

theorem mem_put {k : κ} {a : α} {l : List (κ × α)} {p : κ × α} (h : p ∈ put k a l) :
    p = (k, a) ∨ p ∈ l := by
  induction l with
  | nil => simpa [put] using h
  | cons q rest ih =>
    obtain ⟨j, b⟩ := q
    rw [put] at h
    split at h
    · simpa using h
    · split at h
      · rcases List.mem_cons.1 h with h | h
        · exact .inl h
        · exact .inr (List.mem_cons_of_mem _ h)
      · rcases List.mem_cons.1 h with h | h
        · exact .inr (h ▸ List.mem_cons_self)
        · exact (ih h).imp_right (List.mem_cons_of_mem _)

theorem Ascending.put {l : List (κ × α)} (h : Ascending l) (k : κ) (a : α) :
    Ascending (put k a l) := by
  induction l with
  | nil => simp [Assoc.put, Ascending]
  | cons q rest ih =>
    obtain ⟨j, b⟩ := q
    have tail := List.Pairwise.of_cons h
    have below : ∀ p ∈ rest, rank j < rank p.1 := fun p hp => List.rel_of_pairwise_cons h hp
    rw [Assoc.put, Ascending]
    split
    · refine List.Pairwise.cons ?_ h
      intro p hp
      rcases List.mem_cons.1 hp with rfl | hp
      · assumption
      · exact Nat.lt_trans (by assumption) (below p hp)
    · split
      · next same =>
        refine List.Pairwise.cons ?_ tail
        intro p hp
        exact same ▸ below p hp
      · next notBelow notSame =>
        refine List.Pairwise.cons ?_ (ih tail)
        intro p hp
        rcases mem_put hp with rfl | hp
        · simp only; omega
        · exact below p hp

theorem Ascending.drop {l : List (κ × α)} (h : Ascending l) (k : κ) : Ascending (drop k l) :=
  List.Pairwise.filter _ h

theorem find_eq_none_of_below {k : κ} {l : List (κ × α)} (h : ∀ p ∈ l, rank k < rank p.1) :
    find k l = none := by
  induction l with
  | nil => rfl
  | cons q rest ih =>
    have hq := h q List.mem_cons_self
    rw [find, if_neg (by omega)]
    exact ih fun p hp => h p (List.mem_cons_of_mem _ hp)

theorem find_put_self (k : κ) (a : α) (l : List (κ × α)) : find k (put k a l) = some a := by
  induction l with
  | nil => simp [put, find]
  | cons q rest ih =>
    obtain ⟨j, b⟩ := q
    rw [put]
    split
    · simp [find]
    · split
      · simp [find]
      · next h => rw [find, if_neg (fun e => h e.symm)]; exact ih

theorem find_put_ne {k j : κ} (h : j ≠ k) (a : α) (l : List (κ × α)) :
    find j (put k a l) = find j l := by
  have hr : rank k ≠ rank j := fun e => h (rank_inj.1 e.symm)
  induction l with
  | nil => simp [put, find, hr]
  | cons q rest ih =>
    obtain ⟨i, b⟩ := q
    rw [put]
    split
    · rw [find, if_neg hr]
    · split
      · next same => rw [find, find, if_neg hr, if_neg (same ▸ hr)]
      · simp only [find, ih]

theorem find_drop_self (k : κ) (l : List (κ × α)) : find k (drop k l) = none := by
  induction l with
  | nil => rfl
  | cons q rest ih =>
    obtain ⟨j, b⟩ := q
    by_cases h : rank j = rank k
    · rw [drop_cons_of_eq h]; exact ih
    · rw [drop_cons_of_ne h, find, if_neg h]; exact ih

theorem find_drop_ne {k j : κ} (h : j ≠ k) (l : List (κ × α)) : find j (drop k l) = find j l := by
  have hr : rank j ≠ rank k := fun e => h (rank_inj.1 e)
  induction l with
  | nil => rfl
  | cons q rest ih =>
    obtain ⟨i, b⟩ := q
    by_cases hi : rank i = rank k
    · rw [drop_cons_of_eq hi, find, if_neg (fun e : rank i = rank j => hr (e.symm.trans hi))]; exact ih
    · simp only [drop_cons_of_ne hi, find, ih]

theorem find_eq_some_iff {l : List (κ × α)} (h : Ascending l) {k : κ} {a : α} :
    find k l = some a ↔ (k, a) ∈ l := by
  induction l with
  | nil => simp [find]
  | cons q rest ih =>
    obtain ⟨j, b⟩ := q
    have below : ∀ p ∈ rest, rank j < rank p.1 := fun p hp => List.rel_of_pairwise_cons h hp
    have ih := ih (List.Pairwise.of_cons h)
    by_cases hj : rank j = rank k
    · have hjk : j = k := rank_inj.1 hj
      subst hjk
      have : (j, a) ∉ rest := fun hm => Nat.lt_irrefl _ (below _ hm)
      simp [find, this, eq_comm]
    · have hjk : k ≠ j := fun e => hj (e ▸ rfl)
      simp [find, hj, hjk, ih]

theorem length_put_of_none {k : κ} {l : List (κ × α)} (h : find k l = none) (a : α) :
    (put k a l).length = l.length + 1 := by
  induction l with
  | nil => rfl
  | cons q rest ih =>
    obtain ⟨j, b⟩ := q
    have hj : rank j ≠ rank k := by
      intro e; simp [find, e] at h
    have hrest : find k rest = none := by simpa [find, hj] using h
    rw [put]
    split
    · rfl
    · rw [if_neg (fun e => hj e.symm)]
      simp [ih hrest]

theorem length_put_of_some {k : κ} {b : α} {l : List (κ × α)} (h : Ascending l)
    (hb : find k l = some b) (a : α) : (put k a l).length = l.length := by
  induction l with
  | nil => simp [find] at hb
  | cons q rest ih =>
    obtain ⟨j, c⟩ := q
    rw [put]
    by_cases hj : rank j = rank k
    · simp [hj]
    · have hrest : find k rest = some b := by simpa [find, hj] using hb
      have hlt : rank j < rank k :=
        List.rel_of_pairwise_cons h ((find_eq_some_iff (List.Pairwise.of_cons h)).1 hrest)
      rw [if_neg (by omega), if_neg (by omega)]
      simp [ih (List.Pairwise.of_cons h) hrest]

theorem drop_of_none {k : κ} {l : List (κ × α)} (h : find k l = none) : drop k l = l := by
  induction l with
  | nil => rfl
  | cons q rest ih =>
    obtain ⟨j, b⟩ := q
    have hj : rank j ≠ rank k := by
      intro e; simp [find, e] at h
    rw [drop_cons_of_ne hj, ih (by simpa [find, hj] using h)]

theorem length_drop_of_some {k : κ} {b : α} {l : List (κ × α)} (h : Ascending l)
    (hb : find k l = some b) : (drop k l).length + 1 = l.length := by
  induction l with
  | nil => simp [find] at hb
  | cons q rest ih =>
    obtain ⟨j, c⟩ := q
    by_cases hj : rank j = rank k
    · have hnone : find k rest = none :=
        find_eq_none_of_below fun p hp => hj ▸ List.rel_of_pairwise_cons h hp
      rw [drop_cons_of_eq hj, drop_of_none hnone, List.length_cons]
    · have hrest : find k rest = some b := by simpa [find, hj] using hb
      rw [drop_cons_of_ne hj, List.length_cons, List.length_cons, ih (List.Pairwise.of_cons h) hrest]

theorem ext {l m : List (κ × α)} (hl : Ascending l) (hm : Ascending m)
    (h : ∀ k, find k l = find k m) : l = m := by
  induction l generalizing m with
  | nil =>
    cases m with
    | nil => rfl
    | cons q rest => have := h q.1; simp [find] at this
  | cons p rest ih =>
    obtain ⟨j, a⟩ := p
    cases m with
    | nil => have := h j; simp [find] at this
    | cons q rest' =>
      obtain ⟨i, b⟩ := q
      have hj : (j, a) ∈ (i, b) :: rest' :=
        (find_eq_some_iff hm).1 ((h j).symm.trans ((find_eq_some_iff hl).2 List.mem_cons_self))
      have hi : (i, b) ∈ (j, a) :: rest :=
        (find_eq_some_iff hl).1 ((h i).trans ((find_eq_some_iff hm).2 List.mem_cons_self))
      have head : (j, a) = (i, b) := by
        rcases List.mem_cons.1 hj with e | hj
        · exact e
        · rcases List.mem_cons.1 hi with e | hi
          · exact e.symm
          · have h1 := List.rel_of_pairwise_cons hm hj
            have h2 := List.rel_of_pairwise_cons hl hi
            simp only at h1 h2
            omega
      injection head with e1 e2
      subst e1; subst e2
      congr 1
      apply ih (List.Pairwise.of_cons hl) (List.Pairwise.of_cons hm)
      intro k
      by_cases hk : rank j = rank k
      · rw [find_eq_none_of_below fun p hp => hk ▸ List.rel_of_pairwise_cons hl hp,
          find_eq_none_of_below fun p hp => hk ▸ List.rel_of_pairwise_cons hm hp]
      · have := h k
        simpa [find, hk] using this

end Assoc

/-- A finite table: pairs of a key and a value, the keys in ascending order. -/
structure Table (κ α : Type) [Ranked κ] where
  entries : List (κ × α) := []
  ascending : Assoc.Ascending entries := by exact List.Pairwise.nil

namespace Table

variable {κ α : Type} [Ranked κ]

def empty : Table κ α := {}

instance : Inhabited (Table κ α) := ⟨empty⟩

instance [DecidableEq κ] [DecidableEq α] : DecidableEq (Table κ α) := fun t u =>
  if h : t.entries = u.entries then
    .isTrue (by cases t; cases u; cases h; rfl)
  else .isFalse fun e => h (e ▸ rfl)

def get? (t : Table κ α) (k : κ) : Option α := Assoc.find k t.entries

def contains (t : Table κ α) (k : κ) : Bool := (t.get? k).isSome

def insert (t : Table κ α) (k : κ) (a : α) : Table κ α :=
  ⟨Assoc.put k a t.entries, t.ascending.put k a⟩

def erase (t : Table κ α) (k : κ) : Table κ α :=
  ⟨Assoc.drop k t.entries, t.ascending.drop k⟩

/-- The pairs in ascending order of the keys. -/
def toList (t : Table κ α) : List (κ × α) := t.entries

def keys (t : Table κ α) : List κ := t.entries.map (·.1)

def values (t : Table κ α) : List α := t.entries.map (·.2)

def size (t : Table κ α) : Nat := t.entries.length

def isEmpty (t : Table κ α) : Bool := t.entries.isEmpty

/-- The table that holds the given pairs, later ones over earlier ones. -/
def ofList (l : List (κ × α)) : Table κ α := l.foldl (fun t p => t.insert p.1 p.2) empty

@[simp] theorem get?_empty (k : κ) : (empty : Table κ α).get? k = none := rfl

@[simp] theorem get?_insert_self (t : Table κ α) (k : κ) (a : α) :
    (t.insert k a).get? k = some a :=
  Assoc.find_put_self k a t.entries

theorem get?_insert_ne (t : Table κ α) {k j : κ} (h : j ≠ k) (a : α) :
    (t.insert k a).get? j = t.get? j :=
  Assoc.find_put_ne h a t.entries

@[simp] theorem get?_erase_self (t : Table κ α) (k : κ) : (t.erase k).get? k = none :=
  Assoc.find_drop_self k t.entries

theorem get?_erase_ne (t : Table κ α) {k j : κ} (h : j ≠ k) : (t.erase k).get? j = t.get? j :=
  Assoc.find_drop_ne h t.entries

theorem get?_eq_some_iff {t : Table κ α} {k : κ} {a : α} :
    t.get? k = some a ↔ (k, a) ∈ t.toList :=
  Assoc.find_eq_some_iff t.ascending

theorem size_insert_of_none {t : Table κ α} {k : κ} (h : t.get? k = none) (a : α) :
    (t.insert k a).size = t.size + 1 :=
  Assoc.length_put_of_none h a

theorem size_insert_of_some {t : Table κ α} {k : κ} {b : α} (h : t.get? k = some b) (a : α) :
    (t.insert k a).size = t.size :=
  Assoc.length_put_of_some t.ascending h a

theorem size_erase_of_some {t : Table κ α} {k : κ} {b : α} (h : t.get? k = some b) :
    (t.erase k).size + 1 = t.size :=
  Assoc.length_drop_of_some t.ascending h

/-- Tables with the same lookups are equal. -/
theorem ext {t u : Table κ α} (h : ∀ k, t.get? k = u.get? k) : t = u := by
  have he := Assoc.ext t.ascending u.ascending h
  cases t; cases u; cases he; rfl

theorem erase_of_none {t : Table κ α} {k : κ} (h : t.get? k = none) : t.erase k = t := by
  apply ext
  intro j
  by_cases hj : j = k
  · rw [hj, get?_erase_self, h]
  · exact get?_erase_ne t hj

end Table

end Jukebox
