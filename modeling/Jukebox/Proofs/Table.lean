import Mathlib.Algebra.GroupWithZero.Nat
import Mathlib.Data.Finset.Card
import Mathlib.Data.Finset.Dedup
import Jukebox.Id

/-!
Tables as finite maps, and sets of members as finite sets in the sense of Mathlib.
-/

namespace Jukebox

namespace Table

variable {κ α : Type} [Ranked κ]

theorem get?_insert [DecidableEq κ] (t : Table κ α) (k j : κ) (a : α) :
    (t.insert k a).get? j = if j = k then some a else t.get? j := by
  by_cases h : j = k
  · rw [h, get?_insert_self, if_pos rfl]
  · rw [get?_insert_ne t h, if_neg h]

theorem insert_of_some {t : Table κ α} {k : κ} {a : α} (h : t.get? k = some a) :
    t.insert k a = t := by
  apply ext
  intro j
  by_cases same : j = k
  · rw [same, get?_insert_self, h]
  · exact get?_insert_ne t same a

/-- What a table holds after a removal, it held before under another key. -/
theorem get?_erase_eq_some {t : Table κ α} {k j : κ} {a : α} :
    (t.erase k).get? j = some a ↔ j ≠ k ∧ t.get? j = some a := by
  constructor
  · intro h
    by_cases same : j = k
    · rw [same, get?_erase_self] at h
      cases h
    · exact ⟨same, get?_erase_ne t same ▸ h⟩
  · rintro ⟨other, h⟩
    rw [get?_erase_ne t other, h]

theorem erase_insert (t : Table κ α) (k : κ) (a : α) : (t.insert k a).erase k = t.erase k := by
  apply ext
  intro j
  by_cases h : j = k
  · rw [h, get?_erase_self, get?_erase_self]
  · rw [get?_erase_ne _ h, get?_erase_ne _ h, get?_insert_ne _ h]

theorem contains_iff {t : Table κ α} {k : κ} : t.contains k = true ↔ ∃ a, t.get? k = some a :=
  Option.isSome_iff_exists

theorem contains_eq_false {t : Table κ α} {k : κ} : t.contains k = false ↔ t.get? k = none :=
  Option.isSome_eq_false_iff.trans Option.isNone_iff_eq_none

theorem contains_insert [DecidableEq κ] (t : Table κ α) (k j : κ) (a : α) :
    (t.insert k a).contains j = true ↔ j = k ∨ t.contains j = true := by
  simp only [contains, get?_insert]
  split
  · simp_all
  · simp_all

theorem contains_erase (t : Table κ α) (k j : κ) :
    (t.erase k).contains j = true ↔ j ≠ k ∧ t.contains j = true := by
  simp only [contains_iff, get?_erase_eq_some, exists_and_left]

theorem isEmpty_iff {t : Table κ α} : t.isEmpty = true ↔ ∀ k, t.contains k = false := by
  rw [isEmpty, List.isEmpty_iff, List.eq_nil_iff_forall_not_mem]
  constructor
  · intro none k
    apply contains_eq_false.mpr
    cases there : t.get? k with
    | none => rfl
    | some a => exact absurd (get?_eq_some_iff.mp there) (none (k, a))
  · rintro none ⟨k, a⟩ member
    have there := contains_eq_false.mp (none k)
    rw [get?_eq_some_iff.mpr member] at there
    cases there

theorem mem_values {t : Table κ α} {a : α} : a ∈ t.values ↔ ∃ k, t.get? k = some a := by
  simp only [values, List.mem_map, get?_eq_some_iff, toList]
  constructor
  · rintro ⟨p, member, rfl⟩
    exact ⟨p.1, member⟩
  · rintro ⟨k, member⟩
    exact ⟨(k, a), member, rfl⟩

theorem mem_keys {t : Table κ α} {k : κ} : k ∈ t.keys ↔ t.contains k = true := by
  simp only [keys, List.mem_map, contains_iff, get?_eq_some_iff, toList]
  constructor
  · rintro ⟨p, member, rfl⟩
    exact ⟨p.2, member⟩
  · rintro ⟨a, member⟩
    exact ⟨(k, a), member, rfl⟩

theorem keys_nodup (t : Table κ α) : t.keys.Nodup := by
  apply List.pairwise_map.mpr
  apply t.ascending.imp
  intro p q below same
  rw [same] at below
  exact Nat.lt_irrefl _ below

theorem toList_nodup (t : Table κ α) : t.toList.Nodup := t.keys_nodup.of_map

/-- What a table holds is what it holds under one key and what is left without that key. -/
theorem toList_perm_of_some {t : Table κ α} {k : κ} {a : α} (h : t.get? k = some a) :
    t.toList.Perm ((k, a) :: (t.erase k).toList) := by
  have missing : (k, a) ∉ (t.erase k).toList := by
    intro member
    have there := get?_eq_some_iff.mpr member
    rw [get?_erase_self] at there
    cases there
  apply (List.perm_ext_iff_of_nodup t.toList_nodup
    (List.nodup_cons.mpr ⟨missing, (t.erase k).toList_nodup⟩)).mpr
  rintro ⟨j, b⟩
  rw [List.mem_cons, ← get?_eq_some_iff, ← get?_eq_some_iff, get?_erase_eq_some, Prod.mk.injEq]
  by_cases same : j = k
  · simp [same, h, eq_comm]
  · simp [same]

/-- The table without some of its keys. -/
def without (t : Table κ α) (ks : List κ) : Table κ α := ks.foldl erase t

theorem get?_without [DecidableEq κ] (t : Table κ α) (ks : List κ) (j : κ) :
    (t.without ks).get? j = if j ∈ ks then none else t.get? j := by
  induction ks generalizing t with
  | nil => rfl
  | cons k ks ih =>
      change ((t.erase k).without ks).get? j = _
      rw [ih]
      by_cases same : j = k
      · rw [same, get?_erase_self]
        simp
      · rw [get?_erase_ne t same]
        simp [same]

theorem without_append (t : Table κ α) (ks js : List κ) :
    t.without (ks ++ js) = (t.without ks).without js := List.foldl_append

theorem without_congr [DecidableEq κ] (t : Table κ α) {ks js : List κ}
    (same : ∀ k, k ∈ ks ↔ k ∈ js) : t.without ks = t.without js := by
  apply ext
  intro k
  rw [get?_without, get?_without, if_congr (same k) rfl rfl]

/-- The sum of a measure of the values. -/
def total (t : Table κ α) (f : α → Nat) : Nat := (t.values.map f).sum

theorem total_erase_of_some {t : Table κ α} {k : κ} {a : α} (h : t.get? k = some a)
    (f : α → Nat) : (t.erase k).total f + f a = t.total f := by
  have summed := (((toList_perm_of_some h).map (·.2)).map f).sum_nat
  rw [List.map_cons, List.map_cons, List.sum_cons] at summed
  rw [Nat.add_comm]
  exact summed.symm

theorem total_insert_of_none {t : Table κ α} {k : κ} (h : t.get? k = none) (a : α)
    (f : α → Nat) : (t.insert k a).total f = t.total f + f a := by
  rw [← total_erase_of_some (t.get?_insert_self k a) f, erase_insert, erase_of_none h]

theorem total_insert_of_some {t : Table κ α} {k : κ} {b : α} (h : t.get? k = some b) (a : α)
    (f : α → Nat) : (t.insert k a).total f + f b = t.total f + f a := by
  rw [← total_erase_of_some (t.get?_insert_self k a) f, erase_insert, ← total_erase_of_some h f]
  exact Nat.add_right_comm _ _ _

theorem le_total {t : Table κ α} {k : κ} {a : α} (h : t.get? k = some a) (f : α → Nat) :
    f a ≤ t.total f := by
  rw [← total_erase_of_some h f]
  exact Nat.le_add_left _ _

theorem size_pos_of_some {t : Table κ α} {k : κ} {a : α} (h : t.get? k = some a) : 0 < t.size := by
  rw [← size_erase_of_some h]
  exact Nat.succ_pos _

@[simp] theorem length_keys (t : Table κ α) : t.keys.length = t.size := List.length_map _

@[simp] theorem size_empty : (empty : Table κ α).size = 0 := rfl

end Table

namespace MemberSet

def members (s : MemberSet) : Finset MemberId := s.keys.toFinset

@[simp] theorem mem_members {s : MemberSet} {m : MemberId} :
    m ∈ s.members ↔ s.contains m = true := by
  rw [members, List.mem_toFinset, Table.mem_keys]

@[simp] theorem card_members (s : MemberSet) : s.members.card = s.size := by
  rw [members, List.toFinset_card_of_nodup s.keys_nodup, Table.length_keys]

@[simp] theorem members_insert (s : MemberSet) (m : MemberId) :
    members (Table.insert s m ()) = insert m s.members := by
  ext n
  rw [mem_members, Table.contains_insert, Finset.mem_insert, mem_members]

theorem size_insert_of_absent {s : MemberSet} {m : MemberId} (h : s.contains m = false) :
    (Table.insert s m ()).size = s.size + 1 :=
  Table.size_insert_of_none (Table.contains_eq_false.mp h) ()

end MemberSet

end Jukebox
