import Mathlib.Algebra.Order.Floor.Div
import Mathlib.Data.List.Zip
import Jukebox.Queue

/-!
The pages of a queue. A page is a window on the numbered entries, so all pages together show every entry
once and in order, and the place of an entry on its page follows from its position by a division.
-/

namespace Jukebox.Queue

variable (q : Queue)

/-- The entries with their positions, which start at zero. -/
def numbered : List (Nat × Entry) := (List.range q.length).zip q.entries

theorem length_numbered : q.numbered.length = q.length := by
  rw [numbered, List.length_zip, List.length_range]
  exact Nat.min_self _

theorem getElem?_numbered {position : Nat} {e : Entry} (found : q.entries[position]? = some e) :
    q.numbered[position]? = some (position, e) := by
  obtain ⟨inside, rfl⟩ := List.getElem?_eq_some_iff.mp found
  rw [numbered, List.getElem?_zip_eq_some]
  exact ⟨List.getElem?_range inside, found⟩

theorem page_eq (index size : Nat) :
    q.page index size = (q.numbered.drop (index * size)).take size := by
  have same : q.entries.zipIdx.map (fun p => (p.2, p.1)) = q.numbered := by
    rw [numbered, List.range_eq_range', List.zipIdx_eq_zip_range']
    exact List.zip_swap _ _
  rw [page, same]

/-- The first pages together show the first entries. -/
theorem flatMap_page (size n : Nat) :
    (List.range n).flatMap (fun index => q.page index size) = q.numbered.take (n * size) := by
  induction n with
  | zero => simp
  | succ n ih =>
      rw [List.range_succ, List.flatMap_append, ih, Nat.succ_mul, List.take_add, List.flatMap_singleton,
        page_eq]

theorem length_page (index size : Nat) :
    (q.page index size).length = min size (q.length - index * size) := by
  rw [page_eq, List.length_take, List.length_drop, length_numbered]

section Sized

variable {size : Nat} (sized : 0 < size)
include sized

theorem pageCount_eq : q.pageCount size = q.length ⌈/⌉ size := by
  rw [pageCount, if_neg (Nat.ne_of_gt sized), Nat.ceilDiv_eq_add_pred_div]

theorem lt_pages_iff {index : Nat} : index < q.length ⌈/⌉ size ↔ index * size < q.length := by
  rw [← not_le, ceilDiv_le_iff_le_mul sized, not_le, Nat.mul_comm]

/-- As many pages as there are, or more, show the whole queue. -/
theorem flatMap_page_eq_numbered {n : Nat} (enough : q.length ⌈/⌉ size ≤ n) :
    (List.range n).flatMap (fun index => q.page index size) = q.numbered := by
  have covered : q.length ≤ n * size := by
    rwa [ceilDiv_le_iff_le_mul sized, Nat.mul_comm] at enough
  rw [flatMap_page, List.take_of_length_le (by rwa [length_numbered])]

theorem length_page_of_later {index : Nat} (later : index + 1 < q.length ⌈/⌉ size) :
    (q.page index size).length = size := by
  have more := (q.lt_pages_iff sized).mp later
  rw [Nat.succ_mul] at more
  rw [length_page]
  omega

/-- The last page shows something, and no more than a page can. -/
theorem length_page_of_last {index : Nat} (last : index + 1 = q.length ⌈/⌉ size) :
    0 < (q.page index size).length ∧ (q.page index size).length ≤ size := by
  have reached : index * size < q.length := (q.lt_pages_iff sized).mp (by omega)
  rw [length_page]
  omega

theorem getElem?_page (position : Nat) :
    (q.page (position / size) size)[position % size]? = q.numbered[position]? := by
  rw [page_eq, List.getElem?_take_of_lt (Nat.mod_lt _ sized), List.getElem?_drop, Nat.mul_comm,
    Nat.div_add_mod]

end Sized

end Jukebox.Queue
