import Jukebox.Proofs.VoteDesk.Standing

/-!
Votes that nobody touches. As long as the desk is asked about votes under other keys only, a vote
stays as it is until its deadline, and a key under which nothing is pending stays free.
-/

namespace Jukebox

namespace VoteDesk

theorem cancel_keeps {d : VoteDesk} (h : d.Keyed) {key k : VoteKey} {u : Vote} (other : k ≠ key)
    (found : d.pending.get? k = some u) : (d.cancel key).desk.pending.get? k = some u := by
  rw [cancel_pending h]
  exact Table.get?_erase_eq_some.mpr ⟨other, found⟩

end VoteDesk

/-- The act is about votes under other keys. Time may pass, since a vote has its own deadline. -/
def DeskAct.Spares (key : VoteKey) : DeskAct → Prop
  | .start r => key ≠ ⟨r.guild, r.kind⟩
  | .cast k _ _ => key ≠ k
  | .cancel k => key ≠ k
  | .cancelAll guild => key.guild ≠ guild
  | .advance _ | .lag _ | .timer _ | .timers => True

namespace Ledger

theorem now_le_enter (l : Ledger) (a : DeskAct) : l.now ≤ (l.enter a).now := by
  cases a with
  | start r =>
      simp only [enter]
      split
      · exact Nat.le_refl _
      · exact Nat.le_refl _
  | cast key voter b =>
      simp only [enter]
      split
      · exact Nat.le_refl _
      · exact Nat.le_refl _
  | advance duration | lag duration => exact Nat.le_add_right _ _
  | cancel | cancelAll | timer | timers => exact Nat.le_refl _

theorem now_le_after (l : Ledger) (acts : List DeskAct) : l.now ≤ (l.after acts).now := by
  induction acts generalizing l with
  | nil => exact Nat.le_refl _
  | cons a acts ih => exact (l.now_le_enter a).trans (ih (l.enter a))

section Spared

variable {l : Ledger} {key : VoteKey} {v : Vote}

/-- A spared vote was there before. -/
theorem enter_spared_subset (keyed : l.desk.Keyed) {a : DeskAct} (spares : a.Spares key)
    (found : (l.enter a).desk.pending.get? key = some v) : l.desk.pending.get? key = some v := by
  cases a with
  | start r =>
      rw [start_desk, VoteDesk.start_others l.desk l.now r spares] at found
      exact found
  | cast k voter b =>
      rw [cast_desk, VoteDesk.cast_others keyed l.now voter b spares] at found
      exact found
  | cancel k => exact VoteDesk.cancel_subset keyed k key v found
  | cancelAll guild => exact ((VoteDesk.cancelAll_pending keyed guild key v).mp found).1
  | advance duration => exact VoteDesk.expireAt_subset l.desk _ key v found
  | lag duration => exact found
  | timer ticket => exact ((VoteDesk.timeOut_pending l.desk _ key v).mp found).1
  | timers => exact VoteDesk.expire_subset l.desk l.now key v found

/-- A spared vote stays as it is until its deadline. -/
theorem enter_spared_keeps (keyed : l.desk.Keyed) {a : DeskAct} (spares : a.Spares key)
    (found : l.desk.pending.get? key = some v) (early : (l.enter a).now < v.deadline) :
    (l.enter a).desk.pending.get? key = some v := by
  cases a with
  | start r =>
      rw [start_desk]
      exact VoteDesk.start_keeps found l.now r
  | cast k voter b =>
      rw [cast_desk, VoteDesk.cast_others keyed l.now voter b spares]
      exact found
  | cancel k => exact VoteDesk.cancel_keeps keyed spares found
  | cancelAll guild => exact (VoteDesk.cancelAll_pending keyed guild key v).mpr ⟨found, spares⟩
  | advance duration =>
      exact (VoteDesk.advance_pending keyed (Nat.le_add_right _ _) key v).mpr ⟨found, early⟩
  | lag duration => exact found
  | timer ticket =>
      -- Its timer may be the one that goes off, but there is nothing to do for it yet.
      apply (VoteDesk.timeOut_due_pending keyed l.now (·.ticket = ticket) key v).mpr
      exact ⟨found, fun ⟨_, due⟩ => Nat.not_le.mpr early due⟩
  | timers => exact (VoteDesk.expire_pending keyed l.now key v).mpr ⟨found, early⟩

theorem after_spared_keeps (sound : l.Sound) {acts : List DeskAct}
    (spares : ∀ a ∈ acts, a.Spares key) (found : l.desk.pending.get? key = some v)
    (early : (l.after acts).now < v.deadline) :
    (l.after acts).desk.pending.get? key = some v := by
  induction acts generalizing l with
  | nil => exact found
  | cons a acts ih =>
      obtain ⟨first, later⟩ := List.forall_mem_cons.mp spares
      have soon : (l.enter a).now < v.deadline := (now_le_after _ acts).trans_lt early
      exact ih (sound.enter a) later (enter_spared_keeps sound.keyed first found soon) early

/-- A key under which nothing is pending stays free. -/
theorem after_spared_free (sound : l.Sound) {acts : List DeskAct}
    (spares : ∀ a ∈ acts, a.Spares key) (free : l.desk.pending.get? key = none) :
    (l.after acts).desk.pending.get? key = none := by
  induction acts generalizing l with
  | nil => exact free
  | cons a acts ih =>
      obtain ⟨first, later⟩ := List.forall_mem_cons.mp spares
      apply ih (sound.enter a) later
      apply Option.eq_none_iff_forall_ne_some.mpr
      intro u found
      rw [enter_spared_subset sound.keyed first found] at free
      cases free

end Spared

end Ledger

end Jukebox
