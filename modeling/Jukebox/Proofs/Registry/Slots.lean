import Jukebox.Proofs.Registry.Grounded

/-!
Slots over time. A slot stays in the table while its session changes, and a slot that comes has a
number that none had before. The only way out is to be torn down, and it is a way out for good.
-/

namespace Jukebox

/-- The session in the slot holds nothing. -/
structure Slot.Spent (slot : Slot) : Prop where
  idle : slot.session.status = .idle
  queue : slot.session.queue = .empty
  current : slot.session.current = none

namespace Registry

theorem isTornDown_iff {r : Registry} {ref : SlotRef} :
    r.isTornDown ref = true ↔ ∃ slot ∈ r.retired, slot.ref = ref := by
  simp only [isTornDown, List.any_eq_true, decide_eq_true_eq]

theorem slot?_eq_some {r : Registry} {ref : SlotRef} {slot : Slot} :
    r.slot? ref = some slot ↔ r.live.get? ref.guild = some slot ∧ slot.ref = ref := by
  simp only [slot?, Option.filter_eq_some_iff, decide_eq_true_eq]

theorem slot?_isSome {r : Registry} {ref : SlotRef} :
    (r.slot? ref).isSome ↔ ∃ slot, r.live.get? ref.guild = some slot ∧ slot.ref = ref := by
  simp only [Option.isSome_iff_exists, slot?_eq_some]

/-- No slot is torn down. Those in the table stay there, whatever becomes of their sessions, and
each that comes has a number that was not given out. -/
structure Continues (r r' : Registry) : Prop where
  retired : r'.retired = r.retired
  created : r.created ≤ r'.created
  stays : ∀ g slot, r.live.get? g = some slot →
    ∃ slot', r'.live.get? g = some slot' ∧ slot'.ref = slot.ref
  comes : ∀ g slot', r'.live.get? g = some slot' →
    (∃ slot, r.live.get? g = some slot ∧ slot'.ref = slot.ref) ∨
      (r.live.get? g = none ∧ r.created ≤ slot'.ref.serial ∧ slot'.ref.serial < r'.created)

namespace Continues

theorem of_same {r r' : Registry} (live : r'.live = r.live) (retired : r'.retired = r.retired)
    (created : r'.created = r.created) : r.Continues r' where
  retired := retired
  created := created.ge
  stays _ slot found := ⟨slot, live ▸ found, rfl⟩
  comes _ slot' found := .inl ⟨slot', live ▸ found, rfl⟩

theorem refl (r : Registry) : r.Continues r := .of_same rfl rfl rfl

theorem trans {r r' r'' : Registry} (first : r.Continues r') (last : r'.Continues r'') :
    r.Continues r'' where
  retired := last.retired.trans first.retired
  created := first.created.trans last.created
  stays g slot found := by
    obtain ⟨slot', found', ref'⟩ := first.stays g slot found
    obtain ⟨slot'', found'', ref''⟩ := last.stays g slot' found'
    exact ⟨slot'', found'', ref''.trans ref'⟩
  comes g slot'' found'' := by
    rcases last.comes g slot'' found'' with ⟨slot', found', ref'⟩ | ⟨absent', fresh, numbered⟩
    · rcases first.comes g slot' found' with ⟨slot, found, ref⟩ | ⟨absent, fresh, numbered⟩
      · exact .inl ⟨slot, found, ref'.trans ref⟩
      · rw [← ref'] at fresh numbered
        exact .inr ⟨absent, fresh, numbered.trans_le last.created⟩
    · refine .inr ⟨?_, first.created.trans fresh, numbered⟩
      cases found : r.live.get? g with
      | none => rfl
      | some slot =>
          obtain ⟨slot', found', _⟩ := first.stays g slot found
          rw [absent'] at found'
          cases found'

/-- A slot gets another session, or the same one changed. -/
theorem insert {r r' : Registry} {g : GuildId} {slot : Slot} (found : r.live.get? g = some slot)
    (session : Session) (live : r'.live = r.live.insert g { slot with session })
    (retired : r'.retired = r.retired) (created : r'.created = r.created) : r.Continues r' where
  retired := retired
  created := created.ge
  stays g' slot' found' := by
    rw [live, Table.get?_insert]
    split
    · next here =>
        rw [here, found] at found'
        cases found'
        exact ⟨_, rfl, rfl⟩
    · exact ⟨slot', found', rfl⟩
  comes g' slot' found' := by
    rw [live, Table.get?_insert] at found'
    split at found'
    · next here =>
        cases found'
        exact .inl ⟨slot, here ▸ found, rfl⟩
    · exact .inl ⟨slot', found', rfl⟩

theorem getOrCreate (r : Registry) (now : Nat) (g : GuildId) :
    r.Continues (r.getOrCreate now g).2 := by
  unfold Registry.getOrCreate
  cases absent : r.live.get? g with
  | some slot => exact .refl r
  | none =>
      refine ⟨rfl, Nat.le_succ _, ?_, ?_⟩
      · intro g' slot' found
        have other : g' ≠ g := by
          rintro rfl
          rw [absent] at found
          cases found
        exact ⟨slot', (Table.get?_insert_ne _ other _).trans found, rfl⟩
      · intro g' slot' found
        simp only [count, Table.get?_insert] at found
        split at found
        · next here =>
            cases found
            exact .inr ⟨here ▸ absent, Nat.le_refl _, Nat.lt_succ_self _⟩
        · exact .inl ⟨slot', found, rfl⟩

end Continues

/-- Slots are numbered as they are made, and none is both live and torn down. -/
structure Numbered (r : Registry) : Prop where
  live : ∀ g slot, r.live.get? g = some slot → slot.ref.serial < r.created
  retired : ∀ slot ∈ r.retired, slot.ref.serial < r.created
  apart : ∀ g slot, r.live.get? g = some slot → r.isTornDown slot.ref = false

namespace Numbered

theorem empty (backend : Backend) : ({ backend } : Registry).Numbered := ⟨nofun, nofun, nofun⟩

variable {r : Registry} (h : r.Numbered)
include h

/-- A number that was not given out is not that of a slot that was torn down. -/
theorem not_tornDown {ref : SlotRef} (fresh : r.created ≤ ref.serial) :
    r.isTornDown ref = false := by
  apply Bool.eq_false_iff.mpr
  intro gone
  obtain ⟨slot, member, rfl⟩ := isTornDown_iff.mp gone
  exact Nat.not_le.mpr (h.retired slot member) fresh

theorem slot?_of_tornDown {ref : SlotRef} (gone : r.isTornDown ref = true) : r.slot? ref = none := by
  apply Option.eq_none_iff_forall_ne_some.mpr
  intro slot same
  obtain ⟨found, rfl⟩ := slot?_eq_some.mp same
  rw [h.apart _ slot found] at gone
  cases gone

/-- The slot that a guild gets is not one that was torn down. -/
theorem getOrCreate_not_tornDown (now : Nat) (g : GuildId) :
    r.isTornDown (r.getOrCreate now g).1.ref = false := by
  unfold Registry.getOrCreate
  cases found : r.live.get? g with
  | some slot => exact h.apart g slot found
  | none => exact h.not_tornDown (Nat.le_refl _)

theorem continues {r' : Registry} (step : r.Continues r') : r'.Numbered where
  live g slot' found := by
    rcases step.comes g slot' found with ⟨slot, was, ref⟩ | ⟨_, _, numbered⟩
    · rw [ref]
      exact (h.live g slot was).trans_le step.created
    · exact numbered
  retired slot member := by
    rw [step.retired] at member
    exact (h.retired slot member).trans_le step.created
  apart g slot' found := by
    rw [isTornDown, step.retired]
    rcases step.comes g slot' found with ⟨slot, was, ref⟩ | ⟨_, fresh, _⟩
    · rw [ref]
      exact h.apart g slot was
    · exact h.not_tornDown fresh

theorem tearDown (fits : ∀ g slot, r.live.get? g = some slot → slot.Fits g) {g : GuildId}
    {slot : Slot} (found : r.live.get? g = some slot) : (r.tearDown slot).Numbered := by
  have here : slot.ref.guild = g := (fits g slot found).ref
  have before : ∀ g' slot', (r.tearDown slot).live.get? g' = some slot' →
      g' ≠ g ∧ r.live.get? g' = some slot' := by
    intro g' slot' there
    rw [← here]
    exact Table.get?_erase_eq_some.mp there
  refine ⟨?_, ?_, ?_⟩
  · intro g' slot' there
    exact h.live g' slot' (before g' slot' there).2
  · intro slot' member
    rcases List.mem_cons.mp member with rfl | old
    · exact h.live g slot found
    · exact h.retired slot' old
  · intro g' slot' there
    obtain ⟨other, was⟩ := before g' slot' there
    apply Bool.eq_false_iff.mpr
    intro gone
    obtain ⟨torn, member, same⟩ := isTornDown_iff.mp gone
    rcases List.mem_cons.mp member with rfl | old
    · -- The slots of two guilds are told apart by the guild.
      apply other
      rw [← (fits g' slot' was).ref, ← here]
      exact congrArg SlotRef.guild same.symm
    · have apart := h.apart g' slot' was
      rw [isTornDown_iff.mpr ⟨torn, old, same⟩] at apart
      cases apart

end Numbered

/-- Votes and slots lie under their own keys, each slot has a number of its own, and what was torn
down holds nothing. -/
structure Orderly (r : Registry) : Prop where
  keyed : r.desk.Keyed
  fits : ∀ g slot, r.live.get? g = some slot → slot.Fits g
  numbered : r.Numbered
  spent : ∀ slot ∈ r.retired, slot.Spent

namespace Orderly

theorem empty (backend : Backend) : ({ backend } : Registry).Orderly :=
  ⟨nofun, nofun, .empty backend, nofun⟩

variable {r : Registry} (h : r.Orderly)
include h

theorem continues {r' : Registry} (step : r.Continues r') (keyed : r'.desk.Keyed)
    (fits : ∀ g slot, r'.live.get? g = some slot → slot.Fits g) : r'.Orderly :=
  ⟨keyed, fits, h.numbered.continues step, step.retired ▸ h.spent⟩

theorem getOrCreate (now : Nat) (g : GuildId) : (r.getOrCreate now g).2.Orderly := by
  have step := Continues.getOrCreate r now g
  unfold Registry.getOrCreate at step ⊢
  cases absent : r.live.get? g with
  | some slot => exact h
  | none =>
      simp only [absent] at step
      refine h.continues step h.keyed fun g' slot' found => ?_
      simp only [count, Table.get?_insert] at found
      split at found
      · next here =>
          cases found
          subst here
          exact ⟨rfl, rfl, .create g' now⟩
      · exact h.fits g' slot' found

theorem act {α : Type} {operation : Backend → Nat → Session → Outcome α}
    (turns : TakesTurns operation) (now : Nat) {g : GuildId} {slot : Slot}
    (found : r.live.get? g = some slot) :
    r.Continues (r.act now slot operation).2 ∧ (r.act now slot operation).2.Orderly := by
  obtain ⟨ref, guild, coherent⟩ := h.fits g slot found
  let session := (operation r.backend now slot.session).session
  have live : (r.act now slot operation).2.live = r.live.insert g { slot with session } := by
    rw [← ref]
    rfl
  have step : r.Continues (r.act now slot operation).2 := .insert found session live rfl rfl
  refine ⟨step, h.continues step h.keyed fun g' slot' found' => ?_⟩
  rw [live, Table.get?_insert] at found'
  split at found'
  · next here =>
      cases found'
      obtain ⟨ts, same⟩ := turns r.backend now slot.session
      have changed : session = slot.session.after ts := same
      refine ⟨ref.trans here.symm, ?_, ?_⟩
      · rw [here, ← guild]
        exact (congrArg Session.guild changed).trans (slot.session.after_guild ts)
      · change session.Coherent
        rw [changed]
        exact Session.after_induction (fun _ t h => h.next t) coherent ts
  · exact h.fits g' slot' found'

theorem tearDown {g : GuildId} {slot : Slot} (found : r.live.get? g = some slot) :
    (r.tearDown slot).Orderly where
  keyed := h.keyed.of_subset fun k v there =>
    ((VoteDesk.cancelAll_pending h.keyed slot.ref.guild k v).mp there).1
  fits g' slot' there := h.fits g' slot' (Table.get?_erase_eq_some.mp there).2
  numbered := h.numbered.tearDown h.fits found
  spent slot' member := by
    rcases List.mem_cons.mp member with rfl | old
    · exact ⟨rfl, rfl, rfl⟩
    · exact h.spent slot' old

end Orderly

end Registry

end Jukebox
