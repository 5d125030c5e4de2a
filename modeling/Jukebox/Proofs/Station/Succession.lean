import Jukebox.Proofs.Registry.Slots
import Jukebox.Proofs.Station.Grounded

/-!
Sessions and entries over time. The session that a guild gets after its slot was torn down is another
one. Entries are numbered as they come, so a later session holds only later entries.
-/

namespace Jukebox

namespace Station

theorem apply_numbered {α : Type} {s : Station} (h : s.registry.Numbered)
    (grounded : s.registry.Grounded) {g : GuildId} {slot : Slot}
    (found : s.registry.live.get? g = some slot)
    (operation : Backend → Nat → Session → Outcome (Except PlayerError α)) :
    (s.apply slot operation).2.registry.Numbered := by
  have here : slot.ref.guild = g := (grounded.fits g slot found).ref
  apply h.continues
  apply Registry.Continues.insert found (s.outcomeIn slot operation).session
  · rw [apply_eq, here]
  · rw [apply_eq]
  · rw [apply_eq]

theorem kept_numbered : Kept fun s => s.registry.Numbered where
  opens _ h := h.continues (.of_same rfl rfl rfl)
  numbers _ h := h
  adds _ _ grounded found h := apply_numbered h grounded found _
  move grounded step h := by
    cases step with
    | works found _ => exact apply_numbered h grounded found _
    | makes _ => exact h.continues (.getOrCreate _ _ _)
    | givesUp found => exact h.tearDown grounded.fits found
    | casts | cancels | timesOut => exact h.continues (.of_same rfl rfl rfl)
    | takes _ => exact h
    | aside same => exact h.continues (.of_same same.live same.retired same.created)

/-- The live sessions of the second station are those of the first, less some and changed, and
fresh ones. Besides what they held before they hold only what was brought. -/
def Heirs (brought : List Entry) (s s' : Station) : Prop :=
  ∀ g slot', s'.registry.live.get? g = some slot' →
    slot'.session.held ⊆ brought ∨
    ∃ slot, s.registry.live.get? g = some slot ∧ slot.ref = slot'.ref ∧
      slot'.session.held ⊆ brought ++ slot.session.held

theorem heirs_of_same {s s' : Station} (live : s'.registry.live = s.registry.live) :
    Heirs [] s s' := by
  intro g slot' there
  rw [live] at there
  exact .inr ⟨slot', there, rfl, List.Subset.refl _⟩

theorem Heirs.trans {brought : List Entry} {s t u : Station} (first : Heirs [] s t)
    (second : Heirs brought t u) : Heirs brought s u := by
  intro g slot'' there
  rcases second g slot'' there with fresh | ⟨slot', found', ref', held'⟩
  · exact .inl fresh
  · rcases first g slot' found' with fresh | ⟨slot, found, ref, held⟩
    · refine .inl ?_
      rw [List.subset_nil.mp fresh, List.append_nil] at held'
      exact held'
    · refine .inr ⟨slot, found, ref.trans ref', List.Subset.trans held' ?_⟩
      apply List.append_subset.mpr
      exact ⟨List.subset_append_left _ _, List.subset_append_of_subset_right _ held⟩

theorem apply_heirs {α : Type} {s : Station} {g : GuildId} {slot : Slot}
    (grounded : s.registry.Grounded) (found : s.registry.live.get? g = some slot)
    {operation : Backend → Nat → Session → Outcome (Except PlayerError α)} {brought : List Entry}
    (holds : (s.outcomeIn slot operation).session.held ⊆ brought ++ slot.session.held) :
    Heirs brought s (s.apply slot operation).2 := by
  intro g' slot' there
  have here : slot.ref.guild = g := (grounded.fits g slot found).ref
  rw [apply_eq, here, Table.get?_insert] at there
  split at there
  · next same =>
      cases there
      exact .inr ⟨slot, same ▸ found, rfl, holds⟩
  · exact .inr ⟨slot', there, rfl, List.subset_append_right _ _⟩

theorem getOrCreate_heirs (s : Station) (g : GuildId) :
    Heirs [] s { s with registry := (s.registry.getOrCreate s.now g).2 } := by
  cases found : s.registry.live.get? g with
  | some slot =>
      simp only [Registry.getOrCreate, found]
      exact heirs_of_same rfl
  | none =>
      intro g' slot' there
      simp only [Registry.getOrCreate, found, Registry.count, Table.get?_insert] at there
      split at there
      · cases there
        exact .inl (List.nil_subset _)
      · exact .inr ⟨slot', there, rfl, List.Subset.refl _⟩

theorem Move.heirs {s s' : Station} (grounded : s.registry.Grounded) (move : Move s s') :
    Heirs [] s s' ∧ s'.nextEntry = s.nextEntry := by
  cases move with
  | works found keeps =>
      refine ⟨apply_heirs grounded found (keeps.held _ _ _), ?_⟩
      rw [apply_eq]
  | makes => exact ⟨s.getOrCreate_heirs _, rfl⟩
  | givesUp found =>
      refine ⟨?_, rfl⟩
      intro g' slot' there
      exact .inr ⟨slot', (Table.get?_erase_eq_some.mp there).2, rfl, List.Subset.refl _⟩
  | casts | cancels | timesOut | takes => exact ⟨heirs_of_same rfl, rfl⟩
  | aside same => exact ⟨heirs_of_same same.live, same.nextEntry⟩

theorem Moves.heirs {s s' : Station} (grounded : s.registry.Grounded) (moves : Moves s s') :
    Heirs [] s s' ∧ s'.nextEntry = s.nextEntry := by
  induction moves with
  | refl => exact ⟨heirs_of_same rfl, rfl⟩
  | tail before step ih =>
      obtain ⟨heirs, number⟩ := step.heirs (Moves.grounded grounded before)
      exact ⟨ih.1.trans heirs, number.trans ih.2⟩

/-- An act brings one entry at most, under the number that is next. -/
theorem next_heirs {s : Station} (grounded : s.registry.Grounded) (a : StationAct) :
    (Heirs [] s (s.next a) ∧ (s.next a).nextEntry = s.nextEntry) ∨
    ∃ e, e.id = s.nextEntry ∧ Heirs [e] s (s.next a) ∧
      (s.next a).nextEntry = s.nextEntry.next := by
  rcases s.next_cases a with ⟨g, kind, m, rfl⟩ | ⟨g, m, track, metadata, rfl⟩ | steps
  · rw [next, handle]
    rcases s.startVote_cases g kind m with ⟨e, settings, same⟩ | ⟨settings, _, q, _, _, _, _, same⟩
    · rw [same]
      exact .inl ⟨heirs_of_same rfl, rfl⟩
    · rw [same]
      exact .inl ⟨heirs_of_same rfl, rfl⟩
  · rw [next, handle]
    rcases s.enqueue_cases g m track metadata with
      ⟨e, settings, same⟩ | ⟨settings, capacity, e, number, same⟩
    · rw [same]
      exact .inl ⟨heirs_of_same rfl, rfl⟩
    · obtain ⟨grounded', found⟩ := prepared_grounded grounded g settings
      have made : Heirs [] s (s.prepared g settings) := s.getOrCreate_heirs g
      have added : Heirs [e] (s.prepared g settings)
          ((s.prepared g settings).apply (s.registry.getOrCreate s.now g).1
            (Session.enqueue e capacity)).2 :=
        apply_heirs grounded' found (Session.enqueue_held e capacity _ _ _)
      rw [same]
      refine .inr ⟨e, number, made.trans added, ?_⟩
      rw [apply_eq]
      rfl
  · exact .inl (steps.heirs grounded)

/-- The number of the next entry. All smaller ones were given out. -/
def nextNumber (s : Station) : Nat := s.nextEntry.val.toNat

/-- Every entry in a live session has a number that was given out. -/
def Dated (s : Station) : Prop :=
  ∀ g slot, s.registry.live.get? g = some slot → ∀ e ∈ slot.session.held,
    e.id.val.toNat < s.nextNumber

/-- Each live session was live then, or holds only entries that came later. -/
structure Since (past s : Station) : Prop where
  number : past.nextNumber ≤ s.nextNumber
  slots : ∀ g slot', s.registry.live.get? g = some slot' →
    (∃ slot, past.registry.live.get? g = some slot ∧ slot.ref = slot'.ref) ∨
    ∀ e ∈ slot'.session.held, past.nextNumber ≤ e.id.val.toNat

theorem Since.refl (s : Station) : Since s s :=
  ⟨Nat.le_refl _, fun _ slot found => .inl ⟨slot, found, rfl⟩⟩

section Room

variable {s : Station} (grounded : s.registry.Grounded) (room : s.nextNumber + 1 < UInt64.size)
include grounded room

theorem next_brings (a : StationAct) :
    ∃ brought, Heirs brought s (s.next a) ∧ s.nextNumber ≤ (s.next a).nextNumber ∧
      (s.next a).nextNumber ≤ s.nextNumber + 1 ∧
      ∀ e ∈ brought, e.id.val.toNat = s.nextNumber ∧ s.nextNumber < (s.next a).nextNumber := by
  rcases next_heirs grounded a with ⟨heirs, number⟩ | ⟨e, number, heirs, next⟩
  · have same : (s.next a).nextNumber = s.nextNumber := congrArg (fun n => n.val.toNat) number
    rw [same]
    exact ⟨[], heirs, Nat.le_refl _, Nat.le_succ _, nofun⟩
  · have same : (s.next a).nextNumber = s.nextNumber + 1 := by
      rw [nextNumber, next, EntryId.next, UInt64.toNat_add]
      exact Nat.mod_eq_of_lt room
    rw [same]
    refine ⟨[e], heirs, Nat.le_succ _, Nat.le_refl _, ?_⟩
    intro e' member
    rw [List.mem_singleton.mp member, number]
    exact ⟨rfl, Nat.lt_succ_self _⟩

theorem Dated.next (h : s.Dated) (a : StationAct) : (s.next a).Dated := by
  obtain ⟨brought, heirs, grown, _, numbers⟩ := next_brings grounded room a
  intro g slot' found e member
  have new : e ∈ brought → e.id.val.toNat < (s.next a).nextNumber := by
    intro came
    obtain ⟨number, later⟩ := numbers e came
    rw [number]
    exact later
  rcases heirs g slot' found with fresh | ⟨slot, was, _, held⟩
  · exact new (fresh member)
  · rcases List.mem_append.mp (held member) with came | old
    · exact new came
    · exact (h g slot was e old).trans_le grown

theorem Since.next {past : Station} (h : Since past s) (a : StationAct) :
    Since past (s.next a) := by
  obtain ⟨brought, heirs, grown, _, numbers⟩ := next_brings grounded room a
  have new : ∀ e ∈ brought, past.nextNumber ≤ e.id.val.toNat := by
    intro e came
    rw [(numbers e came).1]
    exact h.number
  refine ⟨h.number.trans grown, ?_⟩
  intro g slot' found
  rcases heirs g slot' found with fresh | ⟨slot, was, ref, held⟩
  · exact .inr fun e member => new e (fresh member)
  · rcases h.slots g slot was with ⟨first, there, same⟩ | later
    · exact .inl ⟨first, there, same.trans ref⟩
    · refine .inr fun e member => ?_
      rcases List.mem_append.mp (held member) with came | old
      · exact new e came
      · exact later e old

end Room

/-- As long as the numbers do not run out, what every act keeps, a run keeps. -/
theorem after_with_room {P : Station → Prop}
    (keeps : ∀ s a, s.registry.Grounded → s.nextNumber + 1 < UInt64.size → P s → P (s.next a))
    {s : Station} (grounded : s.registry.Grounded) (h : P s) (acts : List StationAct)
    (room : s.nextNumber + acts.length < UInt64.size) :
    P (s.after acts) ∧ (s.after acts).nextNumber ≤ s.nextNumber + acts.length := by
  induction acts generalizing s with
  | nil => exact ⟨h, Nat.le_refl _⟩
  | cons a acts ih =>
      rw [List.length_cons] at room ⊢
      have once : s.nextNumber + 1 < UInt64.size := by omega
      obtain ⟨_, _, _, grown, _⟩ := next_brings grounded once a
      obtain ⟨last, bound⟩ := ih (next_grounded grounded a) (keeps s a grounded once h) (by omega)
      exact ⟨last, bound.trans (by omega)⟩

section Create

variable (config : Config) (repository : Repository) (backend : Backend)

theorem after_dated (acts : List StationAct) (room : acts.length + 1 < UInt64.size) :
    ((create config repository backend).after acts).Dated ∧
      ((create config repository backend).after acts).nextNumber ≤ acts.length + 1 := by
  rw [Nat.add_comm] at room ⊢
  exact after_with_room (fun _ a grounded room h => h.next grounded room a) (.empty backend) nofun
    acts room

/-- The session that a guild has after its slot was torn down never plays the entry that played in
that slot. -/
theorem currentId_ne_of_tornDown (before later : List StationAct)
    (room : (before ++ later).length + 1 < UInt64.size) {g : GuildId} {slot slot' : Slot}
    {id : EntryId} :
    let past := (create config repository backend).after before
    let s := past.after later
    past.registry.live.get? g = some slot → slot.session.currentId = some id →
      s.registry.isTornDown slot.ref = true → s.registry.live.get? g = some slot' →
      slot'.session.currentId ≠ some id := by
  intro past s found current torn found' current'
  rw [List.length_append] at room
  have grounded : past.registry.Grounded := after_grounded config repository backend before
  obtain ⟨dated, (bound : past.nextNumber ≤ before.length + 1)⟩ :=
    after_dated config repository backend before (by omega)
  have numbered : s.registry.Numbered :=
    kept_numbered.after grounded
      (kept_numbered.after (.empty backend) (.empty backend) before) later
  have since : Since past s :=
    (after_with_room (fun _ a grounded room h => h.next grounded room a) grounded (.refl past)
      later (by omega)).1
  -- The live slot is the old one, which was torn down, or all that it holds is too young.
  rcases since.slots g slot' found' with ⟨first, there, same⟩ | later
  · rw [found] at there
    cases there
    rw [same, numbered.apart g slot' found'] at torn
    cases torn
  · obtain ⟨e, loaded, rfl⟩ := Option.map_eq_some_iff.mp current
    obtain ⟨e', loaded', same⟩ := Option.map_eq_some_iff.mp current'
    have early := dated g slot found e (Session.mem_held.mpr (.inl loaded))
    have late := later e' (Session.mem_held.mpr (.inl loaded'))
    rw [same] at late
    exact Nat.not_le.mpr early late

end Create

end Station

end Jukebox
