import Jukebox.Proofs.Registry.Answer

/-!
Runs of a registry under a clock. Slots are made, looked up, locked and given up, at once or after a
wait for a slot that somebody else had locked; whoever holds a slot changes its session; votes are
opened, cast and cancelled and run out; and time passes. After every run a slot is live if and only
if it was made and not torn down, which only a request to give the session up does, when its answer is
yes; and what was torn down is over.
-/

namespace Jukebox

/-- The sessions and votes of all guilds under one clock. -/
structure Roster where
  registry : Registry
  now : Nat := 0

inductive RosterAct
  | ask (q : RegistryRequest)
  /-- A request that has waited for a slot gets its turn. -/
  | askAfter (q : RegistryRequest) (waited : SlotRef)
  /-- The session in a slot is changed, unless the slot was torn down. -/
  | change (ref : SlotRef) (a : SessionAct)
  /-- Something is asked about votes, or time passes. -/
  | vote (a : DeskAct)
  /-- From now on the backend gives other answers. -/
  | refuse (refusal : List Call → GuildId → Entry → Option PlayerError)

/-- The guild that the act must have a slot of. -/
def RosterAct.wants : RosterAct → Option GuildId
  | .ask q | .askAfter q _ => q.wants
  | .change _ _ | .vote _ | .refuse _ => none

/-- The guild whose session the act gives up, if there is one to be given up. -/
def RosterAct.givesUp : RosterAct → Option GuildId
  | .ask q | .askAfter q _ => q.givesUp
  | .change _ _ | .vote _ | .refuse _ => none

namespace Roster

def next (s : Roster) : RosterAct → Roster
  | .ask q => { s with registry := (q.answer s.now s.registry).2 }
  | .askAfter q waited => { s with registry := (q.answerAfter waited s.now s.registry).2 }
  | .change ref a =>
    match s.registry.slot? ref with
    | none => s
    | some slot => { s with registry := (s.registry.act s.now slot a.run).2 }
  | .vote a =>
    let l := ({ desk := s.registry.desk, now := s.now } : Ledger).enter a
    { registry := { s.registry with desk := l.desk }, now := l.now }
  | .refuse refusal =>
    { s with registry := { s.registry with backend := { s.registry.backend with refusal } } }

/-- What a request is answered. -/
def reply (s : Roster) : RosterAct → Option (Except PlayerError RegistryReply)
  | .ask q => some (q.answer s.now s.registry).1
  | .askAfter q waited => some (q.answerAfter waited s.now s.registry).1
  | .change _ _ | .vote _ | .refuse _ => none

def after (s : Roster) : List RosterAct → Roster
  | [] => s
  | a :: acts => (s.next a).after acts

theorem after_append (s : Roster) (acts more : List RosterAct) :
    s.after (acts ++ more) = (s.after acts).after more := by
  induction acts generalizing s with
  | nil => rfl
  | cons a acts ih => exact ih (s.next a)

/-- A registry that has no slot yet. -/
def create (backend : Backend) (now : Nat) : Roster := { registry := { backend }, now }

/-- An act makes a slot: it must have one of the guild, and the guild has none. -/
structure Makes (s : Roster) (a : RosterAct) (ref : SlotRef) : Prop where
  wants : a.wants = some ref.guild
  absent : s.registry.live.get? ref.guild = none
  gets : (s.registry.getOrCreate s.now ref.guild).1.ref = ref

/-- A slot was made in a run, by some act. -/
def Made (s : Roster) (acts : List RosterAct) (ref : SlotRef) : Prop :=
  ∃ before a rest, acts = before ++ a :: rest ∧ (s.after before).Makes a ref

/-- An act tears a slot down: it is to give up the session of a guild, the slot is the one that the guild
has, and the answer is yes. -/
structure TearsDown (s : Roster) (a : RosterAct) (ref : SlotRef) : Prop where
  givesUp : a.givesUp = some ref.guild
  live : (s.registry.slot? ref).isSome
  yes : s.reply a = some (.ok (.flag true))

/-- A slot was torn down in a run, by some act. -/
def TornDown (s : Roster) (acts : List RosterAct) (ref : SlotRef) : Prop :=
  ∃ before a rest, acts = before ++ a :: rest ∧ (s.after before).TearsDown a ref

theorem TearsDown.unique {s : Roster} {a : RosterAct} {ref ref' : SlotRef}
    (first : s.TearsDown a ref) (second : s.TearsDown a ref') : ref = ref' := by
  have guild : ref.guild = ref'.guild := Option.some.inj (first.givesUp.symm.trans second.givesUp)
  obtain ⟨slot, found, rfl⟩ := Registry.slot?_isSome.mp first.live
  obtain ⟨slot', found', rfl⟩ := Registry.slot?_isSome.mp second.live
  rw [guild, found'] at found
  cases found
  rfl

theorem tornDown_cons {s : Roster} {a : RosterAct} {acts : List RosterAct} {ref : SlotRef} :
    s.TornDown (a :: acts) ref ↔ s.TearsDown a ref ∨ (s.next a).TornDown acts ref := by
  constructor
  · rintro ⟨before, a', rest, same, tears⟩
    cases before with
    | nil =>
        obtain ⟨rfl, _⟩ := List.cons.inj same
        exact .inl tears
    | cons b before =>
        obtain ⟨rfl, rfl⟩ := List.cons.inj same
        exact .inr ⟨before, a', rest, rfl, tears⟩
  · rintro (tears | ⟨before, a', rest, rfl, tears⟩)
    · exact ⟨[], a, acts, rfl, tears⟩
    · exact ⟨a :: before, a', rest, rfl, tears⟩

section Orderly

variable {s : Roster} (h : s.registry.Orderly)
include h

theorem next_steps (a : RosterAct) : s.registry.Steps (s.next a).registry := by
  cases a with
  | ask q => exact h.answer q s.now
  | askAfter q waited => exact h.answerAfter q waited s.now
  | change ref a =>
      simp only [next]
      split
      · exact h.stays
      · next slot there =>
          have found := (Registry.slot?_eq_some.mp there).1
          exact .inr (h.act (.of_act a fun _ _ _ => rfl) s.now found)
  | vote a =>
      have keyed := Ledger.enter_keyed (l := { desk := s.registry.desk, now := s.now }) h.keyed a
      have step : s.registry.Continues (s.next (.vote a)).registry := .of_same rfl rfl rfl
      exact .inr ⟨step, h.continues step keyed h.fits⟩
  | refuse refusal =>
      have step : s.registry.Continues (s.next (.refuse refusal)).registry := .of_same rfl rfl rfl
      exact .inr ⟨step, h.continues step h.keyed h.fits⟩

theorem next_get? {a : RosterAct} {g : GuildId} (wants : a.wants = some g) :
    ∃ session, ∀ g', (s.next a).registry.live.get? g' =
      if g' = g then some { (s.registry.getOrCreate s.now g).1 with session }
      else s.registry.live.get? g' := by
  cases a with
  | ask q => exact h.answer_get? wants s.now
  | askAfter q waited =>
      rcases Registry.answerAfter_cases s.registry q waited s.now with same | ⟨none, _, _⟩
      · simp only [next, same]
        exact h.answer_get? wants s.now
      · cases none.symm.trans wants
  | change | vote | refuse => cases wants

theorem next_created {a : RosterAct} (wants : a.wants = none) :
    (s.next a).registry.created = s.registry.created := by
  cases a with
  | ask q => exact h.answer_created wants s.now
  | askAfter q waited =>
      rcases Registry.answerAfter_cases s.registry q waited s.now with same | ⟨_, same, _⟩
      · simp only [next, same]
        exact h.answer_created wants s.now
      · exact congrArg Registry.created same
  | change ref a =>
      simp only [next]
      split
      all_goals rfl
  | vote | refuse => rfl

/-- An act tears down the slot of one guild, or none. -/
theorem next_givesUp (a : RosterAct) :
    (∃ slot, s.registry.live.get? slot.ref.guild = some slot ∧ s.TearsDown a slot.ref ∧
      (s.next a).registry = s.registry.tearDown slot) ∨
    ((∀ ref, ¬ s.TearsDown a ref) ∧ (s.next a).registry.retired = s.registry.retired) := by
  -- What a request comes to is known from its answer; the other acts are no requests.
  have request {g : GuildId} {slot : Slot} (gives : a.givesUp = some g)
      (found : s.registry.live.get? g = some slot) (yes : s.reply a = some (.ok (.flag true))) :
      s.registry.live.get? slot.ref.guild = some slot ∧ s.TearsDown a slot.ref := by
    obtain rfl := (h.fits g slot found).ref
    exact ⟨found, gives, Registry.slot?_isSome.mpr ⟨slot, found, rfl⟩, yes⟩
  have spares (no : a.givesUp = none ∨ s.reply a = some (.ok (.flag false))) (ref : SlotRef) :
      ¬ s.TearsDown a ref := by
    intro tears
    rcases no with none | no
    · cases none.symm.trans tears.givesUp
    · cases no.symm.trans tears.yes
  cases a with
  | ask q =>
      rcases h.answer_givesUp q s.now with ⟨g, slot, gives, found, same⟩ | ⟨same, no⟩
      · obtain ⟨there, tears⟩ := request gives found (by rw [reply, same])
        exact .inl ⟨slot, there, tears, congrArg Prod.snd same⟩
      · exact .inr ⟨spares (no.imp_right (congrArg some)), same⟩
  | askAfter q waited =>
      rcases Registry.answerAfter_cases s.registry q waited s.now with turn | ⟨_, same, no⟩
      · rcases h.answer_givesUp q s.now with ⟨g, slot, gives, found, same⟩ | ⟨same, no⟩
        · obtain ⟨there, tears⟩ := request gives found (by rw [reply, turn, same])
          exact .inl ⟨slot, there, tears, congrArg Prod.snd (turn.trans same)⟩
        · rw [← turn] at no same
          exact .inr ⟨spares (no.imp_right (congrArg some)), same⟩
      · exact .inr ⟨spares (no.imp_right (congrArg some)), congrArg Registry.retired same⟩
  | change ref a =>
      refine .inr ⟨spares (.inl rfl), ?_⟩
      simp only [next]
      split
      all_goals rfl
  | vote | refuse => exact .inr ⟨spares (.inl rfl), rfl⟩

theorem TearsDown.givesUp_next {a : RosterAct} {slot : Slot} (tears : s.TearsDown a slot.ref)
    (found : s.registry.live.get? slot.ref.guild = some slot) :
    s.registry.GivesUp slot (s.next a).registry := by
  rcases next_givesUp h a with ⟨slot', found', tears', same⟩ | ⟨none, _⟩
  · rw [← tears.unique tears', found] at found'
    cases found'
    rw [same]
    exact h.givesUp slot
  · exact absurd tears (none _)

theorem next_isTornDown (a : RosterAct) (ref : SlotRef) :
    (s.next a).registry.isTornDown ref = true ↔
      s.registry.isTornDown ref = true ∨ s.TearsDown a ref := by
  rcases next_givesUp h a with ⟨slot, _, tears, same⟩ | ⟨none, same⟩
  · rw [same, Registry.isTornDown_tearDown]
    exact or_congr_right ⟨fun here => here ▸ tears, fun tears' => tears.unique tears'⟩
  · rw [Registry.isTornDown, same]
    exact (or_iff_left (none ref)).symm

/-- A slot that is made is live. -/
theorem Makes.live {a : RosterAct} {ref : SlotRef} (made : s.Makes a ref) :
    ((s.next a).registry.slot? ref).isSome := by
  obtain ⟨session, there⟩ := next_get? h made.wants
  have found := there ref.guild
  rw [if_pos rfl] at found
  exact Registry.slot?_isSome.mpr ⟨_, found, made.gets⟩

/-- A slot that is live now was live before, or has been made now. -/
theorem live_of_next {a : RosterAct} {ref : SlotRef} (live : ((s.next a).registry.slot? ref).isSome) :
    (s.registry.slot? ref).isSome ∨ s.Makes a ref := by
  obtain ⟨slot, found, rfl⟩ := Registry.slot?_isSome.mp live
  have was : ∀ before, s.registry.live.get? slot.ref.guild = some before → slot.ref = before.ref →
      (s.registry.slot? slot.ref).isSome := fun before old ref =>
    Registry.slot?_isSome.mpr ⟨before, old, ref.symm⟩
  cases wants : a.wants with
  | none =>
      rcases next_steps h a with ⟨g, torn, _, tears⟩ | ⟨continues, _⟩
      · rw [tears] at found
        exact .inl (was slot (Table.get?_erase_eq_some.mp found).2 rfl)
      · rcases continues.comes _ slot found with ⟨before, old, ref⟩ | ⟨_, fresh, numbered⟩
        · exact .inl (was before old ref)
        · rw [next_created h wants] at numbered
          exact absurd fresh (Nat.not_le.mpr numbered)
  | some g =>
      obtain ⟨session, there⟩ := next_get? h wants
      rw [there] at found
      split at found
      · next here =>
          rw [← here] at wants found
          have same := congrArg Slot.ref (Option.some.inj found)
          have ref : (s.registry.getOrCreate s.now slot.ref.guild).1.ref = slot.ref := same
          cases before : s.registry.live.get? slot.ref.guild with
          | none => exact .inr ⟨wants, before, ref⟩
          | some old =>
              rw [Registry.getOrCreate, before] at ref
              exact .inl (was old before ref.symm)
      · exact .inl (was slot found rfl)

theorem after_orderly (acts : List RosterAct) : (s.after acts).registry.Orderly := by
  induction acts generalizing s with
  | nil => exact h
  | cons a acts ih => exact ih ((next_steps h a).orderly h)

theorem after_created (acts : List RosterAct) :
    s.registry.created ≤ (s.after acts).registry.created := by
  induction acts generalizing s with
  | nil => exact Nat.le_refl _
  | cons a acts ih =>
      have step := next_steps h a
      exact step.created.trans (ih (step.orderly h))

theorem after_retired {slot : Slot} (member : slot ∈ s.registry.retired)
    (acts : List RosterAct) : slot ∈ (s.after acts).registry.retired := by
  induction acts generalizing s with
  | nil => exact member
  | cons a acts ih =>
      have step := next_steps h a
      exact ih (step.orderly h) (step.retired member)

/-- Nothing is torn down but by an act that does so. -/
theorem after_isTornDown (acts : List RosterAct) (ref : SlotRef) :
    (s.after acts).registry.isTornDown ref = true ↔
      s.registry.isTornDown ref = true ∨ s.TornDown acts ref := by
  induction acts generalizing s with
  | nil =>
      refine (or_iff_left ?_).symm
      rintro ⟨before, a, rest, same, _⟩
      exact List.append_ne_nil_of_right_ne_nil before (List.cons_ne_nil a rest) same.symm
  | cons a acts ih =>
      rw [after, ih ((next_steps h a).orderly h), next_isTornDown h, tornDown_cons, or_assoc]

theorem after_live {ref : SlotRef} (there : (s.registry.slot? ref).isSome)
    (acts : List RosterAct) :
    ((s.after acts).registry.slot? ref).isSome ∨
      (s.after acts).registry.isTornDown ref = true := by
  induction acts generalizing s with
  | nil => exact .inl there
  | cons a acts ih =>
      have step := next_steps h a
      rcases step.live h there with still | gone
      · exact ih (step.orderly h) still
      · obtain ⟨slot, member, ref⟩ := Registry.isTornDown_iff.mp gone
        exact .inr (Registry.isTornDown_iff.mpr
          ⟨slot, after_retired (step.orderly h) member acts, ref⟩)

theorem made_of_live {acts : List RosterAct} {ref : SlotRef}
    (live : ((s.after acts).registry.slot? ref).isSome) :
    (s.registry.slot? ref).isSome ∨ s.Made acts ref := by
  induction acts generalizing s with
  | nil => exact .inl live
  | cons a acts ih =>
      rcases ih ((next_steps h a).orderly h) live with live | ⟨before, a', rest, rfl, makes⟩
      · exact (live_of_next h live).imp_right fun makes => ⟨[], a, acts, rfl, makes⟩
      · exact .inr ⟨a :: before, a', rest, rfl, makes⟩

/-- A slot that was made in a run was live right then. -/
theorem Made.live {acts : List RosterAct} {ref : SlotRef} (made : s.Made acts ref) :
    ∃ before rest, s.after acts = (s.after before).after rest ∧
      ((s.after before).registry.slot? ref).isSome := by
  obtain ⟨before, a, rest, rfl, makes⟩ := made
  have live := makes.live (after_orderly h before)
  refine ⟨before ++ [a], rest, ?_, ?_⟩
  · rw [← after_append, List.append_assoc]
    rfl
  · rwa [after_append]

theorem Made.live_of_kept {acts : List RosterAct} {ref : SlotRef} (made : s.Made acts ref)
    (kept : (s.after acts).registry.isTornDown ref = false) :
    ((s.after acts).registry.slot? ref).isSome := by
  obtain ⟨before, rest, same, live⟩ := made.live h
  rw [same] at kept ⊢
  rcases after_live (after_orderly h before) live rest with still | gone
  · exact still
  · rw [kept] at gone
    cases gone

/-- The number of a fresh slot is the next one now, so at no moment before was it given out. -/
theorem not_made_of_fresh (acts : List RosterAct) (g : GuildId) :
    ¬ s.Made acts ⟨g, (s.after acts).registry.created⟩ := by
  intro made
  obtain ⟨before, rest, same, live⟩ := made.live h
  obtain ⟨slot, found, ref⟩ := Registry.slot?_isSome.mp live
  have between := after_orderly h before
  have given := between.numbered.live _ slot found
  rw [ref, same] at given
  exact Nat.not_le.mpr given (after_created between rest)

/-- What was torn down is over: it gives no session, and its guild never gets it again. -/
theorem over_of_retired {slot : Slot} (member : slot ∈ s.registry.retired) (more : List RosterAct) :
    let later := s.after more
    slot ∈ later.registry.retired ∧
    (RegistryRequest.lockSlot slot.ref).answer later.now later.registry =
      (.ok .nothing, later.registry) ∧
    (later.registry.getOrCreate later.now slot.ref.guild).1.ref ≠ slot.ref := by
  intro later
  have still : slot ∈ later.registry.retired := after_retired h member more
  have gone : later.registry.isTornDown slot.ref = true :=
    Registry.isTornDown_iff.mpr ⟨slot, still, rfl⟩
  have numbered : later.registry.Numbered := (after_orderly h more).numbered
  refine ⟨still, ?_, fun same => ?_⟩
  · simp only [RegistryRequest.answer, numbered.slot?_of_tornDown gone]
  · have fresh := numbered.getOrCreate_not_tornDown later.now slot.ref.guild
    rw [same, gone] at fresh
    cases fresh

end Orderly

/-- After every run of a registry: a slot is live if and only if it was made and has not been torn
down, which is the case exactly if some act of the run tore it down. One that was torn down holds nothing,
is never handed out again, and is never the one that its guild gets; a guild without a slot gets a fresh
one. The act that tears a slot down leaves the guild without a slot and without a pending vote, and the
sessions and votes of the other guilds as they are. A session is given up as unused exactly if it is live
and has been idle for long enough, with no vote pending, and at request exactly if it is live; otherwise
nothing changes. -/
theorem live_iff_made (backend : Backend) (start : Nat) (acts : List RosterAct) :
    let s := (create backend start).after acts
    (∀ g slot, s.registry.live.get? g = some slot → slot.ref.guild = g) ∧
    (∀ ref, (s.registry.slot? ref).isSome ↔
      (create backend start).Made acts ref ∧ s.registry.isTornDown ref = false) ∧
    (∀ ref, s.registry.isTornDown ref = true ↔ (create backend start).TornDown acts ref) ∧
    (∀ slot ∈ s.registry.retired, slot.Spent ∧ ∀ more,
      let later := s.after more
      slot ∈ later.registry.retired ∧
      (RegistryRequest.lockSlot slot.ref).answer later.now later.registry =
        (.ok .nothing, later.registry) ∧
      (later.registry.getOrCreate later.now slot.ref.guild).1.ref ≠ slot.ref) ∧
    (∀ g, s.registry.live.get? g = none →
      let made := (s.registry.getOrCreate s.now g).1
      made.session = .create g s.now ∧ ¬ (create backend start).Made acts made.ref) ∧
    (∀ a slot, s.registry.live.get? slot.ref.guild = some slot →
      ((s.next a).registry.isTornDown slot.ref = true ↔ s.TearsDown a slot.ref) ∧
      (s.TearsDown a slot.ref → s.registry.GivesUp slot (s.next a).registry)) ∧
    (∀ g threshold,
      (∃ slot, s.registry.Unused s.now g threshold slot ∧
        s.registry.evictIfIdle s.now g threshold = (true, s.registry.tearDown slot) ∧
        s.registry.GivesUp slot (s.registry.tearDown slot)) ∨
      ((∀ slot, ¬ s.registry.Unused s.now g threshold slot) ∧
        s.registry.evictIfIdle s.now g threshold = (false, s.registry))) ∧
    ∀ g,
      (∃ slot, s.registry.live.get? g = some slot ∧
        s.registry.evict g = (true, s.registry.tearDown slot) ∧
        s.registry.GivesUp slot (s.registry.tearDown slot)) ∨
      (s.registry.live.get? g = none ∧ s.registry.evict g = (false, s.registry)) := by
  intro s
  have empty : (create backend start).registry.Orderly := .empty backend
  have orderly : s.registry.Orderly := after_orderly empty acts
  refine ⟨fun g slot found => (orderly.fits g slot found).ref, fun ref => ⟨fun live => ?_, ?_⟩, ?_,
    fun slot member => ⟨orderly.spent slot member, over_of_retired orderly member⟩, ?_,
    fun a slot found => ⟨?_, fun tears => tears.givesUp_next orderly found⟩,
    orderly.evictIfIdle_cases s.now, orderly.evict_cases⟩
  · obtain ⟨slot, found, rfl⟩ := Registry.slot?_isSome.mp live
    have made := (made_of_live empty live).resolve_left (by simp [create, Registry.slot?])
    exact ⟨made, orderly.numbered.apart _ slot found⟩
  · rintro ⟨made, kept⟩
    exact made.live_of_kept empty kept
  · exact fun ref => (after_isTornDown empty acts ref).trans (or_iff_right Bool.false_ne_true)
  · intro g absent
    simp only [Registry.getOrCreate, absent]
    exact ⟨trivial, not_made_of_fresh empty acts g⟩
  · rw [next_isTornDown orderly, orderly.numbered.apart _ slot found]
    exact or_iff_right Bool.false_ne_true

end Roster

end Jukebox
