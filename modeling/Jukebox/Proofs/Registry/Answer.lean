import Jukebox.Proofs.Registry.Slots
import Jukebox.Proofs.VoteDesk.Standing

/-!
What a request comes to. One that needs a slot of a guild leaves it with one; one that gives a session up
tears its slot down if the answer is yes; and no request does anything else to the slots than to make one,
to tear one down, or to change the session in one.
-/

namespace Jukebox

/-- The guild that the request must have a slot of, so that one is made if there is none. -/
def RegistryRequest.wants : RegistryRequest → Option GuildId
  | .getOrCreate g | .lockOrCreate g | .enqueue g _ _ => some g
  | .get _ | .lock _ | .lockSlot _ | .skip _ | .startVote _ | .evictIfIdle _ _ | .evict _ => none

/-- The guild whose session the request gives up, if there is one to be given up. -/
def RegistryRequest.givesUp : RegistryRequest → Option GuildId
  | .evictIfIdle g _ | .evict g => some g
  | .getOrCreate _ | .get _ | .lock _ | .lockOrCreate _ | .lockSlot _ | .enqueue _ _ _ | .skip _
  | .startVote _ => none

namespace Registry

/-- What an act can do to the slots: one that is live is torn down, or none is. -/
def Steps (r r' : Registry) : Prop :=
  (∃ g slot, r.live.get? g = some slot ∧ r' = r.tearDown slot) ∨ (r.Continues r' ∧ r'.Orderly)

/-- What giving up a slot comes to. It is torn down with nothing in it, its guild has neither a slot nor
a pending vote any more, and the slots and votes of the other guilds are as they were. -/
structure GivesUp (r : Registry) (slot : Slot) (r' : Registry) : Prop where
  tornDown : r'.isTornDown slot.ref = true
  retired : ∃ last, last.ref = slot.ref ∧ last.Spent ∧ r'.retired = last :: r.retired
  unlinked : r'.live.get? slot.ref.guild = none
  quiet : ∀ kind, r'.desk.pending.get? ⟨slot.ref.guild, kind⟩ = none
  others : ∀ g, g ≠ slot.ref.guild → r'.live.get? g = r.live.get? g ∧
    ∀ kind, r'.desk.pending.get? ⟨g, kind⟩ = r.desk.pending.get? ⟨g, kind⟩

/-- The session of a guild can be given up as one that nobody uses. -/
structure Unused (r : Registry) (now : Nat) (g : GuildId) (threshold : Nat) (slot : Slot) :
    Prop where
  live : r.live.get? g = some slot
  idle : slot.session.status = .idle
  long : threshold ≤ now - slot.session.lastActivity
  quiet : ∀ kind, r.desk.pending.get? ⟨g, kind⟩ = none

theorem getOrCreate_get? (r : Registry) (now : Nat) (g g' : GuildId) :
    (r.getOrCreate now g).2.live.get? g' =
      if g' = g then some (r.getOrCreate now g).1 else r.live.get? g' := by
  unfold Registry.getOrCreate
  cases found : r.live.get? g with
  | some slot =>
      by_cases here : g' = g
      · rw [if_pos here, here]
        exact found
      · rw [if_neg here]
  | none => exact Table.get?_insert _ _ _ _

theorem getOrCreate_found (r : Registry) (now : Nat) (g : GuildId) :
    (r.getOrCreate now g).2.live.get? g = some (r.getOrCreate now g).1 := by
  rw [getOrCreate_get?, if_pos rfl]

/-- Only a request for something that is there can have waited in vain, and it says so. -/
theorem answerAfter_cases (r : Registry) (q : RegistryRequest) (waited : SlotRef) (now : Nat) :
    q.answerAfter waited now r = q.answer now r ∨
      (q.wants = none ∧ (q.answerAfter waited now r).2 = r ∧
        (q.givesUp = none ∨ (q.answerAfter waited now r).1 = .ok (.flag false))) := by
  unfold RegistryRequest.answerAfter
  split
  · exact .inl rfl
  · cases q with
    | lock | skip => exact .inr ⟨rfl, rfl, .inl rfl⟩
    | evictIfIdle | evict => exact .inr ⟨rfl, rfl, .inr rfl⟩
    | getOrCreate | get | lockOrCreate | lockSlot | enqueue | startVote => exact .inl rfl

/-- A request that is not to give a session up tears no slot down. -/
theorem answer_retired (r : Registry) {q : RegistryRequest} (keeps : q.givesUp = none) (now : Nat) :
    (q.answer now r).2.retired = r.retired := by
  cases q with
  | getOrCreate g | lockOrCreate g => exact (Continues.getOrCreate r now g).retired
  | enqueue g => exact (Continues.getOrCreate r now g).retired
  | startVote => rfl
  | get | lock | lockSlot | skip =>
      simp only [RegistryRequest.answer]
      split
      all_goals rfl
  | evictIfIdle | evict => cases keeps

theorem isTornDown_tearDown {r : Registry} {slot : Slot} {ref : SlotRef} :
    (r.tearDown slot).isTornDown ref = true ↔ r.isTornDown ref = true ∨ slot.ref = ref := by
  simp only [isTornDown, tearDown, count, List.any_cons, Bool.or_eq_true, decide_eq_true_eq]
  exact or_comm

namespace Orderly

variable {r : Registry} (h : r.Orderly)
include h

theorem stays : r.Steps r := .inr ⟨.refl r, h⟩

theorem givesUp (slot : Slot) : r.GivesUp slot (r.tearDown slot) where
  tornDown := isTornDown_tearDown.mpr (.inr rfl)
  retired := ⟨{ slot with session := slot.session.release.session }, rfl, ⟨rfl, rfl, rfl⟩, rfl⟩
  unlinked := Table.get?_erase_self _ _
  quiet kind := by
    apply Option.eq_none_iff_forall_ne_some.mpr
    intro v left
    exact ((VoteDesk.cancelAll_pending h.keyed _ _ v).mp left).2 rfl
  others g other := by
    refine ⟨Table.get?_erase_ne _ other, fun kind => Option.ext fun v => ?_⟩
    exact (VoteDesk.cancelAll_pending h.keyed _ _ v).trans (and_iff_left other)

theorem isIdleFor_iff {now : Nat} {g : GuildId} {threshold : Nat} {slot : Slot}
    (found : r.live.get? g = some slot) :
    r.isIdleFor now slot threshold = true ↔ r.Unused now g threshold slot := by
  have here := (h.fits g slot found).ref
  have quiet : r.desk.hasPending g = false ↔ ∀ kind, r.desk.pending.get? ⟨g, kind⟩ = none := by
    simp only [VoteDesk.hasPending, List.any_eq_false, Bool.not_eq_true, Table.contains_eq_false]
    exact ⟨fun still kind => still kind (VoteDesk.mem_all kind), fun still kind _ => still kind⟩
  unfold isIdleFor Session.idleFor Session.isIdle
  rw [here]
  by_cases idle : slot.session.status = .idle
  · simp only [idle, decide_true, if_true, Bool.and_eq_true, decide_eq_true_eq, Bool.not_eq_true',
      quiet]
    exact ⟨fun ⟨long, still⟩ => ⟨found, idle, long, still⟩, fun unused => ⟨unused.long, unused.quiet⟩⟩
  · simp only [idle, decide_false, Bool.false_eq_true, if_false, false_iff]
    exact fun unused => idle unused.idle

/-- A session is given up as unused if it is, and otherwise nothing changes. -/
theorem evictIfIdle_cases (now : Nat) (g : GuildId) (threshold : Nat) :
    (∃ slot, r.Unused now g threshold slot ∧
      r.evictIfIdle now g threshold = (true, r.tearDown slot) ∧ r.GivesUp slot (r.tearDown slot)) ∨
    ((∀ slot, ¬ r.Unused now g threshold slot) ∧ r.evictIfIdle now g threshold = (false, r)) := by
  unfold Registry.evictIfIdle
  cases found : r.live.get? g with
  | none =>
      refine .inr ⟨fun slot unused => ?_, rfl⟩
      rw [unused.live] at found
      cases found
  | some slot =>
      dsimp only
      by_cases unused : r.isIdleFor now slot threshold = true
      · exact .inl ⟨slot, (h.isIdleFor_iff found).mp unused, if_pos unused, h.givesUp slot⟩
      · refine .inr ⟨fun slot' other => unused ?_, if_neg unused⟩
        have same := other.live
        rw [found] at same
        cases same
        exact (h.isIdleFor_iff found).mpr other

/-- A guild's session is given up if it has one, and otherwise nothing changes. -/
theorem evict_cases (g : GuildId) :
    (∃ slot, r.live.get? g = some slot ∧
      r.evict g = (true, r.tearDown slot) ∧ r.GivesUp slot (r.tearDown slot)) ∨
    (r.live.get? g = none ∧ r.evict g = (false, r)) := by
  unfold Registry.evict
  cases r.live.get? g with
  | none => exact .inr ⟨rfl, rfl⟩
  | some slot => exact .inl ⟨slot, rfl, rfl, h.givesUp slot⟩

/-- A request to give a session up tears its slot down and says yes, or it says no and changes nothing. -/
theorem answer_of_givesUp {q : RegistryRequest} {g : GuildId} (gives : q.givesUp = some g)
    (now : Nat) :
    (∃ slot, r.live.get? g = some slot ∧ q.answer now r = (.ok (.flag true), r.tearDown slot)) ∨
      q.answer now r = (.ok (.flag false), r) := by
  cases q with
  | evictIfIdle _ threshold =>
      cases gives
      rcases h.evictIfIdle_cases now g threshold with ⟨slot, unused, same, _⟩ | ⟨_, same⟩
      · exact .inl ⟨slot, unused.live, by simp only [RegistryRequest.answer, same]⟩
      · exact .inr (by simp only [RegistryRequest.answer, same])
  | evict =>
      cases gives
      rcases h.evict_cases g with ⟨slot, found, same, _⟩ | ⟨_, same⟩
      · exact .inl ⟨slot, found, by simp only [RegistryRequest.answer, same]⟩
      · exact .inr (by simp only [RegistryRequest.answer, same])
  | getOrCreate | get | lock | lockOrCreate | lockSlot | enqueue | skip | startVote => cases gives

theorem answer (q : RegistryRequest) (now : Nat) : r.Steps (q.answer now r).2 := by
  cases gives : q.givesUp with
  | some g =>
      rcases h.answer_of_givesUp gives now with ⟨slot, found, same⟩ | same
      · exact .inl ⟨g, slot, found, congrArg Prod.snd same⟩
      · rw [same]
        exact h.stays
  | none =>
      cases q with
      | getOrCreate g | lockOrCreate g => exact .inr ⟨.getOrCreate r now g, h.getOrCreate now g⟩
      | get | lock | lockSlot =>
          simp only [RegistryRequest.answer]
          split
          all_goals exact h.stays
      | enqueue g e capacity =>
          obtain ⟨step, orderly⟩ := (h.getOrCreate now g).act
            (.of_act (.enqueue e capacity) fun _ _ _ => rfl) now (getOrCreate_found r now g)
          exact .inr ⟨(Continues.getOrCreate r now g).trans step, orderly⟩
      | skip g =>
          simp only [RegistryRequest.answer]
          split
          · next slot found => exact .inr (h.act (.of_act .skip fun _ _ _ => rfl) now found)
          · exact h.stays
      | startVote request =>
          have keyed := Ledger.enter_keyed (l := { desk := r.desk, now }) h.keyed (.start request)
          rw [Ledger.start_desk] at keyed
          have step : r.Continues { r with desk := (r.desk.start now request).desk } :=
            .of_same rfl rfl rfl
          exact .inr ⟨step, h.continues step keyed h.fits⟩
      | evictIfIdle | evict => cases gives

theorem answerAfter (q : RegistryRequest) (waited : SlotRef) (now : Nat) :
    r.Steps (q.answerAfter waited now r).2 := by
  rcases answerAfter_cases r q waited now with same | ⟨_, same, _⟩
  · rw [same]
    exact h.answer q now
  · rw [same]
    exact h.stays

/-- A request that needs a slot of a guild leaves the one that the guild has or gets, and changes the
session of no other. -/
theorem answer_get? {q : RegistryRequest} {g : GuildId} (wants : q.wants = some g) (now : Nat) :
    ∃ session, ∀ g', (q.answer now r).2.live.get? g' =
      if g' = g then some { (r.getOrCreate now g).1 with session } else r.live.get? g' := by
  cases q with
  | getOrCreate | lockOrCreate =>
      cases wants
      exact ⟨_, getOrCreate_get? r now g⟩
  | enqueue _ e capacity =>
      cases wants
      have here := ((h.getOrCreate now g).fits g _ (getOrCreate_found r now g)).ref
      let made := r.getOrCreate now g
      let session := (Session.enqueue e capacity made.2.backend now made.1.session).session
      refine ⟨session, fun g' => ?_⟩
      change (made.2.live.insert made.1.ref.guild { made.1 with session }).get? g' = _
      rw [here, Table.get?_insert]
      split
      · rfl
      · next other => rw [getOrCreate_get?, if_neg other]
  | get | lock | lockSlot | skip | startVote | evictIfIdle | evict => cases wants

theorem answer_created {q : RegistryRequest} (wants : q.wants = none) (now : Nat) :
    (q.answer now r).2.created = r.created := by
  cases gives : q.givesUp with
  | some g =>
      rcases h.answer_of_givesUp gives now with ⟨slot, _, same⟩ | same
      · exact congrArg (fun a => a.2.created) same
      · rw [same]
  | none =>
      cases q with
      | get | lock | lockSlot | skip =>
          simp only [RegistryRequest.answer]
          split
          all_goals rfl
      | startVote => rfl
      | getOrCreate | lockOrCreate | enqueue => cases wants
      | evictIfIdle | evict => cases gives

/-- A request tears a slot down if it is one to give a session up and its answer is yes; otherwise it
tears none down. -/
theorem answer_givesUp (q : RegistryRequest) (now : Nat) :
    (∃ g slot, q.givesUp = some g ∧ r.live.get? g = some slot ∧
      q.answer now r = (.ok (.flag true), r.tearDown slot)) ∨
    ((q.answer now r).2.retired = r.retired ∧
      (q.givesUp = none ∨ (q.answer now r).1 = .ok (.flag false))) := by
  cases gives : q.givesUp with
  | some g =>
      rcases h.answer_of_givesUp gives now with ⟨slot, found, same⟩ | same
      · exact .inl ⟨g, slot, rfl, found, same⟩
      · rw [same]
        exact .inr ⟨rfl, .inr rfl⟩
  | none => exact .inr ⟨r.answer_retired gives now, .inl rfl⟩

end Orderly

namespace Steps

variable {r r' : Registry} (step : r.Steps r')
include step

theorem created : r.created ≤ r'.created := by
  rcases step with ⟨_, _, _, rfl⟩ | ⟨continues, _⟩
  · exact Nat.le_refl _
  · exact continues.created

theorem retired {slot : Slot} (member : slot ∈ r.retired) : slot ∈ r'.retired := by
  rcases step with ⟨_, _, _, rfl⟩ | ⟨continues, _⟩
  · exact List.mem_cons_of_mem _ member
  · rwa [continues.retired]

variable (h : r.Orderly)
include h

theorem orderly : r'.Orderly := by
  rcases step with ⟨g, slot, found, rfl⟩ | ⟨_, orderly⟩
  · exact h.tearDown found
  · exact orderly

/-- A slot leaves the table only as one that is torn down. -/
theorem live {ref : SlotRef} (there : (r.slot? ref).isSome) :
    (r'.slot? ref).isSome ∨ r'.isTornDown ref = true := by
  obtain ⟨slot, found, rfl⟩ := slot?_isSome.mp there
  rcases step with ⟨g, torn, was, rfl⟩ | ⟨continues, _⟩
  · by_cases gone : torn.ref = slot.ref
    · exact .inr (isTornDown_iff.mpr ⟨_, List.mem_cons_self, gone⟩)
    · left
      have other : slot.ref.guild ≠ torn.ref.guild := by
        intro here
        rw [here, (h.fits g torn was).ref, was] at found
        cases found
        exact gone rfl
      exact slot?_isSome.mpr ⟨slot, (Table.get?_erase_ne _ other).trans found, rfl⟩
  · obtain ⟨slot', found', ref⟩ := continues.stays _ slot found
    exact .inl (slot?_isSome.mpr ⟨slot', found', ref⟩)

end Steps

end Registry

end Jukebox
