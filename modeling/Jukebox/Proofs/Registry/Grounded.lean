import Jukebox.Proofs.Session.Coherence
import Jukebox.Proofs.Session.Frame
import Jukebox.Proofs.VoteDesk.Pending
import Jukebox.Station.Voting

/-!
Pending votes stand on sessions. The registry keeps every vote on the desk tied to a live session
that still has what the vote is about; a change of a session that takes this away is followed by the
cancellation of the vote.
-/

namespace Jukebox

namespace Session

/-- The session has what a vote of a kind with a target is about. -/
structure Supports (s : Session) (kind : VoteKind) (target : Option EntryId) : Prop where
  busy : s.isIdle = false
  entry : kind = .skip → s.currentId.isSome ∧ target = s.currentId
  waiting : kind = .clearQueue → s.queue.isEmpty = false

theorem isIdle_eq_false {s : Session} : s.isIdle = false ↔ s.status ≠ .idle := by
  simp only [isIdle, decide_eq_false_iff_not, ne_eq]

theorem isIdle_eq_true {s : Session} : s.isIdle = true ↔ s.status = .idle := by
  simp only [isIdle, decide_eq_true_eq]

theorem Coherent.busy_of_currentId {s : Session} (h : s.Coherent) (some : s.currentId.isSome) :
    s.isIdle = false :=
  isIdle_eq_false.mpr (h.not_idle_of_current (by simpa [currentId] using some))

theorem Coherent.busy_of_waiting {s : Session} (h : s.Coherent)
    (waiting : s.queue.isEmpty = false) : s.isIdle = false := by
  apply isIdle_eq_false.mpr
  intro idle
  rw [h.queue_of_idle idle] at waiting
  cases waiting

/-- A vote is opened only on a session that has what it is about. -/
theorem supports_of_voteTarget {s : Session} (h : s.Coherent) {kind : VoteKind}
    {target : Option EntryId} (open_ : Station.voteTarget kind s = .ok target) :
    s.Supports kind target := by
  cases kind with
  | skip =>
      cases current : s.current with
      | none => simp [Station.voteTarget, current] at open_
      | some e =>
          have loaded : s.currentId = some e.id := by simp [currentId, current]
          simp only [Station.voteTarget, current] at open_
          cases open_
          exact ⟨h.busy_of_currentId (by simp [loaded]), fun _ => ⟨by simp [loaded], loaded.symm⟩,
            fun other => absurd other (by decide)⟩
  | stop =>
      refine ⟨?_, fun other => absurd other (by decide), fun other => absurd other (by decide)⟩
      by_contra idle
      have status := isIdle_eq_true.mp (Bool.eq_true_of_not_eq_false idle)
      have empty := h.queue_of_idle status
      simp [Station.voteTarget, isIdle, status, empty, Queue.isEmpty] at open_
  | clearQueue =>
      have waiting : s.queue.isEmpty = false := by
        by_contra empty
        simp [Station.voteTarget, Bool.eq_true_of_not_eq_false empty] at open_
      exact ⟨h.busy_of_waiting waiting, fun other => absurd other (by decide), fun _ => waiting⟩

end Session

/-- A change of a session takes away what votes of a kind are about. -/
def VoteKind.Moot (before after : Session) : VoteKind → Prop
  | .skip => before.currentId.isSome ∧ after.currentId ≠ before.currentId
  | .stop => after.queue.isEmpty ∧ after.isIdle
  | .clearQueue => after.queue.isEmpty

instance (before after : Session) : (kind : VoteKind) → Decidable (kind.Moot before after)
  | .skip => inferInstanceAs (Decidable (_ ∧ _))
  | .stop => inferInstanceAs (Decidable (_ ∧ _))
  | .clearQueue => inferInstanceAs (Decidable (_ = true))

/-- What a change does not take away is still there. -/
theorem Session.Supports.carry {before after : Session} {kind : VoteKind}
    {target : Option EntryId} (h : before.Supports kind target) (coherent : after.Coherent)
    (kept : ¬ kind.Moot before after) : after.Supports kind target := by
  cases kind with
  | skip =>
      -- A repeated track keeps its id, so the vote on it goes on.
      obtain ⟨loaded, about⟩ := h.entry rfl
      have same : after.currentId = before.currentId := by
        by_contra changed
        exact kept ⟨loaded, changed⟩
      rw [← same] at loaded about
      exact ⟨coherent.busy_of_currentId loaded, fun _ => ⟨loaded, about⟩, nofun⟩
  | stop =>
      -- An idle session has nothing waiting, so becoming idle alone makes the vote moot.
      refine ⟨?_, nofun, nofun⟩
      by_contra idle
      have status := Bool.eq_true_of_not_eq_false idle
      have empty := coherent.queue_of_idle (Session.isIdle_eq_true.mp status)
      exact kept ⟨by rw [empty]; rfl, status⟩
  | clearQueue =>
      have waiting : after.queue.isEmpty = false := by
        by_contra empty
        exact kept (Bool.eq_true_of_not_eq_false empty)
      exact ⟨coherent.busy_of_waiting waiting, nofun, fun _ => waiting⟩

namespace VoteDesk

/-- Cancels a vote under a condition. -/
def cancelIf (d : VoteDesk) (condition : Prop) [Decidable condition] (key : VoteKey) : VoteDesk :=
  if condition then (d.cancel key).desk else d

theorem cancelIf_pending {d : VoteDesk} (h : d.Keyed) (condition : Prop) [Decidable condition]
    (key k : VoteKey) (v : Vote) :
    (d.cancelIf condition key).pending.get? k = some v ↔
      d.pending.get? k = some v ∧ ¬(k = key ∧ condition) := by
  unfold cancelIf
  split
  · next holds =>
      rw [cancel_pending h, Table.get?_erase_eq_some]
      tauto
  · next fails => tauto

theorem cancelIf_keyed {d : VoteDesk} (h : d.Keyed) (condition : Prop) [Decidable condition]
    (key : VoteKey) : (d.cancelIf condition key).Keyed :=
  h.of_subset fun k v found => ((cancelIf_pending h condition key k v).mp found).1

/-- The votes that a change has made moot are cancelled kind by kind. -/
theorem cancelMoot_eq (d : VoteDesk) (before after : Session) :
    d.cancelMoot before after =
      ((d.cancelIf (VoteKind.skip.Moot before after) ⟨after.guild, .skip⟩).cancelIf
        (VoteKind.clearQueue.Moot before after) ⟨after.guild, .clearQueue⟩).cancelIf
        (VoteKind.stop.Moot before after) ⟨after.guild, .stop⟩ := by
  by_cases empty : after.queue.isEmpty = true
  · simp only [cancelMoot, cancelIf, VoteKind.Moot, empty, if_true, true_and]
    rfl
  · simp only [cancelMoot, cancelIf, VoteKind.Moot, empty, if_false, false_and, Bool.false_eq_true]
    rfl

/-- After a change of a session exactly those votes of its guild are gone that it has made moot. -/
theorem cancelMoot_pending {d : VoteDesk} (h : d.Keyed) (before after : Session) (k : VoteKey)
    (v : Vote) :
    (d.cancelMoot before after).pending.get? k = some v ↔
      d.pending.get? k = some v ∧ ¬(k.guild = after.guild ∧ k.kind.Moot before after) := by
  have skipped := cancelIf_keyed h (VoteKind.skip.Moot before after) ⟨after.guild, .skip⟩
  have cleared := cancelIf_keyed skipped (VoteKind.clearQueue.Moot before after)
    ⟨after.guild, .clearQueue⟩
  rw [cancelMoot_eq, cancelIf_pending cleared, cancelIf_pending skipped, cancelIf_pending h]
  obtain ⟨g, kind⟩ := k
  cases kind with
  | skip | stop | clearQueue =>
      simp only [VoteKey.mk.injEq, reduceCtorEq, and_false, false_and, not_false_eq_true, and_true]

end VoteDesk

/-- The slot lies under its guild with a session of that guild. -/
structure Slot.Fits (slot : Slot) (g : GuildId) : Prop where
  ref : slot.ref.guild = g
  guild : slot.session.guild = g
  coherent : slot.session.Coherent

/-- Every pending vote stands on the live session of its guild. -/
structure Registry.Grounded (r : Registry) : Prop where
  keyed : r.desk.Keyed
  fits : ∀ g slot, r.live.get? g = some slot → slot.Fits g
  supported : ∀ k v, r.desk.pending.get? k = some v →
    ∃ slot, r.live.get? k.guild = some slot ∧ slot.session.Supports k.kind v.target

namespace Registry.Grounded

theorem empty (backend : Backend) : ({ backend } : Registry).Grounded := ⟨nofun, nofun, nofun⟩

variable {r : Registry} (h : r.Grounded)
include h

/-- Votes may leave the desk. -/
theorem of_fewer {r' : Registry} (live : r'.live = r.live)
    (within : ∀ k v, r'.desk.pending.get? k = some v → r.desk.pending.get? k = some v) :
    r'.Grounded := by
  refine ⟨h.keyed.of_subset within, ?_, ?_⟩
  · intro g slot found
    rw [live] at found
    exact h.fits g slot found
  · intro k v found
    rw [live]
    exact h.supported k v (within k v found)

theorem of_same {r' : Registry} (live : r'.live = r.live)
    (pending : r'.desk.pending = r.desk.pending) : r'.Grounded :=
  h.of_fewer live fun k v found => by rwa [pending] at found

/-- A session changes and the votes that this makes moot leave the desk. -/
theorem commit {g : GuildId} {slot : Slot} {session : Session} {r' : Registry}
    (found : r.live.get? g = some slot) (coherent : session.Coherent) (same : session.guild = g)
    (live : r'.live = r.live.insert g { slot with session })
    (kept : ∀ k v, r'.desk.pending.get? k = some v →
      r.desk.pending.get? k = some v ∧ ¬(k.guild = g ∧ k.kind.Moot slot.session session)) :
    r'.Grounded := by
  refine ⟨h.keyed.of_subset fun k v there => (kept k v there).1, ?_, ?_⟩
  · intro g' slot' there
    rw [live, Table.get?_insert] at there
    split at there
    · next here =>
        cases there
        subst here
        exact ⟨(h.fits g' slot found).ref, same, coherent⟩
    · exact h.fits g' slot' there
  · intro k v there
    obtain ⟨old, notMoot⟩ := kept k v there
    obtain ⟨slot', before, supports⟩ := h.supported k v old
    rw [live, Table.get?_insert]
    split
    · next here =>
        rw [here, found] at before
        cases before
        exact ⟨_, rfl, supports.carry coherent fun moot => notMoot ⟨here, moot⟩⟩
    · exact ⟨slot', before, supports⟩

theorem getOrCreate (now : Nat) (g : GuildId) :
    (r.getOrCreate now g).2.Grounded ∧
      (r.getOrCreate now g).2.live.get? g = some (r.getOrCreate now g).1 := by
  unfold Registry.getOrCreate
  cases there : r.live.get? g with
  | some slot => exact ⟨h, there⟩
  | none =>
      refine ⟨⟨h.keyed, ?_, ?_⟩, Table.get?_insert_self _ _ _⟩
      · intro g' slot' found
        simp only [Registry.count, Table.get?_insert] at found
        split at found
        · next here =>
            cases found
            subst here
            exact ⟨rfl, rfl, .create g' now⟩
        · exact h.fits g' slot' found
      · intro k v found
        obtain ⟨slot, before, supports⟩ := h.supported k v found
        have other : k.guild ≠ g := by
          intro here
          rw [here, there] at before
          cases before
        refine ⟨slot, ?_, supports⟩
        simp only [Registry.count]
        rw [Table.get?_insert_ne _ other, before]

/-- A slot that is given up takes the votes of its guild along. -/
theorem tearDown {g : GuildId} {slot : Slot} (found : r.live.get? g = some slot) :
    (r.tearDown slot).Grounded := by
  have here : slot.ref.guild = g := (h.fits g slot found).ref
  have pending : ∀ k v, (r.tearDown slot).desk.pending.get? k = some v ↔
      r.desk.pending.get? k = some v ∧ k.guild ≠ g := by
    intro k v
    rw [← here]
    exact VoteDesk.cancelAll_pending h.keyed slot.ref.guild k v
  have live : (r.tearDown slot).live = r.live.erase g := by
    rw [← here]
    rfl
  refine ⟨h.keyed.of_subset fun k v there => ((pending k v).mp there).1, ?_, ?_⟩
  · intro g' slot' there
    rw [live] at there
    exact h.fits g' slot' (Table.get?_erase_eq_some.mp there).2
  · intro k v there
    obtain ⟨old, other⟩ := (pending k v).mp there
    obtain ⟨slot', before, supports⟩ := h.supported k v old
    exact ⟨slot', by rw [live, Table.get?_erase_ne _ other, before], supports⟩

/-- A request opens a vote only on what the live session has. -/
theorem start {slot : Slot} {q : VoteRequest} (now : Nat) (found : r.live.get? q.guild = some slot)
    (open_ : Station.voteTarget q.kind slot.session = .ok q.target) :
    ({ r with desk := (r.desk.start now q).desk } : Registry).Grounded := by
  have supports := Session.supports_of_voteTarget (h.fits q.guild slot found).coherent open_
  refine ⟨?_, h.fits, ?_⟩
  · intro k v there
    rcases VoteDesk.start_pending_get? there with old | ⟨_, rfl, rfl, _⟩
    · exact h.keyed k v old
    · rfl
  · intro k v there
    rcases VoteDesk.start_pending_get? there with old | ⟨_, rfl, rfl, _⟩
    · exact h.supported k v old
    · exact ⟨slot, found, supports⟩

theorem cast (now : Nat) (key : VoteKey) (voter : MemberId) (b : Ballot) :
    ({ r with desk := (r.desk.cast now key voter b).desk } : Registry).Grounded := by
  refine ⟨?_, h.fits, ?_⟩
  · intro k v there
    rcases VoteDesk.cast_pending_get? h.keyed there with old | ⟨rfl, u, hears, rfl, _⟩
    · exact h.keyed k v old
    · rw [Vote.withBallot_key]
      exact h.keyed k u hears.found
  · intro k v there
    rcases VoteDesk.cast_pending_get? h.keyed there with old | ⟨rfl, u, hears, rfl, _⟩
    · exact h.supported k v old
    · obtain ⟨slot, live, supports⟩ := h.supported k u hears.found
      exact ⟨slot, live, Vote.withBallot_target u voter b ▸ supports⟩

/-- An idle session has no vote pending. -/
theorem hasPending_of_idle {g : GuildId} {slot : Slot}
    (found : r.live.get? g = some slot) (idle : slot.session.isIdle = true) :
    r.desk.hasPending g = false := by
  apply List.any_eq_false.mpr
  intro kind _ pending
  obtain ⟨v, there⟩ := Table.contains_iff.mp pending
  obtain ⟨slot', live, supports⟩ := h.supported ⟨g, kind⟩ v there
  rw [found] at live
  cases live
  rw [supports.busy] at idle
  cases idle

end Registry.Grounded

end Jukebox
