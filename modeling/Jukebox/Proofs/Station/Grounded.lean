import Jukebox.Proofs.Station.Apply
import Jukebox.Proofs.Station.Move

/-!
Whatever happens to a station, its pending votes stand on live sessions: an idle session never has a
pending vote, a skip vote is about the entry that is loaded, and a vote to clear finds something to
clear.
-/

namespace Jukebox

namespace Station

/-- The action of a passed vote and a new track alike are turns of the session. -/
theorem apply_grounded {α : Type} {s : Station} (h : s.registry.Grounded) {g : GuildId} {slot : Slot}
    (found : s.registry.live.get? g = some slot)
    {operation : Backend → Nat → Session → Outcome (Except PlayerError α)}
    (turns : TakesTurns operation) : (s.apply slot operation).2.registry.Grounded := by
  obtain ⟨ref, guild, coherent⟩ := h.fits g slot found
  obtain ⟨run, same⟩ := turns s.registry.backend s.now slot.session
  have coherent' : (s.outcomeIn slot operation).session.Coherent := by
    rw [outcomeIn, same]
    exact Session.after_induction (fun _ t ok => ok.next t) coherent run
  have guild' : (s.outcomeIn slot operation).session.guild = g := by
    rw [outcomeIn, same, Session.after_guild, guild]
  refine h.commit found coherent' guild' ?_ ?_
  · rw [apply_eq, ref]
  · intro k v there
    rw [← guild']
    exact (apply_pending s slot operation h.keyed k v).mp there

theorem apply_session? {α : Type} {s : Station} (h : s.registry.Grounded) {g : GuildId} {slot : Slot}
    (found : s.registry.live.get? g = some slot)
    (operation : Backend → Nat → Session → Outcome (Except PlayerError α)) :
    (s.apply slot operation).2.session? g = some (s.outcomeIn slot operation).session := by
  have there : (s.apply slot operation).2.registry.live.get? g =
      some { slot with session := (s.outcomeIn slot operation).session } := by
    rw [apply_eq, (h.fits g slot found).ref]
    exact Table.get?_insert_self _ _ _
  exact session?_of_found there

theorem takesTurns_enqueue (e : Entry) (capacity : Nat) : TakesTurns (Session.enqueue e capacity) :=
  .of_act (.enqueue e capacity) fun _ _ _ => rfl

theorem Move.grounded {s s' : Station} (h : s.registry.Grounded) (move : Move s s') :
    s'.registry.Grounded := by
  cases move with
  | works found keeps => exact apply_grounded h found keeps.takesTurns
  | makes => exact (h.getOrCreate _ _).1
  | givesUp found => exact h.tearDown found
  | casts key voter b => exact h.cast s.now key voter b
  | cancels key => exact h.of_fewer rfl (VoteDesk.cancel_subset h.keyed key)
  | timesOut votes => exact h.of_fewer rfl fun k v there => ((VoteDesk.timeOut_pending _ _ k v).mp there).1
  | takes => exact h
  | aside same => exact h.of_same same.live (congrArg VoteDesk.pending same.desk)

theorem Moves.grounded {s s' : Station} (h : s.registry.Grounded) (moves : Moves s s') :
    s'.registry.Grounded := by
  induction moves with
  | refl => exact h
  | tail _ move before => exact move.grounded before

theorem prepared_grounded {s : Station} (h : s.registry.Grounded) (g : GuildId)
    (settings : SettingsCache) :
    (s.prepared g settings).registry.Grounded ∧
      (s.prepared g settings).registry.live.get? g = some (s.registry.getOrCreate s.now g).1 :=
  h.getOrCreate s.now g

theorem next_grounded {s : Station} (h : s.registry.Grounded) (a : StationAct) :
    (s.next a).registry.Grounded := by
  rcases s.next_cases a with ⟨g, kind, m, rfl⟩ | ⟨g, m, track, metadata, rfl⟩ | steps
  · rw [next, handle]
    rcases s.startVote_cases g kind m with
      ⟨e, settings, same⟩ | ⟨settings, slot, q, found, rfl, rfl, open_, same⟩
    · rw [same]
      exact h
    · rw [same]
      exact h.start s.now found open_
  · rw [next, handle]
    rcases s.enqueue_cases g m track metadata with
      ⟨e, settings, same⟩ | ⟨settings, capacity, e, _, same⟩
    · rw [same]
      exact h
    · obtain ⟨grounded, found⟩ := prepared_grounded h g settings
      rw [same]
      exact apply_grounded grounded found (takesTurns_enqueue e capacity)
  · exact steps.grounded h

theorem after_grounded (config : Config) (repository : Repository) (backend : Backend)
    (acts : List StationAct) :
    ((create config repository backend).after acts).registry.Grounded :=
  after_induction (P := fun s => s.registry.Grounded) (fun _ a h => next_grounded h a)
    (Registry.Grounded.empty backend) acts

structure Kept (P : Station → Prop) : Prop where
  move : ∀ {s s'}, s.registry.Grounded → Move s s' → P s → P s'
  opens : ∀ {s : Station} (q : VoteRequest), P s →
    P (s.withDesk (s.desk.start s.now q).desk (s.desk.start s.now q).resolved)
  numbers : ∀ {s : Station} (nextEntry : EntryId), P s → P { s with nextEntry }
  adds : ∀ {s : Station} {g : GuildId} {slot : Slot} (e : Entry) (capacity : Nat),
    s.registry.Grounded → s.registry.live.get? g = some slot → P s →
    P (s.apply slot (Session.enqueue e capacity)).2

namespace Kept

variable {P : Station → Prop} (kept : Kept P) {s : Station}
include kept

theorem moves {s' : Station} (grounded : s.registry.Grounded) (moves : Moves s s') (h : P s) :
    P s' := by
  induction moves with
  | refl => exact h
  | tail before step ih => exact kept.move (Moves.grounded grounded before) step ih

theorem next (grounded : s.registry.Grounded) (h : P s) (a : StationAct) : P (s.next a) := by
  have settled : ∀ settings, P { s with settings } := fun settings =>
    kept.move grounded (.aside ⟨rfl, rfl, rfl, rfl, rfl, rfl, rfl⟩) h
  rcases s.next_cases a with ⟨g, kind, m, rfl⟩ | ⟨g, m, track, metadata, rfl⟩ | steps
  · rw [Station.next, handle]
    rcases s.startVote_cases g kind m with ⟨e, settings, same⟩ | ⟨settings, _, q, _, _, _, _, same⟩
    · rw [same]
      exact settled settings
    · rw [same]
      exact kept.opens q (settled settings)
  · rw [Station.next, handle]
    rcases s.enqueue_cases g m track metadata with
      ⟨e, settings, same⟩ | ⟨settings, capacity, e, _, same⟩
    · rw [same]
      exact settled settings
    · have made : P { s with settings, registry := (s.registry.getOrCreate s.now g).2 } :=
        kept.moves (s := { s with settings }) grounded (getOrCreate_moves _ g) (settled settings)
      obtain ⟨grounded', found⟩ := prepared_grounded grounded g settings
      rw [same]
      exact kept.adds e capacity grounded' found (kept.numbers s.nextEntry.next made)
  · exact kept.moves grounded steps h

theorem after (grounded : s.registry.Grounded) (h : P s) (acts : List StationAct) :
    P (s.after acts) := by
  have both := after_induction (P := fun s => s.registry.Grounded ∧ P s)
    (fun s a h => ⟨next_grounded h.1 a, kept.next h.1 h.2 a⟩) ⟨grounded, h⟩ acts
  exact both.2

end Kept

/-- In every state that a run can reach, each pending vote belongs to a guild with a live session
that is not idle; a skip vote is about the entry that is loaded, and a vote to clear finds entries
waiting. So an idle session has no vote pending. -/
theorem pending_supported (config : Config) (repository : Repository) (backend : Backend)
    (acts : List StationAct) :
    let s := (create config repository backend).after acts
    (∀ k v, s.desk.pending.get? k = some v →
      ∃ session, s.session? k.guild = some session ∧ session.isIdle = false ∧
        (k.kind = .skip → session.currentId.isSome ∧ v.target = session.currentId) ∧
        (k.kind = .clearQueue → session.queue.isEmpty = false)) ∧
    (∀ g session, s.session? g = some session → session.isIdle = true →
      s.desk.hasPending g = false) := by
  intro s
  have grounded : s.registry.Grounded := after_grounded config repository backend acts
  constructor
  · intro k v found
    obtain ⟨slot, live, supports⟩ := grounded.supported k v found
    refine ⟨slot.session, ?_, supports.busy, supports.entry, supports.waiting⟩
    rw [session?, Registry.session?, live, Option.map_some]
  · intro g session there idle
    apply List.any_eq_false.mpr
    intro kind _ pending
    obtain ⟨v, found⟩ := Table.contains_iff.mp pending
    obtain ⟨slot, live, supports⟩ := grounded.supported ⟨g, kind⟩ v found
    rw [session?, Registry.session?, live] at there
    cases there
    rw [supports.busy] at idle
    cases idle

/-- Three members listen to a track, and one of them opens a vote to skip it. -/
example :
    let g : GuildId := ⟨1⟩
    let s := (create {} {} { nextHandle := ⟨1⟩ }).after
      [.ask (.memberJoined g ⟨1⟩), .ask (.memberJoined g ⟨2⟩), .ask (.memberJoined g ⟨3⟩),
        .ask (.enqueue g ⟨1⟩ ⟨"a"⟩ none), .ask (.startVote g .skip ⟨1⟩)]
    (s.desk.pending.get? ⟨g, .skip⟩).map (fun v => v.target) = some (some ⟨1⟩) := by
  decide

end Station

end Jukebox
