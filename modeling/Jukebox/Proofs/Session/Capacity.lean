import Jukebox.Proofs.Session.Conservation

/-!
How long the queue of a session gets. Entries are conserved, and a session that holds any has one of
them loaded, so the queue can only get longer by an entry that is taken in while another is loaded.
A finished entry that goes to the back of the queue makes no difference: the next one has left it. So
a queue whose entries were all added under a bound stays within it.
-/

namespace Jukebox

/-- All that a session holds waits, but for one entry. -/
theorem Session.Coherent.length_queue {s : Session} (h : s.Coherent) :
    s.queue.length = s.held.length - 1 := by
  rw [Queue.length, h.held_parts.2, List.length_tail]

namespace Turn

theorem accepted_cases (t : Turn) (s : Session) :
    t.accepted s = [] ∨
      ∃ e capacity, t.act = .enqueue e capacity ∧ s.queue.length < capacity ∧
        t.accepted s = [e] := by
  obtain ⟨act, b, now⟩ := t
  cases act with
  | enqueue e capacity =>
      by_cases room : s.queue.length < capacity
      · exact .inr ⟨e, capacity, rfl, room, if_pos room⟩
      · exact .inl (if_neg room)
  | _ => exact .inl rfl

/-- The turn adds an entry, and the answer is not an error. -/
def Adds (t : Turn) (s : Session) : Prop :=
  ∃ e capacity place, t.act = .enqueue e capacity ∧ (t.outcome s).result = .ok (.enqueued place)

/-- While an entry is loaded, another is added if there is room for it. -/
theorem adds_of_busy {t : Turn} {s : Session} {e : Entry} {capacity : Nat}
    (add : t.act = .enqueue e capacity) (room : s.queue.length < capacity)
    (busy : s.status ≠ .idle) : t.Adds s := by
  refine ⟨e, capacity, .queued s.queue.length, add, ?_⟩
  rw [outcome, add, SessionAct.run]
  rcases s.enqueue_cases e capacity t.backend t.now with
    ⟨full, _⟩ | ⟨_, _, same⟩ | ⟨_, idle, _⟩
  · exact absurd room (Nat.not_lt.mpr full)
  · rw [same]
    rfl
  · exact absurd idle busy

/-- A turn leaves a queue no longer than it was, or it has added an entry that found room there. -/
theorem next_length {s : Session} (h : s.Coherent) (t : Turn) :
    (t.next s).queue.length ≤ s.queue.length ∨
      ∃ e capacity, t.act = .enqueue e capacity ∧ s.queue.length < capacity ∧ t.Adds s ∧
        (t.next s).queue.length ≤ s.queue.length + 1 := by
  have balance := (t.conserves h).length_eq
  rw [List.length_append, List.length_append] at balance
  have before := h.length_queue
  have later := (h.next t).length_queue
  rcases t.accepted_cases s with none | ⟨e, capacity, add, room, one⟩
  · rw [none, List.length_nil] at balance
    exact .inl (by omega)
  · rw [one, List.length_singleton] at balance
    by_cases idle : s.status = .idle
    · -- The entry is the only one that the session has, and one does not wait.
      rw [h.held_of_idle idle, List.length_nil] at balance
      exact .inl (by omega)
    · exact .inr ⟨e, capacity, add, room, adds_of_busy add room idle, by omega⟩

/-- Whatever the turn adds, it adds under a bound. -/
def AddsUnder (t : Turn) (c : Nat) : Prop := ∀ e capacity, t.act = .enqueue e capacity → capacity ≤ c

theorem AddsUnder.next {t : Turn} {c : Nat} (under : t.AddsUnder c) {s : Session} (h : s.Coherent)
    (before : s.queue.length ≤ c) : (t.next s).queue.length ≤ c := by
  rcases t.next_length h with shorter | ⟨e, capacity, add, room, _, longer⟩
  · exact Nat.le_trans shorter before
  · have bound := under e capacity add
    omega

end Turn

namespace Session

theorem Coherent.length_after_le {s : Session} (h : s.Coherent) {c : Nat}
    (before : s.queue.length ≤ c) {turns : List Turn} (under : ∀ t ∈ turns, t.AddsUnder c) :
    (s.after turns).queue.length ≤ c := by
  induction turns generalizing s with
  | nil => exact before
  | cons t turns ih =>
      obtain ⟨first, rest⟩ := List.forall_mem_cons.mp under
      exact ih (h.next t) (first.next h before) rest

/-- No turn makes the queue longer but one that adds an entry and is not refused, and that one by one
at most. So if all that a run adds is added under a bound, the queue is within it at every moment. -/
theorem queue_within_bound (g : GuildId) (start : Nat) (turns : List Turn) :
    (∀ t : Turn,
      let s := (create g start).after turns
      (¬ t.Adds s → (t.next s).queue.length ≤ s.queue.length) ∧
        (t.next s).queue.length ≤ s.queue.length + 1) ∧
    ∀ c, (∀ t ∈ turns, t.AddsUnder c) →
      ∀ before, before <+: turns → ((create g start).after before).queue.length ≤ c := by
  constructor
  · intro t s
    rcases t.next_length (coherent_after_create g start turns) with
      shorter | ⟨_, _, _, _, adds, longer⟩
    · exact ⟨fun _ => shorter, Nat.le_succ_of_le shorter⟩
    · exact ⟨fun refused => absurd adds refused, longer⟩
  · intro c under before upTo
    have under' : ∀ t ∈ before, t.AddsUnder c := fun t member => under t (upTo.subset member)
    exact (Coherent.create g start).length_after_le (Nat.zero_le c) under'

/-- With room for one, a finished track goes to the back of a queue that is full, and fits. -/
theorem queue_within_bound_of_repeat :
    let entry : UInt64 → String → Entry := fun id url => ⟨⟨id⟩, ⟨7⟩, ⟨url⟩, .unresolved ⟨url⟩⟩
    let b : Backend := { nextHandle := ⟨1⟩ }
    let turns : List Turn :=
      [⟨.enqueue (entry 1 "a") 1, b, 10⟩, ⟨.enqueue (entry 2 "b") 1, b, 20⟩,
        ⟨.enqueue (entry 3 "c") 1, b, 30⟩, ⟨.setRepeat .queue, b, 40⟩]
    let finish : Turn := ⟨.trackFinished, b, 50⟩
    let s := (create ⟨1⟩ 0).after turns
    (∀ t ∈ turns, t.AddsUnder 1) ∧ s.queue.entries = [entry 2 "b"] ∧ s.queue.length ≤ 1 ∧
      ¬ finish.Adds s ∧ (finish.next s).queue.entries = [entry 1 "a"] ∧
      (finish.next s).queue.length ≤ s.queue.length := by
  intro entry b turns finish s
  have under : ∀ t ∈ turns, t.AddsUnder 1 := by
    intro t member e capacity add
    simp only [turns, List.mem_cons, List.not_mem_nil, or_false] at member
    rcases member with rfl | rfl | rfl | rfl <;> cases add <;> exact Nat.le_refl 1
  have signal : ¬ finish.Adds s := by
    rintro ⟨_, _, _, add, _⟩
    cases add
  obtain ⟨each, bound⟩ := queue_within_bound ⟨1⟩ 0 turns
  exact ⟨under, by decide, bound 1 under turns List.prefix_rfl, signal, by decide,
    (each finish).1 signal⟩

end Session

end Jukebox
