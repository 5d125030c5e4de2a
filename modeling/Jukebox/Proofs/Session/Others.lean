import Jukebox.Proofs.Queue.Positions
import Jukebox.Proofs.Session.Coherence

/-!
What a member may do to a session without asking anybody. Adding a track, taking back one's own
tracks, pausing, resuming and choosing what repeats keep the entry that is loaded, and every entry
that somebody else has asked for, in its place among the others.
-/

namespace Jukebox

/-- The entries that others than the member have asked for. -/
def Queue.others (q : Queue) (m : MemberId) : List Entry := q.entries.filter fun e => e.requester ≠ m

/-- Taking back one's own entries leaves those of the others, in order. -/
theorem Queue.removeByRequester_others {q q' : Queue} {m : MemberId} {removed : List Entry}
    (done : q.removeByRequester m = .ok (removed, q')) : q'.others m = q.others m := by
  rcases q.removeByRequester_cases m with ⟨_, refused⟩ | ⟨_, taken⟩
  · rw [refused] at done
    cases done
  · rw [taken] at done
    cases done
    rw [others, others, List.filter_filter]
    simp

namespace Session

/-- What is loaded stays loaded, and what others have asked for waits as before. -/
structure Spares (m : MemberId) (s s' : Session) : Prop where
  current : ∀ e, s.current = some e → s'.current = some e
  others : s'.queue.others m = s.queue.others m

variable {m : MemberId}

theorem Spares.refl (s : Session) : s.Spares m s := ⟨fun _ => id, rfl⟩

theorem pause_spares (now : Nat) (s : Session) : s.Spares m (s.pause now).session := by
  unfold pause
  split
  · exact ⟨fun _ => id, rfl⟩
  · exact .refl s

theorem resume_spares (now : Nat) (s : Session) : s.Spares m (s.resume now).session := by
  unfold resume
  split
  · exact ⟨fun _ => id, rfl⟩
  · exact .refl s

theorem setRepeat_spares (mode : RepeatMode) (now : Nat) (s : Session) :
    s.Spares m (s.setRepeat mode now).session := ⟨fun _ => id, rfl⟩

theorem removeByRequester_spares (now : Nat) (s : Session) :
    s.Spares m (s.removeByRequester m now).session := by
  unfold removeByRequester
  cases done : s.queue.removeByRequester m with
  | error e => exact .refl s
  | ok edited => exact ⟨fun _ => id, Queue.removeByRequester_others done⟩

/-- Where one entry is all that waits, it is loaded or lost, and none waits afterwards. -/
theorem startNext_queue_of_single (b : Backend) (now : Nat) {s : Session} {e : Entry}
    (single : s.queue.entries = [e]) : (startNext b now s).session.queue = .empty := by
  rcases startNext_session b now s with ⟨refused, e', rest, split, loaded⟩ | emptied
  · have lengths := congrArg List.length (single.symm.trans split)
    simp only [List.length_append, List.length_cons, List.length_nil] at lengths
    have none : rest = [] := List.eq_nil_of_length_eq_zero (by omega)
    rw [loaded, none]
    rfl
  · rw [emptied]
    rfl

/-- A track that a member adds waits behind all others, or it is the only one that the session has. -/
theorem enqueue_spares {s : Session} (h : s.Coherent) {e : Entry} (own : e.requester = m)
    (capacity : Nat) (b : Backend) (now : Nat) :
    s.Spares m (s.enqueue e capacity b now).session := by
  rcases s.enqueue_cases e capacity b now with ⟨_, same⟩ | ⟨_, _, same⟩ | ⟨_, idle, _, _, same⟩
  · rw [same]
    exact .refl s
  · rw [same]
    refine ⟨fun _ => id, ?_⟩
    simp only [Queue.others, List.filter_append, List.filter_cons, own, ne_eq, not_true_eq_false,
      decide_false, Bool.false_eq_true, if_false, List.filter_nil, List.append_nil]
  · have nothing : s.queue = .empty := h.queue_of_idle idle
    have single : s.queue.entries ++ [e] = [e] := by rw [nothing, Queue.entries_empty, List.nil_append]
    rw [same, Outcome.map_session]
    constructor
    · intro e' loaded
      rw [h.current_of_idle idle] at loaded
      cases loaded
    · rw [startNext_queue_of_single b now single, nothing]

end Session

end Jukebox
