import Jukebox.Proofs.Error
import Jukebox.Proofs.Session.Loading

/-!
An operation on a session that is refused leaves the session as it was and signals nothing. The
exception is a track that the backend would not load: its request came in, and it has gone.
-/

namespace Jukebox

/-- What becomes of a session if the operation fails for any other reason than that a track cannot be
loaded. -/
def Session.Declines {α : Type} (s : Session) (o : Outcome (Except PlayerError α)) : Prop :=
  ∀ e, o.result = .error e → e.isLoad = false →
    e.isDenial = false ∧ o.session = s ∧ o.signals = {}

namespace Session

section

variable {α : Type} (s : Session)

theorem declines_refuse {e : PlayerError} (right : e.isDenial = false) :
    s.Declines (s.refuse e : Outcome (Except PlayerError α)) := by
  intro e' same _
  cases same
  exact ⟨right, rfl, rfl⟩

theorem declines_ok {o : Outcome (Except PlayerError α)} {a : α} (ok : o.result = .ok a) :
    s.Declines o := by
  intro e failed _
  rw [ok] at failed
  cases failed

theorem declines_accepted (o : Outcome α) : s.Declines o.accepted := s.declines_ok rfl

theorem declines_edit (now : Nat) (r : Except QueueError (α × Queue)) :
    s.Declines (s.edit now r) := by
  cases r with
  | ok edited => exact s.declines_ok rfl
  | error e => exact s.declines_refuse (by cases e <;> rfl)

end

variable (s : Session)

theorem declines_enqueue (e : Entry) (capacity : Nat) (b : Backend) (now : Nat) :
    s.Declines (s.enqueue e capacity b now) := by
  rcases s.enqueue_cases e capacity b now with ⟨_, same⟩ | ⟨_, _, same⟩ | ⟨_, _, _, only, same⟩
  · rw [same]
    exact s.declines_refuse rfl
  · rw [same]
    exact s.declines_ok rfl
  · intro e failed other
    rw [same] at failed
    obtain ⟨text, rfl⟩ := only e failed
    cases other

theorem declines_pause (now : Nat) : s.Declines (s.pause now) := by
  unfold pause
  split
  · exact s.declines_ok rfl
  · exact s.declines_refuse rfl

theorem declines_resume (now : Nat) : s.Declines (s.resume now) := by
  unfold resume
  split
  · exact s.declines_ok rfl
  · exact s.declines_refuse rfl

theorem declines_skip (b : Backend) (now : Nat) : s.Declines (s.skip b now) := by
  unfold skip
  split
  · exact s.declines_refuse rfl
  · exact s.declines_ok rfl

theorem declines_shuffle (arrangement : Arrangement) (now : Nat) :
    s.Declines (s.shuffle arrangement now) := by
  unfold shuffle
  split
  · exact s.declines_refuse rfl
  · exact s.declines_edit now _

end Session

end Jukebox
