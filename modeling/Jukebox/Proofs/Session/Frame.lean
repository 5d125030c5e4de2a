import Jukebox.Proofs.Session.Loading
import Jukebox.Proofs.Session.Run

/-!
A session belongs to one guild for good, and whatever the program does to a session is a run of
turns.
-/

namespace Jukebox

namespace Session

theorem startNext_guild (b : Backend) (now : Nat) (s : Session) :
    (startNext b now s).session.guild = s.guild := by
  rcases startNext_session b now s with ⟨_, e, rest, _, same⟩ | same
  · rw [same]
    rfl
  · rw [same]
    rfl

theorem edit_guild {α : Type} (now : Nat) (s : Session) (r : Except QueueError (α × Queue)) :
    (s.edit now r).session.guild = s.guild := by
  cases r with
  | error e => rfl
  | ok placed => rfl

theorem enqueue_guild (e : Entry) (capacity : Nat) (b : Backend) (now : Nat) (s : Session) :
    (s.enqueue e capacity b now).session.guild = s.guild := by
  rcases s.enqueue_cases e capacity b now with ⟨_, same⟩ | ⟨_, _, same⟩ | ⟨_, _, _, _, same⟩
  · rw [same]
    rfl
  · rw [same]
  · rw [same]
    exact startNext_guild b now _

theorem pause_guild (now : Nat) (s : Session) : (s.pause now).session.guild = s.guild := by
  unfold pause
  split
  · rfl
  · rfl

theorem resume_guild (now : Nat) (s : Session) : (s.resume now).session.guild = s.guild := by
  unfold resume
  split
  · rfl
  · rfl

theorem trackStarted_guild (now : Nat) (s : Session) :
    (s.trackStarted now).session.guild = s.guild := by
  unfold trackStarted
  cases s.current with
  | none => rfl
  | some e => rfl

theorem trackFinished_guild (b : Backend) (now : Nat) (s : Session) :
    (s.trackFinished b now).session.guild = s.guild := by
  cases current : s.current with
  | none => simp only [trackFinished, current]
  | some finished =>
      rcases trackFinished_cases current b now with
        ⟨_, same⟩ | ⟨_, same⟩ | ⟨_, same⟩ | ⟨_, _, same⟩
      · rw [same]
        exact startNext_guild b now s
      · rw [same]
        exact startNext_guild b now _
      · rw [same]
        rfl
      · rw [same]
        exact startNext_guild _ now s

theorem trackFailed_guild (reason : String) (b : Backend) (now : Nat) (s : Session) :
    (s.trackFailed reason b now).session.guild = s.guild := by
  unfold trackFailed
  cases s.current with
  | none => rfl
  | some failed => exact startNext_guild b now _

theorem skip_guild (b : Backend) (now : Nat) (s : Session) :
    (s.skip b now).session.guild = s.guild := by
  unfold skip
  cases s.current with
  | none => rfl
  | some skipped => exact startNext_guild b now _

theorem shuffle_guild (arrangement : Arrangement) (now : Nat) (s : Session) :
    (s.shuffle arrangement now).session.guild = s.guild := by
  unfold shuffle
  split
  · rfl
  · exact edit_guild now s _

end Session

theorem Turn.next_guild (t : Turn) (s : Session) : (t.next s).guild = s.guild := by
  obtain ⟨act, b, now⟩ := t
  cases act with
  | enqueue e capacity => exact Session.enqueue_guild e capacity b now s
  | pause => exact Session.pause_guild now s
  | resume => exact Session.resume_guild now s
  | trackStarted => exact Session.trackStarted_guild now s
  | trackFinished => exact Session.trackFinished_guild b now s
  | trackFailed reason => exact Session.trackFailed_guild reason b now s
  | skip => exact Session.skip_guild b now s
  | removeAt position => exact Session.edit_guild now s _
  | removeByRequester member => exact Session.edit_guild now s _
  | swap a c => exact Session.edit_guild now s _
  | move source target => exact Session.edit_guild now s _
  | shuffle arrangement => exact Session.shuffle_guild arrangement now s
  | stop | clearQueue | setRepeat | release => rfl

theorem Session.after_guild (s : Session) (turns : List Turn) :
    (s.after turns).guild = s.guild :=
  after_induction (P := fun s' => s'.guild = s.guild)
    (fun s' t same => (t.next_guild s').trans same) rfl turns

/-- What the program runs on a session: an operation whose effect is that of turns. -/
def TakesTurns {α : Type} (operation : Backend → Nat → Session → Outcome α) : Prop :=
  ∀ b now s, ∃ turns, (operation b now s).session = s.after turns

/-- An operation takes one turn if it does what some act does. -/
theorem TakesTurns.of_act {α : Type} {operation : Backend → Nat → Session → Outcome α}
    (a : SessionAct) (same : ∀ b now s, (operation b now s).session = (a.run b now s).session) :
    TakesTurns operation :=
  fun b now s => ⟨[⟨a, b, now⟩], same b now s⟩

end Jukebox
