import Jukebox.Proofs.Error
import Jukebox.Proofs.Session.Coherence

/-!
When a session was last used. Every operation but a release is either turned down, and then it has
left no trace, or it counts as use of the session at its moment. So a session that is idle has been
so since the latest operation that was not turned down.
-/

namespace Jukebox

/-- The answer to a signal about an entry that is no longer loaded. -/
def SessionReply.isStale : SessionReply → Bool
  | .heard current => !current
  | _ => false

/-- The operation is turned down: it fails, and not for a track that cannot be loaded, or it is a
stale signal. -/
def Outcome.isRejected (o : Outcome (Except PlayerError SessionReply)) : Bool :=
  match o.result with
  | .ok reply => reply.isStale
  | .error e => !e.isLoad

/-- How a session takes an operation at a moment. -/
inductive Session.Takes (s : Session) (now : Nat) (o : Outcome (Except PlayerError SessionReply)) :
    Prop
  | rejects (rejected : o.isRejected = true) (same : o.session = s) (silent : o.signals = {})
  | uses (accepted : o.isRejected = false) (used : o.session.lastActivity = now)

namespace Session

theorem startNext_lastActivity (b : Backend) (now : Nat) (s : Session) :
    (startNext b now s).session.lastActivity = now := by
  rcases startNext_session b now s with ⟨_, _, _, _, same⟩ | same
  · rw [same]
    rfl
  · rw [same]
    rfl

theorem edit_takes {α : Type} {reply : α → SessionReply} (fresh : ∀ a, (reply a).isStale = false)
    (now : Nat) (s : Session) (r : Except QueueError (α × Queue)) :
    s.Takes now ((s.edit now r).map (·.map reply)) := by
  cases r with
  | error e =>
      refine .rejects ?_ rfl rfl
      cases e <;> rfl
  | ok edited => exact .uses (fresh edited.1) rfl

theorem enqueue_takes (e : Entry) (capacity : Nat) (b : Backend) (now : Nat) (s : Session) :
    s.Takes now ((s.enqueue e capacity b now).map (·.map .enqueued)) := by
  rcases s.enqueue_cases e capacity b now with
    ⟨_, same⟩ | ⟨_, _, same⟩ | ⟨_, _, result, only, same⟩
  · rw [same]
    exact .rejects rfl rfl rfl
  · rw [same]
    exact .uses rfl rfl
  · rw [same]
    refine .uses ?_ (startNext_lastActivity b now _)
    cases result with
    | ok place => rfl
    | error err =>
        obtain ⟨text, rfl⟩ := only err rfl
        rfl

theorem pause_takes (now : Nat) (s : Session) :
    s.Takes now ((s.pause now).map (·.map fun _ => .done)) := by
  unfold pause
  split
  · exact .uses rfl rfl
  · exact .rejects rfl rfl rfl

theorem resume_takes (now : Nat) (s : Session) :
    s.Takes now ((s.resume now).map (·.map fun _ => .done)) := by
  unfold resume
  split
  · exact .uses rfl rfl
  · exact .rejects rfl rfl rfl

theorem trackStarted_takes (now : Nat) (s : Session) :
    s.Takes now ((s.trackStarted now).map fun x => .ok (.heard x)) := by
  unfold trackStarted
  split
  · exact .rejects rfl rfl rfl
  · exact .uses rfl rfl

theorem trackFinished_takes (b : Backend) (now : Nat) (s : Session) :
    s.Takes now ((s.trackFinished b now).map fun x => .ok (.heard x)) := by
  cases current : s.current with
  | none =>
      simp only [trackFinished, current]
      exact .rejects rfl rfl rfl
  | some finished =>
      rcases trackFinished_cases current b now with
        ⟨_, same⟩ | ⟨_, same⟩ | ⟨_, same⟩ | ⟨_, _, same⟩
      · rw [same]
        exact .uses rfl (startNext_lastActivity b now s)
      · rw [same]
        exact .uses rfl (startNext_lastActivity b now _)
      · rw [same]
        exact .uses rfl rfl
      · rw [same]
        exact .uses rfl (startNext_lastActivity _ now s)

theorem trackFailed_takes (reason : String) (b : Backend) (now : Nat) (s : Session) :
    s.Takes now ((s.trackFailed reason b now).map fun x => .ok (.heard x)) := by
  unfold trackFailed
  split
  · exact .rejects rfl rfl rfl
  · exact .uses rfl (startNext_lastActivity b now _)

theorem skip_takes (b : Backend) (now : Nat) (s : Session) :
    s.Takes now ((s.skip b now).map (·.map .entry)) := by
  unfold skip
  split
  · exact .rejects rfl rfl rfl
  · exact .uses rfl (startNext_lastActivity b now _)

theorem shuffle_takes (arrangement : Arrangement) (now : Nat) (s : Session) :
    s.Takes now ((s.shuffle arrangement now).map (·.map fun _ => .done)) := by
  unfold shuffle
  split
  · exact .rejects rfl rfl rfl
  · exact edit_takes (fun _ => rfl) now s _

end Session

namespace Turn

theorem takes (t : Turn) (s : Session) (kept : t.act ≠ .release) : s.Takes t.now (t.outcome s) := by
  obtain ⟨act, b, now⟩ := t
  cases act with
  | enqueue e capacity => exact s.enqueue_takes e capacity b now
  | pause => exact s.pause_takes now
  | resume => exact s.resume_takes now
  | trackStarted => exact s.trackStarted_takes now
  | trackFinished => exact s.trackFinished_takes b now
  | trackFailed reason => exact s.trackFailed_takes reason b now
  | skip => exact s.skip_takes b now
  | stop | clearQueue | setRepeat => exact .uses rfl rfl
  | removeAt position => exact s.edit_takes (fun _ => rfl) now (s.queue.removeAt position)
  | removeByRequester m => exact s.edit_takes (fun _ => rfl) now (s.queue.removeByRequester m)
  | swap x y => exact s.edit_takes (fun _ => rfl) now ((s.queue.swap x y).map fun q => ((), q))
  | move source target =>
      exact s.edit_takes (fun _ => rfl) now ((s.queue.move source target).map fun q => ((), q))
  | shuffle arrangement => exact s.shuffle_takes arrangement now
  | release => exact absurd rfl kept

/-- The moment of a turn if it uses the session. A release gives the session up instead. -/
def use? (t : Turn) (s : Session) : Option Nat :=
  match t.act with
  | .release => none
  | _ => if (t.outcome s).isRejected then none else some t.now

theorem next_lastActivity (t : Turn) (s : Session) :
    (t.next s).lastActivity = (t.use? s).getD s.lastActivity := by
  by_cases release : t.act = .release
  · rw [next, outcome, use?, release]
    rfl
  · have use : t.use? s = if (t.outcome s).isRejected then none else some t.now := by
      unfold use?
      split
      · next released => exact absurd released release
      · rfl
    cases t.takes s release with
    | rejects rejected same _ =>
        rw [use, if_pos rejected, next, same]
        rfl
    | uses accepted used =>
        rw [use, accepted]
        exact used

end Turn

namespace Session

/-- The moments at which the turns of a run use the session. -/
def uses (s : Session) : List Turn → List Nat
  | [] => []
  | t :: turns => (t.use? s).toList ++ (t.next s).uses turns

theorem lastActivity_after (s : Session) (turns : List Turn) :
    (s.after turns).lastActivity = (s.uses turns).getLastD s.lastActivity := by
  induction turns generalizing s with
  | nil => rfl
  | cons t turns ih =>
      have step := t.next_lastActivity s
      rw [after, uses, ih, step]
      cases t.use? s with
      | none => rfl
      | some now => exact List.getLastD_cons.symm

/-- No turn comes before the last use of the session or before an earlier turn. -/
def InOrder (s : Session) (turns : List Turn) : Prop :=
  (s.lastActivity :: turns.map (·.now)).Pairwise (· ≤ ·)

theorem InOrder.next {s : Session} {t : Turn} {turns : List Turn} (h : s.InOrder (t :: turns)) :
    s.lastActivity ≤ (t.next s).lastActivity ∧ (t.next s).InOrder turns := by
  obtain ⟨first, rest⟩ := List.pairwise_cons.mp h
  obtain ⟨now, later⟩ := List.forall_mem_cons.mp first
  rw [InOrder, t.next_lastActivity s, Turn.use?]
  -- Without a use the time stays, and it was before the later turns already.
  have unused : s.lastActivity ≤ s.lastActivity ∧ s.InOrder turns :=
    ⟨Nat.le_refl _, List.pairwise_cons.mpr ⟨later, rest.of_cons⟩⟩
  split
  · exact unused
  · split
    · exact unused
    · exact ⟨now, rest⟩

theorem InOrder.after {s : Session} {before later : List Turn} (h : s.InOrder (before ++ later)) :
    (s.after before).InOrder later := by
  induction before generalizing s with
  | nil => exact h
  | cons t before ih => exact ih h.next.2

theorem InOrder.le_after {s : Session} {turns : List Turn} (h : s.InOrder turns) :
    s.lastActivity ≤ (s.after turns).lastActivity := by
  induction turns generalizing s with
  | nil => exact Nat.le_refl _
  | cons t turns ih => exact Nat.le_trans h.next.1 (ih h.next.2)

theorem Coherent.idleFor_eq_none {s : Session} (h : s.Coherent) (now : Nat) :
    s.idleFor now = none ↔ s.current.isSome := by
  unfold idleFor isIdle
  split
  · next idle =>
      rw [h.current_of_idle (of_decide_eq_true idle)]
      simp
  · next busy => simp [h.current_of_not_idle fun idle => busy (decide_eq_true idle)]

/-- After any run, an operation that is turned down changes nothing and signals nothing, and any
other but a release makes its moment the time of the last use. Where the turns come in order that time
never goes back. No idle time is given while an entry is loaded, and otherwise it counts from the latest
turn that was neither turned down nor a release, or from the start if there is none. -/
theorem idle_since_latest_use (g : GuildId) (start : Nat) (turns : List Turn) :
    let s := (create g start).after turns
    (∀ t : Turn,
      ((t.outcome s).isRejected = true → t.next s = s ∧ (t.outcome s).signals = {}) ∧
      ((t.outcome s).isRejected = false → t.act ≠ .release → (t.next s).lastActivity = t.now)) ∧
    ((create g start).InOrder turns →
      ∀ before, before <+: turns → ((create g start).after before).lastActivity ≤ s.lastActivity) ∧
    (∀ now, s.idleFor now = none ↔ s.current.isSome) ∧
    (s.status = .idle →
      ∀ now, s.idleFor now = some (now - ((create g start).uses turns).getLastD start)) := by
  intro s
  have coherent : s.Coherent := coherent_after_create g start turns
  refine ⟨fun t => ⟨fun rejected => ?_, fun accepted kept => ?_⟩, ?_, coherent.idleFor_eq_none, ?_⟩
  · have kept : t.act ≠ .release := by
      intro release
      rw [Turn.outcome, release] at rejected
      cases rejected
    cases t.takes s kept with
    | rejects _ same silent => exact ⟨same, silent⟩
    | uses accepted _ => rw [accepted] at rejected; cases rejected
  · cases t.takes s kept with
    | rejects rejected _ _ => rw [accepted] at rejected; cases rejected
    | uses _ used => exact used
  · rintro ordered before ⟨later, rfl⟩
    have whole : s = ((create g start).after before).after later := after_append _ before later
    rw [whole]
    exact ordered.after.le_after
  · intro idle now
    have last : s.lastActivity = ((create g start).uses turns).getLastD start :=
      lastActivity_after (create g start) turns
    rw [idleFor, isIdle, if_pos (decide_eq_true idle), last]

/-- A track ends at 20. The skip of nothing at 30, the release at 40 and the late signal at 50 do not
count, so at 60 the session has been idle for 40. -/
theorem idle_since_latest_use_of_late_signal :
    let e : Entry := ⟨⟨1⟩, ⟨7⟩, ⟨"a"⟩, .unresolved ⟨"a"⟩⟩
    let b : Backend := { nextHandle := ⟨1⟩ }
    let played : List Turn := [⟨.enqueue e 5, b, 10⟩, ⟨.trackFinished, b, 20⟩]
    let late : Turn := ⟨.trackFinished, b, 50⟩
    let turns := played ++ [⟨.skip, b, 30⟩, ⟨.release, b, 40⟩, late]
    let s := (create ⟨1⟩ 0).after turns
    (create ⟨1⟩ 0).InOrder turns ∧ s.status = .idle ∧ (late.outcome s).isRejected = true ∧
      late.next s = s ∧ ((create ⟨1⟩ 0).after played).lastActivity ≤ s.lastActivity ∧
      s.idleFor 60 = some 40 := by
  intro e b played late turns s
  have ordered : (create ⟨1⟩ 0).InOrder turns := by unfold InOrder; decide
  have idle : s.status = .idle := by decide
  have rejected : (late.outcome s).isRejected = true := by decide
  obtain ⟨each, grows, _, idleFor⟩ := idle_since_latest_use ⟨1⟩ 0 turns
  exact ⟨ordered, idle, rejected, ((each late).1 rejected).1,
    grows ordered played (List.prefix_append _ _), idleFor idle 60⟩

end Session

end Jukebox
