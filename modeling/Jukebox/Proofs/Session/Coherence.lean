import Jukebox.Proofs.Session.Loading
import Jukebox.Proofs.Session.Run

/-!
The parts of a session agree in every reachable state: an idle session holds nothing at all, and
a session that plays or pauses holds an entry together with its stream.
-/

namespace Jukebox

namespace Queue

@[simp] theorem entries_empty : empty.entries = [] := rfl

theorem removeAt_empty (position : Nat) : empty.removeAt position = .error (.notFound position) :=
  rfl

theorem removeByRequester_empty (m : MemberId) :
    empty.removeByRequester m = .error (.noTracksFrom m) := rfl

theorem checkPair_empty (a b : Nat) : ∃ e, empty.checkPair a b = .error e := by
  by_cases same : a = b
  · exact ⟨.invalidRange a, if_pos same⟩
  · exact ⟨.outOfBounds a 0, by simp [checkPair, same, length]⟩

theorem swap_empty (a b : Nat) : ∃ e, empty.swap a b = .error e := by
  obtain ⟨e, he⟩ := checkPair_empty a b
  exact ⟨e, by rw [swap, he]; rfl⟩

theorem move_empty (source target : Nat) : ∃ e, empty.move source target = .error e := by
  obtain ⟨e, he⟩ := checkPair_empty source target
  exact ⟨e, by rw [move, he]; rfl⟩

end Queue

namespace Session

/-- An idle session holds nothing; any other holds an entry and its stream. -/
def Coherent (s : Session) : Prop :=
  (s.status = .idle ∧ s.current = none ∧ s.stream = none ∧ s.queue = .empty) ∨
  ((s.status = .playing ∨ s.status = .paused) ∧ s.current.isSome ∧ s.stream.isSome)

theorem Coherent.create (g : GuildId) (now : Nat) : (create g now).Coherent :=
  .inl ⟨rfl, rfl, rfl, rfl⟩

theorem coherent_loaded (s : Session) (e : Entry) (handle : StreamHandle) (waiting : List Entry)
    (now : Nat) : (s.loaded e handle waiting now).Coherent := .inr ⟨.inl rfl, rfl, rfl⟩

theorem coherent_emptied (s : Session) (now : Nat) : (s.emptied now).Coherent :=
  .inl ⟨rfl, rfl, rfl, rfl⟩

/-- Starting the next entry repairs whatever a half-done operation left behind. -/
theorem coherent_startNext (b : Backend) (now : Nat) (s : Session) :
    (startNext b now s).session.Coherent := by
  rcases startNext_session b now s with ⟨_, e, rest, _, same⟩ | same
  · rw [same]
    exact coherent_loaded s e _ rest now
  · rw [same]
    exact coherent_emptied s now

namespace Coherent

variable {s : Session} (h : s.Coherent)
include h

theorem queue_of_idle (idle : s.status = .idle) : s.queue = .empty := by
  rcases h with ⟨_, _, _, none⟩ | ⟨busy, _⟩
  · exact none
  · rw [idle] at busy
    simp at busy

theorem current_of_idle (idle : s.status = .idle) : s.current = none := by
  rcases h with ⟨_, none, _⟩ | ⟨busy, _⟩
  · exact none
  · rw [idle] at busy
    simp at busy

theorem current_of_not_idle (busy : s.status ≠ .idle) : s.current.isSome := by
  rcases h with ⟨idle, _⟩ | ⟨_, current, _⟩
  · exact absurd idle busy
  · exact current

theorem not_idle_of_current (current : s.current.isSome) : s.status ≠ .idle := by
  rcases h with ⟨_, none, _⟩ | ⟨busy, _⟩
  · rw [none] at current
    cases current
  · rintro idle
    rw [idle] at busy
    simp at busy

/-- Only the time of the last use and the repeat mode are outside the agreement. -/
theorem of_same {s' : Session} (status : s'.status = s.status) (current : s'.current = s.current)
    (stream : s'.stream = s.stream) (queue : s'.queue = s.queue) : s'.Coherent := by
  simpa only [Coherent, status, current, stream, queue] using h

/-- A loaded session may hold any queue and may be playing or paused. -/
theorem of_loaded {s' : Session} (loaded : s.current.isSome)
    (status : s'.status = .playing ∨ s'.status = .paused) (current : s'.current = s.current)
    (stream : s'.stream = s.stream) : s'.Coherent := by
  rcases h with ⟨_, none, _⟩ | ⟨_, _, streaming⟩
  · rw [none] at loaded
    cases loaded
  · exact .inr ⟨status, current ▸ loaded, stream ▸ streaming⟩

theorem enqueue (e : Entry) (capacity : Nat) (b : Backend) (now : Nat) :
    (s.enqueue e capacity b now).session.Coherent := by
  rcases s.enqueue_cases e capacity b now with ⟨_, same⟩ | ⟨_, busy, same⟩ | ⟨_, _, _, _, same⟩
  · rw [same]
    exact h
  · rw [same]
    rcases h with ⟨idle, _⟩ | loaded
    · exact absurd idle busy
    · exact .inr loaded
  · rw [same]
    exact coherent_startNext b now _

theorem pause (now : Nat) : (s.pause now).session.Coherent := by
  unfold Session.pause
  split
  · next playing =>
      exact h.of_loaded (h.current_of_not_idle (by simp [playing])) (.inr rfl) rfl rfl
  · exact h

theorem resume (now : Nat) : (s.resume now).session.Coherent := by
  unfold Session.resume
  split
  · next paused =>
      exact h.of_loaded (h.current_of_not_idle (by simp [paused])) (.inl rfl) rfl rfl
  · exact h

theorem trackStarted (now : Nat) : (s.trackStarted now).session.Coherent := by
  unfold Session.trackStarted
  cases s.current with
  | none => exact h
  | some e => exact h.of_same rfl rfl rfl rfl

theorem trackFinished (b : Backend) (now : Nat) : (s.trackFinished b now).session.Coherent := by
  cases current : s.current with
  | none =>
      simp only [Session.trackFinished, current]
      exact h
  | some finished =>
      rcases trackFinished_cases current b now with
        ⟨_, same⟩ | ⟨_, same⟩ | ⟨_, same⟩ | ⟨_, _, same⟩
      · rw [same]
        exact coherent_startNext b now s
      · rw [same]
        exact coherent_startNext b now _
      · rw [same]
        exact coherent_loaded s finished _ _ now
      · rw [same]
        exact coherent_startNext _ now s

theorem trackFailed (reason : String) (b : Backend) (now : Nat) :
    (s.trackFailed reason b now).session.Coherent := by
  -- Between the two halves the stream is set without an entry; the next start mends that.
  unfold Session.trackFailed
  cases s.current with
  | none => exact h
  | some e => exact coherent_startNext _ _ _

theorem skip (b : Backend) (now : Nat) : (s.skip b now).session.Coherent := by
  unfold Session.skip
  cases s.current with
  | none => exact h
  | some e => exact coherent_startNext _ _ _

theorem clearQueue (now : Nat) : (s.clearQueue now).session.Coherent := by
  rcases h with ⟨idle, none, silent, _⟩ | loaded
  · exact .inl ⟨idle, none, silent, rfl⟩
  · exact .inr loaded

theorem setRepeat (mode : RepeatMode) (now : Nat) : (s.setRepeat mode now).session.Coherent :=
  h.of_same rfl rfl rfl rfl

/-- An edit that an empty queue refuses cannot put anything into an idle session. -/
theorem edit {α : Type} (now : Nat) {r : Except QueueError (α × Queue)}
    (refused : s.queue = .empty → ∃ e, r = .error e) : (s.edit now r).session.Coherent := by
  cases r with
  | error e => exact h
  | ok placed =>
      rcases h with ⟨_, _, _, none⟩ | loaded
      · obtain ⟨e, impossible⟩ := refused none
        cases impossible
      · exact .inr loaded

theorem removeAt (position : Nat) (now : Nat) : (s.removeAt position now).session.Coherent :=
  h.edit now fun none => ⟨.notFound position, by rw [none, Queue.removeAt_empty]⟩

theorem removeByRequester (m : MemberId) (now : Nat) :
    (s.removeByRequester m now).session.Coherent :=
  h.edit now fun none => ⟨.noTracksFrom m, by rw [none, Queue.removeByRequester_empty]⟩

theorem swap (a b : Nat) (now : Nat) : (s.swap a b now).session.Coherent := by
  apply h.edit now
  intro none
  obtain ⟨e, he⟩ := Queue.swap_empty a b
  exact ⟨e, by rw [none, he]; rfl⟩

theorem move (source target : Nat) (now : Nat) : (s.move source target now).session.Coherent := by
  apply h.edit now
  intro none
  obtain ⟨e, he⟩ := Queue.move_empty source target
  exact ⟨e, by rw [none, he]; rfl⟩

theorem shuffle (arrangement : Arrangement) (now : Nat) :
    (s.shuffle arrangement now).session.Coherent := by
  unfold Session.shuffle
  split
  · exact h
  · next long =>
      rcases h with ⟨_, _, _, none⟩ | loaded
      · rw [none] at long
        exact absurd (by decide) long
      · exact .inr loaded

omit h in
theorem stop (s : Session) (now : Nat) : (s.stop now).session.Coherent :=
  .inl ⟨rfl, rfl, rfl, rfl⟩

omit h in
theorem release (s : Session) : s.release.session.Coherent := .inl ⟨rfl, rfl, rfl, rfl⟩

/-- One turn, whatever it asks and whatever the backend accepts, keeps the agreement. -/
theorem next (t : Turn) : (t.next s).Coherent := by
  obtain ⟨act, b, now⟩ := t
  cases act with
  | enqueue e capacity => exact h.enqueue e capacity b now
  | pause => exact h.pause now
  | resume => exact h.resume now
  | trackStarted => exact h.trackStarted now
  | trackFinished => exact h.trackFinished b now
  | trackFailed reason => exact h.trackFailed reason b now
  | skip => exact h.skip b now
  | stop => exact stop s now
  | clearQueue => exact h.clearQueue now
  | setRepeat mode => exact h.setRepeat mode now
  | removeAt position => exact h.removeAt position now
  | removeByRequester m => exact h.removeByRequester m now
  | swap a c => exact h.swap a c now
  | move source target => exact h.move source target now
  | shuffle arrangement => exact h.shuffle arrangement now
  | release => exact release s

end Coherent

/-- Every session that turns can make of a new one is coherent. -/
theorem coherent_after_create (g : GuildId) (start : Nat) (turns : List Turn) :
    ((create g start).after turns).Coherent :=
  after_induction (fun _ t h => h.next t) (.create g start) turns

end Session

end Jukebox
