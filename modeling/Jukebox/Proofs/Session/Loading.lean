import Jukebox.Session

/-!
How a session loads its next entry. Entries are tried from the front of the queue; the session
ends with the first one that the backend accepts, or idle with nothing left.
-/

namespace Jukebox

theorem Backend.record_refuse_nextHandle (b : Backend) (g : GuildId) (id : EntryId) :
    (b.record [.refuse g id]).nextHandle = b.nextHandle := by
  simp [Backend.record, Call.isPlay]

/-- What becomes of entries that a guild offers to the backend one after the other: those that it
refuses, each for its own reason, and the first that it accepts with those behind it, if there is
one. Its answers may depend on what it was asked before. -/
inductive Trial (g : GuildId) :
    Backend → List Entry → List (Entry × PlayerError) → Option (Entry × List Entry) → Prop
  | exhausted {b : Backend} : Trial g b [] [] none
  | accepted {b : Backend} {e : Entry} {rest : List Entry} :
      b.refusal? g e = none → Trial g b (e :: rest) [] (some (e, rest))
  | refused {b : Backend} {e : Entry} {refusal : PlayerError} {rest : List Entry}
      {others : List (Entry × PlayerError)} {found : Option (Entry × List Entry)} :
      b.refusal? g e = some refusal → Trial g (b.record [.refuse g e.id]) rest others found →
      Trial g b (e :: rest) ((e, refusal) :: others) found

namespace Trial

/-- The entries of a trial that come from the accepted one on. -/
def left : Option (Entry × List Entry) → List Entry
  | none => []
  | some (e, rest) => e :: rest

variable {g : GuildId} {b : Backend} {l : List Entry} {refused : List (Entry × PlayerError)}
  {found : Option (Entry × List Entry)}

/-- A trial takes the list apart where the backend accepts. -/
theorem split (h : Trial g b l refused found) : l = refused.map Prod.fst ++ left found := by
  induction h with
  | exhausted => rfl
  | accepted _ => rfl
  | refused _ _ ih => rw [ih]; rfl

end Trial

namespace Session

/-- The session with an entry loaded on a stream, and the given entries waiting. -/
def loaded (s : Session) (e : Entry) (handle : StreamHandle) (waiting : List Entry) (now : Nat) :
    Session :=
  { s with
    queue := ⟨waiting⟩
    current := some e
    stream := some handle
    status := .playing
    lastActivity := now }

/-- The session with nothing loaded and nothing waiting. -/
def emptied (s : Session) (now : Nat) : Session :=
  { s with
    queue := .empty
    current := none
    stream := none
    status := .idle
    lastActivity := now }

theorem play_refused {b : Backend} {now : Nat} {e : Entry} {s : Session} {refusal : PlayerError}
    (h : b.refusal? s.guild e = some refusal) :
    play b now e s =
      { result := false
        session := s
        signals := ⟨[.trackFailed s.guild e refusal.message], [.refuse s.guild e.id]⟩ } := by
  simp only [play, h]

theorem play_accepted {b : Backend} {now : Nat} {e : Entry} {s : Session}
    (h : b.refusal? s.guild e = none) :
    play b now e s =
      { result := true
        session := s.loaded e b.nextHandle s.queue.entries now
        signals := ⟨[.nowPlaying s.guild e], [.play s.guild e.id b.nextHandle]⟩ } := by
  simp only [play, h]
  rfl

/-- The signals of entries that were refused one after the other, each for its own reason. -/
def refusals (g : GuildId) (refused : List (Entry × PlayerError)) : Signals where
  events := refused.map fun r => .trackFailed g r.1 r.2.message
  calls := refused.map fun r => .refuse g r.1.id

def loading (g : GuildId) (e : Entry) (handle : StreamHandle) : Signals :=
  ⟨[.nowPlaying g e], [.play g e.id handle]⟩

/-- The signals of a session that has nothing left to play. -/
def ending (s : Session) : Signals :=
  if s.isIdle then {} else ⟨[.queueEnded s.guild], [.stop s.guild]⟩

/-- Entries are tried from the front until the backend accepts one. -/
theorem startFrom_trial (b : Backend) (now : Nat) (s : Session) (l : List Entry) :
    (∃ refused e rest, Trial s.guild b l refused (some (e, rest)) ∧
      startFrom b now s l =
        { result := ()
          session := s.loaded e b.nextHandle rest now
          signals := refusals s.guild refused ++ loading s.guild e b.nextHandle }) ∨
    (∃ refused, Trial s.guild b l refused none ∧
      startFrom b now s l =
        { result := ()
          session := s.emptied now
          signals := refusals s.guild refused ++ s.ending }) := by
  induction l generalizing b s with
  | nil => exact .inr ⟨[], .exhausted, rfl⟩
  | cons e l ih =>
      cases h : b.refusal? s.guild e with
      | none =>
          refine .inl ⟨[], e, l, .accepted h, ?_⟩
          simp only [startFrom, play_accepted (s := { s with queue := ⟨l⟩ }) h, if_true]
          rfl
      | some refusal =>
          have step : startFrom b now s (e :: l) =
              let later := startFrom (b.record [.refuse s.guild e.id]) now { s with queue := ⟨l⟩ } l
              { later with
                signals := ⟨[.trackFailed s.guild e refusal.message], [.refuse s.guild e.id]⟩ ++
                  later.signals } := by
            simp only [startFrom, play_refused (s := { s with queue := ⟨l⟩ }) h]
            rfl
          rw [step]
          rcases ih (b.record [.refuse s.guild e.id]) { s with queue := ⟨l⟩ } with
            ⟨refused, f, rest, trial, same⟩ | ⟨refused, trial, same⟩
          · refine .inl ⟨(e, refusal) :: refused, f, rest, .refused h trial, ?_⟩
            rw [same, Backend.record_refuse_nextHandle]
            rfl
          · refine .inr ⟨(e, refusal) :: refused, .refused h trial, ?_⟩
            rw [same]
            rfl

/-- Either some entry is accepted after others were refused, or all are refused. -/
theorem startFrom_outcome (b : Backend) (now : Nat) (s : Session) (l : List Entry) :
    (∃ refused e rest, l = refused.map Prod.fst ++ e :: rest ∧
      startFrom b now s l =
        { result := ()
          session := s.loaded e b.nextHandle rest now
          signals := refusals s.guild refused ++ loading s.guild e b.nextHandle }) ∨
    (∃ refused, l = refused.map Prod.fst ∧
      startFrom b now s l =
        { result := ()
          session := s.emptied now
          signals := refusals s.guild refused ++ s.ending }) := by
  rcases startFrom_trial b now s l with ⟨refused, e, rest, trial, same⟩ | ⟨refused, trial, same⟩
  · exact .inl ⟨refused, e, rest, trial.split, same⟩
  · exact .inr ⟨refused, trial.split.trans (List.append_nil _), same⟩

theorem startNext_outcome (b : Backend) (now : Nat) (s : Session) :
    (∃ refused e rest, s.queue.entries = refused.map Prod.fst ++ e :: rest ∧
      startNext b now s =
        { result := ()
          session := s.loaded e b.nextHandle rest now
          signals := refusals s.guild refused ++ loading s.guild e b.nextHandle }) ∨
    (∃ refused, s.queue.entries = refused.map Prod.fst ∧
      startNext b now s =
        { result := ()
          session := s.emptied now
          signals := refusals s.guild refused ++ s.ending }) :=
  startFrom_outcome b now { s with current := none, stream := none } s.queue.entries

theorem startNext_session (b : Backend) (now : Nat) (s : Session) :
    (∃ refused e rest, s.queue.entries = refused ++ e :: rest ∧
      (startNext b now s).session = s.loaded e b.nextHandle rest now) ∨
    (startNext b now s).session = s.emptied now := by
  rcases startNext_outcome b now s with ⟨refused, e, rest, split, same⟩ | ⟨_, _, same⟩
  · exact .inl ⟨refused.map Prod.fst, e, rest, split, by rw [same]⟩
  · exact .inr (by rw [same])

/-- An added entry finds no room, or waits behind others, or is the first that an idle session
tries; then the only error left is that of the backend. -/
theorem enqueue_cases (e : Entry) (capacity : Nat) (b : Backend) (now : Nat) (s : Session) :
    (capacity ≤ s.queue.length ∧
      s.enqueue e capacity b now = s.refuse (QueueError.full capacity).toPlayerError) ∨
    (s.queue.length < capacity ∧ s.status ≠ .idle ∧
      s.enqueue e capacity b now =
        { result := .ok (.queued s.queue.length)
          session := { s with queue := ⟨s.queue.entries ++ [e]⟩, lastActivity := now } }) ∨
    (s.queue.length < capacity ∧ s.status = .idle ∧
      ∃ result : Except PlayerError Enqueued,
        (∀ err, result = .error err → ∃ text, err = .load text) ∧
        s.enqueue e capacity b now =
          (startNext b now { s with queue := ⟨s.queue.entries ++ [e]⟩, lastActivity := now }).map
            fun _ => result) := by
  unfold enqueue Queue.tryEnqueue
  by_cases room : s.queue.length < capacity
  · rw [if_neg (Nat.not_le.mpr room)]
    dsimp only [Queue.enqueue]
    by_cases idle : s.status = .idle
    · refine .inr (.inr ⟨room, idle, _, ?_, if_pos (by simp [isIdle, idle])⟩)
      intro err failed
      split at failed
      · cases failed
      · split at failed
        · cases failed
        · cases failed
          exact ⟨_, rfl⟩
    · exact .inr (.inl ⟨room, idle, if_neg (by simp [isIdle, idle])⟩)
  · rw [if_pos (Nat.not_lt.mp room)]
    exact .inl ⟨Nat.not_lt.mp room, rfl⟩

/-- A finished entry is dropped, or waits behind all others, or is played again; if the backend
refuses it then, it is dropped after all. -/
theorem trackFinished_cases {s : Session} {finished : Entry} (current : s.current = some finished)
    (b : Backend) (now : Nat) :
    (s.repeatMode = .off ∧ s.trackFinished b now = (startNext b now s).map fun _ => true) ∨
    (s.repeatMode = .queue ∧
      s.trackFinished b now =
        (startNext b now { s with queue := ⟨s.queue.entries ++ [finished]⟩ }).map fun _ => true) ∨
    (s.repeatMode = .track ∧
      s.trackFinished b now =
        { result := true
          session := s.loaded finished b.nextHandle s.queue.entries now
          signals := loading s.guild finished b.nextHandle }) ∨
    (s.repeatMode = .track ∧ ∃ refusal,
      let o := startNext (b.record [.refuse s.guild finished.id]) now s
      s.trackFinished b now =
        { result := true
          session := o.session
          signals := refusals s.guild [(finished, refusal)] ++ o.signals }) := by
  obtain ⟨guild, queue, _, stream, status, mode, last⟩ := s
  cases current
  cases mode with
  | off => exact .inl ⟨rfl, rfl⟩
  | queue => exact .inr (.inl ⟨rfl, rfl⟩)
  | track =>
      cases answer : b.refusal? guild finished with
      | none =>
          refine .inr (.inr (.inl ⟨rfl, ?_⟩))
          have accepted : play b now finished ⟨guild, queue, none, none, status, .track, last⟩ = _ :=
            play_accepted answer
          simp only [trackFinished, accepted, if_true]
          rfl
      | some refusal =>
          refine .inr (.inr (.inr ⟨rfl, refusal, ?_⟩))
          have refused : play b now finished ⟨guild, queue, none, none, status, .track, last⟩ = _ :=
            play_refused answer
          simp only [trackFinished, refused, Bool.false_eq_true, if_false]
          rfl

end Session

end Jukebox
