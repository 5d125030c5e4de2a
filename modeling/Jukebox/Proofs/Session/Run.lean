import Jukebox.Session

/-!
Runs of a session: what can be asked of it as data, and the session that a sequence of turns
leaves. Each turn comes with a moment and a backend of its own, so a run leaves open what the
backend accepts and when.
-/

namespace Jukebox

inductive SessionAct
  | enqueue (e : Entry) (capacity : Nat)
  | pause
  | resume
  | trackStarted
  | trackFinished
  | trackFailed (reason : String)
  | skip
  | stop
  | clearQueue
  | setRepeat (mode : RepeatMode)
  | removeAt (position : Nat)
  | removeByRequester (member : MemberId)
  | swap (a b : Nat)
  | move (source target : Nat)
  | shuffle (arrangement : Arrangement)
  | release

inductive SessionReply
  | enqueued (place : Enqueued)
  /-- Whether a signal of the backend was about a loaded entry. -/
  | heard (current : Bool)
  | entry (e : Entry)
  | entries (es : List Entry)
  | dropped (n : Nat)
  | done
deriving DecidableEq, Repr

def SessionAct.run (a : SessionAct) (b : Backend) (now : Nat) (s : Session) :
    Outcome (Except PlayerError SessionReply) :=
  match a with
  | enqueue e capacity => (s.enqueue e capacity b now).map (·.map .enqueued)
  | pause => (s.pause now).map (·.map fun _ => .done)
  | resume => (s.resume now).map (·.map fun _ => .done)
  | trackStarted => (s.trackStarted now).map fun x => .ok (.heard x)
  | trackFinished => (s.trackFinished b now).map fun x => .ok (.heard x)
  | trackFailed reason => (s.trackFailed reason b now).map fun x => .ok (.heard x)
  | skip => (s.skip b now).map (·.map .entry)
  | stop => (s.stop now).map fun n => .ok (.dropped n)
  | clearQueue => (s.clearQueue now).map fun n => .ok (.dropped n)
  | setRepeat mode => (s.setRepeat mode now).map fun _ => .ok .done
  | removeAt position => (s.removeAt position now).map (·.map .entry)
  | removeByRequester member => (s.removeByRequester member now).map (·.map .entries)
  | swap a b => (s.swap a b now).map (·.map fun _ => .done)
  | move source target => (s.move source target now).map (·.map fun _ => .done)
  | shuffle arrangement => (s.shuffle arrangement now).map (·.map fun _ => .done)
  | release => s.release.map fun _ => .ok .done

/-- An act at a moment, with the backend as it is then. -/
structure Turn where
  act : SessionAct
  backend : Backend
  now : Nat

namespace Turn

def outcome (t : Turn) (s : Session) : Outcome (Except PlayerError SessionReply) :=
  t.act.run t.backend t.now s

def next (t : Turn) (s : Session) : Session := (t.outcome s).session

end Turn

def Session.after (s : Session) : List Turn → Session
  | [] => s
  | t :: turns => (t.next s).after turns

@[simp] theorem Outcome.map_session {α β : Type} (f : α → β) (o : Outcome α) :
    (o.map f).session = o.session := rfl

theorem Session.after_append (s : Session) (before later : List Turn) :
    s.after (before ++ later) = (s.after before).after later := by
  induction before generalizing s with
  | nil => rfl
  | cons t before ih => exact ih (t.next s)

/-- What every turn keeps, a run keeps. -/
theorem Session.after_induction {P : Session → Prop} (keeps : ∀ s t, P s → P (Turn.next t s))
    {s : Session} (h : P s) (turns : List Turn) : P (s.after turns) := by
  induction turns generalizing s with
  | nil => exact h
  | cons t turns ih => exact ih (keeps s t h)

end Jukebox
