import Jukebox.Backend
import Jukebox.Queue
import Jukebox.Text.Blank

/-!
The playback session of one guild.

A session is idle, playing or paused. Commands, passed votes and the signals of the backend move
it. Every operation is a function of the backend's present answers, the time and the session; its
outcome holds the result, the session afterwards, and what was signalled on the way: the events
for the guild and the calls to the backend.
-/

namespace Jukebox

/-- What happens to an entry that has been played to its end. -/
inductive RepeatMode
  | off
  | track
  | queue
deriving DecidableEq, Repr

namespace RepeatMode

def name : RepeatMode → String
  | off => "off"
  | track => "track"
  | queue => "queue"

def parse (s : String) : Except PlayerError RepeatMode :=
  match Text.lowerAscii (Text.trim s) with
  | "off" | "none" => .ok off
  | "track" | "one" | "repeat-track" => .ok track
  | "queue" | "all" | "repeat-queue" => .ok queue
  | other =>
    .error (.validation
      ("unknown repeat mode '" ++ other ++ "' (expected off, track or queue)"))

end RepeatMode

inductive PlaybackStatus
  | idle
  | playing
  | paused
deriving DecidableEq, Repr

def PlaybackStatus.name : PlaybackStatus → String
  | idle => "idle"
  | playing => "playing"
  | paused => "paused"

inductive Event
  | nowPlaying (guild : GuildId) (entry : Entry)
  | trackFailed (guild : GuildId) (entry : Entry) (reason : String)
  | queueEnded (guild : GuildId)
  | paused (guild : GuildId)
  | resumed (guild : GuildId)
  | stopped (guild : GuildId) (cleared : Nat)
  | queueCleared (guild : GuildId) (removed : Nat)
deriving DecidableEq, Repr

namespace Event

def guild : Event → GuildId
  | nowPlaying g _ | trackFailed g _ _ | queueEnded g | paused g | resumed g | stopped g _
  | queueCleared g _ => g

def isTrackFailed : Event → Bool
  | trackFailed .. => true
  | _ => false

/-- The entry and the reason of a failed track. -/
def failure? : Event → Option (Entry × String)
  | trackFailed _ e reason => some (e, reason)
  | _ => none

end Event

inductive Enqueued
  /-- The session was idle and plays it. -/
  | nowPlaying
  /-- It waits at a position of the queue. -/
  | queued (position : Nat)
deriving DecidableEq, Repr

/-- What an operation signals: events for the guild and calls to the backend, oldest first. -/
structure Signals where
  events : List Event := []
  calls : List Call := []
deriving DecidableEq, Repr

namespace Signals

def append (a b : Signals) : Signals := ⟨a.events ++ b.events, a.calls ++ b.calls⟩

instance : Append Signals := ⟨append⟩

end Signals

structure Session where
  guild : GuildId
  queue : Queue := .empty
  current : Option Entry := none
  stream : Option StreamHandle := none
  status : PlaybackStatus := .idle
  repeatMode : RepeatMode := .off
  /-- When the session was last used, in milliseconds. -/
  lastActivity : Nat
deriving DecidableEq, Repr

/-- What an operation on a session leaves behind. -/
structure Outcome (α : Type) where
  result : α
  session : Session
  signals : Signals := {}

namespace Outcome

def map {α β : Type} (f : α → β) (o : Outcome α) : Outcome β :=
  { result := f o.result, session := o.session, signals := o.signals }

/-- The outcome as that of an operation that was not refused. -/
def accepted {α : Type} (o : Outcome α) : Outcome (Except PlayerError α) := o.map .ok

end Outcome

namespace Session

/-- The session of a guild when it is first used. -/
def create (guild : GuildId) (now : Nat) : Session := { guild, lastActivity := now }

def isIdle (s : Session) : Bool := s.status = .idle

def currentId (s : Session) : Option EntryId := s.current.map (·.id)

/-- How long the session has been idle; `none` while an entry is loaded. -/
def idleFor (s : Session) (now : Nat) : Option Nat :=
  if s.isIdle then some (now - s.lastActivity) else none

def touch (s : Session) (now : Nat) : Session := { s with lastActivity := now }

/-- A refused operation changes nothing and signals nothing. -/
def refuse {α : Type} (s : Session) (e : PlayerError) : Outcome (Except PlayerError α) :=
  { result := .error e, session := s }

/-- Hands an entry to the backend, which loads it or refuses it on the spot. -/
def play (b : Backend) (now : Nat) (e : Entry) (s : Session) : Outcome Bool :=
  match b.refusal? s.guild e with
  | none =>
    { result := true
      session :=
        { s with
          current := some e
          stream := some b.nextHandle
          status := .playing
          lastActivity := now }
      signals := ⟨[.nowPlaying s.guild e], [.play s.guild e.id b.nextHandle]⟩ }
  | some refusal =>
    { result := false
      session := s
      signals := ⟨[.trackFailed s.guild e refusal.message], [.refuse s.guild e.id]⟩ }

/-- Nothing is left to play. The backend is told to stop if something was loaded before. -/
def goIdle (now : Nat) (s : Session) : Outcome Unit :=
  { result := ()
    session :=
      { s with current := none, stream := none, status := .idle, lastActivity := now }
    signals := if s.isIdle then {} else ⟨[.queueEnded s.guild], [.stop s.guild]⟩ }

/-- Takes entries from the front of the queue until one is loaded. -/
def startFrom (b : Backend) (now : Nat) (s : Session) : List Entry → Outcome Unit
  | [] => goIdle now { s with queue := .empty }
  | e :: rest =>
    let tried := play b now e { s with queue := ⟨rest⟩ }
    if tried.result then
      { result := (), session := tried.session, signals := tried.signals }
    else
      let later := startFrom (b.record tried.signals.calls) now tried.session rest
      { later with signals := tried.signals ++ later.signals }

/-- Drops what is loaded and starts the next entry of the queue. -/
def startNext (b : Backend) (now : Nat) (s : Session) : Outcome Unit :=
  startFrom b now { s with current := none, stream := none } s.queue.entries

/-- The reason in the latest failure of an entry. -/
def failureReason? (id : EntryId) (events : List Event) : Option String :=
  (events.reverse.filterMap Event.failure?).findSome? fun f =>
    if f.1.id = id then some f.2 else none

/-- Adds an entry; an idle session starts to play it. -/
def enqueue (e : Entry) (capacity : Nat) (b : Backend) (now : Nat) (s : Session) :
    Outcome (Except PlayerError Enqueued) :=
  match s.queue.tryEnqueue e capacity with
  | .error err => s.refuse err.toPlayerError
  | .ok (position, queue) =>
    let s := { s with queue, lastActivity := now }
    if s.isIdle then
      let o := startNext b now s
      o.map fun _ =>
        if o.session.currentId = some e.id then .ok .nowPlaying
        else match o.session.queue.entries.findIdx? (fun q => q.id = e.id) with
          | some p => .ok (.queued p)
          | none => .error (.load ((failureReason? e.id o.signals.events).getD ""))
    else { result := .ok (.queued position), session := s }

def pause (now : Nat) (s : Session) : Outcome (Except PlayerError Unit) :=
  if s.status = .playing then
    { result := .ok ()
      session := { s with status := .paused, lastActivity := now }
      signals := ⟨[.paused s.guild], [.pause s.guild]⟩ }
  else s.refuse (.stateConflict ("cannot pause while " ++ s.status.name))

def resume (now : Nat) (s : Session) : Outcome (Except PlayerError Unit) :=
  if s.status = .paused then
    { result := .ok ()
      session := { s with status := .playing, lastActivity := now }
      signals := ⟨[.resumed s.guild], [.resume s.guild]⟩ }
  else s.refuse (.stateConflict ("cannot resume while " ++ s.status.name))

/-- The backend reports that the loaded entry can be heard. `false` when nothing is loaded. -/
def trackStarted (now : Nat) (s : Session) : Outcome Bool :=
  match s.current with
  | none => { result := false, session := s }
  | some _ => { result := true, session := s.touch now }

/-- The backend reports that the loaded entry has ended. The repeat mode decides what becomes of
it: it is played again, appended to the queue, or dropped. `false` when nothing is loaded. -/
def trackFinished (b : Backend) (now : Nat) (s : Session) : Outcome Bool :=
  match s.current with
  | none => { result := false, session := s }
  | some finished =>
    let s := { s with current := none, stream := none }
    match s.repeatMode with
    | .track =>
      let again := play b now finished s
      if again.result then again
      else
        let o := startNext (b.record again.signals.calls) now again.session
        { result := true, session := o.session, signals := again.signals ++ o.signals }
    | .queue => (startNext b now { s with queue := (s.queue.enqueue finished).2 }).map fun _ => true
    | .off => (startNext b now s).map fun _ => true

/-- The backend reports that the loaded entry has failed. It is dropped. `false` when nothing is
loaded. -/
def trackFailed (reason : String) (b : Backend) (now : Nat) (s : Session) : Outcome Bool :=
  match s.current with
  | none => { result := false, session := s }
  | some failed =>
    let o := startNext b now { s with current := none }
    { result := true
      session := o.session
      signals := ⟨[.trackFailed s.guild failed reason], []⟩ ++ o.signals }

/-- Drops the loaded entry, whatever the repeat mode, and starts the next one. -/
def skip (b : Backend) (now : Nat) (s : Session) : Outcome (Except PlayerError Entry) :=
  match s.current with
  | none => s.refuse (.stateConflict "nothing is playing")
  | some skipped => (startNext b now { s with current := none }).map fun _ => .ok skipped

/-- Drops the loaded entry and the queue. The result is how many queued entries were dropped. -/
def stop (now : Nat) (s : Session) : Outcome Nat :=
  let (cleared, queue) := s.queue.clear
  { result := cleared
    session :=
      { s with queue, current := none, stream := none, status := .idle, lastActivity := now }
    signals :=
      ⟨[.stopped s.guild cleared], if s.current.isSome then [.stop s.guild] else []⟩ }

/-- Drops the queue; the loaded entry stays. -/
def clearQueue (now : Nat) (s : Session) : Outcome Nat :=
  let (removed, queue) := s.queue.clear
  { result := removed
    session := { s with queue, lastActivity := now }
    signals := ⟨[.queueCleared s.guild removed], []⟩ }

def setRepeat (mode : RepeatMode) (now : Nat) (s : Session) : Outcome Unit :=
  { result := (), session := { s with repeatMode := mode, lastActivity := now } }

/-- An edit of the queue alone, which counts as use of the session unless it is refused. -/
def edit {α : Type} (now : Nat) (s : Session) (r : Except QueueError (α × Queue)) :
    Outcome (Except PlayerError α) :=
  match r with
  | .error e => s.refuse e.toPlayerError
  | .ok (a, queue) => { result := .ok a, session := { s with queue, lastActivity := now } }

def removeAt (position : Nat) (now : Nat) (s : Session) : Outcome (Except PlayerError Entry) :=
  s.edit now (s.queue.removeAt position)

def removeByRequester (member : MemberId) (now : Nat) (s : Session) :
    Outcome (Except PlayerError (List Entry)) :=
  s.edit now (s.queue.removeByRequester member)

def swap (a b : Nat) (now : Nat) (s : Session) : Outcome (Except PlayerError Unit) :=
  s.edit now ((s.queue.swap a b).map fun q => ((), q))

def move (source target : Nat) (now : Nat) (s : Session) : Outcome (Except PlayerError Unit) :=
  s.edit now ((s.queue.move source target).map fun q => ((), q))

def shuffle (arrangement : Arrangement) (now : Nat) (s : Session) :
    Outcome (Except PlayerError Unit) :=
  if s.queue.length < 2 then
    s.refuse (.stateConflict "need at least two queued tracks to shuffle")
  else s.edit now (.ok ((), s.queue.shuffle arrangement))

/-- The session is about to be given up: it drops everything and the backend stops. -/
def release (s : Session) : Outcome Unit :=
  { result := ()
    session := { s with queue := .empty, current := none, stream := none, status := .idle }
    signals := ⟨[], [.stop s.guild]⟩ }

/-- The session in one line, for a log. -/
def describe (s : Session) : String :=
  "AudioSession \x7b guild_id: GuildId(" ++ toString s.guild ++ "), status: " ++ status ++
    ", repeat: " ++ mode ++ ", current: " ++ current ++ ", queued: " ++
    toString s.queue.length ++ " \x7d"
where
  status := match s.status with
    | .idle => "Idle"
    | .playing => "Playing"
    | .paused => "Paused"
  mode := match s.repeatMode with
    | .off => "Off"
    | .track => "Track"
    | .queue => "Queue"
  current := match s.currentId with
    | none => "None"
    | some id => "Some(EntryId(" ++ toString id ++ "))"

end Session

end Jukebox
