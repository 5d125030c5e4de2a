import Jukebox.Id

/-!
Why a request is refused. Each error is a cause; its kind, wording and number are functions of it.
-/

namespace Jukebox

inductive PlayerError
  /-- Malformed or out of range input. -/
  | validation (text : String)
  /-- The playback or vote state does not allow the action. -/
  | stateConflict (text : String)
  | notEligible
  | alreadyVoted
  | noActiveVote
  | notFound (text : String)
  | noSession (guild : GuildId)
  /-- The backend refused a track. -/
  | load (text : String)
  /-- The settings repository refused a read or a write. -/
  | persistence (text : String)
  /-- The member lacks the role with this label. -/
  | unauthorized (role : String)
  | unknownCommand (name : String)
deriving DecidableEq, Repr

namespace PlayerError

def kind : PlayerError → String
  | validation _ => "Validation"
  | stateConflict _ => "StateConflict"
  | notEligible => "NotEligible"
  | alreadyVoted => "AlreadyVoted"
  | noActiveVote => "NoActiveVote"
  | notFound _ => "NotFound"
  | noSession _ => "NoSession"
  | load _ => "Load"
  | persistence _ => "Persistence"
  | unauthorized _ => "Unauthorized"
  | unknownCommand _ => "UnknownCommand"

def message : PlayerError → String
  | validation text => "validation failed: " ++ text
  | stateConflict text => "state conflict: " ++ text
  | notEligible => "member is not eligible to vote"
  | alreadyVoted => "member has already voted"
  | noActiveVote => "no vote in progress"
  | notFound text => "not found: " ++ text
  | noSession guild => "no session for guild " ++ toString guild
  | load text => "failed to load track: " ++ text
  | persistence text => "persistence error: " ++ text
  | unauthorized role => "missing permission: " ++ role
  | unknownCommand name => "unknown command: " ++ name

/-- The stable number of the kind. -/
def code : PlayerError → Nat
  | unknownCommand _ => 1
  | validation _ => 3
  | unauthorized _ => 4
  | stateConflict _ => 104
  | notFound _ => 106
  | noSession _ => 101
  | load _ => 107
  | notEligible => 103
  | alreadyVoted => 120
  | noActiveVote => 121
  | persistence _ => 300

end PlayerError

/-- Why an edit of a queue is refused. -/
inductive QueueError
  | invalidRange (position : Nat)
  | outOfBounds (position len : Nat)
  | notFound (position : Nat)
  | noTracksFrom (member : MemberId)
  | full (capacity : Nat)
deriving DecidableEq, Repr

namespace QueueError

def kind : QueueError → String
  | invalidRange _ => "InvalidRange"
  | outOfBounds _ _ => "OutOfBounds"
  | notFound _ => "NotFound"
  | noTracksFrom _ => "NoTracksFrom"
  | full _ => "Full"

def message : QueueError → String
  | invalidRange a => "positions " ++ toString a ++ " and " ++ toString a ++ " are the same"
  | outOfBounds position len =>
    "position " ++ toString position ++ " is outside the queue (length " ++ toString len ++ ")"
  | notFound a => "nothing queued at position " ++ toString a
  | noTracksFrom member => "member " ++ toString member ++ " has no tracks in the queue"
  | full capacity => "queue is full (" ++ toString capacity ++ " tracks)"

/-- A refused edit as a refused request: malformed positions and a full queue are bad input, a
position or member without tracks is not found. -/
def toPlayerError (e : QueueError) : PlayerError :=
  match e with
  | invalidRange _ | full _ => .validation e.message
  | outOfBounds _ _ | notFound _ | noTracksFrom _ => .notFound e.message

end QueueError

end Jukebox
