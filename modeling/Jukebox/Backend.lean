import Jukebox.Error
import Jukebox.Track

/-!
The playback backend as the sessions see it: it accepts or refuses a track at once, numbers the
streams it accepts, and is told to pause, resume and stop. What it was asked is kept in order.
-/

namespace Jukebox

/-- A request to the backend, with its answer where it has one. -/
inductive Call
  | play (guild : GuildId) (entry : EntryId) (handle : StreamHandle)
  | refuse (guild : GuildId) (entry : EntryId)
  | pause (guild : GuildId)
  | resume (guild : GuildId)
  | stop (guild : GuildId)
deriving DecidableEq, Repr

namespace Call

def guild : Call → GuildId
  | play g _ _ | refuse g _ | pause g | resume g | stop g => g

def isPlay : Call → Bool
  | play .. => true
  | _ => false

end Call

/-- The playback backend: what it refuses at the moment, the handle of the next stream it accepts,
and every call so far, oldest first. -/
structure Backend where
  /-- Why an entry of a guild is refused, if it is, given the calls so far. -/
  refusal : List Call → GuildId → Entry → Option PlayerError := fun _ _ _ => none
  nextHandle : StreamHandle
  calls : List Call := []

namespace Backend

/-- From now on tracks with this address are refused with a load error. -/
def refuse (b : Backend) (url message : String) : Backend :=
  { b with
    refusal := fun calls g e =>
      if e.track.url = url then some (.load message) else b.refusal calls g e }

def accept (b : Backend) (url : String) : Backend :=
  { b with
    refusal := fun calls g e => if e.track.url = url then none else b.refusal calls g e }

/-- Why an entry of a guild would be refused now. -/
def refusal? (b : Backend) (guild : GuildId) (e : Entry) : Option PlayerError :=
  b.refusal b.calls guild e

/-- Notes calls that were made; each accepted stream uses up a handle. -/
def record (b : Backend) (calls : List Call) : Backend :=
  { b with
    nextHandle := ⟨b.nextHandle.val + UInt64.ofNat (calls.countP Call.isPlay)⟩
    calls := b.calls ++ calls }

end Backend

end Jukebox
