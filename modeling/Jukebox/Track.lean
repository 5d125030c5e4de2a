import Jukebox.Id
import Jukebox.Playtime

/-!
Tracks: the address of something that can be streamed, what is known about it, and a request for
it in a queue.
-/

namespace Jukebox

structure TrackRef where
  url : String
deriving DecidableEq, Repr, Inhabited

structure TrackMetadata where
  title : String
  duration : Option Playtime
  sourceUrl : String
  thumbnailUrl : Option String
deriving DecidableEq, Repr

/-- The metadata of a track about which nothing is known: its address is its title. -/
def TrackMetadata.unresolved (track : TrackRef) : TrackMetadata where
  title := track.url
  duration := none
  sourceUrl := track.url
  thumbnailUrl := none

/-- A request for a track, waiting in a queue or taken from it. -/
structure Entry where
  id : EntryId
  requester : MemberId
  track : TrackRef
  metadata : TrackMetadata
deriving DecidableEq, Repr

end Jukebox
