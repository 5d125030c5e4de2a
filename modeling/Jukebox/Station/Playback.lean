import Jukebox.Station.Basic

/-!
Playback: the signals of the gateway and the backend, requests for tracks, edits of the queue, and
the views of a session.
-/

namespace Jukebox

structure Receipt where
  entry : EntryId
  outcome : Enqueued
deriving DecidableEq, Repr

structure QueuePage where
  index : Nat
  pageCount : Nat
  total : Nat
  totalSecs : Nat
  /-- The entries of the page with their positions. -/
  entries : List (Nat × Entry)
deriving DecidableEq, Repr

structure SessionStatus where
  status : PlaybackStatus
  repeatMode : RepeatMode
  current : Option Entry
  queued : Nat
deriving DecidableEq, Repr

namespace Station

def memberJoined (s : Station) (guild : GuildId) (m : MemberId) : Station :=
  { s with presence := (s.presence.joined guild m).2 }

def memberLeft (s : Station) (guild : GuildId) (m : MemberId) : Station :=
  { s with presence := (s.presence.left s.now guild m).2 }

def trackStarted (s : Station) (guild : GuildId) : Except PlayerError Bool × Station :=
  s.withSession guild fun _ now session => (session.trackStarted now).accepted

def trackFinished (s : Station) (guild : GuildId) : Except PlayerError Bool × Station :=
  s.withSession guild fun b now session => (session.trackFinished b now).accepted

def trackFailed (s : Station) (guild : GuildId) (reason : String) :
    Except PlayerError Bool × Station :=
  s.withSession guild fun b now session => (session.trackFailed reason b now).accepted

/-- The program has left a guild: its session, listeners and cached settings are dropped. The
result says whether it had a session. -/
def removeGuild (s : Station) (guild : GuildId) : Bool × Station :=
  let (removed, registry) := s.registry.evict guild
  (removed,
    { s with
      registry
      presence := s.presence.forget guild
      settings := s.settings.invalidate guild })

/-- Adds a request for a track. The settings are looked up first; the session is made if the guild
has none. -/
def enqueue (s : Station) (guild : GuildId) (requester : MemberId) (track : TrackRef)
    (metadata : Option TrackMetadata) : Except PlayerError Receipt × Station :=
  match s.settings.effective guild with
  | (.error e, settings) => (.error e, { s with settings })
  | (.ok effective, settings) =>
    let e : Entry :=
      { id := s.nextEntry
        requester
        track
        metadata := metadata.getD (.unresolved track) }
    let (slot, registry) := s.registry.getOrCreate s.now guild
    let s := { s with settings, registry, nextEntry := s.nextEntry.next }
    let (result, s) := s.apply slot (Session.enqueue e effective.maxQueueSize)
    (result.map fun outcome => { entry := e.id, outcome }, s)

def skip (s : Station) (guild : GuildId) : Except PlayerError Entry × Station :=
  s.withSession guild Session.skip

def stop (s : Station) (guild : GuildId) : Except PlayerError Nat × Station :=
  s.withSession guild fun _ now session => (session.stop now).accepted

def clearQueue (s : Station) (guild : GuildId) : Except PlayerError Nat × Station :=
  s.withSession guild fun _ now session => (session.clearQueue now).accepted

def pause (s : Station) (guild : GuildId) : Except PlayerError Unit × Station :=
  s.withSession guild fun _ now session => session.pause now

def resume (s : Station) (guild : GuildId) : Except PlayerError Unit × Station :=
  s.withSession guild fun _ now session => session.resume now

def setRepeat (s : Station) (guild : GuildId) (mode : RepeatMode) :
    Except PlayerError Unit × Station :=
  s.withSession guild fun _ now session => (session.setRepeat mode now).accepted

def removeAt (s : Station) (guild : GuildId) (position : Nat) :
    Except PlayerError Entry × Station :=
  s.withSession guild fun _ now session => session.removeAt position now

def removeByRequester (s : Station) (guild : GuildId) (m : MemberId) :
    Except PlayerError (List Entry) × Station :=
  s.withSession guild fun _ now session => session.removeByRequester m now

def swap (s : Station) (guild : GuildId) (a b : Nat) : Except PlayerError Unit × Station :=
  s.withSession guild fun _ now session => session.swap a b now

def move (s : Station) (guild : GuildId) (source target : Nat) :
    Except PlayerError Unit × Station :=
  s.withSession guild fun _ now session => session.move source target now

def shuffle (s : Station) (guild : GuildId) : Except PlayerError Unit × Station :=
  s.withSession guild fun _ now session => session.shuffle s.arrangement now

def queueOf (s : Station) (guild : GuildId) : Except PlayerError (List Entry) :=
  (s.viewSession guild).map fun session => session.queue.entries

def statusOf (s : Station) (guild : GuildId) : Except PlayerError SessionStatus :=
  (s.viewSession guild).map fun session =>
    { status := session.status
      repeatMode := session.repeatMode
      current := session.current
      queued := session.queue.length }

/-- A page of a guild's queue. The first page exists even when the queue is empty. The result is
`none` when the queue's total playing time does not fit. A refusal counts the pages from one: `index + 1`
has no bound, where a counter of one word runs over at its last value. -/
def queuePage (s : Station) (guild : GuildId) (index : Nat) :
    Except PlayerError (Option QueuePage) :=
  match s.viewSession guild with
  | .error e => .error e
  | .ok session =>
    match session.queue.totalDuration? with
    | none => .ok none
    | some total =>
      let pageCount := session.queue.pageCount s.pageSize
      if 0 < index ∧ pageCount ≤ index then
        .error (.notFound ("page " ++ toString (index + 1) ++ " (queue has " ++
          toString pageCount ++ " page(s))"))
      else
        .ok (some
          { index
            pageCount
            total := session.queue.length
            totalSecs := total.secs
            entries := session.queue.page index s.pageSize })

end Station

end Jukebox
