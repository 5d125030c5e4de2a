import Jukebox.Station.Playback
import Jukebox.Station.Upkeep
import Jukebox.Station.Voting

/-!
Requests to the station: everything that the gateway, the backend and the members can ask of it,
each with the type of its answer, and one function that answers them all.
-/

namespace Jukebox

/-- A request, indexed by the type of its answer. -/
inductive Request : Type → Type
  | memberJoined (guild : GuildId) (member : MemberId) : Request Unit
  | memberLeft (guild : GuildId) (member : MemberId) : Request Unit
  | trackStarted (guild : GuildId) : Request Bool
  | trackFinished (guild : GuildId) : Request Bool
  | trackFailed (guild : GuildId) (reason : String) : Request Bool
  | removeGuild (guild : GuildId) : Request Bool
  | enqueue (guild : GuildId) (member : MemberId) (track : TrackRef)
      (metadata : Option TrackMetadata) : Request Receipt
  | skip (guild : GuildId) : Request Entry
  | stop (guild : GuildId) : Request Nat
  | clearQueue (guild : GuildId) : Request Nat
  | pause (guild : GuildId) : Request Unit
  | resume (guild : GuildId) : Request Unit
  | setRepeat (guild : GuildId) (mode : RepeatMode) : Request Unit
  | removeAt (guild : GuildId) (position : Nat) : Request Entry
  | removeByRequester (guild : GuildId) (member : MemberId) : Request (List Entry)
  | swap (guild : GuildId) (a b : Nat) : Request Unit
  | move (guild : GuildId) (source target : Nat) : Request Unit
  | shuffle (guild : GuildId) : Request Unit
  | queue (guild : GuildId) : Request (List Entry)
  | status (guild : GuildId) : Request SessionStatus
  /-- The answer is `none` when the queue's total playing time does not fit. -/
  | page (guild : GuildId) (index : Nat) : Request (Option QueuePage)
  | startVote (guild : GuildId) (kind : VoteKind) (member : MemberId) : Request VoteProgress
  | castVote (guild : GuildId) (kind : VoteKind) (member : MemberId) (ballot : Ballot) :
      Request VoteProgress
  | cancelVote (guild : GuildId) (kind : VoteKind) : Request Unit
  | voteProgress (guild : GuildId) (kind : VoteKind) : Request (Option VoteProgress)
  | setSetting (guild : GuildId) (key : SettingKey) (value : Option SettingValue) :
      Request GuildSettings
  | setSkipRatio (guild : GuildId) (ratio : Option UInt8) : Request GuildSettings
  | settings (guild : GuildId) : Request GuildSettings
  | stats : Request Metrics

namespace Request

/-- The guild that a request names. -/
def guild? {α : Type} : Request α → Option GuildId
  | memberJoined g _ | memberLeft g _ | trackStarted g | trackFinished g | trackFailed g _
  | removeGuild g | enqueue g _ _ _ | skip g | stop g | clearQueue g | pause g | resume g
  | setRepeat g _ | removeAt g _ | removeByRequester g _ | swap g _ _ | move g _ _ | shuffle g
  | queue g | status g | page g _ | startVote g _ _ | castVote g _ _ _ | cancelVote g _
  | voteProgress g _ | setSetting g _ _ | setSkipRatio g _ | settings g => some g
  | stats => none

end Request

/-- Answers a request. The actions of votes that pass on the way stay in flight. -/
def Station.handle {α : Type} (s : Station) : Request α → Except PlayerError α × Station
  | .memberJoined g m => (.ok (), s.memberJoined g m)
  | .memberLeft g m => (.ok (), s.memberLeft g m)
  | .trackStarted g => s.trackStarted g
  | .trackFinished g => s.trackFinished g
  | .trackFailed g reason => s.trackFailed g reason
  | .removeGuild g => let (removed, s) := s.removeGuild g; (.ok removed, s)
  | .enqueue g m track metadata => s.enqueue g m track metadata
  | .skip g => s.skip g
  | .stop g => s.stop g
  | .clearQueue g => s.clearQueue g
  | .pause g => s.pause g
  | .resume g => s.resume g
  | .setRepeat g mode => s.setRepeat g mode
  | .removeAt g position => s.removeAt g position
  | .removeByRequester g m => s.removeByRequester g m
  | .swap g a b => s.swap g a b
  | .move g source target => s.move g source target
  | .shuffle g => s.shuffle g
  | .queue g => (s.queueOf g, s)
  | .status g => (s.statusOf g, s)
  | .page g index => (s.queuePage g index, s)
  | .startVote g kind m => s.startVote g kind m
  | .castVote g kind m ballot => s.castVote g kind m ballot
  | .cancelVote g kind => s.cancelVote g kind
  | .voteProgress g kind => (.ok (s.voteProgress? g kind), s)
  | .setSetting g key value => s.setSetting g key value
  | .setSkipRatio g ratio => s.setSkipRatio g ratio
  | .settings g => s.guildSettings g
  | .stats => (.ok s.metrics, s)

end Jukebox
