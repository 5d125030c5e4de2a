import Jukebox.Command.Dispatch
import Jukebox.Document.Settings
import Jukebox.Document.Track
import Jukebox.Settings.Crowd
import Jukebox.Station.Audience

/-!
The written forms of what the program reports: errors, events, votes, sessions, counters, the
configuration, and the replies to commands.
-/

namespace Jukebox

instance : Writable PlayerError where
  write e := .record [("error", .of e.kind), ("message", .of e.message), ("code", .of e.code)]

instance : Writable QueueError where
  write e := .record [("error", .of e.kind), ("message", .of e.message)]

instance : Writable ConfigError where
  write e := .record [("error", .of "Config"), ("message", .of e.message)]

instance : Writable RepeatMode := ⟨fun m => .of m.name⟩
instance : Writable PlaybackStatus := ⟨fun s => .of s.name⟩
instance : Writable VoteKind := ⟨fun k => .of k.name⟩
instance : Writable VoteOutcome := ⟨fun o => .of o.name⟩
instance : Writable MemberSet := ⟨fun ms => .of ms.keys⟩

instance : Writable VoteProgress where
  write p :=
    .record
      [ ("kind", .of p.kind), ("yes", .of p.yes), ("no", .of p.no), ("eligible", .of p.eligible),
        ("required", .of p.required), ("outcome", .of p.outcome) ]

instance : Writable (Nat × Resolution) where
  write r :=
    .record
      [ ("guild_id", .of r.2.key.guild), ("initiator", .of r.2.initiator),
        ("progress", .of r.2.progress), ("at_ms", .of r.1) ]

instance : Writable Enqueued where
  write
    | .nowPlaying => .of "now_playing"
    | .queued position => .record [("queued", .of position)]

/-- The record of an event: its name, its guild, and what else it has to say. -/
def Event.record (name : String) (guild : GuildId) (more : List (String × Document)) : Document :=
  .record (("event", .of name) :: ("guild_id", .of guild) :: more)

instance : Writable Event where
  write
    | .nowPlaying g e => Event.record "now_playing" g [("entry", .of e)]
    | .trackFailed g e reason =>
      Event.record "track_failed" g [("entry", .of e), ("reason", .of reason)]
    | .queueEnded g => Event.record "queue_ended" g []
    | .paused g => Event.record "paused" g []
    | .resumed g => Event.record "resumed" g []
    | .stopped g cleared => Event.record "stopped" g [("cleared", .of cleared)]
    | .queueCleared g removed => Event.record "queue_cleared" g [("removed", .of removed)]

/-- A backlog is the list of its events, after a note of how many were dropped if any were. -/
instance : Writable Backlog where
  write b :=
    let events := b.events.map Document.of
    .list (if b.dropped = 0 then events
      else Document.record [("lagged", .of b.dropped)] :: events)

instance : Writable SettingsReply where
  write
    | .settings s => .of s
    | .value v => .of v
    | .effective e => .of e
    | .done => .null

instance : Writable Call where
  write
    | .play g e _ => .list [.of "play", .of g, .of e]
    | .refuse g e => .list [.of "refuse", .of g, .of e]
    | .pause g => .list [.of "pause", .of g]
    | .resume g => .list [.of "resume", .of g]
    | .stop g => .list [.of "stop", .of g]

def Receipt.fields (r : Receipt) : List (String × Document) :=
  [("entry_id", .of r.entry), ("outcome", .of r.outcome)]

def SessionStatus.fields (s : SessionStatus) : List (String × Document) :=
  [ ("status", .of s.status), ("repeat", .of s.repeatMode), ("current", .of s.current),
    ("queued", .of s.queued) ]

def QueuePage.fields (p : QueuePage) : List (String × Document) :=
  [ ("index", .of p.index), ("page_count", .of p.pageCount), ("total", .of p.total),
    ("total_duration_secs", .of p.totalSecs),
    ("entries",
      .of (p.entries.map fun e =>
        Document.record [("position", .of e.1), ("entry", .of e.2)])) ]

def Metrics.fields (m : Metrics) : List (String × Document) :=
  [ ("active_sessions", .of m.activeSessions), ("sessions_created", .of m.sessionsCreated),
    ("sessions_evicted", .of m.sessionsEvicted), ("queued_tracks", .of m.queuedTracks),
    ("votes_started", .of m.votesStarted), ("votes_passed", .of m.votesPassed),
    ("votes_failed", .of m.votesFailed), ("votes_cancelled", .of m.votesCancelled),
    ("track_failures", .of m.trackFailures), ("commands_handled", .of m.commandsHandled) ]

instance : Writable Receipt := ⟨fun r => .record r.fields⟩
instance : Writable SessionStatus := ⟨fun s => .record s.fields⟩
instance : Writable QueuePage := ⟨fun p => .record p.fields⟩
instance : Writable Metrics := ⟨fun m => .record m.fields⟩

instance : Writable CommandSpec where
  write c :=
    .record
      [ ("name", .of c.name), ("aliases", .of c.aliases), ("category", .of c.category.name),
        ("permission", .of c.permission.name), ("action", .of c.action.name),
        ("usage", .of c.usage), ("display", .of c.display) ]

instance : Writable Invocation where
  write i :=
    .record
      [ ("guild", .of i.guild), ("member", .of i.member), ("name", .of i.name),
        ("args", .of i.args), ("dj", .of i.roles.dj), ("manager", .of i.roles.manager) ]

namespace CommandReply

def name : CommandReply → String
  | enqueued _ => "enqueued"
  | nowPlaying _ => "now_playing"
  | queue _ => "queue"
  | paused => "paused"
  | resumed => "resumed"
  | repeatSet _ => "repeat_set"
  | removed _ => "removed"
  | moved _ _ => "moved"
  | swapped _ _ => "swapped"
  | shuffled => "shuffled"
  | skipped _ => "skipped"
  | stopped _ => "stopped"
  | queueCleared _ => "queue_cleared"
  | vote _ => "vote"
  | voteCancelled _ => "vote_cancelled"
  | settings _ => "settings"
  | stats _ => "stats"

def fieldsOf : Document → List (String × Document)
  | .record fields => fields
  | _ => []

/-- What the reply has to say beside its name. -/
def details : CommandReply → List (String × Document)
  | enqueued receipt => receipt.fields
  | nowPlaying status => status.fields
  | queue page => (page.map (·.fields)).getD []
  | paused | resumed | shuffled => []
  | repeatSet mode => [("mode", .of mode)]
  | removed entries => [("entries", .of entries)]
  | moved source target => [("from", .of source), ("to", .of target)]
  | swapped a b => [("a", .of a), ("b", .of b)]
  | skipped entry => [("entry", .of entry)]
  | stopped n => [("cleared", .of n)]
  | queueCleared n => [("removed", .of n)]
  | vote progress => fieldsOf (.of progress)
  | voteCancelled kind => [("kind", .of kind)]
  | settings s => fieldsOf (.of s)
  | stats metrics => metrics.fields

end CommandReply

instance : Writable CommandReply := ⟨fun r => .record (("reply", .of r.name) :: r.details)⟩

instance : Writable ActivityConfig where
  write a :=
    .record
      [ ("enabled", .of a.enabled), ("interval_secs", .of a.intervalSecs), ("file", .of a.file),
        ("randomized", .of a.randomized), ("include_commands", .of a.includeCommands),
        ("command_prefix", .of a.commandPrefix) ]

instance : Writable Config where
  write c :=
    .record
      [ ("defaults", .of c.defaults), ("sweep_interval_secs", .of c.sweepIntervalSecs),
        ("workers", .of c.workers), ("page_size", .of c.pageSize),
        ("database_url", .of c.databaseUrl), ("activity", .of c.activity) ]

end Jukebox
