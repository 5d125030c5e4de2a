import Jukebox.Command.Invocation
import Jukebox.Station.Request
import Jukebox.TrackAddress

/-!
Running commands. A command is looked up and its permission checked before its arguments are read;
the arguments give a request to the station, and the answer of the station gives the reply.
-/

namespace Jukebox

/-- What a member is told after a command. -/
inductive CommandReply
  | enqueued (receipt : Receipt)
  | nowPlaying (status : SessionStatus)
  /-- There is no page to show when the queue's total playing time does not fit. -/
  | queue (page : Option QueuePage)
  | paused
  | resumed
  | repeatSet (mode : RepeatMode)
  | removed (entries : List Entry)
  | moved (source target : Nat)
  | swapped (a b : Nat)
  | shuffled
  | skipped (entry : Entry)
  | stopped (cleared : Nat)
  | queueCleared (removed : Nat)
  | vote (progress : VoteProgress)
  | voteCancelled (kind : VoteKind)
  | settings (settings : GuildSettings)
  | stats (metrics : Metrics)
deriving DecidableEq, Repr

/-- The type of the answer from which the reply to an action is made. -/
@[reducible] def Action.Answer : Action → Type
  | play => Receipt
  | pause | resume | setRepeat | move | swap | shuffle | voteCancel => Unit
  | nowPlaying => SessionStatus
  | queue => Option QueuePage
  | removeMine => List Entry
  | skip | remove => Entry
  | stop | clearQueue => Nat
  | voteSkip | voteStop | voteClear | voteYes | voteNo => VoteProgress
  | showSettings | setSetting | resetSetting | setSkipRatio => GuildSettings
  | stats => Metrics

/-- What a command comes down to: a request, and the reply that its answer gives. -/
structure Plan (α : Type) where
  request : Request α
  reply : α → CommandReply

namespace Invocation

/-- Reads the share in percent that the first argument names: `none` to reset it. What lies
outside the bounds but fits a byte is left to the check of the settings. -/
def skipRatio (i : Invocation) : Except PlayerError (Option UInt8) := do
  let raw := Text.trim (← i.arg 0 "ratio")
  if Text.lowerAscii raw = "reset" then return none
  match Text.numeral maxWord32 raw with
  | .error _ =>
    throw (.validation ("skip ratio must be a number, got '" ++ raw ++ "'"))
  | .ok n =>
    if n < 256 then return some (UInt8.ofNat n)
    throw (.validation ("skip_ratio must be between 1 and 100, got " ++ toString n))

def title? (i : Invocation) : Option String :=
  match i.args.drop 1 with
  | [] => none
  | words => some (" ".intercalate words)

/-- A request to play the track that the first argument names, under the title that follows. -/
def playPlan (i : Invocation) : Except PlayerError (Plan Receipt) := do
  let track ← TrackRef.parse (← i.arg 0 "url")
  let metadata := i.title?.map fun title => { TrackMetadata.unresolved track with title }
  return { request := .enqueue i.guild i.member track metadata, reply := .enqueued }

/-- The page that the first argument names, counted from one; without an argument the first. -/
def pageIndex (i : Invocation) : Except PlayerError Nat :=
  if i.args.isEmpty then .ok 0 else i.position 0 "page"

/-- What an action with the arguments of the invocation comes down to. -/
def plan (i : Invocation) : (a : Action) → Except PlayerError (Plan a.Answer)
  | .play => i.playPlan
  | .pause => return { request := .pause i.guild, reply := fun _ => .paused }
  | .resume => return { request := .resume i.guild, reply := fun _ => .resumed }
  | .nowPlaying => return { request := .status i.guild, reply := .nowPlaying }
  | .queue => do return { request := .page i.guild (← i.pageIndex), reply := .queue }
  | .setRepeat => do
    let mode ← RepeatMode.parse (← i.arg 0 "mode")
    return { request := .setRepeat i.guild mode, reply := fun _ => .repeatSet mode }
  | .removeMine => return { request := .removeByRequester i.guild i.member, reply := .removed }
  | .skip => return { request := .skip i.guild, reply := .skipped }
  | .stop => return { request := .stop i.guild, reply := .stopped }
  | .clearQueue => return { request := .clearQueue i.guild, reply := .queueCleared }
  | .remove => do
    let position ← i.position 0 "position"
    return { request := .removeAt i.guild position, reply := fun e => .removed [e] }
  | .move => do
    let source ← i.position 0 "from"
    let target ← i.position 1 "to"
    return { request := .move i.guild source target, reply := fun _ => .moved source target }
  | .swap => do
    let a ← i.position 0 "a"
    let b ← i.position 1 "b"
    return { request := .swap i.guild a b, reply := fun _ => .swapped a b }
  | .shuffle => return { request := .shuffle i.guild, reply := fun _ => .shuffled }
  | .voteSkip => return { request := .startVote i.guild .skip i.member, reply := .vote }
  | .voteStop => return { request := .startVote i.guild .stop i.member, reply := .vote }
  | .voteClear => return { request := .startVote i.guild .clearQueue i.member, reply := .vote }
  | .voteYes => do
    return { request := .castVote i.guild (← i.voteKind) i.member .yes, reply := .vote }
  | .voteNo => do
    return { request := .castVote i.guild (← i.voteKind) i.member .no, reply := .vote }
  | .voteCancel => do
    let kind ← i.voteKind
    return { request := .cancelVote i.guild kind, reply := fun _ => .voteCancelled kind }
  | .showSettings => return { request := .settings i.guild, reply := .settings }
  | .setSetting => do
    let key ← SettingKey.parse (← i.arg 0 "key")
    let value ← SettingValue.parseFor key (← i.arg 1 "value")
    return { request := .setSetting i.guild key (some value), reply := .settings }
  | .resetSetting => do
    let key ← SettingKey.parse (← i.arg 0 "key")
    return { request := .setSetting i.guild key none, reply := .settings }
  | .setSkipRatio => do
    return { request := .setSkipRatio i.guild (← i.skipRatio), reply := .settings }
  | .stats => return { request := .stats, reply := .stats }

end Invocation

namespace Station

def carryOut {α : Type} (s : Station) (p : Plan α) : Except PlayerError CommandReply × Station :=
  let (answer, s) := s.handle p.request
  (answer.map p.reply, s)

/-- Runs an action for an invocation that may run it. -/
def perform (s : Station) (i : Invocation) (a : Action) :
    Except PlayerError CommandReply × Station :=
  match i.plan a with
  | .error e => (.error e, s)
  | .ok p => s.carryOut p

/-- Runs a command. It counts as handled, even if it is refused, once the member may run it. -/
def dispatch (s : Station) (i : Invocation) : Except PlayerError CommandReply × Station :=
  match findCommand? i.name with
  | none => (.error (.unknownCommand i.name), s)
  | some spec =>
    if spec.permission.allows i.roles then
      let (reply, s) := s.perform i spec.action
      (reply, s.count Metrics.commandHandled)
    else (.error (.unauthorized spec.permission.name), s)

end Station

end Jukebox
