import Jukebox.Text.Blank

/-!
The table of commands: their names and aliases, who may run them, and what they do.
-/

namespace Jukebox

inductive CommandCategory
  | music
  | dj
  | vote
  | manager
deriving DecidableEq, Repr

def CommandCategory.name : CommandCategory → String
  | music => "music"
  | dj => "dj"
  | vote => "vote"
  | manager => "manager"

structure MemberRoles where
  dj : Bool := false
  manager : Bool := false
deriving DecidableEq, Repr

/-- Who may run a command. -/
inductive Permission
  | anyone
  | dj
  | manager
deriving DecidableEq, Repr

namespace Permission

def name : Permission → String
  | anyone => "anyone"
  | dj => "dj"
  | manager => "manager"

/-- A manager may do everything that a DJ may. -/
def allows (p : Permission) (roles : MemberRoles) : Bool :=
  match p with
  | anyone => true
  | dj => roles.dj || roles.manager
  | manager => roles.manager

end Permission

inductive Action
  | play
  | pause
  | resume
  | nowPlaying
  | queue
  | setRepeat
  | removeMine
  | skip
  | stop
  | clearQueue
  | remove
  | move
  | swap
  | shuffle
  | voteSkip
  | voteStop
  | voteClear
  | voteYes
  | voteNo
  | voteCancel
  | showSettings
  | setSetting
  | resetSetting
  | setSkipRatio
  | stats
deriving DecidableEq, Repr

def Action.name : Action → String
  | play => "play"
  | pause => "pause"
  | resume => "resume"
  | nowPlaying => "now_playing"
  | queue => "queue"
  | setRepeat => "repeat"
  | removeMine => "remove_mine"
  | skip => "skip"
  | stop => "stop"
  | clearQueue => "clear_queue"
  | remove => "remove"
  | move => "move"
  | swap => "swap"
  | shuffle => "shuffle"
  | voteSkip => "vote_skip"
  | voteStop => "vote_stop"
  | voteClear => "vote_clear"
  | voteYes => "vote_yes"
  | voteNo => "vote_no"
  | voteCancel => "vote_cancel"
  | showSettings => "show_settings"
  | setSetting => "set_setting"
  | resetSetting => "reset_setting"
  | setSkipRatio => "set_skip_ratio"
  | stats => "stats"

structure CommandSpec where
  name : String
  aliases : List String
  category : CommandCategory
  permission : Permission
  action : Action
  usage : String
deriving DecidableEq, Repr

namespace CommandSpec

def display (c : CommandSpec) : String := if c.usage = "" then c.name else c.name ++ " " ++ c.usage

/-- Whether a word is the name or an alias of the command. -/
def answersTo (c : CommandSpec) (word : String) : Bool := c.name = word || c.aliases.contains word

end CommandSpec

def commands : List CommandSpec :=
  [ ⟨"play", ["p"], .music, .anyone, .play, "<url> [title]"⟩,
    ⟨"pause", [], .music, .anyone, .pause, ""⟩,
    ⟨"resume", ["unpause"], .music, .anyone, .resume, ""⟩,
    ⟨"nowplaying", ["np"], .music, .anyone, .nowPlaying, ""⟩,
    ⟨"queue", ["q"], .music, .anyone, .queue, "[page]"⟩,
    ⟨"repeat", ["loop"], .music, .anyone, .setRepeat, "<off|track|queue>"⟩,
    ⟨"removemine", ["rmm"], .music, .anyone, .removeMine, ""⟩,
    ⟨"skip", ["fs", "forceskip"], .dj, .dj, .skip, ""⟩,
    ⟨"stop", [], .dj, .dj, .stop, ""⟩,
    ⟨"clear", ["clearqueue"], .dj, .dj, .clearQueue, ""⟩,
    ⟨"remove", ["rm"], .dj, .dj, .remove, "<position>"⟩,
    ⟨"move", ["mv"], .dj, .dj, .move, "<from> <to>"⟩,
    ⟨"swap", [], .dj, .dj, .swap, "<a> <b>"⟩,
    ⟨"shuffle", [], .dj, .dj, .shuffle, ""⟩,
    ⟨"voteskip", ["vs"], .vote, .anyone, .voteSkip, ""⟩,
    ⟨"votestop", ["vst"], .vote, .anyone, .voteStop, ""⟩,
    ⟨"voteclear", ["vc"], .vote, .anyone, .voteClear, ""⟩,
    ⟨"yes", ["y"], .vote, .anyone, .voteYes, "<skip|stop|clear>"⟩,
    ⟨"no", ["n"], .vote, .anyone, .voteNo, "<skip|stop|clear>"⟩,
    ⟨"votecancel", [], .vote, .dj, .voteCancel, "<skip|stop|clear>"⟩,
    ⟨"settings", [], .manager, .manager, .showSettings, ""⟩,
    ⟨"set", [], .manager, .manager, .setSetting, "<key> <value>"⟩,
    ⟨"reset", [], .manager, .manager, .resetSetting, "<key>"⟩,
    ⟨"skipratio", ["ratio"], .manager, .manager, .setSkipRatio, "<1-100|reset>"⟩,
    ⟨"stats", [], .manager, .manager, .stats, ""⟩ ]

/-- The command with a name or alias, in any case. No word belongs to two commands. -/
def findCommand? (name : String) : Option CommandSpec :=
  let word := Text.lowerAscii (Text.trim name)
  commands.find? fun c => c.answersTo word

end Jukebox
