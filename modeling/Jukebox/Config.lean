import Jukebox.Settings.Basic

/-!
The configuration, read from environment variables.

A variable that is unset or blank leaves its default. The variables are read in a fixed order, and
the first one that is not acceptable decides the error.
-/

namespace Jukebox

inductive ConfigError
  | badNumeral (name text : String) (cause : Text.NumeralError)
  | badFlag (name text : String)
  | zero (name : String)
  | ratioOutOfRange (name : String) (ratio : Nat)
deriving DecidableEq, Repr

namespace ConfigError

def variableName : ConfigError → String
  | badNumeral v _ _ | badFlag v _ | zero v | ratioOutOfRange v _ => v

def message : ConfigError → String
  | badNumeral v text cause =>
    "invalid value for " ++ v ++ ": '" ++ text ++ "': " ++ cause.message
  | badFlag v text => "invalid value for " ++ v ++ ": '" ++ text ++ "' (expected true/false)"
  | zero v => v ++ " must be greater than zero"
  | ratioOutOfRange v ratio => v ++ " must be between 1 and 100, got " ++ toString ratio

end ConfigError

/-- The rotating status line. -/
structure ActivityConfig where
  enabled : Bool := true
  intervalSecs : Nat := 60
  file : Option String := none
  randomized : Bool := false
  /-- Whether the rotation shows every command, with `commandPrefix` before its name. -/
  includeCommands : Bool := true
  commandPrefix : String := "$"
deriving DecidableEq, Repr

structure Config where
  defaults : EffectiveSettings := {}
  sweepIntervalSecs : Nat := 30
  workers : Nat := 16
  pageSize : Nat := 10
  databaseUrl : String := "guildbox.db"
  activity : ActivityConfig := {}
deriving DecidableEq, Repr

namespace Config

/-- An environment: the text of each variable that is set. -/
abbrev Environment := String → Option String

/-- The text of a variable, unless it is unset or blank. -/
def text? (env : Environment) (v : String) : Option String :=
  (env v).filter fun s => !Text.isAllBlank s

def numeral? (env : Environment) (limit : Nat) (v : String) : Except ConfigError (Option Nat) :=
  match text? env v with
  | none => .ok none
  | some s =>
    match Text.numeral limit (Text.trim s) with
    | .ok n => .ok (some n)
    | .error cause => .error (.badNumeral v s cause)

/-- The greatest value of a 64-bit word. -/
def maxWord64 : Nat := UInt64.size - 1

def positive? (env : Environment) (v : String) : Except ConfigError (Option Nat) :=
  match numeral? env maxWord64 v with
  | .ok (some 0) => .error (.zero v)
  | r => r

def ratio? (env : Environment) (v : String) : Except ConfigError (Option Nat) :=
  match numeral? env 255 v with
  | .ok (some n) => if n < 1 ∨ 100 < n then .error (.ratioOutOfRange v n) else .ok (some n)
  | r => r

def flag? (env : Environment) (v : String) : Except ConfigError (Option Bool) :=
  match text? env v with
  | none => .ok none
  | some s =>
    match flagOfWord? (Text.lowerAscii (Text.trim s)) with
    | some b => .ok (some b)
    | none => .error (.badFlag v s)

/-- The address of the database: the variable of this program comes before the common one. -/
def databaseUrl? (env : Environment) : Option String :=
  (text? env "GUILDBOX_DATABASE_URL").or (text? env "DATABASE_URL")

def variableNames : List String :=
  [ "GUILDBOX_DEFAULT_SKIP_RATIO", "GUILDBOX_VOTE_TIMEOUT_SECS", "GUILDBOX_SELF_VOTE",
    "GUILDBOX_INACTIVITY_SECS", "GUILDBOX_LEAVE_EMPTY_CHANNEL_SECS",
    "GUILDBOX_SWEEP_INTERVAL_SECS", "GUILDBOX_MAX_QUEUE_SIZE", "GUILDBOX_WORKERS",
    "GUILDBOX_PAGE_SIZE", "GUILDBOX_ACTIVITY_ENABLED", "GUILDBOX_ACTIVITY_INTERVAL_SECS",
    "GUILDBOX_ACTIVITY_RANDOMIZED", "GUILDBOX_ACTIVITY_COMMANDS", "GUILDBOX_DATABASE_URL",
    "DATABASE_URL", "GUILDBOX_ACTIVITY_FILE", "GUILDBOX_COMMAND_PREFIX" ]

def ofEnvironment (env : Environment) : Except ConfigError Config := do
  let base : Config := {}
  let skipRatio ← ratio? env "GUILDBOX_DEFAULT_SKIP_RATIO"
  let voteTimeoutSecs ← positive? env "GUILDBOX_VOTE_TIMEOUT_SECS"
  let selfVote ← flag? env "GUILDBOX_SELF_VOTE"
  let inactivitySecs ← positive? env "GUILDBOX_INACTIVITY_SECS"
  let leaveEmptyChannelSecs ← positive? env "GUILDBOX_LEAVE_EMPTY_CHANNEL_SECS"
  let sweepIntervalSecs ← positive? env "GUILDBOX_SWEEP_INTERVAL_SECS"
  let maxQueueSize ← positive? env "GUILDBOX_MAX_QUEUE_SIZE"
  let workers ← positive? env "GUILDBOX_WORKERS"
  let pageSize ← positive? env "GUILDBOX_PAGE_SIZE"
  let enabled ← flag? env "GUILDBOX_ACTIVITY_ENABLED"
  let intervalSecs ← positive? env "GUILDBOX_ACTIVITY_INTERVAL_SECS"
  let randomized ← flag? env "GUILDBOX_ACTIVITY_RANDOMIZED"
  let includeCommands ← flag? env "GUILDBOX_ACTIVITY_COMMANDS"
  return {
    defaults := {
      skipRatio := skipRatio.getD base.defaults.skipRatio
      voteTimeoutSecs := voteTimeoutSecs.getD base.defaults.voteTimeoutSecs
      maxQueueSize := maxQueueSize.getD base.defaults.maxQueueSize
      inactivitySecs := inactivitySecs.getD base.defaults.inactivitySecs
      selfVote := selfVote.getD base.defaults.selfVote
      leaveEmptyChannelSecs :=
        leaveEmptyChannelSecs.getD base.defaults.leaveEmptyChannelSecs }
    sweepIntervalSecs := sweepIntervalSecs.getD base.sweepIntervalSecs
    workers := workers.getD base.workers
    pageSize := pageSize.getD base.pageSize
    databaseUrl := (databaseUrl? env).getD base.databaseUrl
    activity := {
      enabled := enabled.getD base.activity.enabled
      intervalSecs := intervalSecs.getD base.activity.intervalSecs
      file := text? env "GUILDBOX_ACTIVITY_FILE"
      randomized := randomized.getD base.activity.randomized
      includeCommands := includeCommands.getD base.activity.includeCommands
      commandPrefix :=
        ((text? env "GUILDBOX_COMMAND_PREFIX").map Text.trim).getD
          base.activity.commandPrefix } }

end Config

end Jukebox
