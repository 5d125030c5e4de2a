import Jukebox.Error
import Jukebox.Text.Blank
import Jukebox.Text.Numeral

/-!
Guild settings: the keys with their bounds, the values that members write for them, what a guild
has set, and the settings in effect once defaults fill the gaps.
-/

namespace Jukebox

/-- What a guild has set for itself; `none` leaves the default in effect. -/
structure GuildSettings where
  skipRatio : Option UInt8 := none
  voteTimeoutSecs : Option UInt32 := none
  maxQueueSize : Option UInt32 := none
  autoDisconnectMinutes : Option UInt32 := none
  selfVote : Option Bool := none
  leaveEmptyChannelSecs : Option UInt32 := none
deriving DecidableEq, Repr, Inhabited

inductive SettingKey
  | skipRatio
  | voteTimeoutSecs
  | maxQueueSize
  | autoDisconnectMinutes
  | selfVote
  | leaveEmptyChannelSecs
deriving DecidableEq, Repr

inductive SettingValue
  | number (n : UInt32)
  | flag (b : Bool)
deriving DecidableEq, Repr

namespace SettingValue

/-- The value as an error names it. -/
def describe : SettingValue → String
  | number n => "Number(" ++ toString n.toNat ++ ")"
  | flag true => "Flag(true)"
  | flag false => "Flag(false)"

end SettingValue

namespace SettingKey

def all : List SettingKey :=
  [skipRatio, voteTimeoutSecs, maxQueueSize, autoDisconnectMinutes, selfVote,
    leaveEmptyChannelSecs]

def name : SettingKey → String
  | skipRatio => "skip_ratio"
  | voteTimeoutSecs => "vote_timeout_secs"
  | maxQueueSize => "max_queue_size"
  | autoDisconnectMinutes => "auto_disconnect_minutes"
  | selfVote => "self_vote"
  | leaveEmptyChannelSecs => "leave_empty_channel_secs"

def ofName? (name : String) : Option SettingKey := all.find? fun k => k.name = name

/-- The least and the greatest value of a numeric key. -/
def bounds : SettingKey → Option (Nat × Nat)
  | skipRatio => some (1, 100)
  | voteTimeoutSecs => some (5, 300)
  | maxQueueSize => some (1, 10000)
  | autoDisconnectMinutes => some (1, 1440)
  | leaveEmptyChannelSecs => some (10, 3600)
  | selfVote => none

/-- Reads a key from what a member wrote: any case, with dashes for underscores. -/
def parse (s : String) : Except PlayerError SettingKey :=
  let word := (Text.lowerAscii (Text.trim s)).map fun c => if c = '-' then '_' else c
  match ofName? word with
  | some k => .ok k
  | none => .error (.validation ("unknown setting '" ++ s ++ "'"))

/-- A value is allowed for a key when it is a number within the key's bounds, or a flag for the
key that has none. -/
def validate (k : SettingKey) (v : SettingValue) : Except PlayerError Unit :=
  match k.bounds, v with
  | some (least, greatest), .number n =>
    if least ≤ n.toNat ∧ n.toNat ≤ greatest then .ok ()
    else .error (.validation (k.name ++ " must be between " ++ toString least ++ " and " ++
      toString greatest ++ ", got " ++ toString n.toNat))
  | none, .flag _ => .ok ()
  | _, v => .error (.validation (k.name ++ " does not accept " ++ v.describe))

end SettingKey

def maxWord32 : Nat := UInt32.size - 1

def flagOfWord? (word : String) : Option Bool :=
  match word with
  | "on" | "true" | "yes" | "1" => some true
  | "off" | "false" | "no" | "0" => some false
  | _ => none

/-- Reads a value for a key from what a member wrote: a number for a key with bounds, a flag for
the other. -/
def SettingValue.parseFor (k : SettingKey) (s : String) : Except PlayerError SettingValue :=
  let raw := Text.trim s
  if k.bounds.isSome then
    match Text.numeral maxWord32 raw with
    | .ok n => .ok (.number (UInt32.ofNat n))
    | .error _ => .error (.validation (k.name ++ " expects a number, got '" ++ raw ++ "'"))
  else
    match flagOfWord? (Text.lowerAscii raw) with
    | some b => .ok (.flag b)
    | none => .error (.validation (k.name ++ " expects on or off, got '" ++ raw ++ "'"))

namespace GuildSettings

def override? (s : GuildSettings) : SettingKey → Option SettingValue
  | .skipRatio => s.skipRatio.map fun n => .number n.toUInt32
  | .voteTimeoutSecs => s.voteTimeoutSecs.map .number
  | .maxQueueSize => s.maxQueueSize.map .number
  | .autoDisconnectMinutes => s.autoDisconnectMinutes.map .number
  | .selfVote => s.selfVote.map .flag
  | .leaveEmptyChannelSecs => s.leaveEmptyChannelSecs.map .number

def number? : Option SettingValue → Option UInt32
  | some (.number n) => some n
  | _ => none

def flag? : Option SettingValue → Option Bool
  | some (.flag b) => some b
  | _ => none

/-- Sets a key, or resets it. A ratio that does not fit its field resets it. -/
def set (s : GuildSettings) (k : SettingKey) (v : Option SettingValue) : GuildSettings :=
  match k with
  | .skipRatio =>
    { s with
      skipRatio := (number? v).bind fun n =>
        if n.toNat < 256 then some n.toUInt8 else none }
  | .voteTimeoutSecs => { s with voteTimeoutSecs := number? v }
  | .maxQueueSize => { s with maxQueueSize := number? v }
  | .autoDisconnectMinutes => { s with autoDisconnectMinutes := number? v }
  | .selfVote => { s with selfVote := flag? v }
  | .leaveEmptyChannelSecs => { s with leaveEmptyChannelSecs := number? v }

end GuildSettings

/-- A complete set of settings: the configured defaults, or the settings in effect in a guild. -/
structure EffectiveSettings where
  /-- The share of the eligible members that must say yes, in percent. -/
  skipRatio : Nat := 50
  voteTimeoutSecs : Nat := 30
  maxQueueSize : Nat := 500
  inactivitySecs : Nat := 300
  selfVote : Bool := true
  /-- How long a guild may have no listener before its session is given up. -/
  leaveEmptyChannelSecs : Nat := 120
deriving DecidableEq, Repr, Inhabited

/-- The settings in effect when a guild's own settings are laid over defaults. -/
def EffectiveSettings.resolve (s : GuildSettings) (defaults : EffectiveSettings) :
    EffectiveSettings where
  skipRatio := (s.skipRatio.map (·.toNat)).getD defaults.skipRatio
  voteTimeoutSecs := (s.voteTimeoutSecs.map (·.toNat)).getD defaults.voteTimeoutSecs
  maxQueueSize := (s.maxQueueSize.map (·.toNat)).getD defaults.maxQueueSize
  inactivitySecs :=
    (s.autoDisconnectMinutes.map fun n => n.toNat * 60).getD defaults.inactivitySecs
  selfVote := s.selfVote.getD defaults.selfVote
  leaveEmptyChannelSecs :=
    (s.leaveEmptyChannelSecs.map (·.toNat)).getD defaults.leaveEmptyChannelSecs

/-- The value of a key that complete settings show. Numbers are shown in 32 bits, and the
inactivity window in whole minutes. -/
def EffectiveSettings.value (e : EffectiveSettings) : SettingKey → SettingValue
  | .skipRatio => .number (UInt32.ofNat e.skipRatio)
  | .voteTimeoutSecs => .number (UInt32.ofNat e.voteTimeoutSecs)
  | .maxQueueSize => .number (UInt32.ofNat e.maxQueueSize)
  | .autoDisconnectMinutes => .number (UInt32.ofNat (e.inactivitySecs / 60))
  | .selfVote => .flag e.selfVote
  | .leaveEmptyChannelSecs => .number (UInt32.ofNat e.leaveEmptyChannelSecs)

end Jukebox
