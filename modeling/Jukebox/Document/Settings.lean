import Jukebox.Document.Form
import Jukebox.Settings.Row

/-!
The written forms of settings. A key is its name, or a record with the name as its only field and
null in it; a value is a number or a flag.
-/

namespace Jukebox

instance : Writable SettingKey := ⟨fun k => .of k.name⟩

instance : Readable SettingKey where
  read?
    | .text name => SettingKey.ofName? name
    | .record [(name, .null)] => SettingKey.ofName? name
    | _ => none

instance : Writable SettingValue where
  write
    | .number n => .of n
    | .flag b => .of b

instance : Readable SettingValue where
  read? d := ((d.as? UInt32).map SettingValue.number).or ((d.as? Bool).map SettingValue.flag)

def GuildSettings.fieldNames : List String := SettingKey.all.map (·.name)

instance : Writable GuildSettings where
  write s :=
    .record
      [ ("skip_ratio", .of s.skipRatio), ("vote_timeout_secs", .of s.voteTimeoutSecs),
        ("max_queue_size", .of s.maxQueueSize),
        ("auto_disconnect_minutes", .of s.autoDisconnectMinutes),
        ("self_vote", .of s.selfVote),
        ("leave_empty_channel_secs", .of s.leaveEmptyChannelSecs) ]

instance : Readable GuildSettings where
  read? d :=
    match d.fields? GuildSettings.fieldNames with
    | some [ratio, timeout, size, minutes, self, empty] => do
      return {
        skipRatio := ← Document.optional? UInt8 ratio
        voteTimeoutSecs := ← Document.optional? UInt32 timeout
        maxQueueSize := ← Document.optional? UInt32 size
        autoDisconnectMinutes := ← Document.optional? UInt32 minutes
        selfVote := ← Document.optional? Bool self
        leaveEmptyChannelSecs := ← Document.optional? UInt32 empty }
    | _ => none

instance : Writable Int32 := ⟨fun i => .number i.toInt⟩

instance : Readable Int32 where
  read?
    | .number n => if -2147483648 ≤ n ∧ n < 2147483648 then some (Int32.ofInt n) else none
    | _ => none

instance : Writable SettingsRow where
  write r :=
    .record
      [ ("guild_id", .of r.guild), ("skip_ratio", .of r.skipRatio),
        ("vote_timeout_secs", .of r.voteTimeoutSecs), ("max_queue_size", .of r.maxQueueSize),
        ("auto_disconnect_minutes", .of r.autoDisconnectMinutes), ("self_vote", .of r.selfVote),
        ("leave_empty_channel_secs", .of r.leaveEmptyChannelSecs) ]

instance : Readable SettingsRow where
  read? d :=
    match d.fields? ("guild_id" :: GuildSettings.fieldNames) with
    | some [guild, ratio, timeout, size, minutes, self, empty] => do
      return {
        guild := ← Document.required? String guild
        skipRatio := ← Document.optional? Int32 ratio
        voteTimeoutSecs := ← Document.optional? Int32 timeout
        maxQueueSize := ← Document.optional? Int32 size
        autoDisconnectMinutes := ← Document.optional? Int32 minutes
        selfVote := ← Document.optional? Bool self
        leaveEmptyChannelSecs := ← Document.optional? Int32 empty }
    | _ => none

instance : Writable EffectiveSettings where
  write e :=
    .record
      [ ("skip_ratio", .of e.skipRatio), ("vote_timeout_secs", .of e.voteTimeoutSecs),
        ("max_queue_size", .of e.maxQueueSize), ("inactivity_secs", .of e.inactivitySecs),
        ("self_vote", .of e.selfVote),
        ("leave_empty_channel_secs", .of e.leaveEmptyChannelSecs) ]

end Jukebox
