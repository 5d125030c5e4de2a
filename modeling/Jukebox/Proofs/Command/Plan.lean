import Jukebox.Command.Dispatch
import Jukebox.Proofs.Error

/-!
Reading the arguments of a command. It needs nothing but the invocation, and it fails only for
malformed arguments. The arguments choose among requests of one kind, all for the guild of the
invocation.
-/

namespace Jukebox

theorem reads_trackRef (raw : String) : Reads (TrackRef.parse raw) := by
  unfold TrackRef.parse
  split
  · exact .invalid _
  · exact .invalid _
  · exact .ok _

theorem reads_repeatMode (raw : String) : Reads (RepeatMode.parse raw) := by
  unfold RepeatMode.parse
  split
  all_goals first | exact .ok _ | exact .invalid _

theorem reads_settingKey (raw : String) : Reads (SettingKey.parse raw) := by
  unfold SettingKey.parse
  dsimp only
  split
  · exact .ok _
  · exact .invalid _

theorem reads_settingValue (k : SettingKey) (raw : String) :
    Reads (SettingValue.parseFor k raw) := by
  unfold SettingValue.parseFor
  dsimp only
  split
  · split
    · exact .ok _
    · exact .invalid _
  · split
    · exact .ok _
    · exact .invalid _

namespace Invocation

variable (i : Invocation)

theorem reads_arg (index : Nat) (name : String) : Reads (i.arg index name) := by
  unfold arg
  split
  · exact .ok _
  · exact .invalid _

theorem reads_position (index : Nat) (name : String) : Reads (i.position index name) := by
  apply (i.reads_arg index name).bind
  intro raw
  split
  · exact .ok _
  · exact .invalid _

theorem reads_pageIndex : Reads i.pageIndex := by
  unfold pageIndex
  split
  · exact .ok _
  · exact i.reads_position 0 "page"

theorem reads_voteKind : Reads i.voteKind := by
  apply (i.reads_arg 0 "vote").bind
  intro raw
  dsimp only
  split
  · exact .ok _
  · exact .invalid _

theorem reads_skipRatio : Reads i.skipRatio := by
  apply (i.reads_arg 0 "ratio").bind
  intro raw
  dsimp only
  split
  · exact .ok _
  · split
    · exact .invalid _
    · split
      · exact .ok _
      · exact .invalid _

/-- Whatever the action, its arguments are malformed or give a plan. -/
theorem reads_plan (a : Action) : Reads (i.plan a) := by
  cases a with
  | play => exact (i.reads_arg 0 "url").bind fun raw => (reads_trackRef raw).bind fun _ => .ok _
  | queue => exact i.reads_pageIndex.bind fun _ => .ok _
  | setRepeat =>
      exact (i.reads_arg 0 "mode").bind fun raw => (reads_repeatMode raw).bind fun _ => .ok _
  | remove => exact (i.reads_position 0 "position").bind fun _ => .ok _
  | move =>
      exact (i.reads_position 0 "from").bind fun _ => (i.reads_position 1 "to").bind fun _ => .ok _
  | swap => exact (i.reads_position 0 "a").bind fun _ => (i.reads_position 1 "b").bind fun _ => .ok _
  | voteYes | voteNo | voteCancel => exact i.reads_voteKind.bind fun _ => .ok _
  | setSetting =>
      exact (i.reads_arg 0 "key").bind fun raw => (reads_settingKey raw).bind fun key =>
        (i.reads_arg 1 "value").bind fun word => (reads_settingValue key word).bind fun _ => .ok _
  | resetSetting =>
      exact (i.reads_arg 0 "key").bind fun raw => (reads_settingKey raw).bind fun _ => .ok _
  | setSkipRatio => exact i.reads_skipRatio.bind fun _ => .ok _
  | pause | resume | nowPlaying | removeMine | skip | stop | clearQueue | shuffle | voteSkip
  | voteStop | voteClear | showSettings | stats => exact .ok _

/-- What an action comes down to, for some arguments. -/
def Plans : (a : Action) → Plan a.Answer → Prop
  | .play, p => ∃ track metadata, p = ⟨.enqueue i.guild i.member track metadata, .enqueued⟩
  | .pause, p => p = ⟨.pause i.guild, fun _ => .paused⟩
  | .resume, p => p = ⟨.resume i.guild, fun _ => .resumed⟩
  | .nowPlaying, p => p = ⟨.status i.guild, .nowPlaying⟩
  | .queue, p => ∃ index, p = ⟨.page i.guild index, .queue⟩
  | .setRepeat, p => ∃ mode, p = ⟨.setRepeat i.guild mode, fun _ => .repeatSet mode⟩
  | .removeMine, p => p = ⟨.removeByRequester i.guild i.member, .removed⟩
  | .skip, p => p = ⟨.skip i.guild, .skipped⟩
  | .stop, p => p = ⟨.stop i.guild, .stopped⟩
  | .clearQueue, p => p = ⟨.clearQueue i.guild, .queueCleared⟩
  | .remove, p => ∃ position, p = ⟨.removeAt i.guild position, fun e => .removed [e]⟩
  | .move, p => ∃ source target, p = ⟨.move i.guild source target, fun _ => .moved source target⟩
  | .swap, p => ∃ a b, p = ⟨.swap i.guild a b, fun _ => .swapped a b⟩
  | .shuffle, p => p = ⟨.shuffle i.guild, fun _ => .shuffled⟩
  | .voteSkip, p => p = ⟨.startVote i.guild .skip i.member, .vote⟩
  | .voteStop, p => p = ⟨.startVote i.guild .stop i.member, .vote⟩
  | .voteClear, p => p = ⟨.startVote i.guild .clearQueue i.member, .vote⟩
  | .voteYes, p => ∃ kind, p = ⟨.castVote i.guild kind i.member .yes, .vote⟩
  | .voteNo, p => ∃ kind, p = ⟨.castVote i.guild kind i.member .no, .vote⟩
  | .voteCancel, p => ∃ kind, p = ⟨.cancelVote i.guild kind, fun _ => .voteCancelled kind⟩
  | .showSettings, p => p = ⟨.settings i.guild, .settings⟩
  | .setSetting, p | .resetSetting, p =>
      ∃ key value, p = ⟨.setSetting i.guild key value, .settings⟩
  | .setSkipRatio, p => ∃ ratio, p = ⟨.setSkipRatio i.guild ratio, .settings⟩
  | .stats, p => p = ⟨.stats, .stats⟩

/-- The arguments settle what is left open, and nothing else. -/
theorem plans_plan (a : Action) : Gives (i.Plans a) (i.plan a) := by
  cases a with
  | play => exact .bind fun _ => .bind fun _ => .ok ⟨_, _, rfl⟩
  | queue | remove | voteYes | voteNo | voteCancel | setSkipRatio =>
      exact .bind fun _ => .ok ⟨_, rfl⟩
  | setRepeat => exact .bind fun _ => .bind fun _ => .ok ⟨_, rfl⟩
  | move | swap => exact .bind fun _ => .bind fun _ => .ok ⟨_, _, rfl⟩
  | setSetting => exact .bind fun _ => .bind fun _ => .bind fun _ => .bind fun _ => .ok ⟨_, _, rfl⟩
  | resetSetting => exact .bind fun _ => .bind fun _ => .ok ⟨_, _, rfl⟩
  | pause | resume | nowPlaying | removeMine | skip | stop | clearQueue | shuffle | voteSkip
  | voteStop | voteClear | showSettings | stats => exact .ok rfl

end Invocation

end Jukebox
