import Jukebox.Proofs.Config
import Jukebox.Proofs.Settings.Faithful

/-!
The value that a key shows beside the value that the player goes by. Both are told from the same
settings, but numbers are shown in a word of 32 bits, and a configured default may be wider. So a key
shows what the player goes by as long as that fits a word, and its remainder otherwise.
-/

namespace Jukebox

namespace EffectiveSettings

/-- The number that the player goes by for a key; of the inactivity window the whole minutes. -/
def amount (e : EffectiveSettings) : SettingKey → Nat
  | .skipRatio => e.skipRatio
  | .voteTimeoutSecs => e.voteTimeoutSecs
  | .maxQueueSize => e.maxQueueSize
  | .autoDisconnectMinutes => e.inactivitySecs / 60
  | .selfVote => e.selfVote.toNat
  | .leaveEmptyChannelSecs => e.leaveEmptyChannelSecs

/-- The value says of a key what the player goes by. -/
def Shows (e : EffectiveSettings) (k : SettingKey) : SettingValue → Prop
  | .number n => k ≠ .selfVote ∧ n.toNat = e.amount k
  | .flag b => k = .selfVote ∧ b = e.selfVote

variable (e : EffectiveSettings)

/-- A number is shown in one word, so what is shown of a wider one is its remainder. -/
theorem value_eq_number {k : SettingKey} (numeric : k ≠ .selfVote) :
    e.value k = .number (UInt32.ofNat (e.amount k)) := by
  cases k with
  | skipRatio | voteTimeoutSecs | maxQueueSize | autoDisconnectMinutes | leaveEmptyChannelSecs => rfl
  | selfVote => exact absurd rfl numeric

/-- A key shows what the player goes by exactly if that fits a word. -/
theorem shows_value (k : SettingKey) : e.Shows k (e.value k) ↔ e.amount k < UInt32.size := by
  by_cases flag : k = .selfVote
  · subst flag
    have small : e.selfVote.toNat < UInt32.size :=
      Nat.lt_of_le_of_lt (Bool.toNat_le e.selfVote) (by decide)
    exact ⟨fun _ => small, fun _ => ⟨rfl, rfl⟩⟩
  · rw [e.value_eq_number flag, Shows, UInt32.toNat_ofNat']
    constructor
    · rintro ⟨_, same⟩
      rw [← same]
      exact Nat.mod_lt _ (by decide)
    · intro small
      exact ⟨flag, Nat.mod_eq_of_lt small⟩

/-- What a guild has set is told in words, so it fits one. -/
theorem amount_resolve_lt {s : GuildSettings} {k : SettingKey} (set : (s.override? k).isSome = true)
    (defaults : EffectiveSettings) : (resolve s defaults).amount k < UInt32.size := by
  obtain ⟨v, own⟩ := Option.isSome_iff_exists.mp set
  cases k with
  | skipRatio =>
      obtain ⟨n, field, _⟩ := Option.map_eq_some_iff.mp own
      simp only [amount, resolve, field, Option.map_some, Option.getD_some]
      exact Nat.lt_trans n.toNat_lt (by decide)
  | voteTimeoutSecs | maxQueueSize | leaveEmptyChannelSecs =>
      obtain ⟨n, field, _⟩ := Option.map_eq_some_iff.mp own
      simp only [amount, resolve, field, Option.map_some, Option.getD_some]
      exact n.toNat_lt
  | autoDisconnectMinutes =>
      obtain ⟨n, field, _⟩ := Option.map_eq_some_iff.mp own
      simp only [amount, resolve, field, Option.map_some, Option.getD_some,
        Nat.mul_div_cancel n.toNat (by decide : 0 < 60)]
      exact n.toNat_lt
  | selfVote => exact Nat.lt_of_le_of_lt (Bool.toNat_le _) (by decide)

/-- What a guild has set shows as it stands in the settings in effect. -/
theorem value_resolve {s : GuildSettings} {k : SettingKey} {v : SettingValue}
    (own : s.override? k = some v) (defaults : EffectiveSettings) :
    (resolve s defaults).value k = v := by
  cases k with
  | skipRatio =>
      obtain ⟨n, field, rfl⟩ := Option.map_eq_some_iff.mp own
      have word : UInt32.ofNat n.toNat = n.toUInt32 := by
        apply UInt32.toNat_inj.mp
        rw [UInt8.toNat_toUInt32]
        exact UInt32.toNat_ofNat_of_lt (Nat.lt_trans n.toNat_lt (by decide))
      simp only [value, resolve, field, Option.map_some, Option.getD_some, word]
  | voteTimeoutSecs | maxQueueSize | leaveEmptyChannelSecs | selfVote =>
      obtain ⟨n, field, rfl⟩ := Option.map_eq_some_iff.mp own
      simp only [value, resolve, field, Option.map_some, Option.getD_some, UInt32.ofNat_toNat]
  | autoDisconnectMinutes =>
      obtain ⟨n, field, rfl⟩ := Option.map_eq_some_iff.mp own
      simp only [value, resolve, field, Option.map_some, Option.getD_some,
        Nat.mul_div_cancel n.toNat (by decide : 0 < 60), UInt32.ofNat_toNat]

end EffectiveSettings

namespace SettingsCache

theorem shown_eq_value (defaults : EffectiveSettings) (s : GuildSettings) (k : SettingKey) :
    shown defaults s k = (EffectiveSettings.resolve s defaults).value k := by
  unfold shown
  cases own : s.override? k with
  | none => rfl
  | some v => exact (EffectiveSettings.value_resolve own defaults).symm

/-- A key shows the settings in effect, whether the guild has set it or not. -/
theorem get_eq_effective (c : SettingsCache) (g : GuildId) (k : SettingKey) :
    (c.get g k).1 = (c.effective g).1.map fun e => e.value k := by
  rw [get_eq, effective_eq]
  cases (c.snapshot g).1 with
  | error e => rfl
  | ok s => exact congrArg Except.ok (shown_eq_value c.defaults s k)

/-- Under an accepted configuration a read of a key gives the settings in effect, which are what the
player goes by exactly if they fit a word. Whatever the guild has set fits, and so do the share of the
members and the flag; only a default of another key may not. -/
theorem get_shows_below_word {env : Config.Environment} {config : Config}
    (accepted : Config.ofEnvironment env = .ok config) {c : SettingsCache}
    (basis : c.defaults = config.defaults) {g : GuildId} {s : GuildSettings}
    (loaded : (c.snapshot g).1 = .ok s) (k : SettingKey) :
    ∃ e v, (c.effective g).1 = .ok e ∧ (c.get g k).1 = .ok v ∧
      (e.Shows k v ↔ e.amount k < UInt32.size) ∧
      ((s.override? k).isSome = true ∨ k = .skipRatio ∨ k = .selfVote → e.Shows k v) := by
  have effective : (c.effective g).1 = .ok (.resolve s config.defaults) := by
    rw [effective_eq, loaded, basis]
    rfl
  have shown : (c.get g k).1 = .ok ((EffectiveSettings.resolve s config.defaults).value k) := by
    rw [get_eq_effective, effective]
    rfl
  have exact_iff := (EffectiveSettings.resolve s config.defaults).shows_value k
  refine ⟨_, _, effective, shown, exact_iff, ?_⟩
  intro narrow
  apply exact_iff.mpr
  rcases narrow with set | rfl | rfl
  · exact EffectiveSettings.amount_resolve_lt set _
  · cases own : s.skipRatio with
    | some n => exact EffectiveSettings.amount_resolve_lt (by rw [GuildSettings.override?, own]; rfl) _
    | none =>
        have share := (Config.defaults_usable accepted).share.2
        simp only [EffectiveSettings.amount, EffectiveSettings.resolve, own]
        exact Nat.lt_of_le_of_lt share (by decide)
  · exact Nat.lt_of_le_of_lt (Bool.toNat_le _) (by decide)

/-- The queue may be longer than a word tells, and the guild has set a window of its own. -/
theorem get_shows_below_word_of_long_queue :
    let env : Config.Environment := fun v =>
      if v = "GUILDBOX_MAX_QUEUE_SIZE" then some "4294967301" else none
    let config : Config := { defaults := { maxQueueSize := 4294967301 } }
    let g : GuildId := ⟨1⟩
    let s : GuildSettings := { autoDisconnectMinutes := some 90 }
    let c : SettingsCache := { defaults := config.defaults, entries := Table.empty.insert g s }
    Config.ofEnvironment env = .ok config ∧ (c.snapshot g).1 = .ok s ∧
      (∃ e v, (c.effective g).1 = .ok e ∧ (c.get g .maxQueueSize).1 = .ok v ∧
        v = .number 5 ∧ ¬ e.Shows .maxQueueSize v) ∧
      ∃ e v, (c.effective g).1 = .ok e ∧ (c.get g .autoDisconnectMinutes).1 = .ok v ∧
        e.Shows .autoDisconnectMinutes v := by
  intro env config g s c
  have accepted : Config.ofEnvironment env = .ok config := by decide +kernel
  have loaded : (c.snapshot g).1 = .ok s := by decide +kernel
  have five : (c.get g .maxQueueSize).1 = .ok (.number 5) := by decide +kernel
  obtain ⟨e, v, effective, shown, iff, _⟩ := get_shows_below_word accepted rfl loaded .maxQueueSize
  obtain ⟨e', v', effective', shown', _, narrow⟩ :=
    get_shows_below_word accepted rfl loaded .autoDisconnectMinutes
  have read : (c.effective g).1 = .ok (.resolve s config.defaults) := by decide +kernel
  have wide : e.maxQueueSize = 4294967301 := by
    rw [Except.ok.inj (effective.symm.trans read)]
    rfl
  refine ⟨accepted, loaded, ⟨e, v, effective, shown, ?_, ?_⟩, e', v', effective', shown', ?_⟩
  · exact Except.ok.inj (shown.symm.trans five)
  · intro shows
    have small : e.maxQueueSize < 4294967296 := iff.mp shows
    omega
  · exact narrow (.inl rfl)

/-- A default that fits no word is shown as its remainder, here as a queue without room. -/
theorem get_misses_wide_default :
    let env : Config.Environment := fun v =>
      if v = "GUILDBOX_MAX_QUEUE_SIZE" then some "4294967296" else none
    let config : Config := { defaults := { maxQueueSize := 4294967296 } }
    let c : SettingsCache := { defaults := config.defaults }
    Config.ofEnvironment env = .ok config ∧
      ∃ e v, (c.effective ⟨1⟩).1 = .ok e ∧ (c.get ⟨1⟩ .maxQueueSize).1 = .ok v ∧
        e.maxQueueSize = 4294967296 ∧ v = .number 0 ∧ ¬ e.Shows .maxQueueSize v := by
  intro env config c
  have accepted : Config.ofEnvironment env = .ok config := by decide +kernel
  refine ⟨accepted, config.defaults, .number 0, by decide +kernel, by decide +kernel, rfl, rfl, ?_⟩
  rintro ⟨_, same⟩
  exact absurd same (by decide)

end SettingsCache

end Jukebox
