import Jukebox.Proofs.Command.Plan
import Jukebox.Proofs.Settings.Faithful

/-!
Two ways to set the share of members that must say yes. The command for the ratio reads a byte and
refuses by itself what is no byte; the command for any setting reads a word and leaves every number to
the check of the key. Whatever a manager writes, the two come to the same.
-/

namespace Jukebox

namespace Invocation

variable {i : Invocation} {raw : String}

theorem arg_eq {index : Nat} {name : String} (given : i.args[index]? = some raw) :
    i.arg index name = .ok raw := by
  unfold arg
  rw [given]

theorem skipRatio_reset (given : i.args[0]? = some raw)
    (reset : Text.lowerAscii (Text.trim raw) = "reset") : i.skipRatio = .ok none := by
  simp only [skipRatio, arg_eq given, bind, Except.bind, if_pos reset]
  rfl

theorem skipRatio_word (given : i.args[0]? = some raw)
    (other : Text.lowerAscii (Text.trim raw) ≠ "reset") :
    i.skipRatio =
      match Text.numeral maxWord32 (Text.trim raw) with
      | .error _ =>
        .error (.validation ("skip ratio must be a number, got '" ++ Text.trim raw ++ "'"))
      | .ok n =>
        if n < 256 then .ok (some (UInt8.ofNat n))
        else .error (.validation ("skip_ratio must be between 1 and 100, got " ++ toString n)) := by
  simp only [skipRatio, arg_eq given, bind, Except.bind, if_neg other]
  cases Text.numeral maxWord32 (Text.trim raw) with
  | error | ok => rfl

end Invocation

theorem SettingValue.parseFor_skipRatio (raw : String) :
    parseFor .skipRatio raw =
      match Text.numeral maxWord32 (Text.trim raw) with
      | .ok n => .ok (.number (UInt32.ofNat n))
      | .error _ =>
        .error (.validation ("skip_ratio expects a number, got '" ++ Text.trim raw ++ "'")) := by
  have bounded : SettingKey.skipRatio.bounds.isSome = true := rfl
  have name : SettingKey.skipRatio.name ++ " expects a number, got '" =
      "skip_ratio expects a number, got '" := by decide
  cases read : Text.numeral maxWord32 (Text.trim raw) with
  | error | ok => simp only [parseFor, bounded, if_true, name, read]

theorem toNat_ofNat_of_numeral {raw : String} {n : Nat}
    (read : Text.numeral maxWord32 raw = .ok n) : (UInt32.ofNat n).toNat = n :=
  UInt32.toNat_ofNat_of_lt (Nat.lt_succ_of_le (Text.numeral_le read))

/-- A byte made a word is the number read as a word. -/
theorem toUInt32_ofNat {n : Nat} (byte : n < 256) : (UInt8.ofNat n).toUInt32 = UInt32.ofNat n := by
  apply UInt32.toNat_inj.mp
  rw [UInt8.toNat_toUInt32, UInt8.toNat_ofNat', UInt32.toNat_ofNat']
  omega

/-- A number that is no byte does not pass the check of the ratio. -/
theorem SettingsCache.check_skipRatio_wide {n : Nat} {word : UInt32} (value : word.toNat = n)
    (wide : ¬ n < 256) :
    check .skipRatio (some (.number word)) =
      .error (.validation ("skip_ratio must be between 1 and 100, got " ++ toString n)) := by
  have outside : ¬ (1 ≤ word.toNat ∧ word.toNat ≤ 100) := by omega
  have checked : check .skipRatio (some (.number word)) =
      if 1 ≤ word.toNat ∧ word.toNat ≤ 100 then .ok ()
      else .error (.validation ("skip_ratio must be between 1 and 100, got " ++
        toString word.toNat)) := rfl
  rw [checked, if_neg outside, value]

theorem SettingsCache.set_unchecked {c : SettingsCache} {g : GuildId} {k : SettingKey}
    {v : Option SettingValue} {e : PlayerError} (invalid : check k v = .error e) :
    c.set g k v = (.error e, c) := by
  unfold set
  rw [invalid]

namespace Station

/-- A manager's command in a guild. -/
def order (s : Station) (guild : GuildId) (member : MemberId) (dj : Bool) (name : String)
    (args : List String) : Except PlayerError CommandReply × Station :=
  s.dispatch { guild, member, roles := { dj, manager := true }, name, args }

/-- Two commands come to the same: they leave the same station behind, and both succeed with the same
reply, or fail with errors of one kind and change no settings. -/
structure Tantamount (s : Station) (a b : Except PlayerError CommandReply × Station) : Prop where
  state : a.2 = b.2
  reply : (∃ r, a.1 = .ok r ∧ b.1 = .ok r) ∨
    ∃ e e', a.1 = .error e ∧ b.1 = .error e' ∧ e.kind = e'.kind ∧
      b.2.settings.entries = s.settings.entries ∧
      b.2.settings.repository.shelf = s.settings.repository.shelf

variable (s : Station) (guild : GuildId) (member : MemberId) (dj : Bool)

/-- Saving a setting as a command does it. -/
def saveSetting (k : SettingKey) (v : Option SettingValue) :
    Except PlayerError CommandReply × Station :=
  ((s.setSetting guild k v).1.map .settings,
    (s.setSetting guild k v).2.count Metrics.commandHandled)

/-- A command for managers counts as handled and is carried out. -/
theorem order_eq {name : String} {a : Action}
    (named : (findCommand? name).map (fun c => (c.permission, c.action)) = some (.manager, a))
    (args : List String) :
    s.order guild member dj name args =
      let done := s.perform { guild, member, roles := { dj, manager := true }, name, args } a
      (done.1, done.2.count Metrics.commandHandled) := by
  obtain ⟨spec, found, same⟩ := Option.map_eq_some_iff.mp named
  obtain ⟨permission, rfl⟩ := Prod.mk.inj same
  have allowed : spec.permission.allows { dj, manager := true } = true := by
    rw [permission]
    rfl
  simp only [order, dispatch, found, if_pos allowed]

theorem settingKey_parse_ratio : SettingKey.parse "skip_ratio" = .ok .skipRatio := by decide +kernel

theorem order_reset :
    s.order guild member dj "reset" ["skip_ratio"] = s.saveSetting guild .skipRatio none := by
  have named : (findCommand? "reset").map (fun c => (c.permission, c.action)) =
      some (.manager, .resetSetting) := by decide +kernel
  rw [s.order_eq guild member dj named]
  simp only [perform, Invocation.plan, Invocation.arg, List.getElem?_cons_zero, bind, Except.bind,
    settingKey_parse_ratio]
  rfl

theorem order_set (raw : String) :
    s.order guild member dj "set" ["skip_ratio", raw] =
      match SettingValue.parseFor .skipRatio raw with
      | .error e => (.error e, s.count Metrics.commandHandled)
      | .ok v => s.saveSetting guild .skipRatio (some v) := by
  have named : (findCommand? "set").map (fun c => (c.permission, c.action)) =
      some (.manager, .setSetting) := by decide +kernel
  rw [s.order_eq guild member dj named]
  simp only [perform, Invocation.plan, Invocation.arg, List.getElem?_cons_zero,
    List.getElem?_cons_succ, bind, Except.bind, settingKey_parse_ratio]
  cases SettingValue.parseFor .skipRatio raw with
  | error | ok => rfl

theorem order_ratio (raw : String) :
    s.order guild member dj "skipratio" [raw] =
      match ({ guild, member, roles := { dj, manager := true }, name := "skipratio", args := [raw] } :
        Invocation).skipRatio with
      | .error e => (.error e, s.count Metrics.commandHandled)
      | .ok ratio =>
        s.saveSetting guild .skipRatio (ratio.map fun n => .number n.toUInt32) := by
  have named : (findCommand? "skipratio").map (fun c => (c.permission, c.action)) =
      some (.manager, .setSkipRatio) := by decide +kernel
  rw [s.order_eq guild member dj named]
  simp only [perform, Invocation.plan, bind, Except.bind]
  cases Invocation.skipRatio _ with
  | error | ok => rfl

/-- A setting that is not saved leaves what is cached and what is stored as it was. -/
theorem tantamount_saveSetting (k : SettingKey) (v : Option SettingValue) :
    s.Tantamount (s.saveSetting guild k v) (s.saveSetting guild k v) := by
  refine ⟨rfl, ?_⟩
  simp only [saveSetting, setSetting]
  cases saved : s.settings.set guild k v with
  | mk result settings =>
      cases result with
      | ok settled => exact .inl ⟨_, rfl, rfl⟩
      | error e =>
          obtain ⟨loads, rfl⟩ := SettingsCache.set_error saved
          exact .inr ⟨e, e, rfl, rfl, rfl, rfl, rfl⟩

theorem saveSetting_unchecked {k : SettingKey} {v : Option SettingValue} {e : PlayerError}
    (invalid : SettingsCache.check k v = .error e) :
    s.saveSetting guild k v = (.error e, s.count Metrics.commandHandled) := by
  simp only [saveSetting, setSetting, SettingsCache.set_unchecked invalid]
  rfl

variable {raw : String}

/-- A numeral is the same share for both commands, or out of range for both in the same words. -/
theorem order_ratio_eq_set {n : Nat} (read : Text.numeral maxWord32 (Text.trim raw) = .ok n)
    (other : Text.lowerAscii (Text.trim raw) ≠ "reset") :
    s.order guild member dj "skipratio" [raw] =
      s.order guild member dj "set" ["skip_ratio", raw] := by
  rw [order_ratio, order_set, Invocation.skipRatio_word rfl other, SettingValue.parseFor_skipRatio,
    read]
  by_cases byte : n < 256
  · simp only [if_pos byte, Option.map_some, toUInt32_ofNat byte]
  · have wide := SettingsCache.check_skipRatio_wide (toNat_ofNat_of_numeral read) byte
    simp only [if_neg byte, s.saveSetting_unchecked guild wide]

theorem order_ratio_eq_reset (reset : Text.lowerAscii (Text.trim raw) = "reset") :
    s.order guild member dj "skipratio" [raw] = s.order guild member dj "reset" ["skip_ratio"] := by
  rw [order_ratio, order_reset, Invocation.skipRatio_reset rfl reset]
  rfl

/-- What is no numeral is malformed for both commands. -/
theorem tantamount_malformed {cause : Text.NumeralError}
    (read : Text.numeral maxWord32 (Text.trim raw) = .error cause)
    (other : Text.lowerAscii (Text.trim raw) ≠ "reset") :
    s.Tantamount (s.order guild member dj "skipratio" [raw])
      (s.order guild member dj "set" ["skip_ratio", raw]) := by
  rw [order_ratio, order_set, Invocation.skipRatio_word rfl other, SettingValue.parseFor_skipRatio,
    read]
  exact ⟨rfl, .inr ⟨_, _, rfl, rfl, rfl, rfl, rfl⟩⟩

/-- Whatever a manager writes, the command for the ratio comes to the same as the command for any
setting: as a reset if it is that word, and otherwise as that value of the ratio. Only for what is no
numeral of a word the two have different words. -/
theorem ratio_as_setting (s : Station) (guild : GuildId) (member : MemberId) (dj : Bool)
    (raw : String) :
    let ratio := s.order guild member dj "skipratio" [raw]
    let set := s.order guild member dj "set" ["skip_ratio", raw]
    let reset := s.order guild member dj "reset" ["skip_ratio"]
    let word := Text.lowerAscii (Text.trim raw)
    (word = "reset" → ratio = reset) ∧
    (word ≠ "reset" → s.Tantamount ratio set) ∧
    (word ≠ "reset" → ∀ n, Text.numeral maxWord32 (Text.trim raw) = .ok n → ratio = set) := by
  intro ratio set reset word
  refine ⟨s.order_ratio_eq_reset guild member dj, ?_,
    fun other n read => s.order_ratio_eq_set guild member dj read other⟩
  intro other
  cases read : Text.numeral maxWord32 (Text.trim raw) with
  | error cause => exact s.tantamount_malformed guild member dj read other
  | ok n =>
      have same : ratio = set := s.order_ratio_eq_set guild member dj read other
      have saved : set = s.saveSetting guild .skipRatio (some (.number (UInt32.ofNat n))) := by
        simp only [set, order_set, SettingValue.parseFor_skipRatio, read]
      rw [same, saved]
      exact s.tantamount_saveSetting guild .skipRatio _

/-- The word in another case, a number that is no byte, and no number at all. -/
theorem ratio_as_setting_words :
    let s := create {} {} { nextHandle := ⟨1⟩ }
    let order := s.order ⟨1⟩ ⟨2⟩ false
    order "skipratio" [" ReSet "] = order "reset" ["skip_ratio"] ∧
      order "skipratio" ["+300"] = order "set" ["skip_ratio", "+300"] ∧
      (order "skipratio" ["+300"]).1 =
        .error (.validation "skip_ratio must be between 1 and 100, got 300") ∧
      s.Tantamount (order "skipratio" ["half"]) (order "set" ["skip_ratio", "half"]) := by
  intro s order
  obtain ⟨reset, _, _⟩ := s.ratio_as_setting ⟨1⟩ ⟨2⟩ false " ReSet "
  obtain ⟨_, _, numeral⟩ := s.ratio_as_setting ⟨1⟩ ⟨2⟩ false "+300"
  obtain ⟨_, alike, _⟩ := s.ratio_as_setting ⟨1⟩ ⟨2⟩ false "half"
  exact ⟨reset (by decide +kernel), numeral (by decide +kernel) 300 (by decide +kernel),
    by decide +kernel, alike (by decide +kernel)⟩

end Station

end Jukebox
