import Jukebox.Proofs.Settings.Cache
import Jukebox.Proofs.Settings.Shelf

/-!
Settings and rows, there and back. Each of the two types has numbers that the other does not, and what
does not fit is left unset on the way: coming back, settings have lost exactly the numbers beyond a
signed word, and a row exactly the columns that are no settings. Whatever has made the way once comes
back from it unchanged.
-/

namespace Jukebox

/-- The settings without the numbers that a signed word cannot hold. -/
def GuildSettings.fitted (s : GuildSettings) : GuildSettings where
  skipRatio := s.skipRatio
  voteTimeoutSecs := s.voteTimeoutSecs.filter fun n => n.toNat ≤ 2147483647
  maxQueueSize := s.maxQueueSize.filter fun n => n.toNat ≤ 2147483647
  autoDisconnectMinutes := s.autoDisconnectMinutes.filter fun n => n.toNat ≤ 2147483647
  selfVote := s.selfVote
  leaveEmptyChannelSecs := s.leaveEmptyChannelSecs.filter fun n => n.toNat ≤ 2147483647

/-- The row without the columns that hold no setting: a ratio that is no byte, and any other number
below zero. -/
def SettingsRow.fitted (r : SettingsRow) : SettingsRow where
  guild := r.guild
  skipRatio := r.skipRatio.filter fun i => 0 ≤ i.toInt ∧ i.toInt ≤ 255
  voteTimeoutSecs := r.voteTimeoutSecs.filter fun i => 0 ≤ i.toInt
  maxQueueSize := r.maxQueueSize.filter fun i => 0 ≤ i.toInt
  autoDisconnectMinutes := r.autoDisconnectMinutes.filter fun i => 0 ≤ i.toInt
  selfVote := r.selfVote
  leaveEmptyChannelSecs := r.leaveEmptyChannelSecs.filter fun i => 0 ≤ i.toInt

namespace SettingsRow

theorem ofNat_toNat_toInt {i : Int32} (nonneg : 0 ≤ i.toInt) : Int32.ofNat i.toInt.toNat = i := by
  have below := i.toInt_lt
  apply Int32.toInt_inj.mp
  rw [Int32.toInt_ofNat_of_lt (by omega), Int.toNat_of_nonneg nonneg]

theorem signed?_of_unsigned? {i : Int32} {n : UInt32} (fits : unsigned? i = some n) :
    signed? n = some i := by
  have small := small_of_unsigned? fits
  unfold unsigned? at fits
  split at fits
  · next nonneg =>
      cases fits
      have below := i.toInt_lt
      have same : (UInt32.ofNat i.toInt.toNat).toNat = i.toInt.toNat := by
        rw [UInt32.toNat_ofNat']
        omega
      rw [signed?, if_pos small, same, ofNat_toNat_toInt nonneg]
  · cases fits

theorem unsigned?_isSome_iff {i : Int32} : (unsigned? i).isSome = true ↔ 0 ≤ i.toInt := by
  unfold unsigned?
  split <;> simp_all

theorem signed?_isSome_iff {n : UInt32} : (signed? n).isSome = true ↔ n.toNat ≤ 2147483647 := by
  unfold signed?
  split <;> simp <;> omega

/-- What comes back from a partial conversion that another one undoes is what fits it. -/
theorem bind_bind_eq_filter {α β : Type} {there : α → Option β} {back : β → Option α}
    {fits : α → Bool} (undone : ∀ a b, there a = some b → back b = some a)
    (partly : ∀ a, (there a).isSome = fits a) (x : Option α) :
    (x.bind there).bind back = x.filter fits := by
  cases x with
  | none => rfl
  | some a =>
      have known := partly a
      rw [Option.bind_some, Option.filter_some, ← known]
      cases converted : there a with
      | none => rfl
      | some b => exact undone a b converted

theorem word_back (x : Option UInt32) :
    (x.bind signed?).bind unsigned? = x.filter fun n => n.toNat ≤ 2147483647 :=
  bind_bind_eq_filter (fun _ _ => unsigned?_of_signed?)
    (fun _ => Bool.eq_iff_iff.mpr (signed?_isSome_iff.trans decide_eq_true_iff.symm)) x

theorem column_back (x : Option Int32) :
    (x.bind unsigned?).bind signed? = x.filter fun i => 0 ≤ i.toInt :=
  bind_bind_eq_filter (fun _ _ => signed?_of_unsigned?)
    (fun _ => Bool.eq_iff_iff.mpr (unsigned?_isSome_iff.trans decide_eq_true_iff.symm)) x

theorem byte_back (x : Option UInt8) :
    (x.map fun n => Int32.ofNat n.toNat).bind byte? = x := by
  cases x with
  | none => rfl
  | some n => exact byte?_ofNat n

theorem ratio_back (x : Option Int32) :
    (x.bind byte?).map (fun n => Int32.ofNat n.toNat) =
      x.filter fun i => 0 ≤ i.toInt ∧ i.toInt ≤ 255 := by
  cases x with
  | none => rfl
  | some i =>
      rw [Option.bind_some, byte?, Option.filter_some]
      by_cases fits : 0 ≤ i.toInt ∧ i.toInt ≤ 255
      · have same : (UInt8.ofNat i.toInt.toNat).toNat = i.toInt.toNat := by
          rw [UInt8.toNat_ofNat']
          omega
        rw [if_pos fits, Option.map_some, same, ofNat_toNat_toInt fits.1, if_pos (by simpa using fits)]
      · rw [if_neg fits, if_neg (by simpa using fits)]
        rfl

theorem toSettings_ofSettings_eq (guild : String) (s : GuildSettings) :
    (ofSettings guild s).toSettings = s.fitted := by
  simp only [toSettings, ofSettings, GuildSettings.fitted, word_back, byte_back]

theorem ofSettings_toSettings_eq (r : SettingsRow) :
    ofSettings r.guild r.toSettings = r.fitted := by
  simp only [toSettings, ofSettings, fitted, column_back, ratio_back]

end SettingsRow

namespace GuildSettings

theorem fitted_fitted (s : GuildSettings) : s.fitted.fitted = s.fitted := by
  simp [fitted]

/-- The settings once changes were asked for one after the other; one that does not pass its check
changes nothing. -/
def edited (s : GuildSettings) : List (SettingKey × Option SettingValue) → GuildSettings
  | [] => s
  | (k, v) :: edits =>
    match SettingsCache.check k v with
    | .ok () => (s.set k v).edited edits
    | .error _ => s.edited edits

theorem FitsRow.edited {s : GuildSettings} (h : s.FitsRow)
    (edits : List (SettingKey × Option SettingValue)) : (s.edited edits).FitsRow := by
  induction edits generalizing s with
  | nil => exact h
  | cons edit edits ih =>
      obtain ⟨k, v⟩ := edit
      rw [GuildSettings.edited]
      cases checked : SettingsCache.check k v with
      | ok _ => exact ih (h.set checked)
      | error e => exact ih h

end GuildSettings

/-- What the cache saves for a guild is a checked change of what the guild had set. -/
theorem SettingsCache.edited_of_set {c : SettingsCache} {g : GuildId} {k : SettingKey}
    {v : Option SettingValue} {s : GuildSettings} (accepted : (c.set g k v).1 = .ok s) :
    ∃ current, c.Holds g current ∧ s = current.edited [(k, v)] := by
  rcases c.set_cases g k v with ⟨e, loads, _, same⟩ | ⟨current, loads, held, checked, same⟩
  · rw [same] at accepted
    cases accepted
  · rw [same] at accepted
    cases accepted
    refine ⟨current, held, ?_⟩
    simp only [GuildSettings.edited, checked]

namespace SettingsRow

theorem fitted_fitted (r : SettingsRow) : r.fitted.fitted = r.fitted := by
  simp [fitted]

/-- Settings come back from a row without the numbers that a signed word cannot hold, and otherwise as
they were; so whatever checked changes, such as the cache saves, make of settings that were read from a
row, all of it comes back. A row comes back from settings without the columns that hold none, and
otherwise as it was. On either side the second time changes nothing. -/
theorem back_and_forth (guild : String) :
    (∀ s, (ofSettings guild s).toSettings = s.fitted) ∧
    (∀ (r : SettingsRow) edits,
      (ofSettings guild (r.toSettings.edited edits)).toSettings = r.toSettings.edited edits) ∧
    (∀ (c : SettingsCache) g k v s, (c.set g k v).1 = .ok s →
      ∃ current, c.Holds g current ∧ s = current.edited [(k, v)]) ∧
    (∀ r : SettingsRow, ofSettings r.guild r.toSettings = r.fitted) ∧
    (∀ s, let once := (ofSettings guild s).toSettings
      (ofSettings guild once).toSettings = once) ∧
    ∀ r : SettingsRow, let once := ofSettings r.guild r.toSettings
      ofSettings once.guild once.toSettings = once := by
  refine ⟨toSettings_ofSettings_eq guild, ?_, ?_, ofSettings_toSettings_eq, ?_, ?_⟩
  · intro r edits
    exact toSettings_ofSettings (r.fitsRow_toSettings.edited edits) guild
  · intro c g k v s accepted
    exact SettingsCache.edited_of_set accepted
  · intro s once
    have same : once = s.fitted := toSettings_ofSettings_eq guild s
    rw [toSettings_ofSettings_eq, same, GuildSettings.fitted_fitted]
  · intro r once
    have same : once = r.fitted := ofSettings_toSettings_eq r
    rw [ofSettings_toSettings_eq, same, fitted_fitted]

/-- A ratio of 300 and a window below zero were written by hand; the size of the queue is kept. -/
example :
    let r : SettingsRow :=
      { guild := "7", skipRatio := some 300, maxQueueSize := some 25, leaveEmptyChannelSecs := some (-1) }
    ofSettings "7" r.toSettings = { guild := "7", maxQueueSize := some 25 } := by
  decide

end SettingsRow

end Jukebox
