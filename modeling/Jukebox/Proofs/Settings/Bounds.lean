import Jukebox.Proofs.Table
import Jukebox.Settings.Cache

/-!
Settings stay within the bounds of their keys. A value is checked before it is saved, and a row that
is read back holds no value that was not written into it; so over defaults that can be used, the
settings in effect can be used.
-/

namespace Jukebox

/-- A guild has set nothing that its keys do not allow. -/
def GuildSettings.InBounds (s : GuildSettings) : Prop :=
  ∀ k v, s.override? k = some v → k.validate v = .ok ()

/-- Settings that the player can work with. -/
structure EffectiveSettings.Usable (e : EffectiveSettings) : Prop where
  share : 1 ≤ e.skipRatio ∧ e.skipRatio ≤ 100
  voting : 0 < e.voteTimeoutSecs
  room : 1 ≤ e.maxQueueSize
  patience : 0 < e.inactivitySecs
  leaving : 0 < e.leaveEmptyChannelSecs

/-- What holds of the default and of every override holds of the value in effect. -/
theorem EffectiveSettings.of_override {α : Type} {P : Nat → Prop} {field : Option α}
    {toNat : α → Nat} {default : Nat} (fallback : P default)
    (own : ∀ n, field = some n → P (toNat n)) : P ((field.map toNat).getD default) := by
  cases field with
  | none => exact fallback
  | some n => exact own n rfl

theorem SettingKey.bounded_of_validate {k : SettingKey} {least greatest : Nat}
    (bounds : k.bounds = some (least, greatest)) {n : UInt32}
    (valid : k.validate (.number n) = .ok ()) : least ≤ n.toNat ∧ n.toNat ≤ greatest := by
  simp only [validate, bounds] at valid
  split at valid
  · assumption
  · cases valid

namespace GuildSettings

theorem inBounds_empty : ({} : GuildSettings).InBounds := by
  intro k v set
  cases k with
  | skipRatio | voteTimeoutSecs | maxQueueSize | autoDisconnectMinutes | selfVote
  | leaveEmptyChannelSecs => cases set

theorem InBounds.number {s : GuildSettings} (h : s.InBounds) {k : SettingKey} {least greatest : Nat}
    (bounds : k.bounds = some (least, greatest)) {n : UInt32}
    (set : s.override? k = some (.number n)) : least ≤ n.toNat ∧ n.toNat ≤ greatest :=
  SettingKey.bounded_of_validate bounds (h k _ set)

/-- What was checked is what the key then shows. -/
theorem override?_set_self (s : GuildSettings) {k : SettingKey} {v : Option SettingValue}
    (checked : SettingsCache.check k v = .ok ()) : (s.set k v).override? k = v := by
  cases v with
  | none =>
      cases k with
      | skipRatio | voteTimeoutSecs | maxQueueSize | autoDisconnectMinutes | selfVote
      | leaveEmptyChannelSecs => rfl
  | some v =>
      cases v with
      | flag b =>
          cases k with
          | selfVote => rfl
          | skipRatio | voteTimeoutSecs | maxQueueSize | autoDisconnectMinutes
          | leaveEmptyChannelSecs => cases checked
      | number n =>
          cases k with
          | selfVote => cases checked
          | voteTimeoutSecs | maxQueueSize | autoDisconnectMinutes | leaveEmptyChannelSecs => rfl
          | skipRatio =>
              -- The field is a byte, but a ratio that passes the check fits.
              obtain ⟨_, small⟩ := SettingKey.bounded_of_validate (k := .skipRatio) rfl checked
              have fits : n.toNat < 256 := by omega
              have back : n.toUInt8.toUInt32 = n := by
                apply UInt32.toNat_inj.mp
                rw [UInt8.toNat_toUInt32, UInt32.toNat_toUInt8]
                omega
              simp only [set, number?, Option.bind_some, if_pos fits, override?, Option.map_some, back]

theorem override?_set_ne (s : GuildSettings) {k j : SettingKey} (v : Option SettingValue)
    (other : j ≠ k) : (s.set k v).override? j = s.override? j := by
  cases k <;> cases j <;> first | rfl | exact absurd rfl other

theorem InBounds.set {s : GuildSettings} (h : s.InBounds) {k : SettingKey}
    {v : Option SettingValue} (checked : SettingsCache.check k v = .ok ()) :
    (s.set k v).InBounds := by
  intro j u there
  by_cases same : j = k
  · subst same
    rw [override?_set_self s checked] at there
    subst there
    exact checked
  · rw [override?_set_ne s v same] at there
    exact h j u there

/-- Each field in effect is one within its bounds or the default. -/
theorem InBounds.resolve {s : GuildSettings} (h : s.InBounds) {defaults : EffectiveSettings}
    (usable : defaults.Usable) : (EffectiveSettings.resolve s defaults).Usable where
  share := by
    apply EffectiveSettings.of_override (P := fun n => 1 ≤ n ∧ n ≤ 100) usable.share
    intro n set
    have bounded := h.number (k := .skipRatio) rfl (n := n.toUInt32) (by rw [override?, set]; rfl)
    rwa [UInt8.toNat_toUInt32] at bounded
  voting := by
    apply EffectiveSettings.of_override usable.voting
    intro n set
    have bounded := h.number (k := .voteTimeoutSecs) rfl (n := n) (by rw [override?, set]; rfl)
    omega
  room := by
    apply EffectiveSettings.of_override usable.room
    intro n set
    exact (h.number (k := .maxQueueSize) rfl (n := n) (by rw [override?, set]; rfl)).1
  patience := by
    apply EffectiveSettings.of_override usable.patience
    intro n set
    have bounded := h.number (k := .autoDisconnectMinutes) rfl (n := n) (by rw [override?, set]; rfl)
    omega
  leaving := by
    apply EffectiveSettings.of_override usable.leaving
    intro n set
    have bounded := h.number (k := .leaveEmptyChannelSecs) rfl (n := n) (by rw [override?, set]; rfl)
    omega

end GuildSettings

namespace SettingsRow

theorem unsigned?_of_signed? {n : UInt32} {i : Int32} (fits : signed? n = some i) :
    unsigned? i = some n := by
  unfold signed? at fits
  split at fits
  · next small =>
      cases fits
      have same : (Int32.ofNat n.toNat).toInt = n.toNat := Int32.toInt_ofNat_of_lt small
      rw [unsigned?, same, if_pos (Int.natCast_nonneg _), Int.toNat_natCast, UInt32.ofNat_toNat]
  · cases fits

theorem byte?_ofNat (n : UInt8) : byte? (Int32.ofNat n.toNat) = some n := by
  have small := n.toNat_lt
  have same : (Int32.ofNat n.toNat).toInt = n.toNat := Int32.toInt_ofNat_of_lt (by omega)
  rw [byte?, same, if_pos (by omega), Int.toNat_natCast, UInt8.ofNat_toNat]

theorem eq_of_bind_signed? {x : Option UInt32} {n : UInt32}
    (read : (x.bind signed?).bind unsigned? = some n) : x = some n := by
  obtain ⟨i, written, back⟩ := Option.bind_eq_some_iff.mp read
  obtain ⟨m, there, fits⟩ := Option.bind_eq_some_iff.mp written
  rw [unsigned?_of_signed? fits] at back
  rw [there, back]

/-- A row shows nothing that was not written into it. -/
theorem override?_of_row {guild : String} {s : GuildSettings} {k : SettingKey} {v : SettingValue}
    (read : (ofSettings guild s).toSettings.override? k = some v) : s.override? k = some v := by
  cases k with
  | skipRatio =>
      obtain ⟨n, there, rfl⟩ := Option.map_eq_some_iff.mp read
      obtain ⟨i, written, back⟩ := Option.bind_eq_some_iff.mp there
      obtain ⟨m, set, rfl⟩ := Option.map_eq_some_iff.mp written
      rw [byte?_ofNat] at back
      cases back
      rw [GuildSettings.override?, set]
      rfl
  | selfVote => exact read
  | voteTimeoutSecs | maxQueueSize | autoDisconnectMinutes | leaveEmptyChannelSecs =>
      obtain ⟨n, there, rfl⟩ := Option.map_eq_some_iff.mp read
      rw [GuildSettings.override?, eq_of_bind_signed? there]
      rfl

end SettingsRow

theorem RowTable.find?_upsert (t : RowTable) (row : SettingsRow) (guild : String) :
    (t.upsert row).find? guild = if row.guild = guild then some row else t.find? guild := by
  simp only [find?, upsert, List.find?_append, List.find?_filter]
  split
  · next same =>
      subst same
      have none : t.rows.find? (fun r => decide (decide (r.guild ≠ row.guild) = true ∧
          decide (r.guild = row.guild) = true)) = none := by
        rw [List.find?_eq_none]
        simp
      rw [none]
      simp
  · next other =>
      have kept : (fun r : SettingsRow => decide (decide (r.guild ≠ row.guild) = true ∧
          decide (r.guild = guild) = true)) = fun r => decide (r.guild = guild) := by
        funext r
        by_cases here : r.guild = guild
        · simp [here, Ne.symm other]
        · simp [here]
      rw [kept]
      simp [other]

/-- All stored settings are within bounds. -/
def Shelf.InBounds (s : Shelf) : Prop := ∀ g, (s.read g).InBounds

theorem Shelf.inBounds_empty : (Shelf.memory .empty).InBounds := fun _ =>
  GuildSettings.inBounds_empty

theorem Shelf.InBounds.write {s : Shelf} (h : s.InBounds) (g : GuildId) {value : GuildSettings}
    (valid : value.InBounds) : (s.write g value).InBounds := by
  intro j
  have kept := h j
  cases s with
  | memory settings =>
      change (((settings.insert g value).get? j).getD {}).InBounds
      rw [Table.get?_insert]
      by_cases here : j = g
      · rw [if_pos here]
        exact valid
      · rw [if_neg here]
        exact kept
  | database rows =>
      change ((((rows.upsert (.ofSettings (toString g) value)).find? (toString j)).map
        SettingsRow.toSettings).getD {}).InBounds
      rw [RowTable.find?_upsert]
      split
      · exact fun k v read => valid k v (SettingsRow.override?_of_row read)
      · exact kept

end Jukebox
