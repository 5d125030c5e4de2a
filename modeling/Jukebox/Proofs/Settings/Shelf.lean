import Jukebox.Proofs.Settings.Bounds

/-!
Settings come back from a store as they were written. A number that was read from a row, or that
passed its check, fits a row; and the row of one guild is not the row of another.
-/

namespace Jukebox

/-- Guilds are told apart by the texts that name them in rows. -/
theorem GuildId.toString_inj {g h : GuildId} (same : toString g = toString h) : g = h := by
  have digits : Nat.toDigits 10 g.val.toNat = Nat.toDigits 10 h.val.toNat := by
    rw [← Nat.toList_repr, ← Nat.toList_repr]
    exact congrArg String.toList same
  apply rank_inj.mp
  calc
    g.val.toNat = Nat.ofDigitChars 10 (Nat.toDigits 10 g.val.toNat) 0 :=
      Nat.ofDigitChars_ten_toDigits.symm
    _ = Nat.ofDigitChars 10 (Nat.toDigits 10 h.val.toNat) 0 := by rw [digits]
    _ = h.val.toNat := Nat.ofDigitChars_ten_toDigits

/-- The value fits a field of a row. -/
def SettingValue.fitsRow : SettingValue → Bool
  | number n => n.toNat < 2147483648
  | flag _ => true

namespace SettingKey

theorem bounds_small {k : SettingKey} {least greatest : Nat}
    (bounds : k.bounds = some (least, greatest)) : greatest ≤ 10000 := by
  cases k with
  | selfVote => cases bounds
  | skipRatio | voteTimeoutSecs | maxQueueSize | autoDisconnectMinutes | leaveEmptyChannelSecs =>
      cases bounds
      decide

theorem fitsRow_of_validate {k : SettingKey} {v : SettingValue} (valid : k.validate v = .ok ()) :
    v.fitsRow = true := by
  cases v with
  | flag b => rfl
  | number n =>
      cases bounds : k.bounds with
      | none =>
          simp only [validate, bounds] at valid
          cases valid
      | some p =>
          have bounded := bounded_of_validate bounds valid
          have small := bounds_small bounds
          apply decide_eq_true
          omega

end SettingKey

namespace GuildSettings

/-- Every override fits its field of a row. -/
def FitsRow (s : GuildSettings) : Prop := ∀ k v, s.override? k = some v → v.fitsRow = true

theorem fitsRow_empty : ({} : GuildSettings).FitsRow := by
  intro k v set
  exact SettingKey.fitsRow_of_validate (inBounds_empty k v set)

theorem FitsRow.set {s : GuildSettings} (h : s.FitsRow) {k : SettingKey} {v : Option SettingValue}
    (checked : SettingsCache.check k v = .ok ()) : (s.set k v).FitsRow := by
  intro j u there
  by_cases same : j = k
  · subst same
    rw [override?_set_self s checked] at there
    subst there
    exact SettingKey.fitsRow_of_validate checked
  · rw [override?_set_ne s v same] at there
    exact h j u there

end GuildSettings

namespace SettingsRow

theorem small_of_unsigned? {i : Int32} {n : UInt32} (fits : unsigned? i = some n) :
    n.toNat < 2147483648 := by
  unfold unsigned? at fits
  split at fits
  · cases fits
    have := i.toInt_lt
    rw [UInt32.toNat_ofNat']
    omega
  · cases fits

/-- A row holds no number that does not fit it. -/
theorem fitsRow_toSettings (r : SettingsRow) : r.toSettings.FitsRow := by
  intro k v read
  cases k with
  | skipRatio =>
      obtain ⟨n, _, rfl⟩ := Option.map_eq_some_iff.mp read
      have small := n.toNat_lt
      apply decide_eq_true
      rw [UInt8.toNat_toUInt32]
      omega
  | selfVote =>
      obtain ⟨b, _, rfl⟩ := Option.map_eq_some_iff.mp read
      rfl
  | voteTimeoutSecs | maxQueueSize | autoDisconnectMinutes | leaveEmptyChannelSecs =>
      obtain ⟨n, there, rfl⟩ := Option.map_eq_some_iff.mp read
      obtain ⟨i, _, back⟩ := Option.bind_eq_some_iff.mp there
      exact decide_eq_true (small_of_unsigned? back)

/-- Settings that fit a row are read back from it as they were written. -/
theorem toSettings_ofSettings {s : GuildSettings} (h : s.FitsRow) (guild : String) :
    (ofSettings guild s).toSettings = s := by
  have word {x : Option UInt32} (small : ∀ n, x = some n → n.toNat < 2147483648) :
      (x.bind signed?).bind unsigned? = x := by
    cases x with
    | none => rfl
    | some n =>
        have fits : signed? n = some (Int32.ofNat n.toNat) := if_pos (small n rfl)
        rw [Option.bind_some, fits, Option.bind_some, unsigned?_of_signed? fits]
  have small (k : SettingKey) (n : UInt32) (set : s.override? k = some (.number n)) :
      n.toNat < 2147483648 := of_decide_eq_true (h k _ set)
  have byte : (s.skipRatio.map fun n => Int32.ofNat n.toNat).bind byte? = s.skipRatio := by
    cases s.skipRatio with
    | none => rfl
    | some n => exact byte?_ofNat n
  cases s
  simp only [toSettings, ofSettings, GuildSettings.mk.injEq]
  refine ⟨byte, word ?_, word ?_, word ?_, trivial, word ?_⟩
  · intro n set
    exact small .voteTimeoutSecs n (by rw [GuildSettings.override?, set]; rfl)
  · intro n set
    exact small .maxQueueSize n (by rw [GuildSettings.override?, set]; rfl)
  · intro n set
    exact small .autoDisconnectMinutes n (by rw [GuildSettings.override?, set]; rfl)
  · intro n set
    exact small .leaveEmptyChannelSecs n (by rw [GuildSettings.override?, set]; rfl)

end SettingsRow

namespace Shelf

/-- Settings that the store can hold as they are. -/
def Takes (s : Shelf) (value : GuildSettings) : Prop :=
  match s with
  | memory _ => True
  | database _ => value.FitsRow

theorem takes_read (s : Shelf) (g : GuildId) : s.Takes (s.read g) := by
  cases s with
  | memory settings => trivial
  | database rows =>
      change ((rows.find? (toString g)).map SettingsRow.toSettings |>.getD {}).FitsRow
      cases rows.find? (toString g) with
      | none => exact GuildSettings.fitsRow_empty
      | some r => exact r.fitsRow_toSettings

theorem Takes.set {s : Shelf} {value : GuildSettings} (h : s.Takes value) {k : SettingKey}
    {v : Option SettingValue} (checked : SettingsCache.check k v = .ok ()) :
    s.Takes (value.set k v) := by
  cases s with
  | memory settings => trivial
  | database rows => exact GuildSettings.FitsRow.set h checked

theorem read_write_self {s : Shelf} {value : GuildSettings} (h : s.Takes value) (g : GuildId) :
    (s.write g value).read g = value := by
  cases s with
  | memory settings =>
      change ((settings.insert g value).get? g).getD {} = value
      rw [Table.get?_insert_self]
      rfl
  | database rows =>
      change (((rows.upsert _).find? (toString g)).map SettingsRow.toSettings).getD {} = value
      rw [RowTable.find?_upsert, SettingsRow.ofSettings, if_pos rfl]
      exact SettingsRow.toSettings_ofSettings h (toString g)

theorem read_write_ne (s : Shelf) {g h : GuildId} (other : h ≠ g) (value : GuildSettings) :
    (s.write g value).read h = s.read h := by
  cases s with
  | memory settings =>
      change ((settings.insert g value).get? h).getD {} = (settings.get? h).getD {}
      rw [Table.get?_insert_ne settings other]
  | database rows =>
      change (((rows.upsert _).find? (toString h)).map SettingsRow.toSettings).getD {} =
        ((rows.find? (toString h)).map SettingsRow.toSettings).getD {}
      rw [RowTable.find?_upsert, if_neg fun same => other (GuildId.toString_inj same.symm)]

end Shelf

namespace Repository

theorem read_eq_stored (r : Repository) (g : GuildId) : r.shelf.read g = (r.stored? g).getD {} := by
  unfold stored?
  split
  · next settings shelf => rw [shelf, Shelf.read]
  · rfl

theorem stored?_write_ne (r : Repository) {g h : GuildId} (other : h ≠ g) (value : GuildSettings) :
    { r with shelf := r.shelf.write g value }.stored? h = r.stored? h := by
  unfold stored?
  cases shelf : r.shelf with
  | memory settings => exact Table.get?_insert_ne settings other value
  | database rows => exact congrArg some (Shelf.read_write_ne (.database rows) other value)

end Repository

end Jukebox
