import Jukebox.Proofs.Error
import Jukebox.Proofs.Settings.Bounds
import Jukebox.Settings.Crowd

/-!
The cache of settings, operation by operation. A read leaves the cache as it is or warms it with what
is stored; a write that fails leaves both as they are.
-/

namespace Jukebox

/-- The request writes to the store behind the back of the cache. -/
def SettingsRequest.meddles : SettingsRequest → Bool
  | store _ _ => true
  | _ => false

theorem Repository.rejectWrites_shelf (r : Repository) (on : Bool) :
    (r.rejectWrites on).shelf = r.shelf := by
  unfold rejectWrites
  split
  · rfl
  · rfl

namespace SettingsCache

/-- The cache once it has answered requests one after the other. -/
def serve (c : SettingsCache) (rs : List SettingsRequest) : SettingsCache :=
  rs.foldl (fun c r => (r.answer c).2) c

/-- What every request keeps that is made of the cache, a run of them keeps. -/
theorem serve_induction {P : SettingsCache → Prop} {c : SettingsCache} (start : P c)
    (step : ∀ c (r : SettingsRequest), r.meddles = false → P c → P (r.answer c).2)
    {rs : List SettingsRequest}
    (own : ∀ r ∈ rs, r.meddles = false) : P (c.serve rs) := by
  induction rs generalizing c with
  | nil => exact start
  | cons r rest ih =>
      obtain ⟨first, later⟩ := List.forall_mem_cons.mp own
      exact ih (step c r first start) later

/-- The cache over the same store with another count of loads. -/
def counting (c : SettingsCache) (loads : Nat) : SettingsCache :=
  { c with repository := { c.repository with loads } }

/-- The cache over the store once changed settings of a guild are written to it. -/
def written (c : SettingsCache) (g : GuildId) (value : GuildSettings) : SettingsCache :=
  { c with
    repository :=
      { c.repository with
        shelf := c.repository.shelf.write g value
        saves := c.repository.saves + 1 } }

/-- The cache once changed settings of a guild are saved. -/
def saved (c : SettingsCache) (g : GuildId) (value : GuildSettings) : SettingsCache :=
  (c.written g value).remember g value

/-- What a guild has set, as the cache or else the store has it. -/
def Holds (c : SettingsCache) (g : GuildId) (s : GuildSettings) : Prop :=
  c.cached? g = some s ∨ (c.cached? g = none ∧ s = c.repository.shelf.read g)

theorem load_cases (c : SettingsCache) (g : GuildId) :
    (∃ text, c.load g = (.error (.persistence text), c)) ∨
    ∃ loads, c.load g = (.ok (c.repository.shelf.read g), c.counting loads) := by
  unfold load Repository.load
  by_cases rejects : c.repository.rejectsReads = true
  · rw [if_pos rejects]
    exact .inl ⟨_, rfl⟩
  · rw [if_neg rejects]
    exact .inr ⟨c.repository.loads + 1, rfl⟩

/-- A read serves what is cached, or loads and caches what is stored, or fails. -/
theorem snapshot_cases (c : SettingsCache) (g : GuildId) :
    (∃ s, c.cached? g = some s ∧ c.snapshot g = (.ok s, c)) ∨
    (∃ text, c.snapshot g = (.error (.persistence text), c)) ∨
    (c.cached? g = none ∧ ∃ loads,
      c.snapshot g =
        (.ok (c.repository.shelf.read g),
          (c.counting loads).remember g (c.repository.shelf.read g))) := by
  unfold snapshot
  cases cached : c.cached? g with
  | some s => exact .inl ⟨s, rfl, rfl⟩
  | none =>
      rcases c.load_cases g with ⟨text, same⟩ | ⟨loads, same⟩
      · rw [same]
        exact .inr (.inl ⟨text, rfl⟩)
      · rw [same]
        exact .inr (.inr ⟨rfl, loads, rfl⟩)

theorem write_cases (c : SettingsCache) (g : GuildId) (k : SettingKey) (v : Option SettingValue)
    (current : GuildSettings) :
    (∃ text, c.write g k v current = (.error (.persistence text), c)) ∨
    c.write g k v current = (.ok (current.set k v), c.saved g (current.set k v)) := by
  by_cases rejects : c.repository.rejectsWrites = true
  · refine .inl ⟨"write rejected", ?_⟩
    simp only [write, Repository.save, if_pos rejects]
  · refine .inr ?_
    simp only [write, Repository.save, if_neg rejects]
    rfl

theorem check_error {k : SettingKey} {v : Option SettingValue} {e : PlayerError}
    (invalid : check k v = .error e) : ∃ text, e = .validation text := by
  cases v with
  | none => cases invalid
  | some v =>
      simp only [check, SettingKey.validate] at invalid
      split at invalid
      · split at invalid
        · cases invalid
        · cases invalid
          exact ⟨_, rfl⟩
      · cases invalid
      · cases invalid
        exact ⟨_, rfl⟩

/-- A write fails and at most has loaded, or saves and caches the checked change. -/
theorem set_cases (c : SettingsCache) (g : GuildId) (k : SettingKey) (v : Option SettingValue) :
    (∃ e loads, e.isDenial = false ∧ c.set g k v = (.error e, c.counting loads)) ∨
    (∃ current loads, c.Holds g current ∧ check k v = .ok () ∧
      c.set g k v = (.ok (current.set k v), (c.counting loads).saved g (current.set k v))) := by
  unfold set
  cases checked : check k v with
  | error e =>
      obtain ⟨text, rfl⟩ := check_error checked
      exact .inl ⟨_, c.repository.loads, rfl, rfl⟩
  | ok _ =>
      cases cached : c.cached? g with
      | some current =>
          dsimp only
          rcases c.write_cases g k v current with ⟨text, same⟩ | same
          · exact .inl ⟨_, c.repository.loads, rfl, same⟩
          · exact .inr ⟨current, c.repository.loads, .inl cached, rfl, same⟩
      | none =>
          dsimp only
          rcases c.load_cases g with ⟨text, same⟩ | ⟨loads, loaded⟩
          · rw [same]
            exact .inl ⟨_, c.repository.loads, rfl, rfl⟩
          · rw [loaded]
            dsimp only
            rcases (c.counting loads).write_cases g k v (c.repository.shelf.read g) with
              ⟨text, same⟩ | same
            · exact .inl ⟨_, loads, rfl, same⟩
            · exact .inr ⟨_, loads, .inr ⟨cached, rfl⟩, rfl, same⟩

/-- Whatever is cached or stored is within bounds, over defaults that can be used. -/
structure Bounded (c : SettingsCache) : Prop where
  defaults : c.defaults.Usable
  stored : c.repository.shelf.InBounds
  cached : ∀ g s, c.cached? g = some s → s.InBounds

namespace Bounded

variable {c : SettingsCache} (h : c.Bounded)
include h

theorem counting (loads : Nat) : (c.counting loads).Bounded := ⟨h.defaults, h.stored, h.cached⟩

theorem remember (g : GuildId) {s : GuildSettings} (valid : s.InBounds) :
    (c.remember g s).Bounded := by
  refine ⟨h.defaults, h.stored, ?_⟩
  intro j u there
  rw [cached?, SettingsCache.remember, Table.get?_insert] at there
  split at there
  · cases there
    exact valid
  · exact h.cached j u there

theorem of_holds {g : GuildId} {s : GuildSettings} (held : c.Holds g s) : s.InBounds := by
  rcases held with cached | ⟨_, rfl⟩
  · exact h.cached g s cached
  · exact h.stored g

theorem snapshot (g : GuildId) : (c.snapshot g).2.Bounded := by
  rcases c.snapshot_cases g with ⟨s, _, same⟩ | ⟨_, same⟩ | ⟨_, loads, same⟩
  · rw [same]
    exact h
  · rw [same]
    exact h
  · rw [same]
    exact (h.counting loads).remember g (h.stored g)

/-- What is read is within bounds. -/
theorem of_snapshot {g : GuildId} {s : GuildSettings} (read : (c.snapshot g).1 = .ok s) :
    s.InBounds := by
  rcases c.snapshot_cases g with ⟨u, cached, same⟩ | ⟨_, same⟩ | ⟨_, loads, same⟩
  · rw [same] at read
    cases read
    exact h.cached g s cached
  · rw [same] at read
    cases read
  · rw [same] at read
    cases read
    exact h.stored g

theorem saved (g : GuildId) {value : GuildSettings} (valid : value.InBounds) :
    (c.saved g value).Bounded := by
  have written : (c.written g value).Bounded := ⟨h.defaults, h.stored.write g valid, h.cached⟩
  exact written.remember g valid

theorem set (g : GuildId) (k : SettingKey) (v : Option SettingValue) : (c.set g k v).2.Bounded := by
  rcases c.set_cases g k v with ⟨_, loads, _, same⟩ | ⟨current, loads, held, checked, same⟩
  · rw [same]
    exact h.counting loads
  · rw [same]
    exact (h.counting loads).saved g ((h.of_holds held).set checked)

theorem invalidate (g : GuildId) : (c.invalidate g).Bounded := by
  refine ⟨h.defaults, h.stored, ?_⟩
  intro j s there
  exact h.cached j s (Table.get?_erase_eq_some.mp there).2

theorem answer {r : SettingsRequest} (own : r.meddles = false) : (r.answer c).2.Bounded := by
  cases r with
  | snapshot g | get g _ | effective g => exact h.snapshot g
  | set g k v => exact h.set g k v
  | invalidate g => exact h.invalidate g
  | store => cases own
  | rejectWrites on =>
      exact ⟨h.defaults, (c.repository.rejectWrites_shelf on).symm ▸ h.stored, h.cached⟩
  | rejectReads | defaults => exact ⟨h.defaults, h.stored, h.cached⟩

theorem serve {rs : List SettingsRequest} (own : ∀ r ∈ rs, r.meddles = false) :
    (c.serve rs).Bounded :=
  serve_induction h (fun _ _ own kept => kept.answer own) own

/-- Settings in effect can be used. -/
theorem of_effective {g : GuildId} {effective : EffectiveSettings}
    (read : (c.effective g).1 = .ok effective) : effective.Usable := by
  have defaults : (c.snapshot g).2.defaults = c.defaults := by
    rcases c.snapshot_cases g with ⟨_, _, same⟩ | ⟨_, same⟩ | ⟨_, _, same⟩
    · rw [same]
    · rw [same]
    · rw [same]
      rfl
  simp only [SettingsCache.effective] at read
  cases loaded : (c.snapshot g).1 with
  | error e =>
      rw [loaded] at read
      cases read
  | ok s =>
      rw [loaded] at read
      cases read
      rw [defaults]
      exact (h.of_snapshot loaded).resolve h.defaults

end Bounded

/-- Nothing is different but the count of loads, and perhaps one more guild is cached, with what is
stored for it. -/
structure Warmed (c c' : SettingsCache) : Prop where
  defaults : c'.defaults = c.defaults
  stored : c'.repository = { c.repository with loads := c'.repository.loads }
  cached : c'.entries = c.entries ∨
    ∃ g, c.cached? g = none ∧ c'.entries = c.entries.insert g (c.repository.shelf.read g)

namespace Warmed

theorem refl (c : SettingsCache) : Warmed c c := ⟨rfl, rfl, .inl rfl⟩

theorem counting (c : SettingsCache) (loads : Nat) : Warmed c (c.counting loads) :=
  ⟨rfl, rfl, .inl rfl⟩

theorem snapshot (c : SettingsCache) (g : GuildId) : Warmed c (c.snapshot g).2 := by
  rcases c.snapshot_cases g with ⟨_, _, same⟩ | ⟨_, same⟩ | ⟨cold, loads, same⟩
  · rw [same]
    exact refl c
  · rw [same]
    exact refl c
  · rw [same]
    exact ⟨rfl, rfl, .inr ⟨g, cold, rfl⟩⟩

end Warmed

end SettingsCache

end Jukebox
