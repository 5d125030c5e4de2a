import Jukebox.Proofs.Settings.Crowd
import Jukebox.Proofs.Settings.Shelf

/-!
A cache that alone writes to its store shows what is stored. Whatever it is asked in whatever order, a
guild that is cached is cached as it is stored; so a change to one key is seen by every later read,
also once the guild was dropped from the cache.
-/

namespace Jukebox

/-- The key of a guild that the request may change. -/
def SettingsRequest.changes? : SettingsRequest → Option (GuildId × SettingKey)
  | set g k _ => some (g, k)
  | _ => none

namespace SettingsCache

/-- Every cached guild is cached as it is stored. -/
def Faithful (c : SettingsCache) : Prop :=
  ∀ g s, c.cached? g = some s → s = c.repository.shelf.read g

/-- A read of the guild does not need the store, or the store accepts it. -/
def readable (c : SettingsCache) (g : GuildId) : Bool :=
  (c.cached? g).isSome || !c.repository.rejectsReads

theorem Warmed.shelf {c c' : SettingsCache} (w : Warmed c c') :
    c'.repository.shelf = c.repository.shelf := by
  rw [w.stored]

theorem Warmed.stored? {c c' : SettingsCache} (w : Warmed c c') (g : GuildId) :
    c'.repository.stored? g = c.repository.stored? g := by
  rw [w.stored]
  rfl

/-- A write that fails has at most loaded. -/
theorem set_error {c c' : SettingsCache} {g : GuildId} {k : SettingKey} {v : Option SettingValue}
    {e : PlayerError} (failed : c.set g k v = (.error e, c')) : ∃ loads, c' = c.counting loads := by
  rcases c.set_cases g k v with ⟨_, loads, _, same⟩ | ⟨_, _, _, _, same⟩
  · rw [same] at failed
    cases failed
    exact ⟨loads, rfl⟩
  · rw [same] at failed
    cases failed

namespace Faithful

variable {c : SettingsCache} (h : c.Faithful)
include h

theorem of_same {c' : SettingsCache} (entries : c'.entries = c.entries)
    (shelf : c'.repository.shelf = c.repository.shelf) : c'.Faithful := by
  intro g s cached
  rw [cached?, entries] at cached
  rw [shelf]
  exact h g s cached

theorem of_holds {g : GuildId} {s : GuildSettings} (held : c.Holds g s) :
    s = c.repository.shelf.read g := by
  rcases held with cached | ⟨_, read⟩
  · exact h g s cached
  · exact read

theorem warmed {c' : SettingsCache} (w : Warmed c c') : c'.Faithful := by
  rcases w.cached with entries | ⟨g, _, entries⟩
  · exact h.of_same entries w.shelf
  · intro i s cached
    rw [cached?, entries, Table.get?_insert] at cached
    rw [w.shelf]
    split at cached
    · next same =>
        cases cached
        rw [same]
    · exact h i s cached

theorem saved (g : GuildId) {value : GuildSettings} (takes : c.repository.shelf.Takes value) :
    (c.saved g value).Faithful := by
  intro i s cached
  change (c.entries.insert g value).get? i = some s at cached
  change s = (c.repository.shelf.write g value).read i
  rw [Table.get?_insert] at cached
  split at cached
  · next same =>
      cases cached
      rw [same, Shelf.read_write_self takes]
  · next other =>
      rw [Shelf.read_write_ne _ other]
      exact h i s cached

/-- A write that succeeds has saved and cached what is stored with one key changed. -/
theorem set_ok {g : GuildId} {k : SettingKey} {v : Option SettingValue} {s : GuildSettings}
    {c' : SettingsCache} (done : c.set g k v = (.ok s, c')) :
    check k v = .ok () ∧ s = (c.repository.shelf.read g).set k v ∧
      ∃ loads, c' = (c.counting loads).saved g s := by
  rcases c.set_cases g k v with ⟨_, _, _, same⟩ | ⟨current, loads, held, checked, same⟩
  · rw [same] at done
    cases done
  · rw [same] at done
    cases done
    rw [h.of_holds held]
    exact ⟨checked, rfl, loads, rfl⟩

theorem set (g : GuildId) (k : SettingKey) (v : Option SettingValue) : (c.set g k v).2.Faithful := by
  rcases c.set_cases g k v with ⟨_, loads, _, same⟩ | ⟨current, loads, held, checked, same⟩
  · rw [same]
    exact h.of_same rfl rfl
  · have takes : c.repository.shelf.Takes (current.set k v) := by
      rw [h.of_holds held]
      exact (c.repository.shelf.takes_read g).set checked
    have counted : (c.counting loads).Faithful := h.of_same rfl rfl
    rw [same]
    exact counted.saved g takes

theorem invalidate (g : GuildId) : (c.invalidate g).Faithful := by
  intro i s cached
  exact h i s (Table.get?_erase_eq_some.mp cached).2

theorem answer {r : SettingsRequest} (own : r.meddles = false) : (r.answer c).2.Faithful := by
  cases r with
  | snapshot g | get g _ | effective g => exact h.warmed (.snapshot c g)
  | set g k v => exact h.set g k v
  | invalidate g => exact h.invalidate g
  | store g s => cases own
  | rejectReads on => exact h.of_same rfl rfl
  | rejectWrites on => exact h.of_same rfl (c.repository.rejectWrites_shelf on)
  | defaults => exact h

theorem serve {rs : List SettingsRequest} (own : ∀ r ∈ rs, r.meddles = false) :
    (c.serve rs).Faithful :=
  serve_induction h (fun _ _ own kept => kept.answer own) own

end Faithful

section Reads

variable {c : SettingsCache}

theorem shown_eq (defaults : EffectiveSettings) (s : GuildSettings) (k : SettingKey) :
    shown defaults s k = (s.override? k).getD (defaults.value k) := by
  unfold shown
  cases set : s.override? k with
  | some v => rfl
  | none =>
      cases k with
      | skipRatio | voteTimeoutSecs | maxQueueSize | autoDisconnectMinutes | selfVote
      | leaveEmptyChannelSecs =>
          have unset := Option.map_eq_none_iff.mp set
          simp only [EffectiveSettings.resolve, EffectiveSettings.value, unset]
          rfl

theorem snapshot_of_cached {g : GuildId} {s : GuildSettings} (cached : c.cached? g = some s) :
    c.snapshot g = (.ok s, c) := by
  unfold snapshot
  rw [cached]

theorem get_eq (c : SettingsCache) (g : GuildId) (k : SettingKey) :
    c.get g k = ((c.snapshot g).1.map fun s => shown c.defaults s k, (c.snapshot g).2) := by
  rw [← (Warmed.snapshot c g).defaults]
  rfl

theorem effective_eq (c : SettingsCache) (g : GuildId) :
    c.effective g = ((c.snapshot g).1.map fun s => .resolve s c.defaults, (c.snapshot g).2) := by
  rw [← (Warmed.snapshot c g).defaults]
  rfl

/-- What a read gives depends on nothing but the guild's place in the cache and the store. -/
theorem snapshot_congr {c c' : SettingsCache} {g : GuildId} (cached : c'.cached? g = c.cached? g)
    (shelf : c'.repository.shelf = c.repository.shelf)
    (rejects : c'.repository.rejectsReads = c.repository.rejectsReads) :
    (c'.snapshot g).1 = (c.snapshot g).1 := by
  unfold snapshot load Repository.load
  rw [cached, shelf, rejects]
  cases c.cached? g with
  | some s => rfl
  | none =>
      cases c.repository.rejectsReads with
      | true | false => rfl

/-- A read of one guild does not change what the next read of any guild gives. -/
theorem effective_after_snapshot (c : SettingsCache) (g h : GuildId) :
    ((c.snapshot g).2.effective h).1 = (c.effective h).1 := by
  rcases c.snapshot_cases g with ⟨_, _, same⟩ | ⟨_, same⟩ | ⟨_, loads, same⟩
  · rw [same]
  · rw [same]
  · have first : (c.snapshot g).1 = .ok (c.repository.shelf.read g) := by rw [same]
    have again : ((c.snapshot g).2.snapshot h).1 = (c.snapshot h).1 := by
      rw [same]
      by_cases here : h = g
      · have warm : ((c.counting loads).remember g (c.repository.shelf.read g)).cached? g =
            some (c.repository.shelf.read g) := Table.get?_insert_self _ _ _
        rw [here, first, snapshot_of_cached warm]
      · exact snapshot_congr (Table.get?_insert_ne _ here _) rfl rfl
    rw [effective_eq, effective_eq, again, (Warmed.snapshot c g).defaults]

theorem Faithful.snapshot_ok (h : c.Faithful) {g : GuildId} (readable : c.readable g = true) :
    (c.snapshot g).1 = .ok (c.repository.shelf.read g) := by
  cases cached : c.cached? g with
  | some s =>
      rw [snapshot_of_cached cached]
      exact congrArg Except.ok (h g s cached)
  | none =>
      have accepts : c.repository.rejectsReads = false := by
        simpa [SettingsCache.readable, cached] using readable
      simp [SettingsCache.snapshot, cached, load, Repository.load, accepts]

/-- A read shows the override that is stored, or else the default. -/
theorem Faithful.get_ok (h : c.Faithful) {g : GuildId} (readable : c.readable g = true)
    (k : SettingKey) :
    (c.get g k).1 =
      .ok (((c.repository.shelf.read g).override? k).getD (c.defaults.value k)) := by
  rw [get_eq, h.snapshot_ok readable, ← shown_eq]
  rfl

end Reads

theorem set_ok_iff (c : SettingsCache) (g : GuildId) (k : SettingKey) (v : Option SettingValue) :
    (c.set g k v).1.isOk = true ↔
      check k v = .ok () ∧ c.readable g = true ∧ c.repository.rejectsWrites = false := by
  unfold set
  cases checked : check k v with
  | error e => simp [Except.isOk, Except.toBool]
  | ok _ =>
      cases cached : c.cached? g with
      | some current =>
          cases writes : c.repository.rejectsWrites with
          | true | false =>
              simp [write, Repository.save, readable, cached, writes, Except.isOk, Except.toBool]
      | none =>
          cases reads : c.repository.rejectsReads with
          | true =>
              simp [load, Repository.load, readable, cached, reads, Except.isOk, Except.toBool]
          | false =>
              cases writes : c.repository.rejectsWrites with
              | true | false =>
                  simp [load, Repository.load, write, Repository.save, readable, cached, reads,
                    writes, Except.isOk, Except.toBool]

section Changes

variable {c : SettingsCache}

/-- A change to one key of a guild leaves its other overrides as they are stored. -/
theorem saved_override? {g i : GuildId} {k j : SettingKey} {v : Option SettingValue}
    (checked : check k v = .ok ()) (other : (g, k) ≠ (i, j)) :
    ((c.saved g ((c.repository.shelf.read g).set k v)).repository.shelf.read i).override? j =
      (c.repository.shelf.read i).override? j := by
  have takes := (c.repository.shelf.takes_read g).set checked
  change ((c.repository.shelf.write g _).read i).override? j = _
  by_cases here : i = g
  · have apart : j ≠ k := by
      rintro rfl
      exact other (by rw [here])
    rw [here, Shelf.read_write_self takes, GuildSettings.override?_set_ne _ _ apart]
  · rw [Shelf.read_write_ne _ here]

variable (h : c.Faithful)
include h

theorem Faithful.answer_override? {r : SettingsRequest} (own : r.meddles = false) {i : GuildId}
    {j : SettingKey} (spared : r.changes? ≠ some (i, j)) :
    ((r.answer c).2.repository.shelf.read i).override? j =
      (c.repository.shelf.read i).override? j := by
  cases r with
  | snapshot g | get g _ | effective g =>
      change ((c.snapshot g).2.repository.shelf.read i).override? j = _
      rw [(Warmed.snapshot c g).shelf]
  | set g k v =>
      change ((c.set g k v).2.repository.shelf.read i).override? j = _
      cases done : c.set g k v with
      | mk result c' =>
          cases result with
          | error e =>
              obtain ⟨loads, rfl⟩ := set_error done
              rfl
          | ok s =>
              obtain ⟨checked, rfl, loads, rfl⟩ := h.set_ok done
              exact saved_override? checked fun same => spared (congrArg some same)
  | store g s => cases own
  | rejectWrites on =>
      change (((c.repository.rejectWrites on).shelf).read i).override? j = _
      rw [c.repository.rejectWrites_shelf on]
  | invalidate g | rejectReads on | defaults => rfl

theorem Faithful.serve_override? {rs : List SettingsRequest} {i : GuildId} {j : SettingKey}
    (spared : ∀ r ∈ rs, r.meddles = false ∧ r.changes? ≠ some (i, j)) :
    ((c.serve rs).repository.shelf.read i).override? j =
      (c.repository.shelf.read i).override? j := by
  induction rs generalizing c with
  | nil => rfl
  | cons r rest ih =>
      obtain ⟨⟨own, first⟩, later⟩ := List.forall_mem_cons.mp spared
      exact (ih (h.answer own) later).trans (h.answer_override? own first)

end Changes

theorem answer_defaults (c : SettingsCache) (r : SettingsRequest) :
    (r.answer c).2.defaults = c.defaults := by
  cases r with
  | snapshot g | get g _ | effective g => exact (Warmed.snapshot c g).defaults
  | set g k v =>
      change (c.set g k v).2.defaults = c.defaults
      rcases c.set_cases g k v with ⟨_, _, _, same⟩ | ⟨_, _, _, _, same⟩
      · rw [same]
        rfl
      · rw [same]
        rfl
  | store g s | invalidate g | rejectReads on | rejectWrites on | defaults => rfl

theorem serve_defaults (c : SettingsCache) (rs : List SettingsRequest) :
    (c.serve rs).defaults = c.defaults := by
  induction rs generalizing c with
  | nil => rfl
  | cons r rest ih => exact (ih _).trans (answer_defaults c r)

/-- Nothing is different for a guild, neither in the cache nor in the store. -/
structure SameIn (g : GuildId) (c c' : SettingsCache) : Prop where
  cached : c'.cached? g = c.cached? g
  stored : c'.repository.stored? g = c.repository.stored? g

namespace SameIn

variable {g h : GuildId} (c : SettingsCache)

theorem refl : SameIn g c c := ⟨rfl, rfl⟩

theorem counting (loads : Nat) : SameIn g c (c.counting loads) := ⟨rfl, rfl⟩

theorem trans {c c' c'' : SettingsCache} (first : SameIn g c c') (later : SameIn g c' c'') :
    SameIn g c c'' :=
  ⟨later.cached.trans first.cached, later.stored.trans first.stored⟩

variable (other : h ≠ g)
include other

theorem remember (s : GuildSettings) : SameIn h c (c.remember g s) :=
  ⟨Table.get?_insert_ne _ other s, rfl⟩

theorem snapshot : SameIn h c (c.snapshot g).2 := by
  rcases c.snapshot_cases g with ⟨_, _, same⟩ | ⟨_, same⟩ | ⟨_, loads, same⟩
  · rw [same]
    exact refl c
  · rw [same]
    exact refl c
  · rw [same]
    exact (counting c loads).trans (remember _ other _)

theorem saved (s : GuildSettings) : SameIn h c (c.saved g s) :=
  ⟨Table.get?_insert_ne _ other s, c.repository.stored?_write_ne other s⟩

theorem set (k : SettingKey) (v : Option SettingValue) : SameIn h c (c.set g k v).2 := by
  rcases c.set_cases g k v with ⟨_, loads, _, same⟩ | ⟨current, loads, _, _, same⟩
  · rw [same]
    exact counting c loads
  · rw [same]
    exact (counting c loads).trans (saved _ other (current.set k v))

theorem invalidate : SameIn h c (c.invalidate g) := ⟨Table.get?_erase_ne _ other, rfl⟩

end SameIn

/-- What follows from a change to one key of a guild that succeeded with the settings `s`. -/
structure Changed (c : SettingsCache) (g : GuildId) (k : SettingKey) (v : Option SettingValue)
    (s : GuildSettings) (c' : SettingsCache) : Prop where
  cached : c'.cached? g = some s
  shows : (c'.get g k).1 = .ok (v.getD (c.defaults.value k))
  /-- Until the key is changed again, every read that does not fail shows the value. -/
  lasts : ∀ later : List SettingsRequest,
    (∀ r ∈ later, r.meddles = false ∧ r.changes? ≠ some (g, k)) →
    (c'.serve later).readable g = true →
    ((c'.serve later).get g k).1 = .ok (v.getD (c.defaults.value k))
  others : ∀ j, j ≠ k →
    (c'.repository.shelf.read g).override? j = (c.repository.shelf.read g).override? j
  elsewhere : ∀ i, i ≠ g → SameIn i c c'

theorem Faithful.changed {c : SettingsCache} (h : c.Faithful) {g : GuildId} {k : SettingKey}
    {v : Option SettingValue} {s : GuildSettings} {c' : SettingsCache}
    (done : c.set g k v = (.ok s, c')) : c.Changed g k v s c' := by
  obtain ⟨checked, written, loads, saved⟩ := h.set_ok done
  have faithful : c'.Faithful := by
    have kept := h.set g k v
    rwa [done] at kept
  have cached : c'.cached? g = some s := by
    rw [saved]
    exact Table.get?_insert_self _ _ _
  have own : (c'.repository.shelf.read g).override? k = v := by
    rw [← faithful g s cached, written, GuildSettings.override?_set_self _ checked]
  have defaults : c'.defaults = c.defaults := by
    rw [saved]
    rfl
  have lasts (later : List SettingsRequest)
      (spared : ∀ r ∈ later, r.meddles = false ∧ r.changes? ≠ some (g, k))
      (readable : (c'.serve later).readable g = true) :
      ((c'.serve later).get g k).1 = .ok (v.getD (c.defaults.value k)) := by
    have later_faithful := faithful.serve fun r member => (spared r member).1
    rw [later_faithful.get_ok readable, faithful.serve_override? spared, own, serve_defaults,
      defaults]
  have readable : c'.readable g = true := by simp [SettingsCache.readable, cached]
  refine ⟨cached, lasts [] nofun readable, lasts, ?_, ?_⟩
  · intro j other
    rw [saved, written]
    exact saved_override? (c := c.counting loads) checked
      fun same => other (Prod.mk.inj same).2.symm
  · intro i other
    rw [saved]
    exact (SameIn.counting c loads).trans (.saved _ other s)

/-- Over any store and any defaults, after any requests that do not go behind the cache: the cache
shows what is stored, a change that succeeds is seen from then on and touches nothing else, one that
fails touches nothing, and a read of a cached guild leaves the store alone. Several users at once come
to no more than some requests one after the other. -/
theorem settings_follow_store (repository : Repository) (defaults : EffectiveSettings)
    (rs : List SettingsRequest) (own : ∀ r ∈ rs, r.meddles = false) :
    let c := ({ repository, defaults } : SettingsCache).serve rs
    (∀ g s, c.cached? g = some s → s = (c.repository.stored? g).getD {}) ∧
    (∀ g k v, (c.set g k v).1.isOk = true ↔
      check k v = .ok () ∧ c.readable g = true ∧ c.repository.rejectsWrites = false) ∧
    (∀ g k v s c', c.set g k v = (.ok s, c') → c.Changed g k v s c') ∧
    (∀ g k v e c', c.set g k v = (.error e, c') →
      c'.entries = c.entries ∧ c'.repository.shelf = c.repository.shelf) ∧
    (∀ g s, c.cached? g = some s →
      c.snapshot g = (.ok s, c) ∧ c.effective g = (.ok (.resolve s defaults), c) ∧
      ∀ k, c.get g k = (.ok ((s.override? k).getD (defaults.value k)), c)) ∧
    (∀ loadDelay users, (∀ r ∈ users.flatten, r.meddles = false) →
      ∃ rs', (∀ r ∈ rs', r.meddles = false) ∧
        (c.together loadDelay users).2 =
          ({ repository, defaults } : SettingsCache).serve (rs ++ rs')) := by
  intro c
  have start : ({ repository, defaults } : SettingsCache).Faithful := nofun
  have faithful : c.Faithful := start.serve own
  have unchanged : c.defaults = defaults := serve_defaults _ rs
  refine ⟨?_, c.set_ok_iff, fun g k v s c' => faithful.changed, ?_, ?_, ?_⟩
  · intro g s cached
    rw [← Repository.read_eq_stored]
    exact faithful g s cached
  · intro g k v e c' failed
    obtain ⟨loads, rfl⟩ := set_error failed
    exact ⟨rfl, rfl⟩
  · intro g s cached
    refine ⟨snapshot_of_cached cached, ?_, ?_⟩
    · rw [effective_eq, snapshot_of_cached cached, unchanged]
      rfl
    · intro k
      rw [get_eq, snapshot_of_cached cached, unchanged, ← shown_eq]
      rfl
  · intro loadDelay users asked
    obtain ⟨rs', within, same⟩ := c.together_serve loadDelay users
    refine ⟨rs', fun r member => asked r (within member), ?_⟩
    rw [same]
    exact List.foldl_append.symm

/-- A reset is rejected, and the guild is dropped from the cache and read again. -/
theorem settings_follow_store_after_drop :
    let g : GuildId := ⟨1⟩
    let rs : List SettingsRequest :=
      [.set g .skipRatio (some (.number 60)), .rejectWrites true, .set g .skipRatio none,
        .invalidate g, .snapshot g]
    let c := ({ repository := {}, defaults := {} } : SettingsCache).serve rs
    (∀ r ∈ rs, r.meddles = false) ∧ c.cached? g = some { skipRatio := some 60 } ∧
      c.repository.loads = 2 ∧ c.get g .skipRatio = (.ok (.number 60), c) := by
  intro g rs c
  have own : ∀ r ∈ rs, r.meddles = false := by decide
  have cached : c.cached? g = some { skipRatio := some 60 } := by decide
  obtain ⟨_, _, _, _, reads, _⟩ := settings_follow_store {} {} rs own
  exact ⟨own, cached, by decide, (reads g _ cached).2.2 .skipRatio⟩

end SettingsCache

end Jukebox
