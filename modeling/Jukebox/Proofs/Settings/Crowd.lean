import Jukebox.Proofs.Settings.Cache

/-!
Several users of a settings cache at once. Whatever locks and loads they wait for, each request is
answered in one go; so what they leave together is what their requests leave one after the other, in
some order.
-/

namespace Jukebox

namespace Crowd

/-- The cache is what a run of the given requests leaves, and whoever waits is about to make some of
them. -/
structure Follows (first : SettingsCache) (pool : List SettingsRequest) (c : Crowd) : Prop where
  cache : ∃ rs, rs ⊆ pool ∧ c.cache = first.serve rs
  waiting : ∀ w ∈ c.waiting, w.2.requests ⊆ pool
  ready : ∀ w ∈ c.ready, w.2.requests ⊆ pool
  loading : ∀ l ∈ c.loading, l.2.2.requests ⊆ pool

namespace Follows

variable {first : SettingsCache} {pool : List SettingsRequest} {c : Crowd}
  (h : Follows first pool c)
include h

theorem note {r : SettingsRequest} (asked : r ∈ pool) (index : Nat) :
    Follows first pool (c.note index (r.answer c.cache)) := by
  obtain ⟨rs, within, same⟩ := h.cache
  refine ⟨⟨rs ++ [r], ?_, ?_⟩, h.waiting, h.ready, h.loading⟩
  · exact List.append_subset.mpr ⟨within, List.cons_subset.mpr ⟨asked, List.nil_subset _⟩⟩
  · rw [SettingsCache.serve, List.foldl_append]
    change (r.answer c.cache).2 = (r.answer (first.serve rs)).2
    rw [same]

theorem addLoad (g : GuildId) {u : SettingsUser} (own : u.requests ⊆ pool) :
    Follows first pool (c.addLoad g u) := by
  refine ⟨h.cache, h.waiting, h.ready, ?_⟩
  intro l member
  simp only [Crowd.addLoad, List.partition_eq_filter_filter, List.mem_append, List.mem_cons] at member
  rcases member with earlier | rfl | later
  · exact h.loading l (List.mem_filter.mp earlier).1
  · exact own
  · exact h.loading l (List.mem_filter.mp later).1

theorem release (g : GuildId) : Follows first pool (c.release g) := by
  unfold Crowd.release
  split
  · next u found =>
      have next := h.waiting _ (List.mem_of_find?_eq_some found)
      refine ⟨h.cache, fun w member => h.waiting w (List.mem_of_mem_eraseP member), ?_, h.loading⟩
      intro w member
      rcases List.mem_append.mp member with old | new
      · exact h.ready w old
      · rw [List.mem_singleton.mp new]
        exact next
  · exact ⟨h.cache, h.waiting, h.ready, h.loading⟩

theorem proceed (index : Nat) {rs : List SettingsRequest} (own : rs ⊆ pool) :
    Follows first pool (c.proceed index rs) := by
  induction rs generalizing c with
  | nil => exact h
  | cons r rest ih =>
      obtain ⟨asked, later⟩ := List.cons_subset.mp own
      have answered := ih (h.note asked index) later
      unfold Crowd.proceed
      split
      · exact answered
      · next g _ =>
          split
          · refine ⟨h.cache, ?_, h.ready, h.loading⟩
            intro w member
            rcases List.mem_append.mp member with old | new
            · exact h.waiting w old
            · rw [List.mem_singleton.mp new]
              exact own
          · split
            · have holding : Follows first pool { c with held := g :: c.held } :=
                ⟨h.cache, h.waiting, h.ready, h.loading⟩
              exact holding.addLoad g (u := ⟨index, r :: rest⟩) own
            · exact answered

theorem finish (g : GuildId) {u : SettingsUser} (own : u.requests ⊆ pool) :
    Follows first pool (c.finish g u) := by
  unfold Crowd.finish
  split
  · exact h.release g
  · next r rest same =>
      rw [same] at own
      obtain ⟨asked, later⟩ := List.cons_subset.mp own
      exact ((h.note asked u.index).release g).proceed u.index later

theorem enter (g : GuildId) {u : SettingsUser} (own : u.requests ⊆ pool) :
    Follows first pool (c.enter g u) := by
  unfold Crowd.enter
  split
  · exact h.addLoad g own
  · exact h.finish g own

theorem turn (turns : Nat) : Follows first pool (c.turn turns) := by
  induction turns generalizing c with
  | zero => exact h
  | succ turns ih =>
      unfold Crowd.turn
      split
      · next g u ready same =>
          have waits : ∀ w ∈ (g, u) :: ready, w.2.requests ⊆ pool := same ▸ h.ready
          obtain ⟨own, others⟩ := List.forall_mem_cons.mp waits
          have taken : Follows first pool { c with ready } :=
            ⟨h.cache, h.waiting, others, h.loading⟩
          exact ih (taken.enter g own)
      · split
        · next due g u loading same =>
            have waits : ∀ l ∈ (due, g, u) :: loading, l.2.2.requests ⊆ pool := same ▸ h.loading
            obtain ⟨own, others⟩ := List.forall_mem_cons.mp waits
            have taken : Follows first pool { c with now := due, loading } :=
              ⟨h.cache, h.waiting, h.ready, others⟩
            exact ih (taken.finish g own)
        · exact h

/-- Users start in order, each of them with requests from the pool. -/
theorem started {users : List (List SettingsRequest × Nat)}
    (own : ∀ u ∈ users, u.1 ⊆ pool) :
    Follows first pool (users.foldl (fun crowd u => crowd.proceed u.2 u.1) c) := by
  induction users generalizing c with
  | nil => exact h
  | cons u users ih =>
      obtain ⟨starts, others⟩ := List.forall_mem_cons.mp own
      exact ih (h.proceed u.2 starts) others

end Follows

end Crowd

namespace SettingsCache

/-- What users leave at once, some of their requests leave one after the other. -/
theorem together_serve (c : SettingsCache) (loadDelay : Nat)
    (users : List (List SettingsRequest)) :
    ∃ rs, rs ⊆ users.flatten ∧ (c.together loadDelay users).2 = c.serve rs := by
  have begun : Crowd.Follows c users.flatten
      { cache := c, loadDelay, yields := c.repository.isDatabase } :=
    ⟨⟨[], List.nil_subset _, rfl⟩, nofun, nofun, nofun⟩
  have own : ∀ u ∈ users.zipIdx, u.1 ⊆ users.flatten := by
    intro u member r asked
    exact List.mem_flatten.mpr ⟨u.1, List.fst_mem_of_mem_zipIdx member, asked⟩
  exact ((begun.started own).turn (2 * users.flatten.length)).cache

end SettingsCache

end Jukebox
