import Jukebox.Proofs.Registry.Eviction
import Jukebox.Proofs.Station.Confined
import Jukebox.Proofs.Station.Warm

/-!
What the sweep gives up. It looks at cached settings only, and it goes through the guilds one by one;
even so it gives up exactly the sessions that nobody uses by the settings as they are stored, and the
order in which it comes by them does not matter.
-/

namespace Jukebox

namespace Station

/-- The settings that a guild's stored row and the defaults give. -/
def inEffect (s : Station) (g : GuildId) : EffectiveSettings :=
  .resolve ((s.settings.repository.stored? g).getD {}) s.settings.defaults

/-- Nobody has listened in the guild for its window. -/
def Deserted (s : Station) (g : GuildId) : Prop :=
  ∃ since ∈ s.presence.aloneSince.get? g, millis (s.inEffect g).leaveEmptyChannelSecs ≤ s.now - since

/-- The guild's session has been idle for its window. -/
def Dormant (s : Station) (g : GuildId) : Prop :=
  ∃ session ∈ s.session? g, session.isIdle = true ∧
    millis (s.inEffect g).inactivitySecs ≤ s.now - session.lastActivity

instance (s : Station) (g : GuildId) : Decidable (s.Deserted g) :=
  inferInstanceAs (Decidable (∃ _ ∈ _, _))

instance (s : Station) (g : GuildId) : Decidable (s.Dormant g) :=
  inferInstanceAs (Decidable (∃ _ ∈ _, _))

/-- Of some guilds those whose sessions nobody uses. -/
def forsaken (s : Station) (gs : List GuildId) : List GuildId :=
  gs.filter fun g => s.Deserted g ∨ s.Dormant g

/-- What is left when the sessions of some guilds are given up. A guild that was given up for being
alone is no longer marked as alone. -/
def giveUp (s : Station) (gone : List GuildId) : Station :=
  { s with
    registry := s.registry.without gone
    presence := { s.presence with
      aloneSince := s.presence.aloneSince.without (gone.filter fun g => s.Deserted g) } }

theorem giveUp_nil (s : Station) : s.giveUp [] = s := by
  rw [giveUp, Registry.without_nil]
  rfl

section Guild

variable {s : Station} (warm : s.Warm) (grounded : s.registry.Grounded) {g : GuildId}
  (live : s.registry.live.contains g = true)
include warm live

theorem isAbandoned_iff : s.isAbandoned g = true ↔ s.Deserted g := by
  unfold isAbandoned Deserted inEffect Presence.aloneFor
  rw [warm.cachedEffective live]
  cases s.presence.aloneSince.get? g with
  | none => simp
  | some since => simp

include grounded

theorem isIdleFor_iff {slot : Slot} (found : s.registry.live.get? g = some slot) :
    s.registry.isIdleFor s.now slot (millis (s.settings.cachedEffective g).inactivitySecs) = true ↔
      s.Dormant g := by
  unfold Registry.isIdleFor Session.idleFor Dormant inEffect
  rw [warm.cachedEffective live, session?_of_found found, (grounded.fits g slot found).ref]
  cases idle : slot.session.isIdle with
  | false => simp [idle]
  | true => simp [idle, grounded.hasPending_of_idle found idle]

theorem sweepGuild_of_forsaken (forsaken : s.Deserted g ∨ s.Dormant g) :
    s.sweepGuild g = (true, s.giveUp [g]) := by
  obtain ⟨slot, found⟩ := Table.contains_iff.mp live
  have torn := Registry.tearDown_eq grounded found
  unfold sweepGuild
  by_cases deserted : s.Deserted g
  · rw [if_pos ((isAbandoned_iff warm live).mpr deserted), Registry.evict, found]
    simp only [giveUp, torn, List.filter_cons, deserted]
    rfl
  · have dormant := forsaken.resolve_left deserted
    rw [if_neg fun abandoned => deserted ((isAbandoned_iff warm live).mp abandoned),
      Registry.evictIfIdle, found]
    dsimp only
    rw [if_pos ((isIdleFor_iff warm grounded live found).mpr dormant)]
    simp only [giveUp, torn, List.filter_cons, deserted]
    rfl

theorem sweepGuild_of_used (used : ¬(s.Deserted g ∨ s.Dormant g)) : s.sweepGuild g = (false, s) := by
  obtain ⟨deserted, dormant⟩ := not_or.mp used
  obtain ⟨slot, found⟩ := Table.contains_iff.mp live
  unfold sweepGuild
  rw [if_neg fun abandoned => deserted ((isAbandoned_iff warm live).mp abandoned),
    Registry.evictIfIdle, found]
  dsimp only
  rw [if_neg fun idle => dormant ((isIdleFor_iff warm grounded live found).mp idle)]

end Guild

theorem giveUp_sameIn (s : Station) {gone : List GuildId} {g : GuildId} (stays : g ∉ gone) :
    SameIn g s (s.giveUp gone) where
  slot := by
    change (s.registry.live.without gone).get? g = _
    rw [Table.get?_without, if_neg stays]
  votes kind := by
    change (s.registry.desk.pending.without (gone.flatMap VoteKey.allOf)).get? ⟨g, kind⟩ = _
    rw [Table.get?_without, if_neg]
    · rfl
    · simpa [VoteKey.mem_allOf] using stays
  presence := by
    refine ⟨rfl, ?_⟩
    change (s.presence.aloneSince.without _).get? g = _
    rw [Table.get?_without, if_neg fun member => stays (List.mem_filter.mp member).1]
  settings := .refl _

/-- Whether a guild is used depends on nothing but the guild. -/
theorem SameIn.forsaken {s s' : Station} {g : GuildId} (same : SameIn g s s') (now : s'.now = s.now)
    (defaults : s'.settings.defaults = s.settings.defaults) :
    (s'.Deserted g ↔ s.Deserted g) ∧ (s'.Dormant g ↔ s.Dormant g) := by
  have effect : s'.inEffect g = s.inEffect g := by
    rw [inEffect, same.settings.stored, defaults, inEffect]
  rw [Deserted, same.presence.alone, effect, now, Dormant, same.session?, effect, now]
  exact ⟨Iff.rfl, Iff.rfl⟩

/-- Who else is given up does not change with a guild that is. -/
theorem giveUp_forsaken (s : Station) {g : GuildId} {gs : List GuildId} (fresh : g ∉ gs) :
    (s.giveUp [g]).forsaken gs = s.forsaken gs := by
  apply List.filter_congr
  intro h member
  have other : h ∉ [g] := fun here => fresh (List.mem_singleton.mp here ▸ member)
  obtain ⟨deserted, dormant⟩ := (s.giveUp_sameIn other).forsaken rfl rfl
  exact decide_eq_decide.mpr (or_congr deserted dormant)

theorem giveUp_cons (s : Station) {g : GuildId} {gone : List GuildId} (fresh : g ∉ gone) :
    s.giveUp (g :: gone) = (s.giveUp [g]).giveUp gone := by
  have deserted : gone.filter (fun h => (s.giveUp [g]).Deserted h) =
      gone.filter fun h => s.Deserted h := by
    apply List.filter_congr
    intro h member
    have other : h ∉ [g] := fun here => fresh (List.mem_singleton.mp here ▸ member)
    exact decide_eq_decide.mpr ((s.giveUp_sameIn other).forsaken rfl rfl).1
  have marks : s.presence.aloneSince.without ((g :: gone).filter fun h => s.Deserted h) =
      (s.giveUp [g]).presence.aloneSince.without (gone.filter fun h => s.Deserted h) := by
    rw [giveUp, ← Table.without_append, ← List.filter_append]
    rfl
  conv_lhs => rw [giveUp, s.registry.without_cons fresh, marks]
  conv_rhs => rw [giveUp, deserted]
  rfl

theorem sweepGuilds_eq {s : Station} (warm : s.Warm) (grounded : s.registry.Grounded)
    {gs : List GuildId} (once : gs.Nodup) (live : ∀ g ∈ gs, s.registry.live.contains g = true) :
    s.sweepGuilds gs = ((s.forsaken gs).length, s.giveUp (s.forsaken gs)) := by
  induction gs generalizing s with
  | nil => exact Prod.ext rfl s.giveUp_nil.symm
  | cons g gs ih =>
      obtain ⟨fresh, once⟩ := List.nodup_cons.mp once
      obtain ⟨here, others⟩ := List.forall_mem_cons.mp live
      by_cases gone : s.Deserted g ∨ s.Dormant g
      · have swept := sweepGuild_of_forsaken warm grounded here gone
        have left : s.next (.sweep [g]) = s.giveUp [g] := congrArg Prod.snd swept
        have warm' := left ▸ warm.next grounded (a := .sweep [g]) trivial
        have grounded' := left ▸ next_grounded grounded (.sweep [g])
        have live' : ∀ h ∈ gs, (s.giveUp [g]).registry.live.contains h = true := by
          intro h member
          have other : h ∉ [g] := fun here => fresh (List.mem_singleton.mp here ▸ member)
          rw [Table.contains, (s.giveUp_sameIn other).slot]
          exact others h member
        have taken : s.forsaken (g :: gs) = g :: s.forsaken gs :=
          List.filter_cons_of_pos (decide_eq_true gone)
        have spared : g ∉ s.forsaken gs := fun member => fresh (List.mem_filter.mp member).1
        rw [sweepGuilds, swept, taken, giveUp_cons s spared]
        dsimp only
        rw [ih warm' grounded' once live', s.giveUp_forsaken fresh, List.length_cons, Nat.add_comm]
        rfl
      · have kept : s.forsaken (g :: gs) = s.forsaken gs :=
          List.filter_cons_of_neg fun taken => gone (of_decide_eq_true taken)
        rw [sweepGuilds, sweepGuild_of_used warm grounded here gone, kept]
        dsimp only
        rw [ih warm grounded once others]
        exact Prod.ext (Nat.zero_add _) rfl

/-- The sessions of some guilds are given up, and nothing else happens. -/
structure GivesUp (s : Station) (gone : List GuildId) (s' : Station) : Prop where
  sessions : ∀ g ∈ gone, s'.registry.live.get? g = none
  votes : ∀ g ∈ gone, ∀ kind, s'.desk.pending.get? ⟨g, kind⟩ = none
  marks : ∀ g ∈ gone,
    s'.presence.aloneSince.get? g = if s.Deserted g then none else s.presence.aloneSince.get? g
  others : ∀ g, g ∉ gone → SameIn g s s'
  listeners : s'.presence.members = s.presence.members
  settings : s'.settings = s.settings
  published : s'.published = s.published
  inFlight : s'.inFlight = s.inFlight
  calls : s'.registry.backend.calls = s.registry.backend.calls ++ gone.map .stop

theorem givesUp_giveUp (s : Station) (gone : List GuildId) : GivesUp s gone (s.giveUp gone) where
  sessions g member := by
    change (s.registry.live.without gone).get? g = none
    rw [Table.get?_without, if_pos member]
  votes g member kind := by
    change (s.registry.desk.pending.without (gone.flatMap VoteKey.allOf)).get? ⟨g, kind⟩ = none
    rw [Table.get?_without, if_pos]
    exact List.mem_flatMap.mpr ⟨g, member, VoteKey.mem_allOf.mpr rfl⟩
  marks g member := by
    change (s.presence.aloneSince.without _).get? g = _
    rw [Table.get?_without]
    apply if_congr _ rfl rfl
    rw [List.mem_filter, decide_eq_true_eq]
    exact and_iff_right member
  others _ := s.giveUp_sameIn
  listeners := rfl
  settings := rfl
  published := rfl
  inFlight := rfl
  calls := rfl

/-- The stations differ at most in the order in which slots were torn down and the backend was
called. -/
structure Alike (s s' : Station) : Prop where
  registry : s.registry.Alike s'.registry
  rest : s' = { s with registry := s'.registry }

theorem giveUp_perm (s : Station) {gone gone' : List GuildId} (perm : gone'.Perm gone) :
    (s.giveUp gone).Alike (s.giveUp gone') := by
  have marks : s.presence.aloneSince.without (gone'.filter fun g => s.Deserted g) =
      s.presence.aloneSince.without (gone.filter fun g => s.Deserted g) :=
    Table.without_congr _ fun g => (perm.filter _).mem_iff
  refine ⟨s.registry.without_perm perm, ?_⟩
  rw [giveUp, marks, giveUp]

section Sweep

variable {s : Station} (warm : s.Warm) (grounded : s.registry.Grounded)
include warm grounded

/-- In whatever order the sweep goes through the guilds. -/
theorem sweepGuilds_eq_of_perm {gs : List GuildId} (perm : gs.Perm s.registry.guilds) :
    s.sweepGuilds gs = ((s.forsaken gs).length, s.giveUp (s.forsaken gs)) := by
  apply sweepGuilds_eq warm grounded
  · exact perm.nodup_iff.mpr s.registry.live.keys_nodup
  · intro g member
    exact Table.mem_keys.mp (perm.mem_iff.mp member)

/-- Whoever is left after a sweep is used, so the next sweep finds nothing to give up. -/
theorem sweep_again : s.sweep.2.sweep = (0, s.sweep.2) := by
  have swept := sweepGuilds_eq_of_perm warm grounded (.refl s.registry.guilds)
  have left : s.sweep.2 = s.giveUp (s.forsaken s.registry.guilds) := congrArg Prod.snd swept
  have warm' : s.sweep.2.Warm := warm.next grounded (a := .sweep s.registry.guilds) trivial
  have grounded' : s.sweep.2.registry.Grounded := next_grounded grounded (.sweep s.registry.guilds)
  have gives : GivesUp s (s.forsaken s.registry.guilds) s.sweep.2 := left ▸ s.givesUp_giveUp _
  have used : s.sweep.2.forsaken s.sweep.2.registry.guilds = [] := by
    apply List.filter_eq_nil_iff.mpr
    intro g member forsaken
    obtain ⟨slot, there⟩ := Table.contains_iff.mp (Table.mem_keys.mp member)
    have stays : g ∉ s.forsaken s.registry.guilds := by
      intro gone
      rw [gives.sessions g gone] at there
      cases there
    have same := gives.others g stays
    rw [same.slot] at there
    have now : s.sweep.2.now = s.now := by
      rw [left]
      rfl
    obtain ⟨deserted, dormant⟩ := same.forsaken now (congrArg SettingsCache.defaults gives.settings)
    apply stays
    apply List.mem_filter.mpr
    refine ⟨Table.mem_keys.mpr (Table.contains_iff.mpr ⟨slot, there⟩), decide_eq_true ?_⟩
    exact (or_congr deserted dormant).mp (of_decide_eq_true forsaken)
  have again := sweepGuilds_eq_of_perm warm' grounded' (.refl s.sweep.2.registry.guilds)
  rw [used, giveUp_nil] at again
  exact again

end Sweep

/-- In every state that a run can reach in which nobody but the station writes to the store, a sweep
finds in the cache what is stored, and gives up exactly the live sessions that are deserted or dormant
by the stored settings over the configured defaults. It tells how many there were and leaves everything else alone; in
whatever order it goes through the guilds it comes to the same, and it leaves nothing to a sweep that
follows at once. -/
theorem sweep_exact (config : Config) (repository : Repository) (backend : Backend)
    (os : List Occurrence) (own : (create config repository backend).Undisturbed os) :
    let s := (create config repository backend).through os
    let s' := s.sweep.2
    (∀ g, s.inEffect g = .resolve ((s.settings.repository.stored? g).getD {}) config.defaults) ∧
    (∀ g, (s.session? g).isSome = true → s.settings.cachedEffective g = s.inEffect g) ∧
    ∃ gone : List GuildId, gone.Nodup ∧
      (∀ g, g ∈ gone ↔ (s.session? g).isSome = true ∧ (s.Deserted g ∨ s.Dormant g)) ∧
      s.sweep.1 = gone.length ∧ GivesUp s gone s' ∧
      (∀ gs, gs.Perm s.registry.guilds →
        (s.sweepGuilds gs).1 = s.sweep.1 ∧ s'.Alike (s.sweepGuilds gs).2) ∧
      s'.sweep = (0, s') := by
  intro s s'
  have empty : (create config repository backend).registry.Grounded := .empty backend
  have cold : (create config repository backend).Warm := ⟨nofun, nofun⟩
  have grounded : s.registry.Grounded := through_grounded empty os
  have warm : s.Warm := cold.through empty own
  have swept := sweepGuilds_eq_of_perm warm grounded (.refl s.registry.guilds)
  have left : s' = s.giveUp (s.forsaken s.registry.guilds) := congrArg Prod.snd swept
  have count : s.sweep.1 = (s.forsaken s.registry.guilds).length := congrArg Prod.fst swept
  have once : s.registry.guilds.Nodup := s.registry.live.keys_nodup
  have hasSession : ∀ g, (s.session? g).isSome = s.registry.live.contains g := fun _ =>
    Option.isSome_map
  refine ⟨?_, ?_, s.forsaken s.registry.guilds, once.filter _, ?_, count, ?_, ?_,
    sweep_again warm grounded⟩
  · intro g
    rw [inEffect, through_defaults]
    rfl
  · intro g there
    rw [hasSession] at there
    exact warm.cachedEffective there
  · intro g
    rw [forsaken, List.mem_filter, decide_eq_true_eq, Registry.guilds, Table.mem_keys, hasSession]
  · rw [left]
    exact s.givesUp_giveUp _
  · intro gs perm
    have same : (s.forsaken gs).Perm (s.forsaken s.registry.guilds) := perm.filter _
    rw [sweepGuilds_eq_of_perm warm grounded perm, count, left]
    exact ⟨same.length_eq, s.giveUp_perm same⟩

/-- One guild plays to nobody for its window and one has been idle for its window, both to the
millisecond; a third, just as idle, has its own longer window in the store. -/
theorem sweep_exact_of_three :
    let m : MemberId := ⟨1⟩
    let track : TrackRef := ⟨"a"⟩
    let shelf : Shelf := .memory (.ofList [(⟨3⟩, { autoDisconnectMinutes := some 6 })])
    let os : List Occurrence :=
      [.act (.ask (.memberJoined ⟨1⟩ m)), .act (.ask (.enqueue ⟨1⟩ m track none)),
        .act (.ask (.enqueue ⟨2⟩ m track none)), .act (.ask (.trackFinished ⟨2⟩)),
        .act (.ask (.enqueue ⟨3⟩ m track none)), .act (.ask (.trackFinished ⟨3⟩)),
        .act (.advance 180000), .act (.ask (.memberLeft ⟨1⟩ m)), .act (.advance 120000)]
    let start := create {} { shelf } { nextHandle := ⟨1⟩ }
    let s := start.through os
    start.Undisturbed os ∧
      s.session? ⟨1⟩ ≠ none ∧ s.session? ⟨2⟩ ≠ none ∧
      s.sweep.2.session? ⟨1⟩ = none ∧ s.sweep.2.session? ⟨2⟩ = none ∧
      s.sweep.2.session? ⟨3⟩ = s.session? ⟨3⟩ ∧ s.sweep.2.sweep.1 = 0 := by
  intro m track shelf os start s
  have own : start.Undisturbed os :=
    ⟨trivial, trivial, trivial, trivial, trivial, trivial, trivial, trivial, trivial, trivial⟩
  have deserted : (s.session? ⟨1⟩).isSome = true ∧ s.Deserted ⟨1⟩ := by decide +kernel
  have dormant : (s.session? ⟨2⟩).isSome = true ∧ s.Dormant ⟨2⟩ := by decide +kernel
  have used : ¬(s.Deserted ⟨3⟩ ∨ s.Dormant ⟨3⟩) := by decide +kernel
  obtain ⟨_, _, gone, _, taken, _, gives, _, again⟩ :=
    sweep_exact {} { shelf } { nextHandle := ⟨1⟩ } os own
  have session (g : GuildId) : (s.session? g).isSome = true ∧ (s.Deserted g ∨ s.Dormant g) →
      s.sweep.2.session? g = none := by
    intro forsaken
    rw [session?, Registry.session?, gives.sessions g ((taken g).mpr forsaken)]
    rfl
  have third := gives.others ⟨3⟩ fun member => used ((taken ⟨3⟩).mp member).2
  refine ⟨own, ?_, ?_, session ⟨1⟩ ⟨deserted.1, .inl deserted.2⟩,
    session ⟨2⟩ ⟨dormant.1, .inr dormant.2⟩, ?_, congrArg Prod.fst again⟩
  · exact Option.isSome_iff_ne_none.mp deserted.1
  · exact Option.isSome_iff_ne_none.mp dormant.1
  · exact third.session?

end Station

end Jukebox
