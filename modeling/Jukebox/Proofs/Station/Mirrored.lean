import Jukebox.Proofs.Station.Confined
import Jukebox.Proofs.Session.Renumbered
import Jukebox.Proofs.VoteDesk.Renumbered

/-!
A guild in two stations. Both may have the same of it but for the numbers of its entries and of its
streams: the same session, the same votes, the same listeners and settings, and the same votes that
have passed. What else the stations hold, and what they count, plays no part.
-/

namespace Jukebox

/-- Two results that agree, each with what comes with it. -/
theorem exists_of_fst_eq {α β : Type} {a a' : α × β} (same : a'.1 = a.1) :
    ∃ r, a = (r, a.2) ∧ a' = (r, a'.2) :=
  ⟨a.1, rfl, by rw [← same]⟩

section Tables

variable {κ α : Type} [Ranked κ]

theorem Table.same_inserted (t t' : Table κ α) (k : κ) (v : α) :
    (t'.insert k v).get? k = (t.insert k v).get? k :=
  (t'.get?_insert_self k v).trans (t.get?_insert_self k v).symm

theorem Table.same_erased (t t' : Table κ α) (k : κ) : (t'.erase k).get? k = (t.erase k).get? k :=
  (t'.get?_erase_self k).trans (t.get?_erase_self k).symm

end Tables

/-- Two caches over the same repository, with the same defaults, have cached the same of a guild. -/
structure SettingsCache.Agree (g : GuildId) (c c' : SettingsCache) : Prop where
  repository : c'.repository = c.repository
  defaults : c'.defaults = c.defaults
  cached : c'.cached? g = c.cached? g

namespace SettingsCache.Agree

variable {g : GuildId} {c c' : SettingsCache} (h : Agree g c c')
include h

theorem remember (s : GuildSettings) : Agree g (c.remember g s) (c'.remember g s) where
  repository := h.repository
  defaults := h.defaults
  cached := Table.same_inserted ..

theorem keeping (repository : Repository) :
    Agree g { c with repository } { c' with repository } :=
  ⟨rfl, h.defaults, h.cached⟩

theorem load : (c'.load g).1 = (c.load g).1 ∧ Agree g (c.load g).2 (c'.load g).2 := by
  unfold SettingsCache.load
  rw [h.repository]
  exact ⟨rfl, h.keeping _⟩

theorem snapshot :
    (c'.snapshot g).1 = (c.snapshot g).1 ∧ Agree g (c.snapshot g).2 (c'.snapshot g).2 := by
  obtain ⟨same, agree⟩ := h.load
  obtain ⟨loaded, first, second⟩ := exists_of_fst_eq same
  unfold SettingsCache.snapshot
  rw [h.cached]
  cases c.cached? g with
  | some s => exact ⟨rfl, h⟩
  | none =>
      rw [first, second]
      cases loaded with
      | error e => exact ⟨rfl, agree⟩
      | ok s => exact ⟨rfl, agree.remember s⟩

theorem effective :
    (c'.effective g).1 = (c.effective g).1 ∧ Agree g (c.effective g).2 (c'.effective g).2 := by
  obtain ⟨same, agree⟩ := h.snapshot
  refine ⟨?_, agree⟩
  change ((c'.snapshot g).1.map fun s => EffectiveSettings.resolve s (c'.snapshot g).2.defaults) = _
  rw [same, agree.defaults]
  rfl

theorem write (k : SettingKey) (v : Option SettingValue) (current : GuildSettings) :
    (c'.write g k v current).1 = (c.write g k v current).1 ∧
      Agree g (c.write g k v current).2 (c'.write g k v current).2 := by
  unfold SettingsCache.write
  rw [h.repository]
  dsimp only
  rcases c.repository.save g (current.set k v) with ⟨saved, repository⟩
  cases saved with
  | error e => exact ⟨rfl, h.keeping repository⟩
  | ok _ => exact ⟨rfl, (h.keeping repository).remember _⟩

theorem set (k : SettingKey) (v : Option SettingValue) :
    (c'.set g k v).1 = (c.set g k v).1 ∧ Agree g (c.set g k v).2 (c'.set g k v).2 := by
  obtain ⟨same, agree⟩ := h.load
  obtain ⟨loaded, first, second⟩ := exists_of_fst_eq same
  unfold SettingsCache.set
  rw [h.cached]
  cases check k v with
  | error e => exact ⟨rfl, h⟩
  | ok _ =>
      cases c.cached? g with
      | some current => exact h.write k v current
      | none =>
          rw [first, second]
          cases loaded with
          | error e => exact ⟨rfl, agree⟩
          | ok current => exact agree.write k v current

theorem invalidate : Agree g (c.invalidate g) (c'.invalidate g) where
  repository := h.repository
  defaults := h.defaults
  cached := Table.same_erased ..

theorem cachedEffective : c'.cachedEffective g = c.cachedEffective g := by
  rw [SettingsCache.cachedEffective, SettingsCache.cachedEffective, h.cached, h.defaults]

end SettingsCache.Agree

namespace Presence.SameIn

variable {g : GuildId} {p p' : Presence} (h : SameIn g p p')
include h

theorem joined_both (m : MemberId) : SameIn g (p.joined g m).2 (p'.joined g m).2 where
  members := by
    simp only [Presence.joined, h.listeners, Table.get?_insert_self]
  alone := Table.same_erased ..

theorem left_both (now : Nat) (m : MemberId) :
    SameIn g (p.left now g m).2 (p'.left now g m).2 := by
  have marked : p'.aloneSince.contains g = p.aloneSince.contains g := by
    rw [Table.contains, Table.contains, h.alone]
  unfold Presence.left
  rw [Presence.contains, Presence.contains, h.listeners, marked]
  dsimp only
  split
  · split
    · refine ⟨Table.same_erased .., ?_⟩
      dsimp only
      split
      · exact h.alone
      · exact Table.same_inserted ..
    · exact ⟨Table.same_inserted .., h.alone⟩
  · exact h

omit h in
theorem forget_both : SameIn g (p.forget g) (p'.forget g) where
  members := Table.same_erased ..
  alone := Table.same_erased ..

theorem clearAlone_both : SameIn g (p.clearAlone g) (p'.clearAlone g) where
  members := h.members
  alone := Table.same_erased ..

end Presence.SameIn

def Receipt.renumber (ρ : Renumbering) (r : Receipt) : Receipt := { r with entry := ρ.entry r.entry }

def SessionStatus.renumber (ρ : Renumbering) (s : SessionStatus) : SessionStatus :=
  { s with current := s.current.map (Entry.renumber ρ) }

def QueuePage.renumber (ρ : Renumbering) (p : QueuePage) : QueuePage :=
  { p with entries := p.entries.map fun placed => (placed.1, placed.2.renumber ρ) }

/-- What an answer to a request is under other numbers. -/
def Request.renumber (ρ : Renumbering) : {α : Type} → Request α → α → α
  | _, .enqueue .. => Receipt.renumber ρ
  | _, .skip _ | _, .removeAt .. => Entry.renumber ρ
  | _, .removeByRequester .. | _, .queue _ => List.map (Entry.renumber ρ)
  | _, .status _ => SessionStatus.renumber ρ
  | _, .page .. => Option.map (QueuePage.renumber ρ)
  | _, _ => id

/-- What a reply is under other numbers. The counters of the program are left out: they tell of every
guild. -/
def CommandReply.renumber (ρ : Renumbering) : CommandReply → CommandReply
  | enqueued receipt => .enqueued (receipt.renumber ρ)
  | nowPlaying status => .nowPlaying (status.renumber ρ)
  | queue page => .queue (page.map (QueuePage.renumber ρ))
  | removed entries => .removed (entries.map (Entry.renumber ρ))
  | skipped entry => .skipped (entry.renumber ρ)
  | stats _ => .stats {}
  | reply => reply

/-- What matters of a reply: everything but the counters. -/
def CommandReply.uncounted : CommandReply → CommandReply
  | stats _ => .stats {}
  | reply => reply

/-- The request of a command names its guild, and its reply is the answer's under other numbers; or
it asks for the counters. -/
theorem Invocation.renumber_of_plans (ρ : Renumbering) {i : Invocation} {a : Action}
    {p : Plan a.Answer} (plans : i.Plans a p) :
    (p.request.guild? = some i.guild ∧
      ∀ x, (p.reply (p.request.renumber ρ x)).uncounted = (p.reply x).renumber ρ) ∨
    (p.request.guild? = none ∧
      ∀ x y, (p.reply x).uncounted = (p.reply y).renumber ρ) := by
  cases a with
  | play | move | swap | setSetting | resetSetting =>
      obtain ⟨_, _, rfl⟩ := plans
      exact .inl ⟨rfl, fun _ => rfl⟩
  | queue | setRepeat | remove | voteYes | voteNo | voteCancel | setSkipRatio =>
      obtain ⟨_, rfl⟩ := plans
      exact .inl ⟨rfl, fun _ => rfl⟩
  | pause | resume | nowPlaying | removeMine | skip | stop | clearQueue | shuffle | voteSkip
  | voteStop | voteClear | showSettings =>
      subst plans
      exact .inl ⟨rfl, fun _ => rfl⟩
  | stats =>
      subst plans
      exact .inr ⟨rfl, fun _ _ => rfl⟩

/-- Two lists have gone on alike, as the items are under other numbers. -/
def Alongside {ι : Type} (f : ι → ι) (start start' l l' : List ι) : Prop :=
  ∃ more, l = start ++ more ∧ l' = start' ++ more.map f

namespace Alongside

variable {ι : Type} {f : ι → ι} {start start' l l' : List ι}

theorem refl (f : ι → ι) (l l' : List ι) : Alongside f l l' l l' :=
  ⟨[], (List.append_nil l).symm, (List.append_nil l').symm⟩

theorem append (h : Alongside f start start' l l') (more : List ι) :
    Alongside f start start' (l ++ more) (l' ++ more.map f) := by
  obtain ⟨old, rfl, rfl⟩ := h
  exact ⟨old ++ more, List.append_assoc .., by rw [List.map_append, List.append_assoc]⟩

end Alongside

/-- A guild's session made on first use is a new one, and nothing else is touched but the counters. -/
theorem Registry.getOrCreate_parts (r : Registry) (now : Nat) (g : GuildId) :
    (r.getOrCreate now g).2.session? g = some ((r.session? g).getD (.create g now)) ∧
      (r.getOrCreate now g).2.desk.pending = r.desk.pending ∧
      (r.getOrCreate now g).2.backend = r.backend := by
  unfold Registry.getOrCreate Registry.session?
  cases found : r.live.get? g with
  | some slot =>
      refine ⟨?_, rfl, rfl⟩
      dsimp only
      rw [found]
      rfl
  | none => exact ⟨congrArg (Option.map Slot.session) (Table.get?_insert_self _ _ _), rfl, rfl⟩

theorem Echoes.accepted {α : Type} {ρ : Renumbering} {g : GuildId}
    {operation operation' : Backend → Nat → Session → Outcome α}
    (echoes : Echoes ρ g id operation operation') :
    Echoes ρ g id (fun b now session => (operation b now session).accepted)
      fun b now session => (operation' b now session).accepted := by
  intro b b' now session same here
  dsimp only
  rw [echoes b b' now session same here]
  rfl

theorem VoteKind.moot_renumber (ρ : Renumbering) (before after : Session)
    (kind : VoteKind) :
    kind.Moot (before.renumber ρ) (after.renumber ρ) ↔ kind.Moot before after := by
  have loaded : (after.renumber ρ).currentId = (before.renumber ρ).currentId ↔
      after.currentId = before.currentId := by
    rw [Session.renumber_currentId, Session.renumber_currentId]
    exact ρ.map_entry_inj
  have waiting : (after.renumber ρ).queue.isEmpty = after.queue.isEmpty :=
    after.queue.renumber_isEmpty ρ
  cases kind with
  | skip =>
      simp only [VoteKind.Moot, ne_eq, loaded]
      rw [Session.renumber_currentId, Option.isSome_map]
  | stop | clearQueue => simp only [VoteKind.Moot, Session.renumber_isIdle, waiting]

namespace Station

/-- The passed votes of a guild whose action has not run yet. -/
def passedIn (s : Station) (g : GuildId) : List Resolution :=
  s.inFlight.filter fun r => r.key.guild = g

/-- Of a guild a station has the same as another one, under other numbers, and since two earlier
states both have signalled the same about it. -/
structure Mirrors (ρ : Renumbering) (g : GuildId) (start start' s s' : Station) : Prop where
  now : s'.now = s.now
  pageSize : s'.pageSize = s.pageSize
  arrangement : s.arrangement.Mirrors ρ s'.arrangement
  session : s'.session? g = (s.session? g).map (Session.renumber ρ)
  votes : VoteDesk.Mirrors ρ g s.desk s'.desk
  passed : (s'.passedIn g).map Resolution.unticketed = (s.passedIn g).map (Resolution.renumber ρ)
  presence : Presence.SameIn g s.presence s'.presence
  settings : SettingsCache.Agree g s.settings s'.settings
  nextEntry : s'.nextEntry = ρ.entry s.nextEntry
  backend : Backend.Mirrors ρ g s.registry.backend s'.registry.backend
  published : Alongside (Event.renumber ρ) start.published start'.published s.published s'.published
  calls : Alongside (Call.renumber ρ) start.registry.backend.calls start'.registry.backend.calls
    s.registry.backend.calls s'.registry.backend.calls

/-- Two stations answer alike, under other numbers, and have the same of a guild afterwards. -/
structure Answers {β : Type} (ρ : Renumbering) (g : GuildId) (start start' : Station) (f : β → β)
    (a a' : β × Station) : Prop where
  result : a'.1 = f a.1
  station : Mirrors ρ g start start' a.2 a'.2

theorem Answers.map_id {α : Type} {ρ : Renumbering} {g : GuildId} {start start' : Station}
    {a a' : Except PlayerError α × Station} (h : Answers ρ g start start' id a a') :
    Answers ρ g start start' (Except.map id) a a' where
  result := by
    rw [h.result]
    cases a.1 with
    | error | ok => rfl
  station := h.station

end Station

end Jukebox
