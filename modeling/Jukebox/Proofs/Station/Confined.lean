import Jukebox.Proofs.Presence
import Jukebox.Proofs.Session.Addressed
import Jukebox.Proofs.Settings.Faithful
import Jukebox.Proofs.Station.Origin
import Jukebox.Proofs.Station.Service

/-!
What is asked for in one guild stays there. The guilds share one table of sessions, one desk, one
cache and one record of events; all the same an operation that names a guild, carried through with the
actions of the votes that it passes, leaves every other guild as it was and speaks of no other.
-/

namespace Jukebox

/-- The request is about nothing outside of the guild. -/
def Request.Within {α : Type} (q : Request α) (g : GuildId) : Prop :=
  ∀ h, q.guild? = some h → h = g

theorem Request.within_of_guild? {α : Type} {q : Request α} {g : GuildId}
    (named : q.guild? = some g) : q.Within g := by
  intro h same
  rw [named] at same
  exact (Option.some.inj same).symm

theorem Invocation.within_of_plans {i : Invocation} {a : Action} {p : Plan a.Answer}
    (plans : i.Plans a p) : p.request.Within i.guild := by
  cases a with
  | play | move | swap | setSetting | resetSetting =>
      obtain ⟨_, _, rfl⟩ := plans
      exact Request.within_of_guild? rfl
  | queue | setRepeat | remove | voteYes | voteNo | voteCancel | setSkipRatio =>
      obtain ⟨_, rfl⟩ := plans
      exact Request.within_of_guild? rfl
  | pause | resume | nowPlaying | removeMine | skip | stop | clearQueue | shuffle | voteSkip
  | voteStop | voteClear | showSettings =>
      subst plans
      exact Request.within_of_guild? rfl
  | stats =>
      subst plans
      nofun

/-- The list goes on with items that have a property. -/
def Extends {ι : Type} (P : ι → Prop) (l l' : List ι) : Prop :=
  ∃ more, l' = l ++ more ∧ ∀ i ∈ more, P i

namespace Extends

variable {ι : Type} {P : ι → Prop}

theorem refl (l : List ι) : Extends P l l := ⟨[], (List.append_nil l).symm, nofun⟩

theorem trans {l l' l'' : List ι} (first : Extends P l l') (later : Extends P l' l'') :
    Extends P l l'' := by
  obtain ⟨a, rfl, old⟩ := first
  obtain ⟨b, rfl, new⟩ := later
  exact ⟨a ++ b, List.append_assoc l a b, List.forall_mem_append.mpr ⟨old, new⟩⟩

end Extends

namespace Station

/-- A guild has the same session, the same votes with the same ballots, the same listeners, and the
same settings. -/
structure SameIn (g : GuildId) (s s' : Station) : Prop where
  slot : s'.registry.live.get? g = s.registry.live.get? g
  votes : ∀ kind, s'.desk.pending.get? ⟨g, kind⟩ = s.desk.pending.get? ⟨g, kind⟩
  presence : Presence.SameIn g s.presence s'.presence
  settings : SettingsCache.SameIn g s.settings s'.settings

namespace SameIn

variable {g : GuildId}

theorem refl (s : Station) : SameIn g s s := ⟨rfl, fun _ => rfl, .refl _, .refl _⟩

theorem session? {s t : Station} (same : SameIn g s t) : t.session? g = s.session? g :=
  congrArg (Option.map Slot.session) same.slot

theorem trans {s t u : Station} (first : SameIn g s t) (later : SameIn g t u) : SameIn g s u where
  slot := later.slot.trans first.slot
  votes kind := (later.votes kind).trans (first.votes kind)
  presence := first.presence.trans later.presence
  settings := first.settings.trans later.settings

end SameIn

/-- Nothing has changed outside of the guild, and whatever was published, asked of the backend or left
in flight is about the guild. -/
structure Confined (g : GuildId) (s s' : Station) : Prop where
  others : ∀ h, h ≠ g → SameIn h s s'
  published : Extends (fun e => e.guild = g) s.published s'.published
  calls : Extends (fun c => c.guild = g) s.registry.backend.calls s'.registry.backend.calls
  inFlight : Extends (fun r => r.key.guild = g) s.inFlight s'.inFlight

namespace Confined

variable {g : GuildId}

theorem refl (s : Station) : Confined g s s := ⟨fun _ _ => .refl s, .refl _, .refl _, .refl _⟩

theorem trans {s t u : Station} (first : Confined g s t) (later : Confined g t u) :
    Confined g s u where
  others h other := (first.others h other).trans (later.others h other)
  published := first.published.trans later.published
  calls := first.calls.trans later.calls
  inFlight := first.inFlight.trans later.inFlight

theorem count {s s' : Station} (h : Confined g s s') (f : Metrics → Metrics) :
    Confined g s (s'.count f) :=
  h.trans ⟨fun _ _ => ⟨rfl, fun _ => rfl, .refl _, .refl _⟩, .refl _, .refl _, .refl _⟩

/-- Settings and listeners of the guild are looked after apart from everything else. -/
theorem aside {s : Station} {settings : SettingsCache} {presence : Presence}
    (kept : ∀ h, h ≠ g → SettingsCache.SameIn h s.settings settings)
    (heard : ∀ h, h ≠ g → Presence.SameIn h s.presence presence) :
    Confined g s { s with settings, presence } where
  others h other := ⟨rfl, fun _ => rfl, heard h other, kept h other⟩
  published := .refl _
  calls := .refl _
  inFlight := .refl _

theorem settings {s : Station} {settings : SettingsCache}
    (kept : ∀ h, h ≠ g → SettingsCache.SameIn h s.settings settings) :
    Confined g s { s with settings } :=
  aside kept fun _ _ => .refl _

theorem presence {s : Station} {presence : Presence}
    (heard : ∀ h, h ≠ g → Presence.SameIn h s.presence presence) :
    Confined g s { s with presence } :=
  aside (fun _ _ => .refl _) heard

/-- A change of the desk that leaves the votes of other guilds and passes none of theirs. -/
theorem withDesk {s : Station} {desk : VoteDesk} {resolved : List Resolution}
    (votes : ∀ k, k.guild ≠ g → desk.pending.get? k = s.desk.pending.get? k)
    (passed : ∀ r ∈ resolved, r.progress.outcome = .passed → r.key.guild = g) :
    Confined g s (s.withDesk desk resolved) where
  others h other := ⟨rfl, fun kind => votes ⟨h, kind⟩ other, .refl _, .refl _⟩
  published := .refl _
  calls := .refl _
  inFlight := by
    refine ⟨_, rfl, ?_⟩
    intro r member
    obtain ⟨there, isPassed⟩ := List.mem_filter.mp member
    exact passed r there (by simpa [VoteOutcome.isPassed] using isPassed)

section Sessions

variable {s : Station} (grounded : s.registry.Grounded)
include grounded

theorem apply {slot : Slot} (found : s.registry.live.get? g = some slot) {α : Type}
    {operation : Backend → Nat → Session → Outcome (Except PlayerError α)}
    (domestic : Domestic operation) : Confined g s (s.apply slot operation).2 := by
  obtain ⟨ref, guild, _⟩ := grounded.fits g slot found
  have here : (s.outcomeIn slot operation).session.guild = g := by
    rw [outcomeIn, domestic.guild, guild]
  have named : (s.outcomeIn slot operation).signals.Name g := by
    rw [outcomeIn, ← guild]
    exact domestic.signals _ _ _
  refine ⟨?_, ?_, ?_, ?_⟩
  · intro h other
    refine ⟨?_, ?_, ?_, ?_⟩
    · rw [apply_eq, ref]
      exact Table.get?_insert_ne _ other _
    · intro kind
      apply Option.ext
      intro v
      rw [apply_pending s slot operation grounded.keyed, here]
      exact and_iff_left fun moot => other moot.1
    · rw [apply_eq]
      exact .refl _
    · rw [apply_eq]
      exact .refl _
  · rw [apply_eq]
    exact ⟨_, rfl, named.events⟩
  · rw [apply_eq]
    exact ⟨_, rfl, named.calls⟩
  · rw [apply_eq]
    exact .refl _

theorem withSession {α : Type} {operation : Backend → Nat → Session → Outcome (Except PlayerError α)}
    (domestic : Domestic operation) : Confined g s (s.withSession g operation).2 := by
  cases found : s.registry.live.get? g with
  | none =>
      rw [Station.withSession, found]
      exact refl s
  | some slot =>
      rw [withSession_of_found found]
      exact apply grounded found domestic

theorem act {α : Type} {operation : Backend → Nat → Session → Outcome (Except PlayerError α)}
    (a : SessionAct) (session : ∀ b now s, (operation b now s).session = (a.run b now s).session)
    (signals : ∀ b now s, (operation b now s).signals = (a.run b now s).signals) :
    Confined g s (s.withSession g operation).2 :=
  withSession grounded (.of_act a session signals)

theorem tearDown {slot : Slot} (found : s.registry.live.get? g = some slot) :
    Confined g s { s with registry := s.registry.tearDown slot } := by
  obtain ⟨ref, guild, _⟩ := grounded.fits g slot found
  refine ⟨?_, .refl _, ?_, .refl _⟩
  · intro h other
    refine ⟨?_, ?_, .refl _, .refl _⟩
    · change (s.registry.live.erase slot.ref.guild).get? h = _
      rw [ref]
      exact Table.get?_erase_ne _ other
    · intro kind
      apply Option.ext
      intro v
      change (s.registry.desk.cancelAll slot.ref.guild).desk.pending.get? _ = _ ↔ _
      rw [ref, VoteDesk.cancelAll_pending grounded.keyed]
      exact and_iff_left other
  · refine ⟨_, rfl, ?_⟩
    rw [← guild]
    exact slot.session.release_name.calls

theorem evict : Confined g s { s with registry := (s.registry.evict g).2 } := by
  unfold Registry.evict
  cases found : s.registry.live.get? g with
  | none => exact refl s
  | some slot => exact tearDown grounded found

theorem removeGuild : Confined g s (s.removeGuild g).2 :=
  (evict grounded).trans
    (aside (fun _ other => .invalidate _ other) fun _ other => .forget _ other)

omit grounded in
/-- A session made for a guild is the guild's own. -/
theorem prepared {settings : SettingsCache}
    (kept : ∀ h, h ≠ g → SettingsCache.SameIn h s.settings settings) :
    Confined g s (s.prepared g settings) := by
  have live : ∀ h, h ≠ g →
      (s.registry.getOrCreate s.now g).2.live.get? h = s.registry.live.get? h := by
    intro h other
    unfold Registry.getOrCreate
    cases s.registry.live.get? g with
    | none => exact Table.get?_insert_ne _ other _
    | some slot => rfl
  have desk : (s.registry.getOrCreate s.now g).2.desk.pending = s.registry.desk.pending ∧
      (s.registry.getOrCreate s.now g).2.backend = s.registry.backend := by
    unfold Registry.getOrCreate
    cases s.registry.live.get? g with
    | none => exact ⟨rfl, rfl⟩
    | some slot => exact ⟨rfl, rfl⟩
  refine ⟨?_, .refl _, ?_, .refl _⟩
  · intro h other
    refine ⟨live h other, ?_, .refl _, kept h other⟩
    intro kind
    exact congrArg (fun t => t.get? ⟨h, kind⟩) desk.1
  · change Extends _ _ (s.registry.getOrCreate s.now g).2.backend.calls
    rw [desk.2]
    exact .refl _

omit grounded in
theorem domestic_voteAction (r : Resolution) : Domestic (voteAction r) where
  guild b now session := by
    unfold voteAction
    split
    · split
      · exact session.skip_guild b now
      · rfl
    · rfl
    · rfl
  signals b now session := by
    unfold voteAction
    split
    · split
      · exact session.skip_name b now
      · exact .empty
    · exact session.stop_name now
    · exact .event rfl

theorem enqueue (m : MemberId) (track : TrackRef) (metadata : Option TrackMetadata) :
    Confined g s (s.enqueue g m track metadata).2 := by
  have read := s.enqueue_settings g m track metadata
  rcases s.enqueue_cases g m track metadata with
    ⟨e, settings, same⟩ | ⟨settings, capacity, e, _, same⟩
  · rw [same] at read ⊢
    obtain rfl : settings = (s.settings.snapshot g).2 := read
    exact .settings fun _ other => .snapshot _ other
  · rw [same, (Steady.apply _ _ _).settings] at read
    obtain rfl : settings = (s.settings.snapshot g).2 := read
    obtain ⟨grounded', found⟩ := prepared_grounded grounded g (s.settings.snapshot g).2
    rw [same]
    apply (prepared fun _ other => .snapshot _ other).trans
    exact apply grounded' found (.of_act (.enqueue e capacity) (fun _ _ _ => rfl) fun _ _ _ => rfl)

/-- Opening a vote and casting a ballot alike concern the vote under one key. -/
theorem step (key : VoteKey) (step : VoteStep) :
    Confined key.guild s (s.handle (step.request key)).2 := by
  have read : ∀ h, h ≠ key.guild →
      SettingsCache.SameIn h s.settings (s.handle (step.request key)).2.settings := by
    intro h other
    cases step with
    | opens m =>
        rw [VoteStep.request, handle, startVote_settings]
        exact .snapshot _ other
    | casts voter b => exact .refl _
  obtain ⟨settings, o, judged, _, same, others, _⟩ := handle_step grounded key step
  rw [same] at read ⊢
  refine (Confined.settings read).trans (.withDesk ?_ ?_)
  · intro k other
    apply others
    rintro rfl
    exact other rfl
  · intro r member passed
    rw [(judged.of_passed member passed).1]

theorem cancelVote (kind : VoteKind) : Confined g s (s.cancelVote g kind).2 := by
  refine .withDesk ?_ ?_
  · intro k other
    have cancelled := VoteDesk.cancel_pending (d := s.desk) grounded.keyed ⟨g, kind⟩
    rw [cancelled]
    exact Table.get?_erase_ne _ fun same => other (by rw [same])
  · intro r member passed
    rw [VoteDesk.cancel_outcome member] at passed
    cases passed

/-- A request is confined to the guild that it names; one that names none changes nothing. -/
theorem named {α : Type} (q : Request α) :
    q.guild?.elim ((s.handle q).2 = s) fun h => Confined h s (s.handle q).2 := by
  cases q with
  | memberJoined h m => exact .presence fun _ other => .joined _ other m
  | memberLeft h m => exact .presence fun _ other => .left _ other s.now m
  | removeGuild h => exact removeGuild grounded
  | enqueue h m track metadata => exact enqueue grounded m track metadata
  | startVote h kind m => exact step grounded ⟨h, kind⟩ (.opens m)
  | castVote h kind m b => exact step grounded ⟨h, kind⟩ (.casts m b)
  | cancelVote h kind => exact cancelVote grounded kind
  | setSetting h k v => exact .settings fun _ other => .set _ other k v
  | setSkipRatio h ratio => exact .settings fun _ other => .set _ other .skipRatio _
  | settings h => exact .settings fun _ other => .snapshot _ other
  | trackStarted h => exact act grounded .trackStarted (fun _ _ _ => rfl) fun _ _ _ => rfl
  | trackFinished h => exact act grounded .trackFinished (fun _ _ _ => rfl) fun _ _ _ => rfl
  | trackFailed h reason =>
      exact act grounded (.trackFailed reason) (fun _ _ _ => rfl) fun _ _ _ => rfl
  | skip h => exact act grounded .skip (fun _ _ _ => rfl) fun _ _ _ => rfl
  | stop h => exact act grounded .stop (fun _ _ _ => rfl) fun _ _ _ => rfl
  | clearQueue h => exact act grounded .clearQueue (fun _ _ _ => rfl) fun _ _ _ => rfl
  | pause h => exact act grounded .pause (fun _ _ _ => rfl) fun _ _ _ => rfl
  | resume h => exact act grounded .resume (fun _ _ _ => rfl) fun _ _ _ => rfl
  | setRepeat h mode => exact act grounded (.setRepeat mode) (fun _ _ _ => rfl) fun _ _ _ => rfl
  | removeAt h position =>
      exact act grounded (.removeAt position) (fun _ _ _ => rfl) fun _ _ _ => rfl
  | removeByRequester h m =>
      exact act grounded (.removeByRequester m) (fun _ _ _ => rfl) fun _ _ _ => rfl
  | swap h a b => exact act grounded (.swap a b) (fun _ _ _ => rfl) fun _ _ _ => rfl
  | move h source target =>
      exact act grounded (.move source target) (fun _ _ _ => rfl) fun _ _ _ => rfl
  | shuffle h => exact act grounded (.shuffle s.arrangement) (fun _ _ _ => rfl) fun _ _ _ => rfl
  | queue | status | page | voteProgress => exact refl s
  | stats => rfl

theorem handle {α : Type} {q : Request α} (within : q.Within g) : Confined g s (s.handle q).2 := by
  have confined := named grounded q
  cases there : q.guild? with
  | none =>
      rw [there] at confined
      rw [show (s.handle q).2 = s from confined]
      exact refl s
  | some h =>
      rw [there] at confined
      rw [← within h there]
      exact confined

theorem dispatch (i : Invocation) : Confined i.guild s (s.dispatch i).2 := by
  rcases s.dispatch_cases i with ⟨_, _, same⟩ | ⟨_, same⟩ | ⟨spec, p, _, plan, same⟩
  · rw [same]
    exact refl s
  · rw [same]
    exact (refl s).count _
  · rw [same]
    have plans := i.plans_plan spec.action p plan
    exact (handle grounded (Invocation.within_of_plans plans)).count _

theorem foldl_applyVote {passed : List Resolution} (own : ∀ r ∈ passed, r.key.guild = g) :
    Confined g s (passed.foldl applyVote s) := by
  induction passed generalizing s with
  | nil => exact refl s
  | cons r passed ih =>
      obtain ⟨first, later⟩ := List.forall_mem_cons.mp own
      have applied : Confined g s (s.applyVote r) := by
        rw [applyVote, first]
        exact withSession grounded (domestic_voteAction r)
      exact applied.trans (ih ((s.applyVote_moves r).grounded grounded) later)

end Sessions

end Confined

/-- Runs the actions of the votes that have passed since a state, in order. Those that were in flight
already stay there. -/
def complete (s done : Station) : Station :=
  (done.inFlight.drop s.inFlight.length).foldl applyVote { done with inFlight := s.inFlight }

theorem Confined.complete {g : GuildId} {s done : Station} (h : Confined g s done)
    (grounded : done.registry.Grounded) : Confined g s (s.complete done) := by
  obtain ⟨passed, inFlight, own⟩ := h.inFlight
  have taken : Confined g s { done with inFlight := s.inFlight } :=
    ⟨fun i other => ⟨(h.others i other).slot, (h.others i other).votes, (h.others i other).presence,
      (h.others i other).settings⟩, h.published, h.calls, .refl _⟩
  rw [Station.complete, inFlight, List.drop_left]
  exact taken.trans (foldl_applyVote (s := { done with inFlight := s.inFlight }) grounded own)

theorem on_terms {s : Station} (grounded : s.registry.Grounded) {o : Occurrence} {k : VoteKey}
    {v : Vote} (there : (s.on o).desk.pending.get? k = some v) :
    (∃ u, s.desk.pending.get? k = some u ∧ u.SameTerms v) ∨ s.OpenedIn k v := by
  cases o with
  | act a => exact next_terms grounded a there
  | command i =>
      have old (here : s.desk.pending.get? k = some v) :
          (∃ u, s.desk.pending.get? k = some u ∧ u.SameTerms v) ∨ s.OpenedIn k v :=
        .inl ⟨v, here, .refl v⟩
      rw [on] at there
      rcases s.dispatch_cases i with ⟨_, _, same⟩ | ⟨_, same⟩ | ⟨_, p, _, _, same⟩
      · rw [same] at there
        exact old there
      · rw [same] at there
        exact old there
      · rw [same] at there
        change (s.handle p.request).2.desk.pending.get? k = some v at there
        exact next_terms grounded (.ask p.request) there

/-- A vote that is pending in the end was pending at first, or something on the way has opened it; its
terms are still those. -/
theorem through_terms {s : Station} (grounded : s.registry.Grounded) {os : List Occurrence}
    {k : VoteKey} {v : Vote} (there : (s.through os).desk.pending.get? k = some v) :
    (∃ u, s.desk.pending.get? k = some u ∧ u.SameTerms v) ∨
      ∃ before o later u, os = before ++ o :: later ∧ (s.through before).OpenedIn k u ∧
        ((s.through before).on o).desk.pending.get? k = some u ∧ u.SameTerms v := by
  -- Forwards along the run: what its rest has not opened was there after the first occurrence.
  induction os generalizing s with
  | nil => exact .inl ⟨v, there, .refl v⟩
  | cons o os ih =>
      rcases ih (on_grounded grounded o) there with ⟨u, between, same⟩ |
        ⟨before, p, later, u, rfl, opened⟩
      · rcases on_terms grounded between with ⟨u', first, same'⟩ | opened
        · exact .inl ⟨u', first, same'.trans same⟩
        · exact .inr ⟨[], o, os, u, rfl, opened, between, same⟩
      · exact .inr ⟨o :: before, p, later, u, rfl, opened⟩

/-- In every state that a run can reach, a request or a command that names a guild, carried through
with the actions of the votes that it passes, is confined to that guild. A member who joins or leaves
changes who is listening and nothing else, so a pending vote keeps the eligible members and the
threshold that the listeners and the settings have given it at its opening. -/
theorem confined_to_guild (config : Config) (repository : Repository) (backend : Backend)
    (os : List Occurrence) (g : GuildId) :
    let start := create config repository backend
    let s := start.through os
    (∀ {α : Type} (q : Request α), q.guild? = some g →
      Confined g s (s.complete (s.handle q).2)) ∧
    (∀ i : Invocation, i.guild = g → Confined g s (s.complete (s.dispatch i).2)) ∧
    (∀ m, (s.handle (.memberJoined g m)).2 = { s with presence := (s.presence.joined g m).2 } ∧
      (s.handle (.memberLeft g m)).2 = { s with presence := (s.presence.left s.now g m).2 }) ∧
    ∀ k v, s.desk.pending.get? k = some v →
      ∃ before o later u, os = before ++ o :: later ∧ (start.through before).OpenedIn k u ∧
        ((start.through before).on o).desk.pending.get? k = some u ∧ u.SameTerms v := by
  intro start s
  have empty : start.registry.Grounded := .empty backend
  have grounded : s.registry.Grounded := through_grounded empty os
  refine ⟨?_, ?_, fun _ => ⟨rfl, rfl⟩, ?_⟩
  · intro α q named
    have confined := Confined.handle grounded (Request.within_of_guild? named)
    exact confined.complete (next_grounded grounded (.ask q))
  · rintro i rfl
    exact (Confined.dispatch grounded i).complete (dispatch_grounded grounded i)
  · intro k v pending
    rcases through_terms empty pending with ⟨_, never, _⟩ | opened
    · cases never
    · exact opened

end Station

end Jukebox
