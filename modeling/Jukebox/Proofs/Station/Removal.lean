import Jukebox.Proofs.Registry.Eviction
import Jukebox.Proofs.Station.Gauges
import Jukebox.Proofs.Station.Renumbered
import Jukebox.Proofs.Station.Warm

/-!
Leaving a guild. Nothing of the guild stays behind, except for its row in the store and for the votes
that have passed and whose action has not run yet. So whatever happens in the guild afterwards happens
as in a new program over the same store in which these votes are about to run as well.
-/

namespace Jukebox

/-- Something that happens in a guild, to a station and to another one with other numbers. -/
inductive Errand (g : GuildId) : Type 1
  | ask {α : Type} (q : Request α) (named : q.guild? = some g)
  | command (i : Invocation) (given : i.guild = g)
  /-- The action of one of the passed votes of the guild runs, whichever place it has among them. -/
  | apply (place : Nat)
  | sweep
  /-- Time passes before anything that is due gets to happen. -/
  | lag (duration : Nat)
  | expireVotes
  /-- The stored settings were changed from outside, or stop to be available. -/
  | store (repository : Repository)
  /-- From now on the backend gives other answers, each station's backend its own. -/
  | refuse (refusal refusal' : List Call → GuildId → Entry → Option PlayerError)
  /-- The next shuffles rearrange in another way, each station's in its own. -/
  | arrange (arrangement arrangement' : Arrangement)

namespace Errand

variable {g : GuildId}

/-- What an errand is to the first station, or to the one with other numbers. -/
def occurrence (renewed : Bool) (s : Station) : Errand g → Occurrence
  | ask q _ => .act (.ask q)
  | command i _ => .command i
  | apply place => .act (.apply (Station.seat g s.inFlight place))
  | sweep => .act (.sweep [g])
  | lag duration => .act (.lag duration)
  | expireVotes => .act .expireVotes
  | store repository => .act (.store repository)
  | refuse refusal refusal' => .act (.refuse (if renewed then refusal' else refusal))
  | arrange arrangement arrangement' => .act (.arrange (if renewed then arrangement' else arrangement))

/-- What each station has of its own does the same to both. -/
def Fair (ρ : Renumbering) : Errand g → Prop
  | refuse refusal refusal' =>
    ∀ calls calls' e, refusal' calls' g (e.renumber ρ) = refusal calls g e
  | arrange arrangement arrangement' => arrangement.Mirrors ρ arrangement'
  | _ => True

end Errand

namespace Station

variable {g : GuildId}

def run (renewed : Bool) (s : Station) : List (Errand g) → Station
  | [] => s
  | e :: es => (s.on (e.occurrence renewed s)).run renewed es

theorem run_grounded {s : Station} (h : s.registry.Grounded) (renewed : Bool)
    (es : List (Errand g)) : (s.run renewed es).registry.Grounded := by
  induction es generalizing s with
  | nil => exact h
  | cons e es ih => exact ih (on_grounded h _)

namespace Mirrors

variable {ρ : Renumbering} {start start' s s' : Station} (h : Mirrors ρ g start start' s s')
  (grounded : s.registry.Grounded) (grounded' : s'.registry.Grounded)
include h grounded grounded'

theorem on {e : Errand g} (fair : e.Fair ρ) :
    Mirrors ρ g start start' (s.on (e.occurrence false s)) (s'.on (e.occurrence true s')) := by
  cases e with
  | ask q named => exact (h.handle grounded grounded' named).station
  | command i given => exact (h.dispatch grounded grounded' given).2
  | apply place => exact h.applyAt grounded grounded' place
  | sweep => exact (h.sweepGuild grounded grounded').station
  | lag duration => exact { h with now := congrArg (· + duration) h.now }
  | expireVotes => exact h.expireVotes grounded grounded'
  | refuse refusal refusal' =>
      exact { h with backend := ⟨h.backend.nextHandle, fun _ _ => fair _ _ _⟩ }
  | store repository => exact { h with settings := h.settings.keeping repository }
  | arrange arrangement arrangement' => exact { h with arrangement := fair }

/-- Whatever happens in the guild, both stations have the same of it in the end. -/
theorem run {es : List (Errand g)} (fair : ∀ e ∈ es, e.Fair ρ) :
    Mirrors ρ g start start' (s.run false es) (s'.run true es) := by
  induction es generalizing s s' with
  | nil => exact h
  | cons e es ih =>
      obtain ⟨first, later⟩ := List.forall_mem_cons.mp fair
      exact ih (h.on grounded grounded' first) (on_grounded grounded _) (on_grounded grounded' _) later

end Mirrors

/-- Of a guild that the program has left nothing stays but its row in the store and the votes that have
passed already; nothing else is touched, and the gauges no longer show what waited in the guild. -/
structure Removed (g : GuildId) (s : Station) (had : Bool) (s' : Station) : Prop where
  told : had = (s.session? g).isSome
  session : s'.session? g = none
  votes : ∀ kind, s'.desk.pending.get? ⟨g, kind⟩ = none
  members : s'.presence.members.get? g = none
  alone : s'.presence.aloneSince.get? g = none
  cached : s'.settings.cached? g = none
  repository : s'.settings.repository = s.settings.repository
  inFlight : s'.inFlight = s.inFlight
  others : Confined g s s'
  queued : s'.metrics.queuedTracks + s.registry.waitingOf g = s.metrics.queuedTracks
  active : s'.metrics.activeSessions + Bool.toNat had = s.metrics.activeSessions

/-- No vote outlives the session that it is about, so a guild without one has none. -/
theorem votes_of_no_session {s : Station} (grounded : s.registry.Grounded)
    (none_ : s.registry.live.get? g = none) (kind : VoteKind) :
    s.desk.pending.get? ⟨g, kind⟩ = none := by
  cases pending : s.desk.pending.get? ⟨g, kind⟩ with
  | none => rfl
  | some v =>
      obtain ⟨slot, found, _⟩ := grounded.supported ⟨g, kind⟩ v pending
      rw [none_] at found
      cases found

theorem removed {s : Station} (grounded : s.registry.Grounded) (balanced : s.Balanced) (g : GuildId) :
    Removed g s (s.removeGuild g).1 (s.removeGuild g).2 := by
  have others := Confined.removeGuild (g := g) grounded
  have grounded' : (s.removeGuild g).2.registry.Grounded := next_grounded grounded (.ask (.removeGuild g))
  have members : (s.presence.forget g).members.get? g = none := Table.get?_erase_self _ _
  have alone : (s.presence.forget g).aloneSince.get? g = none := Table.get?_erase_self _ _
  have cached : (s.settings.invalidate g).cached? g = none := Table.get?_erase_self _ _
  cases found : s.registry.live.get? g with
  | none =>
      have nothing : s.registry.evict g = (false, s.registry) := by rw [Registry.evict, found]
      have missing : s.registry.session? g = none := congrArg (Option.map Slot.session) found
      have waiting : s.registry.waitingOf g = 0 := by
        rw [Registry.waitingOf, missing]
        rfl
      have had : false = (s.registry.session? g).isSome := by
        rw [missing]
        rfl
      revert others grounded'
      unfold removeGuild
      rw [nothing]
      intro others grounded'
      exact
        { told := had, session := missing, members, alone, cached, others
          votes := votes_of_no_session grounded' found
          repository := rfl
          inFlight := rfl
          queued := by rw [waiting]; rfl
          active := rfl }
  | some slot =>
      have nothing : s.registry.evict g = (true, s.registry.without [g]) := by
        rw [Registry.evict, found, ← Registry.tearDown_eq grounded found]
      have waiting : slot.session.queue.length = s.registry.waitingOf g := by
        rw [Registry.waitingOf, Registry.session?, found]
        rfl
      have unclamped := balanced.unclamped found
      rw [waiting] at unclamped
      have gone : (s.registry.without [g]).live.get? g = none := Table.get?_erase_self _ _
      have had : true = (s.registry.session? g).isSome := by
        rw [Registry.session?, found]
        rfl
      revert others grounded'
      unfold removeGuild
      rw [nothing]
      intro others grounded'
      exact
        { told := had, members, alone, cached, others
          session := congrArg (Option.map Slot.session) gone
          votes := votes_of_no_session grounded' gone
          repository := rfl
          inFlight := rfl
          queued := unclamped.evicted
          active := unclamped.gone }

theorem through_balanced {s : Station} (grounded : s.registry.Grounded) (h : s.Balanced)
    (os : List Occurrence) : (s.through os).Balanced := by
  induction os generalizing s with
  | nil => exact h
  | cons o os ih =>
      apply ih (on_grounded grounded o)
      cases o with
      | act a => exact kept_balanced.next grounded h a
      | command i =>
          rw [on]
          exact dispatch_keeps h (fun q => kept_balanced.next grounded h (.ask q))
            (fun _ kept => ⟨kept.queued, kept.active, kept.created, kept.failures⟩) i

/-- The numbers that a new station gives, for those that an old one goes on with. -/
def freshNumbers (s : Station) (backend : Backend) : Renumbering :=
  .between s.nextEntry ⟨1⟩ s.registry.backend.nextHandle backend.nextHandle

/-- A new station over the same store, at the same time. All that it has of the old one are the passed
votes of a guild whose action has not run yet. -/
def renewed (s : Station) (g : GuildId) (config : Config) (backend : Backend)
    (arrangement : Arrangement) : Station :=
  { create config s.settings.repository backend with
    now := s.now
    arrangement
    inFlight := (s.passedIn g).map (Resolution.renumber (s.freshNumbers backend)) }

theorem renewed_passedIn (s : Station) (g : GuildId) (config : Config) (backend : Backend)
    (arrangement : Arrangement) :
    ((s.renewed g config backend arrangement).passedIn g).map Resolution.unticketed =
      (s.passedIn g).map (Resolution.renumber (s.freshNumbers backend)) := by
  have own : (s.renewed g config backend arrangement).passedIn g =
      (s.renewed g config backend arrangement).inFlight := by
    apply List.filter_eq_self.mpr
    intro r member
    obtain ⟨r, old, rfl⟩ := List.mem_map.mp member
    exact (List.mem_filter.mp old).2
  rw [own]
  exact List.map_map

/-- Of a guild that was left the new station has what the old one has: nothing but the passed votes. -/
theorem Removed.renewed {s left : Station} {had : Bool} (gone : Removed g s had left) {config : Config}
    (pageSize : left.pageSize = max config.pageSize 1)
    (defaults : left.settings.defaults = config.defaults) {backend : Backend}
    {arrangement : Arrangement}
    (refuses : Backend.RefusesAs (left.freshNumbers backend) g left.registry.backend backend)
    (arranges : left.arrangement.Mirrors (left.freshNumbers backend) arrangement) :
    Mirrors (left.freshNumbers backend) g left (left.renewed g config backend arrangement) left
      (left.renewed g config backend arrangement) where
  now := rfl
  pageSize := pageSize.symm
  arrangement := arranges
  session := by
    rw [gone.session]
    rfl
  votes kind := by
    rw [gone.votes kind]
    trivial
  passed := left.renewed_passedIn g config backend arrangement
  presence := ⟨gone.members.symm, gone.alone.symm⟩
  settings := ⟨rfl, defaults.symm, gone.cached.symm⟩
  nextEntry := (Renumbering.between_entry ..).symm
  backend := ⟨(Renumbering.between_stream ..).symm, refuses⟩
  published := .refl _ _ _
  calls := .refl _ _ _

/-- In every state that a run can reach, leaving a guild leaves nothing of it but its row in the store
and the votes that have passed already, and it touches no other guild. Whatever happens in the guild
afterwards happens alike in a new program over the same store, to which these votes were handed if
there are any: every request and every command about the guild has the same answer and every sweep of
it does the same, and the events and the calls to the backend are the same, all but for the numbers of
entries and streams and for the counters. -/
theorem removed_as_new {config : Config} {repository : Repository} {backend : Backend}
    {os : List Occurrence} {s : Station} (reached : (create config repository backend).through os = s)
    (g : GuildId) :
    let left := (s.removeGuild g).2
    Removed g s (s.removeGuild g).1 left ∧
    ∀ (backend' : Backend) (arrangement' : Arrangement),
      let ρ := left.freshNumbers backend'
      let new := left.renewed g config backend' arrangement'
      (left.passedIn g = [] → new =
        { create config left.settings.repository backend' with
          now := left.now
          arrangement := arrangement' }) ∧
      (Backend.RefusesAs ρ g left.registry.backend backend' →
      left.arrangement.Mirrors ρ arrangement' →
      ∀ es : List (Errand g), (∀ e ∈ es, e.Fair ρ) →
        let old' := left.run false es
        let new' := new.run true es
        Mirrors ρ g left new old' new' ∧
        (∀ {α : Type} (q : Request α), q.guild? = some g →
          (new'.handle q).1 = (old'.handle q).1.map (q.renumber ρ)) ∧
        (∀ i : Invocation, i.guild = g →
          (new'.dispatch i).1.map CommandReply.uncounted =
            (old'.dispatch i).1.map (CommandReply.renumber ρ)) ∧
        (new'.sweepGuild g).1 = (old'.sweepGuild g).1) := by
  intro left
  subst reached
  have empty : (create config repository backend).registry.Grounded := .empty backend
  have grounded := through_grounded empty os
  have balanced := through_balanced empty (.create config repository backend) os
  have gone : Removed g _ _ left := removed grounded balanced g
  refine ⟨gone, ?_⟩
  intro backend' arrangement' ρ new
  refine ⟨fun none_ => by simp only [new, renewed, none_, List.map_nil]; rfl, ?_⟩
  intro refuses arrangement es fair old' new'
  have started : Mirrors ρ g left new left new :=
    gone.renewed (through_pageSize _ os) (through_defaults _ os) refuses arrangement
  have leftGrounded : left.registry.Grounded := next_grounded grounded (.ask (.removeGuild g))
  have newGrounded : new.registry.Grounded := .empty backend'
  have same : Mirrors ρ g left new old' new' := started.run leftGrounded newGrounded fair
  have sound : old'.registry.Grounded := run_grounded leftGrounded false es
  have sound' : new'.registry.Grounded := run_grounded newGrounded true es
  exact ⟨same, fun q named => (same.handle sound sound' named).result,
    fun i given => (same.dispatch sound sound' given).1, (same.sweepGuild sound sound').result⟩

theorem removeGuild_refusal (s : Station) (g : GuildId) :
    (s.removeGuild g).2.registry.backend.refusal = s.registry.backend.refusal := by
  unfold removeGuild Registry.evict
  cases s.registry.live.get? g with
  | none | some => rfl

/-- A vote to stop has passed when the guild is left. The guild comes back, a track is refused, others
play, the queue is shuffled, and then the vote takes its effect. -/
theorem removed_as_new_before_passed_vote :
    let g : GuildId := ⟨1⟩
    let m : MemberId := ⟨1⟩
    let play (url : String) : Request Receipt := .enqueue g m ⟨url⟩ none
    let reversed : Arrangement := ⟨List.reverse, fun l => l.reverse_perm⟩
    let refusal : List Call → GuildId → Entry → Option PlayerError :=
      fun _ _ e => if e.track.url = "x" then some (.load "gone") else none
    let s := (create {} {} { nextHandle := ⟨1⟩ }).through
      [.act (.ask (.memberJoined g m)), .act (.ask (play "a")), .act (.ask (play "b")),
        .act (.ask (.startVote g .stop m)), .act (.refuse refusal), .act (.arrange reversed)]
    let left := (s.removeGuild g).2
    let backend : Backend := { nextHandle := ⟨1⟩, refusal }
    let ρ := left.freshNumbers backend
    let new := left.renewed g {} backend reversed
    let es : List (Errand g) :=
      [.ask (play "x") rfl, .ask (play "c") rfl, .ask (play "d") rfl, .ask (play "e") rfl,
        .ask (.shuffle g) rfl]
    let queueIn (t : Station) : Except PlayerError (List (UInt64 × String)) :=
      (t.queueOf g).map fun l => l.map fun e => (e.id.val, e.track.url)
    let statusIn (t : Station) : Except PlayerError PlaybackStatus :=
      (t.statusOf g).map fun status => status.status
    (s.removeGuild g).1 = true ∧ (left.passedIn g).length = 1 ∧
      Mirrors ρ g left new (left.run false es) (new.run true es) ∧
      queueIn (left.run false es) = .ok [(6, "e"), (5, "d")] ∧
      queueIn (new.run true es) = .ok [(4, "e"), (3, "d")] ∧
      Mirrors ρ g left new (left.run false (es ++ [.apply 0])) (new.run true (es ++ [.apply 0])) ∧
      statusIn (left.run false (es ++ [.apply 0])) = .ok .idle ∧
      statusIn (new.run true (es ++ [.apply 0])) = .ok .idle := by
  intro g m play reversed refusal s left backend ρ new es queueIn statusIn
  have told : (s.removeGuild g).1 = true := by decide +kernel
  have waiting : (left.passedIn g).length = 1 := by decide +kernel
  have goesOn : queueIn (left.run false es) = .ok [(6, "e"), (5, "d")] := by decide +kernel
  have starts : queueIn (new.run true es) = .ok [(4, "e"), (3, "d")] := by decide +kernel
  have stops : statusIn (left.run false (es ++ [.apply 0])) = .ok .idle := by decide +kernel
  have stops' : statusIn (new.run true (es ++ [.apply 0])) = .ok .idle := by decide +kernel
  have reached : (create {} {} { nextHandle := ⟨1⟩ }).through
      [.act (.ask (.memberJoined g m)), .act (.ask (play "a")), .act (.ask (play "b")),
        .act (.ask (.startVote g .stop m)), .act (.refuse refusal), .act (.arrange reversed)] = s := rfl
  have refusing : s.registry.backend.refusal = refusal := rfl
  have arranged : s.arrangement = reversed := rfl
  -- What follows holds of the state because it is reached; nothing is computed any more.
  clear_value s
  have refuses : Backend.RefusesAs ρ g left.registry.backend backend := by
    have same : left.registry.backend.refusal = refusal := (s.removeGuild_refusal g).trans refusing
    intro later e
    rw [same]
    exact congrArg (fun track : TrackRef => if track.url = "x" then _ else _) (e.renumber_track ρ)
  have arrangement : left.arrangement.Mirrors ρ reversed := by
    have same : left.arrangement = reversed := arranged
    rw [same]
    exact fun l => List.map_reverse.symm
  obtain ⟨_, anew⟩ := removed_as_new reached g
  have fair : ∀ e ∈ es ++ [.apply 0], e.Fair ρ := by
    simp [es, Errand.Fair]
  obtain ⟨before, _⟩ := (anew backend reversed).2 refuses arrangement es
    fun e member => fair e (List.mem_append_left _ member)
  obtain ⟨after_, _⟩ := (anew backend reversed).2 refuses arrangement (es ++ [.apply 0]) fair
  exact ⟨told, waiting, before, goesOn, starts, after_, stops, stops'⟩

/-- The passed vote takes its effect on whatever session the guild has by then. In a new program to
which it was not handed the track goes on playing. -/
theorem passed_vote_outlives_removal :
    let g : GuildId := ⟨1⟩
    let m : MemberId := ⟨1⟩
    let play (url : String) : Occurrence := .act (.ask (.enqueue g m ⟨url⟩ none))
    let s := (create {} {} { nextHandle := ⟨1⟩ }).through
      [.act (.ask (.memberJoined g m)), play "a", .act (.ask (.startVote g .stop m))]
    let left := (s.removeGuild g).2
    let new := create {} left.settings.repository { nextHandle := ⟨1⟩ }
    let statusIn (t : Station) := (t.statusOf g).map fun status => status.status
    statusIn (left.through [play "b", .act .settle]) = .ok .idle ∧
      statusIn (new.through [play "b", .act .settle]) = .ok .playing := by
  decide +kernel

end Station

end Jukebox
