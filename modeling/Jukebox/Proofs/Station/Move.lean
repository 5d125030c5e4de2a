import Mathlib.Logic.Relation
import Jukebox.Proofs.Session.Held
import Jukebox.Proofs.Station.Run

/-!
What happens to a station, move by move. Opening a vote and adding a track are the two acts that
bring something new to it; every other act, however much it does, is a sequence of eight kinds of
moves.
-/

namespace Jukebox

/-- What the program runs on a session without bringing an entry into it. -/
def KeepsEntries {α : Type} (operation : Backend → Nat → Session → Outcome α) : Prop :=
  ∀ b now s, ∃ turns : List Turn, (∀ t ∈ turns, t.act.brings? = none) ∧
    (operation b now s).session = s.after turns

theorem KeepsEntries.of_act {α : Type} {operation : Backend → Nat → Session → Outcome α}
    (a : SessionAct) (old : a.brings? = none)
    (same : ∀ b now s, (operation b now s).session = (a.run b now s).session) :
    KeepsEntries operation := by
  intro b now s
  refine ⟨[⟨a, b, now⟩], ?_, same b now s⟩
  intro t member
  rw [List.mem_singleton.mp member]
  exact old

theorem KeepsEntries.takesTurns {α : Type} {operation : Backend → Nat → Session → Outcome α}
    (h : KeepsEntries operation) : TakesTurns operation := by
  intro b now s
  obtain ⟨turns, _, same⟩ := h b now s
  exact ⟨turns, same⟩

theorem KeepsEntries.held {α : Type} {operation : Backend → Nat → Session → Outcome α}
    (h : KeepsEntries operation) (b : Backend) (now : Nat) (s : Session) :
    (operation b now s).session.held ⊆ s.held := by
  obtain ⟨turns, old, same⟩ := h b now s
  rw [same]
  exact s.after_held old

namespace Station

theorem keepsEntries_voteAction (r : Resolution) : KeepsEntries (voteAction r) := by
  intro b now session
  unfold voteAction
  cases r.key.kind with
  | skip =>
      dsimp only
      split
      · exact ⟨[⟨.skip, b, now⟩], by simp [SessionAct.brings?], rfl⟩
      · exact ⟨[], nofun, rfl⟩
  | stop => exact ⟨[⟨.stop, b, now⟩], by simp [SessionAct.brings?], rfl⟩
  | clearQueue => exact ⟨[⟨.clearQueue, b, now⟩], by simp [SessionAct.brings?], rfl⟩

/-- Nothing changes but what lies outside the sessions and the votes: the settings, the listeners,
the time, the answers of the backend. -/
structure Aside (s s' : Station) : Prop where
  live : s'.registry.live = s.registry.live
  retired : s'.registry.retired = s.registry.retired
  created : s'.registry.created = s.registry.created
  desk : s'.registry.desk = s.registry.desk
  published : s'.published = s.published
  inFlight : s'.inFlight = s.inFlight
  nextEntry : s'.nextEntry = s.nextEntry

inductive Move : Station → Station → Prop
  | works {s : Station} {g : GuildId} {slot : Slot} {α : Type}
      {operation : Backend → Nat → Session → Outcome (Except PlayerError α)} :
      s.registry.live.get? g = some slot → KeepsEntries operation →
      Move s (s.apply slot operation).2
  | makes {s : Station} {g : GuildId} : s.registry.live.get? g = none →
      Move s { s with registry := (s.registry.getOrCreate s.now g).2 }
  | givesUp {s : Station} {g : GuildId} {slot : Slot} : s.registry.live.get? g = some slot →
      Move s { s with registry := s.registry.tearDown slot }
  | casts {s : Station} (key : VoteKey) (voter : MemberId) (b : Ballot) :
      Move s (s.withDesk (s.desk.cast s.now key voter b).desk
        (s.desk.cast s.now key voter b).resolved)
  | cancels {s : Station} (key : VoteKey) :
      Move s (s.withDesk (s.desk.cancel key).desk (s.desk.cancel key).resolved)
  | timesOut {s : Station} (votes : List Vote) :
      Move s (s.withDesk (s.desk.timeOut votes).1 (s.desk.timeOut votes).2)
  | takes {s : Station} {left : List Resolution} : left.Sublist s.inFlight →
      Move s { s with inFlight := left }
  | aside {s s' : Station} : Aside s s' → Move s s'

abbrev Moves : Station → Station → Prop := Relation.ReflTransGen Move

section Acts

variable (s : Station)

theorem withSession_moves {α : Type} (g : GuildId)
    {operation : Backend → Nat → Session → Outcome (Except PlayerError α)}
    (keeps : KeepsEntries operation) : Moves s (s.withSession g operation).2 := by
  unfold withSession
  cases found : s.registry.live.get? g with
  | none => exact .refl
  | some slot => exact .single (.works found keeps)

theorem turn_moves {α : Type} (g : GuildId)
    {operation : Backend → Nat → Session → Outcome (Except PlayerError α)} (a : SessionAct)
    (old : a.brings? = none)
    (same : ∀ b now s, (operation b now s).session = (a.run b now s).session) :
    Moves s (s.withSession g operation).2 :=
  s.withSession_moves g (.of_act a old same)

theorem applyVote_moves (r : Resolution) : Moves s (s.applyVote r) :=
  s.withSession_moves r.key.guild (keepsEntries_voteAction r)

theorem foldl_applyVote_moves (passed : List Resolution) : Moves s (passed.foldl applyVote s) := by
  induction passed generalizing s with
  | nil => exact .refl
  | cons r passed ih => exact (s.applyVote_moves r).trans (ih (s.applyVote r))

theorem settle_moves : Moves s s.settle :=
  .head (.takes (List.nil_sublist _)) (foldl_applyVote_moves { s with inFlight := [] } s.inFlight)

theorem applyAt_moves (place : Nat) : Moves s (s.applyAt place) := by
  unfold applyAt
  split
  · exact .refl
  · next r _ =>
      exact .head (.takes (List.eraseIdx_sublist _ _))
        (applyVote_moves { s with inFlight := s.inFlight.eraseIdx place } r)

theorem getOrCreate_moves (g : GuildId) :
    Moves s { s with registry := (s.registry.getOrCreate s.now g).2 } := by
  cases found : s.registry.live.get? g with
  | none => exact .single (.makes found)
  | some slot =>
      simp only [Registry.getOrCreate, found]
      exact .refl

theorem evict_moves (g : GuildId) : Moves s { s with registry := (s.registry.evict g).2 } := by
  unfold Registry.evict
  cases found : s.registry.live.get? g with
  | none => exact .refl
  | some slot => exact .single (.givesUp found)

theorem evictIfIdle_moves (g : GuildId) (threshold : Nat) :
    Moves s { s with registry := (s.registry.evictIfIdle s.now g threshold).2 } := by
  unfold Registry.evictIfIdle
  cases found : s.registry.live.get? g with
  | none => exact .refl
  | some slot =>
      dsimp only
      split
      · exact .single (.givesUp found)
      · exact .refl

theorem removeGuild_moves (g : GuildId) : Moves s (s.removeGuild g).2 :=
  (s.evict_moves g).tail (.aside ⟨rfl, rfl, rfl, rfl, rfl, rfl, rfl⟩)

theorem sweepGuild_moves (g : GuildId) : Moves s (s.sweepGuild g).2 := by
  unfold sweepGuild
  split
  · exact (s.evict_moves g).tail (.aside ⟨rfl, rfl, rfl, rfl, rfl, rfl, rfl⟩)
  · exact s.evictIfIdle_moves g _

theorem sweepGuilds_moves (guilds : List GuildId) : Moves s (s.sweepGuilds guilds).2 := by
  induction guilds generalizing s with
  | nil => exact .refl
  | cons g guilds ih => exact (s.sweepGuild_moves g).trans (ih (s.sweepGuild g).2)

theorem startSweeper_moves (period : Nat) : Moves s (s.startSweeper period) :=
  (s.sweepGuilds_moves s.registry.guilds).tail (.aside ⟨rfl, rfl, rfl, rfl, rfl, rfl, rfl⟩)

theorem expireVotes_moves : Moves s s.expireVotes := .single (.timesOut (s.desk.overdue s.now))

theorem sweepIfDue_moves : Moves s s.sweepIfDue := by
  unfold sweepIfDue
  split
  · exact .refl
  · next w _ =>
      split
      · exact .head (.timesOut _) (startSweeper_moves _ w.period)
      · exact .refl

theorem passMoment_moves (moment : Nat) : Moves s (s.passMoment moment) := by
  have first : Moves s { s with now := moment } := .single (.aside ⟨rfl, rfl, rfl, rfl, rfl, rfl, rfl⟩)
  exact (first.trans (sweepIfDue_moves { s with now := moment })).trans (expireVotes_moves _)

theorem foldl_passMoment_moves (moments : List Nat) : Moves s (moments.foldl passMoment s) := by
  induction moments generalizing s with
  | nil => exact .refl
  | cons moment moments ih => exact (s.passMoment_moves moment).trans (ih (s.passMoment moment))

theorem advance_moves (duration : Nat) : Moves s (s.advance duration) :=
  (s.foldl_passMoment_moves _).tail (.aside ⟨rfl, rfl, rfl, rfl, rfl, rfl, rfl⟩)

/-- Opening a vote and adding a track apart, an act is a sequence of moves. -/
theorem next_cases (a : StationAct) :
    (∃ g kind m, a = .ask (.startVote g kind m)) ∨
    (∃ g m track metadata, a = .ask (.enqueue g m track metadata)) ∨
    Moves s (s.next a) := by
  cases a with
  | ask q =>
      cases q with
      | startVote g kind m => exact .inl ⟨g, kind, m, rfl⟩
      | enqueue g m track metadata => exact .inr (.inl ⟨g, m, track, metadata, rfl⟩)
      | castVote g kind m b => exact .inr (.inr (.single (.casts ⟨g, kind⟩ m b)))
      | cancelVote g kind => exact .inr (.inr (.single (.cancels ⟨g, kind⟩)))
      | removeGuild g => exact .inr (.inr (s.removeGuild_moves g))
      | trackStarted g => exact .inr (.inr (s.turn_moves g .trackStarted rfl fun _ _ _ => rfl))
      | trackFinished g => exact .inr (.inr (s.turn_moves g .trackFinished rfl fun _ _ _ => rfl))
      | trackFailed g reason =>
          exact .inr (.inr (s.turn_moves g (.trackFailed reason) rfl fun _ _ _ => rfl))
      | skip g => exact .inr (.inr (s.turn_moves g .skip rfl fun _ _ _ => rfl))
      | stop g => exact .inr (.inr (s.turn_moves g .stop rfl fun _ _ _ => rfl))
      | clearQueue g => exact .inr (.inr (s.turn_moves g .clearQueue rfl fun _ _ _ => rfl))
      | pause g => exact .inr (.inr (s.turn_moves g .pause rfl fun _ _ _ => rfl))
      | resume g => exact .inr (.inr (s.turn_moves g .resume rfl fun _ _ _ => rfl))
      | setRepeat g mode =>
          exact .inr (.inr (s.turn_moves g (.setRepeat mode) rfl fun _ _ _ => rfl))
      | removeAt g position =>
          exact .inr (.inr (s.turn_moves g (.removeAt position) rfl fun _ _ _ => rfl))
      | removeByRequester g m =>
          exact .inr (.inr (s.turn_moves g (.removeByRequester m) rfl fun _ _ _ => rfl))
      | swap g a b => exact .inr (.inr (s.turn_moves g (.swap a b) rfl fun _ _ _ => rfl))
      | move g source target =>
          exact .inr (.inr (s.turn_moves g (.move source target) rfl fun _ _ _ => rfl))
      | shuffle g => exact .inr (.inr (s.turn_moves g (.shuffle s.arrangement) rfl fun _ _ _ => rfl))
      | memberJoined | memberLeft | setSetting | setSkipRatio | settings =>
          exact .inr (.inr (.single (.aside ⟨rfl, rfl, rfl, rfl, rfl, rfl, rfl⟩)))
      | queue | status | page | voteProgress | stats => exact .inr (.inr .refl)
  | apply place => exact .inr (.inr (s.applyAt_moves place))
  | settle => exact .inr (.inr s.settle_moves)
  | sweep guilds => exact .inr (.inr (s.sweepGuilds_moves guilds))
  | startSweeper period => exact .inr (.inr (s.startSweeper_moves period))
  | advance duration => exact .inr (.inr (s.advance_moves duration))
  | expireVotes => exact .inr (.inr s.expireVotes_moves)
  | refuse | stopSweeper | lag | store | arrange =>
      exact .inr (.inr (.single (.aside ⟨rfl, rfl, rfl, rfl, rfl, rfl, rfl⟩)))

/-- A vote is refused and nothing changes but the settings, or the desk is asked to open one on
what the live session has. -/
theorem startVote_cases (g : GuildId) (kind : VoteKind) (m : MemberId) :
    (∃ e settings, s.startVote g kind m = (.error e, { s with settings })) ∨
    ∃ settings slot q, s.registry.live.get? g = some slot ∧ q.guild = g ∧ q.kind = kind ∧
      voteTarget kind slot.session = .ok q.target ∧
      s.startVote g kind m =
        ((s.desk.start s.now q).result,
          { s with settings }.withDesk (s.desk.start s.now q).desk
            (s.desk.start s.now q).resolved) := by
  unfold startVote
  split
  · next e settings _ => exact .inl ⟨e, settings, rfl⟩
  · next effective settings _ =>
      dsimp only
      split
      · next e _ => exact .inl ⟨e, settings, rfl⟩
      · next target open_ =>
          cases found : s.registry.live.get? g with
          | none => simp [viewSession, session?, Registry.session?, found, Except.bind] at open_
          | some slot =>
              simp only [viewSession, session?, Registry.session?, found, Option.map_some,
                Except.bind] at open_
              exact .inr ⟨settings, slot, _, rfl, rfl, rfl, open_, rfl⟩

/-- The station with a session for a guild, made on first use, and an entry id used up. -/
def prepared (g : GuildId) (settings : SettingsCache) : Station :=
  { s with
    settings
    registry := (s.registry.getOrCreate s.now g).2
    nextEntry := s.nextEntry.next }

/-- A track is refused for want of settings, or it goes to the guild's session, made on first
use, under the next entry id. -/
theorem enqueue_cases (g : GuildId) (m : MemberId) (track : TrackRef)
    (metadata : Option TrackMetadata) :
    (∃ e settings, s.enqueue g m track metadata = (.error e, { s with settings })) ∨
    ∃ settings capacity e, e.id = s.nextEntry ∧
      (s.enqueue g m track metadata).2 =
        ((s.prepared g settings).apply (s.registry.getOrCreate s.now g).1
          (Session.enqueue e capacity)).2 := by
  unfold enqueue
  split
  · next e settings _ => exact .inl ⟨e, settings, rfl⟩
  · next effective settings _ => exact .inr ⟨settings, effective.maxQueueSize, _, rfl, rfl⟩

end Acts

end Station

end Jukebox
