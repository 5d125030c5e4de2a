import Jukebox.Proofs.Session.Frame
import Jukebox.Proofs.Session.Passage

/-!
The stream that the backend serves, as its calls alone tell, is the one that the session believes in.
The session runs against a backend that keeps its calls and may refuse anything at any time.
-/

namespace Jukebox

/-- A stream of the backend, and the entry it was started for. -/
structure Stream where
  handle : StreamHandle
  entry : EntryId
  paused : Bool
deriving DecidableEq, Repr

def Stream.status? : Option Stream → PlaybackStatus
  | none => .idle
  | some x => if x.paused then .paused else .playing

/-- Follows the calls: what stream there is, and which calls make sense for it. -/
def transport : Reader (Option Stream) Call where
  hear
    | _, .play _ e handle => some ⟨handle, e, false⟩
    | k, .refuse _ _ => k
    | k, .pause _ => k.map fun x => { x with paused := true }
    | k, .resume _ => k.map fun x => { x with paused := false }
    | _, .stop _ => none
  admits
    | k, .pause _ => ∃ x, k = some x ∧ x.paused = false
    | k, .resume _ => ∃ x, k = some x ∧ x.paused = true
    | k, .stop _ => k.isSome
    | _, _ => True

/-- The stream is that of a player. -/
structure Deck.Served (d : Deck) (k : Option Stream) : Prop where
  status : Stream.status? k = d.status
  handle : k.map (·.handle) = d.stream
  entry : k.map (·.entry) = d.current.map (·.id)

namespace Deck

theorem served_empty : ({} : Deck).Served none := ⟨rfl, rfl, rfl⟩

theorem Served.isSome {d : Deck} {k : Option Stream} (h : d.Served k) :
    k.isSome = d.current.isSome := by
  have same := congrArg Option.isSome h.entry
  simpa only [Option.isSome_map] using same

theorem Served.of_playing {d : Deck} {k : Option Stream} (h : d.Served k)
    (playing : d.status = .playing) : ∃ x, k = some x ∧ x.paused = false := by
  have status := h.status.trans playing
  cases k with
  | none => cases status
  | some x =>
      refine ⟨x, rfl, ?_⟩
      cases paused : x.paused with
      | false => rfl
      | true => simp [Stream.status?, paused] at status

theorem Served.of_paused {d : Deck} {k : Option Stream} (h : d.Served k)
    (paused : d.status = .paused) : ∃ x, k = some x ∧ x.paused = true := by
  have status := h.status.trans paused
  cases k with
  | none => cases status
  | some x =>
      refine ⟨x, rfl, ?_⟩
      cases playing : x.paused with
      | true => rfl
      | false => simp [Stream.status?, playing] at status

end Deck

/-- A refusal tells nothing about the stream. -/
theorem transport_silent {x : Signals} (only : x.OnlyFailures) (k : Option Stream) :
    ∀ c ∈ x.calls, transport.hear k c = k ∧ transport.admits k c := by
  intro c member
  obtain ⟨_, _, rfl⟩ := only.calls c member
  exact ⟨rfl, trivial⟩

/-- Along a passage the calls make sense and leave the stream of the new player. -/
theorem Passage.served {g : GuildId} {d d' : Deck} {signals : Signals}
    (h : Passage g d signals d') {k : Option Stream} (before : d.Served k) :
    d'.Served (transport.after k signals.calls) ∧ transport.Lawful k signals.calls := by
  cases h with
  | rests only =>
      obtain ⟨same, lawful⟩ := transport.of_silent (transport_silent only k)
      rw [same]
      exact ⟨before, lawful⟩
  | clears removed => exact ⟨before, trivial⟩
  | pauses playing =>
      obtain ⟨x, rfl, loud⟩ := before.of_playing playing
      exact ⟨⟨rfl, before.handle, before.entry⟩, ⟨x, rfl, loud⟩, trivial⟩
  | resumes paused =>
      obtain ⟨x, rfl, silent⟩ := before.of_paused paused
      exact ⟨⟨rfl, before.handle, before.entry⟩, ⟨x, rfl, silent⟩, trivial⟩
  | loads only e handle =>
      have first : transport.Lawful k (Session.loading g e handle).calls := ⟨trivial, trivial⟩
      obtain ⟨same, lawful⟩ := transport.append_of_silent (transport_silent only k) first
      rw [Signals.append_calls, same]
      exact ⟨⟨rfl, rfl, rfl⟩, lawful⟩
  | ends only busy loaded =>
      have there : k.isSome := before.isSome.trans loaded
      have last : transport.Lawful k [.stop g] := ⟨there, trivial⟩
      obtain ⟨same, lawful⟩ := transport.append_of_silent (transport_silent only k) last
      rw [Signals.append_calls, same]
      exact ⟨Deck.served_empty, lawful⟩
  | stops cleared =>
      dsimp only
      split
      · next loaded => exact ⟨Deck.served_empty, before.isSome.trans loaded, trivial⟩
      · next unloaded =>
          have none : k = none := by
            rw [← before.isSome] at unloaded
            exact Option.not_isSome_iff_eq_none.mp unloaded
          rw [none]
          exact ⟨Deck.served_empty, trivial⟩

/-- A session and the backend it runs on, which keeps every call. -/
structure Rig where
  session : Session
  backend : Backend

/-- An act at a moment, and what the backend refuses then. -/
structure Cue where
  act : SessionAct
  now : Nat
  refusal : List Call → GuildId → Entry → Option PlayerError

namespace Rig

/-- A new session on a backend that was not called yet. -/
def create (g : GuildId) (start : Nat) (handle : StreamHandle) : Rig where
  session := .create g start
  backend := { nextHandle := handle }

def turn (r : Rig) (c : Cue) : Turn := ⟨c.act, { r.backend with refusal := c.refusal }, c.now⟩

def calls (r : Rig) (c : Cue) : List Call := ((r.turn c).outcome r.session).signals.calls

def next (r : Rig) (c : Cue) : Rig where
  session := (r.turn c).next r.session
  backend := (r.turn c).backend.record (r.calls c)

def after (r : Rig) : List Cue → Rig
  | [] => r
  | c :: cues => (r.next c).after cues

/-- The stream that the calls tell of. -/
def heard (r : Rig) : Option Stream := transport.after none r.backend.calls

/-- The session and its backend agree. -/
structure InStep (r : Rig) : Prop where
  coherent : r.session.Coherent
  served : r.session.deck.Served r.heard

variable {r : Rig}

theorem heard_next (r : Rig) (c : Cue) : (r.next c).heard = transport.after r.heard (r.calls c) :=
  transport.after_append none r.backend.calls (r.calls c)

theorem after_guild (r : Rig) (cues : List Cue) :
    (r.after cues).session.guild = r.session.guild := by
  induction cues generalizing r with
  | nil => rfl
  | cons c cues ih => exact (ih (r.next c)).trans ((r.turn c).next_guild r.session)

/-- Only a release may call without need, and all that it calls is a stop. -/
theorem InStep.lawful (h : r.InStep) (c : Cue) :
    transport.Lawful r.heard (r.calls c) ∨
      c.act = .release ∧ r.calls c = [.stop r.session.guild] := by
  by_cases release : c.act = .release
  · refine .inr ⟨release, ?_⟩
    rw [calls, Turn.outcome, turn, release]
    rfl
  · exact .inl ((r.turn c).passage h.coherent release |>.served h.served).2

theorem InStep.next (h : r.InStep) (c : Cue) : (r.next c).InStep where
  coherent := h.coherent.next (r.turn c)
  served := by
    rw [heard_next]
    by_cases release : c.act = .release
    · rw [calls, Rig.next, Turn.next, Turn.outcome, turn, release]
      exact Deck.served_empty
    · exact ((r.turn c).passage h.coherent release |>.served h.served).1

theorem InStep.create (g : GuildId) (start : Nat) (handle : StreamHandle) :
    (create g start handle).InStep :=
  ⟨.create g start, Deck.served_empty⟩

theorem InStep.after (h : r.InStep) (cues : List Cue) : (r.after cues).InStep := by
  induction cues generalizing r with
  | nil => exact h
  | cons c cues ih => exact ih (h.next c)

/-- After every run the calls alone tell the status of the session, its stream and the id of its
entry; and whatever it does next, a pause goes to a playing stream, a resume to a paused one, and a
stop to one that exists, unless the session is released. -/
theorem transport_agrees (g : GuildId) (start : Nat) (handle : StreamHandle) (cues : List Cue) :
    let r := (create g start handle).after cues
    let heard := transport.after none r.backend.calls
    Stream.status? heard = r.session.status ∧
      heard.map (·.handle) = r.session.stream ∧
      heard.map (·.entry) = r.session.currentId ∧
      ∀ c, ∃ calls, (r.next c).backend.calls = r.backend.calls ++ calls ∧
        (transport.Lawful heard calls ∨ c.act = .release ∧ calls = [.stop g]) := by
  intro r heard
  have step : r.InStep := (InStep.create g start handle).after cues
  refine ⟨step.served.status, step.served.handle, step.served.entry, fun c => ⟨r.calls c, rfl, ?_⟩⟩
  have guild : r.session.guild = g := after_guild (create g start handle) cues
  rw [← guild]
  exact step.lawful c

/-- A paused track fails and the next one is refused: the stream is stopped. -/
example :
    let entry : UInt64 → String → Entry := fun id url => ⟨⟨id⟩, ⟨7⟩, ⟨url⟩, .unresolved ⟨url⟩⟩
    let refusal : List Call → GuildId → Entry → Option PlayerError := fun _ _ e =>
      if e.track.url = "b" then some (.load "gone") else none
    let r := (create ⟨1⟩ 0 ⟨9⟩).after
      [⟨.enqueue (entry 1 "a") 5, 10, refusal⟩, ⟨.enqueue (entry 2 "b") 5, 20, refusal⟩,
        ⟨.pause, 30, refusal⟩]
    r.heard = some ⟨⟨9⟩, ⟨1⟩, true⟩ ∧
      r.calls ⟨.trackFailed "lost", 40, refusal⟩ = [.refuse ⟨1⟩ ⟨2⟩, .stop ⟨1⟩] := by
  decide

end Rig

end Jukebox
