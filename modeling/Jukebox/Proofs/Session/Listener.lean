import Jukebox.Proofs.Session.Passage

/-!
Who hears only the events of a session knows at every moment what it plays. A release is silent, so
this holds as long as the session is not given up.
-/

namespace Jukebox

/-- What a listener takes to be the case. -/
structure Belief where
  status : PlaybackStatus := .idle
  entry : Option Entry := none
deriving DecidableEq, Repr

/-- Follows the events: what is playing or paused, and which events can come then. -/
def listener : Reader Belief Event where
  hear
    | _, .nowPlaying _ e => ⟨.playing, some e⟩
    | k, .paused _ => { k with status := .paused }
    | k, .resumed _ => { k with status := .playing }
    | _, .queueEnded _ | _, .stopped _ _ => {}
    | k, .trackFailed _ _ _ | k, .queueCleared _ _ => k
  admits
    | k, .paused _ => k.status = .playing
    | k, .resumed _ => k.status = .paused
    | k, .queueEnded _ => (k.status = .playing ∨ k.status = .paused) ∧ k.entry.isSome
    | _, _ => True

def Deck.belief (d : Deck) : Belief := ⟨d.status, d.current⟩

/-- A failure does not change what is played. -/
theorem listener_silent {x : Signals} (only : x.OnlyFailures) (k : Belief) :
    ∀ e ∈ x.events, listener.hear k e = k ∧ listener.admits k e := by
  intro e member
  obtain ⟨_, _, _, rfl⟩ := only.events e member
  exact ⟨rfl, trivial⟩

/-- Along a passage the events make sense and tell of the new player. -/
theorem Passage.believed {g : GuildId} {d d' : Deck} {signals : Signals}
    (h : Passage g d signals d') :
    listener.after d.belief signals.events = d'.belief ∧
      listener.Lawful d.belief signals.events := by
  cases h with
  | rests only => exact listener.of_silent (listener_silent only d.belief)
  | clears removed => exact ⟨rfl, trivial, trivial⟩
  | pauses playing => exact ⟨rfl, playing, trivial⟩
  | resumes paused => exact ⟨rfl, paused, trivial⟩
  | loads only e handle =>
      have first : listener.Lawful d.belief (Session.loading g e handle).events :=
        ⟨trivial, trivial⟩
      exact listener.append_of_silent (listener_silent only d.belief) first
  | ends only busy loaded =>
      have playing : d.status = .playing ∨ d.status = .paused := by
        cases status : d.status with
        | idle => exact absurd status busy
        | playing => exact .inl rfl
        | paused => exact .inr rfl
      have last : listener.Lawful d.belief [.queueEnded g] := ⟨⟨playing, loaded⟩, trivial⟩
      exact listener.append_of_silent (listener_silent only d.belief) last
  | stops cleared => exact ⟨rfl, trivial, trivial⟩

namespace Session

/-- The events of a run, oldest first. -/
def events (s : Session) : List Turn → List Event
  | [] => []
  | t :: turns => (t.outcome s).signals.events ++ (t.next s).events turns

theorem believed_after {s : Session} (h : s.Coherent) {turns : List Turn}
    (kept : ∀ t ∈ turns, t.act ≠ .release) :
    listener.after s.deck.belief (s.events turns) = (s.after turns).deck.belief ∧
      listener.Lawful s.deck.belief (s.events turns) := by
  induction turns generalizing s with
  | nil => exact ⟨rfl, trivial⟩
  | cons t turns ih =>
      obtain ⟨first, rest⟩ := List.forall_mem_cons.mp kept
      obtain ⟨told, lawful⟩ := (t.passage h first).believed
      obtain ⟨later, lawful'⟩ := ih (h.next t) rest
      rw [← told] at later lawful'
      exact ⟨(listener.after_append _ _ _).trans later, listener.lawful_append lawful lawful'⟩

/-- Over every run without a release, whatever the backend refuses, the events tell the status and
the entry of the session, and each of them comes when it can. -/
theorem listener_agrees (g : GuildId) (start : Nat) {turns : List Turn}
    (kept : ∀ t ∈ turns, t.act ≠ .release) :
    let s := (create g start).after turns
    let events := (create g start).events turns
    listener.after {} events = ⟨s.status, s.current⟩ ∧ listener.Lawful {} events :=
  believed_after (.create g start) kept

/-- The listener hears that a paused track is skipped and that the next one cannot be played. -/
theorem listener_agrees_of_refusal :
    let entry : UInt64 → String → Entry := fun id url => ⟨⟨id⟩, ⟨7⟩, ⟨url⟩, .unresolved ⟨url⟩⟩
    let b : Backend := Backend.refuse { nextHandle := ⟨1⟩ } "b" "gone"
    let turns : List Turn :=
      [⟨.enqueue (entry 1 "a") 5, b, 10⟩, ⟨.enqueue (entry 2 "b") 5, b, 20⟩, ⟨.pause, b, 30⟩,
        ⟨.skip, b, 40⟩]
    let events := (create ⟨1⟩ 0).events turns
    (∀ t ∈ turns, t.act ≠ .release) ∧
      events = [.nowPlaying ⟨1⟩ (entry 1 "a"), .paused ⟨1⟩,
        .trackFailed ⟨1⟩ (entry 2 "b") (PlayerError.load "gone").message, .queueEnded ⟨1⟩] ∧
      listener.after {} events = {} ∧ listener.Lawful {} events := by
  intro entry b turns events
  have kept : ∀ t ∈ turns, t.act ≠ .release := by simp [turns]
  obtain ⟨told, lawful⟩ := listener_agrees ⟨1⟩ 0 kept
  have silent : (create ⟨1⟩ 0).after turns = (create ⟨1⟩ 0).touch 40 := by decide
  rw [silent] at told
  exact ⟨kept, by decide, told, lawful⟩

end Session

end Jukebox
