import Jukebox.Proofs.Session.Coherence

/-!
What a turn does to the player, and what it signals about that. A turn leaves the player as it is,
pauses it, resumes it, loads an entry, or takes the entry off; the failures that it signals on the
way change nothing. Who follows the signals alone is a reader of a log.
-/

namespace Jukebox

/-- A reader of a log: how each item changes what it takes to be the case, and which items it can
make sense of then. -/
structure Reader (κ ι : Type) where
  hear : κ → ι → κ
  admits : κ → ι → Prop

namespace Reader

variable {κ ι : Type} (r : Reader κ ι)

def after (k : κ) (log : List ι) : κ := log.foldl r.hear k

/-- Each item of the log makes sense where it stands. -/
def Lawful : κ → List ι → Prop
  | _, [] => True
  | k, i :: log => r.admits k i ∧ Lawful (r.hear k i) log

theorem after_append (k : κ) (a b : List ι) : r.after k (a ++ b) = r.after (r.after k a) b :=
  List.foldl_append

theorem lawful_append {k : κ} {a b : List ι} (first : r.Lawful k a)
    (later : r.Lawful (r.after k a) b) : r.Lawful k (a ++ b) := by
  induction a generalizing k with
  | nil => exact later
  | cons i a ih => exact ⟨first.1, ih first.2 later⟩

/-- Items that say nothing are always in place, whatever comes after them. -/
theorem append_of_silent {k : κ} {a b : List ι}
    (silent : ∀ i ∈ a, r.hear k i = k ∧ r.admits k i) (lawful : r.Lawful k b) :
    r.after k (a ++ b) = r.after k b ∧ r.Lawful k (a ++ b) := by
  induction a with
  | nil => exact ⟨rfl, lawful⟩
  | cons i a ih =>
      obtain ⟨⟨same, admitted⟩, rest⟩ := List.forall_mem_cons.mp silent
      obtain ⟨told, quiet⟩ := ih rest
      rw [List.cons_append, after, List.foldl_cons, Lawful, same]
      exact ⟨told, admitted, quiet⟩

theorem of_silent {k : κ} {log : List ι} (silent : ∀ i ∈ log, r.hear k i = k ∧ r.admits k i) :
    r.after k log = k ∧ r.Lawful k log := by
  have alone := r.append_of_silent (b := []) silent trivial
  rwa [List.append_nil] at alone

end Reader

/-- What a session plays. -/
structure Deck where
  status : PlaybackStatus := .idle
  current : Option Entry := none
  stream : Option StreamHandle := none

def Session.deck (s : Session) : Deck := ⟨s.status, s.current, s.stream⟩

namespace Signals

theorem append_calls (a b : Signals) : (a ++ b).calls = a.calls ++ b.calls := rfl

theorem append_assoc (a b c : Signals) : a ++ b ++ c = a ++ (b ++ c) := by
  change Signals.mk (a.events ++ b.events ++ c.events) (a.calls ++ b.calls ++ c.calls) = _
  rw [List.append_assoc, List.append_assoc]
  rfl

theorem append_empty (a : Signals) : a ++ {} = a := by
  change Signals.mk (a.events ++ []) (a.calls ++ []) = a
  rw [List.append_nil, List.append_nil]

/-- The signals tell of failed tracks and of nothing else. -/
structure OnlyFailures (x : Signals) : Prop where
  events : ∀ e ∈ x.events, ∃ g entry reason, e = .trackFailed g entry reason
  calls : ∀ c ∈ x.calls, ∃ g id, c = .refuse g id

namespace OnlyFailures

theorem empty : OnlyFailures {} := ⟨nofun, nofun⟩

theorem append {a b : Signals} (first : a.OnlyFailures) (later : b.OnlyFailures) :
    (a ++ b).OnlyFailures where
  events := List.forall_mem_append.mpr ⟨first.events, later.events⟩
  calls := List.forall_mem_append.mpr ⟨first.calls, later.calls⟩

theorem refusals (g : GuildId) (refused : List (Entry × PlayerError)) :
    (Session.refusals g refused).OnlyFailures where
  events := List.forall_mem_map.mpr fun _ _ => ⟨_, _, _, rfl⟩
  calls := List.forall_mem_map.mpr fun _ _ => ⟨_, _, rfl⟩

end OnlyFailures

end Signals

/-- How a turn other than a release moves the player of a guild, with the signals that it sends. -/
inductive Passage (g : GuildId) (d : Deck) : Signals → Deck → Prop
  | rests {failures : Signals} (only : failures.OnlyFailures) : Passage g d failures d
  | clears (removed : Nat) : Passage g d ⟨[.queueCleared g removed], []⟩ d
  | pauses (playing : d.status = .playing) :
      Passage g d ⟨[.paused g], [.pause g]⟩ { d with status := .paused }
  | resumes (paused : d.status = .paused) :
      Passage g d ⟨[.resumed g], [.resume g]⟩ { d with status := .playing }
  | loads {failures : Signals} (only : failures.OnlyFailures) (e : Entry) (handle : StreamHandle) :
      Passage g d (failures ++ Session.loading g e handle) ⟨.playing, some e, some handle⟩
  | ends {failures : Signals} (only : failures.OnlyFailures) (busy : d.status ≠ .idle)
      (loaded : d.current.isSome) :
      Passage g d (failures ++ ⟨[.queueEnded g], [.stop g]⟩) {}
  | stops (cleared : Nat) :
      Passage g d ⟨[.stopped g cleared], if d.current.isSome then [.stop g] else []⟩ {}

namespace Session

theorem Coherent.deck_of_idle {s : Session} (h : s.Coherent) (idle : s.status = .idle) :
    s.deck = {} := by
  rcases h with ⟨_, current, stream, _⟩ | ⟨busy, _⟩
  · rw [deck, idle, current, stream]
  · rw [idle] at busy
    simp at busy

/-- The start of the next entry, in whatever a half-done operation made of the session. -/
theorem Coherent.startNext_passage {s : Session} (h : s.Coherent) (s' : Session)
    (guild : s'.guild = s.guild) (status : s'.status = s.status) {failures : Signals}
    (only : failures.OnlyFailures) (b : Backend) (now : Nat) :
    Passage s.guild s.deck (failures ++ (startNext b now s').signals)
      (startNext b now s').session.deck := by
  rcases startNext_outcome b now s' with ⟨refused, e, rest, _, same⟩ | ⟨refused, _, same⟩
  · rw [same, guild, ← Signals.append_assoc]
    exact .loads (only.append (.refusals _ refused)) e b.nextHandle
  · have failed := only.append (.refusals s.guild refused)
    rw [same, guild, ← Signals.append_assoc, ending, isIdle, status, guild]
    by_cases idle : s.status = .idle
    · rw [if_pos (decide_eq_true idle), Signals.append_empty]
      have silent := Passage.rests (g := s.guild) (d := s.deck) failed
      rwa [h.deck_of_idle idle] at silent ⊢
    · rw [if_neg (by simp [idle])]
      exact .ends failed idle (h.current_of_not_idle idle)

theorem edit_passage {α : Type} (now : Nat) (s : Session) (r : Except QueueError (α × Queue)) :
    Passage s.guild s.deck (s.edit now r).signals (s.edit now r).session.deck := by
  cases r with
  | error e => exact .rests .empty
  | ok edited => exact .rests .empty

end Session

/-- Every turn but a release is a passage. -/
theorem Turn.passage {s : Session} (h : s.Coherent) (t : Turn) (kept : t.act ≠ .release) :
    Passage s.guild s.deck (t.outcome s).signals (t.next s).deck := by
  have rests : Passage s.guild s.deck {} s.deck := .rests .empty
  obtain ⟨act, b, now⟩ := t
  cases act with
  | enqueue e capacity =>
      change Passage s.guild s.deck (s.enqueue e capacity b now).signals
        (s.enqueue e capacity b now).session.deck
      rcases s.enqueue_cases e capacity b now with ⟨_, same⟩ | ⟨_, _, same⟩ | ⟨_, _, _, _, same⟩
      · rw [same]
        exact rests
      · rw [same]
        exact rests
      · rw [same]
        exact h.startNext_passage { s with queue := ⟨s.queue.entries ++ [e]⟩, lastActivity := now }
          rfl rfl .empty b now
  | pause =>
      simp only [outcome, next, SessionAct.run, Session.pause]
      split
      · next playing => exact .pauses playing
      · exact rests
  | resume =>
      simp only [outcome, next, SessionAct.run, Session.resume]
      split
      · next paused => exact .resumes paused
      · exact rests
  | trackStarted =>
      simp only [outcome, next, SessionAct.run, Session.trackStarted]
      split
      · exact rests
      · exact rests
  | trackFinished =>
      change Passage s.guild s.deck (s.trackFinished b now).signals
        (s.trackFinished b now).session.deck
      cases current : s.current with
      | none =>
          simp only [Session.trackFinished, current]
          exact rests
      | some finished =>
          rcases Session.trackFinished_cases current b now with
            ⟨_, same⟩ | ⟨_, same⟩ | ⟨_, same⟩ | ⟨_, refusal, same⟩
          · rw [same]
            exact h.startNext_passage s rfl rfl .empty b now
          · rw [same]
            exact h.startNext_passage { s with queue := ⟨s.queue.entries ++ [finished]⟩ }
              rfl rfl .empty b now
          · rw [same]
            exact .loads .empty finished b.nextHandle
          · rw [same]
            exact h.startNext_passage s rfl rfl (.refusals _ _) _ now
  | trackFailed reason =>
      simp only [outcome, next, SessionAct.run, Session.trackFailed]
      split
      · exact rests
      · next failed _ =>
          have only : Signals.OnlyFailures ⟨[.trackFailed s.guild failed reason], []⟩ :=
            ⟨List.forall_mem_singleton.mpr ⟨_, _, _, rfl⟩, List.forall_mem_nil _⟩
          exact h.startNext_passage s rfl rfl only b now
  | skip =>
      simp only [outcome, next, SessionAct.run, Session.skip]
      split
      · exact rests
      · exact h.startNext_passage s rfl rfl .empty b now
  | stop => exact .stops s.queue.length
  | clearQueue => exact .clears s.queue.length
  | setRepeat mode => exact rests
  | removeAt position => exact Session.edit_passage now s (s.queue.removeAt position)
  | removeByRequester m => exact Session.edit_passage now s (s.queue.removeByRequester m)
  | swap x y => exact Session.edit_passage now s ((s.queue.swap x y).map fun q => ((), q))
  | move source target =>
      exact Session.edit_passage now s ((s.queue.move source target).map fun q => ((), q))
  | shuffle arrangement =>
      simp only [outcome, next, SessionAct.run, Session.shuffle]
      split
      · exact rests
      · exact Session.edit_passage now s (.ok ((), s.queue.shuffle arrangement))
  | release => exact absurd rfl kept

end Jukebox
