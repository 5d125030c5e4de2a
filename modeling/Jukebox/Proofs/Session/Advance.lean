import Jukebox.Proofs.Session.Coherence
import Jukebox.Proofs.Session.Frame

/-!
How a session goes on to its next entry. Five operations offer entries to the backend, each a list of
its own: what waits, with or without the entry that was loaded, or a single entry that has just come.
From then on they are the same. The first entry that the backend accepts is loaded, those behind it
wait, and every one before it is reported as failed; if there is none the session ends.
-/

namespace Jukebox

namespace Trial

variable {g : GuildId} {b : Backend} {l : List Entry} {refused : List (Entry × PlayerError)}
  {found : Option (Entry × List Entry)}

/-- The backend answers in the same way whatever it was asked before. -/
def Steadfast (b : Backend) : Prop := ∀ calls calls', b.refusal calls = b.refusal calls'

/-- A backend that does not change its mind loads the first entry that it would accept at once. -/
theorem find?_of_steadfast (steadfast : Steadfast b) (h : Trial g b l refused found) :
    found.map Prod.fst = l.find? fun e => (b.refusal? g e).isNone := by
  induction h with
  | exhausted => rfl
  | accepted accepts => simp [accepts]
  | @refused b e _ rest _ _ refuses _ ih =>
      have same : (b.record [.refuse g e.id]).refusal? g = b.refusal? g :=
        congrFun (steadfast _ _) g
      rw [List.find?_cons_of_neg (by simp [refuses]), ih steadfast, same]

end Trial

namespace SessionAct

/-- The entries that an act makes a session offer to the backend, if it makes it offer any. -/
def offers (a : SessionAct) (s : Session) : Option (List Entry) :=
  match a with
  | .enqueue e capacity => if s.isIdle ∧ 1 ≤ capacity then some [e] else none
  | .skip | .trackFailed _ => s.current.map fun _ => s.queue.entries
  | .trackFinished =>
    s.current.map fun finished =>
      match s.repeatMode with
      | .off => s.queue.entries
      | .track => finished :: s.queue.entries
      | .queue => s.queue.entries ++ [finished]
  | _ => none

/-- What an act reports before any entry is offered: a loaded entry that has failed. -/
def notice (a : SessionAct) (s : Session) : List Event :=
  match a with
  | .trackFailed reason => s.current.toList.map fun e => .trackFailed s.guild e reason
  | _ => []

end SessionAct

namespace Session

/-- A finished entry is not offered again, or before those that wait, or after them. -/
theorem trackFinished_offers {s : Session} {finished : Entry} (current : s.current = some finished)
    (b : Backend) (now : Nat) :
    let dropped : Session := { s with current := none, stream := none }
    (s.repeatMode = .off ∧
      s.trackFinished b now = (startFrom b now dropped s.queue.entries).map fun _ => true) ∨
    (s.repeatMode = .track ∧
      s.trackFinished b now =
        (startFrom b now dropped (finished :: s.queue.entries)).map fun _ => true) ∨
    (s.repeatMode = .queue ∧
      s.trackFinished b now =
        (startFrom b now { dropped with queue := ⟨s.queue.entries ++ [finished]⟩ }
          (s.queue.entries ++ [finished])).map fun _ => true) := by
  obtain ⟨guild, queue, _, stream, status, mode, last⟩ := s
  cases current
  cases mode with
  | off => exact .inl ⟨rfl, rfl⟩
  | queue => exact .inr (.inr ⟨rfl, rfl⟩)
  | track =>
      refine .inr (.inl ⟨rfl, ?_⟩)
      cases answer : b.refusal? guild finished with
      | none =>
          have accepted : play b now finished ⟨guild, queue, none, none, status, .track, last⟩ = _ :=
            play_accepted answer
          simp only [trackFinished, startFrom, accepted, if_true]
          rfl
      | some refusal =>
          have refused : play b now finished ⟨guild, queue, none, none, status, .track, last⟩ = _ :=
            play_refused answer
          simp only [trackFinished, startFrom, refused, Bool.false_eq_true, if_false]
          rfl

/-- An act that offers entries reports what it has to and then does nothing but offer them. Whatever
else it changes on the way is overwritten in the end. -/
theorem Coherent.offering {s : Session} (h : s.Coherent) {t : Turn} {l : List Entry}
    (offers : t.act.offers s = some l) :
    ∃ s' : Session, s'.guild = s.guild ∧ s'.status = s.status ∧ s'.repeatMode = s.repeatMode ∧
      let o := startFrom t.backend t.now s' l
      (t.outcome s).session = o.session ∧
      (t.outcome s).signals = ⟨t.act.notice s, []⟩ ++ o.signals := by
  obtain ⟨act, b, now⟩ := t
  let dropped : Session := { s with current := none, stream := none }
  cases act with
  | enqueue e capacity =>
      rw [SessionAct.offers] at offers
      split at offers
      · next admitted =>
          cases offers
          have idle : s.status = .idle := by simpa [isIdle] using admitted.1
          have empty : s.queue = .empty := h.queue_of_idle idle
          rcases s.enqueue_cases e capacity b now with
            ⟨full, _⟩ | ⟨_, busy, _⟩ | ⟨_, _, _, _, same⟩
          · rw [empty] at full
            exact absurd (Nat.le_trans admitted.2 full) (Nat.not_succ_le_zero 0)
          · exact absurd idle busy
          · rw [empty] at same
            refine ⟨{ dropped with queue := ⟨[e]⟩, lastActivity := now }, rfl, rfl, rfl, ?_⟩
            simp only [Turn.outcome, SessionAct.run, same]
            exact ⟨rfl, rfl⟩
      · cases offers
  | skip =>
      obtain ⟨skipped, current, rfl⟩ := Option.map_eq_some_iff.mp offers
      refine ⟨dropped, rfl, rfl, rfl, ?_⟩
      simp only [Turn.outcome, SessionAct.run, Session.skip, current]
      exact ⟨rfl, rfl⟩
  | trackFailed reason =>
      obtain ⟨failed, current, rfl⟩ := Option.map_eq_some_iff.mp offers
      refine ⟨dropped, rfl, rfl, rfl, ?_⟩
      simp only [Turn.outcome, SessionAct.run, Session.trackFailed, current]
      exact ⟨rfl, by simp only [SessionAct.notice, current]; rfl⟩
  | trackFinished =>
      obtain ⟨finished, current, list⟩ := Option.map_eq_some_iff.mp offers
      rcases trackFinished_offers current b now with ⟨mode, same⟩ | ⟨mode, same⟩ | ⟨mode, same⟩
      · rw [mode] at list
        subst list
        refine ⟨dropped, rfl, rfl, rfl, ?_⟩
        simp only [Turn.outcome, SessionAct.run, same]
        exact ⟨rfl, rfl⟩
      · rw [mode] at list
        subst list
        refine ⟨dropped, rfl, rfl, rfl, ?_⟩
        simp only [Turn.outcome, SessionAct.run, same]
        exact ⟨rfl, rfl⟩
      · rw [mode] at list
        subst list
        refine ⟨{ dropped with queue := ⟨s.queue.entries ++ [finished]⟩ }, rfl, rfl, rfl, ?_⟩
        simp only [Turn.outcome, SessionAct.run, same]
        exact ⟨rfl, rfl⟩
  | _ => cases offers

/-- Signals in order: a notice, the refusals, and what comes of them. -/
theorem signals_of_refusals (notice : List Event) (g : GuildId)
    (refused : List (Entry × PlayerError)) (last : Signals) :
    (⟨notice, []⟩ ++ (refusals g refused ++ last) : Signals) =
      ⟨(notice ++ refused.map fun r => .trackFailed g r.1 r.2.message) ++ last.events,
        (refused.map fun r => .refuse g r.1.id) ++ last.calls⟩ :=
  congrArg (Signals.mk · _) (List.append_assoc ..).symm

/-- After any run of turns, an act that offers entries loads the first one that the backend accepts
and leaves exactly those behind it in the queue. Every entry before it is reported once, in order and
with the reason for its refusal, and then comes the report of what plays. If the backend refuses
them all the session is idle and holds nothing; the backend is stopped and the end of the queue
reported, in that case last of all, unless the session was idle before. -/
theorem loads_first_accepted (g : GuildId) (start : Nat) (turns : List Turn) (t : Turn)
    {l : List Entry} (offers : t.act.offers ((create g start).after turns) = some l) :
    let s := (create g start).after turns
    let o := t.outcome s
    ∃ refused found, Trial g t.backend l refused found ∧
      (let failures := t.act.notice s ++ refused.map fun r => .trackFailed g r.1 r.2.message
      let refusals := refused.map fun r => .refuse g r.1.id
      match found with
      | some (e, waiting) =>
        l = refused.map Prod.fst ++ e :: waiting ∧
          o.session = s.loaded e t.backend.nextHandle waiting t.now ∧
          o.signals =
            ⟨failures ++ [.nowPlaying g e], refusals ++ [.play g e.id t.backend.nextHandle]⟩
      | none =>
        l = refused.map Prod.fst ∧ o.session = s.emptied t.now ∧
          o.signals =
            if s.isIdle then ⟨failures, refusals⟩
            else ⟨failures ++ [.queueEnded g], refusals ++ [.stop g]⟩) ∧
      (Trial.Steadfast t.backend →
        o.session.current = l.find? fun e => (t.backend.refusal? g e).isNone) := by
  intro s o
  have coherent : s.Coherent := coherent_after_create g start turns
  have guild : s.guild = g := after_guild (create g start) turns
  obtain ⟨s', guild', status, mode, session, signals⟩ := coherent.offering offers
  rcases startFrom_trial t.backend t.now s' l with
    ⟨refused, e, waiting, trial, same⟩ | ⟨refused, trial, same⟩
  · have loads : o.session = s.loaded e t.backend.nextHandle waiting t.now := by
      rw [show o.session = _ from session, same]
      simp only [loaded, guild', mode]
    rw [guild', guild] at trial same
    refine ⟨refused, some (e, waiting), trial, ⟨trial.split, loads, ?_⟩, fun steadfast => ?_⟩
    · rw [show o.signals = _ from signals, same, signals_of_refusals]
      rfl
    · rw [loads, ← trial.find?_of_steadfast steadfast]
      rfl
  · have ends : o.session = s.emptied t.now := by
      rw [show o.session = _ from session, same]
      simp only [emptied, guild', mode]
    rw [guild', guild] at trial same
    have all : l = refused.map Prod.fst := trial.split.trans (List.append_nil _)
    refine ⟨refused, none, trial, ⟨all, ends, ?_⟩, fun steadfast => ?_⟩
    · rw [show o.signals = _ from signals, same, signals_of_refusals]
      have idle : s'.isIdle = s.isIdle := by rw [isIdle, status, isIdle]
      rw [ending, idle, guild', guild]
      cases s.isIdle with
      | true => simp only [if_true, List.append_nil]
      | false => rfl
    · rw [ends, ← trial.find?_of_steadfast steadfast]
      rfl

/-- A track on repeat is refused when its turn comes again, and so is the one behind it. The failure
of either is told before the third one plays. -/
theorem loads_first_accepted_of_repeat :
    let entry : UInt64 → String → Entry := fun id url => ⟨⟨id⟩, ⟨7⟩, ⟨url⟩, .unresolved ⟨url⟩⟩
    let b : Backend := { nextHandle := ⟨1⟩ }
    let turns : List Turn :=
      [⟨.enqueue (entry 1 "a") 5, b, 10⟩, ⟨.setRepeat .track, b, 20⟩,
        ⟨.enqueue (entry 2 "b") 5, b, 30⟩, ⟨.enqueue (entry 3 "c") 5, b, 40⟩,
        ⟨.enqueue (entry 4 "a") 5, b, 50⟩]
    let t : Turn := ⟨.trackFinished, (b.refuse "a" "gone").refuse "b" "blocked", 60⟩
    let s := (create ⟨1⟩ 0).after turns
    let l := [entry 1 "a", entry 2 "b", entry 3 "c", entry 4 "a"]
    t.act.offers s = some l ∧ Trial.Steadfast t.backend ∧
      (t.outcome s).session.current = some (entry 3 "c") ∧
      (t.outcome s).session.queue = ⟨[entry 4 "a"]⟩ ∧
      (t.outcome s).signals.events =
        [.trackFailed ⟨1⟩ (entry 1 "a") "failed to load track: gone",
          .trackFailed ⟨1⟩ (entry 2 "b") "failed to load track: blocked",
          .nowPlaying ⟨1⟩ (entry 3 "c")] := by
  intro entry b turns t s l
  have offers : t.act.offers s = some l := by decide
  have steadfast : Trial.Steadfast t.backend := fun _ _ => rfl
  obtain ⟨_, _, _, _, current⟩ := loads_first_accepted ⟨1⟩ 0 turns t offers
  exact ⟨offers, steadfast, current steadfast, by decide, by decide⟩

end Session

end Jukebox
