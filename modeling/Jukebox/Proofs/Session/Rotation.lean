import Mathlib.Data.List.Rotate
import Jukebox.Proofs.Session.Conservation
import Jukebox.Proofs.Session.Listener

/-!
Tracks that come to their end one after the other, with a backend that accepts them all. While the
queue is repeated they go round: each signal rotates what the session holds by one place, so that a
whole round plays every entry once and leaves all as it was. While nothing is repeated they run out:
each signal drops the entry in front.
-/

namespace Jukebox

/-- The backend accepts whatever it is asked to play. -/
def Backend.Willing (b : Backend) : Prop := ∀ calls g e, b.refusal calls g e = none

/-- The turn reports the end of the loaded entry to a session with a willing backend. -/
structure Turn.Finishes (t : Turn) : Prop where
  act : t.act = .trackFinished
  willing : t.backend.Willing

namespace Session

/-- A willing backend loads the entry in front. -/
theorem startNext_of_willing {b : Backend} (willing : b.Willing) (now : Nat) {s : Session}
    {e : Entry} {rest : List Entry} (waiting : s.queue.entries = e :: rest) :
    startNext b now s =
      { result := ()
        session := s.loaded e b.nextHandle rest now
        signals := loading s.guild e b.nextHandle } := by
  have accepts : b.refusal? s.guild e = none := willing b.calls s.guild e
  rcases startFrom_trial b now { s with current := none, stream := none } (e :: rest) with
    ⟨_, _, _, trial, same⟩ | ⟨_, trial, _⟩
  · cases trial with
    | accepted _ => rw [startNext, waiting, same]; rfl
    | refused refuses _ => cases accepts.symm.trans refuses
  · cases trial with
    | refused refuses _ => cases accepts.symm.trans refuses

theorem startNext_of_nothing {s : Session} (nothing : s.queue.entries = []) (b : Backend)
    (now : Nat) : (startNext b now s).session = s.emptied now := by
  rcases startNext_session b now s with ⟨_, _, _, split, _⟩ | same
  · rw [nothing] at split
    simp at split
  · exact same

theorem trackFinished_of_queue {s : Session} {c : Entry} (current : s.current = some c)
    (mode : s.repeatMode = .queue) (b : Backend) (now : Nat) :
    s.trackFinished b now =
      (startNext b now { s with queue := ⟨s.queue.entries ++ [c]⟩ }).map fun _ => true := by
  rcases trackFinished_cases current b now with ⟨off, _⟩ | ⟨_, same⟩ | ⟨track, _⟩ | ⟨track, _⟩
  · cases off.symm.trans mode
  · exact same
  · cases track.symm.trans mode
  · cases track.symm.trans mode

theorem trackFinished_of_off {s : Session} {c : Entry} (current : s.current = some c)
    (mode : s.repeatMode = .off) (b : Backend) (now : Nat) :
    s.trackFinished b now = (startNext b now s).map fun _ => true := by
  rcases trackFinished_cases current b now with ⟨_, same⟩ | ⟨queue, _⟩ | ⟨track, _⟩ | ⟨track, _⟩
  · exact same
  · cases queue.symm.trans mode
  · cases track.symm.trans mode
  · cases track.symm.trans mode

/-- An entry that ends goes to the back of a repeated queue, and the one in front is loaded. -/
structure MovesOn (s : Session) (t : Turn) (c e : Entry) (rest : List Entry) : Prop where
  order : s.queue.entries ++ [c] = e :: rest
  current : (t.next s).current = some e
  queue : (t.next s).queue.entries = rest
  mode : (t.next s).repeatMode = .queue
  guild : (t.next s).guild = s.guild
  told : (t.outcome s).signals.events = [.nowPlaying s.guild e]

end Session

namespace Turn.Finishes

variable {t : Turn} (h : t.Finishes) {s : Session}
include h

theorem outcome_eq : t.outcome s = (s.trackFinished t.backend t.now).map fun x => .ok (.heard x) := by
  rw [outcome, h.act]
  rfl

theorem movesOn (mode : s.repeatMode = .queue) {c : Entry} (current : s.current = some c) :
    ∃ e rest, s.MovesOn t c e rest := by
  obtain ⟨e, rest, order⟩ := List.exists_cons_of_ne_nil (l := s.queue.entries ++ [c]) (by simp)
  have start := Session.startNext_of_willing h.willing t.now
    (s := { s with queue := ⟨s.queue.entries ++ [c]⟩ }) order
  have outcome : t.outcome s =
      { result := .ok (.heard true)
        session := s.loaded e t.backend.nextHandle rest t.now
        signals := Session.loading s.guild e t.backend.nextHandle } := by
    rw [h.outcome_eq, Session.trackFinished_of_queue current mode, start]
    rfl
  have next : t.next s = s.loaded e t.backend.nextHandle rest t.now :=
    congrArg Outcome.session outcome
  refine ⟨e, rest, order, ?_, ?_, ?_, ?_, ?_⟩
  · rw [next]; rfl
  · rw [next]; rfl
  · rw [next]; exact mode
  · rw [next]; rfl
  · rw [outcome]; rfl

/-- While nothing is repeated, the session loses the entry in front of what it holds. -/
theorem next_of_off (coherent : s.Coherent) (mode : s.repeatMode = .off) :
    (t.next s).held = s.held.tail ∧ (t.next s).repeatMode = .off := by
  rw [next, h.outcome_eq]
  cases current : s.current with
  | none =>
      have silent : s.held = [] := by
        rw [← List.head?_eq_none_iff, ← coherent.held_parts.1, current]
      simp only [Session.trackFinished, current, Outcome.map, silent]
      exact ⟨rfl, mode⟩
  | some c =>
      rw [Session.trackFinished_of_off current mode, Session.held_of_current current]
      cases waiting : s.queue.entries with
      | nil =>
          simp only [Outcome.map_session, Session.startNext_of_nothing waiting]
          exact ⟨rfl, mode⟩
      | cons e rest =>
          rw [Session.startNext_of_willing h.willing t.now waiting]
          exact ⟨rfl, mode⟩

end Turn.Finishes

namespace Session

/-- While the queue is repeated, each signal rotates what is held by one place. -/
theorem after_of_queue {s : Session} {c : Entry} (current : s.current = some c)
    (mode : s.repeatMode = .queue) {rounds : List Turn} (finishes : ∀ t ∈ rounds, t.Finishes) :
    ∃ c', (s.after rounds).current = some c' ∧
      c' :: (s.after rounds).queue.entries = (c :: s.queue.entries).rotate rounds.length := by
  induction rounds generalizing s c with
  | nil => exact ⟨c, current, (List.rotate_zero _).symm⟩
  | cons t rounds ih =>
      obtain ⟨first, later⟩ := List.forall_mem_cons.mp finishes
      obtain ⟨e, rest, step⟩ := first.movesOn mode current
      have turned := ih step.current step.mode later
      rw [step.queue, ← step.order] at turned
      rwa [List.length_cons, List.rotate_cons_succ]

/-- Up to a whole round, the entries that wait are played in order, and after them the one that was
loaded. -/
theorem events_of_queue {s : Session} {c : Entry} (current : s.current = some c)
    (mode : s.repeatMode = .queue) {rounds : List Turn} (finishes : ∀ t ∈ rounds, t.Finishes)
    (upTo : rounds.length ≤ s.queue.entries.length + 1) :
    s.events rounds =
      ((s.queue.entries ++ [c]).take rounds.length).map (.nowPlaying s.guild) := by
  induction rounds generalizing s c with
  | nil => rfl
  | cons t rounds ih =>
      obtain ⟨first, later⟩ := List.forall_mem_cons.mp finishes
      obtain ⟨e, rest, step⟩ := first.movesOn mode current
      have lengths := congrArg List.length step.order
      rw [List.length_append, List.length_singleton, List.length_cons] at lengths
      have short : rounds.length ≤ rest.length := by
        rw [List.length_cons] at upTo
        omega
      -- The entry that comes next is behind all others then, so the rest of the round stops before it.
      have played := ih step.current step.mode later (by rw [step.queue]; omega)
      rw [step.queue, step.guild, List.take_append_of_le_length short] at played
      rw [events, step.told, played, step.order]
      rfl

/-- While nothing is repeated, each signal drops the entry in front. -/
theorem Coherent.after_of_off {s : Session} (h : s.Coherent) (mode : s.repeatMode = .off)
    {rounds : List Turn} (finishes : ∀ t ∈ rounds, t.Finishes) :
    (s.after rounds).held = s.held.drop rounds.length := by
  induction rounds generalizing s with
  | nil => rfl
  | cons t rounds ih =>
      obtain ⟨first, later⟩ := List.forall_mem_cons.mp finishes
      obtain ⟨step, kept⟩ := first.next_of_off h mode
      rw [after, ih (h.next t) kept later, step, List.drop_tail, List.length_cons]

/-- Signals of the end of the loaded entry, with a backend that accepts everything, after any run.
While the queue is repeated, as many signals rotate what is held by as many places, and a whole round
leaves it as it was and plays every entry once, in order. While nothing is repeated, each signal loads
the next entry of the queue, and the one after the last leaves the session idle. -/
theorem goes_round_or_runs_out (g : GuildId) (start : Nat) {turns : List Turn} {c : Entry}
    (current : ((create g start).after turns).current = some c) {rounds : List Turn}
    (finishes : ∀ t ∈ rounds, t.Finishes) :
    let s := (create g start).after turns
    let q := s.queue.entries
    let s' := s.after rounds
    (s.repeatMode = .queue →
      (∃ c', s'.current = some c' ∧
        c' :: s'.queue.entries = (c :: q).rotate rounds.length) ∧
      (rounds.length = q.length + 1 →
        s'.current = some c ∧ s'.queue.entries = q ∧
          s.events rounds = (q ++ [c]).map (.nowPlaying g))) ∧
    (s.repeatMode = .off →
      (∀ k e, q[k]? = some e → rounds.length = k + 1 →
        s'.current = some e ∧ s'.queue.entries = q.drop (k + 1)) ∧
      (rounds.length = q.length + 1 →
        s'.status = .idle ∧ s'.current = none ∧ s'.queue = .empty)) := by
  intro s q s'
  have coherent : s.Coherent := coherent_after_create g start turns
  constructor
  · intro mode
    obtain ⟨c', loaded, turned⟩ := after_of_queue current mode finishes
    refine ⟨⟨c', loaded, turned⟩, fun whole => ?_⟩
    have back : c' :: s'.queue.entries = c :: q := by
      rw [turned, whole]
      exact List.rotate_length (c :: q)
    have played := events_of_queue current mode finishes (Nat.le_of_eq whole)
    have all : (q ++ [c]).take rounds.length = q ++ [c] :=
      List.take_of_length_le (by rw [whole, List.length_append]; rfl)
    have guild : s.guild = g := after_guild (create g start) turns
    rw [all, guild] at played
    obtain ⟨rfl, same⟩ := List.cons.inj back
    exact ⟨loaded, same, played⟩
  · intro mode
    have coherent' : s'.Coherent := after_induction (fun _ t h => h.next t) coherent rounds
    have left : s'.held = (c :: q).drop rounds.length := by
      rw [coherent.after_of_off mode finishes, held_of_current current]
    obtain ⟨first, others⟩ := coherent'.held_parts
    refine ⟨fun k e waiting many => ?_, fun all => ?_⟩
    · rw [many, List.drop_succ_cons] at left
      rw [first, others, left, List.head?_drop, List.tail_drop]
      exact ⟨waiting, rfl⟩
    · rw [all, List.drop_succ_cons, List.drop_length] at left
      rw [left] at first
      rcases coherent' with ⟨idle, _, _, nothing⟩ | ⟨_, loaded, _⟩
      · exact ⟨idle, first, nothing⟩
      · rw [first] at loaded
        cases loaded

/-- Three tracks: three ends on repeat play them round, two without repeat reach the last one, and the
third leaves nothing. -/
theorem goes_round_or_runs_out_of_three :
    let entry : UInt64 → String → Entry := fun id url => ⟨⟨id⟩, ⟨7⟩, ⟨url⟩, .unresolved ⟨url⟩⟩
    let b : Backend := { nextHandle := ⟨1⟩ }
    let adds : List Turn :=
      [⟨.enqueue (entry 1 "a") 5, b, 10⟩, ⟨.enqueue (entry 2 "b") 5, b, 20⟩,
        ⟨.enqueue (entry 3 "c") 5, b, 30⟩]
    let ends (n : Nat) : List Turn := List.replicate n ⟨.trackFinished, b, 50⟩
    let off := (create ⟨1⟩ 0).after adds
    let on := (create ⟨1⟩ 0).after (adds ++ [⟨.setRepeat .queue, b, 40⟩])
    (∀ n, ∀ t ∈ ends n, t.Finishes) ∧
      on.current = some (entry 1 "a") ∧ on.repeatMode = .queue ∧
      (on.after (ends 3)).current = some (entry 1 "a") ∧
      on.events (ends 3) = [entry 2 "b", entry 3 "c", entry 1 "a"].map (.nowPlaying ⟨1⟩) ∧
      off.current = some (entry 1 "a") ∧ off.repeatMode = .off ∧
      (off.after (ends 2)).current = some (entry 3 "c") ∧ (off.after (ends 3)).status = .idle := by
  intro entry b adds ends off on
  have finishes (n : Nat) : ∀ t ∈ ends n, t.Finishes := by
    intro t member
    rw [List.eq_of_mem_replicate member]
    exact ⟨rfl, fun _ _ _ => rfl⟩
  have loaded : on.current = some (entry 1 "a") := by decide
  have repeats : on.repeatMode = .queue := by decide
  have loaded' : off.current = some (entry 1 "a") := by decide
  have plain : off.repeatMode = .off := by decide
  obtain ⟨_, round⟩ := (goes_round_or_runs_out ⟨1⟩ 0 loaded (finishes 3)).1 repeats
  obtain ⟨again, _, played⟩ := round (by decide)
  obtain ⟨second, _⟩ := (goes_round_or_runs_out ⟨1⟩ 0 loaded' (finishes 2)).2 plain
  obtain ⟨_, last⟩ := (goes_round_or_runs_out ⟨1⟩ 0 loaded' (finishes 3)).2 plain
  refine ⟨finishes, loaded, repeats, again, ?_, loaded', plain, ?_, (last (by decide)).1⟩
  · rw [played]
    decide
  · exact (second 1 (entry 3 "c") (by decide) (by decide)).1

end Session

end Jukebox
