import Jukebox.Proofs.Session.Coherence
import Jukebox.Proofs.Session.Frame

/-!
What the answer to an added entry tells. An idle session holds nothing, so the added entry is the only
one that it can try: it plays, or its failure is the latest of all. Any other session lets it wait. So
each answer is given in one case only, and it tells where the entry is.
-/

namespace Jukebox

namespace Session

/-- The latest failure of an entry is found, whatever was signalled before. -/
theorem failureReason?_append (earlier : List Event) (g : GuildId) (e : Entry) (reason : String) :
    failureReason? e.id (earlier ++ [.trackFailed g e reason]) = some reason := by
  simp [failureReason?, Event.failure?]

/-- The session with an entry added behind those that wait. -/
def added (s : Session) (e : Entry) (now : Nat) : Session :=
  { s with queue := ⟨s.queue.entries ++ [e]⟩, lastActivity := now }

/-- An idle session tries the added entry and no other. -/
theorem Coherent.startNext_added {s : Session} (h : s.Coherent) (idle : s.status = .idle)
    (e : Entry) (b : Backend) (now : Nat) :
    (b.refusal? s.guild e = none ∧
      startNext b now (s.added e now) =
        { result := ()
          session := s.loaded e b.nextHandle [] now
          signals := loading s.guild e b.nextHandle }) ∨
    (∃ refusal, b.refusal? s.guild e = some refusal ∧
      startNext b now (s.added e now) =
        { result := ()
          session := s.emptied now
          signals := refusals s.guild [(e, refusal)] }) := by
  let tried : Session := { s.added e now with current := none, stream := none }
  have alone : startNext b now (s.added e now) = startFrom b now tried [e] := by
    change startFrom b now tried (s.queue.entries ++ [e]) = _
    rw [h.queue_of_idle idle]
    rfl
  have silent : tried.ending = {} := if_pos (decide_eq_true idle)
  rw [alone]
  -- A trial of one entry ends with that entry, one way or the other.
  rcases startFrom_trial b now tried [e] with ⟨refused, e', rest, trial, same⟩ | ⟨_, trial, same⟩
  · cases trial with
    | accepted accepts => exact .inl ⟨accepts, same⟩
    | refused _ later => cases later
  · cases trial with
    | refused refuses later =>
        cases later
        rw [silent] at same
        exact .inr ⟨_, refuses, same⟩

/-- An idle session with room for the entry starts it and then looks where it is. -/
theorem enqueue_of_idle {s : Session} (idle : s.status = .idle) {capacity : Nat}
    (room : s.queue.length < capacity) (e : Entry) (b : Backend) (now : Nat) :
    s.enqueue e capacity b now =
      let o := startNext b now (s.added e now)
      o.map fun _ =>
        if o.session.currentId = some e.id then .ok .nowPlaying
        else match o.session.queue.entries.findIdx? (fun q => q.id = e.id) with
          | some p => .ok (.queued p)
          | none => .error (.load ((failureReason? e.id o.signals.events).getD "")) := by
  rw [enqueue, Queue.tryEnqueue, if_neg (Nat.not_le.mpr room)]
  exact if_pos (decide_eq_true idle)

/-- What becomes of an added entry, with the answer. -/
inductive Placement (s : Session) (e : Entry) (capacity : Nat) (b : Backend) (now : Nat) :
    Outcome (Except PlayerError Enqueued) → Prop
  | declined (full : capacity ≤ s.queue.length) :
      Placement s e capacity b now (s.refuse (QueueError.full capacity).toPlayerError)
  | waits (loaded : s.current.isSome) (room : s.queue.length < capacity) :
      Placement s e capacity b now
        { result := .ok (.queued s.queue.length), session := s.added e now }
  | plays (idle : s.status = .idle) (room : 1 ≤ capacity)
      (accepts : b.refusal? s.guild e = none) :
      Placement s e capacity b now
        { result := .ok .nowPlaying
          session := s.loaded e b.nextHandle [] now
          signals := loading s.guild e b.nextHandle }
  | fails (idle : s.status = .idle) (room : 1 ≤ capacity) {refusal : PlayerError}
      (refuses : b.refusal? s.guild e = some refusal) :
      Placement s e capacity b now
        { result := .error (.load refusal.message)
          session := s.emptied now
          signals := refusals s.guild [(e, refusal)] }

theorem Coherent.placement {s : Session} (h : s.Coherent) (e : Entry) (capacity : Nat)
    (b : Backend) (now : Nat) : Placement s e capacity b now (s.enqueue e capacity b now) := by
  rcases s.enqueue_cases e capacity b now with
    ⟨full, same⟩ | ⟨room, busy, same⟩ | ⟨room, idle, _⟩
  · rw [same]
    exact .declined full
  · rw [same]
    exact .waits (h.current_of_not_idle busy) room
  · have some_room : 1 ≤ capacity := Nat.one_le_of_lt room
    rw [enqueue_of_idle idle room]
    rcases h.startNext_added idle e b now with ⟨accepts, same⟩ | ⟨refusal, refuses, same⟩
    · rw [same]
      dsimp only [Outcome.map]
      rw [show (s.loaded e b.nextHandle [] now).currentId = some e.id from rfl, if_pos rfl]
      exact .plays idle some_room accepts
    · have reason : failureReason? e.id (refusals s.guild [(e, refusal)]).events =
          some refusal.message := failureReason?_append [] s.guild e refusal.message
      rw [same]
      dsimp only [Outcome.map]
      rw [reason]
      exact .fails idle some_room refuses

/-- What the answer to an added entry says about the session before, and about the one after. -/
structure Receipt (s : Session) (e : Entry) (capacity : Nat) (b : Backend)
    (o : Outcome (Except PlayerError Enqueued)) : Prop where
  queued_iff : ∀ p, o.result = .ok (.queued p) ↔
    s.current.isSome ∧ s.queue.length < capacity ∧ p = s.queue.length
  queued : ∀ p, o.result = .ok (.queued p) →
    o.session.queue.entries = s.queue.entries ++ [e] ∧ o.session.queue.entries[p]? = some e ∧
      o.session.current = s.current
  playing_iff : o.result = .ok .nowPlaying ↔
    s.status = .idle ∧ 1 ≤ capacity ∧ b.refusal? s.guild e = none
  playing : o.result = .ok .nowPlaying →
    o.session.current = some e ∧ o.session.status = .playing ∧ o.session.queue = .empty
  load_iff : ∀ m, o.result = .error (.load m) ↔
    s.status = .idle ∧ 1 ≤ capacity ∧ ∃ err, b.refusal? s.guild e = some err ∧ err.message = m
  load : ∀ m, o.result = .error (.load m) →
    o.session.status = .idle ∧ o.session.current = none ∧ o.session.queue = .empty
  otherwise : (∃ p, o.result = .ok (.queued p)) ∨ o.result = .ok .nowPlaying ∨
    (∃ m, o.result = .error (.load m)) ∨ ∃ text, o.result = .error (.validation text)

theorem Placement.receipt {s : Session} (h : s.Coherent) {e : Entry} {capacity : Nat}
    {b : Backend} {now : Nat} {o : Outcome (Except PlayerError Enqueued)}
    (placed : Placement s e capacity b now o) : Receipt s e capacity b o := by
  cases placed with
  | declined full =>
      have closed : s.status = .idle → ¬ 1 ≤ capacity := by
        intro idle room
        rw [h.queue_of_idle idle] at full
        exact absurd (Nat.le_trans room full) (Nat.not_succ_le_zero 0)
      exact
        { queued_iff := fun _ => ⟨nofun, fun ⟨_, room, _⟩ => absurd room (Nat.not_lt.mpr full)⟩
          queued := nofun
          playing_iff := ⟨nofun, fun ⟨idle, room, _⟩ => absurd room (closed idle)⟩
          playing := nofun
          load_iff := fun _ => ⟨nofun, fun ⟨idle, room, _⟩ => absurd room (closed idle)⟩
          load := nofun
          otherwise := .inr (.inr (.inr ⟨_, rfl⟩)) }
  | waits loaded room =>
      have busy : s.status ≠ .idle := h.not_idle_of_current loaded
      have last : (s.queue.entries ++ [e])[s.queue.entries.length]? = some e :=
        List.getElem?_concat_length
      exact
        { queued_iff := fun _ =>
            ⟨by rintro ⟨⟩; exact ⟨loaded, room, rfl⟩, fun ⟨_, _, same⟩ => by rw [same]⟩
          queued := by rintro _ ⟨⟩; exact ⟨rfl, last, rfl⟩
          playing_iff := ⟨nofun, fun ⟨idle, _⟩ => absurd idle busy⟩
          playing := nofun
          load_iff := fun _ => ⟨nofun, fun ⟨idle, _⟩ => absurd idle busy⟩
          load := nofun
          otherwise := .inl ⟨_, rfl⟩ }
  | plays idle room accepts =>
      have unloaded : ¬ s.current.isSome := by simp [h.current_of_idle idle]
      exact
        { queued_iff := fun _ => ⟨nofun, fun ⟨loaded, _⟩ => absurd loaded unloaded⟩
          queued := nofun
          playing_iff := ⟨fun _ => ⟨idle, room, accepts⟩, fun _ => rfl⟩
          playing := fun _ => ⟨rfl, rfl, rfl⟩
          load_iff := fun _ => ⟨nofun, fun ⟨_, _, _, refuses, _⟩ => by simp [accepts] at refuses⟩
          load := nofun
          otherwise := .inr (.inl rfl) }
  | @fails idle room refusal refuses =>
      have unloaded : ¬ s.current.isSome := by simp [h.current_of_idle idle]
      exact
        { queued_iff := fun _ => ⟨nofun, fun ⟨loaded, _⟩ => absurd loaded unloaded⟩
          queued := nofun
          playing_iff := ⟨nofun, fun ⟨_, _, accepts⟩ => by simp [refuses] at accepts⟩
          playing := nofun
          load_iff := fun _ =>
            ⟨by rintro ⟨⟩; exact ⟨idle, room, refusal, refuses, rfl⟩,
              fun ⟨_, _, _, same, text⟩ => by
                cases refuses.symm.trans same
                rw [← text]⟩
          load := fun _ _ => ⟨rfl, rfl, rfl⟩
          otherwise := .inr (.inr (.inl ⟨_, rfl⟩)) }

/-- In every reachable session an added entry is answered by a receipt. Once an idle session has
tried the entry, either it plays, or it waits nowhere and the reason in the answer is found as that of
its latest failure, whatever events are still unread. -/
theorem enqueue_receipt (g : GuildId) (start : Nat) (turns : List Turn) (e : Entry)
    (capacity : Nat) (b : Backend) (now : Nat) :
    let s := (create g start).after turns
    let o := s.enqueue e capacity b now
    Receipt s e capacity b o ∧
      (s.status = .idle → 1 ≤ capacity →
        let tried := startNext b now (s.added e now)
        tried.session.currentId = some e.id ∨
          tried.session.queue.entries.findIdx? (fun q => q.id = e.id) = none ∧
            ∃ reason, o.result = .error (.load reason) ∧
              ∀ unread, failureReason? e.id (unread ++ tried.signals.events) = some reason) := by
  intro s o
  have coherent : s.Coherent := coherent_after_create g start turns
  have receipt : Receipt s e capacity b o := (coherent.placement e capacity b now).receipt coherent
  refine ⟨receipt, fun idle room => ?_⟩
  rcases coherent.startNext_added idle e b now with ⟨_, same⟩ | ⟨refusal, refuses, same⟩
  · rw [same]
    exact .inl rfl
  · have answered := (receipt.load_iff _).mpr ⟨idle, room, refusal, refuses, rfl⟩
    rw [same]
    exact .inr ⟨rfl, _, answered, fun unread => failureReason?_append unread s.guild e _⟩

/-- A track is refused twice. The second answer gives the second reason, though the report of the
first failure is still unread. -/
theorem enqueue_receipt_of_second_refusal :
    let e : Entry := ⟨⟨1⟩, ⟨7⟩, ⟨"a"⟩, .unresolved ⟨"a"⟩⟩
    let b : Backend := { nextHandle := ⟨1⟩ }
    let s := (create ⟨1⟩ 0).after [⟨.enqueue e 5, b.refuse "a" "gone", 10⟩]
    let reason := (PlayerError.load "blocked").message
    s.status = .idle ∧ (s.enqueue e 5 (b.refuse "a" "blocked") 20).result = .error (.load reason) ∧
      failureReason? e.id
        ([.trackFailed ⟨1⟩ e (PlayerError.load "gone").message] ++
          (startNext (b.refuse "a" "blocked") 20 (s.added e 20)).signals.events) = some reason := by
  intro e b s reason
  have idle : s.status = .idle := by decide
  obtain ⟨receipt, found⟩ := enqueue_receipt ⟨1⟩ 0 [⟨.enqueue e 5, b.refuse "a" "gone", 10⟩] e 5
    (b.refuse "a" "blocked") 20
  have refused : (s.enqueue e 5 (b.refuse "a" "blocked") 20).result = .error (.load reason) :=
    (receipt.load_iff reason).mpr ⟨idle, by decide, .load "blocked", rfl, rfl⟩
  rcases found idle (by decide) with plays | ⟨_, reason', answered, latest⟩
  · exact absurd plays (by decide)
  · cases refused.symm.trans answered
    exact ⟨idle, refused, latest _⟩

end Session

end Jukebox
