import Mathlib.Data.List.Nodup
import Jukebox.Proofs.Session.Coherence
import Jukebox.Proofs.Session.Held

/-!
No entry is lost and none is doubled. A turn may take one entry in; what it gives up is handed over
in its answer, signalled as failed, or dropped by an act whose purpose that is. Over a run the entries
that came in are those that are held and those that have gone, so an entry that has gone stays away.
-/

namespace Jukebox

open scoped List

namespace Signals

/-- The entries whose failure is signalled. -/
def lost (signals : Signals) : List Entry := (signals.events.filterMap Event.failure?).map Prod.fst

theorem lost_append (a b : Signals) : (a ++ b).lost = a.lost ++ b.lost := by
  change ((a.events ++ b.events).filterMap Event.failure?).map Prod.fst = _
  rw [List.filterMap_append, List.map_append]
  rfl

end Signals

/-- The entries that an answer hands over. -/
def SessionReply.handed : SessionReply → List Entry
  | .entry e => [e]
  | .entries es => es
  | _ => []

/-- The entries that the answer of an operation hands over; a refusal hands nothing over. -/
def Outcome.handed (o : Outcome (Except PlayerError SessionReply)) : List Entry :=
  match o.result with
  | .ok reply => reply.handed
  | .error _ => []

/-- The entries that an act drops without naming each: the finished one unless it is repeated, and
all that is given up at once. -/
def SessionAct.drops (a : SessionAct) (s : Session) : List Entry :=
  match a with
  | .trackFinished => if s.repeatMode = .off then s.current.toList else []
  | .stop | .release => s.held
  | .clearQueue => s.queue.entries
  | _ => []

namespace Turn

/-- The entry that a turn takes in: an added one, if the queue has room for it. If the backend
refuses it on the spot, it is taken in and lost in the same turn. -/
def accepted (t : Turn) (s : Session) : List Entry :=
  match t.act with
  | .enqueue e capacity => if s.queue.length < capacity then [e] else []
  | _ => []

/-- The entries that a turn reports as gone. -/
def gone (t : Turn) (s : Session) : List Entry :=
  (t.outcome s).handed ++ (t.outcome s).signals.lost ++ t.act.drops s

end Turn

namespace Session

theorem lost_refusals (g : GuildId) (refused : List (Entry × PlayerError)) :
    (refusals g refused).lost = refused.map Prod.fst := by
  induction refused with
  | nil => rfl
  | cons r refused ih => exact congrArg (r.1 :: ·) ih

theorem lost_ending (s : Session) : s.ending.lost = [] := by
  unfold ending
  split
  · rfl
  · rfl

theorem held_of_current {s : Session} {e : Entry} (current : s.current = some e) :
    s.held = e :: s.queue.entries := by
  rw [held, current]
  rfl

theorem Coherent.held_of_idle {s : Session} (h : s.Coherent) (idle : s.status = .idle) :
    s.held = [] := by
  rw [held, h.current_of_idle idle, h.queue_of_idle idle]
  rfl

/-- The entry in front of all that is held is loaded, and the others wait. -/
theorem Coherent.held_parts {s : Session} (h : s.Coherent) :
    s.current = s.held.head? ∧ s.queue.entries = s.held.tail := by
  by_cases idle : s.status = .idle
  · rw [h.held_of_idle idle, h.current_of_idle idle, h.queue_of_idle idle]
    exact ⟨rfl, rfl⟩
  · obtain ⟨e, current⟩ := Option.isSome_iff_exists.mp (h.current_of_not_idle idle)
    rw [held_of_current current]
    exact ⟨current, rfl⟩

/-- Of the queue some entries fail, from the front; the others are held. -/
theorem startNext_conserves (b : Backend) (now : Nat) (s : Session) :
    s.queue.entries = (startNext b now s).signals.lost ++ (startNext b now s).session.held := by
  rcases startNext_outcome b now s with ⟨refused, e, rest, split, same⟩ | ⟨refused, split, same⟩
  · rw [same, split, Signals.lost_append, lost_refusals]
    exact (List.append_assoc _ [] _).symm
  · rw [same, split, Signals.lost_append, lost_refusals, lost_ending]
    simp [held, emptied]

theorem enqueue_conserves {s : Session} (h : s.Coherent) (e : Entry) (capacity : Nat) (b : Backend)
    (now : Nat) :
    ((if s.queue.length < capacity then [e] else []) ++ s.held).Perm
      ((s.enqueue e capacity b now).signals.lost ++ (s.enqueue e capacity b now).session.held) := by
  rcases s.enqueue_cases e capacity b now with
    ⟨full, same⟩ | ⟨room, _, same⟩ | ⟨room, idle, result, _, same⟩
  · rw [same, if_neg (Nat.not_lt.mpr full)]
    exact .refl _
  · rw [same, if_pos room]
    exact List.perm_append_comm.trans (.of_eq (List.append_assoc _ _ _))
  · -- An idle session plays nothing that the start could drop.
    have silent : s.held = s.queue.entries := by rw [held, h.current_of_idle idle]; rfl
    have start := startNext_conserves b now
      { s with queue := ⟨s.queue.entries ++ [e]⟩, lastActivity := now }
    rw [same, if_pos room, silent]
    exact List.perm_append_comm.trans (.of_eq start)

/-- A finished entry is dropped, or is played again, or waits behind all others. -/
theorem trackFinished_conserves (b : Backend) (now : Nat) (s : Session) :
    s.held.Perm ((s.trackFinished b now).signals.lost ++
      (if s.repeatMode = .off then s.current.toList else []) ++
      (s.trackFinished b now).session.held) := by
  cases current : s.current with
  | none =>
      simp only [trackFinished, current, Option.toList_none, ite_self]
      exact .refl _
  | some finished =>
      have start := startNext_conserves b now s
      rw [held_of_current current]
      rcases trackFinished_cases current b now with
        ⟨off, same⟩ | ⟨queue, same⟩ | ⟨track, same⟩ | ⟨track, refusal, same⟩
      · rw [same, if_pos off, start, List.append_assoc]
        exact List.perm_middle.symm
      · have later := startNext_conserves b now
          { s with queue := ⟨s.queue.entries ++ [finished]⟩ }
        rw [same, if_neg (by simp [queue]), List.append_nil]
        exact (List.perm_append_singleton _ _).symm.trans (.of_eq later)
      · rw [same, if_neg (by simp [track])]
        exact .refl _
      · have later := startNext_conserves (b.record [.refuse s.guild finished.id]) now s
        rw [same, if_neg (by simp [track]), Signals.lost_append, lost_refusals, later]
        simp

theorem trackFailed_conserves (reason : String) (b : Backend) (now : Nat) (s : Session) :
    s.held.Perm
      ((s.trackFailed reason b now).signals.lost ++ (s.trackFailed reason b now).session.held) := by
  cases current : s.current with
  | none =>
      simp only [trackFailed, current]
      exact .refl _
  | some failed =>
      simp only [trackFailed, current, Signals.lost_append, List.append_assoc]
      rw [held_of_current current]
      exact .of_eq (congrArg (failed :: ·) (startNext_conserves b now s))

theorem skip_conserves (b : Backend) (now : Nat) (s : Session) :
    s.held.Perm (((s.skip b now).map (·.map .entry)).handed ++ (s.skip b now).signals.lost ++
      (s.skip b now).session.held) := by
  cases current : s.current with
  | none =>
      simp only [skip, current]
      exact .refl _
  | some skipped =>
      simp only [skip, current]
      rw [held_of_current current]
      exact .of_eq (congrArg (skipped :: ·) (startNext_conserves b now s))

/-- What an edit hands over is what its answer says. -/
theorem edit_conserves {α : Type} {s : Session} {r : Except QueueError (α × Queue)}
    {reply : α → SessionReply} (parts : s.queue.Parts (fun a => (reply a).handed) r) (now : Nat) :
    s.held.Perm (((s.edit now r).map (·.map reply)).handed ++ (s.edit now r).signals.lost ++
      (s.edit now r).session.held) := by
  cases r with
  | error e => exact .refl _
  | ok edited =>
      have kept := (parts _ _ rfl).append_left s.current.toList
      change s.held.Perm ((reply edited.1).handed ++ [] ++ (s.current.toList ++ edited.2.entries))
      rw [List.append_nil]
      exact kept.trans (List.perm_append_comm_assoc _ _ _)

theorem shuffle_conserves (arrangement : Arrangement) (now : Nat) (s : Session) :
    s.held.Perm (((s.shuffle arrangement now).map (·.map fun _ => .done)).handed ++
      (s.shuffle arrangement now).signals.lost ++ (s.shuffle arrangement now).session.held) := by
  unfold shuffle
  split
  · exact .refl _
  · exact edit_conserves (s.queue.shuffle_parts arrangement) now

end Session

/-- What was held and what is taken in is, entry for entry, what has gone and what is held. -/
theorem Turn.conserves {s : Session} (h : s.Coherent) (t : Turn) :
    (t.accepted s ++ s.held).Perm (t.gone s ++ (t.next s).held) := by
  obtain ⟨act, b, now⟩ := t
  simp only [accepted, gone, SessionAct.drops]
  cases act with
  | enqueue e capacity =>
      have silent : ((s.enqueue e capacity b now).map (·.map .enqueued)).handed = [] := by
        unfold Outcome.handed Outcome.map
        cases (s.enqueue e capacity b now).result with
        | error err => rfl
        | ok place => rfl
      rw [List.append_nil, outcome, SessionAct.run, silent]
      exact Session.enqueue_conserves h e capacity b now
  | pause =>
      simp only [outcome, next, SessionAct.run, Session.pause]
      split
      · exact .refl _
      · exact .refl _
  | resume =>
      simp only [outcome, next, SessionAct.run, Session.resume]
      split
      · exact .refl _
      · exact .refl _
  | trackStarted =>
      simp only [outcome, next, SessionAct.run, Session.trackStarted]
      split
      · exact .refl _
      · exact .refl _
  | trackFinished => exact Session.trackFinished_conserves b now s
  | trackFailed reason =>
      rw [List.append_nil]
      exact Session.trackFailed_conserves reason b now s
  | skip =>
      rw [List.append_nil]
      exact Session.skip_conserves b now s
  | stop | release => exact .of_eq (List.append_nil _).symm
  | clearQueue =>
      change s.held.Perm (s.queue.entries ++ (s.current.toList ++ []))
      rw [List.append_nil]
      exact List.perm_append_comm
  | setRepeat mode => exact .refl _
  | removeAt position =>
      rw [List.append_nil]
      exact Session.edit_conserves (s.queue.removeAt_parts position) now
  | removeByRequester m =>
      rw [List.append_nil]
      exact Session.edit_conserves (s.queue.removeByRequester_parts m) now
  | swap x y =>
      rw [List.append_nil]
      exact Session.edit_conserves (s.queue.swap_parts x y) now
  | move source target =>
      rw [List.append_nil]
      exact Session.edit_conserves (s.queue.move_parts source target) now
  | shuffle arrangement =>
      rw [List.append_nil]
      exact Session.shuffle_conserves arrangement now s

namespace Session

/-- The entries that a run takes in. -/
def accepted (s : Session) : List Turn → List Entry
  | [] => []
  | t :: turns => t.accepted s ++ (t.next s).accepted turns

/-- The entries that are gone by the end of a run. -/
def gone (s : Session) : List Turn → List Entry
  | [] => []
  | t :: turns => t.gone s ++ (t.next s).gone turns

theorem gone_append (s : Session) (before later : List Turn) :
    s.gone (before ++ later) = s.gone before ++ (s.after before).gone later := by
  induction before generalizing s with
  | nil => rfl
  | cons t before ih =>
      have step : s.gone (t :: before ++ later) = t.gone s ++ (t.next s).gone (before ++ later) := rfl
      rw [step, ih (t.next s)]
      exact (List.append_assoc _ _ _).symm

theorem after_conserves {s : Session} (h : s.Coherent) (turns : List Turn) :
    (s.accepted turns ++ s.held).Perm (s.gone turns ++ (s.after turns).held) := by
  induction turns generalizing s with
  | nil => exact .refl _
  | cons t turns ih =>
      have first := t.conserves h
      have later := ih (h.next t)
      calc t.accepted s ++ (t.next s).accepted turns ++ s.held
        _ ~ (t.next s).accepted turns ++ (t.accepted s ++ s.held) := by
            rw [← List.append_assoc]
            exact List.perm_append_comm.append_right _
        _ ~ (t.next s).accepted turns ++ (t.gone s ++ (t.next s).held) := first.append_left _
        _ ~ t.gone s ++ ((t.next s).accepted turns ++ (t.next s).held) :=
            List.perm_append_comm_assoc _ _ _
        _ ~ t.gone s ++ ((t.next s).gone turns ++ ((t.next s).after turns).held) :=
            later.append_left _
        _ = _ := (List.append_assoc _ _ _).symm

/-- A run takes in nothing but what its acts bring. -/
theorem accepted_sublist (s : Session) (turns : List Turn) :
    (s.accepted turns).Sublist (turns.filterMap fun t => t.act.brings?) := by
  induction turns generalizing s with
  | nil => exact .slnil
  | cons t turns ih =>
      obtain ⟨act, b, now⟩ := t
      cases act with
      | enqueue e capacity =>
          simp only [accepted, Turn.accepted, List.filterMap_cons, SessionAct.brings?]
          split
          · exact (ih _).cons_cons e
          · exact (ih _).cons e
      | _ => exact ih _

variable (g : GuildId) (start : Nat) {turns : List Turn}

/-- If no two enqueues bring the same id, those that have gone and those that are held at the end
are different entries, each of them once. -/
theorem nodup_gone_held
    (fresh : ((turns.filterMap fun t => t.act.brings?).map (·.id)).Nodup) :
    (((create g start).gone turns ++ ((create g start).after turns).held).map (·.id)).Nodup := by
  have balance := after_conserves (.create g start) turns
  have nothing : (create g start).held = [] := rfl
  rw [nothing, List.append_nil] at balance
  rw [← (balance.map _).nodup_iff]
  exact fresh.sublist ((accepted_sublist _ turns).map _)

/-- What has gone is not held any more. -/
theorem not_held_of_gone (fresh : ((turns.filterMap fun t => t.act.brings?).map (·.id)).Nodup)
    {before later : List Turn} {t : Turn} (split : turns = before ++ t :: later) {e k : Entry}
    (gone : e ∈ t.gone ((create g start).after before))
    (held : k ∈ ((create g start).after turns).held) : k.id ≠ e.id := by
  have distinct := nodup_gone_held g start fresh
  rw [List.map_append, List.nodup_append] at distinct
  have earlier : e ∈ (create g start).gone turns := by
    rw [split, gone_append]
    exact List.mem_append_right _ (List.mem_append_left _ gone)
  exact (distinct.2.2 _ (List.mem_map_of_mem earlier) _ (List.mem_map_of_mem held)).symm

/-- If no two enqueues bring the same id, then whatever the backend refuses: the entries that a
session holds are different; each turn splits what it found and took in into what it reports gone
and what it leaves; the two acts that count what they drop count right; and what has gone stays
away. -/
theorem entries_conserved (fresh : ((turns.filterMap fun t => t.act.brings?).map (·.id)).Nodup) :
    let s := (create g start).after turns
    (s.held.map (·.id)).Nodup ∧
      (∀ t : Turn, (t.accepted s ++ s.held).Perm (t.gone s ++ (t.next s).held)) ∧
      (∀ now, (s.stop now).result = s.queue.entries.length ∧ (s.stop now).session.held = [] ∧
        (s.clearQueue now).result = s.queue.entries.length ∧
        (s.clearQueue now).session.held = s.current.toList) ∧
      ∀ before t later, turns = before ++ t :: later →
        ∀ e ∈ t.gone ((create g start).after before), ∀ k ∈ s.held, k.id ≠ e.id := by
  refine ⟨?_, fun t => t.conserves (coherent_after_create g start turns),
    fun _ => ⟨rfl, rfl, rfl, List.append_nil _⟩, ?_⟩
  · have distinct := nodup_gone_held g start fresh
    rw [List.map_append] at distinct
    exact distinct.of_append_right
  · intro before t later split e gone k held
    exact not_held_of_gone g start fresh split gone held

/-- The second of three tracks is refused when the first is skipped; both stay away while the third
plays. -/
theorem entries_conserved_of_skip :
    let entry : UInt64 → String → Entry := fun id url => ⟨⟨id⟩, ⟨7⟩, ⟨url⟩, .unresolved ⟨url⟩⟩
    let b : Backend := Backend.refuse { nextHandle := ⟨1⟩ } "b" "gone"
    let adds : List Turn :=
      [⟨.enqueue (entry 1 "a") 5, b, 10⟩, ⟨.enqueue (entry 2 "b") 5, b, 20⟩,
        ⟨.enqueue (entry 3 "c") 5, b, 30⟩]
    let skip : Turn := ⟨.skip, b, 40⟩
    let s := (create ⟨1⟩ 0).after (adds ++ [skip])
    (((adds ++ [skip]).filterMap fun t => t.act.brings?).map (·.id)).Nodup ∧
      s.held = [entry 3 "c"] ∧ ∀ e ∈ [entry 1 "a", entry 2 "b"], ∀ k ∈ s.held, k.id ≠ e.id := by
  intro entry b adds skip s
  have fresh : (((adds ++ [skip]).filterMap fun t => t.act.brings?).map (·.id)).Nodup := by decide
  obtain ⟨_, _, _, away⟩ := entries_conserved ⟨1⟩ 0 fresh
  refine ⟨fresh, by decide, fun e gone => away adds skip [] rfl e ?_⟩
  have both : skip.gone ((create ⟨1⟩ 0).after adds) = [entry 1 "a", entry 2 "b"] := by decide
  rwa [both]

end Session

end Jukebox
