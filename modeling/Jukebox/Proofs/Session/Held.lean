import Jukebox.Proofs.Queue.Positions
import Jukebox.Proofs.Session.Frame

/-!
What a session holds: the loaded entry and those that wait. An act may bring one entry in; whatever
else it does, it drops entries and rearranges them.
-/

namespace Jukebox

namespace Queue

/-- An edit, if it is not refused, hands some entries of the queue over and keeps all others. -/
def Parts {α : Type} (q : Queue) (handed : α → List Entry) (r : Except QueueError (α × Queue)) :
    Prop :=
  ∀ a q', r = .ok (a, q') → q.entries.Perm (handed a ++ q'.entries)

/-- A rearrangement hands nothing over. -/
theorem parts_map {q : Queue} {r : Except QueueError Queue}
    (perm : ∀ q', r = .ok q' → q.entries.Perm q'.entries) :
    q.Parts (fun _ => []) (r.map fun q' => ((), q')) := by
  intro _ q' same
  cases r with
  | error e => cases same
  | ok edited =>
      cases same
      exact perm _ rfl

theorem removeAt_parts (q : Queue) (position : Nat) :
    q.Parts (fun e => [e]) (q.removeAt position) := by
  intro e q' same
  rcases q.removeAt_cases position with ⟨_, refused⟩ | ⟨e', found, done⟩
  · rw [refused] at same
    cases same
  · rw [done] at same
    cases same
    obtain ⟨_, rfl⟩ := List.getElem?_eq_some_iff.mp found
    exact (List.getElem_cons_eraseIdx_perm _).symm

theorem removeByRequester_parts (q : Queue) (m : MemberId) :
    q.Parts id (q.removeByRequester m) := by
  intro removed q' same
  rcases q.removeByRequester_cases m with ⟨_, refused⟩ | ⟨_, done⟩
  · rw [refused] at same
    cases same
  · rw [done] at same
    cases same
    simpa using (List.filter_append_perm (fun e => decide (e.requester = m)) q.entries).symm

theorem swap_parts (q : Queue) (a b : Nat) :
    q.Parts (fun _ => []) ((q.swap a b).map fun q' => ((), q')) :=
  parts_map fun _ done => (swap_perm done).symm

theorem move_parts (q : Queue) (source target : Nat) :
    q.Parts (fun _ => []) ((q.move source target).map fun q' => ((), q')) :=
  parts_map fun _ done => (move_perm done).symm

theorem shuffle_parts (q : Queue) (arrangement : Arrangement) :
    q.Parts (fun _ => []) (.ok ((), q.shuffle arrangement)) := by
  rintro _ q' same
  cases same
  exact (arrangement.perm q.entries).symm

end Queue

namespace Session

def held (s : Session) : List Entry := s.current.toList ++ s.queue.entries

theorem mem_held {s : Session} {e : Entry} :
    e ∈ s.held ↔ s.current = some e ∨ e ∈ s.queue.entries := by
  rw [held, List.mem_append, Option.mem_toList]

theorem held_of_fewer {s s' : Session} (current : s'.current = s.current)
    (within : s'.queue.entries ⊆ s.queue.entries) : s'.held ⊆ s.held := by
  intro e member
  rw [mem_held, current] at member
  exact mem_held.mpr (member.imp_right fun queued => within queued)

/-- What is loaded next was waiting, and so was all that waits on. -/
theorem startNext_held (b : Backend) (now : Nat) (s : Session) :
    (startNext b now s).session.held ⊆ s.queue.entries := by
  rcases startNext_session b now s with ⟨refused, e, rest, split, same⟩ | same
  · rw [same, split]
    exact List.subset_append_right refused (e :: rest)
  · rw [same]
    exact List.nil_subset _

theorem startNext_held_of_subset {s : Session} (s' : Session) (b : Backend) (now : Nat)
    (within : s'.queue.entries ⊆ s.held) : (startNext b now s').session.held ⊆ s.held :=
  List.Subset.trans (startNext_held b now s') within

theorem queued_held (s : Session) : s.queue.entries ⊆ s.held := List.subset_append_right _ _

theorem edit_held {α : Type} {s : Session} {handed : α → List Entry}
    {r : Except QueueError (α × Queue)} (parts : s.queue.Parts handed r) (now : Nat) :
    (s.edit now r).session.held ⊆ s.held := by
  cases r with
  | error e => exact List.Subset.refl _
  | ok edited =>
      have kept := (parts _ _ rfl).symm.subset
      exact held_of_fewer rfl (List.append_subset.mp kept).2

theorem pause_held (now : Nat) (s : Session) : (s.pause now).session.held ⊆ s.held := by
  unfold pause
  split
  · exact held_of_fewer rfl (List.Subset.refl _)
  · exact List.Subset.refl _

theorem resume_held (now : Nat) (s : Session) : (s.resume now).session.held ⊆ s.held := by
  unfold resume
  split
  · exact held_of_fewer rfl (List.Subset.refl _)
  · exact List.Subset.refl _

theorem trackStarted_held (now : Nat) (s : Session) :
    (s.trackStarted now).session.held ⊆ s.held := by
  unfold trackStarted
  split
  · exact List.Subset.refl _
  · exact held_of_fewer rfl (List.Subset.refl _)

/-- A repeated track is loaded again or goes to the back of the queue. -/
theorem trackFinished_held (b : Backend) (now : Nat) (s : Session) :
    (s.trackFinished b now).session.held ⊆ s.held := by
  cases current : s.current with
  | none =>
      simp only [trackFinished, current]
      exact List.Subset.refl _
  | some finished =>
      have there : finished ∈ s.held := mem_held.mpr (.inl current)
      rcases trackFinished_cases current b now with
        ⟨_, same⟩ | ⟨_, same⟩ | ⟨_, same⟩ | ⟨_, _, same⟩
      · rw [same]
        exact startNext_held_of_subset s b now s.queued_held
      · have longer : s.queue.entries ++ [finished] ⊆ s.held :=
          List.append_subset.mpr ⟨s.queued_held, List.cons_subset.mpr ⟨there, List.nil_subset _⟩⟩
        rw [same]
        exact startNext_held_of_subset { s with queue := ⟨s.queue.entries ++ [finished]⟩ } b now longer
      · rw [same]
        exact List.cons_subset.mpr ⟨there, s.queued_held⟩
      · rw [same]
        exact startNext_held_of_subset s _ now s.queued_held

theorem trackFailed_held (reason : String) (b : Backend) (now : Nat) (s : Session) :
    (s.trackFailed reason b now).session.held ⊆ s.held := by
  unfold trackFailed
  split
  · exact List.Subset.refl _
  · exact startNext_held_of_subset s _ now s.queued_held

theorem skip_held (b : Backend) (now : Nat) (s : Session) :
    (s.skip b now).session.held ⊆ s.held := by
  unfold skip
  split
  · exact List.Subset.refl _
  · exact startNext_held_of_subset s _ now s.queued_held

theorem shuffle_held (arrangement : Arrangement) (now : Nat) (s : Session) :
    (s.shuffle arrangement now).session.held ⊆ s.held := by
  unfold shuffle
  split
  · exact List.Subset.refl _
  · exact edit_held (s.queue.shuffle_parts arrangement) now

theorem enqueue_held (e : Entry) (capacity : Nat) (b : Backend) (now : Nat) (s : Session) :
    (s.enqueue e capacity b now).session.held ⊆ e :: s.held := by
  have longer : s.queue.entries ++ [e] ⊆ e :: s.held := by
    have new : [e] ⊆ e :: s.held := List.cons_subset.mpr ⟨.head _, List.nil_subset _⟩
    exact List.append_subset.mpr ⟨List.subset_cons_of_subset _ s.queued_held, new⟩
  rcases s.enqueue_cases e capacity b now with ⟨_, same⟩ | ⟨_, _, same⟩ | ⟨_, _, _, _, same⟩
  · rw [same]
    exact List.subset_cons_self _ _
  · rw [same]
    apply List.append_subset.mpr
    exact ⟨List.subset_cons_of_subset _ (List.subset_append_left _ _), longer⟩
  · rw [same]
    exact List.Subset.trans (startNext_held b now _) longer

end Session

/-- The entry that an act brings into a session, if it brings one. -/
def SessionAct.brings? : SessionAct → Option Entry
  | .enqueue e _ => some e
  | _ => none

/-- What a session holds after an act it held before, or the act has brought it. -/
theorem Turn.next_held (t : Turn) (s : Session) :
    (t.next s).held ⊆ t.act.brings?.toList ++ s.held := by
  obtain ⟨act, b, now⟩ := t
  cases act with
  | enqueue e capacity => exact Session.enqueue_held e capacity b now s
  | pause => exact Session.pause_held now s
  | resume => exact Session.resume_held now s
  | trackStarted => exact Session.trackStarted_held now s
  | trackFinished => exact Session.trackFinished_held b now s
  | trackFailed reason => exact Session.trackFailed_held reason b now s
  | skip => exact Session.skip_held b now s
  | removeAt position => exact Session.edit_held (s.queue.removeAt_parts position) now
  | removeByRequester m => exact Session.edit_held (s.queue.removeByRequester_parts m) now
  | swap x y => exact Session.edit_held (s.queue.swap_parts x y) now
  | move source target => exact Session.edit_held (s.queue.move_parts source target) now
  | shuffle arrangement => exact Session.shuffle_held arrangement now s
  | setRepeat mode => exact List.Subset.refl _
  | clearQueue => exact Session.held_of_fewer rfl (List.nil_subset _)
  | stop | release => exact List.nil_subset _

/-- Unless something is brought, a run leaves nothing but what was held. -/
theorem Session.after_held (s : Session) {turns : List Turn}
    (old : ∀ t ∈ turns, t.act.brings? = none) : (s.after turns).held ⊆ s.held := by
  induction turns generalizing s with
  | nil => exact List.Subset.refl _
  | cons t turns ih =>
      obtain ⟨first, later⟩ := List.forall_mem_cons.mp old
      have step := t.next_held s
      rw [first] at step
      exact List.Subset.trans (ih (t.next s) later) step

end Jukebox
