import Jukebox.Proofs.Queue.Positions

/-!
Runs of a queue: what can be asked of it as data, what each act means for a plain list of entries, and
that a queue answers and changes like such a list, whatever is asked of it and in whatever order.
-/

namespace Jukebox

inductive QueueAct
  | enqueue (e : Entry)
  | tryEnqueue (e : Entry) (capacity : Nat)
  | removeAt (position : Nat)
  | removeByRequester (member : MemberId)
  | swap (a b : Nat)
  | move (source target : Nat)
  | clear
  | shuffle (arrangement : Arrangement)
  | peek
  | pop

inductive QueueReply
  | position (p : Nat)
  | entry (e : Entry)
  | entries (es : List Entry)
  | count (n : Nat)
  | next (e : Option Entry)
  | done
deriving DecidableEq, Repr

abbrev QueueAnswer := Except QueueError QueueReply

namespace Queue

/-- The answer to an edit that may be refused, with the queue that it leaves. -/
def edited {α : Type} (q : Queue) (reply : α → QueueReply) :
    Except QueueError (α × Queue) → QueueAnswer × Queue
  | .error e => (.error e, q)
  | .ok (a, q') => (.ok (reply a), q')

/-- The queue put together again from the entries of the others. -/
def rebuilt (q : Queue) (m : MemberId) : Queue :=
  ⟨(q.entries.partition fun e => e.requester = m).2⟩

end Queue

namespace QueueAct

/-- The queue is rebuilt when a member takes its entries back, even if none of them are found. -/
def run (a : QueueAct) (q : Queue) : QueueAnswer × Queue :=
  match a with
  | enqueue e => q.edited .position (.ok (q.enqueue e))
  | tryEnqueue e capacity => q.edited .position (q.tryEnqueue e capacity)
  | removeAt p => q.edited .entry (q.removeAt p)
  | removeByRequester m => (q.rebuilt m).edited .entries (q.removeByRequester m)
  | swap a b => q.edited (fun _ => .done) ((q.swap a b).map fun q' => ((), q'))
  | move source target =>
    q.edited (fun _ => .done) ((q.move source target).map fun q' => ((), q'))
  | clear => q.edited .count (.ok q.clear)
  | shuffle arrangement => q.edited (fun _ => .done) (.ok ((), q.shuffle arrangement))
  | peek => (.ok (.next q.peek?), q)
  | pop =>
    match q.pop? with
    | none => (.ok (.next none), q)
    | some (e, q') => (.ok (.next (some e)), q')

def next (a : QueueAct) (q : Queue) : Queue := (a.run q).2

def answer (a : QueueAct) (q : Queue) : QueueAnswer := (a.run q).1

def isShuffle : QueueAct → Bool
  | shuffle _ => true
  | _ => false

/-- What an act answers on a list of entries, and the list that it leaves. -/
inductive Means : QueueAct → List Entry → QueueAnswer → List Entry → Prop
  | enqueue (e : Entry) (l : List Entry) : Means (.enqueue e) l (.ok (.position l.length)) (l ++ [e])
  | tryEnqueue (e : Entry) {capacity : Nat} {l : List Entry} (room : l.length < capacity) :
      Means (.tryEnqueue e capacity) l (.ok (.position l.length)) (l ++ [e])
  | full (e : Entry) {capacity : Nat} {l : List Entry} (full : capacity ≤ l.length) :
      Means (.tryEnqueue e capacity) l (.error (.full capacity)) l
  | removeAt {p : Nat} {e : Entry} {l l' : List Entry} (there : l[p]? = some e)
      (removed : Removed p l l') : Means (.removeAt p) l (.ok (.entry e)) l'
  | nothingAt {p : Nat} {l : List Entry} (outside : l.length ≤ p) :
      Means (.removeAt p) l (.error (.notFound p)) l
  | removeByRequester {m : MemberId} {l : List Entry}
      (some : (l.filter fun e => e.requester = m) ≠ []) :
      Means (.removeByRequester m) l (.ok (.entries (l.filter fun e => e.requester = m)))
        (l.filter fun e => e.requester ≠ m)
  | nothingFrom {m : MemberId} {l : List Entry} (none : ∀ e ∈ l, e.requester ≠ m) :
      Means (.removeByRequester m) l (.error (.noTracksFrom m)) l
  | swap {a b : Nat} {l l' : List Entry} (sound : SoundPair l.length a b)
      (exchanged : Exchanged a b l l') : Means (.swap a b) l (.ok .done) l'
  | noSwap {a b : Nat} {l : List Entry} {err : QueueError} (fault : PairFault l.length a b err) :
      Means (.swap a b) l (.error err) l
  | move {source target : Nat} {l l' : List Entry} (sound : SoundPair l.length source target)
      (moved : Moved source target l l') : Means (.move source target) l (.ok .done) l'
  | noMove {source target : Nat} {l : List Entry} {err : QueueError}
      (fault : PairFault l.length source target err) : Means (.move source target) l (.error err) l
  | clear (l : List Entry) : Means .clear l (.ok (.count l.length)) []
  | shuffle (arrangement : Arrangement) {l l' : List Entry} (perm : l'.Perm l) :
      Means (.shuffle arrangement) l (.ok .done) l'
  | peek (l : List Entry) : Means .peek l (.ok (.next l.head?)) l
  | pop (e : Entry) (l : List Entry) : Means .pop (e :: l) (.ok (.next (some e))) l
  | nothingNext : Means .pop [] (.ok (.next none)) []

/-- A queue answers an act like the list of its entries. -/
theorem means (a : QueueAct) (q : Queue) : a.Means q.entries (a.answer q) (a.next q).entries := by
  unfold answer next
  cases a with
  | enqueue e => exact .enqueue e q.entries
  | tryEnqueue e capacity =>
      simp only [run]
      rcases q.tryEnqueue_cases e capacity with ⟨full, same⟩ | ⟨room, same⟩
      · rw [same]
        exact .full e full
      · rw [same]
        exact .tryEnqueue e room
  | removeAt p =>
      simp only [run]
      rcases q.removeAt_cases p with ⟨outside, same⟩ | ⟨e, there, same⟩
      · rw [same]
        exact .nothingAt outside
      · rw [same]
        exact .removeAt there (removed_eraseIdx q.entries p)
  | removeByRequester m =>
      simp only [run]
      rcases q.removeByRequester_cases m with ⟨none, same⟩ | ⟨some, same⟩
      · have kept : q.rebuilt m = q := by
          rw [Queue.rebuilt, q.partition_requester m]
          exact congrArg Queue.mk (List.filter_eq_self.mpr fun e member => decide_eq_true (none e member))
        rw [same, kept]
        exact .nothingFrom none
      · rw [same]
        exact .removeByRequester some
  | swap a b =>
      simp only [run]
      rcases q.swap_cases a b with ⟨e, fault, same⟩ | ⟨differ, first, second, same⟩
      · rw [same]
        exact .noSwap fault
      · rw [same]
        exact .swap ⟨differ, first, second⟩ (exchanged_set differ first second)
  | move source target =>
      simp only [run]
      rcases q.move_cases source target with ⟨e, fault, same⟩ | ⟨differ, first, second, same⟩
      · rw [same]
        exact .noMove fault
      · rw [same]
        exact .move ⟨differ, first, second⟩ (moved_insertIdx first second)
  | clear => exact .clear q.entries
  | shuffle arrangement => exact .shuffle arrangement (arrangement.perm q.entries)
  | peek => exact .peek q.entries
  | pop =>
      obtain ⟨entries⟩ := q
      cases entries with
      | nil => exact .nothingNext
      | cons e rest => exact .pop e rest

/-- The description leaves nothing open but the order of a shuffle. -/
theorem Means.unique {a : QueueAct} (kept : a.isShuffle = false) {l l₁ l₂ : List Entry}
    {r₁ r₂ : QueueAnswer} (h₁ : a.Means l r₁ l₁) (h₂ : a.Means l r₂ l₂) : r₁ = r₂ ∧ l₁ = l₂ := by
  cases h₁ with
  | enqueue | clear | peek | pop | nothingNext =>
      cases h₂
      exact ⟨rfl, rfl⟩
  | tryEnqueue _ room =>
      cases h₂ with
      | tryEnqueue => exact ⟨rfl, rfl⟩
      | full _ full => exact absurd room (Nat.not_lt.mpr full)
  | full _ full =>
      cases h₂ with
      | tryEnqueue _ room => exact absurd room (Nat.not_lt.mpr full)
      | full => exact ⟨rfl, rfl⟩
  | removeAt there removed =>
      cases h₂ with
      | removeAt there' removed' =>
          cases there.symm.trans there'
          exact ⟨rfl, removed.unique removed'⟩
      | nothingAt outside =>
          rw [List.getElem?_eq_none outside] at there
          cases there
  | nothingAt outside =>
      cases h₂ with
      | removeAt there _ =>
          rw [List.getElem?_eq_none outside] at there
          cases there
      | nothingAt => exact ⟨rfl, rfl⟩
  | removeByRequester some =>
      cases h₂ with
      | removeByRequester => exact ⟨rfl, rfl⟩
      | nothingFrom none =>
          refine absurd (List.filter_eq_nil_iff.mpr fun e member => ?_) some
          simpa using none e member
  | nothingFrom none =>
      cases h₂ with
      | removeByRequester some =>
          refine absurd (List.filter_eq_nil_iff.mpr fun e member => ?_) some
          simpa using none e member
      | nothingFrom => exact ⟨rfl, rfl⟩
  | swap sound exchanged =>
      cases h₂ with
      | swap _ exchanged' => exact ⟨rfl, exchanged.unique exchanged'⟩
      | noSwap fault => exact absurd sound fault.not_sound
  | noSwap fault =>
      cases h₂ with
      | swap sound _ => exact absurd sound fault.not_sound
      | noSwap fault' => exact ⟨congrArg _ (fault.unique fault'), rfl⟩
  | move sound moved =>
      cases h₂ with
      | move _ moved' => exact ⟨rfl, moved.unique sound.second moved'⟩
      | noMove fault => exact absurd sound fault.not_sound
  | noMove fault =>
      cases h₂ with
      | move sound _ => exact absurd sound fault.not_sound
      | noMove fault' => exact ⟨congrArg _ (fault.unique fault'), rfl⟩
  | shuffle => cases kept

/-- A refused act leaves the list as it was. -/
theorem Means.eq_of_error {a : QueueAct} {l l' : List Entry} {e : QueueError}
    (h : a.Means l (.error e) l') : l' = l := by
  cases h with
  | full | nothingAt | nothingFrom | noSwap | noMove => rfl

/-- An act that leads back from all that another leaves. -/
def Reverses (back a : QueueAct) : Prop := ∀ l r l', a.Means l r l' → ∃ r', back.Means l' r' l

theorem swap_reverses (a b : Nat) : (swap a b).Reverses (swap a b) := by
  intro l r l' h
  cases h with
  | swap sound exchanged => exact ⟨_, .swap (exchanged.length ▸ sound) exchanged.symm⟩
  | noSwap fault => exact ⟨_, .noSwap fault⟩

theorem move_reverses (source target : Nat) :
    (move target source).Reverses (move source target) := by
  intro l r l' h
  cases h with
  | move sound moved => exact ⟨_, .move (moved.length ▸ sound.symm) moved.symm⟩
  | noMove fault =>
      obtain ⟨e, back⟩ := fault.flipped
      exact ⟨_, .noMove back⟩

theorem Reverses.next_next {back a : QueueAct} (h : back.Reverses a) (kept : back.isShuffle = false)
    (q : Queue) : back.next (a.next q) = q := by
  obtain ⟨r, undone⟩ := h _ _ _ (a.means q)
  have same : (back.next (a.next q)).entries = q.entries :=
    ((back.means (a.next q)).unique kept undone).2
  exact congrArg Queue.mk same

end QueueAct

/-- A run on a list of entries: the answers to some acts, and the list that they leave. -/
inductive ListRun : List Entry → List QueueAct → List QueueAnswer → List Entry → Prop
  | nil (l : List Entry) : ListRun l [] [] l
  | cons {a : QueueAct} {acts : List QueueAct} {r : QueueAnswer} {rs : List QueueAnswer}
      {l l' l'' : List Entry} (step : a.Means l r l') (rest : ListRun l' acts rs l'') :
      ListRun l (a :: acts) (r :: rs) l''

namespace Queue

def after (q : Queue) : List QueueAct → Queue
  | [] => q
  | a :: acts => (a.next q).after acts

def answers (q : Queue) : List QueueAct → List QueueAnswer
  | [] => []
  | a :: acts => a.answer q :: (a.next q).answers acts

theorem listRun (q : Queue) (acts : List QueueAct) :
    ListRun q.entries acts (q.answers acts) (q.after acts).entries := by
  induction acts generalizing q with
  | nil => exact .nil q.entries
  | cons a acts ih => exact .cons (a.means q) (ih (a.next q))

/-- Whatever is asked of a queue, it answers and changes like a list, and at every moment the next answer
and the next list are the only ones that the description allows, a shuffle apart. A refused act changes
nothing, exchanging a pair twice changes nothing, and moving an entry back undoes the move. -/
theorem agrees_with_list (q : Queue) (acts : List QueueAct) :
    let q' := q.after acts
    ListRun q.entries acts (q.answers acts) q'.entries ∧
    (∀ a : QueueAct, a.isShuffle = false → ∀ r l, a.Means q'.entries r l →
      r = a.answer q' ∧ l = (a.next q').entries) ∧
    (∀ (a : QueueAct) e, a.answer q' = .error e → a.next q' = q') ∧
    (∀ a b, q'.after [.swap a b, .swap a b] = q') ∧
    ∀ source target, q'.after [.move source target, .move target source] = q' := by
  intro q'
  refine ⟨q.listRun acts, fun a kept r l allowed => allowed.unique kept (a.means q'), ?_, ?_, ?_⟩
  · intro a e refused
    have step := a.means q'
    rw [refused] at step
    exact congrArg Queue.mk step.eq_of_error
  · intro a b
    exact (QueueAct.swap_reverses a b).next_next rfl q'
  · intro source target
    exact (QueueAct.move_reverses source target).next_next rfl q'

/-- The first of four entries goes to the third place. -/
example :
    let e : UInt64 → Entry := fun id => ⟨⟨id⟩, ⟨7⟩, ⟨"a"⟩, .unresolved ⟨"a"⟩⟩
    (⟨[e 1, e 2, e 3, e 4]⟩ : Queue).after [.move 0 2] = ⟨[e 2, e 3, e 1, e 4]⟩ := by
  decide

end Queue

end Jukebox
