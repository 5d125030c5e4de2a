import Mathlib.Algebra.GroupWithZero.Nat
import Mathlib.Algebra.Order.BigOperators.Group.List
import Mathlib.Algebra.Order.Group.Nat
import Jukebox.Proofs.Queue.Run

/-!
The total playing time of a queue. Seconds and nanoseconds are added up apart from each other and the
nanoseconds carried at the end; the result is the exact sum of the known durations whenever this sum has
fewer than 2^64 seconds, and there is none otherwise. An exact sum knows no order, so no rearrangement
changes the total, and with entries taken out a total that there was is still there.
-/

namespace Jukebox

namespace Playtime

theorem toNanos_lt (p : Playtime) : p.toNanos < wordLimit * nanosPerSecond := by
  have secs := p.secs_lt
  have nanos := p.nanos_lt
  simp only [toNanos, wordLimit, UInt64.size, nanosPerSecond] at *
  omega

theorem secs_eq (p : Playtime) : p.secs = p.toNanos / nanosPerSecond := by
  have nanos := p.nanos_lt
  simp only [toNanos, nanosPerSecond] at *
  omega

theorem nanos_eq (p : Playtime) : p.nanos = p.toNanos % nanosPerSecond := by
  have nanos := p.nanos_lt
  simp only [toNanos, nanosPerSecond] at *
  omega

theorem toNanos_inj {p p' : Playtime} (same : p.toNanos = p'.toNanos) : p = p' := by
  have secs : p.secs = p'.secs := by rw [secs_eq, secs_eq, same]
  have nanos : p.nanos = p'.nanos := by rw [nanos_eq, nanos_eq, same]
  cases p
  cases p'
  cases secs
  cases nanos
  rfl

/-- The carry of a full second neither loses nor invents anything. -/
theorem carry?_eq_some_iff {secs nanos : Nat} {t : Playtime} :
    carry? secs nanos = some t ↔ t.toNanos = secs * nanosPerSecond + nanos := by
  unfold carry?
  split
  · next fits =>
      have exact_ : (secs + nanos / nanosPerSecond) * nanosPerSecond + nanos % nanosPerSecond =
          secs * nanosPerSecond + nanos := by
        rw [Nat.add_mul, Nat.add_assoc, Nat.div_add_mod']
      constructor
      · intro same
        cases same
        exact exact_
      · intro same
        exact congrArg some (toNanos_inj (exact_.trans same.symm))
  · next long =>
      refine ⟨nofun, fun same => absurd ?_ long⟩
      have small := t.toNanos_lt
      simp only [wordLimit, UInt64.size, nanosPerSecond] at *
      omega

theorem accumulate_eq {secs : Nat} (fits : secs < wordLimit) (nanos : Nat) (ps : List Playtime) :
    accumulate secs nanos ps =
      if secs + (ps.map Playtime.secs).sum < wordLimit then
        some (secs + (ps.map Playtime.secs).sum, nanos + (ps.map Playtime.nanos).sum)
      else none := by
  induction ps generalizing secs nanos with
  | nil => simp [accumulate, fits]
  | cons p ps ih =>
      rw [accumulate, List.map_cons, List.map_cons, List.sum_cons, List.sum_cons, ← Nat.add_assoc,
        ← Nat.add_assoc]
      split
      · next fits' => exact ih fits' (nanos + p.nanos)
      · next long => rw [if_neg (by omega)]

theorem sum_toNanos (ps : List Playtime) :
    (ps.map toNanos).sum = (ps.map Playtime.secs).sum * nanosPerSecond + (ps.map Playtime.nanos).sum := by
  induction ps with
  | nil => rfl
  | cons p ps ih =>
      simp only [List.map_cons, List.sum_cons, ih, toNanos, Nat.add_mul]
      omega

/-- A sum of playing times is the playing time that is as long as all of them together. -/
theorem sum?_eq_some_iff {ps : List Playtime} {t : Playtime} :
    sum? ps = some t ↔ t.toNanos = (ps.map toNanos).sum := by
  rw [sum?, accumulate_eq (by decide), sum_toNanos, Nat.zero_add, Nat.zero_add]
  split
  · exact carry?_eq_some_iff
  · next long =>
      -- The seconds alone are too many, whatever the nanoseconds add to them.
      refine ⟨nofun, fun same => absurd ?_ long⟩
      have small := t.toNanos_lt
      simp only [wordLimit, UInt64.size, nanosPerSecond] at *
      omega

theorem exists_toNanos {n : Nat} (fits : n < wordLimit * nanosPerSecond) :
    ∃ t : Playtime, t.toNanos = n := by
  have secs : n / nanosPerSecond < wordLimit := Nat.div_lt_of_lt_mul (Nat.mul_comm _ _ ▸ fits)
  refine ⟨⟨n / nanosPerSecond, n % nanosPerSecond, secs, Nat.mod_lt _ (by decide)⟩, ?_⟩
  exact Nat.div_add_mod' n nanosPerSecond

end Playtime

/-- How long an entry is known to play, in nanoseconds; nothing if it is not known. -/
def Entry.nanos (e : Entry) : Nat :=
  match e.metadata.duration with
  | none => 0
  | some p => p.toNanos

namespace Queue

/-- The exact sum of the known durations. -/
def nanos (q : Queue) : Nat := (q.entries.map Entry.nanos).sum

theorem sum_nanos (l : List Entry) :
    ((l.filterMap (·.metadata.duration)).map Playtime.toNanos).sum = (l.map Entry.nanos).sum := by
  induction l with
  | nil => rfl
  | cons e l ih =>
      rw [List.map_cons, List.sum_cons, ← ih, Entry.nanos]
      cases known : e.metadata.duration with
      | none => simp only [List.filterMap_cons, known, Nat.zero_add]
      | some p => simp only [List.filterMap_cons, known, List.map_cons, List.sum_cons]

theorem totalDuration?_eq_some_iff {q : Queue} {t : Playtime} :
    q.totalDuration? = some t ↔ t.toNanos = q.nanos := by
  rw [totalDuration?, Playtime.sum?_eq_some_iff, sum_nanos, nanos]

theorem totalDuration?_isSome_iff {q : Queue} :
    q.totalDuration?.isSome ↔ q.nanos < wordLimit * nanosPerSecond := by
  rw [Option.isSome_iff_exists]
  constructor
  · rintro ⟨t, same⟩
    rw [← totalDuration?_eq_some_iff.mp same]
    exact t.toNanos_lt
  · intro fits
    obtain ⟨t, same⟩ := Playtime.exists_toNanos fits
    exact ⟨t, totalDuration?_eq_some_iff.mpr same⟩

/-- The total depends on nothing but the exact sum. -/
theorem totalDuration?_congr {q q' : Queue} (same : q'.nanos = q.nanos) :
    q'.totalDuration? = q.totalDuration? := by
  ext t
  rw [totalDuration?_eq_some_iff, totalDuration?_eq_some_iff, same]

theorem nanos_of_perm {q q' : Queue} (perm : q'.entries.Perm q.entries) : q'.nanos = q.nanos :=
  (perm.map Entry.nanos).sum_nat

theorem nanos_of_sublist {q q' : Queue} (fewer : q'.entries.Sublist q.entries) :
    q'.nanos ≤ q.nanos :=
  (fewer.map Entry.nanos).sum_le_sum fun _ _ => Nat.zero_le _

end Queue

namespace QueueAct

/-- The act puts the entries in another order. -/
def rearranges : QueueAct → Bool
  | swap .. | move .. | shuffle _ => true
  | _ => false

/-- The act takes entries out. -/
def takesOut : QueueAct → Bool
  | removeAt _ | removeByRequester _ | clear | pop => true
  | _ => false

theorem next_perm {a : QueueAct} (order : a.rearranges = true) (q : Queue) :
    (a.next q).entries.Perm q.entries := by
  cases a with
  | swap a b =>
      change (q.edited _ ((q.swap a b).map fun q' => ((), q'))).2.entries.Perm q.entries
      cases done : q.swap a b with
      | error e => exact .refl _
      | ok q' => exact Queue.swap_perm done
  | move source target =>
      change (q.edited _ ((q.move source target).map fun q' => ((), q'))).2.entries.Perm q.entries
      cases done : q.move source target with
      | error e => exact .refl _
      | ok q' => exact Queue.move_perm done
  | shuffle arrangement => exact arrangement.perm q.entries
  | enqueue | tryEnqueue | removeAt | removeByRequester | clear | peek | pop => cases order

theorem next_sublist {a : QueueAct} (out : a.takesOut = true) (q : Queue) :
    (a.next q).entries.Sublist q.entries := by
  cases a with
  | removeAt p =>
      change (q.edited _ (q.removeAt p)).2.entries.Sublist q.entries
      rcases q.removeAt_cases p with ⟨_, same⟩ | ⟨_, _, same⟩
      · rw [same]
        exact .refl _
      · rw [same]
        exact List.eraseIdx_sublist _ _
  | removeByRequester m =>
      change ((q.rebuilt m).edited _ (q.removeByRequester m)).2.entries.Sublist q.entries
      rcases q.removeByRequester_cases m with ⟨_, same⟩ | ⟨_, same⟩
      · rw [same, Queue.edited, Queue.rebuilt, q.partition_requester m]
        exact List.filter_sublist
      · rw [same]
        exact List.filter_sublist
  | clear => exact List.nil_sublist _
  | pop =>
      obtain ⟨entries⟩ := q
      cases entries with
      | nil => exact .refl _
      | cons e rest => exact List.sublist_cons_self e rest
  | enqueue | tryEnqueue | swap | move | shuffle | peek => cases out

end QueueAct

namespace Queue

theorem nanos_after {acts : List QueueAct} (order : ∀ a ∈ acts, a.rearranges = true) (q : Queue) :
    (q.after acts).nanos = q.nanos := by
  induction acts generalizing q with
  | nil => rfl
  | cons a acts ih =>
      obtain ⟨first, later⟩ := List.forall_mem_cons.mp order
      exact (ih later (a.next q)).trans (nanos_of_perm (a.next_perm first q))

theorem nanos_after_le {acts : List QueueAct}
    (fewer : ∀ a ∈ acts, a.rearranges = true ∨ a.takesOut = true) (q : Queue) :
    (q.after acts).nanos ≤ q.nanos := by
  induction acts generalizing q with
  | nil => exact Nat.le_refl _
  | cons a acts ih =>
      obtain ⟨first, later⟩ := List.forall_mem_cons.mp fewer
      have step : (a.next q).nanos ≤ q.nanos := by
        rcases first with order | out
        · exact Nat.le_of_eq (nanos_of_perm (a.next_perm order q))
        · exact nanos_of_sublist (a.next_sublist out q)
      exact (ih later (a.next q)).trans step

/-- There is a total exactly if the exact sum of the known durations has fewer than 2^64 seconds, and
then the total is this sum, with all full seconds carried. Changes of the order do not change it, and it
is not lost when, besides, entries are taken out. -/
theorem total_exact (q : Queue) :
    (q.totalDuration?.isSome ↔ q.nanos < wordLimit * nanosPerSecond) ∧
    (∀ t, q.totalDuration? = some t ↔ t.toNanos = q.nanos) ∧
    (∀ t, q.totalDuration? = some t →
      t.secs = q.nanos / nanosPerSecond ∧ t.nanos = q.nanos % nanosPerSecond) ∧
    (∀ acts : List QueueAct, (∀ a ∈ acts, a.rearranges = true) →
      (q.after acts).totalDuration? = q.totalDuration?) ∧
    ∀ acts : List QueueAct, (∀ a ∈ acts, a.rearranges = true ∨ a.takesOut = true) →
      q.totalDuration?.isSome → (q.after acts).totalDuration?.isSome := by
  refine ⟨totalDuration?_isSome_iff, fun t => totalDuration?_eq_some_iff, ?_, ?_, ?_⟩
  · intro t total
    rw [← totalDuration?_eq_some_iff.mp total]
    exact ⟨t.secs_eq, t.nanos_eq⟩
  · intro acts order
    exact totalDuration?_congr (nanos_after order q)
  · intro acts fewer total
    exact totalDuration?_isSome_iff.mpr
      (Nat.lt_of_le_of_lt (nanos_after_le fewer q) (totalDuration?_isSome_iff.mp total))

/-- Of three entries one has no known duration. The other two fill the last second that there is, and
a nanosecond more is too much, in whatever order. -/
example :
    let e : Option Playtime → Entry := fun known => ⟨⟨1⟩, ⟨7⟩, ⟨"a"⟩, ⟨"a", known, "a", none⟩⟩
    let long : Playtime := ⟨18446744073709551614, 999999999, by decide, by decide⟩
    let short (nanos : Nat) (h : nanos < nanosPerSecond) : Playtime := ⟨1, nanos, by decide, h⟩
    (⟨[e (some long), e none, e (some (short 0 (by decide)))]⟩ : Queue).totalDuration? =
        some ⟨18446744073709551615, 999999999, by decide, by decide⟩ ∧
      (⟨[e (some (short 1 (by decide))), e (some long)]⟩ : Queue).totalDuration? = none := by
  decide

end Queue

end Jukebox
