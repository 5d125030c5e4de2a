import Mathlib.Data.List.Sort
import Jukebox.Pool

/-!
The schedule of a pool. A task starts at the first moment at which fewer of the tasks before it are
unfinished than there are workers, so at the start as long as there is a worker for each, and later when
the m-th largest of the ends before it has come. From this alone it follows that tasks start in the order
in which they were submitted, that there are never more of them in progress than workers, and that none
waits while a worker is free.
-/

namespace Jukebox

namespace Pool

/-- The first moment after which fewer than `m` of the tasks with the given ends are unfinished. -/
structure FirstFree (m : Nat) (ends : List Nat) (t : Nat) : Prop where
  free : ends.countP (t < ·) < m
  busyBefore : ∀ u < t, m ≤ ends.countP (u < ·)

namespace FirstFree

theorem unique {m : Nat} {ends : List Nat} {t t' : Nat} (h : FirstFree m ends t)
    (h' : FirstFree m ends t') : t = t' := by
  rcases Nat.lt_trichotomy t t' with less | same | more
  · exact absurd h.free (Nat.not_lt.mpr (h'.busyBefore t less))
  · exact same
  · exact absurd h'.free (Nat.not_lt.mpr (h.busyBefore t' more))

theorem of_perm {m : Nat} {ends ends' : List Nat} {t : Nat} (h : FirstFree m ends t)
    (perm : ends.Perm ends') : FirstFree m ends' t where
  free := perm.countP_eq _ ▸ h.free
  busyBefore u earlier := perm.countP_eq _ ▸ h.busyBefore u earlier

/-- With more tasks to wait for, no worker gets free any earlier. -/
theorem mono {m : Nat} {ends ends' : List Nat} {t t' : Nat} (h : FirstFree m ends t)
    (h' : FirstFree m ends' t') (more : ends.Sublist ends') : t ≤ t' := by
  refine Nat.le_of_not_lt fun earlier => ?_
  have busy := h.busyBefore t' earlier
  have grown : ends.countP (t' < ·) ≤ ends'.countP (t' < ·) := more.countP_le
  have free := h'.free
  omega

theorem zero_of_few {m : Nat} {ends : List Nat} {t : Nat} (h : FirstFree m ends t)
    (few : ends.length < m) : t = 0 := by
  refine Nat.eq_zero_of_not_pos fun later => ?_
  have busy := h.busyBefore 0 later
  have all : ends.countP (0 < ·) ≤ ends.length := List.countP_le_length
  omega

end FirstFree

/-- The moments, the last one first. -/
def latestFirst (ends : List Nat) : List Nat := ends.mergeSort fun a b => decide (b ≤ a)

theorem latestFirst_perm (ends : List Nat) : (latestFirst ends).Perm ends :=
  List.mergeSort_perm ends _

theorem latestFirst_pairwise (ends : List Nat) : (latestFirst ends).Pairwise (· ≥ ·) := by
  have sorted := @List.pairwise_mergeSort Nat (fun a b => decide (b ≤ a))
    (by simp; omega) (by simp; omega) ends
  simpa [latestFirst] using sorted

/-- At the m-th largest end fewer than `m` tasks are unfinished, and at no moment before it. -/
theorem firstFree_largest {m t : Nat} {ends : List Nat} (place : (latestFirst ends)[m]? = some t) :
    FirstFree (m + 1) ends t := by
  obtain ⟨inside, rfl⟩ := List.getElem?_eq_some_iff.mp place
  have sorted := latestFirst_pairwise ends
  refine .of_perm ?_ (latestFirst_perm ends)
  generalize latestFirst ends = l at inside sorted ⊢
  have split : l = l.take m ++ l[m] :: l.drop (m + 1) := by
    rw [← List.drop_eq_getElem_cons inside, List.take_append_drop]
  rw [split] at sorted
  obtain ⟨_, tail, across⟩ := List.pairwise_append.mp sorted
  have length : (l.take m).length = m := List.length_take_of_le (Nat.le_of_lt inside)
  generalize l[m] = t at split tail across ⊢
  rw [split]
  constructor
  · -- Only those in front can end later.
    have none : (t :: l.drop (m + 1)).countP (t < ·) = 0 := by
      rw [List.countP_eq_zero]
      intro x there
      rcases List.mem_cons.mp there with rfl | there
      · simp
      · have := (List.pairwise_cons.mp tail).1 x there
        simp only [decide_eq_true_eq]
        omega
    have few : (l.take m).countP (t < ·) ≤ (l.take m).length := List.countP_le_length
    rw [List.countP_append, none]
    omega
  · intro u earlier
    have front : (l.take m).countP (u < ·) = (l.take m).length := by
      rw [List.countP_eq_length]
      intro x there
      have := across x there t List.mem_cons_self
      simp only [decide_eq_true_eq]
      omega
    rw [List.countP_append, front, length, List.countP_cons_of_pos (by simpa using earlier)]
    omega

theorem FirstFree.largest {m t : Nat} {ends : List Nat} (h : FirstFree (m + 1) ends t)
    (many : m < ends.length) : (latestFirst ends)[m]? = some t := by
  have inside : m < (latestFirst ends).length := by
    rwa [(latestFirst_perm ends).length_eq]
  rw [List.getElem?_eq_getElem inside]
  exact congrArg some ((firstFree_largest (List.getElem?_eq_getElem inside)).unique h)

theorem insertMoment_perm (t : Nat) (l : List Nat) : (insertMoment t l).Perm (t :: l) := by
  induction l with
  | nil => exact .refl _
  | cons u l ih =>
      rw [insertMoment]
      split
      · exact (ih.cons u).trans (.swap t u l)
      · exact .refl _

theorem insertMoment_pairwise {t : Nat} {l : List Nat} (sorted : l.Pairwise (· ≤ ·)) :
    (insertMoment t l).Pairwise (· ≤ ·) := by
  induction l with
  | nil => exact List.pairwise_singleton _ t
  | cons u l ih =>
      obtain ⟨first, later⟩ := List.pairwise_cons.mp sorted
      rw [insertMoment]
      split
      · next before =>
          refine List.pairwise_cons.mpr ⟨fun x there => ?_, ih later⟩
          rcases List.mem_cons.mp ((insertMoment_perm t l).subset there) with rfl | there
          · exact before
          · exact first x there
      · next after =>
          refine List.pairwise_cons.mpr ⟨fun x there => ?_, sorted⟩
          rcases List.mem_cons.mp there with rfl | there
          · omega
          · have := first x there
            omega

/-- The moments kept are the latest ends, in ascending order, one for each worker in use. -/
structure Busy (p : Pool) (ends busy : List Nat) : Prop where
  sorted : busy.Pairwise (· ≤ ·)
  bounded : busy.length ≤ p.size
  split : ∃ gone, ends.Perm (busy ++ gone) ∧ (∀ x ∈ gone, ∀ y ∈ busy, x ≤ y) ∧
    (gone ≠ [] → busy.length = p.size)

namespace Busy

variable {p : Pool} {ends busy : List Nat}

theorem empty (p : Pool) : p.Busy [] [] where
  sorted := .nil
  bounded := Nat.zero_le _
  split := ⟨[], .refl _, nofun, fun some => absurd rfl some⟩

theorem firstFree (h : p.Busy ends busy) : FirstFree p.size ends (p.assign busy).1 := by
  obtain ⟨gone, perm, below, full⟩ := h.split
  refine .of_perm ?_ perm.symm
  unfold assign
  split
  · next room =>
      have none : gone = [] := Classical.byContradiction fun some => Nat.ne_of_lt room (full some)
      rw [none, List.append_nil]
      exact ⟨Nat.lt_of_le_of_lt List.countP_le_length room, nofun⟩
  · next crowded =>
      have positive := p.size_pos
      have length : busy.length = p.size := Nat.le_antisymm h.bounded (Nat.not_lt.mp crowded)
      cases busy with
      | nil => exact absurd length.symm (Nat.ne_of_gt positive)
      | cons t others =>
          obtain ⟨first, _⟩ := List.pairwise_cons.mp h.sorted
          have past : gone.countP (t < ·) = 0 := by
            rw [List.countP_eq_zero]
            intro x there
            have := below x there t List.mem_cons_self
            simpa using this
          change FirstFree p.size (t :: others ++ gone) t
          constructor
          · have few : others.countP (t < ·) ≤ others.length := List.countP_le_length
            rw [List.countP_append, past, List.countP_cons_of_neg (by simp)]
            simp only [List.length_cons] at length
            omega
          · intro u earlier
            have all : (t :: others).countP (u < ·) = p.size := by
              rw [← length, List.countP_eq_length]
              intro x there
              have later : t ≤ x := by
                rcases List.mem_cons.mp there with rfl | there
                · exact Nat.le_refl _
                · exact first x there
              simp only [decide_eq_true_eq]
              omega
            rw [List.countP_append, all]
            omega

/-- A worker takes on a task, the first that gets free unless one has not been needed yet. -/
theorem assign (h : p.Busy ends busy) (duration : Nat) :
    let finish := (p.assign busy).1 + duration
    p.Busy (ends ++ [finish]) (insertMoment finish (p.assign busy).2) := by
  obtain ⟨gone, perm, below, full⟩ := h.split
  have appended (x : Nat) : (ends ++ [x]).Perm (x :: (busy ++ gone)) :=
    (List.perm_append_comm).trans (perm.cons x)
  unfold Pool.assign
  split
  · next room =>
      have none : gone = [] := Classical.byContradiction fun some => Nat.ne_of_lt room (full some)
      subst none
      dsimp only
      have inserted := insertMoment_perm (0 + duration) busy
      refine ⟨insertMoment_pairwise h.sorted, ?_, [], ?_, nofun, fun some => absurd rfl some⟩
      · rw [inserted.length_eq]
        exact room
      · rw [List.append_nil]
        have whole := appended (0 + duration)
        rw [List.append_nil] at whole
        exact whole.trans inserted.symm
  · next crowded =>
      have length : busy.length = p.size := Nat.le_antisymm h.bounded (Nat.not_lt.mp crowded)
      cases busy with
      | nil => exact absurd length.symm (Nat.ne_of_gt p.size_pos)
      | cons t others =>
          obtain ⟨first, later⟩ := List.pairwise_cons.mp h.sorted
          dsimp only
          have inserted := insertMoment_perm (t + duration) others
          refine ⟨insertMoment_pairwise later, ?_, t :: gone, ?_, ?_, fun _ => ?_⟩
          · rw [inserted.length_eq]
            exact Nat.le_of_eq length
          · refine (appended (t + duration)).trans (.trans ?_ (inserted.append_right _).symm)
            exact (List.perm_middle.symm).cons _
          · -- What goes is the first to end, so all that stays ends no earlier.
            intro x out y kept
            have last : t ≤ y := by
              rcases List.mem_cons.mp (inserted.subset kept) with rfl | kept
              · exact Nat.le_add_right _ _
              · exact first y kept
            rcases List.mem_cons.mp out with rfl | out
            · exact last
            · exact Nat.le_trans (below x out t List.mem_cons_self) last
          · rw [inserted.length_eq]
            exact length

end Busy

def ends (spans : List Span) : List Nat := spans.map (·.finish)

theorem scheduleFrom_cons (p : Pool) (busy : List Nat) (d : Nat) (durations : List Nat) :
    p.scheduleFrom busy (d :: durations) =
      ⟨(p.assign busy).1, (p.assign busy).1 + d⟩ ::
        p.scheduleFrom (insertMoment ((p.assign busy).1 + d) (p.assign busy).2) durations := rfl

theorem scheduleFrom_getElem? {p : Pool} {before busy : List Nat} (h : p.Busy before busy)
    {durations : List Nat} {i : Nat} {s : Span}
    (there : (p.scheduleFrom busy durations)[i]? = some s) :
    FirstFree p.size (before ++ ends ((p.scheduleFrom busy durations).take i)) s.start ∧
      durations[i]? = some (s.finish - s.start) ∧ s.start ≤ s.finish := by
  induction durations generalizing before busy i with
  | nil => simp [scheduleFrom] at there
  | cons d durations ih =>
      rw [scheduleFrom_cons] at there ⊢
      cases i with
      | zero =>
          cases there
          simpa [ends] using h.firstFree
      | succ i => simpa [ends] using ih (h.assign d) there

theorem length_scheduleFrom (p : Pool) (busy durations : List Nat) :
    (p.scheduleFrom busy durations).length = durations.length := by
  induction durations generalizing busy with
  | nil => rfl
  | cons d durations ih => simp [scheduleFrom_cons, ih]

theorem length_schedule (p : Pool) (durations : List Nat) :
    (p.schedule durations).length = durations.length :=
  p.length_scheduleFrom [] durations

/-- Every task starts as soon as fewer of the tasks before it are unfinished than there are workers. -/
def Greedy (p : Pool) (spans : List Span) : Prop :=
  ∀ i s, spans[i]? = some s → FirstFree p.size (ends (spans.take i)) s.start

theorem schedule_greedy (p : Pool) (durations : List Nat) : p.Greedy (p.schedule durations) :=
  fun _ _ there => (scheduleFrom_getElem? (.empty p) there).1

/-- How many of the tasks are in progress at a moment. -/
def inProgress (spans : List Span) (moment : Nat) : Nat :=
  spans.countP fun s => s.start ≤ moment && moment < s.finish

theorem available_eq (p : Pool) (spans : List Span) (moment : Nat) :
    p.available spans moment = p.size - inProgress spans moment := rfl

theorem inProgress_mono {spans spans' : List Span} (more : spans.Sublist spans') (moment : Nat) :
    inProgress spans moment ≤ inProgress spans' moment :=
  more.countP_le

/-- Of tasks that have all started, those in progress are those that are unfinished. -/
theorem inProgress_of_started {spans : List Span} {moment : Nat}
    (started : ∀ s ∈ spans, s.start ≤ moment) :
    inProgress spans moment = (ends spans).countP (moment < ·) := by
  rw [inProgress, ends, List.countP_map]
  refine List.countP_congr fun s there => ?_
  simp [started s there]

theorem inProgress_le_unfinished (spans : List Span) {moment since : Nat} (later : since ≤ moment) :
    inProgress spans moment ≤ (ends spans).countP (since < ·) := by
  rw [inProgress, ends, List.countP_map]
  refine List.countP_mono_left fun s there busy => ?_
  simp only [Bool.and_eq_true, decide_eq_true_eq, Function.comp_apply] at busy ⊢
  omega

namespace Greedy

variable {p : Pool} {spans : List Span}

theorem start_mono (h : p.Greedy spans) {i j : Nat} {s s' : Span} (first : spans[i]? = some s)
    (second : spans[j]? = some s') (order : i ≤ j) : s.start ≤ s'.start :=
  (h i s first).mono (h j s' second) ((List.take_sublist_take_left order).map _)

theorem start_of_room (h : p.Greedy spans) {i : Nat} {s : Span} (there : spans[i]? = some s)
    (room : i < p.size) : s.start = 0 := by
  refine (h i s there).zero_of_few ?_
  rw [ends, List.length_map, List.length_take]
  omega

theorem start_largest (h : p.Greedy spans) {i : Nat} {s : Span} (there : spans[i]? = some s)
    (crowded : p.size ≤ i) :
    (latestFirst (ends (spans.take i)))[p.size - 1]? = some s.start := by
  have positive := p.size_pos
  have inside : i < spans.length := (List.getElem?_eq_some_iff.mp there).1
  have first := h i s there
  rw [← Nat.sub_add_cancel positive] at first
  refine first.largest ?_
  rw [ends, List.length_map, List.length_take]
  omega

/-- There are never more tasks in progress than workers. -/
theorem inProgress_take_le (h : p.Greedy spans) (moment k : Nat) :
    inProgress (spans.take k) moment ≤ p.size := by
  induction k with
  | zero => exact Nat.zero_le _
  | succ k ih =>
      rw [List.take_add_one]
      cases there : spans[k]? with
      | none => simpa using ih
      | some s =>
          rw [Option.toList_some, inProgress, List.countP_append, List.countP_singleton]
          split
          · next busy =>
              -- When the last of them started, fewer than all workers had something left to do.
              simp only [Bool.and_eq_true, decide_eq_true_eq] at busy
              have free := (h k s there).free
              have fewer := inProgress_le_unfinished (spans.take k) busy.1
              rw [inProgress] at fewer
              omega
          · exact ih

theorem inProgress_le (h : p.Greedy spans) (moment : Nat) : inProgress spans moment ≤ p.size := by
  simpa using h.inProgress_take_le moment spans.length

/-- As long as a task waits, each worker has one of the tasks before it. -/
theorem inProgress_eq_of_waiting (h : p.Greedy spans) {i moment : Nat} {s : Span}
    (there : spans[i]? = some s) (waits : moment < s.start) :
    inProgress (spans.take i) moment = p.size := by
  induction i using Nat.strongRecOn generalizing s with
  | ind i ih =>
      refine Nat.le_antisymm (h.inProgress_take_le moment i) ?_
      by_cases alone : ∀ s' ∈ spans.take i, s'.start ≤ moment
      · rw [inProgress_of_started alone]
        exact (h i s there).busyBefore moment waits
      · -- Another one waits in front, and what is said of it is enough.
        push Not at alone
        obtain ⟨s', front, waits'⟩ := alone
        obtain ⟨j, place⟩ := List.mem_iff_getElem?.mp front
        rw [List.getElem?_take] at place
        split at place
        · next before =>
            rw [← ih j before place waits']
            exact inProgress_mono (List.take_sublist_take_left (Nat.le_of_lt before)) moment
        · cases place

end Greedy

/-- What can be said of spans in which a pool has served tasks with the given durations. -/
structure Serves (p : Pool) (durations : List Nat) (spans : List Span) : Prop where
  once : spans.length = durations.length
  whole : ∀ (i : Nat) (s : Span), spans[i]? = some s → durations[i]? = some (s.finish - s.start) ∧
    s.start ≤ s.finish
  atOnce : ∀ (i : Nat) (s : Span), spans[i]? = some s → i < p.size → s.start = 0
  /-- A task with others before it for all the workers starts when the m-th largest of their ends has
  come, where m is the number of the workers. -/
  afterOthers : ∀ (i : Nat) (s : Span), spans[i]? = some s → p.size ≤ i →
    (latestFirst (ends (spans.take i)))[p.size - 1]? = some s.start
  inOrder : spans.Pairwise fun s s' => s.start ≤ s'.start
  within : ∀ moment, inProgress spans moment ≤ p.size
  /-- Up to its start each worker is busy with the tasks before it. -/
  eager : ∀ (i : Nat) (s : Span) moment, spans[i]? = some s → moment < s.start →
    inProgress (spans.take i) moment = p.size
  givenBack : ∀ moment, (∀ s ∈ spans, s.finish ≤ moment) → p.available spans moment = p.size

theorem schedule_serves (p : Pool) (durations : List Nat) :
    p.Serves durations (p.schedule durations) where
  once := p.length_schedule durations
  whole _ _ there := (scheduleFrom_getElem? (.empty p) there).2
  atOnce _ _ there := (p.schedule_greedy durations).start_of_room there
  afterOthers _ _ there := (p.schedule_greedy durations).start_largest there
  inOrder := by
    rw [List.pairwise_iff_getElem]
    intro i j first second order
    exact (p.schedule_greedy durations).start_mono (List.getElem?_eq_getElem first)
      (List.getElem?_eq_getElem second) (Nat.le_of_lt order)
  within := (p.schedule_greedy durations).inProgress_le
  eager _ _ _ there := (p.schedule_greedy durations).inProgress_eq_of_waiting there
  givenBack moment all_ended := by
    have none : inProgress (p.schedule durations) moment = 0 := by
      rw [inProgress, List.countP_eq_zero]
      intro s there
      simpa using fun _ => all_ended s there
    rw [available_eq, none, Nat.sub_zero]

/-- Two workers and five tasks, of which the third takes no time at all: it passes its worker on at once. -/
example :
    (ofSize 2).schedule [30, 10, 0, 5, 5] = [⟨0, 30⟩, ⟨0, 10⟩, ⟨10, 10⟩, ⟨10, 15⟩, ⟨15, 20⟩] := by
  decide

end Pool

end Jukebox
