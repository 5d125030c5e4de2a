import Mathlib.Algebra.Order.BigOperators.Group.List
import Mathlib.Algebra.Order.Group.Nat
import Mathlib.Logic.Relation
import Jukebox.Proofs.Pool.Schedule

/-!
The permits of a pool. Submitted tasks ask for a permit one after the other; one that finds none waits, and
a task that ends hands its permit to the one that has waited longest. Whatever can be done at a moment is
done before time passes, but in any order: a task may end, and another one start, before the next one has
asked at all. Every run that these rules allow follows the schedule of the pool.
-/

namespace Jukebox

namespace Pool

structure Task where
  number : Nat
  duration : Nat
deriving DecidableEq

/-- A task that has got a permit, and when. -/
structure Job where
  task : Task
  start : Nat
deriving DecidableEq

namespace Job

def due (j : Job) : Nat := j.start + j.task.duration

def span (j : Job) : Span := ⟨j.start, j.due⟩

end Job

/-- A pool at work. -/
structure Workshop where
  now : Nat := 0
  /-- The permits that no task holds. -/
  free : Nat
  /-- The tasks that have been submitted and have not asked for a permit yet. -/
  coming : List Task
  waiting : List Task := []
  running : List Job := []
  /-- What has ended, each with the moment of its end. -/
  ended : List (Job × Nat) := []

namespace Workshop

def start (w : Workshop) (t : Task) : Workshop :=
  { w with running := w.running ++ [⟨t, w.now⟩] }

def finish (w : Workshop) (j : Job) : Workshop :=
  { w with running := w.running.erase j, ended := w.ended ++ [(j, w.now)] }

/-- A task takes a permit, or goes to the end of the line if there is none. -/
def ask (w : Workshop) (t : Task) : Workshop :=
  if w.free = 0 then { w with waiting := w.waiting ++ [t] } else { w with free := w.free - 1 }.start t

/-- A permit that comes back goes to the task that has waited longest. -/
def handOn (w : Workshop) : Workshop :=
  match w.waiting with
  | [] => { w with free := w.free + 1 }
  | t :: rest => { w with waiting := rest }.start t

inductive Step : Workshop → Workshop → Prop
  | asks {w : Workshop} {t : Task} {rest : List Task} (next : w.coming = t :: rest) :
      Step w ({ w with coming := rest }.ask t)
  | ends {w : Workshop} {j : Job} (there : j ∈ w.running) (due : j.due = w.now) :
      Step w (w.finish j).handOn
  /-- Time passes, but not beyond the end of a task, and not while one has yet to ask. -/
  | passes {w : Workshop} {t : Nat} (all : w.coming = []) (later : w.now < t)
      (inTime : ∀ j ∈ w.running, t ≤ j.due) : Step w { w with now := t }

/-- The second state is reached from the first one. -/
abbrev Leads : Workshop → Workshop → Prop := Relation.ReflTransGen Step

/-- Everything that can be done at the moment has been done. -/
structure Settled (w : Workshop) : Prop where
  asked : w.coming = []
  none_due : ∀ j ∈ w.running, j.due ≠ w.now

end Workshop

/-- The tasks with the given durations, numbered in the order in which they are submitted. -/
def tasks (durations : List Nat) : List Task := durations.mapIdx Task.mk

/-- A pool at the moment at which the tasks are submitted. -/
def opened (p : Pool) (durations : List Nat) : Workshop where
  free := p.size
  coming := tasks durations

/-- The tasks with their starts on the schedule. -/
def jobs (p : Pool) (durations : List Nat) : List Job :=
  ((tasks durations).zip (p.schedule durations)).map fun x => ⟨x.1, x.2.start⟩

section Jobs

variable (p : Pool) (durations : List Nat)

theorem length_tasks : (tasks durations).length = (p.schedule durations).length := by
  rw [tasks, List.length_mapIdx, length_schedule]

theorem jobs_task : (p.jobs durations).map (·.task) = tasks durations := by
  rw [jobs, List.map_map]
  exact List.map_fst_zip (Nat.le_of_eq (length_tasks p durations))

theorem jobs_span : (p.jobs durations).map Job.span = p.schedule durations := by
  have same : ∀ x ∈ (tasks durations).zip (p.schedule durations),
      Job.span ⟨x.1, x.2.start⟩ = x.2 := by
    rintro ⟨t, s⟩ there
    obtain ⟨i, place⟩ := List.mem_iff_getElem?.mp there
    obtain ⟨numbered, scheduled⟩ := List.getElem?_zip_eq_some.mp place
    obtain ⟨long, order⟩ := (p.schedule_serves durations).whole i s scheduled
    rw [tasks, List.getElem?_mapIdx, long] at numbered
    cases numbered
    exact congrArg (Span.mk s.start) (Nat.add_sub_cancel' order)
  rw [jobs, List.map_map]
  exact (List.map_congr_left same).trans
    (List.map_snd_zip (Nat.le_of_eq (length_tasks p durations).symm))

theorem ends_take (k : Nat) :
    ends ((p.schedule durations).take k) = ((p.jobs durations).take k).map Job.due := by
  rw [← jobs_span, ends, ← List.map_take, List.map_map]
  rfl

theorem greedy_jobs {k : Nat} {j : Job} (there : (p.jobs durations)[k]? = some j) :
    FirstFree p.size (((p.jobs durations).take k).map Job.due) j.start := by
  rw [← ends_take]
  refine p.schedule_greedy durations k j.span ?_
  rw [← jobs_span, List.getElem?_map, there]
  rfl

theorem jobs_getElem? {k : Nat} {t : Task} (there : (tasks durations)[k]? = some t) :
    ∃ start, (p.jobs durations)[k]? = some ⟨t, start⟩ := by
  rw [← jobs_task p, List.getElem?_map] at there
  obtain ⟨⟨_, start⟩, place, rfl⟩ := Option.map_eq_some_iff.mp there
  exact ⟨start, place⟩

end Jobs

/-- The first `k` tasks have been started, each as the schedule has it; what has ended took its time, and
what runs is not yet past its end. -/
structure Served (p : Pool) (durations : List Nat) (w : Workshop) (k : Nat) : Prop where
  started : (w.running ++ w.ended.map (·.1)).Perm ((p.jobs durations).take k)
  begun : ∀ j ∈ w.running, j.start ≤ w.now ∧ w.now ≤ j.due
  punctual : ∀ e ∈ w.ended, e.2 = e.1.due ∧ e.2 ≤ w.now

namespace Served

variable {p : Pool} {durations : List Nat} {w : Workshop} {k : Nat}

theorem unfinished (h : p.Served durations w k) (t : Nat) :
    (((p.jobs durations).take k).map Job.due).countP (t < ·) =
      (w.running.map Job.due).countP (t < ·) + (w.ended.map (·.1.due)).countP (t < ·) := by
  rw [← (h.started.map Job.due).countP_eq, List.map_append, List.countP_append, List.map_map]
  rfl

theorem unfinished_now (h : p.Served durations w k) :
    (((p.jobs durations).take k).map Job.due).countP (w.now < ·) =
      (w.running.map Job.due).countP (w.now < ·) := by
  have none : (w.ended.map (·.1.due)).countP (w.now < ·) = 0 := by
    rw [List.countP_eq_zero]
    intro x there
    obtain ⟨e, past, rfl⟩ := List.mem_map.mp there
    obtain ⟨same, before⟩ := h.punctual e past
    simp only [decide_eq_true_eq]
    omega
  rw [h.unfinished, none, Nat.add_zero]

/-- With a worker to spare at the very start, the next task need not wait. -/
theorem firstFree_of_room (h : p.Served durations w k) (atOnce : w.now = 0)
    (room : w.running.length < p.size) :
    FirstFree p.size (((p.jobs durations).take k).map Job.due) w.now := by
  refine ⟨?_, fun u earlier => absurd earlier (by omega)⟩
  have few : (w.running.map Job.due).countP (w.now < ·) ≤ (w.running.map Job.due).length :=
    List.countP_le_length
  rw [List.length_map] at few
  rw [h.unfinished_now]
  omega

/-- With all workers busy, one gets free when the first of their tasks ends. -/
theorem firstFree_of_due (h : p.Served durations w k) (full : w.running.length = p.size) {j : Job}
    (there : j ∈ w.running) (due : j.due = w.now) :
    FirstFree p.size (((p.jobs durations).take k).map Job.due) w.now := by
  constructor
  · have others : (w.running.map Job.due).countP (w.now < ·) ≤ (w.running.erase j).length := by
      rw [((List.perm_cons_erase there).map Job.due).countP_eq, List.map_cons,
        List.countP_cons_of_neg (by simp [due]), ← List.length_map Job.due]
      exact List.countP_le_length
    have one := List.length_erase_of_mem there
    have positive := p.size_pos
    rw [h.unfinished_now]
    omega
  · intro u earlier
    have all : (w.running.map Job.due).countP (u < ·) = (w.running.map Job.due).length := by
      rw [List.countP_eq_length]
      intro x there
      obtain ⟨j', runs, rfl⟩ := List.mem_map.mp there
      have := (h.begun j' runs).2
      simp only [decide_eq_true_eq]
      omega
    rw [List.length_map] at all
    rw [h.unfinished]
    omega

theorem start (h : p.Served durations w k) {t : Task}
    (next : (p.jobs durations).take (k + 1) = (p.jobs durations).take k ++ [⟨t, w.now⟩]) :
    p.Served durations (w.start t) (k + 1) where
  started := by
    rw [next, Workshop.start, List.append_assoc]
    refine .trans ?_ (h.started.append_right _)
    rw [List.append_assoc]
    exact List.perm_append_comm.append_left _
  begun j there := by
    rcases List.mem_append.mp there with there | there
    · exact h.begun j there
    · rw [List.mem_singleton.mp there]
      exact ⟨Nat.le_refl _, Nat.le_add_right _ _⟩
  punctual := h.punctual

theorem finish (h : p.Served durations w k) {j : Job} (there : j ∈ w.running)
    (due : j.due = w.now) : p.Served durations (w.finish j) k where
  started := by
    refine .trans ?_ h.started
    rw [Workshop.finish, List.map_append, ← List.append_assoc]
    refine List.perm_append_comm.trans ?_
    exact ((List.perm_cons_erase there).append_right _).symm
  begun j' there' := h.begun j' (List.mem_of_mem_erase there')
  punctual e there' := by
    rcases List.mem_append.mp there' with past | new
    · exact h.punctual e past
    · rw [List.mem_singleton.mp new]
      exact ⟨due.symm, Nat.le_refl _⟩

end Served

/-- What the workshop holds at every moment: the tasks that have not been started stand in line in their
order, no permit is lost, and none is free while a task waits. -/
structure OnSchedule (p : Pool) (durations : List Nat) (w : Workshop) (k : Nat) : Prop where
  served : p.Served durations w k
  inLine : w.waiting ++ w.coming = (tasks durations).drop k
  permits : w.free + w.running.length = p.size
  eager : w.waiting ≠ [] → w.free = 0
  atOnce : w.coming ≠ [] → w.now = 0

namespace OnSchedule

variable {p : Pool} {durations : List Nat} {w : Workshop} {k : Nat}

theorem opened (p : Pool) (durations : List Nat) :
    p.OnSchedule durations (p.opened durations) 0 where
  served := ⟨.refl _, nofun, nofun⟩
  inLine := rfl
  permits := rfl
  eager some := absurd rfl some
  atOnce _ := rfl

/-- The first task in line starts when the schedule says so, if a permit is free for the first time. -/
theorem next_job (h : p.OnSchedule durations w k) {t : Task} {rest : List Task}
    (line : w.waiting ++ w.coming = t :: rest)
    (first : FirstFree p.size (((p.jobs durations).take k).map Job.due) w.now) :
    (p.jobs durations).take (k + 1) = (p.jobs durations).take k ++ [⟨t, w.now⟩] ∧
      rest = (tasks durations).drop (k + 1) := by
  have behind : (tasks durations).drop k = t :: rest := h.inLine.symm.trans line
  have place : (tasks durations)[k]? = some t := by
    rw [← List.head?_drop, behind, List.head?_cons]
  obtain ⟨start, there⟩ := jobs_getElem? p durations place
  have same : start = w.now := (greedy_jobs p durations there).unique first
  subst same
  refine ⟨?_, ?_⟩
  · rw [List.take_add_one, there, Option.toList_some]
  · rw [← List.tail_drop, behind, List.tail_cons]

theorem ask (h : p.OnSchedule durations w k) {t : Task} {rest : List Task}
    (next : w.coming = t :: rest) :
    ∃ k', p.OnSchedule durations ({ w with coming := rest }.ask t) k' := by
  have start : w.now = 0 := h.atOnce (by rw [next]; exact List.cons_ne_nil t rest)
  have permits := h.permits
  unfold Workshop.ask
  dsimp only
  split
  · next full =>
      have line := h.inLine
      rw [next] at line
      exact ⟨k,
        { served := ⟨h.served.started, h.served.begun, h.served.punctual⟩
          inLine := by simpa using line
          permits := h.permits
          eager := fun _ => full
          atOnce := fun _ => start }⟩
  · next free =>
      have none : w.waiting = [] := Classical.byContradiction fun some => free (h.eager some)
      obtain ⟨taken, left⟩ := h.next_job (by rw [none, next]; rfl)
        (h.served.firstFree_of_room start (by omega))
      have served := h.served.start taken
      exact ⟨k + 1,
        { served := ⟨served.started, served.begun, served.punctual⟩
          inLine := by simpa [Workshop.start, none] using left
          permits := by
            simp only [Workshop.start, List.length_append, List.length_singleton]
            omega
          eager := fun some => absurd none some
          atOnce := fun _ => start }⟩

theorem finish (h : p.OnSchedule durations w k) {j : Job} (there : j ∈ w.running)
    (due : j.due = w.now) : ∃ k', p.OnSchedule durations (w.finish j).handOn k' := by
  have one := List.length_erase_of_mem there
  have some := List.length_pos_of_mem there
  have permits := h.permits
  have served := h.served.finish there due
  unfold Workshop.handOn
  split
  · next none =>
      exact ⟨k,
        { served := ⟨served.started, served.begun, served.punctual⟩
          inLine := h.inLine
          permits := by
            simp only [Workshop.finish]
            omega
          eager := fun some => absurd none some
          atOnce := h.atOnce }⟩
  · next t rest line =>
      have line : w.waiting = t :: rest := line
      have full : w.free = 0 := h.eager (by rw [line]; exact List.cons_ne_nil t rest)
      obtain ⟨taken, left⟩ := h.next_job (by rw [line]; rfl)
        (h.served.firstFree_of_due (by omega) there due)
      have served := served.start taken
      exact ⟨k + 1,
        { served := ⟨served.started, served.begun, served.punctual⟩
          inLine := left
          permits := by
            simp only [Workshop.start, Workshop.finish, List.length_append, List.length_singleton]
            omega
          eager := fun _ => full
          atOnce := h.atOnce }⟩

theorem step (h : p.OnSchedule durations w k) {w' : Workshop} (step : w.Step w') :
    ∃ k', p.OnSchedule durations w' k' := by
  cases step with
  | asks next => exact h.ask next
  | ends there due => exact h.finish there due
  | passes all later inTime =>
      exact ⟨k,
        { served :=
            { started := h.served.started
              begun := fun j there =>
                ⟨Nat.le_trans (h.served.begun j there).1 (Nat.le_of_lt later), inTime j there⟩
              punctual := fun e there =>
                ⟨(h.served.punctual e there).1,
                  Nat.le_trans (h.served.punctual e there).2 (Nat.le_of_lt later)⟩ }
          inLine := h.inLine
          permits := h.permits
          eager := h.eager
          atOnce := fun some => absurd all some }⟩

theorem leads (h : p.OnSchedule durations w k) {w' : Workshop} (run : w.Leads w') :
    ∃ k', p.OnSchedule durations w' k' := by
  induction run with
  | refl => exact ⟨k, h⟩
  | tail _ last ih =>
      obtain ⟨k', before⟩ := ih
      exact before.step last

/-- Once everything has been done at a moment, the tasks not started yet are those with a later start. -/
theorem later_of_settled (h : p.OnSchedule durations w k) (settled : w.Settled) :
    ∀ j ∈ (p.jobs durations).drop k, w.now < j.start := by
  intro j behind
  obtain ⟨i, place⟩ := List.mem_iff_getElem?.mp behind
  rw [List.getElem?_drop] at place
  have inside : k < (p.jobs durations).length := by
    have := (List.getElem?_eq_some_iff.mp place).1
    omega
  have first := greedy_jobs p durations (List.getElem?_eq_getElem inside)
  have sooner : (p.jobs durations)[k].start ≤ j.start := by
    refine first.mono (greedy_jobs p durations place) ?_
    exact (List.take_sublist_take_left (Nat.le_add_right k i)).map _
  refine Nat.lt_of_lt_of_le (Nat.lt_of_not_le fun begun => ?_) sooner
  -- Somebody waits, so all permits are held, and by tasks that end later than now.
  have waiting : w.waiting ≠ [] := by
    intro none
    have line := h.inLine
    rw [none, settled.asked, List.append_nil, ← jobs_task p, ← List.map_drop, eq_comm,
      List.map_eq_nil_iff, List.drop_eq_nil_iff] at line
    omega
  have permits := h.permits
  have full := h.eager waiting
  have all : (w.running.map Job.due).countP (w.now < ·) = (w.running.map Job.due).length := by
    rw [List.countP_eq_length]
    intro x there
    obtain ⟨j', runs, rfl⟩ := List.mem_map.mp there
    have inTime := (h.served.begun j' runs).2
    have late := settled.none_due j' runs
    simp only [decide_eq_true_eq]
    omega
  have fewer : (((p.jobs durations).take k).map Job.due).countP (w.now < ·) ≤
      (((p.jobs durations).take k).map Job.due).countP ((p.jobs durations)[k].start < ·) :=
    List.countP_mono_left fun x _ => by simpa using fun later => by omega
  have free := first.free
  rw [h.served.unfinished_now, all, List.length_map] at fewer
  omega

end OnSchedule

/-- What a settled moment looks like by the schedule: the tasks that are in progress then are running, those
whose end has come have ended when they were due, those with a later start wait in their order, and the
other permits are free. -/
structure AsScheduled (p : Pool) (durations : List Nat) (w : Workshop) : Prop where
  running : w.running.Perm
    ((p.jobs durations).filter fun j => j.start ≤ w.now && w.now < j.due)
  ended : w.ended.Perm
    (((p.jobs durations).filter (·.due ≤ w.now)).map fun j => (j, j.due))
  waiting : w.waiting = ((p.jobs durations).filter (w.now < ·.start)).map (·.task)
  free : w.free = p.available (p.schedule durations) w.now

namespace OnSchedule

variable {p : Pool} {durations : List Nat} {w : Workshop} {k : Nat}

/-- Which tasks meet a condition is asked of those that run, those that have ended, and those in line. -/
theorem filter_perm (h : p.OnSchedule durations w k) (f : Job → Bool) :
    (w.running.filter f ++ (w.ended.map (·.1)).filter f ++ ((p.jobs durations).drop k).filter f).Perm
      ((p.jobs durations).filter f) := by
  have split := List.filter_append (p := f) ((p.jobs durations).take k) ((p.jobs durations).drop k)
  rw [List.take_append_drop] at split
  rw [split, ← List.filter_append]
  exact (h.served.started.filter f).append_right _

theorem runs (h : p.OnSchedule durations w k) (settled : w.Settled) {j : Job}
    (there : j ∈ w.running) : j.start ≤ w.now ∧ w.now < j.due := by
  obtain ⟨begun, inTime⟩ := h.served.begun j there
  exact ⟨begun, Nat.lt_of_le_of_ne inTime (settled.none_due j there).symm⟩

theorem past (h : p.OnSchedule durations w k) {j : Job} (there : j ∈ w.ended.map (·.1)) :
    j.start ≤ j.due ∧ j.due ≤ w.now := by
  obtain ⟨e, before, rfl⟩ := List.mem_map.mp there
  obtain ⟨punctual, past⟩ := h.served.punctual e before
  exact ⟨Nat.le_add_right _ _, punctual ▸ past⟩

theorem running_perm (h : p.OnSchedule durations w k) (settled : w.Settled) :
    w.running.Perm ((p.jobs durations).filter fun j => j.start ≤ w.now && w.now < j.due) := by
  have all : w.running.filter (fun j => j.start ≤ w.now && w.now < j.due) = w.running := by
    rw [List.filter_eq_self]
    intro j there
    simpa using h.runs settled there
  have none : (w.ended.map (·.1)).filter (fun j => j.start ≤ w.now && w.now < j.due) = [] := by
    rw [List.filter_eq_nil_iff]
    intro j there
    simpa using fun _ => (h.past there).2
  have behind : ((p.jobs durations).drop k).filter
      (fun j => j.start ≤ w.now && w.now < j.due) = [] := by
    rw [List.filter_eq_nil_iff]
    intro j there
    have later := h.later_of_settled settled j there
    simpa using fun begun => absurd later (Nat.not_lt.mpr begun)
  have parts := h.filter_perm fun j => j.start ≤ w.now && w.now < j.due
  rw [all, none, behind, List.append_nil, List.append_nil] at parts
  exact parts

theorem ended_perm (h : p.OnSchedule durations w k) (settled : w.Settled) :
    w.ended.Perm (((p.jobs durations).filter (·.due ≤ w.now)).map fun j => (j, j.due)) := by
  have same : w.ended = (w.ended.map (·.1)).map fun j => (j, j.due) := by
    rw [List.map_map]
    refine (List.map_id' _).symm.trans (List.map_congr_left fun e there => ?_)
    exact Prod.ext rfl (h.served.punctual e there).1
  have none : w.running.filter (·.due ≤ w.now) = [] := by
    rw [List.filter_eq_nil_iff]
    intro j there
    simpa using (h.runs settled there).2
  have all : (w.ended.map (·.1)).filter (·.due ≤ w.now) = w.ended.map (·.1) := by
    rw [List.filter_eq_self]
    intro j there
    simpa using (h.past there).2
  have behind : ((p.jobs durations).drop k).filter (·.due ≤ w.now) = [] := by
    rw [List.filter_eq_nil_iff]
    intro j there
    have later := h.later_of_settled settled j there
    have due : j.start ≤ j.due := Nat.le_add_right _ _
    rw [decide_eq_true_eq]
    omega
  have parts := h.filter_perm (·.due ≤ w.now)
  rw [none, all, behind, List.nil_append, List.append_nil] at parts
  rw [same]
  exact parts.map _

theorem waiting_eq (h : p.OnSchedule durations w k) (settled : w.Settled) :
    w.waiting = ((p.jobs durations).filter (w.now < ·.start)).map (·.task) := by
  have front : ((p.jobs durations).take k).filter (w.now < ·.start) = [] := by
    rw [List.filter_eq_nil_iff]
    intro j there
    rcases List.mem_append.mp (h.served.started.mem_iff.mpr there) with running | ended
    · simpa using (h.runs settled running).1
    · simpa using Nat.le_trans (h.past ended).1 (h.past ended).2
  have back : ((p.jobs durations).drop k).filter (w.now < ·.start) = (p.jobs durations).drop k := by
    rw [List.filter_eq_self]
    intro j there
    simpa using h.later_of_settled settled j there
  have line := h.inLine
  rw [settled.asked, List.append_nil] at line
  conv_rhs => rw [← List.take_append_drop k (p.jobs durations), List.filter_append, front, back]
  rw [line, ← jobs_task p, List.nil_append, List.map_drop]

theorem asScheduled (h : p.OnSchedule durations w k) (settled : w.Settled) :
    p.AsScheduled durations w where
  running := h.running_perm settled
  ended := h.ended_perm settled
  waiting := h.waiting_eq settled
  free := by
    have count : w.running.length = inProgress (p.schedule durations) w.now := by
      rw [(h.running_perm settled).length_eq, ← List.countP_eq_length_filter, ← jobs_span, inProgress,
        List.countP_map]
      rfl
    have permits := h.permits
    rw [available_eq]
    omega

end OnSchedule

/-- When the last end of the schedule has come, all tasks have ended and all permits are back. -/
theorem AsScheduled.all_ended {p : Pool} {durations : List Nat} {w : Workshop}
    (h : p.AsScheduled durations w) (late : ∀ j ∈ p.jobs durations, j.due ≤ w.now) :
    w.ended.Perm ((p.jobs durations).map fun j => (j, j.due)) ∧
      w.waiting = [] ∧ w.running = [] ∧ w.free = p.size := by
  refine ⟨?_, ?_, ?_, ?_⟩
  · have ended := h.ended
    rwa [List.filter_eq_self.mpr fun j there => decide_eq_true (late j there)] at ended
  · rw [h.waiting, List.map_eq_nil_iff, List.filter_eq_nil_iff]
    intro j there
    have := late j there
    have due : j.start ≤ j.due := Nat.le_add_right _ _
    simp only [decide_eq_true_eq]
    omega
  · rw [← List.perm_nil, ← List.filter_eq_nil_iff.mpr]
    · exact h.running
    · intro j there
      have := late j there
      simp only [Bool.and_eq_true, decide_eq_true_eq]
      omega
  · rw [h.free]
    refine (p.schedule_serves durations).givenBack w.now fun s there => ?_
    rw [← jobs_span] at there
    obtain ⟨j, inside, rfl⟩ := List.mem_map.mp there
    exact late j inside

namespace Workshop

variable {w : Workshop}

/-- How much there is to be done up to a moment: tasks that have yet to ask and then to end, tasks that have
yet to end, and the time that has to pass. -/
def work (w : Workshop) (t : Nat) : Nat :=
  2 * w.coming.length + w.waiting.length + w.running.length + (t - w.now)

theorem now_ask (t : Task) : (w.ask t).now = w.now := by
  unfold ask
  split <;> rfl

theorem now_handOn : w.handOn.now = w.now := by
  unfold handOn
  split <;> rfl

theorem work_ask (t : Task) (moment : Nat) : (w.ask t).work moment = w.work moment + 1 := by
  unfold ask
  split
  · simp only [work, List.length_append, List.length_singleton]
    omega
  · simp only [work, start, List.length_append, List.length_singleton]
    omega

theorem work_handOn (moment : Nat) : w.handOn.work moment = w.work moment := by
  unfold handOn
  split
  · rfl
  · next t rest line =>
      simp only [work, start, line, List.length_append, List.length_cons, List.length_nil]
      omega

theorem work_finish {j : Job} (there : j ∈ w.running) (moment : Nat) :
    (w.finish j).work moment < w.work moment := by
  have one := List.length_erase_of_mem there
  have some := List.length_pos_of_mem there
  simp only [work, finish]
  omega

end Workshop

/-- From every moment the run can go on, and to every later moment. -/
theorem OnSchedule.exists_settled {p : Pool} {durations : List Nat} {w : Workshop} {k t : Nat}
    (h : p.OnSchedule durations w k) (later : w.now ≤ t) :
    ∃ w', w.Leads w' ∧ w'.now = t ∧ w'.Settled := by
  -- Each step asks, ends or lets time pass, and of all three there is only so much to do up to `t`.
  generalize size : w.work t = n
  induction n using Nat.strongRecOn generalizing w k with
  | ind n ih =>
      subst size
      have go {w₁ : Workshop} (step : w.Step w₁) (inTime : w₁.now ≤ t)
          (less : w₁.work t < w.work t) : ∃ w', w.Leads w' ∧ w'.now = t ∧ w'.Settled := by
        obtain ⟨k', h₁⟩ := h.step step
        obtain ⟨w', run, there⟩ := ih _ less h₁ inTime rfl
        exact ⟨w', .head step run, there⟩
      cases coming : w.coming with
      | cons next rest =>
          refine go (.asks coming) ?_ ?_
          · rwa [Workshop.now_ask]
          · rw [Workshop.work_ask]
            simp only [Workshop.work, coming, List.length_cons]
            omega
      | nil =>
          by_cases none_due : ∀ j ∈ w.running, j.due ≠ w.now
          · rcases Nat.eq_or_lt_of_le later with same | before
            · exact ⟨w, .refl, same, coming, none_due⟩
            · refine go (.passes coming (Nat.lt_succ_self w.now) fun j there => ?_) before ?_
              · exact Nat.lt_of_le_of_ne (h.served.begun j there).2 (none_due j there).symm
              · simp only [Workshop.work]
                omega
          · push Not at none_due
            obtain ⟨j, there, due⟩ := none_due
            refine go (.ends there due) ?_ ?_
            · rwa [Workshop.now_handOn]
            · rw [Workshop.work_handOn]
              exact Workshop.work_finish there t

/-- There is a pool of every size that a semaphore can hold, with one permit at least. Tasks that are
submitted to it at once are served as its schedule says, and the schedule is the one in which each starts,
in order, as soon as a permit is free: whatever run the permits allow, the first few tasks have been started
when the schedule has it and have ended when they were due, at every settled moment exactly those run that
are in progress by the schedule, and every run can go on until all tasks have ended once and all permits
have come back. -/
theorem served_in_order (n : Nat) (durations : List Nat) (fits : max n 1 ≤ maxPermits) :
    ∃ p, ofSize? n = some p ∧ p.size = max n 1 ∧ p.Serves durations (p.schedule durations) ∧
    (p.jobs durations).map (·.task) = tasks durations ∧
    (p.jobs durations).map Job.span = p.schedule durations ∧
    (∀ w, (p.opened durations).Leads w →
      (∃ k, p.OnSchedule durations w k) ∧ (w.Settled → p.AsScheduled durations w)) ∧
    (∀ w t, (p.opened durations).Leads w → w.now ≤ t →
      ∃ w', w.Leads w' ∧ w'.now = t ∧ w'.Settled) ∧
    ∀ w, (p.opened durations).Leads w → ∃ w', w.Leads w' ∧
      w'.ended.Perm ((p.jobs durations).map fun j => (j, j.due)) ∧
      w'.coming = [] ∧ w'.waiting = [] ∧ w'.running = [] ∧ w'.free = p.size := by
  let p := ofSize n
  have serves := p.schedule_serves durations
  have follows {w : Workshop} (run : (p.opened durations).Leads w) :
      ∃ k, p.OnSchedule durations w k := (OnSchedule.opened p durations).leads run
  refine ⟨p, ofSize?_eq_some fits, rfl, serves, jobs_task p durations, jobs_span p durations,
    ?_, ?_, ?_⟩
  · intro w run
    obtain ⟨k, h⟩ := follows run
    exact ⟨⟨k, h⟩, h.asScheduled⟩
  · intro w t run later
    obtain ⟨k, h⟩ := follows run
    exact h.exists_settled later
  · intro w run
    obtain ⟨k, h⟩ := follows run
    have last : ∀ j ∈ p.jobs durations, j.due ≤ ((p.jobs durations).map Job.due).sum :=
      fun j there => List.le_sum_of_mem (List.mem_map_of_mem there)
    obtain ⟨w', more, there, settled⟩ :=
      h.exists_settled (Nat.le_add_right w.now ((p.jobs durations).map Job.due).sum)
    obtain ⟨k', h'⟩ := h.leads more
    refine ⟨w', more, ?_⟩
    obtain ⟨ended, waiting, running, free⟩ := (h'.asScheduled settled).all_ended fun j inside => by
      rw [there]
      exact Nat.le_add_left_of_le (last j inside)
    exact ⟨ended, settled.asked, waiting, running, free⟩

/-- Three tasks for two workers: the last one starts when the shorter of the first two has ended. -/
theorem served_in_order_of_three_tasks :
    max 2 1 ≤ maxPermits ∧ ∃ p, ofSize? 2 = some p ∧ p.size = 2 ∧
      p.Serves [30, 10, 5] (p.schedule [30, 10, 5]) ∧
      p.schedule [30, 10, 5] = [⟨0, 30⟩, ⟨0, 10⟩, ⟨10, 15⟩] ∧
      ∃ w', (p.opened [30, 10, 5]).Leads w' ∧ w'.running = [] ∧ w'.free = 2 := by
  have fits : max 2 1 ≤ maxPermits := by decide
  obtain ⟨p, made, two, serves, _, _, _, _, goesOn⟩ := served_in_order 2 [30, 10, 5] fits
  have same : p = ofSize 2 := Option.some.inj (made.symm.trans (ofSize?_eq_some fits))
  obtain ⟨w', run, _, _, _, running, free⟩ := goesOn _ .refl
  refine ⟨fits, p, made, two, serves, ?_, w', run, running, free.trans two⟩
  rw [same]
  decide

/-- With one permit more than a semaphore can hold there is no pool, so nothing is ever served. -/
theorem not_served_above_limit :
    max 2305843009213693952 1 = maxPermits + 1 ∧
      ¬ ∃ p, ofSize? 2305843009213693952 = some p ∧ p.Serves [5] (p.schedule [5]) := by
  refine ⟨by decide, ?_⟩
  rintro ⟨p, made, _⟩
  rw [ofSize?_eq_none (by decide)] at made
  cases made

end Pool

end Jukebox
