import Jukebox.Proofs.Command.Plan
import Jukebox.Proofs.Station.Schedule

/-!
The station in service: besides everything else that can happen to it, members give commands. A
command is refused before it gets anywhere, or its answer is that of one request.
-/

namespace Jukebox

inductive Occurrence
  | act (a : StationAct)
  | command (i : Invocation)

namespace Occurrence

def KeepsBounds : Occurrence → Prop
  | act a => a.KeepsBounds
  | command _ => True

def isLag : Occurrence → Bool
  | act a => a.isLag
  | command _ => false

end Occurrence

theorem mem_commands {name : String} {spec : CommandSpec} (found : findCommand? name = some spec) :
    spec ∈ commands := by
  unfold findCommand? at found
  exact List.mem_of_find?_eq_some found

namespace Station

/-- A command is denied, or its arguments are malformed, or it is carried out. -/
theorem dispatch_cases (s : Station) (i : Invocation) :
    (∃ e, e.isDenial = true ∧ s.dispatch i = (.error e, s)) ∨
    (∃ text, s.dispatch i = (.error (.validation text), s.count Metrics.commandHandled)) ∨
    ∃ spec p, findCommand? i.name = some spec ∧ i.plan spec.action = .ok p ∧
      s.dispatch i = ((s.handle p.request).1.map p.reply,
        (s.handle p.request).2.count Metrics.commandHandled) := by
  unfold dispatch
  split
  · exact .inl ⟨_, rfl, rfl⟩
  · next spec found =>
      split
      · unfold perform
        cases plan : i.plan spec.action with
        | error e =>
            obtain ⟨text, rfl⟩ := i.reads_plan spec.action e plan
            exact .inr (.inl ⟨text, rfl⟩)
        | ok p => exact .inr (.inr ⟨spec, p, found, plan, rfl⟩)
      · exact .inl ⟨_, rfl, rfl⟩

/-- A command leaves what a request leaves, but for the count of commands. -/
theorem dispatch_keeps {P : Station → Prop} {s : Station} (here : P s)
    (asked : ∀ {α : Type} (q : Request α), P (s.handle q).2)
    (counted : ∀ s', P s' → P (s'.count Metrics.commandHandled)) (i : Invocation) :
    P (s.dispatch i).2 := by
  rcases s.dispatch_cases i with ⟨_, _, same⟩ | ⟨_, same⟩ | ⟨_, p, _, _, same⟩
  · rw [same]
    exact here
  · rw [same]
    exact counted s here
  · rw [same]
    exact counted _ (asked p.request)

def on (s : Station) : Occurrence → Station
  | .act a => s.next a
  | .command i => (s.dispatch i).2

def through (s : Station) : List Occurrence → Station
  | [] => s
  | o :: os => (s.on o).through os

theorem dispatch_grounded {s : Station} (h : s.registry.Grounded) (i : Invocation) :
    (s.dispatch i).2.registry.Grounded := by
  have asked {α : Type} (q : Request α) : (s.handle q).2.registry.Grounded :=
    next_grounded h (.ask q)
  exact dispatch_keeps (P := fun s => s.registry.Grounded) h asked
    (fun _ kept => kept.of_same rfl rfl) i

theorem on_grounded {s : Station} (h : s.registry.Grounded) (o : Occurrence) :
    (s.on o).registry.Grounded := by
  cases o with
  | act a => exact next_grounded h a
  | command i =>
      rw [on]
      exact dispatch_grounded h i

theorem through_grounded {s : Station} (h : s.registry.Grounded) (os : List Occurrence) :
    (s.through os).registry.Grounded := by
  induction os generalizing s with
  | nil => exact h
  | cons o os ih => exact ih (on_grounded h o)

theorem on_pageSize (s : Station) (o : Occurrence) : (s.on o).pageSize = s.pageSize := by
  cases o with
  | act a => exact s.next_pageSize a
  | command i =>
      rw [on]
      exact dispatch_keeps (P := fun s' => s'.pageSize = s.pageSize) rfl
        (fun q => (s.handle_fixed q).2) (fun _ kept => kept) i

theorem through_pageSize (s : Station) (os : List Occurrence) :
    (s.through os).pageSize = s.pageSize := by
  induction os generalizing s with
  | nil => rfl
  | cons o os ih => exact (ih (s.on o)).trans (s.on_pageSize o)

/-- Its votes stand on live sessions, and its settings are within bounds. -/
structure Sound (s : Station) : Prop where
  grounded : s.registry.Grounded
  bounded : s.settings.Bounded

namespace Sound

theorem count {s : Station} (h : s.Sound) (f : Metrics → Metrics) : (s.count f).Sound :=
  ⟨h.grounded.of_same rfl rfl, h.bounded⟩

theorem create {config : Config} (usable : config.defaults.Usable) {repository : Repository}
    (rows : repository.shelf.InBounds) (backend : Backend) :
    (create config repository backend).Sound :=
  ⟨.empty backend, usable, rows, nofun⟩

variable {s : Station} (h : s.Sound)
include h

theorem next {a : StationAct} (outside : a.KeepsBounds) : (s.next a).Sound :=
  ⟨next_grounded h.grounded a, next_settings h.bounded outside⟩

theorem on {o : Occurrence} (outside : o.KeepsBounds) : (s.on o).Sound := by
  cases o with
  | act a => exact h.next outside
  | command i =>
      exact dispatch_keeps h (fun q => h.next (a := .ask q) trivial) (fun _ kept => kept.count _) i

theorem through {os : List Occurrence} (outside : ∀ o ∈ os, o.KeepsBounds) :
    (s.through os).Sound := by
  induction os generalizing s with
  | nil => exact h
  | cons o os ih =>
      obtain ⟨first, later⟩ := List.forall_mem_cons.mp outside
      exact ih (h.on first) later

theorem onTime_on (early : s.OnTime) {o : Occurrence} (prompt : o.isLag = false) :
    (s.on o).OnTime := by
  cases o with
  | act a => exact next_onTime h.grounded h.bounded early prompt
  | command i =>
      exact dispatch_keeps early (fun q => next_onTime h.grounded h.bounded early (a := .ask q) rfl)
        (fun _ kept => kept) i

/-- In a run in which nothing that is due has to wait, no pending vote meets its deadline. -/
theorem onTime_through (early : s.OnTime) {os : List Occurrence}
    (outside : ∀ o ∈ os, o.KeepsBounds) (prompt : ∀ o ∈ os, o.isLag = false) :
    (s.through os).OnTime := by
  induction os generalizing s with
  | nil => exact early
  | cons o os ih =>
      obtain ⟨first, later⟩ := List.forall_mem_cons.mp outside
      obtain ⟨now, then_⟩ := List.forall_mem_cons.mp prompt
      exact ih (h.on first) (h.onTime_on early now) later then_

end Sound

end Station

end Jukebox
