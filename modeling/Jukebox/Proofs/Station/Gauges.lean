import Jukebox.Proofs.Station.Grounded

/-!
The gauges of a station show what it holds. Every move changes the sessions, the events and the
counters in step, and what a move takes off a gauge is always on it.
-/

namespace Jukebox

namespace Metrics

/-- The counters agree with how many entries wait, how many sessions live and how many tracks have
failed. -/
structure Shows (m : Metrics) (waiting sessions failed : Nat) : Prop where
  queued : m.queuedTracks = waiting
  active : m.activeSessions = sessions
  created : m.sessionsCreated = m.activeSessions + m.sessionsEvicted
  failures : m.trackFailures = failed

/-- Nothing is lost when a session that holds a number of entries takes them off the gauges. -/
structure Unclamped (m : Metrics) (held : Nat) : Prop where
  changed : ∀ left, (m.queueChanged held left).queuedTracks + held = m.queuedTracks + left
  evicted : (m.sessionEvicted held).queuedTracks + held = m.queuedTracks
  gone : (m.sessionEvicted held).activeSessions + 1 = m.activeSessions

namespace Shows

theorem of_apart {m m' : Metrics} {waiting sessions failed : Nat}
    (h : m.Shows waiting sessions failed) (same : m'.apartFromVotes = m.apartFromVotes) :
    m'.Shows waiting sessions failed := by
  have apart : m.apartFromVotes.Shows waiting sessions failed :=
    ⟨h.queued, h.active, h.created, h.failures⟩
  rw [← same] at apart
  exact ⟨apart.queued, apart.active, apart.created, apart.failures⟩

variable {m : Metrics} {waiting sessions failed : Nat} (h : m.Shows waiting sessions failed)
include h

theorem sessionCreated : m.sessionCreated.Shows waiting (sessions + 1) failed := by
  refine ⟨h.queued, congrArg (· + 1) h.active, ?_, h.failures⟩
  rw [Metrics.sessionCreated, h.created]
  exact Nat.add_right_comm _ _ _

theorem tracksFailed (n : Nat) : (m.tracksFailed n).Shows waiting sessions (failed + n) :=
  ⟨h.queued, h.active, h.created, congrArg (· + n) h.failures⟩

theorem sessionEvicted (positive : 0 < sessions) (held : Nat) :
    (m.sessionEvicted held).Shows (waiting - held) (sessions - 1) failed := by
  have active := h.active
  have created := h.created
  refine ⟨congrArg (· - held) h.queued, congrArg (· - 1) h.active, ?_, h.failures⟩
  simp only [Metrics.sessionEvicted]
  omega

section Taking

variable {held : Nat} (within : held ≤ waiting)
include within

theorem queueChanged (left : Nat) :
    (m.queueChanged held left).Shows (waiting + left - held) sessions failed := by
  have queued := h.queued
  unfold Metrics.queueChanged
  split
  · next more => exact ⟨by simp only; omega, h.active, h.created, h.failures⟩
  · next fewer => exact ⟨by simp only; omega, h.active, h.created, h.failures⟩

theorem unclamped (positive : 0 < sessions) : m.Unclamped held := by
  have queued := h.queued
  have active := h.active
  have evicted := h.sessionEvicted positive held
  refine ⟨?_, ?_, ?_⟩
  · intro left
    rw [(h.queueChanged within left).queued]
    omega
  · rw [evicted.queued]
    omega
  · rw [evicted.active]
    omega

end Taking

end Shows

end Metrics

/-- How many entries wait in all the live sessions. -/
def Registry.waiting (r : Registry) : Nat := r.live.total fun slot => slot.session.queue.length

namespace Station

def Balanced (s : Station) : Prop :=
  s.metrics.Shows s.registry.waiting s.registry.live.size (s.published.countP Event.isTrackFailed)

namespace Balanced

theorem create (config : Config) (repository : Repository) (backend : Backend) :
    (Station.create config repository backend).Balanced := ⟨rfl, rfl, rfl, rfl⟩

variable {s : Station} (h : s.Balanced)
include h

theorem of_same {s' : Station} (live : s'.registry.live = s.registry.live)
    (published : s'.published = s.published)
    (apart : s'.metrics.apartFromVotes = s.metrics.apartFromVotes) : s'.Balanced := by
  rw [Balanced, Registry.waiting, live, published]
  exact h.of_apart apart

section Slots

variable {g : GuildId} {slot : Slot} (found : s.registry.live.get? g = some slot)
include found

theorem unclamped : s.metrics.Unclamped slot.session.queue.length :=
  Metrics.Shows.unclamped h
    (Table.le_total found fun slot => slot.session.queue.length) (Table.size_pos_of_some found)

theorem apply (here : slot.ref.guild = g) {α : Type}
    (operation : Backend → Nat → Session → Outcome (Except PlayerError α)) :
    (s.apply slot operation).2.Balanced := by
  subst here
  have held : slot.session.queue.length ≤ s.registry.waiting :=
    Table.le_total found fun slot => slot.session.queue.length
  have moved := Table.total_insert_of_some found
    { slot with session := (s.outcomeIn slot operation).session }
    fun slot => slot.session.queue.length
  have waiting : (s.apply slot operation).2.registry.waiting =
      s.registry.waiting + (s.outcomeIn slot operation).session.queue.length -
        slot.session.queue.length := by
    rw [apply_eq, Registry.waiting]
    exact Nat.eq_sub_of_add_eq moved
  have sessions : (s.apply slot operation).2.registry.live.size = s.registry.live.size := by
    rw [apply_eq]
    exact Table.size_insert_of_some found _
  have failed : (s.apply slot operation).2.published.countP Event.isTrackFailed =
      s.published.countP Event.isTrackFailed +
        (s.outcomeIn slot operation).signals.events.countP Event.isTrackFailed := by
    rw [apply_eq]
    exact List.countP_append
  -- What the session held comes off the gauge and what it holds now goes on, in one step.
  rw [Balanced, waiting, sessions, failed]
  apply ((Metrics.Shows.queueChanged h held _).tracksFailed _).of_apart
  rw [apply_apart, ← Metrics.apartFromVotes_queueChanged]
  rfl

/-- A session that is given up takes what it holds off the gauges. -/
theorem tearDown (here : slot.ref.guild = g) :
    { s with registry := s.registry.tearDown slot : Station }.Balanced := by
  subst here
  have waiting : (s.registry.tearDown slot).waiting =
      s.registry.waiting - slot.session.queue.length :=
    Nat.eq_sub_of_add_eq (Table.total_erase_of_some found _)
  have sessions : (s.registry.tearDown slot).live.size = s.registry.live.size - 1 :=
    Nat.eq_sub_of_add_eq (Table.size_erase_of_some found)
  rw [Balanced, waiting, sessions]
  have cancelled := h.of_apart (s.desk.cancelAll_apart slot.ref.guild)
  exact cancelled.sessionEvicted (Table.size_pos_of_some found) slot.session.queue.length

end Slots

theorem getOrCreate (g : GuildId) :
    { s with registry := (s.registry.getOrCreate s.now g).2 : Station }.Balanced := by
  cases found : s.registry.live.get? g with
  | some slot =>
      simp only [Registry.getOrCreate, found]
      exact h
  | none =>
      simp only [Registry.getOrCreate, found, Balanced, Registry.waiting, Registry.count]
      rw [Table.total_insert_of_none found, Table.size_insert_of_none found]
      exact Metrics.Shows.sessionCreated h

theorem move {s' : Station} (grounded : s.registry.Grounded) (move : Move s s') : s'.Balanced := by
  cases move with
  | works found _ => exact h.apply found (grounded.fits _ _ found).ref _
  | makes _ => exact h.getOrCreate _
  | givesUp found => exact h.tearDown found (grounded.fits _ _ found).ref
  | casts key voter b => exact h.of_same rfl rfl (s.desk.cast_apart s.now key voter b)
  | cancels key => exact h.of_same rfl rfl (s.desk.cancel_apart key)
  | timesOut votes => exact h.of_same rfl rfl (s.desk.timeOut_apart votes)
  | takes _ => exact h
  | aside same =>
      have metrics : s'.metrics = s.metrics := congrArg VoteDesk.metrics same.desk
      exact h.of_same same.live same.published (congrArg Metrics.apartFromVotes metrics)

end Balanced

theorem kept_balanced : Kept Balanced where
  move grounded step h := h.move grounded step
  opens q h := h.of_same rfl rfl (VoteDesk.start_apart _ _ q)
  numbers _ h := h
  adds e capacity grounded found h :=
    h.apply found (grounded.fits _ _ found).ref (Session.enqueue e capacity)

/-- In every state that a run can reach, the gauges show how many entries wait in the live sessions
and how many live sessions there are, each session that was made is live or was given up, and every
event of a failed track is counted. Neither there nor at any point of what happens next does a
session hold more than the gauges show, so taking it off them never falls short. -/
theorem gauges_exact (config : Config) (repository : Repository) (backend : Backend)
    (acts : List StationAct) :
    let s := (create config repository backend).after acts
    s.metrics.queuedTracks = (s.registry.live.values.map fun slot =>
      slot.session.queue.length).sum ∧
    s.metrics.activeSessions = s.registry.live.size ∧
    s.metrics.sessionsCreated = s.metrics.activeSessions + s.metrics.sessionsEvicted ∧
    s.metrics.trackFailures = s.published.countP Event.isTrackFailed ∧
    ∀ s', Moves s s' → ∀ g slot, s'.registry.live.get? g = some slot →
      s'.metrics.Unclamped slot.session.queue.length := by
  intro s
  have balanced : s.Balanced :=
    kept_balanced.after (.empty backend) (.create config repository backend) acts
  have grounded : s.registry.Grounded := after_grounded config repository backend acts
  refine ⟨balanced.queued, balanced.active, balanced.created, balanced.failures, ?_⟩
  intro s' steps g slot found
  exact (kept_balanced.moves grounded steps balanced).unclamped found

/-- One track plays and two wait when the guild is left. -/
example :
    let waiting := (create {} {} { nextHandle := ⟨1⟩ }).after
      [.ask (.enqueue ⟨1⟩ ⟨1⟩ ⟨"a"⟩ none), .ask (.enqueue ⟨1⟩ ⟨1⟩ ⟨"b"⟩ none),
        .ask (.enqueue ⟨1⟩ ⟨1⟩ ⟨"c"⟩ none)]
    let left := waiting.next (.ask (.removeGuild ⟨1⟩))
    (waiting.metrics.queuedTracks, waiting.metrics.activeSessions) = (2, 1) ∧
      (left.metrics.queuedTracks, left.metrics.activeSessions) = (0, 0) := by
  decide +kernel

end Station

end Jukebox
