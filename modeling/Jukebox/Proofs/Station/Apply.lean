import Jukebox.Proofs.Registry.Grounded

/-!
What becomes of a station when an operation runs on one of its sessions, part by part: the session
goes back into its slot, the calls to the backend, the votes that have become moot are cancelled,
the gauges follow the queue, and the events are published.
-/

namespace Jukebox

namespace Metrics

/-- The counters that are not about votes. -/
def apartFromVotes (m : Metrics) : Metrics :=
  { m with votesStarted := 0, votesPassed := 0, votesFailed := 0, votesCancelled := 0 }

def tracksFailed (m : Metrics) (n : Nat) : Metrics := { m with trackFailures := m.trackFailures + n }

theorem apartFromVotes_voteResolved (m : Metrics) (o : VoteOutcome) :
    (m.voteResolved o).apartFromVotes = m.apartFromVotes := by
  cases o with
  | pending | passed | failed | timedOut | cancelled => rfl

theorem apartFromVotes_queueChanged (m : Metrics) (before after : Nat) :
    (m.queueChanged before after).apartFromVotes = m.apartFromVotes.queueChanged before after := by
  unfold queueChanged
  split
  · rfl
  · rfl

theorem queueChanged_self (m : Metrics) (n : Nat) : m.queueChanged n n = m := by
  rw [queueChanged, if_neg (Nat.lt_irrefl n), Nat.sub_self]
  rfl

end Metrics

namespace VoteDesk

theorem settle_apart (d : VoteDesk) (v : Vote) (o : VoteOutcome) :
    (d.settle v o).1.metrics.apartFromVotes = d.metrics.apartFromVotes :=
  d.metrics.apartFromVotes_voteResolved o

theorem judge_apart (d : VoteDesk) (v : Vote) :
    (d.judge v).desk.metrics.apartFromVotes = d.metrics.apartFromVotes := by
  by_cases undecided : v.evaluate = .pending
  · rw [judge_pending undecided]
    rfl
  · rw [judge_decided undecided]
    exact d.settle_apart v v.evaluate

theorem start_apart (d : VoteDesk) (now : Nat) (r : VoteRequest) :
    (d.start now r).desk.metrics.apartFromVotes = d.metrics.apartFromVotes := by
  rcases start_cases d now r with ⟨e, same⟩ | ⟨_, same⟩
  · rw [same]
  · rw [same]
    exact d.countOpened.judge_apart _

theorem cast_apart (d : VoteDesk) (now : Nat) (key : VoteKey) (voter : MemberId) (b : Ballot) :
    (d.cast now key voter b).desk.metrics.apartFromVotes = d.metrics.apartFromVotes := by
  rcases cast_cases d now key voter b with ⟨e, same⟩ | ⟨v, _, _, same⟩ | ⟨v, _, same⟩
  · rw [same]
  · rw [same]
    exact d.settle_apart v .timedOut
  · rw [same]
    exact d.judge_apart _

theorem cancel_apart (d : VoteDesk) (key : VoteKey) :
    (d.cancel key).desk.metrics.apartFromVotes = d.metrics.apartFromVotes := by
  unfold cancel
  split
  · rfl
  · next v _ => exact d.settle_apart v .cancelled

theorem cancelKinds_apart (d : VoteDesk) (g : GuildId) (kinds : List VoteKind) :
    (d.cancelKinds g kinds).desk.metrics.apartFromVotes = d.metrics.apartFromVotes := by
  induction kinds generalizing d with
  | nil => rfl
  | cons kind kinds ih => exact (ih (d.cancel ⟨g, kind⟩).desk).trans (d.cancel_apart ⟨g, kind⟩)

theorem cancelAll_apart (d : VoteDesk) (g : GuildId) :
    (d.cancelAll g).desk.metrics.apartFromVotes = d.metrics.apartFromVotes :=
  d.cancelKinds_apart g VoteKind.all

theorem cancelIf_apart (d : VoteDesk) (condition : Prop) [Decidable condition] (key : VoteKey) :
    (d.cancelIf condition key).metrics.apartFromVotes = d.metrics.apartFromVotes := by
  unfold cancelIf
  split
  · exact d.cancel_apart key
  · rfl

theorem cancelMoot_apart (d : VoteDesk) (before after : Session) :
    (d.cancelMoot before after).metrics.apartFromVotes = d.metrics.apartFromVotes := by
  rw [cancelMoot_eq, cancelIf_apart, cancelIf_apart, cancelIf_apart]

theorem timeOut_apart (d : VoteDesk) (votes : List Vote) :
    (d.timeOut votes).1.metrics.apartFromVotes = d.metrics.apartFromVotes := by
  induction votes generalizing d with
  | nil => rfl
  | cons v votes ih => exact (ih (d.settle v .timedOut).1).trans (d.settle_apart v .timedOut)

end VoteDesk

namespace Station

/-- Publishing changes the record of events and the count of failed tracks. -/
theorem foldl_publish (s : Station) (events : List Event) :
    events.foldl publish s =
      { s.count (fun m => m.tracksFailed (events.countP Event.isTrackFailed)) with
        published := s.published ++ events } := by
  induction events generalizing s with
  | nil =>
      rw [List.append_nil]
      rfl
  | cons e events ih =>
      rw [List.foldl_cons, ih, List.countP_cons]
      cases failed : e.isTrackFailed with
      | true =>
          simp [publish, failed, count, Registry.count, Metrics.trackFailed, Metrics.tracksFailed,
            Nat.add_comm, Nat.add_left_comm]
      | false => simp [publish, failed, count, Registry.count, Metrics.tracksFailed]

section Apply

variable {α : Type} (s : Station) (slot : Slot)
  (operation : Backend → Nat → Session → Outcome (Except PlayerError α))

/-- What an operation makes of the session in a slot. -/
def outcomeIn : Outcome (Except PlayerError α) :=
  operation s.registry.backend s.now slot.session

/-- The desk once the gauges have followed the queue and the moot votes are cancelled. -/
def deskAfter (o : Outcome (Except PlayerError α)) : VoteDesk :=
  ({ s.desk with
      metrics := s.metrics.queueChanged slot.session.queue.length o.session.queue.length } :
    VoteDesk).cancelMoot slot.session o.session

theorem apply_eq :
    let o := s.outcomeIn slot operation
    let desk := s.deskAfter slot o
    s.apply slot operation =
      (o.result,
        { s with
          registry :=
            { s.registry with
              live := s.registry.live.insert slot.ref.guild { slot with session := o.session }
              backend := s.registry.backend.record o.signals.calls
              desk :=
                { desk with
                  metrics :=
                    desk.metrics.tracksFailed (o.signals.events.countP Event.isTrackFailed) } }
          published := s.published ++ o.signals.events }) := by
  dsimp only [apply]
  rw [foldl_publish]
  rfl

/-- What runs on a session matters only for what it makes of this session now. -/
theorem apply_congr {operation' : Backend → Nat → Session → Outcome (Except PlayerError α)}
    (same : s.outcomeIn slot operation = s.outcomeIn slot operation') :
    s.apply slot operation = s.apply slot operation' := by
  rw [apply_eq, apply_eq, same]

theorem apply_apart :
    (s.apply slot operation).2.metrics.apartFromVotes =
      (s.metrics.apartFromVotes.queueChanged slot.session.queue.length
        (s.outcomeIn slot operation).session.queue.length).tracksFailed
        ((s.outcomeIn slot operation).signals.events.countP Event.isTrackFailed) := by
  have counted := VoteDesk.cancelMoot_apart
    { s.desk with
      metrics := s.metrics.queueChanged slot.session.queue.length
        (s.outcomeIn slot operation).session.queue.length }
    slot.session (s.outcomeIn slot operation).session
  rw [← Metrics.apartFromVotes_queueChanged]
  -- The order of the three updates does not matter: they touch different counters.
  rw [apply_eq]
  exact congrArg (fun m : Metrics => m.tracksFailed _) counted

/-- Of the votes those are gone that the change has made moot. -/
theorem apply_pending (keyed : s.desk.Keyed) (k : VoteKey) (v : Vote) :
    (s.apply slot operation).2.desk.pending.get? k = some v ↔
      s.desk.pending.get? k = some v ∧
        ¬(k.guild = (s.outcomeIn slot operation).session.guild ∧
          k.kind.Moot slot.session (s.outcomeIn slot operation).session) := by
  have counted : ({ s.desk with
      metrics := s.metrics.queueChanged slot.session.queue.length
        (s.outcomeIn slot operation).session.queue.length } : VoteDesk).Keyed := keyed
  rw [apply_eq]
  exact VoteDesk.cancelMoot_pending counted slot.session (s.outcomeIn slot operation).session k v

end Apply

theorem session?_of_found {s : Station} {g : GuildId} {slot : Slot}
    (found : s.registry.live.get? g = some slot) : s.session? g = some slot.session := by
  rw [session?, Registry.session?, found]
  rfl

theorem withSession_of_found {α : Type} {s : Station} {g : GuildId} {slot : Slot}
    (found : s.registry.live.get? g = some slot)
    (operation : Backend → Nat → Session → Outcome (Except PlayerError α)) :
    s.withSession g operation = s.apply slot operation := by
  rw [withSession, found]

theorem withSession_map {α β : Type} (s : Station) (g : GuildId)
    (operation : Backend → Nat → Session → Outcome (Except PlayerError α)) (f : α → β) :
    s.withSession g (fun b now session =>
        (operation b now session).map fun result => result.map f) =
      ((s.withSession g operation).1.map f, (s.withSession g operation).2) := by
  unfold withSession
  cases s.registry.live.get? g with
  | none => rfl
  | some slot => rfl

end Station

end Jukebox
