import Jukebox.Proofs.VoteDesk.Deadline

/-!
Timers that outlive their votes. Every vote has a timer that goes off at its deadline, and nobody has
to take it back when the vote ends before: time that passes with all timers going off, those of ended
votes as well, leaves what it leaves when only the pending votes are looked at.
-/

namespace Jukebox

namespace Ledger

theorem enter_timer_pending {l : Ledger} (keyed : l.desk.Keyed) (ticket : Nat) (k : VoteKey)
    (v : Vote) :
    (l.enter (.timer ticket)).desk.pending.get? k = some v ↔
      l.desk.pending.get? k = some v ∧ ¬(v.ticket = ticket ∧ v.deadline ≤ l.now) :=
  VoteDesk.timeOut_due_pending keyed l.now (·.ticket = ticket) k v

theorem enter_timer_resolved (l : Ledger) (ticket : Nat) (e : Nat × Resolution) :
    e ∈ (l.enter (.timer ticket)).resolved ↔
      e ∈ l.resolved ∨ ∃ k v, l.desk.pending.get? k = some v ∧
        (v.ticket = ticket ∧ v.deadline ≤ l.now) ∧ e = (l.now, v.resolve .timedOut) := by
  have now := VoteDesk.timeOut_due_resolved (d := l.desk) l.now (·.ticket = ticket)
  simp only [enter, note, VoteDesk.expireOne, List.mem_append, List.mem_map, now]
  apply or_congr_right
  constructor
  · rintro ⟨_, ⟨k, v, found, meets, rfl⟩, rfl⟩
    exact ⟨k, v, found, meets, rfl⟩
  · rintro ⟨k, v, found, meets, rfl⟩
    exact ⟨_, ⟨k, v, found, meets, rfl⟩, rfl⟩

/-- Some timers go off at one moment. -/
def ring (l : Ledger) (tickets : List Nat) : Ledger := l.after (tickets.map .timer)

theorem ring_now (l : Ledger) (tickets : List Nat) : (l.ring tickets).now = l.now := by
  induction tickets generalizing l with
  | nil => rfl
  | cons ticket tickets ih => exact ih (l.enter (.timer ticket))

theorem ring_requests (l : Ledger) (tickets : List Nat) :
    (l.ring tickets).requests = l.requests := by
  induction tickets generalizing l with
  | nil => rfl
  | cons ticket tickets ih => exact ih (l.enter (.timer ticket))

theorem ring_ballots (l : Ledger) (tickets : List Nat) : (l.ring tickets).ballots = l.ballots := by
  induction tickets generalizing l with
  | nil => rfl
  | cons ticket tickets ih => exact ih (l.enter (.timer ticket))

theorem ring_pending {l : Ledger} (sound : l.Sound) (tickets : List Nat) (k : VoteKey) (v : Vote) :
    (l.ring tickets).desk.pending.get? k = some v ↔
      l.desk.pending.get? k = some v ∧ ¬(v.ticket ∈ tickets ∧ v.deadline ≤ l.now) := by
  induction tickets generalizing l with
  | nil => simp [ring, after]
  | cons ticket tickets ih =>
      have rest := ih (sound.enter (.timer ticket))
      rw [enter_timer_pending sound.keyed] at rest
      rw [List.mem_cons, or_and_right, not_or, ← and_assoc]
      exact rest

theorem ring_resolved {l : Ledger} (sound : l.Sound) (tickets : List Nat) (e : Nat × Resolution) :
    e ∈ (l.ring tickets).resolved ↔
      e ∈ l.resolved ∨ ∃ k v, l.desk.pending.get? k = some v ∧
        (v.ticket ∈ tickets ∧ v.deadline ≤ l.now) ∧ e = (l.now, v.resolve .timedOut) := by
  induction tickets generalizing l with
  | nil => simp [ring, after]
  | cons ticket tickets ih =>
      have rest := ih (sound.enter (.timer ticket))
      simp only [enter_timer_resolved, enter_timer_pending sound.keyed] at rest
      refine Iff.trans rest ?_
      constructor
      · rintro ((old | ⟨k, v, found, ⟨own, due⟩, same⟩) | ⟨k, v, ⟨found, _⟩, ⟨listed, due⟩, same⟩)
        · exact .inl old
        · exact .inr ⟨k, v, found, ⟨own ▸ List.mem_cons_self, due⟩, same⟩
        · exact .inr ⟨k, v, found, ⟨List.mem_cons_of_mem _ listed, due⟩, same⟩
      · rintro (old | ⟨k, v, found, ⟨listed, due⟩, same⟩)
        · exact .inl (.inl old)
        · by_cases own : v.ticket = ticket
          · exact .inl (.inr ⟨k, v, found, ⟨own, due⟩, same⟩)
          · refine .inr ⟨k, v, ⟨found, fun this => own this.1⟩, ⟨?_, due⟩, same⟩
            exact (List.mem_cons.mp listed).resolve_left own

/-- The tickets of all votes that have their deadline at a moment, whatever has become of them. -/
def alarms (l : Ledger) (moment : Nat) : List Nat :=
  (List.range l.requests.length).filter fun ticket =>
    (l.requests[ticket]?).any fun q => q.1 + q.2.timeout = moment

/-- Time passes unit by unit, and at each moment the timers go off that are set for it. -/
def ringing (l : Ledger) : Nat → List DeskAct
  | 0 => (l.alarms l.now).map .timer
  | d + 1 => l.ringing d ++ .lag 1 :: (l.alarms (l.now + (d + 1))).map .timer

theorem Sound.mem_alarms {l : Ledger} (sound : l.Sound) {k : VoteKey} {v : Vote}
    (found : l.desk.pending.get? k = some v) {moment : Nat} :
    v.ticket ∈ l.alarms moment ↔ v.deadline = moment := by
  obtain ⟨opened, r, recorded, origin⟩ := (sound.covered k v found).request
  rw [alarms, List.mem_filter, recorded, origin.deadline, List.mem_range]
  simp [(List.getElem?_eq_some_iff.mp recorded).1]

/-- What is left of a ledger when the votes whose deadlines have come since have timed out, each at
its deadline, and nothing else has happened. -/
structure Lapsed (l l' : Ledger) : Prop where
  requests : l'.requests = l.requests
  ballots : l'.ballots = l.ballots
  pending : ∀ k v, l'.desk.pending.get? k = some v ↔
    l.desk.pending.get? k = some v ∧ l'.now < v.deadline
  resolved : ∀ e, e ∈ l'.resolved ↔
    e ∈ l.resolved ∨ ∃ k v, l.desk.pending.get? k = some v ∧ v.deadline ≤ l'.now ∧
      e = (v.deadline, v.resolve .timedOut)

theorem Lapsed.trans {l l' l'' : Ledger} (first : l.Lapsed l') (last : l'.Lapsed l'')
    (later : l'.now ≤ l''.now) : l.Lapsed l'' where
  requests := last.requests.trans first.requests
  ballots := last.ballots.trans first.ballots
  pending k v := by
    rw [last.pending, first.pending, and_assoc]
    exact and_congr_right fun _ => and_iff_right_of_imp later.trans_lt
  resolved e := by
    simp only [last.resolved, first.resolved, first.pending]
    constructor
    · rintro ((old | ⟨k, v, found, due, same⟩) | ⟨k, v, ⟨found, _⟩, due, same⟩)
      · exact .inl old
      · exact .inr ⟨k, v, found, due.trans later, same⟩
      · exact .inr ⟨k, v, found, due, same⟩
    · rintro (old | ⟨k, v, found, due, same⟩)
      · exact .inl (.inl old)
      · rcases Nat.lt_or_ge l'.now v.deadline with early | past
        · exact .inr ⟨k, v, ⟨found, early⟩, due, same⟩
        · exact .inl (.inr ⟨k, v, found, past, same⟩)

/-- Where no deadline has passed, the timers that are set for the present are all that is needed. -/
theorem Sound.lapsed_ring {l : Ledger} (sound : l.Sound)
    (early : ∀ k v, l.desk.pending.get? k = some v → l.now ≤ v.deadline) :
    l.Lapsed (l.ring (l.alarms l.now)) where
  requests := ring_requests _ _
  ballots := ring_ballots _ _
  pending k v := by
    rw [ring_pending sound, ring_now]
    refine and_congr_right fun found => ?_
    have ahead := early k v found
    rw [sound.mem_alarms found]
    omega
  resolved e := by
    rw [ring_resolved sound, ring_now]
    apply or_congr_right
    constructor
    · rintro ⟨k, v, found, ⟨_, due⟩, rfl⟩
      have here : v.deadline = l.now := Nat.le_antisymm due (early k v found)
      exact ⟨k, v, found, due, by rw [here]⟩
    · rintro ⟨k, v, found, due, rfl⟩
      have here : v.deadline = l.now := Nat.le_antisymm due (early k v found)
      exact ⟨k, v, found, ⟨(sound.mem_alarms found).mpr here, due⟩, by rw [here]⟩

/-- Two ledgers show the same votes: the same ones pending, the same ones resolved at the same moments,
from the same requests and ballots. -/
structure Agrees (l l' : Ledger) : Prop where
  now : l.now = l'.now
  requests : l.requests = l'.requests
  ballots : l.ballots = l'.ballots
  pending : ∀ k, l.desk.pending.get? k = l'.desk.pending.get? k
  resolved : l.resolved.Perm l'.resolved

theorem Lapsed.agrees {l left right : Ledger} (fromLeft : l.Lapsed left)
    (fromRight : l.Lapsed right) (now : left.now = right.now) (soundLeft : left.Sound)
    (soundRight : right.Sound) : left.Agrees right where
  now := now
  requests := fromLeft.requests.trans fromRight.requests.symm
  ballots := fromLeft.ballots.trans fromRight.ballots.symm
  pending k := by
    apply Option.ext
    intro v
    rw [fromLeft.pending, fromRight.pending, now]
  resolved := by
    apply (List.perm_ext_iff_of_nodup soundLeft.once.of_map soundRight.once.of_map).mpr
    intro e
    rw [fromLeft.resolved, fromRight.resolved, now]

section Passing

variable {l : Ledger} (sound : l.Sound) (timely : l.Timely)
include sound timely

theorem lapsed_ringing (duration : Nat) :
    (l.after (l.ringing duration)).now = l.now + duration ∧
      l.Lapsed (l.after (l.ringing duration)) := by
  induction duration with
  | zero =>
      exact ⟨ring_now _ _, sound.lapsed_ring fun _ _ => timely.le_deadline sound⟩
  | succ d ih =>
      obtain ⟨now, before⟩ := ih
      have soundBefore := sound.after (l.ringing d)
      generalize reached : l.after (l.ringing d) = m at now before soundBefore
      -- One more unit brings no deadline into the past.
      have ahead : ∀ k v, m.desk.pending.get? k = some v → m.now + 1 ≤ v.deadline :=
        fun k v found => ((before.pending k v).mp found).2
      have rung := (soundBefore.enter (.lag 1)).lapsed_ring ahead
      have split : l.after (l.ringing (d + 1)) =
          (m.enter (.lag 1)).ring ((m.enter (.lag 1)).alarms (m.enter (.lag 1)).now) := by
        have same : m.requests = l.requests := before.requests
        rw [ringing, after_append, reached, ring, alarms, alarms, ← same, ← Nat.add_assoc, ← now]
        rfl
      rw [← split] at rung
      have moved : (l.after (l.ringing (d + 1))).now = m.now + 1 := by
        rw [split]
        exact ring_now _ _
      refine ⟨by omega, before.trans ⟨rung.requests, rung.ballots, rung.pending, rung.resolved⟩ ?_⟩
      omega

theorem lapsed_advance (duration : Nat) : l.Lapsed (l.enter (.advance duration)) where
  requests := rfl
  ballots := rfl
  pending k v := VoteDesk.advance_pending sound.keyed (Nat.le_add_right _ _) k v
  resolved e := by
    obtain ⟨moment, ρ⟩ := e
    have ahead : l.now ≤ l.now + duration := Nat.le_add_right _ _
    simp only [enter, List.mem_append, VoteDesk.advance_resolved sound.keyed ahead, Prod.mk.injEq]
    apply or_congr_right
    refine exists_congr fun k => exists_congr fun v => and_congr_right fun found => ?_
    rw [Nat.max_eq_right (timely.le_deadline sound found)]

/-- It makes no difference that the timers of ended votes go off too. -/
theorem ringing_agrees (duration : Nat) :
    (l.after (l.ringing duration)).Agrees (l.enter (.advance duration)) := by
  obtain ⟨now, rung⟩ := lapsed_ringing sound timely duration
  have advanced := lapsed_advance sound timely duration
  exact rung.agrees advanced now (sound.after _) (sound.enter _)

end Passing

/-- Over a run in which nothing that is due has to wait, a vote times out if and only if it is still
pending when something meets its deadline, and then right at the deadline and with the count that it
has; as long as it has time left that can only be the clock. No timer does anything to a vote but its
own, and that of a vote that has ended does nothing at all; so time may pass with all timers going off
that were ever set. A ballot that comes when the deadline of a
vote is there or past is refused, unless a newer vote is pending under the key, and no ballot is
counted; at most the vote times out as it was going to. -/
theorem timedOut_at_deadline {acts : List DeskAct} (prompt : ∀ a ∈ acts, a.isLag = false) :
    let l := ofActs acts
    (∀ ticket opened r, l.requests[ticket]? = some (opened, r) →
      ∀ moment ρ, ρ.ticket = ticket → ρ.progress.outcome = .timedOut →
        ((moment, ρ) ∈ l.resolved ↔
          moment = opened + r.timeout ∧
          ∃ before a rest v, acts = before ++ a :: rest ∧
            (ofActs before).desk.pending.get? ⟨r.guild, r.kind⟩ = some v ∧ v.ticket = ticket ∧
            a.Meets (ofActs before) v ∧ ρ = v.resolve .timedOut)) ∧
    (∀ k v, l.desk.pending.get? k = some v →
      ∃ opened r, l.requests[v.ticket]? = some (opened, r) ∧ v.deadline = opened + r.timeout ∧
        (0 < r.timeout → l.now < v.deadline)) ∧
    (∀ a k v, a.isClock = true → l.desk.pending.get? k = some v → ¬ a.Meets l v →
      (l.enter a).desk.pending.get? k = some v) ∧
    (∀ ticket, l.Resolved ticket → l.enter (.timer ticket) = l) ∧
    (∀ duration, (l.after (l.ringing duration)).Agrees (l.enter (.advance duration))) ∧
    ∀ ticket opened r, l.requests[ticket]? = some (opened, r) → opened + r.timeout ≤ l.now →
      (∀ v, l.desk.pending.get? ⟨r.guild, r.kind⟩ = some v → v.ticket ≤ ticket) → ∀ voter b,
        let late := l.enter (.cast ⟨r.guild, r.kind⟩ voter b)
        (l.desk.cast l.now ⟨r.guild, r.kind⟩ voter b).result = .error .noActiveVote ∧
          late.ballots = l.ballots ∧ late = l.enter (.timer ticket) := by
  intro l
  have sound : l.Sound := sound_ofActs acts
  have timely : l.Timely := timely_ofActs prompt
  refine ⟨?_, ?_, fun a k v clock found spared => enter_clock_keeps sound.keyed clock found spared,
    fun ticket ended => enter_timer_of_gone (sound.settled ticket ended),
    ringing_agrees sound timely, ?_⟩
  · rintro _ opened r recorded moment ρ rfl late
    rw [timedOut_ofActs acts late]
    constructor
    · rintro ⟨before, a, rest, k, v, rfl, found, meets, same⟩
      obtain ⟨rfl, rfl⟩ := Prod.mk.inj same
      obtain ⟨origin, rfl⟩ := origin_of_pending found recorded
      have early := (timely_ofActs fun a member => prompt a (List.mem_append_left _ member)).le_deadline
        (sound_ofActs before) found
      refine ⟨?_, before, a, rest, v, rfl, found, rfl, meets, rfl⟩
      rw [Nat.max_eq_right early, origin.deadline]
    · rintro ⟨rfl, before, a, rest, v, rfl, found, ticket, meets, rfl⟩
      rw [← ticket] at recorded
      obtain ⟨origin, _⟩ := origin_of_pending found recorded
      have early := (timely_ofActs fun a member => prompt a (List.mem_append_left _ member)).le_deadline
        (sound_ofActs before) found
      refine ⟨before, a, rest, _, v, rfl, found, meets, ?_⟩
      rw [Nat.max_eq_right early, origin.deadline]
  · intro k v found
    obtain ⟨opened, r, recorded, origin⟩ := (sound.covered k v found).request
    refine ⟨opened, r, recorded, origin.deadline, fun time => ?_⟩
    rcases timely k v found with early | ⟨r', recorded', none⟩
    · exact early
    · rw [recorded] at recorded'
      cases recorded'
      exact absurd none (Nat.pos_iff_ne_zero.mp time)
  · intro ticket opened r recorded due newest voter b late
    have latest : l.Latest := latest_after sound_empty nofun acts
    obtain ⟨refused, same⟩ := enter_cast_late sound latest recorded due newest voter b
    refine ⟨refused, ?_, same⟩
    rw [show late = _ from same]
    rfl

/-- A vote is called off and opened again with more time. The timer of the first goes off in the
meantime, the second times out at its own deadline with the ballots it has, and another ballot comes
at that very moment. -/
theorem timedOut_at_deadline_of_reopened :
    let r : VoteRequest :=
      { guild := ⟨1⟩, kind := .stop, initiator := ⟨1⟩
        eligible := .ofList [⟨1⟩, ⟨2⟩, ⟨3⟩, ⟨4⟩], ratio := 60, timeout := 30000, selfVote := true }
    let again : VoteRequest := { r with timeout := 50000 }
    let key : VoteKey := ⟨⟨1⟩, .stop⟩
    let acts : List DeskAct :=
      [.start r, .cancel key, .advance 10000, .start again, .cast key ⟨3⟩ .no, .advance 20000,
        .timer 0, .advance 30000]
    let ρ : Resolution :=
      { key, ticket := 1, initiator := ⟨1⟩
        progress :=
          { kind := .stop, yes := 1, no := 1, eligible := 4, required := 3, outcome := .timedOut } }
    let l := ofActs acts
    (∀ a ∈ acts, a.isLag = false) ∧
      (∀ moment, (moment, ρ) ∈ l.resolved ↔ moment = 60000) ∧
      (l.desk.cast l.now key ⟨4⟩ .yes).result = .error .noActiveVote ∧
      (l.enter (.cast key ⟨4⟩ .yes)).ballots = l.ballots := by
  intro r again key acts ρ l
  have prompt : ∀ a ∈ acts, a.isLag = false := by decide
  let before := ofActs [.start r, .cancel key, .advance 10000]
  have accepted : (before.desk.start before.now again).result =
      .ok { kind := .stop, yes := 1, no := 0, eligible := 4, required := 3, outcome := .pending } := by
    decide +kernel
  have moment : before.now = 10000 := by decide +kernel
  have opened : (before.enter (.start again)).requests[1]? = some (10000, again) := by
    rw [← moment]
    simp only [enter, accepted, Except.isOk, Except.toBool, if_true]
    rfl
  have recorded : l.requests[1]? = some (10000, again) := by
    have grown := requests_grow_after ((sound_ofActs _).enter (.start again))
      (acts.drop 4) (l := before.enter (.start again))
    obtain ⟨below, _⟩ := List.getElem?_eq_some_iff.mp opened
    rw [← opened]
    exact (List.prefix_iff_getElem?.mp grown 1 below).trans (List.getElem?_eq_getElem below).symm
  have there : (60000, ρ) ∈ l.resolved := by decide +kernel
  obtain ⟨deadline, _, _, _, _, late⟩ := timedOut_at_deadline prompt
  have ended := fun t => deadline 1 10000 again recorded t ρ rfl rfl
  rw [show 10000 + again.timeout = 60000 by decide] at ended
  obtain ⟨_, met⟩ := (ended 60000).mp there
  have newest : ∀ v, l.desk.pending.get? key = some v → v.ticket ≤ 1 := by
    intro v found
    rw [show l.desk.pending.get? key = none by decide +kernel] at found
    cases found
  obtain ⟨refused, same, _⟩ := late 1 10000 again recorded (by decide +kernel) newest ⟨4⟩ .yes
  exact ⟨prompt, fun t => ⟨fun member => ((ended t).mp member).1,
    fun now => (ended t).mpr ⟨now, met⟩⟩, refused, same⟩

end Ledger

end Jukebox
