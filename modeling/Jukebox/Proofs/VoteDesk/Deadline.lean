import Jukebox.Proofs.VoteDesk.Spared

/-!
Deadlines. A vote times out exactly when something comes upon its deadline while it is pending: the
clock that gets there, its own timer, or a ballot that is too late. No timer of another vote does
anything to it.
-/

namespace Jukebox

namespace VoteDesk

/-- At moments in order, each vote times out at the first that is not before its deadline. -/
theorem expireAt_resolved {d : VoteDesk} (h : d.Keyed) {moments : List Nat}
    (ordered : moments.Pairwise (· ≤ ·)) {moment : Nat} {ρ : Resolution} :
    (moment, ρ) ∈ (d.expireAt moments).2 ↔
      ∃ k v, d.pending.get? k = some v ∧ ρ = v.resolve .timedOut ∧ moment ∈ moments ∧
        v.deadline ≤ moment ∧ ∀ other ∈ moments, v.deadline ≤ other → moment ≤ other := by
  induction moments generalizing d with
  | nil => simp [expireAt]
  | cons first moments ih =>
      obtain ⟨least, ordered⟩ := List.pairwise_cons.mp ordered
      have here : (moment, ρ) ∈ (d.expire first).2.map (fun r => (first, r)) ↔
          moment = first ∧ ∃ k v, d.pending.get? k = some v ∧ ρ = v.resolve .timedOut ∧
            v.deadline ≤ first := by
        simp only [List.mem_map, expire_resolved, Prod.mk.injEq]
        constructor
        · rintro ⟨_, ⟨k, v, found, due, rfl⟩, rfl, rfl⟩
          exact ⟨rfl, k, v, found, rfl, due⟩
        · rintro ⟨rfl, k, v, found, rfl, due⟩
          exact ⟨_, ⟨k, v, found, due, rfl⟩, rfl, rfl⟩
      have rest := ih (h.of_subset (expire_subset d first)) ordered
      rw [expireAt, List.mem_append, here, rest]
      constructor
      · rintro (⟨rfl, k, v, found, same, due⟩ | ⟨k, v, found, same, member, due, soonest⟩)
        · refine ⟨k, v, found, same, List.mem_cons_self, due, ?_⟩
          intro other member _
          rcases List.mem_cons.mp member with rfl | later
          · exact Nat.le_refl _
          · exact least other later
        · obtain ⟨found, early⟩ := (expire_pending h first k v).mp found
          refine ⟨k, v, found, same, List.mem_cons_of_mem _ member, due, ?_⟩
          intro other member due'
          rcases List.mem_cons.mp member with rfl | later
          · exact absurd due' (Nat.not_le.mpr early)
          · exact soonest other later due'
      · rintro ⟨k, v, found, same, member, due, soonest⟩
        by_cases due' : v.deadline ≤ first
        · have early := soonest first List.mem_cons_self due'
          refine .inl ⟨?_, k, v, found, same, due'⟩
          rcases List.mem_cons.mp member with rfl | later
          · rfl
          · exact Nat.le_antisymm early (least moment later)
        · have left := (expire_pending h first k v).mpr ⟨found, Nat.lt_of_not_le due'⟩
          refine .inr ⟨k, v, left, same, ?_, due, fun other later => soonest other
            (List.mem_cons_of_mem _ later)⟩
          rcases List.mem_cons.mp member with rfl | later
          · exact absurd due due'
          · exact later

/-- Every vote whose deadline the clock reaches times out right then. -/
theorem advance_resolved {d : VoteDesk} (h : d.Keyed) {now target : Nat} (ahead : now ≤ target)
    {moment : Nat} {ρ : Resolution} :
    (moment, ρ) ∈ (d.advance now target).2 ↔
      ∃ k v, d.pending.get? k = some v ∧ v.deadline ≤ target ∧ moment = max now v.deadline ∧
        ρ = v.resolve .timedOut := by
  have ordered : (d.dueTimes now target).Pairwise (· ≤ ·) :=
    (List.pairwise_mergeSort (by simpa using fun _ _ _ => Nat.le_trans)
      (by simpa using Nat.le_total) _).imp (by simp)
  rw [advance, expireAt_resolved h ordered]
  constructor
  · rintro ⟨k, v, found, same, member, due, soonest⟩
    obtain ⟨_, u, _, within, rfl⟩ := mem_dueTimes.mp member
    have within : v.deadline ≤ target := due.trans (Nat.max_le.mpr ⟨ahead, within⟩)
    refine ⟨k, v, found, within, ?_, same⟩
    apply Nat.le_antisymm
    · exact soonest _ (mem_dueTimes.mpr ⟨k, v, found, within, rfl⟩) (Nat.le_max_right _ _)
    · exact Nat.max_le.mpr ⟨Nat.le_max_left _ _, due⟩
  · rintro ⟨k, v, found, within, rfl, same⟩
    refine ⟨k, v, found, same, mem_dueTimes.mpr ⟨k, v, found, within, rfl⟩, Nat.le_max_right _ _, ?_⟩
    intro other member due
    obtain ⟨_, u, _, _, rfl⟩ := mem_dueTimes.mp member
    exact Nat.max_le.mpr ⟨Nat.le_max_left _ _, due⟩

theorem judge_not_timedOut {d : VoteDesk} {v : Vote} {ρ : Resolution}
    (member : ρ ∈ (d.judge v).resolved) : ρ.progress.outcome ≠ .timedOut := by
  by_cases undecided : v.evaluate = .pending
  · rw [judge_pending undecided] at member
    cases member
  · rw [judge_decided undecided] at member
    rw [List.mem_singleton.mp member]
    intro late
    have evaluated : v.evaluate = .timedOut := late
    rcases v.evaluate_cases with same | same | same
    all_goals
      rw [same] at evaluated
      cases evaluated

theorem start_not_timedOut {d : VoteDesk} {now : Nat} {r : VoteRequest} {ρ : Resolution}
    (member : ρ ∈ (d.start now r).resolved) : ρ.progress.outcome ≠ .timedOut := by
  rcases start_cases d now r with ⟨_, same⟩ | ⟨_, same⟩
  · rw [same] at member
    cases member
  · rw [same] at member
    exact judge_not_timedOut member

/-- A ballot times a vote out if it comes too late for it. -/
theorem cast_timedOut {d : VoteDesk} {now : Nat} {key : VoteKey} {voter : MemberId} {b : Ballot}
    {ρ : Resolution} (late : ρ.progress.outcome = .timedOut) :
    ρ ∈ (d.cast now key voter b).resolved ↔
      ∃ v, d.pending.get? key = some v ∧ v.deadline ≤ now ∧ ρ = v.resolve .timedOut := by
  constructor
  · intro member
    rcases cast_cases d now key voter b with ⟨_, same⟩ | ⟨v, found, due, same⟩ | ⟨_, _, same⟩
    · rw [same] at member
      cases member
    · rw [same] at member
      exact ⟨v, found, due, List.mem_singleton.mp member⟩
    · rw [same] at member
      exact absurd late (judge_not_timedOut member)
  · rintro ⟨v, found, due, rfl⟩
    simp only [cast, found, if_pos due, settle_resolution, List.mem_singleton]

end VoteDesk

namespace DeskAct

/-- Time passes and what is due has to wait. -/
def isLag : DeskAct → Bool
  | .lag _ => true
  | _ => false

/-- Time passes, or a timer goes off. -/
def isClock : DeskAct → Bool
  | .advance _ | .lag _ | .timer _ | .timers => true
  | .start _ | .cast .. | .cancel _ | .cancelAll _ => false

/-- The act comes upon the deadline of a vote: the clock gets there, or has got there when the timer
of the vote goes off, or a ballot for it arrives. -/
def Meets (a : DeskAct) (l : Ledger) (v : Vote) : Prop :=
  match a with
  | .advance duration => v.deadline ≤ l.now + duration
  | .timers => v.deadline ≤ l.now
  | .timer ticket => v.ticket = ticket ∧ v.deadline ≤ l.now
  | .cast key _ _ => key = v.key ∧ v.deadline ≤ l.now
  | .start _ | .cancel _ | .cancelAll _ | .lag _ => False

end DeskAct

namespace Ledger

/-- What an act resolves at once is resolved at the moment that the clock shows. -/
theorem note_timedOut {l : Ledger} {a : DeskAct} {desk : VoteDesk} {resolved : List Resolution}
    {e : Nat × Resolution} (past : ∀ v, a.Meets l v → v.deadline ≤ l.now)
    (now : e.2 ∈ resolved ↔
      ∃ k v, l.desk.pending.get? k = some v ∧ a.Meets l v ∧ e.2 = v.resolve .timedOut) :
    e ∈ (l.note desk resolved).resolved ↔
      e ∈ l.resolved ∨ ∃ k v, l.desk.pending.get? k = some v ∧ a.Meets l v ∧
        e = (max l.now v.deadline, v.resolve .timedOut) := by
  obtain ⟨moment, ρ⟩ := e
  simp only [note, List.mem_append, List.mem_map, Prod.mk.injEq]
  apply or_congr_right
  constructor
  · rintro ⟨ρ', member, rfl, rfl⟩
    obtain ⟨k, v, found, meets, same⟩ := now.mp member
    exact ⟨k, v, found, meets, (Nat.max_eq_left (past v meets)).symm, same⟩
  · rintro ⟨k, v, found, meets, rfl, rfl⟩
    exact ⟨_, now.mpr ⟨k, v, found, meets, rfl⟩, (Nat.max_eq_left (past v meets)).symm, rfl⟩

theorem start_noted (l : Ledger) (r : VoteRequest) :
    (l.enter (.start r)).resolved =
      (l.note (l.desk.start l.now r).desk (l.desk.start l.now r).resolved).resolved := by
  simp only [enter]
  split
  · rfl
  · rfl

theorem cast_noted (l : Ledger) (key : VoteKey) (voter : MemberId) (b : Ballot) :
    (l.enter (.cast key voter b)).resolved =
      (l.note (l.desk.cast l.now key voter b).desk
        (l.desk.cast l.now key voter b).resolved).resolved := by
  simp only [enter]
  split
  · rfl
  · rfl

/-- The votes that time out in an act are those whose deadline it meets, each with the count that it
has, and no earlier than at its deadline. -/
theorem enter_timedOut {l : Ledger} (keyed : l.desk.Keyed) (a : DeskAct) {e : Nat × Resolution}
    (late : e.2.progress.outcome = .timedOut) :
    e ∈ (l.enter a).resolved ↔
      e ∈ l.resolved ∨ ∃ k v, l.desk.pending.get? k = some v ∧ a.Meets l v ∧
        e = (max l.now v.deadline, v.resolve .timedOut) := by
  cases a with
  | start r =>
      rw [start_noted]
      apply note_timedOut (a := .start r) fun _ => False.elim
      refine iff_of_false (fun new => ?_) fun ⟨_, _, _, never, _⟩ => never
      exact VoteDesk.start_not_timedOut new late
  | cast key voter b =>
      rw [cast_noted]
      apply note_timedOut (a := .cast key voter b) fun _ meets => meets.2
      rw [VoteDesk.cast_timedOut late]
      constructor
      · rintro ⟨v, found, due, same⟩
        exact ⟨key, v, found, ⟨(keyed key v found).symm, due⟩, same⟩
      · rintro ⟨k, v, found, ⟨rfl, due⟩, same⟩
        rw [← keyed k v found] at found
        exact ⟨v, found, due, same⟩
  | cancel key =>
      apply note_timedOut (a := .cancel key) fun _ => False.elim
      refine iff_of_false (fun new => ?_) fun ⟨_, _, _, never, _⟩ => never
      rw [VoteDesk.cancel_outcome new] at late
      cases late
  | cancelAll guild =>
      apply note_timedOut (a := .cancelAll guild) fun _ => False.elim
      refine iff_of_false (fun new => ?_) fun ⟨_, _, _, never, _⟩ => never
      rw [VoteDesk.cancelKinds_outcome new] at late
      cases late
  | advance duration =>
      obtain ⟨moment, ρ⟩ := e
      simp only [enter, List.mem_append, Prod.mk.injEq]
      apply or_congr_right
      exact VoteDesk.advance_resolved keyed (Nat.le_add_right _ _)
  | lag duration =>
      simp [enter, DeskAct.Meets]
  | timer ticket =>
      apply note_timedOut (a := .timer ticket) fun _ meets => meets.2
      exact VoteDesk.timeOut_due_resolved l.now (·.ticket = ticket) e.2
  | timers =>
      apply note_timedOut (a := .timers) fun _ meets => meets
      exact VoteDesk.expire_resolved

/-- Over a run, a vote times out where an act meets its deadline while it is pending. -/
theorem timedOut_ofActs (acts : List DeskAct) {e : Nat × Resolution}
    (late : e.2.progress.outcome = .timedOut) :
    e ∈ (ofActs acts).resolved ↔
      ∃ before a rest k v, acts = before ++ a :: rest ∧
        (ofActs before).desk.pending.get? k = some v ∧ a.Meets (ofActs before) v ∧
        e = (max (ofActs before).now v.deadline, v.resolve .timedOut) := by
  induction acts using List.reverseRecOn with
  | nil => simp [ofActs, after]
  | append_singleton acts a ih =>
      have keyed := (sound_ofActs acts).keyed
      rw [ofActs_append]
      change e ∈ ((ofActs acts).enter a).resolved ↔ _
      rw [enter_timedOut keyed a late, ih]
      constructor
      · rintro (⟨before, a', rest, k, v, rfl, found, meets, same⟩ | ⟨k, v, found, meets, same⟩)
        · exact ⟨before, a', rest ++ [a], k, v, by simp, found, meets, same⟩
        · exact ⟨acts, a, [], k, v, rfl, found, meets, same⟩
      · rintro ⟨before, a', rest, k, v, split, found, meets, same⟩
        -- The act is the last one of the run, or one of those before it.
        rcases List.eq_nil_or_concat rest with rfl | ⟨rest, last, rfl⟩
        · obtain ⟨rfl, rfl⟩ := List.append_singleton_inj.mp split
          exact .inr ⟨k, v, found, meets, same⟩
        · rw [List.concat_eq_append, ← List.cons_append, ← List.append_assoc] at split
          obtain ⟨rfl, rfl⟩ := List.append_singleton_inj.mp split
          exact .inl ⟨before, a', rest, k, v, rfl, found, meets, same⟩

/-- No deadline has passed. Where one has come, the vote was opened just now and given no time. -/
def Timely (l : Ledger) : Prop :=
  ∀ k v, l.desk.pending.get? k = some v →
    l.now < v.deadline ∨ ∃ r, l.requests[v.ticket]? = some (l.now, r) ∧ r.timeout = 0

namespace Timely

variable {l : Ledger} (h : l.Timely)
include h

/-- Votes may leave, and may get ballots. -/
theorem of_fewer {l' : Ledger} (now : l'.now = l.now) (requests : l'.requests = l.requests)
    (within : ∀ k v', l'.desk.pending.get? k = some v' →
      ∃ v, l.desk.pending.get? k = some v ∧ v.ticket = v'.ticket ∧ v.deadline = v'.deadline) :
    l'.Timely := by
  intro k v' found
  obtain ⟨v, before, ticket, deadline⟩ := within k v' found
  rw [now, requests, ← ticket, ← deadline]
  exact h k v before

theorem of_subset {l' : Ledger} (now : l'.now = l.now) (requests : l'.requests = l.requests)
    (within : ∀ k v, l'.desk.pending.get? k = some v → l.desk.pending.get? k = some v) :
    l'.Timely :=
  h.of_fewer now requests fun k v found => ⟨v, within k v found, rfl, rfl⟩

theorem opening (sound : l.Sound) (r : VoteRequest) : (l.opening r).Timely := by
  intro k v found
  rcases VoteDesk.put_pending_get?.mp found with ⟨rfl, rfl⟩ | ⟨_, old⟩
  · by_cases time : r.timeout = 0
    · right
      refine ⟨r, ?_, time⟩
      rw [show (Vote.ofRequest r l.desk.opened l.now).ticket = l.requests.length from sound.opened]
      exact List.getElem?_concat_length
    · left
      exact Nat.lt_add_of_pos_right (Nat.pos_of_ne_zero time)
  · rcases h k v old with early | ⟨r', recorded, none⟩
    · exact .inl early
    · refine .inr ⟨r', ?_, none⟩
      rw [Ledger.opening, List.getElem?_append_left (List.getElem?_eq_some_iff.mp recorded).1, recorded]

theorem enter (sound : l.Sound) {a : DeskAct} (prompt : a.isLag = false) : (l.enter a).Timely := by
  cases a with
  | start r =>
      rcases VoteDesk.start_cases l.desk l.now r with ⟨e, same⟩ | ⟨admits, _⟩
      · rw [enter_refused (e := e) (by rw [same])]
        exact h
      · by_cases undecided : (Vote.ofRequest r l.desk.opened l.now).evaluate = .pending
        · rw [enter_opening admits undecided]
          exact h.opening sound r
        · rw [enter_opening_settling admits undecided]
          exact (h.opening sound r).of_subset rfl rfl (VoteDesk.settle_subset _ _ _)
  | cast key voter b =>
      have now : (l.enter (.cast key voter b)).now = l.now := by
        simp only [Ledger.enter]
        split <;> rfl
      have requests : (l.enter (.cast key voter b)).requests = l.requests := by
        simp only [Ledger.enter]
        split <;> rfl
      apply h.of_fewer now requests
      intro k v' found
      rw [cast_desk] at found
      rcases VoteDesk.cast_pending_get? sound.keyed found with old | ⟨rfl, v, hears, rfl, _⟩
      · exact ⟨v', old, rfl, rfl⟩
      · refine ⟨v, hears.found, (v.withBallot_ticket voter b).symm, ?_⟩
        cases b with
        | yes | no => rfl
  | cancel key => exact h.of_subset rfl rfl (VoteDesk.cancel_subset sound.keyed key)
  | cancelAll guild =>
      exact h.of_subset rfl rfl fun k v found =>
        ((VoteDesk.cancelAll_pending sound.keyed guild k v).mp found).1
  | advance duration =>
      intro k v found
      exact .inl ((VoteDesk.advance_pending sound.keyed (Nat.le_add_right _ _) k v).mp found).2
  | lag duration => cases prompt
  | timer ticket =>
      exact h.of_subset rfl rfl fun k v found => ((VoteDesk.timeOut_pending _ _ k v).mp found).1
  | timers => exact h.of_subset rfl rfl (VoteDesk.expire_subset l.desk l.now)

end Timely

theorem Timely.le_deadline {l : Ledger} (h : l.Timely) (sound : l.Sound) {k : VoteKey} {v : Vote}
    (found : l.desk.pending.get? k = some v) : l.now ≤ v.deadline := by
  rcases h k v found with early | ⟨r, recorded, _⟩
  · exact early.le
  · obtain ⟨_, _, recorded', origin⟩ := (sound.covered k v found).request
    rw [recorded] at recorded'
    cases recorded'
    rw [origin.deadline]
    exact Nat.le_add_right _ _

theorem timely_after {l : Ledger} (sound : l.Sound) (h : l.Timely) {acts : List DeskAct}
    (prompt : ∀ a ∈ acts, a.isLag = false) : (l.after acts).Timely := by
  induction acts generalizing l with
  | nil => exact h
  | cons a acts ih =>
      obtain ⟨first, later⟩ := List.forall_mem_cons.mp prompt
      exact ih (sound.enter a) (h.enter sound first) later

theorem timely_ofActs {acts : List DeskAct} (prompt : ∀ a ∈ acts, a.isLag = false) :
    (ofActs acts).Timely := timely_after sound_empty nofun prompt

/-- The vote that is pending under a key is the latest that was opened under it. -/
def Latest (l : Ledger) : Prop :=
  ∀ k v, l.desk.pending.get? k = some v → ∀ ticket opened r,
    l.requests[ticket]? = some (opened, r) → ⟨r.guild, r.kind⟩ = k → ticket ≤ v.ticket

theorem Latest.move {l l' : Ledger} (h : l.Latest) (sound : l.Sound) (move : Move l l') :
    l'.Latest := by
  cases move with
  | @opens r admits =>
      intro k v found ticket opened r' recorded key
      have below := (List.getElem?_eq_some_iff.mp recorded).1
      rw [Ledger.opening, List.length_append, List.length_singleton] at below
      rcases VoteDesk.put_pending_get?.mp found with ⟨_, rfl⟩ | ⟨other, old⟩
      · rw [show (Vote.ofRequest r l.desk.opened l.now).ticket = l.requests.length from sound.opened]
        omega
      · -- The request that has just come is for another key.
        have before : ticket < l.requests.length := by
          apply Nat.lt_of_le_of_ne (by omega)
          rintro rfl
          rw [Ledger.opening, List.getElem?_concat_length] at recorded
          cases recorded
          exact other key.symm
        rw [Ledger.opening, List.getElem?_append_left before] at recorded
        exact h k v old ticket opened r' recorded key
  | counts b hears =>
      intro k v found
      rcases (sound.counting_get? hears b).mp found with ⟨rfl, rfl⟩ | ⟨_, old⟩
      · rw [Vote.withBallot_ticket]
        exact h k _ hears.found
      · exact h k v old
  | settles => exact fun k v found => h k v (VoteDesk.settle_subset _ _ _ k v found)
  | waits => exact h

theorem latest_after {l : Ledger} (sound : l.Sound) (h : l.Latest) (acts : List DeskAct) :
    (l.after acts).Latest := by
  refine (after_induction (P := fun l => l.Sound ∧ l.Latest) ?_ ⟨sound, h⟩ acts).2
  rintro l a ⟨sound, latest⟩
  refine ⟨sound.enter a, ?_⟩
  have moves := enter_moves sound.keyed a
  generalize l.enter a = l' at moves
  induction moves with
  | refl => exact latest
  | tail before step ih => exact ih.move (sound.moves before) step

/-- Neither the clock nor a timer touches a vote unless it meets its deadline. -/
theorem enter_clock_keeps {l : Ledger} (keyed : l.desk.Keyed) {a : DeskAct} (clock : a.isClock = true)
    {k : VoteKey} {v : Vote} (found : l.desk.pending.get? k = some v) (spared : ¬ a.Meets l v) :
    (l.enter a).desk.pending.get? k = some v := by
  cases a with
  | start | cast | cancel | cancelAll => cases clock
  | advance duration =>
      exact (VoteDesk.advance_pending keyed (Nat.le_add_right _ _) k v).mpr
        ⟨found, Nat.lt_of_not_le spared⟩
  | lag duration => exact found
  | timer ticket =>
      exact (VoteDesk.timeOut_due_pending keyed l.now (·.ticket = ticket) k v).mpr ⟨found, spared⟩
  | timers => exact (VoteDesk.expire_pending keyed l.now k v).mpr ⟨found, Nat.lt_of_not_le spared⟩

/-- The timer of a vote that is not pending any more finds nothing to do. -/
theorem enter_timer_of_gone {l : Ledger} {ticket : Nat} (gone : ¬ l.Pending ticket) :
    l.enter (.timer ticket) = l := by
  have none : ((l.desk.overdue l.now).filter fun v => v.ticket = ticket) = [] := by
    apply List.filter_eq_nil_iff.mpr
    intro v listed own
    obtain ⟨⟨k, found⟩, _⟩ := VoteDesk.mem_overdue.mp listed
    exact gone ⟨k, v, found, of_decide_eq_true own⟩
  simp only [enter, VoteDesk.expireOne, none, VoteDesk.timeOut, note_nothing]

/-- The timer of a vote whose deadline has come times it out and does nothing else. -/
theorem enter_timer_of_due {l : Ledger} (sound : l.Sound) {k : VoteKey} {v : Vote}
    (found : l.desk.pending.get? k = some v) (due : v.deadline ≤ l.now) :
    l.enter (.timer v.ticket) = l.settling v .timedOut l.now := by
  have alone : ((l.desk.overdue l.now).filter fun u => u.ticket = v.ticket) = [v] := by
    apply List.perm_singleton.mp
    have once : (l.desk.overdue l.now).Nodup := by
      have keys := Table.keys_nodup l.desk.pending
      rw [← VoteDesk.values_key sound.keyed] at keys
      exact keys.of_map.filter _
    refine (List.perm_ext_iff_of_nodup (once.filter _) (List.nodup_singleton v)).mpr ?_
    intro u
    rw [List.mem_filter, VoteDesk.mem_overdue, decide_eq_true_eq, List.mem_singleton]
    constructor
    · rintro ⟨⟨⟨j, there⟩, _⟩, same⟩
      rw [sound.ticket_inj there found same, found] at there
      exact (Option.some.inj there).symm
    · rintro rfl
      exact ⟨⟨⟨k, found⟩, due⟩, rfl⟩
  simp only [enter, VoteDesk.expireOne, alone, VoteDesk.timeOut]
  rfl

/-- A ballot for a vote whose deadline has come, under whose key no newer vote is pending, is refused,
and does at most what the timer of the vote does. -/
theorem enter_cast_late {l : Ledger} (sound : l.Sound) (latest : l.Latest) {ticket opened : Nat}
    {r : VoteRequest} (recorded : l.requests[ticket]? = some (opened, r))
    (late : opened + r.timeout ≤ l.now)
    (newest : ∀ v, l.desk.pending.get? ⟨r.guild, r.kind⟩ = some v → v.ticket ≤ ticket)
    (voter : MemberId) (b : Ballot) :
    (l.desk.cast l.now ⟨r.guild, r.kind⟩ voter b).result = .error .noActiveVote ∧
      l.enter (.cast ⟨r.guild, r.kind⟩ voter b) = l.enter (.timer ticket) := by
  cases found : l.desk.pending.get? ⟨r.guild, r.kind⟩ with
  | none =>
      have gone : ¬ l.Pending ticket := by
        rintro ⟨k, v, there, rfl⟩
        have covered := sound.covered k v there
        obtain ⟨_, _, recorded', origin⟩ := covered.request
        rw [recorded] at recorded'
        cases recorded'
        rw [← covered.key, origin.key, found] at there
        cases there
      rw [enter_timer_of_gone gone]
      simp only [enter, VoteDesk.cast, found, Except.isOk, Except.toBool, Bool.false_eq_true,
        if_false, note_nothing, and_self]
  | some v =>
      obtain rfl : v.ticket = ticket :=
        Nat.le_antisymm (newest v found) (latest _ v found ticket opened r recorded rfl)
      obtain ⟨_, _, recorded', origin⟩ := (sound.covered _ v found).request
      rw [recorded] at recorded'
      cases recorded'
      have due : v.deadline ≤ l.now := origin.deadline ▸ late
      rw [enter_timer_of_due sound found due]
      simp only [enter, VoteDesk.cast, found, if_pos due, Except.isOk, Except.toBool,
        Bool.false_eq_true, if_false, true_and]
      rfl

theorem Moves.requests_grow {l l' : Ledger} (steps : Moves l l') : l.requests <+: l'.requests := by
  induction steps with
  | refl => exact List.prefix_refl _
  | tail _ step before =>
      apply before.trans
      cases step with
      | opens => exact List.prefix_append _ _
      | counts | settles | waits => exact List.prefix_refl _

theorem requests_grow_after {l : Ledger} (sound : l.Sound) (acts : List DeskAct) :
    l.requests <+: (l.after acts).requests := by
  induction acts generalizing l with
  | nil => exact List.prefix_refl _
  | cons a acts ih => exact (enter_moves sound.keyed a).requests_grow.trans (ih (sound.enter a))

/-- A vote that is pending at some point of a run is the one that the request with its ticket opened. -/
theorem origin_of_pending {before rest : List DeskAct} {k : VoteKey} {v : Vote} {opened : Nat}
    {r : VoteRequest} (found : (ofActs before).desk.pending.get? k = some v)
    (recorded : (ofActs (before ++ rest)).requests[v.ticket]? = some (opened, r)) :
    v.OpenedBy opened r ∧ k = ⟨r.guild, r.kind⟩ := by
  have sound := sound_ofActs before
  have covered := sound.covered k v found
  obtain ⟨opened', r', recorded', origin⟩ := covered.request
  obtain ⟨more, grown⟩ := requests_grow_after sound rest
  rw [ofActs_append, ← grown,
    List.getElem?_append_left (List.getElem?_eq_some_iff.mp recorded').1, recorded'] at recorded
  cases recorded
  exact ⟨origin, covered.key.symm.trans origin.key⟩

end Ledger

end Jukebox
