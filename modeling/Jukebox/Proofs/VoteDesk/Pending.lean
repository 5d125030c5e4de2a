import Jukebox.Proofs.Table
import Jukebox.VoteDesk

/-!
What each operation of the desk leaves pending. An operation either opens a vote, adds a ballot to
one, or takes votes off the desk; all other votes stay as they are.
-/

namespace Jukebox

@[simp] theorem Vote.withBallot_key (v : Vote) (m : MemberId) (b : Ballot) :
    (v.withBallot m b).key = v.key := by
  cases b <;> rfl

@[simp] theorem Vote.withBallot_ticket (v : Vote) (m : MemberId) (b : Ballot) :
    (v.withBallot m b).ticket = v.ticket := by
  cases b <;> rfl

@[simp] theorem Vote.withBallot_target (v : Vote) (m : MemberId) (b : Ballot) :
    (v.withBallot m b).target = v.target := by
  cases b <;> rfl

namespace VoteDesk

/-- Every pending vote lies under its own key. -/
def Keyed (d : VoteDesk) : Prop := ∀ k v, d.pending.get? k = some v → v.key = k

/-- Every pending vote still needs ballots. -/
def Undecided (d : VoteDesk) : Prop := ∀ k v, d.pending.get? k = some v → v.evaluate = .pending

def put (d : VoteDesk) (v : Vote) : VoteDesk := { d with pending := d.pending.insert v.key v }

def countOpened (d : VoteDesk) : VoteDesk :=
  { d with opened := d.opened + 1, metrics := d.metrics.voteStarted }

/-- What a request must satisfy to open a vote. -/
structure Admits (d : VoteDesk) (r : VoteRequest) : Prop where
  positive : 1 ≤ r.ratio
  share : r.ratio ≤ 100
  eligible : r.eligible.contains r.initiator = true
  free : d.pending.get? ⟨r.guild, r.kind⟩ = none

theorem Admits.ne_of_found {d : VoteDesk} {r : VoteRequest} (h : d.Admits r) {k : VoteKey}
    {v : Vote} (found : d.pending.get? k = some v) : k ≠ ⟨r.guild, r.kind⟩ := by
  rintro rfl
  rw [h.free] at found
  cases found

/-- What a ballot must satisfy to count. -/
structure Hears (d : VoteDesk) (now : Nat) (key : VoteKey) (voter : MemberId) (v : Vote) :
    Prop where
  found : d.pending.get? key = some v
  early : now < v.deadline
  eligible : v.eligible.contains voter = true
  fresh : v.hasVoted voter = false

theorem judge_pending {d : VoteDesk} {v : Vote} (h : v.evaluate = .pending) :
    d.judge v = { result := v.progress, desk := d.put v } := by
  simp only [judge, h]
  rfl

theorem judge_decided {d : VoteDesk} {v : Vote} (h : v.evaluate ≠ .pending) :
    d.judge v =
      { result := v.progress v.evaluate
        desk := (d.settle v v.evaluate).1
        resolved := [v.resolve v.evaluate] } := by
  unfold judge
  cases outcome : v.evaluate with
  | pending => exact absurd outcome h
  | passed => rfl
  | failed => rfl
  | timedOut => rfl
  | cancelled => rfl

/-- A request is refused and changes nothing, or it opens a vote that is judged at once. -/
theorem start_cases (d : VoteDesk) (now : Nat) (r : VoteRequest) :
    (∃ e, d.start now r = { result := .error e, desk := d }) ∨
    (d.Admits r ∧
      let o := d.countOpened.judge (Vote.ofRequest r d.opened now)
      d.start now r = { result := .ok o.result, desk := o.desk, resolved := o.resolved }) := by
  unfold start
  split
  · exact .inl ⟨_, rfl⟩
  · next share =>
      split
      · exact .inl ⟨_, rfl⟩
      · next eligible =>
          split
          · exact .inl ⟨_, rfl⟩
          · next free =>
              refine .inr ⟨⟨by omega, by omega, by simpa using eligible, ?_⟩, rfl⟩
              exact Table.contains_eq_false.mp (by simpa using free)

/-- A ballot is refused and changes nothing, or comes too late and ends the vote, or counts. -/
theorem cast_cases (d : VoteDesk) (now : Nat) (key : VoteKey) (voter : MemberId) (b : Ballot) :
    (∃ e, d.cast now key voter b = { result := .error e, desk := d }) ∨
    (∃ v, d.pending.get? key = some v ∧ v.deadline ≤ now ∧
      d.cast now key voter b =
        { result := .error .noActiveVote
          desk := (d.settle v .timedOut).1
          resolved := [v.resolve .timedOut] }) ∨
    (∃ v, d.Hears now key voter v ∧
      let o := d.judge (v.withBallot voter b)
      d.cast now key voter b =
        { result := .ok o.result, desk := o.desk, resolved := o.resolved }) := by
  unfold cast
  split
  · exact .inl ⟨_, rfl⟩
  · next v found =>
      split
      · next late => exact .inr (.inl ⟨v, found, late, rfl⟩)
      · next early =>
          split
          · exact .inl ⟨_, rfl⟩
          · next eligible =>
              split
              · exact .inl ⟨_, rfl⟩
              · next fresh =>
                  exact .inr (.inr ⟨v, ⟨found, by omega, by simpa using eligible,
                    by simpa using fresh⟩, rfl⟩)

/-- A request that satisfies the conditions does open a vote. -/
theorem Admits.start {d : VoteDesk} {r : VoteRequest} (h : d.Admits r) (now : Nat) :
    let o := d.countOpened.judge (Vote.ofRequest r d.opened now)
    d.start now r = { result := .ok o.result, desk := o.desk, resolved := o.resolved } := by
  have share : ¬(r.ratio < 1 ∨ 100 < r.ratio) := by
    have := h.positive
    have := h.share
    omega
  have free : d.pending.contains ⟨r.guild, r.kind⟩ = false := Table.contains_eq_false.mpr h.free
  simp only [VoteDesk.start, share, h.eligible, free, if_false, Bool.not_true, Bool.false_eq_true]
  rfl

theorem admits_of_ok {d : VoteDesk} {now : Nat} {r : VoteRequest} {p : VoteProgress}
    (accepted : (d.start now r).result = .ok p) : d.Admits r := by
  rcases start_cases d now r with ⟨e, same⟩ | ⟨admits, _⟩
  · rw [same] at accepted
    cases accepted
  · exact admits

theorem judge_result (d : VoteDesk) (v : Vote) : (d.judge v).result = v.progress v.evaluate := by
  by_cases h : v.evaluate = .pending
  · rw [judge_pending h, h]
  · rw [judge_decided h]

/-- A ballot that satisfies the conditions does count. -/
theorem Hears.cast {d : VoteDesk} {now : Nat} {key : VoteKey} {voter : MemberId} {v : Vote}
    (h : d.Hears now key voter v) (b : Ballot) :
    let o := d.judge (v.withBallot voter b)
    d.cast now key voter b =
      { result := .ok o.result, desk := o.desk, resolved := o.resolved } := by
  simp only [VoteDesk.cast, h.found, Nat.not_le.mpr h.early, h.eligible, h.fresh, if_false,
    Bool.not_true, Bool.false_eq_true]

theorem settle_pending (d : VoteDesk) (v : Vote) (outcome : VoteOutcome) :
    (d.settle v outcome).1.pending = d.pending.erase v.key := rfl

theorem settle_resolution (d : VoteDesk) (v : Vote) (outcome : VoteOutcome) :
    (d.settle v outcome).2 = v.resolve outcome := rfl

theorem Keyed.of_subset {d d' : VoteDesk} (h : d.Keyed)
    (within : ∀ k v, d'.pending.get? k = some v → d.pending.get? k = some v) : d'.Keyed :=
  fun k v found => h k v (within k v found)

/-- Settling a vote does not depend on whether its latest ballot was put on the desk before. -/
theorem settle_put (d : VoteDesk) (v : Vote) (outcome : VoteOutcome) :
    (d.put v).settle v outcome = d.settle v outcome := by
  simp only [settle, put, Table.erase_insert]

theorem settle_subset (d : VoteDesk) (v : Vote) (outcome : VoteOutcome) :
    ∀ k u, (d.settle v outcome).1.pending.get? k = some u → d.pending.get? k = some u := by
  intro k u found
  rw [settle_pending] at found
  exact (Table.get?_erase_eq_some.mp found).2

theorem values_key {d : VoteDesk} (h : d.Keyed) :
    d.pending.values.map (fun v => v.key) = d.pending.keys := by
  simp only [Table.values, Table.keys, List.map_map]
  apply List.map_congr_left
  intro p member
  exact h p.1 p.2 (Table.get?_eq_some_iff.mpr member)

theorem cancel_pending {d : VoteDesk} (h : d.Keyed) (key : VoteKey) :
    (d.cancel key).desk.pending = d.pending.erase key := by
  unfold cancel
  split
  · next missing => exact (Table.erase_of_none missing).symm
  · next v found =>
      rw [← h key v found]
      rfl

theorem cancel_subset {d : VoteDesk} (h : d.Keyed) (key : VoteKey) :
    ∀ k v, (d.cancel key).desk.pending.get? k = some v → d.pending.get? k = some v := by
  intro k v found
  rw [cancel_pending h] at found
  exact (Table.get?_erase_eq_some.mp found).2

theorem cancel_keyed {d : VoteDesk} (h : d.Keyed) (key : VoteKey) : (d.cancel key).desk.Keyed :=
  h.of_subset (cancel_subset h key)

theorem cancelKinds_pending {d : VoteDesk} (h : d.Keyed) (g : GuildId) (kinds : List VoteKind)
    (k : VoteKey) (v : Vote) :
    (d.cancelKinds g kinds).desk.pending.get? k = some v ↔
      d.pending.get? k = some v ∧ ¬(k.guild = g ∧ k.kind ∈ kinds) := by
  induction kinds generalizing d with
  | nil => simp [cancelKinds]
  | cons kind kinds ih =>
      simp only [cancelKinds, ih (cancel_keyed h ⟨g, kind⟩), cancel_pending h,
        Table.get?_erase_eq_some, List.mem_cons]
      obtain ⟨guild, kind'⟩ := k
      simp only [ne_eq, VoteKey.mk.injEq]
      tauto

theorem mem_all (kind : VoteKind) : kind ∈ VoteKind.all := by
  cases kind <;> decide

/-- A guild whose votes were cancelled has none; those of other guilds stay. -/
theorem cancelAll_pending {d : VoteDesk} (h : d.Keyed) (g : GuildId) (k : VoteKey) (v : Vote) :
    (d.cancelAll g).desk.pending.get? k = some v ↔
      d.pending.get? k = some v ∧ k.guild ≠ g := by
  rw [cancelAll, cancelKinds_pending h]
  simp only [mem_all, and_true, ne_eq]

theorem timeOut_pending (d : VoteDesk) (votes : List Vote) (k : VoteKey) (v : Vote) :
    (d.timeOut votes).1.pending.get? k = some v ↔
      d.pending.get? k = some v ∧ ∀ u ∈ votes, u.key ≠ k := by
  induction votes generalizing d with
  | nil => simp [timeOut]
  | cons u votes ih =>
      simp only [timeOut, ih, settle_pending, Table.get?_erase_eq_some, List.forall_mem_cons]
      tauto

theorem cancel_outcome {d : VoteDesk} {key : VoteKey} {ρ : Resolution}
    (member : ρ ∈ (d.cancel key).resolved) : ρ.progress.outcome = .cancelled := by
  unfold cancel at member
  split at member
  · cases member
  · rw [List.mem_singleton.mp member]
    rfl

theorem cancelKinds_outcome {d : VoteDesk} {g : GuildId} {kinds : List VoteKind} {ρ : Resolution}
    (member : ρ ∈ (d.cancelKinds g kinds).resolved) : ρ.progress.outcome = .cancelled := by
  induction kinds generalizing d with
  | nil => cases member
  | cons kind kinds ih =>
      rcases List.mem_append.mp member with first | later
      · exact cancel_outcome first
      · exact ih later

theorem timeOut_resolved (d : VoteDesk) (votes : List Vote) :
    (d.timeOut votes).2 = votes.map fun v => v.resolve .timedOut := by
  induction votes generalizing d with
  | nil => rfl
  | cons v votes ih => exact congrArg (v.resolve .timedOut :: ·) (ih _)

theorem timeOut_outcome {d : VoteDesk} {votes : List Vote} {ρ : Resolution}
    (member : ρ ∈ (d.timeOut votes).2) : ρ.progress.outcome = .timedOut := by
  rw [timeOut_resolved] at member
  obtain ⟨v, _, rfl⟩ := List.mem_map.mp member
  rfl

theorem mem_overdue {d : VoteDesk} {now : Nat} {v : Vote} :
    v ∈ d.overdue now ↔ (∃ k, d.pending.get? k = some v) ∧ v.deadline ≤ now := by
  simp only [overdue, List.mem_filter, Table.mem_values, decide_eq_true_eq]

section Due

variable {d : VoteDesk} (h : d.Keyed) (now : Nat) (picked : Vote → Prop) [DecidablePred picked]

include h in
/-- Where the picked votes that are due time out, exactly the others stay. -/
theorem timeOut_due_pending (k : VoteKey) (v : Vote) :
    (d.timeOut ((d.overdue now).filter fun u => picked u)).1.pending.get? k = some v ↔
      d.pending.get? k = some v ∧ ¬(picked v ∧ v.deadline ≤ now) := by
  rw [timeOut_pending]
  constructor
  · rintro ⟨found, others⟩
    refine ⟨found, fun ⟨own, due⟩ => others v ?_ (h k v found)⟩
    exact List.mem_filter.mpr ⟨mem_overdue.mpr ⟨⟨k, found⟩, due⟩, decide_eq_true own⟩
  · rintro ⟨found, spared⟩
    refine ⟨found, fun u listed same => spared ?_⟩
    obtain ⟨listed, own⟩ := List.mem_filter.mp listed
    obtain ⟨⟨j, there⟩, due⟩ := mem_overdue.mp listed
    rw [← h j u there, same, found] at there
    cases there
    exact ⟨of_decide_eq_true own, due⟩

theorem timeOut_due_resolved (ρ : Resolution) :
    ρ ∈ (d.timeOut ((d.overdue now).filter fun u => picked u)).2 ↔
      ∃ k v, d.pending.get? k = some v ∧ (picked v ∧ v.deadline ≤ now) ∧
        ρ = v.resolve .timedOut := by
  simp only [timeOut_resolved, List.mem_map, List.mem_filter, mem_overdue, decide_eq_true_eq]
  constructor
  · rintro ⟨v, ⟨⟨⟨k, found⟩, due⟩, own⟩, rfl⟩
    exact ⟨k, v, found, ⟨own, due⟩, rfl⟩
  · rintro ⟨k, v, found, ⟨own, due⟩, rfl⟩
    exact ⟨v, ⟨⟨⟨k, found⟩, due⟩, own⟩, rfl⟩

end Due

theorem expire_eq (d : VoteDesk) (now : Nat) :
    d.expire now = d.timeOut ((d.overdue now).filter fun _ => True) := by
  simp [expire]

/-- Of the votes on the desk exactly those stay whose deadline has not come. -/
theorem expire_pending {d : VoteDesk} (h : d.Keyed) (now : Nat) (k : VoteKey) (v : Vote) :
    (d.expire now).1.pending.get? k = some v ↔
      d.pending.get? k = some v ∧ now < v.deadline := by
  rw [expire_eq, timeOut_due_pending h, true_and, Nat.not_le]

theorem expire_resolved {d : VoteDesk} {now : Nat} {ρ : Resolution} :
    ρ ∈ (d.expire now).2 ↔
      ∃ k v, d.pending.get? k = some v ∧ v.deadline ≤ now ∧ ρ = v.resolve .timedOut := by
  simp only [expire_eq, timeOut_due_resolved, true_and]

theorem expire_subset (d : VoteDesk) (now : Nat) :
    ∀ k v, (d.expire now).1.pending.get? k = some v → d.pending.get? k = some v :=
  fun k v found => ((timeOut_pending d _ k v).mp found).1

/-- A vote outlasts moments if its deadline is after all of them. -/
theorem expireAt_pending {d : VoteDesk} (h : d.Keyed) (moments : List Nat) (k : VoteKey)
    (v : Vote) :
    (d.expireAt moments).1.pending.get? k = some v ↔
      d.pending.get? k = some v ∧ ∀ moment ∈ moments, moment < v.deadline := by
  induction moments generalizing d with
  | nil => simp [expireAt]
  | cons moment moments ih =>
      rw [expireAt, ih (h.of_subset (expire_subset d moment)), expire_pending h, List.forall_mem_cons,
        and_assoc]

theorem expireAt_subset (d : VoteDesk) (moments : List Nat) :
    ∀ k v, (d.expireAt moments).1.pending.get? k = some v → d.pending.get? k = some v := by
  induction moments generalizing d with
  | nil => exact fun _ _ found => found
  | cons moment moments ih =>
      exact fun k v found => expire_subset d moment k v (ih _ k v found)

theorem mem_dueTimes {d : VoteDesk} {now target moment : Nat} :
    moment ∈ d.dueTimes now target ↔
      ∃ k v, d.pending.get? k = some v ∧ v.deadline ≤ target ∧ moment = max now v.deadline := by
  simp only [dueTimes, List.mem_mergeSort, List.mem_map, mem_overdue]
  constructor
  · rintro ⟨v, ⟨⟨k, found⟩, due⟩, rfl⟩
    exact ⟨k, v, found, due, rfl⟩
  · rintro ⟨k, v, found, due, rfl⟩
    exact ⟨v, ⟨⟨k, found⟩, due⟩, rfl⟩

/-- While time passes, exactly those votes stay whose deadline it does not reach. -/
theorem advance_pending {d : VoteDesk} (h : d.Keyed) {now target : Nat} (ahead : now ≤ target)
    (k : VoteKey) (v : Vote) :
    (d.advance now target).1.pending.get? k = some v ↔
      d.pending.get? k = some v ∧ target < v.deadline := by
  rw [advance, expireAt_pending h]
  constructor
  · rintro ⟨found, outlasts⟩
    refine ⟨found, Nat.lt_of_not_le fun due => ?_⟩
    have late := outlasts _ (mem_dueTimes.mpr ⟨k, v, found, due, rfl⟩)
    exact Nat.not_le.mpr late (Nat.le_max_right now v.deadline)
  · rintro ⟨found, early⟩
    refine ⟨found, fun moment due => ?_⟩
    obtain ⟨_, u, _, within, rfl⟩ := mem_dueTimes.mp due
    exact (Nat.max_le.mpr ⟨ahead, within⟩).trans_lt early

theorem put_pending_get? {d : VoteDesk} {v u : Vote} {k : VoteKey} :
    (d.put v).pending.get? k = some u ↔
      (k = v.key ∧ u = v) ∨ (k ≠ v.key ∧ d.pending.get? k = some u) := by
  rw [put, Table.get?_insert]
  split
  · simp_all [eq_comm]
  · simp_all

theorem judge_others (d : VoteDesk) {v : Vote} {k : VoteKey} (other : k ≠ v.key) :
    (d.judge v).desk.pending.get? k = d.pending.get? k := by
  by_cases undecided : v.evaluate = .pending
  · rw [judge_pending undecided]
    exact Table.get?_insert_ne _ other _
  · rw [judge_decided undecided]
    exact Table.get?_erase_ne _ other

/-- After a vote is judged, a pending vote is an old one or the judged one with nothing decided. -/
theorem judge_pending_get? {d : VoteDesk} {v u : Vote} {k : VoteKey}
    (found : (d.judge v).desk.pending.get? k = some u) :
    (d.pending.get? k = some u ∧ k ≠ v.key) ∨
      (k = v.key ∧ u = v ∧ v.evaluate = .pending) := by
  by_cases h : v.evaluate = .pending
  · rw [judge_pending h] at found
    rcases put_pending_get?.mp found with ⟨here, same⟩ | ⟨other, old⟩
    · exact .inr ⟨here, same, h⟩
    · exact .inl ⟨old, other⟩
  · rw [judge_decided h] at found
    obtain ⟨other, old⟩ := Table.get?_erase_eq_some.mp found
    exact .inl ⟨old, other⟩

/-- After a request a pending vote is an old one, or the one just opened. -/
theorem start_pending_get? {d : VoteDesk} {now : Nat} {r : VoteRequest} {k : VoteKey} {u : Vote}
    (found : (d.start now r).desk.pending.get? k = some u) :
    d.pending.get? k = some u ∨
      (d.Admits r ∧ k = ⟨r.guild, r.kind⟩ ∧ u = Vote.ofRequest r d.opened now ∧
        u.evaluate = .pending) := by
  rcases start_cases d now r with ⟨e, same⟩ | ⟨admits, same⟩
  · rw [same] at found
    exact .inl found
  · rw [same] at found
    rcases judge_pending_get? found with ⟨old, _⟩ | ⟨here, rfl, open_⟩
    · exact .inl old
    · exact .inr ⟨admits, here, rfl, open_⟩

/-- A request leaves the votes under other keys alone. -/
theorem start_others (d : VoteDesk) (now : Nat) (r : VoteRequest) {k : VoteKey}
    (other : k ≠ ⟨r.guild, r.kind⟩) :
    (d.start now r).desk.pending.get? k = d.pending.get? k := by
  rcases start_cases d now r with ⟨e, same⟩ | ⟨_, same⟩
  · rw [same]
  · rw [same]
    exact judge_others d.countOpened other

/-- No request takes the place of a pending vote. -/
theorem start_keeps {d : VoteDesk} {k : VoteKey} {v : Vote} (found : d.pending.get? k = some v)
    (now : Nat) (r : VoteRequest) : (d.start now r).desk.pending.get? k = some v := by
  rcases start_cases d now r with ⟨e, same⟩ | ⟨admits, _⟩
  · rw [same]
    exact found
  · rw [start_others d now r (admits.ne_of_found found)]
    exact found

/-- After a ballot a pending vote is an old one, or the one that the ballot was for. -/
theorem cast_pending_get? {d : VoteDesk} (h : d.Keyed) {now : Nat} {key k : VoteKey}
    {voter : MemberId} {b : Ballot} {u : Vote}
    (found : (d.cast now key voter b).desk.pending.get? k = some u) :
    d.pending.get? k = some u ∨
      (k = key ∧ ∃ v, d.Hears now key voter v ∧ u = v.withBallot voter b ∧
        u.evaluate = .pending) := by
  rcases cast_cases d now key voter b with ⟨e, same⟩ | ⟨v, _, _, same⟩ | ⟨v, hears, same⟩
  · rw [same] at found
    exact .inl found
  · rw [same] at found
    exact .inl (settle_subset d v .timedOut k u found)
  · rw [same] at found
    rcases judge_pending_get? found with ⟨old, _⟩ | ⟨here, rfl, open_⟩
    · exact .inl old
    · refine .inr ⟨?_, v, hears, rfl, open_⟩
      rw [here, Vote.withBallot_key, h key v hears.found]

/-- A ballot leaves the votes under other keys alone. -/
theorem cast_others {d : VoteDesk} (h : d.Keyed) (now : Nat) {key k : VoteKey} (voter : MemberId)
    (b : Ballot) (other : k ≠ key) :
    (d.cast now key voter b).desk.pending.get? k = d.pending.get? k := by
  rcases cast_cases d now key voter b with ⟨e, same⟩ | ⟨v, there, _, same⟩ | ⟨v, hears, same⟩
  · rw [same]
  · rw [same]
    exact Table.get?_erase_ne _ (by rw [h key v there]; exact other)
  · rw [same]
    apply judge_others
    rw [Vote.withBallot_key, h key v hears.found]
    exact other

end VoteDesk

end Jukebox
