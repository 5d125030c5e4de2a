import Jukebox.Proofs.VoteDesk.Ledger

/-!
Each vote that opens is resolved once, with the tally of the ballots that were accepted for it, and
stays pending until then. The ledger and the desk agree after every run: a ticket is pending or
resolved and never both, and the counters of the desk balance.
-/

namespace Jukebox

/-- The vote is the one that a request opened at a moment, whatever ballots it has by now. -/
structure Vote.OpenedBy (v : Vote) (moment : Nat) (r : VoteRequest) : Prop where
  key : v.key = ⟨r.guild, r.kind⟩
  initiator : v.initiator = r.initiator
  eligible : v.eligible = r.eligible
  required : v.required = requiredVotes r.eligible.size r.ratio
  deadline : v.deadline = moment + r.timeout
  target : v.target = r.target

theorem Vote.openedBy_ofRequest (r : VoteRequest) (ticket now : Nat) :
    (ofRequest r ticket now).OpenedBy now r := ⟨rfl, rfl, rfl, rfl, rfl, rfl⟩

theorem Vote.OpenedBy.withBallot {v : Vote} {moment : Nat} {r : VoteRequest}
    (h : v.OpenedBy moment r) (m : MemberId) (b : Ballot) :
    (v.withBallot m b).OpenedBy moment r := by
  cases b <;> exact ⟨h.key, h.initiator, h.eligible, h.required, h.deadline, h.target⟩

namespace Ledger

/-- How many ballots of a kind were accepted for a ticket. -/
def tally (l : Ledger) (ticket : Nat) (b : Ballot) : Nat :=
  l.ballots.countP fun x => x.ticket = ticket ∧ x.ballot = b

/-- A vote that is pending under a key is on record: its request was accepted under its ticket, and
its count is that of the accepted ballots, all fairly cast. -/
structure Covers (l : Ledger) (k : VoteKey) (v : Vote) : Prop where
  key : v.key = k
  fair : v.Fair
  request : ∃ moment r, l.requests[v.ticket]? = some (moment, r) ∧ v.OpenedBy moment r
  yes : v.yes.size = l.tally v.ticket .yes
  no : v.no.size = l.tally v.ticket .no

/-- A resolution at a moment is that of a request accepted at another, with the tally of the
accepted ballots, and with an outcome that the tally or the deadline bears out. -/
structure Accounts (l : Ledger) (moment : Nat) (ρ : Resolution) (opened : Nat) (r : VoteRequest) :
    Prop where
  key : ρ.key = ⟨r.guild, r.kind⟩
  initiator : ρ.initiator = r.initiator
  target : ρ.target = r.target
  tally : ρ.progress =
    { kind := r.kind
      yes := l.tally ρ.ticket .yes
      no := l.tally ρ.ticket .no
      eligible := r.eligible.size
      required := requiredVotes r.eligible.size r.ratio
      outcome := ρ.progress.outcome }
  outcome : ρ.progress.outcome ∈ [VoteOutcome.passed, .failed, .timedOut, .cancelled]
  passed : ρ.progress.outcome = .passed → ρ.progress.required ≤ ρ.progress.yes
  failed : ρ.progress.outcome = .failed →
    ρ.progress.yes + (ρ.progress.eligible - ρ.progress.yes - ρ.progress.no) < ρ.progress.required
  timedOut : ρ.progress.outcome = .timedOut → opened + r.timeout ≤ moment

def Pending (l : Ledger) (ticket : Nat) : Prop :=
  ∃ k v, l.desk.pending.get? k = some v ∧ v.ticket = ticket

def Resolved (l : Ledger) (ticket : Nat) : Prop := ∃ e ∈ l.resolved, e.2.ticket = ticket

/-- The desk and the ledger agree. -/
structure Sound (l : Ledger) : Prop where
  opened : l.desk.opened = l.requests.length
  cast : ∀ x ∈ l.ballots, x.ticket < l.requests.length
  covered : ∀ k v, l.desk.pending.get? k = some v → l.Covers k v
  accounted : ∀ e ∈ l.resolved, ∃ opened r, l.requests[e.2.ticket]? = some (opened, r) ∧
    l.Accounts e.1 e.2 opened r
  once : (l.resolved.map fun e => e.2.ticket).Nodup
  settled : ∀ ticket, l.Resolved ticket → ¬ l.Pending ticket
  complete : ∀ ticket < l.requests.length, l.Pending ticket ∨ l.Resolved ticket
  balanced : l.desk.metrics.votesStarted =
    l.desk.metrics.votesPassed + l.desk.metrics.votesFailed + l.desk.metrics.votesCancelled +
      l.desk.pending.size

theorem sound_empty : ({} : Ledger).Sound where
  opened := rfl
  cast := nofun
  covered := nofun
  accounted := nofun
  once := .nil
  settled := by
    rintro ticket ⟨e, member, _⟩
    cases member
  complete := nofun
  balanced := rfl

theorem tally_append (l : Ledger) (more : List AcceptedBallot) (ticket : Nat) (b : Ballot) :
    ({ l with ballots := l.ballots ++ more } : Ledger).tally ticket b =
      l.tally ticket b + more.countP fun x => x.ticket = ticket ∧ x.ballot = b :=
  List.countP_append ..

/-- Ballots for other tickets leave a tally alone. -/
theorem tally_append_of_ne (l : Ledger) {more : List AcceptedBallot} {ticket : Nat}
    (other : ∀ x ∈ more, x.ticket ≠ ticket) (b : Ballot) :
    ({ l with ballots := l.ballots ++ more } : Ledger).tally ticket b = l.tally ticket b := by
  have none : (more.countP fun x => x.ticket = ticket ∧ x.ballot = b) = 0 := by
    apply List.countP_eq_zero.mpr
    intro x member
    simp [other x member]
  rw [tally_append, none, Nat.add_zero]

theorem mem_ownBallot {x : AcceptedBallot} {ticket : Nat} {r : VoteRequest}
    (member : x ∈ ownBallot ticket r) : x.ticket = ticket := by
  unfold ownBallot at member
  split at member
  · rw [List.mem_singleton.mp member]
  · cases member

theorem countP_ownBallot (ticket : Nat) (r : VoteRequest) (b : Ballot) :
    ((ownBallot ticket r).countP fun x => x.ticket = ticket ∧ x.ballot = b) =
      if r.selfVote ∧ b = .yes then 1 else 0 := by
  unfold ownBallot
  cases r.selfVote <;> cases b <;> simp

theorem Covers.extend {l l' : Ledger} {k : VoteKey} {v : Vote} (h : l.Covers k v)
    (requests : l.requests <+: l'.requests)
    (same : ∀ b, l'.tally v.ticket b = l.tally v.ticket b) : l'.Covers k v := by
  obtain ⟨moment, r, recorded, opened⟩ := h.request
  obtain ⟨more, longer⟩ := requests
  refine ⟨h.key, h.fair, ⟨moment, r, ?_, opened⟩, by rw [same, h.yes], by rw [same, h.no]⟩
  rw [← longer, List.getElem?_append_left (List.getElem?_eq_some_iff.mp recorded).1, recorded]

theorem Accounts.extend {l l' : Ledger} {moment opened : Nat} {ρ : Resolution} {r : VoteRequest}
    (h : l.Accounts moment ρ opened r) (same : ∀ b, l'.tally ρ.ticket b = l.tally ρ.ticket b) :
    l'.Accounts moment ρ opened r :=
  { h with tally := by rw [same, same]; exact h.tally }

/-- A vote on record is settled with the tally on record. -/
theorem Covers.resolve {l : Ledger} {k : VoteKey} {v : Vote} {opened : Nat} {r : VoteRequest}
    (h : l.Covers k v) (origin : v.OpenedBy opened r) {moment : Nat} {outcome : VoteOutcome}
    (ends : v.Ends moment outcome) : l.Accounts moment (v.resolve outcome) opened r where
  key := origin.key
  initiator := origin.initiator
  target := origin.target
  tally := by
    simp only [Vote.resolve, Vote.progress, h.yes, h.no, origin.key, origin.eligible,
      origin.required]
  outcome := by
    cases ends with
    | passed | failed | timedOut | cancelled => simp [Vote.resolve, Vote.progress]
  passed := by
    rintro rfl
    cases ends with
    | passed enough => exact Vote.evaluate_eq_passed.mp enough
  failed := by
    rintro rfl
    cases ends with
    | failed short => exact (Vote.evaluate_eq_failed.mp short).2
  timedOut := by
    rintro rfl
    cases ends with
    | timedOut due => rwa [← origin.deadline]

theorem settling_resolved {l : Ledger} {v : Vote} {outcome : VoteOutcome} {moment ticket : Nat} :
    (l.settling v outcome moment).Resolved ticket ↔ l.Resolved ticket ∨ ticket = v.ticket := by
  constructor
  · rintro ⟨e, member, rfl⟩
    rcases List.mem_append.mp member with old | new
    · exact .inl ⟨e, old, rfl⟩
    · rw [List.mem_singleton.mp new]
      exact .inr rfl
  · rintro (⟨e, old, same⟩ | rfl)
    · exact ⟨e, List.mem_append_left _ old, same⟩
    · exact ⟨_, List.mem_append_right _ (List.mem_singleton.mpr rfl), rfl⟩

namespace Sound

variable {l : Ledger} (h : l.Sound)
include h

theorem keyed : l.desk.Keyed := fun k v found => (h.covered k v found).key

theorem lt_of_pending {ticket : Nat} (pending : l.Pending ticket) : ticket < l.requests.length := by
  obtain ⟨k, v, found, rfl⟩ := pending
  obtain ⟨moment, r, recorded, _⟩ := (h.covered k v found).request
  exact (List.getElem?_eq_some_iff.mp recorded).1

theorem lt_of_resolved {ticket : Nat} (resolved : l.Resolved ticket) :
    ticket < l.requests.length := by
  obtain ⟨e, member, rfl⟩ := resolved
  obtain ⟨moment, r, recorded, _⟩ := h.accounted e member
  exact (List.getElem?_eq_some_iff.mp recorded).1

/-- A ticket leads to one pending vote at most. -/
theorem ticket_inj {k k' : VoteKey} {v v' : Vote} (found : l.desk.pending.get? k = some v)
    (found' : l.desk.pending.get? k' = some v') (same : v.ticket = v'.ticket) : k = k' := by
  have covered := h.covered k v found
  have covered' := h.covered k' v' found'
  obtain ⟨moment, r, recorded, opened⟩ := covered.request
  obtain ⟨moment', r', recorded', opened'⟩ := covered'.request
  rw [same, recorded'] at recorded
  cases recorded
  rw [← covered.key, ← covered'.key, opened.key, opened'.key]

theorem tally_next (b : Ballot) : l.tally l.requests.length b = 0 := by
  apply List.countP_eq_zero.mpr
  intro x member
  have before := h.cast x member
  simp only [decide_eq_true_eq, not_and]
  omega

theorem waits (now : Nat) : ({ l with now } : Ledger).Sound :=
  { h with
    covered := fun k v found => (h.covered k v found).extend (List.prefix_refl _) fun _ => rfl
    accounted := fun e member => by
      obtain ⟨moment, r, recorded, fits⟩ := h.accounted e member
      exact ⟨moment, r, recorded, fits.extend fun _ => rfl⟩ }

/-- The vote that opens is on record under the next ticket. -/
theorem opening_covers {r : VoteRequest} (admits : l.desk.Admits r) :
    (l.opening r).Covers ⟨r.guild, r.kind⟩ (Vote.ofRequest r l.desk.opened l.now) := by
  have next : (Vote.ofRequest r l.desk.opened l.now).ticket = l.requests.length := h.opened
  have counts : ∀ b, (l.opening r).tally l.requests.length b =
      if r.selfVote ∧ b = .yes then 1 else 0 := by
    intro b
    rw [← countP_ownBallot l.requests.length r b, ← Nat.zero_add (List.countP ..),
      ← h.tally_next b]
    exact tally_append l _ _ b
  refine ⟨rfl, Vote.fair_ofRequest admits.eligible _ _,
    ⟨l.now, r, ?_, Vote.openedBy_ofRequest r _ _⟩, ?_, ?_⟩
  · rw [next]
    exact List.getElem?_concat_length
  · rw [next, counts]
    cases self : r.selfVote with
    | false => simp [Vote.ofRequest, self]
    | true =>
        have one : (Table.insert Table.empty r.initiator () : MemberSet).size = 1 :=
          Table.size_insert_of_none (Table.get?_empty _) ()
        simp [Vote.ofRequest, self, one]
  · rw [next, counts]
    simp [Vote.ofRequest]

theorem opening_pending {r : VoteRequest} (admits : l.desk.Admits r) {ticket : Nat} :
    (l.opening r).Pending ticket ↔ ticket = l.requests.length ∨ l.Pending ticket := by
  constructor
  · rintro ⟨k, v, found, rfl⟩
    rcases VoteDesk.put_pending_get?.mp found with ⟨_, rfl⟩ | ⟨_, old⟩
    · exact .inl h.opened
    · exact .inr ⟨k, v, old, rfl⟩
  · rintro (rfl | ⟨k, v, old, same⟩)
    · exact ⟨_, _, VoteDesk.put_pending_get?.mpr (.inl ⟨rfl, rfl⟩), h.opened⟩
    · have other := admits.ne_of_found old
      exact ⟨k, v, VoteDesk.put_pending_get?.mpr (.inr ⟨other, old⟩), same⟩

/-- A vote that opens takes the next ticket. -/
theorem opening {r : VoteRequest} (admits : l.desk.Admits r) : (l.opening r).Sound := by
  -- The only new ballot has the next ticket, so the tallies of all earlier ones stay.
  have others : ∀ ticket < l.requests.length, ∀ b,
      (l.opening r).tally ticket b = l.tally ticket b := by
    intro ticket old b
    apply tally_append_of_ne l
    intro x member
    rw [mem_ownBallot member]
    exact (Nat.ne_of_lt old).symm
  have longer : (l.opening r).requests.length = l.requests.length + 1 := by
    simp [Ledger.opening]
  constructor
  · rw [longer, ← h.opened]
    rfl
  · intro x member
    rw [longer]
    rcases List.mem_append.mp member with old | own
    · exact Nat.lt_succ_of_lt (h.cast x old)
    · rw [mem_ownBallot own]
      exact Nat.lt_succ_self _
  · intro k v found
    rcases VoteDesk.put_pending_get?.mp found with ⟨rfl, rfl⟩ | ⟨_, old⟩
    · exact h.opening_covers admits
    · exact (h.covered k v old).extend (List.prefix_append _ _)
        (others v.ticket (h.lt_of_pending ⟨k, v, old, rfl⟩))
  · intro e member
    obtain ⟨moment, r', recorded, fits⟩ := h.accounted e member
    have old := h.lt_of_resolved ⟨e, member, rfl⟩
    refine ⟨moment, r', ?_, fits.extend (others _ old)⟩
    rw [Ledger.opening, List.getElem?_append_left old, recorded]
  · exact h.once
  · intro ticket resolved pending
    have old := h.lt_of_resolved resolved
    rcases (h.opening_pending admits).mp pending with rfl | there
    · exact Nat.lt_irrefl _ old
    · exact h.settled ticket resolved there
  · intro ticket below
    rw [longer] at below
    rw [h.opening_pending admits]
    by_cases new : ticket = l.requests.length
    · exact .inl (.inl new)
    · exact (h.complete ticket (by omega)).imp_left .inr
  · have grown : (l.opening r).desk.pending.size = l.desk.pending.size + 1 :=
      Table.size_insert_of_none admits.free _
    have before := h.balanced
    rw [grown]
    simp only [Ledger.opening, VoteDesk.put, VoteDesk.countOpened, Metrics.voteStarted]
    omega

section Counting

variable {key : VoteKey} {voter : MemberId} {v : Vote}
  (hears : l.desk.Hears l.now key voter v) (b : Ballot)
include hears

/-- The vote that gets a ballot stays on record, with that ballot in its tally. -/
theorem counting_covers : (l.counting v voter b).Covers key (v.withBallot voter b) := by
  have covered := h.covered key v hears.found
  obtain ⟨moment, r, recorded, opened⟩ := covered.request
  obtain ⟨notYes, notNo⟩ := Vote.hasVoted_eq_false.mp hears.fresh
  have counts : ∀ b', (l.counting v voter b).tally v.ticket b' =
      l.tally v.ticket b' + if b = b' then 1 else 0 := by
    intro b'
    refine (tally_append l [⟨v.ticket, voter, b⟩] v.ticket b').trans ?_
    simp [List.countP_cons]
  refine ⟨by rw [Vote.withBallot_key, covered.key],
    covered.fair.withBallot hears.eligible hears.fresh b,
    ⟨moment, r, ?_, opened.withBallot voter b⟩, ?_, ?_⟩
  · rw [Vote.withBallot_ticket]
    exact recorded
  · rw [Vote.withBallot_ticket, counts, ← covered.yes]
    cases b with
    | yes => exact MemberSet.size_insert_of_absent notYes
    | no => rfl
  · rw [Vote.withBallot_ticket, counts, ← covered.no]
    cases b with
    | yes => rfl
    | no => exact MemberSet.size_insert_of_absent notNo

theorem counting_get? {k : VoteKey} {u : Vote} :
    (l.counting v voter b).desk.pending.get? k = some u ↔
      (k = key ∧ u = v.withBallot voter b) ∨ (k ≠ key ∧ l.desk.pending.get? k = some u) := by
  have same : (v.withBallot voter b).key = key := by
    rw [Vote.withBallot_key, h.keyed key v hears.found]
  rw [← same]
  exact VoteDesk.put_pending_get?

theorem counting_pending {ticket : Nat} :
    (l.counting v voter b).Pending ticket ↔ l.Pending ticket := by
  constructor
  · rintro ⟨k, u, found, rfl⟩
    rcases (h.counting_get? hears b).mp found with ⟨rfl, rfl⟩ | ⟨_, old⟩
    · exact ⟨k, v, hears.found, (v.withBallot_ticket voter b).symm⟩
    · exact ⟨k, u, old, rfl⟩
  · rintro ⟨k, u, old, rfl⟩
    by_cases here : k = key
    · rw [here, hears.found] at old
      cases old
      exact ⟨key, _, (h.counting_get? hears b).mpr (.inl ⟨rfl, rfl⟩),
        v.withBallot_ticket voter b⟩
    · exact ⟨k, u, (h.counting_get? hears b).mpr (.inr ⟨here, old⟩), rfl⟩

/-- An accepted ballot enters one tally and no other. -/
theorem counting : (l.counting v voter b).Sound := by
  -- No other vote has this ticket, and no vote that was resolved had it.
  have others : ∀ ticket ≠ v.ticket, ∀ b',
      (l.counting v voter b).tally ticket b' = l.tally ticket b' := by
    intro ticket other b'
    apply tally_append_of_ne l
    intro x member
    rw [List.mem_singleton.mp member]
    exact other.symm
  constructor
  · exact h.opened
  · intro x member
    rcases List.mem_append.mp member with old | new
    · exact h.cast x old
    · rw [List.mem_singleton.mp new]
      exact h.lt_of_pending ⟨key, v, hears.found, rfl⟩
  · intro k u found
    rcases (h.counting_get? hears b).mp found with ⟨rfl, rfl⟩ | ⟨other, old⟩
    · exact h.counting_covers hears b
    · refine (h.covered k u old).extend (List.prefix_refl _) (others u.ticket ?_)
      exact fun same => other (h.ticket_inj old hears.found same)
  · intro e member
    obtain ⟨moment, r, recorded, fits⟩ := h.accounted e member
    refine ⟨moment, r, recorded, fits.extend (others _ ?_)⟩
    intro same
    exact h.settled e.2.ticket ⟨e, member, rfl⟩ ⟨key, v, hears.found, same.symm⟩
  · exact h.once
  · intro ticket resolved
    rw [h.counting_pending hears b]
    exact h.settled ticket resolved
  · intro ticket below
    rw [h.counting_pending hears b]
    exact h.complete ticket below
  · have kept : (l.counting v voter b).desk.pending.size = l.desk.pending.size := by
      apply Table.size_insert_of_some (b := v)
      rw [Vote.withBallot_key, h.keyed key v hears.found, hears.found]
    rw [kept]
    exact h.balanced

end Counting

section Settling

variable {v : Vote} (found : l.desk.pending.get? v.key = some v)
include found

theorem settling_pending {outcome : VoteOutcome} {moment ticket : Nat} :
    (l.settling v outcome moment).Pending ticket ↔ l.Pending ticket ∧ ticket ≠ v.ticket := by
  constructor
  · rintro ⟨k, u, there, rfl⟩
    obtain ⟨other, old⟩ := Table.get?_erase_eq_some.mp there
    exact ⟨⟨k, u, old, rfl⟩, fun same => other (h.ticket_inj old found same)⟩
  · rintro ⟨⟨k, u, old, rfl⟩, other⟩
    refine ⟨k, u, Table.get?_erase_eq_some.mpr ⟨?_, old⟩, rfl⟩
    rintro rfl
    rw [found] at old
    cases old
    exact other rfl

/-- A vote that is settled leaves the desk and is resolved, for the first time. -/
theorem settling {outcome : VoteOutcome} (moment : Nat) (ends : v.Ends moment outcome) :
    (l.settling v outcome moment).Sound := by
  have within := VoteDesk.settle_subset l.desk v outcome
  constructor
  · exact h.opened
  · exact h.cast
  · intro k u there
    exact (h.covered k u (within k u there)).extend (List.prefix_refl _) fun _ => rfl
  · intro e member
    rcases List.mem_append.mp member with old | new
    · obtain ⟨moment', r, recorded, fits⟩ := h.accounted e old
      exact ⟨moment', r, recorded, fits.extend fun _ => rfl⟩
    · cases List.mem_singleton.mp new
      obtain ⟨moment', r, recorded, opened⟩ := (h.covered v.key v found).request
      have fits := (h.covered v.key v found).resolve opened ends
      exact ⟨moment', r, recorded, fits.extend fun _ => rfl⟩
  · simp only [Ledger.settling, List.map_append, List.map_cons, List.map_nil]
    refine List.nodup_append.mpr ⟨h.once, List.nodup_singleton _, ?_⟩
    intro ticket member last new same
    obtain ⟨e, resolved, rfl⟩ := List.mem_map.mp member
    rw [List.mem_singleton.mp new] at same
    exact h.settled e.2.ticket ⟨e, resolved, rfl⟩ ⟨v.key, v, found, same.symm⟩
  · intro ticket resolved pending
    obtain ⟨there, other⟩ := (h.settling_pending found).mp pending
    rcases settling_resolved.mp resolved with old | this
    · exact h.settled ticket old there
    · exact other this
  · intro ticket below
    rw [h.settling_pending found, settling_resolved]
    by_cases this : ticket = v.ticket
    · exact .inr (.inr this)
    · exact (h.complete ticket below).imp (fun there => ⟨there, this⟩) .inl
  · have before := h.balanced
    have fewer : (l.settling v outcome moment).desk.pending.size + 1 = l.desk.pending.size :=
      Table.size_erase_of_some found
    cases ends with
    | passed | failed | timedOut | cancelled =>
        simp only [Ledger.settling, VoteDesk.settle, Metrics.voteResolved] at fewer ⊢
        omega

end Settling

theorem move {l' : Ledger} (step : Move l l') : l'.Sound := by
  cases step with
  | opens admits => exact h.opening admits
  | counts b hears => exact h.counting hears b
  | settles moment found ends => exact h.settling found moment ends
  | waits now => exact h.waits now

theorem moves {l' : Ledger} (steps : Moves l l') : l'.Sound := by
  induction steps with
  | refl => exact h
  | tail _ step sound => exact sound.move step

theorem enter (a : DeskAct) : (l.enter a).Sound := h.moves (enter_moves h.keyed a)

theorem after (acts : List DeskAct) : (l.after acts).Sound :=
  after_induction (fun _ a h => h.enter a) h acts

end Sound

theorem sound_ofActs (acts : List DeskAct) : (ofActs acts).Sound := sound_empty.after acts

theorem Move.resolved_grows {l l' : Ledger} (step : Move l l') : l.resolved <+: l'.resolved := by
  cases step with
  | opens | counts | waits => exact List.prefix_refl _
  | settles => exact List.prefix_append _ _

theorem Moves.resolved_grows {l l' : Ledger} (steps : Moves l l') :
    l.resolved <+: l'.resolved := by
  induction steps with
  | refl => exact List.prefix_refl _
  | tail _ step before => exact before.trans step.resolved_grows

theorem resolved_grows_after {l : Ledger} (h : l.Sound) (acts : List DeskAct) :
    l.resolved <+: (l.after acts).resolved := by
  induction acts generalizing l with
  | nil => exact List.prefix_refl _
  | cons a acts ih => exact (enter_moves h.keyed a).resolved_grows.trans (ih (h.enter a))

/-- A refused request leaves the desk and the ledger as they are. -/
theorem enter_refused {l : Ledger} {r : VoteRequest} {e : PlayerError}
    (refused : (l.desk.start l.now r).result = .error e) : l.enter (.start r) = l := by
  rcases VoteDesk.start_cases l.desk l.now r with ⟨e', same⟩ | ⟨_, same⟩
  · simp only [enter, same, Except.isOk, Except.toBool, Bool.false_eq_true, if_false,
      note_nothing]
  · rw [same] at refused
    cases refused

/-- Whatever is asked of a desk in whatever order, each accepted request is resolved at most once,
and it is resolved exactly when its vote is not pending any more; the resolution carries an outcome
and the tally of the ballots accepted for it, and no later act takes it back. A refused request
changes nothing, an accepted one replaces no vote, and the counters balance. -/
theorem resolved_once (acts more : List DeskAct) :
    let l := ofActs acts
    (l.resolved.map fun e => e.2.ticket).Nodup ∧
    (∀ ticket < l.requests.length, l.Resolved ticket ↔ ¬ l.Pending ticket) ∧
    (∀ e ∈ l.resolved, ∃ opened r, l.requests[e.2.ticket]? = some (opened, r) ∧
      l.Accounts e.1 e.2 opened r) ∧
    l.resolved <+: (ofActs (acts ++ more)).resolved ∧
    (∀ r e, (l.desk.start l.now r).result = .error e → l.enter (.start r) = l) ∧
    (∀ r k v, l.desk.pending.get? k = some v →
      (l.desk.start l.now r).desk.pending.get? k = some v) ∧
    l.desk.metrics.votesStarted =
      l.desk.metrics.votesPassed + l.desk.metrics.votesFailed + l.desk.metrics.votesCancelled +
        l.desk.pending.size := by
  intro l
  have sound : l.Sound := sound_ofActs acts
  refine ⟨sound.once, ?_, sound.accounted, ?_, ?_, ?_, sound.balanced⟩
  · intro ticket below
    constructor
    · intro resolved
      exact sound.settled ticket resolved
    · intro gone
      exact (sound.complete ticket below).resolve_left gone
  · rw [ofActs_append]
    exact resolved_grows_after sound more
  · intro r e refused
    exact enter_refused refused
  · intro r k v found
    exact VoteDesk.start_keeps found l.now r

/-- A vote passes by its second yes, and the next of its kind times out. -/
example :
    let r : VoteRequest :=
      { guild := ⟨1⟩, kind := .skip, initiator := ⟨1⟩, eligible := .ofList [⟨1⟩, ⟨2⟩, ⟨3⟩]
        ratio := 50, timeout := 30000, selfVote := true }
    let l := ofActs [.start r, .cast ⟨⟨1⟩, .skip⟩ ⟨2⟩ .yes, .start r, .lag 40000, .timers]
    l.resolved.map (fun e => (e.1, e.2.ticket, e.2.progress.outcome)) =
      [(0, 0, .passed), (40000, 1, .timedOut)] := by
  decide

end Ledger

end Jukebox
