import Mathlib.Logic.Relation
import Jukebox.Proofs.Vote.Count
import Jukebox.Proofs.VoteDesk.Pending

/-!
Runs of the desk with a ledger: which requests were accepted and when, which ballots were accepted
for which of them, and every resolution with its moment. The ledger is kept from the outside: it
notes replies and reports, and never looks into the count of a vote.

However long an operation of the desk, its effect is a sequence of four kinds of moves: a vote is
opened, a ballot is added, a pending vote is settled, or time passes.
-/

namespace Jukebox

/-- What can be asked of the desk, and what time does to it. -/
inductive DeskAct
  | start (r : VoteRequest)
  | cast (key : VoteKey) (voter : MemberId) (b : Ballot)
  | cancel (key : VoteKey)
  | cancelAll (guild : GuildId)
  /-- Time passes, and every vote that is due times out at its own moment. -/
  | advance (duration : Nat)
  /-- Time passes before any vote that is due gets to time out. -/
  | lag (duration : Nat)
  | timer (ticket : Nat)
  | timers

/-- A ballot that was accepted, with the ticket of its vote. -/
structure AcceptedBallot where
  ticket : Nat
  voter : MemberId
  ballot : Ballot
deriving DecidableEq, Repr

/-- A desk with what was seen of it. The ticket of an accepted request is its place. -/
structure Ledger where
  desk : VoteDesk := {}
  now : Nat := 0
  requests : List (Nat × VoteRequest) := []
  ballots : List AcceptedBallot := []
  resolved : List (Nat × Resolution) := []

/-- What ends a vote at a moment, and how. -/
inductive Vote.Ends (v : Vote) (moment : Nat) : VoteOutcome → Prop
  | passed : v.evaluate = .passed → Ends v moment .passed
  | failed : v.evaluate = .failed → Ends v moment .failed
  | timedOut : v.deadline ≤ moment → Ends v moment .timedOut
  | cancelled : Ends v moment .cancelled

theorem Vote.ends_evaluate {v : Vote} (h : v.evaluate ≠ .pending) (moment : Nat) :
    v.Ends moment v.evaluate := by
  rcases v.evaluate_cases with pending | passed | failed
  · exact absurd pending h
  · rw [passed]
    exact .passed passed
  · rw [failed]
    exact .failed failed

def VoteDesk.expireOne (d : VoteDesk) (now ticket : Nat) : VoteDesk × List Resolution :=
  d.timeOut ((d.overdue now).filter fun v => v.ticket = ticket)

namespace Ledger

def note (l : Ledger) (desk : VoteDesk) (resolved : List Resolution) : Ledger :=
  { l with desk, resolved := l.resolved ++ resolved.map fun ρ => (l.now, ρ) }

/-- The ballot that the initiator casts by opening a vote. -/
def ownBallot (ticket : Nat) (r : VoteRequest) : List AcceptedBallot :=
  if r.selfVote then [⟨ticket, r.initiator, .yes⟩] else []

/-- The ballot that is noted when a cast is accepted, given the vote under its key. -/
def castBallot (v : Option Vote) (voter : MemberId) (b : Ballot) : List AcceptedBallot :=
  (v.map fun v => ⟨v.ticket, voter, b⟩).toList

def enter (l : Ledger) (a : DeskAct) : Ledger :=
  match a with
  | .start r =>
    let o := l.desk.start l.now r
    let noted := l.note o.desk o.resolved
    if o.result.isOk then
      { noted with
        requests := l.requests ++ [(l.now, r)]
        ballots := l.ballots ++ ownBallot l.requests.length r }
    else noted
  | .cast key voter b =>
    let o := l.desk.cast l.now key voter b
    let noted := l.note o.desk o.resolved
    if o.result.isOk then
      { noted with ballots := l.ballots ++ castBallot (l.desk.pending.get? key) voter b }
    else noted
  | .cancel key =>
    let o := l.desk.cancel key
    l.note o.desk o.resolved
  | .cancelAll guild =>
    let o := l.desk.cancelAll guild
    l.note o.desk o.resolved
  | .advance duration =>
    let (desk, resolved) := l.desk.advance l.now (l.now + duration)
    { l with desk, now := l.now + duration, resolved := l.resolved ++ resolved }
  | .lag duration => { l with now := l.now + duration }
  | .timer ticket =>
    let (desk, resolved) := l.desk.expireOne l.now ticket
    l.note desk resolved
  | .timers =>
    let (desk, resolved) := l.desk.expire l.now
    l.note desk resolved

def after (l : Ledger) : List DeskAct → Ledger
  | [] => l
  | a :: acts => (l.enter a).after acts

def ofActs (acts : List DeskAct) : Ledger := ({} : Ledger).after acts

theorem after_append (l : Ledger) (first last : List DeskAct) :
    l.after (first ++ last) = (l.after first).after last := by
  induction first generalizing l with
  | nil => rfl
  | cons a first ih => exact ih (l.enter a)

theorem ofActs_append (first last : List DeskAct) :
    ofActs (first ++ last) = (ofActs first).after last := after_append _ first last

/-- What every act keeps, a run keeps. -/
theorem after_induction {P : Ledger → Prop} (keeps : ∀ l a, P l → P (l.enter a)) {l : Ledger}
    (h : P l) (acts : List DeskAct) : P (l.after acts) := by
  induction acts generalizing l with
  | nil => exact h
  | cons a acts ih => exact ih (keeps l a h)

/-- A vote opens, with its initiator's own ballot if there is one. -/
def opening (l : Ledger) (r : VoteRequest) : Ledger :=
  { l with
    desk := l.desk.countOpened.put (Vote.ofRequest r l.desk.opened l.now)
    requests := l.requests ++ [(l.now, r)]
    ballots := l.ballots ++ ownBallot l.requests.length r }

def counting (l : Ledger) (v : Vote) (voter : MemberId) (b : Ballot) : Ledger :=
  { l with
    desk := l.desk.put (v.withBallot voter b)
    ballots := l.ballots ++ [⟨v.ticket, voter, b⟩] }

def settling (l : Ledger) (v : Vote) (outcome : VoteOutcome) (moment : Nat) : Ledger :=
  { l with
    desk := (l.desk.settle v outcome).1
    resolved := l.resolved ++ [(moment, v.resolve outcome)] }

inductive Move : Ledger → Ledger → Prop
  | opens {l : Ledger} {r : VoteRequest} : l.desk.Admits r → Move l (l.opening r)
  | counts {l : Ledger} {key : VoteKey} {voter : MemberId} {v : Vote} (b : Ballot) :
      l.desk.Hears l.now key voter v → Move l (l.counting v voter b)
  | settles {l : Ledger} {v : Vote} {outcome : VoteOutcome} (moment : Nat) :
      l.desk.pending.get? v.key = some v → v.Ends moment outcome →
      Move l (l.settling v outcome moment)
  | waits {l : Ledger} (now : Nat) : Move l { l with now }

abbrev Moves : Ledger → Ledger → Prop := Relation.ReflTransGen Move

theorem note_nothing (l : Ledger) : l.note l.desk [] = l := by
  simp only [note, List.map_nil, List.append_nil]

theorem enter_opening {l : Ledger} {r : VoteRequest} (admits : l.desk.Admits r)
    (undecided : (Vote.ofRequest r l.desk.opened l.now).evaluate = .pending) :
    l.enter (.start r) = l.opening r := by
  have judged := admits.start l.now
  rw [VoteDesk.judge_pending undecided] at judged
  simp [enter, judged, note, opening, Except.isOk, Except.toBool]

/-- A vote that its initiator decides alone is settled as it opens. -/
theorem enter_opening_settling {l : Ledger} {r : VoteRequest} (admits : l.desk.Admits r)
    (decided : (Vote.ofRequest r l.desk.opened l.now).evaluate ≠ .pending) :
    l.enter (.start r) =
      (l.opening r).settling (Vote.ofRequest r l.desk.opened l.now)
        (Vote.ofRequest r l.desk.opened l.now).evaluate l.now := by
  have judged := admits.start l.now
  rw [VoteDesk.judge_decided decided] at judged
  simp [enter, judged, note, opening, settling, VoteDesk.settle_put, Except.isOk, Except.toBool]

theorem start_moves (l : Ledger) (r : VoteRequest) : Moves l (l.enter (.start r)) := by
  rcases VoteDesk.start_cases l.desk l.now r with ⟨e, refused⟩ | ⟨admits, _⟩
  · simp only [enter, refused, Except.isOk, Except.toBool, Bool.false_eq_true, if_false,
      note_nothing]
    exact .refl
  · have opened : Moves l (l.opening r) := .single (.opens admits)
    by_cases undecided : (Vote.ofRequest r l.desk.opened l.now).evaluate = .pending
    · rw [enter_opening admits undecided]
      exact opened
    · rw [enter_opening_settling admits undecided]
      exact opened.tail
        (.settles l.now (Table.get?_insert_self _ _ _) (Vote.ends_evaluate undecided l.now))

/-- A ballot that counts and decides nothing stays on the desk. -/
theorem enter_counting {l : Ledger} {key : VoteKey} {voter : MemberId} {v : Vote} {b : Ballot}
    (hears : l.desk.Hears l.now key voter v) (undecided : (v.withBallot voter b).evaluate = .pending) :
    l.enter (.cast key voter b) = l.counting v voter b := by
  have judged := hears.cast b
  rw [VoteDesk.judge_pending undecided] at judged
  simp [enter, judged, note, counting, castBallot, hears.found, Except.isOk, Except.toBool]

/-- A ballot that decides a vote settles it at once. -/
theorem enter_settling {l : Ledger} {key : VoteKey} {voter : MemberId} {v : Vote} {b : Ballot}
    (hears : l.desk.Hears l.now key voter v) (decided : (v.withBallot voter b).evaluate ≠ .pending) :
    l.enter (.cast key voter b) =
      (l.counting v voter b).settling (v.withBallot voter b) (v.withBallot voter b).evaluate
        l.now := by
  have judged := hears.cast b
  rw [VoteDesk.judge_decided decided] at judged
  simp [enter, judged, note, counting, settling, VoteDesk.settle_put, castBallot, hears.found, Except.isOk,
    Except.toBool]

theorem cast_moves {l : Ledger} (h : l.desk.Keyed) (key : VoteKey) (voter : MemberId) (b : Ballot) :
    Moves l (l.enter (.cast key voter b)) := by
  rcases VoteDesk.cast_cases l.desk l.now key voter b with
    ⟨e, refused⟩ | ⟨v, found, due, late⟩ | ⟨v, hears, _⟩
  · simp only [enter, refused, Except.isOk, Except.toBool, Bool.false_eq_true, if_false,
      note_nothing]
    exact .refl
  · have same : l.enter (.cast key voter b) = l.settling v .timedOut l.now := by
      simp [enter, late, note, settling, Except.isOk, Except.toBool]
    rw [same]
    exact .single (.settles l.now (by rw [h key v found, found]) (.timedOut due))
  · have counted : Moves l (l.counting v voter b) := .single (.counts b hears)
    by_cases undecided : (v.withBallot voter b).evaluate = .pending
    · rw [enter_counting hears undecided]
      exact counted
    · rw [enter_settling hears undecided]
      exact counted.tail
        (.settles l.now (Table.get?_insert_self _ _ _) (Vote.ends_evaluate undecided l.now))

theorem cancel_moves {l : Ledger} (h : l.desk.Keyed) (key : VoteKey) :
    Moves l (l.note (l.desk.cancel key).desk (l.desk.cancel key).resolved) := by
  unfold VoteDesk.cancel
  split
  · rw [note_nothing]
  · next v found =>
      exact .single (.settles l.now (by rw [h key v found, found]) .cancelled)

theorem cancelKinds_moves {l : Ledger} (h : l.desk.Keyed) (g : GuildId) (kinds : List VoteKind) :
    Moves l (l.note (l.desk.cancelKinds g kinds).desk (l.desk.cancelKinds g kinds).resolved) := by
  induction kinds generalizing l with
  | nil =>
      rw [VoteDesk.cancelKinds, note_nothing]
  | cons kind kinds ih =>
      have first := cancel_moves h ⟨g, kind⟩
      let cancelled := l.desk.cancel ⟨g, kind⟩
      have rest := ih (l := l.note cancelled.desk cancelled.resolved)
        (VoteDesk.cancel_keyed h ⟨g, kind⟩)
      apply first.trans
      simpa [note, VoteDesk.cancelKinds, cancelled, List.append_assoc] using rest

/-- Votes with keys of their own leave the desk one after the other. -/
theorem timeOut_moves (l : Ledger) (moment : Nat) (votes : List Vote)
    (found : ∀ v ∈ votes, l.desk.pending.get? v.key = some v)
    (due : ∀ v ∈ votes, v.deadline ≤ moment)
    (apart : votes.Pairwise fun u v => v.key ≠ u.key) :
    Moves l
      { l with
        desk := (l.desk.timeOut votes).1
        resolved := l.resolved ++ (l.desk.timeOut votes).2.map fun ρ => (moment, ρ) } := by
  -- The first vote leaves; the keys of the others differ, so they are still found.
  induction votes generalizing l with
  | nil =>
      simp only [VoteDesk.timeOut, List.map_nil, List.append_nil]
      exact .refl
  | cons v votes ih =>
      obtain ⟨others, apart⟩ := List.pairwise_cons.mp apart
      have first : Moves l (l.settling v .timedOut moment) :=
        .single (.settles moment (found v List.mem_cons_self) (.timedOut (due v List.mem_cons_self)))
      have rest := ih (l.settling v .timedOut moment) (fun u member => by
        have there := found u (List.mem_cons_of_mem v member)
        exact Table.get?_erase_eq_some.mpr ⟨others u member, there⟩)
        (fun u member => due u (List.mem_cons_of_mem v member)) apart
      apply first.trans
      simpa [settling, VoteDesk.timeOut, VoteDesk.settle_resolution, List.append_assoc] using rest

theorem overdue_moves {l : Ledger} (h : l.desk.Keyed) (moment : Nat) {votes : List Vote}
    (due : votes.Sublist (l.desk.overdue moment)) :
    Moves l
      { l with
        desk := (l.desk.timeOut votes).1
        resolved := l.resolved ++ (l.desk.timeOut votes).2.map fun ρ => (moment, ρ) } := by
  apply timeOut_moves
  · intro v member
    obtain ⟨⟨k, found⟩, _⟩ := VoteDesk.mem_overdue.mp (due.subset member)
    rw [h k v found, found]
  · intro v member
    exact (VoteDesk.mem_overdue.mp (due.subset member)).2
  · have keys : (l.desk.pending.values.map fun v => v.key).Nodup := by
      rw [VoteDesk.values_key h]
      exact Table.keys_nodup _
    apply (((List.pairwise_map.mp keys).filter _).sublist due).imp
    exact fun different same => different same.symm

theorem expire_moves {l : Ledger} (h : l.desk.Keyed) (moment : Nat) :
    Moves l
      { l with
        desk := (l.desk.expire moment).1
        resolved := l.resolved ++ (l.desk.expire moment).2.map fun ρ => (moment, ρ) } :=
  overdue_moves h moment (List.Sublist.refl _)

theorem expireAt_moves {l : Ledger} (h : l.desk.Keyed) (moments : List Nat) :
    Moves l
      { l with
        desk := (l.desk.expireAt moments).1
        resolved := l.resolved ++ (l.desk.expireAt moments).2 } := by
  induction moments generalizing l with
  | nil =>
      simp only [VoteDesk.expireAt, List.append_nil]
      exact .refl
  | cons moment moments ih =>
      have first := expire_moves h moment
      have rest := ih (l := { l with
        desk := (l.desk.expire moment).1
        resolved := l.resolved ++ (l.desk.expire moment).2.map fun ρ => (moment, ρ) })
        (h.of_subset (VoteDesk.expire_subset l.desk moment))
      apply first.trans
      simpa [VoteDesk.expireAt, List.append_assoc] using rest

/-- Every act is a sequence of moves. -/
theorem enter_moves {l : Ledger} (h : l.desk.Keyed) (a : DeskAct) : Moves l (l.enter a) := by
  cases a with
  | start r => exact start_moves l r
  | cast key voter b => exact cast_moves h key voter b
  | cancel key => exact cancel_moves h key
  | cancelAll g => exact cancelKinds_moves h g VoteKind.all
  | advance duration =>
      exact (expireAt_moves h (l.desk.dueTimes l.now (l.now + duration))).tail
        (.waits (l.now + duration))
  | lag duration => exact .single (.waits (l.now + duration))
  | timer ticket => exact overdue_moves h l.now List.filter_sublist
  | timers => exact expire_moves h l.now

/-- A vote comes and changes under its own key. -/
theorem Move.keyed {l l' : Ledger} (h : l.desk.Keyed) (move : Move l l') : l'.desk.Keyed := by
  cases move with
  | opens _ =>
      intro k v there
      rcases VoteDesk.put_pending_get?.mp there with ⟨rfl, rfl⟩ | ⟨_, old⟩
      · rfl
      · exact h k v old
  | counts b hears =>
      intro k v there
      rcases VoteDesk.put_pending_get?.mp there with ⟨rfl, rfl⟩ | ⟨_, old⟩
      · rfl
      · exact h k v old
  | settles moment found ends => exact h.of_subset (VoteDesk.settle_subset l.desk _ _)
  | waits now => exact h

theorem Moves.keyed {l l' : Ledger} (h : l.desk.Keyed) (moves : Moves l l') : l'.desk.Keyed := by
  induction moves with
  | refl => exact h
  | tail _ step ih => exact step.keyed ih

theorem enter_keyed {l : Ledger} (h : l.desk.Keyed) (a : DeskAct) : (l.enter a).desk.Keyed :=
  Moves.keyed h (enter_moves h a)

end Ledger

end Jukebox
