import Jukebox.Proofs.Station.Steady
import Jukebox.Proofs.Station.Terms

/-!
Settings and time in a running station. The settings that are cached and stored stay within bounds,
so every vote is given time; and as long as everything that is due happens at its own moment, no
pending vote ever meets its deadline.
-/

namespace Jukebox

/-- What comes from outside keeps the stored settings within bounds. -/
def StationAct.KeepsBounds : StationAct → Prop
  | .store repository => repository.shelf.InBounds
  | _ => True

/-- Time passes and what is due has to wait. -/
def StationAct.isLag : StationAct → Bool
  | .lag _ => true
  | _ => false

namespace Station

theorem next_settings {s : Station} (h : s.settings.Bounded) {a : StationAct}
    (outside : a.KeepsBounds) : (s.next a).settings.Bounded := by
  by_cases stores : ∃ repository, a = .store repository
  · obtain ⟨repository, rfl⟩ := stores
    exact ⟨h.defaults, outside, h.cached⟩
  · rw [s.next_serve fun repository same => stores ⟨repository, same⟩]
    exact h.serve a.asks_own

/-- Every pending vote still has time. -/
def OnTime (s : Station) : Prop := ∀ k v, s.desk.pending.get? k = some v → s.now < v.deadline

/-- No vote comes, and none gets more time. -/
def KeepsDeadlines (s s' : Station) : Prop :=
  ∀ k v', s'.desk.pending.get? k = some v' →
    ∃ v, s.desk.pending.get? k = some v ∧ v.deadline = v'.deadline

theorem KeepsDeadlines.onTime {s s' : Station} (h : KeepsDeadlines s s') (now : s'.now = s.now)
    (early : s.OnTime) : s'.OnTime := by
  intro k v' there
  obtain ⟨v, before, same⟩ := h k v' there
  rw [now, ← same]
  exact early k v before

/-- A vote on its old terms has its old deadline. -/
theorem KeepsTerms.deadlines {s s' : Station} (h : KeepsTerms s s') : KeepsDeadlines s s' := by
  intro k v' there
  obtain ⟨v, before, same⟩ := h k v' there
  exact ⟨v, before, same.deadline.symm⟩

/-- After a moment has passed, whatever was due by then is gone. -/
theorem passMoment_onTime {s : Station} (grounded : s.registry.Grounded) (moment : Nat) :
    ∀ k v, (s.passMoment moment).desk.pending.get? k = some v → moment < v.deadline := by
  have steady := Steady.sweepIfDue { s with now := moment }
  have swept : ({ s with now := moment } : Station).sweepIfDue.registry.Grounded :=
    Moves.grounded (s := { s with now := moment }) grounded (sweepIfDue_moves _)
  have keyed : ({ s with now := moment } : Station).sweepIfDue.desk.Keyed := swept.keyed
  intro k v there
  have early := ((VoteDesk.expire_pending keyed _ k v).mp there).2
  rwa [steady.now] at early

theorem foldl_passMoment_onTime {s : Station} (grounded : s.registry.Grounded) {moments : List Nat}
    {moment : Nat} (member : moment ∈ moments) :
    ∀ k v, (moments.foldl passMoment s).desk.pending.get? k = some v → moment < v.deadline := by
  obtain ⟨before, later, rfl⟩ := List.append_of_mem member
  rw [List.foldl_append, List.foldl_cons]
  have first := (s.foldl_passMoment_moves before).grounded grounded
  have passed := (passMoment_moves _ moment).grounded first
  intro k v there
  -- A vote that is left in the end was there when the moment had passed, with the same deadline.
  obtain ⟨u, between, same⟩ := ((foldl_passMoment_moves _ later).terms passed).deadlines k v there
  rw [← same]
  exact passMoment_onTime first moment k u between

/-- A vote whose deadline the clock reaches on its way has timed out by the end. -/
theorem advance_onTime {s : Station} (grounded : s.registry.Grounded) (duration : Nat) :
    (s.advance duration).OnTime := by
  intro k v there
  apply Nat.lt_of_not_le
  intro due
  obtain ⟨u, before, same⟩ := ((s.foldl_passMoment_moves _).terms grounded).deadlines k v there
  rw [← same] at due
  have overdue : u ∈ s.desk.overdue (s.now + duration) :=
    VoteDesk.mem_overdue.mpr ⟨⟨k, before⟩, due⟩
  have planned : max s.now u.deadline ∈
      (s.desk.dueTimes s.now (s.now + duration) ++ s.sweepTimes (s.now + duration)).mergeSort
        (· ≤ ·) := by
    apply List.mem_mergeSort.mpr
    apply List.mem_append_left
    exact List.mem_mergeSort.mpr (List.mem_map_of_mem overdue)
  have early := foldl_passMoment_onTime grounded planned k v there
  rw [← same] at early
  exact absurd (Nat.le_max_right s.now u.deadline) (Nat.not_le.mpr early)

/-- A vote is opened with time to spare. -/
theorem startVote_onTime {s : Station} (bounded : s.settings.Bounded) (early : s.OnTime)
    (g : GuildId) (kind : VoteKind) (m : MemberId) : (s.startVote g kind m).2.OnTime := by
  unfold startVote
  split
  · exact early
  · next effective settings read =>
      dsimp only
      split
      · exact early
      · intro k v there
        rcases VoteDesk.start_pending_get? there with old | ⟨_, _, rfl, _⟩
        · exact early k v old
        · have usable := bounded.of_effective (g := g) (congrArg Prod.fst read)
          have positive := usable.voting
          simp only [Vote.ofRequest]
          change s.now < s.now + effective.voteTimeoutSecs * 1000
          omega

theorem next_now (s : Station) {a : StationAct} (prompt : a.isLag = false)
    (still : ∀ duration, a ≠ .advance duration) : (s.next a).now = s.now := by
  cases a with
  | ask q => exact (s.handle_fixed q).1
  | apply place => exact (Steady.applyAt s place).now
  | settle => exact (Steady.settle s).now
  | sweep guilds => exact (Steady.sweepGuilds s guilds).now
  | startSweeper period => exact (Steady.startSweeper s period).now
  | advance duration => exact absurd rfl (still duration)
  | lag => cases prompt
  | store | stopSweeper | expireVotes | refuse | arrange => rfl

/-- Unless something that is due has to wait, no pending vote meets its deadline. -/
theorem next_onTime {s : Station} (grounded : s.registry.Grounded) (bounded : s.settings.Bounded)
    (early : s.OnTime) {a : StationAct} (prompt : a.isLag = false) : (s.next a).OnTime := by
  by_cases passing : ∃ duration, a = .advance duration
  · obtain ⟨duration, rfl⟩ := passing
    exact advance_onTime grounded duration
  · have now := s.next_now prompt fun duration same => passing ⟨duration, same⟩
    rcases s.next_cases a with ⟨g, kind, m, rfl⟩ | ⟨g, m, track, metadata, rfl⟩ | moves
    · exact startVote_onTime bounded early g kind m
    · rw [next, handle] at now ⊢
      rcases s.enqueue_cases g m track metadata with
        ⟨e, settings, same⟩ | ⟨settings, capacity, e, _, same⟩
      · rw [same]
        exact early
      · obtain ⟨grounded', _⟩ := prepared_grounded grounded g settings
        have made := prepared_terms grounded g settings
        rw [same] at now ⊢
        exact (made.trans (apply_terms grounded'.keyed _ _)).deadlines.onTime now early
    · exact (Moves.terms grounded moves).deadlines.onTime now early

end Station

end Jukebox
