import Jukebox.Proofs.Station.Grounded

/-!
The terms of a vote: who may take part, how many must say yes, until when, and about what. They are
set when the vote is opened, from the listeners and the settings of that moment, and stay as they are
for as long as the vote is pending, whoever joins or leaves.
-/

namespace Jukebox

/-- The same vote, perhaps with other ballots. -/
structure Vote.SameTerms (v v' : Vote) : Prop where
  ticket : v'.ticket = v.ticket
  initiator : v'.initiator = v.initiator
  eligible : v'.eligible = v.eligible
  required : v'.required = v.required
  deadline : v'.deadline = v.deadline
  target : v'.target = v.target

namespace Vote.SameTerms

theorem refl (v : Vote) : v.SameTerms v := ⟨rfl, rfl, rfl, rfl, rfl, rfl⟩

theorem trans {u v w : Vote} (first : u.SameTerms v) (later : v.SameTerms w) : u.SameTerms w where
  ticket := later.ticket.trans first.ticket
  initiator := later.initiator.trans first.initiator
  eligible := later.eligible.trans first.eligible
  required := later.required.trans first.required
  deadline := later.deadline.trans first.deadline
  target := later.target.trans first.target

theorem withBallot (v : Vote) (m : MemberId) (b : Ballot) : v.SameTerms (v.withBallot m b) := by
  cases b with
  | yes | no => exact ⟨rfl, rfl, rfl, rfl, rfl, rfl⟩

end Vote.SameTerms

namespace Station

/-- Every pending vote was pending before, on the same terms. -/
def KeepsTerms (s s' : Station) : Prop :=
  ∀ k v', s'.desk.pending.get? k = some v' → ∃ v, s.desk.pending.get? k = some v ∧ v.SameTerms v'

namespace KeepsTerms

theorem of_subset {s s' : Station}
    (within : ∀ k v, s'.desk.pending.get? k = some v → s.desk.pending.get? k = some v) :
    KeepsTerms s s' :=
  fun k v' there => ⟨v', within k v' there, .refl v'⟩

theorem refl (s : Station) : KeepsTerms s s := .of_subset fun _ _ there => there

theorem trans {s t u : Station} (first : KeepsTerms s t) (later : KeepsTerms t u) :
    KeepsTerms s u := by
  intro k w there
  obtain ⟨v, between, same⟩ := later k w there
  obtain ⟨v', before, same'⟩ := first k v between
  exact ⟨v', before, same'.trans same⟩

end KeepsTerms

theorem apply_terms {α : Type} {s : Station} (keyed : s.desk.Keyed) (slot : Slot)
    (operation : Backend → Nat → Session → Outcome (Except PlayerError α)) :
    KeepsTerms s (s.apply slot operation).2 :=
  .of_subset fun k v there => ((apply_pending s slot operation keyed k v).mp there).1

theorem Move.terms {s s' : Station} (grounded : s.registry.Grounded) (move : Move s s') :
    KeepsTerms s s' := by
  have keyed : s.desk.Keyed := grounded.keyed
  cases move with
  | works => exact apply_terms keyed _ _
  | makes absent =>
      simp only [Registry.getOrCreate, absent]
      exact .refl s
  | givesUp =>
      exact .of_subset fun k v there => ((VoteDesk.cancelAll_pending keyed _ k v).mp there).1
  | casts key voter b =>
      intro k v' there
      rcases VoteDesk.cast_pending_get? keyed there with old | ⟨rfl, v, hears, rfl, _⟩
      · exact ⟨v', old, .refl v'⟩
      · exact ⟨v, hears.found, .withBallot v voter b⟩
  | cancels key => exact .of_subset (VoteDesk.cancel_subset keyed key)
  | timesOut votes => exact .of_subset fun k v there => ((VoteDesk.timeOut_pending _ _ k v).mp there).1
  | takes => exact .refl s
  | aside same => exact .of_subset fun k v there => by rwa [desk, same.desk] at there

theorem Moves.terms {s s' : Station} (grounded : s.registry.Grounded) (moves : Moves s s') :
    KeepsTerms s s' := by
  induction moves with
  | refl => exact .refl s
  | tail before move ih => exact ih.trans (move.terms (Moves.grounded grounded before))

theorem prepared_terms {s : Station} (grounded : s.registry.Grounded) (g : GuildId)
    (settings : SettingsCache) : KeepsTerms s (s.prepared g settings) := by
  have created := Moves.terms grounded (s.getOrCreate_moves g)
  exact created

/-- The vote is opened here: under a key that is free, with the next ticket, among those who listen,
and with the share that is in effect. -/
structure OpenedIn (s : Station) (k : VoteKey) (v : Vote) : Prop where
  free : s.desk.pending.get? k = none
  ticket : v.ticket = s.desk.opened
  eligible : v.eligible = s.presence.listeners k.guild
  required : ∃ effective, (s.settings.effective k.guild).1 = .ok effective ∧
    v.required = requiredVotes v.eligible.size effective.skipRatio

section Acts

variable {s : Station} {k : VoteKey} {v : Vote}

theorem startVote_terms (g : GuildId) (kind : VoteKind) (m : MemberId)
    (there : (s.startVote g kind m).2.desk.pending.get? k = some v) :
    s.desk.pending.get? k = some v ∨ s.OpenedIn k v := by
  unfold startVote at there
  split at there
  · exact .inl there
  · next effective settings read =>
      dsimp only at there
      split at there
      · exact .inl there
      · rcases VoteDesk.start_pending_get? there with old | ⟨admits, rfl, rfl, _⟩
        · exact .inl old
        · exact .inr ⟨admits.free, rfl, rfl, effective, congrArg Prod.fst read, rfl⟩

/-- After an act a pending vote is an old one on its old terms, or it was opened by the act. -/
theorem next_terms (grounded : s.registry.Grounded) (a : StationAct)
    (there : (s.next a).desk.pending.get? k = some v) :
    (∃ u, s.desk.pending.get? k = some u ∧ u.SameTerms v) ∨ s.OpenedIn k v := by
  rcases s.next_cases a with ⟨g, kind, m, rfl⟩ | ⟨g, m, track, metadata, rfl⟩ | moves
  · rcases startVote_terms g kind m there with old | opened
    · exact .inl ⟨v, old, .refl v⟩
    · exact .inr opened
  · refine .inl ?_
    rw [next, handle] at there
    rcases s.enqueue_cases g m track metadata with ⟨e, settings, same⟩ | ⟨settings, _, e, _, same⟩
    · rw [same] at there
      exact ⟨v, there, .refl v⟩
    · have made := prepared_terms grounded g settings
      have keyed := (prepared_grounded grounded g settings).1.keyed
      rw [same] at there
      exact (made.trans (apply_terms keyed _ _)) k v there
  · exact .inl (Moves.terms grounded moves k v there)

end Acts

end Station

end Jukebox
