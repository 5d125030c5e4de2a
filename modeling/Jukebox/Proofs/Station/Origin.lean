import Jukebox.Proofs.Station.Action
import Jukebox.Proofs.Station.Succession

/-!
Where the actions in flight come from, and what becomes of those that come too late. The action of a
passed vote carries the ticket and the target that the vote was opened with; when it runs on a session
that has moved on, it leaves everything as it is.
-/

namespace Jukebox

theorem Session.Supports.not_moot {s : Session} {kind : VoteKind} {target : Option EntryId}
    (h : s.Supports kind target) : ¬ kind.Moot s s := by
  intro moot
  cases kind with
  | skip => exact moot.2 rfl
  | stop =>
      have idle := moot.2
      rw [h.busy] at idle
      cases idle
  | clearQueue =>
      have empty : s.queue.isEmpty = true := moot
      rw [h.waiting rfl] at empty
      cases empty

theorem Backend.record_nil (b : Backend) : b.record [] = b := by
  simp [record]

namespace VoteDesk

theorem cancelIf_of_free {d : VoteDesk} {condition : Prop} [Decidable condition] {key : VoteKey}
    (free : condition → d.pending.get? key = none) : d.cancelIf condition key = d := by
  unfold cancelIf
  split
  · next holds => rw [cancel, free holds]
  · rfl

theorem cancelMoot_of_free {d : VoteDesk} {before after : Session}
    (free : ∀ kind : VoteKind, kind.Moot before after →
      d.pending.get? ⟨after.guild, kind⟩ = none) : d.cancelMoot before after = d := by
  rw [cancelMoot_eq, cancelIf_of_free (free .skip), cancelIf_of_free (free .clearQueue),
    cancelIf_of_free (free .stop)]

end VoteDesk

namespace Station

/-- The entry that is loaded in a guild. -/
def playing? (s : Station) (g : GuildId) : Option EntryId := (s.session? g).bind Session.currentId

theorem playing?_eq_some {s : Station} {g : GuildId} {id : EntryId} :
    s.playing? g = some id ↔
      ∃ slot, s.registry.live.get? g = some slot ∧ slot.session.currentId = some id := by
  simp only [playing?, session?, Registry.session?, Option.bind_eq_some_iff,
    Option.map_eq_some_iff]
  constructor
  · rintro ⟨session, ⟨slot, found, rfl⟩, loaded⟩
    exact ⟨slot, found, loaded⟩
  · rintro ⟨slot, found, loaded⟩
    exact ⟨slot.session, ⟨slot, found, rfl⟩, loaded⟩

section Late

variable {s : Station} (grounded : s.registry.Grounded)
include grounded

/-- A session that stays as it is makes no vote moot. -/
theorem cancelMoot_same {g : GuildId} {slot : Slot} (found : s.registry.live.get? g = some slot)
    (metrics : Metrics) :
    ({ s.desk with metrics } : VoteDesk).cancelMoot slot.session slot.session =
      { s.desk with metrics } := by
  apply VoteDesk.cancelMoot_of_free
  intro kind moot
  apply Option.eq_none_iff_forall_ne_some.mpr
  intro v pending
  obtain ⟨slot', there, supports⟩ := grounded.supported ⟨slot.session.guild, kind⟩ v pending
  rw [(grounded.fits g slot found).guild, found] at there
  cases there
  exact supports.not_moot moot

/-- An operation that is refused leaves the whole station as it is. -/
theorem apply_idle {α : Type} {g : GuildId} {slot : Slot}
    (found : s.registry.live.get? g = some slot)
    {operation : Backend → Nat → Session → Outcome (Except PlayerError α)}
    (same : (s.outcomeIn slot operation).session = slot.session)
    (silent : (s.outcomeIn slot operation).signals = {}) :
    (s.apply slot operation).2 = s := by
  have here : slot.ref.guild = g := (grounded.fits g slot found).ref
  have desk : s.deskAfter slot (s.outcomeIn slot operation) = s.desk := by
    rw [deskAfter, same, Metrics.queueChanged_self]
    exact cancelMoot_same grounded found s.metrics
  rw [apply_eq, desk, silent, same, here, Table.insert_of_some found, Backend.record_nil,
    List.append_nil]
  rfl

section Skip

variable {r : Resolution} (skips : r.key.kind = .skip) {id : EntryId} (about : r.target = some id)
include skips about

theorem applyVote_hit (playing : s.playing? r.key.guild = some id) :
    s.applyVote r = (s.skip r.key.guild).2 := by
  obtain ⟨slot, found, loaded⟩ := playing?_eq_some.mp playing
  have supports : slot.session.Supports r.key.kind r.target := by
    rw [skips, about]
    have present : slot.session.currentId.isSome := by
      rw [loaded]
      rfl
    have busy := (grounded.fits _ _ found).coherent.busy_of_currentId present
    exact ⟨busy, fun _ => ⟨present, loaded.symm⟩, nofun⟩
  rw [applyVote_eq_privileged found supports, privileged, skips]

theorem applyVote_missed (other : s.playing? r.key.guild ≠ some id) : s.applyVote r = s := by
  unfold applyVote
  cases found : s.registry.live.get? r.key.guild with
  | none => rw [withSession, found]
  | some slot =>
      have stale : ¬(slot.session.currentId.isSome ∧ slot.session.currentId = r.target) := by
        rintro ⟨_, same⟩
        exact other (playing?_eq_some.mpr ⟨slot, found, same.trans about⟩)
      have refused : s.outcomeIn slot (voteAction r) =
          slot.session.refuse (.stateConflict "track already changed") := by
        rw [outcomeIn, voteAction, skips]
        exact if_neg stale
      rw [withSession_of_found found]
      apply apply_idle grounded found
      · rw [refused]
        rfl
      · rw [refused]
        rfl

end Skip

end Late

/-- A vote with a ticket and a target is pending under a key, or its action is in flight. -/
def Carries (s : Station) (key : VoteKey) (ticket : Nat) (target : Option EntryId) : Prop :=
  (∃ v, s.desk.pending.get? key = some v ∧ v.ticket = ticket ∧ v.target = target) ∨
  ∃ r ∈ s.inFlight, r.key = key ∧ r.ticket = ticket ∧ r.target = target

section Carried

variable {key : VoteKey} {ticket : Nat} {target : Option EntryId}

theorem Carries.of_fewer {s s' : Station} (h : s'.Carries key ticket target)
    (pending : ∀ k v, s'.desk.pending.get? k = some v → s.desk.pending.get? k = some v)
    (inFlight : s'.inFlight ⊆ s.inFlight) : s.Carries key ticket target := by
  rcases h with ⟨v, found, same⟩ | ⟨r, member, same⟩
  · exact .inl ⟨v, pending key v found, same⟩
  · exact .inr ⟨r, inFlight member, same⟩

theorem withDesk_inFlight {s : Station} {desk : VoteDesk} {resolved : List Resolution}
    {r : Resolution} (member : r ∈ (s.withDesk desk resolved).inFlight) :
    r ∈ s.inFlight ∨ (r ∈ resolved ∧ r.progress.outcome = .passed) := by
  rcases List.mem_append.mp member with old | new
  · exact .inl old
  · obtain ⟨there, passed⟩ := List.mem_filter.mp new
    exact .inr ⟨there, by simpa [VoteOutcome.isPassed] using passed⟩

/-- Votes that leave the desk without passing leave nothing in flight. -/
theorem withDesk_carries {s : Station} {desk : VoteDesk} {resolved : List Resolution}
    (h : (s.withDesk desk resolved).Carries key ticket target)
    (pending : ∀ k v, desk.pending.get? k = some v → s.desk.pending.get? k = some v)
    (unpassed : ∀ r ∈ resolved, r.progress.outcome ≠ .passed) : s.Carries key ticket target := by
  apply h.of_fewer pending
  intro r member
  rcases withDesk_inFlight member with old | ⟨new, passed⟩
  · exact old
  · exact absurd passed (unpassed r new)

theorem apply_carries {α : Type} {s : Station} {slot : Slot}
    {operation : Backend → Nat → Session → Outcome (Except PlayerError α)}
    (keyed : s.desk.Keyed) (h : (s.apply slot operation).2.Carries key ticket target) :
    s.Carries key ticket target := by
  apply h.of_fewer
  · intro k v found
    exact ((apply_pending s slot operation keyed k v).mp found).1
  · rw [apply_eq]
    exact List.Subset.refl _

theorem cast_carries {s : Station} (keyed : s.desk.Keyed) (k : VoteKey) (voter : MemberId)
    (b : Ballot)
    (h : (s.withDesk (s.desk.cast s.now k voter b).desk
      (s.desk.cast s.now k voter b).resolved).Carries key ticket target) :
    s.Carries key ticket target := by
  rcases h with ⟨v, found, rfl, rfl⟩ | ⟨r, member, rfl, rfl, rfl⟩
  · rcases VoteDesk.cast_pending_get? keyed found with old | ⟨rfl, u, hears, rfl, _⟩
    · exact .inl ⟨v, old, rfl, rfl⟩
    · exact .inl ⟨u, hears.found, (u.withBallot_ticket voter b).symm,
        (u.withBallot_target voter b).symm⟩
  · rcases withDesk_inFlight member with old | ⟨new, passed⟩
    · exact .inr ⟨r, old, rfl, rfl, rfl⟩
    · have judged : VoteDesk.Judged k (s.Carries k) _ :=
        VoteDesk.cast_judged keyed s.now k voter b fun v found => .inl ⟨v, found, rfl, rfl⟩
      obtain ⟨rfl, carried, _⟩ := judged.of_passed new passed
      exact carried

theorem Move.carries {s s' : Station} (grounded : s.registry.Grounded) (move : Move s s')
    (h : s'.Carries key ticket target) : s.Carries key ticket target := by
  cases move with
  | works _ _ => exact apply_carries grounded.keyed h
  | makes missing =>
      simp only [Registry.getOrCreate, missing] at h
      exact h.of_fewer (fun _ _ found => found) (List.Subset.refl _)
  | givesUp _ =>
      refine h.of_fewer ?_ (List.Subset.refl _)
      intro k v found
      exact ((VoteDesk.cancelAll_pending grounded.keyed _ k v).mp found).1
  | casts k voter b => exact cast_carries grounded.keyed k voter b h
  | cancels k =>
      apply withDesk_carries h (VoteDesk.cancel_subset grounded.keyed k)
      intro r member
      rw [VoteDesk.cancel_outcome member]
      decide
  | timesOut votes =>
      apply withDesk_carries h
      · intro k v found
        exact ((VoteDesk.timeOut_pending _ _ k v).mp found).1
      · intro r member
        rw [VoteDesk.timeOut_outcome member]
        decide
  | takes fewer => exact h.of_fewer (fun _ _ found => found) fewer.subset
  | aside same =>
      apply h.of_fewer
      · intro k v found
        rw [desk, same.desk] at found
        exact found
      · rw [same.inFlight]
        exact List.Subset.refl _

theorem Moves.carries {s s' : Station} (grounded : s.registry.Grounded) (moves : Moves s s')
    (h : s'.Carries key ticket target) : s.Carries key ticket target := by
  induction moves with
  | refl => exact h
  | tail before step ih => exact ih (step.carries (Moves.grounded grounded before) h)

/-- A member's request opens a vote with this ticket, about what the session then has. -/
structure Opens (s : Station) (m : MemberId) (key : VoteKey) (ticket : Nat)
    (target : Option EntryId) : Prop where
  accepted : ∃ p, (s.startVote key.guild key.kind m).1 = .ok p
  next : s.desk.opened = ticket
  about : ∃ slot, s.registry.live.get? key.guild = some slot ∧
    voteTarget key.kind slot.session = .ok target

theorem startVote_carries {s : Station} (g : GuildId) (kind : VoteKind) (m : MemberId)
    (h : (s.startVote g kind m).2.Carries key ticket target) :
    s.Carries key ticket target ∨ (key = ⟨g, kind⟩ ∧ s.Opens m key ticket target) := by
  rcases s.startVote_cases g kind m with
    ⟨e, settings, same⟩ | ⟨settings, slot, q, live, rfl, rfl, open_, same⟩
  · rw [same] at h
    exact .inl h
  · have opens : ∀ p, (s.desk.start s.now q).result = .ok p →
        s.Opens m ⟨q.guild, q.kind⟩ s.desk.opened q.target := by
      intro p accepted
      refine ⟨⟨p, ?_⟩, rfl, ⟨slot, live, open_⟩⟩
      rw [same]
      exact accepted
    rw [same] at h
    rcases h with ⟨v, found, rfl, rfl⟩ | ⟨r, member, rfl, rfl, rfl⟩
    · rcases VoteDesk.start_pending_get? found with old | ⟨admits, rfl, rfl, _⟩
      · exact .inl (.inl ⟨v, old, rfl, rfl⟩)
      · exact .inr ⟨rfl, opens _ (congrArg DeskOutcome.result (admits.start s.now))⟩
    · rcases withDesk_inFlight member with old | ⟨new, passed⟩
      · exact .inl (.inr ⟨r, old, rfl, rfl, rfl⟩)
      · have judged : VoteDesk.Judged ⟨q.guild, q.kind⟩
            (fun ticket target => ticket = s.desk.opened ∧ target = q.target) _ :=
          s.desk.start_judged s.now q ⟨rfl, rfl⟩
        obtain ⟨here, ⟨ticket, target⟩, p, accepted⟩ := judged.of_passed new passed
        rw [here, ticket, target]
        exact .inr ⟨rfl, opens p accepted⟩

theorem next_carries {s : Station} (grounded : s.registry.Grounded) (a : StationAct)
    (h : (s.next a).Carries key ticket target) :
    s.Carries key ticket target ∨
      ∃ m, a = .ask (.startVote key.guild key.kind m) ∧ s.Opens m key ticket target := by
  rcases s.next_cases a with ⟨g, kind, m, rfl⟩ | ⟨g, m, track, metadata, rfl⟩ | steps
  · rcases startVote_carries g kind m h with old | ⟨rfl, opens⟩
    · exact .inl old
    · exact .inr ⟨m, rfl, opens⟩
  · refine .inl ?_
    rw [next, handle] at h
    rcases s.enqueue_cases g m track metadata with ⟨e, settings, same⟩ | ⟨settings, _, e, _, same⟩
    · rw [same] at h
      exact h
    · rw [same] at h
      have prepared := apply_carries (prepared_grounded grounded g settings).1.keyed h
      have made : { s with registry := (s.registry.getOrCreate s.now g).2 : Station }.Carries
          key ticket target := prepared
      exact (s.getOrCreate_moves g).carries grounded made
  · exact .inl (steps.carries grounded h)

/-- Whatever a run carries at its end, it carried at first, or some act of the run has opened it. -/
theorem after_carries {s : Station} (grounded : s.registry.Grounded) (acts : List StationAct)
    (h : (s.after acts).Carries key ticket target) :
    s.Carries key ticket target ∨
      ∃ before m later, acts = before ++ .ask (.startVote key.guild key.kind m) :: later ∧
        (s.after before).Opens m key ticket target := by
  -- Forwards along the run: what its rest has not opened was there after the first act.
  induction acts generalizing s with
  | nil => exact .inl h
  | cons a acts ih =>
      rcases ih (next_grounded grounded a) h with still | ⟨before, m, later, rfl, opens⟩
      · rcases next_carries grounded a still with old | ⟨m, rfl, opens⟩
        · exact .inl old
        · exact .inr ⟨[], m, acts, rfl, opens⟩
      · exact .inr ⟨a :: before, m, later, rfl, opens⟩

end Carried

theorem currentId_of_voteTarget {session : Session} {target : Option EntryId}
    (open_ : voteTarget .skip session = .ok target) :
    ∃ id, session.currentId = some id ∧ target = some id := by
  cases current : session.current with
  | none => simp [voteTarget, current] at open_
  | some e =>
      simp only [voteTarget, current] at open_
      cases open_
      exact ⟨e.id, by rw [Session.currentId, current, Option.map_some], rfl⟩

theorem applyAt_of_some {s : Station} {place : Nat} {r : Resolution}
    (there : s.inFlight[place]? = some r) :
    s.applyAt place = { s with inFlight := s.inFlight.eraseIdx place }.applyVote r := by
  rw [applyAt, there]

/-- Whenever the action of a passed vote to skip runs, some earlier request has opened the vote when
an entry was loaded, and the action skips this entry if it is still or again loaded. If another entry
is loaded or none, or if the session was given up since, also if the guild has got another one, then
nothing happens at all. That a later session does not play the entry rests on the numbers of entries,
which come around after 2 ^ 64. -/
theorem skip_in_flight (config : Config) (repository : Repository) (backend : Backend)
    (acts : List StationAct) (place : Nat) (r : Resolution)
    (there : ((create config repository backend).after acts).inFlight[place]? = some r)
    (skips : r.key.kind = .skip) :
    let s := (create config repository backend).after acts
    let taken := { s with inFlight := s.inFlight.eraseIdx place }
    ∃ before m later slot id,
      acts = before ++ .ask (.startVote r.key.guild .skip m) :: later ∧
      let past := (create config repository backend).after before
      (∃ p, (past.startVote r.key.guild .skip m).1 = .ok p) ∧ past.desk.opened = r.ticket ∧
      past.registry.live.get? r.key.guild = some slot ∧ slot.session.currentId = some id ∧
      r.target = some id ∧
      (s.playing? r.key.guild = some id → s.applyAt place = (taken.skip r.key.guild).2) ∧
      (s.playing? r.key.guild ≠ some id → s.applyAt place = taken) ∧
      (s.registry.isTornDown slot.ref = true → acts.length + 1 < UInt64.size →
        s.applyAt place = taken) := by
  intro s taken
  have grounded : taken.registry.Grounded := after_grounded config repository backend acts
  have carried : s.Carries r.key r.ticket r.target :=
    .inr ⟨r, List.mem_of_getElem? there, rfl, rfl, rfl⟩
  rcases after_carries (.empty backend) acts carried with first | ⟨before, m, later, rfl, opens⟩
  · rcases first with ⟨v, found, _⟩ | ⟨r', member, _⟩
    · cases found
    · cases member
  · obtain ⟨slot, live, open_⟩ := opens.about
    rw [skips] at open_
    obtain ⟨id, loaded, about⟩ := currentId_of_voteTarget open_
    have acted : s.applyAt place = taken.applyVote r := applyAt_of_some there
    have missed : s.playing? r.key.guild ≠ some id → s.applyAt place = taken := by
      intro other
      rw [acted]
      exact applyVote_missed grounded skips about other
    refine ⟨before, m, later, slot, id, by rw [skips], ?_, opens.next, live, loaded, about, ?_,
      missed, ?_⟩
    · rw [← skips]
      exact opens.accepted
    · intro playing
      rw [acted]
      exact applyVote_hit grounded skips about playing
    · intro torn room
      apply missed
      intro playing
      obtain ⟨slot', live', loaded'⟩ := playing?_eq_some.mp playing
      have split : s = ((create config repository backend).after before).after
          (.ask (.startVote r.key.guild r.key.kind m) :: later) := after_append _ _ _
      rw [split] at torn live'
      exact currentId_ne_of_tornDown config repository backend before _ room live loaded torn live'
        loaded'

/-- A vote to skip passes with its second ballot, and the track ends before the action runs. -/
theorem skip_in_flight_after_end :
    let acts : List StationAct :=
      [.ask (.memberJoined ⟨1⟩ ⟨1⟩), .ask (.memberJoined ⟨1⟩ ⟨2⟩), .ask (.memberJoined ⟨1⟩ ⟨3⟩),
        .ask (.enqueue ⟨1⟩ ⟨1⟩ ⟨"a"⟩ none), .ask (.enqueue ⟨1⟩ ⟨1⟩ ⟨"b"⟩ none),
        .ask (.startVote ⟨1⟩ .skip ⟨1⟩), .ask (.castVote ⟨1⟩ .skip ⟨2⟩ .yes),
        .ask (.trackFinished ⟨1⟩)]
    let r : Resolution := ⟨⟨⟨1⟩, .skip⟩, 0, ⟨1⟩, ⟨.skip, 2, 0, 3, 2, .passed⟩, some ⟨1⟩⟩
    let s := (create {} {} { nextHandle := ⟨1⟩ }).after acts
    s.inFlight[0]? = some r ∧ s.playing? ⟨1⟩ = some ⟨2⟩ ∧
      s.applyAt 0 = { s with inFlight := s.inFlight.eraseIdx 0 } := by
  intro acts r s
  have there : s.inFlight[0]? = some r := by decide +kernel
  have playing : s.playing? ⟨1⟩ = some ⟨2⟩ := by decide +kernel
  obtain ⟨before, m, later, slot, id, _, _, _, _, _, about, _, missed, _⟩ :=
    skip_in_flight {} {} { nextHandle := ⟨1⟩ } acts 0 r there rfl
  refine ⟨there, playing, missed ?_⟩
  intro same
  have second : some (⟨2⟩ : EntryId) = some id := playing.symm.trans same
  have both : some (⟨2⟩ : EntryId) = some ⟨1⟩ := second.trans about.symm
  exact absurd both (by decide)

end Station

end Jukebox
