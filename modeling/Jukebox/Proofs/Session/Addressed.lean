import Jukebox.Proofs.Session.Frame

/-!
A session speaks for its own guild. Every event that an operation signals and every call that it makes
names the guild of the session, and so do those of the failures on the way.
-/

namespace Jukebox

/-- Every event and every call names the guild. -/
structure Signals.Name (x : Signals) (g : GuildId) : Prop where
  events : ∀ e ∈ x.events, e.guild = g
  calls : ∀ c ∈ x.calls, c.guild = g

namespace Signals.Name

variable {g : GuildId}

theorem empty : Signals.Name {} g := ⟨nofun, nofun⟩

theorem append {a b : Signals} (first : a.Name g) (later : b.Name g) : (a ++ b).Name g where
  events := List.forall_mem_append.mpr ⟨first.events, later.events⟩
  calls := List.forall_mem_append.mpr ⟨first.calls, later.calls⟩

theorem event {e : Event} (same : e.guild = g) : Signals.Name ⟨[e], []⟩ g :=
  ⟨List.forall_mem_singleton.mpr same, nofun⟩

theorem event_call {e : Event} {c : Call} (told : e.guild = g) (made : c.guild = g) :
    Signals.Name ⟨[e], [c]⟩ g :=
  ⟨List.forall_mem_singleton.mpr told, List.forall_mem_singleton.mpr made⟩

theorem refusals (refused : List (Entry × PlayerError)) :
    (Session.refusals g refused).Name g where
  events := List.forall_mem_map.mpr fun _ _ => rfl
  calls := List.forall_mem_map.mpr fun _ _ => rfl

end Signals.Name

namespace Session

theorem ending_name (s : Session) : s.ending.Name s.guild := by
  unfold ending
  split
  · exact .empty
  · exact .event_call rfl rfl

theorem startNext_name (b : Backend) (now : Nat) (s : Session) :
    (startNext b now s).signals.Name s.guild := by
  rcases startNext_outcome b now s with ⟨refused, e, rest, _, same⟩ | ⟨refused, _, same⟩
  · rw [same]
    exact (Signals.Name.refusals refused).append (.event_call rfl rfl)
  · rw [same]
    exact (Signals.Name.refusals refused).append s.ending_name

theorem edit_name {α : Type} (now : Nat) (s : Session) (r : Except QueueError (α × Queue)) :
    (s.edit now r).signals.Name s.guild := by
  cases r with
  | error e => exact .empty
  | ok edited => exact .empty

theorem enqueue_name (e : Entry) (capacity : Nat) (b : Backend) (now : Nat) (s : Session) :
    (s.enqueue e capacity b now).signals.Name s.guild := by
  rcases s.enqueue_cases e capacity b now with ⟨_, same⟩ | ⟨_, _, same⟩ | ⟨_, _, _, _, same⟩
  · rw [same]
    exact .empty
  · rw [same]
    exact .empty
  · rw [same]
    exact startNext_name b now _

theorem pause_name (now : Nat) (s : Session) : (s.pause now).signals.Name s.guild := by
  unfold pause
  split
  · exact .event_call rfl rfl
  · exact .empty

theorem resume_name (now : Nat) (s : Session) : (s.resume now).signals.Name s.guild := by
  unfold resume
  split
  · exact .event_call rfl rfl
  · exact .empty

theorem trackStarted_name (now : Nat) (s : Session) :
    (s.trackStarted now).signals.Name s.guild := by
  unfold trackStarted
  split
  · exact .empty
  · exact .empty

theorem trackFinished_name (b : Backend) (now : Nat) (s : Session) :
    (s.trackFinished b now).signals.Name s.guild := by
  cases current : s.current with
  | none =>
      simp only [trackFinished, current]
      exact .empty
  | some finished =>
      rcases trackFinished_cases current b now with
        ⟨_, same⟩ | ⟨_, same⟩ | ⟨_, same⟩ | ⟨_, refusal, same⟩
      · rw [same]
        exact startNext_name b now s
      · rw [same]
        exact startNext_name b now _
      · rw [same]
        exact .event_call rfl rfl
      · rw [same]
        exact (Signals.Name.refusals _).append (startNext_name _ now s)

theorem trackFailed_name (reason : String) (b : Backend) (now : Nat) (s : Session) :
    (s.trackFailed reason b now).signals.Name s.guild := by
  unfold trackFailed
  split
  · exact .empty
  · exact (Signals.Name.event rfl).append (startNext_name b now _)

theorem skip_name (b : Backend) (now : Nat) (s : Session) :
    (s.skip b now).signals.Name s.guild := by
  unfold skip
  split
  · exact .empty
  · exact startNext_name b now _

theorem stop_name (now : Nat) (s : Session) : (s.stop now).signals.Name s.guild := by
  refine ⟨List.forall_mem_singleton.mpr rfl, ?_⟩
  simp only [stop]
  split
  · exact List.forall_mem_singleton.mpr rfl
  · nofun

theorem shuffle_name (arrangement : Arrangement) (now : Nat) (s : Session) :
    (s.shuffle arrangement now).signals.Name s.guild := by
  unfold shuffle
  split
  · exact .empty
  · exact s.edit_name now _

theorem release_name (s : Session) : s.release.signals.Name s.guild :=
  ⟨nofun, List.forall_mem_singleton.mpr rfl⟩

end Session

theorem Turn.outcome_name (t : Turn) (s : Session) : (t.outcome s).signals.Name s.guild := by
  obtain ⟨act, b, now⟩ := t
  cases act with
  | enqueue e capacity => exact s.enqueue_name e capacity b now
  | pause => exact s.pause_name now
  | resume => exact s.resume_name now
  | trackStarted => exact s.trackStarted_name now
  | trackFinished => exact s.trackFinished_name b now
  | trackFailed reason => exact s.trackFailed_name reason b now
  | skip => exact s.skip_name b now
  | stop => exact s.stop_name now
  | clearQueue => exact .event rfl
  | setRepeat => exact .empty
  | removeAt position => exact s.edit_name now (s.queue.removeAt position)
  | removeByRequester m => exact s.edit_name now (s.queue.removeByRequester m)
  | swap x y => exact s.edit_name now ((s.queue.swap x y).map fun q => ((), q))
  | move source target => exact s.edit_name now ((s.queue.move source target).map fun q => ((), q))
  | shuffle arrangement => exact s.shuffle_name arrangement now
  | release => exact s.release_name

/-- What the program runs on a session: it leaves the session to its guild and speaks for no other. -/
structure Domestic {α : Type} (operation : Backend → Nat → Session → Outcome α) : Prop where
  guild : ∀ b now s, (operation b now s).session.guild = s.guild
  signals : ∀ b now s, (operation b now s).signals.Name s.guild

theorem Domestic.of_act {α : Type} {operation : Backend → Nat → Session → Outcome α}
    (a : SessionAct) (session : ∀ b now s, (operation b now s).session = (a.run b now s).session)
    (signals : ∀ b now s, (operation b now s).signals = (a.run b now s).signals) :
    Domestic operation where
  guild b now s := by
    rw [session]
    exact Turn.next_guild ⟨a, b, now⟩ s
  signals b now s := by
    rw [signals]
    exact Turn.outcome_name ⟨a, b, now⟩ s

end Jukebox
