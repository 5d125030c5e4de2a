import Jukebox.Proofs.Registry.Grounded

/-!
Sessions given up together. Giving up a session takes away what is its guild's own: the slot, the
pending votes, the entries on the gauges. So guilds that are given up one after the other leave a
registry that can be written down at once, and only the record of calls and the torn-down slots keep
their order.
-/

namespace Jukebox

/-- The counters after some sessions were given up, with the entries and the votes that they had. -/
def Metrics.givenUp (m : Metrics) (sessions queued votes : Nat) : Metrics :=
  { m with
    activeSessions := m.activeSessions - sessions
    queuedTracks := m.queuedTracks - queued
    sessionsEvicted := m.sessionsEvicted + sessions
    votesCancelled := m.votesCancelled + votes }

theorem Metrics.givenUp_givenUp (m : Metrics) (a b c a' b' c' : Nat) :
    (m.givenUp a b c).givenUp a' b' c' = m.givenUp (a + a') (b + b') (c + c') := by
  simp only [givenUp, Nat.sub_sub, Nat.add_assoc]

namespace VoteKey

def allOf (g : GuildId) : List VoteKey := VoteKind.all.map (VoteKey.mk g)

theorem mem_allOf {k : VoteKey} {g : GuildId} : k ∈ allOf g ↔ k.guild = g := by
  simp only [allOf, List.mem_map, VoteDesk.mem_all, true_and]
  constructor
  · rintro ⟨kind, rfl⟩
    rfl
  · rintro rfl
    exact ⟨k.kind, rfl⟩

end VoteKey

namespace VoteDesk

/-- How many votes of a guild are pending. -/
def pendingOf (d : VoteDesk) (g : GuildId) : Nat :=
  VoteKind.all.countP fun kind => d.pending.contains ⟨g, kind⟩

theorem cancel_desk {d : VoteDesk} (h : d.Keyed) (key : VoteKey) :
    (d.cancel key).desk =
      { d with
        pending := d.pending.erase key
        metrics := d.metrics.givenUp 0 0 (if d.pending.contains key then 1 else 0) } := by
  unfold cancel
  cases found : d.pending.get? key with
  | none =>
      rw [if_neg (by simp [Table.contains, found]), Table.erase_of_none found]
      rfl
  | some v =>
      rw [if_pos (Table.contains_iff.mpr ⟨v, found⟩), ← h key v found]
      rfl

theorem cancelKinds_desk {d : VoteDesk} (h : d.Keyed) (g : GuildId) {kinds : List VoteKind}
    (once : kinds.Nodup) :
    (d.cancelKinds g kinds).desk =
      { d with
        pending := d.pending.without (kinds.map (VoteKey.mk g))
        metrics := d.metrics.givenUp 0 0
          (kinds.countP fun kind => d.pending.contains ⟨g, kind⟩) } := by
  induction kinds generalizing d with
  | nil => rfl
  | cons kind kinds ih =>
      obtain ⟨fresh, once⟩ := List.nodup_cons.mp once
      -- A vote of another kind is pending after the first one is cancelled just as it was before.
      have others : kinds.countP (fun kind' => (d.pending.erase ⟨g, kind⟩).contains ⟨g, kind'⟩) =
          kinds.countP fun kind' => d.pending.contains ⟨g, kind'⟩ := by
        apply List.countP_congr
        intro kind' member
        have apart : (⟨g, kind'⟩ : VoteKey) ≠ ⟨g, kind⟩ := by
          intro same
          cases same
          exact fresh member
        rw [Table.contains, Table.get?_erase_ne _ apart, Table.contains]
      rw [cancelKinds, ih (cancel_keyed h ⟨g, kind⟩) once, cancel_desk h, List.countP_cons, others,
        Metrics.givenUp_givenUp, Nat.add_comm (List.countP _ _)]
      rfl

end VoteDesk

namespace Registry

/-- The slot of a guild as it is once it is torn down. -/
def released? (r : Registry) (g : GuildId) : Option Slot :=
  (r.live.get? g).map fun slot => { slot with session := slot.session.release.session }

/-- How many entries wait in a guild. -/
def waitingOf (r : Registry) (g : GuildId) : Nat :=
  ((r.session? g).map fun session => session.queue.length).getD 0

/-- What is left when the sessions of some guilds are given up. -/
def without (r : Registry) (gone : List GuildId) : Registry :=
  { r with
    live := r.live.without gone
    retired := (gone.filterMap r.released?).reverse ++ r.retired
    desk :=
      { r.desk with
        pending := r.desk.pending.without (gone.flatMap VoteKey.allOf)
        metrics := r.desk.metrics.givenUp gone.length (gone.map r.waitingOf).sum
          (gone.map r.desk.pendingOf).sum }
    backend := { r.backend with calls := r.backend.calls ++ gone.map Call.stop } }

theorem without_nil (r : Registry) : r.without [] = r := by
  simp only [without, List.map_nil, List.append_nil]
  rfl

theorem tearDown_eq {r : Registry} (h : r.Grounded) {g : GuildId} {slot : Slot}
    (found : r.live.get? g = some slot) : r.tearDown slot = r.without [g] := by
  obtain ⟨ref, guild, _⟩ := h.fits g slot found
  have once : VoteKind.all.Nodup := by decide
  have cancelled := VoteDesk.cancelKinds_desk h.keyed g once
  have waiting : r.waitingOf g = slot.session.queue.length := by
    rw [waitingOf, session?, found]
    rfl
  have released : [g].filterMap r.released? =
      [{ slot with session := slot.session.release.session }] := by
    rw [List.filterMap_cons_some (by rw [released?, found]; rfl)]
    rfl
  have stopped : r.backend.record [Call.stop g] =
      { r.backend with calls := r.backend.calls ++ [Call.stop g] } := by
    simp [Backend.record, Call.isPlay]
  calc r.tearDown slot
    _ = { r with
          live := r.live.erase slot.ref.guild
          retired := { slot with session := slot.session.release.session } :: r.retired
          desk := (r.desk.cancelKinds slot.ref.guild VoteKind.all).desk
          backend := r.backend.record [Call.stop slot.session.guild] }.count
        (fun m => m.sessionEvicted slot.session.queue.length) := rfl
    _ = r.without [g] := by
      rw [ref, guild, without, released, List.map_singleton, waiting, cancelled, stopped]
      rfl

section Others

variable {r : Registry} {g h : GuildId} (other : h ≠ g)
include other

theorem released?_without : (r.without [g]).released? h = r.released? h := by
  rw [released?, released?, without]
  exact congrArg (Option.map _) (Table.get?_erase_ne _ other)

theorem waitingOf_without : (r.without [g]).waitingOf h = r.waitingOf h := by
  have live : (r.without [g]).live.get? h = r.live.get? h := Table.get?_erase_ne _ other
  rw [waitingOf, waitingOf, session?, session?, live]

theorem pendingOf_without : (r.without [g]).desk.pendingOf h = r.desk.pendingOf h := by
  apply List.countP_congr
  intro kind _
  have kept : (r.without [g]).desk.pending.get? ⟨h, kind⟩ = r.desk.pending.get? ⟨h, kind⟩ := by
    rw [without, Table.get?_without, if_neg]
    simpa [VoteKey.mem_allOf] using other
  rw [Table.contains, kept, Table.contains]

end Others

/-- Giving up one guild and then others is giving them up together. -/
theorem without_cons (r : Registry) {g : GuildId} {gone : List GuildId} (fresh : g ∉ gone) :
    r.without (g :: gone) = (r.without [g]).without gone := by
  have apart : ∀ h ∈ gone, h ≠ g := fun h member same => fresh (same ▸ member)
  have released : gone.filterMap (r.without [g]).released? = gone.filterMap r.released? :=
    List.filterMap_congr fun h member => released?_without (apart h member)
  have waiting : gone.map (r.without [g]).waitingOf = gone.map r.waitingOf :=
    List.map_congr_left fun h member => waitingOf_without (apart h member)
  have pending : gone.map (r.without [g]).desk.pendingOf = gone.map r.desk.pendingOf :=
    List.map_congr_left fun h member => pendingOf_without (apart h member)
  -- What was torn down first comes last.
  have torn : ((g :: gone).filterMap r.released?).reverse ++ r.retired =
      (gone.filterMap r.released?).reverse ++ (r.without [g]).retired := by
    rw [without, ← List.append_assoc, ← List.reverse_append, ← List.filterMap_append]
    rfl
  have votes : r.desk.pending.without ((g :: gone).flatMap VoteKey.allOf) =
      (r.without [g]).desk.pending.without (gone.flatMap VoteKey.allOf) := by
    rw [without, ← Table.without_append, ← List.flatMap_append]
    rfl
  have metrics : r.desk.metrics.givenUp (g :: gone).length ((g :: gone).map r.waitingOf).sum
        ((g :: gone).map r.desk.pendingOf).sum =
      (r.without [g]).desk.metrics.givenUp gone.length (gone.map r.waitingOf).sum
        (gone.map r.desk.pendingOf).sum := by
    rw [without, Metrics.givenUp_givenUp, ← List.length_append, ← List.sum_append, ← List.map_append,
      ← List.sum_append, ← List.map_append]
    rfl
  have calls : r.backend.calls ++ (g :: gone).map Call.stop =
      (r.without [g]).backend.calls ++ gone.map Call.stop := by
    rw [without, List.append_assoc, ← List.map_append]
    rfl
  conv_lhs => rw [without, torn, votes, metrics, calls]
  conv_rhs => rw [without, released, waiting, pending]
  rfl

/-- The registries differ at most in the order in which slots were torn down and the backend was
called. -/
structure Alike (r r' : Registry) : Prop where
  retired : r'.retired.Perm r.retired
  calls : r'.backend.calls.Perm r.backend.calls
  rest : r' = { r with
    retired := r'.retired, backend := { r.backend with calls := r'.backend.calls } }

theorem without_perm (r : Registry) {gone gone' : List GuildId} (perm : gone'.Perm gone) :
    (r.without gone).Alike (r.without gone') := by
  have live : r.live.without gone' = r.live.without gone :=
    Table.without_congr _ fun g => perm.mem_iff
  have votes : r.desk.pending.without (gone'.flatMap VoteKey.allOf) =
      r.desk.pending.without (gone.flatMap VoteKey.allOf) :=
    Table.without_congr _ fun k => (perm.flatMap_right _).mem_iff
  have waiting := (perm.map r.waitingOf).sum_nat
  have pending := (perm.map r.desk.pendingOf).sum_nat
  refine ⟨?_, (perm.map _).append_left _, ?_⟩
  · apply List.Perm.append_right
    exact ((List.reverse_perm _).trans (perm.filterMap _)).trans (List.reverse_perm _).symm
  · simp only [without, live, votes, waiting, pending, perm.length_eq]

end Registry

end Jukebox
