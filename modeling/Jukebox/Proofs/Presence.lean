import Jukebox.Presence
import Jukebox.Proofs.Table

/-!
Who listens, told from what has been reported. A member listens if it has joined and neither left nor
been forgotten since. A guild is marked alone if the latest report that has changed anything about it was
the leave of its only listener, and the mark bears the moment of that leave. So a leave of somebody who is
not there neither sets a mark nor touches one; nor does it find an empty set to drop, since none is kept.
-/

namespace Jukebox

inductive PresenceAct
  | joined (g : GuildId) (m : MemberId)
  | left (g : GuildId) (m : MemberId)
  | clearAlone (g : GuildId)
  | forget (g : GuildId)
deriving DecidableEq

def PresenceAct.guild : PresenceAct → GuildId
  | joined g _ | left g _ | clearAlone g | forget g => g

/-- An act with the moment at which it is reported. -/
structure PresenceReport where
  now : Nat
  act : PresenceAct

/-- Nothing is reported that could end a mark of the guild. -/
structure PresenceReport.Quiet (r : PresenceReport) (g : GuildId) : Prop where
  joined : ∀ m, r.act ≠ .joined g m
  clearAlone : r.act ≠ .clearAlone g
  forget : r.act ≠ .forget g

theorem PresenceReport.quiet_of_ne {r : PresenceReport} {g : GuildId} (other : g ≠ r.act.guild) :
    r.Quiet g where
  joined m joined := other (by rw [joined]; rfl)
  clearAlone cleared := other (by rw [cleared]; rfl)
  forget forgotten := other (by rw [forgotten]; rfl)

namespace Presence

/-- The listeners of a guild are the same, and so is its mark of being alone. -/
structure SameIn (g : GuildId) (p p' : Presence) : Prop where
  members : p'.members.get? g = p.members.get? g
  alone : p'.aloneSince.get? g = p.aloneSince.get? g

namespace SameIn

variable {g h : GuildId} (p : Presence)

theorem refl : SameIn g p p := ⟨rfl, rfl⟩

theorem trans {p p' p'' : Presence} (first : SameIn g p p') (later : SameIn g p' p'') :
    SameIn g p p'' :=
  ⟨later.members.trans first.members, later.alone.trans first.alone⟩

variable (other : h ≠ g)
include other

theorem joined (m : MemberId) : SameIn h p (p.joined g m).2 :=
  ⟨Table.get?_insert_ne _ other _, Table.get?_erase_ne _ other⟩

theorem left (now : Nat) (m : MemberId) : SameIn h p (p.left now g m).2 := by
  unfold Presence.left
  split
  · dsimp only
    split
    · refine ⟨Table.get?_erase_ne _ other, ?_⟩
      dsimp only
      split
      · rfl
      · exact Table.get?_insert_ne _ other now
    · exact ⟨Table.get?_insert_ne _ other _, rfl⟩
  · exact refl p

theorem clearAlone : SameIn h p (p.clearAlone g) := ⟨rfl, Table.get?_erase_ne _ other⟩

theorem forget : SameIn h p (p.forget g) :=
  ⟨Table.get?_erase_ne _ other, Table.get?_erase_ne _ other⟩

end SameIn

def next (p : Presence) (r : PresenceReport) : Presence :=
  match r.act with
  | .joined g m => (p.joined g m).2
  | .left g m => (p.left r.now g m).2
  | .clearAlone g => p.clearAlone g
  | .forget g => p.forget g

theorem SameIn.next {p : Presence} {r : PresenceReport} {g : GuildId} (other : g ≠ r.act.guild) :
    SameIn g p (p.next r) := by
  obtain ⟨now, act⟩ := r
  cases act with
  | joined h m => exact .joined p other m
  | left h m => exact .left p other now m
  | clearAlone h => exact .clearAlone p other
  | forget h => exact .forget p other

section Acts

variable (p : Presence) (g : GuildId) (m : MemberId)

/-- When the guild was marked alone, if it is. -/
def mark : Option Nat := p.aloneSince.get? g

/-- The member is the only listener of the guild. -/
def Sole : Prop := ∀ n, p.contains g n = true ↔ n = m

theorem aloneFor_eq_some {now d : Nat} :
    p.aloneFor now g = some d ↔ ∃ t, p.mark g = some t ∧ now - t = d :=
  Option.map_eq_some_iff

theorem SameIn.listeners {p p' : Presence} {g : GuildId} (h : SameIn g p p') :
    p'.listeners g = p.listeners g := by
  rw [Presence.listeners, h.members, Presence.listeners]

theorem count_eq_zero : p.count g = 0 ↔ ∀ m, p.contains g m = false := by
  rw [count, Table.size, List.length_eq_zero_iff, ← List.isEmpty_iff]
  exact Table.isEmpty_iff

theorem listeners_joined : (p.joined g m).2.listeners g = (p.listeners g).insert m () := by
  rw [listeners, joined, Table.get?_insert_self]
  rfl

theorem isEmpty_erase_iff (present : p.contains g m = true) :
    ((p.listeners g).erase m).isEmpty = true ↔ p.Sole g m := by
  rw [Table.isEmpty_iff]
  constructor
  · intro none n
    refine ⟨fun there => ?_, fun same => same ▸ present⟩
    by_contra other
    have still := (Table.contains_erase (p.listeners g) m n).mpr ⟨other, there⟩
    rw [none n] at still
    cases still
  · intro sole n
    rw [← Bool.not_eq_true, Table.contains_erase]
    rintro ⟨other, there⟩
    exact other ((sole n).mp there)

/-- A member that leaves is not there, or the only listener, or one of several. -/
theorem left_cases (now : Nat) :
    (p.contains g m = false ∧ p.left now g m = (false, p)) ∨
    (p.Sole g m ∧ (p.left now g m).1 = true ∧ (p.left now g m).2.listeners g = .empty ∧
      (p.mark g = none → (p.left now g m).2.mark g = some now)) ∨
    (p.contains g m = true ∧ ¬ p.Sole g m ∧ (p.left now g m).1 = true ∧
      (p.left now g m).2.listeners g = (p.listeners g).erase m ∧
      (p.left now g m).2.mark g = p.mark g) := by
  cases present : p.contains g m with
  | false => exact .inl ⟨rfl, by rw [left, present]; rfl⟩
  | true =>
      right
      unfold left
      rw [if_pos present]
      dsimp only
      have last := p.isEmpty_erase_iff g m present
      split
      · next empty =>
          refine .inl ⟨last.mp empty, rfl, ?_, ?_⟩
          · rw [listeners, Table.get?_erase_self]
            rfl
          · intro unmarked
            have free : p.aloneSince.contains g = false := Table.contains_eq_false.mpr unmarked
            rw [mark, free]
            exact Table.get?_insert_self _ g now
      · next several =>
          refine .inr ⟨rfl, fun sole => several (last.mpr sole), rfl, ?_, rfl⟩
          rw [listeners, Table.get?_insert_self]
          rfl

/-- No set of listeners is kept without anybody in it. -/
def Filled : Prop := ∀ g s, p.members.get? g = some s → s.isEmpty = false

/-- A leave step by step: the member is taken out of the set that is kept, then a set that is empty is
dropped, and after both the guild may be marked. -/
def leftInSteps (now : Nat) : Bool × Presence :=
  let removed := p.contains g m
  let members : Table GuildId MemberSet :=
    match p.members.get? g with
    | none => p.members
    | some listeners => p.members.insert g (listeners.erase m)
  let emptied : Bool := (members.get? g).any (·.isEmpty)
  let marks := removed && emptied && !p.aloneSince.contains g
  (removed,
    { members := if emptied then members.erase g else members
      aloneSince := if marks then p.aloneSince.insert g now else p.aloneSince })

variable {p} in
/-- As no empty set is kept, the leave of somebody who is not there has nothing to drop. -/
theorem Filled.left_eq (h : p.Filled) (now : Nat) : p.left now g m = p.leftInSteps g m now := by
  unfold left leftInSteps
  cases kept : p.members.get? g with
  | none =>
      have absent : p.contains g m = false := by
        rw [contains, listeners, kept]
        rfl
      simp [absent, kept]
  | some set =>
      have whole : p.listeners g = set := by
        rw [listeners, kept]
        rfl
      cases present : p.contains g m with
      | false =>
          -- The set stays as it is, and the step that drops an empty set finds it filled.
          have same : set.erase m = set := by
            rw [contains, whole] at present
            exact Table.erase_of_none (Table.contains_eq_false.mp present)
          simp [same, Table.insert_of_some kept, kept, h g set kept]
      | true =>
          simp only [whole, Table.get?_insert_self, Table.erase_insert, Option.any_some, if_true,
            Bool.true_and]
          cases (set.erase m).isEmpty with
          | false => simp
          | true =>
              cases p.aloneSince.contains g with
              | false => simp
              | true => simp

theorem listeners_left (now : Nat) :
    (p.left now g m).2.listeners g = (p.listeners g).erase m := by
  rcases p.left_cases g m now with ⟨absent, same⟩ | ⟨sole, _, empty, _⟩ | ⟨_, _, _, rest, _⟩
  · rw [same]
    exact (Table.erase_of_none (Table.contains_eq_false.mp absent)).symm
  · have none := (p.isEmpty_erase_iff g m ((sole m).mpr rfl)).mpr sole
    rw [empty]
    apply Table.ext
    intro n
    exact (Table.contains_eq_false.mp (Table.isEmpty_iff.mp none n)).symm
  · exact rest

theorem contains_joined (n : MemberId) :
    (p.joined g m).2.contains g n = true ↔ n = m ∨ p.contains g n = true := by
  rw [contains, listeners_joined, Table.contains_insert, contains]

theorem contains_left (now : Nat) (n : MemberId) :
    (p.left now g m).2.contains g n = true ↔ n ≠ m ∧ p.contains g n = true := by
  rw [contains, listeners_left, Table.contains_erase, contains]

theorem contains_forget : (p.forget g).contains g m = false := by
  rw [contains, listeners, forget, Table.get?_erase_self]
  rfl

/-- After an act a member listens if it has joined by it, or if it listened before and the act has not
taken it away. -/
theorem contains_next (r : PresenceReport) :
    (p.next r).contains g m = true ↔
      r.act = .joined g m ∨ p.contains g m = true ∧ r.act ≠ .left g m ∧ r.act ≠ .forget g := by
  by_cases named : g = r.act.guild
  · obtain ⟨now, act⟩ := r
    cases act with
    | joined h n =>
        change g = h at named
        subst named
        change (p.joined g n).2.contains g m = true ↔ _
        rw [contains_joined, eq_comm]
        simp
    | left h n =>
        change g = h at named
        subst named
        change (p.left now g n).2.contains g m = true ↔ _
        rw [contains_left, ne_comm, and_comm]
        simp
    | clearAlone h =>
        change p.contains g m = true ↔ _
        simp
    | forget h =>
        change g = h at named
        subst named
        change (p.forget g).contains g m = true ↔ _
        rw [contains_forget]
        simp
  · have quiet := PresenceReport.quiet_of_ne named
    have notLeft : r.act ≠ .left g m := fun left => named (by rw [left]; rfl)
    rw [contains, (SameIn.next named).listeners, ← contains]
    simp [quiet.joined m, notLeft, quiet.forget]

theorem mark_of_ended {r : PresenceReport} (ended : ¬ r.Quiet g) : (p.next r).mark g = none := by
  by_cases named : g = r.act.guild
  · obtain ⟨now, act⟩ := r
    obtain rfl := named
    cases act with
    | joined h m => exact Table.get?_erase_self _ h
    | left h m => exact absurd ⟨nofun, nofun, nofun⟩ ended
    | clearAlone h => exact Table.get?_erase_self _ h
    | forget h => exact Table.get?_erase_self _ h
  · exact absurd (PresenceReport.quiet_of_ne named) ended

/-- No guild that somebody listens in is marked alone. -/
def Apart : Prop := ∀ g m, p.contains g m = true → p.mark g = none

variable {p}

theorem Apart.mark_left (h : p.Apart) (now : Nat) :
    (p.Sole g m ∧ (p.left now g m).2.mark g = some now) ∨
      ¬ p.Sole g m ∧ (p.left now g m).2.mark g = p.mark g := by
  rcases p.left_cases g m now with ⟨absent, same⟩ | ⟨sole, _, _, marked⟩ | ⟨_, several, _, _, kept⟩
  · refine .inr ⟨fun sole => ?_, by rw [same]⟩
    rw [(sole m).mpr rfl] at absent
    cases absent
  · exact .inl ⟨sole, marked (h g m ((sole m).mpr rfl))⟩
  · exact .inr ⟨several, kept⟩

/-- A mark is set by the leave of the only listener, and stays until something ends it. -/
theorem Apart.mark_next (h : p.Apart) (r : PresenceReport) (t : Nat) :
    (p.next r).mark g = some t ↔
      (∃ m, r = ⟨t, .left g m⟩ ∧ p.Sole g m) ∨ p.mark g = some t ∧ r.Quiet g := by
  by_cases left : ∃ m, r.act = .left g m
  · obtain ⟨now, act⟩ := r
    obtain ⟨m, rfl⟩ := left
    have quiet : PresenceReport.Quiet ⟨now, .left g m⟩ g := ⟨nofun, nofun, nofun⟩
    change (p.left now g m).2.mark g = some t ↔ _
    rcases h.mark_left g m now with ⟨sole, marked⟩ | ⟨several, kept⟩
    · have unmarked : p.mark g = none := h g m ((sole m).mpr rfl)
      rw [marked, unmarked]
      constructor
      · intro same
        cases same
        exact .inl ⟨m, rfl, sole⟩
      · rintro (⟨_, same, _⟩ | ⟨there, _⟩)
        · cases same
          rfl
        · cases there
    · rw [kept]
      refine ⟨fun there => .inr ⟨there, quiet⟩, ?_⟩
      rintro (⟨_, same, sole⟩ | ⟨there, _⟩)
      · cases same
        exact absurd sole several
      · exact there
  · have notLeft : ¬ ∃ m, r = ⟨t, .left g m⟩ ∧ p.Sole g m := by
      rintro ⟨m, rfl, _⟩
      exact left ⟨m, rfl⟩
    by_cases quiet : r.Quiet g
    · have other : g ≠ r.act.guild := by
        rintro rfl
        cases act : r.act with
        | joined h m => exact quiet.joined m (by rw [act]; rfl)
        | left h m => exact left ⟨m, by rw [act]; rfl⟩
        | clearAlone h => exact quiet.clearAlone (by rw [act]; rfl)
        | forget h => exact quiet.forget (by rw [act]; rfl)
      rw [mark, (SameIn.next other).alone, ← mark]
      simp [notLeft, quiet]
    · rw [p.mark_of_ended g quiet]
      simp [notLeft, quiet]

theorem Apart.next (h : p.Apart) (r : PresenceReport) : (p.next r).Apart := by
  intro g m listens
  cases marked : (p.next r).mark g with
  | none => rfl
  | some t =>
      rcases (p.contains_next g m r).mp listens with joined | ⟨there, left, _⟩
      · rcases (h.mark_next g r t).mp marked with ⟨_, same, _⟩ | ⟨_, quiet⟩
        · rw [same] at joined
          cases joined
        · exact absurd joined (quiet.joined m)
      · rcases (h.mark_next g r t).mp marked with ⟨n, same, sole⟩ | ⟨marked, _⟩
        · rw [same, (sole m).mp there] at left
          exact absurd rfl left
        · rw [h g m there] at marked
          cases marked

theorem Filled.next (h : p.Filled) (r : PresenceReport) : (p.next r).Filled := by
  obtain ⟨now, act⟩ := r
  intro g s kept
  cases act with
  | joined h' n =>
      change (p.members.insert h' _).get? g = some s at kept
      rw [Table.get?_insert] at kept
      split at kept
      · cases kept
        apply Bool.eq_false_iff.mpr
        intro none
        have absent := Table.isEmpty_iff.mp none n
        rw [Bool.eq_false_iff, ne_eq, Table.contains_insert] at absent
        exact absent (.inl rfl)
      · exact h g s kept
  | left h' n =>
      change (p.left now h' n).2.members.get? g = some s at kept
      unfold left at kept
      split at kept
      · dsimp only at kept
        split at kept
        · exact h g s (Table.get?_erase_eq_some.mp kept).2
        · next several =>
            rw [Table.get?_insert] at kept
            split at kept
            · cases kept
              exact Bool.eq_false_iff.mpr several
            · exact h g s kept
      · exact h g s kept
  | clearAlone h' => exact h g s kept
  | forget h' => exact h g s (Table.get?_erase_eq_some.mp kept).2

end Acts

/-- The presence that some reports leave, the oldest report first. -/
def ofReports (h : List PresenceReport) : Presence := h.foldl next {}

theorem ofReports_concat (h : List PresenceReport) (r : PresenceReport) :
    ofReports (h ++ [r]) = (ofReports h).next r :=
  List.foldl_concat next {} r h

end Presence

/-- Some report has brought something about, and every later one has kept it. Both are said of a report
and those before it. -/
inductive Since (brings keeps : List PresenceReport → PresenceReport → Prop) :
    List PresenceReport → Prop
  | now {h : List PresenceReport} {r : PresenceReport} (brought : brings h r) :
      Since brings keeps (h ++ [r])
  | still {h : List PresenceReport} {r : PresenceReport} (before : Since brings keeps h)
      (kept : keeps h r) : Since brings keeps (h ++ [r])

section Since

variable {brings keeps : List PresenceReport → PresenceReport → Prop}

theorem not_since_nil : ¬ Since brings keeps [] := by
  generalize none : ([] : List PresenceReport) = h
  rintro (_ | _)
  · exact List.append_ne_nil_of_right_ne_nil _ (List.cons_ne_nil _ _) none.symm
  · exact List.append_ne_nil_of_right_ne_nil _ (List.cons_ne_nil _ _) none.symm

theorem since_concat {h : List PresenceReport} {r : PresenceReport} :
    Since brings keeps (h ++ [r]) ↔ brings h r ∨ Since brings keeps h ∧ keeps h r := by
  constructor
  · generalize same : h ++ [r] = whole
    intro since
    cases since with
    | now brought =>
        obtain ⟨rfl, last⟩ := List.append_inj' same rfl
        cases last
        exact .inl brought
    | still before kept =>
        obtain ⟨rfl, last⟩ := List.append_inj' same rfl
        cases last
        exact .inr ⟨before, kept⟩
  · rintro (brought | ⟨before, kept⟩)
    · exact .now brought
    · exact .still before kept

end Since

/-- The member has joined, and since then it has neither left nor been forgotten with its guild. -/
def Listens (h : List PresenceReport) (g : GuildId) (m : MemberId) : Prop :=
  Since (fun _ r => r.act = .joined g m) (fun _ r => r.act ≠ .left g m ∧ r.act ≠ .forget g) h

theorem listens_concat {h : List PresenceReport} {r : PresenceReport} {g : GuildId} {m : MemberId} :
    Listens (h ++ [r]) g m ↔
      r.act = .joined g m ∨ Listens h g m ∧ r.act ≠ .left g m ∧ r.act ≠ .forget g :=
  since_concat

/-- With the report the only listener of a guild leaves at a moment. -/
def LastLeave (g : GuildId) (t : Nat) (h : List PresenceReport) (r : PresenceReport) : Prop :=
  ∃ m, r = ⟨t, .left g m⟩ ∧ ∀ n, Listens h g n ↔ n = m

/-- The report changes neither whether a guild is empty nor its mark. -/
def Unchanged (g : GuildId) (h : List PresenceReport) (r : PresenceReport) : Prop :=
  let before := Presence.ofReports h
  let after := Presence.ofReports (h ++ [r])
  (after.count g = 0 ↔ before.count g = 0) ∧ after.mark g = before.mark g

/-- The latest report that has changed whether a guild is empty, or its mark, is the leave of its only
listener at a moment. -/
def AloneSince (h : List PresenceReport) (g : GuildId) (t : Nat) : Prop :=
  Since (LastLeave g t) (Unchanged g) h

namespace Presence

theorem contains_ofReports (h : List PresenceReport) (g : GuildId) (m : MemberId) :
    (ofReports h).contains g m = true ↔ Listens h g m := by
  induction h using List.reverseRecOn with
  | nil =>
      have nobody : ¬ Listens [] g m := not_since_nil
      simp [nobody, ofReports, contains, listeners, Table.contains]
  | append_singleton h r ih => rw [ofReports_concat, contains_next, ih, listens_concat]

theorem apart_ofReports (h : List PresenceReport) : (ofReports h).Apart := by
  induction h using List.reverseRecOn with
  | nil => exact fun _ _ _ => rfl
  | append_singleton h r ih =>
      rw [ofReports_concat]
      exact ih.next r

theorem filled_ofReports (h : List PresenceReport) : (ofReports h).Filled := by
  induction h using List.reverseRecOn with
  | nil => exact fun _ _ => nofun
  | append_singleton h r ih =>
      rw [ofReports_concat]
      exact ih.next r

theorem sole_ofReports (h : List PresenceReport) (g : GuildId) (m : MemberId) :
    (ofReports h).Sole g m ↔ ∀ n, Listens h g n ↔ n = m :=
  forall_congr' fun n => by rw [contains_ofReports]

/-- The mark of a guild from the reports alone. -/
theorem mark_ofReports (h : List PresenceReport) (g : GuildId) (t : Nat) :
    (ofReports h).mark g = some t ↔ Since (LastLeave g t) (fun _ r => r.Quiet g) h := by
  induction h using List.reverseRecOn with
  | nil => exact ⟨nofun, fun since => absurd since not_since_nil⟩
  | append_singleton h r ih =>
      rw [ofReports_concat, (apart_ofReports h).mark_next, since_concat, ih, LastLeave]
      simp only [sole_ofReports]

/-- While a guild is marked, nothing changes about it but by what ends the mark. -/
theorem unchanged_iff {h : List PresenceReport} {g : GuildId} {t : Nat}
    (marked : (ofReports h).mark g = some t) (r : PresenceReport) :
    Unchanged g h r ↔ r.Quiet g := by
  have apart := apart_ofReports h
  have nobody (m : MemberId) : (ofReports h).contains g m = false := by
    cases listens : (ofReports h).contains g m with
    | false => rfl
    | true =>
        rw [apart g m listens] at marked
        cases marked
  have step := apart.mark_next g r t
  unfold Unchanged
  rw [ofReports_concat]
  constructor
  · rintro ⟨_, kept⟩
    rcases step.mp (kept.trans marked) with ⟨m, _, sole⟩ | ⟨_, quiet⟩
    · have listens := (sole m).mpr rfl
      rw [nobody m] at listens
      cases listens
    · exact quiet
  · intro quiet
    have empty : ((ofReports h).next r).count g = 0 := by
      apply (count_eq_zero _ g).mpr
      intro m
      apply Bool.eq_false_iff.mpr
      intro listens
      rcases (contains_next _ g m r).mp listens with joined | ⟨there, _⟩
      · exact quiet.joined m joined
      · rw [nobody m] at there
        cases there
    have before : (ofReports h).count g = 0 := (count_eq_zero _ g).mpr nobody
    exact ⟨iff_of_true empty before, (step.mpr (.inr ⟨marked, quiet⟩)).trans marked.symm⟩

theorem mark_iff_aloneSince (h : List PresenceReport) (g : GuildId) (t : Nat) :
    (ofReports h).mark g = some t ↔ AloneSince h g t := by
  induction h using List.reverseRecOn with
  | nil => exact ⟨nofun, fun since => absurd since not_since_nil⟩
  | append_singleton h r ih =>
      rw [mark_ofReports, since_concat, AloneSince, since_concat, ← mark_ofReports, ← AloneSince, ← ih]
      exact or_congr_right (and_congr_right fun marked => (unchanged_iff marked r).symm)

/-- What a presence shows is what has been reported. -/
structure Tells (p : Presence) (h : List PresenceReport) : Prop where
  contains : ∀ g m, p.contains g m = true ↔ Listens h g m
  listeners : ∀ g m, m ∈ (p.listeners g).members ↔ Listens h g m
  count : ∀ g, p.count g = (p.listeners g).members.card
  joined : ∀ g m, (p.joined g m).1 = true ↔ ¬ Listens h g m
  left : ∀ now g m, (p.left now g m).1 = true ↔ Listens h g m
  steps : ∀ now g m, p.left now g m = p.leftInSteps g m now
  /-- The leave of somebody who is not there changes nothing. -/
  stray : ∀ now g m, ¬ Listens h g m → (p.left now g m).2 = p
  apart : ∀ g m, Listens h g m → ∀ now, p.aloneFor now g = none
  alone : ∀ now g d, p.aloneFor now g = some d ↔ ∃ t, AloneSince h g t ∧ now - t = d
  /-- Whether a guild has been alone since a moment can be told from the acts alone. -/
  aloneSince : ∀ g t, AloneSince h g t ↔ Since (LastLeave g t) (fun _ r => r.Quiet g) h

/-- After any reports, a presence tells them. -/
theorem tells_reports (h : List PresenceReport) : (ofReports h).Tells h where
  contains := contains_ofReports h
  listeners g m := MemberSet.mem_members.trans (contains_ofReports h g m)
  count g := (MemberSet.card_members _).symm
  joined g m := by
    rw [← contains_ofReports, joined, Presence.contains]
    simp
  left now g m := by
    rw [← contains_ofReports]
    rcases (ofReports h).left_cases g m now with ⟨absent, same⟩ | ⟨sole, out, _⟩ | ⟨there, _, out, _⟩
    · simp [absent, same]
    · simp [out, (sole m).mpr rfl]
    · simp [out, there]
  steps now g m := (filled_ofReports h).left_eq g m now
  stray now g m absent := by
    rw [← contains_ofReports] at absent
    rw [Presence.left, if_neg absent]
  apart g m listens now := by
    have unmarked := apart_ofReports h g m ((contains_ofReports h g m).mpr listens)
    exact Option.map_eq_none_iff.mpr unmarked
  alone now g d := by
    rw [aloneFor_eq_some]
    exact exists_congr fun t => and_congr_left fun _ => mark_iff_aloneSince h g t
  aloneSince g t := by rw [← mark_iff_aloneSince, mark_ofReports]

/-- The only listener leaves at 40. That it leaves once more at 60 does not count. -/
example :
    let h : List PresenceReport :=
      [⟨10, .joined ⟨1⟩ ⟨7⟩⟩, ⟨40, .left ⟨1⟩ ⟨7⟩⟩, ⟨60, .left ⟨1⟩ ⟨7⟩⟩]
    (ofReports h).aloneFor 100 ⟨1⟩ = some 60 := by
  decide

end Presence

end Jukebox
