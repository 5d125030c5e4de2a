import Jukebox.Document.Form

/-!
Forms of documents. A form says which documents are read, and as what each of them is written again. A type
follows a form when its values are read and written in this way and no value is lost by writing it.
-/

namespace Jukebox.Document

/-- The second document is what the first one is written as after it has been read. -/
abbrev Form := Document → Document → Prop

namespace Form

/-- A whole number from zero to a limit. -/
def word (limit : Nat) : Form := fun d e => ∃ n : Nat, n ≤ limit ∧ d = .number n ∧ e = d

def flag : Form := fun d e => ∃ b, d = .flag b ∧ e = d

def text : Form := fun d e => ∃ s, d = .text s ∧ e = d

/-- One of the names, or a record that has the name as its only field and null in it. -/
def name (names : List String) : Form := fun d e =>
  ∃ s ∈ names, (d = .text s ∨ d = .record [(s, .null)]) ∧ e = .text s

def either (F G : Form) : Form := fun d e => F d e ∨ G d e

def optional (F : Form) : Form := fun d e => d = .null ∧ e = .null ∨ d ≠ .null ∧ F d e

/-- A field of a record. One that may be null may be missing, and null is written for it. -/
inductive Cell (F : Form) : Option Document → Document → Prop
  | present {d e : Document} (read : F d e) : Cell F (some d) e
  | missing (nullable : F .null .null) : Cell F none .null

inductive Cells : List (String × Form) → List (Option Document) → List (String × Document) → Prop
  | nil : Cells [] [] []
  | cons {name : String} {F : Form} {fs : List (String × Form)} {x : Option Document}
      {xs : List (Option Document)} {e : Document} {out : List (String × Document)}
      (first : Cell F x e) (rest : Cells fs xs out) :
      Cells ((name, F) :: fs) (x :: xs) ((name, e) :: out)

/-- A record with these fields, none of which is given twice; it may also be given as the list of them all.
Other fields do not matter and are not written. -/
inductive record (fs : List (String × Form)) : Form
  | named {given out : List (String × Document)}
      (single : ∀ f ∈ fs, given.countP (fun g => g.1 = f.1) ≤ 1)
      (cells : Cells fs (fs.map fun f => given.lookup f.1) out) :
      record fs (.record given) (.record out)
  | ordered {items : List Document} {out : List (String × Document)}
      (cells : Cells fs (items.map some) out) : record fs (.list items) (.record out)

theorem Cells.length_eq {fs : List (String × Form)} {xs : List (Option Document)}
    {out : List (String × Document)} (h : Cells fs xs out) : xs.length = fs.length := by
  induction h with
  | nil => rfl
  | cons _ _ ih => exact congrArg Nat.succ ih

theorem fields?_eq_some_iff {names : List String} {d : Document} {xs : List (Option Document)} :
    d.fields? names = some xs ↔
      (∃ given, d = .record given ∧ names.all (isSingle given) = true ∧
        xs = names.map fun name => given.lookup name) ∨
      ∃ items, d = .list items ∧ items.length = names.length ∧ xs = items.map some := by
  constructor
  · intro found
    cases d with
    | record given =>
        rw [fields?, Option.ite_none_right_eq_some] at found
        obtain ⟨single, same⟩ := found
        exact .inl ⟨given, rfl, single, (Option.some.inj same).symm⟩
    | list items =>
        rw [fields?, Option.ite_none_right_eq_some] at found
        obtain ⟨length, same⟩ := found
        exact .inr ⟨items, rfl, length, (Option.some.inj same).symm⟩
    | _ => cases found
  · rintro (⟨given, rfl, single, rfl⟩ | ⟨items, rfl, length, rfl⟩)
    · exact if_pos single
    · exact if_pos length

theorem length_of_fields? {names : List String} {d : Document} {xs : List (Option Document)}
    (found : d.fields? names = some xs) : xs.length = names.length := by
  rcases fields?_eq_some_iff.mp found with ⟨given, _, _, rfl⟩ | ⟨items, _, length, rfl⟩
  · exact List.length_map _
  · rwa [List.length_map]

theorem record_iff {fs : List (String × Form)} {d e : Document} :
    record fs d e ↔ ∃ xs out, d.fields? (fs.map (·.1)) = some xs ∧ Cells fs xs out ∧
      e = .record out := by
  constructor
  · rintro (@⟨given, out, single, cells⟩ | @⟨items, out, cells⟩)
    · have all : (fs.map (·.1)).all (isSingle given) = true := by simpa [isSingle] using single
      refine ⟨_, out, fields?_eq_some_iff.mpr (.inl ⟨given, rfl, all, rfl⟩), ?_, rfl⟩
      rwa [List.map_map]
    · have length : items.length = (fs.map (·.1)).length := by
        rw [List.length_map, ← cells.length_eq, List.length_map]
      exact ⟨_, out, fields?_eq_some_iff.mpr (.inr ⟨items, rfl, length, rfl⟩), cells, rfl⟩
  · rintro ⟨xs, out, found, cells, rfl⟩
    rcases fields?_eq_some_iff.mp found with ⟨given, rfl, all, rfl⟩ | ⟨items, rfl, _, rfl⟩
    · refine .named (by simpa [isSingle] using all) ?_
      rwa [List.map_map] at cells
    · exact .ordered cells

end Form

/-- The values of a type are read and written as the form says, and read back as they were. -/
structure Follows (α : Type) [Writable α] [Readable α] (F : Form) : Prop where
  back : ∀ a : α, (Document.of a).as? α = some a
  exact : ∀ d e, F d e ↔ ∃ a : α, d.as? α = some a ∧ Document.of a = e
  solid : Document.null.as? α = none

namespace Form

/-- Reading a field gives the values whose documents its cell allows. -/
def Reads {β : Type} [Writable β] (F : Form) (x : Option Document) (m : Option β) : Prop :=
  ∀ e, Cell F x e ↔ ∃ b, m = some b ∧ Document.of b = e

variable {α : Type} [Writable α]

/-- Reading the fields that are left of a record gives the values that are written with what the fields before
them have given and with what the cells of these fields allow. -/
structure Filled (before : List (String × Document)) (fs : List (String × Form))
    (xs : List (Option Document)) (r : Option α) : Prop where
  sound : ∀ a, r = some a → ∃ out, Cells fs xs out ∧ Document.of a = .record (before ++ out)
  complete : ∀ out, Cells fs xs out → ∃ a, r = some a ∧ Document.of a = .record (before ++ out)

variable {before : List (String × Document)}

theorem Filled.done {a : α} (whole : Document.of a = .record before) :
    Filled before [] [] (some a) where
  sound := by
    rintro a' ⟨⟩
    exact ⟨[], .nil, by rw [whole, List.append_nil]⟩
  complete := by
    rintro out ⟨⟩
    exact ⟨a, rfl, by rw [whole, List.append_nil]⟩

theorem Filled.bind {β : Type} [Writable β] {name : String} {F : Form} {fs : List (String × Form)}
    {x : Option Document} {xs : List (Option Document)} {m : Option β} {k : β → Option α}
    (field : Reads F x m) (rest : ∀ b, Filled (before ++ [(name, .of b)]) fs xs (k b)) :
    Filled before ((name, F) :: fs) (x :: xs) (m >>= k) where
  sound := by
    intro a same
    obtain ⟨b, read, same⟩ := Option.bind_eq_some_iff.mp same
    obtain ⟨out, cells, whole⟩ := (rest b).sound a same
    refine ⟨(name, .of b) :: out, .cons ((field _).mpr ⟨b, read, rfl⟩) cells, ?_⟩
    rw [whole, List.append_assoc, List.singleton_append]
  complete := by
    rintro _ (_ | ⟨first, cells⟩)
    obtain ⟨b, rfl, rfl⟩ := (field _).mp first
    obtain ⟨a, same, whole⟩ := (rest b).complete _ cells
    refine ⟨a, same, ?_⟩
    rw [whole, List.append_assoc, List.singleton_append]

end Form

namespace Follows

variable {α : Type} [Writable α] [Readable α] {F : Form}

theorem not_null (h : Follows α F) (e : Document) : ¬ F .null e := by
  intro read
  obtain ⟨a, same, _⟩ := (h.exact _ _).mp read
  cases h.solid.symm.trans same

theorem required (h : Follows α F) (x : Option Document) : Form.Reads F x (required? α x) := by
  intro e
  cases x with
  | none =>
      constructor
      · rintro ⟨⟩
        exact absurd ‹_› (h.not_null _)
      · rintro ⟨b, ⟨⟩, _⟩
  | some d =>
      constructor
      · rintro (⟨read⟩ | _)
        exact (h.exact d e).mp read
      · exact fun read => .present ((h.exact d e).mpr read)

omit [Writable α] in
theorem as?_option {d : Document} (some : d ≠ .null) :
    d.as? (Option α) = (d.as? α).map Option.some := by
  cases d <;> first | rfl | exact absurd rfl some

theorem optional (h : Follows α F) (x : Option Document) :
    Form.Reads F.optional x (optional? α x) := by
  intro e
  cases x with
  | none =>
      constructor
      · rintro ⟨⟩
        exact ⟨none, rfl, rfl⟩
      · rintro ⟨_, ⟨⟩, rfl⟩
        exact .missing (.inl ⟨rfl, rfl⟩)
  | some d =>
      constructor
      · rintro (⟨⟨rfl, rfl⟩ | ⟨some, read⟩⟩ | _)
        · exact ⟨none, rfl, rfl⟩
        · obtain ⟨a, same, rfl⟩ := (h.exact d e).mp read
          exact ⟨.some a, by rw [optional?, as?_option some, same]; rfl, rfl⟩
      · rintro ⟨o, same, rfl⟩
        refine .present ?_
        by_cases null : d = .null
        · subst null
          cases same
          exact .inl ⟨rfl, rfl⟩
        · rw [optional?, as?_option null] at same
          obtain ⟨a, read, rfl⟩ := Option.map_eq_some_iff.mp same
          exact .inr ⟨null, (h.exact d _).mpr ⟨a, read, rfl⟩⟩

theorem back_option (h : Follows α F) (o : Option α) :
    (Document.of o).as? (Option α) = some o := by
  cases o with
  | none => rfl
  | some a =>
      have solid : Document.of a ≠ .null := by
        intro null
        have read := h.back a
        rw [null, h.solid] at read
        cases read
      exact (as?_option solid).trans (congrArg (Option.map Option.some) (h.back a))

theorem of_record {fs : List (String × Form)} (names : List String) (named : fs.map (·.1) = names)
    (unread : ∀ d : Document, d.fields? names = none → d.as? α = none)
    (filled : ∀ (d : Document) xs, xs.length = fs.length → d.fields? names = some xs →
      Form.Filled [] fs xs (d.as? α))
    (back : ∀ a : α, (Document.of a).as? α = some a) : Follows α (Form.record fs) where
  back := back
  exact := by
    subst named
    intro d e
    rw [Form.record_iff]
    constructor
    · rintro ⟨xs, out, found, cells, rfl⟩
      exact (filled d xs cells.length_eq found).complete out cells
    · rintro ⟨a, same, rfl⟩
      cases found : d.fields? (fs.map (·.1)) with
      | none => cases (unread d found).symm.trans same
      | some xs =>
          have length : xs.length = fs.length :=
            (Form.length_of_fields? found).trans (List.length_map _)
          obtain ⟨out, cells, whole⟩ := (filled d xs length found).sound a same
          exact ⟨xs, out, rfl, cells, whole⟩
  solid := unread _ rfl

end Follows

end Jukebox.Document
