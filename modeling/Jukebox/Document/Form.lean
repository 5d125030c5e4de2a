import Jukebox.Document.Basic

/-!
Written forms: how values become documents, and which documents are read as values.

A record is read by the names of its fields. Fields it does not know are passed over, unless the
record says that it is closed, but none that it knows may stand in it twice; an optional field may be
missing. A record may also be given as the list of all its fields in order.
-/

namespace Jukebox

/-- Types whose values are written as documents. -/
class Writable (α : Type) where
  write : α → Document

/-- Types whose values are read from documents. -/
class Readable (α : Type) where
  read? : Document → Option α

namespace Document

def of {α : Type} [Writable α] (a : α) : Document := Writable.write a

def as? (α : Type) [Readable α] (d : Document) : Option α := Readable.read? d

/-- Reads a number from zero to a limit. -/
def natUpTo? (limit : Nat) : Document → Option Nat
  | number n => if 0 ≤ n ∧ n.toNat ≤ limit then some n.toNat else none
  | _ => none

end Document

instance : Writable Document := ⟨id⟩
instance : Writable Nat := ⟨fun n => .number n⟩
instance : Writable UInt8 := ⟨fun n => .number n.toNat⟩
instance : Writable UInt32 := ⟨fun n => .number n.toNat⟩
instance : Writable UInt64 := ⟨fun n => .number n.toNat⟩
instance : Writable Bool := ⟨.flag⟩
instance : Writable String := ⟨.text⟩
instance : Writable Unit := ⟨fun _ => .null⟩

instance {α : Type} [Writable α] : Writable (Option α) where
  write
    | none => .null
    | some a => .of a

instance {α : Type} [Writable α] : Writable (List α) where
  write as := .list (as.map .of)

/-- A pair is written as a list of two. -/
instance {α β : Type} [Writable α] [Writable β] : Writable (α × β) where
  write p := .list [.of p.1, .of p.2]

instance : Readable UInt8 := ⟨fun d => (d.natUpTo? 255).map UInt8.ofNat⟩
instance : Readable UInt32 := ⟨fun d => (d.natUpTo? (UInt32.size - 1)).map UInt32.ofNat⟩
instance : Readable UInt64 := ⟨fun d => (d.natUpTo? (UInt64.size - 1)).map UInt64.ofNat⟩

instance : Readable Bool where
  read?
    | .flag b => some b
    | _ => none

instance : Readable String where
  read?
    | .text s => some s
    | _ => none

/-- The null document is the form of no value. -/
instance {α : Type} [Readable α] : Readable (Option α) where
  read?
    | .null => some none
    | d => (d.as? α).map some

namespace Document

/-- No field of that name stands twice in the record. -/
def isSingle (fields : List (String × Document)) (name : String) : Bool :=
  fields.countP (fun f => f.1 = name) ≤ 1

/-- The fields of a record in the order of their names, each if it is there. -/
def fields? (names : List String) : Document → Option (List (Option Document))
  | record fields =>
    if names.all (isSingle fields) then some (names.map fun name => fields.lookup name) else none
  | list items => if items.length = names.length then some (items.map some) else none
  | _ => none

/-- Whether a document, if it is a record, has no fields but those named. -/
def isClosed (names : List String) : Document → Bool
  | record fields => fields.all fun f => names.contains f.1
  | _ => true

def required? (α : Type) [Readable α] (field : Option Document) : Option α :=
  field.bind (as? α)

def optional? (α : Type) [Readable α] : Option Document → Option (Option α)
  | none => some none
  | some d => d.as? (Option α)

end Document

end Jukebox
