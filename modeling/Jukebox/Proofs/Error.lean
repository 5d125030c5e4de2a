import Jukebox.Error

/-!
How errors come about: the kinds that matter when a request fails, and what a chain of readings that
may fail gives.
-/

namespace Jukebox

namespace PlayerError

/-- The backend refused a track. -/
def isLoad : PlayerError → Bool
  | load _ => true
  | _ => false

/-- The member has no right to what was asked, or nothing of that name can be asked. -/
def isDenial : PlayerError → Bool
  | unauthorized _ | unknownCommand _ => true
  | _ => false

end PlayerError

theorem Except.ok_of_bind {ε α β : Type} {x : Except ε α} {f : α → Except ε β} {b : β}
    (h : (x >>= f) = .ok b) : ∃ a, x = .ok a ∧ f a = .ok b := by
  cases x with
  | error e => cases h
  | ok a => exact ⟨a, rfl, h⟩

theorem Except.error_of_map {ε α β : Type} {x : Except ε α} {f : α → β} {e : ε}
    (h : x.map f = .error e) : x = .error e := by
  cases x with
  | error e' =>
      cases h
      rfl
  | ok a => cases h

/-- A reading fails for nothing but malformed input. -/
def Reads {α : Type} (x : Except PlayerError α) : Prop :=
  ∀ e, x = .error e → ∃ text, e = .validation text

namespace Reads

theorem ok {α : Type} (a : α) : Reads (.ok a) := nofun

theorem invalid {α : Type} (text : String) :
    Reads (.error (.validation text) : Except PlayerError α) := by
  intro e same
  cases same
  exact ⟨text, rfl⟩

theorem bind {α β : Type} {x : Except PlayerError α} {f : α → Except PlayerError β} (h : Reads x)
    (later : ∀ a, Reads (f a)) : Reads (x >>= f) := by
  cases x with
  | error e =>
      intro e' same
      cases same
      exact h e rfl
  | ok a => exact later a

end Reads

/-- Whatever a reading gives has a property. -/
def Gives {ε α : Type} (P : α → Prop) (x : Except ε α) : Prop := ∀ a, x = .ok a → P a

namespace Gives

theorem ok {ε α : Type} {P : α → Prop} {a : α} (h : P a) : Gives P (.ok a : Except ε α) := by
  intro b same
  cases same
  exact h

theorem bind {ε α β : Type} {P : β → Prop} {x : Except ε α} {f : α → Except ε β}
    (later : ∀ a, Gives P (f a)) : Gives P (x >>= f) := by
  intro b same
  obtain ⟨a, _, read⟩ := Except.ok_of_bind same
  exact later a b read

end Gives

end Jukebox
