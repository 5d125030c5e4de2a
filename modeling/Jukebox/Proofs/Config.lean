import Jukebox.Config
import Jukebox.Proofs.Error
import Jukebox.Proofs.Settings.Bounds

/-!
What an accepted configuration guarantees: its defaults are settings that the player can use.
-/

namespace Jukebox

namespace Config

theorem pos_of_positive? {env : Environment} {v : String} {n : Nat}
    (read : positive? env v = .ok (some n)) : 0 < n := by
  unfold positive? at read
  split at read
  · cases read
  · next nonzero => exact Nat.pos_of_ne_zero fun zero => nonzero (by rw [read, zero])

theorem share_of_ratio? {env : Environment} {v : String} {n : Nat}
    (read : ratio? env v = .ok (some n)) : 1 ≤ n ∧ n ≤ 100 := by
  unfold ratio? at read
  split at read
  · split at read
    · cases read
    · cases read
      omega
  · next other => exact absurd read (other n)

theorem positive_getD {env : Environment} {v : String} {read : Option Nat} {default : Nat}
    (accepted : positive? env v = .ok read) (fallback : 0 < default) : 0 < read.getD default := by
  cases read with
  | none => exact fallback
  | some n => exact pos_of_positive? accepted

theorem ratio_getD {env : Environment} {v : String} {read : Option Nat} {default : Nat}
    (accepted : ratio? env v = .ok read) (fallback : 1 ≤ default ∧ default ≤ 100) :
    1 ≤ read.getD default ∧ read.getD default ≤ 100 := by
  cases read with
  | none => exact fallback
  | some n => exact share_of_ratio? accepted

/-- The defaults of an accepted environment can be used. -/
theorem defaults_usable {env : Environment} {config : Config}
    (accepted : ofEnvironment env = .ok config) : config.defaults.Usable := by
  unfold ofEnvironment at accepted
  obtain ⟨_, share, accepted⟩ := Except.ok_of_bind accepted
  obtain ⟨_, voting, accepted⟩ := Except.ok_of_bind accepted
  obtain ⟨_, _, accepted⟩ := Except.ok_of_bind accepted
  obtain ⟨_, patience, accepted⟩ := Except.ok_of_bind accepted
  obtain ⟨_, leaving, accepted⟩ := Except.ok_of_bind accepted
  obtain ⟨_, _, accepted⟩ := Except.ok_of_bind accepted
  obtain ⟨_, room, accepted⟩ := Except.ok_of_bind accepted
  obtain ⟨_, _, accepted⟩ := Except.ok_of_bind accepted
  obtain ⟨_, _, accepted⟩ := Except.ok_of_bind accepted
  obtain ⟨_, _, accepted⟩ := Except.ok_of_bind accepted
  obtain ⟨_, _, accepted⟩ := Except.ok_of_bind accepted
  obtain ⟨_, _, accepted⟩ := Except.ok_of_bind accepted
  obtain ⟨_, _, accepted⟩ := Except.ok_of_bind accepted
  cases accepted
  exact
    { share := ratio_getD share (by decide)
      voting := positive_getD voting (by decide)
      room := positive_getD room (by decide)
      patience := positive_getD patience (by decide)
      leaving := positive_getD leaving (by decide) }

end Config

end Jukebox
