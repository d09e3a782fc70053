import Mathlib.Algebra.Group.Int.Defs
import Mathlib.Data.Int.Notation
import Mathlib.Data.Nat.Notation

/-!
# Signed machine integers

Signed arithmetic of 32 bits on integers, in which an overflow has no result.
-/

namespace MachineInt

/-- The value as an `int`. -/
def int32 (z : ℤ) : Option ℤ := if -2 ^ 31 ≤ z ∧ z < 2 ^ 31 then some z else none

theorem int32_of_mem {z : ℤ} (hle : -2 ^ 31 ≤ z) (hlt : z < 2 ^ 31) : int32 z = some z :=
  if_pos ⟨hle, hlt⟩

theorem int32_eq_some_iff {z w : ℤ} : int32 z = some w ↔ w = z ∧ -2 ^ 31 ≤ z ∧ z < 2 ^ 31 := by
  rw [int32]
  by_cases h : -2 ^ 31 ≤ z ∧ z < 2 ^ 31
  · rw [if_pos h]
    exact ⟨fun heq => ⟨(Option.some.inj heq).symm, h⟩, fun heq => congrArg some heq.1.symm⟩
  · rw [if_neg h]
    constructor
    · intro heq
      cases heq
    · intro heq
      exact absurd heq.2 h

end MachineInt
