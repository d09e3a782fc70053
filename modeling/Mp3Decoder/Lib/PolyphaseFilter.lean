import Mathlib.Algebra.BigOperators.Intervals
import Mathlib.Tactic.Ring

/-!
# The polyphase synthesis filter

The synthesis filter as its flow chart has it: each block of `n` inputs is turned into `2n` numbers
that are shifted into a long vector, every second half block of the vector is picked out, and a
window adds up what lies `n` apart.  Over the blocks seen so far the output is a sum over their ages.
-/

open Finset

namespace Polyphase

variable {α β : Type*} (n : ℕ) (matrix : β → ℕ → α)

/-- The long vector after one more block. -/
def shift (v : ℕ → α) (block : β) : ℕ → α := fun i =>
  if i < 2 * n then matrix block i else v (i - 2 * n)

/-- The half blocks that are picked out. -/
def pick (v : ℕ → α) : ℕ → α := fun i =>
  v (4 * n * (i / (2 * n)) + if i % (2 * n) < n then i % (2 * n) else 2 * n + i % (2 * n))

/-- Output `k` of a block. -/
def output [NonUnitalNonAssocSemiring α] (taps : ℕ) (window v : ℕ → α) (k : ℕ) : α :=
  ∑ j ∈ range taps, window (k + n * j) * pick n v (k + n * j)

/-- The long vector after some blocks, at first zero. -/
def run [Zero α] (blocks : List β) : ℕ → α := blocks.foldl (shift n matrix) fun _ => 0

/-- What the block `j` steps back was turned into, zero before the start. -/
def back [Zero α] (blocks : List β) (j i : ℕ) : α :=
  match blocks.reverse[j]? with
  | some block => matrix block i
  | none => 0

variable {n matrix}

theorem run_append [Zero α] (blocks : List β) (block : β) :
    run n matrix (blocks ++ [block]) = shift n matrix (run n matrix blocks) block := by
  rw [run, List.foldl_append, List.foldl_cons, List.foldl_nil, run]

/-- The vector holds the blocks by age. -/
theorem run_eq_back [Zero α] (blocks : List β) (j : ℕ) {i : ℕ} (hi : i < 2 * n) :
    run n matrix blocks (2 * n * j + i) = back matrix blocks j i := by
  induction blocks using List.reverseRecOn generalizing j with
  | nil => rfl
  | append_singleton blocks block ih =>
    rw [run_append, shift, back, List.reverse_append, List.reverse_singleton,
      List.singleton_append]
    cases j with
    | zero =>
      rw [Nat.mul_zero, Nat.zero_add, if_pos hi]
      rfl
    | succ j =>
      have hage : 2 * n * (j + 1) + i - 2 * n = 2 * n * j + i := by
        rw [Nat.mul_succ]
        omega
      have hfar : ¬2 * n * (j + 1) + i < 2 * n := by
        rw [Nat.mul_succ]
        omega
      rw [if_neg hfar, hage, ih, List.getElem?_cons_succ, back]

/-- The picked entry `k + n * j` belongs to the block `j` steps back. -/
theorem pick_run [Zero α] (blocks : List β) {k : ℕ} (hk : k < n) (j : ℕ) :
    pick n (run n matrix blocks) (k + n * j) = back matrix blocks j (k + n * (j % 2)) := by
  obtain ⟨half, hhalf⟩ : ∃ half, j = 2 * half + j % 2 := ⟨j / 2, by omega⟩
  have hn : 0 < 2 * n := by omega
  have hrest : k + n * (j % 2) < 2 * n := by
    rcases Nat.mod_two_eq_zero_or_one j with h | h
    · rw [h]
      omega
    · rw [h]
      omega
  have hplace : k + n * j = k + n * (j % 2) + 2 * n * half := by
    conv_lhs => rw [hhalf]
    ring
  have hquotient : (k + n * j) / (2 * n) = half := by
    rw [hplace, Nat.add_mul_div_left _ _ hn, Nat.div_eq_of_lt hrest, Nat.zero_add]
  have hremainder : (k + n * j) % (2 * n) = k + n * (j % 2) := by
    rw [hplace, Nat.add_mul_mod_self_left, Nat.mod_eq_of_lt hrest]
  rw [pick, hquotient, hremainder, ← run_eq_back blocks j hrest]
  congr 1
  rcases Nat.mod_two_eq_zero_or_one j with h | h
  · rw [h] at hhalf ⊢
    rw [if_pos (by omega), hhalf]
    ring
  · rw [h] at hhalf ⊢
    rw [if_neg (by omega), hhalf]
    ring

/-- **The output is a sum over the ages** of the blocks. -/
theorem output_run [NonUnitalNonAssocSemiring α] (taps : ℕ) (window : ℕ → α) (blocks : List β)
    {k : ℕ} (hk : k < n) :
    output n taps window (run n matrix blocks) k =
      ∑ j ∈ range taps, window (k + n * j) * back matrix blocks j (k + n * (j % 2)) := by
  refine sum_congr rfl ?_
  intro j _
  rw [pick_run blocks hk]

end Polyphase
