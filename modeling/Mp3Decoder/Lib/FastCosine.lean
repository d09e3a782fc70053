import Mathlib

/-!
# The fast cosine transform

A cosine transform of `2^n` values is made of two of half the size: the even outputs transform the
sums of the values that lie symmetrically, and the odd outputs come from the transform of their
differences, each first multiplied with a cosine.  Two neighbouring odd outputs add up to twice one
output of the second transform, so they are found one after the other.

The recursion is over any type with the operations it needs.  Over the real numbers it computes the
transform (`fastCosine_eq_sum`).
-/

open Finset

namespace FastCosine

section
variable {α : Type*} [Sub α] (double : α → α)

/-- The odd outputs of a transform, from the outputs of the half that has the differences. -/
def oddOutput (half : ℕ → α) : ℕ → α
  | 0 => half 0
  | k + 1 => double (half (k + 1)) - oddOutput half k

variable [Add α] (mulCos : ℕ → α → α)

/-- Output `k` of the transform of `2^n` values, where `mulCos j` multiplies with the cosine of `j`
times an angle and neighbouring values are `2 * stride` of these angles apart. -/
def fastCosine : ℕ → ℕ → (ℕ → α) → ℕ → α
  | 0, _, x, _ => x 0
  | n + 1, stride, x, k =>
    if k % 2 = 0 then
      fastCosine n (2 * stride) (fun i => x i + x (2 ^ (n + 1) - 1 - i)) (k / 2)
    else
      oddOutput double (fastCosine n (2 * stride)
        fun i => mulCos ((2 * i + 1) * stride) (x i - x (2 ^ (n + 1) - 1 - i))) (k / 2)

end

/-- A loop that takes each output from the next: entry `place k` of the array is output `k`. -/
theorem foldl_oddOutput {α : Type*} [Sub α] (op : α → α) {place : ℕ → ℕ}
    (hplace : place.Injective) (n : ℕ) (x : ℕ → α) :
    let out := (List.range n).foldl (fun x k =>
      Function.update x (place (k + 1)) (op (x (place (k + 1))) - x (place k))) x
    (∀ k ≤ n, out (place k) = oddOutput op (fun k => x (place k)) k) ∧
      ∀ i, (∀ k < n, i ≠ place (k + 1)) → out i = x i := by
  induction n with
  | zero =>
    refine ⟨?_, fun i _ => rfl⟩
    intro k hk
    rw [Nat.le_zero.mp hk]
    rfl
  | succ n ih =>
    obtain ⟨hout, hother⟩ := ih
    rw [List.range_succ, List.foldl_append]
    generalize (List.range n).foldl _ x = y at hout hother ⊢
    rw [List.foldl_cons, List.foldl_nil]
    constructor
    · intro k hk
      rcases Nat.lt_or_eq_of_le hk with hlt | rfl
      · have hne : place k ≠ place (n + 1) := fun heq => by
          have := hplace heq
          omega
        rw [Function.update_of_ne hne]
        exact hout k (by omega)
      · have hkeep : y (place (n + 1)) = x (place (n + 1)) := by
          refine hother _ ?_
          intro k hlt heq
          have := hplace heq
          omega
        rw [Function.update_self, hkeep, hout n le_rfl, oddOutput]
    · intro i hi
      rw [Function.update_of_ne (hi n (by omega))]
      exact hother i fun k hk => hi k (by omega)

/-! ### Over the real numbers -/

/-- Output `k` of the cosine transform of `count` values -/
noncomputable def cosineSum (count : ℕ) (angle : ℝ) (x : ℕ → ℝ) (k : ℕ) : ℝ :=
  ∑ i ∈ range count, x i * Real.cos ((2 * i + 1 : ℕ) * k * angle)

theorem cosineSum_eq (count : ℕ) (angle : ℝ) (x : ℕ → ℝ) (k : ℕ) :
    cosineSum count angle x k = ∑ i ∈ range count, x i * Real.cos ((2 * i + 1) * k * angle) := by
  rw [cosineSum]
  push_cast
  rfl

/-- The values in symmetric pairs. -/
theorem sum_pairs (half : ℕ) (f : ℕ → ℝ) :
    ∑ i ∈ range (2 * half), f i = ∑ i ∈ range half, (f i + f (2 * half - 1 - i)) := by
  rw [two_mul, sum_range_add, sum_add_distrib]
  congr 1
  rw [← sum_range_reflect]
  refine sum_congr rfl ?_
  intro i hi
  have hi := mem_range.mp hi
  congr 1
  omega

section
variable {half : ℕ} {angle : ℝ} (hangle : 4 * half * angle = Real.pi)
include hangle

/-- The cosines of a symmetric pair agree at an even output and are opposite at an odd one. -/
theorem cos_pair {i : ℕ} (hi : i < half) (k : ℕ) :
    Real.cos ((2 * (2 * half - 1 - i : ℕ) + 1) * k * angle) =
      (-1) ^ k * Real.cos ((2 * i + 1) * k * angle) := by
  have hcast : ((2 * half - 1 - i : ℕ) : ℝ) = 2 * half - 1 - i := by
    rw [Nat.cast_sub (by omega), Nat.cast_sub (by omega)]
    push_cast
    ring
  have hturn : (2 * (2 * half - 1 - i : ℕ) + 1) * k * angle =
      k * Real.pi - (2 * i + 1) * k * angle := by
    rw [hcast, ← hangle]
    ring
  rw [hturn, Real.cos_nat_mul_pi_sub]

theorem cosineSum_even (x : ℕ → ℝ) (k : ℕ) :
    cosineSum (2 * half) angle x (2 * k) =
      cosineSum half (2 * angle) (fun i => x i + x (2 * half - 1 - i)) k := by
  rw [cosineSum_eq, cosineSum_eq, sum_pairs]
  refine sum_congr rfl ?_
  intro i hi
  have hpair := cos_pair hangle (mem_range.mp hi) (2 * k)
  rw [Even.neg_one_pow ⟨k, two_mul k⟩, one_mul] at hpair
  rw [hpair, ← add_mul]
  congr 2
  push_cast
  ring

theorem cosineSum_odd (x : ℕ → ℝ) (k : ℕ) :
    cosineSum (2 * half) angle x (2 * k + 1) =
      ∑ i ∈ range half, (x i - x (2 * half - 1 - i)) *
        Real.cos ((2 * i + 1) * (2 * k + 1 : ℕ) * angle) := by
  rw [cosineSum_eq, sum_pairs]
  refine sum_congr rfl ?_
  intro i hi
  have hpair := cos_pair hangle (mem_range.mp hi) (2 * k + 1)
  rw [Odd.neg_one_pow ⟨k, rfl⟩, neg_one_mul] at hpair
  rw [hpair]
  ring

end

/-- The half that has the differences. -/
noncomputable def differenceSum (half : ℕ) (angle : ℝ) (x : ℕ → ℝ) : ℕ → ℝ :=
  cosineSum half ((2 : ℕ) * angle) fun i =>
    (x i - x (2 * half - 1 - i)) * Real.cos ((2 * i + 1 : ℕ) * angle)

theorem differenceSum_eq (half : ℕ) (angle : ℝ) (x : ℕ → ℝ) :
    differenceSum half angle x = cosineSum half (2 * angle) fun i =>
      (x i - x (2 * half - 1 - i)) * Real.cos ((2 * i + 1) * angle) := by
  rw [differenceSum]
  push_cast
  rfl

section
variable {half : ℕ} {angle : ℝ} (hangle : 4 * half * angle = Real.pi)
include hangle

theorem differenceSum_zero (x : ℕ → ℝ) :
    differenceSum half angle x 0 = cosineSum (2 * half) angle x 1 := by
  have hodd := cosineSum_odd hangle x 0
  rw [Nat.mul_zero, Nat.zero_add] at hodd
  rw [hodd, differenceSum_eq, cosineSum_eq]
  refine sum_congr rfl ?_
  intro i _
  rw [Nat.cast_zero, mul_zero, zero_mul, Real.cos_zero, mul_one, Nat.cast_one, mul_one]

/-- Twice the product of two cosines is the sum of two cosines. -/
theorem differenceSum_succ (x : ℕ → ℝ) (k : ℕ) :
    2 * differenceSum half angle x (k + 1) =
      cosineSum (2 * half) angle x (2 * (k + 1) + 1) +
        cosineSum (2 * half) angle x (2 * k + 1) := by
  rw [cosineSum_odd hangle, cosineSum_odd hangle, differenceSum_eq, cosineSum_eq, mul_sum,
    ← sum_add_distrib]
  refine sum_congr rfl ?_
  intro i _
  have hsum : Real.cos ((2 * i + 1) * (2 * (k + 1) + 1 : ℕ) * angle) +
      Real.cos ((2 * i + 1) * (2 * k + 1 : ℕ) * angle) =
        2 * Real.cos ((2 * i + 1) * angle) *
          Real.cos ((2 * i + 1) * (k + 1 : ℕ) * (2 * angle)) := by
    rw [Real.cos_add_cos]
    push_cast
    ring_nf
  rw [← mul_add, hsum]
  ring

theorem oddOutput_differenceSum (x : ℕ → ℝ) (k : ℕ) :
    oddOutput (2 * ·) (differenceSum half angle x) k =
      cosineSum (2 * half) angle x (2 * k + 1) := by
  induction k with
  | zero => exact differenceSum_zero hangle x
  | succ k ih =>
    rw [oddOutput, ih, differenceSum_succ hangle, add_sub_cancel_right]

end

/-! ### Odd multiples -/

/-- Output `k` of the transform at the odd multiples of the angle -/
noncomputable def oddCosineSum (count : ℕ) (angle : ℝ) (x : ℕ → ℝ) (k : ℕ) : ℝ :=
  ∑ i ∈ range count, x i * Real.cos ((2 * i + 1 : ℕ) * (2 * k + 1 : ℕ) * angle)

theorem oddCosineSum_eq (count : ℕ) (angle : ℝ) (x : ℕ → ℝ) (k : ℕ) : oddCosineSum count angle x k =
    ∑ i ∈ range count, x i * Real.cos ((2 * i + 1) * (2 * k + 1) * angle) := by
  rw [oddCosineSum]
  push_cast
  rfl

/-- The inputs of the transform that gives the outputs at odd multiples -/
noncomputable def oddScaled (angle : ℝ) (x : ℕ → ℝ) (i : ℕ) : ℝ :=
  x i * ((2 : ℕ) * Real.cos ((2 * i + 1 : ℕ) * angle))

theorem oddScaled_eq (angle : ℝ) (x : ℕ → ℝ) (i : ℕ) :
    oddScaled angle x i = x i * (2 * Real.cos ((2 * i + 1) * angle)) := by
  rw [oddScaled]
  push_cast
  rfl

theorem cosineSum_oddScaled_zero (count : ℕ) (angle : ℝ) (x : ℕ → ℝ) :
    cosineSum count (2 * angle) (oddScaled angle x) 0 = 2 * oddCosineSum count angle x 0 := by
  rw [cosineSum_eq, oddCosineSum_eq, mul_sum]
  refine sum_congr rfl ?_
  intro i _
  rw [oddScaled_eq, Nat.cast_zero, mul_zero, zero_mul, Real.cos_zero]
  ring_nf

theorem cosineSum_oddScaled_succ (count : ℕ) (angle : ℝ) (x : ℕ → ℝ) (k : ℕ) :
    cosineSum count (2 * angle) (oddScaled angle x) (k + 1) =
      oddCosineSum count angle x (k + 1) + oddCosineSum count angle x k := by
  rw [cosineSum_eq, oddCosineSum_eq, oddCosineSum_eq, ← sum_add_distrib]
  refine sum_congr rfl ?_
  intro i _
  have hsum : Real.cos ((2 * i + 1) * (2 * (k + 1 : ℕ) + 1) * angle) +
      Real.cos ((2 * i + 1) * (2 * k + 1) * angle) =
        2 * Real.cos ((2 * i + 1) * angle) *
          Real.cos ((2 * i + 1) * (k + 1 : ℕ) * (2 * angle)) := by
    rw [Real.cos_add_cos]
    push_cast
    ring_nf
  rw [← mul_add, hsum, oddScaled_eq]
  ring

/-! ### The recursion -/

/-- One level of the recursion -/
theorem halve_angle {n stride : ℕ} {angle : ℝ}
    (hangle : 2 ^ (n + 2) * (stride * angle) = Real.pi) :
    4 * (2 ^ n : ℕ) * (stride * angle) = Real.pi ∧
      2 ^ (n + 1) * ((2 * stride : ℕ) * angle) = Real.pi ∧
        ((2 * stride : ℕ) : ℝ) * angle = 2 * (stride * angle) := by
  rw [← hangle]
  push_cast
  refine ⟨?_, ?_, ?_⟩ <;> ring

/-- **The fast transform is the transform.** -/
theorem fastCosine_eq_sum {n stride : ℕ} {angle : ℝ}
    (hangle : 2 ^ (n + 1) * (stride * angle) = Real.pi) (x : ℕ → ℝ) {k : ℕ} (hk : k < 2 ^ n) :
    fastCosine (2 * ·) (fun j x => x * Real.cos (j * angle)) n stride x k =
      cosineSum (2 ^ n) (stride * angle) x k := by
  induction n generalizing stride x k with
  | zero =>
    rw [fastCosine, cosineSum_eq, pow_zero, sum_range_one, Nat.cast_zero, show k = 0 by omega]
    simp
  | succ n ih =>
    obtain ⟨hhalf, hnext, hstride⟩ := halve_angle hangle
    have hlt : k / 2 < 2 ^ n := by
      rw [pow_succ] at hk
      omega
    rw [fastCosine, pow_succ' 2 n]
    by_cases heven : k % 2 = 0
    · rw [if_pos heven, ih hnext _ hlt, hstride, ← cosineSum_even hhalf,
        show 2 * (k / 2) = k by omega]
    · have hdifferences : ∀ j < 2 ^ n, fastCosine (2 * ·) (fun j x => x * Real.cos (j * angle)) n
          (2 * stride) (fun i => (x i - x (2 * 2 ^ n - 1 - i)) *
            Real.cos (((2 * i + 1) * stride : ℕ) * angle)) j =
          differenceSum (2 ^ n) (stride * angle) x j := by
        intro j hj
        rw [ih hnext _ hj, hstride, differenceSum_eq]
        congr 1
        funext i
        congr 2
        push_cast
        ring
      have hodd : ∀ j < 2 ^ n, oddOutput (2 * ·) (fastCosine (2 * ·)
          (fun j x => x * Real.cos (j * angle)) n (2 * stride)
            (fun i => (x i - x (2 * 2 ^ n - 1 - i)) *
              Real.cos (((2 * i + 1) * stride : ℕ) * angle))) j =
          oddOutput (2 * ·) (differenceSum (2 ^ n) (stride * angle) x) j := by
        intro j
        induction j with
        | zero => exact hdifferences 0
        | succ j ihj =>
          intro hj
          rw [oddOutput, oddOutput, hdifferences _ hj, ihj (by omega)]
      rw [if_neg heven, hodd _ hlt, oddOutput_differenceSum hhalf,
        show 2 * (k / 2) + 1 = k by omega]

end FastCosine
