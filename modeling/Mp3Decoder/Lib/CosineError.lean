import Mp3Decoder.Lib.ErrorBudget
import Mp3Decoder.Lib.FastCosine

/-!
# How exact the fast cosine transform is

The fast cosine transform on words of 32 bits, against the transform of the numbers they stand for.
The error of an odd output is made of the errors of all those before it.  The outputs themselves do
not grow like that, so the budget of each is capped by what the transform can be.
-/

open Finset

namespace FastCosine

/-- The budgets of the odd outputs, which are at most `magnitude` large. -/
def oddBudget (double : Budget → Budget) (magnitude : ℕ) (half : ℕ → Budget) : ℕ → Budget
  | 0 => half 0
  | k + 1 => (double (half (k + 1)) - oddBudget double magnitude half k).cap magnitude

/-- What an output of the transform can be at most. -/
def largest (count : ℕ) (b : ℕ → Budget) : ℕ := ∑ i ∈ range count, (b i).magnitude

/-- The budget of output `k`, from those of the inputs.  `words j` is the cosine of `j` times the
angle. -/
def cosineBudget (p q : ℕ) (words : ℕ → ℤ) : ℕ → ℕ → (ℕ → Budget) → ℕ → Budget
  | 0, _, b, _ => b 0
  | n + 1, stride, b, k =>
    if k % 2 = 0 then
      cosineBudget p q words n (2 * stride) (fun i => b i + b (2 ^ (n + 1) - 1 - i)) (k / 2)
    else
      oddBudget Budget.double (largest (2 ^ (n + 1)) b) (cosineBudget p q words n (2 * stride) fun i =>
        (b i - b (2 ^ (n + 1) - 1 - i)).scale p q (words ((2 * i + 1) * stride))) (k / 2)

theorem abs_cosineSum_le {count : ℕ} {b : ℕ → Budget} {r : ℕ → ℝ}
    (hr : ∀ i < count, |r i| ≤ (b i).magnitude) (angle : ℝ) (k : ℕ) :
    |cosineSum count angle r k| ≤ largest count b := by
  rw [cosineSum_eq]
  calc |∑ i ∈ range count, r i * Real.cos ((2 * i + 1) * k * angle)|
      ≤ ∑ i ∈ range count, |r i * Real.cos ((2 * i + 1) * k * angle)| := abs_sum_le_sum_abs _ _
    _ ≤ ∑ i ∈ range count, ((b i).magnitude : ℝ) := by
        refine sum_le_sum ?_
        intro i hi
        rw [abs_mul]
        calc |r i| * |Real.cos ((2 * i + 1) * k * angle)| ≤ (b i).magnitude * 1 :=
              mul_le_mul (hr i (mem_range.mp hi)) (Real.abs_cos_le_one _) (abs_nonneg _)
                (Nat.cast_nonneg _)
          _ = (b i).magnitude := mul_one _
    _ = largest count b := (Nat.cast_sum _ _).symm

/-- The transform on words. -/
def fastCosineWord (p q : ℕ) (words : ℕ → ℤ) : ℕ → ℕ → (ℕ → BitVec 32) → ℕ → BitVec 32 :=
  fastCosine (· * 2) fun j => scaleWord p q (words j)

section
variable {p q : ℕ} {words : ℕ → ℤ} {angle : ℝ} {b : ℕ → Budget} {x : ℕ → BitVec 32} {r : ℕ → ℝ}

/-- One odd output after the other. -/
theorem oddBudget_holds {double : Budget → Budget} {doubleWord : BitVec 32 → BitVec 32}
    {doubleReal : ℝ → ℝ} {magnitude count : ℕ} {halfBudget : ℕ → Budget} {half : ℕ → BitVec 32}
    (halfReal out : ℕ → ℝ)
    (hdouble : ∀ b x r, Budget.Holds b x r → (double b).Holds (doubleWord x) (doubleReal r))
    (hzero : halfReal 0 = out 0) (hsucc : ∀ k, doubleReal (halfReal (k + 1)) - out k = out (k + 1))
    (hsmall : ∀ k, |out k| ≤ magnitude)
    (hhalf : ∀ k < count, (halfBudget k).Holds (half k) (halfReal k)) :
    ∀ k < count, (oddBudget double magnitude halfBudget k).Holds
      (oddOutput doubleWord half k) (out k) := by
  intro k
  induction k with
  | zero =>
    intro hk
    rw [← hzero]
    exact hhalf 0 hk
  | succ k ih =>
    intro hk
    have hnext := (hdouble _ _ _ (hhalf (k + 1) hk)).sub (ih (by omega))
    rw [hsucc] at hnext
    exact hnext.cap (hsmall (k + 1))

/-- The cosines of the differences belong to angles below the right angle. -/
theorem odd_index {n stride : ℕ} (hangle : 2 ^ (n + 2) * (stride * angle) = Real.pi) {i : ℕ}
    (hi : i < 2 ^ n) :
    0 < (2 * i + 1) * stride ∧ 2 * (((2 * i + 1) * stride : ℕ) * angle) < Real.pi := by
  have hpositive : 0 < stride * angle := by
    have hpow : (0 : ℝ) < 2 ^ (n + 2) := by positivity
    by_contra hneg
    have hproduct := mul_nonpos_of_nonneg_of_nonpos hpow.le (not_lt.mp hneg)
    linarith [Real.pi_pos]
  constructor
  · refine Nat.mul_pos (by omega) (Nat.pos_of_ne_zero ?_)
    rintro rfl
    rw [Nat.cast_zero, zero_mul] at hpositive
    exact lt_irrefl _ hpositive
  · have hlt : 2 * (2 * (i : ℝ) + 1) < 2 ^ (n + 2) := by
      exact_mod_cast (by rw [pow_succ, pow_succ]; omega : 2 * (2 * i + 1) < 2 ^ (n + 2))
    calc 2 * (((2 * i + 1) * stride : ℕ) * angle)
        = 2 * (2 * i + 1) * (stride * angle) := by push_cast; ring
      _ < 2 ^ (n + 2) * (stride * angle) := mul_lt_mul_of_pos_right hlt hpositive
      _ = Real.pi := hangle

/-- **The error of every output** is within its budget. -/
theorem fastCosineWord_holds {n stride : ℕ} (hangle : 2 ^ (n + 1) * (stride * angle) = Real.pi)
    (hwords : ∀ j : ℕ, 0 < j → 2 * (j * angle) < Real.pi →
      |(words j : ℝ) - 2 ^ (p + q) * Real.cos (j * angle)| ≤ 1)
    (hx : ∀ i < 2 ^ n, (b i).Holds (x i) (r i)) {k : ℕ} (hk : k < 2 ^ n) :
    (cosineBudget p q words n stride b k).Holds (fastCosineWord p q words n stride x k)
      (cosineSum (2 ^ n) (stride * angle) r k) := by
  induction n generalizing stride b x r k with
  | zero =>
    have hzero : cosineSum (2 ^ 0) (stride * angle) r k = r 0 := by
      rw [cosineSum_eq, pow_zero, sum_range_one, show k = 0 by omega]
      simp
    rw [hzero]
    exact hx 0 Nat.one_pos
  | succ n ih =>
    obtain ⟨hhalf, hnext, hstride⟩ := halve_angle hangle
    rw [pow_succ'] at hx hk
    have hlt : k / 2 < 2 ^ n := by omega
    have hpair : ∀ i < 2 ^ n, i < 2 * 2 ^ n ∧ 2 * 2 ^ n - 1 - i < 2 * 2 ^ n := by
      intro i hi
      omega
    rw [fastCosineWord, fastCosine, cosineBudget, pow_succ' 2 n]
    by_cases heven : k % 2 = 0
    · rw [if_pos heven, if_pos heven]
      have hsums := ih hnext (fun i hi => (hx i (hpair i hi).1).add (hx _ (hpair i hi).2)) hlt
      rw [hstride, ← cosineSum_even hhalf, show 2 * (k / 2) = k by omega] at hsums
      exact hsums
    · rw [if_neg heven, if_neg heven]
      have hdifferences : ∀ i < 2 ^ n, ((b i - b (2 * 2 ^ n - 1 - i)).scale p q
          (words ((2 * i + 1) * stride))).Holds
          (scaleWord p q (words ((2 * i + 1) * stride)) (x i - x (2 * 2 ^ n - 1 - i)))
          ((r i - r (2 * 2 ^ n - 1 - i)) * Real.cos ((2 * i + 1) * (stride * angle))) := by
        intro i hi
        have hcos : Real.cos ((2 * i + 1) * (stride * angle)) =
            Real.cos (((2 * i + 1) * stride : ℕ) * angle) := by
          push_cast
          ring_nf
        obtain ⟨hindex, hbelow⟩ := odd_index hangle hi
        rw [hcos]
        exact ((hx i (hpair i hi).1).sub (hx _ (hpair i hi).2)).scale (hwords _ hindex hbelow)
      have hhalves : ∀ j < 2 ^ n, (cosineBudget p q words n (2 * stride)
          (fun i => (b i - b (2 * 2 ^ n - 1 - i)).scale p q (words ((2 * i + 1) * stride)))
          j).Holds (fastCosineWord p q words n (2 * stride) (fun i => scaleWord p q
            (words ((2 * i + 1) * stride)) (x i - x (2 * 2 ^ n - 1 - i))) j)
          (differenceSum (2 ^ n) (stride * angle) r j) := by
        intro j hj
        have hout := ih hnext hdifferences hj
        rw [hstride] at hout
        rw [differenceSum_eq]
        exact hout
      have hdoubles : ∀ (b : Budget) (x : BitVec 32) (r : ℝ), b.Holds x r →
          b.double.Holds (x * 2) ((fun s => 2 * s) r) := fun _ _ _ h => h.double
      have hodd := oddBudget_holds (differenceSum (2 ^ n) (stride * angle) r)
        (fun j => cosineSum (2 * 2 ^ n) (stride * angle) r (2 * j + 1)) hdoubles
        (differenceSum_zero hhalf r)
        (fun j => by rw [differenceSum_succ hhalf, add_sub_cancel_right])
        (fun j => abs_cosineSum_le (fun i hi => (hx i hi).small) _ _) hhalves (k / 2) hlt
      rw [show 2 * (k / 2) + 1 = k by omega] at hodd
      exact hodd

end

end FastCosine
