import Mathlib.Data.List.GetD
import Mp3Decoder.Mad.Constants

/-!
# The transform of nine values (`fastsdct`)

The lines of `fastsdct` over any type with the operations they need, as for `dct32`: on real numbers
they are the cosine transform of nine values, and on words the error is within the budget that the
same lines make of the budgets of the inputs.
-/

namespace Mp3Decoder

open Finset

/-! ### The lines -/

section
variable {α : Type*} [Add α] [Sub α] (double : α → α) (mul : ℕ → α → α)

/-- `fastsdct`, where `mul i` makes `m_i` -/
def fastsdctLines (x : ℕ → α) : List α :=
  let a0 := x 3 + x 5
  let a1 := x 3 - x 5
  let a2 := x 6 + x 2
  let a3 := x 6 - x 2
  let a4 := x 1 + x 7
  let a5 := x 1 - x 7
  let a6 := x 8 + x 0
  let a7 := x 8 - x 0
  let a8 := a0 + a2
  let a9 := a0 - a2
  let a10 := a0 - a6
  let a11 := a2 - a6
  let a12 := a8 + a6
  let a13 := a1 - a3
  let a14 := a13 + a7
  let a15 := a3 + a7
  let a16 := a1 - a7
  let a17 := a1 + a3
  let m0 := mul 0 a17
  let m1 := mul 1 a16
  let m2 := mul 2 a15
  let m3 := mul 3 a14
  let m4 := mul 4 a5
  let m5 := mul 5 a11
  let m6 := mul 6 a10
  let m7 := mul 7 a9
  let a18 := x 4 + a4
  let a19 := double (x 4) - a4
  let a20 := a19 + m5
  let a21 := a19 - m5
  let a22 := a19 + m6
  let a23 := m4 + m2
  let a24 := m4 - m2
  let a25 := m4 + m1
  [a18 + a12, m0 - a25, m7 - a20, m3, a21 - m6, a24 - m1, a12 - double a18, a23 + m0, a22 + m7]

end

/-- The factors of `m0`, ..., `m7` -/
def sdctWords : List ℤ := [
  -0x1491b752, -0x1f838b8d, -0x0af1d43a, -0x1bb67ae8, -0x1bb67ae8, 0x1e11f642, -0x058e86a0,
  -0x18836fa3]

/-- How many times ten degrees their angles are -/
def sdctTens : List ℕ := [13, 17, 11, 15, 15, 2, 10, 14]

theorem fastsdct_eq (x : ℕ → Fixed) :
    fastsdct x = fastsdctLines (2 * ·) (fun i => scaleWord 12 16 (sdctWords.getD i 0)) x := rfl

/-! ### Over the real numbers -/

/-- Twice the cosine of `n` times ten degrees -/
noncomputable def tenCos (n : ℕ) : ℝ :=
  (2 : ℕ) * Real.cos (n * (Real.pi / (18 : ℕ)))

theorem tenCos_eq (n : ℕ) : tenCos n = 2 * Real.cos (n * (Real.pi / 18)) := by
  rw [tenCos]
  push_cast
  rfl

theorem tenCos_sub_eighteen {n : ℕ} (hn : n ≤ 18) : tenCos (18 - n) = -tenCos n := by
  have hturn : ((18 - n : ℕ) : ℝ) * (Real.pi / 18) = Real.pi - n * (Real.pi / 18) := by
    rw [Nat.cast_sub hn]
    push_cast
    ring
  rw [tenCos_eq, hturn, Real.cos_pi_sub, tenCos_eq, mul_neg]

theorem tenCos_add_eighteen (n : ℕ) : tenCos (n + 18) = -tenCos n := by
  have hturn : ((n + 18 : ℕ) : ℝ) * (Real.pi / 18) = n * (Real.pi / 18) + Real.pi := by
    push_cast
    ring
  rw [tenCos_eq, hturn, Real.cos_add_pi, tenCos_eq, mul_neg]

/-- Twice a cosine times another is the sum of two. -/
theorem tenCos_mul {m n : ℕ} (h : n ≤ m) :
    tenCos m * tenCos n = tenCos (m + n) + tenCos (m - n) := by
  have hsum : ((m + n : ℕ) : ℝ) * (Real.pi / 18) = m * (Real.pi / 18) + n * (Real.pi / 18) := by
    push_cast
    ring
  have hdiff : ((m - n : ℕ) : ℝ) * (Real.pi / 18) = m * (Real.pi / 18) - n * (Real.pi / 18) := by
    rw [Nat.cast_sub h]
    ring
  rw [tenCos_eq, tenCos_eq, tenCos_eq, tenCos_eq, hsum, hdiff, Real.cos_add, Real.cos_sub]
  ring

theorem tenCos_zero : tenCos 0 = 2 := by
  rw [tenCos_eq, Nat.cast_zero, zero_mul, Real.cos_zero, mul_one]

theorem tenCos_six : tenCos 6 = 1 := by
  have hthird : ((6 : ℕ) : ℝ) * (Real.pi / 18) = Real.pi / 3 := by
    push_cast
    ring
  rw [tenCos_eq, hthird, Real.cos_pi_div_three]
  norm_num

theorem tenCos_nine : tenCos 9 = 0 := by
  have hright : ((9 : ℕ) : ℝ) * (Real.pi / 18) = Real.pi / 2 := by
    push_cast
    ring
  rw [tenCos_eq, hright, Real.cos_pi_div_two, mul_zero]

/-- A multiple of ten degrees in terms of 30, 40, 50, 70 and 80 degrees -/
noncomputable def tenBase : ℕ → ℝ
  | 0 => (2 : ℕ)
  | 1 => tenCos 5 + tenCos 7
  | 2 => tenCos 4 + tenCos 8
  | 6 => 1
  | 9 => 0
  | n => tenCos n

theorem tenCos_base {n : ℕ} (hn : n ≤ 9) : tenCos n = tenBase n := by
  have hone : tenCos 1 = tenCos 5 + tenCos 7 := by
    have hmul := tenCos_mul (show 1 ≤ 6 by omega)
    rw [tenCos_six, one_mul] at hmul
    rw [hmul, add_comm]
  have htwo : tenCos 2 = tenCos 4 + tenCos 8 := by
    have hmul := tenCos_mul (show 2 ≤ 6 by omega)
    rw [tenCos_six, one_mul] at hmul
    rw [hmul, add_comm]
  interval_cases n
  · exact tenCos_zero
  · exact hone
  · exact htwo
  · rfl
  · rfl
  · rfl
  · exact tenCos_six
  · rfl
  · rfl
  · exact tenCos_nine

/-- Any multiple, by the quadrant it lies in -/
noncomputable def tenValue (n : ℕ) : ℝ :=
  if n % 36 ≤ 9 then tenBase (n % 36)
  else if n % 36 ≤ 18 then -tenBase (18 - n % 36)
  else if n % 36 ≤ 27 then -tenBase (n % 36 - 18)
  else tenBase (36 - n % 36)

theorem tenCos_eq_value (n : ℕ) : tenCos n = tenValue n := by
  have hperiod : ∀ turns, tenCos (n % 36 + 36 * turns) = tenCos (n % 36) := by
    intro turns
    induction turns with
    | zero => rfl
    | succ turns ih =>
      rw [show n % 36 + 36 * (turns + 1) = n % 36 + 36 * turns + 18 + 18 by omega,
        tenCos_add_eighteen, tenCos_add_eighteen, neg_neg, ih]
  have hlt : n % 36 < 36 := Nat.mod_lt n (by omega)
  have hwhole := hperiod (n / 36)
  rw [Nat.mod_add_div] at hwhole
  rw [hwhole, tenValue]
  generalize n % 36 = m at hlt
  split_ifs with hfirst hsecond hthird
  · exact tenCos_base hfirst
  · rw [← tenCos_base (by omega), tenCos_sub_eighteen hsecond, neg_neg]
  · rw [← tenCos_base (by omega), ← tenCos_add_eighteen, Nat.sub_add_cancel (by omega)]
  · have hsub := tenCos_sub_eighteen (show m - 18 ≤ 18 by omega)
    rw [← tenCos_base (by omega), show 36 - m = 18 - (m - 18) by omega, hsub,
      ← tenCos_add_eighteen, Nat.sub_add_cancel (by omega)]

/-- Output `k` of the transform of nine values: the first is not doubled. -/
noncomputable def sdctNine (r : ℕ → ℝ) (k : ℕ) : ℝ :=
  ∑ i ∈ range 9, r i * (if k = 0 then 1 else tenCos ((2 * i + 1) * k))

theorem fastsdctLines_real (r : ℕ → ℝ) {k : ℕ} (hk : k < 9) :
    (fastsdctLines (2 * ·) (fun i x => x * tenCos (sdctTens.getD i 9)) r).getD k 0 =
      sdctNine r k := by
  interval_cases k
  all_goals
    simp only [fastsdctLines, sdctNine, sdctTens, sum_range_succ, sum_range_zero,
      List.getD_cons_zero, List.getD_cons_succ, tenCos_eq_value]
    norm_num [tenValue, tenBase]
    ring

/-! ### On words -/

/-- A word that is nearest to a number is a factor of that number. -/
theorem NearestWord.factor {c : ℤ} {value : ℝ} (h : NearestWord (BitVec.ofInt 32 c) value)
    (hc : c.natAbs < 2 ^ 31) : |(c : ℝ) - 2 ^ (12 + 16) * value| ≤ 1 := by
  rw [nearestWord_iff, toInt_of_bounds (BitVec.toInt_ofInt c) hc] at h
  refine h.trans ?_
  norm_num

theorem sdctWords_close (i : ℕ) :
    |(sdctWords.getD i 0 : ℝ) - 2 ^ (12 + 16) * tenCos (sdctTens.getD i 9)| ≤ 1 := by
  have hrounds : ∀ i < 8, Rounds (BitVec.ofInt 32 (sdctWords.getD i 0)) 2
      (4 * sdctTens.getD i 9) ∧ (sdctWords.getD i 0).natAbs < 2 ^ 31 := by
    decide +kernel
  by_cases hi : i < 8
  · obtain ⟨hround, hfits⟩ := hrounds i hi
    have hangle : ((4 * sdctTens.getD i 9 : ℕ) : ℝ) * (Real.pi / 72) =
        (sdctTens.getD i 9 : ℕ) * (Real.pi / 18) := by
      push_cast
      ring
    have hclose := hround.twice.factor hfits
    rw [hangle] at hclose
    exact hclose
  · have hword : sdctWords.getD i 0 = 0 :=
      List.getD_eq_default _ _ (by simpa [sdctWords] using Nat.le_of_not_lt hi)
    have hten : sdctTens.getD i 9 = 9 :=
      List.getD_eq_default _ _ (by simpa [sdctTens] using Nat.le_of_not_lt hi)
    rw [hword, hten, tenCos_nine]
    norm_num

/-- The lines on budgets -/
def fastsdctBudget (b : ℕ → Budget) (k : ℕ) : Budget :=
  (fastsdctLines Budget.double (fun i => Budget.scale 12 16 (sdctWords.getD i 0)) b).getD k
    ⟨false, 0, 0⟩

theorem fastsdct_holds {b : ℕ → Budget} {x : ℕ → Fixed} {r : ℕ → ℝ}
    (h : ∀ i < 9, (b i).Holds (x i) (r i)) {k : ℕ} (hk : k < 9) :
    (fastsdctBudget b k).Holds ((fastsdct x).getD k 0) (sdctNine r k) := by
  obtain ⟨tracked, htracked⟩ : ∃ tracked : ℕ → Tracked, tracked =
      fun i => if hi : i < 9 then ⟨x i, r i, b i, h i hi⟩ else Tracked.unknown := ⟨_, rfl⟩
  have hrun := ((fastsdctLines Tracked.double
    (fun i => Tracked.scale 12 16 (sdctWords_close i)) tracked).getD k Tracked.unknown).holds
  rw [htracked] at hrun
  rw [← fastsdctLines_real r hk, fastsdct_eq, fastsdctBudget]
  interval_cases k
  all_goals exact hrun

end Mp3Decoder
