import Mathlib

/-!
# Lapped transforms

A modified cosine transform turns `2N` values into `N` lines, and blocks of values overlap by half.
The inverse transform mixes each value with its mirror image in the same half of the block.  Where two
blocks overlap they are weighted with slopes whose squares add up to one: then the mirror images
cancel and the values come back.

A block may also be split into three short ones in its middle.  Seen from its neighbours it then has
steeper slopes, and nothing else changes.
-/

open Finset

namespace LappedTransform

/-! ### Sums of cosines at odd multiples -/

noncomputable def oddCosines (N : ℕ) (a : ℝ) : ℝ :=
  ∑ k ∈ range N, Real.cos ((2 * k + 1 : ℕ) * a)

theorem oddCosines_eq (N : ℕ) (a : ℝ) :
    oddCosines N a = ∑ k ∈ range N, Real.cos ((2 * k + 1) * a) := by
  rw [oddCosines]
  push_cast
  rfl

theorem sin_mul_oddCosines (N : ℕ) (a : ℝ) :
    2 * Real.sin a * oddCosines N a = Real.sin (2 * N * a) := by
  induction N with
  | zero =>
    rw [oddCosines_eq, sum_range_zero, mul_zero, Nat.cast_zero, mul_zero, zero_mul, Real.sin_zero]
  | succ N ih =>
    have hstep := Real.sin_sub_sin (2 * (N + 1 : ℕ) * a) (2 * N * a)
    have hdiff : (2 * (N + 1 : ℕ) * a - 2 * N * a) / 2 = a := by
      push_cast
      ring
    have hmean : (2 * (N + 1 : ℕ) * a + 2 * N * a) / 2 = (2 * N + 1) * a := by
      push_cast
      ring
    rw [hdiff, hmean] at hstep
    rw [oddCosines_eq, sum_range_succ, mul_add, ← oddCosines_eq, ih, ← hstep, add_sub_cancel]

theorem oddCosines_add_pi (N : ℕ) (a : ℝ) : oddCosines N (a + Real.pi) = -oddCosines N a := by
  rw [oddCosines_eq, oddCosines_eq, ← sum_neg_distrib]
  refine sum_congr rfl ?_
  intro k _
  have hturn : (2 * k + 1) * (a + Real.pi) = (2 * k + 1) * a + Real.pi + k * (2 * Real.pi) := by
    ring
  rw [hturn, Real.cos_add_nat_mul_two_pi, Real.cos_add_pi]

section
variable {N : ℕ}

theorem step_mul (hN : 0 < N) : 2 * N * (Real.pi / (2 * N)) = Real.pi := by
  have hpos : (0 : ℝ) < N := Nat.cast_pos.mpr hN
  field_simp

/-- Below half a turn only the zero angle is left. -/
theorem oddCosines_small (hN : 0 < N) {j : ℤ} (hlow : -(2 * N : ℤ) < j) (hhigh : j < 2 * N) :
    oddCosines N (j * (Real.pi / (2 * N))) = if j = 0 then (N : ℝ) else 0 := by
  split_ifs with hj
  · rw [hj, oddCosines_eq]
    simp
  have hstep : 0 < Real.pi / (2 * N) := by
    have hpos : (0 : ℝ) < N := Nat.cast_pos.mpr hN
    have hpi := Real.pi_pos
    positivity
  have hbelow : (j : ℝ) * (Real.pi / (2 * N)) < Real.pi := by
    calc (j : ℝ) * (Real.pi / (2 * N)) < 2 * N * (Real.pi / (2 * N)) :=
          mul_lt_mul_of_pos_right (by exact_mod_cast hhigh) hstep
      _ = Real.pi := step_mul hN
  have habove : -Real.pi < j * (Real.pi / (2 * N)) := by
    calc -Real.pi = -(2 * N) * (Real.pi / (2 * N)) := by rw [neg_mul, step_mul hN]
      _ < j * (Real.pi / (2 * N)) := mul_lt_mul_of_pos_right (by exact_mod_cast hlow) hstep
  have hsin : Real.sin (j * (Real.pi / (2 * N))) ≠ 0 := by
    rw [Ne, Real.sin_eq_zero_iff_of_lt_of_lt habove hbelow, mul_eq_zero, not_or]
    exact ⟨Int.cast_ne_zero.mpr hj, hstep.ne'⟩
  have hsum := sin_mul_oddCosines N (j * (Real.pi / (2 * N)))
  have hwhole : 2 * N * (j * (Real.pi / (2 * N))) = j * Real.pi := by
    rw [mul_left_comm, step_mul hN]
  rw [hwhole, Real.sin_int_mul_pi] at hsum
  exact (mul_eq_zero.mp hsum).resolve_left (mul_ne_zero two_ne_zero hsin)

/-! ### The transforms -/

/-- The cosine of value `n` in line `k` -/
noncomputable def kernel (N n k : ℕ) : ℝ :=
  Real.cos ((2 * n + 1 + N : ℕ) * (2 * k + 1 : ℕ) * (Real.pi / (4 * N : ℕ)))

theorem kernel_eq (N n k : ℕ) :
    kernel N n k = Real.cos ((2 * n + 1 + N) * (2 * k + 1) * (Real.pi / (4 * N))) := by
  rw [kernel]
  push_cast
  rfl

/-- The lines of `2N` values -/
noncomputable def lines (N : ℕ) (z : ℕ → ℝ) (k : ℕ) : ℝ := ∑ n ∈ range (2 * N), z n * kernel N n k

/-- The values that `N` lines are turned into -/
noncomputable def values (N : ℕ) (x : ℕ → ℝ) (n : ℕ) : ℝ := ∑ k ∈ range N, x k * kernel N n k

/-- A value with its mirror image -/
noncomputable def aliased (N : ℕ) (z : ℕ → ℝ) (n : ℕ) : ℝ :=
  if n < N then z n - z (N - 1 - n) else z n + z (3 * N - 1 - n)

/-- How two values meet in all lines together. -/
theorem sum_kernel (hN : 0 < N) {n m : ℕ} (hn : n < 2 * N) (hm : m < 2 * N) :
    ∑ k ∈ range N, kernel N m k * kernel N n k = N / 2 *
      ((if m = n then 1 else 0) - (if n + m + 1 = N then 1 else 0) +
        if n + m + 1 = 3 * N then 1 else 0) := by
  have hpos : (0 : ℝ) < N := Nat.cast_pos.mpr hN
  have hproduct : ∀ k, 2 * (kernel N m k * kernel N n k) =
      Real.cos ((2 * k + 1) * (((m - n : ℤ) : ℝ) * (Real.pi / (2 * N)))) +
        Real.cos ((2 * k + 1) * (((n + m + 1 - N : ℤ) : ℝ) * (Real.pi / (2 * N)) + Real.pi)) := by
    intro k
    have hmean : ((2 * k + 1) * (((n + m + 1 - N : ℤ) : ℝ) * (Real.pi / (2 * N)) + Real.pi) +
        (2 * k + 1) * (((m - n : ℤ) : ℝ) * (Real.pi / (2 * N)))) / 2 =
          (2 * m + 1 + N) * (2 * k + 1) * (Real.pi / (4 * N)) := by
      push_cast
      field_simp
      ring
    have hdiff : ((2 * k + 1) * (((n + m + 1 - N : ℤ) : ℝ) * (Real.pi / (2 * N)) + Real.pi) -
        (2 * k + 1) * (((m - n : ℤ) : ℝ) * (Real.pi / (2 * N)))) / 2 =
          (2 * n + 1 + N) * (2 * k + 1) * (Real.pi / (4 * N)) := by
      push_cast
      field_simp
      ring
    rw [add_comm, Real.cos_add_cos, hmean, hdiff, kernel_eq, kernel_eq, mul_assoc 2]
  have hdifference : oddCosines N (((m - n : ℤ) : ℝ) * (Real.pi / (2 * N))) =
      if m = n then (N : ℝ) else 0 := by
    rw [oddCosines_small hN (by omega) (by omega)]
    refine if_congr ?_ rfl rfl
    omega
  have hsum : oddCosines N (((n + m + 1 - N : ℤ) : ℝ) * (Real.pi / (2 * N)) + Real.pi) =
      -(if n + m + 1 = N then (N : ℝ) else 0) + if n + m + 1 = 3 * N then (N : ℝ) else 0 := by
    rw [oddCosines_add_pi]
    by_cases hfar : n + m + 1 < 3 * N
    · rw [oddCosines_small hN (by omega) (by omega), if_neg (by omega : ¬n + m + 1 = 3 * N),
        add_zero]
      congr 1
      refine if_congr ?_ rfl rfl
      omega
    · have hturn : ((n + m + 1 - N : ℤ) : ℝ) * (Real.pi / (2 * N)) =
          ((n + m + 1 - 3 * N : ℤ) : ℝ) * (Real.pi / (2 * N)) + Real.pi := by
        conv_rhs => rw [← step_mul hN]
        push_cast
        rw [step_mul hN]
        field_simp
        ring
      rw [hturn, oddCosines_add_pi, neg_neg, oddCosines_small hN (by omega) (by omega),
        if_neg (by omega : ¬n + m + 1 = N), neg_zero, zero_add]
      refine if_congr ?_ rfl rfl
      omega
  have htwice : 2 * ∑ k ∈ range N, kernel N m k * kernel N n k =
      oddCosines N (((m - n : ℤ) : ℝ) * (Real.pi / (2 * N))) +
        oddCosines N (((n + m + 1 - N : ℤ) : ℝ) * (Real.pi / (2 * N)) + Real.pi) := by
    rw [mul_sum, oddCosines_eq, oddCosines_eq, ← sum_add_distrib]
    exact sum_congr rfl fun k _ => hproduct k
  rw [hdifference, hsum] at htwice
  have hscale : ∀ p : Prop, [Decidable p] → (if p then (N : ℝ) else 0) = N * if p then 1 else 0 := by
    intro p _
    rw [mul_ite, mul_one, mul_zero]
  rw [hscale, hscale, hscale] at htwice
  linarith

/-- **The inverse transform** gives each value with its mirror image. -/
theorem values_lines (hN : 0 < N) (z : ℕ → ℝ) {n : ℕ} (hn : n < 2 * N) :
    values N (lines N z) n = N / 2 * aliased N z n := by
  have hexchange : values N (lines N z) n =
      ∑ m ∈ range (2 * N), z m * ∑ k ∈ range N, kernel N m k * kernel N n k := by
    simp only [values, lines, sum_mul, mul_sum]
    rw [sum_comm]
    refine sum_congr rfl fun m _ => sum_congr rfl fun k _ => mul_assoc _ _ _
  have hmeet : ∀ m ∈ range (2 * N), z m * ∑ k ∈ range N, kernel N m k * kernel N n k =
      N / 2 * ((if m = n then z m else 0) - (if n + m + 1 = N then z m else 0) +
        if n + m + 1 = 3 * N then z m else 0) := by
    intro m hm
    rw [sum_kernel hN hn (mem_range.mp hm), mul_left_comm, mul_add, mul_sub]
    simp only [mul_ite, mul_one, mul_zero]
  have hmirror : ∀ total, n < total → total - 1 - n < 2 * N →
      ∑ m ∈ range (2 * N), (if n + m + 1 = total then z m else 0) = z (total - 1 - n) := by
    intro total hlow hhigh
    rw [sum_eq_single (total - 1 - n)]
    · rw [if_pos (by omega)]
    · intro m _ hne
      rw [if_neg (by omega)]
    · intro hout
      exact absurd (mem_range.mpr hhigh) hout
  have hnone : ∀ total, (∀ m < 2 * N, n + m + 1 ≠ total) →
      ∑ m ∈ range (2 * N), (if n + m + 1 = total then z m else 0) = 0 := by
    intro total hne
    refine sum_eq_zero ?_
    intro m hm
    rw [if_neg (hne m (mem_range.mp hm))]
  rw [hexchange, sum_congr rfl hmeet, ← mul_sum, sum_add_distrib, sum_sub_distrib, sum_ite_eq',
    if_pos (mem_range.mpr hn), aliased]
  congr 1
  split_ifs with hlow
  · rw [hmirror N hlow (by omega), hnone (3 * N) (by omega), add_zero]
  · rw [hmirror (3 * N) (by omega) (by omega), hnone N (by omega), sub_zero]

end

/-! ### Slopes -/

/-- A slope rises over `N` values: its squares and those of its mirror image add up to one. -/
def Slope (N : ℕ) (h : ℕ → ℝ) : Prop := ∀ i < N, h i ^ 2 + h (N - 1 - i) ^ 2 = 1

/-- What a block that begins here gives. -/
noncomputable def rise (N : ℕ) (h s : ℕ → ℝ) (i : ℕ) : ℝ :=
  h i * (h i * s i - h (N - 1 - i) * s (N - 1 - i))

/-- What a block that ends here gives. -/
noncomputable def fall (N : ℕ) (h s : ℕ → ℝ) (i : ℕ) : ℝ :=
  h (N - 1 - i) * (h (N - 1 - i) * s i + h i * s (N - 1 - i))

/-- **The mirror images cancel.** -/
theorem fall_add_rise {N : ℕ} {h : ℕ → ℝ} (hslope : Slope N h) (s : ℕ → ℝ) {i : ℕ} (hi : i < N) :
    fall N h s i + rise N h s i = s i := by
  rw [fall, rise]
  linear_combination s i * hslope i hi

/-- The slope of a sine -/
noncomputable def sineSlope (N i : ℕ) : ℝ :=
  Real.sin ((2 * i + 1 : ℕ) * (Real.pi / (4 * N : ℕ)))

theorem sineSlope_eq (N i : ℕ) :
    sineSlope N i = Real.sin ((2 * i + 1) * (Real.pi / (4 * N))) := by
  rw [sineSlope]
  push_cast
  rfl

theorem sineSlope_slope (N : ℕ) : Slope N (sineSlope N) := by
  intro i hi
  have hpos : (0 : ℝ) < N := by exact_mod_cast (by omega : 0 < N)
  have hcast : ((N - 1 - i : ℕ) : ℝ) = N - 1 - i := by
    rw [Nat.cast_sub (by omega), Nat.cast_sub (by omega), Nat.cast_one]
  have hmirror : (2 * (N - 1 - i : ℕ) + 1) * (Real.pi / (4 * N)) =
      Real.pi / 2 - (2 * i + 1) * (Real.pi / (4 * N)) := by
    rw [hcast]
    field_simp
    ring
  rw [sineSlope_eq, sineSlope_eq, hmirror, Real.sin_pi_div_two_sub, Real.sin_sq_add_cos_sq]

/-- A rising slope and the mirror image of another -/
noncomputable def bell (N : ℕ) (left right : ℕ → ℝ) (n : ℕ) : ℝ :=
  if n < N then left n else right (2 * N - 1 - n)

theorem bell_left {N : ℕ} (left right : ℕ → ℝ) {n : ℕ} (hn : n < N) :
    bell N left right n = left n := if_pos hn

theorem bell_right {N : ℕ} (left right : ℕ → ℝ) {n : ℕ} (hn : N ≤ n) :
    bell N left right n = right (2 * N - 1 - n) := if_neg (Nat.not_lt.mpr hn)

/-- A block after both transforms, weighted before and after. -/
noncomputable def block (N : ℕ) (left right s : ℕ → ℝ) (n : ℕ) : ℝ :=
  bell N left right n *
    values N (fun k => (2 : ℕ) / N * lines N (fun m => bell N left right m * s m) k) n

section
variable {N : ℕ} (hN : 0 < N)
include hN

theorem block_eq (left right s : ℕ → ℝ) {n : ℕ} (hn : n < 2 * N) :
    block N left right s n =
      bell N left right n * aliased N (fun m => bell N left right m * s m) n := by
  have hpos : (0 : ℝ) < N := Nat.cast_pos.mpr hN
  have hscaled : values N (fun k => 2 / N * lines N (fun m => bell N left right m * s m) k) n =
      2 / N * values N (lines N fun m => bell N left right m * s m) n := by
    rw [values, values, mul_sum]
    exact sum_congr rfl fun k _ => mul_assoc _ _ _
  rw [block, Nat.cast_ofNat, hscaled, values_lines hN _ hn]
  field_simp

theorem block_rise (left right s : ℕ → ℝ) {n : ℕ} (hn : n < N) :
    block N left right s n = rise N left s n := by
  rw [block_eq hN left right s (by omega), rise, aliased, if_pos hn, bell, if_pos hn, bell,
    if_pos (by omega)]

theorem block_fall (left right s : ℕ → ℝ) {i : ℕ} (hi : i < N) :
    block N left right s (N + i) = fall N right (fun j => s (N + j)) i := by
  have hfar : ∀ j, ¬N + j < N := fun j => by omega
  have hmirror : 3 * N - 1 - (N + i) = N + (N - 1 - i) := by omega
  rw [block_eq hN left right s (by omega), fall, aliased, if_neg (hfar i), hmirror, bell,
    if_neg (hfar i), bell, if_neg (hfar _), show 2 * N - 1 - (N + i) = N - 1 - i by omega,
    show 2 * N - 1 - (N + (N - 1 - i)) = i by omega]

end

/-! ### Short blocks -/

/-- A slope of a third of the length in the middle -/
noncomputable def steep (M : ℕ) (h : ℕ → ℝ) (i : ℕ) : ℝ :=
  if i < M then 0 else if i < 2 * M then h (i - M) else 1

theorem steep_low {M : ℕ} (h : ℕ → ℝ) {i : ℕ} (hi : i < M) : steep M h i = 0 := if_pos hi

theorem steep_middle {M : ℕ} (h : ℕ → ℝ) {i : ℕ} (hlow : M ≤ i) (hhigh : i < 2 * M) :
    steep M h i = h (i - M) := by
  rw [steep, if_neg (Nat.not_lt.mpr hlow), if_pos hhigh]

theorem steep_high {M : ℕ} (h : ℕ → ℝ) {i : ℕ} (hi : 2 * M ≤ i) : steep M h i = 1 := by
  rw [steep, if_neg (by omega), if_neg (Nat.not_lt.mpr hi)]

/-- Three blocks of `2M` values, `M` apart in the middle of `6M` values -/
noncomputable def shortBlocks (M : ℕ) (h s : ℕ → ℝ) (n : ℕ) : ℝ :=
  ∑ w ∈ range 3, if M * (w + 1) ≤ n ∧ n < M * (w + 3) then
    block M h h (fun j => s (M * (w + 1) + j)) (n - M * (w + 1)) else 0

section
variable {M : ℕ} {h : ℕ → ℝ}

theorem steep_slope (hslope : Slope M h) : Slope (3 * M) (steep M h) := by
  intro i hi
  simp only [steep]
  rcases Nat.lt_or_ge i M with hfirst | hfirst
  · rw [if_pos hfirst, if_neg (by omega), if_neg (by omega)]
    norm_num
  · rcases Nat.lt_or_ge i (2 * M) with hsecond | hsecond
    · rw [if_neg (by omega), if_pos hsecond, if_neg (by omega), if_pos (by omega),
        show 3 * M - 1 - i - M = M - 1 - (i - M) by omega]
      exact hslope (i - M) (by omega)
    · rw [if_neg (by omega), if_neg (by omega), if_pos (by omega)]
      norm_num

theorem shortBlocks_eq (s : ℕ → ℝ) (n : ℕ) : shortBlocks M h s n =
    (if M ≤ n ∧ n < M + 2 * M then block M h h (fun j => s (M + j)) (n - M) else 0) +
    (if 2 * M ≤ n ∧ n < 2 * M + 2 * M then
      block M h h (fun j => s (2 * M + j)) (n - 2 * M) else 0) +
    (if 3 * M ≤ n ∧ n < 3 * M + 2 * M then
      block M h h (fun j => s (3 * M + j)) (n - 3 * M) else 0) := by
  rw [shortBlocks, sum_range_succ, sum_range_succ, sum_range_one]
  congr 1
  · congr 1
    · simp only [Nat.zero_add, Nat.mul_comm M, Nat.one_mul, show 3 * M = M + 2 * M by omega]
    · simp only [Nat.mul_comm M, Nat.reduceAdd, show 4 * M = 2 * M + 2 * M by omega]
  · simp only [Nat.mul_comm M, Nat.reduceAdd, show 5 * M = 3 * M + 2 * M by omega]

section
variable (hM : 0 < M) (s : ℕ → ℝ)
include hM

/-- One of the three blocks, from its start on -/
theorem short_term (a : ℕ) {n : ℕ} (hlow : a ≤ n) :
    (if a ≤ n ∧ n < a + 2 * M then block M h h (fun j => s (a + j)) (n - a) else 0) =
    if n < a + M then rise M h (fun j => s (a + j)) (n - a)
    else if n < a + 2 * M then fall M h (fun j => s (a + M + j)) (n - (a + M)) else 0 := by
  by_cases hfirst : n < a + M
  · rw [if_pos ⟨hlow, by omega⟩, if_pos hfirst]
    exact block_rise hM h h _ (by omega)
  · rw [if_neg hfirst]
    by_cases hsecond : n < a + 2 * M
    · rw [if_pos ⟨hlow, hsecond⟩, if_pos hsecond, show n - a = M + (n - (a + M)) by omega,
        block_fall hM h h _ (by omega)]
      simp only [add_assoc]
    · rw [if_neg fun hin => hsecond hin.2, if_neg hsecond]

/-- **Short blocks begin** like a long one with a steep slope. -/
theorem shortBlocks_rise (hslope : Slope M h) {n : ℕ} (hn : n < 3 * M) :
    shortBlocks M h s n = rise (3 * M) (steep M h) s n := by
  rw [shortBlocks_eq, rise, steep, steep, if_neg fun h : 3 * M ≤ n ∧ n < 3 * M + 2 * M => by omega,
    add_zero]
  rcases Nat.lt_or_ge n M with hfirst | hfirst
  · rw [if_neg fun h : M ≤ n ∧ n < M + 2 * M => by omega,
      if_neg fun h : 2 * M ≤ n ∧ n < 2 * M + 2 * M => by omega, if_pos hfirst]
    ring
  rw [short_term hM s M hfirst, if_neg (by omega : ¬n < M)]
  rcases Nat.lt_or_ge n (2 * M) with hsecond | hsecond
  · rw [if_pos (by omega), if_neg fun h : 2 * M ≤ n ∧ n < 2 * M + 2 * M => by omega, add_zero,
      if_pos hsecond, if_neg (by omega : ¬3 * M - 1 - n < M),
      if_pos (by omega : 3 * M - 1 - n < 2 * M), rise,
      show M + (n - M) = n by omega, show M + (M - 1 - (n - M)) = 3 * M - 1 - n by omega,
      show 3 * M - 1 - n - M = M - 1 - (n - M) by omega]
  · have hsame : n - (M + M) = n - 2 * M := by omega
    have hmeet := fall_add_rise hslope (fun j => s (2 * M + j)) (show n - 2 * M < M by omega)
    rw [show 2 * M + (n - 2 * M) = n by omega] at hmeet
    rw [if_neg (by omega), if_pos (by omega), short_term hM s (2 * M) hsecond, if_pos (by omega),
      if_neg (by omega : ¬n < 2 * M), if_pos (by omega : 3 * M - 1 - n < M), hsame,
      show M + M = 2 * M by omega, hmeet]
    ring

/-- **Short blocks end** like a long one with a steep slope. -/
theorem shortBlocks_fall (hslope : Slope M h) {i : ℕ} (hi : i < 3 * M) :
    shortBlocks M h s (3 * M + i) = fall (3 * M) (steep M h) (fun j => s (3 * M + j)) i := by
  rw [shortBlocks_eq, fall, steep, steep,
    if_neg fun h : M ≤ 3 * M + i ∧ 3 * M + i < M + 2 * M => by omega, zero_add]
  rcases Nat.lt_or_ge i M with hfirst | hfirst
  · have hmeet := fall_add_rise hslope (fun j => s (3 * M + j)) hfirst
    rw [short_term hM s (2 * M) (by omega), if_neg (by omega), if_pos (by omega),
      short_term hM s (3 * M) (by omega), if_pos (by omega), if_pos hfirst,
      if_neg (by omega : ¬3 * M - 1 - i < M), if_neg (by omega : ¬3 * M - 1 - i < 2 * M),
      show 2 * M + M = 3 * M by omega, show 3 * M + i - 3 * M = i by omega, hmeet]
    ring
  rw [if_neg fun h : 2 * M ≤ 3 * M + i ∧ 3 * M + i < 2 * M + 2 * M => by omega, zero_add,
    short_term hM s (3 * M) (by omega), if_neg (by omega), if_neg (by omega : ¬i < M)]
  rcases Nat.lt_or_ge i (2 * M) with hsecond | hsecond
  · rw [if_pos (by omega), if_neg (by omega : ¬3 * M - 1 - i < M),
      if_pos (by omega : 3 * M - 1 - i < 2 * M), if_pos hsecond, fall,
      show 3 * M + i - (3 * M + M) = i - M by omega,
      show 3 * M - 1 - i - M = M - 1 - (i - M) by omega,
      show 3 * M + M + (i - M) = 3 * M + i by omega,
      show 3 * M + M + (M - 1 - (i - M)) = 3 * M + (3 * M - 1 - i) by omega]
  · rw [if_neg (by omega), if_pos (by omega : 3 * M - 1 - i < M)]
    ring

end

end

end LappedTransform
