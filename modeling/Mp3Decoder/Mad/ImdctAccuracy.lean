import Mp3Decoder.Lib.LappedTransform
import Mp3Decoder.Mad.Sdct

/-!
# The inverse transforms of long and short blocks (`III_imdct_l`, `III_imdct_s`)

`imdct36` goes from `fastsdct` over `sdctII` and `dctIV`, each of which finds its outputs one after
the other from half as many.  Each step here is a transform of the numbers that the words stand for,
with a budget for what truncation adds.  The windowed blocks are those of the standard.
-/

namespace Mp3Decoder

open Finset FastCosine

/-- A factor with its value. -/
theorem NearestWord.close {word : Fixed} {value : ℝ} (h : NearestWord word value) :
    |(word.toInt : ℝ) - 2 ^ (12 + 16) * value| ≤ 1 :=
  (nearestWord_iff.mp h).trans (by norm_num)

theorem madFMul_eq (x w : Fixed) : madFMul x w = scaleWord 12 16 w.toInt x := by
  rw [scaleWord, BitVec.ofInt_toInt]
  rfl

theorem madFMul_holds {b : Budget} {x w : Fixed} {r value : ℝ} (hx : b.Holds x r)
    (hw : NearestWord w value) : (b.scale 12 16 w.toInt).Holds (madFMul x w) (r * value) := by
  rw [madFMul_eq]
  exact hx.scale hw.close

/-! ### `sdctII` -/

/-- A transform whose outputs but the first are doubled. -/
noncomputable def doubledSum (count : ℕ) (angle : ℝ) (r : ℕ → ℝ) (k : ℕ) : ℝ :=
  (if k = 0 then 1 else 2 : ℕ) * cosineSum count angle r k

theorem doubledSum_eq (count : ℕ) (angle : ℝ) (r : ℕ → ℝ) (k : ℕ) :
    doubledSum count angle r k = (if k = 0 then 1 else 2) * cosineSum count angle r k := by
  rw [doubledSum]
  push_cast
  rfl

theorem sdctNine_eq (r : ℕ → ℝ) (k : ℕ) : sdctNine r k = doubledSum 9 (Real.pi / 18) r k := by
  rw [sdctNine, doubledSum_eq, cosineSum_eq, mul_sum]
  refine sum_congr rfl ?_
  intro i _
  split_ifs with hk
  · rw [hk, Nat.cast_zero, mul_zero, zero_mul, Real.cos_zero, one_mul]
  · rw [tenCos_eq]
    push_cast
    ring

/-- The even outputs of `sdctII` -/
def sdctEven (x : ℕ → Fixed) (k : ℕ) : Fixed := (fastsdct fun i => x i + x (18 - i - 1)).getD k 0

/-- The odd outputs before the accumulation -/
def sdctOdd (x : ℕ → Fixed) (k : ℕ) : Fixed :=
  (fastsdct fun i => madFMul (x i - x (18 - i - 1)) (sdctScale.getD i 0)).getD k 0

theorem sdctII_eq (x : ℕ → Fixed) {k : ℕ} (hk : k < 18) :
    sdctII x k = if k % 2 = 0 then sdctEven x (k / 2) else oddOutput id (sdctOdd x) (k / 2) := by
  have hplace : Function.Injective fun k : ℕ => 2 * k + 1 := fun i j h => by
    have h : 2 * i + 1 = 2 * j + 1 := h
    omega
  obtain ⟨hout, hother⟩ := foldl_oddOutput (id : Fixed → Fixed) hplace 8
    fun i => if i % 2 = 0 then sdctEven x (i / 2) else sdctOdd x (i / 2)
  split_ifs with heven
  · have hkeep := hother k fun j _ => by omega
    rw [if_pos heven] at hkeep
    exact hkeep
  · have hodd := hout (k / 2) (by omega)
    have hhalf : (fun j => if (2 * j + 1) % 2 = 0 then sdctEven x ((2 * j + 1) / 2)
        else sdctOdd x ((2 * j + 1) / 2)) = sdctOdd x := by
      funext j
      rw [if_neg (by omega), show (2 * j + 1) / 2 = j by omega]
    rw [hhalf, show 2 * (k / 2) + 1 = k by omega] at hodd
    exact hodd

def sdctIIBudget (b : ℕ → Budget) (k : ℕ) : Budget :=
  if k % 2 = 0 then fastsdctBudget (fun i => b i + b (18 - i - 1)) (k / 2)
  else oddBudget id (2 * largest 18 b) (fastsdctBudget fun i =>
    (b i - b (18 - i - 1)).scale 12 16 (sdctScale.getD i 0).toInt) (k / 2)

section
variable {b : ℕ → Budget} {x : ℕ → Fixed} {r : ℕ → ℝ}

theorem sdctII_holds (hx : ∀ i < 18, (b i).Holds (x i) (r i)) {k : ℕ} (hk : k < 18) :
    (sdctIIBudget b k).Holds (sdctII x k) (doubledSum 18 (Real.pi / 36) r k) := by
  have hangle : 4 * (9 : ℕ) * (Real.pi / 36) = Real.pi := by
    push_cast
    ring
  have hhalf : Real.pi / 18 = 2 * (Real.pi / 36) := by ring
  rw [sdctII_eq x hk, sdctIIBudget]
  split_ifs with heven
  · have hsums := fastsdct_holds (fun i hi => (hx i (by omega)).add (hx (18 - i - 1) (by omega)))
      (show k / 2 < 9 by omega)
    have hreal : sdctNine (fun i => r i + r (18 - i - 1)) (k / 2) =
        doubledSum 18 (Real.pi / 36) r k := by
      have hpair := cosineSum_even hangle r (k / 2)
      rw [show 2 * (k / 2) = k by omega] at hpair
      rw [sdctNine_eq, doubledSum_eq, doubledSum_eq, hhalf, hpair]
      congr 1
      exact if_congr (by omega) rfl rfl
    rw [hreal] at hsums
    exact hsums
  · have hscaled : ∀ i < 9, ((b i - b (18 - i - 1)).scale 12 16 (sdctScale.getD i 0).toInt).Holds
        (madFMul (x i - x (18 - i - 1)) (sdctScale.getD i 0))
        ((r i - r (18 - i - 1)) * (2 * Real.cos ((2 * (2 * i + 1) : ℕ) * (Real.pi / 72)))) :=
      fun i hi => madFMul_holds ((hx i (by omega)).sub (hx (18 - i - 1) (by omega)))
        (sdctScale_nearest hi)
    have hreal : ∀ j, sdctNine (fun i => (r i - r (18 - i - 1)) *
        (2 * Real.cos ((2 * (2 * i + 1) : ℕ) * (Real.pi / 72)))) j =
          (if j = 0 then 1 else 2) * (2 * differenceSum 9 (Real.pi / 36) r j) := by
      intro j
      rw [sdctNine_eq, doubledSum_eq, differenceSum_eq, ← hhalf, cosineSum_eq, cosineSum_eq,
        mul_sum (a := 2)]
      congr 1
      refine sum_congr rfl ?_
      intro i _
      have hcos : ((2 * (2 * i + 1) : ℕ) : ℝ) * (Real.pi / 72) =
          (2 * i + 1) * (Real.pi / 36) := by
        push_cast
        ring
      rw [hcos, show 2 * 9 - 1 - i = 18 - i - 1 by omega]
      ring
    have hsmall : ∀ j, |2 * cosineSum 18 (Real.pi / 36) r (2 * j + 1)| ≤
        (2 * largest 18 b : ℕ) := by
      intro j
      have hle := abs_cosineSum_le (fun i hi => (hx i hi).small) (Real.pi / 36) (2 * j + 1)
      rw [abs_mul, abs_two, Nat.cast_mul, Nat.cast_ofNat]
      linarith
    have hkeep : ∀ (b : Budget) (x : Fixed) (r : ℝ), b.Holds x r → (id b).Holds (id x) (id r) :=
      fun _ _ _ h => h
    have hdifference := differenceSum_zero hangle r
    have hodd := oddBudget_holds
      (fun j => (if j = 0 then 1 else 2) * (2 * differenceSum 9 (Real.pi / 36) r j))
      (fun j => 2 * cosineSum 18 (Real.pi / 36) r (2 * j + 1)) hkeep
      (by rw [if_pos rfl, one_mul, hdifference]) ?_ hsmall
      (fun j hj => hreal j ▸ fastsdct_holds hscaled hj) (k / 2) (show k / 2 < 9 by omega)
    · rw [show 2 * (k / 2) + 1 = k by omega] at hodd
      rw [doubledSum_eq, if_neg (by omega)]
      exact hodd
    · intro j
      rw [if_neg (Nat.succ_ne_zero j), differenceSum_succ hangle, id]
      ring

/-! ### `dctIV` -/

/-- The outputs of `sdctII` in `dctIV`, the first one halved -/
def dctIVHalf (y : ℕ → Fixed) (k : ℕ) : Fixed :=
  let X := sdctII fun i => madFMul (y i) (dctScale.getD i 0)
  if k = 0 then (X 0).sdiv 2 else X k

theorem dctIV_eq (y : ℕ → Fixed) {k : ℕ} (hk : k < 18) :
    dctIV y k = oddOutput (fun x => x.sdiv 2) (dctIVHalf y) k := by
  have hhalf : Function.update (sdctII fun i => madFMul (y i) (dctScale.getD i 0)) 0
      ((sdctII (fun i => madFMul (y i) (dctScale.getD i 0)) 0).sdiv 2) = dctIVHalf y := by
    funext j
    by_cases hj : j = 0
    · rw [hj, Function.update_self, dctIVHalf, if_pos rfl]
    · rw [Function.update_of_ne hj, dctIVHalf, if_neg hj]
  have hloop := (foldl_oddOutput (fun x : Fixed => x.sdiv 2) Function.injective_id 17
    (dctIVHalf y)).1 k (by omega)
  rw [← hhalf] at hloop ⊢
  exact hloop

def dctIVBudget (b : ℕ → Budget) : ℕ → Budget :=
  oddBudget Budget.half (largest 18 b) fun k =>
    let X := sdctIIBudget fun i => (b i).scale 12 16 (dctScale.getD i 0).toInt
    if k = 0 then (X 0).half else X k

theorem abs_oddCosineSum_le (hx : ∀ i < 18, |r i| ≤ (b i).magnitude) (angle : ℝ) (k : ℕ) :
    |oddCosineSum 18 angle r k| ≤ largest 18 b := by
  rw [oddCosineSum_eq]
  calc |∑ i ∈ range 18, r i * Real.cos ((2 * i + 1) * (2 * k + 1) * angle)|
      ≤ ∑ i ∈ range 18, |r i * Real.cos ((2 * i + 1) * (2 * k + 1) * angle)| :=
        abs_sum_le_sum_abs _ _
    _ ≤ ∑ i ∈ range 18, ((b i).magnitude : ℝ) := by
        refine sum_le_sum ?_
        intro i hi
        rw [abs_mul]
        calc |r i| * |Real.cos ((2 * i + 1) * (2 * k + 1) * angle)| ≤ (b i).magnitude * 1 :=
              mul_le_mul (hx i (mem_range.mp hi)) (Real.abs_cos_le_one _) (abs_nonneg _)
                (Nat.cast_nonneg _)
          _ = (b i).magnitude := mul_one _
    _ = largest 18 b := (Nat.cast_sum _ _).symm

theorem dctIV_holds (hx : ∀ i < 18, (b i).Holds (x i) (r i)) {k : ℕ} (hk : k < 18) :
    (dctIVBudget b k).Holds (dctIV x k) (oddCosineSum 18 (Real.pi / 72) r k) := by
  have hdouble : Real.pi / 36 = 2 * (Real.pi / 72) := by ring
  have hscaled : ∀ i < 18, ((b i).scale 12 16 (dctScale.getD i 0).toInt).Holds
      (madFMul (x i) (dctScale.getD i 0)) (oddScaled (Real.pi / 72) r i) := by
    intro i hi
    have hholds := madFMul_holds (hx i hi) (dctScale_nearest hi)
    push_cast at hholds
    rw [oddScaled_eq]
    exact hholds
  have houtput := fun j (hj : j < 18) => sdctII_holds hscaled hj
  have hhalf : ∀ j < 18, (if j = 0 then
      (sdctIIBudget (fun i => (b i).scale 12 16 (dctScale.getD i 0).toInt) 0).half else
        sdctIIBudget (fun i => (b i).scale 12 16 (dctScale.getD i 0).toInt) j).Holds
      (dctIVHalf x j) (if j = 0 then oddCosineSum 18 (Real.pi / 72) r 0 else
        doubledSum 18 (Real.pi / 36) (oddScaled (Real.pi / 72) r) j) := by
    intro j hj
    rw [dctIVHalf]
    split_ifs with hzero
    · have hfirst := (houtput 0 (by omega)).half
      rw [doubledSum_eq, if_pos rfl, one_mul, hdouble, cosineSum_oddScaled_zero,
        mul_div_cancel_left₀ _ two_ne_zero] at hfirst
      exact hfirst
    · exact houtput j hj
  rw [dctIV_eq x hk]
  refine oddBudget_holds
    (fun j => if j = 0 then oddCosineSum 18 (Real.pi / 72) r 0 else
      doubledSum 18 (Real.pi / 36) (oddScaled (Real.pi / 72) r) j)
    (oddCosineSum 18 (Real.pi / 72) r) (fun _ _ _ h => h.half) (if_pos rfl) ?_
    (abs_oddCosineSum_le (fun i hi => (hx i hi).small) _) hhalf k hk
  intro j
  rw [if_neg (Nat.succ_ne_zero j), doubledSum_eq, if_neg (Nat.succ_ne_zero j), hdouble,
    cosineSum_oddScaled_succ]
  ring

/-! ### `imdct36` -/

def imdct36Budget (b : ℕ → Budget) (i : ℕ) : Budget :=
  if i < 9 then dctIVBudget b (9 + i)
  else if i < 27 then -dctIVBudget b (36 - (9 + i) - 1)
  else -dctIVBudget b (i - 27)

/-- Both transforms have the cosines of the same angles. -/
theorem oddCosineSum_values (r : ℕ → ℝ) {i k : ℕ} {sign : ℝ}
    (hcos : ∀ j : ℕ, Real.cos ((2 * j + 1) * (2 * k + 1) * (Real.pi / 72)) =
      sign * Real.cos ((2 * i + 19) * (2 * j + 1) * (Real.pi / 72))) :
    oddCosineSum 18 (Real.pi / 72) r k = sign * LappedTransform.values 18 r i := by
  rw [oddCosineSum_eq, LappedTransform.values, mul_sum]
  refine sum_congr rfl ?_
  intro j _
  have hangle : (2 * (i : ℝ) + 1 + (18 : ℕ)) * (2 * j + 1) * (Real.pi / (4 * (18 : ℕ))) =
      (2 * i + 19) * (2 * j + 1) * (Real.pi / 72) := by
    push_cast
    ring
  rw [hcos, LappedTransform.kernel_eq, hangle]
  ring

/-- **`imdct36`** -/
theorem imdct36_holds (hx : ∀ i < 18, (b i).Holds (x i) (r i)) (y : ℕ → Fixed) {i : ℕ}
    (hi : i < 36) :
    (imdct36Budget b i).Holds (imdct36 x y i) (LappedTransform.values 18 r i) := by
  have hturn : ∀ j : ℕ, ∀ a : ℝ, Real.cos ((2 * j + 1) * Real.pi - a) = -Real.cos a := by
    intro j a
    rw [show (2 * (j : ℝ) + 1) * Real.pi - a = Real.pi - a + j * (2 * Real.pi) by ring,
      Real.cos_add_nat_mul_two_pi, Real.cos_pi_sub]
  simp only [imdct36, imdct36Budget, if_pos hi]
  split_ifs with hfirst hsecond
  · have hholds := dctIV_holds hx (show 9 + i < 18 by omega)
    have hcos : ∀ j : ℕ, Real.cos ((2 * j + 1) * (2 * (9 + i : ℕ) + 1) * (Real.pi / 72)) =
        1 * Real.cos ((2 * i + 19) * (2 * j + 1) * (Real.pi / 72)) := by
      intro j
      rw [one_mul]
      push_cast
      ring_nf
    rw [oddCosineSum_values r hcos, one_mul] at hholds
    exact hholds
  · have hholds := (dctIV_holds hx (show 36 - (9 + i) - 1 < 18 by omega)).neg
    have hcos : ∀ j : ℕ, Real.cos ((2 * j + 1) * (2 * (36 - (9 + i) - 1 : ℕ) + 1) *
        (Real.pi / 72)) = -1 * Real.cos ((2 * i + 19) * (2 * j + 1) * (Real.pi / 72)) := by
      intro j
      rw [neg_one_mul, ← hturn j, show 36 - (9 + i) - 1 = 26 - i by omega,
        Nat.cast_sub (by omega)]
      push_cast
      ring_nf
    rw [oddCosineSum_values r hcos, neg_one_mul, neg_neg] at hholds
    exact hholds
  · have hholds := (dctIV_holds hx (show i - 27 < 18 by omega)).neg
    have hcos : ∀ j : ℕ, Real.cos ((2 * j + 1) * (2 * (i - 27 : ℕ) + 1) * (Real.pi / 72)) =
        -1 * Real.cos ((2 * i + 19) * (2 * j + 1) * (Real.pi / 72)) := by
      intro j
      rw [neg_one_mul, ← hturn j, ← Real.cos_neg, Nat.cast_sub (by omega)]
      push_cast
      ring_nf
    rw [oddCosineSum_values r hcos, neg_one_mul, neg_neg] at hholds
    exact hholds

/-! ### Long blocks -/

/-- The slope with which a block begins -/
noncomputable def leftSlope (blockType : ℕ) : ℕ → ℝ :=
  if blockType = 2 ∨ blockType = 3 then LappedTransform.steep 6 (LappedTransform.sineSlope 6)
  else LappedTransform.sineSlope 18

/-- The slope with which a block ends, from its end on -/
noncomputable def rightSlope (blockType : ℕ) : ℕ → ℝ :=
  if blockType = 1 ∨ blockType = 2 then LappedTransform.steep 6 (LappedTransform.sineSlope 6)
  else LappedTransform.sineSlope 18

/-- The window of a long block -/
noncomputable def blockWindow (blockType : ℕ) : ℕ → ℝ :=
  LappedTransform.bell 18 (leftSlope blockType) (rightSlope blockType)

theorem windowL_slope {i : ℕ} (hi : i < 36) : NearestWord (windowL.getD i 0)
    (LappedTransform.bell 18 (LappedTransform.sineSlope 18) (LappedTransform.sineSlope 18) i) := by
  have hnearest := windowL_nearest hi
  have hvalue : Real.sin ((2 * i + 1 : ℕ) * (Real.pi / 72)) =
      LappedTransform.bell 18 (LappedTransform.sineSlope 18) (LappedTransform.sineSlope 18) i := by
    rw [LappedTransform.bell]
    split_ifs with hleft
    · rw [LappedTransform.sineSlope_eq]
      push_cast
      ring_nf
    · rw [LappedTransform.sineSlope_eq, ← Real.sin_pi_sub, show 2 * 18 - 1 - i = 35 - i by omega,
        Nat.cast_sub (by omega)]
      push_cast
      ring_nf
  rw [← hvalue]
  exact hnearest

theorem windowS_slope {i : ℕ} (hi : i < 12) : NearestWord (windowS.getD i 0)
    (LappedTransform.bell 6 (LappedTransform.sineSlope 6) (LappedTransform.sineSlope 6) i) := by
  have hnearest := windowS_nearest hi
  have hvalue : Real.sin ((6 * i + 3 : ℕ) * (Real.pi / 72)) =
      LappedTransform.bell 6 (LappedTransform.sineSlope 6) (LappedTransform.sineSlope 6) i := by
    rw [LappedTransform.bell]
    split_ifs with hleft
    · rw [LappedTransform.sineSlope_eq]
      push_cast
      ring_nf
    · rw [LappedTransform.sineSlope_eq, ← Real.sin_pi_sub, show 2 * 6 - 1 - i = 11 - i by omega,
        Nat.cast_sub (by omega)]
      push_cast
      ring_nf
  rw [← hvalue]
  exact hnearest

def imdctLBudget (blockType : ℕ) (b : ℕ → Budget) (i : ℕ) : Budget :=
  let z := imdct36Budget b i
  match blockType with
  | 1 =>
    if i < 18 then z.scale 12 16 (windowL.getD i 0).toInt
    else if i < 24 then z
    else if i < 30 then z.scale 12 16 (windowS.getD (i - 18) 0).toInt
    else ⟨true, 0, 0⟩
  | 3 =>
    if i < 6 then ⟨true, 0, 0⟩
    else if i < 12 then z.scale 12 16 (windowS.getD (i - 6) 0).toInt
    else if i < 18 then z
    else z.scale 12 16 (windowL.getD i 0).toInt
  | _ => z.scale 12 16 (windowL.getD i 0).toInt

theorem zero_holds : (⟨true, 0, 0⟩ : Budget).Holds 0 0 := by
  have hself : (⟨true, 0, 0⟩ : Budget).Holds 0 ((0 : Fixed).toInt) := Budget.Holds.self (by decide)
  rw [show (0 : Fixed).toInt = 0 by decide, Int.cast_zero] at hself
  exact hself

section
variable (hx : ∀ i < 18, (b i).Holds (x i) (r i)) (output : ℕ → Fixed) {i : ℕ} (hi : i < 36)
include hx hi

theorem longWindow_holds (blockType : ℕ)
    (hleft : i < 18 → leftSlope blockType = LappedTransform.sineSlope 18)
    (hright : 18 ≤ i → rightSlope blockType = LappedTransform.sineSlope 18) :
    ((imdct36Budget b i).scale 12 16 (windowL.getD i 0).toInt).Holds
      (madFMul (imdct36 x output i) (windowL.getD i 0))
      (blockWindow blockType i * LappedTransform.values 18 r i) := by
  have hholds := madFMul_holds (imdct36_holds hx output hi) (windowL_slope hi)
  rw [mul_comm, blockWindow]
  rcases Nat.lt_or_ge i 18 with hlow | hhigh
  · rw [LappedTransform.bell_left _ _ hlow] at hholds ⊢
    rw [hleft hlow]
    exact hholds
  · rw [LappedTransform.bell_right _ _ hhigh] at hholds ⊢
    rw [hright hhigh]
    exact hholds

/-- A start block is flat, then falls like a short block. -/
theorem startBlock_holds : (imdctLBudget 1 b i).Holds (iiiImdctL x output 1 i)
    (blockWindow 1 i * LappedTransform.values 18 r i) := by
  have hleft : leftSlope 1 = LappedTransform.sineSlope 18 := if_neg (by decide)
  have hright : rightSlope 1 = LappedTransform.steep 6 (LappedTransform.sineSlope 6) :=
    if_pos (by decide)
  rcases Nat.lt_or_ge i 18 with h18 | h18
  · simp only [imdctLBudget, iiiImdctL, windowedL, if_pos h18]
    exact longWindow_holds hx output hi 1 (fun _ => hleft) fun h => by omega
  have hz := imdct36_holds hx output hi
  rw [mul_comm, blockWindow, LappedTransform.bell_right _ _ h18, hright]
  simp only [imdctLBudget, iiiImdctL, if_neg (Nat.not_lt.mpr h18)]
  rcases Nat.lt_or_ge i 24 with h24 | h24
  · rw [if_pos h24, if_pos h24, LappedTransform.steep_high _ (by omega), mul_one]
    exact hz
  rw [if_neg (Nat.not_lt.mpr h24), if_neg (Nat.not_lt.mpr h24)]
  rcases Nat.lt_or_ge i 30 with h30 | h30
  · have hholds := madFMul_holds hz (windowS_slope (show i - 18 < 12 by omega))
    rw [LappedTransform.bell_right _ _ (by omega),
      show 2 * 6 - 1 - (i - 18) = 2 * 18 - 1 - i - 6 by omega] at hholds
    rw [if_pos h30, if_pos h30, LappedTransform.steep_middle _ (by omega) (by omega)]
    exact hholds
  · rw [if_neg (Nat.not_lt.mpr h30), if_neg (Nat.not_lt.mpr h30), if_pos hi,
      LappedTransform.steep_low _ (by omega), mul_zero]
    exact zero_holds

/-- A stop block rises like a short block, then is flat. -/
theorem stopBlock_holds : (imdctLBudget 3 b i).Holds (iiiImdctL x output 3 i)
    (blockWindow 3 i * LappedTransform.values 18 r i) := by
  have hleft : leftSlope 3 = LappedTransform.steep 6 (LappedTransform.sineSlope 6) :=
    if_pos (by decide)
  have hright : rightSlope 3 = LappedTransform.sineSlope 18 := if_neg (by decide)
  rcases Nat.lt_or_ge i 18 with h18 | h18
  · have hz := imdct36_holds hx output hi
    rw [mul_comm, blockWindow, LappedTransform.bell_left _ _ h18, hleft]
    simp only [imdctLBudget, iiiImdctL, if_pos h18]
    rcases Nat.lt_or_ge i 6 with h6 | h6
    · rw [if_pos h6, if_pos h6, LappedTransform.steep_low _ h6, mul_zero]
      exact zero_holds
    rw [if_neg (Nat.not_lt.mpr h6), if_neg (Nat.not_lt.mpr h6)]
    rcases Nat.lt_or_ge i 12 with h12 | h12
    · have hholds := madFMul_holds hz (windowS_slope (show i - 6 < 12 by omega))
      rw [LappedTransform.bell_left _ _ (by omega)] at hholds
      rw [if_pos h12, if_pos h12, LappedTransform.steep_middle _ h6 h12]
      exact hholds
    · rw [if_neg (Nat.not_lt.mpr h12), if_neg (Nat.not_lt.mpr h12),
        LappedTransform.steep_high _ h12, mul_one]
      exact hz
  · have hfar : ¬i < 6 ∧ ¬i < 12 ∧ ¬i < 18 := by omega
    simp only [imdctLBudget, iiiImdctL, windowedL, if_neg hfar.1, if_neg hfar.2.1, if_neg hfar.2.2,
      if_pos hi]
    exact longWindow_holds hx output hi 3 (fun h => by omega) fun _ => hright

/-- **`III_imdct_l`** -/
theorem iiiImdctL_holds {blockType : ℕ} (htype : blockType = 0 ∨ blockType = 1 ∨ blockType = 3) :
    (imdctLBudget blockType b i).Holds (iiiImdctL x output blockType i)
      (blockWindow blockType i * LappedTransform.values 18 r i) := by
  rcases htype with rfl | rfl | rfl
  · simp only [imdctLBudget, iiiImdctL, windowedL, if_pos hi]
    exact longWindow_holds hx output hi 0 (fun _ => if_neg (by decide)) fun _ => if_neg (by decide)
  · exact startBlock_holds hx output hi
  · exact stopBlock_holds hx output hi

end

/-! ### Short blocks -/

/-- The budget of a sum of products. -/
theorem foldl_holds {word : ℕ → Fixed} {value : ℕ → ℝ} {n : ℕ}
    (hx : ∀ k < n, (b k).Holds (x k) (r k)) (hw : ∀ k < n, NearestWord (word k) (value k)) :
    ((List.range n).foldl (fun lo k => lo + (b k).scale 12 16 (word k).toInt) ⟨true, 0, 0⟩).Holds
      ((List.range n).foldl (fun lo k => lo + madFMul (x k) (word k)) 0)
      (∑ k ∈ range n, r k * value k) := by
  induction n with
  | zero => exact zero_holds
  | succ n ih =>
    rw [List.range_succ, List.foldl_append, List.foldl_append, sum_range_succ]
    have hfirst := ih (fun k hk => hx k (by omega)) fun k hk => hw k (by omega)
    exact hfirst.add (madFMul_holds (hx n (by omega)) (hw n (by omega)))

def imdctSumBudget (b : ℕ → Budget) (row : ℕ) : Budget :=
  (List.range 6).foldl
    (fun lo k => lo + (b k).scale 12 16 ((imdctSTable.getD row []).getD k 0).toInt) ⟨true, 0, 0⟩

def imdctShortBudget (b : ℕ → Budget) (j : ℕ) : Budget :=
  if j < 3 then imdctSumBudget b (2 * j)
  else if j < 6 then -imdctSumBudget b (2 * (5 - j))
  else if j < 9 then imdctSumBudget b (2 * (j - 6) + 1)
  else imdctSumBudget b (2 * (11 - j) + 1)

/-- A row of the table has the cosines of one output. -/
theorem imdctSum_holds (hx : ∀ k < 6, (b k).Holds (x k) (r k)) {row i : ℕ} {sign : ℝ} (hrow : row < 6)
    (hcos : ∀ k : ℕ, Real.cos ((2 * imdctSOutput row + 7 : ℕ) * (2 * k + 1) * (Real.pi / 24)) =
      sign * Real.cos ((2 * i + 7 : ℕ) * (2 * k + 1) * (Real.pi / 24))) :
    (imdctSumBudget b row).Holds (imdctSum x row) (sign * LappedTransform.values 6 r i) := by
  have hholds := foldl_holds hx fun k hk => imdctSTable_nearest hrow hk
  have hvalue : ∑ k ∈ range 6, r k *
      Real.cos ((3 * (2 * imdctSOutput row + 7) * (2 * k + 1) : ℕ) * (Real.pi / 72)) =
        sign * LappedTransform.values 6 r i := by
    rw [LappedTransform.values, mul_sum]
    refine sum_congr rfl ?_
    intro k _
    have hrowAngle : ((3 * (2 * imdctSOutput row + 7) * (2 * k + 1) : ℕ) : ℝ) * (Real.pi / 72) =
        (2 * imdctSOutput row + 7 : ℕ) * (2 * k + 1) * (Real.pi / 24) := by
      push_cast
      ring
    have hangle : (2 * (i : ℝ) + 1 + (6 : ℕ)) * (2 * k + 1) * (Real.pi / (4 * (6 : ℕ))) =
        (2 * i + 7 : ℕ) * (2 * k + 1) * (Real.pi / 24) := by
      push_cast
      ring
    rw [hrowAngle, hcos, LappedTransform.kernel_eq, hangle]
    ring
  rw [hvalue] at hholds
  exact hholds

theorem imdctShort_holds (hx : ∀ k < 6, (b k).Holds (x k) (r k)) {j : ℕ} (hj : j < 12) :
    (imdctShortBudget b j).Holds (imdctShort x j) (LappedTransform.values 6 r j) := by
  have hhalfTurn : ∀ k : ℕ, ∀ a : ℝ, Real.cos ((2 * k + 1) * Real.pi - a) = -Real.cos a := by
    intro k a
    rw [show (2 * (k : ℝ) + 1) * Real.pi - a = Real.pi - a + k * (2 * Real.pi) by ring,
      Real.cos_add_nat_mul_two_pi, Real.cos_pi_sub]
  have hsame : ∀ row i, imdctSOutput row = i → ∀ k : ℕ,
      Real.cos ((2 * imdctSOutput row + 7 : ℕ) * (2 * k + 1) * (Real.pi / 24)) =
        1 * Real.cos ((2 * i + 7 : ℕ) * (2 * k + 1) * (Real.pi / 24)) := by
    intro row i h k
    rw [h, one_mul]
  rw [imdctShort, imdctShortBudget]
  split_ifs with hfirst hsecond hthird
  · have hholds := imdctSum_holds hx (show 2 * j < 6 by omega)
      (hsame (2 * j) j (by rw [imdctSOutput]; omega))
    rw [one_mul] at hholds
    exact hholds
  · have hcos : ∀ k : ℕ, Real.cos ((2 * imdctSOutput (2 * (5 - j)) + 7 : ℕ) * (2 * k + 1) *
        (Real.pi / 24)) = -1 * Real.cos ((2 * j + 7 : ℕ) * (2 * k + 1) * (Real.pi / 24)) := by
      intro k
      rw [neg_one_mul, ← hhalfTurn k,
        show 2 * imdctSOutput (2 * (5 - j)) + 7 = 24 - (2 * j + 7) by rw [imdctSOutput]; omega,
        Nat.cast_sub (by omega)]
      push_cast
      ring_nf
    have hholds := (imdctSum_holds hx (show 2 * (5 - j) < 6 by omega) hcos).neg
    rw [neg_one_mul, neg_neg] at hholds
    exact hholds
  · have hholds := imdctSum_holds hx (show 2 * (j - 6) + 1 < 6 by omega)
      (hsame (2 * (j - 6) + 1) j (by rw [imdctSOutput]; omega))
    rw [one_mul] at hholds
    exact hholds
  · have hcos : ∀ k : ℕ, Real.cos ((2 * imdctSOutput (2 * (11 - j) + 1) + 7 : ℕ) * (2 * k + 1) *
        (Real.pi / 24)) = 1 * Real.cos ((2 * j + 7 : ℕ) * (2 * k + 1) * (Real.pi / 24)) := by
      intro k
      have hwhole : ((48 - (2 * j + 7) : ℕ) : ℝ) * (2 * k + 1) * (Real.pi / 24) =
          (2 * k + 1) * Real.pi - (-((2 * k + 1) * Real.pi -
            (2 * k + 1) * Real.pi) + ((2 * j + 7 : ℕ) * (2 * k + 1) * (Real.pi / 24) -
              (2 * k + 1) * Real.pi)) := by
        rw [Nat.cast_sub (by omega)]
        push_cast
        ring
      rw [one_mul, show 2 * imdctSOutput (2 * (11 - j) + 1) + 7 = 48 - (2 * j + 7) by
        rw [imdctSOutput]; omega, hwhole, hhalfTurn, sub_self, neg_zero, zero_add,
        ← Real.cos_neg, neg_sub, hhalfTurn, neg_neg]
    have hholds := imdctSum_holds hx (show 2 * (11 - j) + 1 < 6 by omega) hcos
    rw [one_mul] at hholds
    exact hholds

/-- What window `w` adds to value `j` of the block. -/
noncomputable def shortTerm (r : ℕ → ℝ) (j w : ℕ) : ℝ :=
  if 6 * (w + 1) ≤ j ∧ j < 6 * (w + 3) then
    LappedTransform.bell 6 (LappedTransform.sineSlope 6) (LappedTransform.sineSlope 6)
        (j - 6 * (w + 1)) *
      LappedTransform.values 6 (fun k => r (6 * w + k)) (j - 6 * (w + 1))
  else 0

/-- The three windows, 6 apart in the middle of the block -/
noncomputable def shortValues (r : ℕ → ℝ) (j : ℕ) : ℝ := ∑ w ∈ range 3, shortTerm r j w

theorem shortTerm_out (r : ℕ → ℝ) {j w : ℕ} (h : j < 6 * (w + 1) ∨ 6 * (w + 3) ≤ j) :
    shortTerm r j w = 0 := by
  rw [shortTerm, if_neg (by omega)]

def windowedSBudget (b : ℕ → Budget) (w i : ℕ) : Budget :=
  (imdctShortBudget (fun k => b (6 * w + k)) i).scale 12 16 (windowS.getD i 0).toInt

theorem shortTerm_holds (hx : ∀ k < 18, (b k).Holds (x k) (r k)) {w i j : ℕ} (hw : w < 3)
    (hi : i < 12) (hj : j = 6 * (w + 1) + i) :
    (windowedSBudget b w i).Holds
      (madFMul (imdctShort (fun k => x (6 * w + k)) i) (windowS.getD i 0)) (shortTerm r j w) := by
  have hshort := imdctShort_holds (fun k hk => hx (6 * w + k) (by omega)) hi
  have hholds := madFMul_holds hshort (windowS_slope hi)
  rw [shortTerm, if_pos (by omega), show j - 6 * (w + 1) = i by omega,
    mul_comm (LappedTransform.bell _ _ _ _)]
  exact hholds

def imdctSBudget (b : ℕ → Budget) (j : ℕ) : Budget :=
  let i := j % 6
  match j / 6 with
  | 1 => windowedSBudget b 0 i
  | 2 => windowedSBudget b 0 (i + 6) + windowedSBudget b 1 i
  | 3 => windowedSBudget b 1 (i + 6) + windowedSBudget b 2 i
  | 4 => windowedSBudget b 2 (i + 6)
  | _ => ⟨true, 0, 0⟩

/-- **`III_imdct_s`** -/
theorem iiiImdctS_holds (hx : ∀ k < 18, (b k).Holds (x k) (r k)) (output : ℕ → Fixed) {j : ℕ}
    (hj : j < 36) : (imdctSBudget b j).Holds (iiiImdctS x output j) (shortValues r j) := by
  have hsum : shortValues r j = shortTerm r j 0 + shortTerm r j 1 + shortTerm r j 2 := by
    rw [shortValues, sum_range_succ, sum_range_succ, sum_range_one]
  have hrow : j / 6 = 0 ∨ j / 6 = 1 ∨ j / 6 = 2 ∨ j / 6 = 3 ∨ j / 6 = 4 ∨ j / 6 = 5 := by omega
  have hout : ∀ w, j < 6 * (w + 1) ∨ 6 * (w + 3) ≤ j → shortTerm r j w = 0 :=
    fun w h => shortTerm_out r h
  rw [hsum]
  rcases hrow with h | h | h | h | h | h
  · simp only [imdctSBudget, iiiImdctS, h]
    rw [hout 0 (by omega), hout 1 (by omega), hout 2 (by omega), add_zero, add_zero]
    exact zero_holds
  · simp only [imdctSBudget, iiiImdctS, h]
    rw [hout 1 (by omega), hout 2 (by omega), add_zero, add_zero]
    exact shortTerm_holds hx (by omega) (by omega) (by omega)
  · simp only [imdctSBudget, iiiImdctS, h]
    rw [hout 2 (by omega), add_zero]
    exact (shortTerm_holds hx (by omega) (by omega) (by omega)).add
      (shortTerm_holds hx (by omega) (by omega) (by omega))
  · simp only [imdctSBudget, iiiImdctS, h]
    rw [hout 0 (by omega), zero_add]
    exact (shortTerm_holds hx (by omega) (by omega) (by omega)).add
      (shortTerm_holds hx (by omega) (by omega) (by omega))
  · simp only [imdctSBudget, iiiImdctS, h]
    rw [hout 0 (by omega), hout 1 (by omega), zero_add, zero_add]
    exact shortTerm_holds hx (by omega) (by omega) (by omega)
  · simp only [imdctSBudget, iiiImdctS, h]
    rw [hout 0 (by omega), hout 1 (by omega), hout 2 (by omega), add_zero, add_zero]
    exact zero_holds

end

/-! ### Lines of at most `2^24` -/

/-- The budget of a line -/
def lineBudget (_ : ℕ) : Budget := ⟨true, 0, 2 ^ 24⟩

/-- The budget of a value of a block -/
def blockBudget (blockType : ℕ) : ℕ → Budget :=
  if blockType = 2 then imdctSBudget lineBudget else imdctLBudget blockType lineBudget

/-- A block of the standard, long or short -/
noncomputable def standardBlock (blockType : ℕ) (r : ℕ → ℝ) (i : ℕ) : ℝ :=
  if blockType = 2 then shortValues r i else blockWindow blockType i * LappedTransform.values 18 r i

/-- The output of `III_imdct_s` or `III_imdct_l` -/
def imdctBlock (blockType : ℕ) (x output : ℕ → Fixed) : ℕ → Fixed :=
  if blockType = 2 then iiiImdctS x output else iiiImdctL x output blockType

theorem imdctBlock_holds {x : ℕ → Fixed} (hx : ∀ k < 18, (x k).toInt.natAbs ≤ 2 ^ 24)
    (output : ℕ → Fixed) {blockType : ℕ} (htype : blockType < 4) {i : ℕ} (hi : i < 36) :
    (blockBudget blockType i).Holds (imdctBlock blockType x output i)
      (standardBlock blockType (fun k => (x k).toInt) i) := by
  have hlines : ∀ k < 18, (lineBudget k).Holds (x k) (x k).toInt :=
    fun k hk => Budget.Holds.self (hx k hk)
  rw [blockBudget, imdctBlock, standardBlock]
  split_ifs with hshort
  · exact iiiImdctS_holds hlines output hi
  · exact iiiImdctL_holds hlines output hi (by omega)

/-- What a block may be off, and how large it gets. -/
theorem blockBudget_fits : ∀ blockType < 4, ∀ i < 36, (blockBudget blockType i).fits = true ∧
    (blockBudget blockType i).error ≤ 9 * 2 ^ 20 - 2 ^ 8 ∧
      (blockBudget blockType i).reach < 2 ^ 30 := by
  decide +kernel

/-- **The inverse transforms are those of the standard**, for lines of at most `2^24` up to `9/256`:
`III_imdct_l` with the windows of the block types 0, 1 and 3, and `III_imdct_s`. -/
theorem imdct_standard {x : ℕ → Fixed} (hx : ∀ k < 18, (x k).toInt.natAbs ≤ 2 ^ 24)
    (output : ℕ → Fixed) {blockType : ℕ} (htype : blockType < 4) {i : ℕ} (hi : i < 36) :
    |((imdctBlock blockType x output i).toInt : ℝ) -
      standardBlock blockType (fun k => (x k).toInt) i| ≤ 9 * 2 ^ 20 := by
  obtain ⟨hfits, herror, -⟩ := blockBudget_fits blockType htype i hi
  have herror : ((blockBudget blockType i).error : ℝ) ≤ 9 * 2 ^ 20 := by
    exact_mod_cast herror.trans (by norm_num)
  exact ((imdctBlock_holds hx output htype hi).close hfits).trans herror

theorem imdct_standard_stop :
    |((imdctBlock 3 (fun k => BitVec.ofNat 32 (1000 * k)) (fun _ => 7) 10).toInt : ℝ) -
      standardBlock 3 (fun k => (BitVec.ofNat 32 (1000 * k)).toInt) 10| ≤ 9 * 2 ^ 20 :=
  imdct_standard (by decide) _ (by decide) (by decide)

end Mp3Decoder
