import Mp3Decoder.Mad.ImdctAccuracy
import Mp3Decoder.Mad.ZeroSubbands

/-!
# Overlapping blocks over runs of granules

The lines of a granule are the transform of 36 values of each subband, of which 18 are new.  Every
granule may have another block type, as long as it begins with the slope with which the one before
ends.  Overlap-add and frequency inversion then give the values back: what the blocks mix with their
mirror images cancels, and what is left is the error of the arithmetic.
-/

namespace Mp3Decoder

open Finset

/-! ### One block -/

/-- The block type that a subband is transformed with -/
def subbandType (blockType : ℕ) (mixed : Bool) (sb : ℕ) : ℕ :=
  if mixed ∧ sb < 2 then 0 else blockType

/-- Line `k` of 36 values -/
noncomputable def analysisLine (blockType : ℕ) (s : ℕ → ℝ) (k : ℕ) : ℝ :=
  if blockType = 2 then
    (2 : ℕ) / (6 : ℕ) * LappedTransform.lines 6 (fun m =>
      LappedTransform.bell 6 (LappedTransform.sineSlope 6) (LappedTransform.sineSlope 6) m *
        s (6 * (k / 6 + 1) + m)) (k % 6)
  else (2 : ℕ) / (18 : ℕ) * LappedTransform.lines 18 (fun m => blockWindow blockType m * s m) k

/-- A block may follow another where the slopes are the same. -/
def Joins (blockType next : ℕ) : Prop := blockType = 1 ∨ blockType = 2 ↔ next = 2 ∨ next = 3

instance (blockType next : ℕ) : Decidable (Joins blockType next) :=
  inferInstanceAs (Decidable (_ ↔ _))

theorem Joins.slope {blockType next : ℕ} (h : Joins blockType next) :
    rightSlope blockType = leftSlope next := by
  rw [rightSlope, leftSlope]
  exact if_congr h rfl rfl

theorem leftSlope_slope (blockType : ℕ) : LappedTransform.Slope 18 (leftSlope blockType) := by
  rw [leftSlope]
  split_ifs
  · exact LappedTransform.steep_slope (LappedTransform.sineSlope_slope 6)
  · exact LappedTransform.sineSlope_slope 18

theorem rightSlope_slope (blockType : ℕ) : LappedTransform.Slope 18 (rightSlope blockType) := by
  rw [rightSlope]
  split_ifs
  · exact LappedTransform.steep_slope (LappedTransform.sineSlope_slope 6)
  · exact LappedTransform.sineSlope_slope 18

/-- Short blocks of the lines are the short blocks of the library. -/
theorem shortValues_analysis (s : ℕ → ℝ) (j : ℕ) :
    shortValues (analysisLine 2 s) j =
      LappedTransform.shortBlocks 6 (LappedTransform.sineSlope 6) s j := by
  rw [shortValues, LappedTransform.shortBlocks]
  refine sum_congr rfl ?_
  intro w _
  rw [shortTerm, LappedTransform.block]
  split_ifs
  · congr 1
    rw [LappedTransform.values, LappedTransform.values]
    refine sum_congr rfl ?_
    intro k hk
    have hk := mem_range.mp hk
    rw [analysisLine, if_pos rfl, show (6 * w + k) / 6 = w by omega,
      show (6 * w + k) % 6 = k by omega]
  · rfl

theorem standardBlock_analysis {blockType : ℕ} (hlong : blockType ≠ 2) (s : ℕ → ℝ) (i : ℕ) :
    standardBlock blockType (analysisLine blockType s) i =
      LappedTransform.block 18 (leftSlope blockType) (rightSlope blockType) s i := by
  rw [standardBlock, if_neg hlong, LappedTransform.block, blockWindow]
  congr 2
  funext k
  rw [analysisLine, if_neg hlong, blockWindow]

/-- How a block begins. -/
theorem analysis_rise (blockType : ℕ) (s : ℕ → ℝ) {i : ℕ} (hi : i < 18) :
    standardBlock blockType (analysisLine blockType s) i =
      LappedTransform.rise 18 (leftSlope blockType) s i := by
  by_cases hshort : blockType = 2
  · rw [hshort, standardBlock, if_pos rfl, shortValues_analysis,
      LappedTransform.shortBlocks_rise (by decide) s (LappedTransform.sineSlope_slope 6) hi,
      leftSlope, if_pos (by decide)]
  · rw [standardBlock_analysis hshort, LappedTransform.block_rise (by decide) _ _ _ hi]

/-- How a block ends. -/
theorem analysis_fall (blockType : ℕ) (s : ℕ → ℝ) {i : ℕ} (hi : i < 18) :
    standardBlock blockType (analysisLine blockType s) (18 + i) =
      LappedTransform.fall 18 (rightSlope blockType) (fun j => s (18 + j)) i := by
  by_cases hshort : blockType = 2
  · rw [hshort, standardBlock, if_pos rfl, shortValues_analysis,
      LappedTransform.shortBlocks_fall (M := 6) (by decide) s (LappedTransform.sineSlope_slope 6) hi,
      rightSlope, if_pos (by decide)]
  · rw [standardBlock_analysis hshort, LappedTransform.block_fall (by decide) _ _ _ hi]

/-! ### Rounded lines -/

theorem abs_bell_le {N : ℕ} {left right : ℕ → ℝ} (hleft : LappedTransform.Slope N left)
    (hright : LappedTransform.Slope N right) {n : ℕ} (hn : n < 2 * N) :
    |LappedTransform.bell N left right n| ≤ 1 := by
  rw [← sq_le_one_iff_abs_le_one]
  rcases Nat.lt_or_ge n N with hlow | hhigh
  · rw [LappedTransform.bell_left _ _ hlow]
    linarith [hleft n hlow, sq_nonneg (left (N - 1 - n))]
  · rw [LappedTransform.bell_right _ _ hhigh]
    linarith [hright (2 * N - 1 - n) (by omega), sq_nonneg (right (N - 1 - (2 * N - 1 - n)))]

/-- What lines that are half a unit off change. -/
theorem windowed_values_close {N : ℕ} {left right r r' : ℕ → ℝ} (hleft : LappedTransform.Slope N left)
    (hright : LappedTransform.Slope N right) (hr : ∀ k < N, |r k - r' k| ≤ 1 / 2) {n : ℕ}
    (hn : n < 2 * N) :
    |LappedTransform.bell N left right n * LappedTransform.values N r n -
      LappedTransform.bell N left right n * LappedTransform.values N r' n| ≤ N / 2 := by
  have hvalues : |LappedTransform.values N r n - LappedTransform.values N r' n| ≤ N / 2 := by
    rw [LappedTransform.values, LappedTransform.values, ← sum_sub_distrib]
    calc |∑ k ∈ range N, (r k * LappedTransform.kernel N n k - r' k * LappedTransform.kernel N n k)|
        ≤ ∑ k ∈ range N,
            |r k * LappedTransform.kernel N n k - r' k * LappedTransform.kernel N n k| :=
          abs_sum_le_sum_abs _ _
      _ ≤ ∑ k ∈ range N, (1 / 2 : ℝ) := by
          refine sum_le_sum ?_
          intro k hk
          rw [← sub_mul, abs_mul]
          calc |r k - r' k| * |LappedTransform.kernel N n k| ≤ 1 / 2 * 1 :=
                mul_le_mul (hr k (mem_range.mp hk)) (Real.abs_cos_le_one _) (abs_nonneg _)
                  (by norm_num)
            _ = 1 / 2 := mul_one _
      _ = N / 2 := by
          rw [sum_const, card_range, nsmul_eq_mul]
          ring
  rw [← mul_sub, abs_mul]
  calc |LappedTransform.bell N left right n| *
        |LappedTransform.values N r n - LappedTransform.values N r' n| ≤ 1 * (N / 2) :=
        mul_le_mul (abs_bell_le hleft hright hn) hvalues (abs_nonneg _) zero_le_one
    _ = N / 2 := one_mul _

theorem standardBlock_close (blockType : ℕ) {r r' : ℕ → ℝ}
    (hr : ∀ k < 18, |r k - r' k| ≤ 1 / 2) {i : ℕ} (hi : i < 36) :
    |standardBlock blockType r i - standardBlock blockType r' i| ≤ 9 := by
  rw [standardBlock, standardBlock]
  split_ifs with hshort
  · have hterm : ∀ w ∈ range 3, |shortTerm r i w - shortTerm r' i w| ≤ 3 := by
      intro w hw
      have hw := mem_range.mp hw
      rw [shortTerm, shortTerm]
      split_ifs with hin
      · have hclose := windowed_values_close (LappedTransform.sineSlope_slope 6)
          (LappedTransform.sineSlope_slope 6) (fun k hk => hr (6 * w + k) (by omega))
          (show i - 6 * (w + 1) < 2 * 6 by omega)
        push_cast at hclose
        linarith
      · rw [sub_self, abs_zero]
        norm_num
    rw [shortValues, shortValues, ← sum_sub_distrib]
    calc |∑ w ∈ range 3, (shortTerm r i w - shortTerm r' i w)|
        ≤ ∑ w ∈ range 3, |shortTerm r i w - shortTerm r' i w| := abs_sum_le_sum_abs _ _
      _ ≤ ∑ w ∈ range 3, (3 : ℝ) := sum_le_sum hterm
      _ = 9 := by norm_num
  · have hclose := windowed_values_close (leftSlope_slope blockType) (rightSlope_slope blockType) hr
      (show i < 2 * 18 by omega)
    push_cast at hclose
    rw [blockWindow]
    linarith

/-! ### Runs of granules -/

/-- What the transforms get of a granule of a channel -/
structure GranuleLines where
  blockType : ℕ
  mixed : Bool
  lines : ℕ → Fixed

namespace GranuleLines

/-- The block type of a subband -/
def type (g : GranuleLines) (sb : ℕ) : ℕ := subbandType g.blockType g.mixed sb

/-- What the transform of a subband gives -/
def block (g : GranuleLines) (sb : ℕ) : ℕ → Fixed := subbandOutput g.blockType g.mixed g.lines sb

theorem block_eq (g : GranuleLines) (sb : ℕ) :
    g.block sb = imdctBlock (g.type sb) (fun i => g.lines (18 * sb + i)) fun _ => 0 := by
  rw [block, subbandOutput, type, subbandType, imdctBlock]
  by_cases hlow : g.mixed ∧ sb < 2
  · rw [if_pos hlow, if_pos hlow, if_neg (by decide)]
  · rw [if_neg hlow, if_neg hlow]

end GranuleLines

/-- One granule after the other -/
def granuleRun (granules : ℕ → GranuleLines) (start : Subbands) : ℕ → Subbands
  | 0 => start
  | n + 1 => transformLines (granules n).blockType (granules n).mixed (granules n).lines
      (granuleRun granules start n)

/-- The values of a subband with every second one of the odd subbands inverted -/
def inverted (signal : ℕ → ℕ → ℝ) (sb t : ℕ) : ℝ :=
  if sb % 2 = 1 ∧ t % 2 = 1 then -signal sb t else signal sb t

/-- The granules hold the transforms of a signal, rounded to words of at most `2^24`. -/
structure Encodes (signal : ℕ → ℕ → ℝ) (granules : ℕ → GranuleLines) : Prop where
  types : ∀ g, (granules g).blockType < 4
  joins : ∀ g, ∀ sb < 32, Joins ((granules g).type sb) ((granules (g + 1)).type sb)
  small : ∀ g, ∀ i < 576, ((granules g).lines i).toInt.natAbs ≤ 2 ^ 24
  rounded : ∀ g, ∀ sb < 32, ∀ k < 18, |(((granules g).lines (18 * sb + k)).toInt : ℝ) -
    analysisLine ((granules g).type sb) (fun j => inverted signal sb (18 * g + j)) k| ≤ 1 / 2

theorem granuleRun_succ (granules : ℕ → GranuleLines) (start : Subbands) (n : ℕ) {sb i : ℕ}
    (hsb : sb < 32) (hi : i < 18) :
    (granuleRun granules start (n + 1)).sample i sb = subbandSample (granules n).blockType
        (granules n).mixed (granules n).lines (granuleRun granules start n).overlap sb i ∧
      (granuleRun granules start (n + 1)).overlap sb i = (granules n).block sb (i + 18) := by
  have hsame := transformLines_same_all (granules n).blockType (granules n).mixed
    (granules n).lines (granuleRun granules start n)
  obtain ⟨hsample, hoverlap⟩ := transformAll_prefix (granules n).blockType (granules n).mixed
    (granules n).lines (granuleRun granules start n) 32
  rw [← transformAll] at hsample hoverlap
  rw [granuleRun, hsame.sample, hsame.overlap, hsample, hoverlap]
  exact ⟨if_pos ⟨hi, hsb⟩, if_pos ⟨hi, hsb⟩⟩

/-- What two blocks are off together -/
theorem blockBudgets_fit : ∀ blockType < 4, ∀ next < 4, Joins blockType next → ∀ i < 18,
    (blockBudget blockType (18 + i)).error + (blockBudget next i).error + 18 ≤ 9 * 2 ^ 20 := by
  decide +kernel

section
variable {signal : ℕ → ℕ → ℝ} {granules : ℕ → GranuleLines} (h : Encodes signal granules)
include h

theorem Encodes.type_lt (g sb : ℕ) : (granules g).type sb < 4 := by
  rw [GranuleLines.type, subbandType]
  split_ifs
  · decide
  · exact h.types g

/-- A block against what was encoded -/
theorem Encodes.block_close (g : ℕ) {sb i : ℕ} (hsb : sb < 32) (hi : i < 36) :
    ((granules g).block sb i).toInt.natAbs < 2 ^ 30 ∧
      |(((granules g).block sb i).toInt : ℝ) - standardBlock ((granules g).type sb)
        (analysisLine ((granules g).type sb) fun j => inverted signal sb (18 * g + j)) i| ≤
          (blockBudget ((granules g).type sb) i).error + 9 := by
  have hx : ∀ k < 18, ((granules g).lines (18 * sb + k)).toInt.natAbs ≤ 2 ^ 24 :=
    fun k hk => h.small g (18 * sb + k) (by omega)
  obtain ⟨hfits, -, hreach⟩ := blockBudget_fits _ (h.type_lt g sb) i hi
  have hholds := imdctBlock_holds hx (fun _ => 0) (h.type_lt g sb) hi
  have hrounded := standardBlock_close ((granules g).type sb) (h.rounded g sb hsb) hi
  rw [GranuleLines.block_eq]
  refine ⟨Nat.lt_of_le_of_lt (hholds.natAbs_le hfits) hreach, ?_⟩
  exact (abs_sub_le _ _ _).trans (add_le_add (hholds.close hfits) hrounded)

/-- The end of a block and the beginning of the next give the values between them. -/
theorem Encodes.blocks_add (g : ℕ) {sb i : ℕ} (hsb : sb < 32) (hi : i < 18) :
    standardBlock ((granules g).type sb)
        (analysisLine ((granules g).type sb) fun j => inverted signal sb (18 * g + j)) (18 + i) +
      standardBlock ((granules (g + 1)).type sb)
        (analysisLine ((granules (g + 1)).type sb) fun j =>
          inverted signal sb (18 * (g + 1) + j)) i =
      inverted signal sb (18 * (g + 1) + i) := by
  have hplace : ∀ j, 18 * g + (18 + j) = 18 * (g + 1) + j := fun j => by omega
  have hslope := leftSlope_slope ((granules (g + 1)).type sb)
  rw [analysis_fall _ _ hi, analysis_rise _ _ hi, (h.joins g sb hsb).slope]
  simp only [hplace]
  exact LappedTransform.fall_add_rise hslope (fun j => inverted signal sb (18 * (g + 1) + j)) hi

/-- **Overlap-add undoes the transforms** in every run of granules with fitting block types: from the
second granule on each sample is the value that was encoded, up to `9/256`. -/
theorem granules_reconstruct (start : Subbands) (g : ℕ) {sb i : ℕ} (hsb : sb < 32) (hi : i < 18) :
    |(((granuleRun granules start (g + 2)).sample i sb).toInt : ℝ) -
      signal sb (18 * (g + 1) + i)| ≤ 9 * 2 ^ 20 := by
  obtain ⟨hsmallEnd, hend⟩ := h.block_close g hsb (show 18 + i < 36 by omega)
  obtain ⟨hsmallNext, hnext⟩ := h.block_close (g + 1) hsb (show i < 36 by omega)
  have hoverlap := (granuleRun_succ granules start g hsb hi).2
  rw [Nat.add_comm i 18] at hoverlap
  -- the sum does not overflow
  have hvalue : ((granules (g + 1)).block sb i + (granules g).block sb (18 + i)).toInt =
      ((granules (g + 1)).block sb i).toInt + ((granules g).block sb (18 + i)).toInt :=
    toInt_add_of_reach le_rfl le_rfl (by omega)
  have hclose : |(((granules (g + 1)).block sb i + (granules g).block sb (18 + i)).toInt : ℝ) -
      inverted signal sb (18 * (g + 1) + i)| ≤ 9 * 2 ^ 20 := by
    have herror : ((blockBudget ((granules g).type sb) (18 + i)).error : ℝ) +
        (blockBudget ((granules (g + 1)).type sb) i).error + 18 ≤ 9 * 2 ^ 20 := by
      exact_mod_cast blockBudgets_fit _ (h.type_lt g sb) _ (h.type_lt (g + 1) sb)
        (h.joins g sb hsb) i hi
    rw [hvalue, ← h.blocks_add g hsb hi, Int.cast_add]
    rw [abs_le] at hend hnext ⊢
    constructor <;> linarith [hend.1, hend.2, hnext.1, hnext.2]
  have hsample := (granuleRun_succ granules start (g + 1) hsb hi).1
  have hodd : (18 * (g + 1) + i) % 2 = i % 2 := by omega
  rw [hsample, subbandSample, ← GranuleLines.block, hoverlap]
  rw [inverted, hodd] at hclose
  split_ifs at hclose ⊢ with hinvert
  · have hlt : ((granules (g + 1)).block sb i + (granules g).block sb (18 + i)).toInt.natAbs <
        2 ^ 31 := by
      rw [hvalue]
      omega
    rw [toInt_neg_of_reach le_rfl hlt, Int.cast_neg, neg_sub_left, abs_neg, add_comm]
    rw [sub_neg_eq_add] at hclose
    exact hclose
  · exact hclose

end

/-! ### An encoder -/

theorem abs_inverted (signal : ℕ → ℕ → ℝ) (sb t : ℕ) : |inverted signal sb t| = |signal sb t| := by
  rw [inverted]
  split_ifs
  · exact abs_neg _
  · rfl

/-- Lines of windowed values, scaled -/
theorem abs_scaled_lines_le {N : ℕ} (hN : 0 < N) {left right : ℕ → ℝ}
    (hleft : LappedTransform.Slope N left) (hright : LappedTransform.Slope N right) (s : ℕ → ℝ)
    (k : ℕ) :
    |(2 : ℕ) / (N : ℕ) * LappedTransform.lines N
      (fun m => LappedTransform.bell N left right m * s m) k| ≤
        (2 : ℕ) / (N : ℕ) * ∑ n ∈ range (2 * N), |s n| := by
  have hpos : (0 : ℝ) < N := by exact_mod_cast hN
  have hterm : ∀ n ∈ range (2 * N),
      |LappedTransform.bell N left right n * s n * LappedTransform.kernel N n k| ≤ |s n| := by
    intro n hn
    have hn := mem_range.mp hn
    rw [abs_mul, abs_mul]
    calc |LappedTransform.bell N left right n| * |s n| * |LappedTransform.kernel N n k|
        ≤ 1 * |s n| * 1 :=
          mul_le_mul (mul_le_mul_of_nonneg_right (abs_bell_le hleft hright hn) (abs_nonneg _))
            (Real.abs_cos_le_one _) (abs_nonneg _) (by positivity)
      _ = |s n| := by ring
  have hsum : |LappedTransform.lines N
      (fun m => LappedTransform.bell N left right m * s m) k| ≤ ∑ n ∈ range (2 * N), |s n| := by
    rw [LappedTransform.lines]
    exact (abs_sum_le_sum_abs _ _).trans (sum_le_sum hterm)
  rw [abs_mul, abs_of_nonneg (by positivity : (0 : ℝ) ≤ (2 : ℕ) / (N : ℕ))]
  exact mul_le_mul_of_nonneg_left hsum (by positivity)

/-- A line is at most a third of the sum of the values. -/
theorem abs_analysisLine_le (blockType : ℕ) {s : ℕ → ℝ} {b : ℝ}
    (hs : ∑ n ∈ range 36, |s n| ≤ 3 * b) {k : ℕ} (hk : k < 18) :
    |analysisLine blockType s k| ≤ b := by
  have hnonneg : 0 ≤ ∑ n ∈ range 36, |s n| := sum_nonneg fun n _ => abs_nonneg (s n)
  rw [analysisLine]
  split_ifs with hshort
  · have hpart : ∑ n ∈ range 12, |s (6 * (k / 6 + 1) + n)| ≤ ∑ n ∈ range 36, |s n| := by
      have hshift := sum_Ico_eq_sum_range (fun n => |s n|) (6 * (k / 6 + 1)) (6 * (k / 6 + 1) + 12)
      rw [Nat.add_sub_cancel_left] at hshift
      rw [← hshift]
      refine sum_le_sum_of_subset_of_nonneg ?_ fun n _ _ => abs_nonneg (s n)
      intro n hn
      rw [mem_Ico] at hn
      rw [mem_range]
      omega
    refine (abs_scaled_lines_le (by decide) (LappedTransform.sineSlope_slope 6)
      (LappedTransform.sineSlope_slope 6) (fun n => s (6 * (k / 6 + 1) + n)) _).trans ?_
    push_cast
    linarith
  · refine (abs_scaled_lines_le (by decide) (leftSlope_slope blockType) (rightSlope_slope blockType)
      s _).trans ?_
    push_cast
    linarith

theorem natAbs_round_le {x : ℝ} {n : ℕ} (hx : |x| ≤ n) : (round x).natAbs ≤ n := by
  have hround := abs_le.mp (abs_sub_round x)
  have hbound := abs_le.mp hx
  have hupper : ((round x : ℤ) : ℝ) < ((n + 1 : ℤ) : ℝ) := by
    push_cast
    linarith
  have hlower : ((-(n + 1) : ℤ) : ℝ) < ((round x : ℤ) : ℝ) := by
    push_cast
    linarith
  have hupper := Int.cast_lt.mp hupper
  have hlower := Int.cast_lt.mp hlower
  omega

/-- The words nearest to the lines of a signal, in blocks of the given types -/
noncomputable def encodedGranules (blockType : ℕ → ℕ) (mixed : ℕ → Bool) (signal : ℕ → ℕ → ℝ)
    (g : ℕ) : GranuleLines where
  blockType := blockType g
  mixed := mixed g
  lines := fun i => BitVec.ofInt 32 (round (analysisLine
    (subbandType (blockType g) (mixed g) (i / 18))
    (fun j => inverted signal (i / 18) (18 * g + j)) (i % 18)))

/-- Every signal that is not too loud has granules that hold it, of all block types that fit. -/
theorem encodedGranules_encode {blockType : ℕ → ℕ} {mixed : ℕ → Bool} {signal : ℕ → ℕ → ℝ}
    (htypes : ∀ g, blockType g < 4)
    (hjoins : ∀ g, ∀ sb < 32, Joins (subbandType (blockType g) (mixed g) sb)
      (subbandType (blockType (g + 1)) (mixed (g + 1)) sb))
    (hsignal : ∀ sb < 32, ∀ t, ∑ n ∈ range 36, |signal sb (t + n)| ≤ 3 * (2 ^ 24 : ℕ)) :
    Encodes signal (encodedGranules blockType mixed signal) := by
  have hline : ∀ t g, ∀ sb < 32, ∀ k < 18,
      |analysisLine t (fun j => inverted signal sb (18 * g + j)) k| ≤ (2 ^ 24 : ℕ) := by
    intro t g sb hsb k hk
    refine abs_analysisLine_le t ?_ hk
    simp only [abs_inverted]
    exact hsignal sb hsb (18 * g)
  have hword : ∀ g, ∀ i < 576, ((encodedGranules blockType mixed signal g).lines i).toInt =
      round (analysisLine (subbandType (blockType g) (mixed g) (i / 18))
        (fun j => inverted signal (i / 18) (18 * g + j)) (i % 18)) := by
    intro g i hi
    have hreach := natAbs_round_le (hline (subbandType (blockType g) (mixed g) (i / 18)) g (i / 18)
      (by omega) (i % 18) (by omega))
    exact toInt_of_bounds (BitVec.toInt_ofInt _) (by omega)
  constructor
  · exact htypes
  · exact hjoins
  · intro g i hi
    rw [hword g i hi]
    exact natAbs_round_le (hline _ g (i / 18) (by omega) (i % 18) (by omega))
  · intro g sb hsb k hk
    have hplace : (18 * sb + k) / 18 = sb := by omega
    have hplace' : (18 * sb + k) % 18 = k := by omega
    rw [hword g _ (by omega), hplace, hplace', abs_sub_comm]
    exact abs_sub_round _

/-- A pulse in each 36 values, of another height in each subband -/
noncomputable def pulses (sb t : ℕ) : ℝ :=
  ((if t % 36 = 17 then 2 ^ 25 + 2 ^ 15 * sb else 0 : ℕ) : ℝ)

theorem sum_pulses_le {sb : ℕ} (hsb : sb < 32) (t : ℕ) :
    ∑ n ∈ range 36, |pulses sb (t + n)| ≤ 3 * (2 ^ 24 : ℕ) := by
  have hone : #{n ∈ range 36 | (t + n) % 36 = 17} ≤ 1 := by
    refine card_le_one.mpr ?_
    intro n hn m hm
    simp only [mem_filter, mem_range] at hn hm
    omega
  have hbound : #{n ∈ range 36 | (t + n) % 36 = 17} * (2 ^ 25 + 2 ^ 15 * sb) ≤ 3 * 2 ^ 24 :=
    (Nat.mul_le_mul_right _ hone).trans (by omega)
  simp only [pulses, Nat.abs_cast]
  rw [← Nat.cast_sum, ← sum_filter, sum_const, smul_eq_mul]
  exact_mod_cast hbound

/-- The pulse in the last subband comes out. -/
theorem granules_reconstruct_pulses :
    let start : Subbands := ⟨fun _ _ => 7, fun _ _ => 7, fun _ => 7⟩
    |(((granuleRun (encodedGranules (fun g => g % 4) (fun _ => false) pulses) start
        (5 + 2)).sample 17 31).toInt : ℝ) - ((2 ^ 25 + 2 ^ 15 * 31 : ℕ) : ℝ)| ≤ 9 * 2 ^ 20 := by
  intro start
  have hencodes : Encodes pulses (encodedGranules (fun g => g % 4) (fun _ => false) pulses) := by
    refine encodedGranules_encode ?_ ?_ fun sb hsb t => sum_pulses_le hsb t
    · intro g
      exact Nat.mod_lt g (by decide)
    · intro g sb _
      have hturn : ∀ t < 4, Joins t ((t + 1) % 4) := by decide
      have hjoin := hturn (g % 4) (Nat.mod_lt g (by decide))
      rw [show (g % 4 + 1) % 4 = (g + 1) % 4 by omega] at hjoin
      simpa only [subbandType, Bool.false_eq_true, false_and, if_false] using hjoin
  have hpulse : pulses 31 (18 * (5 + 1) + 17) = ((2 ^ 25 + 2 ^ 15 * 31 : ℕ) : ℝ) := by
    rw [pulses, if_pos (by decide)]
  rw [← hpulse]
  exact granules_reconstruct hencodes start 5 (by decide) (by decide)

end Mp3Decoder
