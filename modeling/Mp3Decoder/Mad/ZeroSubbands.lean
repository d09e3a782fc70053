import Mathlib.Data.List.GetD
import Mp3Decoder.Mad.Samples

/-!
# The subbands that are not transformed (`III_decode`)

The transforms of lines that are all 0 are 0 in the arithmetic of `mad_f_mul`, and the overlap of 0
is `III_overlap_z`.  So the samples are those of transforming all 32 subbands.
-/

namespace Mp3Decoder

/-! ### Transforms of zeros -/

@[simp] theorem madFMul_zero_left (y : Fixed) : madFMul 0 y = 0 := by
  show BitVec.sshiftRight 0#32 12 * _ = 0
  rw [BitVec.zero_sshiftRight, BitVec.zero_mul]
  rfl

theorem fastsdct_zero {x : ℕ → Fixed} (hx : ∀ i < 9, x i = 0) (k : ℕ) :
    (fastsdct x).getD k 0 = 0 := by
  have hall : fastsdct x = List.replicate 9 0 := by
    simp only [fastsdct, hx 0 (by decide), hx 1 (by decide), hx 2 (by decide), hx 3 (by decide),
      hx 4 (by decide), hx 5 (by decide), hx 6 (by decide), hx 7 (by decide), hx 8 (by decide)]
    decide
  rw [hall, List.getD_eq_getElem?_getD, List.getElem?_getD_replicate_default_eq]

theorem update_zero {X : ℕ → Fixed} (hX : ∀ i, X i = 0) (k : ℕ) {v : Fixed} (hv : v = 0) (i : ℕ) :
    Function.update X k v i = 0 := by
  by_cases hi : i = k
  · rw [hi, Function.update_self, hv]
  · rw [Function.update_of_ne hi, hX i]

theorem sdctII_zero {x : ℕ → Fixed} (hx : ∀ i < 18, x i = 0) : ∀ i, sdctII x i = 0 := by
  have heven : ∀ k, (fastsdct fun i => x i + x (18 - i - 1)).getD k 0 = 0 := by
    apply fastsdct_zero
    intro k hk
    rw [hx k (by omega), hx (18 - k - 1) (by omega)]
    rfl
  have hodd : ∀ k, (fastsdct fun i =>
      madFMul (x i - x (18 - i - 1)) (sdctScale.getD i 0)).getD k 0 = 0 := by
    apply fastsdct_zero
    intro k hk
    rw [hx k (by omega), hx (18 - k - 1) (by omega), sub_self, madFMul_zero_left]
  apply List.foldlRecOn (motive := fun X : ℕ → Fixed => ∀ i, X i = 0)
  · intro i
    simp only [heven, hodd, ite_self]
  · intro X hX k _
    exact update_zero hX _ (by rw [hX, hX, sub_self])

theorem dctIV_zero {y : ℕ → Fixed} (hy : ∀ i < 18, y i = 0) : ∀ i, dctIV y i = 0 := by
  have hX : ∀ i, sdctII (fun i => madFMul (y i) (dctScale.getD i 0)) i = 0 := by
    apply sdctII_zero
    intro k hk
    rw [hy k hk, madFMul_zero_left]
  apply List.foldlRecOn (motive := fun X : ℕ → Fixed => ∀ i, X i = 0)
  · exact update_zero hX 0 (by rw [hX]; rfl)
  · intro X hzero k _
    exact update_zero hzero _ (by rw [hzero, hzero]; rfl)

theorem imdct36_zero {x : ℕ → Fixed} (hx : ∀ i < 18, x i = 0) (y : ℕ → Fixed) {i : ℕ}
    (hi : i < 36) : imdct36 x y i = 0 := by
  simp only [imdct36, dctIV_zero hx, neg_zero, if_pos hi, ite_self]

/-- **`III_imdct_l`** of zeros -/
theorem iiiImdctL_zero {x : ℕ → Fixed} (hx : ∀ i < 18, x i = 0) (output : ℕ → Fixed)
    (blockType : ℕ) {i : ℕ} (hi : i < 36) : iiiImdctL x output blockType i = 0 := by
  have hz := imdct36_zero hx output hi
  match blockType with
  | 0 => simp only [iiiImdctL, windowedL, hz, madFMul_zero_left, ite_self]
  | 1 => simp only [iiiImdctL, windowedL, hz, madFMul_zero_left, ite_self]
  | 2 => exact hz
  | 3 => simp only [iiiImdctL, windowedL, hz, madFMul_zero_left, ite_self]
  | _ + 4 => exact hz

theorem imdctShort_zero {x : ℕ → Fixed} (hx : ∀ k < 6, x k = 0) (j : ℕ) : imdctShort x j = 0 := by
  have hsum : ∀ row, imdctSum x row = 0 := by
    intro row
    apply List.foldlRecOn (motive := fun lo : Fixed => lo = 0)
    · rfl
    · intro lo hlo k hk
      rw [hlo, hx k (List.mem_range.mp hk), madFMul_zero_left, add_zero]
  simp only [imdctShort, hsum, neg_zero, ite_self]

/-- **`III_imdct_s`** of zeros -/
theorem iiiImdctS_zero {x : ℕ → Fixed} (hx : ∀ i < 18, x i = 0) (output : ℕ → Fixed) {i : ℕ}
    (hi : i < 36) : iiiImdctS x output i = 0 := by
  have hy : ∀ w < 3, ∀ j, imdctShort (fun k => x (6 * w + k)) j = 0 := fun w hw =>
    imdctShort_zero fun k hk => hx (6 * w + k) (by omega)
  have hrow : i / 6 = 0 ∨ i / 6 = 1 ∨ i / 6 = 2 ∨ i / 6 = 3 ∨ i / 6 = 4 ∨ i / 6 = 5 := by omega
  rcases hrow with h | h | h | h | h | h
  all_goals simp only [iiiImdctS, h, hy 0 (by decide), hy 1 (by decide), hy 2 (by decide),
    madFMul_zero_left, add_zero]

/-- The overlap of zeros -/
theorem Subbands.Same.overlap_zero {s s' : Subbands} (h : s.Same s') {output : ℕ → Fixed}
    (hzero : ∀ i < 36, output i = 0) (sb : ℕ) :
    (iiiOverlapZ s sb).Same (iiiOverlap { s' with output } sb) := by
  refine ⟨?_, ?_⟩
  · funext i sb'
    simp only [iiiOverlapZ, iiiOverlap, h.sample, h.overlap]
    by_cases hin : i < 18 ∧ sb' = sb
    · rw [if_pos hin, if_pos hin, hzero i (by omega), zero_add]
    · rw [if_neg hin, if_neg hin]
  · simp only [iiiOverlapZ, iiiOverlap, h.overlap]
    congr 1
    funext i
    by_cases hin : i < 18
    · rw [if_pos hin, if_pos hin, hzero (i + 18) (by omega)]
    · rw [if_neg hin, if_neg hin]

/-! ### The last line that is not 0 -/

theorem trimZeros_zero (xr : ℕ → Fixed) (n : ℕ) :
    ∀ i, trimZeros xr n ≤ i → i < n → xr i = 0 := by
  induction n with
  | zero => exact fun i _ hi => absurd hi (Nat.not_lt_zero i)
  | succ n ih =>
    intro i hlo hi
    rw [trimZeros] at hlo
    split_ifs at hlo with hzero
    · by_cases hlast : i = n
      · rw [hlast, hzero.2]
      · exact ih i hlo (by omega)
    · omega

theorem trimZeros_bounds (xr : ℕ → Fixed) {n : ℕ} (hn : 36 ≤ n) :
    36 ≤ trimZeros xr n ∧ trimZeros xr n ≤ n := by
  induction n with
  | zero => omega
  | succ n ih =>
    rw [trimZeros]
    split_ifs with hzero
    · have hle := ih (by omega)
      omega
    · omega

theorem sblimit_bounds (xr : ℕ → Fixed) : 2 ≤ sblimit xr ∧ sblimit xr ≤ 32 := by
  have htrim := trimZeros_bounds xr (show 36 ≤ 576 by decide)
  rw [sblimit]
  omega

/-- **From `sblimit` on, all lines are 0.** -/
theorem sblimit_zero (xr : ℕ → Fixed) {sb : ℕ} (hlo : sblimit xr ≤ sb) (hhi : sb < 32) :
    ∀ i < 18, xr (18 * sb + i) = 0 := by
  intro i hi
  apply trimZeros_zero xr 576
  · rw [sblimit] at hlo
    omega
  · omega

/-! ### All subbands -/

/-- One subband, also when its lines are 0; the lower two of a mixed block are long. -/
def transformSubband (blockType : ℕ) (mixed : Bool) (xr : ℕ → Fixed) (s : Subbands) (sb : ℕ) :
    Subbands :=
  if mixed ∧ sb < 2 then longSubband xr 0 s sb
  else if blockType = 2 then shortSubband xr s sb
  else longSubband xr blockType s sb

/-- All subbands, and the inversion of the odd ones. -/
def transformAll (blockType : ℕ) (mixed : Bool) (xr : ℕ → Fixed) (s : Subbands) : Subbands :=
  (List.range 32).foldl
    (fun s sb => invertOdd (transformSubband blockType mixed xr s sb) sb) s

variable (blockType : ℕ) (mixed : Bool) (xr : ℕ → Fixed)

/-- One subband as the code has it. -/
def transformOrSkip (s : Subbands) (sb : ℕ) : Subbands :=
  if sb < sblimit xr then transformSubband blockType mixed xr s sb else iiiOverlapZ s sb

theorem range_split {limit : ℕ} (hlo : 2 ≤ limit) (hhi : limit ≤ 32) :
    List.range 32 = List.range 2 ++ (List.range' 2 (limit - 2) ++
      List.range' limit (32 - limit)) := by
  have hrest : List.range' 2 (limit - 2) ++ List.range' limit (32 - limit) = List.range' 2 30 := by
    have happend := List.range'_append_1 (s := 2) (m := limit - 2) (n := 32 - limit)
    rw [show 2 + (limit - 2) = limit by omega] at happend
    rw [happend, show limit - 2 + (32 - limit) = 30 by omega]
  rw [hrest]
  rfl

/-- The three loops as one. -/
theorem transformLines_eq (s : Subbands) : transformLines blockType mixed xr s =
    (List.range 32).foldl (fun s sb => invertOdd (transformOrSkip blockType mixed xr s sb) sb) s := by
  obtain ⟨hlo, hhi⟩ := sblimit_bounds xr
  rw [range_split hlo hhi, List.foldl_append, List.foldl_append]
  have hlow : (List.range 2).foldl
      (fun s sb => invertOdd (transformOrSkip blockType mixed xr s sb) sb) s =
      iiiFreqinver (if blockType ≠ 2 ∨ mixed then
        (List.range 2).foldl (longSubband xr (if mixed then 0 else blockType)) s
      else (List.range 2).foldl (shortSubband xr) s) 1 := by
    have hstep : ∀ s, ∀ sb < 2, transformOrSkip blockType mixed xr s sb =
        if blockType ≠ 2 ∨ mixed then longSubband xr (if mixed then 0 else blockType) s sb
        else shortSubband xr s sb := by
      intro s sb hsb
      rw [transformOrSkip, if_pos (by omega), transformSubband]
      cases mixed with
      | false => simp [ite_not]
      | true => simp [hsb]
    show invertOdd (transformOrSkip blockType mixed xr
      (invertOdd (transformOrSkip blockType mixed xr s 0) 0) 1) 1 = _
    rw [hstep _ 0 (by decide), hstep _ 1 (by decide)]
    by_cases hlong : blockType ≠ 2 ∨ mixed
    · rw [if_pos hlong, if_pos hlong, if_pos hlong]
      rfl
    · rw [if_neg hlong, if_neg hlong, if_neg hlong]
      rfl
  have hmiddle : ∀ s, (List.range' 2 (sblimit xr - 2)).foldl
      (fun s sb => invertOdd (transformOrSkip blockType mixed xr s sb) sb) s =
      (List.range' 2 (sblimit xr - 2)).foldl (fun s sb => invertOdd (if blockType ≠ 2 then
        longSubband xr blockType s sb else shortSubband xr s sb) sb) s := by
    intro s
    apply List.foldl_ext
    intro s sb hsb
    have hrange := List.mem_range'_1.mp hsb
    rw [transformOrSkip, if_pos (by omega), transformSubband, if_neg (by omega), ite_not]
  have hzero : ∀ s, (List.range' (sblimit xr) (32 - sblimit xr)).foldl
      (fun s sb => invertOdd (transformOrSkip blockType mixed xr s sb) sb) s =
      (List.range' (sblimit xr) (32 - sblimit xr)).foldl
        (fun s sb => invertOdd (iiiOverlapZ s sb) sb) s := by
    intro s
    apply List.foldl_ext
    intro s sb hsb
    have hrange := List.mem_range'_1.mp hsb
    rw [transformOrSkip, if_neg (by omega)]
  rw [hzero, hmiddle, hlow, transformLines]

/-- Transforming the zeros makes no difference. -/
theorem Subbands.Same.transformOrSkip {s s' : Subbands} (h : s.Same s') {sb : ℕ} (hsb : sb < 32) :
    (Mp3Decoder.transformOrSkip blockType mixed xr s sb).Same
      (transformSubband blockType mixed xr s' sb) := by
  have hlo := (sblimit_bounds xr).1
  rw [Mp3Decoder.transformOrSkip]
  by_cases hlimit : sb < sblimit xr
  · rw [if_pos hlimit, transformSubband, transformSubband]
    split_ifs
    · exact h.long xr 0 sb
    · exact h.short xr sb
    · exact h.long xr blockType sb
  · have hzero := sblimit_zero xr (Nat.not_lt.mp hlimit) hsb
    rw [if_neg hlimit, transformSubband, if_neg (by omega)]
    split_ifs
    · exact h.overlap_zero (fun _ hi => iiiImdctS_zero hzero _ hi) sb
    · exact h.overlap_zero (fun _ hi => iiiImdctL_zero hzero _ _ hi) sb

theorem transformLines_same_all (s : Subbands) :
    (transformLines blockType mixed xr s).Same (transformAll blockType mixed xr s) := by
  rw [transformLines_eq]
  refine Subbands.Same.foldl _ (fun sb hsb s s' hs => ?_) ⟨rfl, rfl⟩
  exact (hs.transformOrSkip blockType mixed xr (List.mem_range.mp hsb)).invertOdd sb

/-! ### What comes out -/

/-- The transform of one subband. -/
def subbandOutput (sb : ℕ) : ℕ → Fixed :=
  if mixed ∧ sb < 2 then iiiImdctL (fun i => xr (18 * sb + i)) (fun _ => 0) 0
  else if blockType = 2 then iiiImdctS (fun i => xr (18 * sb + i)) fun _ => 0
  else iiiImdctL (fun i => xr (18 * sb + i)) (fun _ => 0) blockType

/-- The samples of one subband. -/
def subbandSample (overlap : ℕ → ℕ → Fixed) (sb i : ℕ) : Fixed :=
  let value := subbandOutput blockType mixed xr sb i + overlap sb i
  if sb % 2 = 1 ∧ i % 2 = 1 then -value else value

theorem invertOdd_sample (s : Subbands) (sb i sb' : ℕ) : (invertOdd s sb).sample i sb' =
    if i < 18 ∧ sb % 2 = 1 ∧ i % 2 = 1 ∧ sb' = sb then -s.sample i sb' else s.sample i sb' := by
  have hodd : sb &&& 1 = sb % 2 := Nat.and_one_is_mod sb
  rw [invertOdd, hodd]
  by_cases hsb : sb % 2 = 1
  · rw [if_pos (by omega)]
    simp only [iiiFreqinver, hsb, true_and]
  · rw [if_neg (by omega), if_neg fun hall => hsb hall.2.1]

theorem invertOdd_overlap (s : Subbands) (sb : ℕ) : (invertOdd s sb).overlap = s.overlap := by
  rw [invertOdd]
  split_ifs
  · rfl
  · rfl

/-- Every transform is an overlap with `subbandOutput`. -/
theorem transformSubband_same (s : Subbands) (sb : ℕ) :
    (transformSubband blockType mixed xr s sb).Same
      (iiiOverlap { s with output := subbandOutput blockType mixed xr sb } sb) := by
  rw [transformSubband, subbandOutput]
  split_ifs
  · exact Subbands.Same.overlapAdd ⟨rfl, rfl⟩ (fun _ hi => iiiImdctL_set _ _ _ _ hi) sb
  · exact Subbands.Same.overlapAdd ⟨rfl, rfl⟩ (fun _ hi => iiiImdctS_set _ _ _ hi) sb
  · exact Subbands.Same.overlapAdd ⟨rfl, rfl⟩ (fun _ hi => iiiImdctL_set _ _ _ _ hi) sb

/-- After `n` subbands -/
theorem transformAll_prefix (s : Subbands) (n : ℕ) :
    let s' := (List.range n).foldl
      (fun s sb => invertOdd (transformSubband blockType mixed xr s sb) sb) s
    (s'.sample = fun i sb =>
      if i < 18 ∧ sb < n then subbandSample blockType mixed xr s.overlap sb i else s.sample i sb) ∧
    s'.overlap = fun sb i =>
      if i < 18 ∧ sb < n then subbandOutput blockType mixed xr sb (i + 18) else s.overlap sb i := by
  induction n with
  | zero =>
    refine ⟨?_, ?_⟩
    · funext i sb
      rw [if_neg fun hin => absurd hin.2 (Nat.not_lt_zero sb)]
      rfl
    · funext sb i
      rw [if_neg fun hin => absurd hin.2 (Nat.not_lt_zero sb)]
      rfl
  | succ n ih =>
    simp only [List.range_succ, List.foldl_append, List.foldl_cons, List.foldl_nil] at ih ⊢
    generalize (List.range n).foldl
      (fun s sb => invertOdd (transformSubband blockType mixed xr s sb) sb) s = before at ih ⊢
    obtain ⟨hsample, hoverlap⟩ := ih
    have hsame := transformSubband_same blockType mixed xr before n
    refine ⟨?_, ?_⟩
    · funext i sb
      rw [invertOdd_sample, hsame.sample]
      simp only [iiiOverlap, hsample, hoverlap]
      by_cases hi : i < 18
      · by_cases hlast : sb = n
        · simp [hi, hlast, subbandSample]
        · simp [hi, hlast, show sb < n + 1 ↔ sb < n by omega]
      · simp [hi]
    · funext sb i
      rw [invertOdd_overlap, hsame.overlap]
      simp only [iiiOverlap, hoverlap]
      by_cases hlast : sb = n
      · rw [hlast, Function.update_self]
        simp
      · rw [Function.update_of_ne hlast]
        simp [show sb < n + 1 ↔ sb < n by omega]

/-- **The zero subbands need no transform**: the samples and the overlap are those of all subbands
transformed, where each odd subband is inverted once. -/
theorem transformLines_all (s : Subbands) :
    let all := transformAll blockType mixed xr s
    (transformLines blockType mixed xr s).Same all ∧
      (∀ sb < 32, ∀ i < 18, all.sample i sb = subbandSample blockType mixed xr s.overlap sb i ∧
        all.overlap sb i = subbandOutput blockType mixed xr sb (i + 18)) := by
  refine ⟨transformLines_same_all blockType mixed xr s, fun sb hsb i hi => ?_⟩
  obtain ⟨hsample, hoverlap⟩ := transformAll_prefix blockType mixed xr s 32
  rw [← transformAll] at hsample hoverlap
  rw [hsample, hoverlap]
  exact ⟨if_pos ⟨hi, hsb⟩, if_pos ⟨hi, hsb⟩⟩

end Mp3Decoder
