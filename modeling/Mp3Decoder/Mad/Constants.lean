import Mathlib.Analysis.Real.Sqrt
import Mathlib.Analysis.SpecialFunctions.Pow.Real
import Mathlib.Tactic.IntervalCases
import Mp3Decoder.Mad.Dct32
import Mp3Decoder.Mad.Stereo

/-!
# The constants of the decoder

The constants of the inverse transforms and of their windows are cosines of multiples of `π/72`, or
twice such a cosine.  One table of these cosines, checked by the half-angle formula, shows that each
constant is the 28-bit number nearest to the real one.  The constants of alias reduction and of the
stereo modes are roots, checked by their powers, and quotients of sines.
-/

namespace Mp3Decoder

/-- The cosines of the multiples of `π/72` up to the right angle, `2^56` times as large -/
def cosines72 : List ℤ := [
  72057594037927936, 71989011175059381, 71783393137831183, 71441131331863770, 70962877271957691,
  70349541341898160, 69602291061487782, 68722548864106247, 67711989389027549, 66572536293648945,
  65306358591699770, 63915866524400519, 62403706972431700, 60772758417446015, 59026125462714935,
  57167132923339920, 55199319497277898, 53126431029228581, 50952413380206181, 48681404916368696,
  46317728631402725, 43865883917459279, 41330538000305091, 38716517054993108, 36028797018963968,
  33272494120066273, 30452855137526092, 27575247414404491, 24645148640554965, 21668136425529464,
  18649877681281602, 15596117834877666, 12512669891749651, 9405403370309025, 6280233128984835,
  3143108106954504, 0]

/-- How exact the entries are: the halves of the angles are less so than the whole. -/
def cosines72Error (j : ℕ) : ℤ :=
  if j % 4 = 0 then if j = 32 then 128 else 64 else if j % 2 = 0 then 512 else 4096

/-- 36 steps are a right angle. -/
theorem step72 : 2 * ((36 : ℕ) * (Real.pi / 72)) = Real.pi := by
  push_cast
  ring

theorem cosines72_fits : ∀ j < 37, j ∉ [0, 8, 24, 36] →
    CosineTable.Fits (2 ^ 56) 36 (cosines72.getD · 0) cosines72Error j := by
  decide +kernel

/-- 60 degrees -/
theorem cosines72_sixty : CosineTable.Near (2 ^ 56) (cosines72.getD 24 0) (cosines72Error 24)
    (Real.cos ((24 : ℕ) * (Real.pi / 72))) := by
  have hangle : (24 : ℕ) * (Real.pi / 72) = Real.pi / 3 := by
    push_cast
    ring
  rw [hangle, Real.cos_pi_div_three]
  norm_num [CosineTable.Near, cosines72, cosines72Error]

/-- 20 degrees -/
theorem cosines72_twenty : CosineTable.Near (2 ^ 56) (cosines72.getD 8 0) (cosines72Error 8)
    (Real.cos ((8 : ℕ) * (Real.pi / 72))) := by
  have hangle : 3 * ((8 : ℕ) * (Real.pi / 72)) = Real.pi / 3 := by
    push_cast
    ring
  have htriple : Real.cos (3 * ((8 : ℕ) * (Real.pi / 72))) = 1 / 2 := by
    rw [hangle, Real.cos_pi_div_three]
  refine CosineTable.Near.thirdAngle htriple ?_ (by decide) (by decide) ?_ ?_
  · rw [← Real.cos_pi_div_three]
    refine Real.cos_le_cos_of_nonneg_of_le_pi ?_ ?_ ?_
    all_goals
      push_cast
      linarith [Real.pi_pos]
  · norm_num [cosines72, cosines72Error]
  · norm_num [cosines72, cosines72Error]

/-- Entry `j` is right. -/
def Cosine72 (j : ℕ) : Prop :=
  CosineTable.Near (2 ^ 56) (cosines72.getD j 0) (cosines72Error j) (Real.cos (j * (Real.pi / 72)))

theorem Cosine72.halve {j double : ℕ} (hj : j < 37) (hcheck : j ∉ [0, 8, 24, 36])
    (hdouble : double = if 2 * j ≤ 36 then 2 * j else 72 - 2 * j) (h : Cosine72 double) :
    Cosine72 j := by
  refine CosineTable.Fits.near step72 (by omega) (cosines72_fits j hj hcheck) ?_
  intro i hi hplace
  have hsame : i = double := by
    rw [hdouble]
    split_ifs
    all_goals omega
  exact hsame ▸ h

/-- The multiples of ten degrees -/
theorem cosine72_tens : ∀ i < 10, Cosine72 (4 * i) := by
  have h20 : Cosine72 8 := cosines72_twenty
  have h60 : Cosine72 24 := cosines72_sixty
  have h10 : Cosine72 4 := h20.halve (by omega) (by decide) rfl
  have h30 : Cosine72 12 := h60.halve (by omega) (by decide) rfl
  have h80 : Cosine72 32 := h20.halve (by omega) (by decide) rfl
  have h40 : Cosine72 16 := h80.halve (by omega) (by decide) rfl
  have h50 : Cosine72 20 := h80.halve (by omega) (by decide) rfl
  have h70 : Cosine72 28 := h40.halve (by omega) (by decide) rfl
  have h0 : Cosine72 0 := by
    norm_num [Cosine72, CosineTable.Near, cosines72, cosines72Error]
  have h90 : Cosine72 36 := by
    have hright : ((36 : ℕ) : ℝ) * (Real.pi / 72) = Real.pi / 2 := by
      push_cast
      ring
    rw [Cosine72, hright, Real.cos_pi_div_two]
    norm_num [CosineTable.Near, cosines72, cosines72Error]
  intro i hi
  interval_cases i
  all_goals assumption

theorem cosine72_all : ∀ j ≤ 36, Cosine72 j := by
  refine CosineTable.near_of_fits (m := 2) step72 (by norm_num) ?_ ?_
  · rintro j hj ⟨i, rfl⟩
    exact cosine72_tens i (by omega)
  · intro j hj
    by_cases hcheck : j ∈ [0, 8, 24, 36]
    · left
      have hmultiples : ∀ j ∈ [0, 8, 24, 36], 2 ^ 2 ∣ j := by decide
      exact hmultiples j hcheck
    · exact Or.inr (cosines72_fits j (by omega) hcheck)

/-! ### Any multiple -/

/-- The multiple in the first half turn that has the same cosine. -/
def foldHalf (n : ℕ) : ℕ := if n % 144 ≤ 72 then n % 144 else 144 - n % 144

/-- The cosine of any multiple, `2^56` times as large -/
def cosine72 (n : ℕ) : ℤ :=
  if foldHalf n ≤ 36 then cosines72.getD (foldHalf n) 0 else -cosines72.getD (72 - foldHalf n) 0

theorem cos_foldHalf (n : ℕ) :
    Real.cos (foldHalf n * (Real.pi / 72)) = Real.cos (n * (Real.pi / 72)) := by
  have hwhole : (n : ℝ) * (Real.pi / 72) =
      (n % 144 : ℕ) * (Real.pi / 72) + (n / 144 : ℕ) * (2 * Real.pi) := by
    have hdiv : (n : ℝ) = (n % 144 : ℕ) + 144 * (n / 144 : ℕ) := by
      exact_mod_cast (Nat.mod_add_div n 144).symm
    rw [hdiv]
    ring
  rw [hwhole, Real.cos_add_nat_mul_two_pi, foldHalf]
  split_ifs with hle
  · rfl
  · have hback : ((144 - n % 144 : ℕ) : ℝ) * (Real.pi / 72) =
        2 * Real.pi - (n % 144 : ℕ) * (Real.pi / 72) := by
      rw [Nat.cast_sub (by omega)]
      push_cast
      ring
    rw [hback, Real.cos_two_pi_sub]

theorem cosine72_near (n : ℕ) :
    CosineTable.Near (2 ^ 56) (cosine72 n) 4096 (Real.cos (n * (Real.pi / 72))) := by
  have hfold : foldHalf n ≤ 72 := by
    rw [foldHalf]
    split_ifs
    all_goals omega
  have herror : ∀ j ≤ 36, cosines72Error j ≤ 4096 := by decide
  rw [← cos_foldHalf, cosine72]
  split_ifs with hle
  · exact (cosine72_all _ hle).trans (Int.cast_le.mpr (herror _ hle))
  · have hback : (foldHalf n : ℝ) * (Real.pi / 72) =
        Real.pi - (72 - foldHalf n : ℕ) * (Real.pi / 72) := by
      rw [Nat.cast_sub hfold]
      push_cast
      ring
    have hother := cosine72_all (72 - foldHalf n) (by omega)
    rw [hback, Real.cos_pi_sub]
    exact hother.neg.trans (Int.cast_le.mpr (herror _ (by omega)))

/-! ### The constants of the source -/

/-- A word is the 28-bit number nearest to a real number. -/
def NearestWord (word : Fixed) (value : ℝ) : Prop :=
  |(word.toInt : ℝ) - (2 ^ 28 : ℕ) * value| ≤ 1 / (2 : ℕ)

theorem nearestWord_iff {word : Fixed} {value : ℝ} :
    NearestWord word value ↔ |(word.toInt : ℝ) - 2 ^ 28 * value| ≤ 1 / 2 := by
  rw [NearestWord, Nat.cast_pow, Nat.cast_ofNat]

/-- The check of a word against the table, for `times` a cosine -/
def Rounds (word : Fixed) (times n : ℕ) : Prop :=
  2 * |cosine72 n - word.toInt * (2 ^ 28 / times : ℕ)| + 2 * 4096 ≤ (1 : ℕ) * (2 ^ 28 / times : ℕ)

instance (word : Fixed) (times n : ℕ) : Decidable (Rounds word times n) :=
  inferInstanceAs (Decidable (_ ≤ _))

theorem Rounds.cosine {word : Fixed} {n : ℕ} (h : Rounds word 1 n) :
    NearestWord word (Real.cos (n * (Real.pi / 72))) := by
  have hnear := cosine72_near n
  rw [show 2 ^ 56 = 2 ^ 28 * (2 ^ 28 / 1) by norm_num] at hnear
  have hround := hnear.round h (by norm_num)
  rw [Nat.cast_one, Nat.cast_pow, Nat.cast_ofNat] at hround
  exact nearestWord_iff.mpr hround

theorem Rounds.twice {word : Fixed} {n : ℕ} (h : Rounds word 2 n) :
    NearestWord word (2 * Real.cos (n * (Real.pi / 72))) := by
  have hnear := cosine72_near n
  rw [show 2 ^ 56 = 2 ^ 29 * (2 ^ 28 / 2) by norm_num] at hnear
  have hround := hnear.round h (by norm_num)
  rw [Nat.cast_one, Nat.cast_pow, Nat.cast_ofNat, pow_succ, mul_assoc] at hround
  exact nearestWord_iff.mpr hround

/-- A sine is the cosine of three quarters of a turn more. -/
theorem sin_eq_cos72 (a : ℕ) :
    Real.sin (a * (Real.pi / 72)) = Real.cos ((a + 108 : ℕ) * (Real.pi / 72)) := by
  have hturn : ((a + 108 : ℕ) : ℝ) * (Real.pi / 72) =
      a * (Real.pi / 72) - Real.pi / 2 + 2 * Real.pi := by
    push_cast
    ring
  rw [hturn, Real.cos_add_two_pi, Real.cos_sub_pi_div_two]

/-- The output that row `r` of `imdct_s` belongs to -/
def imdctSOutput (r : ℕ) : ℕ := r / 2 + 6 * (r % 2)

/-- `c0`, ..., `c6` of `fastsdct` -/
def sdctC : List Fixed := [
  madF 0x1f838b8d, madF 0x1bb67ae8, madF 0x18836fa3, madF 0x1491b752, madF 0x0af1d43a,
  madF 0x058e86a0, -madF 0x1e11f642]

/-- How many times `PI / 18` their angles are -/
def sdctAngle : List ℕ := [1, 3, 4, 5, 7, 8, 16]

/-- The constants that are cosines, or twice a cosine, against the table -/
@[mk_iff]
structure CosinesRound : Prop where
  windowL : ∀ i < 36, Rounds (windowL.getD i 0) 1 (2 * i + 1 + 108)
  windowS : ∀ i < 12, Rounds (windowS.getD i 0) 1 (6 * i + 3 + 108)
  imdctS : ∀ r < 6, ∀ k < 6, Rounds ((imdctSTable.getD r []).getD k 0) 1
    (3 * (2 * imdctSOutput r + 7) * (2 * k + 1))
  sdctScale : ∀ i < 9, Rounds (sdctScale.getD i 0) 2 (2 * (2 * i + 1))
  dctScale : ∀ i < 18, Rounds (dctScale.getD i 0) 2 (2 * i + 1)
  sdctC : ∀ i < 7, Rounds (sdctC.getD i 0) 2 (4 * sdctAngle.getD i 0)

instance : Decidable CosinesRound := decidable_of_iff' _ cosinesRound_iff

theorem cosinesRound : CosinesRound := by decide +kernel

/-- `window_l[i] = sin((PI / 36) * (i + 1/2))` -/
theorem windowL_nearest {i : ℕ} (hi : i < 36) :
    NearestWord (windowL.getD i 0) (Real.sin ((2 * i + 1 : ℕ) * (Real.pi / 72))) := by
  rw [sin_eq_cos72]
  exact (cosinesRound.windowL i hi).cosine

/-- `window_s[i] = sin((PI / 12) * (i + 1/2))` -/
theorem windowS_nearest {i : ℕ} (hi : i < 12) :
    NearestWord (windowS.getD i 0) (Real.sin ((6 * i + 3 : ℕ) * (Real.pi / 72))) := by
  rw [sin_eq_cos72]
  exact (cosinesRound.windowS i hi).cosine

/-- `imdct_s[i][k] = cos((PI / 24) * (2 * i + 7) * (2 * k + 1))` -/
theorem imdctSTable_nearest {r k : ℕ} (hr : r < 6) (hk : k < 6) :
    NearestWord ((imdctSTable.getD r []).getD k 0)
      (Real.cos ((3 * (2 * imdctSOutput r + 7) * (2 * k + 1) : ℕ) * (Real.pi / 72))) :=
  (cosinesRound.imdctS r hr k hk).cosine

/-- `scale[i] = 2 * cos(PI * (2 * i + 1) / (2 * 18))` of `sdctII` -/
theorem sdctScale_nearest {i : ℕ} (hi : i < 9) :
    NearestWord (sdctScale.getD i 0) (2 * Real.cos ((2 * (2 * i + 1) : ℕ) * (Real.pi / 72))) :=
  (cosinesRound.sdctScale i hi).twice

/-- `scale[i] = 2 * cos(PI * (2 * i + 1) / (4 * 18))` of `dctIV` -/
theorem dctScale_nearest {i : ℕ} (hi : i < 18) :
    NearestWord (dctScale.getD i 0) (2 * Real.cos ((2 * i + 1 : ℕ) * (Real.pi / 72))) :=
  (cosinesRound.dctScale i hi).twice

/-- `c0 = 2 * cos( 1 * PI / 18)`, ..., `c6 = 2 * cos(16 * PI / 18)` -/
theorem sdctC_nearest {i : ℕ} (hi : i < 7) :
    NearestWord (sdctC.getD i 0) (2 * Real.cos ((4 * sdctAngle.getD i 0 : ℕ) * (Real.pi / 72))) :=
  (cosinesRound.sdctC i hi).twice

/-! ### Roots -/

/-- A word that is nearest to a root, by the powers of its bounds -/
theorem nearestWord_of_pow {word : Fixed} {value : ℝ} {n : ℕ} (hn : n ≠ 0) (hvalue : 0 ≤ value)
    (hword : 0 ≤ word.toInt) (hlow : (2 * (word.toInt : ℝ) - 1) ^ n ≤ 2 ^ (29 * n) * value ^ n)
    (hhigh : 2 ^ (29 * n) * value ^ n ≤ (2 * (word.toInt : ℝ) + 1) ^ n) :
    NearestWord word value := by
  have hword : (0 : ℝ) ≤ word.toInt := by exact_mod_cast hword
  have hpow : (2 ^ 29 * value) ^ n = 2 ^ (29 * n) * value ^ n := by rw [mul_pow, ← pow_mul]
  rw [← hpow] at hlow hhigh
  have hlower := le_of_pow_le_pow_left₀ hn (by positivity) hlow
  have hupper := le_of_pow_le_pow_left₀ hn (by linarith) hhigh
  rw [nearestWord_iff, abs_le]
  constructor <;> linarith

theorem NearestWord.neg {word : Fixed} {value : ℝ} (h : NearestWord word value)
    (hword : word.toInt.natAbs < 2 ^ 31) : NearestWord (-word) (-value) := by
  rw [nearestWord_iff, toInt_neg_of_reach le_rfl hword, Int.cast_neg, mul_neg, neg_sub_neg,
    abs_sub_comm]
  exact nearestWord_iff.mp h

/-- `c[]` of Table B.9, `-10000` times as large -/
def aliasC : List ℕ := [6000, 5350, 3300, 1850, 950, 410, 142, 37]

/-- `c[i]` -/
noncomputable def aliasCoefficient (i : ℕ) : ℝ := -(aliasC.getD i 0 : ℝ) / 10000

/-- The check of a word for `m / sqrt(1 + c[i]^2)`, where `10000` times `m` is `n` -/
@[mk_iff]
structure RootRounds (word : Fixed) (n i : ℕ) : Prop where
  nonneg : 0 ≤ word.toInt
  low : (2 * word.toInt - 1) ^ 2 * (10 ^ 8 + (aliasC.getD i 0 : ℤ) ^ 2) ≤ 2 ^ 58 * n ^ 2
  high : 2 ^ 58 * (n : ℤ) ^ 2 ≤ (2 * word.toInt + 1) ^ 2 * (10 ^ 8 + (aliasC.getD i 0 : ℤ) ^ 2)

instance (word : Fixed) (n i : ℕ) : Decidable (RootRounds word n i) :=
  decidable_of_iff' _ (rootRounds_iff word n i)

/-- The check of a word for `2^((up - down) / 4)` -/
@[mk_iff]
structure PowerRounds (word : Fixed) (up down : ℕ) : Prop where
  nonneg : 0 ≤ word.toInt
  low : (2 * word.toInt - 1) ^ 4 * 2 ^ down ≤ 2 ^ 116 * 2 ^ up
  high : 2 ^ 116 * 2 ^ up ≤ (2 * word.toInt + 1) ^ 4 * 2 ^ down

instance (word : Fixed) (up down : ℕ) : Decidable (PowerRounds word up down) :=
  decidable_of_iff' _ (powerRounds_iff word up down)

/-- The constants that are roots -/
@[mk_iff]
structure RootsRound : Prop where
  cs : ∀ i < 8, RootRounds (aliasCs.getD i 0) 10000 i
  ca : ∀ i < 8, RootRounds (-aliasCa.getD i 0) (aliasC.getD i 0) i
  ca_neg : ∀ i < 8, aliasCa.getD i 0 = -(-aliasCa.getD i 0) ∧
    (-aliasCa.getD i 0).toInt.natAbs < 2 ^ 31
  root : ∀ i < 7, PowerRounds (rootTable.getD i 0) i 3
  intensityLsf : ∀ scale < 2, ∀ i < 15,
    PowerRounds ((intensityLsfTable.getD scale []).getD i 0) 0 ((scale + 1) * (i + 1))

instance : Decidable RootsRound := decidable_of_iff' _ rootsRound_iff

theorem rootsRound : RootsRound := by decide +kernel

theorem RootRounds.nearest {word : Fixed} {n i : ℕ} (h : RootRounds word n i) :
    NearestWord word (n / 10000 / Real.sqrt (1 + aliasCoefficient i ^ 2)) := by
  have hpos : (0 : ℝ) < 10 ^ 8 + (aliasC.getD i 0 : ℝ) ^ 2 := by positivity
  have hsquare : (n / 10000 / Real.sqrt (1 + aliasCoefficient i ^ 2)) ^ 2 =
      n ^ 2 / (10 ^ 8 + (aliasC.getD i 0 : ℝ) ^ 2) := by
    have hsum : 1 + aliasCoefficient i ^ 2 =
        (10 ^ 8 + (aliasC.getD i 0 : ℝ) ^ 2) / 10 ^ 8 := by
      rw [aliasCoefficient]
      ring
    rw [div_pow, Real.sq_sqrt (by positivity), hsum]
    field_simp
    ring
  refine nearestWord_of_pow two_ne_zero (by positivity) h.nonneg ?_ ?_
  · rw [hsquare, ← mul_div_assoc, le_div_iff₀ hpos]
    exact_mod_cast h.low
  · rw [hsquare, ← mul_div_assoc, div_le_iff₀ hpos]
    exact_mod_cast h.high

/-- `cs[i] = 1 / sqrt(1 + c[i]^2)` -/
theorem aliasCs_nearest {i : ℕ} (hi : i < 8) :
    NearestWord (aliasCs.getD i 0) (1 / Real.sqrt (1 + aliasCoefficient i ^ 2)) := by
  have hnearest := (rootsRound.cs i hi).nearest
  rw [Nat.cast_ofNat, div_self (by norm_num)] at hnearest
  exact hnearest

/-- `ca[i] = c[i] / sqrt(1 + c[i]^2)` -/
theorem aliasCa_nearest {i : ℕ} (hi : i < 8) :
    NearestWord (aliasCa.getD i 0) (aliasCoefficient i / Real.sqrt (1 + aliasCoefficient i ^ 2)) := by
  obtain ⟨hneg, hfits⟩ := rootsRound.ca_neg i hi
  have hnearest := (rootsRound.ca i hi).nearest.neg hfits
  rw [← hneg, ← neg_div, ← neg_div, ← aliasCoefficient] at hnearest
  exact hnearest

/-- A power of two with a quarter in the exponent, by its fourth power -/
theorem PowerRounds.nearest {word : Fixed} {up down : ℕ} (h : PowerRounds word up down) :
    NearestWord word ((2 : ℝ) ^ (((up : ℝ) - down) / 4)) := by
  have hpos : (0 : ℝ) < 2 ^ down := by positivity
  have hpower : ((2 : ℝ) ^ (((up : ℝ) - down) / 4)) ^ 4 = 2 ^ up / 2 ^ down := by
    rw [← Real.rpow_natCast, ← Real.rpow_mul (by norm_num), Nat.cast_ofNat,
      div_mul_cancel₀ _ (by norm_num), Real.rpow_sub (by norm_num), Real.rpow_natCast,
      Real.rpow_natCast]
  refine nearestWord_of_pow four_ne_zero (by positivity) h.nonneg ?_ ?_
  · rw [hpower, ← mul_div_assoc, le_div_iff₀ hpos]
    exact_mod_cast h.low
  · rw [hpower, ← mul_div_assoc, div_le_iff₀ hpos]
    exact_mod_cast h.high

/-- `root_table[3 + x] = 2^(x/4)` -/
theorem rootTable_nearest {i : ℕ} (hi : i < 7) :
    NearestWord (rootTable.getD i 0) ((2 : ℝ) ^ (((i : ℝ) - (3 : ℕ)) / 4)) :=
  (rootsRound.root i hi).nearest

/-- `is_lsf_table[0][i] = (1 / sqrt(sqrt(2)))^(i + 1)`, `is_lsf_table[1][i] = (1 / sqrt(2))^(i + 1)` -/
theorem intensityLsfTable_nearest {scale i : ℕ} (hscale : scale < 2) (hi : i < 15) :
    NearestWord ((intensityLsfTable.getD scale []).getD i 0)
      ((2 : ℝ) ^ (((0 : ℕ) - (((scale + 1) * (i + 1) : ℕ) : ℝ)) / 4)) :=
  (rootsRound.intensityLsf scale hscale i hi).nearest

/-! ### Intensity ratios -/

/-- A word nearest to `s / (s + c)`, from the table's entries for `s` and `c` -/
theorem ratio_nearest {word : Fixed} {s c : ℝ} {entryS entryC : ℤ} (hpos : 0 < s + c)
    (hs : CosineTable.Near (2 ^ 56) entryS 4096 s) (hc : CosineTable.Near (2 ^ 56) entryC 4096 c)
    (hcheck : 2 * |word.toInt * (entryS + entryC) - 2 ^ 28 * entryS| +
      4096 * (4 * |word.toInt| + 2 ^ 29) ≤ entryS + entryC - 2 * 4096) :
    NearestWord word (s / (s + c)) := by
  have hcheck : 2 * |(word.toInt : ℝ) * (entryS + entryC) - 2 ^ 28 * entryS| +
      4096 * (4 * |(word.toInt : ℝ)| + 2 ^ 29) ≤ entryS + entryC - 2 * 4096 := by
    exact_mod_cast hcheck
  rw [CosineTable.Near, Nat.cast_pow, Nat.cast_ofNat, Int.cast_ofNat] at hs hc
  rw [nearestWord_iff]
  generalize (word.toInt : ℝ) = w at hcheck ⊢
  -- what the table leaves open
  have hopen : |w * ((entryS - 2 ^ 56 * s) + (entryC - 2 ^ 56 * c)) - 2 ^ 28 * (entryS - 2 ^ 56 * s)|
      ≤ 4096 * (2 * |w| + 2 ^ 28) := by
    calc |w * ((entryS - 2 ^ 56 * s) + (entryC - 2 ^ 56 * c)) - 2 ^ 28 * (entryS - 2 ^ 56 * s)|
        ≤ |w * ((entryS - 2 ^ 56 * s) + (entryC - 2 ^ 56 * c))| +
            |2 ^ 28 * (entryS - 2 ^ 56 * s)| := abs_sub _ _
      _ = |w| * |(entryS - 2 ^ 56 * s) + (entryC - 2 ^ 56 * c)| +
            2 ^ 28 * |entryS - 2 ^ 56 * s| := by
          rw [abs_mul, abs_mul, abs_of_pos (by norm_num : (0 : ℝ) < 2 ^ 28)]
      _ ≤ |w| * (4096 + 4096) + 2 ^ 28 * 4096 := by
          refine add_le_add (mul_le_mul_of_nonneg_left ?_ (abs_nonneg w)) (by linarith)
          exact (abs_add_le _ _).trans (by linarith)
      _ = 4096 * (2 * |w| + 2 ^ 28) := by ring
  have hscaled : 2 ^ 56 * |w * (s + c) - 2 ^ 28 * s| ≤
      |w * (entryS + entryC) - 2 ^ 28 * entryS| + 4096 * (2 * |w| + 2 ^ 28) := by
    calc 2 ^ 56 * |w * (s + c) - 2 ^ 28 * s|
        = |(w * (entryS + entryC) - 2 ^ 28 * entryS) -
            (w * ((entryS - 2 ^ 56 * s) + (entryC - 2 ^ 56 * c)) -
              2 ^ 28 * (entryS - 2 ^ 56 * s))| := by
          rw [two_pow_mul_abs]
          congr 1
          ring
      _ ≤ _ := (abs_sub _ _).trans (add_le_add le_rfl hopen)
  have hsmall : |w * (s + c) - 2 ^ 28 * s| ≤ (s + c) / 2 := by
    have hsums := (abs_le.mp hs).2
    have hsumc := (abs_le.mp hc).2
    generalize |w * (s + c) - 2 ^ 28 * s| = far at hscaled ⊢
    generalize |w * (entryS + entryC) - 2 ^ 28 * entryS| = near at hscaled hcheck
    norm_num at hscaled hcheck hsums hsumc
    linarith
  have hquotient : w - 2 ^ 28 * (s / (s + c)) = (w * (s + c) - 2 ^ 28 * s) / (s + c) := by
    field_simp
  rw [hquotient, abs_div, abs_of_pos hpos, div_le_iff₀ hpos]
  linarith

/-- `is_table[i] = is_ratio[i] / (1 + is_ratio[i])`, with `is_ratio[i] = tan(i * (PI / 12))` as a
quotient -/
theorem intensityTable_nearest {i : ℕ} (hi : i < 7) :
    NearestWord (intensityTable.getD i 0)
      (Real.sin ((6 * i : ℕ) * (Real.pi / 72)) /
        (Real.sin ((6 * i : ℕ) * (Real.pi / 72)) + Real.cos ((6 * i : ℕ) * (Real.pi / 72)))) := by
  have hcheck : ∀ i < 7, 0 < cosine72 (6 * i + 108) + cosine72 (6 * i) - 2 * 4096 ∧
      2 * |(intensityTable.getD i 0).toInt * (cosine72 (6 * i + 108) + cosine72 (6 * i)) -
        2 ^ 28 * cosine72 (6 * i + 108)| + 4096 * (4 * |(intensityTable.getD i 0).toInt| + 2 ^ 29) ≤
          cosine72 (6 * i + 108) + cosine72 (6 * i) - 2 * 4096 := by
    decide +kernel
  obtain ⟨hpos, hround⟩ := hcheck i hi
  have hs := cosine72_near (6 * i + 108)
  have hc := cosine72_near (6 * i)
  rw [sin_eq_cos72]
  refine ratio_nearest ?_ hs hc hround
  have hpos : (0 : ℝ) < cosine72 (6 * i + 108) + cosine72 (6 * i) - 2 * 4096 := by
    exact_mod_cast hpos
  rw [CosineTable.Near, abs_le] at hs hc
  have hscaled : 0 < ((2 ^ 56 : ℕ) : ℝ) * (Real.cos ((6 * i + 108 : ℕ) * (Real.pi / 72)) +
      Real.cos ((6 * i : ℕ) * (Real.pi / 72))) := by
    rw [mul_add]
    push_cast at hs hc ⊢
    linarith [hs.2, hc.2]
  exact (mul_pos_iff_of_pos_left (by positivity)).mp hscaled

/-- **Every constant is the 28-bit number nearest to what its comment says it is**, in the tables of
the transforms, of the windows, of alias reduction and of the stereo modes. -/
theorem constants_nearest :
    (∀ i < 32, 0 < i → NearestWord (madF (costab.getD (i - 1) 0)) (Real.cos (i * (Real.pi / 64)))) ∧
      (∀ i < 7, NearestWord (sdctC.getD i 0)
        (2 * Real.cos ((4 * sdctAngle.getD i 0 : ℕ) * (Real.pi / 72)))) ∧
      (∀ i < 9, NearestWord (sdctScale.getD i 0)
        (2 * Real.cos ((2 * (2 * i + 1) : ℕ) * (Real.pi / 72)))) ∧
      (∀ i < 18, NearestWord (dctScale.getD i 0) (2 * Real.cos ((2 * i + 1 : ℕ) * (Real.pi / 72)))) ∧
      (∀ r < 6, ∀ k < 6, NearestWord ((imdctSTable.getD r []).getD k 0)
        (Real.cos ((3 * (2 * imdctSOutput r + 7) * (2 * k + 1) : ℕ) * (Real.pi / 72)))) ∧
      (∀ i < 36, NearestWord (windowL.getD i 0) (Real.sin ((2 * i + 1 : ℕ) * (Real.pi / 72)))) ∧
      (∀ i < 12, NearestWord (windowS.getD i 0) (Real.sin ((6 * i + 3 : ℕ) * (Real.pi / 72)))) ∧
      (∀ i < 8, NearestWord (aliasCs.getD i 0) (1 / Real.sqrt (1 + aliasCoefficient i ^ 2)) ∧
        NearestWord (aliasCa.getD i 0)
          (aliasCoefficient i / Real.sqrt (1 + aliasCoefficient i ^ 2))) ∧
      (∀ i < 7, NearestWord (rootTable.getD i 0) ((2 : ℝ) ^ (((i : ℝ) - (3 : ℕ)) / 4))) ∧
      (∀ i < 7, NearestWord (intensityTable.getD i 0)
        (Real.sin ((6 * i : ℕ) * (Real.pi / 72)) /
          (Real.sin ((6 * i : ℕ) * (Real.pi / 72)) + Real.cos ((6 * i : ℕ) * (Real.pi / 72))))) ∧
      ∀ scale < 2, ∀ i < 15, NearestWord ((intensityLsfTable.getD scale []).getD i 0)
        ((2 : ℝ) ^ (((0 : ℕ) - (((scale + 1) * (i + 1) : ℕ) : ℝ)) / 4)) := by
  refine ⟨?_, fun i hi => sdctC_nearest hi, fun i hi => sdctScale_nearest hi,
    fun i hi => dctScale_nearest hi, fun r hr k hk => imdctSTable_nearest hr hk,
    fun i hi => windowL_nearest hi, fun i hi => windowS_nearest hi,
    fun i hi => ⟨aliasCs_nearest hi, aliasCa_nearest hi⟩, fun i hi => rootTable_nearest hi,
    fun i hi => intensityTable_nearest hi,
    fun scale hscale i hi => intensityLsfTable_nearest hscale hi⟩
  intro i hi hpos
  have hword : ∀ i < 32, (madF (costab.getD (i - 1) 0)).toInt = (costab.getD (i - 1) 0 : ℕ) := by
    decide +kernel
  rw [nearestWord_iff, hword i hi, Int.cast_natCast]
  exact costab_nearest hpos hi

end Mp3Decoder
