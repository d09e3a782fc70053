import Mathlib.Algebra.Order.Floor.Ring
import Mathlib.Algebra.Order.Ring.Rat
import Mathlib.Data.Rat.Floor
import Mathlib.Tactic.FieldSimp
import Mathlib.Tactic.Linarith
import Mathlib.Tactic.NormNum
import Mathlib.Tactic.Positivity
import Mp3Decoder.Mad.RqTable
import Mp3Decoder.Mad.Stereo

/-!
# Requantization (`III_requantize`)

A value is raised to the power 4/3 and scaled by `2^(exp/4)`.  The whole part of the exponent is a
shift, which rounds or saturates; the fraction is a multiplication behind it, which does neither.
`requantize_saturates_iff` says when the result is what saturation promises.
-/

namespace Mp3Decoder

/-- `MAD_F_MAX` -/
def madFMax : Fixed := madF 0x7fffffff

/-- `mantissa * 2^exp`, rounded or saturated. -/
def scaleMantissa (mantissa : Fixed) (exp : ℤ) : Fixed :=
  if exp < 0 then
    -- underflow
    if 32 ≤ -exp then 0
    else (mantissa + 1#32 <<< (-exp - 1).toNat).sshiftRight (-exp).toNat
  -- overflow
  else if 5 ≤ exp then madFMax
  else mantissa <<< exp.toNat

/-- `rq_table[value]` -/
def rqPower (value : ℕ) : FixedFloat := rqTable.getD value ⟨0, 0⟩

/-- `III_requantize`; the remainder has the sign of `exp`. -/
def iiiRequantize (value : ℕ) (exp : ℤ) : Fixed :=
  let frac := exp.tmod 4
  let power := rqPower value
  let requantized := scaleMantissa (madF power.mantissa) (exp.tdiv 4 + power.exponent)
  if frac ≠ 0 then madFMul requantized (rootTable.getD (3 + frac).toNat 0) else requantized

/-! ### The shift -/

/-- `scaleMantissa` on natural numbers. -/
def scaled (mantissa : ℕ) (exp : ℤ) : ℕ :=
  if exp < 0 then
    if 32 ≤ -exp then 0 else (mantissa + 2 ^ (-exp - 1).toNat) / 2 ^ (-exp).toNat
  else if 5 ≤ exp then 2 ^ 31 - 1
  else mantissa * 2 ^ exp.toNat

theorem scaled_lt {mantissa : ℕ} (hm : mantissa < 2 ^ 27) (exp : ℤ) :
    scaled mantissa exp < 2 ^ 31 := by
  rw [scaled]
  split_ifs with hneg hunder hover
  · exact Nat.two_pow_pos 31
  · have hpow : 2 ^ (-exp - 1).toNat ≤ 2 ^ 30 := Nat.pow_le_pow_right (by decide) (by omega)
    exact Nat.lt_of_le_of_lt (Nat.div_le_self _ _) (by omega)
  · decide
  · have hpow : 2 ^ exp.toNat ≤ 2 ^ 4 := Nat.pow_le_pow_right (by decide) (by omega)
    have hle := Nat.mul_le_mul_left mantissa hpow
    omega

theorem toInt_of_lt {x : Fixed} (h : x.toNat < 2 ^ 31) : x.toInt = x.toNat :=
  BitVec.toInt_eq_toNat_of_lt (by omega)

theorem msb_of_lt {x : Fixed} (h : x.toNat < 2 ^ 31) : x.msb = false := by
  rw [BitVec.msb_eq_false_iff_two_mul_lt]
  omega

theorem scaleMantissa_toNat {mantissa : ℕ} (hm : mantissa < 2 ^ 27) (exp : ℤ) :
    (scaleMantissa (madF mantissa) exp).toNat = scaled mantissa exp := by
  have hword : (madF mantissa).toNat = mantissa := by
    rw [madF, BitVec.toNat_ofNat]
    omega
  rw [scaleMantissa, scaled]
  split_ifs with hneg hunder hover
  · rfl
  · have hpow : 2 ^ (-exp - 1).toNat ≤ 2 ^ 30 := Nat.pow_le_pow_right (by decide) (by omega)
    have hround : (1#32 <<< (-exp - 1).toNat).toNat = 2 ^ (-exp - 1).toNat := by
      rw [BitVec.toNat_shiftLeft, BitVec.toNat_ofNat, Nat.shiftLeft_eq]
      omega
    have hsum : (madF mantissa + 1#32 <<< (-exp - 1).toNat).toNat =
        mantissa + 2 ^ (-exp - 1).toNat := by
      rw [BitVec.toNat_add, hword, hround]
      omega
    rw [BitVec.toNat_sshiftRight_of_msb_false (msb_of_lt (by omega)), hsum, Nat.shiftRight_eq_div_pow]
  · rfl
  · have hlt : mantissa * 2 ^ exp.toNat < 2 ^ 31 := by
      have hbound := scaled_lt hm exp
      rw [scaled, if_neg hneg, if_neg hover] at hbound
      exact hbound
    rw [BitVec.toNat_shiftLeft, hword, Nat.shiftLeft_eq]
    omega

/-- **Below the saturation** the shift rounds to the nearest. -/
theorem scaled_eq_floor {mantissa : ℕ} (hm : mantissa < 2 ^ 27) {exp : ℤ} (hexp : exp < 5) :
    (scaled mantissa exp : ℤ) = ⌊(mantissa : ℚ) * 2 ^ exp + 1 / 2⌋ := by
  have hmantissa : (mantissa : ℚ) < 2 ^ 27 := by exact_mod_cast hm
  rw [scaled]
  split_ifs with hneg hunder hover
  · symm
    rw [Nat.cast_zero, Int.floor_eq_iff]
    have hpow : (2 : ℚ) ^ exp ≤ 2 ^ (-32 : ℤ) := zpow_le_zpow_right₀ (by norm_num) (by omega)
    have hpos : (0 : ℚ) < 2 ^ exp := zpow_pos (by norm_num) exp
    have hle : (mantissa : ℚ) * 2 ^ exp ≤ 2 ^ 27 * 2 ^ (-32 : ℤ) :=
      mul_le_mul hmantissa.le hpow hpos.le (by norm_num)
    norm_num at hle
    constructor
    · rw [Int.cast_zero]
      positivity
    · rw [Int.cast_zero]
      linarith
  · obtain ⟨k, hk⟩ : ∃ k : ℕ, exp = -((k + 1 : ℕ) : ℤ) := ⟨(-exp - 1).toNat, by omega⟩
    have hround : (-exp - 1).toNat = k := by omega
    have hshift : (-exp).toNat = k + 1 := by omega
    have hsum : (mantissa : ℚ) * 2 ^ exp + 1 / 2 =
        ((mantissa + 2 ^ k : ℕ) : ℚ) / ((2 ^ (k + 1) : ℕ) : ℚ) := by
      rw [hk, zpow_neg, zpow_natCast]
      push_cast
      rw [pow_succ]
      field_simp
    rw [hsum, Rat.floor_natCast_div_natCast, hround, hshift]
    norm_cast
  · omega
  · obtain ⟨k, hk⟩ : ∃ k : ℕ, exp = k := ⟨exp.toNat, by omega⟩
    rw [hk, Int.toNat_natCast, zpow_natCast]
    symm
    rw [Int.floor_eq_iff]
    push_cast
    constructor
    · linarith
    · linarith

/-! ### Larger values -/

theorem rqPower_mem {value : ℕ} (hvalue : value ≤ 8206) : rqPower value ∈ rqTable := by
  have hlength := rqTable_length
  rw [rqPower, List.getD_eq_getElem?_getD, List.getElem?_eq_getElem (by omega)]
  exact List.getElem_mem _

theorem rqPower_mantissa_lt {value : ℕ} (hvalue : value ≤ 8206) :
    (rqPower value).mantissa < 2 ^ 27 := by
  have hmem := rqPower_mem hvalue
  rw [show rqTable = ⟨0, 0⟩ :: rqTable.tail from rfl, List.mem_cons] at hmem
  rcases hmem with hzero | htail
  · rw [hzero]
    simp
  · exact (rqTable_normalized _ htail).2

theorem rqPower_below {w value : ℕ} (hlt : w < value) (hvalue : value ≤ 8206) :
    (rqPower w).Below (rqPower value) := by
  have hlength := rqTable_length
  rw [rqPower, rqPower, List.getD_eq_getElem?_getD, List.getD_eq_getElem?_getD,
    List.getElem?_eq_getElem (by omega), List.getElem?_eq_getElem (by omega)]
  exact List.pairwise_iff_getElem.mp rqTable_ascending w value (by omega) (by omega) hlt

/-- The number that is shifted, for the whole part `exp` of the exponent. -/
def scaledValue (value : ℕ) (exp : ℤ) : ℕ :=
  scaled (rqPower value).mantissa (exp + (rqPower value).exponent)

/-- **A larger value gives a larger number.** -/
theorem scaledValue_mono {w value : ℕ} (hle : w ≤ value) (hvalue : value ≤ 8206) (exp : ℤ) :
    scaledValue w exp ≤ scaledValue value exp := by
  rcases Nat.lt_or_eq_of_le hle with hlt | heq
  · obtain ⟨hscaled, hexponent⟩ := rqPower_below hlt hvalue
    have hm := rqPower_mantissa_lt (Nat.le_trans hle hvalue)
    have hm' := rqPower_mantissa_lt hvalue
    rw [scaledValue, scaledValue]
    by_cases hover : exp + ((rqPower value).exponent : ℤ) < 5
    · have hfloor : ((scaled (rqPower w).mantissa (exp + (rqPower w).exponent) : ℕ) : ℤ) ≤
          (scaled (rqPower value).mantissa (exp + (rqPower value).exponent) : ℕ) := by
        rw [scaled_eq_floor hm (by omega), scaled_eq_floor hm' hover]
        apply Int.floor_mono
        rw [zpow_add₀ two_ne_zero, zpow_add₀ two_ne_zero, zpow_natCast, zpow_natCast]
        have hkey : ((rqPower w).mantissa : ℚ) * 2 ^ (rqPower w).exponent ≤
            (rqPower value).mantissa * 2 ^ (rqPower value).exponent := by
          exact_mod_cast hscaled.le
        have hmul := mul_le_mul_of_nonneg_right hkey (zpow_nonneg (zero_le_two (α := ℚ)) exp)
        linarith
      exact_mod_cast hfloor
    · have hlt' := scaled_lt hm (exp + (rqPower w).exponent)
      have hsaturated : scaled (rqPower value).mantissa (exp + (rqPower value).exponent) =
          2 ^ 31 - 1 := by
        rw [scaled, if_neg (by omega), if_pos (by omega)]
      omega
  · rw [heq]

/-! ### The multiplication -/

/-- The product for the fraction `frac` of the exponent. -/
def requantizeProduct (value : ℕ) (exp : ℤ) : ℕ :=
  scaledValue value (exp.tdiv 4) / 2 ^ 12 *
    ((rootTable.getD (3 + exp.tmod 4).toNat 0).toNat / 2 ^ 16)

theorem rootTable_lt (i : ℕ) : (rootTable.getD i 0).toNat < 2 ^ 29 := by
  have hall : rootTable.all (fun root => root.toNat < 2 ^ 29) = true := by decide +kernel
  rw [List.getD_eq_getElem?_getD]
  cases hroot : rootTable[i]? with
  | none => simp
  | some root => exact of_decide_eq_true (List.all_eq_true.mp hall root (List.mem_of_getElem? hroot))

theorem madFMul_toNat {x y : Fixed} (hx : x.toNat < 2 ^ 31) (hy : y.toNat < 2 ^ 31) :
    (madFMul x y).toNat = (x.toNat / 2 ^ 12) * (y.toNat / 2 ^ 16) % 2 ^ 32 := by
  rw [madFMul, BitVec.toNat_mul, BitVec.toNat_sshiftRight_of_msb_false (msb_of_lt hx),
    BitVec.toNat_sshiftRight_of_msb_false (msb_of_lt hy), Nat.shiftRight_eq_div_pow,
    Nat.shiftRight_eq_div_pow]

/-- The factors have 19 and 13 bits. -/
theorem requantizeProduct_lt {value : ℕ} (hvalue : value ≤ 8206) (exp : ℤ) :
    requantizeProduct value exp < 2 ^ 32 := by
  have hlt : scaledValue value (exp.tdiv 4) < 2 ^ 31 := scaled_lt (rqPower_mantissa_lt hvalue) _
  have hroot := rootTable_lt (3 + exp.tmod 4).toNat
  have hle : requantizeProduct value exp ≤ (2 ^ 19 - 1) * (2 ^ 13 - 1) :=
    Nat.mul_le_mul (by omega) (by omega)
  omega

/-- **What `III_requantize` computes**: the number that is shifted, or the product with a root, which
can be 2^31 or more and is negative then. -/
theorem iiiRequantize_toInt {value : ℕ} (hvalue : value ≤ 8206) (exp : ℤ) :
    (iiiRequantize value exp).toInt =
      if exp.tmod 4 = 0 then (scaledValue value (exp.tdiv 4) : ℤ)
      else if requantizeProduct value exp < 2 ^ 31 then (requantizeProduct value exp : ℤ)
      else (requantizeProduct value exp : ℤ) - 2 ^ 32 := by
  have hm := rqPower_mantissa_lt hvalue
  have hscaled : (scaleMantissa (madF (rqPower value).mantissa)
      (exp.tdiv 4 + (rqPower value).exponent)).toNat = scaledValue value (exp.tdiv 4) :=
    scaleMantissa_toNat hm _
  have hlt : scaledValue value (exp.tdiv 4) < 2 ^ 31 := scaled_lt hm _
  simp only [iiiRequantize]
  by_cases hfrac : exp.tmod 4 = 0
  · rw [if_pos hfrac, if_neg (not_not.mpr hfrac), toInt_of_lt (by omega), hscaled]
  · rw [if_neg hfrac, if_pos hfrac]
    have hroot := rootTable_lt (3 + exp.tmod 4).toNat
    have hproduct := requantizeProduct_lt hvalue exp
    have hroot' := Nat.lt_trans hroot (show 2 ^ 29 < 2 ^ 31 by omega)
    generalize scaleMantissa (madF (rqPower value).mantissa)
      (exp.tdiv 4 + (rqPower value).exponent) = x at hscaled ⊢
    have hmul := madFMul_toNat (show x.toNat < 2 ^ 31 by omega) hroot'
    rw [hscaled, ← requantizeProduct, Nat.mod_eq_of_lt (by omega)] at hmul
    rw [BitVec.toInt_eq_toNat_cond, hmul]
    split_ifs <;> omega

/-! ### When it saturates -/

/-- The line for a sign bit. -/
def signedLine (negative : Bool) (requantized : Fixed) : Fixed :=
  if negative then -requantized else requantized

/-- What saturation promises: a result in range, larger for a larger value, and lines with the sign
of the stream. -/
structure RequantizeSaturates (value : ℕ) (exp : ℤ) : Prop where
  nonneg : 0 ≤ (iiiRequantize value exp).toInt
  le_max : (iiiRequantize value exp).toInt ≤ madFMax.toInt
  mono : ∀ w ≤ value, (iiiRequantize w exp).toInt ≤ (iiiRequantize value exp).toInt
  positive : 0 ≤ (signedLine false (iiiRequantize value exp)).toInt
  negative : (signedLine true (iiiRequantize value exp)).toInt ≤ 0

/-- No multiplication by a root above 1, or `value^(4/3) * 2^(exp/4)` below 8 (and no saturation of
the value 0). -/
def RequantizeFits (value : ℕ) (exp : ℤ) : Prop :=
  exp ≤ 0 ∨ 4 ∣ exp ∨ exp < 20 ∧ value ^ 16 * 2 ^ (3 * exp.toNat) < 2 ^ 36

/-- Without an overflow of the product, all is well. -/
theorem saturates_of_product {value : ℕ} (hvalue : value ≤ 8206) {exp : ℤ}
    (hproduct : exp.tmod 4 ≠ 0 → requantizeProduct value exp < 2 ^ 31) :
    RequantizeSaturates value exp := by
  have hmax : madFMax.toInt = 2 ^ 31 - 1 := by decide
  have hexact : ∀ w ≤ value, (iiiRequantize w exp).toInt =
      if exp.tmod 4 = 0 then (scaledValue w (exp.tdiv 4) : ℤ) else requantizeProduct w exp := by
    intro w hw
    rw [iiiRequantize_toInt (Nat.le_trans hw hvalue)]
    by_cases hfrac : exp.tmod 4 = 0
    · rw [if_pos hfrac, if_pos hfrac]
    · have hle : requantizeProduct w exp ≤ requantizeProduct value exp :=
        Nat.mul_le_mul_right _ (Nat.div_le_div_right (scaledValue_mono hw hvalue _))
      have hlt := hproduct hfrac
      rw [if_neg hfrac, if_neg hfrac, if_pos (by omega)]
  have hself := hexact value (Nat.le_refl value)
  have hscaled := scaled_lt (rqPower_mantissa_lt hvalue) (exp.tdiv 4 + (rqPower value).exponent)
  have hnonneg : 0 ≤ (iiiRequantize value exp).toInt := by
    rw [hself]
    split_ifs
    · exact Int.natCast_nonneg _
    · exact Int.natCast_nonneg _
  have hle : (iiiRequantize value exp).toInt ≤ madFMax.toInt := by
    rw [hself, hmax]
    split_ifs with hfrac
    · rw [scaledValue]
      omega
    · have hlt := hproduct hfrac
      omega
  refine ⟨hnonneg, hle, ?_, hnonneg, ?_⟩
  · intro w hw
    rw [hself, hexact w hw]
    have hmono := scaledValue_mono hw hvalue (exp.tdiv 4)
    split_ifs
    · exact_mod_cast hmono
    · exact_mod_cast Nat.mul_le_mul_right _ (Nat.div_le_div_right hmono)
  · rw [signedLine, if_pos rfl, BitVec.toInt_neg, Int.bmod_eq_of_le (by omega) (by omega)]
    omega

/-- Small values and exponents, one by one. -/
theorem requantizeProduct_small : ∀ exp : ℕ, exp < 20 → ∀ value < 5, exp % 4 ≠ 0 →
    (requantizeProduct value (exp : ℤ) < 2147483648 ↔
      value ^ 16 * 2 ^ (3 * exp) < 68719476736) := by decide +kernel

/-- A saturated number times a root above 1 is 2^31 or more. -/
theorem requantizeProduct_saturated {value : ℕ} {exp : ℤ} (hpos : 0 < exp)
    (hfrac : exp.tmod 4 ≠ 0) (hover : 5 ≤ exp.tdiv 4 + (rqPower value).exponent) :
    2 ^ 31 ≤ requantizeProduct value exp := by
  have hscaled : scaledValue value (exp.tdiv 4) = 2 ^ 31 - 1 := by
    rw [scaledValue, scaled, if_neg (by omega), if_pos hover]
  rw [requantizeProduct, hscaled]
  have hemod : exp.tmod 4 = exp % 4 := Int.tmod_eq_emod_of_nonneg hpos.le
  have hmod : exp.tmod 4 = 1 ∨ exp.tmod 4 = 2 ∨ exp.tmod 4 = 3 := by omega
  rcases hmod with hmod | hmod | hmod
  all_goals
    rw [hmod]
    decide +kernel

/-- The roots below 1 are no danger. -/
theorem requantizeProduct_root {value : ℕ} (hvalue : value ≤ 8206) {exp : ℤ} (hneg : exp ≤ 0)
    (hfrac : exp.tmod 4 ≠ 0) : requantizeProduct value exp < 2 ^ 31 := by
  have hlt : scaledValue value (exp.tdiv 4) < 2 ^ 31 := scaled_lt (rqPower_mantissa_lt hvalue) _
  have hemod : exp.tmod 4 = -(-exp % 4) := by
    rw [← Int.tmod_eq_emod_of_nonneg (by omega : 0 ≤ -exp), Int.neg_tmod, neg_neg]
  have hmod : exp.tmod 4 = -1 ∨ exp.tmod 4 = -2 ∨ exp.tmod 4 = -3 := by omega
  have hroot : (rootTable.getD (3 + exp.tmod 4).toNat 0).toNat / 2 ^ 16 ≤ 3444 := by
    rcases hmod with hmod | hmod | hmod
    all_goals
      rw [hmod]
      decide +kernel
  have hle : requantizeProduct value exp ≤ (2 ^ 19 - 1) * 3444 :=
    Nat.mul_le_mul (by omega) hroot
  omega

/-- **When requantization saturates**: exactly where the multiplication, which comes last, does not
overflow. -/
theorem requantize_saturates_iff {value : ℕ} (hvalue : value ≤ 8206) (exp : ℤ) :
    RequantizeSaturates value exp ↔ RequantizeFits value exp := by
  constructor
  · intro h
    by_contra hfits
    simp only [RequantizeFits, not_or, not_and] at hfits
    obtain ⟨hpos, hdvd, hlarge⟩ := hfits
    have hemod : exp.tmod 4 = exp % 4 := Int.tmod_eq_emod_of_nonneg (by omega)
    have hediv : exp.tdiv 4 = exp / 4 := Int.tdiv_eq_ediv_of_nonneg (by omega)
    have hfrac : exp.tmod 4 ≠ 0 := by omega
    have hproduct : 2 ^ 31 ≤ requantizeProduct value exp := by
      by_cases hsmall : exp < 20 ∧ value < 5
      · obtain ⟨n, hn⟩ : ∃ n : ℕ, exp = n := ⟨exp.toNat, by omega⟩
        have hpower := hlarge hsmall.1
        rw [hn, Int.toNat_natCast] at hpower
        have hiff := requantizeProduct_small n (by omega) value hsmall.2 (by omega)
        rw [← hn] at hiff
        omega
      · apply requantizeProduct_saturated (by omega) hfrac
        have hexponent : 5 ≤ value → 5 ≤ (rqPower value).exponent := by
          intro hfive
          have h5 : (rqPower 5).exponent = 5 := by decide +kernel
          rcases Nat.lt_or_eq_of_le hfive with hlt | heq
          · have hbelow := (rqPower_below hlt hvalue).2
            omega
          · rw [← heq, h5]
        omega
    have hresult := iiiRequantize_toInt hvalue exp
    have hnonneg := h.nonneg
    have hlt := requantizeProduct_lt hvalue exp
    rw [if_neg hfrac, if_neg (by omega)] at hresult
    omega
  · intro h
    apply saturates_of_product hvalue
    intro hfrac
    by_cases hneg : exp ≤ 0
    · exact requantizeProduct_root hvalue hneg hfrac
    · rcases h with hneg' | hdvd | ⟨hsmall, hpower⟩
      · exact absurd hneg' hneg
      · exact absurd (Int.tmod_eq_zero_of_dvd hdvd) hfrac
      · obtain ⟨n, hn⟩ : ∃ n : ℕ, exp = n := ⟨exp.toNat, by omega⟩
        have hemod : exp.tmod 4 = exp % 4 := Int.tmod_eq_emod_of_nonneg (by omega)
        rw [hn, Int.toNat_natCast] at hpower
        have hvalue5 : value < 5 := by
          by_contra hlarge
          have hvalue16 : 5 ^ 16 ≤ value ^ 16 := Nat.pow_le_pow_left (by omega) 16
          have hscale : 2 ^ 3 ≤ 2 ^ (3 * n) := Nat.pow_le_pow_right (by omega) (by omega)
          have hmul := Nat.mul_le_mul hvalue16 hscale
          omega
        have hiff := requantizeProduct_small n (by omega) value hvalue5 (by omega)
        rw [← hn] at hiff
        omega

/-- At exponent -203 the largest value is fine; at exponent 1 the value 5 is not. -/
theorem requantize_saturates_quiet : RequantizeSaturates 8206 (-203) ∧
    ¬RequantizeSaturates 5 1 := by
  constructor
  · exact (requantize_saturates_iff (by decide) (-203)).mpr (.inl (by decide))
  · intro h
    have hfits := (requantize_saturates_iff (by decide) 1).mp h
    revert hfits
    rw [RequantizeFits]
    norm_num

/-- `global_gain` 211 gives the exponent 1, at which the value 5 is negative. -/
theorem requantize_not_saturates : ¬∀ (channel : Channel) (sfbwidth : List ℕ)
    (exponents : ℕ → ℤ) (sfbi value : ℕ), channel.globalGain < 256 → sfbi < 22 → value ≤ 8206 →
      RequantizeSaturates value (iiiExponents channel sfbwidth exponents sfbi) := by
  intro h
  have hnonneg := (h { globalGain := 211 } sfb44100Long (fun _ => 0) 0 5 (by decide) (by decide)
    (by decide)).nonneg
  revert hnonneg
  decide +kernel

end Mp3Decoder
