import Mp3Decoder.Lib.SentinelSearch
import Mathlib.Algebra.Order.Group.Unbundled.Int
import Mathlib.Tactic.SplitIfs

/-!
# The sample rate of the I2S output (`i2sSetRate`)

`i2sSetRate` tries all clock dividers in three nested loops.  It keeps the first one whose rate comes
closest to the one asked for, and writes it into three fields of `I2SCONF`.
-/

namespace Mp3Decoder

open SentinelSearch

/-! ### The source -/

/-- `BASEFREQ` -/
def baseFreq : ℕ := 160000000

structure Divider where
  bckdiv : ℕ
  clkmdiv : ℕ
  bits : ℕ
  deriving DecidableEq, Repr

/-- `tstfreq` -/
def Divider.frequency (d : Divider) : ℤ := (baseFreq / (d.bckdiv * d.clkmdiv * d.bits * 2) : ℕ)

/-- The macro `ABS` -/
def macroAbs (x : ℤ) : ℤ := if x > 0 then x else -x

/-- `bestfreq`, and `bestbckdiv`, `bestclkmdiv` and `bestbits` once they are assigned -/
structure RateSearch where
  bestfreq : ℤ
  best : Option Divider
  deriving DecidableEq

/-- The body of the loops -/
def RateSearch.tryDivider (rate : ℤ) (s : RateSearch) (d : Divider) : RateSearch :=
  if macroAbs (rate - d.frequency) < macroAbs (rate - s.bestfreq) then ⟨d.frequency, some d⟩ else s

/-- The number of rounds of the innermost loop -/
def bitsRounds (lockBitcount : ℤ) : ℕ := if lockBitcount ≠ 0 then 17 - 16 else 20 - 16

/-- `Find closest divider` -/
def findDivider (rate lockBitcount : ℤ) : RateSearch :=
  (List.range' 2 (64 - 2)).foldl (fun s bckdiv =>
    (List.range' 5 (64 - 5)).foldl (fun s clkmdiv =>
      (List.range' 16 (bitsRounds lockBitcount)).foldl (fun s bits =>
        s.tryDivider rate ⟨bckdiv, clkmdiv, bits⟩) s) s) ⟨0, none⟩

def i2sBckDivNum : BitVec 32 := 0x3F

def i2sBckDivNumS : ℕ := 22

def i2sClkmDivNum : BitVec 32 := 0x3F

def i2sClkmDivNumS : ℕ := 16

def i2sBitsMod : BitVec 32 := 0xF

def i2sBitsModS : ℕ := 12

def i2sReceMsbShift : BitVec 32 := 1 <<< 11

def i2sTransMsbShift : BitVec 32 := 1 <<< 10

def i2sMsbRight : BitVec 32 := 1 <<< 7

def i2sRightFirst : BitVec 32 := 1 <<< 6

def i2sReceSlaveMod : BitVec 32 := 1 <<< 5

def i2sTransSlaveMod : BitVec 32 := 1 <<< 4

/-- `CLEAR_PERI_REG_MASK` -/
def clearPeriRegMask (reg mask : BitVec 32) : BitVec 32 := reg &&& ~~~mask

/-- `SET_PERI_REG_MASK` -/
def setPeriRegMask (reg mask : BitVec 32) : BitVec 32 := reg ||| mask

/-- The mask that is cleared in `I2SCONF` -/
def clearedMask : BitVec 32 :=
  i2sTransSlaveMod ||| i2sBitsMod <<< i2sBitsModS ||| i2sBckDivNum <<< i2sBckDivNumS |||
    i2sClkmDivNum <<< i2sClkmDivNumS

/-- The mask that is set, for the divider found -/
def Divider.mask (best : Divider) : BitVec 32 :=
  i2sRightFirst ||| i2sMsbRight ||| i2sReceSlaveMod ||| i2sReceMsbShift ||| i2sTransMsbShift |||
    BitVec.ofNat 32 (best.bits - 16) <<< i2sBitsModS |||
    (BitVec.ofNat 32 best.bckdiv &&& i2sBckDivNum) <<< i2sBckDivNumS |||
    (BitVec.ofNat 32 best.clkmdiv &&& i2sClkmDivNum) <<< i2sClkmDivNumS

/-- `i2sSetRate`: the register `I2SCONF` afterwards, with `none` where the divider written to it was
never assigned. -/
def i2sSetRate (rate lockBitcount : ℤ) (i2sconf : BitVec 32) : Option (BitVec 32) :=
  (findDivider rate lockBitcount).best.map fun best =>
    setPeriRegMask (clearPeriRegMask i2sconf clearedMask) best.mask

/-! ### The candidates -/

/-- The dividers that the loops run over -/
structure Divider.Allowed (lockBitcount : ℤ) (d : Divider) : Prop where
  bckdiv : 2 ≤ d.bckdiv ∧ d.bckdiv ≤ 63
  clkmdiv : 5 ≤ d.clkmdiv ∧ d.clkmdiv ≤ 63
  bits : 16 ≤ d.bits ∧ d.bits ≤ if lockBitcount ≠ 0 then 16 else 19

/-- Loop order -/
def Divider.Before (d d' : Divider) : Prop :=
  d.bckdiv < d'.bckdiv ∨ d.bckdiv = d'.bckdiv ∧
    (d.clkmdiv < d'.clkmdiv ∨ d.clkmdiv = d'.clkmdiv ∧ d.bits < d'.bits)

theorem Divider.Before.asymm {d d' : Divider} (h : d.Before d') : ¬ d'.Before d := by
  rw [Before] at h ⊢
  omega

/-- The distance of a divider's rate from the one asked for -/
def Divider.distance (rate : ℤ) (d : Divider) : ℤ := |rate - d.frequency|

/-- The dividers in loop order -/
def dividers (lockBitcount : ℤ) : List Divider :=
  (List.range' 2 (64 - 2)).flatMap fun bckdiv => (List.range' 5 (64 - 5)).flatMap fun clkmdiv =>
    (List.range' 16 (bitsRounds lockBitcount)).map fun bits => ⟨bckdiv, clkmdiv, bits⟩

theorem mem_dividers {lockBitcount : ℤ} {d : Divider} :
    d ∈ dividers lockBitcount ↔ d.Allowed lockBitcount := by
  have hbits : d.bits < 16 + bitsRounds lockBitcount ↔
      d.bits ≤ if lockBitcount ≠ 0 then 16 else 19 := by
    rw [bitsRounds]
    split_ifs <;> omega
  simp only [dividers, List.mem_flatMap, List.mem_map, List.mem_range'_1]
  constructor
  · rintro ⟨bckdiv, hbck, clkmdiv, hclkm, bits, hb, rfl⟩
    exact ⟨by simp only; omega, by simp only; omega, hb.1, hbits.mp hb.2⟩
  · rintro ⟨hbck, hclkm, hb⟩
    exact ⟨d.bckdiv, by omega, d.clkmdiv, by omega, d.bits, ⟨hb.1, hbits.mpr hb.2⟩, rfl⟩

theorem dividers_sorted (lockBitcount : ℤ) : (dividers lockBitcount).Pairwise Divider.Before := by
  rw [dividers, List.pairwise_flatMap]
  constructor
  · intro bckdiv _
    rw [List.pairwise_flatMap]
    constructor
    · intro clkmdiv _
      rw [List.pairwise_map]
      exact (List.pairwise_lt_range' ..).imp fun h => .inr ⟨rfl, .inr ⟨rfl, h⟩⟩
    · refine (List.pairwise_lt_range' ..).imp fun h d hd d' hd' => ?_
      obtain ⟨bits, -, rfl⟩ := List.mem_map.mp hd
      obtain ⟨bits', -, rfl⟩ := List.mem_map.mp hd'
      exact .inr ⟨rfl, .inl h⟩
  · refine (List.pairwise_lt_range' ..).imp fun h d hd d' hd' => ?_
    simp only [List.mem_flatMap, List.mem_map] at hd hd'
    obtain ⟨clkmdiv, -, bits, -, rfl⟩ := hd
    obtain ⟨clkmdiv', -, bits', -, rfl⟩ := hd'
    exact .inl h

/-! ### The search -/

theorem macroAbs_eq (x : ℤ) : macroAbs x = |x| := by
  rw [macroAbs]
  split_ifs with h
  · exact (abs_of_pos h).symm
  · exact (abs_of_nonpos (not_lt.mp h)).symm

/-- The state of the search, from what it keeps -/
def RateSearch.ofBest (best : Option Divider) : RateSearch := ⟨best.elim 0 Divider.frequency, best⟩

/-- **The loops are a search from the sentinel frequency 0.** -/
theorem findDivider_eq (rate lockBitcount : ℤ) : findDivider rate lockBitcount =
    .ofBest ((dividers lockBitcount).foldl (better (Divider.distance rate) |rate|) none) := by
  have hstep : ∀ best d, (RateSearch.ofBest best).tryDivider rate d =
      .ofBest (better (Divider.distance rate) |rate| best d) := by
    intro best d
    rw [RateSearch.tryDivider, macroAbs_eq, macroAbs_eq]
    cases best with
    | none =>
      have hzero : |rate - (RateSearch.ofBest none).bestfreq| = |rate| := congrArg abs (sub_zero rate)
      rw [hzero, better]
      by_cases h : d.distance rate < |rate|
      · rw [if_pos h]
        exact if_pos h
      · rw [if_neg h]
        exact if_neg h
    | some b =>
      rw [better]
      by_cases h : d.distance rate < b.distance rate
      · rw [if_pos h]
        exact if_pos h
      · rw [if_neg h]
        exact if_neg h
  have hloops : findDivider rate lockBitcount =
      (dividers lockBitcount).foldl (RateSearch.tryDivider rate) (.ofBest none) := by
    simp only [dividers, List.foldl_flatMap, List.foldl_map]
    rfl
  rw [hloops, List.foldl_hom _ hstep]

/-- The slowest divider beats the sentinel. -/
theorem exists_beats_sentinel {rate : ℤ} (hrate : 4000 ≤ rate) (lockBitcount : ℤ) :
    ∃ d ∈ dividers lockBitcount, d.distance rate < |rate| := by
  refine ⟨⟨63, 63, 16⟩, mem_dividers.mpr ⟨by decide, by decide, by decide, ?_⟩, ?_⟩
  · simp only
    split_ifs <;> decide
  · have hfrequency : (⟨63, 63, 16⟩ : Divider).frequency = 1259 := by decide
    rw [Divider.distance, hfrequency, abs_of_pos (by omega), abs_of_pos (by omega)]
    omega

/-! ### The register -/

/-- A field of a register -/
def regField (reg mask : BitVec 32) (shift : ℕ) : BitVec 32 := (reg >>> shift) &&& mask

/-- A field that is cleared and set holds what it was set to, whatever was there before. -/
theorem regField_set {reg cleared set mask value : BitVec 32} {shift : ℕ}
    (hcleared : regField (~~~cleared) mask shift = 0#32) (hset : regField set mask shift = value) :
    regField (setPeriRegMask (clearPeriRegMask reg cleared) set) mask shift = value := by
  rw [regField] at hcleared hset ⊢
  rw [setPeriRegMask, clearPeriRegMask, BitVec.ushiftRight_or_distrib,
    BitVec.ushiftRight_and_distrib, BitVec.and_or_distrib_right, BitVec.and_assoc, hcleared,
    BitVec.and_zero, BitVec.zero_or, hset]

theorem regField_or (a b mask : BitVec 32) (shift : ℕ) :
    regField (a ||| b) mask shift = regField a mask shift ||| regField b mask shift := by
  rw [regField, BitVec.ushiftRight_or_distrib, BitVec.and_or_distrib_right]
  rfl

/-- What is set is outside the three fields, apart from what goes into them. -/
theorem mask_fields {best : Divider} (hbck : best.bckdiv < 64) (hclkm : best.clkmdiv < 64)
    (hbits : best.bits - 16 < 16) :
    regField best.mask i2sBitsMod i2sBitsModS = BitVec.ofNat 32 (best.bits - 16) ∧
      regField best.mask i2sBckDivNum i2sBckDivNumS = BitVec.ofNat 32 best.bckdiv ∧
      regField best.mask i2sClkmDivNum i2sClkmDivNumS = BitVec.ofNat 32 best.clkmdiv := by
  have hbitsMod : ∀ k < 16,
      regField (BitVec.ofNat 32 k <<< i2sBitsModS) i2sBitsMod i2sBitsModS = BitVec.ofNat 32 k ∧
      regField (BitVec.ofNat 32 k <<< i2sBitsModS) i2sBckDivNum i2sBckDivNumS = 0 ∧
      regField (BitVec.ofNat 32 k <<< i2sBitsModS) i2sClkmDivNum i2sClkmDivNumS = 0 := by decide
  have hbckDiv : ∀ k < 64,
      regField ((BitVec.ofNat 32 k &&& i2sBckDivNum) <<< i2sBckDivNumS) i2sBitsMod i2sBitsModS = 0 ∧
      regField ((BitVec.ofNat 32 k &&& i2sBckDivNum) <<< i2sBckDivNumS) i2sBckDivNum i2sBckDivNumS =
        BitVec.ofNat 32 k ∧
      regField ((BitVec.ofNat 32 k &&& i2sBckDivNum) <<< i2sBckDivNumS) i2sClkmDivNum
        i2sClkmDivNumS = 0 := by decide
  have hclkmDiv : ∀ k < 64,
      regField ((BitVec.ofNat 32 k &&& i2sClkmDivNum) <<< i2sClkmDivNumS) i2sBitsMod i2sBitsModS = 0 ∧
      regField ((BitVec.ofNat 32 k &&& i2sClkmDivNum) <<< i2sClkmDivNumS) i2sBckDivNum
        i2sBckDivNumS = 0 ∧
      regField ((BitVec.ofNat 32 k &&& i2sClkmDivNum) <<< i2sClkmDivNumS) i2sClkmDivNum
        i2sClkmDivNumS = BitVec.ofNat 32 k := by decide
  have hflags : ∀ field ∈ [(i2sBitsMod, i2sBitsModS), (i2sBckDivNum, i2sBckDivNumS),
      (i2sClkmDivNum, i2sClkmDivNumS)], regField (i2sRightFirst ||| i2sMsbRight |||
        i2sReceSlaveMod ||| i2sReceMsbShift ||| i2sTransMsbShift) field.1 field.2 = 0 := by decide
  obtain ⟨a0, a1, a2⟩ := hbitsMod _ hbits
  obtain ⟨b0, b1, b2⟩ := hbckDiv _ hbck
  obtain ⟨c0, c1, c2⟩ := hclkmDiv _ hclkm
  refine ⟨?_, ?_, ?_⟩
  · rw [Divider.mask, regField_or, regField_or, regField_or, hflags (i2sBitsMod, _) (by simp), a0,
      b0, c0]
    exact BitVec.or_zero.trans (BitVec.or_zero.trans BitVec.zero_or)
  · rw [Divider.mask, regField_or, regField_or, regField_or, hflags (_, i2sBckDivNumS) (by simp), a1,
      b1, c1]
    exact BitVec.or_zero.trans BitVec.zero_or
  · rw [Divider.mask, regField_or, regField_or, regField_or, hflags (_, i2sClkmDivNumS) (by simp),
      a2, b2, c2]
    exact BitVec.zero_or

/-- **`i2sSetRate` sets the first of the closest rates.**  A divider is always assigned, none comes
closer, those before it in loop order do not come as close, and the fields of `I2SCONF` hold it
whatever they held before. -/
theorem i2sSetRate_closest {rate : ℤ} (hrate : 4000 ≤ rate) (lockBitcount : ℤ) :
    ∃ best : Divider, (findDivider rate lockBitcount).best = some best ∧
      best.Allowed lockBitcount ∧
      (∀ d : Divider, d.Allowed lockBitcount → |rate - best.frequency| ≤ |rate - d.frequency|) ∧
      (∀ d : Divider, d.Allowed lockBitcount → d.Before best →
        |rate - best.frequency| < |rate - d.frequency|) ∧
      ∀ i2sconf, ∃ after, i2sSetRate rate lockBitcount i2sconf = some after ∧
        regField after i2sBitsMod i2sBitsModS = BitVec.ofNat 32 (best.bits - 16) ∧
        regField after i2sBckDivNum i2sBckDivNumS = BitVec.ofNat 32 best.bckdiv ∧
        regField after i2sClkmDivNum i2sClkmDivNumS = BitVec.ofNat 32 best.clkmdiv := by
  obtain ⟨best, hmin, hfold⟩ := foldl_better_eq_some (exists_beats_sentinel hrate lockBitcount)
  have hfound : (findDivider rate lockBitcount).best = some best := by
    rw [findDivider_eq, hfold]
    rfl
  have hallowed := mem_dividers.mp (List.argmin_mem hmin)
  refine ⟨best, hfound, hallowed, ?_, ?_, ?_⟩
  · intro d hd
    have hle : best.distance rate ≤ d.distance rate :=
      List.le_of_mem_argmin (mem_dividers.mpr hd) hmin
    exact hle
  · intro d hd hbefore
    by_contra hle
    rcases argmin_before (dividers_sorted lockBitcount) hmin (mem_dividers.mpr hd) (not_lt.mp hle) with
      heq | hafter
    · rw [heq] at hbefore
      exact hbefore.asymm hbefore
    · exact hbefore.asymm hafter
  · intro i2sconf
    have hbits : best.bits - 16 < 16 := by
      have hle := hallowed.bits.2
      split_ifs at hle <;> omega
    obtain ⟨hbitsMod, hbckDiv, hclkmDiv⟩ := mask_fields (Nat.lt_succ_of_le hallowed.bckdiv.2)
      (Nat.lt_succ_of_le hallowed.clkmdiv.2) hbits
    refine ⟨setPeriRegMask (clearPeriRegMask i2sconf clearedMask) best.mask, ?_,
      regField_set ?_ hbitsMod, regField_set ?_ hbckDiv, regField_set ?_ hclkmDiv⟩
    · rw [i2sSetRate, hfound]
      rfl
    · decide
    · decide
    · decide

/-- At 50 kHz, where 160 MHz is divided by 3200 -/
theorem i2sSetRate_50000 : ∃ best : Divider, (findDivider 50000 1).best = some best ∧
    best.frequency = 50000 ∧ best.Allowed 1 := by
  obtain ⟨best, hfound, hallowed, hclosest, -⟩ := i2sSetRate_closest (by decide : (4000 : ℤ) ≤ 50000) 1
  have hexact := hclosest ⟨2, 50, 16⟩ ⟨by decide, by decide, by decide⟩
  have hfrequency : (⟨2, 50, 16⟩ : Divider).frequency = 50000 := by decide
  rw [hfrequency, sub_self, abs_zero] at hexact
  have hzero := abs_eq_zero.mp (le_antisymm hexact (abs_nonneg _))
  exact ⟨best, hfound, by omega, hallowed⟩

end Mp3Decoder
