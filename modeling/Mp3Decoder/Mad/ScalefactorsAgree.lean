import Mp3Decoder.Mad.HuffBounds
import Mp3Decoder.Mad.Stereo
import Mp3Decoder.Mad.SideInfoAgree

/-!
# Scalefactors from different garbage

Which scalefactors of a channel are set depends on the side information alone: `scalefacCount`.
They are all that `III_exponents` reads, which sets the exponents of all bands.
-/

namespace Mp3Decoder

/-- The scalefactors that are set. -/
def scalefacCount (lsf : Bool) (channel : Channel) : ℕ :=
  if lsf then 39 else if channel.blockType = 2 then nsfbShort channel + 6 * 3 + 1 * 3 else 22

/-! ### Reading them -/

variable (mem : Mem) {ptr ptr' : MainPtr}

theorem read_agree (hptr : ptr.bits = ptr'.bits) (len : ℕ) :
    (ptr.read mem len).1 = (ptr'.read mem len).1 ∧
      (ptr.read mem len).2.bits = (ptr'.read mem len).2.bits := by
  simp only [MainPtr.read, hptr, and_self]

/-- The arrays agree up to `n`. -/
def AgreeBelow {α : Type} (n : ℕ) (f f' : ℕ → α) : Prop := ∀ i < n, f i = f' i

theorem AgreeBelow.mono {α : Type} {n m : ℕ} {f f' : ℕ → α} (h : AgreeBelow n f f') (hle : m ≤ n) :
    AgreeBelow m f f' := fun i hi => h i (by omega)

theorem AgreeBelow.update {α : Type} {n : ℕ} {f f' : ℕ → α} (h : AgreeBelow n f f') (value : α) :
    AgreeBelow (n + 1) (Function.update f n value) (Function.update f' n value) := by
  intro i hi
  by_cases hlast : i = n
  · rw [hlast, Function.update_self, Function.update_self]
  · rw [Function.update_of_ne hlast, Function.update_of_ne hlast, h i (by omega)]

theorem AgreeBelow.set {n last : ℕ} {f f' values values' : ℕ → ℕ} (h : AgreeBelow n f f')
    (hvalues : ∀ i, n ≤ i → i < last → values i = values' i) :
    AgreeBelow last (setScalefacs f values n last) (setScalefacs f' values' n last) := by
  intro i hi
  rw [setScalefacs, setScalefacs]
  by_cases hin : n ≤ i ∧ i < last
  · rw [if_pos hin, if_pos hin, hvalues i hin.1 hin.2]
  · rw [if_neg hin, if_neg hin, h i (by omega)]

theorem readScalefacs_agree (slen n : ℕ) {sfbi : ℕ} {scalefac scalefac' : ℕ → ℕ}
    (hptr : ptr.bits = ptr'.bits) (h : AgreeBelow sfbi scalefac scalefac') :
    AgreeBelow (sfbi + n) (readScalefacs mem slen n sfbi scalefac ptr).1
        (readScalefacs mem slen n sfbi scalefac' ptr').1 ∧
      (readScalefacs mem slen n sfbi scalefac ptr).2.bits =
        (readScalefacs mem slen n sfbi scalefac' ptr').2.bits := by
  induction n generalizing sfbi scalefac scalefac' ptr ptr' with
  | zero => exact ⟨h, hptr⟩
  | succ n ih =>
    obtain ⟨hvalue, hbits⟩ := read_agree mem hptr slen
    rw [readScalefacs, readScalefacs, hvalue, show sfbi + (n + 1) = sfbi + 1 + n by omega]
    exact ih hbits (h.update _)

theorem readScfsiBand_agree {gr0ch gr0ch' : ℕ → ℕ} {scfsi : ℕ} (bit slen : ℕ) {first last : ℕ}
    {scalefac scalefac' : ℕ → ℕ} (hle : first ≤ last) (hptr : ptr.bits = ptr'.bits)
    (h : AgreeBelow first scalefac scalefac') (hgr0 : scfsi ≠ 0 → AgreeBelow last gr0ch gr0ch') :
    AgreeBelow last (readScfsiBand mem gr0ch scfsi bit slen first last scalefac ptr).1
        (readScfsiBand mem gr0ch' scfsi bit slen first last scalefac' ptr').1 ∧
      (readScfsiBand mem gr0ch scfsi bit slen first last scalefac ptr).2.bits =
        (readScfsiBand mem gr0ch' scfsi bit slen first last scalefac' ptr').2.bits := by
  rw [readScfsiBand, readScfsiBand]
  by_cases hcopy : scfsi &&& bit ≠ 0
  · rw [if_pos hcopy, if_pos hcopy]
    have hscfsi : scfsi ≠ 0 := by
      intro hzero
      rw [hzero, Nat.zero_and] at hcopy
      exact hcopy rfl
    exact ⟨h.set fun i _ hi => hgr0 hscfsi i hi, hptr⟩
  · rw [if_neg hcopy, if_neg hcopy]
    have hread := readScalefacs_agree mem slen (last - first) hptr h
    rw [Nat.add_sub_cancel' hle] at hread
    exact hread

/-- **`III_scalefactors`** -/
theorem iiiScalefactors_agree {channel channel' gr0ch gr0ch' : Channel} {scfsi : ℕ}
    (hinfo : channel.SameInfo channel') (hptr : ptr.bits = ptr'.bits)
    (hgr0 : scfsi ≠ 0 → AgreeBelow 21 gr0ch.scalefac gr0ch'.scalefac) :
    let r := iiiScalefactors mem ptr channel gr0ch scfsi
    let r' := iiiScalefactors mem ptr' channel' gr0ch' scfsi
    AgreeBelow (scalefacCount false channel) r.1.scalefac r'.1.scalefac ∧
      r.2.bits = r'.2.bits := by
  have hslen1 : slen1 channel = slen1 channel' := by rw [slen1, slen1, hinfo.scalefacCompress]
  have hslen2 : slen2 channel = slen2 channel' := by rw [slen2, slen2, hinfo.scalefacCompress]
  have hnsfb : nsfbShort channel = nsfbShort channel' := by
    rw [nsfbShort, nsfbShort, hinfo.isMixed]
  have hnone : AgreeBelow 0 channel.scalefac channel'.scalefac := fun i hi => absurd hi (by omega)
  simp only [iiiScalefactors, scalefacCount, ← hinfo.blockType, ← hslen1, ← hslen2, ← hnsfb]
  by_cases hshort : channel.blockType = 2
  · simp only [if_pos hshort]
    obtain ⟨hfirst, hbits⟩ := readScalefacs_agree mem (slen1 channel) (nsfbShort channel) hptr hnone
    rw [Nat.zero_add] at hfirst
    obtain ⟨hsecond, hbits'⟩ := readScalefacs_agree mem (slen2 channel) (6 * 3) hbits hfirst
    exact ⟨hsecond.set fun _ _ _ => rfl, hbits'⟩
  · simp only [if_neg hshort]
    have hcopied : ∀ last ≤ 21, scfsi ≠ 0 → AgreeBelow last gr0ch.scalefac gr0ch'.scalefac :=
      fun last hle hscfsi => (hgr0 hscfsi).mono hle
    obtain ⟨h6, hbits6⟩ := readScfsiBand_agree mem 0x8 (slen1 channel) (Nat.zero_le 6) hptr hnone
      (hcopied 6 (by omega))
    obtain ⟨h11, hbits11⟩ := readScfsiBand_agree mem 0x4 (slen1 channel) (show 6 ≤ 11 by omega)
      hbits6 h6 (hcopied 11 (by omega))
    obtain ⟨h16, hbits16⟩ := readScfsiBand_agree mem 0x2 (slen2 channel) (show 11 ≤ 16 by omega)
      hbits11 h11 (hcopied 16 (by omega))
    obtain ⟨h21, hbits21⟩ := readScfsiBand_agree mem 0x1 (slen2 channel) (show 16 ≤ 21 by omega)
      hbits16 h16 (hcopied 21 (by omega))
    exact ⟨h21.update 0, hbits21⟩

/-! ### LSF -/

/-- Two runs over the parts. -/
structure LsfState.Agree (s s' : LsfState) : Prop where
  n : s.n = s'.n
  scalefac : AgreeBelow s.n s.scalefac s'.scalefac
  bits : s.ptr.bits = s'.ptr.bits

theorem LsfState.Agree.readLsfPart {s s' : LsfState} (h : s.Agree s') (part : ℕ × ℕ) :
    (readLsfPart mem s part).Agree (readLsfPart mem s' part) := by
  obtain ⟨hscalefac, hbits⟩ := readScalefacs_agree mem part.1 part.2 h.bits h.scalefac
  simp only [Mp3Decoder.readLsfPart, ← h.n]
  exact ⟨rfl, hscalefac, hbits⟩

theorem LsfState.Agree.readIntensityPart {s s' : LsfState} (h : s.Agree s')
    (hgr1 : AgreeBelow s.n s.gr1Scalefac s'.gr1Scalefac) (part : ℕ × ℕ) :
    (readIntensityPart mem s part).Agree (readIntensityPart mem s' part) ∧
      AgreeBelow (readIntensityPart mem s part).n (readIntensityPart mem s part).gr1Scalefac
        (readIntensityPart mem s' part).gr1Scalefac := by
  have hpart := h.readLsfPart mem part
  simp only [Mp3Decoder.readIntensityPart, ← h.n]
  refine ⟨⟨hpart.n, hpart.scalefac, hpart.bits⟩, ?_⟩
  apply hgr1.set
  intro i _ hi
  rw [hpart.scalefac i hi]

/-- The right channel of intensity stereo: `gr1ch` as well. -/
theorem foldIntensity_agree (parts : List (ℕ × ℕ)) {s s' : LsfState} (h : s.Agree s')
    (hgr1 : AgreeBelow s.n s.gr1Scalefac s'.gr1Scalefac) :
    (parts.foldl (readIntensityPart mem) s).Agree (parts.foldl (readIntensityPart mem) s') ∧
      AgreeBelow (parts.foldl (readIntensityPart mem) s).n
        (parts.foldl (readIntensityPart mem) s).gr1Scalefac
        (parts.foldl (readIntensityPart mem) s').gr1Scalefac := by
  induction parts generalizing s s' with
  | nil => exact ⟨h, hgr1⟩
  | cons part parts ih =>
    obtain ⟨hpart, hpart'⟩ := h.readIntensityPart mem hgr1 part
    exact ih hpart hpart'

theorem foldLsf_agree (parts : List (ℕ × ℕ)) {s s' : LsfState} (h : s.Agree s') :
    (parts.foldl (readLsfPart mem) s).Agree (parts.foldl (readLsfPart mem) s') := by
  induction parts generalizing s s' with
  | nil => exact h
  | cons part parts ih => exact ih (h.readLsfPart mem part)

/-- `while (n < 39) scalefac[n++] = 0;` -/
theorem AgreeBelow.zeros {n : ℕ} {f f' : ℕ → ℕ} (h : AgreeBelow n f f') :
    AgreeBelow 39 (setScalefacs f (fun _ => 0) n 39) (setScalefacs f' (fun _ => 0) n 39) :=
  h.set fun _ _ _ => rfl

/-- **`III_scalefactors_lsf`** -/
theorem iiiScalefactorsLsf_agree {channel channel' : Channel} {gr1ch gr1ch' : Option Channel}
    (modeExtension : ℕ) (hinfo : channel.SameInfo channel') (hptr : ptr.bits = ptr'.bits)
    (hgr1 : gr1ch.isSome = gr1ch'.isSome) :
    let r := iiiScalefactorsLsf mem ptr channel gr1ch modeExtension
    let r' := iiiScalefactorsLsf mem ptr' channel' gr1ch' modeExtension
    AgreeBelow 39 r.1.scalefac r'.1.scalefac ∧ r.1.flags = r'.1.flags ∧ r.2.2.bits = r'.2.2.bits ∧
      (isIntensity modeExtension gr1ch → ∀ g g', r.2.1 = some g → r'.2.1 = some g' →
        AgreeBelow 39 g.scalefac g'.scalefac) := by
  have hintensity : isIntensity modeExtension gr1ch' = isIntensity modeExtension gr1ch := by
    rw [isIntensity, isIntensity, hgr1]
  have hparts : ∀ intensity, lsfParts channel' intensity = lsfParts channel intensity := by
    intro intensity
    rw [lsfParts, lsfParts, lsfIndex, lsfIndex, hinfo.scalefacCompress, hinfo.blockType,
      hinfo.isMixed]
  have hstart : LsfState.Agree ⟨0, channel.scalefac, (gr1ch.getD {}).scalefac, ptr⟩
      ⟨0, channel'.scalefac, (gr1ch'.getD {}).scalefac, ptr'⟩ :=
    ⟨rfl, fun i hi => absurd hi (Nat.not_lt_zero i), hptr⟩
  have hnone : AgreeBelow 0 (gr1ch.getD {}).scalefac (gr1ch'.getD {}).scalefac :=
    fun i hi => absurd hi (Nat.not_lt_zero i)
  simp only [iiiScalefactorsLsf, hintensity, hparts, ← hinfo.scalefacCompress, ← hinfo.flags]
  by_cases hi : isIntensity modeExtension gr1ch = true
  · simp only [if_pos hi]
    obtain ⟨hagree, hagree'⟩ := foldIntensity_agree mem
      (lsfParts channel (isIntensity modeExtension gr1ch)) hstart hnone
    rw [← hagree.n]
    refine ⟨hagree.scalefac.zeros, trivial, hagree.bits, ?_⟩
    intro _ g g' hg hg'
    obtain ⟨c, -, rfl⟩ := Option.map_eq_some_iff.mp hg
    obtain ⟨c', -, rfl⟩ := Option.map_eq_some_iff.mp hg'
    exact hagree'.zeros
  · simp only [if_neg hi]
    have hagree := foldLsf_agree mem (lsfParts channel (isIntensity modeExtension gr1ch)) hstart
    rw [← hagree.n]
    exact ⟨hagree.scalefac.zeros, trivial, hagree.bits, fun hyes => absurd hyes hi⟩

/-! ### Exponents -/

/-- The band at which `while (l < 576)` ends. -/
def shortBands : List ℕ → ℕ → ℕ → ℕ
  | width :: _ :: _ :: sfbwidth, l, sfbi =>
    if l < 576 then shortBands sfbwidth (l + 3 * width) (sfbi + 3) else sfbi
  | _, _, sfbi => sfbi

theorem le_shortBands (sfbwidth : List ℕ) (l sfbi : ℕ) : sfbi ≤ shortBands sfbwidth l sfbi := by
  induction sfbwidth, l, sfbi using shortBands.induct with
  | case1 width _ _ sfbwidth l sfbi hl ih =>
    rw [shortBands, if_pos hl]
    omega
  | case2 width _ _ sfbwidth l sfbi hl =>
    rw [shortBands, if_neg hl]
  | case3 sfbwidth l sfbi hless =>
    rw [shortBands]
    exact hless

/-- What the exponents are worked out from. -/
structure Channel.SameExponents (count : ℕ) (channel channel' : Channel) : Prop where
  info : channel.SameInfo channel'
  scalefac : AgreeBelow count channel.scalefac channel'.scalefac

variable {channel channel' : Channel} {count : ℕ}

theorem Channel.SameExponents.multiplier (h : channel.SameExponents count channel') :
    channel.scalefacMultiplier = channel'.scalefacMultiplier := by
  rw [Channel.scalefacMultiplier, Channel.scalefacMultiplier, h.info.flags]

theorem Channel.SameExponents.long (h : channel.SameExponents count channel') (gain : ℤ)
    {sfbi : ℕ} (hsfbi : sfbi < count) :
    longExponent channel gain sfbi = longExponent channel' gain sfbi := by
  rw [longExponent, longExponent, Channel.hasPreflag, Channel.hasPreflag, h.scalefac sfbi hsfbi,
    h.multiplier, h.info.flags]

/-- The short bands, from band `sfbi` on. -/
theorem shortExponents_agree (h : channel.SameExponents count channel')
    (hshort : channel.blockType = 2) (gain : ℤ) (sfbwidth : List ℕ) (l sfbi : ℕ)
    {exponents exponents' : ℕ → ℤ} (hexp : AgreeBelow sfbi exponents exponents')
    (hcount : shortBands sfbwidth l sfbi ≤ count) :
    AgreeBelow (shortBands sfbwidth l sfbi) (shortExponents channel gain sfbwidth l sfbi exponents)
      (shortExponents channel' gain sfbwidth l sfbi exponents') := by
  have hswitched : channel.isSwitched := by
    rw [Channel.isSwitched, hshort]
    decide
  induction sfbwidth, l, sfbi using shortBands.induct generalizing exponents exponents' with
  | case1 width _ _ sfbwidth l sfbi hl ih =>
    rw [shortBands, if_pos hl] at hcount ⊢
    have hle := le_shortBands sfbwidth (l + 3 * width) (sfbi + 3)
    have hexponent : ∀ w < 3, gain - 8 * (channel.subblockGain w : ℤ) -
          (channel.scalefac (sfbi + w) <<< channel.scalefacMultiplier : ℕ) =
        gain - 8 * (channel'.subblockGain w : ℤ) -
          (channel'.scalefac (sfbi + w) <<< channel'.scalefacMultiplier : ℕ) := by
      intro w hw
      rw [h.info.subblockGain hswitched w hw, h.scalefac (sfbi + w) (by omega), h.multiplier]
    simp only [shortExponents, if_pos hl, hexponent 0 (by omega), hexponent 1 (by omega),
      hexponent 2 (by omega)]
    exact ih (((hexp.update _).update _).update _) hcount
  | case2 width _ _ sfbwidth l sfbi hl =>
    simp only [shortBands, shortExponents, if_neg hl]
    exact hexp
  | case3 sfbwidth l sfbi hless =>
    rw [shortBands, shortExponents, shortExponents]
    · exact hexp
    all_goals exact hless

/-- `while (l < 36)`, without anything done. -/
def skipLong (sfbwidth : List ℕ) (l sfbi : ℕ) : BandLoop Unit :=
  forBands 36 (fun _ _ _ s => s) sfbwidth sfbi l ()

theorem le_skipLong (sfbwidth : List ℕ) (l sfbi : ℕ) : sfbi ≤ (skipLong sfbwidth l sfbi).sfbi := by
  induction sfbwidth generalizing l sfbi with
  | nil => exact Nat.le_refl sfbi
  | cons width sfbwidth ih =>
    rw [skipLong, forBands]
    split_ifs
    · exact Nat.le_trans (Nat.le_succ sfbi) (ih (l + width) (sfbi + 1))
    · exact Nat.le_refl sfbi

theorem mixedExponents_control (channel : Channel) (gain : ℤ) (sfbwidth : List ℕ) (l sfbi : ℕ)
    (exponents : ℕ → ℤ) :
    (mixedExponents channel gain sfbwidth l sfbi exponents).1 = (skipLong sfbwidth l sfbi).rest ∧
      (mixedExponents channel gain sfbwidth l sfbi exponents).2.1 = (skipLong sfbwidth l sfbi).l ∧
      (mixedExponents channel gain sfbwidth l sfbi exponents).2.2.1 =
        (skipLong sfbwidth l sfbi).sfbi := by
  induction sfbwidth generalizing l sfbi exponents with
  | nil => exact ⟨rfl, rfl, rfl⟩
  | cons width sfbwidth ih =>
    rw [mixedExponents, skipLong, forBands]
    split_ifs
    · exact ih (l + width) (sfbi + 1) _
    · exact ⟨rfl, rfl, rfl⟩

/-- The long bands of a mixed block, from band `sfbi` on. -/
theorem mixedExponents_agree (h : channel.SameExponents count channel') (gain : ℤ)
    (sfbwidth : List ℕ) (l sfbi : ℕ) {exponents exponents' : ℕ → ℤ}
    (hexp : AgreeBelow sfbi exponents exponents') (hcount : (skipLong sfbwidth l sfbi).sfbi ≤ count) :
    AgreeBelow (skipLong sfbwidth l sfbi).sfbi
      (mixedExponents channel gain sfbwidth l sfbi exponents).2.2.2
      (mixedExponents channel' gain sfbwidth l sfbi exponents').2.2.2 := by
  induction sfbwidth generalizing l sfbi exponents exponents' with
  | nil => exact hexp
  | cons width sfbwidth ih =>
    rw [skipLong, forBands] at hcount ⊢
    rw [mixedExponents, mixedExponents]
    split_ifs at hcount ⊢
    · have hle := le_skipLong sfbwidth (l + width) (sfbi + 1)
      rw [skipLong] at hle
      rw [h.long gain (show sfbi < count by omega)]
      exact ih (l + width) (sfbi + 1) (hexp.update _) hcount
    · exact hexp

/-- The number of exponents that are set. -/
def exponentBands (channel : Channel) (sfbwidth : List ℕ) : ℕ :=
  if channel.blockType = 2 then
    let long : BandLoop Unit := if channel.isMixed then skipLong sfbwidth 0 0 else ⟨sfbwidth, 0, 0, ()⟩
    shortBands long.rest long.l long.sfbi
  else 22

/-- **`III_exponents`** -/
theorem iiiExponents_agree (h : channel.SameExponents count channel') (sfbwidth : List ℕ)
    (hcount : exponentBands channel sfbwidth ≤ count) (exponents exponents' : ℕ → ℤ) :
    AgreeBelow (exponentBands channel sfbwidth) (iiiExponents channel sfbwidth exponents)
      (iiiExponents channel' sfbwidth exponents') := by
  rw [exponentBands] at hcount ⊢
  simp only [iiiExponents, ← h.info.blockType, ← h.info.isMixed, ← h.info.globalGain]
  have hnone : AgreeBelow 0 exponents exponents' := fun i hi => absurd hi (Nat.not_lt_zero i)
  by_cases hshort : channel.blockType = 2
  · simp only [if_pos hshort] at hcount ⊢
    by_cases hmixed : channel.isMixed = true
    · simp only [if_pos hmixed] at hcount ⊢
      obtain ⟨hrest, hl, hsfbi⟩ := mixedExponents_control channel
        ((channel.globalGain : ℤ) - 210) sfbwidth 0 0 exponents
      obtain ⟨hrest', hl', hsfbi'⟩ := mixedExponents_control channel'
        ((channel.globalGain : ℤ) - 210) sfbwidth 0 0 exponents'
      rw [hrest, hl, hsfbi, hrest', hl', hsfbi']
      have hle := le_shortBands (skipLong sfbwidth 0 0).rest (skipLong sfbwidth 0 0).l
        (skipLong sfbwidth 0 0).sfbi
      exact shortExponents_agree h hshort _ _ _ _
        (mixedExponents_agree h _ sfbwidth 0 0 hnone (by omega)) hcount
    · simp only [if_neg hmixed] at hcount ⊢
      exact shortExponents_agree h hshort _ _ _ _ hnone hcount
  · simp only [if_neg hshort] at hcount ⊢
    intro sfbi hsfbi
    simp only [if_pos hsfbi]
    exact h.long _ (by omega)

/-! ### The tables -/

/-- Of a band table for `channel`, all exponents are set, and from scalefactors that are set. -/
structure BandsSet (lsf : Bool) (channel : Channel) (sfbwidth : List ℕ) : Prop where
  bands : exponentBands channel sfbwidth = sfbwidth.length
  count : sfbwidth.length ≤ scalefacCount lsf channel

theorem sfbwidthTable_set : ∀ row ∈ sfbwidthTable,
    row.l.length = 22 ∧ shortBands row.s 0 0 = row.s.length ∧ row.s.length ≤ 39 ∧
      shortBands (skipLong row.m 0 0).rest (skipLong row.m 0 0).l (skipLong row.m 0 0).sfbi =
        row.m.length ∧ row.m.length ≤ 39 := by decide +kernel

/-- MPEG-1 sets one scalefactor fewer for a mixed block, and has one band fewer. -/
theorem sfbwidthTable_mpeg1 : ∀ row ∈ sfbwidthTable.take 3, row.m.length ≤ 38 := by decide +kernel

theorem bandsSet {lsf : Bool} {row : SfbWidths} (hrow : row ∈ sfbwidthTable)
    (hmpeg1 : lsf = false → row ∈ sfbwidthTable.take 3) (channel : Channel) :
    BandsSet lsf channel (row.select channel) := by
  obtain ⟨hlong, hshort, hshort39, hmixed, hmixed39⟩ := sfbwidthTable_set row hrow
  refine ⟨?_, ?_⟩
  · rw [exponentBands, SfbWidths.select]
    split_ifs
    · exact hmixed
    · exact hshort
    · exact hlong.symm
  · rw [scalefacCount, SfbWidths.select, nsfbShort]
    cases lsf with
    | true =>
      rw [if_pos rfl]
      split_ifs <;> omega
    | false =>
      have hmixed38 := sfbwidthTable_mpeg1 row (hmpeg1 rfl)
      rw [if_neg Bool.false_ne_true]
      split_ifs <;> omega

end Mp3Decoder
