import Mathlib.Data.List.Nodup
import Mathlib.Data.List.ProdSigma
import Mp3Decoder.Lib.BitWriter
import Mp3Decoder.Mad.SideInfoAgree

/-!
# Writing the side information

The bits of a `struct sideinfo`, in the order in which `III_sideinfo` reads them.  What has been
written is read back, and what is read without an error is what would be written: the side information
and its bits say the same.
-/

namespace Mp3Decoder

open BigEndianBits

/-! ### The bits of a channel -/

/-- The fields behind a set `window_switching_flag` -/
def windowBits (channel : Channel) : List Bool :=
  field 2 channel.blockType ++ (field 1 channel.isMixed.toNat ++
    (field 5 (channel.tableSelect 0) ++ (field 5 (channel.tableSelect 1) ++
      (field 3 (channel.subblockGain 0) ++ (field 3 (channel.subblockGain 1) ++
        field 3 (channel.subblockGain 2))))))

/-- The fields behind a clear one -/
def regionBits (channel : Channel) : List Bool :=
  field 5 (channel.tableSelect 0) ++ (field 5 (channel.tableSelect 1) ++
    (field 5 (channel.tableSelect 2) ++ (field 4 channel.region0Count ++
      field 3 channel.region1Count)))

/-- The width of `scalefac_compress` -/
def compressWidth (lsf : Bool) : ℕ := if lsf then 9 else 4

/-- The width of the flags at the end: LSF has no `preflag`. -/
def flagsWidth (lsf : Bool) : ℕ := if lsf then 2 else 3

def channelBits (lsf : Bool) (channel : Channel) : List Bool :=
  field 12 channel.part23Length ++ (field 9 channel.bigValues ++ (field 8 channel.globalGain ++
    (field (compressWidth lsf) channel.scalefacCompress ++
      (field 1 (decide (channel.blockType ≠ 0)).toNat ++
        ((if channel.blockType ≠ 0 then windowBits channel else regionBits channel) ++
          field (flagsWidth lsf) (channel.flags % 2 ^ flagsWidth lsf))))))

/-- What follows `scalefac_compress` fits its fields, and is not rejected. -/
structure Channel.FitsEnd (lsf : Bool) (scfsi : ℕ) (channel : Channel) : Prop where
  blockType : channel.blockType < 2 ^ 2
  flags : channel.flags = (if channel.isMixed then mixedBlockFlag else 0) |||
    channel.flags % 2 ^ flagsWidth lsf
  tableSelect : ∀ i < 2, channel.tableSelect i < 2 ^ 5
  regions : channel.blockType = 0 → channel.isMixed = false ∧ channel.tableSelect 2 < 2 ^ 5 ∧
    channel.region0Count < 2 ^ 4 ∧ channel.region1Count < 2 ^ 3
  window : channel.blockType ≠ 0 → channel.region1Count = 36 ∧
    channel.region0Count = (if channel.isMixed = false ∧ channel.blockType = 2 then 8 else 7) ∧
    ∀ w < 3, channel.subblockGain w < 2 ^ 3
  scfsi_eq : lsf = false → channel.blockType = 2 → scfsi = 0

/-- Each value fits its field, and none of what `III_sideinfo` rejects is there. -/
structure Channel.FitsFields (lsf : Bool) (scfsi : ℕ) (channel : Channel) : Prop
    extends channel.FitsEnd lsf scfsi where
  part23Length : channel.part23Length < 2 ^ 12
  bigValues : channel.bigValues ≤ 288
  globalGain : channel.globalGain < 2 ^ 8
  scalefacCompress : channel.scalefacCompress < 2 ^ compressWidth lsf

theorem windowBits_length (channel : Channel) : (windowBits channel).length = 22 := by
  simp only [windowBits, List.length_append, field_length]

theorem regionBits_length (channel : Channel) : (regionBits channel).length = 22 := by
  simp only [regionBits, List.length_append, field_length]

theorem channelBits_length (lsf : Bool) (channel : Channel) :
    (channelBits lsf channel).length = if lsf then 63 else 59 := by
  have hmiddle : (if channel.blockType ≠ 0 then windowBits channel
      else regionBits channel).length = 22 := by
    split_ifs
    · exact windowBits_length channel
    · exact regionBits_length channel
  simp only [channelBits, List.length_append, field_length, hmiddle]
  cases lsf <;> rfl

/-! ### One field -/

section
variable {mem : Mem} {ptr : MadBitptr} {pos : ℕ}

/-- A field is read as `v` where `v` has been written, and only there. -/
theorem InByte.spells_iff (h : InByte mem ptr pos) {n v : ℕ} (hv : v < 2 ^ n) {bits : List Bool} :
    Spells mem pos (field n v ++ bits) ↔
      (madBitRead mem ptr n).1 = v ∧ Spells mem (pos + n) bits := by
  rw [h.1.read_value, spells_field_append hv]

theorem InByte.spells_last (h : InByte mem ptr pos) {n v : ℕ} (hv : v < 2 ^ n) :
    Spells mem pos (field n v) ↔ (madBitRead mem ptr n).1 = v := by
  have hiff : Spells mem pos (field n v ++ []) ↔ _ := h.spells_iff hv
  rw [List.append_nil] at hiff
  rw [hiff]
  exact and_iff_left trivial

theorem toNat_lt_two (b : Bool) : b.toNat < 2 ^ 1 := Bool.toNat_lt b

/-! ### Written, then read -/

theorem firstError_false (result error : MadError) : firstError result false error = result :=
  if_neg fun hboth => Bool.false_ne_true hboth.1

/-- What has been read before `window_switching_flag` -/
structure Begun (start channel : Channel) : Prop where
  part23Length : start.part23Length = channel.part23Length
  bigValues : start.bigValues = channel.bigValues
  globalGain : start.globalGain = channel.globalGain
  scalefacCompress : start.scalefacCompress = channel.scalefacCompress
  flags : start.flags = 0

/-- The channel agrees with `channel` but for the flags that follow. -/
structure SameRegions (found channel : Channel) : Prop where
  blockType : found.blockType = channel.blockType
  tableSelect : ∀ i < 2, found.tableSelect i = channel.tableSelect i
  region2 : channel.blockType = 0 → found.tableSelect 2 = channel.tableSelect 2
  subblockGain : channel.blockType ≠ 0 → ∀ w < 3, found.subblockGain w = channel.subblockGain w
  region0Count : found.region0Count = channel.region0Count
  region1Count : found.region1Count = channel.region1Count
  flags : found.flags = if channel.isMixed then mixedBlockFlag else 0

theorem lt_two_cases {p : ℕ → Prop} (h0 : p 0) (h1 : p 1) : ∀ i < 2, p i := by
  intro i hi
  rcases Nat.lt_succ_iff_lt_or_eq.mp hi with hlow | rfl
  · rwa [Nat.lt_one_iff.mp hlow]
  · exact h1

theorem lt_three_cases {p : ℕ → Prop} (h0 : p 0) (h1 : p 1) (h2 : p 2) : ∀ i < 3, p i := by
  intro i hi
  rcases Nat.lt_succ_iff_lt_or_eq.mp hi with hlow | rfl
  · exact lt_two_cases h0 h1 i hlow
  · exact h2

variable {lsf : Bool} {scfsi : ℕ} {channel : Channel}

theorem readWindow_written (h : InByte mem ptr pos) (hfits : channel.FitsFields lsf scfsi)
    (hswitched : channel.blockType ≠ 0) (hwritten : Spells mem pos (windowBits channel))
    {start : Channel} (hstart : Begun start channel) (result : MadError) :
    SameRegions (readWindow mem lsf scfsi start ptr result).1 channel ∧
      (readWindow mem lsf scfsi start ptr result).2.2 = result := by
  obtain ⟨hregion1, hregion0, hgains⟩ := hfits.window hswitched
  -- field by field
  obtain ⟨htype, hrest⟩ := (h.spells_iff hfits.blockType).mp hwritten
  have h2 := h.read 2
  obtain ⟨hmixed, hrest⟩ := (h2.spells_iff (toNat_lt_two channel.isMixed)).mp hrest
  have h3 := h2.read 1
  obtain ⟨htable0, hrest⟩ := (h3.spells_iff (hfits.tableSelect 0 (by decide))).mp hrest
  have h8 := h3.read 5
  obtain ⟨htable1, hrest⟩ := (h8.spells_iff (hfits.tableSelect 1 (by decide))).mp hrest
  have h13 := h8.read 5
  obtain ⟨hgain0, hrest⟩ := (h13.spells_iff (hgains 0 (by decide))).mp hrest
  have h16 := h13.read 3
  obtain ⟨hgain1, hrest⟩ := (h16.spells_iff (hgains 1 (by decide))).mp hrest
  have hgain2 := ((h16.read 3).spells_last (hgains 2 (by decide))).mp hrest
  have hscfsi : (!lsf && decide (channel.blockType = 2) && decide (scfsi ≠ 0)) = false := by
    cases hlsf : lsf with
    | true => rfl
    | false =>
      by_cases hshort : channel.blockType = 2
      · rw [decide_eq_true hshort, decide_eq_false (not_not.mpr (hfits.scfsi_eq hlsf hshort))]
        rfl
      · rw [decide_eq_false hshort]
        rfl
  have hzero : decide (channel.blockType = 0) = false := decide_eq_false hswitched
  simp only [readWindow, htype, hmixed, htable0, htable1, hgain0, hgain1, hgain2, hstart.flags, hscfsi,
    hzero, firstError_false]
  refine ⟨⟨rfl, ?_, fun hnone => absurd hnone hswitched, fun _ => ?_, ?_, hregion1.symm, ?_⟩, trivial⟩
  · exact lt_two_cases rfl rfl
  · exact lt_three_cases rfl rfl rfl
  · simp only [hregion0, Bool.toNat_eq_zero]
  · cases channel.isMixed <;> rfl

theorem readRegions_written (h : InByte mem ptr pos) (hfits : channel.FitsFields lsf scfsi)
    (hplain : channel.blockType = 0) (hwritten : Spells mem pos (regionBits channel))
    {start : Channel} (hstart : Begun start channel) :
    SameRegions (readRegions mem start ptr).1 channel := by
  obtain ⟨hmixed, htwo, hregion0, hregion1⟩ := hfits.regions hplain
  obtain ⟨htable0, hrest⟩ := (h.spells_iff (hfits.tableSelect 0 (by decide))).mp hwritten
  have h5 := h.read 5
  obtain ⟨htable1, hrest⟩ := (h5.spells_iff (hfits.tableSelect 1 (by decide))).mp hrest
  have h10 := h5.read 5
  obtain ⟨htable2, hrest⟩ := (h10.spells_iff htwo).mp hrest
  have h15 := h10.read 5
  obtain ⟨hcount0, hrest⟩ := (h15.spells_iff hregion0).mp hrest
  have hcount1 := ((h15.read 4).spells_last hregion1).mp hrest
  simp only [readRegions, htable0, htable1, htable2, hcount0, hcount1]
  refine ⟨hplain.symm, ?_, fun _ => rfl, fun hswitched => absurd hplain hswitched, rfl, rfl, ?_⟩
  · exact lt_two_cases rfl rfl
  · rw [hstart.flags, hmixed]
    rfl

/-- The flags at the end complete the channel. -/
theorem SameRegions.sameInfo {start found : Channel} (h : SameRegions found channel)
    (hfits : channel.FitsFields lsf scfsi) (hstart : Begun start channel)
    (hkept : found.part23Length = start.part23Length ∧ found.bigValues = start.bigValues ∧
      found.globalGain = start.globalGain ∧ found.scalefacCompress = start.scalefacCompress) :
    Channel.SameInfo { found with flags := found.flags ||| channel.flags % 2 ^ flagsWidth lsf }
      channel := by
  obtain ⟨hpart23, hbig, hgain, hcompress⟩ := hkept
  refine ⟨hpart23.trans hstart.part23Length, hbig.trans hstart.bigValues,
    hgain.trans hstart.globalGain, hcompress.trans hstart.scalefacCompress, ?_, h.blockType,
    h.tableSelect, ?_, ?_, h.region0Count, h.region1Count⟩
  · show found.flags ||| channel.flags % 2 ^ flagsWidth lsf = channel.flags
    rw [h.flags]
    exact hfits.flags.symm
  · intro hplain
    exact h.region2 (h.blockType.symm.trans hplain)
  · intro hswitched
    exact h.subblockGain (h.blockType ▸ hswitched)

/-- **A channel that has been written is read.** -/
theorem readChannel_written (h : InByte mem ptr pos) (hfits : channel.FitsFields lsf scfsi)
    (hwritten : Spells mem pos (channelBits lsf channel)) (start : Channel) (result : MadError) :
    (readChannel mem lsf scfsi start ptr result).1.SameInfo channel ∧
      (readChannel mem lsf scfsi start ptr result).2.2 = result := by
  have hvalues : channel.bigValues < 2 ^ 9 := Nat.lt_of_le_of_lt hfits.bigValues (by decide)
  obtain ⟨hpart23, hrest⟩ := (h.spells_iff hfits.part23Length).mp hwritten
  have h12 := h.read 12
  obtain ⟨hbig, hrest⟩ := (h12.spells_iff hvalues).mp hrest
  have h21 := h12.read 9
  obtain ⟨hgain, hrest⟩ := (h21.spells_iff hfits.globalGain).mp hrest
  have h29 := h21.read 8
  obtain ⟨hcompress, hrest⟩ := (h29.spells_iff hfits.scalefacCompress).mp hrest
  have hswitch := h29.read (compressWidth lsf)
  obtain ⟨hswitching, hrest⟩ := (hswitch.spells_iff (toNat_lt_two _)).mp hrest
  have hmiddle := hswitch.read 1
  obtain ⟨hmid, hflags⟩ := spells_append.mp hrest
  have hle : decide (channel.bigValues > 288) = false :=
    decide_eq_false (Nat.not_lt.mpr hfits.bigValues)
  have hlow : channel.flags % 2 ^ flagsWidth lsf < 2 ^ flagsWidth lsf :=
    Nat.mod_lt _ (Nat.two_pow_pos _)
  rw [compressWidth] at hcompress hswitch hswitching hmiddle
  rw [flagsWidth] at hflags hlow
  simp only [readChannel, hpart23, hbig, hgain, hcompress, hswitching, hle, firstError_false]
  have hbegun : Begun { start with
      part23Length := channel.part23Length, bigValues := channel.bigValues
      globalGain := channel.globalGain, scalefacCompress := channel.scalefacCompress
      flags := 0 } channel := ⟨rfl, rfl, rfl, rfl, rfl⟩
  by_cases hplain : channel.blockType = 0
  · rw [if_neg (not_not.mpr hplain)] at hmid hflags
    rw [regionBits_length] at hflags
    rw [decide_eq_false (not_not.mpr hplain), if_neg (by decide)]
    rw [((readRegions_at hmiddle).spells_last hlow).mp hflags]
    exact ⟨(readRegions_written hmiddle hfits hplain hmid hbegun).sameInfo hfits hbegun
      ⟨rfl, rfl, rfl, rfl⟩, rfl⟩
  · rw [if_pos hplain] at hmid hflags
    rw [windowBits_length] at hflags
    rw [decide_eq_true hplain, if_pos (by decide)]
    rw [((readWindow_at hmiddle).spells_last hlow).mp hflags]
    obtain ⟨hregions, hresult⟩ := readWindow_written hmiddle hfits hplain hmid hbegun result
    exact ⟨hregions.sameInfo hfits hbegun ⟨rfl, rfl, rfl, rfl⟩, hresult⟩

/-! ### Read, then written -/

/-- The flags at the end leave the mixed blocks alone. -/
theorem isMixed_or {found : Channel} {flags : ℕ} (hlow : flags < 2 ^ 3) :
    Channel.isMixed { found with flags := found.flags ||| flags } = found.isMixed := by
  have hnone : ∀ low < 2 ^ 3, low &&& mixedBlockFlag = 0 := by decide
  simp only [Channel.isMixed]
  rw [Nat.and_or_distrib_right, hnone flags hlow, Nat.or_zero]

theorem flags_low {mixed : Bool} {n flags : ℕ} (hn : n ≤ 3) (hlow : flags < 2 ^ n) :
    ((if mixed then mixedBlockFlag else 0) ||| flags) % 2 ^ n = flags := by
  have hnone : ∀ n ≤ 3, mixedBlockFlag % 2 ^ n = 0 := by decide
  rw [Nat.or_mod_two_pow, Nat.mod_eq_of_lt hlow]
  cases mixed with
  | true => rw [if_pos rfl, hnone n hn, Nat.zero_or]
  | false => rw [if_neg (by decide), Nat.zero_mod, Nat.zero_or]

theorem bool_of_bit {bit : ℕ} (h : bit < 2) : (decide (bit ≠ 0)).toNat = bit := by
  have hall : ∀ bit < 2, (decide (bit ≠ 0)).toNat = bit := by decide
  exact hall bit h

theorem readWindow_spells (h : InByte mem ptr pos) (lsf : Bool) (scfsi : ℕ) {start : Channel}
    (hflags : start.flags = 0) (result : MadError) :
    let r := readWindow mem lsf scfsi start ptr result
    Spells mem pos (windowBits r.1) ∧
      r.1.flags = (if r.1.isMixed then mixedBlockFlag else 0) ∧ r.1.blockType < 2 ^ 2 ∧
      (∀ i < 2, r.1.tableSelect i < 2 ^ 5) ∧ (∀ w < 3, r.1.subblockGain w < 2 ^ 3) ∧
      r.1.region1Count = 36 ∧
      r.1.region0Count = (if r.1.isMixed = false ∧ r.1.blockType = 2 then 8 else 7) := by
  have h2 := h.read 2
  have h3 := h2.read 1
  have h8 := h3.read 5
  have h13 := h8.read 5
  have h16 := h13.read 3
  have h19 := h16.read 3
  have hmixed : (readWindow mem lsf scfsi start ptr result).1.isMixed =
      decide ((madBitRead mem (madBitRead mem ptr 2).2 1).1 ≠ 0) := by
    simp only [readWindow, Channel.isMixed, hflags]
    by_cases hset : (madBitRead mem (madBitRead mem ptr 2).2 1).1 ≠ 0
    · rw [if_pos hset, decide_eq_true hset]
      rfl
    · rw [if_neg hset, decide_eq_false hset]
      rfl
  have hbit := bool_of_bit (h2.read_lt 1)
  refine ⟨?_, ?_, h.read_lt 2, ?_, ?_, rfl, ?_⟩
  · rw [windowBits, hmixed, hbit]
    refine (h.spells_iff (h.read_lt 2)).mpr ⟨rfl, ?_⟩
    refine (h2.spells_iff (h2.read_lt 1)).mpr ⟨rfl, ?_⟩
    refine (h3.spells_iff (h3.read_lt 5)).mpr ⟨rfl, ?_⟩
    refine (h8.spells_iff (h8.read_lt 5)).mpr ⟨rfl, ?_⟩
    refine (h13.spells_iff (h13.read_lt 3)).mpr ⟨rfl, ?_⟩
    refine (h16.spells_iff (h16.read_lt 3)).mpr ⟨rfl, ?_⟩
    exact (h19.spells_last (h19.read_lt 3)).mpr rfl
  · rw [hmixed]
    simp only [readWindow, hflags, decide_eq_true_eq]
    rfl
  · exact lt_two_cases (h3.read_lt 5) (h8.read_lt 5)
  · exact lt_three_cases (h13.read_lt 3) (h16.read_lt 3) (h19.read_lt 3)
  · rw [hmixed]
    simp only [readWindow, decide_eq_false_iff_not, not_not]

theorem readRegions_spells (h : InByte mem ptr pos) {start : Channel} (hflags : start.flags = 0) :
    let r := readRegions mem start ptr
    Spells mem pos (regionBits r.1) ∧ r.1.isMixed = false ∧ (∀ i < 3, r.1.tableSelect i < 2 ^ 5) ∧
      r.1.region0Count < 2 ^ 4 ∧ r.1.region1Count < 2 ^ 3 := by
  have h5 := h.read 5
  have h10 := h5.read 5
  have h15 := h10.read 5
  have h19 := h15.read 4
  refine ⟨?_, ?_, ?_, h15.read_lt 4, h19.read_lt 3⟩
  · refine (h.spells_iff (h.read_lt 5)).mpr ⟨rfl, ?_⟩
    refine (h5.spells_iff (h5.read_lt 5)).mpr ⟨rfl, ?_⟩
    refine (h10.spells_iff (h10.read_lt 5)).mpr ⟨rfl, ?_⟩
    refine (h15.spells_iff (h15.read_lt 4)).mpr ⟨rfl, ?_⟩
    exact (h19.spells_last (h19.read_lt 3)).mpr rfl
  · simp only [readRegions, Channel.isMixed, hflags]
    rfl
  · exact lt_three_cases (h.read_lt 5) (h5.read_lt 5) (h10.read_lt 5)

/-- The end of a channel, with the flags -/
theorem flags_spells {found : Channel} {last : ℕ} (hlast : last < 2 ^ flagsWidth lsf)
    (hflags : found.flags = (if found.isMixed then mixedBlockFlag else 0))
    (hmiddle : Spells mem pos
      (if found.blockType ≠ 0 then windowBits found else regionBits found))
    (hend : Spells mem (pos + 22) (field (flagsWidth lsf) last)) :
    let final : Channel := { found with flags := found.flags ||| last }
    Spells mem pos ((if final.blockType ≠ 0 then windowBits final else regionBits final) ++
        field (flagsWidth lsf) (final.flags % 2 ^ flagsWidth lsf)) ∧
      final.isMixed = found.isMixed ∧
      final.flags = (if final.isMixed then mixedBlockFlag else 0) |||
        final.flags % 2 ^ flagsWidth lsf := by
  intro final
  have hwidth : flagsWidth lsf ≤ 3 := by cases lsf <;> decide
  have hmixed : final.isMixed = found.isMixed :=
    isMixed_or (Nat.lt_of_lt_of_le hlast (Nat.pow_le_pow_right (by decide) hwidth))
  have hlow : final.flags % 2 ^ flagsWidth lsf = last := by
    show (found.flags ||| last) % 2 ^ flagsWidth lsf = last
    rw [hflags]
    exact flags_low hwidth hlast
  have hsame : (if final.blockType ≠ 0 then windowBits final else regionBits final) =
      if found.blockType ≠ 0 then windowBits found else regionBits found := by
    simp only [windowBits, hmixed]
    rfl
  have hlength : (if found.blockType ≠ 0 then windowBits found else regionBits found).length = 22 := by
    split_ifs
    · exact windowBits_length found
    · exact regionBits_length found
  refine ⟨?_, hmixed, ?_⟩
  · rw [hsame, hlow]
    exact spells_append.mpr ⟨hmiddle, hlength ▸ hend⟩
  · rw [hlow, hmixed, ← hflags]

theorem readWindow_final (h : InByte mem ptr pos) {start : Channel} (hflags : start.flags = 0)
    {result : MadError} (hok : (readWindow mem lsf scfsi start ptr result).2.2 = .none) :
    let r := readWindow mem lsf scfsi start ptr result
    let last := (madBitRead mem r.2.1 (flagsWidth lsf)).1
    let final : Channel := { r.1 with flags := r.1.flags ||| last }
    Spells mem pos ((if final.blockType ≠ 0 then windowBits final else regionBits final) ++
      field (flagsWidth lsf) (final.flags % 2 ^ flagsWidth lsf)) ∧ final.blockType ≠ 0 ∧
      final.FitsEnd lsf scfsi := by
  intro r last final
  have hend : InByte mem r.2.1 (pos + 22) := readWindow_at h
  have hswitched : r.1.blockType ≠ 0 := (readWindow_accepted h hok).2.1
  obtain ⟨hspells, hmixedFlag, htype, htables, hgains, hregion1, hregion0⟩ :=
    readWindow_spells h lsf scfsi hflags result
  obtain ⟨hbits, hmixed, hfinal⟩ := flags_spells (hend.read_lt (flagsWidth lsf)) hmixedFlag
    (by rw [if_pos hswitched]; exact hspells)
    ((hend.spells_last (hend.read_lt (flagsWidth lsf))).mpr rfl)
  have hscfsi : lsf = false → r.1.blockType = 2 → scfsi = 0 := by
    intro hlsf hshort
    obtain ⟨-, hbad⟩ := firstError_none (by decide) hok
    have hshort' : (madBitRead mem ptr 2).1 = 2 := hshort
    rw [hlsf, hshort'] at hbad
    exact not_not.mp (of_decide_eq_false hbad)
  refine ⟨hbits, hswitched, htype, hfinal, htables, fun hplain => absurd hplain hswitched,
    fun _ => ⟨hregion1, ?_, hgains⟩, hscfsi⟩
  rw [hmixed]
  exact hregion0

theorem readRegions_final (h : InByte mem ptr pos) (lsf : Bool) (scfsi : ℕ) (start : Channel)
    (hflags : start.flags = 0) :
    let r := readRegions mem start ptr
    let last := (madBitRead mem r.2 (flagsWidth lsf)).1
    let final : Channel := { r.1 with flags := r.1.flags ||| last }
    Spells mem pos ((if final.blockType ≠ 0 then windowBits final else regionBits final) ++
      field (flagsWidth lsf) (final.flags % 2 ^ flagsWidth lsf)) ∧ final.blockType = 0 ∧
      final.FitsEnd lsf scfsi := by
  intro r last final
  have hend : InByte mem r.2 (pos + 22) := readRegions_at h
  obtain ⟨hspells, hplain, htables, hregion0, hregion1⟩ := readRegions_spells h hflags
  have hmixedFlag : r.1.flags = (if r.1.isMixed then mixedBlockFlag else 0) := by
    rw [hplain]
    exact hflags
  obtain ⟨hbits, hmixed, hfinal⟩ := flags_spells (hend.read_lt (flagsWidth lsf)) hmixedFlag hspells
    ((hend.spells_last (hend.read_lt (flagsWidth lsf))).mpr rfl)
  have hblock : final.blockType = 0 := rfl
  have htype : final.blockType < 2 ^ 2 := by
    rw [hblock]
    decide
  exact ⟨hbits, hblock, htype, hfinal, fun i hi => htables i (Nat.lt_succ_of_lt hi),
    fun _ => ⟨hmixed.trans hplain, htables 2 (by decide), hregion0, hregion1⟩,
    fun hswitched => absurd hblock hswitched,
    fun _ hshort => absurd (hblock.symm.trans hshort) (by decide)⟩

/-- **A channel that is read is what would be written.** -/
theorem readChannel_spells (h : InByte mem ptr pos) (start : Channel) {result : MadError}
    (hok : (readChannel mem lsf scfsi start ptr result).2.2 = .none) :
    Spells mem pos (channelBits lsf (readChannel mem lsf scfsi start ptr result).1) ∧
      (readChannel mem lsf scfsi start ptr result).1.FitsFields lsf scfsi := by
  have hbig := (readChannel_accepted h hok).2.bigValues_le
  have h12 := h.read 12
  have h21 := h12.read 9
  have h29 := h21.read 8
  have hswitch := h29.read (compressWidth lsf)
  have hmiddle := hswitch.read 1
  have hbit := bool_of_bit (hswitch.read_lt 1)
  rw [compressWidth] at hbit
  simp only [readChannel] at hok hbig ⊢
  by_cases hwindow : (madBitRead mem (madBitRead mem (madBitRead mem (madBitRead mem
      (madBitRead mem ptr 12).2 9).2 8).2 (if lsf then 9 else 4)).2 1).1 ≠ 0
  · rw [if_pos hwindow] at hok hbig ⊢
    obtain ⟨hbits, hswitched, hends⟩ := readWindow_final hmiddle rfl hok
    rw [decide_eq_true hwindow] at hbit
    refine ⟨?_, hends, h.read_lt 12, hbig, h21.read_lt 8, h29.read_lt (compressWidth lsf)⟩
    refine (h.spells_iff (h.read_lt 12)).mpr ⟨rfl, ?_⟩
    refine (h12.spells_iff (h12.read_lt 9)).mpr ⟨rfl, ?_⟩
    refine (h21.spells_iff (h21.read_lt 8)).mpr ⟨rfl, ?_⟩
    refine (h29.spells_iff (h29.read_lt (compressWidth lsf))).mpr ⟨rfl, ?_⟩
    exact (hswitch.spells_iff (toNat_lt_two _)).mpr
      ⟨hbit.symm.trans (congrArg Bool.toNat (decide_eq_true hswitched).symm), hbits⟩
  · rw [if_neg hwindow] at hok hbig ⊢
    rw [decide_eq_false hwindow] at hbit
    obtain ⟨hbits, hplain, hends⟩ := readRegions_final hmiddle lsf scfsi
      { start with
        part23Length := (madBitRead mem ptr 12).1
        bigValues := (madBitRead mem (madBitRead mem ptr 12).2 9).1
        globalGain := (madBitRead mem (madBitRead mem (madBitRead mem ptr 12).2 9).2 8).1
        scalefacCompress := (madBitRead mem (madBitRead mem (madBitRead mem (madBitRead mem
          ptr 12).2 9).2 8).2 (compressWidth lsf)).1
        flags := 0 } rfl
    refine ⟨?_, hends, h.read_lt 12, hbig, h21.read_lt 8, h29.read_lt (compressWidth lsf)⟩
    refine (h.spells_iff (h.read_lt 12)).mpr ⟨rfl, ?_⟩
    refine (h12.spells_iff (h12.read_lt 9)).mpr ⟨rfl, ?_⟩
    refine (h21.spells_iff (h21.read_lt 8)).mpr ⟨rfl, ?_⟩
    refine (h29.spells_iff (h29.read_lt (compressWidth lsf))).mpr ⟨rfl, ?_⟩
    exact (hswitch.spells_iff (toNat_lt_two _)).mpr
      ⟨hbit.symm.trans (congrArg Bool.toNat (decide_eq_false (not_not.mpr hplain)).symm), hbits⟩

end

/-! ### All channels -/

/-- The channels of a frame, in their order -/
def frameChannels (lsf : Bool) (nch : ℕ) : List (ℕ × ℕ) :=
  List.range (if lsf then 1 else 2) ×ˢ List.range nch

theorem frameChannels_nodup (lsf : Bool) (nch : ℕ) : (frameChannels lsf nch).Nodup :=
  List.Nodup.product List.nodup_range List.nodup_range

theorem mem_frameChannels {lsf : Bool} {nch : ℕ} {p : ℕ × ℕ} :
    p ∈ frameChannels lsf nch ↔ p.1 < (if lsf then 1 else 2) ∧ p.2 < nch := by
  obtain ⟨gr, ch⟩ := p
  rw [frameChannels, List.mem_product, List.mem_range, List.mem_range]

/-- The loops over granules and channels are one. -/
theorem readGranules_eq (mem : Mem) (lsf : Bool) (nch : ℕ) (s : SideinfoState) :
    (List.range (if lsf then 1 else 2)).foldl (readGranule mem lsf nch) s =
      (frameChannels lsf nch).foldl (fun s p => readGranuleChannel mem lsf s p.1 p.2) s := by
  simp only [frameChannels, SProd.sprod, List.product, List.foldl_flatMap, List.foldl_map]
  rfl

def selectBits (scfsi : ℕ → ℕ) (chs : List ℕ) : List Bool := chs.flatMap fun ch => field 4 (scfsi ch)

def channelsBits (lsf : Bool) (gr : ℕ → ℕ → Channel) (ps : List (ℕ × ℕ)) : List Bool :=
  ps.flatMap fun p => channelBits lsf (gr p.1 p.2)

/-- The width of `main_data_begin` -/
def beginWidth (lsf : Bool) : ℕ := if lsf then 8 else 9

/-- The bits before the channels -/
def startBits (lsf : Bool) (nch : ℕ) (si : SideInfo) : List Bool :=
  field (beginWidth lsf) si.mainDataBegin ++ (field (privBitlen lsf nch) si.privateBits ++
    if lsf then [] else selectBits si.scfsi (List.range nch))

/-- The bits of the side information -/
def sideinfoBits (lsf : Bool) (nch : ℕ) (si : SideInfo) : List Bool :=
  startBits lsf nch si ++ channelsBits lsf si.gr (frameChannels lsf nch)

structure SideInfo.FitsFields (lsf : Bool) (nch : ℕ) (si : SideInfo) : Prop where
  mainDataBegin : si.mainDataBegin < 2 ^ beginWidth lsf
  privateBits : si.privateBits < 2 ^ privBitlen lsf nch
  scfsi : lsf = false → ∀ ch < nch, si.scfsi ch < 2 ^ 4
  channels : ∀ p ∈ frameChannels lsf nch, (si.gr p.1 p.2).FitsFields lsf (si.scfsi p.2)

/-- The side information that is found says what `si` says. -/
structure SideInfo.Says (lsf : Bool) (nch : ℕ) (si found : SideInfo) : Prop where
  mainDataBegin : found.mainDataBegin = si.mainDataBegin
  privateBits : found.privateBits = si.privateBits
  scfsi : lsf = false → ∀ ch < nch, found.scfsi ch = si.scfsi ch
  channels : ∀ p ∈ frameChannels lsf nch, (found.gr p.1 p.2).SameInfo (si.gr p.1 p.2)

theorem selectBits_length (scfsi : ℕ → ℕ) (chs : List ℕ) :
    (selectBits scfsi chs).length = 4 * chs.length := by
  simp only [selectBits, List.length_flatMap, field_length, List.map_const', List.sum_replicate_nat,
    Nat.mul_comm]

theorem channelsBits_length (lsf : Bool) (gr : ℕ → ℕ → Channel) (ps : List (ℕ × ℕ)) :
    (channelsBits lsf gr ps).length = (if lsf then 63 else 59) * ps.length := by
  simp only [channelsBits, List.length_flatMap, channelBits_length, List.map_const',
    List.sum_replicate_nat, Nat.mul_comm]

theorem startBits_length (lsf : Bool) (nch : ℕ) (si : SideInfo) :
    (startBits lsf nch si).length =
      beginWidth lsf + privBitlen lsf nch + if lsf then 0 else 4 * nch := by
  rw [startBits, List.length_append, List.length_append, field_length, field_length, Nat.add_assoc]
  cases lsf
  · rw [if_neg (by decide), if_neg (by decide), selectBits_length, List.length_range]
  · rfl

/-- **The bits fill the side information of a frame.** -/
theorem sideinfoBits_length (lsf : Bool) {nch : ℕ} (hnch : nch = 1 ∨ nch = 2) (si : SideInfo) :
    (sideinfoBits lsf nch si).length = 8 * siLen lsf nch := by
  have hcount : (frameChannels lsf nch).length = (if lsf then 1 else 2) * nch := by
    rw [frameChannels, List.length_product, List.length_range, List.length_range]
  rw [sideinfoBits, List.length_append, startBits_length, channelsBits_length, hcount]
  cases lsf <;> rcases hnch with rfl | rfl <;> rfl

section
variable {mem : Mem} {lsf : Bool} {s : SideinfoState} {pos : ℕ}

/-- What reading channels leaves alone -/
structure KeepsStart (s t : SideinfoState) : Prop where
  mainDataBegin : t.si.mainDataBegin = s.si.mainDataBegin
  privateBits : t.si.privateBits = s.si.privateBits
  scfsi : t.si.scfsi = s.si.scfsi

theorem readChannels_keeps (mem : Mem) (lsf : Bool) (ps : List (ℕ × ℕ)) (s : SideinfoState) :
    let t := ps.foldl (fun s p => readGranuleChannel mem lsf s p.1 p.2) s
    KeepsStart s t ∧ (∀ gr ch, (gr, ch) ∉ ps → t.si.gr gr ch = s.si.gr gr ch) ∧
      (t.result = .none → s.result = .none) := by
  induction ps generalizing s with
  | nil => exact ⟨⟨rfl, rfl, rfl⟩, fun _ _ _ => rfl, id⟩
  | cons p ps ih =>
    obtain ⟨⟨hbegin, hpriv, hscfsi⟩, hothers, hresult⟩ := ih (readGranuleChannel mem lsf s p.1 p.2)
    refine ⟨⟨hbegin, hpriv, hscfsi⟩, ?_, fun hok => readChannel_result (hresult hok)⟩
    intro gr ch hnot
    rw [List.mem_cons, not_or] at hnot
    rw [List.foldl_cons, hothers gr ch hnot.2]
    show Function.update s.si.gr p.1 (Function.update (s.si.gr p.1) p.2 _) gr ch = _
    rw [update_channel]
    exact if_neg fun hsame => hnot.1 (Prod.ext hsame.1 hsame.2)

theorem readGranuleChannel_gr (mem : Mem) (lsf : Bool) (s : SideinfoState) (gr ch : ℕ) :
    (readGranuleChannel mem lsf s gr ch).si.gr gr ch =
      (readChannel mem lsf (s.si.scfsi ch) (s.si.gr gr ch) s.ptr s.result).1 := by
  show Function.update s.si.gr gr (Function.update (s.si.gr gr) ch _) gr ch = _
  rw [Function.update_self, Function.update_self]

/-- The channels that have been written are read. -/
theorem readChannels_written {gr : ℕ → ℕ → Channel} {ps : List (ℕ × ℕ)} (hnodup : ps.Nodup)
    (h : InByte mem s.ptr pos) (hfits : ∀ p ∈ ps, (gr p.1 p.2).FitsFields lsf (s.si.scfsi p.2))
    (hwritten : Spells mem pos (channelsBits lsf gr ps)) :
    let t := ps.foldl (fun s p => readGranuleChannel mem lsf s p.1 p.2) s
    t.result = s.result ∧ (∀ p ∈ ps, (t.si.gr p.1 p.2).SameInfo (gr p.1 p.2)) ∧
      t.dataBitlen = s.dataBitlen + (ps.map fun p => (gr p.1 p.2).part23Length).sum := by
  induction ps generalizing s pos with
  | nil => exact ⟨rfl, fun p hp => absurd hp List.not_mem_nil, rfl⟩
  | cons p ps ih =>
    rw [List.nodup_cons] at hnodup
    obtain ⟨hfirst, hrest⟩ := spells_append.mp hwritten
    rw [channelBits_length] at hrest
    obtain ⟨hinfo, hresult⟩ := readChannel_written h (hfits p List.mem_cons_self) hfirst
      (s.si.gr p.1 p.2) s.result
    obtain ⟨hok, hall, hlength⟩ := ih hnodup.2 (s := readGranuleChannel mem lsf s p.1 p.2)
      (readChannel_at h) (fun q hq => hfits q (List.mem_cons_of_mem _ hq)) hrest
    have hkeeps := (readChannels_keeps mem lsf ps (readGranuleChannel mem lsf s p.1 p.2)).2.1 p.1 p.2
      hnodup.1
    rw [readGranuleChannel_gr] at hkeeps
    refine ⟨hok.trans hresult, ?_, ?_⟩
    · intro q hq
      rcases List.mem_cons.mp hq with rfl | hq
      · rw [List.foldl_cons, hkeeps]
        exact hinfo
      · exact hall q hq
    · rw [List.foldl_cons, hlength, List.map_cons, List.sum_cons, ← Nat.add_assoc, ← hinfo.part23Length]
      rfl

/-- The channels that are read are what would be written. -/
theorem readChannels_spells {ps : List (ℕ × ℕ)} (hnodup : ps.Nodup) (h : InByte mem s.ptr pos)
    (hok : (ps.foldl (fun s p => readGranuleChannel mem lsf s p.1 p.2) s).result = .none) :
    let t := ps.foldl (fun s p => readGranuleChannel mem lsf s p.1 p.2) s
    Spells mem pos (channelsBits lsf t.si.gr ps) ∧
      ∀ p ∈ ps, (t.si.gr p.1 p.2).FitsFields lsf (s.si.scfsi p.2) := by
  induction ps generalizing s pos with
  | nil => exact ⟨trivial, fun p hp => absurd hp List.not_mem_nil⟩
  | cons p ps ih =>
    rw [List.nodup_cons] at hnodup
    obtain ⟨hrest, hall⟩ := ih hnodup.2 (s := readGranuleChannel mem lsf s p.1 p.2)
      (readChannel_at h) hok
    obtain ⟨-, hkeeps, hresult⟩ :=
      readChannels_keeps mem lsf ps (readGranuleChannel mem lsf s p.1 p.2)
    have hsame := hkeeps p.1 p.2 hnodup.1
    rw [readGranuleChannel_gr] at hsame
    obtain ⟨hfirst, hfits⟩ := readChannel_spells h (s.si.gr p.1 p.2) (hresult hok)
    rw [← hsame] at hfirst hfits
    refine ⟨spells_append.mpr ⟨hfirst, ?_⟩, ?_⟩
    · rw [channelBits_length]
      exact hrest
    · intro q hq
      rcases List.mem_cons.mp hq with rfl | hq
      · exact hfits
      · exact hall q hq

/-! ### The fields before them -/

/-- What reading `scfsi` leaves alone -/
theorem readScfsis_keeps (mem : Mem) (chs : List ℕ) (s : SideinfoState) :
    let t := chs.foldl (readScfsiChannel mem) s
    t.result = s.result ∧ t.dataBitlen = s.dataBitlen ∧ t.si.mainDataBegin = s.si.mainDataBegin ∧
      t.si.privateBits = s.si.privateBits ∧ ∀ ch ∉ chs, t.si.scfsi ch = s.si.scfsi ch := by
  induction chs generalizing s with
  | nil => exact ⟨rfl, rfl, rfl, rfl, fun _ _ => rfl⟩
  | cons ch chs ih =>
    obtain ⟨hresult, hlength, hbegin, hpriv, hothers⟩ := ih (readScfsiChannel mem s ch)
    refine ⟨hresult, hlength, hbegin, hpriv, ?_⟩
    intro other hnot
    rw [List.mem_cons, not_or] at hnot
    rw [List.foldl_cons, hothers other hnot.2]
    exact Function.update_of_ne hnot.1 _ _

theorem readScfsis_spells {chs : List ℕ} (hnodup : chs.Nodup) (h : InByte mem s.ptr pos) :
    let t := chs.foldl (readScfsiChannel mem) s
    Spells mem pos (selectBits t.si.scfsi chs) ∧ ∀ ch ∈ chs, t.si.scfsi ch < 2 ^ 4 := by
  induction chs generalizing s pos with
  | nil => exact ⟨trivial, fun ch hch => absurd hch List.not_mem_nil⟩
  | cons ch chs ih =>
    rw [List.nodup_cons] at hnodup
    obtain ⟨hrest, hall⟩ := ih hnodup.2 (s := readScfsiChannel mem s ch) (h.read 4)
    have hkept := (readScfsis_keeps mem chs (readScfsiChannel mem s ch)).2.2.2.2 ch hnodup.1
    have hread : (readScfsiChannel mem s ch).si.scfsi ch = (madBitRead mem s.ptr 4).1 :=
      Function.update_self _ _ _
    rw [hread] at hkept
    refine ⟨?_, ?_⟩
    · refine (h.spells_iff ?_).mpr ⟨hkept.symm, hrest⟩
      rw [List.foldl_cons, hkept]
      exact h.read_lt 4
    · intro other hother
      rcases List.mem_cons.mp hother with rfl | hother
      · rw [List.foldl_cons, hkept]
        exact h.read_lt 4
      · exact hall other hother

/-- The same bits give the same values. -/
theorem selectBits_inj {f g : ℕ → ℕ} {chs : List ℕ} (hf : Spells mem pos (selectBits f chs))
    (hg : Spells mem pos (selectBits g chs)) (hflt : ∀ ch ∈ chs, f ch < 2 ^ 4)
    (hglt : ∀ ch ∈ chs, g ch < 2 ^ 4) : ∀ ch ∈ chs, f ch = g ch := by
  induction chs generalizing pos with
  | nil => exact fun ch hch => absurd hch List.not_mem_nil
  | cons first chs ih =>
    obtain ⟨hf1, hf2⟩ := (spells_field_append (hflt first List.mem_cons_self)).mp hf
    obtain ⟨hg1, hg2⟩ := (spells_field_append (hglt first List.mem_cons_self)).mp hg
    have hrest := ih hf2 hg2 (fun ch hch => hflt ch (List.mem_cons_of_mem _ hch))
      fun ch hch => hglt ch (List.mem_cons_of_mem _ hch)
    intro ch hch
    rcases List.mem_cons.mp hch with rfl | hch
    · exact hf1.symm.trans hg1
    · exact hrest ch hch

/-- What stands before the channels -/
structure StartRead (mem : Mem) (lsf : Bool) (nch pos : ℕ) (t : SideinfoState) : Prop where
  result : t.result = .none
  dataBitlen : t.dataBitlen = 0
  mainDataBegin : t.si.mainDataBegin < 2 ^ beginWidth lsf
  privateBits : t.si.privateBits < 2 ^ privBitlen lsf nch
  scfsi : lsf = false → ∀ ch < nch, t.si.scfsi ch < 2 ^ 4
  spells : Spells mem pos (startBits lsf nch t.si)

theorem sideinfoStart_read {ptr : MadBitptr} (h : AtBit mem ptr pos) (lsf : Bool) (nch : ℕ)
    (si : SideInfo) : StartRead mem lsf nch pos (sideinfoStart mem ptr nch lsf si) := by
  have hbegin : InByte mem (madBitRead mem ptr (beginWidth lsf)).2 (pos + beginWidth lsf) :=
    h.read (beginWidth lsf)
  have hbeginLt : (madBitRead mem ptr (beginWidth lsf)).1 < 2 ^ beginWidth lsf := by
    rw [h.read_value]
    exact bitsVal_lt mem pos _
  have hpriv := hbegin.read (privBitlen lsf nch)
  have hprivLt := hbegin.read_lt (privBitlen lsf nch)
  cases lsf with
  | true =>
    refine ⟨rfl, rfl, hbeginLt, hprivLt, fun hmpeg1 => absurd hmpeg1 (by decide), ?_⟩
    refine (spells_field_append hbeginLt).mpr ⟨(h.read_value _).symm, ?_⟩
    exact (hbegin.spells_iff hprivLt).mpr ⟨rfl, trivial⟩
  | false =>
    obtain ⟨s, hs⟩ : ∃ s : SideinfoState, s =
      { ptr := (madBitRead mem (madBitRead mem ptr 9).2 (privBitlen false nch)).2
        si := { si with
          mainDataBegin := (madBitRead mem ptr 9).1
          privateBits := (madBitRead mem (madBitRead mem ptr 9).2 (privBitlen false nch)).1 }
        dataBitlen := 0
        result := .none } := ⟨_, rfl⟩
    have hat : InByte mem s.ptr (pos + 9 + privBitlen false nch) := by
      rw [hs]
      exact hpriv
    have hstart : sideinfoStart mem ptr nch false si =
        (List.range nch).foldl (readScfsiChannel mem) s := by
      rw [hs]
      rfl
    obtain ⟨hresult, hlength, hmain, hprivate, -⟩ := readScfsis_keeps mem (List.range nch) s
    obtain ⟨hspells, hscfsi⟩ := readScfsis_spells List.nodup_range hat
    have hmain' : s.si.mainDataBegin = (madBitRead mem ptr 9).1 := by rw [hs]
    have hprivate' : s.si.privateBits =
        (madBitRead mem (madBitRead mem ptr 9).2 (privBitlen false nch)).1 := by rw [hs]
    rw [hstart]
    refine ⟨hresult.trans (by rw [hs]), hlength.trans (by rw [hs]), ?_, ?_, ?_, ?_⟩
    · rw [hmain, hmain']
      exact hbeginLt
    · rw [hprivate, hprivate']
      exact hprivLt
    · exact fun _ ch hch => hscfsi ch (List.mem_range.mpr hch)
    · rw [startBits, hmain, hprivate, hmain', hprivate']
      refine (spells_field_append hbeginLt).mpr ⟨(h.read_value _).symm, ?_⟩
      exact (hbegin.spells_iff hprivLt).mpr ⟨rfl, hspells⟩

/-- The pointer stands before the channels. -/
theorem sideinfoStart_end {ptr : MadBitptr} (h : AtBit mem ptr pos) (lsf : Bool) (nch : ℕ)
    (garbage si : SideInfo) : InByte mem (sideinfoStart mem ptr nch lsf garbage).ptr
      (pos + (startBits lsf nch si).length) := by
  have hend := sideinfoStart_at h nch lsf garbage
  rw [startBits_length]
  cases lsf
  · rw [if_neg (by decide), ← Nat.add_assoc, ← Nat.add_assoc]
    exact hend
  · rw [if_pos rfl, Nat.add_zero, ← Nat.add_assoc]
    exact hend

/-- The same bits have the same meaning. -/
theorem StartRead.same {nch : ℕ} {t : SideinfoState} (h : StartRead mem lsf nch pos t)
    {si : SideInfo} (hfits : si.FitsFields lsf nch)
    (hwritten : Spells mem pos (startBits lsf nch si)) :
    t.si.mainDataBegin = si.mainDataBegin ∧ t.si.privateBits = si.privateBits ∧
      (lsf = false → ∀ ch < nch, t.si.scfsi ch = si.scfsi ch) := by
  obtain ⟨hbegin, hrest⟩ := (spells_field_append hfits.mainDataBegin).mp hwritten
  obtain ⟨hpriv, hselect⟩ := (spells_field_append hfits.privateBits).mp hrest
  obtain ⟨hbegin', hrest'⟩ := (spells_field_append h.mainDataBegin).mp h.spells
  obtain ⟨hpriv', hselect'⟩ := (spells_field_append h.privateBits).mp hrest'
  refine ⟨hbegin'.symm.trans hbegin, hpriv'.symm.trans hpriv, ?_⟩
  intro hmpeg1 ch hch
  rw [if_neg (by rw [hmpeg1]; decide)] at hselect hselect'
  exact selectBits_inj hselect' hselect
    (fun ch hch => h.scfsi hmpeg1 ch (List.mem_range.mp hch))
    (fun ch hch => hfits.scfsi hmpeg1 ch (List.mem_range.mp hch)) ch (List.mem_range.mpr hch)

/-- `scfsi` says nothing in LSF. -/
theorem Channel.FitsFields.of_scfsi {scfsi scfsi' : ℕ} {channel : Channel}
    (h : channel.FitsFields lsf scfsi) (hsame : lsf = false → scfsi' = scfsi) :
    channel.FitsFields lsf scfsi' where
  blockType := h.blockType
  flags := h.flags
  tableSelect := h.tableSelect
  regions := h.regions
  window := h.window
  scfsi_eq hmpeg1 hshort := (hsame hmpeg1).trans (h.scfsi_eq hmpeg1 hshort)
  part23Length := h.part23Length
  bigValues := h.bigValues
  globalGain := h.globalGain
  scalefacCompress := h.scalefacCompress

end

/-! ### The side information -/

theorem iiiSideinfo_channels (mem : Mem) (ptr : MadBitptr) (nch : ℕ) (lsf : Bool)
    (garbage : SideInfo) : iiiSideinfo mem ptr nch lsf garbage =
      (frameChannels lsf nch).foldl (fun s p => readGranuleChannel mem lsf s p.1 p.2)
        (sideinfoStart mem ptr nch lsf garbage) :=
  readGranules_eq mem lsf nch _

/-- What has been written is read, on any garbage. -/
theorem iiiSideinfo_written {mem : Mem} {ptr : MadBitptr} {pos : ℕ} (h : AtBit mem ptr pos)
    {lsf : Bool} {nch : ℕ} (garbage : SideInfo) {si : SideInfo} (hfits : si.FitsFields lsf nch)
    (hwritten : Spells mem pos (sideinfoBits lsf nch si)) :
    let r := iiiSideinfo mem ptr nch lsf garbage
    r.result = .none ∧ si.Says lsf nch r.si ∧
      r.dataBitlen = ((frameChannels lsf nch).map fun p => (si.gr p.1 p.2).part23Length).sum := by
  have hread := sideinfoStart_read h lsf nch garbage
  have hend := sideinfoStart_end h lsf nch garbage si
  rw [iiiSideinfo_channels]
  obtain ⟨start, hstart⟩ : ∃ start, start = sideinfoStart mem ptr nch lsf garbage := ⟨_, rfl⟩
  rw [← hstart] at hread hend ⊢
  obtain ⟨hfirst, hchannels⟩ := spells_append.mp hwritten
  obtain ⟨hbegin, hpriv, hscfsi⟩ := hread.same hfits hfirst
  have hfits' : ∀ p ∈ frameChannels lsf nch,
      (si.gr p.1 p.2).FitsFields lsf (start.si.scfsi p.2) := by
    intro p hp
    exact (hfits.channels p hp).of_scfsi fun hmpeg1 => hscfsi hmpeg1 p.2 (mem_frameChannels.mp hp).2
  obtain ⟨hresult, hsame, hlength⟩ := readChannels_written (frameChannels_nodup lsf nch) hend hfits'
    hchannels
  have hkeeps := (readChannels_keeps mem lsf (frameChannels lsf nch) start).1
  refine ⟨hresult.trans hread.result, ⟨?_, ?_, ?_, hsame⟩, ?_⟩
  · rw [hkeeps.mainDataBegin, hbegin]
  · rw [hkeeps.privateBits, hpriv]
  · intro hmpeg1 ch hch
    rw [hkeeps.scfsi, hscfsi hmpeg1 ch hch]
  · rw [hlength, hread.dataBitlen, Nat.zero_add]

/-- What is read without an error is what would be written. -/
theorem iiiSideinfo_spells {mem : Mem} {ptr : MadBitptr} {pos : ℕ} (h : AtBit mem ptr pos)
    {lsf : Bool} {nch : ℕ} {garbage : SideInfo}
    (hok : (iiiSideinfo mem ptr nch lsf garbage).result = .none) :
    let r := iiiSideinfo mem ptr nch lsf garbage
    r.si.FitsFields lsf nch ∧ Spells mem pos (sideinfoBits lsf nch r.si) := by
  have hread := sideinfoStart_read h lsf nch garbage
  have hend := sideinfoStart_end h lsf nch garbage (sideinfoStart mem ptr nch lsf garbage).si
  rw [iiiSideinfo_channels] at hok ⊢
  obtain ⟨start, hstart⟩ : ∃ start, start = sideinfoStart mem ptr nch lsf garbage := ⟨_, rfl⟩
  rw [← hstart] at hok hread hend ⊢
  have hkeeps := (readChannels_keeps mem lsf (frameChannels lsf nch) start).1
  obtain ⟨hspells, hfits⟩ := readChannels_spells (frameChannels_nodup lsf nch) hend hok
  have hsame : startBits lsf nch ((frameChannels lsf nch).foldl
      (fun s p => readGranuleChannel mem lsf s p.1 p.2) start).si = startBits lsf nch start.si := by
    rw [startBits, startBits, hkeeps.mainDataBegin, hkeeps.privateBits, hkeeps.scfsi]
  refine ⟨⟨?_, ?_, ?_, ?_⟩, ?_⟩
  · rw [hkeeps.mainDataBegin]
    exact hread.mainDataBegin
  · rw [hkeeps.privateBits]
    exact hread.privateBits
  · rw [hkeeps.scfsi]
    exact hread.scfsi
  · rw [hkeeps.scfsi]
    exact hfits
  · rw [sideinfoBits, hsame]
    exact spells_append.mpr ⟨hread.spells, hspells⟩

/-- **The side information and its bits say the same.**  From the bits of any side information that
fits its fields `III_sideinfo` gets it back without an error, on any garbage.  And what it reads
without an error fits its fields and stands there in its bits. -/
theorem sideinfo_roundTrip {mem : Mem} {ptr : MadBitptr} {pos : ℕ} (h : AtBit mem ptr pos)
    (lsf : Bool) (nch : ℕ) (garbage : SideInfo) :
    let r := iiiSideinfo mem ptr nch lsf garbage
    (∀ si : SideInfo, si.FitsFields lsf nch → Spells mem pos (sideinfoBits lsf nch si) →
      r.result = .none ∧ si.Says lsf nch r.si ∧
        r.dataBitlen = ((frameChannels lsf nch).map fun p => (si.gr p.1 p.2).part23Length).sum) ∧
    (r.result = .none →
      r.si.FitsFields lsf nch ∧ Spells mem pos (sideinfoBits lsf nch r.si)) :=
  ⟨fun _ hfits hwritten => iiiSideinfo_written h garbage hfits hwritten,
    fun hok => iiiSideinfo_spells h hok⟩

/-- A channel of long blocks, and one with mixed short blocks behind it -/
def longThenMixed : SideInfo where
  mainDataBegin := 300
  privateBits := 9
  gr := fun gr _ =>
    if gr = 0 then
      { part23Length := 700, bigValues := 90, globalGain := 170, scalefacCompress := 11, flags := 5
        tableSelect := fun i => 7 + i, region0Count := 6, region1Count := 5 }
    else
      { part23Length := 650, bigValues := 70, globalGain := 180, scalefacCompress := 3, flags := 10
        blockType := 2, tableSelect := fun i => 24 + i, subblockGain := fun w => w, region0Count := 7
        region1Count := 36 }

theorem longThenMixed_fits : longThenMixed.FitsFields false 1 := by
  refine ⟨by decide, by decide, fun _ => by decide, ?_⟩
  have hall : frameChannels false 1 = [(0, 0), (1, 0)] := by decide
  rw [hall]
  intro p hp
  rcases List.mem_pair.mp hp with rfl | rfl
  · exact ⟨⟨by decide, by decide, by decide, by decide, by decide, by decide⟩, by decide, by decide,
      by decide, by decide⟩
  · exact ⟨⟨by decide, by decide, by decide, by decide, by decide, by decide⟩, by decide, by decide,
      by decide, by decide⟩

theorem sideinfo_roundTrip_mono :
    let bits := sideinfoBits false 1 longThenMixed
    let r := iiiSideinfo (pack bits) (madBitInit 0) 1 false {}
    r.result = .none ∧ longThenMixed.Says false 1 r.si ∧ r.dataBitlen = 1350 := by
  intro bits r
  have hall := (sideinfo_roundTrip (atBit_init (pack bits) 0) false 1 {}).1 longThenMixed
    longThenMixed_fits (spells_pack bits)
  exact ⟨hall.1, hall.2.1, hall.2.2.trans (by decide)⟩

end Mp3Decoder
