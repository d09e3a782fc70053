import Mp3Decoder.Mad.ScalefactorsAgree

/-!
# Huffman decoding over different garbage

The code words are decoded alike from channels that agree on what has been set: no band is in the
third region of a switched window.  All lines have been set where no error is reported.
-/

namespace Mp3Decoder

theorem bandOf_le (widths : List ℕ) (line : ℕ) : bandOf widths line ≤ widths.length := by
  induction widths generalizing line with
  | nil => exact Nat.le_refl 0
  | cons width widths ih =>
    have hrest := ih (line - width)
    rw [bandOf, List.length_cons]
    split_ifs <;> omega

theorem bandOf_lt {widths : List ℕ} {line : ℕ} (h : line < widths.sum) :
    bandOf widths line < widths.length := by
  induction widths generalizing line with
  | nil => exact absurd h (Nat.not_lt_zero line)
  | cons width widths ih =>
    rw [List.sum_cons] at h
    rw [bandOf, List.length_cons]
    by_cases hin : line < width
    · rw [if_pos hin]
      omega
    · rw [if_neg hin]
      have hrest : bandOf widths (line - width) < widths.length := ih (by omega)
      omega

/-! ### The reference -/

section
variable {channel channel' : Channel} (hinfo : channel.SameInfo channel')
include hinfo

theorem regionOf_agree (band : ℕ) : regionOf channel band = regionOf channel' band := by
  rw [regionOf, regionOf, hinfo.region0Count, hinfo.region1Count]

/-- The table of a region is read only where it has been set. -/
theorem tableSelect_agree (haccepted : channel.Accepted) {band : ℕ} (hband : band ≤ 39) :
    channel.tableSelect (regionOf channel band) = channel'.tableSelect (regionOf channel' band) := by
  rw [← regionOf_agree hinfo]
  have hregion : regionOf channel band < 2 ∨
      regionOf channel band = 2 ∧ channel.blockType = 0 := by
    rw [regionOf]
    by_cases htype : channel.blockType = 0
    · split_ifs <;> omega
    · obtain ⟨hregion0, -, hregion1⟩ := haccepted.switched htype
      split_ifs <;> omega
  rcases hregion with hlow | ⟨hlast, htype⟩
  · exact hinfo.tableSelect _ hlow
  · rw [hlast]
    exact hinfo.region2 htype

theorem pairs_agree (haccepted : channel.Accepted) (tables : HuffTables) (mem : Mem)
    {widths : List ℕ} (hlength : widths.length ≤ 39) (last n : ℕ) (d : BitDecoder) :
    BitDecoder.pairs tables mem channel widths last n d =
      BitDecoder.pairs tables mem channel' widths last n d := by
  induction n generalizing d with
  | zero => rfl
  | succ n ih =>
    have hband : bandOf widths d.values.length ≤ 39 :=
      Nat.le_trans (bandOf_le widths d.values.length) hlength
    simp only [BitDecoder.pairs, tableSelect_agree hinfo haccepted hband, ih]

theorem decode_agree (haccepted : channel.Accepted) (tables : HuffTables) (mem : Mem)
    {widths : List ℕ} (hlength : widths.length ≤ 39) (start last : ℕ) :
    BitDecoder.decode tables mem channel widths start last =
      BitDecoder.decode tables mem channel' widths start last := by
  simp only [BitDecoder.decode, hinfo.tableSelect 0 (by omega), ← hinfo.bigValues, ← hinfo.flags,
    pairs_agree hinfo haccepted tables mem hlength]

end

/-! ### The code -/

/-- A pointer is a cursor, whatever it has read. -/
theorem exists_cursor {mem : Mem} {ptr : MainPtr} {pos : ℕ} (h : AtBit mem ptr.bits pos) (n : ℕ) :
    ∃ hi, n ≤ hi ∧ Cursor mem 0 hi ptr pos := by
  refine ⟨n + 8 * ptr.reads.sum, by omega, h, Nat.zero_le pos, by omega, ?_⟩
  intro a ha
  have hsum := List.le_sum_of_mem ha
  exact ⟨by omega, by omega⟩

theorem huffdecodePart_bits (requantize : ℕ → ℤ → ℤ) (tables : HuffTables) (mem : Mem)
    (ptr : MainPtr) (xr : ℕ → ℤ) (channel : Channel) (widths : List ℕ) (bitsLeft : ℤ)
    (exponents : ℕ → ℤ) :
    (huffdecodePart requantize tables mem ptr xr channel widths bitsLeft exponents).ptr.bits =
      madBitSkip mem ptr.bits bitsLeft.toNat := by
  rw [huffdecodePart]
  split_ifs
  · rfl
  · rfl

/-- **`III_huffdecode`** from channels and arrays that agree as far as they have been set. -/
theorem iiiHuffdecode_agree (requantize : ℕ → ℤ → ℤ) {mem : Mem} {ptr ptr' : MainPtr} {pos : ℕ}
    (hpos : AtBit mem ptr.bits pos) (hptr : ptr.bits = ptr'.bits) {channel channel' : Channel}
    {count : ℕ} (h : channel.SameExponents count channel') (haccepted : channel.Accepted)
    {widths : List ℕ} (hw : BandWidths widths) (hlength : widths.length ≤ 39)
    (hbands : exponentBands channel widths = widths.length) (hcount : widths.length ≤ count)
    (part2Length : ℤ) (xr xr' exponents exponents' : ℕ → ℤ) :
    let r := iiiHuffdecode requantize mem ptr xr channel widths part2Length exponents
    let r' := iiiHuffdecode requantize mem ptr' xr' channel' widths part2Length exponents'
    r.error = r'.error ∧ r.ptr.bits = r'.ptr.bits ∧ (∃ pos', AtBit mem r.ptr.bits pos') ∧
      (r.error = .none → AgreeBelow 576 r.xr r'.xr) := by
  simp only [iiiHuffdecode, huffdecodeWith, ← h.info.part23Length]
  by_cases hneg : (channel.part23Length : ℤ) - part2Length < 0
  · simp only [if_pos hneg]
    exact ⟨trivial, hptr, ⟨pos, hpos⟩, fun hok => absurd hok (by decide)⟩
  · simp only [if_neg hneg]
    obtain ⟨bitsLeft, hbits⟩ : ∃ bitsLeft : ℕ, (channel.part23Length : ℤ) - part2Length = bitsLeft :=
      ⟨((channel.part23Length : ℤ) - part2Length).toNat, by omega⟩
    rw [hbits]
    have haccepted' : channel'.Accepted := by
      obtain ⟨hbig, htype, hregions, hswitched⟩ := haccepted
      rw [h.info.bigValues] at hbig
      rw [h.info.blockType] at htype
      rw [h.info.blockType, h.info.region0Count, h.info.region1Count] at hregions
      rw [Channel.isSwitched, h.info.blockType, h.info.region0Count, h.info.region1Count]
        at hswitched
      exact ⟨hbig, htype, hregions, hswitched⟩
    obtain ⟨hi, hle, hcursor⟩ := exists_cursor hpos (pos + bitsLeft + 63)
    obtain ⟨hi', hle', hcursor'⟩ := exists_cursor (hptr ▸ hpos : AtBit mem ptr'.bits pos)
      (pos + bitsLeft + 63)
    obtain ⟨herror, hxr⟩ := huffdecodePart_follows requantize madHuffTables hcursor xr
      haccepted.bigValues_le haccepted.regionCounts hw bitsLeft
      (iiiExponents channel widths exponents) hle
    obtain ⟨herror', hxr'⟩ := huffdecodePart_follows requantize madHuffTables hcursor' xr'
      haccepted'.bigValues_le haccepted'.regionCounts hw bitsLeft
      (iiiExponents channel' widths exponents') hle'
    rw [← decode_agree h.info haccepted madHuffTables mem hlength] at herror' hxr'
    rw [huffdecodePart_bits, huffdecodePart_bits, hptr, herror, herror', hxr, hxr']
    refine ⟨rfl, rfl, ⟨_, (hptr ▸ hpos : AtBit mem ptr'.bits pos).skip _⟩, ?_⟩
    intro hok i hi
    have hexponents := iiiExponents_agree h widths (by omega) exponents exponents'
    rw [hbands] at hexponents
    rw [spectrum, spectrum, restLines, restLines, if_pos ⟨hok, hi⟩, if_pos ⟨hok, hi⟩,
      hexponents (bandOf widths i) (bandOf_lt (by rw [hw.sum_eq]; exact hi))]

end Mp3Decoder
