import Mp3Decoder.Mad.HuffAgree
import Mp3Decoder.Mad.Layer3
import Mp3Decoder.Mad.Samples

/-!
# The decoder does not look back

Everything that reads through a bit pointer reads at the byte it stands at or behind, so that two
memories that are the same from there on are not told apart: `III_sideinfo` and `III_decode` give
the same from both.  Each reader has a lemma that its results are `_same`, and one that its pointer
has not gone back.
-/

namespace Mp3Decoder

open Segment

/-- Two memories that are the same from address `lo` on. -/
def SameFrom (lo : ℕ) (mem mem' : Mem) : Prop := ∀ a, lo ≤ a → mem a = mem' a

/-- A loop whose rounds are the same, and keep what makes them so. -/
theorem foldl_same {σ ι : Type} {P : σ → Prop} {step step' : σ → ι → σ}
    (hstep : ∀ s i, P s → step s i = step' s i ∧ P (step s i)) (is : List ι) {s : σ} (hs : P s) :
    is.foldl step s = is.foldl step' s ∧ P (is.foldl step s) := by
  induction is generalizing s with
  | nil => exact ⟨rfl, hs⟩
  | cons i is ih =>
    obtain ⟨heq, hkeep⟩ := hstep s i hs
    rw [List.foldl_cons, List.foldl_cons, ← heq]
    exact ih hkeep

/-! ### Bits -/

theorem le_madBitRead_byte (mem : Mem) (p : MadBitptr) (len : ℕ) :
    p.byte ≤ (madBitRead mem p len).2.byte := by
  simp only [madBitRead]
  split_ifs <;> simp only <;> omega

variable {lo : ℕ} {mem mem' : Mem}

theorem le_read (mem : Mem) {p : MadBitptr} (hp : lo ≤ p.byte) (len : ℕ) :
    lo ≤ (madBitRead mem p len).2.byte :=
  Nat.le_trans hp (le_madBitRead_byte mem p len)

theorem MainPtr.le_read (mem : Mem) {ptr : MainPtr} (hp : lo ≤ ptr.bits.byte) (len : ℕ) :
    lo ≤ (ptr.read mem len).2.bits.byte :=
  Mp3Decoder.le_read mem hp len

section
variable (h : SameFrom lo mem mem')
include h

theorem moreBytes_same (n : ℕ) : ∀ (value byte : ℕ), lo ≤ byte →
    moreBytes mem value byte n = moreBytes mem' value byte n := by
  induction n with
  | zero =>
    intro value byte _
    rfl
  | succ n ih =>
    intro value byte hbyte
    rw [moreBytes, moreBytes, h byte hbyte]
    exact ih _ _ (by omega)

theorem madBitRead_same {p : MadBitptr} (hp : lo ≤ p.byte) (len : ℕ) :
    madBitRead mem p len = madBitRead mem' p len := by
  have hbyte := h p.byte hp
  have hlast := h (p.byte + 1 + (len - p.left) / 8) (by omega)
  have hmore := fun value n => moreBytes_same h n value (p.byte + 1) (by omega)
  simp only [madBitRead, hbyte, hlast, hmore]

theorem madBitSkip_same {p : MadBitptr} (hp : lo ≤ p.byte) (len : ℕ) :
    madBitSkip mem p len = madBitSkip mem' p len := by
  have hbyte := h (p.byte + len / 8) (by omega)
  have hnext := h (p.byte + len / 8 + 1) (by omega)
  simp only [madBitSkip]
  split_ifs
  · rw [hnext]
  · rfl
  · rw [hbyte]
  · rfl

theorem MainPtr.read_same {ptr : MainPtr} (hp : lo ≤ ptr.bits.byte) (len : ℕ) :
    ptr.read mem len = ptr.read mem' len := by
  simp only [MainPtr.read, madBitRead_same h hp]

theorem MainPtr.skip_same {ptr : MainPtr} (hp : lo ≤ ptr.bits.byte) (len : ℕ) :
    ptr.skip mem len = ptr.skip mem' len := by
  simp only [MainPtr.skip, madBitSkipBytes, madBitSkip_same h hp]

end

/-! ### Side information -/

theorem le_readWindow (mem : Mem) (lsf : Bool) (scfsi : ℕ) (channel : Channel) {ptr : MadBitptr}
    (hp : lo ≤ ptr.byte) (result : MadError) :
    lo ≤ (readWindow mem lsf scfsi channel ptr result).2.1.byte := by
  rw [readWindow]
  exact le_read _ (le_read _ (le_read _ (le_read _ (le_read _ (le_read _ (le_read _ hp _) _) _) _)
    _) _) _

theorem le_readRegions (mem : Mem) (channel : Channel) {ptr : MadBitptr} (hp : lo ≤ ptr.byte) :
    lo ≤ (readRegions mem channel ptr).2.byte := by
  rw [readRegions]
  exact le_read _ (le_read _ (le_read _ (le_read _ (le_read _ hp _) _) _) _) _

theorem le_readChannel (mem : Mem) (lsf : Bool) (scfsi : ℕ) (channel : Channel) {ptr : MadBitptr}
    (hp : lo ≤ ptr.byte) (result : MadError) :
    lo ≤ (readChannel mem lsf scfsi channel ptr result).2.1.byte := by
  simp only [readChannel]
  apply le_read
  generalize (if lsf = true then 9 else 4) = compressLength
  have hswitching := le_read mem (le_read mem (le_read mem (le_read mem (le_read mem hp 12) 9) 8)
    compressLength) 1
  split
  · exact le_readWindow mem _ _ _ hswitching _
  · dsimp only
    exact le_readRegions mem _ hswitching

section
variable (h : SameFrom lo mem mem')
include h

theorem readWindow_same (lsf : Bool) (scfsi : ℕ) (channel : Channel) {ptr : MadBitptr}
    (hp : lo ≤ ptr.byte) (result : MadError) :
    readWindow mem lsf scfsi channel ptr result = readWindow mem' lsf scfsi channel ptr result := by
  have h1 := le_read mem' hp 2
  have h2 := le_read mem' h1 1
  have h3 := le_read mem' h2 5
  have h4 := le_read mem' h3 5
  have h5 := le_read mem' h4 3
  have h6 := le_read mem' h5 3
  simp (disch := assumption) only [readWindow, madBitRead_same h]

theorem readRegions_same (channel : Channel) {ptr : MadBitptr} (hp : lo ≤ ptr.byte) :
    readRegions mem channel ptr = readRegions mem' channel ptr := by
  have h1 := le_read mem' hp 5
  have h2 := le_read mem' h1 5
  have h3 := le_read mem' h2 5
  have h4 := le_read mem' h3 4
  simp (disch := assumption) only [readRegions, madBitRead_same h]

theorem readChannel_same (lsf : Bool) (scfsi : ℕ) (channel : Channel) {ptr : MadBitptr}
    (hp : lo ≤ ptr.byte) (result : MadError) :
    readChannel mem lsf scfsi channel ptr result = readChannel mem' lsf scfsi channel ptr result := by
  have h1 := le_read mem' hp 12
  have h2 := le_read mem' h1 9
  have h3 := le_read mem' h2 8
  have h4 := le_read mem' h3 (if lsf then 9 else 4)
  have h5 := le_read mem' h4 1
  simp (disch := assumption) only [readChannel, madBitRead_same h, readWindow_same h,
    readRegions_same h]
  generalize (if lsf = true then 9 else 4) = compressLength at *
  rw [madBitRead_same h]
  split
  · exact le_readWindow mem' _ _ _ h5 _
  · dsimp only
    exact le_readRegions mem' _ h5

theorem readGranuleChannel_same (lsf : Bool) (gr : ℕ) (s : SideinfoState) (ch : ℕ)
    (hs : lo ≤ s.ptr.byte) :
    readGranuleChannel mem lsf s gr ch = readGranuleChannel mem' lsf s gr ch ∧
      lo ≤ (readGranuleChannel mem lsf s gr ch).ptr.byte := by
  refine ⟨?_, le_readChannel mem lsf _ _ hs _⟩
  rw [readGranuleChannel, readGranuleChannel, readChannel_same h _ _ _ hs]

theorem readGranule_same (lsf : Bool) (nch : ℕ) (s : SideinfoState) (gr : ℕ)
    (hs : lo ≤ s.ptr.byte) :
    readGranule mem lsf nch s gr = readGranule mem' lsf nch s gr ∧
      lo ≤ (readGranule mem lsf nch s gr).ptr.byte :=
  foldl_same (fun s ch hs => readGranuleChannel_same h lsf gr s ch hs) (List.range nch) hs

theorem readScfsi_same (nch : ℕ) {s : SideinfoState} (hs : lo ≤ s.ptr.byte) :
    readScfsi mem nch s = readScfsi mem' nch s ∧ lo ≤ (readScfsi mem nch s).ptr.byte := by
  refine foldl_same (fun s ch hs => ⟨?_, le_read mem hs 4⟩) (List.range nch) hs
  rw [readScfsiChannel, readScfsiChannel, madBitRead_same h hs]

theorem sideinfoStart_same {ptr : MadBitptr} (hp : lo ≤ ptr.byte) (nch : ℕ) (lsf : Bool)
    (si : SideInfo) : sideinfoStart mem ptr nch lsf si = sideinfoStart mem' ptr nch lsf si ∧
      lo ≤ (sideinfoStart mem ptr nch lsf si).ptr.byte := by
  have h1 := le_read mem' hp (if lsf then 8 else 9)
  have h2 := le_read mem' h1 (privBitlen lsf nch)
  simp (disch := assumption) only [sideinfoStart, madBitRead_same h]
  cases lsf with
  | true => exact ⟨rfl, h2⟩
  | false => exact readScfsi_same h nch h2

/-- **`III_sideinfo`** -/
theorem iiiSideinfo_same {ptr : MadBitptr} (hp : lo ≤ ptr.byte) (nch : ℕ) (lsf : Bool)
    (si : SideInfo) : iiiSideinfo mem ptr nch lsf si = iiiSideinfo mem' ptr nch lsf si ∧
      lo ≤ (iiiSideinfo mem ptr nch lsf si).ptr.byte := by
  obtain ⟨hstart, hle⟩ := sideinfoStart_same h hp nch lsf si
  rw [iiiSideinfo, iiiSideinfo, ← hstart]
  exact foldl_same (fun s gr hs => readGranule_same h lsf nch s gr hs) _ hle

end

/-! ### Scalefactors -/

theorem le_readScalefacs (mem : Mem) (slen n sfbi : ℕ) (scalefac : ℕ → ℕ) {ptr : MainPtr}
    (hp : lo ≤ ptr.bits.byte) :
    lo ≤ (readScalefacs mem slen n sfbi scalefac ptr).2.bits.byte := by
  induction n generalizing sfbi scalefac ptr with
  | zero => exact hp
  | succ n ih => exact ih _ _ (ptr.le_read mem hp slen)

theorem le_readScfsiBand (mem : Mem) (gr0ch : ℕ → ℕ) (scfsi bit slen first last : ℕ)
    (scalefac : ℕ → ℕ) {ptr : MainPtr} (hp : lo ≤ ptr.bits.byte) :
    lo ≤ (readScfsiBand mem gr0ch scfsi bit slen first last scalefac ptr).2.bits.byte := by
  rw [readScfsiBand]
  split
  · exact hp
  · exact le_readScalefacs mem _ _ _ _ hp

theorem le_iiiScalefactors (mem : Mem) {ptr : MainPtr} (hp : lo ≤ ptr.bits.byte)
    (channel gr0ch : Channel) (scfsi : ℕ) :
    lo ≤ (iiiScalefactors mem ptr channel gr0ch scfsi).2.bits.byte := by
  rw [iiiScalefactors]
  split
  · exact le_readScalefacs mem _ _ _ _ (le_readScalefacs mem _ _ _ _ hp)
  · have h2 := fun scalefac =>
      le_readScfsiBand mem gr0ch.scalefac scfsi 0x4 (slen1 channel) 6 11 scalefac
        (le_readScfsiBand mem gr0ch.scalefac scfsi 0x8 (slen1 channel) 0 6 channel.scalefac hp)
    exact le_readScfsiBand mem _ _ _ _ _ _ _ (le_readScfsiBand mem _ _ _ _ _ _ _ (h2 _))

section
variable (h : SameFrom lo mem mem')
include h

theorem readScalefacs_same (slen n sfbi : ℕ) (scalefac : ℕ → ℕ) {ptr : MainPtr}
    (hp : lo ≤ ptr.bits.byte) :
    readScalefacs mem slen n sfbi scalefac ptr = readScalefacs mem' slen n sfbi scalefac ptr := by
  induction n generalizing sfbi scalefac ptr with
  | zero => rfl
  | succ n ih =>
    rw [readScalefacs, readScalefacs, ptr.read_same h hp]
    exact ih _ _ (ptr.le_read mem' hp slen)

theorem readScfsiBand_same (gr0ch : ℕ → ℕ) (scfsi bit slen first last : ℕ) (scalefac : ℕ → ℕ)
    {ptr : MainPtr} (hp : lo ≤ ptr.bits.byte) :
    readScfsiBand mem gr0ch scfsi bit slen first last scalefac ptr =
      readScfsiBand mem' gr0ch scfsi bit slen first last scalefac ptr := by
  rw [readScfsiBand, readScfsiBand, readScalefacs_same h _ _ _ _ hp]

theorem iiiScalefactors_same {ptr : MainPtr} (hp : lo ≤ ptr.bits.byte) (channel gr0ch : Channel)
    (scfsi : ℕ) :
    iiiScalefactors mem ptr channel gr0ch scfsi = iiiScalefactors mem' ptr channel gr0ch scfsi := by
  have hshort := le_readScalefacs mem' (slen1 channel) (nsfbShort channel) 0 channel.scalefac hp
  have h1 := le_readScfsiBand mem' gr0ch.scalefac scfsi 0x8 (slen1 channel) 0 6 channel.scalefac hp
  have h2 := fun scalefac =>
    le_readScfsiBand mem' gr0ch.scalefac scfsi 0x4 (slen1 channel) 6 11 scalefac h1
  have h3 := fun scalefac scalefac' =>
    le_readScfsiBand mem' gr0ch.scalefac scfsi 0x2 (slen2 channel) 11 16 scalefac (h2 scalefac')
  rw [iiiScalefactors, iiiScalefactors]
  simp only [readScalefacs_same h _ _ _ _ hp, readScalefacs_same h _ _ _ _ hshort,
    readScfsiBand_same h _ _ _ _ _ _ _ hp, readScfsiBand_same h _ _ _ _ _ _ _ h1,
    readScfsiBand_same h _ _ _ _ _ _ _ (h2 _), readScfsiBand_same h _ _ _ _ _ _ _ (h3 _ _)]

/-- One part of the scalefactors in LSF -/
theorem readLsfPart_same (s : LsfState) (part : ℕ × ℕ) (hs : lo ≤ s.ptr.bits.byte) :
    readLsfPart mem s part = readLsfPart mem' s part ∧ lo ≤ (readLsfPart mem s part).ptr.bits.byte := by
  refine ⟨?_, le_readScalefacs mem _ _ _ _ hs⟩
  rw [readLsfPart, readLsfPart, readScalefacs_same h _ _ _ _ hs]

theorem readIntensityPart_same (s : LsfState) (part : ℕ × ℕ) (hs : lo ≤ s.ptr.bits.byte) :
    readIntensityPart mem s part = readIntensityPart mem' s part ∧
      lo ≤ (readIntensityPart mem s part).ptr.bits.byte := by
  obtain ⟨hsame, hle⟩ := readLsfPart_same h s part hs
  exact ⟨by rw [readIntensityPart, readIntensityPart, hsame], hle⟩

theorem iiiScalefactorsLsf_same {ptr : MainPtr} (hp : lo ≤ ptr.bits.byte) (channel : Channel)
    (gr1ch : Option Channel) (modeExtension : ℕ) :
    iiiScalefactorsLsf mem ptr channel gr1ch modeExtension =
        iiiScalefactorsLsf mem' ptr channel gr1ch modeExtension ∧
      lo ≤ (iiiScalefactorsLsf mem ptr channel gr1ch modeExtension).2.2.bits.byte := by
  simp only [iiiScalefactorsLsf]
  generalize hstart : LsfState.mk 0 channel.scalefac (gr1ch.getD {}).scalefac ptr = start
  have hle : lo ≤ start.ptr.bits.byte := by
    rw [← hstart]
    exact hp
  split
  · obtain ⟨hsame, hend⟩ := foldl_same (readIntensityPart_same h) (lsfParts channel
      (isIntensity modeExtension gr1ch)) hle
    rw [← hsame]
    exact ⟨rfl, hend⟩
  · obtain ⟨hsame, hend⟩ := foldl_same (readLsfPart_same h) (lsfParts channel
      (isIntensity modeExtension gr1ch)) hle
    rw [← hsame]
    exact ⟨rfl, hend⟩

end

/-! ### Code words -/

namespace HuffState

/-- The pointer behind the cache has not gone back. -/
def After (lo : ℕ) (s : HuffState) : Prop := lo ≤ s.peek.bits.byte

theorem After.of_peek {s s' : HuffState} (hs : s.After lo) (hpeek : s'.peek = s.peek) :
    s'.After lo := by
  rw [After, hpeek]
  exact hs

theorem After.refill {s : HuffState} (hs : s.After lo) (mem : Mem) (bits : ℕ) :
    (s.refill mem bits).After lo := s.peek.le_read mem hs bits

theorem plainValue_peek (requantize : ℕ → ℤ → ℤ) (s : HuffState) (value i : ℕ) :
    (s.plainValue requantize value i).peek = s.peek := by
  rw [plainValue]
  split_ifs <;> rfl

theorem quadBand_peek (s : HuffState) (exponents : ℕ → ℤ) : (s.quadBand exponents).peek = s.peek := by
  rw [quadBand]
  split_ifs <;> rfl

theorem quadValue_peek (requantize : ℕ → ℤ → ℤ) (s : HuffState) (value i : ℕ) :
    (s.quadValue requantize value i).peek = s.peek := by
  rw [quadValue]
  split_ifs <;> rfl

theorem nextExponent_peek (s : HuffState) (exponents : ℕ → ℤ) :
    (s.nextExponent exponents).peek = s.peek := by
  rw [nextExponent]
  split_ifs <;> rfl

theorem nextRegion_peek {tables : HuffTables} {s s' : HuffState} {channel : Channel}
    (hnext : s.nextRegion tables channel = some s') : s'.peek = s.peek := by
  simp only [nextRegion] at hnext
  split_ifs at hnext
  · obtain ⟨table, -, rfl⟩ := Option.map_eq_some_iff.mp hnext
    rfl
  · obtain ⟨table, -, rfl⟩ := Option.map_eq_some_iff.mp hnext
    rfl
  · cases hnext
    rfl

section
variable (h : SameFrom lo mem mem') (requantize : ℕ → ℤ → ℤ)
include h

theorem refill_same {s : HuffState} (hs : s.After lo) (bits : ℕ) :
    s.refill mem bits = s.refill mem' bits := by
  rw [refill, refill, s.peek.read_same h hs]

theorem pairValue_same {s : HuffState} (hs : s.After lo) (value i room : ℕ) :
    s.pairValue requantize mem value i room = s.pairValue requantize mem' value i room ∧
      (s.pairValue requantize mem value i room).After lo := by
  rw [pairValue, pairValue]
  split
  · rw [linbitsValue, linbitsValue, refill_same h hs]
    refine ⟨rfl, ?_⟩
    by_cases hroom : s.cachesz % 2 ^ 32 < (s.linbits + room : ℕ)
    · simp only [if_pos hroom]
      exact hs.refill mem' 16
    · simp only [if_neg hroom]
      exact hs
  · exact ⟨rfl, hs.of_peek (plainValue_peek requantize s value i)⟩

theorem pair_same {s : HuffState} (hs : s.After lo) :
    s.pair requantize mem = s.pair requantize mem' ∧ (s.pair requantize mem).After lo := by
  simp only [pair, refill_same h hs]
  generalize hfull : (if s.cachesz < 21 then
    s.refill mem' (((32 - 1 - 21) + (21 - s.cachesz)).toNat / 8 * 8) else s) = full
  have hafter : full.After lo := by
    rw [← hfull]
    split
    · exact hs.refill mem' _
    · exact hs
  generalize full.table.lookup full.bitcache full.cachesz = r
  have hlooked : HuffState.After lo { full with cachesz := r.2 } := hafter
  obtain ⟨hx, hafterX⟩ := pairValue_same h requantize hlooked r.1.x 0 2
  obtain ⟨hy, hafterY⟩ := pairValue_same h requantize hafterX r.1.y 1 1
  rw [← hx, ← hy]
  exact ⟨rfl, hafterY⟩

theorem bigValues_same (tables : HuffTables) (channel : Channel) (exponents : ℕ → ℤ) (n : ℕ)
    {s : HuffState} (hs : s.After lo) :
    s.bigValues requantize tables mem channel exponents n =
        s.bigValues requantize tables mem' channel exponents n ∧
      (s.bigValues requantize tables mem channel exponents n).1.After lo := by
  induction n generalizing s with
  | zero => exact ⟨rfl, hs⟩
  | succ n ih =>
    rw [bigValues, bigValues]
    split
    · generalize hnext : (if s.xrptr = s.sfbound then
        (s.nextRegion tables channel).map (·.nextExponent exponents) else some s) = next
      cases next with
      | none => exact ⟨rfl, hs⟩
      | some s' =>
        have hafter : s'.After lo := by
          split_ifs at hnext
          · obtain ⟨region, hregion, rfl⟩ := Option.map_eq_some_iff.mp hnext
            exact (hs.of_peek (nextRegion_peek hregion)).of_peek (nextExponent_peek region exponents)
          · cases hnext
            exact hs
        obtain ⟨hpair, hdone⟩ := pair_same h requantize hafter
        simp only [← hpair]
        exact ih hdone
    · exact ⟨rfl, hs⟩

theorem quad_same (table : ClumpTable QuadValue 6) (exponents : ℕ → ℤ) {s : HuffState}
    (hs : s.After lo) :
    s.quad requantize mem table exponents = s.quad requantize mem' table exponents ∧
      (s.quad requantize mem table exponents).After lo := by
  rw [quad, quad, refill_same h hs]
  refine ⟨rfl, ?_⟩
  have hfull : (if s.cachesz < 10 then s.refill mem' 16 else s).After lo := by
    split
    · exact hs.refill mem' 16
    · exact hs
  generalize (if s.cachesz < 10 then s.refill mem' 16 else s) = full at hfull
  rw [After]
  simp only [quadValue_peek, quadBand_peek]
  exact hfull

theorem count1_same (table : ClumpTable QuadValue 6) (exponents : ℕ → ℤ) (n : ℕ) {s : HuffState}
    (hs : s.After lo) :
    s.count1 requantize mem table exponents n = s.count1 requantize mem' table exponents n := by
  induction n generalizing s with
  | zero => rfl
  | succ n ih =>
    obtain ⟨hquad, hafter⟩ := quad_same h requantize table exponents hs
    rw [count1, count1, ← hquad, ih hafter]

end

end HuffState

section
variable (h : SameFrom lo mem mem') (requantize : ℕ → ℤ → ℤ)
include h

theorem huffWords_same (tables : HuffTables) (channel : Channel) (exponents : ℕ → ℤ)
    {s : HuffState} (hs : s.After lo) :
    huffWords requantize tables mem channel exponents s =
      huffWords requantize tables mem' channel exponents s := by
  obtain ⟨hbig, hafter⟩ := HuffState.bigValues_same h requantize tables channel exponents
    channel.bigValues hs
  simp only [huffWords, ← hbig, HuffState.count1_same h requantize _ _ _ hafter]

/-- **`III_huffdecode`** -/
theorem iiiHuffdecode_same {ptr : MainPtr} (hp : lo ≤ ptr.bits.byte) (xr : ℕ → ℤ)
    (channel : Channel) (sfbwidth : List ℕ) (part2Length : ℤ) (exponents : ℕ → ℤ) :
    iiiHuffdecode requantize mem ptr xr channel sfbwidth part2Length exponents =
        iiiHuffdecode requantize mem' ptr xr channel sfbwidth part2Length exponents ∧
      lo ≤ (iiiHuffdecode requantize mem ptr xr channel sfbwidth part2Length exponents).ptr.bits.byte := by
  simp only [iiiHuffdecode, huffdecodeWith]
  split
  · exact ⟨rfl, hp⟩
  · obtain ⟨bitsLeft, hbits⟩ : ∃ bitsLeft, bitsLeft = (channel.part23Length : ℤ) - part2Length :=
      ⟨_, rfl⟩
    rw [← hbits]
    refine ⟨?_, ?_⟩
    · have hpeek : lo ≤ (MainPtr.mk ptr.bits (ptr.skip mem' bitsLeft.toNat).reads).bits.byte := hp
      have hstart : ∀ table linbits, huffStart mem ⟨ptr.bits, (ptr.skip mem' bitsLeft.toNat).reads⟩
          bitsLeft xr channel sfbwidth (iiiExponents channel sfbwidth exponents) table linbits =
          huffStart mem' ⟨ptr.bits, (ptr.skip mem' bitsLeft.toNat).reads⟩
          bitsLeft xr channel sfbwidth (iiiExponents channel sfbwidth exponents) table linbits := by
        intro table linbits
        simp only [huffStart, MainPtr.read_same h hpeek]
      have hafter : ∀ table linbits,
          (huffStart mem' ⟨ptr.bits, (ptr.skip mem' bitsLeft.toNat).reads⟩
          bitsLeft xr channel sfbwidth (iiiExponents channel sfbwidth exponents) table
            linbits).After lo := by
        intro table linbits
        exact MainPtr.le_read mem' hpeek _
      simp only [huffdecodePart, ptr.skip_same h hp, hstart,
        huffWords_same h requantize _ _ _ (hafter _ _)]
    · rw [huffdecodePart_bits]
      exact Nat.le_trans hp (le_madBitSkip_byte mem ptr.bits _)

/-! ### Main data -/

theorem decodeScalefactors_same (header : MadHeader) {ptr : MainPtr} (hp : lo ≤ ptr.bits.byte)
    (si : SideInfo) (gr ch : ℕ) :
    decodeScalefactors mem header ptr si gr ch = decodeScalefactors mem' header ptr si gr ch ∧
      lo ≤ (decodeScalefactors mem header ptr si gr ch).2.bits.byte := by
  rw [decodeScalefactors, decodeScalefactors]
  split
  · obtain ⟨hsame, hend⟩ := iiiScalefactorsLsf_same h hp (si.gr gr ch) (gr1chOf si ch)
      header.modeExtension
    rw [← hsame]
    exact ⟨rfl, hend⟩
  · rw [← iiiScalefactors_same h hp]
    exact ⟨rfl, le_iiiScalefactors mem hp _ _ _⟩

theorem decodePart_same (header : MadHeader) (stack : Stack) (gr : ℕ) (s : DecodeState) (ch : ℕ)
    (hs : lo ≤ s.ptr.bits.byte) :
    decodePart requantize mem header stack gr s ch =
        decodePart requantize mem' header stack gr s ch ∧
      lo ≤ (decodePart requantize mem header stack gr s ch).ptr.bits.byte := by
  rw [decodePart, decodePart]
  split
  · exact ⟨rfl, hs⟩
  · obtain ⟨hscale, hafter⟩ := decodeScalefactors_same h header hs s.si gr ch
    simp only [← hscale]
    obtain ⟨hsame, hend⟩ := iiiHuffdecode_same h requantize hafter (stack.xr gr ch)
      ((decodeScalefactors mem header s.ptr s.si gr ch).1.gr gr ch)
      (sfbwidthOf header (s.si.gr gr ch)) (madBitLength s.ptr.bits
        (decodeScalefactors mem header s.ptr s.si gr ch).2.bits) (stack.exponents gr ch)
    rw [← hsame]
    exact ⟨rfl, hend⟩

theorem decodeGranule_same (header : MadHeader) (stack : Stack) (nch : ℕ) (s : DecodeState)
    (gr : ℕ) (hs : lo ≤ s.ptr.bits.byte) :
    decodeGranule requantize mem header stack nch s gr =
        decodeGranule requantize mem' header stack nch s gr ∧
      lo ≤ (decodeGranule requantize mem header stack nch s gr).ptr.bits.byte := by
  obtain ⟨hsame, hend⟩ := foldl_same (fun s ch hs =>
    decodePart_same h requantize header stack gr s ch hs) (List.range nch) hs
  simp only [decodeGranule, ← hsame]
  split
  · exact ⟨trivial, hend⟩
  · exact ⟨trivial, hend⟩

theorem decodeGranuleSamples_same (header : MadHeader) (stack : Stack) (samples : SampleStack)
    (nch : ℕ) (s : FrameDecoding) (gr : ℕ) (hs : lo ≤ s.decode.ptr.bits.byte) :
    decodeGranuleSamples requantize mem header stack samples nch s gr =
        decodeGranuleSamples requantize mem' header stack samples nch s gr ∧
      lo ≤ (decodeGranuleSamples requantize mem header stack samples nch s gr).decode.ptr.bits.byte := by
  obtain ⟨hsame, hend⟩ := decodeGranule_same h requantize header stack nch s.decode gr hs
  simp only [decodeGranuleSamples, ← hsame]
  split
  · exact ⟨trivial, hend⟩
  · exact ⟨trivial, hend⟩

/-- **`III_decode`** -/
theorem iiiDecodeFrame_same {ptr : MadBitptr} (hp : lo ≤ ptr.byte) (header : MadHeader)
    (si : SideInfo) (nch : ℕ) (stack : Stack) (samples : SampleStack) (frame : FrameSamples) :
    iiiDecodeFrame requantize mem ptr header si nch stack samples frame =
      iiiDecodeFrame requantize mem' ptr header si nch stack samples frame :=
  (foldl_same (fun s gr hs => decodeGranuleSamples_same h requantize header stack samples nch s gr hs)
    (List.range (ngrOf header)) hp).1

end

/-! ### The layer -/

section
variable (h : SameFrom lo mem mem')
include h

theorem memcpy_same (dst : Mem) (dest : ℕ) {start : ℕ} (hstart : lo ≤ start) (len : ℕ) :
    memcpy dst dest mem start len = memcpy dst dest mem' start len := by
  funext i
  rw [memcpy, memcpy, h (start + (i - dest)) (by omega)]

theorem peekMainDataBegin_same {nextFrame : ℕ} (hnext : lo ≤ nextFrame) :
    peekMainDataBegin mem nextFrame = peekMainDataBegin mem' nextFrame := by
  have h0 : lo ≤ (madBitInit nextFrame).byte := hnext
  have h1 := le_read mem' h0 32
  have h2 : lo ≤ (madBitSkip mem' (madBitRead mem' (madBitInit nextFrame) 32).2 16).byte :=
    Nat.le_trans h1 (le_madBitSkip_byte mem' _ 16)
  simp (disch := assumption) only [peekMainDataBegin, madBitRead_same h, madBitSkip_same h]
  split
  · rw [madBitRead_same h]
    split
    · exact h2
    · exact h1
  · rfl

theorem findMainData_same {stream : MadStream} (hptr : lo ≤ madBitNextbyte stream.ptr)
    (mainDataBegin mdLen : ℕ) (error : MadError) :
    findMainData mem stream mainDataBegin mdLen error =
      findMainData mem' stream mainDataBegin mdLen error := by
  simp only [findMainData, memcpy_same h _ _ hptr]

theorem preloadMainData_same {stream : MadStream} {frameFree : ℕ}
    (hnext : lo ≤ stream.nextFrame - frameFree) (mainDataBegin nextMdBegin mdLen : ℕ) :
    preloadMainData mem stream mainDataBegin nextMdBegin mdLen frameFree =
      preloadMainData mem' stream mainDataBegin nextMdBegin mdLen frameFree := by
  rw [preloadMainData, preloadMainData]
  split
  · rw [memcpy_same h]
    omega
  · have hkept : ∀ kept : MadStream, kept.nextFrame = stream.nextFrame →
        memcpy kept.mainData kept.mdLen mem (kept.nextFrame - frameFree) frameFree =
          memcpy kept.mainData kept.mdLen mem' (kept.nextFrame - frameFree) frameFree := by
      intro kept heq
      rw [heq]
      exact memcpy_same h _ _ hnext _
    simp only
    rw [hkept]
    split_ifs <;> rfl

end

end Mp3Decoder
