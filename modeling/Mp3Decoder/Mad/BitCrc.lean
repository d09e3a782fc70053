import Mp3Decoder.Lib.Crc
import Mp3Decoder.Mad.FrameLayout

/-!
# The checksum of protected frames

`mad_bit_crc` takes in 32 bits, a byte or a bit at a time, in a register whose upper half is
garbage: the sign of a table entry, and what is moved up and not masked.  The lower half is the
bit-serial remainder.  The checksum of a frame starts in `decode_header` and goes on in
`mad_layer_III`.
-/

namespace Mp3Decoder

open BigEndianBits

/-- `CRC_POLY` -/
def crcPoly : BitVec 16 := 0x8005#16

/-- `n` bits of memory from bit `pos` on -/
def bitsAt (mem : Mem) (pos n : ℕ) : List Bool :=
  (List.range n).map fun i => decide (bitAt mem (pos + i) = 1)

/-- The bit-serial checksum -/
def crc16 (init : UInt16) (bits : List Bool) : UInt16 := ⟨Crc.run crcPoly init.toBitVec bits⟩

theorem bitsAt_add (mem : Mem) (pos m n : ℕ) :
    bitsAt mem pos (m + n) = bitsAt mem pos m ++ bitsAt mem (pos + m) n := by
  simp only [bitsAt, List.range_add, List.map_append, List.map_map, Function.comp_def, Nat.add_assoc]

/-! ### The register -/

/-- The lower half of the register -/
def lowHalf (crc : UInt32) : BitVec 16 := crc.toBitVec.setWidth 16

/-- The table is that of the polynomial. -/
theorem crcTable_entry : ∀ k < 256,
    (crcTable.getD k 0).toBitVec = Crc.entry crcPoly 8 (BitVec.ofNat 16 k) := by decide +kernel

theorem lowHalf_crcEntry (i : UInt32) :
    lowHalf (crcEntry i) = Crc.entry crcPoly 8 (BitVec.ofNat 16 (i.toNat % 256)) := by
  have hindex : (i &&& 0xff).toNat = i.toNat % 256 := by
    rw [UInt32.toNat_and]
    exact Nat.and_two_pow_sub_one_eq_mod i.toNat 8
  rw [← crcTable_entry _ (Nat.mod_lt _ (by decide)), ← hindex, crcEntry]
  generalize crcTable.getD (i &&& 0xff).toNat 0 = entry
  have hentry : lowHalf entry.toUInt32 = entry.toBitVec := by
    rw [lowHalf, UInt16.toBitVec_toUInt32, BitVec.setWidth_setWidth_of_le _ (by decide)]
    exact BitVec.setWidth_eq _
  split_ifs
  · exact hentry
  · -- the sign is above
    rw [← hentry, lowHalf, UInt32.toBitVec_or, BitVec.setWidth_or]
    exact BitVec.or_zero

/-- The bits of a byte, at the top of the register -/
theorem bitsAt_byte (mem : Mem) (pos : ℕ) : bitsAt mem pos 8 =
    (List.range 8).map (BitVec.ofNat 16 (256 * bitsVal mem pos 8)).getMsbD := by
  apply List.map_congr_left
  intro i hi
  have hlt := List.mem_range.mp hi
  rw [BitVec.getMsbD, BitVec.getLsbD_ofNat, ← bitsVal_testBit mem pos hlt,
    show 256 = 2 ^ 8 from rfl, Nat.testBit_two_pow_mul, show 16 - 1 - i - 8 = 8 - 1 - i by omega]
  simp [show i < 16 by omega, show 16 - 1 - i < 16 by omega, show 8 ≤ 16 - 1 - i by omega]

theorem lowHalf_xor (a b : UInt32) : lowHalf (a ^^^ b) = lowHalf a ^^^ lowHalf b := by
  rw [lowHalf, UInt32.toBitVec_xor, BitVec.setWidth_xor]
  rfl

theorem lowHalf_toNat (crc : UInt32) : (lowHalf crc).toNat = crc.toNat % 2 ^ 16 :=
  BitVec.toNat_setWidth 16 crc.toBitVec

/-- The upper half moves out of sight. -/
theorem lowHalf_shiftLeft (crc : UInt32) {n : UInt32} (hn : n.toNat < 32) :
    lowHalf (crc <<< n) = lowHalf crc <<< n.toNat := by
  apply BitVec.eq_of_toNat_eq
  rw [BitVec.toNat_shiftLeft, lowHalf_toNat, lowHalf_toNat, UInt32.toNat_shiftLeft,
    Nat.mod_eq_of_lt hn, Nat.shiftLeft_eq, Nat.shiftLeft_eq,
    Nat.mod_mod_of_dvd _ (Nat.pow_dvd_pow 2 (by decide)), Nat.mod_mul_mod]

/-- The index into the table -/
theorem crcIndex (crc data : UInt32) : BitVec.ofNat 16 (((crc >>> 8) ^^^ data).toNat % 256) =
    (lowHalf crc ^^^ BitVec.ofNat 16 (256 * (data.toNat % 256))) >>> 8 := by
  have hcrc : (crc.toNat % 2 ^ 16) >>> 8 = crc.toNat >>> 8 % 2 ^ 8 := by
    simp only [Nat.shiftRight_eq_div_pow]
    omega
  have hdata : (256 * (data.toNat % 256) % 2 ^ 16) >>> 8 = data.toNat % 2 ^ 8 := by
    simp only [Nat.shiftRight_eq_div_pow]
    omega
  apply BitVec.eq_of_toNat_eq
  rw [BitVec.toNat_ushiftRight, BitVec.toNat_xor, lowHalf_toNat, BitVec.toNat_ofNat,
    BitVec.toNat_ofNat, Nat.shiftRight_xor_distrib, hcrc, hdata, ← Nat.xor_mod_two_pow,
    UInt32.toNat_xor, UInt32.toNat_shiftRight]
  show (crc.toNat >>> 8 ^^^ data.toNat) % 256 % 65536 = (crc.toNat >>> 8 ^^^ data.toNat) % 256
  omega

/-- **One byte** -/
theorem lowHalf_crcByte {mem : Mem} {pos : ℕ} (crc : UInt32) {data : UInt32}
    (hdata : data.toNat % 256 = bitsVal mem pos 8) :
    lowHalf (crcByte crc data) = Crc.run crcPoly (lowHalf crc) (bitsAt mem pos 8) := by
  have hout : BitVec.ofNat 16 (256 * bitsVal mem pos 8) <<< 8 = 0#16 := by
    apply BitVec.eq_of_toNat_eq
    rw [BitVec.toNat_shiftLeft, BitVec.toNat_ofNat, Nat.shiftLeft_eq]
    show 256 * bitsVal mem pos 8 % 65536 * 256 % 65536 = 0
    omega
  rw [bitsAt_byte, Crc.run_table crcPoly _ _ (by decide) hout, ← hdata, ← crcIndex, ← lowHalf_crcEntry,
    crcByte, lowHalf_xor, lowHalf_shiftLeft crc (by decide)]
  rfl

/-- **One bit** -/
theorem lowHalf_bit {mem : Mem} {pos : ℕ} (crc : UInt32) {data : UInt32}
    (hdata : data.toNat = bitsVal mem pos 1) :
    lowHalf (if (data ^^^ (crc >>> 15)) &&& 1 = 0 then crc <<< 1 else (crc <<< 1) ^^^ 0x8005) =
      Crc.run crcPoly (lowHalf crc) (bitsAt mem pos 1) := by
  have hbit : bitsAt mem pos 1 = [data.toNat.testBit 0] := by
    rw [hdata, bitsVal_testBit mem pos (show 0 < 1 by decide)]
    rfl
  have hmsb : (lowHalf crc).msb = crc.toNat.testBit 15 := by
    rw [BitVec.msb_eq_getLsbD_last, ← BitVec.testBit_toNat, lowHalf_toNat, Nat.testBit_mod_two_pow]
    rfl
  have hzero : (data ^^^ (crc >>> 15)) &&& 1 = 0 ↔
      ((lowHalf crc).msb ^^ data.toNat.testBit 0) = false := by
    have hnat : ((data ^^^ (crc >>> 15)) &&& 1).toNat = (data.toNat ^^^ crc.toNat >>> 15) % 2 := by
      rw [UInt32.toNat_and, UInt32.toNat_xor, UInt32.toNat_shiftRight]
      exact Nat.and_one_is_mod _
    have htest : (data.toNat ^^^ crc.toNat >>> 15).testBit 0 =
        ((lowHalf crc).msb ^^ data.toNat.testBit 0) := by
      rw [Nat.testBit_xor, Nat.testBit_shiftRight, hmsb, Bool.xor_comm]
    rw [← htest, Nat.testBit_zero, ← UInt32.toNat_inj, hnat, decide_eq_false_iff_not]
    show _ = 0 ↔ _
    omega
  have hshift : lowHalf (crc <<< 1) = lowHalf crc <<< 1 := lowHalf_shiftLeft crc (by decide)
  rw [hbit]
  show _ = (lowHalf crc <<< 1) ^^^ Crc.reduce crcPoly ((lowHalf crc).msb ^^ data.toNat.testBit 0)
  by_cases hclear : (data ^^^ (crc >>> 15)) &&& 1 = 0
  · rw [if_pos hclear, hzero.mp hclear, hshift]
    exact BitVec.xor_zero.symm
  · rw [if_neg hclear, Bool.eq_true_of_not_eq_false (hzero.not.mp hclear), lowHalf_xor, hshift]
    rfl

/-! ### The loops -/

/-- What a loop over `n` bits leaves: the remainder in the lower half, and the pointer behind. -/
def TakesIn (mem : Mem) (pos n : ℕ) (crc : UInt32) (r : MadBitptr × UInt32) : Prop :=
  lowHalf r.2 = Crc.run crcPoly (lowHalf crc) (bitsAt mem pos n) ∧ AtBit mem r.1 (pos + n)

theorem TakesIn.trans {mem : Mem} {pos m n : ℕ} {crc crc' : UInt32} {r : MadBitptr × UInt32}
    (hfirst : lowHalf crc' = Crc.run crcPoly (lowHalf crc) (bitsAt mem pos m))
    (hrest : TakesIn mem (pos + m) n crc' r) : TakesIn mem pos (m + n) crc r := by
  obtain ⟨hcrc, hptr⟩ := hrest
  refine ⟨?_, by rw [← Nat.add_assoc]; exact hptr⟩
  rw [hcrc, hfirst, bitsAt_add, Crc.run_append]

section
variable {mem : Mem} {p : MadBitptr} {pos : ℕ}

theorem crcBits_takesIn (h : AtBit mem p pos) (crc : UInt32) (n : ℕ) :
    TakesIn mem pos n crc (crcBits mem p crc n) := by
  induction n generalizing p pos crc with
  | zero => exact ⟨rfl, h⟩
  | succ n ih =>
    have hvalue := h.read_value 1
    have hlt := bitsVal_lt mem pos 1
    have hdata : (UInt32.ofNat (madBitRead mem p 1).1).toNat = bitsVal mem pos 1 := by
      rw [UInt32.toNat_ofNat', hvalue, Nat.mod_eq_of_lt (by omega)]
    have hboth := TakesIn.trans (lowHalf_bit crc hdata) (ih (h.read 1).1 _)
    rw [Nat.add_comm 1 n] at hboth
    exact hboth

theorem crcBytes_takesIn (h : AtBit mem p pos) (crc : UInt32) (n : ℕ) :
    TakesIn mem pos (8 * n) crc (crcBytes mem p crc n) := by
  induction n generalizing p pos crc with
  | zero => exact ⟨rfl, h⟩
  | succ n ih =>
    have hvalue := h.read_value 8
    have hlt := bitsVal_lt mem pos 8
    have hdata : (UInt32.ofNat (madBitRead mem p 8).1).toNat % 256 = bitsVal mem pos 8 := by
      rw [UInt32.toNat_ofNat', hvalue]
      omega
    have hboth := TakesIn.trans (lowHalf_crcByte crc hdata) (ih (h.read 8).1 _)
    rw [Nat.add_comm 8 (8 * n)] at hboth
    exact hboth

/-- The four bytes of a word -/
theorem bitsVal_bytes (mem : Mem) (pos : ℕ) :
    bitsVal mem pos 32 / 2 ^ 24 % 256 = bitsVal mem pos 8 ∧
      bitsVal mem pos 32 / 2 ^ 16 % 256 = bitsVal mem (pos + 8) 8 ∧
      bitsVal mem pos 32 / 2 ^ 8 % 256 = bitsVal mem (pos + 8 + 8) 8 ∧
      bitsVal mem pos 32 % 256 = bitsVal mem (pos + 8 + 8 + 8) 8 := by
  have h0 := bitsVal_add mem pos 8 24
  have h1 := bitsVal_add mem (pos + 8) 8 16
  have h2 := bitsVal_add mem (pos + 8 + 8) 8 8
  have l0 := bitsVal_lt mem pos 8
  have l1 := bitsVal_lt mem (pos + 8) 8
  have l2 := bitsVal_lt mem (pos + 8 + 8) 8
  have l3 := bitsVal_lt mem (pos + 8 + 8 + 8) 8
  simp only [Nat.reduceAdd] at h0 h1 h2
  omega

theorem crcBlocks_takesIn (h : AtBit mem p pos) (crc : UInt32) (n : ℕ) :
    TakesIn mem pos (32 * n) crc (crcBlocks mem p crc n) := by
  induction n generalizing p pos crc with
  | zero => exact ⟨rfl, h⟩
  | succ n ih =>
    obtain ⟨data, hdata⟩ : ∃ data, data = UInt32.ofNat (madBitRead mem p 32).1 := ⟨_, rfl⟩
    have hword : data.toNat = bitsVal mem pos 32 := by
      rw [hdata, UInt32.toNat_ofNat', h.read_value 32]
      exact Nat.mod_eq_of_lt (bitsVal_lt mem pos 32)
    have hshift : ∀ n : UInt32, n.toNat < 32 →
        (data >>> n).toNat = bitsVal mem pos 32 / 2 ^ n.toNat := by
      intro n hn
      rw [UInt32.toNat_shiftRight, Nat.mod_eq_of_lt hn, Nat.shiftRight_eq_div_pow, hword]
    obtain ⟨h0, h1, h2, h3⟩ := bitsVal_bytes mem pos
    have hd0 : (data >>> 24).toNat % 256 = bitsVal mem pos 8 := by
      rw [hshift 24 (by decide)]
      exact h0
    have hd1 : (data >>> 16).toNat % 256 = bitsVal mem (pos + 8) 8 := by
      rw [hshift 16 (by decide)]
      exact h1
    have hd2 : (data >>> 8).toNat % 256 = bitsVal mem (pos + 8 + 8) 8 := by
      rw [hshift 8 (by decide)]
      exact h2
    rw [← hword] at h3
    have hrest := ih (h.read 32).1
      (crcByte (crcByte (crcByte (crcByte crc (data >>> 24)) (data >>> 16)) (data >>> 8)) data)
    rw [show pos + 32 = pos + 8 + 8 + 8 + 8 by omega] at hrest
    have hboth := TakesIn.trans (lowHalf_crcByte crc hd0) <| TakesIn.trans (lowHalf_crcByte _ hd1) <|
      TakesIn.trans (lowHalf_crcByte _ hd2) <| TakesIn.trans (lowHalf_crcByte _ h3) hrest
    rw [show 8 + (8 + (8 + (8 + 32 * n))) = 32 * (n + 1) by omega, hdata] at hboth
    exact hboth

end

/-- **`mad_bit_crc`** is the bit-serial checksum. -/
theorem madBitCrc_eq {mem : Mem} {p : MadBitptr} {pos : ℕ} (h : AtBit mem p pos) (len : ℕ)
    (init : UInt16) : madBitCrc mem p len init = crc16 init (bitsAt mem pos len) := by
  have hblocks := crcBlocks_takesIn h init.toUInt32 (len / 32)
  obtain ⟨blocks, hb⟩ : ∃ blocks, blocks = crcBlocks mem p init.toUInt32 (len / 32) := ⟨_, rfl⟩
  have hbytes := crcBytes_takesIn (hb ▸ hblocks.2) blocks.2 (len % 32 / 8)
  obtain ⟨bytes, hy⟩ : ∃ bytes, bytes = crcBytes mem blocks.1 blocks.2 (len % 32 / 8) := ⟨_, rfl⟩
  have hbits := crcBits_takesIn (hy ▸ hbytes.2) bytes.2 (len % 8)
  have hall := TakesIn.trans (hb ▸ hblocks.1) (TakesIn.trans (hy ▸ hbytes.1) hbits)
  have hinit : lowHalf init.toUInt32 = init.toBitVec := by
    rw [lowHalf, UInt16.toBitVec_toUInt32, BitVec.setWidth_setWidth_of_le _ (by decide)]
    exact BitVec.setWidth_eq _
  rw [show 32 * (len / 32) + (8 * (len % 32 / 8) + len % 8) = len by omega, hy, hb] at hall
  have hcrc := hall.1
  rw [hinit] at hcrc
  apply UInt16.toBitVec_inj.mp
  exact hcrc

theorem crc16_append (init : UInt16) (bits bits' : List Bool) :
    crc16 init (bits ++ bits') = crc16 (crc16 init bits) bits' := by
  simp only [crc16, Crc.run_append]

/-! ### The checksum of a frame -/

/-- The CRC words of the header at `f`, as `decode_header` leaves them. -/
structure CrcRead (mem : Mem) (f : ℕ) (header : MadHeader) : Prop where
  check : header.crcCheck = crc16 0xffff (bitsAt mem (8 * f + 16) 16)
  target : header.crcTarget = UInt16.ofNat (bitsVal mem (8 * f + 32) 16)

/-- **`decode_header`** starts the checksum behind the protection bit, and reads the one to meet. -/
theorem decodeHeader_crc {mem : Mem} {stream : MadStream} {f : ℕ}
    (hptr : AtBit mem stream.ptr (8 * f)) (header : MadHeader)
    (hok : (decodeHeader mem header stream).1 = true)
    (hprot : (decodeHeader mem header stream).2.1.flags.protection = true) :
    CrcRead mem f (decodeHeader mem header stream).2.1 ∧
      InByte mem (decodeHeader mem header stream).2.2.ptr (8 * f + 48) := by
  obtain ⟨hbad, hgood⟩ := decodeHeader_spec hptr header
  generalize decodeHeader mem header stream = d at hok hprot hbad hgood ⊢
  by_cases herror : headerError mem f = .none
  · obtain ⟨header', ptr', rfl, hsame, hend, hleft, hcrc⟩ := hgood herror
    have hbit : protectionAt mem f = true := by
      rw [hsame] at hprot
      exact hprot
    obtain ⟨ptr, hat, hcheck, htarget⟩ := hcrc hbit
    rw [if_pos hbit] at hend
    exact ⟨⟨hcheck.trans (madBitCrc_eq hat 16 0xffff), htarget⟩, hend, hleft⟩
  · obtain ⟨header', ptr', rfl, -⟩ := hbad herror
    exact absurd hok Bool.false_ne_true

/-- An accepted header that is protected has its CRC words. -/
def HeaderOutcome.HasCrc (mem : Mem) : HeaderOutcome → Prop
  | .done header stream => header.flags.protection = true →
    CrcRead mem stream.thisFrame header ∧ InByte mem stream.ptr (8 * stream.thisFrame + 48)
  | _ => True

/-- `calculate free bit rate` keeps the CRC words. -/
theorem setFreeRate_crc (mem : Mem) (header : MadHeader) (stream : MadStream) :
    let r := setFreeRate mem header stream
    r.2.1.crcCheck = header.crcCheck ∧ r.2.1.crcTarget = header.crcTarget ∧
      r.2.1.flags.protection = header.flags.protection ∧ r.2.2.ptr = stream.ptr ∧
      r.2.2.thisFrame = stream.thisFrame := by
  simp only [setFreeRate, freeBitrate]
  split_ifs <;> exact ⟨rfl, rfl, rfl, rfl, rfl⟩

theorem HeaderOutcome.HasCrc.complete {mem : Mem} {header : MadHeader} {stream : MadStream}
    (h : HeaderOutcome.HasCrc mem (.done header stream)) :
    HeaderOutcome.HasCrc mem
      (.done { header with flags := { header.flags with incomplete := true } } stream) := by
  intro hprot
  obtain ⟨hread, hend⟩ := h hprot
  exact ⟨⟨hread.check, hread.target⟩, hend⟩

theorem HeaderOutcome.HasCrc.next {mem : Mem} {header : MadHeader} {stream : MadStream}
    (h : HeaderOutcome.HasCrc mem (.done header stream)) (nextFrame : ℕ) :
    HeaderOutcome.HasCrc mem (.done header { stream with nextFrame }) := h

theorem HeaderOutcome.HasCrc.synced {mem : Mem} {header : MadHeader} {stream : MadStream}
    (h : HeaderOutcome.HasCrc mem (.done header stream)) :
    HeaderOutcome.HasCrc mem (.done header { stream with sync := true }) := h

theorem processFrame_crc (mem : Mem) (header : MadHeader) (stream : MadStream) (f : ℕ) :
    (processFrame mem header stream f).HasCrc mem := by
  unfold processFrame
  extract_lets start d found header' stream' next complete
  have hptr : AtBit mem start.ptr (8 * f) := atBit_init mem f
  have hdecode := decodeHeader_crc hptr header
  have hthis : d.2.2.thisFrame = f := by
    obtain ⟨hbad, hgood⟩ := decodeHeader_eq hptr header
    by_cases herror : headerError mem f = .none
    · obtain ⟨_, _, heq, -⟩ := hgood herror
      rw [show d = _ from heq]
    · obtain ⟨_, _, heq, -⟩ := hbad herror
      rw [show d = _ from heq]
  obtain ⟨hcheck, htarget, hprotection, hptr', hthis'⟩ := setFreeRate_crc mem d.2.1 d.2.2
  by_cases hok : d.1 = true
  · have hdone : HeaderOutcome.HasCrc mem (.done header' stream') := by
      intro hprot
      obtain ⟨hread, hend⟩ := hdecode hok (hprotection ▸ hprot)
      rw [show stream'.thisFrame = _ from hthis', hthis, show stream'.ptr = _ from hptr']
      exact ⟨⟨hcheck.trans hread.check, htarget.trans hread.target⟩, hend⟩
    split_ifs
    · trivial
    · trivial
    · trivial
    · exact (hdone.next _).complete
    · exact (hdone.next _).synced.complete
    · trivial
  · rw [Bool.eq_false_iff.mpr hok]
    trivial

/-- **What `mad_header_decode` leaves for `mad_layer_III`** -/
theorem madHeaderDecode_crc {mem : Mem} {header header' : MadHeader} {stream stream' : MadStream}
    (h : madHeaderDecode mem header stream = (true, header', stream'))
    (hprot : header'.flags.protection = true) :
    CrcRead mem stream'.thisFrame header' ∧ InByte mem stream'.ptr (8 * stream'.thisFrame + 48) := by
  apply madHeaderDecode_done (P := fun header stream => header.flags.protection = true →
    CrcRead mem stream.thisFrame header ∧ InByte mem stream.ptr (8 * stream.thisFrame + 48)) _ h hprot
  intro header stream f header' stream' hdone
  have hcrc := processFrame_crc mem header stream f
  rw [hdone] at hcrc
  exact hcrc

/-! ### The check -/

/-- `stream->error` after a failure -/
def LayerResult.Reports (r : LayerResult) (error : MadError) : Prop :=
  r.ok = false ∧ r.stream.error = error

theorem findMainData_badcrc (mem : Mem) (stream : MadStream) (mainDataBegin mdLen : ℕ)
    (error : MadError) :
    (findMainData mem stream mainDataBegin mdLen error).error = .badcrc ↔ error = .badcrc := by
  rw [findMainData]
  split_ifs
  · exact Iff.rfl
  · rw [firstError]
    split_ifs with hfirst
    · rw [hfirst.2]
      exact iff_of_false (by decide) (by decide)
    · exact Iff.rfl
  · exact Iff.rfl
  · exact Iff.rfl

/-- Nothing behind the check reports its error. -/
theorem layerMainData_badcrc (requantize : ℕ → ℤ → ℤ) (mem : Mem) (header : MadHeader)
    (stream : MadStream) (info : SideinfoState) (error : MadError) (stack : Stack) :
    (layerMainData requantize mem header stream info error stack).Reports .badcrc ↔
      error = .badcrc := by
  simp only [layerMainData]
  generalize (if peekMainDataBegin mem stream.nextFrame > info.si.mainDataBegin +
    (stream.nextFrame - madBitNextbyte stream.ptr) then 0
    else peekMainDataBegin mem stream.nextFrame) = next
  generalize info.si.mainDataBegin + (stream.nextFrame - madBitNextbyte stream.ptr) - next = mdLen
  have hfound := findMainData_badcrc mem stream info.si.mainDataBegin mdLen error
  generalize findMainData mem stream info.si.mainDataBegin mdLen error = found at hfound ⊢
  generalize hresult : iiiDecode requantize _ found.ptr header info.si (madNchannels header) stack =
    result
  have hdecode : result.error ≠ .badcrc := hresult ▸ (iiiDecode_ofDecoding _ _ _ _ _ _).2
  obtain ⟨last, hlast⟩ : ∃ last,
    last = if found.error = .none then result.error else found.error := ⟨_, rfl⟩
  have hlastCrc : last = .badcrc ↔ found.error = .badcrc := by
    rw [hlast]
    split_ifs with hnone
    · exact iff_of_false hdecode (by rw [hnone]; decide)
    · exact Iff.rfl
  rw [← hfound, ← hlastCrc]
  simp only [← hlast]
  by_cases hok : last = .none
  · rw [hok]
    exact iff_of_false (fun h => Bool.false_ne_true h.1.symm) (by decide)
  · simp only [if_neg hok]
    exact ⟨fun h => h.2, fun h => ⟨decide_eq_false hok, h⟩⟩

/-- The check of a protected frame, from what `decode_header` left -/
theorem checkCrc_badcrc {mem : Mem} {frame : MadFrame} {ptr : MadBitptr} {f : ℕ} (len : ℕ)
    (hread : CrcRead mem f frame.header) (hptr : AtBit mem ptr (8 * f + 48))
    (hprot : frame.header.flags.protection = true)
    (hoption : frame.options &&& madOptionIgnorecrc = 0) :
    (checkCrc mem frame ptr len).2 = .badcrc ↔
      crc16 0xffff (bitsAt mem (8 * f + 16) 16 ++ bitsAt mem (8 * f + 48) (8 * len)) ≠
        UInt16.ofNat (bitsVal mem (8 * f + 32) 16) := by
  rw [checkCrc, if_pos hprot, crc16_append, ← hread.check, ← hread.target, ← madBitCrc_eq hptr,
    Nat.mul_comm 8 len]
  simp only [hoption, and_true]
  split_ifs with hne
  · exact iff_of_true rfl hne
  · exact iff_of_false (by decide) hne

theorem madLayerIII_badcrc {requantize : ℕ → ℤ → ℤ} {mem : Mem} {stream : MadStream}
    {frame : MadFrame} (stack : Stack) {f : ℕ} (hread : CrcRead mem f frame.header)
    (hptr : AtBit mem stream.ptr (8 * f + 48)) (hprot : frame.header.flags.protection = true)
    (hoption : frame.options &&& madOptionIgnorecrc = 0)
    (hlength : (siLen frame.header.flags.lsfExt (madNchannels frame.header) : ℤ) ≤
      stream.nextFrame - madBitNextbyte stream.ptr) :
    (madLayerIII requantize mem stream frame stack).Reports .badcrc ↔
      crc16 0xffff (bitsAt mem (8 * f + 16) 16 ++ bitsAt mem (8 * f + 48)
        (8 * siLen frame.header.flags.lsfExt (madNchannels frame.header))) ≠
        UInt16.ofNat (bitsVal mem (8 * f + 32) 16) := by
  have hcheck := checkCrc_badcrc (siLen frame.header.flags.lsfExt (madNchannels frame.header)) hread
    hptr hprot hoption
  simp only [madLayerIII]
  rw [if_neg (not_lt.mpr hlength), layerMainData_badcrc, ← hcheck]
  have hinfo := (iiiSideinfo_ofDecoding mem stream.ptr (madNchannels frame.header)
    frame.header.flags.lsfExt stack.si).2
  split_ifs with hnone
  · rw [hnone]
    exact iff_of_false hinfo (by decide)
  · exact Iff.rfl

/-- **The checksum.**  `mad_bit_crc` is the bit-serial one from any bit on, so that two calls in a
row are one over all bits.  A protected Layer III frame that is long enough is reported with a wrong
checksum just if that of the header's last two bytes and of the side information is not the word
between them. -/
theorem checksum_bitSerial :
    (∀ (mem : Mem) (p : MadBitptr) (pos len : ℕ) (init : UInt16), AtBit mem p pos →
      madBitCrc mem p len init = crc16 init (bitsAt mem pos len)) ∧
    (∀ (mem : Mem) (p q : MadBitptr) (pos m n : ℕ) (init : UInt16), AtBit mem p pos →
      AtBit mem q (pos + m) →
      madBitCrc mem p (m + n) init = madBitCrc mem q n (madBitCrc mem p m init)) ∧
    ∀ (requantize : ℕ → ℤ → ℤ) (mem : Mem) (start header : MadHeader) (before stream : MadStream)
      (incomplete : Bool) (options : ℕ) (stack : Stack),
      madHeaderDecode mem start before = (true, header, stream) → header.layer = 3 →
      header.flags.protection = true → options &&& madOptionIgnorecrc = 0 →
      (siLen header.flags.lsfExt (madNchannels header) : ℤ) ≤
        stream.nextFrame - madBitNextbyte stream.ptr →
      let frame : MadFrame :=
        ⟨{ header with flags := { header.flags with incomplete } }, options⟩
      let f := stream.thisFrame
      (madLayerIII requantize mem stream frame stack).Reports .badcrc ↔
        crc16 0xffff (bitsAt mem (8 * f + 16) 16 ++ bitsAt mem (8 * f + 48)
          (8 * siLen header.flags.lsfExt (madNchannels header))) ≠
          UInt16.ofNat (bitsVal mem (8 * f + 32) 16) := by
  refine ⟨?_, ?_, ?_⟩
  · intro mem p pos len init hp
    exact madBitCrc_eq hp len init
  · intro mem p q pos m n init hp hq
    rw [madBitCrc_eq hp, madBitCrc_eq hp, madBitCrc_eq hq, bitsAt_add, crc16_append]
  · intro requantize mem start header before stream incomplete options stack hdecode _ hprot hoption
      hlength frame f
    obtain ⟨hread, hptr⟩ := madHeaderDecode_crc hdecode hprot
    exact madLayerIII_badcrc stack ⟨hread.check, hread.target⟩ hptr.1 hprot hoption hlength

theorem checksum_frameWithCrc :
    let decoded := madHeaderDecode frameWithCrc {}
      (madStreamBuffer (madStreamInit frameWithCrc) 4096 400)
    decoded.1 = true ∧ (madLayerIII (fun _ _ => 0) frameWithCrc decoded.2.2
      ⟨{ decoded.2.1 with flags := { decoded.2.1.flags with incomplete := false } }, 0⟩
      ⟨{}, fun _ _ _ => 0, fun _ _ _ => 0⟩).Reports .badcrc := by
  intro decoded
  have hok : decoded.1 = true := by decide +kernel
  have hdecode : decoded = (true, decoded.2.1, decoded.2.2) := Prod.ext hok rfl
  refine ⟨hok, ?_⟩
  apply (checksum_bitSerial.2.2 (fun _ _ => 0) frameWithCrc {} decoded.2.1 _ decoded.2.2 false 0
    ⟨{}, fun _ _ _ => 0, fun _ _ _ => 0⟩ hdecode (by decide +kernel) (by decide +kernel) rfl
    (by decide +kernel)).mpr
  decide +kernel

end Mp3Decoder
