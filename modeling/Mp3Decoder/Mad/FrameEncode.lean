import Mp3Decoder.Mad.BitCrc
import Mp3Decoder.Mad.StreamEncode

/-!
# Frames in a stream of bytes

`mad_frame_decode` works on a copy of a piece of the stream.  Where the copy has a frame and the bytes
of the guard behind it, the header is found, the checksum is right, and `mad_layer_III` is called as
in `StreamEncode`: the frame comes back, and the bit reservoir waits for the next one.
-/

namespace Mp3Decoder

open Segment Schedule BigEndianBits

/-! ### Copies of a stream -/

/-- The `n` bytes of `mem` at `p` are those of the stream at `addr`. -/
def CopyOf (source : Mem) (addr : ℕ) (mem : Mem) (p n : ℕ) : Prop :=
  ∀ j < n, mem (p + j) = source (addr + j)

namespace CopyOf

variable {source mem : Mem} {addr p n : ℕ} (h : CopyOf source addr mem p n)
include h

theorem spells {pos : ℕ} {bits : List Bool} (hend : pos + bits.length ≤ 8 * n)
    (hwritten : Spells source (8 * addr + pos) bits) : Spells mem (8 * p + pos) bits :=
  hwritten.of_bytes (fun j hj => (h j hj).symm) hend

theorem bits {pos k : ℕ} (hend : pos + k ≤ 8 * n) :
    bitsVal mem (8 * p + pos) k = bitsVal source (8 * addr + pos) k := by
  have hspells := h.spells (by rw [field_length]; exact hend) (spells_field (n := k))
  exact hspells.field_of_lt (bitsVal_lt source _ _)

theorem field {i k : ℕ} (hend : i + k ≤ 8 * n) : headerField mem p i k = headerField source addr i k :=
  h.bits hend

theorem drop {k : ℕ} : CopyOf source (addr + k) mem (p + k) (n - k) := by
  intro j hj
  rw [Nat.add_assoc, Nat.add_assoc]
  exact h (k + j) (by omega)

theorem segment_eq {k m : ℕ} (hend : k + m ≤ n) :
    Segment.segment mem (p + k) m = Segment.segment source (addr + k) m := by
  apply segment_congr
  intro i hi
  rw [Nat.add_assoc, Nat.add_assoc]
  exact h (k + i) (by omega)

/-- A copy of the header has its fields. -/
theorem headerFields (hn : 4 ≤ n) : lsfAt mem p = lsfAt source addr ∧
    mpeg25At mem p = mpeg25At source addr ∧ layerAt mem p = layerAt source addr ∧
    protectionAt mem p = protectionAt source addr := by
  simp only [lsfAt, mpeg25At, layerAt, protectionAt]
  rw [h.field (i := 12) (by omega), h.field (i := 11) (by omega), h.field (i := 13) (by omega),
    h.field (i := 15) (by omega)]
  exact ⟨rfl, rfl, rfl, rfl⟩

theorem headerAt_eq (hn : 4 ≤ n) : headerAt mem p = headerAt source addr := by
  obtain ⟨hlsf, hmpeg25, hlayer, hprotection⟩ := h.headerFields hn
  have hfield : ∀ i k, i + k ≤ 32 → headerField mem p i k = headerField source addr i k :=
    fun i k hend => h.field (by omega)
  simp only [headerAt, hlsf, hmpeg25, hlayer, hprotection, hfield 24 2 (by decide),
    hfield 26 2 (by decide), hfield 30 2 (by decide), hfield 16 4 (by decide),
    hfield 20 2 (by decide), hfield 28 1 (by decide), hfield 29 1 (by decide),
    hfield 22 1 (by decide), hfield 23 1 (by decide)]

theorem headerError_eq (hn : 4 ≤ n) : headerError mem p = headerError source addr := by
  obtain ⟨hlsf, hmpeg25, hlayer, -⟩ := h.headerFields hn
  simp only [headerError, hlsf, hmpeg25, hlayer, h.field (i := 16) (k := 4) (by omega),
    h.field (i := 20) (k := 2) (by omega)]

theorem isSync_eq (hn : 2 ≤ n) : isSync mem p = isSync source addr := by
  have hfirst := h 0 (by omega)
  rw [Nat.add_zero, Nat.add_zero] at hfirst
  rw [isSync, isSync, hfirst, h 1 (by omega)]

theorem headerEnd_eq (hn : 4 ≤ n) : headerEnd mem p = p + (headerEnd source addr - addr) := by
  rw [headerEnd, headerEnd, (h.headerFields hn).2.2.2]
  omega

theorem bitsAt_eq {pos k : ℕ} (hend : pos + k ≤ 8 * n) :
    bitsAt mem (8 * p + pos) k = bitsAt source (8 * addr + pos) k := by
  apply List.map_congr_left
  intro i hi
  have hi := List.mem_range.mp hi
  have hbit : bitsVal mem (8 * p + (pos + i)) 1 = bitsVal source (8 * addr + (pos + i)) 1 :=
    h.bits (by omega)
  rw [bitsVal_one, bitsVal_one, ← Nat.add_assoc, ← Nat.add_assoc] at hbit
  rw [hbit]

end CopyOf

theorem CopyOf.nextBegin {source mem : Mem} {addr p n : ℕ} (h : CopyOf source addr mem p n)
    (hn : 8 ≤ n) : nextMainDataBegin mem p = nextMainDataBegin source addr := by
  obtain ⟨hlsf, -, hlayer, hprotection⟩ := h.headerFields (by omega)
  have hend : ∀ (m : Mem) (f : ℕ), 8 * headerEnd m f =
      8 * f + (32 + if protectionAt m f then 16 else 0) := by
    intro m f
    rw [headerEnd]
    split_ifs <;> omega
  simp only [nextMainDataBegin, mainDataBeginAt, hend, hlsf, hlayer, hprotection,
    h.field (i := 0) (k := 11) (by omega)]
  rw [h.bits]
  split_ifs <;> omega

/-- The sync word, off the bits of memory -/
theorem headerField_sync {mem : Mem} {f : ℕ} (hsync : isSync mem f = true) :
    headerField mem f 0 11 = 0x7ff := by
  obtain ⟨hfirst, hsecond⟩ := of_decide_eq_true hsync
  have hall : ∀ b : UInt8, b &&& 0xe0 = 0xe0 → b.toNat / 2 ^ 5 % 2 ^ 3 = 7 := by
    intro b hb
    have hnat := congrArg UInt8.toNat hb
    have hsplit := Nat.div_add_mod b.toNat (2 ^ 5)
    have hupper := and_mul_add 5 (b.toNat / 2 ^ 5) 7 (Nat.mod_lt b.toNat (Nat.two_pow_pos 5))
      (Nat.two_pow_pos 5)
    rw [hsplit, show 7 = 2 ^ 3 - 1 from rfl, Nat.and_two_pow_sub_one_eq_mod, Nat.and_zero] at hupper
    rw [UInt8.toNat_and] at hnat
    have hboth : 2 ^ 5 * (b.toNat / 2 ^ 5 % 2 ^ 3) = 0xe0 := hupper.symm.trans hnat
    omega
  have hbyte : bitsVal mem (8 * f + 0) 8 = 0xff := by
    rw [bitsVal_byte mem f 0 8 (by decide), hfirst]
    rfl
  have hnext : bitsVal mem (8 * f + 0 + 8) 3 = 7 := by
    rw [show 8 * f + 0 + 8 = 8 * (f + 1) + 0 by omega, bitsVal_byte mem (f + 1) 0 3 (by decide)]
    exact hall _ hsecond
  rw [headerField, show 11 = 8 + 3 from rfl, bitsVal_add, hbyte, hnext]
  rfl

/-! ### One call of `mad_frame_decode` -/

/-- A Layer III header with one of the fixed rates -/
structure FixedRate (mem : Mem) (p : ℕ) : Prop where
  sync_word : isSync mem p = true
  header_ok : headerError mem p = .none
  layer_eq : layerAt mem p = 3
  rate_ne : (headerAt mem p).bitrate ≠ 0

section
variable {mem : Mem} {stream : MadStream} {p : ℕ}

theorem FixedRate.frameAt (h : FixedRate mem p) (stream : MadStream) :
    FrameAt mem stream p (headerAt mem p).bitrate (frameLength (headerAt mem p)) :=
  ⟨h.header_ok, .table h.rate_ne, rfl⟩

theorem FixedRate.frameHeader_eq (h : FixedRate mem p) :
    frameHeader mem p (headerAt mem p).bitrate = headerAt mem p := by
  have hfree : decide ((headerAt mem p).bitrate = 0) = false := decide_eq_false h.rate_ne
  simp only [frameHeader, completeHeader, hfree]
  rfl

/-- Frames of the rates in the table hold their side information, and have no more than 1440 bytes
and the padding. -/
theorem bitrateEntry_slots : ∀ lsf mpeg25 : Bool, (mpeg25 → lsf) → ∀ index < 15,
    bitrateEntry (bitrateRow lsf 3) index ≠ 0 → ∀ freq < 3,
      let slots := (if lsf then 72 else 144) * bitrateEntry (bitrateRow lsf 3) index % 2 ^ 32 /
        samplerateOf lsf mpeg25 freq
      6 + siLen lsf 2 ≤ slots ∧ slots ≤ 1440 := by
  decide +kernel

theorem FixedRate.length_bounds (h : FixedRate mem p) :
    6 + siLen (lsfAt mem p) 2 ≤ frameLength (headerAt mem p) ∧
      frameLength (headerAt mem p) ≤ 1441 := by
  obtain ⟨hmpeg25, hfreq⟩ := headerError_fields h.header_ok
  have hrate := h.rate_ne
  have hlayer := h.layer_eq
  have hindex : headerField mem p 16 4 < 15 := by
    have hlt := bitsVal_lt mem (8 * p + 16) 4
    have hok := h.header_ok
    rw [headerError] at hok
    split_ifs at hok
    rw [headerField] at *
    omega
  obtain ⟨hlow, hhigh⟩ := bitrateEntry_slots (lsfAt mem p) (mpeg25At mem p) hmpeg25 _ hindex
    (by rw [← hlayer]; exact hrate) _ hfreq
  have hpad : padSlot (headerAt mem p) ≤ 1 := by
    rw [padSlot]
    split_ifs <;> decide
  have hlength : frameLength (headerAt mem p) = (if lsfAt mem p then 72 else 144) *
      bitrateEntry (bitrateRow (lsfAt mem p) 3) (headerField mem p 16 4) % 2 ^ 32 /
        samplerateOf (lsfAt mem p) (mpeg25At mem p) (headerField mem p 20 2) +
          padSlot (headerAt mem p) := by
    have hslots : slotsPerFrame (headerAt mem p) = if lsfAt mem p then 72 else 144 := by
      rw [slotsPerFrame]
      exact if_congr (and_iff_right hlayer) rfl rfl
    have hnotOne : ¬(headerAt mem p).layer = 1 := by
      show ¬layerAt mem p = 1
      omega
    rw [frameLength, if_neg hnotOne, hslots, ← hlayer]
    rfl
  omega

theorem FixedRate.of_copy {source : Mem} {addr n : ℕ} (h : FixedRate source addr)
    (hcopy : CopyOf source addr mem p n) (hn : 4 ≤ n) : FixedRate mem p :=
  ⟨(hcopy.isSync_eq (by omega)).trans h.sync_word, (hcopy.headerError_eq hn).trans h.header_ok,
    (hcopy.headerFields hn).2.2.1.trans h.layer_eq, by
      rw [hcopy.headerAt_eq hn]
      exact h.rate_ne⟩

/-- The call of `mad_layer_III` for a frame at hand -/
structure LayerCalled (mem : Mem) (p : ℕ) (header : MadHeader) (ptr : MadBitptr) : Prop where
  header_eq : SameButCrc header (headerAt mem p)
  ptr_in : InByte mem ptr (8 * headerEnd mem p)
  crc : header.flags.protection = true → CrcRead mem p header

/-- **A frame that is at hand is decoded.** -/
theorem FixedRate.decoded (h : FixedRate mem p) (requantize : ℕ → ℤ → ℤ) (hsync : stream.sync = true)
    (hnext : stream.nextFrame = p) (hp : p ≠ 0) (hskip : stream.skiplen = 0) {frame : MadFrame}
    (hwaiting : frame.header.flags.incomplete = false)
    (hroom : p + frameLength (headerAt mem p) + madBufferGuard ≤ stream.bufend) (stack : Stack) :
    ∃ header ptr freerate, LayerCalled mem p header ptr ∧
      madFrameDecode requantize mem frame stream stack = afterLayerIII stream.options
        (madLayerIII requantize mem
          (acceptedStream stream p (frameLength (headerAt mem p)) ptr freerate)
          ⟨header, stream.options⟩ stack) := by
  have hunsynced : ¬stream.sync = false := by rw [hsync]; decide
  rcases madHeaderDecode_cases mem frame.header hskip (hnext ▸ hp) with
    ⟨f, r, n, header, ptr, freerate, haccepts, hread, -, hdecode⟩ | ⟨hno, -⟩
  · obtain rfl : f = p := (haccepts.synced hsync).trans hnext
    obtain ⟨rfl, rfl⟩ := haccepts.frame.unique (h.frameAt stream)
    obtain ⟨waiting, hwait⟩ : ∃ waiting, waiting = markIncomplete header := ⟨_, rfl⟩
    have hs : SameButCrc waiting (completeHeader mem f (headerAt mem f).bitrate) :=
      hwait ▸ hread.header_eq
    have hlayer : waiting.layer = 3 := by
      rw [hs]
      exact h.layer_eq
    rw [← hwait] at hdecode
    have hcrc := madHeaderDecode_crc hdecode
    refine ⟨{ waiting with flags := { waiting.flags with incomplete := false } }, ptr, freerate,
      ⟨?_, ⟨hread.ptr_at, hread.ptr_left⟩, ?_⟩, ?_⟩
    · have hheader : SameButCrc
          { waiting with flags := { waiting.flags with incomplete := false } }
          (frameHeader mem f (headerAt mem f).bitrate) := by
        rw [SameButCrc, hs]
        rfl
      rw [h.frameHeader_eq] at hheader
      exact hheader
    · intro hprot
      obtain ⟨hread, -⟩ := hcrc hprot
      exact ⟨hread.check, hread.target⟩
    · simp only [madFrameDecode, hwaiting, Bool.false_eq_true, if_false, hdecode, if_true]
      rw [audioData_layerIII hlayer]
      rfl
  · exact absurd ⟨hnext.le, fun _ => hnext.symm, h.sync_word, h.frameAt stream, hroom,
      fun hsync' => absurd hsync' hunsynced, fun hsync' => absurd hsync' hunsynced⟩ (hno p _ _)

end

/-! ### Frames of a stream -/

/-- A frame of a stream of bytes: where its header is, and what has been written in it -/
structure StreamFrame where
  addr : ℕ
  content : FrameContent

namespace StreamFrame

variable (source : Mem) (f : StreamFrame)

def header : MadHeader := headerAt source f.addr

def nch : ℕ := madNchannels (f.header source)

def length : ℕ := frameLength (f.header source)

def payloadStart : ℕ := headerEnd source f.addr + siLen (lsfAt source f.addr) (f.nch source)

def frameSpace : ℕ := f.addr + f.length source - f.payloadStart source

def payload : List UInt8 := segment source (f.payloadStart source) (f.frameSpace source)

/-- `main_data_begin` of the frame -/
def begin : ℕ := f.content.si.mainDataBegin

def mainBits : List Bool :=
  f.content.mainBits (f.header source) (f.nch source) (ngrOf (f.header source))

/-- `next_md_begin` -/
def nextMdBegin : ℕ :=
  nextBeginOf source (f.addr + f.length source) f.begin (f.frameSpace source)

/-- The frame, behind the payloads `before` -/
structure Written (before : List UInt8) : Prop where
  rate : FixedRate source f.addr
  fits : f.content.Fits (f.header source) (f.nch source)
  crc : protectionAt source f.addr = true →
    crc16 0xffff (bitsAt source (8 * f.addr + 16) 16 ++
      bitsAt source (8 * f.addr + 48) (8 * siLen (lsfAt source f.addr) (f.nch source))) =
        UInt16.ofNat (bitsVal source (8 * f.addr + 32) 16)
  side : Spells source (8 * headerEnd source f.addr)
    (sideinfoBits (lsfAt source f.addr) (f.nch source) f.content.si)
  begin_le : f.begin ≤ before.length
  main : Spells (byteStore (before ++ f.payload source)) (8 * (before.length - f.begin))
    (f.mainBits source)
  ends : (f.mainBits source).length ≤ 8 * (f.begin + (f.frameSpace source - f.nextMdBegin source))

/-- All that has been written in the frame comes back. -/
structure Decoded (requantize : ℕ → ℤ → ℤ) (r : LayerResult) : Prop where
  ok : r.ok = true
  lines : ∃ call, r.call = some call ∧ call.result.error = .none ∧
    ∀ gr < ngrOf (f.header source), ∀ ch < f.nch source, ∀ i < 576,
      call.result.xr gr ch i = f.content.line (f.header source) requantize gr ch i

/-- The call for the frame, on a copy of it at `p` -/
def sent (mem : Mem) (p : ℕ) (header : MadHeader) (options cache : ℕ) (stack : Stack) : SentFrame where
  call := {
    mem, header, options, start := headerEnd mem p, cache, nextFrame := p + f.length source, stack }
  content := f.content

end StreamFrame

/-- Frames, one behind the other, from `addr` on and behind the payloads `before` -/
def StreamWritten (source : Mem) : ℕ → List UInt8 → List StreamFrame → Prop
  | _, _, [] => True
  | addr, before, f :: rest => f.addr = addr ∧ f.Written source before ∧
    (∀ f' ∈ rest.head?, f'.begin ≤ f.begin + f.frameSpace source) ∧
    StreamWritten source (addr + f.length source) (before ++ f.payload source) rest

/-! ### A frame at hand -/

section
variable {source mem : Mem} {f : StreamFrame} {before : List UInt8} {p : ℕ} {header : MadHeader}
  {ptr : MadBitptr} {options cache : ℕ} {stack : Stack}

theorem StreamFrame.Written.length_ge (h : f.Written source before) :
    f.addr + 4 ≤ headerEnd source f.addr ∧
      f.payloadStart source = headerEnd source f.addr + siLen (lsfAt source f.addr) (f.nch source) ∧
      f.payloadStart source ≤ f.addr + f.length source := by
  have hside : siLen (lsfAt source f.addr) (f.nch source) ≤ siLen (lsfAt source f.addr) 2 := by
    rcases madNchannels_cases (f.header source) with hone | htwo
    · rw [StreamFrame.nch, hone]
      cases lsfAt source f.addr <;> decide
    · rw [StreamFrame.nch, htwo]
  have hlong : 6 + siLen (lsfAt source f.addr) 2 ≤ f.length source := h.rate.length_bounds.1
  rw [StreamFrame.payloadStart, headerEnd]
  refine ⟨by omega, rfl, ?_⟩
  split_ifs <;> omega

theorem LayerCalled.protection_eq (h : LayerCalled mem p header ptr) :
    header.flags.protection = protectionAt mem p := by
  rw [h.header_eq]
  rfl

theorem LayerCalled.ptr_eq (h : LayerCalled mem p header ptr) :
    ptr = ⟨headerEnd mem p, ptr.cache, 8⟩ := by
  obtain ⟨⟨hleft, hpos, -⟩, hpositive⟩ := h.ptr_in
  obtain ⟨byte, cache, left⟩ := ptr
  simp only at hleft hpos hpositive ⊢
  rw [MadBitptr.mk.injEq]
  exact ⟨by omega, rfl, by omega⟩

/-- The checksum of a copy is right where that of the stream is. -/
theorem StreamFrame.Written.checkCrc_none (h : f.Written source before)
    (hcopy : CopyOf source f.addr mem p (f.length source + madBufferGuard))
    (hcalled : LayerCalled mem p header ptr) :
    (checkCrc mem ⟨header, options⟩ ⟨headerEnd mem p, cache, 8⟩
      (siLen (lsfAt source f.addr) (f.nch source))).2 = .none := by
  obtain ⟨hhead, hstart, hlong⟩ := h.length_ge
  have hguard : madBufferGuard = 8 := rfl
  have hfour : 4 ≤ f.length source + madBufferGuard := by omega
  obtain ⟨-, -, -, hprotection⟩ := hcopy.headerFields hfour
  rw [checkCrc]
  split_ifs with hprot
  · have hprot' : protectionAt source f.addr = true :=
      (hprotection.symm.trans hcalled.protection_eq.symm).trans hprot
    have hend : headerEnd source f.addr = f.addr + 4 + 2 := by rw [headerEnd, if_pos hprot']
    have hptr : AtBit mem ⟨headerEnd mem p, cache, 8⟩ (8 * p + 48) := by
      refine ⟨Nat.le_refl 8, ?_, fun _ hlt => absurd hlt (Nat.lt_irrefl 8)⟩
      rw [hcopy.headerEnd_eq hfour, hend]
      show 8 * (p + (f.addr + 4 + 2 - f.addr)) + 8 = 8 * p + 48 + 8
      omega
    have hread := hcalled.crc hprot
    have hcrc := h.crc hprot'
    rw [crc16_append, ← hcopy.bitsAt_eq (by omega), ← hcopy.bitsAt_eq (by omega), ← hread.check,
      ← hcopy.bits (by omega), ← hread.target, ← madBitCrc_eq hptr, Nat.mul_comm 8] at hcrc
    simp only [hcrc, ne_eq, not_true_eq_false, false_and, if_false]
  · rfl

theorem LayerCalled.sameFrame (h : LayerCalled mem p header ptr) :
    SameFrame (headerAt mem p) header :=
  ⟨header.crcCheck, header.crcTarget, _, _, h.header_eq⟩

/-- A frame behind its header says where its main data begins. -/
theorem StreamFrame.Written.nextBegin (h : f.Written source before) :
    nextMainDataBegin source f.addr = f.begin := by
  have hbegin : f.begin < 2 ^ beginWidth (lsfAt source f.addr) := h.fits.info.mainDataBegin
  have hside : Spells source (8 * headerEnd source f.addr)
      (BigEndianBits.field (beginWidth (lsfAt source f.addr)) f.begin) :=
    (spells_append.mp (spells_append.mp h.side).1).1
  rw [nextMainDataBegin, if_pos ⟨headerField_sync h.rate.sync_word, h.rate.layer_eq⟩]
  exact hside.field_of_lt hbegin

/-- The call is the one that `mad_frame_decode` makes. -/
theorem StreamFrame.sent_result (requantize : ℕ → ℤ → ℤ) {stream : MadStream}
    (hcalled : LayerCalled mem p header ptr) (hnextFrame : stream.nextFrame = p + f.length source)
    (hptr : stream.ptr = ptr) :
    (f.sent source mem p header options ptr.cache stack).call.result requantize stream =
      madLayerIII requantize mem stream ⟨header, options⟩ stack := by
  have henter : (f.sent source mem p header options ptr.cache stack).call.enter stream = stream := by
    rw [LayerCall.enter]
    show { stream with
      nextFrame := p + f.length source
      ptr := ⟨headerEnd mem p, ptr.cache, 8⟩ } = stream
    rw [← hcalled.ptr_eq, ← hnextFrame, ← hptr]
  rw [LayerCall.result, henter]
  rfl

/-- The reservoir and the payload together fit into `main_data`. -/
theorem StreamFrame.Written.fits_mainData (h : f.Written source before) :
    f.begin + f.frameSpace source ≤ madBufferMdlen := by
  have hbegin : f.begin < 2 ^ beginWidth (lsfAt source f.addr) := h.fits.info.mainDataBegin
  have hwidth : 2 ^ beginWidth (lsfAt source f.addr) ≤ 2 ^ 9 := by
    cases lsfAt source f.addr <;> decide
  have hlength : f.length source ≤ 1441 := h.rate.length_bounds.2
  have hspace : f.frameSpace source ≤ f.length source := by
    obtain ⟨hhead, hstart, -⟩ := h.length_ge
    rw [StreamFrame.frameSpace]
    omega
  have hmdlen : madBufferMdlen = 2567 := rfl
  omega

section
variable (h : f.Written source before)
  (hcopy : CopyOf source f.addr mem p (f.length source + madBufferGuard))
  (hcalled : LayerCalled mem p header ptr)
include h hcopy hcalled

theorem StreamFrame.Written.sameFrame : SameFrame (f.header source) header := by
  obtain ⟨hhead, hstart, hlong⟩ := h.length_ge
  have hheader : headerAt mem p = f.header source := hcopy.headerAt_eq (by omega)
  rw [← hheader]
  exact hcalled.sameFrame

/-- The call finds the payload where the copy has it. -/
theorem StreamFrame.Written.sent_payload (options cache : ℕ) (stack : Stack) :
    let call := (f.sent source mem p header options cache stack).call
    call.Passes ∧ call.frameSpace = f.frameSpace source ∧ call.payload = f.payload source := by
  intro call
  obtain ⟨hhead, hstart, hlong⟩ := h.length_ge
  obtain ⟨hnch, -, hlsf, -⟩ := (h.sameFrame hcopy hcalled).content f.content
  have hend := hcopy.headerEnd_eq (by omega)
  have hpayloadStart : call.payloadStart = p + (f.payloadStart source - f.addr) := by
    have hlsf' : header.flags.lsfExt = lsfAt source f.addr := hlsf
    have hnch' : madNchannels header = f.nch source := hnch
    have heq : call.payloadStart =
        headerEnd mem p + siLen header.flags.lsfExt (madNchannels header) := rfl
    rw [heq, hlsf', hnch', hend]
    omega
  have hnextFrame : call.nextFrame = p + f.length source := rfl
  have hspace : call.frameSpace = f.frameSpace source := by
    rw [LayerCall.frameSpace, hpayloadStart, hnextFrame, StreamFrame.frameSpace]
    omega
  refine ⟨?_, hspace, ?_⟩
  · rw [LayerCall.Passes, hpayloadStart, hnextFrame]
    omega
  have heq : f.payloadStart source = f.addr + (f.payloadStart source - f.addr) := by omega
  have hspaceEq : f.frameSpace source = f.addr + f.length source - f.payloadStart source := rfl
  have hbytes := hcopy.segment_eq (k := f.payloadStart source - f.addr)
    (m := f.frameSpace source) (by omega)
  rw [← heq] at hbytes
  rw [LayerCall.payload, hpayloadStart, hspace]
  exact hbytes

/-- The side information stands behind the header of the copy. -/
theorem StreamFrame.Written.sent_side (options cache : ℕ) (stack : Stack) :
    let sent := f.sent source mem p header options cache stack
    Spells sent.call.mem (8 * sent.call.start)
      (sideinfoBits sent.lsf sent.nch sent.content.si) := by
  intro sent
  obtain ⟨hhead, hstart, hlong⟩ := h.length_ge
  obtain ⟨hnch, -, hlsf, -⟩ := (h.sameFrame hcopy hcalled).content f.content
  have hlsf' : sent.lsf = lsfAt source f.addr := hlsf
  have hnch' : sent.nch = f.nch source := hnch
  have hsideAt : 8 * sent.call.start = 8 * p + 8 * (headerEnd source f.addr - f.addr) := by
    show 8 * headerEnd mem p = _
    rw [hcopy.headerEnd_eq (by omega), Nat.mul_add]
  rw [hlsf', hnch', hsideAt]
  refine hcopy.spells ?_ ?_
  · have hchannels : f.nch source = 1 ∨ f.nch source = 2 := madNchannels_cases (f.header source)
    rw [sideinfoBits_length _ hchannels]
    omega
  · rw [← Nat.mul_add, show f.addr + (headerEnd source f.addr - f.addr) = headerEnd source f.addr
      by omega]
    exact h.side

/-- The call that decodes a frame, on a copy of it -/
theorem StreamFrame.Written.sent (options : ℕ) (stack : Stack) :
    let sent := f.sent source mem p header options ptr.cache stack
    sent.Written before ∧ sent.call.payload = f.payload source ∧
      sent.call.frameSpace = f.frameSpace source ∧ sent.call.nextMdBegin = f.nextMdBegin source ∧
      SameFrame (f.header source) header := by
  intro sent
  have hsame := h.sameFrame hcopy hcalled
  obtain ⟨hnch, hngr, hlsf, hrate, hbits, -⟩ := hsame.content f.content
  have hlsf' : sent.lsf = lsfAt source f.addr := hlsf
  have hnch' : sent.nch = f.nch source := hnch
  obtain ⟨hpasses, hspace, hpayload⟩ := h.sent_payload hcopy hcalled options ptr.cache stack
  have hside := h.sent_side hcopy hcalled options ptr.cache stack
  have hinfo : f.content.si.FitsFields sent.lsf sent.nch := by
    rw [hlsf', hnch']
    exact h.fits.info
  have hnext : sent.call.nextMdBegin = f.nextMdBegin source := by
    have hbegin : sent.call.mainDataBegin = f.begin := SentFrame.begin_eq hinfo hside
    have hguard : madBufferGuard = 8 := rfl
    have hbehind : nextMainDataBegin mem (p + f.length source) =
        nextMainDataBegin source (f.addr + f.length source) := hcopy.drop.nextBegin (by omega)
    have hsource : nextBeginOf mem (p + f.length source) f.begin (f.frameSpace source) =
        f.nextMdBegin source := by
      simp only [StreamFrame.nextMdBegin, nextBeginOf, hbehind]
    rw [LayerCall.nextMdBegin, hbegin, hspace]
    exact hsource
  have hmain : sent.mainBits = f.mainBits source := by
    rw [SentFrame.mainBits, hnch']
    show f.content.mainBits header _ (ngrOf header) = _
    rw [hngr, hbits]
    rfl
  refine ⟨⟨hpasses, hrate (headerAt_validRate h.rate.header_ok), ?_, ?_, hside, h.begin_le, ?_, ?_,
    ?_⟩, hpayload, hspace, hnext, hsame⟩
  · rw [hnch']
    exact h.fits.sameFrame hsame
  · rw [hlsf', hnch']
    exact h.checkCrc_none hcopy hcalled
  · rw [hpayload, hmain]
    exact h.main
  · rw [hmain, hspace, hnext]
    exact h.ends
  · rw [hspace]
    exact h.fits_mainData

end

/-- **A frame of a stream comes back**, and the reservoir waits for the next one. -/
theorem StreamFrame.Written.layer {stream : MadStream} (h : f.Written source before)
    (requantize : ℕ → ℤ → ℤ)
    (hcopy : CopyOf source f.addr mem p (f.length source + madBufferGuard))
    (hcalled : LayerCalled mem p header ptr) (hs : ReservoirInv ⟨stream, before⟩)
    (hmdLen : stream.mdLen = f.begin) (options : ℕ) (stack : Stack) :
    let r := (f.sent source mem p header options ptr.cache stack).call.result requantize stream
    f.Decoded source requantize r ∧ ReservoirInv ⟨r.stream, before ++ f.payload source⟩ ∧
      r.stream.mdLen = min (f.nextMdBegin source) (f.begin + f.frameSpace source) := by
  obtain ⟨sent, hsent⟩ : ∃ sent, sent = f.sent source mem p header options ptr.cache stack :=
    ⟨_, rfl⟩
  obtain ⟨hwritten, hpayload, hspace, hnext, hsame⟩ := h.sent hcopy hcalled options stack
  obtain ⟨hnch, hngr, -, -, -, hline⟩ := hsame.content f.content
  have hle : sent.begin ≤ stream.mdLen := by
    rw [hsent]
    exact hmdLen.ge
  have hdecoded : sent.Decoded requantize (sent.call.result requantize stream) :=
    SentFrame.Written.decoded (hsent ▸ hwritten) hs hle fun _ => 0
  have hdelivers : Delivers ⟨stream, before⟩ ((reservoirMachine requantize fun _ => 0).move
      ⟨stream, before⟩ sent.call) sent.call (sent.call.result requantize stream) :=
    hs.delivers (hsent ▸ hwritten.passes) fun _ => 0
  have hbegin : sent.call.mainDataBegin = f.begin := by
    rw [hsent]
    exact SentFrame.begin_eq hwritten.fits.info hwritten.side
  rw [← hsent] at hpayload hspace hnext ⊢
  have hlen := hdelivers.mdLen_eq
  have hmax := hdelivers.mdLen_le
  have hholds := hdelivers.holds
  rw [Machine.move_of_step _ rfl] at hlen hmax hholds
  rw [hpayload] at hholds
  refine ⟨⟨hdecoded.ok, ?_⟩, ⟨hmax, hholds⟩, ?_⟩
  · obtain ⟨call, hcall, herror, hlines⟩ := hdecoded.lines
    refine ⟨call, hcall, herror, ?_⟩
    intro gr hgr ch hch i hi
    have hlines := hlines gr (by rw [hsent]; exact hgr.trans_eq hngr.symm) ch
      (by rw [hsent]; exact hch.trans_eq hnch.symm) i hi
    rw [hlines, hsent]
    exact congrFun (congrFun (congrFun (hline requantize) gr) ch) i
  · rw [hlen, hnext, hspace, hbegin, hmdLen]
    split_ifs with hzero
    · rw [hzero]
    · rfl

/-- The reservoir waits for the frame behind. -/
theorem StreamFrame.Written.next {f' : StreamFrame} {before' : List UInt8}
    (h : f'.Written source before') (haddr : f'.addr = f.addr + f.length source)
    (hle : f'.begin ≤ f.begin + f.frameSpace source) :
    min (f.nextMdBegin source) (f.begin + f.frameSpace source) = f'.begin := by
  have hbehind := h.nextBegin
  rw [haddr] at hbehind
  have hnext : f.nextMdBegin source = f'.begin := by
    rw [StreamFrame.nextMdBegin, nextBeginOf, hbehind]
    exact if_neg (Nat.not_lt.mpr hle)
  rw [hnext]
  exact Nat.min_eq_left hle

end

end Mp3Decoder
