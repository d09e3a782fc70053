import Mp3Decoder.Mad.FrameLayout
import Mp3Decoder.Mad.MainDataEncode
import Mp3Decoder.Mad.Reservoir

/-!
# A stream that has been written

The main data of a frame starts in the payloads of the frames before it, where `main_data_begin`
says, and ends before that of the next frame.  An encoder lays out a stream of frames in this way.
`mad_layer_III`, called frame after frame, finds in the bit reservoir what the encoder has left there,
and so gets all of every frame back.
-/

namespace Mp3Decoder

open Segment Schedule BigEndianBits

/-! ### Bytes of payload -/

/-- A list of bytes as a store -/
def byteStore (bytes : List UInt8) (i : ℕ) : UInt8 := bytes.getD i 0

theorem byteStore_segment (m : Mem) (a : ℕ) {n j : ℕ} (hj : j < n) :
    byteStore (segment m a n) j = m (a + j) := by
  rw [byteStore, Segment.segment, List.getD_eq_getElem?_getD, List.getElem?_map, List.getElem?_range hj]
  rfl

/-- The bytes from `main_data_begin` bytes before a payload on, up to one in the payload -/
theorem byteStore_slice {before : List UInt8} (payload : List UInt8) {b k : ℕ}
    (hb : b ≤ before.length) {j : ℕ} (hj : j < b + k) :
    byteStore (before ++ payload) (before.length - b + j) =
      byteStore (before.rtake b ++ payload.take k) j := by
  have hlength : (before.rtake b).length = b := by
    rw [length_rtake, Nat.min_eq_left hb]
  rw [byteStore, byteStore, List.getD_eq_getElem?_getD, List.getD_eq_getElem?_getD]
  by_cases hin : j < b
  · rw [List.getElem?_append_left (by omega), List.getElem?_append_left (by omega), List.rtake,
      List.getElem?_drop]
  · rw [List.getElem?_append_right (by omega), List.getElem?_append_right (by omega), hlength,
      List.getElem?_take_of_lt (by omega)]
    congr 2
    omega

/-! ### One frame -/

/-- A frame of a stream: the call that decodes it, and what has been written in it -/
structure SentFrame where
  call : LayerCall
  content : FrameContent

namespace SentFrame

variable (f : SentFrame)

def lsf : Bool := f.call.header.flags.lsfExt

def nch : ℕ := madNchannels f.call.header

/-- `main_data_begin` of the frame -/
def begin : ℕ := f.content.si.mainDataBegin

def mainBits : List Bool := f.content.mainBits f.call.header f.nch (ngrOf f.call.header)

/-- The pointer that `mad_layer_III` starts with -/
def ptr : MadBitptr := ⟨f.call.start, f.call.cache, 8⟩

/-- The frame, behind the payloads `before`.  Its side information is in the frame, and its main data
from `main_data_begin` bytes before its payload on, up to where the next frame begins. -/
structure Written (before : List UInt8) : Prop where
  passes : f.call.Passes
  rate : f.call.header.ValidRate
  fits : f.content.Fits f.call.header f.nch
  crc : (checkCrc f.call.mem ⟨f.call.header, f.call.options⟩ f.ptr (siLen f.lsf f.nch)).2 = .none
  side : Spells f.call.mem (8 * f.call.start) (sideinfoBits f.lsf f.nch f.content.si)
  begin_le : f.begin ≤ before.length
  main : Spells (byteStore (before ++ f.call.payload)) (8 * (before.length - f.begin)) f.mainBits
  ends : f.mainBits.length ≤ 8 * (f.begin + (f.call.frameSpace - f.call.nextMdBegin))
  room : f.begin + f.call.frameSpace ≤ madBufferMdlen

/-- All that has been written in the frame comes back. -/
structure Decoded (requantize : ℕ → ℤ → ℤ) (r : LayerResult) : Prop where
  ok : r.ok = true
  lines : ∃ call, r.call = some call ∧ call.result.error = .none ∧
    ∀ gr < ngrOf f.call.header, ∀ ch < f.nch, ∀ i < 576,
      call.result.xr gr ch i = f.content.line f.call.header requantize gr ch i

end SentFrame

section
variable {requantize : ℕ → ℤ → ℤ} {mem : Mem} {stream : MadStream}

/-- The main data is found where the reservoir reaches back far enough. -/
theorem findMainData_found (mdLen : ℕ) {mainDataBegin start : ℕ} (hle : mainDataBegin ≤ stream.mdLen)
    (hptr : AtBit mem stream.ptr (8 * start)) :
    let found := findMainData mem stream mainDataBegin mdLen .none
    found.error = .none ∧
      AtBit (if mainDataBegin = 0 then mem else found.stream.mainData) found.ptr
        (8 * madBitNextbyte found.ptr) := by
  simp only [findMainData]
  by_cases hzero : mainDataBegin = 0
  · simp only [if_pos hzero]
    refine ⟨trivial, ?_⟩
    rw [hptr.nextbyte, show (8 * start + 7) / 8 = start by omega]
    exact hptr
  · have hinit : ∀ (m : Mem) (byte : ℕ),
        AtBit m (madBitInit byte) (8 * madBitNextbyte (madBitInit byte)) := by
      intro m byte
      rw [madBitNextbyte_init]
      exact atBit_init m byte
    simp only [if_neg hzero, if_neg (Nat.not_lt.mpr hle)]
    split_ifs
    · exact ⟨rfl, hinit _ _⟩
    · exact ⟨rfl, hinit _ _⟩

/-- The header, but for what the side information and its check leave in it -/
def SameFrame (header header' : MadHeader) : Prop :=
  ∃ crcCheck crcTarget privateBits nprivateIII, header' = { header with
    crcCheck, crcTarget, privateBits, flags := { header.flags with nprivateIII } }

/-- What `III_decode` is called with -/
structure CalledWith (requantize : ℕ → ℤ → ℤ) (header : MadHeader) (stack : Stack) (r : LayerResult)
    (call : DecodeCall) : Prop where
  call_eq : r.call = some call
  header_eq : SameFrame header call.header
  at_byte : AtBit call.mem call.ptr (8 * madBitNextbyte call.ptr)
  result_eq : call.result =
    iiiDecode requantize call.mem call.ptr call.header call.si (madNchannels call.header) stack
  ok_eq : r.ok = decide (call.result.error = .none)

theorem layerMainData_called {header header' : MadHeader} (hsame : SameFrame header header')
    {info : SideinfoState} (hle : info.si.mainDataBegin ≤ stream.mdLen) {start : ℕ}
    (hptr : AtBit mem stream.ptr (8 * start)) (stack : Stack) :
    ∃ call, CalledWith requantize header stack
      (layerMainData requantize mem header' stream info .none stack) call ∧ call.si = info.si := by
  simp only [layerMainData]
  generalize info.si.mainDataBegin + (stream.nextFrame - madBitNextbyte stream.ptr) -
    (if peekMainDataBegin mem stream.nextFrame > info.si.mainDataBegin +
      (stream.nextFrame - madBitNextbyte stream.ptr) then 0
    else peekMainDataBegin mem stream.nextFrame) = mdLen
  obtain ⟨hnone, hat⟩ := findMainData_found mdLen hle hptr
  generalize findMainData mem stream info.si.mainDataBegin mdLen .none = found at *
  simp only [hnone, if_true]
  exact ⟨_, ⟨rfl, hsame, hat, rfl, rfl⟩, rfl⟩

/-- `mad_layer_III`, up to the main data of a frame with nothing wrong -/
theorem madLayerIII_good (requantize : ℕ → ℤ → ℤ) (mem : Mem) (stream : MadStream)
    (frame : MadFrame) (stack : Stack)
    (hroom : ¬(stream.nextFrame : ℤ) - madBitNextbyte stream.ptr <
      siLen frame.header.flags.lsfExt (madNchannels frame.header))
    (hcrc : (checkCrc mem frame stream.ptr
      (siLen frame.header.flags.lsfExt (madNchannels frame.header))).2 = .none)
    (hinfo : (iiiSideinfo mem stream.ptr (madNchannels frame.header) frame.header.flags.lsfExt
      stack.si).result = .none) :
    let info := iiiSideinfo mem stream.ptr (madNchannels frame.header) frame.header.flags.lsfExt
      stack.si
    ∃ header, SameFrame frame.header header ∧ madLayerIII requantize mem stream frame stack =
      layerMainData requantize mem header { stream with ptr := info.ptr } info .none stack := by
  simp only [madLayerIII, if_neg hroom, hcrc, if_true, hinfo]
  refine ⟨_, ?_, rfl⟩
  rw [checkCrc]
  split_ifs
  · exact ⟨_, frame.header.crcTarget, _, _, rfl⟩
  · exact ⟨frame.header.crcCheck, frame.header.crcTarget, _, _, rfl⟩

/-- The call of `III_decode` for a frame whose side information has been written -/
theorem SentFrame.called (f : SentFrame) (hpasses : f.call.Passes)
    (hinfo : f.content.si.FitsFields f.lsf f.nch)
    (hcrc : (checkCrc f.call.mem ⟨f.call.header, f.call.options⟩ f.ptr
      (siLen f.lsf f.nch)).2 = .none)
    (hside : Spells f.call.mem (8 * f.call.start) (sideinfoBits f.lsf f.nch f.content.si))
    (hle : f.begin ≤ stream.mdLen) :
    ∃ call, CalledWith requantize f.call.header f.call.stack (f.call.result requantize stream) call ∧
      f.content.si.Says f.lsf f.nch call.si := by
  have hptr : AtBit f.call.mem f.ptr (8 * f.call.start) :=
    ⟨Nat.le_refl 8, rfl, fun _ hlt => absurd hlt (Nat.lt_irrefl 8)⟩
  have hnext : madBitNextbyte (f.call.enter stream).ptr = f.call.start := by
    simp only [madBitNextbyte, LayerCall.enter, if_true]
  have hlong : ¬(((f.call.enter stream).nextFrame : ℤ) - madBitNextbyte (f.call.enter stream).ptr <
      siLen f.call.header.flags.lsfExt (madNchannels f.call.header)) := by
    rw [LayerCall.Passes, LayerCall.payloadStart] at hpasses
    rw [hnext]
    show ¬((f.call.nextFrame : ℤ) - f.call.start < _)
    omega
  obtain ⟨info, hinfoEq⟩ : ∃ info, info = iiiSideinfo f.call.mem f.ptr f.nch f.lsf f.call.stack.si :=
    ⟨_, rfl⟩
  obtain ⟨hresult, hsaid, -⟩ := iiiSideinfo_written hptr f.call.stack.si hinfo hside
  obtain ⟨header, hsame, hlayer⟩ : ∃ header, SameFrame f.call.header header ∧
      f.call.result requantize stream = layerMainData requantize f.call.mem header
        { f.call.enter stream with ptr := info.ptr } info .none f.call.stack := by
    rw [hinfoEq]
    exact madLayerIII_good requantize f.call.mem (f.call.enter stream)
      ⟨f.call.header, f.call.options⟩ f.call.stack hlong hcrc hresult
  have hend : AtBit f.call.mem info.ptr (8 * (f.call.start + siLen f.lsf f.nch)) := by
    rw [Nat.mul_add, hinfoEq]
    exact (iiiSideinfo_at hptr (madNchannels_cases f.call.header) f.lsf f.call.stack.si).1
  rw [← hinfoEq] at hsaid
  have hbegin : info.si.mainDataBegin ≤ stream.mdLen := by
    rw [hsaid.mainDataBegin]
    exact hle
  obtain ⟨stream', hstream⟩ : ∃ stream' : MadStream,
    stream' = { f.call.enter stream with ptr := info.ptr } := ⟨_, rfl⟩
  have hmdLen : stream'.mdLen = stream.mdLen := by
    rw [hstream]
    rfl
  have hptr' : stream'.ptr = info.ptr := by rw [hstream]
  rw [← hmdLen] at hbegin
  rw [← hptr'] at hend
  obtain ⟨call, hcall, hsi⟩ : ∃ call, CalledWith requantize f.call.header f.call.stack
      (layerMainData requantize f.call.mem header stream' info .none f.call.stack) call ∧
      call.si = info.si := layerMainData_called hsame hbegin hend f.call.stack
  rw [hlayer, ← hstream]
  exact ⟨call, hcall, hsi ▸ hsaid⟩

/-- The copy to the reservoir is no longer than the payload. -/
theorem LayerCall.copy_le (c : LayerCall) (stream : MadStream) {dest len : ℕ}
    (happend : (c.result requantize stream).append = some (dest, len)) :
    dest + len ≤ stream.mdLen + c.frameSpace := by
  have hptr : InByte c.mem (c.enter stream).ptr (8 * c.start) :=
    ⟨⟨Nat.le_refl 8, rfl, fun _ hlt => absurd hlt (Nat.lt_irrefl 8)⟩, Nat.succ_pos 7⟩
  rcases madLayerIII_cases requantize hptr ⟨c.header, c.options⟩ c.stack with
    ⟨-, hresult⟩ | ⟨hpasses, header, info, error, hresult, hinfo, -, -⟩
  · rw [LayerCall.result, hresult] at happend
    cases happend
  · have hstart : madBitNextbyte info.ptr = c.payloadStart := by
      rw [hinfo.1.nextbyte]
      show (8 * c.payloadStart + 7) / 8 = c.payloadStart
      omega
    rw [LayerCall.result, hresult] at happend
    simp only [layerMainData, findMainData, hstart] at happend
    have hspace : (c.enter stream).nextFrame - c.payloadStart = c.frameSpace := rfl
    have hmdLen : (c.enter stream).mdLen = stream.mdLen := rfl
    rw [hspace, hmdLen] at happend
    generalize peekMainDataBegin c.mem (c.enter stream).nextFrame = peeked at happend
    split_ifs at happend
    · cases happend
      omega
    · cases happend
      omega

/-! ### The frame in the reservoir -/

variable {header header' : MadHeader} {c : FrameContent}

theorem FrameContent.Fits.sameFrame {nch : ℕ} (h : c.Fits header nch)
    (hsame : SameFrame header header') : c.Fits header' nch := by
  obtain ⟨_, _, _, _, rfl⟩ := hsame
  exact ⟨h.info, fun gr hgr ch hch => ⟨(h.channels gr hgr ch hch).scale,
    (h.channels gr hgr ch hch).words, (h.channels gr hgr ch hch).part23Length⟩, h.stereo⟩

/-- The same channels, the same bits and the same lines -/
theorem SameFrame.content (hsame : SameFrame header header') (c : FrameContent) :
    madNchannels header' = madNchannels header ∧ ngrOf header' = ngrOf header ∧
      header'.flags.lsfExt = header.flags.lsfExt ∧ (header.ValidRate → header'.ValidRate) ∧
      c.mainBits header' = c.mainBits header ∧
      ∀ requantize, c.line header' requantize = c.line header requantize := by
  obtain ⟨_, _, _, _, rfl⟩ := hsame
  exact ⟨rfl, rfl, rfl, id, rfl, fun _ => rfl⟩

/-- `main_data_begin` stands in front of the side information. -/
theorem SentFrame.begin_eq {f : SentFrame} (hinfo : f.content.si.FitsFields f.lsf f.nch)
    (hside : Spells f.call.mem (8 * f.call.start) (sideinfoBits f.lsf f.nch f.content.si)) :
    f.call.mainDataBegin = f.begin := by
  obtain ⟨hstart, -⟩ := spells_append.mp hside
  exact ((spells_field_append hinfo.mainDataBegin).mp hstart).1

/-- **One frame comes back**, from a reservoir that holds the end of the payloads and is long
enough. -/
theorem SentFrame.Written.decoded {f : SentFrame} {s : ReservoirState} (h : f.Written s.history)
    (hs : ReservoirInv s) (hle : f.begin ≤ s.stream.mdLen) (mainData : Mem) :
    f.Decoded requantize (f.call.result requantize s.stream) := by
  obtain ⟨call, hcall, hsaid⟩ : ∃ call, CalledWith requantize f.call.header f.call.stack
      (f.call.result requantize s.stream) call ∧ f.content.si.Says f.lsf f.nch call.si :=
    f.called h.passes h.fits.info h.crc h.side hle
  have hdelivers : Delivers s ((reservoirMachine requantize mainData).move s f.call) f.call
      (f.call.result requantize s.stream) := hs.delivers h.passes mainData
  have hreads := hdelivers.reads call hcall.call_eq
  rw [SentFrame.begin_eq h.fits.info h.side] at hreads
  -- the main data, where `III_decode` reads it
  obtain ⟨n, hn⟩ : ∃ n, n = f.begin + (f.call.frameSpace - f.call.nextMdBegin) := ⟨_, rfl⟩
  have hends := h.ends
  rw [← hn] at hreads hends
  have hbytes : ∀ j < n, byteStore (s.history ++ f.call.payload) (s.history.length - f.begin + j) =
      call.mem (madBitNextbyte call.ptr + j) := by
    intro j hj
    rw [byteStore_slice f.call.payload h.begin_le (hn ▸ hj), ← hreads, byteStore_segment _ _ hj]
  have hmain : Spells call.mem (8 * madBitNextbyte call.ptr + 0) f.mainBits :=
    Spells.of_bytes hbytes (by omega) h.main
  obtain ⟨hnch, hngr, hlsf, hrate, hbits, hline⟩ := hcall.header_eq.content f.content
  rw [Nat.add_zero] at hmain
  obtain ⟨herror, -, hlines⟩ := iiiDecode_written requantize hcall.at_byte (hrate h.rate)
    (by rw [hnch]; exact h.fits.sameFrame hcall.header_eq) (by rw [hnch, hlsf]; exact hsaid)
    (by rw [hnch, hngr, hbits]; exact hmain) f.call.stack
  rw [← hcall.result_eq] at herror hlines
  refine ⟨?_, call, hcall.call_eq, herror, ?_⟩
  · rw [hcall.ok_eq, herror]
    rfl
  · intro gr hgr ch hch i hi
    rw [hlines gr (hngr.symm ▸ hgr) ch (hnch.symm ▸ hch) i hi, hline]

end

/-! ### The frame behind a frame -/

/-- The first half of the header of a Layer III frame: the sync word, the version, the layer and the
protection bit -/
def headerStart (mpeg25 lsf crc : Bool) : List Bool :=
  field 11 0x7ff ++ [!mpeg25, !lsf] ++ field 2 1 ++ [!crc]

/-- The second half of the header and the CRC word are for the frame itself. -/
def behindHeaderStart (crc : Bool) : ℕ := 16 + if crc then 16 else 0

/-- **`main_data_begin` of the next frame** is found behind its header. -/
theorem nextMainDataBegin_written {mem : Mem} {f : ℕ} {mpeg25 lsf crc : Bool} {other : List Bool}
    {begin : ℕ} (hother : other.length = behindHeaderStart crc)
    (hbegin : begin < 2 ^ beginWidth lsf)
    (h : Spells mem (8 * f) (headerStart mpeg25 lsf crc ++ other ++ field (beginWidth lsf) begin)) :
    nextMainDataBegin mem f = begin := by
  obtain ⟨hfirst, hfield⟩ := spells_append.mp h
  obtain ⟨hstart, -⟩ := spells_append.mp hfirst
  have hstartLength : (headerStart mpeg25 lsf crc).length = 16 := rfl
  rw [List.length_append, hstartLength, hother] at hfield
  have hvalue := hfield.field_of_lt hbegin
  obtain ⟨hfields, hcrc⟩ := spells_append.mp hstart
  obtain ⟨hversion, hlayer⟩ := spells_append.mp hfields
  obtain ⟨hsync, -, hlsf, -⟩ := spells_append.mp hversion
  have hsyncField : headerField mem f 0 11 = 0x7ff := hsync.field_of_lt (by decide)
  have hlayerField : layerAt mem f = 3 := by
    have hone : headerField mem f 13 2 = 1 := hlayer.field_of_lt (by decide)
    rw [layerAt, hone]
  have hlsfField : lsfAt mem f = lsf := by
    have hbit : headerField mem f 12 1 = (!lsf).toNat := (bitsVal_one mem _).trans hlsf
    rw [lsfAt, hbit]
    cases lsf <;> rfl
  have hcrcField : protectionAt mem f = crc := by
    have hbit : headerField mem f 15 1 = (!crc).toNat := (bitsVal_one mem _).trans hcrc.bit
    rw [protectionAt, hbit]
    cases crc <;> rfl
  have hplace : 8 * headerEnd mem f = 8 * f + (16 + behindHeaderStart crc) := by
    rw [headerEnd, hcrcField, behindHeaderStart]
    split_ifs <;> omega
  rw [nextMainDataBegin, if_pos ⟨hsyncField, hlayerField⟩, mainDataBeginAt, hlsfField, hplace]
  exact hvalue

/-- The frame `f'` stands behind the frame `f`: its header, as far as `main_data_begin`, and its main
data behind that of `f`. -/
structure SentFrame.Precedes (f f' : SentFrame) : Prop where
  begin_lt : f'.begin < 2 ^ beginWidth f'.lsf
  begin_le : f'.begin ≤ f.begin + f.call.frameSpace
  header : ∃ mpeg25 crc other, other.length = behindHeaderStart crc ∧
    Spells f.call.mem (8 * f.call.nextFrame)
      (headerStart mpeg25 f'.lsf crc ++ other ++ field (beginWidth f'.lsf) f'.begin)

theorem SentFrame.Precedes.nextMdBegin {f f' : SentFrame} (h : f.Precedes f')
    (hbegin : f.call.mainDataBegin = f.begin) : f.call.nextMdBegin = f'.begin := by
  obtain ⟨mpeg25, crc, other, hother, hspells⟩ := h.header
  have hnext := nextMainDataBegin_written hother h.begin_lt hspells
  have hle := h.begin_le
  rw [LayerCall.nextMdBegin, nextBeginOf, hnext, hbegin]
  exact if_neg (by omega)

/-! ### The stream -/

/-- Frames, one behind the other, behind the payloads `before` -/
def Sent : List UInt8 → List SentFrame → Prop
  | _, [] => True
  | before, f :: rest => f.Written before ∧ (∀ f' ∈ rest.head?, f.Precedes f') ∧
    Sent (before ++ f.call.payload) rest

/-- The reservoir waits for the first of the frames. -/
structure Awaits (s : ReservoirState) (frames : List SentFrame) : Prop where
  inv : ReservoirInv s
  sent : Sent s.history frames
  mdLen_eq : ∀ f ∈ frames.head?, s.stream.mdLen = f.begin

section
variable {requantize : ℕ → ℤ → ℤ}

/-- **Step lemma.**  The first frame comes back, its copy fits, and the reservoir waits for the next
one. -/
theorem Awaits.step {s : ReservoirState} {f : SentFrame} {rest : List SentFrame}
    (h : Awaits s (f :: rest)) (mainData : Mem) :
    f.Decoded requantize (f.call.result requantize s.stream) ∧ CallFits requantize s f.call ∧
      Awaits ((reservoirMachine requantize mainData).move s f.call) rest := by
  obtain ⟨hwritten, hnext, hsent⟩ := h.sent
  have hmdLen : s.stream.mdLen = f.begin := h.mdLen_eq f rfl
  have hbegin : f.call.mainDataBegin = f.begin :=
    SentFrame.begin_eq hwritten.fits.info hwritten.side
  have hdelivers : Delivers s ((reservoirMachine requantize mainData).move s f.call) f.call
      (f.call.result requantize s.stream) := h.inv.delivers hwritten.passes mainData
  have hhistory : ((reservoirMachine requantize mainData).move s f.call).history =
      s.history ++ f.call.payload := by
    rw [Machine.move_of_step _ rfl, if_pos hwritten.passes]
  refine ⟨hwritten.decoded h.inv hmdLen.ge mainData, ?_, ?_, ?_, ?_⟩
  · intro dest len happend
    have hle := f.call.copy_le s.stream happend
    have hroom := hwritten.room
    omega
  · exact ⟨hdelivers.mdLen_le, hhistory ▸ hdelivers.holds⟩
  · rw [hhistory]
    exact hsent
  · intro f' hf'
    have hprecedes := hnext f' hf'
    have hle := hprecedes.begin_le
    rw [hdelivers.mdLen_eq, hprecedes.nextMdBegin hbegin, hbegin, hmdLen]
    split_ifs <;> omega

/-- Run lemma, from any reservoir that waits for the frames -/
theorem Awaits.run {s : ReservoirState} {frames : List SentFrame} (h : Awaits s frames)
    (mainData : Mem) {i : ℕ} {f : SentFrame} (hf : frames[i]? = some f) :
    let before := (reservoirMachine requantize mainData).runFrom s ((frames.take i).map SentFrame.call)
    f.Decoded requantize (f.call.result requantize before.stream) ∧
      CallFits requantize before f.call := by
  induction frames generalizing s i with
  | nil => cases hf
  | cons first rest ih =>
    obtain ⟨hdecoded, hfits, hawaits⟩ : first.Decoded requantize _ ∧ _ ∧ _ := h.step mainData
    cases i with
    | zero =>
      cases hf
      exact ⟨hdecoded, hfits⟩
    | succ i =>
      rw [List.take_succ_cons, List.map_cons, Machine.runFrom_cons]
      exact ih hawaits hf

end

/-- **A stream that has been written is decoded.**  When `mad_layer_III` is called for frame after
frame, every frame comes back, and no copy to the reservoir runs over. -/
theorem stream_decoded (requantize : ℕ → ℤ → ℤ) (mainData : Mem) {frames : List SentFrame}
    (h : Sent [] frames) {i : ℕ} {f : SentFrame} (hf : frames[i]? = some f) :
    let s := (reservoirMachine requantize mainData).run ((frames.take i).map SentFrame.call)
    f.Decoded requantize (f.call.result requantize s.stream) ∧ CallFits requantize s f.call := by
  have hawaits : Awaits (reservoirMachine requantize mainData).init frames := by
    refine ⟨reservoirInv_init mainData, h, ?_⟩
    intro f hf
    cases frames with
    | nil => cases hf
    | cons first rest =>
      cases hf
      exact (Nat.le_zero.mp h.1.begin_le).symm
  exact hawaits.run mainData hf

/-- The same frame, with the first three bytes of its main data before it -/
def reachingFrame : FrameContent :=
  { copiedFrame with si := { copiedFrame.si with mainDataBegin := 3 } }

theorem reachingFrame_fits : reachingFrame.Fits monoHeader 1 :=
  ⟨⟨by decide, copiedFrame_fits.info.privateBits, copiedFrame_fits.info.scfsi,
    copiedFrame_fits.info.channels⟩,
    fun gr hgr ch hch => ⟨(copiedFrame_fits.channels gr hgr ch hch).scale,
      (copiedFrame_fits.channels gr hgr ch hch).words,
      (copiedFrame_fits.channels gr hgr ch hch).part23Length⟩, copiedFrame_fits.stereo⟩

/-- A frame in a store of its own -/
def frameOf (content : FrameContent) (behind : List Bool) (nextFrame : ℕ) : SentFrame where
  call := {
    mem := pack (sideinfoBits false 1 content.si ++ behind), header := monoHeader, options := 0
    start := 0, cache := 0, nextFrame
    stack := ⟨{}, fun _ _ _ => 7, fun _ _ _ => 7⟩ }
  content

/-- The main data of both frames -/
def copiedBits : List Bool := copiedFrame.mainBits monoHeader 1 2

/-- The payload ends with the first three bytes of the next frame's main data. -/
def firstFrame : SentFrame :=
  frameOf copiedFrame (copiedBits ++ field 5 0 ++ copiedBits.take 24 ++
    (headerStart false false false ++ field 16 0 ++ field (beginWidth false) 3)) 27

def secondFrame : SentFrame := frameOf reachingFrame (copiedBits.drop 24) 21

theorem frameOf_side (content : FrameContent) (behind : List Bool) (nextFrame : ℕ) :
    Spells (frameOf content behind nextFrame).call.mem 0 (sideinfoBits false 1 content.si) :=
  (spells_append.mp (spells_pack _)).1

theorem twoFrames_sent : Sent [] [firstFrame, secondFrame] := by
  have hrate : monoHeader.ValidRate := ⟨fun hmpeg25 => absurd hmpeg25 (by decide), 0, by decide, rfl⟩
  refine ⟨⟨by decide, hrate, copiedFrame_fits, rfl, frameOf_side _ _ _, by decide, ?_, ?_,
    by decide⟩, ?_, ⟨by decide, hrate, reachingFrame_fits, rfl, frameOf_side _ _ _, ?_, ?_, ?_,
    by decide⟩, ?_, trivial⟩
  · decide +kernel
  · decide +kernel
  · intro f' hf'
    cases hf'
    exact ⟨by decide, by decide, false, false, field 16 0, rfl, by decide +kernel⟩
  · decide +kernel
  · decide +kernel
  · decide +kernel
  · intro f' hf'
    cases hf'

theorem stream_decoded_twoFrames :
    let requantize : ℕ → ℤ → ℤ := fun value exp => value * exp
    let s := (reservoirMachine requantize fun _ => 0).run [firstFrame.call]
    secondFrame.Decoded requantize (secondFrame.call.result requantize s.stream) ∧
      CallFits requantize s secondFrame.call :=
  stream_decoded (fun value exp => value * exp) (fun _ => 0) twoFrames_sent (i := 1) rfl

end Mp3Decoder
