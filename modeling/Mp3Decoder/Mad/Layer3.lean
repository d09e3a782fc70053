import Mp3Decoder.Lib.Segment
import Mp3Decoder.Mad.MainData

/-!
# Decoding a Layer III frame (`mad_layer_III`)

The main data of a frame starts `main_data_begin` bytes before its side information, in what the
frames before it left in `stream->main_data`.  `madLayerIII` keeps this bit reservoir: it appends
the payload of the frame, has `III_decode` read the main data, and preloads the reservoir with what
the next header asks for.

Besides the decoder's state it returns the copy that appended to the reservoir and the call of
`III_decode`, if there were any.  A pointer into `main_data` is an index of that array.
-/

namespace Mp3Decoder

open Segment BigEndianBits

structure MadFrame where
  header : MadHeader
  options : ℕ

def madOptionIgnorecrc : ℕ := 0x0001

/-- `check CRC word`: the header and the error. -/
def checkCrc (mem : Mem) (frame : MadFrame) (ptr : MadBitptr) (len : ℕ) : MadHeader × MadError :=
  if frame.header.flags.protection then
    let crcCheck := madBitCrc mem ptr (len * 8) frame.header.crcCheck
    ({ frame.header with crcCheck },
      if crcCheck ≠ frame.header.crcTarget ∧ frame.options &&& madOptionIgnorecrc = 0 then .badcrc
      else .none)
  else (frame.header, .none)

/-- `find main_data of next frame`: its `main_data_begin`, or 0 when no Layer III header follows. -/
def peekMainDataBegin (mem : Mem) (nextFrame : ℕ) : ℕ :=
  let header := madBitRead mem (madBitInit nextFrame) 32
  if header.1 &&& 0xffe60000 = 0xffe20000 then
    let peek := if header.1 &&& 0x00010000 = 0 then madBitSkip mem header.2 16 else header.2
    (madBitRead mem peek (if header.1 &&& 0x00080000 ≠ 0 then 9 else 8)).1
  else 0

structure FoundMain where
  stream : MadStream
  ptr : MadBitptr
  frameUsed : ℕ
  /-- the index and the length of the copy to `main_data` -/
  append : Option (ℕ × ℕ)
  error : MadError

/-- `find main_data of this frame`, of `mdLen` bytes; `stream->ptr` is behind the side
information. -/
def findMainData (mem : Mem) (stream : MadStream) (mainDataBegin mdLen : ℕ) (error : MadError) :
    FoundMain :=
  if mainDataBegin = 0 then
    { stream := { stream with mdLen := 0 }
      ptr := stream.ptr, frameUsed := mdLen, append := none, error }
  else if mainDataBegin > stream.mdLen then
    { stream, ptr := madBitInit 0, frameUsed := 0, append := none
      error := firstError error true .baddataptr }
  else
    let ptr := madBitInit (stream.mdLen - mainDataBegin)
    if mdLen > mainDataBegin then
      let frameUsed := mdLen - mainDataBegin
      { stream := { stream with
          mainData := memcpy stream.mainData stream.mdLen mem (madBitNextbyte stream.ptr) frameUsed
          mdLen := stream.mdLen + frameUsed }
        ptr, frameUsed, append := some (stream.mdLen, frameUsed), error }
    else { stream, ptr, frameUsed := 0, append := none, error }

/-- `preload main_data buffer with up to 511 bytes for next frame(s)` -/
def preloadMainData (mem : Mem) (stream : MadStream) (mainDataBegin nextMdBegin mdLen frameFree : ℕ) :
    MadStream :=
  if frameFree ≥ nextMdBegin then
    { stream with
      mainData := memcpy stream.mainData 0 mem (stream.nextFrame - nextMdBegin) nextMdBegin
      mdLen := nextMdBegin }
  else
    let stream :=
      if mdLen < mainDataBegin then
        let extra := mainDataBegin - mdLen
        let extra := if extra + frameFree > nextMdBegin then nextMdBegin - frameFree else extra
        if extra < stream.mdLen then
          { stream with
            mainData := memcpy stream.mainData 0 stream.mainData (stream.mdLen - extra) extra
            mdLen := extra }
        else stream
      else { stream with mdLen := 0 }
    { stream with
      mainData := memcpy stream.mainData stream.mdLen mem (stream.nextFrame - frameFree) frameFree
      mdLen := stream.mdLen + frameFree }

/-- A call of `III_decode`: the memory it reads, its arguments, and what it returns. -/
structure DecodeCall where
  mem : Mem
  ptr : MadBitptr
  header : MadHeader
  si : SideInfo
  result : DecodeState

structure LayerResult where
  ok : Bool
  header : MadHeader
  stream : MadStream
  append : Option (ℕ × ℕ)
  call : Option DecodeCall

variable (requantize : ℕ → ℤ → ℤ)

/-- From `find main_data of next frame` on, behind the side information `info`. -/
def layerMainData (mem : Mem) (header : MadHeader) (stream : MadStream) (info : SideinfoState)
    (error : MadError) (stack : Stack) : LayerResult :=
  let mainDataBegin := info.si.mainDataBegin
  let peeked := peekMainDataBegin mem stream.nextFrame
  let frameSpace := stream.nextFrame - madBitNextbyte stream.ptr
  let nextMdBegin := if peeked > mainDataBegin + frameSpace then 0 else peeked
  let mdLen := mainDataBegin + frameSpace - nextMdBegin
  let found := findMainData mem stream mainDataBegin mdLen error
  let frameFree := frameSpace - found.frameUsed
  let data := if mainDataBegin = 0 then mem else found.stream.mainData
  let result := iiiDecode requantize data found.ptr header info.si (madNchannels header) stack
  let decoded : MadStream :=
    if found.error = .none then
      { found.stream with
        ancPtr := result.ptr.bits
        ancBitlen := UInt32.ofNat (mdLen * 8) - UInt32.ofNat info.dataBitlen }
    else found.stream
  let error := if found.error = .none then result.error else found.error
  let preloaded := preloadMainData mem decoded mainDataBegin nextMdBegin mdLen frameFree
  { ok := error = .none
    header
    stream := if error = .none then preloaded else { preloaded with error }
    append := found.append
    call := if found.error = .none then some ⟨data, found.ptr, header, info.si, result⟩ else none }

/-- `mad_layer_III` -/
def madLayerIII (mem : Mem) (stream : MadStream) (frame : MadFrame) (stack : Stack) :
    LayerResult :=
  let nch := madNchannels frame.header
  let lsf := frame.header.flags.lsfExt
  if (stream.nextFrame : ℤ) - madBitNextbyte stream.ptr < siLen lsf nch then
    { ok := false
      header := frame.header
      stream := { stream with error := .badframelen, mdLen := 0 }
      append := none
      call := none }
  else
    let crc := checkCrc mem frame stream.ptr (siLen lsf nch)
    let info := iiiSideinfo mem stream.ptr nch lsf stack.si
    let error := if crc.2 = .none then info.result else crc.2
    let header := { crc.1 with
      flags := { crc.1.flags with nprivateIII := crc.1.flags.nprivateIII ||| privBitlen lsf nch }
      privateBits := crc.1.privateBits ||| info.si.privateBits }
    layerMainData requantize mem header { stream with ptr := info.ptr } info error stack

/-! ### Its two ends -/

theorem peekMainDataBegin_le (mem : Mem) (nextFrame : ℕ) : peekMainDataBegin mem nextFrame ≤ 511 := by
  have hword := (atBit_init mem nextFrame).read 32
  rw [peekMainDataBegin]
  simp only
  have hread : ∀ {p : MadBitptr} {pos n : ℕ}, AtBit mem p pos → n ≤ 9 →
      (madBitRead mem p n).1 ≤ 511 := by
    intro p pos n hp hn
    rw [hp.read_value]
    have hlt := bitsVal_lt mem pos n
    have hpow : 2 ^ n ≤ 2 ^ 9 := Nat.pow_le_pow_right (by decide) hn
    omega
  split_ifs
  · exact hread (hword.1.skip 16) (by decide)
  · exact hread (hword.1.skip 16) (by decide)
  · exact hread hword.1 (by decide)
  · exact hread hword.1 (by decide)
  · exact Nat.zero_le 511

/-- A call fails the length check and empties the reservoir, or goes on behind the side
information. -/
theorem madLayerIII_cases {mem : Mem} {stream : MadStream} {start : ℕ}
    (hptr : InByte mem stream.ptr (8 * start)) (frame : MadFrame) (stack : Stack) :
    (stream.nextFrame < start + siLen frame.header.flags.lsfExt (madNchannels frame.header) ∧
      madLayerIII requantize mem stream frame stack =
        { ok := false
          header := frame.header
          stream := { stream with error := .badframelen, mdLen := 0 }
          append := none
          call := none }) ∨
    (start + siLen frame.header.flags.lsfExt (madNchannels frame.header) ≤ stream.nextFrame ∧
      ∃ header info error, madLayerIII requantize mem stream frame stack =
          layerMainData requantize mem header { stream with ptr := info.ptr } info error stack ∧
        InByte mem info.ptr
          (8 * (start + siLen frame.header.flags.lsfExt (madNchannels frame.header))) ∧
        info.si.mainDataBegin =
          bitsVal mem (8 * start) (if frame.header.flags.lsfExt then 8 else 9) ∧
        header.flags.incomplete = frame.header.flags.incomplete) := by
  have hstart : madBitNextbyte stream.ptr = start := by
    rw [hptr.1.nextbyte]
    omega
  have hnch : madNchannels frame.header = 1 ∨ madNchannels frame.header = 2 := by
    rw [madNchannels]
    split_ifs
    · exact .inr rfl
    · exact .inl rfl
  simp only [madLayerIII, hstart]
  by_cases hshort : (stream.nextFrame : ℤ) - start <
      siLen frame.header.flags.lsfExt (madNchannels frame.header)
  · left
    rw [if_pos hshort]
    exact ⟨by omega, rfl⟩
  · right
    rw [if_neg hshort]
    refine ⟨by omega, _, _, _, rfl, ?_, iiiSideinfo_mainDataBegin hptr.1 _ _, ?_⟩
    · rw [Nat.mul_add]
      exact iiiSideinfo_at hptr.1 hnch _ _
    · rw [checkCrc]
      split_ifs <;> rfl

end Mp3Decoder
