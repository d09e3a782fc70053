import Mp3Decoder.Mad.Stream

/-!
# Frame headers (`frame.c`)

`madHeaderDecode` searches the buffer for the next frame header, reads it, finds the frame's length
and so where the next frame starts.  The passes of its `sync:` loop are `headerPass`.

The flags are a record instead of a bit mask.  `duration` is left out, as nothing here reads it.
The products are 32-bit.
-/

namespace Mp3Decoder

structure MadFlags where
  /-- `MAD_FLAG_NPRIVATE_III`: number of Layer III private bits -/
  nprivateIII : ℕ := 0
  incomplete : Bool := false
  protection : Bool := false
  copyright : Bool := false
  original : Bool := false
  padding : Bool := false
  freeformat : Bool := false
  lsfExt : Bool := false
  mpeg25Ext : Bool := false
  deriving DecidableEq, Repr

structure MadHeader where
  layer : ℕ := 0
  mode : ℕ := 0
  modeExtension : ℕ := 0
  emphasis : ℕ := 0
  bitrate : ℕ := 0
  samplerate : ℕ := 0
  crcCheck : UInt16 := 0
  crcTarget : UInt16 := 0
  flags : MadFlags := {}
  privateBits : ℕ := 0
  deriving DecidableEq, Repr

def madHeaderInit : MadHeader := {}

def madPrivateHeader : ℕ := 0x0100

def bitrateTable : List (List ℕ) := [
  -- MPEG-1, Layers I, II and III
  [0, 32000, 64000, 96000, 128000, 160000, 192000, 224000,
    256000, 288000, 320000, 352000, 384000, 416000, 448000],
  [0, 32000, 48000, 56000, 64000, 80000, 96000, 112000,
    128000, 160000, 192000, 224000, 256000, 320000, 384000],
  [0, 32000, 40000, 48000, 56000, 64000, 80000, 96000,
    112000, 128000, 160000, 192000, 224000, 256000, 320000],
  -- MPEG-2 LSF, Layer I and Layers II & III
  [0, 32000, 48000, 56000, 64000, 80000, 96000, 112000,
    128000, 144000, 160000, 176000, 192000, 224000, 256000],
  [0, 8000, 16000, 24000, 32000, 40000, 48000, 56000,
    64000, 80000, 96000, 112000, 128000, 144000, 160000]]

def samplerateTable : List ℕ := [44100, 48000, 32000]

/-- `bitrate_table[row][index]` -/
def bitrateEntry (row index : ℕ) : ℕ := (bitrateTable.getD row []).getD index 0

/-- The row of `bitrate_table` that `decode_header` uses. -/
def bitrateRow (lsf : Bool) (layer : ℕ) : ℕ := if lsf then 3 + (layer >>> 1) else layer - 1

/-- The sample rate that `decode_header` computes. -/
def samplerateOf (lsf mpeg25 : Bool) (index : ℕ) : ℕ :=
  let samplerate := samplerateTable.getD index 0
  if lsf then if mpeg25 then samplerate / 2 / 2 else samplerate / 2 else samplerate

/-- `decode_header` from the padding bit on: the rest of the header and the CRC word. -/
def decodeHeaderRest (mem : Mem) (header : MadHeader) (ptr : MadBitptr) : MadHeader × MadBitptr :=
  -- padding_bit, private_bit, mode, mode_extension, copyright, original/copy, emphasis
  let padding := madBitRead mem ptr 1
  let priv := madBitRead mem padding.2 1
  let mode := madBitRead mem priv.2 2
  let modeExtension := madBitRead mem mode.2 2
  let copyright := madBitRead mem modeExtension.2 1
  let original := madBitRead mem copyright.2 1
  let emphasis := madBitRead mem original.2 2
  let header := { header with
    flags := { header.flags with
      padding := decide (padding.1 ≠ 0)
      copyright := decide (copyright.1 ≠ 0)
      original := decide (original.1 ≠ 0) }
    privateBits := if priv.1 ≠ 0 then madPrivateHeader else 0
    mode := 3 - mode.1
    modeExtension := modeExtension.1
    emphasis := emphasis.1 }
  -- crc_check
  if header.flags.protection then
    let r := madBitRead mem emphasis.2 16
    ({ header with crcTarget := UInt16.ofNat r.1 }, r.2)
  else (header, emphasis.2)

/-- `decode_header`: `true` for a result of 0, `false` for -1. -/
def decodeHeader (mem : Mem) (header : MadHeader) (stream : MadStream) :
    Bool × MadHeader × MadStream :=
  let fail (header : MadHeader) (ptr : MadBitptr) (error : MadError) :=
    (false, header, { stream with ptr, error })
  -- syncword, MPEG 2.5 indicator (really part of syncword), ID
  let mpeg25 := madBitRead mem (madBitSkip mem stream.ptr 11) 1
  let id := madBitRead mem mpeg25.2 1
  let header := { header with
    flags := { mpeg25Ext := decide (mpeg25.1 = 0), lsfExt := decide (id.1 = 0) }
    privateBits := 0 }
  if id.1 ≠ 0 ∧ mpeg25.1 = 0 then fail header id.2 .lostsync else
  -- layer
  let r := madBitRead mem id.2 2
  let layer := 4 - r.1
  let header := { header with layer }
  if layer = 4 then fail header r.2 .badlayer else
  -- protection_bit
  let r := madBitRead mem r.2 1
  let header := if r.1 = 0 then
      { header with
        flags := { header.flags with protection := true }
        crcCheck := madBitCrc mem r.2 16 0xffff }
    else header
  -- bitrate_index
  let r := madBitRead mem r.2 4
  if r.1 = 15 then fail header r.2 .badbitrate else
  let header := { header with
    bitrate := bitrateEntry (bitrateRow header.flags.lsfExt layer) r.1 }
  -- sampling_frequency
  let r := madBitRead mem r.2 2
  if r.1 = 3 then fail header r.2 .badsamplerate else
  let header := { header with
    samplerate := samplerateOf header.flags.lsfExt header.flags.mpeg25Ext r.1 }
  let rest := decodeHeaderRest mem header r.2
  (true, rest.1, { stream with ptr := rest.2 })

/-- `slots_per_frame` -/
def slotsPerFrame (header : MadHeader) : ℕ :=
  if header.layer = 3 ∧ header.flags.lsfExt then 72 else 144

def padSlot (header : MadHeader) : ℕ := if header.flags.padding then 1 else 0

/-- `free_bitrate`'s rate in kbit/s for a next header `N` bytes on. -/
def rateFor (header : MadHeader) (n : ℕ) : ℕ :=
  if header.layer = 1 then header.samplerate * (n - 4 * padSlot header + 4) % 2 ^ 32 / 48 / 1000
  else header.samplerate * (n - padSlot header + 1) % 2 ^ 32 / slotsPerFrame header / 1000

/-- The header at a sync word is of the layer and sample rate of `header`. -/
def sameFormat (mem : Mem) (header : MadHeader) (stream : MadStream) : Bool :=
  let peek := decodeHeader mem header stream
  peek.1 && peek.2.1.layer == header.layer && peek.2.1.samplerate == header.samplerate

/-- The loop of `free_bitrate`; each round moves at least one byte on. -/
def freeBitrateLoop (mem : Mem) (header : MadHeader) (stream : MadStream) (rate : ℕ) : ℕ → ℕ
  | 0 => rate
  | fuel + 1 =>
    match madStreamSync mem stream with
    | none => rate
    | some peek =>
      let next := { peek with ptr := madBitSkip mem peek.ptr 8 }
      if sameFormat mem header peek then
        let rate := rateFor header (madBitNextbyte peek.ptr - peek.thisFrame)
        if rate ≥ 8 then rate else freeBitrateLoop mem header next rate fuel
      else freeBitrateLoop mem header next rate fuel

/-- `free_bitrate`: the stream with the rate found, or with an error and `false`. -/
def freeBitrate (mem : Mem) (stream : MadStream) (header : MadHeader) : Bool × MadStream :=
  let rate := freeBitrateLoop mem header stream 0 (stream.bufend + 1)
  if rate < 8 ∨ header.layer = 3 ∧ rate > 640 then (false, { stream with error := .lostsync })
  else (true, { stream with freerate := rate * 1000 % 2 ^ 32 })

/-- `N`, the length of the frame in bytes. -/
def frameLength (header : MadHeader) : ℕ :=
  if header.layer = 1 then (12 * header.bitrate % 2 ^ 32 / header.samplerate + padSlot header) * 4
  else slotsPerFrame header * header.bitrate % 2 ^ 32 / header.samplerate + padSlot header

inductive HeaderOutcome
  | fail (header : MadHeader) (stream : MadStream)
  | done (header : MadHeader) (stream : MadStream)
  /-- `goto sync` -/
  | again (header : MadHeader) (stream : MadStream)

/-- `synchronize`: the frame candidate, or the stream with its error. -/
def synchronize (mem : Mem) (stream : MadStream) (ptr : ℕ) : Except MadStream (MadStream × ℕ) :=
  if stream.sync then
    if (stream.bufend : ℤ) - ptr < madBufferGuard then
      .error { stream with nextFrame := ptr, error := .buflen }
    else if ¬ isSync mem ptr then
      -- mark point where frame sync word was expected
      .error { stream with thisFrame := ptr, nextFrame := ptr + 1, error := .lostsync }
    else .ok (stream, ptr)
  else
    let stream := { stream with ptr := madBitInit ptr }
    match madStreamSync mem stream with
    | none =>
      .error { stream with
        nextFrame :=
          if (stream.bufend : ℤ) - stream.nextFrame ≥ madBufferGuard then
            stream.bufend - madBufferGuard
          else stream.nextFrame
        error := .buflen }
    | some stream => .ok (stream, madBitNextbyte stream.ptr)

/-- `calculate free bit rate`: the header with the stream's free bit rate, or a failure. -/
def setFreeRate (mem : Mem) (header : MadHeader) (stream : MadStream) :
    Bool × MadHeader × MadStream :=
  if header.bitrate = 0 then
    let found :=
      if stream.freerate = 0 ∨ !stream.sync ∨ header.layer = 3 ∧ stream.freerate > 640000 then
        freeBitrate mem stream header
      else (true, stream)
    if found.1 then
      (true, { header with
        bitrate := found.2.freerate, flags := { header.flags with freeformat := true } }, found.2)
    else (false, header, found.2)
  else (true, header, stream)

/-- `begin processing`: a pass from a sync word at `ptr` on. -/
def processFrame (mem : Mem) (header : MadHeader) (stream : MadStream) (ptr : ℕ) :
    HeaderOutcome :=
  let stream := { stream with
    thisFrame := ptr
    nextFrame := ptr + 1  -- possibly bogus sync word
    ptr := madBitInit ptr }
  let d := decodeHeader mem header stream
  if !d.1 then .fail d.2.1 d.2.2 else
  let f := setFreeRate mem d.2.1 d.2.2
  if !f.1 then .fail f.2.1 f.2.2 else
  let header := f.2.1
  let stream := f.2.2
  -- verify there is enough data left in buffer to decode this frame
  if ((frameLength header + madBufferGuard : ℕ) : ℤ) > (stream.bufend : ℤ) - stream.thisFrame then
    .fail header { stream with nextFrame := stream.thisFrame, error := .buflen }
  else
  let stream := { stream with nextFrame := stream.thisFrame + frameLength header }
  let complete := { header with flags := { header.flags with incomplete := true } }
  if stream.sync then .done complete stream
  -- check that a valid frame header follows this frame
  else if isSync mem stream.nextFrame then .done complete { stream with sync := true }
  else .again header { stream with nextFrame := stream.thisFrame + 1 }

/-- One pass from the label `sync:` with the local variable `ptr`. -/
def headerPass (mem : Mem) (header : MadHeader) (stream : MadStream) (ptr : ℕ) : HeaderOutcome :=
  match synchronize mem stream ptr with
  | .error stream => .fail header stream
  | .ok (stream, ptr) => processFrame mem header stream ptr

/-- The `sync:` loop.  A pass that goes back has moved `next_frame` on inside the buffer. -/
def headerLoop (mem : Mem) (header : MadHeader) (stream : MadStream) (ptr : ℕ) :
    ℕ → HeaderOutcome
  | 0 => .again header stream
  | fuel + 1 =>
    match headerPass mem header stream ptr with
    | .again header stream => headerLoop mem header stream stream.nextFrame fuel
    | outcome => outcome

/-- `mad_header_decode`: `true` for a result of 0. -/
def madHeaderDecode (mem : Mem) (header : MadHeader) (stream : MadStream) :
    Bool × MadHeader × MadStream :=
  let fail (header : MadHeader) (stream : MadStream) := (false, header, { stream with sync := false })
  let ptr := stream.nextFrame
  if ptr = 0 then fail header { stream with error := .bufptr } else
  -- stream skip
  let ptr := if stream.skiplen ≠ 0 ∧ !stream.sync then stream.thisFrame else ptr
  if stream.skiplen ≠ 0 ∧ (stream.bufend : ℤ) - ptr < stream.skiplen then
    fail header { stream with
      skiplen := stream.skiplen - (stream.bufend - ptr)
      nextFrame := stream.bufend
      error := .buflen }
  else
  let ptr := ptr + stream.skiplen
  let stream :=
    if stream.skiplen ≠ 0 then { stream with skiplen := 0, sync := true } else stream
  match headerLoop mem header stream ptr (stream.bufend + 1 - ptr + 1) with
  | .done header stream => (true, header, stream)
  | .fail header stream | .again header stream => fail header stream

/-! ### Every header returned -/

/-- What a pass establishes of the header it accepts -/
theorem headerLoop_done {mem : Mem} {P : MadHeader → MadStream → Prop}
    (haccept : ∀ {header stream f header' stream'},
      processFrame mem header stream f = .done header' stream' → P header' stream')
    {header header' : MadHeader} {stream stream' : MadStream} {ptr fuel : ℕ}
    (h : headerLoop mem header stream ptr fuel = .done header' stream') : P header' stream' := by
  induction fuel generalizing header stream ptr with
  | zero => cases h
  | succ fuel ih =>
    rw [headerLoop] at h
    cases hpass : headerPass mem header stream ptr with
    | fail =>
      rw [hpass] at h
      cases h
    | done =>
      rw [hpass] at h
      cases h
      rw [headerPass] at hpass
      cases hsync : synchronize mem stream ptr with
      | error =>
        rw [hsync] at hpass
        cases hpass
      | ok =>
        rw [hsync] at hpass
        exact haccept hpass
    | again =>
      rw [hpass] at h
      exact ih h

theorem madHeaderDecode_done {mem : Mem} {P : MadHeader → MadStream → Prop}
    (haccept : ∀ {header stream f header' stream'},
      processFrame mem header stream f = .done header' stream' → P header' stream')
    {header header' : MadHeader} {stream stream' : MadStream}
    (h : madHeaderDecode mem header stream = (true, header', stream')) : P header' stream' := by
  revert h
  simp only [madHeaderDecode]
  split_ifs
  all_goals first
    | exact fun h => absurd (congrArg Prod.fst h) Bool.false_ne_true
    | generalize hout : headerLoop mem header _ _ _ = outcome
      cases outcome with
      | fail => exact fun h => absurd (congrArg Prod.fst h) Bool.false_ne_true
      | done =>
        intro h
        cases h
        exact headerLoop_done haccept hout
      | again => exact fun h => absurd (congrArg Prod.fst h) Bool.false_ne_true

end Mp3Decoder
