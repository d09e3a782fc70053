import Mp3Decoder.Mad.Frame

/-!
# The layout of a Layer III frame

Behind the header of a frame and its CRC word come `siLen` bytes of side information, and the rest is
main data.  `mad_layer_III` divides up the main data with unsigned subtractions.  `FrameLengths` are
its variables as integers, where what would wrap is negative.
-/

namespace Mp3Decoder

/-- `frame_space`, `next_md_begin`, `md_len`, `frame_used` and `frame_free` -/
structure FrameLengths where
  frameSpace : ℤ
  nextMdBegin : ℤ
  mdLen : ℤ
  frameUsed : ℤ
  frameFree : ℤ

/-- The lengths that `mad_layer_III` computes; `stream->ptr` is behind the side information. -/
def frameLengths (mem : Mem) (stream : MadStream) (mainDataBegin : ℕ) : FrameLengths :=
  let frameSpace : ℤ := stream.nextFrame - madBitNextbyte stream.ptr
  let peeked : ℤ := peekMainDataBegin mem stream.nextFrame
  let nextMdBegin := if peeked > mainDataBegin + frameSpace then 0 else peeked
  let mdLen := mainDataBegin + frameSpace - nextMdBegin
  let frameUsed :=
    if mainDataBegin = 0 then mdLen
    else if mainDataBegin > stream.mdLen then 0
    else if mdLen > mainDataBegin then mdLen - mainDataBegin
    else 0
  { frameSpace, nextMdBegin, mdLen, frameUsed, frameFree := frameSpace - frameUsed }

/-- No length wraps. -/
structure FrameLengths.Exact (lengths : FrameLengths) : Prop where
  frameSpace : 0 ≤ lengths.frameSpace
  mdLen : 0 ≤ lengths.mdLen
  frameFree : 0 ≤ lengths.frameFree

theorem frameLengths_exact (mem : Mem) {stream : MadStream} (mainDataBegin : ℕ)
    (h : madBitNextbyte stream.ptr ≤ stream.nextFrame) :
    (frameLengths mem stream mainDataBegin).Exact := by
  simp only [frameLengths]
  constructor
  · simp only
    omega
  · simp only
    split_ifs <;> omega
  · simp only
    split_ifs <;> omega

theorem findMainData_frameUsed (mem : Mem) (stream : MadStream) (mainDataBegin mdLen : ℕ)
    (error : MadError) : (findMainData mem stream mainDataBegin mdLen error).frameUsed =
      if mainDataBegin = 0 then mdLen else if mainDataBegin > stream.mdLen then 0
      else if mdLen > mainDataBegin then mdLen - mainDataBegin else 0 := by
  rw [findMainData]
  split_ifs <;> rfl

/-- The lengths are the naturals that `layerMainData` computes with. -/
def FrameLengths.Computed (lengths : FrameLengths) (mem : Mem) (stream : MadStream)
    (mainDataBegin : ℕ) : Prop :=
  let frameSpace := stream.nextFrame - madBitNextbyte stream.ptr
  let peeked := peekMainDataBegin mem stream.nextFrame
  let nextMdBegin := if peeked > mainDataBegin + frameSpace then 0 else peeked
  let mdLen := mainDataBegin + frameSpace - nextMdBegin
  ∀ error,
    let frameUsed := (findMainData mem stream mainDataBegin mdLen error).frameUsed
    lengths = ⟨frameSpace, nextMdBegin, mdLen, frameUsed, (frameSpace - frameUsed : ℕ)⟩

theorem frameLengths_computed (mem : Mem) {stream : MadStream} (mainDataBegin : ℕ)
    (h : madBitNextbyte stream.ptr ≤ stream.nextFrame) :
    (frameLengths mem stream mainDataBegin).Computed mem stream mainDataBegin := by
  unfold FrameLengths.Computed
  intro frameSpace peeked nextMdBegin mdLen error
  have hcast : (stream.nextFrame : ℤ) - madBitNextbyte stream.ptr = frameSpace := by omega
  have hnextLe : nextMdBegin ≤ mainDataBegin + frameSpace := by
    simp only [nextMdBegin]
    split_ifs <;> omega
  have hnext : (if (peeked : ℤ) > mainDataBegin + frameSpace then 0 else (peeked : ℤ)) =
      nextMdBegin := by
    simp only [nextMdBegin]
    split_ifs <;> omega
  have hmdLen : (mainDataBegin + frameSpace - nextMdBegin : ℤ) = mdLen := by omega
  simp only [frameLengths, findMainData_frameUsed, hcast]
  rw [show peekMainDataBegin mem stream.nextFrame = peeked from rfl, hnext, hmdLen,
    FrameLengths.mk.injEq]
  refine ⟨rfl, rfl, rfl, ?_, ?_⟩
  · split_ifs <;> omega
  · split_ifs <;> omega

/-! ### Every frame -/

/-- `mad_header_decode` leaves the pointer behind the header and its CRC word. -/
theorem madHeaderDecode_ptr {mem : Mem} {header header' : MadHeader} {stream stream' : MadStream}
    (h : madHeaderDecode mem header stream = (true, header', stream')) :
    InByte mem stream'.ptr
      (8 * (stream'.thisFrame + 4 + if header'.flags.protection then 2 else 0)) := by
  apply madHeaderDecode_done (P := fun header stream => InByte mem stream.ptr
    (8 * (stream.thisFrame + 4 + if header.flags.protection then 2 else 0))) _ h
  intro header stream f header' stream' hdone
  have hresult := processFrame_cases mem header stream f
  rw [hdone] at hresult
  cases hresult with
  | @accepted r n header' ptr freerate hread =>
    have hprotection : (markIncomplete header').flags.protection = protectionAt mem f := by
      rw [markIncomplete, hread.header_eq]
      rfl
    rw [hprotection]
    exact ⟨hread.ptr_at, hread.ptr_left⟩

theorem madNchannels_cases (header : MadHeader) :
    madNchannels header = 1 ∨ madNchannels header = 2 := by
  rw [madNchannels]
  split_ifs
  · exact .inr rfl
  · exact .inl rfl

/-- A frame that is long enough reaches the reservoir, behind its side information. -/
theorem madLayerIII_reaches {requantize : ℕ → ℤ → ℤ} {mem : Mem} {stream : MadStream}
    (frame : MadFrame) (stack : Stack)
    (hroom : ¬ (stream.nextFrame : ℤ) - madBitNextbyte stream.ptr <
      siLen frame.header.flags.lsfExt (madNchannels frame.header)) :
    let info := iiiSideinfo mem stream.ptr (madNchannels frame.header) frame.header.flags.lsfExt stack.si
    ∃ header error, madLayerIII requantize mem stream frame stack =
      layerMainData requantize mem header { stream with ptr := info.ptr } info error stack := by
  rw [madLayerIII]
  exact ⟨_, _, if_neg hroom⟩

/-- **The side information has the length the frame layout assumes.**  Behind it the pointer of a
frame is byte aligned and within the frame, and the lengths of the main data, which are those of
`mad_layer_III`, do not wrap. -/
theorem sideInformation_exact :
    (∀ (mem : Mem) (ptr : MadBitptr) (pos nch : ℕ) (lsf : Bool) (si : SideInfo),
      AtBit mem ptr pos → nch = 1 ∨ nch = 2 →
      AtBit mem (iiiSideinfo mem ptr nch lsf si).ptr (pos + 8 * siLen lsf nch) ∧
        madBitLength ptr (iiiSideinfo mem ptr nch lsf si).ptr = 8 * siLen lsf nch) ∧
    ∀ (requantize : ℕ → ℤ → ℤ) (mem : Mem) (start header : MadHeader) (before stream : MadStream)
      (incomplete : Bool) (options : ℕ) (stack : Stack),
      madHeaderDecode mem start before = (true, header, stream) →
      let nch := madNchannels header
      let lsf := header.flags.lsfExt
      ¬ (stream.nextFrame : ℤ) - madBitNextbyte stream.ptr < siLen lsf nch →
      let frame : MadFrame :=
        ⟨{ header with flags := { header.flags with incomplete } }, options⟩
      let info := iiiSideinfo mem stream.ptr nch lsf stack.si
      let behind := { stream with ptr := info.ptr }
      (∃ header' error, madLayerIII requantize mem stream frame stack =
        layerMainData requantize mem header' behind info error stack) ∧
      info.ptr.left = 8 ∧
      madBitNextbyte info.ptr =
        stream.thisFrame + 4 + (if header.flags.protection then 2 else 0) + siLen lsf nch ∧
      madBitNextbyte info.ptr ≤ stream.nextFrame ∧
      (frameLengths mem behind info.si.mainDataBegin).Exact ∧
      (frameLengths mem behind info.si.mainDataBegin).Computed mem behind
        info.si.mainDataBegin := by
  constructor
  · intro mem ptr pos nch lsf si hptr hnch
    have hend := (iiiSideinfo_at hptr hnch lsf si).1
    exact ⟨hend, by rw [hptr.length hend]; norm_cast⟩
  · intro requantize mem start header before stream incomplete options stack hdecode nch lsf hroom
      frame info behind
    have hptr := madHeaderDecode_ptr hdecode
    have hstart := hptr.1.nextbyte
    obtain ⟨hend, hleft⟩ := iiiSideinfo_at hptr.1 (madNchannels_cases header) lsf stack.si
    have hnext := hend.nextbyte
    have hpos := hend.pos_eq
    have hle := hend.left_le
    have hbound : madBitNextbyte info.ptr ≤ stream.nextFrame := by
      show madBitNextbyte (iiiSideinfo mem stream.ptr (madNchannels header) lsf stack.si).ptr ≤ _
      simp only [nch] at hroom
      omega
    refine ⟨?_, ?_, ?_, hbound, frameLengths_exact mem _ hbound, frameLengths_computed mem _ hbound⟩
    · exact madLayerIII_reaches frame stack hroom
    · show (iiiSideinfo mem stream.ptr (madNchannels header) lsf stack.si).ptr.left = 8
      omega
    · show madBitNextbyte (iiiSideinfo mem stream.ptr (madNchannels header) lsf stack.si).ptr =
        stream.thisFrame + 4 + _ + siLen lsf (madNchannels header)
      omega

/-- A header of 32 kbit/s at 44.1 kHz with a CRC word, before silence -/
def frameWithCrc : Mem := fun a =>
  if a = 4096 ∨ a = 4200 then 0xff else if a = 4097 ∨ a = 4201 then 0xfa
  else if a = 4098 ∨ a = 4202 then 0x10 else 0

theorem sideInformation_frameWithCrc :
    let decoded := madHeaderDecode frameWithCrc {}
      (madStreamBuffer (madStreamInit frameWithCrc) 4096 400)
    let info := iiiSideinfo frameWithCrc decoded.2.2.ptr 2 false {}
    madBitLength (madBitInit 4102) (iiiSideinfo frameWithCrc (madBitInit 4102) 2 false {}).ptr =
        8 * 32 ∧
      decoded.1 = true ∧ info.ptr.left = 8 ∧ madBitNextbyte info.ptr = 4096 + 4 + 2 + 32 ∧
      madBitNextbyte info.ptr ≤ 4096 + 104 ∧
      (frameLengths frameWithCrc { decoded.2.2 with ptr := info.ptr } info.si.mainDataBegin).Exact := by
  intro decoded info
  have hok : decoded.1 = true := by decide +kernel
  have hdecode : decoded = (true, decoded.2.1, decoded.2.2) := Prod.ext hok rfl
  have hlength := (sideInformation_exact.1 frameWithCrc (madBitInit 4102) (8 * 4102) 2 false {}
    (atBit_init _ _) (.inr rfl)).2
  obtain ⟨-, hleft, hnext, hle, hexact, -⟩ := sideInformation_exact.2 (fun _ _ => 0) frameWithCrc {}
    decoded.2.1 _ decoded.2.2 false 0 ⟨{}, fun _ _ _ => 0, fun _ _ _ => 0⟩ hdecode
    (by decide +kernel)
  have hnch : madNchannels decoded.2.1 = 2 := by decide +kernel
  have hlsf : decoded.2.1.flags.lsfExt = false := by decide +kernel
  have hprotection : decoded.2.1.flags.protection = true := by decide +kernel
  have hthis : decoded.2.2.thisFrame = 4096 := by decide +kernel
  have hend : decoded.2.2.nextFrame = 4200 := by decide +kernel
  rw [hnch, hlsf] at hleft hnext hle hexact
  rw [hprotection, hthis] at hnext
  rw [hend] at hle
  exact ⟨hlength, hok, hleft, hnext, hle, hexact⟩

end Mp3Decoder
