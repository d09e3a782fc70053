import Mp3Decoder.Mad.ModeExtension

/-!
# Two frames that differ in `mode_extension`

`decode_header` and `mad_layer_III` on two memories that are the same but for the two bits of
`mode_extension` in the header at `f`.  Outside joint stereo, the results are the same for MPEG-1,
for one channel and for the same `I_STEREO`; for other kinds of frames some contents tell the two
apart, and what does is the layout of the right channel's scalefactors.
-/

namespace Mp3Decoder

open BigEndianBits

/-! ### Main data -/

/-- `sbsample` and `overlap` as `III_decode` leaves them, where it is called -/
def LayerResult.samples (requantize : ℕ → ℤ → ℤ) (r : LayerResult) (stack : Stack)
    (samples : SampleStack) (frame : FrameSamples) : FrameSamples :=
  r.call.elim frame fun call => (iiiDecodeFrame requantize call.mem call.ptr call.header call.si
    (madNchannels call.header) stack samples frame).frame

/-- The right channel of the first granule is decoded, and its scalefactors have other lengths in the
layout of intensity stereo. -/
def DecodeCall.LayoutsDiffer (requantize : ℕ → ℤ → ℤ) (stack : Stack) (call : DecodeCall) : Prop :=
  (leftDecoded requantize call.mem call.ptr call.header call.si stack).error = .none ∧
    ¬(call.si.gr 0 1).SameLayouts

/-- **`III_decode`** -/
theorem iiiDecodeFrame_sameResult {header header' : MadHeader} (h : SameButExtension header header')
    (hmode : header.mode ≠ 2) (requantize : ℕ → ℤ → ℤ) (stack : Stack) (call : DecodeCall)
    (hheader : call.header = header) (hsame : header.flags.lsfExt = true → header.mode ≠ 0 →
      header.modeExtension &&& iStereo = header'.modeExtension &&& iStereo ∨
        ¬call.LayoutsDiffer requantize stack) (samples : SampleStack) (frame : FrameSamples) :
    (iiiDecodeFrame requantize call.mem call.ptr header call.si (madNchannels header) stack samples
      frame).SameResult
      (iiiDecodeFrame requantize call.mem call.ptr header' call.si (madNchannels header') stack samples
        frame) := by
  rw [← h.madNchannels_eq]
  by_cases hbranch : header.flags.lsfExt = true ∧ header.mode ≠ 0 ∧
    header.modeExtension &&& iStereo ≠ header'.modeExtension &&& iStereo
  · obtain ⟨hlsf, hchannels, hbit⟩ := hbranch
    rw [madNchannels, if_pos hchannels]
    apply iiiDecodeFrame_layouts hlsf h hmode
    intro hleft
    by_contra hlayouts
    refine (hsame hlsf hchannels).resolve_left hbit ⟨?_, hlayouts⟩
    rw [hheader]
    exact hleft
  · apply FrameDecoding.SameResult.of_eq
    apply iiiDecodeFrame_extension h hmode
    intro hlsf hchannels
    by_contra hbit
    refine hbranch ⟨hlsf, ?_, hbit⟩
    intro hmono
    rw [madNchannels, if_neg (not_not.mpr hmono)] at hchannels
    omega

/-- What comes behind the side information at or behind `lo` -/
theorem layerMainData_extension {lo : ℕ} {mem mem' : Mem} (hmem : SameFrom lo mem mem')
    {header header' : MadHeader} (h : SameButExtension header header') (hmode : header.mode ≠ 2)
    (requantize : ℕ → ℤ → ℤ) (stream : MadStream) (hptr : lo ≤ stream.ptr.byte)
    (hnext : madBitNextbyte stream.ptr ≤ stream.nextFrame) (info : SideinfoState) (error : MadError)
    (stack : Stack) (hsame : header.flags.lsfExt = true → header.mode ≠ 0 →
      header.modeExtension &&& iStereo = header'.modeExtension &&& iStereo ∨
        ∀ call ∈ (layerMainData requantize mem header stream info error stack).call,
          ¬call.LayoutsDiffer requantize stack) :
    let r := layerMainData requantize mem header stream info error stack
    let r' := layerMainData requantize mem' header' stream info error stack
    r.ok = r'.ok ∧ r.stream = r'.stream ∧ ∀ samples frame,
      r.samples requantize stack samples frame = r'.samples requantize stack samples frame := by
  have hbyte : lo ≤ madBitNextbyte stream.ptr := by
    rw [madBitNextbyte]
    split <;> omega
  have hpeek := peekMainDataBegin_same hmem (Nat.le_trans hbyte hnext)
  revert hsame
  simp only [layerMainData, ← hpeek, ← findMainData_same hmem hbyte]
  generalize (if peekMainDataBegin mem stream.nextFrame > info.si.mainDataBegin +
    (stream.nextFrame - madBitNextbyte stream.ptr) then 0
    else peekMainDataBegin mem stream.nextFrame) = next
  generalize info.si.mainDataBegin + (stream.nextFrame - madBitNextbyte stream.ptr) - next = mdLen
  generalize hfound : findMainData mem stream info.si.mainDataBegin mdLen error = found
  have hplace : found.stream.nextFrame = stream.nextFrame := by
    rw [← hfound, findMainData]
    split_ifs <;> rfl
  have hfree : lo ≤ found.stream.nextFrame -
      (stream.nextFrame - madBitNextbyte stream.ptr - found.frameUsed) := by omega
  generalize stream.nextFrame - madBitNextbyte stream.ptr - found.frameUsed = frameFree at hfree ⊢
  have hpreload : ∀ decoded : MadStream, decoded.nextFrame = found.stream.nextFrame →
      preloadMainData mem decoded info.si.mainDataBegin next mdLen frameFree =
        preloadMainData mem' decoded info.si.mainDataBegin next mdLen frameFree := by
    intro decoded hdecoded
    exact preloadMainData_same hmem (hdecoded ▸ hfree) _ _ _
  generalize hdata : (if info.si.mainDataBegin = 0 then mem else found.stream.mainData) = data
  generalize hdata' : (if info.si.mainDataBegin = 0 then mem' else found.stream.mainData) = data'
  have hmain : ∀ samples frame,
      iiiDecodeFrame requantize data found.ptr header' info.si (madNchannels header') stack samples
          frame =
        iiiDecodeFrame requantize data' found.ptr header' info.si (madNchannels header') stack samples
          frame := by
    intro samples frame
    rw [← hdata, ← hdata']
    by_cases hbegin : info.si.mainDataBegin = 0
    · rw [if_pos hbegin, if_pos hbegin]
      apply iiiDecodeFrame_same hmem
      rw [← hfound, findMainData, if_pos hbegin]
      exact hptr
    · rw [if_neg hbegin, if_neg hbegin]
  generalize hresult : iiiDecode requantize data found.ptr header info.si (madNchannels header) stack =
    result
  generalize hresult' : iiiDecode requantize data' found.ptr header' info.si (madNchannels header')
    stack = result'
  by_cases herror : found.error = .none
  · simp only [if_pos herror]
    intro hsame
    have hdecode := iiiDecodeFrame_sameResult h hmode requantize stack
      ⟨data, found.ptr, header, info.si, result⟩ rfl
      (fun hlsf hchannels => (hsame hlsf hchannels).imp_right fun hcalls => hcalls _ rfl)
    simp only [hmain] at hdecode
    obtain ⟨hsameError, hsameBits, -⟩ := hdecode ⟨fun _ _ _ _ _ => 0, fun _ _ _ => 0⟩
      ⟨fun _ _ _ => 0, fun _ _ _ => 0⟩
    rw [iiiDecodeFrame_decode, iiiDecodeFrame_decode, hresult, hresult'] at hsameError hsameBits
    rw [← hsameError, ← hsameBits, hpreload]
    · refine ⟨rfl, rfl, ?_⟩
      intro samples frame
      exact (hdecode samples frame).frame
    · rfl
  · simp only [if_neg herror]
    intro _
    rw [hpreload]
    · exact ⟨trivial, rfl, fun _ _ => rfl⟩
    · rfl

/-! ### The header -/

/-- Two streams that are the same but for the byte in the cache of `ptr`. -/
structure MadStream.SamePosition (stream stream' : MadStream) : Prop where
  byte : stream.ptr.byte = stream'.ptr.byte
  left : stream.ptr.left = stream'.ptr.left
  rest : stream' = { stream with ptr := stream'.ptr }

theorem MadStream.SamePosition.of_eq {stream stream' : MadStream} (h : stream = stream') :
    stream.SamePosition stream' := by
  rw [← h]
  exact ⟨rfl, rfl, rfl⟩

theorem InByte.position {mem mem' : Mem} {ptr ptr' : MadBitptr} {pos : ℕ} (h : InByte mem ptr pos)
    (h' : InByte mem' ptr' pos) : ptr.byte = ptr'.byte ∧ ptr.left = ptr'.left := by
  obtain ⟨⟨hle, hpos, -⟩, hleft⟩ := h
  obtain ⟨⟨hle', hpos', -⟩, hleft'⟩ := h'
  omega

/-- Two memories whose bits are the same but for `mode_extension` in the header at `f`. -/
def ExtensionBits (f : ℕ) (mem mem' : Mem) : Prop :=
  ∀ pos, pos ≠ 8 * f + 26 → pos ≠ 8 * f + 27 → bitAt mem pos = bitAt mem' pos

namespace ExtensionBits

variable {f : ℕ} {mem mem' : Mem} (h : ExtensionBits f mem mem')
include h

theorem headerField_eq {i n : ℕ} (hin : i + n ≤ 26 ∨ 28 ≤ i) :
    headerField mem f i n = headerField mem' f i n :=
  bitsVal_bits fun j hj => h (8 * f + i + j) (by omega) (by omega)

/-- Behind the header the memories are the same. -/
theorem sameFrom : SameFrom (f + 4) mem mem' := by
  intro a ha
  have hbyte : bitsVal mem (8 * a + 0) 8 = bitsVal mem' (8 * a + 0) 8 :=
    bitsVal_bits fun i _ => h (8 * a + 0 + i) (by omega) (by omega)
  have hlt := (mem a).toNat_lt
  have hlt' := (mem' a).toNat_lt
  rw [bitsVal_byte mem a 0 8 (Nat.le_refl 8), bitsVal_byte mem' a 0 8 (Nat.le_refl 8)] at hbyte
  apply UInt8.toNat_inj.mp
  omega

theorem fields : lsfAt mem f = lsfAt mem' f ∧ mpeg25At mem f = mpeg25At mem' f ∧
    layerAt mem f = layerAt mem' f ∧ protectionAt mem f = protectionAt mem' f := by
  simp only [lsfAt, mpeg25At, layerAt, protectionAt,
    h.headerField_eq (.inl (by decide : 12 + 1 ≤ 26)),
    h.headerField_eq (.inl (by decide : 11 + 1 ≤ 26)),
    h.headerField_eq (.inl (by decide : 13 + 2 ≤ 26)),
    h.headerField_eq (.inl (by decide : 15 + 1 ≤ 26)), and_self]

theorem headerError_eq : headerError mem f = headerError mem' f := by
  obtain ⟨hlsf, hmpeg25, hlayer, -⟩ := h.fields
  rw [headerError, headerError, hlsf, hmpeg25, hlayer,
    h.headerField_eq (.inl (by decide : 16 + 4 ≤ 26)),
    h.headerField_eq (.inl (by decide : 20 + 2 ≤ 26))]

theorem headerAt_same : SameButExtension (headerAt mem f) (headerAt mem' f) := by
  obtain ⟨hlsf, hmpeg25, hlayer, hprotection⟩ := h.fields
  refine ⟨?_, ?_, ?_⟩
  · simp only [headerAt, h.headerField_eq (.inl (by decide : 24 + 2 ≤ 26))]
  · simp only [headerAt, hlsf, hmpeg25, h.headerField_eq (.inl (by decide : 20 + 2 ≤ 26))]
  · simp only [headerAt, hlsf, hmpeg25, hprotection,
      h.headerField_eq (.inl (by decide : 22 + 1 ≤ 26)),
      h.headerField_eq (.inr (by decide : 28 ≤ 28)), h.headerField_eq (.inr (by decide : 28 ≤ 29))]

end ExtensionBits

theorem SameButCrc.fields {header header' : MadHeader} (h : SameButCrc header header') :
    header.mode = header'.mode ∧ header.modeExtension = header'.modeExtension ∧
      header.samplerate = header'.samplerate ∧ header.flags = header'.flags := by
  rw [SameButCrc] at h
  rw [h]
  exact ⟨rfl, rfl, rfl, rfl⟩

/-- **`decode_header`** reads the same from both, but for `mode_extension`. -/
theorem decodeHeader_extension {f : ℕ} {mem mem' : Mem} (h : ExtensionBits f mem mem')
    {stream : MadStream} (hptr : AtBit mem stream.ptr (8 * f))
    (hprot : protectionAt mem f = false) (header : MadHeader) :
    let r := decodeHeader mem header stream
    let r' := decodeHeader mem' header stream
    r.1 = r'.1 ∧ r.2.2.SamePosition r'.2.2 ∧
      (r.1 = true → SameButCrc r.2.1 (headerAt mem f) ∧ SameButCrc r'.2.1 (headerAt mem' f) ∧
        InByte mem r.2.2.ptr (8 * (f + 4))) := by
  have hptr' : AtBit mem' stream.ptr (8 * f) := by
    obtain ⟨hle, hpos, -⟩ := hptr
    exact ⟨hle, hpos, fun hlow hhigh => absurd hpos (by omega)⟩
  have hprot' : protectionAt mem' f = false := h.fields.2.2.2 ▸ hprot
  obtain ⟨hbad, hgood⟩ := decodeHeader_spec hptr header
  obtain ⟨hbad', hgood'⟩ := decodeHeader_spec hptr' header
  rw [← h.headerError_eq] at hbad' hgood'
  by_cases herror : headerError mem f = .none
  · obtain ⟨header₁, ptr₁, hdecode, hsame, hend, hleft, -⟩ := hgood herror
    obtain ⟨header₂, ptr₂, hdecode', hsame', hend', hleft', -⟩ := hgood' herror
    rw [hprot, if_neg Bool.false_ne_true, Nat.add_zero] at hend
    rw [hprot', if_neg Bool.false_ne_true, Nat.add_zero] at hend'
    rw [hdecode, hdecode']
    obtain ⟨hbyte, hsameLeft⟩ := InByte.position ⟨hend, hleft⟩ ⟨hend', hleft'⟩
    exact ⟨rfl, ⟨hbyte, hsameLeft, rfl⟩, fun _ => ⟨hsame, hsame', hend, hleft⟩⟩
  · obtain ⟨header₁, ptr₁, hdecode, -, hstop⟩ := hbad herror
    obtain ⟨header₂, ptr₂, hdecode', -, hstop'⟩ := hbad' herror
    rw [hdecode, hdecode']
    obtain ⟨hbyte, hleft⟩ := InByte.position hstop hstop'
    exact ⟨rfl, ⟨hbyte, hleft, rfl⟩, fun hok => absurd hok Bool.false_ne_true⟩

/-! ### The frame -/

/-- A pointer that stands before a byte has nothing in its cache. -/
theorem iiiSideinfo_fresh (mem : Mem) {ptr : MadBitptr} (hleft : ptr.left = 8) (nch : ℕ) (lsf : Bool)
    (si : SideInfo) :
    iiiSideinfo mem ptr nch lsf si = iiiSideinfo mem (madBitInit ptr.byte) nch lsf si := by
  have hread : ∀ len, madBitRead mem ptr len = madBitRead mem (madBitInit ptr.byte) len := by
    intro len
    simp only [madBitRead, madBitInit, hleft, if_true]
  simp only [iiiSideinfo, sideinfoStart, hread]

theorem checkCrc_unprotected {header : MadHeader} (hprot : header.flags.protection = false)
    (mem : Mem) (options : ℕ) (ptr : MadBitptr) (len : ℕ) :
    checkCrc mem ⟨header, options⟩ ptr len = (header, .none) :=
  if_neg (Bool.eq_false_iff.mp hprot)

/-- **`mad_layer_III`**, behind headers that end at byte `start` -/
theorem madLayerIII_extension {start : ℕ} {mem mem' : Mem} (hmem : SameFrom start mem mem')
    {header header' : MadHeader} (h : SameButExtension header header') (hmode : header.mode ≠ 2)
    (hprot : header.flags.protection = false) (requantize : ℕ → ℤ → ℤ) {stream stream' : MadStream}
    (hstream : stream.SamePosition stream') (hptr : InByte mem stream.ptr (8 * start))
    (options : ℕ) (stack : Stack) (hsame : header.flags.lsfExt = true → header.mode ≠ 0 →
      header.modeExtension &&& iStereo = header'.modeExtension &&& iStereo ∨
        ∀ call ∈ (madLayerIII requantize mem stream ⟨header, options⟩ stack).call,
          ¬call.LayoutsDiffer requantize stack) :
    let r := madLayerIII requantize mem stream ⟨header, options⟩ stack
    let r' := madLayerIII requantize mem' stream' ⟨header', options⟩ stack
    r.ok = r'.ok ∧ r.stream.SamePosition r'.stream ∧ ∀ samples frame,
      r.samples requantize stack samples frame = r'.samples requantize stack samples frame := by
  have hle := hptr.1.left_le
  have hpos := hptr.1.pos_eq
  have hfresh := hptr.2
  have hleft : stream.ptr.left = 8 := by omega
  have hbyte : stream.ptr.byte = start := by omega
  have hnch : madNchannels header = 1 ∨ madNchannels header = 2 := by
    rw [madNchannels]
    split_ifs
    · exact .inr rfl
    · exact .inl rfl
  obtain ⟨hsameByte, hsameLeft, hrest⟩ := hstream
  obtain ⟨ptr', rfl⟩ : ∃ ptr', stream' = { stream with ptr := ptr' } := ⟨stream'.ptr, hrest⟩
  have hnext' : madBitNextbyte ptr' = madBitNextbyte stream.ptr := by
    rw [madBitNextbyte, madBitNextbyte, hsameLeft, hsameByte]
  have hprot' : header'.flags.protection = false := h.flags ▸ hprot
  revert hsame
  simp only [madLayerIII, checkCrc_unprotected hprot, checkCrc_unprotected hprot', if_true, hnext',
    ← h.madNchannels_eq, ← h.flags]
  by_cases hshort : (stream.nextFrame : ℤ) - madBitNextbyte stream.ptr <
      siLen header.flags.lsfExt (madNchannels header)
  · simp only [if_pos hshort]
    intro _
    exact ⟨trivial, ⟨hsameByte, hsameLeft, rfl⟩, fun _ _ => rfl⟩
  · simp only [if_neg hshort]
    intro hsame
    have hend := iiiSideinfo_at hptr.1 hnch header.flags.lsfExt stack.si
    rw [iiiSideinfo_fresh mem hleft, hbyte] at hsame hend
    rw [iiiSideinfo_fresh mem hleft, iiiSideinfo_fresh mem' (hsameLeft ▸ hleft), ← hsameByte, hbyte]
    obtain ⟨hinfo, hafter⟩ := iiiSideinfo_same hmem
      (show start ≤ (madBitInit start).byte from Nat.le_refl start) (madNchannels header) header.flags.lsfExt stack.si
    rw [← hinfo]
    generalize iiiSideinfo mem (madBitInit start) (madNchannels header) header.flags.lsfExt stack.si =
      info at hsame hend hafter ⊢
    have hnext := hend.1.nextbyte
    have hheaders : SameButExtension
        { header with
          flags := { header.flags with
            nprivateIII := header.flags.nprivateIII |||
              privBitlen header.flags.lsfExt (madNchannels header) }
          privateBits := header.privateBits ||| info.si.privateBits }
        { header' with
          flags := { header.flags with
            nprivateIII := header.flags.nprivateIII |||
              privBitlen header.flags.lsfExt (madNchannels header) }
          privateBits := header'.privateBits ||| info.si.privateBits } := ⟨h.mode, h.samplerate, rfl⟩
    have hbehind : madBitNextbyte info.ptr ≤ stream.nextFrame := by
      rw [madBitNextbyte, if_pos hleft] at hshort
      omega
    obtain ⟨hok, hsameStream, hsamples⟩ := layerMainData_extension hmem hheaders hmode requantize
      { stream with ptr := info.ptr } hafter hbehind info info.result stack hsame
    exact ⟨hok, .of_eq hsameStream, hsamples⟩

/-- What is left behind by a frame; `call` is that of `III_decode`. -/
structure LayerOutcome where
  ok : Bool
  stream : MadStream
  samples : FrameSamples
  call : Option DecodeCall

/-- `decode_header` at `stream->ptr`, and `mad_layer_III` behind it -/
def decodeLayerIII (requantize : ℕ → ℤ → ℤ) (mem : Mem) (stream : MadStream) (frame : MadFrame)
    (stack : Stack) (samples : SampleStack) (before : FrameSamples) : LayerOutcome :=
  let r := decodeHeader mem frame.header stream
  if r.1 then
    let layer := madLayerIII requantize mem r.2.2 { frame with header := r.2.1 } stack
    ⟨layer.ok, layer.stream, layer.samples requantize stack samples before, layer.call⟩
  else ⟨false, r.2.2, before, none⟩

/-- The same result, error code, reservoir, position and samples -/
structure LayerOutcome.Same (o o' : LayerOutcome) : Prop where
  ok : o.ok = o'.ok
  stream : o.stream.SamePosition o'.stream
  samples : o.samples = o'.samples

/-- `mad_layer_III` behind what `decode_header` has read -/
def behindHeader (requantize : ℕ → ℤ → ℤ) (mem : Mem) (r : Bool × MadHeader × MadStream)
    (frame : MadFrame) (stack : Stack) (samples : SampleStack) (before : FrameSamples) :
    LayerOutcome :=
  if r.1 then
    let layer := madLayerIII requantize mem r.2.2 { frame with header := r.2.1 } stack
    ⟨layer.ok, layer.stream, layer.samples requantize stack samples before, layer.call⟩
  else ⟨false, r.2.2, before, none⟩

theorem decodeLayerIII_eq (requantize : ℕ → ℤ → ℤ) (mem : Mem) (stream : MadStream)
    (frame : MadFrame) (stack : Stack) (samples : SampleStack) (before : FrameSamples) :
    decodeLayerIII requantize mem stream frame stack samples before =
      behindHeader requantize mem (decodeHeader mem frame.header stream) frame stack samples before :=
  rfl

/-- Behind two headers that are the same but for `mode_extension` -/
theorem behindHeader_same {f : ℕ} {mem mem' : Mem} (hbits : ExtensionBits f mem mem')
    (hprot : protectionAt mem f = false) (hmode : (headerAt mem f).mode ≠ 2)
    {r r' : Bool × MadHeader × MadStream} (hok : r.1 = r'.1)
    (hposition : r.2.2.SamePosition r'.2.2)
    (hheaders : r.1 = true → SameButCrc r.2.1 (headerAt mem f) ∧
      SameButCrc r'.2.1 (headerAt mem' f) ∧ InByte mem r.2.2.ptr (8 * (f + 4)))
    (requantize : ℕ → ℤ → ℤ) (frame : MadFrame) (stack : Stack) (samples : SampleStack)
    (before : FrameSamples)
    (hsame : lsfAt mem f = true → (headerAt mem f).mode ≠ 0 →
      (headerAt mem f).modeExtension &&& iStereo = (headerAt mem' f).modeExtension &&& iStereo ∨
        ∀ call ∈ (behindHeader requantize mem r frame stack samples before).call,
          ¬call.LayoutsDiffer requantize stack) :
    (behindHeader requantize mem r frame stack samples before).Same
      (behindHeader requantize mem' r' frame stack samples before) := by
  revert hsame
  simp only [behindHeader, ← hok]
  by_cases hdecoded : r.1 = true
  · obtain ⟨hsameCrc, hsameCrc', hend⟩ := hheaders hdecoded
    simp only [if_pos hdecoded]
    obtain ⟨hmodeAt, hextension, hsamplerate, hflags⟩ := hsameCrc.fields
    obtain ⟨hmodeAt', hextension', hsamplerate', hflags'⟩ := hsameCrc'.fields
    have hheader : SameButExtension r.2.1 r'.2.1 := by
      obtain ⟨hmodes, hrates, hsameFlags⟩ := hbits.headerAt_same
      exact ⟨by rw [hmodeAt, hmodes, hmodeAt'], by rw [hsamplerate, hrates, hsamplerate'],
        by rw [hflags, hsameFlags, hflags']⟩
    have hlsf : lsfAt mem f = r.2.1.flags.lsfExt := by rw [hflags]; rfl
    rw [← hmodeAt] at hmode ⊢
    rw [hlsf, ← hextension, ← hextension']
    intro hsame
    obtain ⟨hsameOk, hstream, hsamples⟩ := madLayerIII_extension hbits.sameFrom hheader hmode
      (by rw [hflags]; exact hprot) requantize hposition hend frame.options stack hsame
    exact ⟨hsameOk, hstream, hsamples samples before⟩
  · simp only [if_neg hdecoded]
    intro _
    exact ⟨rfl, hposition, rfl⟩

/-- **Frames that differ in `mode_extension`** are decoded alike outside joint stereo, unless they are
LSF, have two channels and another `I_STEREO`; and then as well where the layouts of the right
channel's scalefactors do not differ, or do not come to be used. -/
theorem decodeLayerIII_same {f : ℕ} {mem mem' : Mem} (hbits : ExtensionBits f mem mem')
    {stream : MadStream} (hptr : AtBit mem stream.ptr (8 * f)) (hprot : protectionAt mem f = false)
    (hmode : (headerAt mem f).mode ≠ 2) (requantize : ℕ → ℤ → ℤ) (frame : MadFrame) (stack : Stack)
    (samples : SampleStack) (before : FrameSamples)
    (hsame : lsfAt mem f = true → (headerAt mem f).mode ≠ 0 →
      (headerAt mem f).modeExtension &&& iStereo = (headerAt mem' f).modeExtension &&& iStereo ∨
        ∀ call ∈ (decodeLayerIII requantize mem stream frame stack samples before).call,
          ¬call.LayoutsDiffer requantize stack) :
    (decodeLayerIII requantize mem stream frame stack samples before).Same
      (decodeLayerIII requantize mem' stream frame stack samples before) := by
  obtain ⟨hok, hposition, hheaders⟩ := decodeHeader_extension hbits hptr hprot frame.header
  rw [decodeLayerIII_eq, decodeLayerIII_eq]
  rw [decodeLayerIII_eq] at hsame
  exact behindHeader_same hbits hprot hmode hok hposition hheaders requantize frame stack samples
    before hsame

/-! ### Frames that tell the two layouts apart -/

theorem iiiHuffdecode_empty (requantize : ℕ → ℤ → ℤ) (mem : Mem) (ptr : MainPtr) (xr : ℕ → ℤ)
    {channel : Channel} (hpart23 : channel.part23Length = 0) (hbig : channel.bigValues = 0)
    (htable : channel.tableSelect 0 = 0) (sfbwidth : List ℕ) (part2Length : ℕ) (exponents : ℕ → ℤ) :
    let r := iiiHuffdecode requantize mem ptr xr channel sfbwidth part2Length exponents
    r.error = (if part2Length = 0 then .none else .badpart3len) ∧
      (r.ptr.bits = ptr.bits ∨ r.ptr.bits = madBitSkip mem ptr.bits 0) := by
  simp only [iiiHuffdecode, huffdecodeWith, hpart23]
  by_cases hzero : part2Length = 0
  · rw [hzero, if_neg (by decide), if_pos rfl]
    refine ⟨?_, .inr (huffdecodePart_bits _ _ _ _ _ _ _ _ _)⟩
    have hpair : (madHuffTables.pair (channel.tableSelect 0)).table.isNone = false := by
      rw [htable]
      rfl
    simp only [huffdecodePart, hpair, Bool.false_eq_true, if_false, huffWords, hbig,
      HuffState.bigValues, ne_eq, not_true_eq_false]
    rw [if_neg]
    simp only [huffStart]
    omega
  · rw [if_pos (by omega), if_neg hzero]
    exact ⟨rfl, .inl rfl⟩

/-- A part without code words: its error is that of its length. -/
theorem decodePart_empty (requantize : ℕ → ℤ → ℤ) {mem : Mem} {header : MadHeader} (stack : Stack)
    {gr ch : ℕ} {s : DecodeState} {pos : ℕ} (hpos : AtBit mem s.ptr.bits pos)
    (herror : s.error = .none) (hpart23 : (s.si.gr gr ch).part23Length = 0)
    (hbig : (s.si.gr gr ch).bigValues = 0) (htable : (s.si.gr gr ch).tableSelect 0 = 0)
    (hrescaled : (s.si.gr gr ch).Rescaled
      ((decodeScalefactors mem header s.ptr s.si gr ch).1.gr gr ch)) :
    (decodePart requantize mem header stack gr s ch).error =
        (if part2Of header s.si gr ch = 0 then .none else .badpart3len) ∧
      AtBit mem (decodePart requantize mem header stack gr s ch).ptr.bits
        (pos + part2Of header s.si gr ch) := by
  obtain ⟨hi, hle, hcursor⟩ := exists_cursor hpos (pos + part2Of header s.si gr ch)
  have hend := (decodeScalefactors_cursor hcursor s.si gr ch hle).at_pos
  have hlength := hpos.length hend
  simp only [decodePart, herror, ne_eq, not_true_eq_false, if_false, hlength]
  generalize decodeScalefactors mem header s.ptr s.si gr ch = scale at hrescaled hend ⊢
  have hpart23' : (scale.1.gr gr ch).part23Length = 0 := by rw [hrescaled.eq]; exact hpart23
  have hbig' : (scale.1.gr gr ch).bigValues = 0 := by rw [hrescaled.eq]; exact hbig
  have htable' : (scale.1.gr gr ch).tableSelect 0 = 0 := by rw [hrescaled.eq]; exact htable
  obtain ⟨hempty, hbits⟩ := iiiHuffdecode_empty requantize mem scale.2 (stack.xr gr ch) hpart23'
    hbig' htable' (sfbwidthOf header (s.si.gr gr ch)) (part2Of header s.si gr ch) (stack.exponents gr ch)
  refine ⟨hempty, ?_⟩
  rcases hbits with hbits | hbits
  · rw [hbits]
    exact hend
  · rw [hbits]
    exact hend.skip 0

/-- An LSF frame of two channels without code words: its error is that of the lengths. -/
theorem iiiDecode_empty (requantize : ℕ → ℤ → ℤ) {mem : Mem} {header : MadHeader}
    (hlsf : header.flags.lsfExt = true) (hmode : header.mode ≠ 2) {ptr : MadBitptr} {pos : ℕ}
    (hptr : AtBit mem ptr pos) {si : SideInfo} (stack : Stack)
    (hempty : ∀ ch < 2, (si.gr 0 ch).part23Length = 0 ∧ (si.gr 0 ch).bigValues = 0 ∧
      (si.gr 0 ch).tableSelect 0 = 0) (hleft : part2Of header si 0 0 = 0) :
    (iiiDecode requantize mem ptr header si 2 stack).error =
      if part2Of header si 0 1 = 0 then .none else .badpart3len := by
  have hrescaled : ∀ (ptr : MainPtr) (si : SideInfo) (ch : ℕ),
      (si.gr 0 ch).Rescaled ((decodeScalefactors mem header ptr si 0 ch).1.gr 0 ch) := by
    intro ptr si ch
    obtain ⟨-, hrow, -, -⟩ := decodeScalefactors_lsf mem hlsf ptr si ch
    rw [hrow, if_pos rfl]
    exact iiiScalefactorsLsf_rescaled mem ptr _ _ _
  obtain ⟨hpart23, hbig, htable⟩ := hempty 0 (by decide)
  obtain ⟨hleftError, hleftAt⟩ := decodePart_empty requantize stack
    (s := { ptr := { bits := ptr }, si, xr := stack.xr, error := .none }) hptr rfl hpart23 hbig htable
    (hrescaled { bits := ptr } si 0)
  rw [if_pos hleft] at hleftError
  have hgr1 := leftDecoded_right hlsf requantize mem ptr si stack
  have hpart2 : part2Of header (leftDecoded requantize mem ptr header si stack).si 0 1 =
      part2Of header si 0 1 := by
    rw [part2Of, part2Of, if_pos hlsf, if_pos hlsf, hgr1, isIntensity, isIntensity]
    rfl
  obtain ⟨hpart23', hbig', htable'⟩ := hempty 1 (by decide)
  rw [← hgr1] at hpart23' hbig' htable'
  obtain ⟨hright, -⟩ := decodePart_empty requantize stack hleftAt hleftError hpart23' hbig' htable'
    (hrescaled _ _ 1)
  have hlast : (iiiDecode requantize mem ptr header si 2 stack).error =
      (decodePart requantize mem header stack 0
        (leftDecoded requantize mem ptr header si stack) 1).error := by
    rw [← iiiDecodeFrame_decode requantize mem ptr header si 2 stack
      ⟨fun _ _ _ _ _ => 0, fun _ _ _ => 0⟩ ⟨fun _ _ _ => 0, fun _ _ _ => 0⟩, iiiDecodeFrame_lsf hlsf hmode]
    simp only
    split <;> rfl
  rw [hlast, ← hpart2]
  exact hright

theorem layerMainData_begin (requantize : ℕ → ℤ → ℤ) (mem : Mem) (header : MadHeader)
    (stream : MadStream) {info : SideinfoState} (hbegin : info.si.mainDataBegin = 0) (stack : Stack) :
    (layerMainData requantize mem header stream info .none stack).ok =
      decide ((iiiDecode requantize mem stream.ptr header info.si (madNchannels header)
        stack).error = .none) := by
  simp only [layerMainData, findMainData, if_pos hbegin, if_true]

/-- An LSF frame without code words, whose right channel has a `scalefac_compress` of 1: five bits of
scalefactors, or none in intensity stereo -/
def layoutFrame (mode modeExtension : ℕ) : Mem := fun a =>
  if a = 0 then 0xff else if a = 1 then 0xf3 else if a = 2 then 0x10
  else if a = 3 then UInt8.ofNat ((3 - mode) * 64 + modeExtension * 16) else if a = 17 then 0x02 else 0

theorem layoutFrame_header : ∀ mode < 4, ∀ modeExtension < 4,
    let mem := layoutFrame mode modeExtension
    headerError mem 0 = .none ∧ protectionAt mem 0 = false ∧ lsfAt mem 0 = true ∧
      (headerAt mem 0).mode = mode ∧ (headerAt mem 0).modeExtension = modeExtension := by
  decide +kernel

theorem layoutFrame_sideinfo : ∀ mode < 4, ∀ modeExtension < 4,
    let info := iiiSideinfo (layoutFrame mode modeExtension) (madBitInit 4) 2 true {}
    info.result = .none ∧ info.si.mainDataBegin = 0 ∧
      (∀ ch < 2, (info.si.gr 0 ch).part23Length = 0 ∧ (info.si.gr 0 ch).bigValues = 0 ∧
        (info.si.gr 0 ch).tableSelect 0 = 0 ∧ (info.si.gr 0 ch).blockType = 0) ∧
      (info.si.gr 0 0).scalefacCompress = 0 ∧ (info.si.gr 0 1).scalefacCompress = 1 := by
  decide +kernel

theorem layoutFrame_bits (mode modeExtension modeExtension' : ℕ) (hmode : mode < 4)
    (hext : modeExtension < 4) (hext' : modeExtension' < 4) :
    ExtensionBits 0 (layoutFrame mode modeExtension) (layoutFrame mode modeExtension') := by
  have hbyte : ∀ mode < 4, ∀ ext < 4, ∀ ext' < 4, ∀ i ∈ [0, 1, 4, 5, 6, 7],
      bitAt (layoutFrame mode ext) (24 + i) = bitAt (layoutFrame mode ext') (24 + i) := by
    decide +kernel
  intro pos hne2 hne3
  by_cases hheader : pos / 8 = 3
  · have hmem : pos - 24 ∈ [0, 1, 4, 5, 6, 7] := by
      simp only [List.mem_cons, List.not_mem_nil]
      omega
    have hin := hbyte mode hmode modeExtension hext modeExtension' hext' (pos - 24) hmem
    rw [show 24 + (pos - 24) = pos by omega] at hin
    exact hin
  · rw [bitAt, bitAt]
    simp only [layoutFrame, hheader, if_false]

/-- A stream before the header at address 0 -/
def layoutStream : MadStream := { madStreamInit (fun _ => 0) with nextFrame := 40 }

def layoutStack : Stack := ⟨{}, fun _ _ _ => 0, fun _ _ _ => 0⟩

theorem layoutFrame_part2 {channel : Channel} (htype : channel.blockType = 0) (compress : ℕ)
    (hcompress : channel.scalefacCompress = compress) (intensity : Bool) :
    part2BitsLsf channel intensity = part2BitsLsf { scalefacCompress := compress } intensity := by
  simp only [part2BitsLsf, lsfParts, lsfIndex, htype, hcompress]
  rfl

theorem layoutFrame_iiiDecode (requantize : ℕ → ℤ → ℤ) {mem : Mem} {ptr : MadBitptr} {pos : ℕ}
    (hptr : AtBit mem ptr pos) {si : SideInfo}
    (hempty : ∀ ch < 2, (si.gr 0 ch).part23Length = 0 ∧ (si.gr 0 ch).bigValues = 0 ∧
      (si.gr 0 ch).tableSelect 0 = 0 ∧ (si.gr 0 ch).blockType = 0)
    (hcompress0 : (si.gr 0 0).scalefacCompress = 0) (hcompress1 : (si.gr 0 1).scalefacCompress = 1)
    {mode modeExtension : ℕ} (hchannels : mode ≠ 0) (hjoint : mode ≠ 2) {header : MadHeader}
    (hmode : header.mode = mode) (hext : header.modeExtension = modeExtension)
    (hlsf : header.flags.lsfExt = true) :
    decide ((iiiDecode requantize mem ptr header si (madNchannels header) layoutStack).error = .none) =
      decide (modeExtension &&& iStereo ≠ 0) := by
  obtain ⟨-, -, -, htype0⟩ := hempty 0 (by decide)
  obtain ⟨-, -, -, htype1⟩ := hempty 1 (by decide)
  have hleft : part2Of header si 0 0 = 0 := by
    rw [part2Of, if_pos hlsf, layoutFrame_part2 htype0 0 hcompress0, isIntensity, gr1chOf, if_pos rfl]
    simp only [Option.isSome_none, Bool.false_eq_true, and_false, decide_false]
    rfl
  have hright : part2Of header si 0 1 = if modeExtension &&& iStereo ≠ 0 then 0 else 5 := by
    rw [part2Of, if_pos hlsf, layoutFrame_part2 htype1 1 hcompress1, isIntensity, gr1chOf,
      if_neg Nat.one_ne_zero, hext, Option.isSome_some, iStereo]
    by_cases hbit : modeExtension &&& 0x1 ≠ 0
    · rw [if_pos hbit, decide_eq_true ⟨hbit, rfl⟩]
      rfl
    · rw [if_neg hbit, decide_eq_false fun hboth => hbit hboth.1]
      rfl
  have hchannel : ∀ ch < 2, (si.gr 0 ch).part23Length = 0 ∧ (si.gr 0 ch).bigValues = 0 ∧
      (si.gr 0 ch).tableSelect 0 = 0 := by
    intro ch hch
    obtain ⟨hpart23, hbig, htable, -⟩ := hempty ch hch
    exact ⟨hpart23, hbig, htable⟩
  rw [madNchannels, hmode, if_pos hchannels, iiiDecode_empty requantize hlsf (hmode ▸ hjoint) hptr
    layoutStack hchannel hleft, hright]
  by_cases hbit : modeExtension &&& iStereo ≠ 0
  · rw [if_pos hbit, if_pos rfl, decide_eq_true hbit]
    rfl
  · rw [if_neg hbit, if_neg (by decide), decide_eq_false hbit]
    rfl

/-- Only with `I_STEREO` is the frame of the length that it says. -/
theorem layoutFrame_ok (requantize : ℕ → ℤ → ℤ) {mode modeExtension : ℕ} (hmode : mode < 4)
    (hchannels : mode ≠ 0) (hjoint : mode ≠ 2) (hext : modeExtension < 4) (samples : SampleStack)
    (before : FrameSamples) :
    (decodeLayerIII requantize (layoutFrame mode modeExtension) layoutStream ⟨{}, 0⟩ layoutStack
      samples before).ok = decide (modeExtension &&& iStereo ≠ 0) := by
  obtain ⟨herror, hprot, hlsf, hmodeAt, hextAt⟩ := layoutFrame_header mode hmode modeExtension hext
  obtain ⟨hresult, hbegin, hempty, hcompress0, hcompress1⟩ :=
    layoutFrame_sideinfo mode hmode modeExtension hext
  generalize layoutFrame mode modeExtension = mem at *
  have hstart : AtBit mem layoutStream.ptr (8 * 0) := atBit_init mem 0
  obtain ⟨header, ptr, hdecode, hsame, hend, hleft⟩ := (decodeHeader_eq hstart {}).2 herror
  obtain ⟨hheaderMode, hheaderExt, -, hflags⟩ := hsame.fields
  have hlsfExt : header.flags.lsfExt = true := by
    rw [hflags]
    exact hlsf
  have hprotection : header.flags.protection = false := by
    rw [hflags]
    exact hprot
  rw [hmodeAt] at hheaderMode
  rw [hextAt] at hheaderExt
  rw [hprot, if_neg Bool.false_ne_true] at hend
  have hle := hend.left_le
  have hpos := hend.pos_eq
  have hleft8 : ptr.left = 8 := by omega
  have hbyte : ptr.byte = 4 := by omega
  have hnch : madNchannels header = 2 := by
    rw [madNchannels, hheaderMode, if_pos hchannels]
  have hnext : madBitNextbyte ptr = 4 := by rw [madBitNextbyte, if_pos hleft8, hbyte]
  simp only [decodeLayerIII, hdecode, if_true, madLayerIII, checkCrc_unprotected hprotection, hnch,
    hlsfExt, hnext, layoutStack]
  rw [if_neg (by decide), iiiSideinfo_fresh mem hleft8, hbyte]
  obtain ⟨hinfoAt, -⟩ := iiiSideinfo_at (atBit_init mem 4)
    (.inr rfl : 2 = 1 ∨ 2 = 2) true {}
  generalize iiiSideinfo mem (madBitInit 4) 2 true {} = info at *
  rw [hresult, layerMainData_begin requantize mem _ _ hbegin]
  -- the private bits have been added to the header
  exact layoutFrame_iiiDecode requantize hinfoAt hempty hcompress0 hcompress1 hchannels hjoint
    hheaderMode hheaderExt rfl

/-! ### Kinds of frames -/

/-- In unprotected frames of this version and mode, `mode_extension` may be the one or the other. -/
def ExtensionUnused (requantize : ℕ → ℤ → ℤ) (lsf : Bool) (mode modeExtension modeExtension' : ℕ) :
    Prop :=
  ∀ (f : ℕ) (mem mem' : Mem) (stream : MadStream) (frame : MadFrame) (stack : Stack)
    (samples : SampleStack) (before : FrameSamples),
    ExtensionBits f mem mem' → AtBit mem stream.ptr (8 * f) → protectionAt mem f = false →
    lsfAt mem f = lsf → (headerAt mem f).mode = mode →
    (headerAt mem f).modeExtension = modeExtension →
    (headerAt mem' f).modeExtension = modeExtension' →
    (decodeLayerIII requantize mem stream frame stack samples before).Same
      (decodeLayerIII requantize mem' stream frame stack samples before)

/-- LSF frames of two channels with another `I_STEREO` are told apart by some contents. -/
theorem extension_used (requantize : ℕ → ℤ → ℤ) {mode modeExtension modeExtension' : ℕ}
    (hmode : mode < 4) (hchannels : mode ≠ 0) (hjoint : mode ≠ 2) (hext : modeExtension < 4)
    (hext' : modeExtension' < 4)
    (hbit : modeExtension &&& iStereo ≠ modeExtension' &&& iStereo) :
    ¬ExtensionUnused requantize true mode modeExtension modeExtension' := by
  intro hunused
  obtain ⟨-, hprot, hlsf, hmodeAt, hextAt⟩ := layoutFrame_header mode hmode modeExtension hext
  obtain ⟨-, -, -, -, hextAt'⟩ := layoutFrame_header mode hmode modeExtension' hext'
  obtain ⟨hok, -, -⟩ := hunused 0 _ _ layoutStream ⟨{}, 0⟩ layoutStack
    ⟨fun _ _ _ _ _ => 0, fun _ _ _ => 0⟩ ⟨fun _ _ _ => 0, fun _ _ _ => 0⟩
    (layoutFrame_bits mode modeExtension modeExtension' hmode hext hext') (atBit_init _ 0) hprot hlsf
    hmodeAt hextAt hextAt'
  rw [layoutFrame_ok requantize hmode hchannels hjoint hext,
    layoutFrame_ok requantize hmode hchannels hjoint hext', decide_eq_decide] at hok
  have hlow : ∀ n < 4, n &&& iStereo = 0 ∨ n &&& iStereo = 1 := by decide
  rcases hlow modeExtension hext with hzero | hone
  · rcases hlow modeExtension' hext' with hzero' | hone'
    · exact hbit (hzero.trans hzero'.symm)
    · rw [hzero, hone'] at hok
      exact absurd rfl (hok.mpr (by decide))
  · rcases hlow modeExtension' hext' with hzero' | hone'
    · rw [hone, hzero'] at hok
      exact absurd rfl (hok.mp (by decide))
    · exact hbit (hone.trans hone'.symm)

/-- **`mode_extension` outside joint stereo.**  The kinds of frames in which the two bits have no
effect whatever the contents are those of MPEG-1, with one channel, or with the same `I_STEREO`.  In
the others they have none either where the right channel's scalefactors are not come to, or have the
same lengths in both layouts. -/
theorem modeExtension_unused (requantize : ℕ → ℤ → ℤ) :
    (∀ (lsf : Bool) (mode modeExtension modeExtension' : ℕ), mode < 4 → mode ≠ 2 →
      modeExtension < 4 → modeExtension' < 4 →
      (ExtensionUnused requantize lsf mode modeExtension modeExtension' ↔
        (lsf = true → mode ≠ 0 → modeExtension &&& iStereo = modeExtension' &&& iStereo))) ∧
    ∀ (f : ℕ) (mem mem' : Mem) (stream : MadStream) (frame : MadFrame) (stack : Stack)
      (samples : SampleStack) (before : FrameSamples),
      ExtensionBits f mem mem' → AtBit mem stream.ptr (8 * f) → protectionAt mem f = false →
      (headerAt mem f).mode ≠ 2 →
      (∀ call ∈ (decodeLayerIII requantize mem stream frame stack samples before).call,
        ¬call.LayoutsDiffer requantize stack) →
      (decodeLayerIII requantize mem stream frame stack samples before).Same
        (decodeLayerIII requantize mem' stream frame stack samples before) := by
  refine ⟨?_, ?_⟩
  · intro lsf mode ext ext' hmode hjoint hext hext'
    constructor
    · intro hunused hlsf hchannels
      by_contra hbit
      rw [hlsf] at hunused
      exact extension_used requantize hmode hchannels hjoint hext hext' hbit hunused
    · intro hsame f mem mem' stream frame stack samples before hbits hptr hprot hlsf hmodeAt hextAt
        hextAt'
      apply decodeLayerIII_same hbits hptr hprot (hmodeAt ▸ hjoint)
      rw [hlsf, hmodeAt, hextAt, hextAt']
      exact fun hlsf hchannels => .inl (hsame hlsf hchannels)
  · intro f mem mem' stream frame stack samples before hbits hptr hprot hmode hcalls
    exact decodeLayerIII_same hbits hptr hprot hmode requantize frame stack samples before
      fun _ _ => .inr hcalls

/-- MPEG-1 in plain stereo, LSF with another `MS_STEREO` only, and an LSF frame that is too short -/
theorem modeExtension_unused_stereo :
    let samples : SampleStack := ⟨fun _ _ _ _ _ => 0, fun _ _ _ => 0⟩
    let before : FrameSamples := ⟨fun _ _ _ => 0, fun _ _ _ => 0⟩
    let short : MadStream := { layoutStream with nextFrame := 20 }
    ExtensionUnused (fun _ _ => 0) false 3 0 3 ∧ ExtensionUnused (fun _ _ => 0) true 3 1 3 ∧
      (decodeLayerIII (fun _ _ => 0) (layoutFrame 3 0) short ⟨{}, 0⟩ layoutStack samples before).Same
        (decodeLayerIII (fun _ _ => 0) (layoutFrame 3 1) short ⟨{}, 0⟩ layoutStack samples
          before) := by
  intro samples before short
  obtain ⟨hkinds, hframes⟩ := modeExtension_unused fun _ _ => 0
  refine ⟨?_, ?_, ?_⟩
  · exact (hkinds false 3 0 3 (by decide) (by decide) (by decide) (by decide)).mpr
      fun hlsf => absurd hlsf Bool.false_ne_true
  · exact (hkinds true 3 1 3 (by decide) (by decide) (by decide) (by decide)).mpr fun _ _ => rfl
  · have hnone : (decodeLayerIII (fun _ _ => 0) (layoutFrame 3 0) short ⟨{}, 0⟩ layoutStack samples
        before).call.isNone = true := by decide +kernel
    apply hframes 0 (layoutFrame 3 0) (layoutFrame 3 1) short ⟨{}, 0⟩ layoutStack samples before
      (layoutFrame_bits 3 0 1 (by decide) (by decide) (by decide)) (atBit_init _ 0)
      (by decide +kernel) (by decide +kernel)
    rw [Option.isNone_iff_eq_none.mp hnone]
    exact fun call hcall => absurd hcall (Option.not_mem_none call)

/-- Plain LSF stereo: `I_STEREO` alone makes the right channel's part the length that it says. -/
theorem modeExtension_used : ¬∃ requantize : ℕ → ℤ → ℤ,
    ∀ (lsf : Bool) (mode modeExtension modeExtension' : ℕ), mode ≠ 2 →
      ExtensionUnused requantize lsf mode modeExtension modeExtension' := by
  intro ⟨requantize, hunused⟩
  exact extension_used requantize (by decide : 3 < 4) (by decide) (by decide) (by decide : 0 < 4)
    (by decide : 1 < 4) (by decide) (hunused true 3 0 1 (by decide))

end Mp3Decoder
