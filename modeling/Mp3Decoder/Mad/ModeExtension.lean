import Mp3Decoder.Mad.DecodeAgree
import Mp3Decoder.Mad.ReadsAhead

/-!
# `mode_extension` outside joint stereo

`III_decode` looks at the two bits of `mode_extension` for joint stereo only, but for one place:
`III_scalefactors_lsf` takes the right channel of any LSF frame for one of intensity stereo when
`I_STEREO` is set.  Frames that differ in these bits alone are decoded alike unless they get there,
and there as well when the scalefactors have the same lengths in both layouts.
-/

namespace Mp3Decoder

open BigEndianBits

/-- Two headers with the same fields, as far as `III_decode` reads them, but for `mode_extension`. -/
structure SameButExtension (header header' : MadHeader) : Prop where
  mode : header.mode = header'.mode
  samplerate : header.samplerate = header'.samplerate
  flags : header.flags = header'.flags

namespace SameButExtension

variable {header header' : MadHeader} (h : SameButExtension header header')
include h

theorem madNchannels_eq : madNchannels header = madNchannels header' := by
  rw [madNchannels, madNchannels, h.mode]

theorem ngrOf_eq : ngrOf header = ngrOf header' := by
  rw [ngrOf, ngrOf, h.flags]

theorem sfbwidthOf_eq (channel : Channel) :
    sfbwidthOf header channel = sfbwidthOf header' channel := by
  simp only [sfbwidthOf, sfreqIndex, h.samplerate, h.flags]

end SameButExtension

/-! ### Where the bit is not looked at -/

/-- `III_scalefactors_lsf` looks at no other bit. -/
theorem iiiScalefactorsLsf_intensity {gr1ch : Option Channel} {modeExtension modeExtension' : ℕ}
    (hintensity : isIntensity modeExtension gr1ch = isIntensity modeExtension' gr1ch) (mem : Mem)
    (ptr : MainPtr) (channel : Channel) :
    iiiScalefactorsLsf mem ptr channel gr1ch modeExtension =
      iiiScalefactorsLsf mem ptr channel gr1ch modeExtension' := by
  simp only [iiiScalefactorsLsf, hintensity]

section
variable {header header' : MadHeader} (h : SameButExtension header header')
include h

/-- The left channel, and the right one of MPEG-1 or with the same `I_STEREO`. -/
theorem decodePart_extension (requantize : ℕ → ℤ → ℤ) (mem : Mem) (stack : Stack) (gr : ℕ)
    (s : DecodeState) {ch : ℕ} (hsame : header.flags.lsfExt = true → ch ≠ 0 →
      header.modeExtension &&& iStereo = header'.modeExtension &&& iStereo) :
    decodePart requantize mem header stack gr s ch =
      decodePart requantize mem header' stack gr s ch := by
  have hscale : decodeScalefactors mem header s.ptr s.si gr ch =
      decodeScalefactors mem header' s.ptr s.si gr ch := by
    rw [decodeScalefactors, decodeScalefactors, ← h.flags]
    by_cases hlsf : header.flags.lsfExt = true
    · have hintensity : isIntensity header.modeExtension (gr1chOf s.si ch) =
          isIntensity header'.modeExtension (gr1chOf s.si ch) := by
        by_cases hleft : ch = 0
        · rw [gr1chOf, if_pos hleft, isIntensity, isIntensity, Option.isSome_none]
          simp only [Bool.false_eq_true, and_false]
        · have hbit := hsame hlsf hleft
          rw [iStereo] at hbit
          rw [isIntensity, isIntensity, hbit]
      rw [iiiScalefactorsLsf_intensity hintensity]
    · rw [if_neg hlsf, if_neg hlsf]
  rw [decodePart, decodePart, hscale, h.sfbwidthOf_eq]

end

/-- Without joint stereo, a granule is its channels. -/
theorem decodeGranule_channels (requantize : ℕ → ℤ → ℤ) (mem : Mem) {header : MadHeader}
    (hmode : header.mode ≠ 2) (stack : Stack) (nch : ℕ) (s : DecodeState) (gr : ℕ) :
    decodeGranule requantize mem header stack nch s gr =
      (List.range nch).foldl (decodePart requantize mem header stack gr) s :=
  if_neg fun hjoint => hmode hjoint.2.1

theorem jointStereo_plain {header : MadHeader} (hmode : header.mode ≠ 2) (si : SideInfo) (gr : ℕ)
    (sfbwidth : List ℕ) (xr : ℕ → ℕ → Fixed) : jointStereo header si gr sfbwidth xr = xr :=
  if_neg fun hjoint => hmode hjoint.1

/-- **`III_decode`** of a frame that is of MPEG-1, has one channel, or has the same `I_STEREO`. -/
theorem iiiDecodeFrame_extension {header header' : MadHeader} (h : SameButExtension header header')
    (hmode : header.mode ≠ 2) {nch : ℕ} (hsame : header.flags.lsfExt = true → 1 < nch →
      header.modeExtension &&& iStereo = header'.modeExtension &&& iStereo)
    (requantize : ℕ → ℤ → ℤ) (mem : Mem) (ptr : MadBitptr) (si : SideInfo) (stack : Stack)
    (samples : SampleStack) (frame : FrameSamples) :
    iiiDecodeFrame requantize mem ptr header si nch stack samples frame =
      iiiDecodeFrame requantize mem ptr header' si nch stack samples frame := by
  have hmode' : header'.mode ≠ 2 := h.mode ▸ hmode
  have hgranule : ∀ s gr, decodeGranule requantize mem header stack nch s gr =
      decodeGranule requantize mem header' stack nch s gr := by
    intro s gr
    rw [decodeGranule_channels requantize mem hmode, decodeGranule_channels requantize mem hmode']
    apply List.foldl_ext
    intro s ch hch
    have hlt := List.mem_range.mp hch
    exact decodePart_extension h requantize mem stack gr s fun hlsf hright => hsame hlsf (by omega)
  rw [iiiDecodeFrame, iiiDecodeFrame, h.ngrOf_eq]
  apply List.foldl_ext
  intro s gr _
  simp only [decodeGranuleSamples, hgranule, jointStereo_plain hmode, jointStereo_plain hmode',
    h.sfbwidthOf_eq]

/-! ### The two layouts -/

/-- Scalefactors of the given lengths, from `scalefac[sfbi]` on -/
def readLengths (mem : Mem) : List ℕ → ℕ → (ℕ → ℕ) → MainPtr → (ℕ → ℕ) × MainPtr
  | [], _, scalefac, ptr => (scalefac, ptr)
  | slen :: lengths, sfbi, scalefac, ptr =>
    let r := ptr.read mem slen
    readLengths mem lengths (sfbi + 1) (Function.update scalefac sfbi r.1) r.2

theorem readLengths_append (mem : Mem) (lengths lengths' : List ℕ) (sfbi : ℕ) (scalefac : ℕ → ℕ)
    (ptr : MainPtr) : readLengths mem (lengths ++ lengths') sfbi scalefac ptr =
      let r := readLengths mem lengths sfbi scalefac ptr
      readLengths mem lengths' (sfbi + lengths.length) r.1 r.2 := by
  induction lengths generalizing sfbi scalefac ptr with
  | nil => rfl
  | cons slen lengths ih =>
    rw [List.cons_append, readLengths, ih, readLengths, List.length_cons, Nat.add_right_comm,
      Nat.add_assoc]

theorem readScalefacs_lengths (mem : Mem) (slen n sfbi : ℕ) (scalefac : ℕ → ℕ) (ptr : MainPtr) :
    readScalefacs mem slen n sfbi scalefac ptr =
      readLengths mem (List.replicate n slen) sfbi scalefac ptr := by
  induction n generalizing sfbi scalefac ptr with
  | zero => rfl
  | succ n ih => exact ih _ _ _

/-- The lengths of the scalefactors, in the order in which they are read -/
def lsfLengths (channel : Channel) (intensity : Bool) : List ℕ :=
  (lsfParts channel intensity).flatMap fun part => List.replicate part.2 part.1

/-- The parts are read one scalefactor after the other, in either layout. -/
theorem foldl_parts (mem : Mem) (step : LsfState → ℕ × ℕ → LsfState)
    (hstep : ∀ s part, (step s part).n = s.n + part.2 ∧ ((step s part).scalefac, (step s part).ptr) =
      readScalefacs mem part.1 part.2 s.n s.scalefac s.ptr) (parts : List (ℕ × ℕ)) (s : LsfState) :
    let lengths := parts.flatMap fun part => List.replicate part.2 part.1
    let last := parts.foldl step s
    last.n = s.n + lengths.length ∧
      (last.scalefac, last.ptr) = readLengths mem lengths s.n s.scalefac s.ptr := by
  induction parts generalizing s with
  | nil => exact ⟨rfl, rfl⟩
  | cons part parts ih =>
    obtain ⟨hn, hread⟩ := hstep s part
    obtain ⟨hnRest, hreadRest⟩ := ih (step s part)
    rw [readScalefacs_lengths] at hread
    simp only [List.flatMap_cons, List.foldl_cons, readLengths_append, ← hread, List.length_append,
      List.length_replicate]
    rw [hn] at hnRest hreadRest
    exact ⟨by omega, hreadRest⟩

/-- Both layouts have the same lengths, and the one without intensity stereo no `preflag`. -/
def Channel.SameLayouts (channel : Channel) : Prop :=
  lsfLengths channel true = lsfLengths channel false ∧
    (lsfSlen channel.scalefacCompress false).1 ≠ 2

instance (channel : Channel) : Decidable channel.SameLayouts :=
  inferInstanceAs (Decidable (_ ∧ _))

/-- The layout does not matter for the channel and the pointer. -/
theorem iiiScalefactorsLsf_layouts {channel : Channel} (h : channel.SameLayouts) (mem : Mem)
    (ptr : MainPtr) (gr1ch : Option Channel) (modeExtension : ℕ) :
    let r := iiiScalefactorsLsf mem ptr channel gr1ch modeExtension
    let lengths := lsfLengths channel false
    let read := readLengths mem lengths 0 channel.scalefac ptr
    r.1 = { channel with scalefac := setScalefacs read.1 (fun _ => 0) lengths.length 39 } ∧
      r.2.2 = read.2 := by
  simp only [iiiScalefactorsLsf]
  obtain ⟨start, hstart⟩ : ∃ start : LsfState, start =
    ⟨0, channel.scalefac, (gr1ch.getD {}).scalefac, ptr⟩ := ⟨_, rfl⟩
  -- the last state of either loop, after the same lengths
  have hlast : ∀ last : LsfState, last.n = start.n + (lsfLengths channel false).length ∧
      (last.scalefac, last.ptr) =
        readLengths mem (lsfLengths channel false) start.n start.scalefac start.ptr →
      last.n = (lsfLengths channel false).length ∧
        last.scalefac = (readLengths mem (lsfLengths channel false) 0 channel.scalefac ptr).1 ∧
        last.ptr = (readLengths mem (lsfLengths channel false) 0 channel.scalefac ptr).2 := by
    rintro last ⟨hn, hread⟩
    rw [hstart] at hn hread
    exact ⟨by rw [hn, Nat.zero_add], congrArg Prod.fst hread, congrArg Prod.snd hread⟩
  rw [← hstart]
  by_cases hintensity : isIntensity modeExtension gr1ch = true
  · have hparts := foldl_parts mem (readIntensityPart mem) (fun _ _ => ⟨rfl, rfl⟩)
      (lsfParts channel true) start
    change _ = start.n + (lsfLengths channel true).length ∧
      _ = readLengths mem (lsfLengths channel true) start.n start.scalefac start.ptr at hparts
    rw [h.1] at hparts
    obtain ⟨hn, hscalefac, hptr⟩ := hlast _ hparts
    rw [hintensity, if_pos rfl, hn, hscalefac, hptr]
    exact ⟨rfl, rfl⟩
  · obtain ⟨hn, hscalefac, hptr⟩ := hlast _ (foldl_parts mem (readLsfPart mem)
      (fun _ _ => ⟨rfl, rfl⟩) (lsfParts channel false) start)
    rw [Bool.eq_false_iff.mpr hintensity, if_neg Bool.false_ne_true, if_neg h.2, hn, hscalefac, hptr]
    exact ⟨rfl, rfl⟩

/-! ### An LSF frame of two channels -/

/-- What the rest of the decoder sees of `III_decode`. -/
structure FrameDecoding.SameResult (d d' : FrameDecoding) : Prop where
  error : d.decode.error = d'.decode.error
  bits : d.decode.ptr.bits = d'.decode.ptr.bits
  frame : d.frame = d'.frame

theorem FrameDecoding.SameResult.of_eq {d d' : FrameDecoding} (h : d = d') : d.SameResult d' :=
  ⟨by rw [h], by rw [h], by rw [h]⟩

/-- The left channel of the first granule. -/
def leftDecoded (requantize : ℕ → ℤ → ℤ) (mem : Mem) (ptr : MadBitptr) (header : MadHeader)
    (si : SideInfo) (stack : Stack) : DecodeState :=
  decodePart requantize mem header stack 0
    { ptr := { bits := ptr }, si, xr := stack.xr, error := .none } 0

section
variable {header header' : MadHeader} (hlsf : header.flags.lsfExt = true)
include hlsf

theorem leftDecoded_right (requantize : ℕ → ℤ → ℤ) (mem : Mem) (ptr : MadBitptr) (si : SideInfo)
    (stack : Stack) : (leftDecoded requantize mem ptr header si stack).si.gr 0 1 = si.gr 0 1 := by
  obtain ⟨-, hrow, -, -⟩ := decodeScalefactors_lsf mem hlsf { bits := ptr } si 0
  exact (hrow 1).trans (if_neg Nat.one_ne_zero)

/-- There is only one granule, the right channel of which is the last. -/
theorem iiiDecodeFrame_lsf (hmode : header.mode ≠ 2) (requantize : ℕ → ℤ → ℤ) (mem : Mem)
    (ptr : MadBitptr) (si : SideInfo) (stack : Stack) (samples : SampleStack)
    (frame : FrameSamples) :
    iiiDecodeFrame requantize mem ptr header si 2 stack samples frame =
      let decode := decodePart requantize mem header stack 0
        (leftDecoded requantize mem ptr header si stack) 1
      if decode.error ≠ .none then ⟨decode, frame⟩
      else ⟨decode, (List.range 2).foldl (decodeSamples samples 0 (decode.si.gr 0)
        (fun ch => sfbwidthOf header (si.gr 0 ch)) (granuleLines (decode.xr 0))) frame⟩ := by
  rw [iiiDecodeFrame, ngrOf, if_pos hlsf, List.range_one, List.foldl_cons, List.foldl_nil]
  simp only [decodeGranuleSamples, decodeGranule_channels requantize mem hmode,
    jointStereo_plain hmode]
  rfl

/-- The right channel, where its scalefactors have the same lengths in both layouts. -/
theorem decodePart_layouts (h : SameButExtension header header') (requantize : ℕ → ℤ → ℤ)
    (mem : Mem) (stack : Stack) (s : DecodeState) (hright : (s.si.gr 0 1).SameLayouts) :
    let r := decodePart requantize mem header stack 0 s 1
    let r' := decodePart requantize mem header' stack 0 s 1
    r.error = r'.error ∧ r.ptr = r'.ptr ∧ r.xr = r'.xr ∧ r.si.gr 0 = r'.si.gr 0 := by
  have hlsf' : header'.flags.lsfExt = true := h.flags ▸ hlsf
  obtain ⟨-, hrow, -, hptr⟩ := decodeScalefactors_lsf mem hlsf s.ptr s.si 1
  obtain ⟨-, hrow', -, hptr'⟩ := decodeScalefactors_lsf mem hlsf' s.ptr s.si 1
  obtain ⟨hchannel, hend⟩ := iiiScalefactorsLsf_layouts hright mem s.ptr (gr1chOf s.si 1)
    header.modeExtension
  obtain ⟨hchannel', hend'⟩ := iiiScalefactorsLsf_layouts hright mem s.ptr (gr1chOf s.si 1)
    header'.modeExtension
  rw [hend] at hptr
  rw [hend'] at hptr'
  rw [hchannel] at hrow
  rw [hchannel'] at hrow'
  simp only [decodePart]
  by_cases herror : s.error ≠ .none
  · rw [if_pos herror, if_pos herror]
    exact ⟨rfl, rfl, rfl, rfl⟩
  · rw [if_neg herror, if_neg herror, hrow, hrow', hptr, hptr', h.sfbwidthOf_eq]
    refine ⟨rfl, rfl, rfl, ?_⟩
    funext ch
    rw [hrow, hrow']

/-- **The branch that `I_STEREO` takes does not matter** where the left channel has ended the frame,
or the layouts are the same. -/
theorem iiiDecodeFrame_layouts (h : SameButExtension header header') (hmode : header.mode ≠ 2)
    (requantize : ℕ → ℤ → ℤ) (mem : Mem) (ptr : MadBitptr) (si : SideInfo) (stack : Stack)
    (hright : (leftDecoded requantize mem ptr header si stack).error = .none →
      (si.gr 0 1).SameLayouts) (samples : SampleStack) (frame : FrameSamples) :
    (iiiDecodeFrame requantize mem ptr header si 2 stack samples frame).SameResult
      (iiiDecodeFrame requantize mem ptr header' si 2 stack samples frame) := by
  have hleft : leftDecoded requantize mem ptr header si stack =
      leftDecoded requantize mem ptr header' si stack :=
    decodePart_extension h requantize mem stack 0 _ fun _ hzero => absurd rfl hzero
  have hlsf' : header'.flags.lsfExt = true := h.flags ▸ hlsf
  have hmode' : header'.mode ≠ 2 := h.mode ▸ hmode
  have hgr1 := leftDecoded_right hlsf requantize mem ptr si stack
  rw [iiiDecodeFrame_lsf hlsf hmode, iiiDecodeFrame_lsf hlsf' hmode', ← hleft]
  generalize leftDecoded requantize mem ptr header si stack = left at hright hgr1 ⊢
  have hpart : let r := decodePart requantize mem header stack 0 left 1
      let r' := decodePart requantize mem header' stack 0 left 1
      r.error = r'.error ∧ r.ptr = r'.ptr ∧ r.xr = r'.xr ∧ r.si.gr 0 = r'.si.gr 0 := by
    by_cases herror : left.error = .none
    · exact decodePart_layouts hlsf h requantize mem stack left (hgr1 ▸ hright herror)
    · simp only [decodePart, if_pos herror]
      exact ⟨trivial, trivial, trivial, trivial⟩
  generalize decodePart requantize mem header stack 0 left 1 = r at hpart ⊢
  generalize decodePart requantize mem header' stack 0 left 1 = r' at hpart ⊢
  obtain ⟨herror, hptr, hxr, hrow⟩ := hpart
  simp only [← herror, ← hxr, ← hrow, ← h.sfbwidthOf_eq]
  split
  · exact ⟨herror, congrArg MainPtr.bits hptr, rfl⟩
  · exact ⟨herror, congrArg MainPtr.bits hptr, rfl⟩

end

end Mp3Decoder
