import Mp3Decoder.Mad.DecodeAgree
import Mp3Decoder.Mad.Samples

/-!
# Nothing that is not initialised is used

`III_sideinfo` and `III_decode` run twice over the same bits, with different garbage in the
structures on the stack: the side information, `xr`, the exponents, `tmp` of `III_reorder` and
`output`.  The error, the samples, the overlap and the pointer are the same.
-/

namespace Mp3Decoder

/-! ### The samples of a granule -/

/-- Nothing of `tmp` is left. -/
theorem reducedLines_agree {header : MadHeader} (hrate : header.ValidRate) (channel : Channel)
    (tmp tmp' : ℕ → ℕ → ℕ → Fixed) (xr : ℕ → Fixed) :
    reducedLines channel.blockType channel.isMixed (sfbwidthOf header channel) tmp xr =
      reducedLines channel.blockType channel.isMixed (sfbwidthOf header channel) tmp' xr := by
  obtain ⟨hshort, hmixed⟩ := sfbwidthTable_reorder (sfbRow header) hrate.row.1
  rw [reducedLines, reducedLines]
  by_cases htype : channel.blockType = 2
  · have hfits : ReorderFits (reorderStart channel.isMixed)
        (reorderWidths channel.isMixed (sfbwidthOf header channel)) := by
      rw [sfbwidthOf_eq, SfbWidths.select, if_pos htype]
      cases channel.isMixed with
      | true => exact hmixed
      | false => exact hshort
    rw [if_pos htype, if_pos htype, iiiReorder_eq xr hfits tmp, iiiReorder_eq xr hfits tmp']
  · rw [if_neg htype, if_neg htype]

variable {header : MadHeader} {nch gr : ℕ} {done : ℕ → ℕ → Prop} {si si' : SideInfo}

/-- **One channel** -/
theorem decodeSamples_agree (hrate : header.ValidRate) (h : SidesMatch header nch done si si')
    (hgr : gr < ngrOf header) (samples samples' : SampleStack) {sfbwidth sfbwidth' : ℕ → List ℕ}
    {xr xr' : ℕ → ℕ → Fixed} {ch : ℕ} (hch : ch < nch)
    (hwidth : sfbwidth ch = sfbwidthOf header (si.gr gr ch))
    (hwidth' : sfbwidth' ch = sfbwidthOf header (si'.gr gr ch)) (hxr : xr ch = xr' ch)
    (frame : FrameSamples) : decodeSamples samples gr (si.gr gr) sfbwidth xr frame ch =
      decodeSamples samples' gr (si'.gr gr) sfbwidth' xr' frame ch := by
  have hinfo := h.info gr hgr ch hch
  have hstart : Subbands.Same
      ⟨fun i sb => frame.sbsample ch (18 * gr + i) sb, frame.overlap ch, samples.output gr ch⟩
      ⟨fun i sb => frame.sbsample ch (18 * gr + i) sb, frame.overlap ch, samples'.output gr ch⟩ :=
    ⟨rfl, rfl⟩
  have hstore : ∀ out out' : Subbands, out.Same out' →
      FrameSamples.mk
        (Function.update frame.sbsample ch fun s sb =>
          if 18 * gr ≤ s ∧ s < 18 * gr + 18 then out.sample (s - 18 * gr) sb
          else frame.sbsample ch s sb)
        (Function.update frame.overlap ch out.overlap) =
      FrameSamples.mk
        (Function.update frame.sbsample ch fun s sb =>
          if 18 * gr ≤ s ∧ s < 18 * gr + 18 then out'.sample (s - 18 * gr) sb
          else frame.sbsample ch s sb)
        (Function.update frame.overlap ch out'.overlap) := by
    intro out out' hout
    rw [hout.sample, hout.overlap]
  rw [decodeSamples, decodeSamples]
  apply hstore
  rw [hwidth, hwidth', ← h.widths hgr hch, ← hinfo.blockType, ← hinfo.isMixed, ← hxr,
    reducedLines_agree hrate (si.gr gr ch) (samples.tmp gr ch) (samples'.tmp gr ch)]
  exact transformLines_same _ _ _ hstart

/-- All channels -/
theorem foldSamples_agree (hrate : header.ValidRate) (h : SidesMatch header nch done si si')
    (hgr : gr < ngrOf header) (samples samples' : SampleStack) {sfbwidth sfbwidth' : ℕ → List ℕ}
    {xr xr' : ℕ → ℕ → Fixed} (hwidth : ∀ ch < nch, sfbwidth ch = sfbwidthOf header (si.gr gr ch))
    (hwidth' : ∀ ch < nch, sfbwidth' ch = sfbwidthOf header (si'.gr gr ch))
    (hxr : ∀ ch < nch, xr ch = xr' ch) (frame : FrameSamples) : ∀ n ≤ nch,
      (List.range n).foldl (decodeSamples samples gr (si.gr gr) sfbwidth xr) frame =
        (List.range n).foldl (decodeSamples samples' gr (si'.gr gr) sfbwidth' xr') frame := by
  intro n
  induction n with
  | zero =>
    intro _
    rw [List.range_zero, List.foldl_nil, List.foldl_nil]
  | succ n ih =>
    intro hn
    rw [List.range_succ, List.foldl_append, List.foldl_append, ih (by omega), List.foldl_cons,
      List.foldl_cons, List.foldl_nil, List.foldl_nil]
    exact decodeSamples_agree hrate h hgr samples samples' hn (hwidth n hn) (hwidth' n hn)
      (hxr n hn) _

/-! ### Joint stereo -/

/-- Without intensity stereo, the scalefactors do not matter. -/
theorem stereoLines_noIntensity {lsf : Bool} {modeExtension : ℕ} {info info' : StereoInfo}
    (hnone : modeExtension &&& iStereo = 0) (sfbwidth : List ℕ) (xr : ℕ → ℕ → Fixed) :
    stereoLines lsf modeExtension info sfbwidth xr =
      stereoLines lsf modeExtension info' sfbwidth xr := by
  have hoff : ¬modeExtension &&& iStereo ≠ 0 := not_not.mpr hnone
  simp only [stereoLines, if_neg hoff]

theorem jointStereo_agree (hrate : header.ValidRate) (h : SidesMatch header nch done si si')
    (hnch : nch = madNchannels header) (hgr : gr < ngrOf header) (hdone : ∀ ch < nch, done gr ch)
    {xr xr' : ℕ → ℕ → Fixed} (hxr : ∀ ch, ch < nch ∨ 2 ≤ ch → xr ch = xr' ch) {ch : ℕ}
    (hch : ch < nch) :
    jointStereo header si gr (sfbwidthOf header (si.gr gr 0)) xr ch =
      jointStereo header si' gr (sfbwidthOf header (si.gr gr 0)) xr' ch := by
  rw [jointStereo, jointStereo]
  by_cases hjoint : header.mode = 2 ∧ header.modeExtension ≠ 0
  · rw [if_pos hjoint, if_pos hjoint]
    have htwo := two_channels hnch hjoint.1
    have hlines : xr = xr' := by
      funext ch'
      exact hxr ch' (by omega)
    have hleft := h.info gr hgr 0 (by omega)
    have hright := h.info gr hgr 1 (by omega)
    have hbad : badStereo si gr = badStereo si' gr := by
      rw [badStereo, badStereo, hleft.blockType, hright.blockType, hleft.isMixed, hright.isMixed]
    rw [iiiStereo, iiiStereo, ← hbad, ← hlines]
    by_cases hstereo : badStereo si gr = true
    · rw [if_pos hstereo, if_pos hstereo]
    rw [if_neg hstereo, if_neg hstereo]
    by_cases hintensity : header.modeExtension &&& iStereo = 0
    · rw [stereoLines_noIntensity hintensity]
    -- the right channel has the bands of the left one
    simp only [badStereo, Bool.decide_or, Bool.or_eq_true, decide_eq_true_eq, not_or, ne_eq,
      not_not] at hstereo
    have hwidths : sfbwidthOf header (si.gr gr 0) =
        (sfbRow header).select (si.gr gr 1) := by
      rw [sfbwidthOf_eq, SfbWidths.select, SfbWidths.select, hstereo.1, hstereo.2]
      rfl
    obtain ⟨hrow, hrow3⟩ := hrate.row
    have hcount := (bandsSet hrow hrow3 (si.gr gr 1)).count
    obtain ⟨-, hlength, -⟩ := exponentsAccesses_inBounds hrow (si.gr gr 1) (Nat.le_refl 2)
    rw [← hwidths] at hcount hlength
    have hagree : (stereoInfo si gr).Agree header.flags.lsfExt
        (sfbwidthOf header (si.gr gr 0)).length (stereoInfo si' gr) := by
      refine ⟨hright.blockType, hright.isMixed, hright.scalefacCompress, ?_, ?_⟩
      · intro sfbi hsfbi
        exact h.scalefac gr hgr 1 (by omega) (hdone 1 (by omega)) sfbi (by omega)
      · intro hlsf sfbi hsfbi
        have hgr0 : gr = 0 := by
          rw [ngrOf, if_pos hlsf] at hgr
          omega
        rw [hgr0] at hdone hsfbi hlength
        simp only [stereoInfo, hgr0]
        exact h.illegalPos hlsf hintensity (hdone 1 (by omega)) sfbi (by omega)
    rw [stereoLines_agree hagree]
  · rw [if_neg hjoint, if_neg hjoint]
    exact hxr ch (.inl hch)

/-! ### The frame -/

/-- Decoding a granule leaves the layout alone. -/
theorem SameLayout.decodeGranule (requantize : ℕ → ℤ → ℤ) (mem : Mem) (header : MadHeader)
    (stack : Stack) (nch : ℕ) (s : DecodeState) (gr : ℕ) :
    SameLayout s.si (Mp3Decoder.decodeGranule requantize mem header stack nch s gr).si := by
  have hpart : ∀ (t : DecodeState) (ch : ℕ), SameLayout s.si t.si →
      SameLayout s.si (decodePart requantize mem header stack gr t ch).si := by
    intro t ch ht
    rw [decodePart]
    split_ifs
    · exact ht
    · exact ht.decodeScalefactors mem header t.ptr gr ch
  have hchannels : ∀ (chs : List ℕ) (t : DecodeState), SameLayout s.si t.si →
      SameLayout s.si (chs.foldl (decodePart requantize mem header stack gr) t).si := by
    intro chs
    induction chs with
    | nil =>
      intro t ht
      exact ht
    | cons ch chs ih =>
      intro t ht
      exact ih _ (hpart t ch ht)
  have hall := hchannels (List.range nch) s (.refl s.si)
  rw [Mp3Decoder.decodeGranule]
  split_ifs
  · exact hall
  · exact hall

theorem SameLayout.widths {si si' : SideInfo} (h : SameLayout si si') (header : MadHeader)
    (gr ch : ℕ) : sfbwidthOf header (si.gr gr ch) = sfbwidthOf header (si'.gr gr ch) := by
  have hlengths := h.lengths gr ch
  rw [sfbwidthOf_eq, sfbwidthOf_eq, SfbWidths.select, SfbWidths.select, hlengths.blockType,
    hlengths.isMixed]

/-- Two runs have decoded the channels that are `done`, with their samples. -/
structure FrameMatch (mem : Mem) (header : MadHeader) (nch : ℕ) (done : ℕ → ℕ → Prop)
    (s s' : FrameDecoding) : Prop where
  decode : DecodeMatch mem header nch done s.decode s'.decode
  frame : s.frame = s'.frame

/-- The array `xr` of a granule whose channels have been decoded. -/
theorem granuleLines_agree {nch : ℕ} {xr xr' : ℕ → ℕ → ℤ}
    (hxr : ∀ ch < nch, AgreeBelow 576 (xr ch) (xr' ch)) {ch : ℕ} (hch : ch < nch ∨ 2 ≤ ch) :
    granuleLines xr ch = granuleLines xr' ch := by
  funext i
  rw [granuleLines, granuleLines]
  by_cases hin : ch < 2 ∧ i < 576
  · rw [if_pos hin, if_pos hin, hxr ch (by omega) i hin.2]
  · rw [if_neg hin, if_neg hin]

/-- **One granule** -/
theorem FrameMatch.granule (requantize : ℕ → ℤ → ℤ) {mem : Mem} (hrate : header.ValidRate)
    (hnch : nch = madNchannels header) {s s' : FrameDecoding}
    (h : FrameMatch mem header nch (doneBefore nch gr 0) s s') (stack stack' : Stack)
    (samples samples' : SampleStack) (hgr : gr < ngrOf header) :
    FrameMatch mem header nch (doneBefore nch (gr + 1) 0)
      (decodeGranuleSamples requantize mem header stack samples nch s gr)
      (decodeGranuleSamples requantize mem header stack' samples' nch s' gr) := by
  have hdecode := h.decode.granule requantize hrate hnch stack stack' hgr
  have hlayout := SameLayout.decodeGranule requantize mem header stack nch s.decode gr
  have hlayout' := SameLayout.decodeGranule requantize mem header stack' nch s'.decode gr
  simp only [decodeGranuleSamples]
  generalize decodeGranule requantize mem header stack nch s.decode gr = decode at *
  generalize decodeGranule requantize mem header stack' nch s'.decode gr = decode' at *
  by_cases herror : decode.error ≠ .none
  · rw [if_pos herror, if_pos (hdecode.error ▸ herror)]
    exact ⟨hdecode, h.frame⟩
  rw [if_neg herror, if_neg (hdecode.error ▸ herror)]
  rw [not_not] at herror
  have hsides := hdecode.sides herror
  have hdone : ∀ ch < nch, doneBefore nch (gr + 1) 0 gr ch := fun ch hch => .inl ⟨by omega, hch⟩
  have hlines : ∀ ch, ch < nch ∨ 2 ≤ ch →
      granuleLines (decode.xr gr) ch = granuleLines (decode'.xr gr) ch := by
    intro ch hch
    apply granuleLines_agree _ hch
    intro ch' hch'
    exact hdecode.lines herror gr hgr ch' hch' (hdone ch' hch')
  have hpos : 0 < nch := by
    rw [hnch, madNchannels]
    split_ifs
    · exact Nat.succ_pos 1
    · exact Nat.succ_pos 0
  refine ⟨hdecode, ?_⟩
  rw [← h.frame]
  apply foldSamples_agree hrate hsides hgr samples samples'
    (fun ch _ => hlayout.widths header gr ch) (fun ch _ => hlayout'.widths header gr ch) _ s.frame
    nch (Nat.le_refl nch)
  intro ch hch
  rw [hlayout.widths header gr 0, hlayout'.widths header gr 0, ← hsides.widths hgr hpos]
  exact jointStereo_agree hrate hsides hnch hgr hdone hlines hch

/-- The granules before the `n`-th -/
theorem FrameMatch.granules (requantize : ℕ → ℤ → ℤ) {mem : Mem} (hrate : header.ValidRate)
    (hnch : nch = madNchannels header) {s s' : FrameDecoding}
    (h : FrameMatch mem header nch (doneBefore nch 0 0) s s') (stack stack' : Stack)
    (samples samples' : SampleStack) : ∀ n ≤ ngrOf header,
      FrameMatch mem header nch (doneBefore nch n 0)
        ((List.range n).foldl (decodeGranuleSamples requantize mem header stack samples nch) s)
        ((List.range n).foldl (decodeGranuleSamples requantize mem header stack' samples' nch)
          s') := by
  intro n
  induction n with
  | zero =>
    intro _
    exact h
  | succ n ih =>
    intro hn
    rw [List.range_succ, List.foldl_append, List.foldl_append, List.foldl_cons, List.foldl_cons,
      List.foldl_nil, List.foldl_nil]
    exact (ih (by omega)).granule requantize hrate hnch stack stack' samples samples' hn

/-- **Decoding a frame does not depend on what is not initialised.**  Over the same bits, header and
frame, `III_sideinfo` and, where it finds no error, `III_decode` give the same error, samples, overlap
and pointer from any two contents of the structures on the stack. -/
theorem frame_independentOfStack (requantize : ℕ → ℤ → ℤ) (mem main : Mem)
    {ptr mainPtr : MadBitptr} {pos mainPos : ℕ} (hptr : AtBit mem ptr pos)
    (hmain : AtBit main mainPtr mainPos) {header : MadHeader} (hrate : header.ValidRate)
    (stack stack' : Stack) (samples samples' : SampleStack) (frame : FrameSamples) :
    let nch := madNchannels header
    let info := iiiSideinfo mem ptr nch header.flags.lsfExt stack.si
    let info' := iiiSideinfo mem ptr nch header.flags.lsfExt stack'.si
    info.result = info'.result ∧ info.ptr = info'.ptr ∧
      (info.result = .none →
        let r := iiiDecodeFrame requantize main mainPtr header info.si nch stack samples frame
        let r' := iiiDecodeFrame requantize main mainPtr header info'.si nch stack' samples' frame
        r.decode.error = r'.decode.error ∧ r.frame.sbsample = r'.frame.sbsample ∧
          r.frame.overlap = r'.frame.overlap ∧ r.decode.ptr.bits = r'.decode.ptr.bits) := by
  obtain ⟨nch, hnch⟩ : ∃ nch, nch = madNchannels header := ⟨_, rfl⟩
  rw [← hnch]
  have hinfo := iiiSideinfo_agree mem ptr nch header.flags.lsfExt stack.si stack'.si
  refine ⟨hinfo.result, hinfo.ptr, ?_⟩
  intro hok
  have hnone : ∀ gr ch, doneBefore nch 0 0 gr ch → False := by
    intro gr ch hdone
    rcases hdone with ⟨hlt, -⟩ | ⟨-, hlt⟩
    · exact Nat.not_lt_zero gr hlt
    · exact Nat.not_lt_zero ch hlt
  have hsides := (SidesMatch.start hptr stack.si stack'.si hok).mono hnone
  have hstart : FrameMatch main header nch (doneBefore nch 0 0)
      ⟨⟨⟨mainPtr, []⟩, (iiiSideinfo mem ptr nch header.flags.lsfExt stack.si).si, stack.xr, .none⟩,
        frame⟩
      ⟨⟨⟨mainPtr, []⟩, (iiiSideinfo mem ptr nch header.flags.lsfExt stack'.si).si, stack'.xr,
        .none⟩, frame⟩ :=
    ⟨⟨rfl, rfl, ⟨mainPos, hmain⟩, fun _ => hsides,
      fun _ gr _ ch _ hdone => (hnone gr ch hdone).elim⟩, rfl⟩
  have hall := hstart.granules requantize hrate hnch stack stack' samples samples' (ngrOf header)
    (Nat.le_refl _)
  exact ⟨hall.decode.error, congrArg FrameSamples.sbsample hall.frame,
    congrArg FrameSamples.overlap hall.frame, hall.decode.bits⟩

/-- The side information of an LSF frame: a granule of 200 bits and one of 150 bits -/
def intensityInfo : Mem := fun a =>
  ([0x00, 0x03, 0x20, 0x29, 0x91, 0x2c, 0x04, 0x45, 0x56, 0x84, 0xb0, 0x2a, 0xf8, 0xc8, 0x19, 0x4e,
    0x46] : List UInt8).getD a 0

/-- The frame in intensity stereo, with stacks full of zeros and of ones. -/
theorem frame_independentOfStack_intensity :
    let main : Mem := fun a => UInt8.ofNat (37 * a + 11)
    let header : MadHeader := {
      samplerate := 24000, mode := 2, modeExtension := 1, flags := { lsfExt := true } }
    let stack : Stack := ⟨{}, fun _ _ _ => 0, fun _ _ _ => 0⟩
    let garbage : Channel := { flags := 1, scalefac := fun _ => 1, tableSelect := fun _ => 1 }
    let stack' : Stack := ⟨{ scfsi := fun _ => 1, gr := fun _ _ => garbage }, fun _ _ _ => 1,
      fun _ _ _ => 1⟩
    let samples : SampleStack := ⟨fun _ _ _ _ _ => 0, fun _ _ _ => 0⟩
    let samples' : SampleStack := ⟨fun _ _ _ _ _ => 1, fun _ _ _ => 1⟩
    let frame : FrameSamples := ⟨fun _ _ _ => 0, fun _ _ _ => 5⟩
    let requantize : ℕ → ℤ → ℤ := fun value _ => 1000 * value
    let info := iiiSideinfo intensityInfo (madBitInit 0) 2 true stack.si
    let info' := iiiSideinfo intensityInfo (madBitInit 0) 2 true stack'.si
    let decoded := iiiDecodeFrame requantize main (madBitInit 0) header info.si 2 stack samples frame
    info.result = .none ∧ decoded.decode.error = .none ∧
      decoded.frame.sbsample = (iiiDecodeFrame requantize main (madBitInit 0) header info'.si 2 stack'
        samples' frame).frame.sbsample := by
  intro main header stack garbage stack' samples samples' frame requantize info info' decoded
  have hok : info.result = .none := by decide +kernel
  have hrate : header.ValidRate := ⟨fun hmpeg25 => (nomatch hmpeg25), 1, by decide, rfl⟩
  have hsame := frame_independentOfStack requantize intensityInfo main (atBit_init intensityInfo 0)
    (atBit_init main 0) hrate stack stack' samples samples' frame
  exact ⟨hok, by decide +kernel, (hsame.2.2 hok).2.1⟩

end Mp3Decoder
