import Mp3Decoder.Mad.Reorder

/-!
# Decoding a frame's main data to subband samples (`III_decode`)

What follows the reading of a granule: joint stereo, and for each channel reordering, alias
reduction, the inverse transform and the overlap with the granule before.  `iiiDecodeFrame` is
`iiiDecode` with the samples: the error, the pointer and the side information are the same.

The subbands above the last line that is not 0 are not transformed.
-/

namespace Mp3Decoder

/-! ### One channel -/

/-- A subband of long blocks. -/
def longSubband (xr : ℕ → Fixed) (blockType : ℕ) (s : Subbands) (sb : ℕ) : Subbands :=
  iiiOverlap { s with output := iiiImdctL (fun i => xr (18 * sb + i)) s.output blockType } sb

/-- A subband of short blocks. -/
def shortSubband (xr : ℕ → Fixed) (s : Subbands) (sb : ℕ) : Subbands :=
  iiiOverlap { s with output := iiiImdctS (fun i => xr (18 * sb + i)) s.output } sb

/-- `if (sb & 1) III_freqinver(sample, sb);` -/
def invertOdd (s : Subbands) (sb : ℕ) : Subbands := if sb &&& 1 ≠ 0 then iiiFreqinver s sb else s

/-- `while (i > 36 && xr[ch][i - 1] == 0) --i;` -/
def trimZeros (xr : ℕ → Fixed) : ℕ → ℕ
  | 0 => 0
  | i + 1 => if 36 < i + 1 ∧ xr i = 0 then trimZeros xr i else i + 1

/-- `sblimit` -/
def sblimit (xr : ℕ → Fixed) : ℕ := 32 - (576 - trimZeros xr 576) / 18

/-- `reordering, alias reduction` -/
def reducedLines (blockType : ℕ) (mixed : Bool) (sfbwidth : List ℕ) (tmp : ℕ → ℕ → ℕ → Fixed)
    (xr : ℕ → Fixed) : ℕ → Fixed :=
  if blockType = 2 then
    let xr := iiiReorder xr mixed sfbwidth tmp
    if mixed then iiiAliasreduce xr 36 else xr
  else iiiAliasreduce xr 576

/-- `IMDCT, overlap-add, frequency inversion` -/
def transformLines (blockType : ℕ) (mixed : Bool) (xr : ℕ → Fixed) (s : Subbands) : Subbands :=
  -- subbands 0-1
  let s := if blockType ≠ 2 ∨ mixed then
      (List.range 2).foldl (longSubband xr (if mixed then 0 else blockType)) s
    else (List.range 2).foldl (shortSubband xr) s
  let s := iiiFreqinver s 1
  -- (nonzero) subbands 2-31
  let limit := sblimit xr
  let s := (List.range' 2 (limit - 2)).foldl (fun s sb =>
    invertOdd (if blockType ≠ 2 then longSubband xr blockType s sb else shortSubband xr s sb) sb) s
  -- remaining (zero) subbands
  (List.range' limit (32 - limit)).foldl (fun s sb => invertOdd (iiiOverlapZ s sb) sb) s

/-! ### The frame -/

/-- `sbsample[ch][s][sb]` and `overlap[ch][sb][i]` of the frame -/
structure FrameSamples where
  sbsample : ℕ → ℕ → ℕ → Fixed
  overlap : ℕ → ℕ → ℕ → Fixed

/-- The arrays behind the reading that are not initialised, by granule and channel: `tmp` of
`III_reorder`, and `output`. -/
structure SampleStack where
  tmp : ℕ → ℕ → ℕ → ℕ → ℕ → Fixed
  output : ℕ → ℕ → ℕ → Fixed

/-- The array `xr[2][576]` in fixed point. -/
def granuleLines (xr : ℕ → ℕ → ℤ) : ℕ → ℕ → Fixed := fun ch i =>
  if ch < 2 ∧ i < 576 then BitVec.ofInt 32 (xr ch i) else 0

/-- The samples of channel `ch` of granule `gr`, from its lines. -/
def decodeSamples (samples : SampleStack) (gr : ℕ) (channels : ℕ → Channel)
    (sfbwidth : ℕ → List ℕ) (xr : ℕ → ℕ → Fixed) (frame : FrameSamples) (ch : ℕ) : FrameSamples :=
  let blockType := (channels ch).blockType
  let mixed := (channels ch).isMixed
  let lines := reducedLines blockType mixed (sfbwidth ch) (samples.tmp gr ch) (xr ch)
  let out := transformLines blockType mixed lines
    { sample := fun i sb => frame.sbsample ch (18 * gr + i) sb
      overlap := frame.overlap ch
      output := samples.output gr ch }
  { sbsample := Function.update frame.sbsample ch fun s sb =>
      if 18 * gr ≤ s ∧ s < 18 * gr + 18 then out.sample (s - 18 * gr) sb
      else frame.sbsample ch s sb
    overlap := Function.update frame.overlap ch out.overlap }

/-- `joint stereo processing`, after the channels have been found to agree. -/
def jointStereo (header : MadHeader) (si : SideInfo) (gr : ℕ) (sfbwidth : List ℕ)
    (xr : ℕ → ℕ → Fixed) : ℕ → ℕ → Fixed :=
  if header.mode = 2 ∧ header.modeExtension ≠ 0 then (iiiStereo header si gr sfbwidth xr).1 else xr

structure FrameDecoding where
  decode : DecodeState
  frame : FrameSamples

variable (requantize : ℕ → ℤ → ℤ)

/-- One granule; an error, also that of `III_stereo`, ends the loops. -/
def decodeGranuleSamples (mem : Mem) (header : MadHeader) (stack : Stack) (samples : SampleStack)
    (nch : ℕ) (s : FrameDecoding) (gr : ℕ) : FrameDecoding :=
  let sfbwidth (ch : ℕ) : List ℕ := sfbwidthOf header (s.decode.si.gr gr ch)
  let decode := decodeGranule requantize mem header stack nch s.decode gr
  if decode.error ≠ .none then { s with decode }
  else
    let lines := jointStereo header decode.si gr (sfbwidth 0) (granuleLines (decode.xr gr))
    { decode
      frame := (List.range nch).foldl
        (decodeSamples samples gr (decode.si.gr gr) sfbwidth lines) s.frame }

/-- `III_decode` -/
def iiiDecodeFrame (mem : Mem) (ptr : MadBitptr) (header : MadHeader) (si : SideInfo) (nch : ℕ)
    (stack : Stack) (samples : SampleStack) (frame : FrameSamples) : FrameDecoding :=
  (List.range (ngrOf header)).foldl (decodeGranuleSamples requantize mem header stack samples nch)
    { decode := { ptr := { bits := ptr }, si, xr := stack.xr, error := .none }, frame }

/-- **The samples change nothing of the reading.** -/
theorem iiiDecodeFrame_decode (mem : Mem) (ptr : MadBitptr) (header : MadHeader) (si : SideInfo)
    (nch : ℕ) (stack : Stack) (samples : SampleStack) (frame : FrameSamples) :
    (iiiDecodeFrame requantize mem ptr header si nch stack samples frame).decode =
      iiiDecode requantize mem ptr header si nch stack := by
  have hgranules : ∀ (grs : List ℕ) (s : FrameDecoding),
      (grs.foldl (decodeGranuleSamples requantize mem header stack samples nch) s).decode =
        grs.foldl (decodeGranule requantize mem header stack nch) s.decode := by
    intro grs
    induction grs with
    | nil =>
      intro s
      rfl
    | cons gr grs ih =>
      intro s
      have hgranule : (decodeGranuleSamples requantize mem header stack samples nch s gr).decode =
          decodeGranule requantize mem header stack nch s.decode gr := by
        rw [decodeGranuleSamples]
        split_ifs
        · rfl
        · rfl
      rw [List.foldl_cons, List.foldl_cons, ih, hgranule]
  exact hgranules _ _

/-! ### What the samples depend on -/

/-- Everything but `output` is the same. -/
structure Subbands.Same (s s' : Subbands) : Prop where
  sample : s.sample = s'.sample
  overlap : s.overlap = s'.overlap

/-- `III_imdct_l` sets all of `output`. -/
theorem iiiImdctL_set (x output output' : ℕ → Fixed) (blockType : ℕ) {i : ℕ} (hi : i < 36) :
    iiiImdctL x output blockType i = iiiImdctL x output' blockType i := by
  have htmp : imdct36 x output i = imdct36 x output' i := by
    simp only [imdct36, if_pos hi]
  match blockType with
  | 0 => simp only [iiiImdctL, windowedL, htmp]
  | 1 => simp only [iiiImdctL, windowedL, htmp]
  | 2 => exact htmp
  | 3 => simp only [iiiImdctL, windowedL, htmp]
  | _ + 4 => exact htmp

/-- `III_imdct_s` sets all of `output`. -/
theorem iiiImdctS_set (x output output' : ℕ → Fixed) {i : ℕ} (hi : i < 36) :
    iiiImdctS x output i = iiiImdctS x output' i := by
  have hrow : i / 6 = 0 ∨ i / 6 = 1 ∨ i / 6 = 2 ∨ i / 6 = 3 ∨ i / 6 = 4 ∨ i / 6 = 5 := by omega
  rcases hrow with h | h | h | h | h | h
  all_goals simp only [iiiImdctS, h]

theorem Subbands.Same.overlapAdd {s s' : Subbands} (h : s.Same s') {output output' : ℕ → Fixed}
    (houtput : ∀ i < 36, output i = output' i) (sb : ℕ) :
    (iiiOverlap { s with output } sb).Same (iiiOverlap { s' with output := output' } sb) := by
  refine ⟨?_, ?_⟩
  · funext i sb'
    simp only [iiiOverlap, h.sample, h.overlap]
    by_cases hin : i < 18 ∧ sb' = sb
    · rw [if_pos hin, if_pos hin, houtput i (by omega)]
    · rw [if_neg hin, if_neg hin]
  · simp only [iiiOverlap, h.overlap]
    congr 1
    funext i
    by_cases hin : i < 18
    · rw [if_pos hin, if_pos hin, houtput (i + 18) (by omega)]
    · rw [if_neg hin, if_neg hin]

theorem Subbands.Same.long {s s' : Subbands} (h : s.Same s') (xr : ℕ → Fixed)
    (blockType sb : ℕ) : (longSubband xr blockType s sb).Same (longSubband xr blockType s' sb) :=
  h.overlapAdd (fun _ hi => iiiImdctL_set _ _ _ _ hi) sb

theorem Subbands.Same.short {s s' : Subbands} (h : s.Same s') (xr : ℕ → Fixed) (sb : ℕ) :
    (shortSubband xr s sb).Same (shortSubband xr s' sb) :=
  h.overlapAdd (fun _ hi => iiiImdctS_set _ _ _ hi) sb

theorem Subbands.Same.overlapZ {s s' : Subbands} (h : s.Same s') (sb : ℕ) :
    (iiiOverlapZ s sb).Same (iiiOverlapZ s' sb) := by
  refine ⟨?_, ?_⟩
  · simp only [iiiOverlapZ, h.sample, h.overlap]
  · simp only [iiiOverlapZ, h.overlap]

theorem Subbands.Same.freqinver {s s' : Subbands} (h : s.Same s') (sb : ℕ) :
    (iiiFreqinver s sb).Same (iiiFreqinver s' sb) := by
  refine ⟨?_, h.overlap⟩
  simp only [iiiFreqinver, h.sample]

theorem Subbands.Same.invertOdd {s s' : Subbands} (h : s.Same s') (sb : ℕ) :
    (Mp3Decoder.invertOdd s sb).Same (Mp3Decoder.invertOdd s' sb) := by
  rw [Mp3Decoder.invertOdd, Mp3Decoder.invertOdd]
  split_ifs
  · exact h.freqinver sb
  · exact h

theorem Subbands.Same.foldl {step step' : Subbands → ℕ → Subbands} (sbs : List ℕ)
    (hstep : ∀ sb ∈ sbs, ∀ s s', s.Same s' → (step s sb).Same (step' s' sb)) {s s' : Subbands}
    (h : s.Same s') : (sbs.foldl step s).Same (sbs.foldl step' s') := by
  induction sbs generalizing s s' with
  | nil => exact h
  | cons sb sbs ih =>
    exact ih (fun sb' hsb => hstep sb' (List.mem_cons_of_mem sb hsb))
      (hstep sb List.mem_cons_self s s' h)

/-- **What was in `output`** does not matter. -/
theorem transformLines_same (blockType : ℕ) (mixed : Bool) (xr : ℕ → Fixed) {s s' : Subbands}
    (h : s.Same s') :
    (transformLines blockType mixed xr s).Same (transformLines blockType mixed xr s') := by
  have hlong : ∀ blockType, ∀ sb ∈ List.range 2, ∀ s s', Subbands.Same s s' →
      (longSubband xr blockType s sb).Same (longSubband xr blockType s' sb) :=
    fun blockType sb _ _ _ hs => hs.long xr blockType sb
  have hshort : ∀ sb ∈ List.range 2, ∀ s s', Subbands.Same s s' →
      (shortSubband xr s sb).Same (shortSubband xr s' sb) := fun sb _ _ _ hs => hs.short xr sb
  simp only [transformLines]
  refine Subbands.Same.foldl _ (fun sb _ s s' hs => (hs.overlapZ sb).invertOdd sb) ?_
  refine Subbands.Same.foldl _ (fun sb _ s s' hs => Subbands.Same.invertOdd ?_ sb) ?_
  · split_ifs
    · exact hs.long xr blockType sb
    · exact hs.short xr sb
  apply Subbands.Same.freqinver
  by_cases hblock : blockType ≠ 2 ∨ mixed
  · rw [if_pos hblock, if_pos hblock]
    exact Subbands.Same.foldl _ (hlong _) h
  · rw [if_neg hblock, if_neg hblock]
    exact Subbands.Same.foldl _ hshort h

end Mp3Decoder
