import Mp3Decoder.Mad.Frame

/-!
# What nobody reads: `anc_bitlen`

`mad_frame_decode` zeroes `stream->anc_bitlen` when it fails, which `mad_header_decode` does not.
No later call of either shows the difference: the search for a header carries the field along,
and Layer III overwrites it or fails.
-/

namespace Mp3Decoder

/-! ### The search for a header -/

section Header

/-- The stream with other values of `anc_bitlen` and `options`, which the search does not use -/
def MadStream.carrying (c : UInt32 × ℕ) (stream : MadStream) : MadStream :=
  { stream with ancBitlen := c.1, options := c.2 }

def resultCarrying (c : UInt32 × ℕ) (r : Bool × MadHeader × MadStream) :
    Bool × MadHeader × MadStream :=
  (r.1, r.2.1, r.2.2.carrying c)

def HeaderOutcome.carrying (c : UInt32 × ℕ) : HeaderOutcome → HeaderOutcome
  | .fail header stream => .fail header (stream.carrying c)
  | .done header stream => .done header (stream.carrying c)
  | .again header stream => .again header (stream.carrying c)

/-- What `mad_header_decode` returns. -/
def HeaderOutcome.result : HeaderOutcome → Bool × MadHeader × MadStream
  | .done header stream => (true, header, stream)
  | .fail header stream | .again header stream => (false, header, { stream with sync := false })

def candidateCarrying (c : UInt32 × ℕ) :
    Except MadStream (MadStream × ℕ) → Except MadStream (MadStream × ℕ)
  | .error stream => .error (stream.carrying c)
  | .ok (stream, ptr) => .ok (stream.carrying c, ptr)

variable (mem : Mem) (header : MadHeader) (stream : MadStream) (c : UInt32 × ℕ)

theorem madStreamSync_carrying : madStreamSync mem (stream.carrying c) =
    (madStreamSync mem stream).map (MadStream.carrying c) := by
  rw [madStreamSync, madStreamSync, apply_ite (Option.map _)]
  rfl

theorem decodeHeader_carrying : decodeHeader mem header (stream.carrying c) =
    resultCarrying c (decodeHeader mem header stream) := by
  unfold decodeHeader
  dsimp -zeta only [MadStream.carrying]
  lift_lets
  extract_lets fail' mpeg25 id header₁ r₁ layer header₂ r₂ flags header₃ r₃ header₄ r₄ header₅ rest
    fail
  have hfail : ∀ header ptr error, resultCarrying c (fail header ptr error) =
      fail' header ptr error := fun _ _ _ => rfl
  have hdone : ∀ header ptr, resultCarrying c (true, header, { stream with ptr }) =
      (true, header, { stream with ptr, ancBitlen := c.1, options := c.2 }) := fun _ _ => rfl
  simp only [apply_ite (resultCarrying c), hfail, hdone]

theorem sameFormat_carrying :
    sameFormat mem header (stream.carrying c) = sameFormat mem header stream := by
  have hpeek : ∀ d, ((resultCarrying c d).1 && (resultCarrying c d).2.1.layer == header.layer &&
      (resultCarrying c d).2.1.samplerate == header.samplerate) =
      (d.1 && d.2.1.layer == header.layer && d.2.1.samplerate == header.samplerate) :=
    fun _ => rfl
  rw [sameFormat, decodeHeader_carrying]
  exact hpeek _

theorem freeBitrateLoop_carrying (rate fuel : ℕ) :
    freeBitrateLoop mem header (stream.carrying c) rate fuel =
      freeBitrateLoop mem header stream rate fuel := by
  induction fuel generalizing stream rate with
  | zero => rfl
  | succ fuel ih =>
    rw [freeBitrateLoop, freeBitrateLoop, madStreamSync_carrying]
    cases madStreamSync mem stream with
    | none => rfl
    | some peek =>
      obtain ⟨next, hnext⟩ : ∃ next, next = { peek with ptr := madBitSkip mem peek.ptr 8 } :=
        ⟨_, rfl⟩
      have hnext' : { peek.carrying c with
          ptr := madBitSkip mem (peek.carrying c).ptr 8 } = next.carrying c := by
        rw [hnext]
        rfl
      simp only [Option.map_some, sameFormat_carrying, hnext', ih, ← hnext]
      rfl

theorem freeBitrate_carrying : freeBitrate mem (stream.carrying c) header =
    Prod.map id (MadStream.carrying c) (freeBitrate mem stream header) := by
  rw [freeBitrate, freeBitrateLoop_carrying, freeBitrate]
  simp only [apply_ite (Prod.map id (MadStream.carrying c))]
  rfl

theorem setFreeRate_carrying : setFreeRate mem header (stream.carrying c) =
    resultCarrying c (setFreeRate mem header stream) := by
  obtain ⟨found, hfound⟩ : ∃ found, found =
    if stream.freerate = 0 ∨ !stream.sync ∨ header.layer = 3 ∧ stream.freerate > 640000 then
      freeBitrate mem stream header
    else (true, stream) := ⟨_, rfl⟩
  have hfound' : (if (stream.carrying c).freerate = 0 ∨ !(stream.carrying c).sync ∨
      header.layer = 3 ∧ (stream.carrying c).freerate > 640000 then
        freeBitrate mem (stream.carrying c) header
      else (true, stream.carrying c)) = Prod.map id (MadStream.carrying c) found := by
    rw [hfound, freeBitrate_carrying, apply_ite (Prod.map id (MadStream.carrying c))]
    rfl
  simp only [setFreeRate, ← hfound, hfound', apply_ite (resultCarrying c)]
  rfl

theorem processFrame_carrying (ptr : ℕ) : processFrame mem header (stream.carrying c) ptr =
    (processFrame mem header stream ptr).carrying c := by
  unfold processFrame
  lift_lets
  extract_lets start' d' f' header' stream' next' flags' complete' start d f
  have hd : d' = resultCarrying c d := decodeHeader_carrying mem header start c
  have hf : f' = resultCarrying c f := by
    rw [show f' = setFreeRate mem d'.2.1 d'.2.2 from rfl, hd]
    exact setFreeRate_carrying mem d.2.1 d.2.2 c
  clear_value d' f' d f
  subst hd hf
  simp only [apply_ite (HeaderOutcome.carrying c)]
  rfl

theorem synchronize_carrying (ptr : ℕ) : synchronize mem (stream.carrying c) ptr =
    candidateCarrying c (synchronize mem stream ptr) := by
  obtain ⟨start, hstart⟩ : ∃ start : MadStream, start = { stream with ptr := madBitInit ptr } :=
    ⟨_, rfl⟩
  have hstart' : { stream.carrying c with ptr := madBitInit ptr } = start.carrying c := by
    rw [hstart]
    rfl
  simp only [synchronize, hstart', ← hstart, madStreamSync_carrying,
    apply_ite (candidateCarrying c)]
  cases madStreamSync mem start with
  | none => rfl
  | some found => rfl

theorem headerPass_carrying (ptr : ℕ) : headerPass mem header (stream.carrying c) ptr =
    (headerPass mem header stream ptr).carrying c := by
  rw [headerPass, synchronize_carrying, headerPass]
  cases synchronize mem stream ptr with
  | error stream' => rfl
  | ok candidate => exact processFrame_carrying mem header candidate.1 c candidate.2

theorem headerLoop_carrying (ptr fuel : ℕ) : headerLoop mem header (stream.carrying c) ptr fuel =
    (headerLoop mem header stream ptr fuel).carrying c := by
  induction fuel generalizing header stream ptr with
  | zero => rfl
  | succ fuel ih =>
    rw [headerLoop, headerLoop, headerPass_carrying]
    cases headerPass mem header stream ptr with
    | fail => rfl
    | done => rfl
    | again header' stream' => exact ih header' stream' stream'.nextFrame

/-- `mad_header_decode` carries the fields along. -/
theorem madHeaderDecode_carrying : madHeaderDecode mem header (stream.carrying c) =
    resultCarrying c (madHeaderDecode mem header stream) := by
  have hskip : (if (stream.carrying c).skiplen ≠ 0 then
      { stream.carrying c with skiplen := 0, sync := true } else stream.carrying c) =
      (if stream.skiplen ≠ 0 then { stream with skiplen := 0, sync := true }
        else stream).carrying c := by
    rw [apply_ite (MadStream.carrying c)]
    rfl
  simp only [madHeaderDecode, hskip, headerLoop_carrying, apply_ite (resultCarrying c)]
  refine if_congr Iff.rfl rfl (if_congr Iff.rfl rfl ?_)
  have hresult : ∀ outcome : HeaderOutcome,
      (outcome.carrying c).result = resultCarrying c outcome.result := by
    rintro (⟨header, stream⟩ | ⟨header, stream⟩ | ⟨header, stream⟩)
    all_goals rfl
  exact hresult _

theorem madHeaderDecode_options :
    (madHeaderDecode mem header stream).2.2.options = stream.options :=
  congrArg (·.2.2.options)
    (madHeaderDecode_carrying mem header stream (stream.ancBitlen, stream.options))

/-- `stream->anc_bitlen = n` -/
def MadStream.withAnc (n : UInt32) (stream : MadStream) : MadStream :=
  { stream with ancBitlen := n }

theorem madHeaderDecode_withAnc (n : UInt32) : madHeaderDecode mem header (stream.withAnc n) =
    ((madHeaderDecode mem header stream).1, (madHeaderDecode mem header stream).2.1,
      (madHeaderDecode mem header stream).2.2.withAnc n) := by
  have hcarrying := madHeaderDecode_carrying mem header stream (n, stream.options)
  have hoptions := madHeaderDecode_options mem header stream
  generalize madHeaderDecode mem header stream = r at hcarrying hoptions ⊢
  refine hcarrying.trans ?_
  rw [resultCarrying, ← hoptions]
  rfl

end Header

/-! ### Layer III -/

section Layer

variable (requantize : ℕ → ℤ → ℤ) (mem : Mem) (stream : MadStream) (n : UInt32)

def FoundMain.withAnc (n : UInt32) (found : FoundMain) : FoundMain :=
  { found with stream := found.stream.withAnc n }

theorem findMainData_withAnc (mainDataBegin mdLen : ℕ) (error : MadError) :
    findMainData mem (stream.withAnc n) mainDataBegin mdLen error =
      (findMainData mem stream mainDataBegin mdLen error).withAnc n := by
  simp only [findMainData, apply_ite (FoundMain.withAnc n)]
  rfl

theorem preloadMainData_withAnc (mainDataBegin nextMdBegin mdLen frameFree : ℕ) :
    preloadMainData mem (stream.withAnc n) mainDataBegin nextMdBegin mdLen frameFree =
      (preloadMainData mem stream mainDataBegin nextMdBegin mdLen frameFree).withAnc n := by
  have hmdLen : (stream.withAnc n).mdLen = stream.mdLen := rfl
  rw [preloadMainData, preloadMainData]
  by_cases hnext : frameFree ≥ nextMdBegin
  · rw [if_pos hnext, if_pos hnext]
    rfl
  · rw [if_neg hnext, if_neg hnext]
    by_cases hshort : mdLen < mainDataBegin
    · simp only [if_pos hshort, hmdLen]
      generalize (if mainDataBegin - mdLen + frameFree > nextMdBegin then nextMdBegin - frameFree
        else mainDataBegin - mdLen) = extra
      by_cases hextra : extra < stream.mdLen
      · rw [if_pos hextra, if_pos hextra]
        rfl
      · rw [if_neg hextra, if_neg hextra]
        rfl
    · rw [if_neg hshort, if_neg hshort]
      rfl

/-- The caller's field is still there after a failure, or it does not matter. -/
def LayerResult.CarriesAnc (n : UInt32) (r r' : LayerResult) : Prop :=
  r' = r ∨ r.ok = false ∧ r' = { r with stream := r.stream.withAnc n }

theorem layerMainData_withAnc (header : MadHeader) (info : SideinfoState) (error : MadError)
    (stack : Stack) :
    (layerMainData requantize mem header stream info error stack).CarriesAnc n
      (layerMainData requantize mem header (stream.withAnc n) info error stack) := by
  have hnext : (stream.withAnc n).nextFrame = stream.nextFrame := rfl
  have hptr : (stream.withAnc n).ptr = stream.ptr := rfl
  simp only [layerMainData, findMainData_withAnc, hnext, hptr]
  generalize (if peekMainDataBegin mem stream.nextFrame > info.si.mainDataBegin +
    (stream.nextFrame - madBitNextbyte stream.ptr) then 0
    else peekMainDataBegin mem stream.nextFrame) = next
  generalize info.si.mainDataBegin + (stream.nextFrame - madBitNextbyte stream.ptr) - next = mdLen
  obtain ⟨found, hfound⟩ : ∃ found,
    found = findMainData mem stream info.si.mainDataBegin mdLen error := ⟨_, rfl⟩
  have herror : (found.withAnc n).error = found.error := rfl
  have hused : (found.withAnc n).frameUsed = found.frameUsed := rfl
  simp only [← hfound, herror, hused]
  by_cases hnone : found.error = .none
  · left
    simp only [if_pos hnone]
    rfl
  · right
    have hstream : (found.withAnc n).stream = found.stream.withAnc n := rfl
    simp only [if_neg hnone, hstream, preloadMainData_withAnc]
    exact ⟨decide_eq_false hnone, rfl⟩

theorem madLayerIII_withAnc (frame : MadFrame) (stack : Stack) :
    (madLayerIII requantize mem stream frame stack).CarriesAnc n
      (madLayerIII requantize mem (stream.withAnc n) frame stack) := by
  have hnext : (stream.withAnc n).nextFrame = stream.nextFrame := rfl
  have hptr : (stream.withAnc n).ptr = stream.ptr := rfl
  simp only [madLayerIII, hnext, hptr]
  by_cases hshort : (stream.nextFrame : ℤ) - madBitNextbyte stream.ptr <
      siLen frame.header.flags.lsfExt (madNchannels frame.header)
  · simp only [if_pos hshort]
    exact .inr ⟨rfl, rfl⟩
  · simp only [if_neg hshort]
    exact layerMainData_withAnc requantize mem _ n _ _ _ stack

/-! ### A frame -/

/-- Two calls of `mad_frame_decode` end in the same way, the stream of a layer decoder apart. -/
inductive FrameResult.Alike : FrameResult → FrameResult → Prop
  | returned {ok : Bool} {frame : MadFrame} {stream : MadStream}
      {layer layer' : Option LayerResult} :
      layer'.map LayerResult.call = layer.map LayerResult.call →
      Alike (.returned ok frame stream layer) (.returned ok frame stream layer')
  | nullCall {frame frame' : MadFrame} {stream stream' : MadStream} :
      Alike (.nullCall frame stream) (.nullCall frame' stream')

theorem audioData_withAnc (frame : MadFrame) (stack : Stack) :
    (audioData requantize mem frame stream stack).Alike
      (audioData requantize mem frame (stream.withAnc n) stack) := by
  obtain ⟨header, options⟩ := frame
  by_cases hthree : header.layer = 3
  · rw [audioData_layerIII hthree, audioData_layerIII hthree]
    rcases madLayerIII_withAnc requantize mem stream n
      ⟨{ header with flags := { header.flags with incomplete := false } }, options⟩ stack with
      heq | ⟨hfail, heq⟩
    · rw [heq]
      exact .returned rfl
    · rw [heq, afterLayerIII, afterLayerIII]
      simp only [hfail]
      exact .returned rfl
  · obtain ⟨frame', stream', hnull⟩ : ∃ frame' stream',
        audioData requantize mem ⟨header, options⟩ stream stack = .nullCall frame' stream' :=
      audioData_other hthree
    obtain ⟨frame'', stream'', hnull'⟩ : ∃ frame' stream',
        audioData requantize mem ⟨header, options⟩ (stream.withAnc n) stack =
          .nullCall frame' stream' := audioData_other hthree
    rw [hnull, hnull']
    exact .nullCall

/-- **`mad_frame_decode` reads neither `anc_bitlen` nor the frame's options.** -/
theorem madFrameDecode_withAnc (header : MadHeader) (options options' : ℕ) (stack : Stack) :
    (madFrameDecode requantize mem ⟨header, options⟩ stream stack).Alike
      (madFrameDecode requantize mem ⟨header, options'⟩ (stream.withAnc n) stack) := by
  simp only [madFrameDecode]
  by_cases hwaiting : header.flags.incomplete = true
  · simp only [if_pos hwaiting]
    exact audioData_withAnc requantize mem stream n _ stack
  · simp only [if_neg hwaiting, madHeaderDecode_withAnc]
    obtain ⟨ok, header', stream'⟩ := madHeaderDecode mem header stream
    cases ok with
    | true => exact audioData_withAnc requantize mem stream' n _ stack
    | false => exact .returned rfl

end Layer

end Mp3Decoder
