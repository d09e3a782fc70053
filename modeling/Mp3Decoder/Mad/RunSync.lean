import Mp3Decoder.Mad.Frame
import Mp3Decoder.Mad.Samples
import Mathlib.Logic.Function.Iterate

/-!
# The decoder loop (`run_sync`)

`run_sync` has `input_func` fill the stream, decodes frames until the decoder asks for more data,
and hands each of them to `mad_synth_frame` and `output_func`.  A header can be shown to
`header_func` before its frame is decoded; the result of that `mad_header_decode` is compared the
wrong way round.

A step is a call of `input_func` or a pass of the inner loop.  `σ` is the state of the program
around the decoder and `τ` that of the synthesis.  What is on the stack and in memory depends on
`σ`.
-/

namespace Mp3Decoder

inductive MadFlow
  | flowContinue
  | flowStop
  | flowBreak
  | flowIgnore
  deriving DecidableEq, Repr

/-- `struct mad_frame`; `overlap` says whether the pointer to the overlap array has been set. -/
structure SyncFrame where
  frame : MadFrame
  samples : FrameSamples
  overlap : Bool

/-- `mad_frame_mute` -/
def madFrameMute (f : SyncFrame) : SyncFrame :=
  { f with samples := {
      sbsample := fun _ _ _ => 0
      overlap := if f.overlap then fun _ _ _ => 0 else f.samples.overlap } }

/-- `struct mad_decoder`, with `none` for a null pointer. -/
structure MadDecoder (σ τ : Type) where
  options : ℕ
  inputFunc : Option (σ → MadStream → MadFlow × σ × MadStream)
  headerFunc : Option (σ → MadHeader → MadFlow × σ)
  filterFunc : Option (σ → MadStream → SyncFrame → MadFlow × σ × SyncFrame)
  outputFunc : Option (σ → MadHeader → τ → MadFlow × σ × τ)
  errorFunc : Option (σ → MadStream → SyncFrame → MadFlow × σ × MadStream × SyncFrame)

/-- The program around the decoder. -/
structure SyncProgram (σ τ : Type) where
  mem : σ → Mem
  stack : σ → Stack
  sampleStack : σ → SampleStack
  requantize : ℕ → ℤ → ℤ
  madSynthInit : τ
  madSynthFrame : σ → τ → SyncFrame → σ × τ

inductive RunPc
  | input
  | decode
  | returned (result : ℤ)
  /-- after a call through a null pointer -/
  | crashed
  deriving DecidableEq, Repr

structure RunSync (σ τ : Type) where
  env : σ
  stream : MadStream
  frame : SyncFrame
  synth : τ
  badLastFrame : Bool
  pc : RunPc
  /-- the frames handed to `mad_synth_frame` so far -/
  synthesised : List SyncFrame
  /-- what `output_func` got so far -/
  output : List (MadHeader × τ)

/-- `error_default`: the answer, `*bad_last_frame` and the frame. -/
def errorDefault (badLastFrame : Bool) (stream : MadStream) (frame : SyncFrame) :
    MadFlow × Bool × SyncFrame :=
  if stream.error = .badcrc then
    (.flowIgnore, true, if badLastFrame then madFrameMute frame else frame)
  else (.flowContinue, badLastFrame, frame)

variable {σ τ : Type}

/-- `while (stream->error == MAD_ERROR_BUFLEN)` -/
def RunSync.whileBuflen (s : RunSync σ τ) : RunSync σ τ :=
  { s with pc := if s.stream.error = .buflen then .input else .returned (-1) }

/-- `input_func` -/
def RunSync.callInput (s : RunSync σ τ) (inputFunc : σ → MadStream → MadFlow × σ × MadStream) :
    RunSync σ τ :=
  let r := inputFunc s.env s.stream
  let s := { s with env := r.2.1, stream := r.2.2 }
  match r.1 with
  | .flowStop => { s with pc := .returned 0 }
  | .flowBreak => { s with pc := .returned (-1) }
  | .flowIgnore => s.whileBuflen
  | .flowContinue => { s with pc := .decode }

variable (decoder : MadDecoder σ τ) (program : SyncProgram σ τ)

/-- `error_func` -/
def RunSync.callError (s : RunSync σ τ) : MadFlow × RunSync σ τ :=
  match decoder.errorFunc with
  | some errorFunc =>
    let r := errorFunc s.env s.stream s.frame
    (r.1, { s with env := r.2.1, stream := r.2.2.1, frame := r.2.2.2 })
  | none =>
    let r := errorDefault s.badLastFrame s.stream s.frame
    (r.1, { s with badLastFrame := r.2.1, frame := r.2.2 })

/-- `output_func` -/
def RunSync.callOutput (s : RunSync σ τ) : RunSync σ τ :=
  match decoder.outputFunc with
  | none => s
  | some outputFunc =>
    let header := s.frame.frame.header
    let r := outputFunc s.env header s.synth
    let s := { s with env := r.2.1, synth := r.2.2, output := s.output ++ [(header, s.synth)] }
    match r.1 with
    | .flowStop => { s with pc := .returned 0 }
    | .flowBreak => { s with pc := .returned (-1) }
    | .flowIgnore | .flowContinue => s

/-- `mad_synth_frame` -/
def RunSync.synthesise (s : RunSync σ τ) : RunSync σ τ :=
  let r := program.madSynthFrame s.env s.synth s.frame
  RunSync.callOutput decoder
    { s with env := r.1, synth := r.2, synthesised := s.synthesised ++ [s.frame] }

/-- `filter_func` -/
def RunSync.callFilter (s : RunSync σ τ) : RunSync σ τ :=
  match decoder.filterFunc with
  | none => s.synthesise decoder program
  | some filterFunc =>
    let r := filterFunc s.env s.stream s.frame
    let s := { s with env := r.2.1, frame := r.2.2 }
    match r.1 with
    | .flowStop => { s with pc := .returned 0 }
    | .flowBreak => { s with pc := .returned (-1) }
    | .flowIgnore => s
    | .flowContinue => s.synthesise decoder program

/-- The frame after `mad_frame_decode`: `III_decode` leaves the samples, if it was called. -/
def SyncFrame.decoded (f : SyncFrame) (frame : MadFrame) (layer : Option LayerResult) (env : σ) :
    SyncFrame where
  frame
  samples :=
    match layer.bind LayerResult.call with
    | none => f.samples
    | some call =>
      (iiiDecodeFrame program.requantize call.mem call.ptr call.header call.si
        (madNchannels call.header) (program.stack env) (program.sampleStack env) f.samples).frame
  overlap := f.overlap || layer.isSome

/-- `mad_frame_decode`, and what follows it -/
def RunSync.decodeFrame (s : RunSync σ τ) : RunSync σ τ :=
  match madFrameDecode program.requantize (program.mem s.env) s.frame.frame s.stream
    (program.stack s.env) with
  | .nullCall frame stream => { s with frame := { s.frame with frame }, stream, pc := .crashed }
  | .returned ok frame stream layer =>
    let s := { s with frame := s.frame.decoded program frame layer s.env, stream }
    if ok then RunSync.callFilter decoder program { s with badLastFrame := false }
    else if !madRecoverable stream.error then s.whileBuflen
    else
      let r := s.callError decoder
      match r.1 with
      | .flowStop => { r.2 with pc := .returned 0 }
      | .flowBreak => { r.2 with pc := .returned (-1) }
      | .flowIgnore => r.2.callFilter decoder program
      | .flowContinue => r.2

/-- `header_func`, and what follows it: `if (r!=-1)` takes a header for an error. -/
def RunSync.callHeader (s : RunSync σ τ) (headerFunc : σ → MadHeader → MadFlow × σ) : RunSync σ τ :=
  let r := madHeaderDecode (program.mem s.env) s.frame.frame.header s.stream
  let s := { s with
    stream := r.2.2, frame := { s.frame with frame := { s.frame.frame with header := r.2.1 } } }
  if r.1 then
    if !madRecoverable s.stream.error then s.whileBuflen
    else
      let r := s.callError decoder
      match r.1 with
      | .flowStop => { r.2 with pc := .returned 0 }
      | .flowBreak => { r.2 with pc := .returned (-1) }
      | .flowIgnore | .flowContinue => r.2
  else
    let r := headerFunc s.env s.frame.frame.header
    let s := { s with env := r.2 }
    match r.1 with
    | .flowStop => { s with pc := .returned 0 }
    | .flowBreak => { s with pc := .returned (-1) }
    | .flowIgnore => s
    | .flowContinue => s.decodeFrame decoder program

def RunSync.step (s : RunSync σ τ) : RunSync σ τ :=
  match s.pc with
  | .input =>
    match decoder.inputFunc with
    | some inputFunc => s.callInput inputFunc
    | none => s
  | .decode =>
    match decoder.headerFunc with
    | some headerFunc => s.callHeader decoder program headerFunc
    | none => s.decodeFrame decoder program
  | .returned _ | .crashed => s

/-- `run_sync` before its loop, over static arrays that hold `mainData` and `ovlbuf`. -/
def runSyncInit (env : σ) (mainData : Mem) (ovlbuf : ℕ → ℕ → ℕ → Fixed) : RunSync σ τ where
  env
  stream := { madStreamInit mainData with options := decoder.options }
  frame := madFrameMute ⟨madFrameInit, ⟨fun _ _ _ => 0, ovlbuf⟩, false⟩
  synth := program.madSynthInit
  badLastFrame := false
  pc := if decoder.inputFunc.isNone then .returned 0 else .input
  synthesised := []
  output := []

/-! ### What a run delivers -/

/-- After `n` steps -/
def RunSync.after (s : RunSync σ τ) (n : ℕ) : RunSync σ τ := (RunSync.step decoder program)^[n] s

/-- Two systems of callbacks have the same frames synthesised and output, in the same order, and
give the same result if there is one. -/
structure SameRuns (decoder decoder' : MadDecoder σ τ) (s s' : RunSync σ τ) : Prop where
  synthesised : ∀ (i : ℕ) (frame : SyncFrame),
    (∃ n, (s.after decoder program n).synthesised[i]? = some frame) ↔
      ∃ n, (s'.after decoder' program n).synthesised[i]? = some frame
  output : ∀ (i : ℕ) (out : MadHeader × τ),
    (∃ n, (s.after decoder program n).output[i]? = some out) ↔
      ∃ n, (s'.after decoder' program n).output[i]? = some out
  result : ∀ result : ℤ, (∃ n, (s.after decoder program n).pc = .returned result) ↔
    ∃ n, (s'.after decoder' program n).pc = .returned result

/-- `header_func` is null. -/
def MadDecoder.unobserved (decoder : MadDecoder σ τ) : MadDecoder σ τ :=
  { decoder with headerFunc := none }

/-- `header_func` always returns `MAD_FLOW_CONTINUE`. -/
def MadDecoder.observed (decoder : MadDecoder σ τ) : MadDecoder σ τ :=
  { decoder with headerFunc := some fun env _ => (.flowContinue, env) }

/-- What has been delivered stays delivered. -/
structure Prolongs (s s' : RunSync σ τ) : Prop where
  synthesised : s.synthesised <+: s'.synthesised
  output : s.output <+: s'.output

theorem Prolongs.of_eq {s s' : RunSync σ τ} (hsynthesised : s'.synthesised = s.synthesised)
    (houtput : s'.output = s.output) : Prolongs s s' :=
  ⟨hsynthesised ▸ List.prefix_refl _, houtput ▸ List.prefix_refl _⟩

theorem Prolongs.trans {s s' s'' : RunSync σ τ} (h : Prolongs s s') (h' : Prolongs s' s'') :
    Prolongs s s'' :=
  ⟨h.synthesised.trans h'.synthesised, h.output.trans h'.output⟩

theorem callOutput_prolongs (s : RunSync σ τ) : Prolongs s (s.callOutput decoder) := by
  rw [RunSync.callOutput]
  cases decoder.outputFunc with
  | none => exact .of_eq rfl rfl
  | some outputFunc =>
    simp only
    split
    all_goals exact ⟨List.prefix_refl _, List.prefix_append _ _⟩

theorem synthesise_prolongs (s : RunSync σ τ) : Prolongs s (s.synthesise decoder program) := by
  rw [RunSync.synthesise]
  refine .trans ?_ (callOutput_prolongs decoder _)
  exact ⟨List.prefix_append _ _, List.prefix_refl _⟩

theorem callFilter_prolongs (s : RunSync σ τ) : Prolongs s (s.callFilter decoder program) := by
  rw [RunSync.callFilter]
  cases decoder.filterFunc with
  | none => exact synthesise_prolongs decoder program s
  | some filterFunc =>
    simp only
    split
    case h_4 =>
      refine .trans ?_ (synthesise_prolongs decoder program _)
      exact .of_eq rfl rfl
    all_goals exact .of_eq rfl rfl

theorem callError_prolongs (s : RunSync σ τ) : Prolongs s (s.callError decoder).2 := by
  rw [RunSync.callError]
  cases decoder.errorFunc with
  | none => exact .of_eq rfl rfl
  | some errorFunc => exact .of_eq rfl rfl

theorem decodeFrame_prolongs (s : RunSync σ τ) : Prolongs s (s.decodeFrame decoder program) := by
  rw [RunSync.decodeFrame]
  cases madFrameDecode program.requantize (program.mem s.env) s.frame.frame s.stream
    (program.stack s.env) with
  | nullCall frame stream => exact .of_eq rfl rfl
  | returned ok frame stream layer =>
    simp only
    split_ifs
    · refine .trans ?_ (callFilter_prolongs decoder program _)
      exact .of_eq rfl rfl
    · exact .of_eq rfl rfl
    · have herror := callError_prolongs decoder { s with
        frame := s.frame.decoded program frame layer s.env, stream }
      split
      case h_3 =>
        refine .trans ?_ (callFilter_prolongs decoder program _)
        exact ⟨herror.synthesised, herror.output⟩
      all_goals exact ⟨herror.synthesised, herror.output⟩

theorem callHeader_prolongs (s : RunSync σ τ) (headerFunc : σ → MadHeader → MadFlow × σ) :
    Prolongs s (s.callHeader decoder program headerFunc) := by
  generalize hdecode : madHeaderDecode (program.mem s.env) s.frame.frame.header s.stream = r
  obtain ⟨ok, header, stream⟩ := r
  simp only [RunSync.callHeader, hdecode]
  split_ifs
  · exact .of_eq rfl rfl
  · have herror := callError_prolongs decoder { s with
      stream, frame := { s.frame with frame := { s.frame.frame with header } } }
    split
    all_goals exact ⟨herror.synthesised, herror.output⟩
  · split
    case h_4 =>
      refine .trans ?_ (decodeFrame_prolongs decoder program _)
      exact .of_eq rfl rfl
    all_goals exact .of_eq rfl rfl

/-- Step lemma: nothing delivered is taken back. -/
theorem step_prolongs (s : RunSync σ τ) : Prolongs s (s.step decoder program) := by
  rw [RunSync.step]
  split
  · split
    · rw [RunSync.callInput]
      split
      all_goals exact .of_eq rfl rfl
    · exact .of_eq rfl rfl
  · split
    · exact callHeader_prolongs decoder program s _
    · exact decodeFrame_prolongs decoder program s
  · exact .of_eq rfl rfl
  · exact .of_eq rfl rfl

/-- A run that is over stays as it is. -/
theorem step_over {s : RunSync σ τ} (h : s.pc ≠ .input ∧ s.pc ≠ .decode) :
    s.step decoder program = s := by
  rw [RunSync.step]
  split
  case h_1 hpc => exact absurd hpc h.1
  case h_2 hpc => exact absurd hpc h.2
  all_goals rfl

end Mp3Decoder
