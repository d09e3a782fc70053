import Mp3Decoder.Lib.Stutter
import Mp3Decoder.Mad.AncBitlen
import Mp3Decoder.Mad.HeaderRuns
import Mp3Decoder.Mad.Requantize
import Mp3Decoder.Mad.RunSync

/-!
# A header callback that only observes

`if (r!=-1)` lets `run_sync` go on to `header_func` and `mad_frame_decode` when the search for a
header has failed, and takes a header that was found for an error.  So a `header_func` that only
observes does no harm in a pass in which `mad_header_decode` finds none.  `mad_frame_decode` then
searches again, which without the callback it does in the next pass.
-/

namespace Mp3Decoder

open Stutter

variable {σ τ : Type} (decoder : MadDecoder σ τ) (program : SyncProgram σ τ)

/-- What `mad_frame_decode` leaves when its search for a header fails. -/
def RunSync.afterSearch (s : RunSync σ τ) (header : MadHeader) (stream : MadStream) : RunSync σ τ :=
  { s with
    stream := stream.withAnc 0
    frame := { s.frame with frame := ⟨header, s.stream.options⟩ } }

/-- `input_func` fills two streams alike, or ends the run in the same way. -/
def FillsAlike (env : σ) (stream stream' : MadStream) : Prop :=
  ∀ inputFunc, decoder.inputFunc = some inputFunc →
    inputFunc env stream' = inputFunc env stream ∨
      (inputFunc env stream').1 = (inputFunc env stream).1 ∧
        ((inputFunc env stream).1 = .flowStop ∨ (inputFunc env stream).1 = .flowBreak)

/-- A pass of the inner loop that comes to no harm: no header is found, and either `error_func`
would only have gone on, or the second search ends as the first. -/
def RunSync.Harmless (s : RunSync σ τ) : Prop :=
  s.pc = .decode →
    let first := madHeaderDecode (program.mem s.env) s.frame.frame.header s.stream
    let second := madHeaderDecode (program.mem s.env) first.2.1 first.2.2
    let failed := s.afterSearch first.2.1 first.2.2
    s.frame.frame.header.flags.incomplete = false ∧ first.1 = false ∧
      if madRecoverable first.2.2.error then failed.callError decoder = (.flowContinue, failed)
      else second.1 = false ∧ second.2.1 = first.2.1 ∧ second.2.2.error = first.2.2.error ∧
        (first.2.2.error = .buflen →
          FillsAlike decoder s.env (second.2.2.withAnc 0) (first.2.2.withAnc 0))

/-! ### One call of `mad_frame_decode` -/

theorem decoded_none (f : SyncFrame) (frame : MadFrame) (env : σ) :
    f.decoded program frame none env = { f with frame } := by
  rw [SyncFrame.decoded, Option.isSome_none, Bool.or_false]
  rfl

/-- The search for a header fails in `mad_frame_decode`. -/
theorem decodeFrame_searchFails {s : RunSync σ τ}
    (hwaiting : s.frame.frame.header.flags.incomplete = false) {header : MadHeader}
    {stream : MadStream}
    (hfail : madHeaderDecode (program.mem s.env) s.frame.frame.header s.stream =
      (false, header, stream)) :
    s.decodeFrame decoder program =
      if madRecoverable stream.error then
        let r := (s.afterSearch header stream).callError decoder
        match r.1 with
        | .flowStop => { r.2 with pc := .returned 0 }
        | .flowBreak => { r.2 with pc := .returned (-1) }
        | .flowIgnore => r.2.callFilter decoder program
        | .flowContinue => r.2
      else (s.afterSearch header stream).whileBuflen := by
  have hreturned : madFrameDecode program.requantize (program.mem s.env) s.frame.frame s.stream
      (program.stack s.env) =
      .returned false ⟨header, s.stream.options⟩ (stream.withAnc 0) none := by
    simp only [madFrameDecode, hwaiting, hfail]
    rfl
  rw [RunSync.decodeFrame, hreturned]
  simp only [decoded_none]
  cases hrecoverable : madRecoverable stream.error with
  | true =>
    have herror : madRecoverable (stream.withAnc 0).error = true := hrecoverable
    simp only [herror]
    rfl
  | false =>
    have herror : madRecoverable (stream.withAnc 0).error = false := hrecoverable
    simp only [herror]
    rfl

/-- Runs that are over agree on what they have delivered. -/
structure Ended (s s' : RunSync σ τ) : Prop where
  finished : s.pc ≠ .input ∧ s.pc ≠ .decode
  pc : s'.pc = s.pc
  synthesised : s'.synthesised = s.synthesised
  output : s'.output = s.output

theorem returned_finished (result : ℤ) :
    RunPc.returned result ≠ .input ∧ RunPc.returned result ≠ .decode := by
  constructor <;> simp

theorem crashed_finished : RunPc.crashed ≠ .input ∧ RunPc.crashed ≠ .decode := by decide

/-- The two runs are in the same state, or are about to be, or are over. -/
inductive Alike : RunSync σ τ → RunSync σ τ → Prop
  | same (s : RunSync σ τ) : Alike s s
  | asking {s : RunSync σ τ} {stream : MadStream} : s.pc = .input →
      FillsAlike decoder s.env s.stream stream → Alike s { s with stream }
  | ended {s s' : RunSync σ τ} : Ended s s' → Alike s s'

/-- The frame that `mad_frame_decode` leaves does not show what a layer decoder left. -/
theorem decoded_congr {f f' : SyncFrame} (hsamples : f'.samples = f.samples)
    (hoverlap : f'.overlap = f.overlap) (frame : MadFrame) {layer layer' : Option LayerResult}
    (hcall : layer'.map LayerResult.call = layer.map LayerResult.call) (env : σ) :
    f'.decoded program frame layer' env = f.decoded program frame layer env := by
  have hsome : layer'.isSome = layer.isSome := by
    rw [← Option.isSome_map, hcall, Option.isSome_map]
  have hbind : layer'.bind LayerResult.call = layer.bind LayerResult.call := by
    have hjoin := congrArg (Option.bind · id) hcall
    rwa [Option.bind_map, Option.bind_map, Function.id_comp] at hjoin
  simp only [SyncFrame.decoded, hsamples, hoverlap, hsome, hbind]

/-- `mad_frame_decode` makes up for what `mad_header_decode` left undone. -/
theorem decodeFrame_alike (s : RunSync σ τ) (header : MadHeader) (stream : MadStream) :
    Alike decoder
      (RunSync.decodeFrame decoder program { s with
        stream, frame := { s.frame with frame := { s.frame.frame with header } } })
      ((s.afterSearch header stream).decodeFrame decoder program) := by
  have halike := madFrameDecode_withAnc program.requantize (program.mem s.env) stream 0 header
    s.frame.frame.options s.stream.options (program.stack s.env)
  rw [RunSync.decodeFrame, RunSync.decodeFrame]
  simp only [RunSync.afterSearch]
  generalize madFrameDecode program.requantize (program.mem s.env) ⟨header, s.frame.frame.options⟩
    stream (program.stack s.env) = r at halike ⊢
  generalize madFrameDecode program.requantize (program.mem s.env) ⟨header, s.stream.options⟩
    (stream.withAnc 0) (program.stack s.env) = r' at halike ⊢
  cases halike with
  | @returned ok frame stream' layer layer' hcall =>
    have hframe : SyncFrame.decoded program { s.frame with frame := ⟨header, s.stream.options⟩ }
        frame layer' s.env =
        SyncFrame.decoded program { s.frame with frame := ⟨header, s.frame.frame.options⟩ }
          frame layer s.env := decoded_congr program rfl rfl frame hcall s.env
    simp only [hframe]
    exact .same _
  | nullCall => exact .ended ⟨crashed_finished, rfl, rfl, rfl⟩

/-! ### One step of the observed run -/

/-- The header that is not found is shown to `header_func` all the same. -/
theorem step_observed {s : RunSync σ τ} (hpc : s.pc = .decode) {header : MadHeader}
    {stream : MadStream}
    (hfail : madHeaderDecode (program.mem s.env) s.frame.frame.header s.stream =
      (false, header, stream)) :
    s.step decoder.observed program = RunSync.decodeFrame decoder program { s with
      stream, frame := { s.frame with frame := { s.frame.frame with header } } } := by
  have hstep : s.step decoder.observed program =
      s.callHeader decoder.observed program fun env _ => (.flowContinue, env) := by
    rw [RunSync.step, hpc]
    rfl
  rw [hstep]
  simp only [RunSync.callHeader, hfail, Bool.false_eq_true, if_false]
  rfl

theorem step_unobserved {s : RunSync σ τ} (hpc : s.pc = .decode) :
    s.step decoder.unobserved program = s.decodeFrame decoder program := by
  rw [RunSync.step, hpc]
  rfl

/-- Both runs ask for more data or give up, with two streams. -/
theorem whileBuflen_alike {s : RunSync σ τ} {stream : MadStream}
    (herror : stream.error = s.stream.error)
    (hfills : s.stream.error = .buflen → FillsAlike decoder s.env stream s.stream) :
    Alike decoder (RunSync.whileBuflen { s with stream }) s.whileBuflen := by
  by_cases hbuflen : s.stream.error = .buflen
  · have hpc : s.whileBuflen = { s with pc := .input } := by
      rw [RunSync.whileBuflen, if_pos hbuflen]
    have hpc' : RunSync.whileBuflen { s with stream } = { s with stream, pc := .input } := by
      simp only [RunSync.whileBuflen, herror, if_pos hbuflen]
    rw [hpc, hpc']
    exact .asking rfl (hfills hbuflen)
  · have hpc : s.whileBuflen = { s with pc := .returned (-1) } := by
      rw [RunSync.whileBuflen, if_neg hbuflen]
    have hpc' : RunSync.whileBuflen { s with stream } =
        { s with stream, pc := .returned (-1) } := by
      simp only [RunSync.whileBuflen, herror, if_neg hbuflen]
    rw [hpc, hpc']
    exact .ended ⟨returned_finished _, rfl, rfl, rfl⟩

/-- A pass of the observed run is one of the other, or two. -/
theorem Harmless.matched {s : RunSync σ τ} (hpc : s.pc = .decode)
    (h : s.Harmless decoder program) : ∃ k, 0 < k ∧ Alike decoder
      (s.step decoder.observed program) ((RunSync.step decoder.unobserved program)^[k] s) := by
  obtain ⟨hwaiting, hfirst, hrest⟩ := h hpc
  have hwaiting' := madHeaderDecode_incomplete (program.mem s.env) hwaiting s.stream hfirst
  have hoptions := madHeaderDecode_options (program.mem s.env) s.frame.frame.header s.stream
  obtain ⟨header, stream, hfail⟩ : ∃ header stream,
      madHeaderDecode (program.mem s.env) s.frame.frame.header s.stream = (false, header, stream) :=
    ⟨_, _, Prod.ext hfirst rfl⟩
  rw [hfail] at hwaiting' hrest hoptions
  have hfailed := decodeFrame_searchFails decoder program hwaiting hfail
  rw [step_observed decoder program hpc hfail]
  by_cases hrecoverable : madRecoverable stream.error = true
  · -- `error_func` goes on, and the next pass searches again
    rw [if_pos hrecoverable] at hrest hfailed
    refine ⟨2, by decide, ?_⟩
    have hpass : s.step decoder.unobserved program = s.afterSearch header stream := by
      rw [step_unobserved decoder program hpc, hfailed, hrest]
    have hagain : (RunSync.step decoder.unobserved program)^[2] s =
        (s.afterSearch header stream).decodeFrame decoder program := by
      show (s.step decoder.unobserved program).step decoder.unobserved program = _
      rw [hpass]
      exact step_unobserved decoder program (s := s.afterSearch header stream) hpc
    rw [hagain]
    exact decodeFrame_alike decoder program s header stream
  · -- the second search is for the same data
    rw [if_neg hrecoverable] at hrest hfailed
    obtain ⟨hsecond, hheader, herror, hfills⟩ := hrest
    obtain ⟨stream', hfail'⟩ : ∃ stream',
        madHeaderDecode (program.mem s.env) header stream = (false, header, stream') :=
      ⟨(madHeaderDecode (program.mem s.env) header stream).2.2,
        Prod.ext hsecond (Prod.ext hheader rfl)⟩
    simp only [hfail'] at herror hfills
    refine ⟨1, by decide, ?_⟩
    have hpass : (RunSync.step decoder.unobserved program)^[1] s =
        (s.afterSearch header stream).whileBuflen :=
      (step_unobserved decoder program hpc).trans hfailed
    have hfailed' := decodeFrame_searchFails decoder program
      (s := { s with stream, frame := { s.frame with frame := { s.frame.frame with header } } })
      hwaiting' hfail'
    have hsame : RunSync.afterSearch { s with
        stream, frame := { s.frame with frame := { s.frame.frame with header } } } header stream' =
        { s.afterSearch header stream with stream := stream'.withAnc 0 } := by
      rw [RunSync.afterSearch, RunSync.afterSearch, ← hoptions]
    rw [if_neg (herror ▸ hrecoverable), hsame] at hfailed'
    rw [hpass, hfailed']
    exact whileBuflen_alike decoder herror hfills

/-- Where the header callback plays no part -/
theorem step_observed_of_ne {s : RunSync σ τ} (hpc : s.pc ≠ .decode) :
    s.step decoder.observed program = s.step decoder.unobserved program := by
  rw [RunSync.step, RunSync.step]
  cases h : s.pc with
  | decode => exact absurd h hpc
  | input | returned | crashed => rfl

theorem step_asking {s : RunSync σ τ} {stream : MadStream} (hpc : s.pc = .input)
    (hfills : FillsAlike decoder s.env s.stream stream) :
    Alike decoder (s.step decoder.unobserved program)
      (RunSync.step decoder.unobserved program { s with stream }) := by
  cases hinput : decoder.inputFunc with
  | none =>
    have hinput' : decoder.unobserved.inputFunc = none := hinput
    have hstay : s.step decoder.unobserved program = s := by
      simp only [RunSync.step, hpc, hinput']
    have hstay' : RunSync.step decoder.unobserved program { s with stream } =
        { s with stream } := by
      simp only [RunSync.step, hpc, hinput']
    rw [hstay, hstay']
    exact .asking hpc hfills
  | some inputFunc =>
    have hinput' : decoder.unobserved.inputFunc = some inputFunc := hinput
    simp only [RunSync.step, hpc, hinput', RunSync.callInput]
    rcases hfills inputFunc hinput with heq | ⟨hflow, hstop | hbreak⟩
    · rw [heq]
      exact .same _
    · rw [hflow, hstop]
      exact .ended ⟨returned_finished _, rfl, rfl, rfl⟩
    · rw [hflow, hbreak]
      exact .ended ⟨returned_finished _, rfl, rfl, rfl⟩

/-! ### Whole runs -/

/-- Step lemma: the unobserved run is never behind. -/
theorem observed_matches :
    Matches (RunSync.step decoder.observed program) (RunSync.step decoder.unobserved program)
      (Alike decoder) (RunSync.Harmless decoder program) := by
  intro s s' halike hharmless
  cases halike with
  | same =>
    by_cases hpc : s.pc = .decode
    · exact Harmless.matched decoder program hpc hharmless
    · refine ⟨1, by decide, ?_⟩
      rw [step_observed_of_ne decoder program hpc]
      exact .same _
  | asking hpc hfills =>
    refine ⟨1, by decide, ?_⟩
    rw [step_observed_of_ne decoder program (by simp [hpc])]
    exact step_asking decoder program hpc hfills
  | ended hended =>
    have hover' : s'.pc ≠ .input ∧ s'.pc ≠ .decode := hended.pc ▸ hended.finished
    refine ⟨1, by decide, ?_⟩
    rw [step_over _ _ hended.finished, Function.iterate_one, step_over _ _ hover']
    exact .ended hended

variable {decoder program}

theorem Alike.synthesised {s s' : RunSync σ τ} (h : Alike decoder s s') :
    s'.synthesised = s.synthesised := by
  cases h with
  | same | asking => rfl
  | ended hended => exact hended.synthesised

theorem Alike.output {s s' : RunSync σ τ} (h : Alike decoder s s') : s'.output = s.output := by
  cases h with
  | same | asking => rfl
  | ended hended => exact hended.output

theorem Alike.pc {s s' : RunSync σ τ} (h : Alike decoder s s') : s'.pc = s.pc := by
  cases h with
  | same | asking => rfl
  | ended hended => exact hended.pc

theorem returned_persistent (result : ℤ) :
    Persistent (RunSync.step decoder program) fun s => s.pc = .returned result := by
  intro s hs
  rw [step_over decoder program (hs ▸ returned_finished _)]
  exact hs

theorem returned_unique {s : RunSync σ τ} {m n : ℕ} {result result' : ℤ}
    (hm : (s.after decoder program m).pc = .returned result)
    (hn : (s.after decoder program n).pc = .returned result') : result = result' := by
  have hm' := (returned_persistent result).later (Nat.le_max_left m n) hm
  have hn' := (returned_persistent result').later (Nat.le_max_right m n) hn
  exact RunPc.returned.inj (hm'.symm.trans hn')

/-- **With a `header_func` that only observes, `run_sync` delivers what it delivers without one, if
every pass is harmless.** -/
theorem runSync_observed (decoder : MadDecoder σ τ) (program : SyncProgram σ τ) (env : σ)
    (mainData : Mem) (ovlbuf : ℕ → ℕ → ℕ → Fixed)
    (h : ∀ n, ((runSyncInit decoder.observed program env mainData ovlbuf).after
      decoder.observed program n).Harmless decoder program) :
    SameRuns program decoder.unobserved decoder.observed
      (runSyncInit decoder.unobserved program env mainData ovlbuf)
      (runSyncInit decoder.observed program env mainData ovlbuf) := by
  have hmatches := observed_matches decoder program
  have hprolongs := step_prolongs decoder.unobserved program
  obtain ⟨s, hs⟩ : ∃ s, s = runSyncInit decoder.observed program env mainData ovlbuf := ⟨_, rfl⟩
  have hs' : runSyncInit decoder.unobserved program env mainData ovlbuf = s := hs.symm
  rw [← hs] at h
  rw [hs', ← hs]
  refine ⟨fun i frame => ?_, fun i out => ?_, fun result => ?_⟩
  · refine (hmatches.reaches_iff (.same s) h (P := fun s => s.synthesised[i]? = some frame)
      (fun s s' halike => ?_)
      (persistent_getElem? (fun t => (hprolongs t).synthesised) i frame)).symm
    rw [halike.synthesised]
  · refine (hmatches.reaches_iff (.same s) h (P := fun s => s.output[i]? = some out)
      (fun s s' halike => ?_) (persistent_getElem? (fun t => (hprolongs t).output) i out)).symm
    rw [halike.output]
  · refine (hmatches.reaches_iff (.same s) h (P := fun s => s.pc = .returned result)
      (fun s s' halike => ?_) (returned_persistent result)).symm
    rw [halike.pc]

/-- `input_func` gives one buffer, from `start` to 4296, and no more. -/
def oneBuffer (start : ℕ) : MadDecoder ℕ Unit where
  options := 0
  inputFunc := some fun calls stream =>
    if calls = 0 then (.flowContinue, 1, madStreamBuffer stream start (4296 - start))
    else (.flowStop, calls, stream)
  headerFunc := none
  filterFunc := none
  outputFunc := some fun calls _ synth => (.flowContinue, calls, synth)
  errorFunc := none

def twoHeadersProgram : SyncProgram ℕ Unit where
  mem _ := twoHeaders
  stack _ := ⟨{}, fun _ _ _ => 0, fun _ _ _ => 0⟩
  sampleStack _ := ⟨fun _ _ _ _ _ => 0, fun _ _ _ => 0⟩
  requantize value exp := (iiiRequantize value exp).toInt
  madSynthInit := ()
  madSynthFrame calls _ _ := (calls, ())

/-- The run over one buffer of `twoHeaders` -/
def twoHeadersRun (decoder : MadDecoder ℕ Unit) (n : ℕ) : RunSync ℕ Unit :=
  (runSyncInit decoder twoHeadersProgram 0 (fun _ => 0) fun _ _ _ => 0).after decoder
    twoHeadersProgram n

/-- A buffer that starts with a frame: shown to `header_func`, it is the end of the run. -/
theorem runSync_observed_loses_frame :
    let decoder := oneBuffer 4096
    ((twoHeadersRun decoder.unobserved 4).pc = .returned 0 ∧
      (twoHeadersRun decoder.unobserved 4).synthesised.length = 1) ∧
    ((twoHeadersRun decoder.observed 2).pc = .returned (-1) ∧
      (twoHeadersRun decoder.observed 2).synthesised.length = 0) ∧
    ¬ SameRuns twoHeadersProgram decoder.unobserved decoder.observed
      (runSyncInit decoder.unobserved twoHeadersProgram 0 (fun _ => 0) fun _ _ _ => 0)
      (runSyncInit decoder.observed twoHeadersProgram 0 (fun _ => 0) fun _ _ _ => 0) := by
  intro decoder
  have hplain : (twoHeadersRun decoder.unobserved 4).pc = .returned 0 := by decide +kernel
  have hshown : (twoHeadersRun decoder.observed 2).pc = .returned (-1) := by decide +kernel
  refine ⟨⟨hplain, by decide +kernel⟩, ⟨hshown, by decide +kernel⟩, fun hsame => ?_⟩
  obtain ⟨n, hn⟩ := (hsame.result (-1)).mpr ⟨2, hshown⟩
  exact absurd (returned_unique hn hplain) (by decide)

theorem callError_default {s : RunSync σ τ} (hnull : decoder.errorFunc = none)
    (herror : s.stream.error ≠ .badcrc) : s.callError decoder = (.flowContinue, s) := by
  simp only [RunSync.callError, hnull, errorDefault, if_neg herror]

/-- With a byte before the frame it is `mad_frame_decode` that finds it. -/
theorem runSync_observed_garbage_byte :
    let decoder := oneBuffer 4095
    SameRuns twoHeadersProgram decoder.unobserved decoder.observed
        (runSyncInit decoder.unobserved twoHeadersProgram 0 (fun _ => 0) fun _ _ _ => 0)
        (runSyncInit decoder.observed twoHeadersProgram 0 (fun _ => 0) fun _ _ _ => 0) ∧
      (twoHeadersRun decoder.observed 4).synthesised.length = 1 := by
  intro decoder
  refine ⟨runSync_observed decoder twoHeadersProgram 0 (fun _ => 0) (fun _ _ _ => 0) fun n => ?_,
    by decide +kernel⟩
  match n with
  | 0 =>
    have hinput : (twoHeadersRun decoder.observed 0).pc = .input := by decide +kernel
    exact fun hpc => nomatch hinput.symm.trans hpc
  | 1 =>
    -- the byte is skipped
    intro _
    refine ⟨by decide +kernel, by decide +kernel, ?_⟩
    rw [if_pos (by decide +kernel)]
    exact callError_default rfl (by decide +kernel)
  | 2 =>
    -- the second frame is not complete, and there is no more data
    intro _
    refine ⟨by decide +kernel, by decide +kernel, ?_⟩
    rw [if_neg (by decide +kernel)]
    refine ⟨by decide +kernel, by decide +kernel, by decide +kernel, fun _ inputFunc hinput => ?_⟩
    have henv : (twoHeadersRun decoder.observed 2).env = 1 := by decide +kernel
    have hstop : ∀ stream, (inputFunc 1 stream).1 = .flowStop := by
      cases hinput
      exact fun _ => rfl
    rw [twoHeadersRun] at henv
    rw [henv]
    exact .inr ⟨(hstop _).trans (hstop _).symm, .inl (hstop _)⟩
  | 3 =>
    have hinput : (twoHeadersRun decoder.observed 3).pc = .input := by decide +kernel
    exact fun hpc => nomatch hinput.symm.trans hpc
  | n + 4 =>
    have hover : (twoHeadersRun decoder.observed 4).pc = .returned 0 := by decide +kernel
    have hlater := (returned_persistent 0).later (Nat.le_add_left 4 n) hover
    exact fun hpc => nomatch hlater.symm.trans hpc

end Mp3Decoder
