import Mp3Decoder.User.Decoder

/-!
# The inner loop of `tskmad`

`tskmad` is one of the callers of `FrameRuns`: each of its steps is a call of `mad_stream_buffer` or
`mad_frame_decode`.  So each round of the inner loop moves `next_frame` on or ends the loop, and the
loop ends after at most as many rounds as `readBuf` has bytes.
-/

namespace Mp3Decoder

open Schedule

/-- What `mad_stream_buffer` is given. -/
def readBufInput (base : ReadBufAddr) : InputBuffer where
  addr := base.addr
  length := readBufSize
  addr_ne := base.ne_zero
  guard_le := by decide

/-- The stream and the frame of `tskmad`. -/
def Decoder.frameState (s : Decoder) : FrameState where
  stream := s.stream
  frame := s.frame
  crashed := s.pc = .crashed

variable {requantize : ℕ → ℤ → ℤ} {base : ReadBufAddr} {source mainData readBuf : Mem}

/-- `tskmad` calls the library and does nothing else to the stream and the frame. -/
theorem decoder_simulation : Machine.Simulation
    (decoderMachine requantize base source mainData readBuf) (frameMachine requantize mainData)
    (fun _ => True) Decoder.frameState where
  init := rfl
  step {s a s'} _ hstep := by
    cases hpc : s.pc with
    | crashed =>
      simp only [decoderMachine, hpc] at hstep
      cases hstep
    | input =>
      simp only [decoderMachine, hpc] at hstep
      cases hstep
      have hcall : (frameMachine requantize mainData).step s.frameState (.buffer (readBufInput base)) =
          some (s.input base source a.outside).frameState := by
        simp only [frameMachine, Decoder.frameState, hpc]
        rfl
      refine ⟨[.buffer (readBufInput base)], ?_⟩
      rw [Machine.runFrom_cons, Machine.move_of_step _ hcall, Machine.runFrom_nil]
    | decode =>
      simp only [decoderMachine, hpc] at hstep
      cases hstep
      have hcall : (frameMachine requantize mainData).step s.frameState
          (.decode (memoryWith base s.readBuf a.outside) a.stack) =
            some (s.decode requantize base a).frameState := by
        have halive : s.frameState.crashed = false := by
          rw [Decoder.frameState, hpc]
          rfl
        have hresult : madFrameDecode requantize (memoryWith base s.readBuf a.outside)
            s.frameState.frame s.frameState.stream a.stack = s.decodeResult requantize base a := rfl
        simp only [frameMachine, halive, Bool.false_eq_true, if_false, hresult]
        rw [Decoder.decode]
        cases s.decodeResult requantize base a with
        | returned ok frame stream layer =>
          simp only [Decoder.frameState]
          split_ifs <;> rfl
        | nullCall frame stream => rfl
      refine ⟨[.decode (memoryWith base s.readBuf a.outside) a.stack], ?_⟩
      rw [Machine.runFrom_cons, Machine.move_of_step _ hcall, Machine.runFrom_nil]

/-- What holds in every state of `tskmad`. -/
theorem decoder_frame_invariant (requantize : ℕ → ℤ → ℤ) (base : ReadBufAddr)
    (source mainData readBuf : Mem) :
    (decoderMachine requantize base source mainData readBuf).Invariant
      fun s => DecoderInv base source s ∧ FrameInv s.frameState := by
  have htrue : (decoderMachine requantize base source mainData readBuf).Invariant fun _ => True :=
    ⟨trivial, fun _ _ _ => trivial⟩
  have hframe := decoder_simulation.invariant htrue (frame_invariant requantize mainData)
  have hdecoder := decoder_invariant requantize base source mainData readBuf
  exact ⟨⟨hdecoder.init, hframe.init.2⟩, fun h _ hstep =>
    ⟨hdecoder.step h.1 trivial hstep, (hframe.step ⟨trivial, h.2⟩ trivial hstep).2⟩⟩

variable {s : Decoder} {a : Surroundings}

/-- A round that does not end the inner loop moves `next_frame` on. -/
theorem decode_moves (h : DecoderInv base source s) (hframe : FrameInv s.frameState)
    (hpc : s.pc = .decode) (hon : (s.decode requantize base a).pc = .decode) :
    s.stream.nextFrame < (s.decode requantize base a).stream.nextFrame := by
  have hwindow := (h (by rw [hpc]; decide)).windowed hpc
  have hs : Positioned s.frameState := hframe (by rw [Decoder.frameState, hpc]; rfl)
  have hbuffer : s.stream.buffer ≠ 0 := by
    rw [hwindow.buffer_eq]
    exact base.ne_zero
  have hin : InBuffer s.stream := hs.place.resolve_left fun h => hbuffer h.1
  by_cases hlayer : ∀ f r n, Accepts (memoryWith base s.readBuf a.outside) s.stream f r n →
      layerAt (memoryWith base s.readBuf a.outside) f = 3
  · obtain ⟨ok, frame', stream', layer, hresult, hadvances, -⟩ := madFrameDecode_advances requantize
      a.stack hs.not_waiting hs.skiplen_eq hs.good_rate hin hlayer
    have hdecoded : s.decodeResult requantize base a = .returned ok frame' stream' layer := hresult
    rw [Decoder.decode, hdecoded] at hon ⊢
    rcases hadvances.moves with ⟨-, hlt⟩ | ⟨hfail, herror, -⟩
    · exact hlt
    · have hdone : ¬ (ok = true ∨ madRecoverable stream'.error = true) := by
        rw [hfail, herror]
        decide
      simp only [if_neg hdone] at hon
      cases hon
  · have hle := hin.le_nextFrame
    have hnext : s.stream.nextFrame ≠ 0 := by omega
    obtain ⟨frame', stream', hresult⟩ := madFrameDecode_other requantize a.stack
      hs.not_waiting hs.skiplen_eq hnext hlayer
    have hdecoded : s.decodeResult requantize base a = .nullCall frame' stream' := hresult
    rw [Decoder.decode, hdecoded] at hon
    cases hon

/-- The rounds that are left. -/
theorem inner_loop_ends (h : DecoderInv base source s) (hframe : FrameInv s.frameState)
    {acts : List Surroundings} (hlong : base.addr + readBufSize < s.stream.nextFrame + acts.length) :
    ∃ pre, pre <+: acts ∧
      ((decoderMachine requantize base source mainData readBuf).runFrom s pre).pc ≠ .decode := by
  induction acts generalizing s with
  | nil =>
    refine ⟨[], List.nil_prefix, fun hpc => ?_⟩
    have hpc' : s.pc = .decode := hpc
    have hend := ((h (by rw [hpc']; decide)).windowed hpc').nextFrame_le
    rw [List.length_nil] at hlong
    omega
  | cons a acts ih =>
    by_cases hpc : s.pc = .decode
    · have hstep : (decoderMachine requantize base source mainData readBuf).step s a =
          some (s.decode requantize base a) := by
        simp only [decoderMachine, hpc]
      have hmove := Machine.move_of_step _ hstep
      obtain ⟨hnext, hframe'⟩ := (decoder_frame_invariant requantize base source mainData
        readBuf).step ⟨h, hframe⟩ trivial hstep
      by_cases hon : (s.decode requantize base a).pc = .decode
      · have hmoves := decode_moves h hframe hpc hon
        rw [List.length_cons] at hlong
        obtain ⟨pre, hpre, hleft⟩ := ih hnext hframe' (by omega)
        refine ⟨a :: pre, (List.prefix_cons_inj a).mpr hpre, ?_⟩
        rw [Machine.runFrom_cons, hmove]
        exact hleft
      · refine ⟨[a], List.prefix_cons_inj a |>.mpr List.nil_prefix, ?_⟩
        rw [Machine.runFrom_cons, hmove]
        exact hon
    · exact ⟨[], List.nil_prefix, hpc⟩

/-- **The frame decoder ends and advances.**  The loops of a call end by themselves; every call on a
buffer stays in it, and moves on or asks for more data; and in every run of `tskmad` the inner loop
is left within as many rounds as `readBuf` has bytes, and one. -/
theorem frame_decoder_ends_and_advances (requantize : ℕ → ℤ → ℤ) (mainData : Mem) :
    LoopsEnd requantize ∧
    (∀ acts, let s := (frameMachine requantize mainData).run acts
      s.crashed = false → s.stream.buffer ≠ 0 → ∀ mem stack, CallAdvances requantize s mem stack) ∧
    ∀ base source readBuf acts more, more.length ≤ readBufSize ∨ ∃ pre, pre <+: more ∧
      ((decoderMachine requantize base source mainData readBuf).run (acts ++ pre)).pc ≠ .decode := by
  refine ⟨loops_end requantize, calls_advance requantize mainData, ?_⟩
  intro base source readBuf acts more
  rw [or_iff_not_imp_left]
  intro hlong
  obtain ⟨h, hframe⟩ :=
    (decoder_frame_invariant requantize base source mainData readBuf).run acts
  by_cases hpc : ((decoderMachine requantize base source mainData readBuf).run acts).pc = .decode
  · have hle := ((h (by rw [hpc]; decide)).windowed hpc).le_nextFrame
    have hrounds : base.addr + readBufSize < ((decoderMachine requantize base source mainData
        readBuf).run acts).stream.nextFrame + more.length := by omega
    obtain ⟨pre, hpre, hleft⟩ := inner_loop_ends h hframe hrounds
    refine ⟨pre, hpre, ?_⟩
    rw [Machine.run_append]
    exact hleft
  · refine ⟨[], List.nil_prefix, ?_⟩
    rw [List.append_nil]
    exact hpc

end Mp3Decoder
