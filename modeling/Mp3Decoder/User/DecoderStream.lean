import Mp3Decoder.Mad.FrameEncode
import Mp3Decoder.User.DecoderProgress

/-!
# A written stream in the decoder task

An encoder writes frame after frame into a stream of bytes.  `tskmad` reads the stream into `readBuf`
piece by piece and calls `mad_frame_decode` until that asks for more.  Every frame comes back, in
order, and takes at most three steps: a call that finds the frame cut off, `input()`, and the call
that decodes it.
-/

namespace Mp3Decoder

open Segment Schedule

/-! ### What the task decodes -/

/-- What a call of `mad_frame_decode` has decoded without an error -/
def FrameResult.decoded : FrameResult → List LayerResult
  | .returned true _ _ (some r) => [r]
  | _ => []

/-- `tskmad`, and what it has decoded so far -/
structure DecoderOutput where
  decoder : Decoder
  output : List LayerResult

variable (requantize : ℕ → ℤ → ℤ)

/-- What a step of the task decodes -/
def Decoder.decoded (base : ReadBufAddr) (s : Decoder) (a : Surroundings) : List LayerResult :=
  if s.pc = .decode then (s.decodeResult requantize base a).decoded else []

/-- `tskmad`, with its output recorded -/
def outputMachine (base : ReadBufAddr) (source mainData readBuf : Mem) :
    Machine DecoderOutput Surroundings where
  init := ⟨(decoderMachine requantize base source mainData readBuf).init, []⟩
  step s a := ((decoderMachine requantize base source mainData readBuf).step s.decoder a).map
    fun decoder => ⟨decoder, s.output ++ s.decoder.decoded requantize base a⟩

variable {requantize} {base : ReadBufAddr} {source mainData readBuf : Mem}

theorem outputMachine_move {s : DecoderOutput} {a : Surroundings} {decoder : Decoder}
    (hstep : (decoderMachine requantize base source mainData readBuf).step s.decoder a =
      some decoder) : (outputMachine requantize base source mainData readBuf).move s a =
        ⟨decoder, s.output ++ s.decoder.decoded requantize base a⟩ := by
  apply Machine.move_of_step
  simp only [outputMachine, hstep, Option.map_some]

theorem outputMachine_blocked {s : DecoderOutput} {a : Surroundings}
    (hstep : (decoderMachine requantize base source mainData readBuf).step s.decoder a = none) :
    (outputMachine requantize base source mainData readBuf).move s a = s := by
  apply Machine.move_of_blocked
  simp only [outputMachine, hstep, Option.map_none]

/-- The record changes nothing in the task. -/
theorem outputMachine_decoder (s : DecoderOutput) (acts : List Surroundings) :
    ((outputMachine requantize base source mainData readBuf).runFrom s acts).decoder =
      (decoderMachine requantize base source mainData readBuf).runFrom s.decoder acts := by
  induction acts generalizing s with
  | nil => rfl
  | cons a acts ih =>
    rw [Machine.runFrom_cons, Machine.runFrom_cons, ih]
    cases hstep : (decoderMachine requantize base source mainData readBuf).step s.decoder a with
    | none => rw [outputMachine_blocked hstep, Machine.move_of_blocked _ hstep]
    | some decoder => rw [outputMachine_move hstep, Machine.move_of_step _ hstep]

/-- What has been decoded stays in the record. -/
theorem outputMachine_output (s : DecoderOutput) (acts : List Surroundings) : ∃ more,
    ((outputMachine requantize base source mainData readBuf).runFrom s acts).output =
      s.output ++ more := by
  induction acts generalizing s with
  | nil => exact ⟨[], (List.append_nil _).symm⟩
  | cons a acts ih =>
    rw [Machine.runFrom_cons]
    cases hstep : (decoderMachine requantize base source mainData readBuf).step s.decoder a with
    | none =>
      rw [outputMachine_blocked hstep]
      exact ih s
    | some decoder =>
      rw [outputMachine_move hstep]
      obtain ⟨more, hmore⟩ := ih ⟨decoder, s.output ++ s.decoder.decoded requantize base a⟩
      exact ⟨s.decoder.decoded requantize base a ++ more, by rw [hmore, List.append_assoc]⟩

/-! ### Before a frame -/

/-- `tskmad` has come to the byte `addr` of the stream, behind the payloads `before`. -/
structure AwaitsAt (base : ReadBufAddr) (source : Mem) (s : Decoder) (addr : ℕ)
    (before : List UInt8) : Prop where
  ready : Ready base source s
  alive : s.pc ≠ .crashed
  synced : s.pc = .decode → s.stream.sync = true
  reservoir : ReservoirInv ⟨s.stream, before⟩
  taken_eq : s.taken = addr + (s.stream.bufend - s.stream.nextFrame)

/-- The steps until a frame is decoded -/
def stepsLeft (source : Mem) (f : StreamFrame) (s : Decoder) : ℕ :=
  if s.pc = .input then 2
  else if s.stream.nextFrame + f.length source + madBufferGuard ≤ s.stream.bufend then 1
  else 3

section
variable {s : Decoder} {addr : ℕ} {before : List UInt8} {f : StreamFrame}

/-- The rest of `readBuf` is a copy of the stream. -/
theorem AwaitsAt.copy (h : AwaitsAt base source s addr before) (outside : Mem) {n : ℕ}
    (hn : s.stream.nextFrame + n ≤ s.stream.bufend) :
    CopyOf source addr (memoryWith base s.readBuf outside) s.stream.nextFrame n := by
  obtain ⟨-, -, -, hrest⟩ := h.ready.rest outside rfl
  intro j hj
  have hin : j < s.stream.bufend - s.stream.nextFrame := by omega
  have hbyte := congrArg (byteStore · j) hrest
  simp only [byteStore_segment _ _ hin] at hbyte
  rw [hbyte, h.taken_eq, Nat.add_sub_cancel]

/-- The reservoir is in `md_len` and `main_data`. -/
theorem ReservoirInv.same {stream stream' : MadStream} (h : ReservoirInv ⟨stream, before⟩)
    (hlen : stream'.mdLen = stream.mdLen) (hdata : stream'.mainData = stream.mainData) :
    ReservoirInv ⟨stream', before⟩ := by
  refine ⟨hlen.trans_le h.mdLen_le, ?_⟩
  simp only [hlen, hdata]
  exact h.holds

/-- `input()` -/
theorem AwaitsAt.input (h : AwaitsAt base source s addr before) (outside : Mem) :
    let s' := s.input base source outside
    AwaitsAt base source s' addr before ∧ s'.stream.mdLen = s.stream.mdLen ∧
      ∀ f : StreamFrame, f.length source + madBufferGuard ≤ readBufSize →
        stepsLeft source f s' = 1 := by
  intro s'
  obtain ⟨hle, -⟩ := h.ready.rest outside rfl
  have hnext : s'.stream.nextFrame = base.addr := rfl
  have hend : s'.stream.bufend = base.addr + readBufSize := rfl
  have htaken : s'.taken =
      s.taken + (readBufSize - (s.stream.bufend - s.stream.nextFrame)) := rfl
  have hpc : s'.pc = .decode := rfl
  refine ⟨⟨h.ready.input outside, ?_, fun _ => rfl, ⟨h.reservoir.mdLen_le, h.reservoir.holds⟩, ?_⟩,
    rfl, ?_⟩
  · rw [hpc]
    decide
  · have hbefore := h.taken_eq
    omega
  · intro f hfits
    rw [stepsLeft, hpc, if_neg (by decide), if_pos (by omega)]

theorem AwaitsAt.pos (h : AwaitsAt base source s addr before) (hpc : s.pc = .decode) :
    s.stream.nextFrame ≠ 0 := by
  have hle := (h.ready.windowed hpc).le_nextFrame
  have hbase := base.ne_zero
  omega

/-- With the whole frame in `readBuf`, `mad_frame_decode` hands it to `mad_layer_III`. -/
theorem AwaitsAt.layerCalled (requantize : ℕ → ℤ → ℤ)
    (h : AwaitsAt base source s addr before) (hpc : s.pc = .decode)
    (hwritten : f.Written source before) (haddr : f.addr = addr)
    (hroom : s.stream.nextFrame + f.length source + madBufferGuard ≤ s.stream.bufend)
    (a : Surroundings) :
    ∃ (mem : Mem) (header : MadHeader) (accepted : MadStream),
      CopyOf source f.addr mem s.stream.nextFrame (f.length source + madBufferGuard) ∧
      LayerCalled mem s.stream.nextFrame header accepted.ptr ∧
      accepted.nextFrame = s.stream.nextFrame + f.length source ∧
      accepted.bufend = s.stream.bufend ∧ accepted.sync = true ∧
      accepted.mdLen = s.stream.mdLen ∧ accepted.mainData = s.stream.mainData ∧
      s.decodeResult requantize base a = afterLayerIII s.stream.options
        (madLayerIII requantize mem accepted ⟨header, s.stream.options⟩ a.stack) := by
  have hguard : madBufferGuard = 8 := rfl
  obtain ⟨mem, hmem⟩ : ∃ mem, mem = memoryWith base s.readBuf a.outside := ⟨_, rfl⟩
  have hcopy : CopyOf source f.addr mem s.stream.nextFrame (f.length source + madBufferGuard) := by
    rw [hmem, haddr]
    exact h.copy a.outside (by omega)
  have hlength : frameLength (headerAt mem s.stream.nextFrame) = f.length source := by
    rw [hcopy.headerAt_eq (by omega)]
    rfl
  obtain ⟨header, ptr, freerate, hcalled, hdecode⟩ :=
    (hwritten.rate.of_copy hcopy (by omega)).decoded requantize (h.synced hpc) rfl
      (h.pos hpc) h.ready.skiplen_eq h.ready.not_waiting (hlength.symm ▸ hroom) a.stack
  refine ⟨mem, header, acceptedStream s.stream s.stream.nextFrame
    (frameLength (headerAt mem s.stream.nextFrame)) ptr freerate, hcopy, hcalled, ?_, rfl, rfl, rfl,
    rfl, ?_⟩
  · rw [hlength]
    rfl
  · rw [← hdecode, hmem]
    rfl

/-- A call with the whole frame in `readBuf` decodes it. -/
theorem AwaitsAt.decode_whole (requantize : ℕ → ℤ → ℤ)
    (h : AwaitsAt base source s addr before) (hpc : s.pc = .decode)
    (hwritten : f.Written source before) (haddr : f.addr = addr)
    (hmdLen : s.stream.mdLen = f.begin)
    (hroom : s.stream.nextFrame + f.length source + madBufferGuard ≤ s.stream.bufend)
    (a : Surroundings) :
    let s' := s.decode requantize base a
    (∃ r, s.decoded requantize base a = [r] ∧ f.Decoded source requantize r) ∧
      AwaitsAt base source s' (addr + f.length source) (before ++ f.payload source) ∧
      s'.pc = .decode ∧
      s'.stream.mdLen = min (f.nextMdBegin source) (f.begin + f.frameSpace source) := by
  intro s'
  obtain ⟨mem, header, accepted, hcopy, hcalled, hnextFrame, hbufend, hsync, hlen, hdata, hresult⟩ :=
    h.layerCalled requantize hpc hwritten haddr hroom a
  have hreturns := madLayerIII_returns requantize mem accepted ⟨header, s.stream.options⟩ a.stack
  obtain ⟨hdecoded, hinv', hmdLen'⟩ := hwritten.layer requantize hcopy hcalled
    (h.reservoir.same hlen hdata) (hlen.trans hmdLen) s.stream.options a.stack
  rw [StreamFrame.sent_result requantize hcalled hnextFrame rfl] at hdecoded hinv' hmdLen'
  generalize madLayerIII requantize mem accepted ⟨header, s.stream.options⟩ a.stack = r
    at hresult hreturns hdecoded hinv' hmdLen'
  have hafter : afterLayerIII s.stream.options r =
      .returned true ⟨r.header, s.stream.options⟩ r.stream (some r) := by
    rw [afterLayerIII, hdecoded.ok]
    rfl
  obtain ⟨hon, -, -, htaken, -, hplace⟩ := decode_layerIII hresult hreturns
  have hstream : s'.stream = r.stream := by
    simp only [s', Decoder.decode, hresult, hafter]
  refine ⟨⟨r, ?_, hdecoded⟩, ⟨?_, ?_, ?_, ?_, ?_⟩, hon, ?_⟩
  · rw [Decoder.decoded, if_pos hpc, hresult, hafter]
    rfl
  · exact h.ready.decode hpc requantize a (by rw [hon]; decide)
  · rw [hon]
    decide
  · exact fun _ => hplace.sync.trans hsync
  · rw [hstream]
    exact hinv'
  · have hbefore := h.taken_eq
    have hend : s'.stream.bufend = s.stream.bufend := hplace.bufend.trans hbufend
    have hnext : s'.stream.nextFrame = s.stream.nextFrame + f.length source :=
      hplace.nextFrame.trans hnextFrame
    have htaken : s'.taken = s.taken := htaken
    omega
  · rw [hstream]
    exact hmdLen'

/-- As soon as `readBuf` has a header at `next_frame`, it is that of the frame. -/
theorem AwaitsAt.frameAt (h : AwaitsAt base source s addr before)
    (hwritten : f.Written source before) (haddr : f.addr = addr) (outside : Mem)
    (hmore : s.stream.nextFrame + madBufferGuard ≤ s.stream.bufend) :
    let mem := memoryWith base s.readBuf outside
    isSync mem s.stream.nextFrame = true ∧ FrameAt mem s.stream s.stream.nextFrame
      (headerAt mem s.stream.nextFrame).bitrate (f.length source) := by
  intro mem
  have hguard : madBufferGuard = 8 := rfl
  have hcopy : CopyOf source f.addr mem s.stream.nextFrame madBufferGuard := by
    rw [haddr]
    exact h.copy outside hmore
  have hlength : frameLength (headerAt mem s.stream.nextFrame) = f.length source := by
    rw [hcopy.headerAt_eq (by omega)]
    rfl
  have hrate := hwritten.rate.of_copy hcopy (by omega)
  have hframe := hrate.frameAt s.stream
  rw [hlength] at hframe
  exact ⟨hrate.sync_word, hframe⟩

/-- The search does not get past a frame that is cut off. -/
theorem AwaitsAt.search_cut (h : AwaitsAt base source s addr before) (hpc : s.pc = .decode)
    (hwritten : f.Written source before) (haddr : f.addr = addr)
    (hcut : s.stream.bufend < s.stream.nextFrame + f.length source + madBufferGuard)
    (outside : Mem) :
    let mem := memoryWith base s.readBuf outside
    (∀ g r n, ¬Accepts mem s.stream g r n) ∧
      ∀ {nextFrame error}, SearchFailure mem s.stream nextFrame error →
        nextFrame = s.stream.nextFrame ∧ error = .buflen := by
  intro mem
  have hguard : madBufferGuard = 8 := rfl
  have hsync := h.synced hpc
  constructor
  · intro g r n haccepts
    have hat := haccepts.synced hsync
    have hfits := haccepts.fits
    have hsame := haccepts.frame
    rw [hat] at hsame
    have hlength := (hsame.unique (h.frameAt hwritten haddr outside (by omega)).2).2
    omega
  · intro nextFrame error hfail
    by_cases hmore : s.stream.nextFrame + madBufferGuard ≤ s.stream.bufend
    · obtain ⟨hword, hframe⟩ := h.frameAt hwritten haddr outside hmore
      exact hfail.stays rfl hsync hword hframe
    · cases hfail with
      | short _ heq herror => exact ⟨heq, herror⟩
      | noSync hunsync =>
        rw [hsync] at hunsync
        cases hunsync
      | bad hlt hend => omega
      | tooLong hle hat hend => omega

/-- A call with a frame that is cut off asks for more. -/
theorem AwaitsAt.decode_cut (requantize : ℕ → ℤ → ℤ)
    (h : AwaitsAt base source s addr before) (hpc : s.pc = .decode)
    (hwritten : f.Written source before) (haddr : f.addr = addr)
    (hcut : s.stream.bufend < s.stream.nextFrame + f.length source + madBufferGuard)
    (a : Surroundings) :
    let s' := s.decode requantize base a
    s.decoded requantize base a = [] ∧ AwaitsAt base source s' addr before ∧ s'.pc = .input ∧
      s'.stream.mdLen = s.stream.mdLen := by
  intro s'
  obtain ⟨hno, hstays⟩ := h.search_cut hpc hwritten haddr hcut a.outside
  have hcase := h.ready.frameCase hpc requantize a
  generalize hresult : s.decodeResult requantize base a = result at hcase
  rcases hcase with ⟨haccepts, -⟩ | ⟨haccepts, -⟩ | ⟨-, hfail, -, -⟩
  · exact absurd haccepts (hno _ _ _)
  · exact absurd haccepts (hno _ _ _)
  · obtain ⟨rfl, rfl⟩ := hstays hfail
    have hdone : ¬(false = true ∨ madRecoverable .buflen = true) := by decide
    have hinput : s'.pc = .input := by
      simp only [s', Decoder.decode, hresult]
      exact if_neg hdone
    have hstream : s'.stream.mdLen = s.stream.mdLen ∧ s'.stream.mainData = s.stream.mainData ∧
        s'.stream.bufend = s.stream.bufend ∧ s'.stream.nextFrame = s.stream.nextFrame ∧
        s'.taken = s.taken := by
      rw [show s' = s.decode requantize base a from rfl, Decoder.decode, hresult]
      exact ⟨rfl, rfl, rfl, rfl, rfl⟩
    obtain ⟨hlen, hdata, hend, hnext, htaken⟩ := hstream
    refine ⟨?_, ⟨?_, ?_, ?_, h.reservoir.same hlen hdata, ?_⟩, hinput, hlen⟩
    · rw [Decoder.decoded, if_pos hpc, hresult]
      rfl
    · exact h.ready.decode hpc requantize a (by rw [hinput]; decide)
    · rw [hinput]
      decide
    · intro hdecode
      rw [hinput] at hdecode
      cases hdecode
    · rw [htaken, hend, hnext]
      exact h.taken_eq

end

/-! ### Runs -/

theorem stepsLeft_pos (source : Mem) (f : StreamFrame) (s : Decoder) : 0 < stepsLeft source f s := by
  rw [stepsLeft]
  split_ifs <;> decide

theorem stepsLeft_le (source : Mem) (f : StreamFrame) (s : Decoder) : stepsLeft source f s ≤ 3 := by
  rw [stepsLeft]
  split_ifs <;> decide

/-- `tskmad` has come to the first of the frames, and the reservoir has what that asks for. -/
structure AwaitsFrames (base : ReadBufAddr) (source : Mem) (s : Decoder)
    (frames : List StreamFrame) : Prop where
  written : ∃ addr before, AwaitsAt base source s addr before ∧
    StreamWritten source addr before frames
  mdLen_eq : ∀ f ∈ frames.head?, s.stream.mdLen = f.begin
  fits : ∀ f ∈ frames, f.length source + madBufferGuard ≤ readBufSize

section
variable {s : Decoder} {f : StreamFrame} {rest : List StreamFrame}
  (h : AwaitsFrames base source s (f :: rest))
include h

/-- `input()` reads on, and the frame is in `readBuf`. -/
theorem AwaitsFrames.input (hpc : s.pc = .input) (outside : Mem) :
    AwaitsFrames base source (s.input base source outside) (f :: rest) ∧
      stepsLeft source f (s.input base source outside) < stepsLeft source f s := by
  obtain ⟨addr, before, hat, hwritten⟩ := h.written
  obtain ⟨hnext, hlen, hleft⟩ := hat.input outside
  refine ⟨⟨⟨addr, before, hnext, hwritten⟩, ?_, h.fits⟩, ?_⟩
  · intro f' hf'
    rw [hlen]
    exact h.mdLen_eq f' hf'
  · rw [hleft f (h.fits f List.mem_cons_self), stepsLeft, if_pos hpc]
    decide

/-- A frame that is in `readBuf` as a whole is decoded. -/
theorem AwaitsFrames.whole (requantize : ℕ → ℤ → ℤ) (hpc : s.pc = .decode)
    (hwhole : s.stream.nextFrame + f.length source + madBufferGuard ≤ s.stream.bufend)
    (a : Surroundings) :
    ∃ r, s.decoded requantize base a = [r] ∧ f.Decoded source requantize r ∧
      AwaitsFrames base source (s.decode requantize base a) rest := by
  obtain ⟨addr, before, hat, haddr, hframe, hbegin, hrest⟩ := h.written
  obtain ⟨⟨r, hr, hdecoded⟩, hnext, -, hlen⟩ :=
    hat.decode_whole requantize hpc hframe haddr (h.mdLen_eq f rfl) hwhole a
  refine ⟨r, hr, hdecoded, ⟨_, _, hnext, hrest⟩, ?_, ?_⟩
  · intro f' hf'
    obtain ⟨rest, rfl⟩ := List.head?_eq_some_iff.mp hf'
    rw [hlen]
    exact hrest.2.1.next (hrest.1.trans (by rw [haddr])) (hbegin f' hf')
  · exact fun f' hf' => h.fits f' (List.mem_cons_of_mem _ hf')

/-- A frame that is cut off is waited for. -/
theorem AwaitsFrames.cut (requantize : ℕ → ℤ → ℤ) (hpc : s.pc = .decode)
    (hcut : s.stream.bufend < s.stream.nextFrame + f.length source + madBufferGuard)
    (a : Surroundings) :
    s.decoded requantize base a = [] ∧
      AwaitsFrames base source (s.decode requantize base a) (f :: rest) ∧
      stepsLeft source f (s.decode requantize base a) < stepsLeft source f s := by
  obtain ⟨addr, before, hat, hwritten⟩ := h.written
  obtain ⟨hnone, hnext, hinput, hlen⟩ :=
    hat.decode_cut requantize hpc hwritten.2.1 hwritten.1 hcut a
  refine ⟨hnone, ⟨⟨addr, before, hnext, hwritten⟩, ?_, h.fits⟩, ?_⟩
  · intro f' hf'
    rw [hlen]
    exact h.mdLen_eq f' hf'
  · have htwo : stepsLeft source f (s.decode requantize base a) = 2 := by
      rw [stepsLeft, if_pos hinput]
    have hthree : stepsLeft source f s = 3 := by
      rw [stepsLeft, hpc, if_neg (by decide), if_neg (Nat.not_le.mpr hcut)]
    omega

end

/-- **Step lemma.**  The task decodes the first frame, or comes closer to it. -/
theorem AwaitsFrames.step (requantize : ℕ → ℤ → ℤ) (mainData readBuf : Mem) {s : DecoderOutput}
    {f : StreamFrame} {rest : List StreamFrame}
    (h : AwaitsFrames base source s.decoder (f :: rest)) (a : Surroundings) :
    let s' := (outputMachine requantize base source mainData readBuf).move s a
    (∃ r, s'.output = s.output ++ [r] ∧ f.Decoded source requantize r ∧
        AwaitsFrames base source s'.decoder rest) ∨
      s'.output = s.output ∧ AwaitsFrames base source s'.decoder (f :: rest) ∧
        stepsLeft source f s'.decoder < stepsLeft source f s.decoder := by
  intro s'
  cases hpc : s.decoder.pc with
  | crashed =>
    obtain ⟨addr, before, hat, -⟩ := h.written
    exact absurd hpc hat.alive
  | input =>
    have hstep : (decoderMachine requantize base source mainData readBuf).step s.decoder a =
        some (s.decoder.input base source a.outside) := by
      simp only [decoderMachine, hpc]
    have hnone : s.decoder.decoded requantize base a = [] := by
      rw [Decoder.decoded, hpc, if_neg (by decide)]
    have hs' : s' = ⟨s.decoder.input base source a.outside, s.output⟩ := by
      rw [show s' = _ from outputMachine_move hstep, hnone, List.append_nil]
    rw [hs']
    exact .inr ⟨rfl, h.input hpc a.outside⟩
  | decode =>
    have hstep : (decoderMachine requantize base source mainData readBuf).step s.decoder a =
        some (s.decoder.decode requantize base a) := by
      simp only [decoderMachine, hpc]
    have hs' : s' = _ := outputMachine_move hstep
    rw [hs']
    by_cases hwhole : s.decoder.stream.nextFrame + f.length source + madBufferGuard ≤
        s.decoder.stream.bufend
    · obtain ⟨r, hr, hdecoded, hnext⟩ := h.whole requantize hpc hwhole a
      exact .inl ⟨r, by rw [hr], hdecoded, hnext⟩
    · obtain ⟨hnone, hnext, hleft⟩ := h.cut requantize hpc (Nat.not_le.mp hwhole) a
      exact .inr ⟨by rw [hnone, List.append_nil], hnext, hleft⟩

/-- Run lemma, from anywhere before a frame: the frames come back in order, three steps for each at
most. -/
theorem AwaitsFrames.run (requantize : ℕ → ℤ → ℤ) (mainData readBuf : Mem) {s : DecoderOutput}
    {frames : List StreamFrame} (h : AwaitsFrames base source s.decoder frames)
    (acts : List Surroundings) :
    ∃ more, ((outputMachine requantize base source mainData readBuf).runFrom s acts).output =
        s.output ++ more ∧
      (∀ (i : ℕ) (f : StreamFrame) r, frames[i]? = some f → more[i]? = some r →
        f.Decoded source requantize r) ∧
      ∀ f ∈ frames.head?, frames.length ≤ more.length ∨
        acts.length < 3 * more.length + stepsLeft source f s.decoder := by
  induction acts generalizing s frames with
  | nil =>
    refine ⟨[], (List.append_nil _).symm, ?_, ?_⟩
    · intro i f r _ hr
      rw [List.getElem?_nil] at hr
      cases hr
    · intro f _
      rw [List.length_nil, Nat.mul_zero, Nat.zero_add]
      exact .inr (stepsLeft_pos source f s.decoder)
  | cons a acts ih =>
    cases frames with
    | nil =>
      obtain ⟨more, hmore⟩ : ∃ more, ((outputMachine requantize base source mainData
        readBuf).runFrom s (a :: acts)).output = s.output ++ more := outputMachine_output s (a :: acts)
      refine ⟨more, hmore, ?_, nofun⟩
      intro i f r hf _
      rw [List.getElem?_nil] at hf
      cases hf
    | cons f rest =>
      rw [Machine.runFrom_cons]
      have hpos := stepsLeft_pos source f s.decoder
      rcases h.step requantize mainData readBuf a with
        ⟨r, houtput, hdecodedFirst, hnext⟩ | ⟨houtput, hnext, hleft⟩
      · obtain ⟨more, hmore, hdecoded, hsoon⟩ := ih hnext
        refine ⟨r :: more, by rw [hmore, houtput, List.append_assoc]; rfl, ?_, ?_⟩
        · intro i f' r' hf' hr'
          cases i with
          | zero =>
            cases hf'
            cases hr'
            exact hdecodedFirst
          | succ i => exact hdecoded i f' r' hf' hr'
        · intro f' hf'
          cases hf'
          cases rest with
          | nil => exact .inl (Nat.succ_le_succ (Nat.zero_le _))
          | cons f' rest =>
            have hsoon := hsoon f' rfl
            have hle := stepsLeft_le source f'
              ((outputMachine requantize base source mainData readBuf).move s a).decoder
            simp only [List.length_cons] at hsoon ⊢
            omega
      · obtain ⟨more, hmore, hdecoded, hsoon⟩ := ih hnext
        refine ⟨more, hmore.trans (by rw [houtput]), hdecoded, ?_⟩
        intro f' hf'
        cases hf'
        have hsoon := hsoon f rfl
        simp only [List.length_cons] at hsoon ⊢
        omega

/-- **`tskmad` decodes a stream that has been written.**  In every run the frames come back in order,
and three steps for each are enough. -/
theorem tskmad_decodes_stream (requantize : ℕ → ℤ → ℤ) (base : ReadBufAddr)
    (source mainData readBuf : Mem) {frames : List StreamFrame}
    (hwritten : StreamWritten source 0 [] frames)
    (hfits : ∀ f ∈ frames, f.length source + madBufferGuard ≤ readBufSize)
    (acts : List Surroundings) :
    let t := (outputMachine requantize base source mainData readBuf).run acts
    t.decoder = (decoderMachine requantize base source mainData readBuf).run acts ∧
      min frames.length (acts.length / 3) ≤ t.output.length ∧
      ∀ (i : ℕ) (f : StreamFrame) r, frames[i]? = some f → t.output[i]? = some r →
        f.Decoded source requantize r := by
  intro t
  have hinit : AwaitsAt base source
      (decoderMachine requantize base source mainData readBuf).init 0 [] := by
    have hready : DecoderInv base source
      (decoderMachine requantize base source mainData readBuf).init := decoderInv_init
    exact ⟨hready nofun, nofun, nofun, ⟨Nat.zero_le 511, rfl⟩, rfl⟩
  have hmdLen : ∀ f ∈ frames.head?, 0 = f.begin := by
    intro f hf
    obtain ⟨rest, rfl⟩ := List.head?_eq_some_iff.mp hf
    exact (Nat.le_zero.mp hwritten.2.1.begin_le).symm
  have hawaits : AwaitsFrames base source
      (outputMachine requantize base source mainData readBuf).init.decoder frames :=
    ⟨⟨0, [], hinit, hwritten⟩, hmdLen, hfits⟩
  obtain ⟨more, hmore, hdecoded, hsoon⟩ := hawaits.run requantize mainData readBuf acts
  have houtput : t.output = more := hmore
  rw [houtput]
  refine ⟨outputMachine_decoder _ acts, ?_, hdecoded⟩
  cases frames with
  | nil => exact Nat.zero_le _
  | cons f rest =>
    have htwo : stepsLeft source f
      (outputMachine requantize base source mainData readBuf).init.decoder = 2 := rfl
    have hsoon := hsoon f rfl
    omega

/-- The payload of the first frame: its main data, and the first three bytes of the main data of the
second frame -/
def firstPayload : List UInt8 :=
  [85, 85, 82, 49, 100, 98, 192] ++ List.replicate 73 0 ++ [85, 85, 82]

/-- Two mono frames of 104 bytes -/
def writtenStream : Mem := byteStore
  ([255, 251, 16, 192, 0, 3, 192, 144, 5, 164, 160, 132, 45, 64, 7, 128, 180, 148, 16, 133, 168] ++
    firstPayload ++
    [255, 251, 16, 192, 1, 131, 192, 144, 5, 164, 160, 132, 45, 64, 7, 128, 180, 148, 16, 133, 168,
      49, 100, 98, 192])

def firstWritten : StreamFrame := ⟨0, copiedFrame⟩

def secondWritten : StreamFrame := ⟨104, reachingFrame⟩

theorem writtenStream_header : headerAt writtenStream 0 = { monoHeader with bitrate := 32000 } ∧
    headerAt writtenStream 104 = { monoHeader with bitrate := 32000 } := by
  decide +kernel

theorem writtenStream_rate : FixedRate writtenStream 0 ∧ FixedRate writtenStream 104 := by
  have hall : (isSync writtenStream 0 = true ∧ headerError writtenStream 0 = .none ∧
      layerAt writtenStream 0 = 3 ∧ (headerAt writtenStream 0).bitrate ≠ 0) ∧
      (isSync writtenStream 104 = true ∧ headerError writtenStream 104 = .none ∧
        layerAt writtenStream 104 = 3 ∧ (headerAt writtenStream 104).bitrate ≠ 0) := by
    decide +kernel
  obtain ⟨⟨hsync, hok, hlayer, hrate⟩, ⟨hsync', hok', hlayer', hrate'⟩⟩ := hall
  exact ⟨⟨hsync, hok, hlayer, hrate⟩, ⟨hsync', hok', hlayer', hrate'⟩⟩

/-- The frames are those of the bit reservoir's witness. -/
theorem writtenStream_content :
    firstWritten.content.Fits (firstWritten.header writtenStream) (firstWritten.nch writtenStream) ∧
      firstWritten.mainBits writtenStream = copiedBits ∧
      secondWritten.content.Fits (secondWritten.header writtenStream)
        (secondWritten.nch writtenStream) ∧
      secondWritten.mainBits writtenStream = copiedBits := by
  obtain ⟨hfirst, hsecond⟩ := writtenStream_header
  have hfits : ∀ {c : FrameContent}, c.Fits monoHeader 1 →
      c.Fits { monoHeader with bitrate := 32000 } 1 := fun h => ⟨h.info, fun gr hgr ch hch =>
    ⟨(h.channels gr hgr ch hch).scale, (h.channels gr hgr ch hch).words,
      (h.channels gr hgr ch hch).part23Length⟩, h.stereo⟩
  have hfirst : firstWritten.header writtenStream = { monoHeader with bitrate := 32000 } := hfirst
  have hsecond : secondWritten.header writtenStream = { monoHeader with bitrate := 32000 } := hsecond
  simp only [StreamFrame.mainBits, StreamFrame.nch, hfirst, hsecond]
  exact ⟨hfits copiedFrame_fits, rfl, hfits reachingFrame_fits, rfl⟩

theorem writtenStream_payload : firstWritten.length writtenStream = 104 ∧
    firstWritten.payload writtenStream = firstPayload ∧
    secondWritten.payload writtenStream = [49, 100, 98, 192] ++ List.replicate 79 0 ∧
    firstWritten.nextMdBegin writtenStream = 3 ∧ secondWritten.nextMdBegin writtenStream = 0 := by
  decide +kernel

theorem writtenStream_side : (headerEnd writtenStream firstWritten.addr = 4 ∧
    lsfAt writtenStream firstWritten.addr = false ∧ firstWritten.nch writtenStream = 1) ∧
      headerEnd writtenStream secondWritten.addr = 108 ∧
      lsfAt writtenStream secondWritten.addr = false ∧ secondWritten.nch writtenStream = 1 := by
  decide +kernel

theorem writtenStream_written :
    StreamWritten writtenStream 0 [] [firstWritten, secondWritten] := by
  obtain ⟨hrate, hrate'⟩ := writtenStream_rate
  obtain ⟨hfits, hbits, hfits', hbits'⟩ := writtenStream_content
  obtain ⟨hlength, hpayload, hpayload', hnext, hnext'⟩ := writtenStream_payload
  obtain ⟨⟨hend, hlsf, hnch⟩, hend', hlsf', hnch'⟩ := writtenStream_side
  refine ⟨rfl, ⟨hrate, hfits, ?_, ?_, Nat.zero_le 0, ?_, ?_⟩, ?_, ?_⟩
  · exact fun hcrc => absurd hcrc (by decide +kernel)
  · rw [hend, hlsf, hnch]
    decide +kernel
  · rw [hpayload, hbits]
    decide +kernel
  · rw [hbits, hnext]
    decide +kernel
  · intro f hf
    cases hf
    decide +kernel
  · rw [hlength, hpayload]
    refine ⟨rfl, ⟨hrate', hfits', ?_, ?_, ?_, ?_, ?_⟩, nofun, trivial⟩
    · exact fun hcrc => absurd hcrc (by decide +kernel)
    · rw [hend', hlsf', hnch']
      decide +kernel
    · decide +kernel
    · rw [hpayload', hbits']
      decide +kernel
    · rw [hbits', hnext']
      decide +kernel

theorem tskmad_decodes_twoFrames :
    let t := (outputMachine (fun value exp => value * exp) ⟨4096, by decide⟩ writtenStream
      (fun _ => 0) fun _ => 0).run (List.replicate 6 silentSurroundings)
    2 ≤ t.output.length ∧ ∀ r, t.output[1]? = some r →
      secondWritten.Decoded writtenStream (fun value exp => value * exp) r := by
  have hfits : ∀ f ∈ [firstWritten, secondWritten],
      f.length writtenStream + madBufferGuard ≤ readBufSize := by
    decide +kernel
  have htwo : 2 ≤ min [firstWritten, secondWritten].length
    ((List.replicate 6 silentSurroundings).length / 3) := by decide
  have hall := tskmad_decodes_stream (fun value exp => value * exp) ⟨4096, by decide⟩ writtenStream
    (fun _ => 0) (fun _ => 0) writtenStream_written hfits (List.replicate 6 silentSurroundings)
  exact ⟨htwo.trans hall.2.1, fun r hr => hall.2.2 1 secondWritten r rfl hr⟩

end Mp3Decoder
