import Mp3Decoder.Lib.Schedule
import Mp3Decoder.Mad.FrameRuns
import Mp3Decoder.Mad.Reservoir

/-!
# The decoder task (`tskmad`)

`tskmad` alternates between `input()`, which shifts the rest of `readBuf` to its front and fills it
up from the byte stream, and calls of `mad_frame_decode` until the decoder asks for more data.
Here the stream is at hand and `input()` is one step; `Player` puts the FIFO in between.

What lies outside `readBuf` and what is on the stack may change with every step.
-/

namespace Mp3Decoder

open Segment Schedule

/-- `READBUFSZ` -/
def readBufSize : ℕ := 2106

/-- Where `readBuf` is in memory. -/
structure ReadBufAddr where
  addr : ℕ
  ne_zero : addr ≠ 0

inductive DecoderPc
  | input
  | decode
  /-- after a call through a null pointer -/
  | crashed
  deriving DecidableEq, Repr

structure Decoder where
  stream : MadStream
  frame : MadFrame
  readBuf : Mem
  /-- the bytes taken from the stream so far -/
  taken : ℕ
  pc : DecoderPc

structure Surroundings where
  outside : Mem
  stack : Stack

/-- Zeros everywhere around `readBuf`. -/
def silentSurroundings : Surroundings where
  outside := fun _ => 0
  stack := { si := {}, xr := fun _ _ _ => 0, exponents := fun _ _ _ => 0 }

/-- The memory with `readBuf` in it. -/
def memoryWith (base : ReadBufAddr) (readBuf outside : Mem) : Mem :=
  memcpy outside base.addr readBuf 0 readBufSize

/-- `input()`, on the byte stream `source`. -/
def Decoder.input (base : ReadBufAddr) (source : Mem) (s : Decoder) (outside : Mem) : Decoder :=
  let rem := s.stream.bufend - s.stream.nextFrame
  -- shift remaining contents of buf to the front
  let shifted := memcpy s.readBuf 0 (memoryWith base s.readBuf outside) s.stream.nextFrame rem
  { s with
    stream := madStreamBuffer s.stream base.addr readBufSize
    readBuf := memcpy shifted rem source s.taken (readBufSize - rem)
    taken := s.taken + (readBufSize - rem)
    pc := .decode }

variable (requantize : ℕ → ℤ → ℤ)

/-- The call of `mad_frame_decode`. -/
def Decoder.decodeResult (base : ReadBufAddr) (s : Decoder) (a : Surroundings) : FrameResult :=
  madFrameDecode requantize (memoryWith base s.readBuf a.outside) s.frame s.stream a.stack

/-- A round of the inner loop. -/
def Decoder.decode (base : ReadBufAddr) (s : Decoder) (a : Surroundings) : Decoder :=
  match s.decodeResult requantize base a with
  | .returned ok frame stream _ =>
    { s with frame, stream, pc := if ok ∨ madRecoverable stream.error then .decode else .input }
  | .nullCall frame stream => { s with frame, stream, pc := .crashed }

/-- `tskmad`, with arbitrary contents of its static arrays before. -/
def decoderMachine (base : ReadBufAddr) (source mainData readBuf : Mem) :
    Machine Decoder Surroundings where
  init := {
    stream := madStreamInit mainData
    frame := madFrameInit
    readBuf := readBuf
    taken := 0
    pc := .input }
  step s a :=
    match s.pc with
    | .input => some (s.input base source a.outside)
    | .decode => some (s.decode requantize base a)
    | .crashed => none

/-! ### What holds in every state -/

/-- The stream points into `readBuf`, which holds the last bytes taken. -/
structure Windowed (base : ReadBufAddr) (source : Mem) (s : Decoder) : Prop where
  buffer_eq : s.stream.buffer = base.addr
  bufend_eq : s.stream.bufend = base.addr + readBufSize
  le_nextFrame : base.addr ≤ s.stream.nextFrame
  nextFrame_le : s.stream.nextFrame ≤ base.addr + readBufSize
  /-- a fresh buffer counts as synchronised -/
  fresh : s.pc = .decode → s.stream.nextFrame = base.addr → s.stream.sync = true
  taken_ge : readBufSize ≤ s.taken
  window : segment s.readBuf 0 readBufSize = segment source (s.taken - readBufSize) readBufSize

/-- What `tskmad` can rely on before each of its steps. -/
structure Ready (base : ReadBufAddr) (source : Mem) (s : Decoder) : Prop where
  skiplen_eq : s.stream.skiplen = 0
  not_waiting : s.frame.header.flags.incomplete = false
  mdLen_le : s.stream.mdLen ≤ 511
  place : s.pc = .input ∧ s.stream.bufend = 0 ∧ s.stream.nextFrame = 0 ∧ s.taken = 0 ∨
    Windowed base source s

def DecoderInv (base : ReadBufAddr) (source : Mem) (s : Decoder) : Prop :=
  s.pc ≠ .crashed → Ready base source s

variable {requantize} {base : ReadBufAddr} {source mainData readBuf : Mem} {s s' : Decoder}
  {a : Surroundings}

theorem decoderInv_init : DecoderInv base source
    (decoderMachine requantize base source mainData readBuf).init :=
  fun _ => ⟨rfl, rfl, Nat.zero_le 511, .inl ⟨rfl, rfl, rfl, rfl⟩⟩

theorem segment_memoryWith (readBuf outside : Mem) {addr n : ℕ} (hle : base.addr ≤ addr)
    (hend : addr + n ≤ base.addr + readBufSize) :
    segment (memoryWith base readBuf outside) addr n = segment readBuf (addr - base.addr) n := by
  apply segment_congr
  intro i hi
  rw [memoryWith, memcpy, if_pos ⟨by omega, by omega⟩]
  congr 1
  omega

/-- What `input()` leaves in `readBuf`, when `rem` bytes are left of the bytes taken so far. -/
theorem segment_input {rem : ℕ} (hrem : rem = s.stream.bufend - s.stream.nextFrame)
    (hle : rem ≤ readBufSize) (htaken : rem ≤ s.taken) (outside : Mem)
    (hrest : segment (memoryWith base s.readBuf outside) s.stream.nextFrame rem =
      segment source (s.taken - rem) rem) :
    segment (s.input base source outside).readBuf 0 readBufSize =
      segment source (s.taken - rem) readBufSize := by
  have hfilled := segment_memcpy_append (memcpy s.readBuf 0 (memoryWith base s.readBuf outside)
    s.stream.nextFrame rem) rem source s.taken (readBufSize - rem)
  have hnew := segment_add source (s.taken - rem) rem (readBufSize - rem)
  rw [Nat.sub_add_cancel htaken] at hnew
  rw [segment_memcpy, hrest, ← hnew, Nat.add_sub_cancel' hle] at hfilled
  simp only [Decoder.input, ← hrem]
  exact hfilled

/-- The rest of the buffer, which `input()` moves to the front: the last bytes taken. -/
theorem Ready.rest (h : Ready base source s) (outside : Mem) {rem : ℕ}
    (hrem : rem = s.stream.bufend - s.stream.nextFrame) :
    rem ≤ readBufSize ∧ readBufSize ≤ s.taken + (readBufSize - rem) ∧ rem ≤ s.taken ∧
      segment (memoryWith base s.readBuf outside) s.stream.nextFrame rem =
        segment source (s.taken - rem) rem := by
  rcases h.place with ⟨-, hend, hnext, hnone⟩ | hwindow
  · -- the first call
    have hzero : rem = 0 := by omega
    rw [hzero, hnone]
    exact ⟨Nat.zero_le _, by omega, Nat.le_refl _, rfl⟩
  · have hend := hwindow.bufend_eq
    have hle := hwindow.le_nextFrame
    have hnext := hwindow.nextFrame_le
    have hfull := hwindow.taken_ge
    refine ⟨by omega, by omega, by omega, ?_⟩
    have hlast := congrArg (List.rtake · rem) hwindow.window
    have hrem_le : rem ≤ readBufSize := by omega
    simp only [rtake_segment _ _ hrem_le] at hlast
    have hfrom : s.stream.nextFrame - base.addr = 0 + (readBufSize - rem) := by omega
    have hto : s.taken - readBufSize + (readBufSize - rem) = s.taken - rem := by omega
    rw [segment_memoryWith _ _ hle (by omega), hfrom, hlast, hto]

/-- A fresh buffer. -/
theorem Windowed.fresh_buffer (stream : MadStream)
    (hbuffer : s.stream = madStreamBuffer stream base.addr readBufSize) (htaken : readBufSize ≤ s.taken)
    (hwindow : segment s.readBuf 0 readBufSize = segment source (s.taken - readBufSize) readBufSize) :
    Windowed base source s := by
  have hnext : s.stream.nextFrame = base.addr := by rw [hbuffer]; rfl
  constructor
  · rw [hbuffer]
    rfl
  · rw [hbuffer]
    rfl
  · rw [hnext]
  · rw [hnext]
    exact Nat.le_add_right _ _
  · intro _ _
    rw [hbuffer]
    rfl
  · exact htaken
  · exact hwindow

/-- `input()` gives the decoder a fresh window. -/
theorem Ready.input (h : Ready base source s) (outside : Mem) :
    Ready base source (s.input base source outside) := by
  refine ⟨h.skiplen_eq, h.not_waiting, h.mdLen_le, .inr ?_⟩
  obtain ⟨rem, hrem⟩ : ∃ rem, rem = s.stream.bufend - s.stream.nextFrame := ⟨_, rfl⟩
  have htaken : (s.input base source outside).taken = s.taken + (readBufSize - rem) := by
    rw [hrem]
    rfl
  obtain ⟨hle, hfull, hrem_le, hrest⟩ := h.rest outside hrem
  have hwindow := segment_input hrem hle hrem_le outside hrest
  have hfirst : s.taken + (readBufSize - rem) - readBufSize = s.taken - rem := by omega
  apply Windowed.fresh_buffer s.stream rfl
  · rw [htaken]
    exact hfull
  · rw [hwindow, htaken, hfirst]

/-! ### One call of the frame decoder -/

theorem Ready.windowed (h : Ready base source s) (hpc : s.pc = .decode) :
    Windowed base source s := by
  rcases h.place with ⟨hinput, -⟩ | hwindow
  · rw [hpc] at hinput
    cases hinput
  · exact hwindow

theorem Ready.frameCase (h : Ready base source s) (hpc : s.pc = .decode)
    (requantize : ℕ → ℤ → ℤ) (a : Surroundings) :
    FrameCase requantize (memoryWith base s.readBuf a.outside) s.stream a.stack
      (s.decodeResult requantize base a) := by
  have hle := (h.windowed hpc).le_nextFrame
  have hnext : s.stream.nextFrame ≠ 0 := by
    have hbase := base.ne_zero
    omega
  exact madFrameDecode_cases requantize _ h.not_waiting h.skiplen_eq hnext a.stack

/-- A Layer III frame is behind `next_frame` afterwards, and the inner loop goes on. -/
theorem decode_layerIII {options : ℕ} {r : LayerResult} {stream : MadStream} {header : MadHeader}
    (hresult : s.decodeResult requantize base a = afterLayerIII options r)
    (hreturns : r.Returns stream header) :
    (s.decode requantize base a).pc = .decode ∧
      (s.decode requantize base a).frame.header = r.header ∧
      (s.decode requantize base a).readBuf = s.readBuf ∧
      (s.decode requantize base a).taken = s.taken ∧
      (s.decode requantize base a).stream.mdLen = r.stream.mdLen ∧
      SamePlace stream (s.decode requantize base a).stream := by
  obtain ⟨stream', hafter, hplace, hlen, hon⟩ := afterLayerIII_eq hreturns options
  rw [Decoder.decode, hresult, hafter]
  exact ⟨if_pos hon, rfl, rfl, rfl, hlen, hplace⟩

/-- One round of the inner loop. -/
theorem Ready.decode (h : Ready base source s) (hpc : s.pc = .decode)
    (requantize : ℕ → ℤ → ℤ) (a : Surroundings)
    (halive : (s.decode requantize base a).pc ≠ .crashed) :
    Ready base source (s.decode requantize base a) := by
  have hwindow := h.windowed hpc
  have hcase := h.frameCase hpc requantize a
  have hbufend := hwindow.bufend_eq
  have hle := hwindow.le_nextFrame
  have hend := hwindow.nextFrame_le
  generalize hresult : s.decodeResult requantize base a = result at hcase
  rcases hcase with ⟨haccepts, hlayer, hheader, hptr, hfree⟩ | ⟨haccepts, hlayer⟩ |
    ⟨hno, hfail, hfree, hwaiting⟩
  · rename_i f r n freerate header ptr
    have hreturns := madLayerIII_returns requantize
      (memoryWith base s.readBuf a.outside) (acceptedStream s.stream f n ptr freerate)
      ⟨header, s.stream.options⟩ a.stack
    obtain ⟨-, hframe, hbuf, htaken, hlen, hplace⟩ := decode_layerIII hresult hreturns
    have hle' := haccepts.le
    have hfits := haccepts.fits
    have hwaiting : header.flags.incomplete = false := by
      rw [hheader]
      rfl
    refine ⟨hplace.skiplen.trans h.skiplen_eq, ?_, ?_, .inr ?_⟩
    · rw [hframe, hreturns.incomplete]
      exact hwaiting
    · rw [hlen]
      exact madLayerIII_mdLen_le hptr _
    · have hnext : (s.decode requantize base a).stream.nextFrame = f + n := hplace.nextFrame
      refine ⟨hplace.buffer.trans hwindow.buffer_eq, hplace.bufend.trans hbufend, ?_, ?_,
        fun _ _ => hplace.sync, ?_, ?_⟩
      · omega
      · omega
      · rw [htaken]
        exact hwindow.taken_ge
      · rw [hbuf, htaken]
        exact hwindow.window
  · have hcrashed : (s.decode requantize base a).pc = .crashed := by rw [Decoder.decode, hresult]
    exact absurd hcrashed halive
  · rename_i header ptr thisFrame nextFrame freerate error
    obtain ⟨hge, hle'⟩ := hfail.nextFrame_bounds (by omega)
    rw [Decoder.decode, hresult]
    refine ⟨h.skiplen_eq, hwaiting, h.mdLen_le, .inr ⟨hwindow.buffer_eq, hbufend, ?_, ?_, ?_,
      hwindow.taken_ge, hwindow.window⟩⟩
    · exact hle.trans hge
    · exact hle'.trans hbufend.le
    · -- the inner loop goes on only behind a bad header
      intro hpc' heq
      rcases hfail.recoverable_or with ⟨-, hlt⟩ | herror
      · have hback : nextFrame = base.addr := heq
        omega
      · have hon : (if false = true ∨ madRecoverable error = true then DecoderPc.decode
            else .input) = .decode := hpc'
        rw [herror] at hon
        exact absurd hon (by decide)

theorem decoder_invariant (requantize : ℕ → ℤ → ℤ) (base : ReadBufAddr)
    (source mainData readBuf : Mem) :
    (decoderMachine requantize base source mainData readBuf).Invariant
      (DecoderInv base source) where
  init := decoderInv_init
  step {s a s'} h _ hstep := by
    cases hpc : s.pc with
    | input =>
      have hready := h (by rw [hpc]; decide)
      simp only [decoderMachine, hpc] at hstep
      cases hstep
      exact fun _ => hready.input a.outside
    | decode =>
      have hready := h (by rw [hpc]; decide)
      simp only [decoderMachine, hpc] at hstep
      cases hstep
      exact hready.decode hpc requantize a
    | crashed =>
      simp only [decoderMachine, hpc] at hstep
      cases hstep

end Mp3Decoder
