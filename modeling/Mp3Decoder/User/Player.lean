import Mp3Decoder.User.Decoder
import Mp3Decoder.User.SpiramFifoOrder

/-!
# The decoder task at the FIFO

`tskmad` with `input()` step by step: it asks the FIFO for its fill, reads no more than that, and
tries again until `readBuf` is full, while the writer task goes on filling the FIFO.  The fill may
be out of date when the bytes are read, but it can only have grown.
-/

namespace Mp3Decoder

open Segment Schedule

/-! ### The code -/

/-- Where the task stands in `input()`. -/
inductive InputPc
  | start
  /-- at the head of the loop -/
  | fill (rem : ℕ)
  /-- in `spiRamFifoRead(&readBuf[rem], n)` -/
  | reading (rem n : ℕ)
  deriving DecidableEq, Repr

/-- Both tasks.  `offset` is the sum of `next_frame - buffer` over the calls of `input()`. -/
structure Player where
  fifo : Fifo
  decoder : Decoder
  inputPc : InputPc
  bufUnderrunCt : ℕ
  offset : ℤ

/-- One step of `input()`. -/
def Player.input (b : SpiBuff) (base : ReadBufAddr) (s : Player) (outside : Mem) : Option Player :=
  match s.inputPc with
  | .start =>
    let rem := s.decoder.stream.bufend - s.decoder.stream.nextFrame
    -- shift remaining contents of buf to the front
    some { s with
      decoder := { s.decoder with
        readBuf := memcpy s.decoder.readBuf 0 (memoryWith base s.decoder.readBuf outside)
          s.decoder.stream.nextFrame rem }
      inputPc := .fill rem
      offset := s.offset + ((s.decoder.stream.nextFrame : ℤ) - s.decoder.stream.buffer) }
  | .fill rem =>
    if rem < readBufSize then
      (spiRamFifoFill s.fifo).bind fun i =>
        let n : ℤ := if i < readBufSize - rem then i else readBufSize - rem
        if n = 0 then
          -- here silence is pushed for a while
          some { s with bufUnderrunCt := s.bufUnderrunCt + 1 }
        else
          (callRead n s.fifo).map fun fifo => { s with fifo, inputPc := .reading rem n.toNat }
    else
      some { s with
        decoder := { s.decoder with
          stream := madStreamBuffer s.decoder.stream base.addr readBufSize
          pc := .decode }
        inputPc := .start }
  | .reading rem n =>
    if s.fifo.reader = .idle then
      -- the call has returned
      some { s with
        decoder := { s.decoder with
          readBuf := memcpy s.decoder.readBuf rem (fun i => s.fifo.readBuff.getD i 0) 0 n
          taken := s.decoder.taken + n }
        inputPc := .fill (rem + n) }
    else
      (spiRamFifoRead b s.fifo).map fun fifo => { s with fifo }

variable (requantize : ℕ → ℤ → ℤ)

def Player.tskmad (b : SpiBuff) (base : ReadBufAddr) (s : Player) (a : Surroundings) :
    Option Player :=
  match s.decoder.pc with
  | .input => s.input b base a.outside
  | .decode => some { s with decoder := s.decoder.decode requantize base a }
  | .crashed => none

inductive PlayerAct
  | tskmad (a : Surroundings)
  | callWrite (buff : List UInt8)
  | writer

/-- `tskmad` and the writer task, in any interleaving. -/
def playerMachine (b : SpiBuff) (base : ReadBufAddr) (ram : ℤ → UInt8) (mainData readBuf : Mem) :
    Machine Player PlayerAct where
  init := {
    fifo := spiRamFifoInit ram
    decoder := (decoderMachine requantize base (fun _ => 0) mainData readBuf).init
    inputPc := .start
    bufUnderrunCt := 0
    offset := 0 }
  step s
    | .tskmad a => s.tskmad requantize b base a
    | .callWrite buff => (callWrite buff s.fifo).map fun fifo => { s with fifo }
    | .writer => (spiRamFifoWrite b s.fifo).map fun fifo => { s with fifo }

/-! ### The FIFO seen from `input()` -/

/-- The reader has found too few bytes for a chunk. -/
def ReaderPc.starved : ReaderPc → Bool
  | .lowmark _ _ | .waitCanRead _ _ => true
  | .idle | .chunk _ | .lock _ _ | .locked _ _ | .giveCanWrite _ => false

/-- A call for `n` bytes for all of which there are bytes; `before` had been delivered before it. -/
structure Supplied (f : Fifo) (before : List UInt8) (n : ℤ) : Prop where
  delivered_eq : f.delivered = before ++ f.readBuff
  left_nonneg : 0 ≤ f.reader.left
  count : (f.readBuff.length : ℤ) + f.reader.left = n
  enough : f.reader.left ≤ f.fifoFill
  fed : f.reader.starved = false

variable {b : SpiBuff} {f f' : Fifo} {before : List UInt8} {n : ℤ}

/-- The reader leaves the writer's side alone, and finds enough bytes. -/
theorem Supplied.reader_step (h : Supplied f before n) (hinv : FifoInv b f)
    (hstep : spiRamFifoRead b f = some f') :
    Supplied f' before n ∧ f'.fifoUdrCnt = f.fifoUdrCnt ∧ f'.passed = f.passed := by
  have hdelivered := h.delivered_eq
  have hnonneg := h.left_nonneg
  have hcount := h.count
  have henough := h.enough
  have hfed := h.fed
  unfold spiRamFifoRead at hstep
  split at hstep
  case h_1 => cases hstep
  case h_2 len hpc =>
    rw [hpc] at hnonneg hcount henough
    simp only [ReaderPc.left] at hnonneg hcount henough
    split at hstep <;> cases hstep
    · exact ⟨⟨hdelivered, hnonneg, hcount, henough, rfl⟩, rfl, rfl⟩
    · refine ⟨⟨hdelivered, Int.le_refl 0, ?_, hinv.fill_nonneg, rfl⟩, rfl, rfl⟩
      show (f.readBuff.length : ℤ) + 0 = n
      omega
  case h_3 len k hpc =>
    rw [hpc] at hnonneg hcount henough
    split at hstep <;> cases hstep
    exact ⟨⟨hdelivered, hnonneg, hcount, henough, rfl⟩, rfl, rfl⟩
  case h_4 len k hpc =>
    have hcur : f.reader.current = some (len, k) := by rw [hpc]; rfl
    obtain ⟨hk, -, hle, -⟩ := hinv.reader_bounds hcur
    rw [hpc] at hnonneg hcount henough
    simp only [ReaderPc.left] at hnonneg hcount henough
    split at hstep <;> cases hstep
    · omega
    · refine ⟨⟨?_, ?_, ?_, ?_, rfl⟩, rfl, rfl⟩
      · simp only [hdelivered, List.append_assoc]
      · show 0 ≤ len - k
        omega
      · have hlength : ((spiRamRead f.spiram f.fifoRpos k).length : ℤ) = k := by
          rw [spiRamRead, RingWindow.slice_length]
          omega
        simp only [ReaderPc.left, List.length_append]
        push_cast
        omega
      · show len - k ≤ f.fifoFill - k
        omega
  case h_5 len k hpc =>
    rw [hpc] at hfed
    cases hfed
  case h_6 len k hpc =>
    rw [hpc] at hfed
    cases hfed
  case h_7 len hpc =>
    rw [hpc] at hnonneg hcount henough
    cases hstep
    exact ⟨⟨hdelivered, hnonneg, hcount, henough, rfl⟩, rfl, rfl⟩

/-- What the writer leaves alone. -/
structure ReaderSide (f f' : Fifo) : Prop where
  reader_eq : f'.reader = f.reader
  readBuff_eq : f'.readBuff = f.readBuff
  delivered_eq : f'.delivered = f.delivered
  fifoUdrCnt_eq : f'.fifoUdrCnt = f.fifoUdrCnt
  fifoFill_le : f.fifoFill ≤ f'.fifoFill

theorem readerSide_of_writer (hinv : FifoInv b f) (hstep : spiRamFifoWrite b f = some f') :
    ReaderSide f f' := by
  unfold spiRamFifoWrite at hstep
  split at hstep
  case h_1 => cases hstep
  case h_2 buff hpc =>
    split at hstep <;> cases hstep <;> exact ⟨rfl, rfl, rfl, rfl, Int.le_refl _⟩
  case h_3 buff k hpc =>
    split at hstep <;> cases hstep
    exact ⟨rfl, rfl, rfl, rfl, Int.le_refl _⟩
  case h_4 buff k hpc =>
    obtain ⟨hk, -⟩ := hinv.writer_bounds (n := k) (by rw [hpc]; rfl)
    split at hstep <;> cases hstep
    · exact ⟨rfl, rfl, rfl, rfl, Int.le_refl _⟩
    · exact ⟨rfl, rfl, rfl, rfl, show f.fifoFill ≤ f.fifoFill + k by omega⟩
  case h_5 buff k hpc =>
    split at hstep <;> cases hstep
    exact ⟨rfl, rfl, rfl, rfl, Int.le_refl _⟩
  case h_6 buff hpc =>
    cases hstep
    exact ⟨rfl, rfl, rfl, rfl, Int.le_refl _⟩

theorem readerSide_of_callWrite {buff : List UInt8} (hstep : callWrite buff f = some f') :
    ReaderSide f f' := by
  unfold callWrite at hstep
  split at hstep <;> cases hstep
  exact ⟨rfl, rfl, rfl, rfl, Int.le_refl _⟩

theorem Supplied.of_readerSide (h : Supplied f before n) (hside : ReaderSide f f') :
    Supplied f' before n where
  delivered_eq := by rw [hside.delivered_eq, hside.readBuff_eq, h.delivered_eq]
  left_nonneg := by rw [hside.reader_eq]; exact h.left_nonneg
  count := by rw [hside.readBuff_eq, hside.reader_eq, h.count]
  enough := by rw [hside.reader_eq]; exact h.enough.trans hside.fifoFill_le
  fed := by rw [hside.reader_eq, h.fed]

/-! ### Whole runs -/

/-- A finite piece of the byte stream. -/
def streamOf (l : List UInt8) : Mem := fun i => l.getD i 0

theorem segment_streamOf (l : List UInt8) {k : ℕ} (hk : k ≤ l.length) :
    segment (streamOf l) (l.length - k) k = l.rtake k := by
  apply List.ext_getElem
  · rw [length_segment, length_rtake]
    omega
  · intro i hi hi'
    rw [length_segment] at hi
    have hget : l.length - k + i < l.length := by omega
    simp only [Segment.segment, List.getElem_map, List.getElem_range, streamOf, List.rtake,
      List.getElem_drop, List.getD_eq_getElem?_getD, List.getElem?_eq_getElem hget, Option.getD_some]

/-- Outside `input()`: the stream is what the FIFO has delivered. -/
structure AtRest (base : ReadBufAddr) (s : Player) : Prop where
  ready : Ready base (streamOf s.fifo.delivered) s.decoder
  reader_idle : s.fifo.reader = .idle
  taken_eq : s.decoder.taken = s.fifo.delivered.length
  offset_eq : s.decoder.taken = 0 ∧ s.decoder.stream.buffer = 0 ∧ s.offset = 0 ∨
    (s.decoder.taken : ℤ) = s.offset + readBufSize

/-- In the loop of `input()`, with `rem` bytes at the front of `readBuf`, the last ones of `before`. -/
structure Filled (s : Player) (before : List UInt8) (rem : ℕ) : Prop where
  pc_eq : s.decoder.pc = .input
  skiplen_eq : s.decoder.stream.skiplen = 0
  not_waiting : s.decoder.frame.header.flags.incomplete = false
  mdLen_le : s.decoder.stream.mdLen ≤ 511
  rem_le : rem ≤ readBufSize
  rem_le_taken : rem ≤ s.decoder.taken
  taken_eq : s.decoder.taken = before.length
  offset_eq : (s.decoder.taken : ℤ) = s.offset + rem
  front : segment s.decoder.readBuf 0 rem = before.rtake rem

def Player.Placed (base : ReadBufAddr) (s : Player) : Prop :=
  match s.inputPc with
  | .start => AtRest base s
  | .fill rem => Filled s s.fifo.delivered rem ∧ s.fifo.reader = .idle
  | .reading rem n =>
    ∃ before, Filled s before rem ∧ Supplied s.fifo before n ∧ rem + n ≤ readBufSize

structure PlayerInv (b : SpiBuff) (base : ReadBufAddr) (s : Player) : Prop where
  fifo : FifoInv b s.fifo
  unstarved : s.fifo.fifoUdrCnt = 0
  fed : s.fifo.reader.starved = false
  offset_nonneg : 0 ≤ s.offset
  placed : s.decoder.pc ≠ .crashed → s.Placed base

variable {base : ReadBufAddr} {s s' : Player}

/-- The writer's steps. -/
theorem PlayerInv.of_readerSide (h : PlayerInv b base s) (hfifo : FifoInv b f)
    (hside : ReaderSide s.fifo f) : PlayerInv b base { s with fifo := f } where
  fifo := hfifo
  unstarved := hside.fifoUdrCnt_eq.trans h.unstarved
  fed := (congrArg ReaderPc.starved hside.reader_eq).trans h.fed
  offset_nonneg := h.offset_nonneg
  placed halive := by
    have hplaced := h.placed halive
    have hdelivered := hside.delivered_eq
    have hreader := hside.reader_eq
    unfold Player.Placed at hplaced ⊢
    cases hpc : s.inputPc with
    | start =>
      rw [hpc] at hplaced
      refine ⟨?_, hreader.trans hplaced.reader_idle, ?_, hplaced.offset_eq⟩
      · rw [hdelivered]
        exact hplaced.ready
      · rw [hdelivered]
        exact hplaced.taken_eq
    | fill rem =>
      rw [hpc] at hplaced
      obtain ⟨hfilled, hidle⟩ := hplaced
      refine ⟨?_, hreader.trans hidle⟩
      simp only [hdelivered]
      exact { hfilled with }
    | reading rem n =>
      rw [hpc] at hplaced
      obtain ⟨before, hfilled, hsupplied, hle⟩ := hplaced
      exact ⟨before, { hfilled with }, hsupplied.of_readerSide hside, hle⟩

theorem Decoder.decode_same (d : Decoder) (a : Surroundings) :
    (d.decode requantize base a).taken = d.taken ∧ (d.decode requantize base a).readBuf = d.readBuf := by
  rw [Decoder.decode]
  cases d.decodeResult requantize base a with
  | returned ok frame stream call => exact ⟨rfl, rfl⟩
  | nullCall frame stream => exact ⟨rfl, rfl⟩

/-- A round of the inner loop. -/
theorem PlayerInv.decode_step (h : PlayerInv b base s) (hpc : s.decoder.pc = .decode)
    (a : Surroundings) :
    PlayerInv b base { s with decoder := s.decoder.decode requantize base a } where
  fifo := h.fifo
  unstarved := h.unstarved
  fed := h.fed
  offset_nonneg := h.offset_nonneg
  placed halive := by
    have hplaced := h.placed (by rw [hpc]; decide)
    unfold Player.Placed at hplaced ⊢
    cases hinput : s.inputPc with
    | start =>
      rw [hinput] at hplaced
      have htaken : (s.decoder.decode requantize base a).taken = s.decoder.taken :=
        (Decoder.decode_same requantize s.decoder a).1
      have hfull := (hplaced.ready.windowed hpc).taken_ge
      refine ⟨hplaced.ready.decode hpc requantize a halive, hplaced.reader_idle,
        htaken.trans hplaced.taken_eq, .inr ?_⟩
      show ((s.decoder.decode requantize base a).taken : ℤ) = s.offset + readBufSize
      rw [htaken]
      rcases hplaced.offset_eq with ⟨hnone, -⟩ | heq
      · rw [hnone, readBufSize] at hfull
        omega
      · exact heq
    | fill rem =>
      rw [hinput] at hplaced
      have hin := hplaced.1.pc_eq
      rw [hpc] at hin
      cases hin
    | reading rem n =>
      rw [hinput] at hplaced
      obtain ⟨before, hfilled, -⟩ := hplaced
      have hin := hfilled.pc_eq
      rw [hpc] at hin
      cases hin

/-- The move to the front. -/
theorem AtRest.shift (h : AtRest base s) (hpc : s.decoder.pc = .input) (hoffset : 0 ≤ s.offset)
    (outside : Mem) {rem : ℕ}
    (hrem : rem = s.decoder.stream.bufend - s.decoder.stream.nextFrame)
    (hs' : s' = { s with
      decoder := { s.decoder with
        readBuf := memcpy s.decoder.readBuf 0 (memoryWith base s.decoder.readBuf outside)
          s.decoder.stream.nextFrame rem }
      inputPc := .fill rem
      offset := s.offset + ((s.decoder.stream.nextFrame : ℤ) - s.decoder.stream.buffer) }) :
    s.offset ≤ s'.offset ∧ Filled s' s'.fifo.delivered rem := by
  obtain ⟨hle, -, hrem_le, hrest⟩ := h.ready.rest outside hrem
  have htaken := h.taken_eq
  have hplace : s.offset ≤ s'.offset ∧ (s.decoder.taken : ℤ) = s'.offset + rem := by
    rw [hs']
    simp only
    rcases h.ready.place with ⟨-, hend, hnext, hnone⟩ | hwindow
    · rcases h.offset_eq with ⟨-, hbuffer, hzero⟩ | heq
      · rw [hnext, hbuffer, hnone, hzero]
        omega
      · rw [hnone, readBufSize] at heq
        omega
    · have hbuffer := hwindow.buffer_eq
      have hend := hwindow.bufend_eq
      have hge := hwindow.le_nextFrame
      have hnext := hwindow.nextFrame_le
      have hfull := hwindow.taken_ge
      rw [readBufSize] at hfull hend hnext
      rcases h.offset_eq with ⟨hnone, -⟩ | heq
      · omega
      · rw [readBufSize] at heq
        omega
  refine ⟨hplace.1, ?_⟩
  have hoffset' := hplace.2
  subst hs'
  refine ⟨hpc, h.ready.skiplen_eq, h.ready.not_waiting, h.ready.mdLen_le, hle, hrem_le, htaken,
    hoffset', ?_⟩
  simp only
  rw [segment_memcpy, hrest, htaken, segment_streamOf _ (htaken ▸ hrem_le)]

/-- The buffer is full. -/
theorem Filled.stream_buffer (h : Filled s s.fifo.delivered readBufSize)
    (hidle : s.fifo.reader = .idle)
    (hs' : s' = { s with
      decoder := { s.decoder with
        stream := madStreamBuffer s.decoder.stream base.addr readBufSize
        pc := .decode }
      inputPc := .start }) : AtRest base s' := by
  have htaken := h.taken_eq
  have hfull := h.rem_le_taken
  subst hs'
  refine ⟨⟨h.skiplen_eq, h.not_waiting, h.mdLen_le, .inr ?_⟩, hidle, htaken, .inr h.offset_eq⟩
  refine Windowed.fresh_buffer s.decoder.stream rfl hfull ?_
  show segment s.decoder.readBuf 0 readBufSize =
    segment (streamOf s.fifo.delivered) (s.decoder.taken - readBufSize) readBufSize
  rw [h.front, htaken, segment_streamOf _ (htaken ▸ hfull)]

/-- `spiRamFifoRead` has returned. -/
theorem Filled.read {before : List UInt8} {rem n : ℕ} (h : Filled s before rem)
    (hsupplied : Supplied s.fifo before n) (hidle : s.fifo.reader = .idle)
    (hle : rem + n ≤ readBufSize)
    (hs' : s' = { s with
      decoder := { s.decoder with
        readBuf := memcpy s.decoder.readBuf rem (fun i => s.fifo.readBuff.getD i 0) 0 n
        taken := s.decoder.taken + n }
      inputPc := .fill (rem + n) }) : Filled s' s'.fifo.delivered (rem + n) := by
  have hlength : s.fifo.readBuff.length = n := by
    have hcount := hsupplied.count
    rw [hidle] at hcount
    simp only [ReaderPc.left] at hcount
    omega
  have hbuff : segment (fun i => s.fifo.readBuff.getD i 0) 0 n = s.fifo.readBuff := by
    have hall := segment_streamOf s.fifo.readBuff (Nat.le_refl _)
    rw [Nat.sub_self, hlength] at hall
    rw [show (fun i => s.fifo.readBuff.getD i 0) = streamOf s.fifo.readBuff from rfl, hall,
      List.rtake, hlength, Nat.sub_self, List.drop_zero]
  have hfront := h.front
  have htaken := h.taken_eq
  have hoffset := h.offset_eq
  have hrem := h.rem_le_taken
  have hdelivered := hsupplied.delivered_eq
  subst hs'
  refine ⟨h.pc_eq, h.skiplen_eq, h.not_waiting, h.mdLen_le, hle, ?_, ?_, ?_, ?_⟩
  · simp only
    omega
  · simp only [hdelivered, List.length_append]
    omega
  · simp only
    push_cast
    omega
  · simp only
    rw [segment_memcpy_append, hfront, hbuff, hdelivered, ← hlength, rtake_append_add]

/-- `spiRamFifoRead` is called for bytes that are there. -/
theorem Supplied.of_call (hidle : f.reader = .idle) (hpos : 0 ≤ n)
    (henough : n ≤ f.fifoFill) (hcall : callRead n f = some f') :
    Supplied f' f.delivered n ∧ f'.delivered = f.delivered ∧ f'.fifoUdrCnt = f.fifoUdrCnt := by
  rw [callRead, if_pos hidle] at hcall
  cases hcall
  refine ⟨⟨?_, hpos, ?_, henough, rfl⟩, rfl, rfl⟩
  · simp
  · simp [ReaderPc.left]

theorem Player.placed_start (hpc : s.inputPc = .start) : s.Placed base ↔ AtRest base s := by
  rw [Player.Placed, hpc]

theorem Player.placed_fill {rem : ℕ} (hpc : s.inputPc = .fill rem) :
    s.Placed base ↔ Filled s s.fifo.delivered rem ∧ s.fifo.reader = .idle := by
  rw [Player.Placed, hpc]

theorem Player.placed_reading {rem n : ℕ} (hpc : s.inputPc = .reading rem n) :
    s.Placed base ↔
      ∃ before, Filled s before rem ∧ Supplied s.fifo before n ∧ rem + n ≤ readBufSize := by
  rw [Player.Placed, hpc]

/-- The head of the loop. -/
theorem PlayerInv.fill_step (h : PlayerInv b base s) (hpc : s.decoder.pc = .input)
    (outside : Mem) {rem : ℕ} (hinput : s.inputPc = .fill rem)
    (hstep : s.input b base outside = some s') : PlayerInv b base s' ∧ s.offset ≤ s'.offset := by
  obtain ⟨hfilled, hidle⟩ := (Player.placed_fill hinput).mp (h.placed (by rw [hpc]; decide))
  simp only [Player.input, hinput] at hstep
  by_cases hroom : rem < readBufSize
  · rw [if_pos hroom] at hstep
    obtain ⟨i, hfill, hmore⟩ := Option.bind_eq_some_iff.mp hstep
    have hi : i = s.fifo.fifoFill := by
      unfold spiRamFifoFill at hfill
      split at hfill <;> cases hfill
      rfl
    obtain ⟨n, hn⟩ : ∃ n : ℤ, n = if i < readBufSize - rem then i else readBufSize - rem := ⟨_, rfl⟩
    have hnonneg := h.fifo.fill_nonneg
    have hbounds : 0 ≤ n ∧ n ≤ s.fifo.fifoFill ∧ n ≤ readBufSize - rem := by
      rw [hn]
      split_ifs <;> omega
    rw [← hn] at hmore
    by_cases hnone : n = 0
    · rw [if_pos hnone] at hmore
      have hs' := (Option.some.inj hmore).symm
      rw [hs']
      refine ⟨⟨h.fifo, h.unstarved, h.fed, h.offset_nonneg, fun _ => ?_⟩, Int.le_refl _⟩
      exact (Player.placed_fill rfl).mpr ⟨{ hfilled with }, hidle⟩
    · rw [if_neg hnone] at hmore
      obtain ⟨f', hcall, hs'⟩ := Option.map_eq_some_iff.mp hmore
      obtain ⟨hsupplied, -, hudr⟩ := Supplied.of_call hidle hbounds.1 hbounds.2.1 hcall
      rw [← hs']
      refine ⟨⟨h.fifo.call_read hcall, hudr.trans h.unstarved, hsupplied.fed, h.offset_nonneg,
        fun _ => ?_⟩, Int.le_refl _⟩
      refine (Player.placed_reading rfl).mpr ⟨s.fifo.delivered, { hfilled with }, ?_, by omega⟩
      rwa [Int.toNat_of_nonneg hbounds.1]
  · rw [if_neg hroom] at hstep
    have hfull : rem = readBufSize := Nat.le_antisymm hfilled.rem_le (Nat.not_lt.mp hroom)
    have hs' := (Option.some.inj hstep).symm
    have hrest : AtRest base s' := (hfull ▸ hfilled).stream_buffer hidle hs'
    refine ⟨⟨?_, ?_, ?_, ?_, fun _ => ?_⟩, ?_⟩
    · rw [hs']
      exact h.fifo
    · rw [hs']
      exact h.unstarved
    · rw [hs']
      exact h.fed
    · rw [hs']
      exact h.offset_nonneg
    · exact (Player.placed_start (by rw [hs'])).mpr hrest
    · rw [hs']

/-- Inside `spiRamFifoRead`, or back from it. -/
theorem PlayerInv.reading_step (h : PlayerInv b base s) (hpc : s.decoder.pc = .input)
    (outside : Mem) {rem n : ℕ} (hinput : s.inputPc = .reading rem n)
    (hstep : s.input b base outside = some s') : PlayerInv b base s' ∧ s.offset ≤ s'.offset := by
  obtain ⟨before, hfilled, hsupplied, hle⟩ :=
    (Player.placed_reading hinput).mp (h.placed (by rw [hpc]; decide))
  simp only [Player.input, hinput] at hstep
  by_cases hidle : s.fifo.reader = .idle
  · rw [if_pos hidle] at hstep
    have hs' := (Option.some.inj hstep).symm
    have hread := hfilled.read hsupplied hidle hle hs'
    refine ⟨⟨?_, ?_, ?_, ?_, fun _ => ?_⟩, ?_⟩
    · rw [hs']
      exact h.fifo
    · rw [hs']
      exact h.unstarved
    · rw [hs']
      exact h.fed
    · rw [hs']
      exact h.offset_nonneg
    · refine (Player.placed_fill (by rw [hs'])).mpr ⟨hread, ?_⟩
      rw [hs']
      exact hidle
    · rw [hs']
  · rw [if_neg hidle] at hstep
    obtain ⟨f', hread, hs'⟩ := Option.map_eq_some_iff.mp hstep
    obtain ⟨hsupplied', hudr, -⟩ := hsupplied.reader_step h.fifo hread
    rw [← hs']
    refine ⟨⟨h.fifo.reader_step hread, hudr.trans h.unstarved, hsupplied'.fed, h.offset_nonneg,
      fun _ => ?_⟩, Int.le_refl _⟩
    refine (Player.placed_reading rfl).mpr ⟨before, { hfilled with }, ?_, hle⟩
    exact hsupplied'

theorem PlayerInv.input_step (h : PlayerInv b base s) (hpc : s.decoder.pc = .input) (outside : Mem)
    (hstep : s.input b base outside = some s') : PlayerInv b base s' ∧ s.offset ≤ s'.offset := by
  cases hinput : s.inputPc with
  | start =>
    have hrest := (Player.placed_start hinput).mp (h.placed (by rw [hpc]; decide))
    simp only [Player.input, hinput] at hstep
    have hs' := (Option.some.inj hstep).symm
    obtain ⟨hforward, hfilled⟩ := hrest.shift hpc h.offset_nonneg outside rfl hs'
    refine ⟨⟨?_, ?_, ?_, h.offset_nonneg.trans hforward, fun _ => ?_⟩, hforward⟩
    · rw [hs']
      exact h.fifo
    · rw [hs']
      exact h.unstarved
    · rw [hs']
      exact h.fed
    · refine (Player.placed_fill (by rw [hs'])).mpr ⟨hfilled, ?_⟩
      rw [hs']
      exact hrest.reader_idle
  | fill rem => exact h.fill_step hpc outside hinput hstep
  | reading rem n => exact h.reading_step hpc outside hinput hstep

/-- The window of the stream that the decoder works on. -/
theorem AtRest.window (h : AtRest base s) (hinv : FifoInv b s.fifo) (hpc : s.decoder.pc = .decode)
    (hoffset : 0 ≤ s.offset) :
    ∃ c : ℕ, s.offset = c ∧ c + readBufSize ≤ s.fifo.passed.length ∧
      segment s.decoder.readBuf 0 readBufSize = (s.fifo.passed.drop c).take readBufSize := by
  have hwindow := h.ready.windowed hpc
  have hfull := hwindow.taken_ge
  have htaken := h.taken_eq
  obtain ⟨c, hc⟩ := Int.eq_ofNat_of_zero_le hoffset
  have hlength : s.fifo.delivered.length = c + readBufSize := by
    rcases h.offset_eq with ⟨hnone, -⟩ | heq
    · rw [hnone, readBufSize] at hfull
      omega
    · omega
  refine ⟨c, hc, ?_, ?_⟩
  · rw [hinv.accounted, List.length_append, List.length_append]
    omega
  · have hdrop : (s.fifo.delivered.drop c).length = readBufSize := by
      rw [List.length_drop, hlength, Nat.add_sub_cancel_left]
    rw [hwindow.window, htaken, segment_streamOf _ (htaken ▸ hfull), List.rtake, hlength,
      Nat.add_sub_cancel, hinv.accounted, List.append_assoc,
      List.drop_append_of_le_length (by omega), List.take_left' hdrop]

variable {ram : ℤ → UInt8} {mainData readBuf : Mem}

theorem PlayerInv.step (h : PlayerInv b base s) {a : PlayerAct}
    (hstep : (playerMachine requantize b base ram mainData readBuf).step s a = some s') :
    PlayerInv b base s' ∧ s.offset ≤ s'.offset := by
  cases a with
  | tskmad a =>
    simp only [playerMachine, Player.tskmad] at hstep
    cases hpc : s.decoder.pc with
    | input =>
      rw [hpc] at hstep
      exact h.input_step hpc a.outside hstep
    | decode =>
      rw [hpc] at hstep
      cases hstep
      exact ⟨h.decode_step requantize hpc a, Int.le_refl _⟩
    | crashed =>
      rw [hpc] at hstep
      cases hstep
  | callWrite buff =>
    obtain ⟨f', hcall, rfl⟩ := Option.map_eq_some_iff.mp hstep
    exact ⟨h.of_readerSide (h.fifo.call_write hcall) (readerSide_of_callWrite hcall), Int.le_refl _⟩
  | writer =>
    obtain ⟨f', hwrite, rfl⟩ := Option.map_eq_some_iff.mp hstep
    exact ⟨h.of_readerSide (h.fifo.writer_step hwrite) (readerSide_of_writer h.fifo hwrite),
      Int.le_refl _⟩

theorem player_invariant (b : SpiBuff) (base : ReadBufAddr) (ram : ℤ → UInt8)
    (mainData readBuf : Mem) :
    (playerMachine requantize b base ram mainData readBuf).Invariant (PlayerInv b base) where
  init := by
    refine ⟨fifoInv_init b ram, rfl, rfl, Int.le_refl 0, fun halive => ?_⟩
    exact (Player.placed_start rfl).mpr
      ⟨(decoder_invariant requantize base _ mainData readBuf).init halive, rfl, rfl,
        .inl ⟨rfl, rfl, rfl⟩⟩
  step h _ hstep := (h.step requantize hstep).1

/-- **`readBuf` is a window of the byte stream.**  In every interleaving with the writer, whenever
the decoder has the buffer it holds the 2106 bytes from the sum of all `next_frame - buffer` on,
that sum never falls, and no read of `input()` ever finds too few bytes in the FIFO. -/
theorem player_reads_stream (b : SpiBuff) (base : ReadBufAddr) (ram : ℤ → UInt8)
    (mainData readBuf : Mem) (acts : List PlayerAct) :
    let m := playerMachine requantize b base ram mainData readBuf
    let s := m.run acts
    (s.decoder.pc = .decode → ∃ c : ℕ, s.offset = c ∧ c + readBufSize ≤ s.fifo.passed.length ∧
        segment s.decoder.readBuf 0 readBufSize = (s.fifo.passed.drop c).take readBufSize) ∧
      m.Always (fun s a => s.offset ≤ (m.move s a).offset) acts ∧
      s.fifo.fifoUdrCnt = 0 ∧ ∀ len n, s.fifo.reader ≠ .waitCanRead len n := by
  intro m s
  have hinv := player_invariant requantize b base ram mainData readBuf
  have h : PlayerInv b base s := Machine.Invariant.run hinv acts
  refine ⟨fun hpc => ?_, ?_, h.unstarved, ?_⟩
  · have hrest : AtRest base s := by
      have hplaced := h.placed (by rw [hpc]; decide)
      cases hinput : s.inputPc with
      | start => exact (Player.placed_start hinput).mp hplaced
      | fill rem =>
        have hin := ((Player.placed_fill hinput).mp hplaced).1.pc_eq
        rw [hpc] at hin
        cases hin
      | reading rem n =>
        obtain ⟨before, hfilled, -⟩ := (Player.placed_reading hinput).mp hplaced
        have hin := hfilled.pc_eq
        rw [hpc] at hin
        cases hin
    exact hrest.window h.fifo hpc h.offset_nonneg
  · rw [Machine.always_iff_moves]
    intro pre a _
    have hpre := Machine.Invariant.run hinv pre
    cases hstep : m.step (m.run pre) a with
    | none => rw [Machine.move_of_blocked _ hstep]
    | some s' =>
      rw [Machine.move_of_step _ hstep]
      exact (hpre.step requantize hstep).2
  · intro len n hwait
    have hfed := h.fed
    rw [hwait] at hfed
    cases hfed

end Mp3Decoder
