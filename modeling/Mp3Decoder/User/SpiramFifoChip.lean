import Mp3Decoder.Driver.SpiRam
import Mp3Decoder.User.SpiramFifoOrder
import Mathlib.Order.Interval.Finset.Nat

/-!
# The FIFO on the chip

`SpiramFifo` takes the RAM for an array and the buffer of the writer for a list.  Here both tasks
hold pointers into one memory and move their chunks with the SPI RAM driver, whose reads store a
byte too many behind a chunk that does not end on a word.  Within a call the next chunk goes over
that byte, so that only the one behind the last chunk stays.  As long as it is none of those that
the writer has still to send, each step is one of `SpiramFifo`.
-/

namespace Mp3Decoder

open Schedule Segment RingWindow

/-- Where `spiRamFifoWrite(buff, len)` stands. -/
inductive ChipWriterPc
  | idle
  | chunk (len : ℤ)
  | lock (len n : ℤ)
  | locked (len n : ℤ)
  | waitCanWrite (len n : ℤ)
  | giveCanRead (len : ℤ)
  deriving DecidableEq, Repr

structure ChipFifo where
  fifoRpos : ℤ
  fifoWpos : ℤ
  fifoFill : ℤ
  semCanRead : Bool
  semCanWrite : Bool
  mux : Bool
  fifoOvfCnt : ℤ
  fifoUdrCnt : ℤ
  spi : SpiRam
  reader : ReaderPc
  /-- `buff` in `spiRamFifoRead` -/
  readBuff : ℕ
  /-- `buff` when it was called -/
  readStart : ℕ
  writer : ChipWriterPc
  /-- `buff` in `spiRamFifoWrite` -/
  writeBuff : ℕ
  delivered : List UInt8
  passed : List UInt8

/-- What is left of the writer's call. -/
def ChipWriterPc.left : ChipWriterPc → ℤ
  | .idle => 0
  | .chunk len | .lock len _ | .locked len _ | .waitCanWrite len _ | .giveCanRead len => len

namespace ChipFifo

def spiRamFifoInit (spi : SpiRam) : ChipFifo where
  fifoRpos := 0
  fifoWpos := 0
  fifoFill := 0
  semCanRead := true
  semCanWrite := true
  mux := true
  fifoOvfCnt := 0
  fifoUdrCnt := 0
  spi := spi
  reader := .idle
  readBuff := 0
  readStart := 0
  writer := .idle
  writeBuff := 0
  delivered := []
  passed := []

/-- "Read the data." -/
def readChunk (rest : ℕ → UInt8) (len n : ℤ) (s : ChipFifo) : ChipFifo :=
  let spi := s.spi.spiRamRead (BitVec.ofInt 32 s.fifoRpos) s.readBuff n.toNat rest
  { s with
    spi := spi
    readBuff := s.readBuff + n.toNat
    delivered := s.delivered ++ segment spi.mem s.readBuff n.toNat
    fifoFill := s.fifoFill - n
    fifoRpos := advancePos .spiRam s.fifoRpos n
    mux := true
    reader := .giveCanWrite (len - n) }

/-- "Write the data." -/
def writeChunk (len n : ℤ) (s : ChipFifo) : ChipFifo :=
  { s with
    spi := s.spi.spiRamWrite (BitVec.ofInt 32 s.fifoWpos) s.writeBuff n.toNat
    writeBuff := s.writeBuff + n.toNat
    fifoFill := s.fifoFill + n
    fifoWpos := advancePos .spiRam s.fifoWpos n
    mux := true
    writer := .giveCanRead (len - n) }

/-- One step of the task in `spiRamFifoRead`. -/
def spiRamFifoRead (rest : ℕ → UInt8) (s : ChipFifo) : Option ChipFifo :=
  match s.reader with
  | .idle => none
  | .chunk len =>
    if len > 0 then some { s with reader := .lock len (chunkSize .spiRam len s.fifoRpos) }
    else some { s with reader := .idle }
  | .lock len n => if s.mux then some { s with mux := false, reader := .locked len n } else none
  | .locked len n =>
    if s.fifoFill < n then
      some { s with fifoUdrCnt := s.fifoUdrCnt + 1, mux := true, reader := .lowmark len n }
    else some (s.readChunk rest len n)
  | .lowmark len n =>
    if s.fifoFill < fifoLowmark then some { s with reader := .waitCanRead len n }
    else some { s with reader := .chunk len }
  | .waitCanRead len _ =>
    if s.semCanRead then some { s with semCanRead := false, reader := .chunk len } else none
  | .giveCanWrite len => some { s with semCanWrite := true, reader := .chunk len }

/-- One step of the task in `spiRamFifoWrite`. -/
def spiRamFifoWrite (s : ChipFifo) : Option ChipFifo :=
  match s.writer with
  | .idle => none
  | .chunk len =>
    if len > 0 then some { s with writer := .lock len (chunkSize .spiRam len s.fifoWpos) }
    else some { s with writer := .idle }
  | .lock len n => if s.mux then some { s with mux := false, writer := .locked len n } else none
  | .locked len n =>
    if SpiBuff.spiRam.spiramSize - s.fifoFill < n then
      some { s with fifoOvfCnt := s.fifoOvfCnt + 1, mux := true, writer := .waitCanWrite len n }
    else some (s.writeChunk len n)
  | .waitCanWrite len _ =>
    if s.semCanWrite then some { s with semCanWrite := false, writer := .chunk len } else none
  | .giveCanRead len => some { s with semCanRead := true, writer := .chunk len }

/-- The cells of the reader's call, and `more` behind them. -/
def readCells (s : ChipFifo) (more : ℕ) : Finset ℕ :=
  if s.reader = .idle then ∅
  else Finset.Ico s.readStart (s.readBuff + s.reader.left.toNat + more)

/-- The cells that the writer's call has still to send. -/
def writeCells (s : ChipFifo) : Finset ℕ :=
  Finset.Ico s.writeBuff (s.writeBuff + s.writer.left.toNat)

/-- Neither the buffer nor the byte behind it is the writer's: `readBuf` is a static array of the
decoder, `wbuf` is on the stack of `tskreader`. -/
def callRead (buff : ℕ) (len : ℤ) (s : ChipFifo) : Option ChipFifo :=
  if s.reader = .idle ∧ Disjoint (Finset.Ico buff (buff + len.toNat + 1)) s.writeCells then
    some { s with reader := .chunk len, readBuff := buff, readStart := buff }
  else none

def callWrite (buff : ℕ) (len : ℤ) (s : ChipFifo) : Option ChipFifo :=
  if s.writer = .idle ∧ Disjoint (s.readCells 1) (Finset.Ico buff (buff + len.toNat)) then
    some { s with
      writer := .chunk len
      writeBuff := buff
      passed := s.passed ++ segment s.spi.mem buff len.toNat }
  else none

/-- The rest of the program leaves the buffers of the two calls alone. -/
def store (p : ℕ) (v : UInt8) (s : ChipFifo) : Option ChipFifo :=
  if p ∉ s.readCells 0 ∧ p ∉ s.writeCells then
    some { s with spi := { s.spi with mem := Function.update s.spi.mem p v } }
  else none

end ChipFifo

inductive ChipFifoAct
  | callRead (buff : ℕ) (len : ℤ)
  | callWrite (buff : ℕ) (len : ℤ)
  /-- with what the peripheral leaves behind the bytes that it receives -/
  | reader (rest : ℕ → UInt8)
  | writer
  | store (p : ℕ) (v : UInt8)

/-- The FIFO over the driver: any calls whose buffers are apart, any interleaving. -/
def chipFifo (spi : SpiRam) : Machine ChipFifo ChipFifoAct where
  init := ChipFifo.spiRamFifoInit spi
  step s
    | .callRead buff len => s.callRead buff len
    | .callWrite buff len => s.callWrite buff len
    | .reader rest => s.spiRamFifoRead rest
    | .writer => s.spiRamFifoWrite
    | .store p v => s.store p v

/-! ### The chip as an array -/

/-- The bytes of the chip in order. -/
def chipImage (chip : BitVec 17 → UInt8) : ℤ → UInt8 :=
  fun a => if 0 ≤ a ∧ a < 2 ^ 17 then chip (BitVec.ofInt 17 a) else 0

theorem chipImage_chipAt (chip : BitVec 17 → UInt8) {pos k : ℕ} (h : pos + k < 2 ^ 17) :
    chip (chipAt (BitVec.ofNat 32 pos) k) = chipImage chip ((pos : ℤ) + k) := by
  have hlow : (BitVec.ofNat 32 pos).setWidth 17 = BitVec.ofNat 17 pos := by
    apply BitVec.eq_of_toNat_eq
    simp only [BitVec.toNat_setWidth, BitVec.toNat_ofNat]
    omega
  rw [chipImage, if_pos (by omega), chipAt, hlow, ← BitVec.ofNat_add, ← BitVec.ofInt_natCast,
    Int.natCast_add]

variable (s : SpiRam) (buff : ℕ) {pos n : ℤ}

/-- The driver reads the chunk that the FIFO asks for. -/
theorem spiRamRead_image (hpos : 0 ≤ pos) (hn : 1 ≤ n) (hle : n ≤ 64) (hend : pos + n ≤ 2 ^ 17)
    (rest : ℕ → UInt8) :
    segment (s.spiRamRead (BitVec.ofInt 32 pos) buff n.toNat rest).mem buff n.toNat =
      spiRamRead (chipImage s.chip) pos n := by
  lift pos to ℕ using hpos
  lift n to ℕ using by omega
  rw [BitVec.ofInt_natCast, Int.toNat_natCast, spiRamRead_mem s _ buff (by omega) (by omega),
    spiRamRead, slice, Int.toNat_natCast, Segment.segment]
  apply List.map_congr_left
  intro k hk
  have hlt := List.mem_range.mp hk
  have hstored : k < storedBytes n := by
    rw [storedBytes]
    split_ifs <;> omega
  rw [memcpy, if_pos (by omega), Nat.zero_add, Nat.add_sub_cancel_left, if_pos hlt,
    chipImage_chipAt s.chip (by omega)]

/-- It stores nothing but the chunk and the byte behind it. -/
theorem spiRamRead_frame (hn : 1 ≤ n) (hle : n ≤ 64) (addr : BitVec 32) (rest : ℕ → UInt8) {p : ℕ}
    (hp : p < buff ∨ buff + n.toNat < p) :
    (s.spiRamRead addr buff n.toNat rest).mem p = s.mem p := by
  rw [spiRamRead_mem s _ buff (by omega) (by omega), memcpy, if_neg]
  rw [storedBytes]
  split_ifs <;> omega

/-- The driver stores the chunk where the FIFO puts it, and nothing else. -/
theorem spiRamWrite_image (hpos : 0 ≤ pos) (hn : 1 ≤ n) (hle : n ≤ 64) (hend : pos + n ≤ 2 ^ 17)
    {len : ℕ} (hlen : n ≤ len) :
    chipImage (s.spiRamWrite (BitVec.ofInt 32 pos) buff n.toNat).chip =
      spiRamWrite (chipImage s.chip) pos (segment s.mem buff len) n := by
  lift pos to ℕ using hpos
  lift n to ℕ using by omega
  rw [BitVec.ofInt_natCast, Int.toNat_natCast, spiRamWrite, Int.toNat_natCast,
    take_segment s.mem buff (by omega)]
  funext a
  by_cases hin : (pos : ℤ) ≤ a ∧ a < pos + n
  · have ha : a = (pos : ℤ) + ((a - pos).toNat : ℕ) := by omega
    rw [blit, if_pos hin.1, ha, ← chipImage_chipAt _ (by omega),
      spiRamWrite_chipAt s _ buff (by omega) (by omega) (by omega), ← ha, Segment.segment,
      List.getD_eq_getElem?_getD, List.getElem?_map, List.getElem?_range (by omega),
      Option.map_some, Option.getD_some]
  · have hblit : blit (chipImage s.chip) pos (segment s.mem buff n) a = chipImage s.chip a := by
      rcases lt_or_ge a (pos : ℤ) with hlt | hge
      · exact blit_of_lt hlt
      · exact blit_of_ge (by rw [length_segment]; omega)
    rw [hblit, chipImage, chipImage]
    by_cases hrange : 0 ≤ a ∧ a < 2 ^ 17
    · lift a to ℕ using hrange.1
      have hfar : (BitVec.ofNat 17 a - (BitVec.ofNat 32 pos).setWidth 17).toNat =
          (2 ^ 17 - pos + a) % 2 ^ 17 := by
        rw [BitVec.toNat_sub, BitVec.toNat_setWidth, BitVec.toNat_ofNat, BitVec.toNat_ofNat]
        omega
      rw [if_pos hrange, if_pos hrange, BitVec.ofInt_natCast,
        spiRamWrite_chip s _ buff (by omega) (by omega), hfar, if_neg (by omega)]
    · rw [if_neg hrange, if_neg hrange]

/-! ### The calls and the memory -/

/-- A step that leaves alone what the two calls know of the memory. -/
structure SameBuffers (s s' : ChipFifo) : Prop where
  mem : s'.spi.mem = s.spi.mem
  readBuff : s'.readBuff = s.readBuff
  readStart : s'.readStart = s.readStart
  delivered : s'.delivered = s.delivered
  reader : s'.reader ≠ .idle → s.reader ≠ .idle ∧ s'.reader.left = s.reader.left
  writeBuff : s'.writeBuff = s.writeBuff
  writer : s'.writer.left.toNat = s.writer.left.toNat

variable {s s' : ChipFifo} {rest : ℕ → UInt8}

theorem ChipFifo.read_cases (hstep : s.spiRamFifoRead rest = some s') :
    SameBuffers s s' ∨
      ∃ len n, s.reader = .locked len n ∧ ¬ s.fifoFill < n ∧ s' = s.readChunk rest len n := by
  unfold ChipFifo.spiRamFifoRead at hstep
  split at hstep
  case h_1 => cases hstep
  case h_4 len n hpc =>
    split at hstep <;> cases hstep
    · exact .inl ⟨rfl, rfl, rfl, rfl, by simp [hpc, ReaderPc.left], rfl, rfl⟩
    · exact .inr ⟨len, n, hpc, by assumption, rfl⟩
  -- only the program counter and the semaphores move
  case h_7 len hpc =>
    cases hstep
    exact .inl ⟨rfl, rfl, rfl, rfl, by simp [hpc, ReaderPc.left], rfl, rfl⟩
  all_goals
    rename_i hpc
    split at hstep <;> cases hstep
    all_goals exact .inl ⟨rfl, rfl, rfl, rfl, by simp [hpc, ReaderPc.left], rfl, rfl⟩

theorem ChipFifo.write_cases (hstep : s.spiRamFifoWrite = some s') :
    SameBuffers s s' ∨
      ∃ len n, s.writer = .locked len n ∧ ¬ SpiBuff.spiRam.spiramSize - s.fifoFill < n ∧
        s' = s.writeChunk len n := by
  unfold ChipFifo.spiRamFifoWrite at hstep
  split at hstep
  case h_1 => cases hstep
  case h_4 len n hpc =>
    split at hstep <;> cases hstep
    · exact .inl ⟨rfl, rfl, rfl, rfl, fun h => ⟨h, rfl⟩, rfl, by simp [hpc, ChipWriterPc.left]⟩
    · exact .inr ⟨len, n, hpc, by assumption, rfl⟩
  case h_2 len hpc =>
    split at hstep <;> cases hstep
    · exact .inl ⟨rfl, rfl, rfl, rfl, fun h => ⟨h, rfl⟩, rfl, by simp [hpc, ChipWriterPc.left]⟩
    · have hdone : len.toNat = 0 := by omega
      exact .inl ⟨rfl, rfl, rfl, rfl, fun h => ⟨h, rfl⟩, rfl,
        by simp [hpc, ChipWriterPc.left, hdone]⟩
  case h_6 len hpc =>
    cases hstep
    exact .inl ⟨rfl, rfl, rfl, rfl, fun h => ⟨h, rfl⟩, rfl, by simp [hpc, ChipWriterPc.left]⟩
  all_goals
    rename_i hpc
    split at hstep <;> cases hstep
    exact .inl ⟨rfl, rfl, rfl, rfl, fun h => ⟨h, rfl⟩, rfl, by simp [hpc, ChipWriterPc.left]⟩

/-! ### The machine over the array -/

/-- The bytes still to be written, taken from the memory. -/
def ChipWriterPc.image (mem : Mem) (buff : ℕ) : ChipWriterPc → WriterPc
  | .idle => .idle
  | .chunk len => .chunk (segment mem buff len.toNat)
  | .lock len n => .lock (segment mem buff len.toNat) n
  | .locked len n => .locked (segment mem buff len.toNat) n
  | .waitCanWrite len n => .waitCanWrite (segment mem buff len.toNat) n
  | .giveCanRead len => .giveCanRead (segment mem buff len.toNat)

def ChipFifo.image (s : ChipFifo) : Fifo where
  fifoRpos := s.fifoRpos
  fifoWpos := s.fifoWpos
  fifoFill := s.fifoFill
  semCanRead := s.semCanRead
  semCanWrite := s.semCanWrite
  mux := s.mux
  fifoOvfCnt := s.fifoOvfCnt
  fifoUdrCnt := s.fifoUdrCnt
  spiram := chipImage s.spi.chip
  reader := s.reader
  readBuff := s.delivered.rtake (s.readBuff - s.readStart)
  writer := s.writer.image s.spi.mem s.writeBuff
  delivered := s.delivered
  passed := s.passed

structure ChipInv (s : ChipFifo) : Prop where
  image_inv : FifoInv .spiRam s.image
  start_le : s.readStart ≤ s.readBuff
  filled : s.reader ≠ .idle →
    segment s.spi.mem s.readStart (s.readBuff - s.readStart) =
      s.delivered.rtake (s.readBuff - s.readStart)
  apart : Disjoint (s.readCells 1) s.writeCells

theorem ChipWriterPc.image_congr {mem mem' : Mem} {buff : ℕ} (w : ChipWriterPc)
    (h : ∀ p ∈ Finset.Ico buff (buff + w.left.toNat), mem' p = mem p) :
    w.image mem' buff = w.image mem buff := by
  have hseg : segment mem' buff w.left.toNat = segment mem buff w.left.toNat := by
    apply segment_congr
    intro i hi
    exact h _ (Finset.mem_Ico.mpr (by omega))
  cases w with
  | idle => rfl
  | chunk len => exact congrArg _ hseg
  | lock len n => exact congrArg (WriterPc.lock · n) hseg
  | locked len n => exact congrArg (WriterPc.locked · n) hseg
  | waitCanWrite len n => exact congrArg (WriterPc.waitCanWrite · n) hseg
  | giveCanRead len => exact congrArg _ hseg

theorem ChipInv.reader_chunk (h : ChipInv s) {len n : ℤ} (hpc : s.reader = .locked len n) :
    1 ≤ n ∧ n ≤ 64 ∧ n ≤ len ∧ s.fifoRpos + n ≤ SpiBuff.spiRam.spiramSize :=
  h.image_inv.reader_bounds (by rw [ChipFifo.image, hpc, ReaderPc.current])

theorem ChipInv.writer_chunk (h : ChipInv s) {len n : ℤ} (hpc : s.writer = .locked len n) :
    1 ≤ n ∧ n ≤ 64 ∧ n ≤ len.toNat ∧ s.fifoWpos + n ≤ SpiBuff.spiRam.spiramSize := by
  have hbounds := h.image_inv.writer_bounds (n := n)
    (by rw [ChipFifo.image, hpc, ChipWriterPc.image, WriterPc.current])
  simpa only [ChipFifo.image, hpc, ChipWriterPc.image, WriterPc.rest, length_segment] using hbounds

/-- The cells that a chunk of the reader may store. -/
theorem ChipInv.mem_readCells (h : ChipInv s) {len n : ℤ} (hpc : s.reader = .locked len n)
    (hle : n ≤ len) {p : ℕ} (hp : ¬ (p < s.readBuff ∨ s.readBuff + n.toNat < p)) :
    p ∈ s.readCells 1 := by
  have hstart := h.start_le
  rw [ChipFifo.readCells, if_neg (by simp [hpc]), hpc, ReaderPc.left, Finset.mem_Ico]
  omega

/-- A chunk of the reader leaves the writer's cells alone. -/
theorem ChipInv.readChunk_mem (h : ChipInv s) {len n : ℤ} (hpc : s.reader = .locked len n) {p : ℕ}
    (hp : p ∉ s.readCells 1) : (s.readChunk rest len n).spi.mem p = s.spi.mem p := by
  obtain ⟨hn, h64, hlen, -⟩ := h.reader_chunk hpc
  apply spiRamRead_frame _ _ hn h64
  by_contra hout
  exact hp (h.mem_readCells hpc hlen hout)

/-- The last bytes delivered are those of the call. -/
theorem ChipFifo.rtake_readChunk (hstart : s.readStart ≤ s.readBuff) (len n : ℤ) :
    (s.readChunk rest len n).delivered.rtake (s.readBuff + n.toNat - s.readStart) =
      s.delivered.rtake (s.readBuff - s.readStart) ++
        segment (s.readChunk rest len n).spi.mem s.readBuff n.toNat := by
  have hgrown : s.readBuff + n.toNat - s.readStart = s.readBuff - s.readStart +
      (segment (s.readChunk rest len n).spi.mem s.readBuff n.toNat).length := by
    rw [length_segment]
    omega
  rw [hgrown]
  exact rtake_append_add _ _ _

/-- Reading a chunk is reading it from the array. -/
theorem ChipInv.image_readChunk (h : ChipInv s) {len n : ℤ} (hpc : s.reader = .locked len n) :
    (s.readChunk rest len n).image = { s.image with
      readBuff := s.image.readBuff ++ spiRamRead s.image.spiram s.fifoRpos n
      delivered := s.delivered ++ spiRamRead s.image.spiram s.fifoRpos n
      fifoFill := s.fifoFill - n
      fifoRpos := advancePos .spiRam s.fifoRpos n
      mux := true
      reader := .giveCanWrite (len - n) } := by
  obtain ⟨hn, h64, -, hend⟩ := h.reader_chunk hpc
  have hchunk : segment (s.readChunk rest len n).spi.mem s.readBuff n.toNat =
      spiRamRead s.image.spiram s.fifoRpos n :=
    spiRamRead_image s.spi s.readBuff h.image_inv.rpos_nonneg hn h64 hend rest
  have hbuff : (s.readChunk rest len n).delivered.rtake (s.readBuff + n.toNat - s.readStart) =
      s.image.readBuff ++ spiRamRead s.image.spiram s.fifoRpos n := by
    rw [ChipFifo.rtake_readChunk h.start_le, hchunk]
    rfl
  have hwriter : s.writer.image (s.readChunk rest len n).spi.mem s.writeBuff =
      s.writer.image s.spi.mem s.writeBuff := by
    apply ChipWriterPc.image_congr
    intro p hp
    exact h.readChunk_mem hpc (Finset.disjoint_right.mp h.apart hp)
  have hdelivered : (s.readChunk rest len n).delivered =
      s.delivered ++ spiRamRead s.image.spiram s.fifoRpos n := congrArg (s.delivered ++ ·) hchunk
  rw [ChipFifo.image, Fifo.mk.injEq]
  exact ⟨rfl, rfl, rfl, rfl, rfl, rfl, rfl, rfl, rfl, rfl, hbuff, hwriter, hdelivered, rfl⟩

theorem ChipInv.image_read (h : ChipInv s) (hstep : s.spiRamFifoRead rest = some s') :
    spiRamFifoRead .spiRam s.image = some s'.image := by
  unfold ChipFifo.spiRamFifoRead at hstep
  split at hstep
  case h_1 => cases hstep
  case h_4 len n hpc =>
    split at hstep <;> cases hstep
    · simp [spiRamFifoRead, ChipFifo.image, *]
    · rw [h.image_readChunk hpc]
      simp [spiRamFifoRead, ChipFifo.image, *]
  case h_7 len hpc =>
    cases hstep
    simp [spiRamFifoRead, ChipFifo.image, *]
  all_goals
    split at hstep <;> cases hstep
    all_goals simp [spiRamFifoRead, ChipFifo.image, *]

/-- Writing a chunk is writing it to the array. -/
theorem ChipInv.image_writeChunk (h : ChipInv s) {len n : ℤ} (hpc : s.writer = .locked len n) :
    (s.writeChunk len n).image = { s.image with
      spiram := spiRamWrite s.image.spiram s.fifoWpos (segment s.spi.mem s.writeBuff len.toNat) n
      fifoFill := s.fifoFill + n
      fifoWpos := advancePos .spiRam s.fifoWpos n
      mux := true
      writer := .giveCanRead ((segment s.spi.mem s.writeBuff len.toNat).drop n.toNat) } := by
  obtain ⟨hn, h64, hlen, hend⟩ := h.writer_chunk hpc
  have hchip := spiRamWrite_image s.spi s.writeBuff h.image_inv.wpos_nonneg hn h64 hend hlen
  have hrest : (s.writeChunk len n).writer.image (s.writeChunk len n).spi.mem
      (s.writeChunk len n).writeBuff =
        .giveCanRead ((segment s.spi.mem s.writeBuff len.toNat).drop n.toNat) := by
    have hleft : (len - n).toNat = len.toNat - n.toNat := by omega
    rw [drop_segment s.spi.mem s.writeBuff (by omega), ← hleft]
    rfl
  rw [ChipFifo.image, Fifo.mk.injEq]
  exact ⟨rfl, rfl, rfl, rfl, rfl, rfl, rfl, rfl, hchip, rfl, rfl, hrest, rfl, rfl⟩

theorem ChipInv.image_write (h : ChipInv s) (hstep : s.spiRamFifoWrite = some s') :
    spiRamFifoWrite .spiRam s.image = some s'.image := by
  unfold ChipFifo.spiRamFifoWrite at hstep
  split at hstep
  case h_1 => cases hstep
  case h_2 len hpc =>
    split at hstep <;> cases hstep
    · have hlen : ((len.toNat : ℕ) : ℤ) = len := Int.toNat_of_nonneg (by omega)
      simp [spiRamFifoWrite, ChipFifo.image, ChipWriterPc.image, *]
    · have hdone : len.toNat = 0 := by omega
      simp [spiRamFifoWrite, ChipFifo.image, ChipWriterPc.image, *]
  case h_4 len n hpc =>
    split at hstep <;> cases hstep
    · simp [spiRamFifoWrite, ChipFifo.image, ChipWriterPc.image, *]
    · rw [h.image_writeChunk hpc]
      simp [spiRamFifoWrite, ChipFifo.image, ChipWriterPc.image, *]
  case h_6 len hpc =>
    cases hstep
    simp [spiRamFifoWrite, ChipFifo.image, ChipWriterPc.image, *]
  all_goals
    split at hstep <;> cases hstep
    all_goals simp [spiRamFifoWrite, ChipFifo.image, ChipWriterPc.image, *]

/-! ### Runs -/

theorem ChipInv.same (h : ChipInv s) (hs : SameBuffers s s') (hfifo : FifoInv .spiRam s'.image) :
    ChipInv s' where
  image_inv := hfifo
  start_le := by
    rw [hs.readStart, hs.readBuff]
    exact h.start_le
  filled hbusy := by
    rw [hs.mem, hs.readStart, hs.readBuff, hs.delivered]
    exact h.filled (hs.reader hbusy).1
  apart := by
    have hwrite : s'.writeCells = s.writeCells := by
      rw [ChipFifo.writeCells, ChipFifo.writeCells, hs.writeBuff, hs.writer]
    have hread : s'.readCells 1 ⊆ s.readCells 1 := by
      by_cases hidle : s'.reader = .idle
      · rw [ChipFifo.readCells, if_pos hidle]
        exact Finset.empty_subset _
      · obtain ⟨hbusy, hleft⟩ := hs.reader hidle
        rw [ChipFifo.readCells, ChipFifo.readCells, if_neg hidle, if_neg hbusy, hs.readStart,
          hs.readBuff, hleft]
    rw [hwrite]
    exact h.apart.mono_left hread

theorem ChipInv.read_step (h : ChipInv s) (hstep : s.spiRamFifoRead rest = some s') :
    ChipInv s' := by
  have hfifo := h.image_inv.reader_step (h.image_read hstep)
  obtain hs | ⟨len, n, hpc, -, rfl⟩ := ChipFifo.read_cases hstep
  · exact h.same hs hfifo
  obtain ⟨hn, h64, hlen, -⟩ := h.reader_chunk hpc
  have hstart := h.start_le
  have hbusy : s.reader ≠ .idle := by simp [hpc]
  refine ⟨hfifo, Nat.le_add_right_of_le hstart, fun _ => ?_, ?_⟩
  · have hgrown : s.readBuff + n.toNat - s.readStart = s.readBuff - s.readStart + n.toNat := by
      omega
    have hkept : segment (s.readChunk rest len n).spi.mem s.readStart (s.readBuff - s.readStart) =
        s.delivered.rtake (s.readBuff - s.readStart) := by
      rw [← h.filled hbusy]
      apply segment_congr
      intro i hi
      exact spiRamRead_frame _ _ hn h64 _ _ (.inl (by omega))
    refine Eq.trans ?_ (ChipFifo.rtake_readChunk hstart len n).symm
    show segment _ s.readStart (s.readBuff + n.toNat - s.readStart) = _
    rw [hgrown, segment_add, hkept, Nat.add_sub_cancel' hstart]
  · have hcells : (s.readChunk rest len n).readCells 1 = s.readCells 1 := by
      rw [ChipFifo.readCells, ChipFifo.readCells, if_neg hbusy, hpc]
      have hend : s.readBuff + n.toNat + (len - n).toNat = s.readBuff + len.toNat := by omega
      simp only [ChipFifo.readChunk, ReaderPc.left, hend, reduceCtorEq, if_false]
    rw [hcells]
    exact h.apart

theorem ChipInv.write_step (h : ChipInv s) (hstep : s.spiRamFifoWrite = some s') : ChipInv s' := by
  have hfifo := h.image_inv.writer_step (h.image_write hstep)
  obtain hs | ⟨len, n, hpc, -, rfl⟩ := ChipFifo.write_cases hstep
  · exact h.same hs hfifo
  obtain ⟨hn, -, hlen, -⟩ := h.writer_chunk hpc
  refine ⟨hfifo, h.start_le, h.filled, h.apart.mono_right ?_⟩
  intro p hp
  simp only [ChipFifo.writeCells, ChipFifo.writeChunk, ChipWriterPc.left, hpc,
    Finset.mem_Ico] at hp ⊢
  omega

theorem ChipInv.call_read (h : ChipInv s) {buff : ℕ} {len : ℤ}
    (hstep : s.callRead buff len = some s') :
    callRead len s.image = some s'.image ∧ ChipInv s' := by
  unfold ChipFifo.callRead at hstep
  split at hstep <;> cases hstep
  rename_i hcall
  have himage : callRead len s.image = some
      (ChipFifo.image { s with reader := .chunk len, readBuff := buff, readStart := buff }) := by
    rw [callRead, if_pos (by exact hcall.1)]
    simp [ChipFifo.image, List.rtake]
  refine ⟨himage, h.image_inv.call_read himage, Nat.le_refl _, fun _ => ?_, ?_⟩
  · simp [List.rtake]
  · exact hcall.2

theorem ChipInv.call_write (h : ChipInv s) {buff : ℕ} {len : ℤ}
    (hstep : s.callWrite buff len = some s') :
    callWrite (segment s.spi.mem buff len.toNat) s.image = some s'.image ∧ ChipInv s' := by
  unfold ChipFifo.callWrite at hstep
  split at hstep <;> cases hstep
  rename_i hcall
  have himage : callWrite (segment s.spi.mem buff len.toNat) s.image = some
      (ChipFifo.image { s with
        writer := .chunk len
        writeBuff := buff
        passed := s.passed ++ segment s.spi.mem buff len.toNat }) := by
    rw [callWrite, if_pos (by rw [ChipFifo.image, hcall.1]; rfl)]
    rfl
  exact ⟨himage, h.image_inv.call_write himage, h.start_le, h.filled, hcall.2⟩

theorem ChipInv.store (h : ChipInv s) {p : ℕ} {v : UInt8} (hstep : s.store p v = some s') :
    s'.image = s.image ∧ ChipInv s' := by
  unfold ChipFifo.store at hstep
  split at hstep <;> cases hstep
  rename_i hout
  have hkept : ∀ q, q ≠ p → Function.update s.spi.mem p v q = s.spi.mem q := fun q hq =>
    Function.update_of_ne hq _ _
  have hwriter : s.writer.image (Function.update s.spi.mem p v) s.writeBuff =
      s.writer.image s.spi.mem s.writeBuff := by
    apply ChipWriterPc.image_congr
    intro q hq
    refine hkept q ?_
    rintro rfl
    exact hout.2 hq
  have himage : ChipFifo.image { s with
      spi := { s.spi with mem := Function.update s.spi.mem p v } } = s.image := by
    rw [ChipFifo.image, hwriter]
    rfl
  have hfilled : s.reader ≠ .idle →
      segment (Function.update s.spi.mem p v) s.readStart (s.readBuff - s.readStart) =
        segment s.spi.mem s.readStart (s.readBuff - s.readStart) := by
    intro hbusy
    apply segment_congr
    intro i hi
    refine hkept _ ?_
    rintro rfl
    apply hout.1
    rw [ChipFifo.readCells, if_neg hbusy, Finset.mem_Ico]
    omega
  exact ⟨himage, himage ▸ h.image_inv, h.start_le,
    fun hbusy => (hfilled hbusy).trans (h.filled hbusy), h.apart⟩

theorem ChipInv.step (h : ChipInv s) {spi : SpiRam} {a : ChipFifoAct}
    (hstep : (chipFifo spi).step s a = some s') :
    ChipInv s' ∧
      (s'.image = s.image ∨
        ∃ b, ∀ ram, (fifo .spiRam ram).step s.image b = some s'.image) := by
  cases a with
  | callRead buff len =>
    obtain ⟨himage, hinv⟩ := h.call_read hstep
    exact ⟨hinv, .inr ⟨.callRead len, fun _ => himage⟩⟩
  | callWrite buff len =>
    obtain ⟨himage, hinv⟩ := h.call_write hstep
    exact ⟨hinv, .inr ⟨.callWrite (segment s.spi.mem buff len.toNat), fun _ => himage⟩⟩
  | reader rest => exact ⟨h.read_step hstep, .inr ⟨.reader, fun _ => h.image_read hstep⟩⟩
  | writer => exact ⟨h.write_step hstep, .inr ⟨.writer, fun _ => h.image_write hstep⟩⟩
  | store p v =>
    obtain ⟨himage, hinv⟩ := h.store hstep
    exact ⟨hinv, .inl himage⟩

theorem chipFifo_invariant (spi : SpiRam) : (chipFifo spi).Invariant ChipInv where
  init := ⟨fifoInv_init .spiRam (chipImage spi.chip), Nat.le_refl _, fun h => absurd rfl h,
    Finset.disjoint_empty_left _⟩
  step h _ hstep := (h.step hstep).1

/-- Each step over the driver is one over the array, or none. -/
theorem chipFifo_simulates (spi : SpiRam) :
    Machine.Simulation (chipFifo spi) (fifo .spiRam (chipImage spi.chip)) ChipInv
      ChipFifo.image where
  init := rfl
  step h hstep := by
    obtain ⟨-, hsame | ⟨b, hb⟩⟩ := h.step hstep
    · exact ⟨[], hsame⟩
    · exact ⟨[b], (Machine.move_of_step _ (hb _)).symm⟩

/-- A task stores nothing but the chunks of the reader and the byte behind each. -/
theorem ChipInv.move_mem (h : ChipInv s) (spi : SpiRam) {p : ℕ} (hp : p ∉ s.readCells 1) :
    ((chipFifo spi).move s (.reader rest)).spi.mem p = s.spi.mem p ∧
      ((chipFifo spi).move s .writer).spi.mem p = s.spi.mem p := by
  constructor
  · cases hstep : (chipFifo spi).step s (.reader rest) with
    | none => rw [(chipFifo spi).move_of_blocked hstep]
    | some s' =>
      rw [(chipFifo spi).move_of_step hstep]
      obtain hs | ⟨len, n, hpc, -, rfl⟩ := ChipFifo.read_cases hstep
      · rw [hs.mem]
      · exact h.readChunk_mem hpc hp
  · cases hstep : (chipFifo spi).step s .writer with
    | none => rw [(chipFifo spi).move_of_blocked hstep]
    | some s' =>
      rw [(chipFifo spi).move_of_step hstep]
      obtain hs | ⟨len, n, -, -, rfl⟩ := ChipFifo.write_cases hstep
      · rw [hs.mem]
      · rfl

/-- **The FIFO over the driver refines the FIFO over an array.**  After every schedule, what the
reader's buffers were given is a prefix of what stood in the writer's; the buffer of a call in
progress holds the bytes given last; and the next step of either task stores into no cell but those
of that buffer and the one behind it. -/
theorem chipFifo_refines_fifo (spi : SpiRam) (acts : List ChipFifoAct) :
    let s := (chipFifo spi).run acts
    (∃ bs, s.image = (fifo .spiRam (chipImage spi.chip)).run bs) ∧
      s.delivered <+: s.passed ∧
      (s.reader ≠ .idle → s.readStart ≤ s.readBuff ∧
        segment s.spi.mem s.readStart (s.readBuff - s.readStart) =
          s.delivered.rtake (s.readBuff - s.readStart)) ∧
      (∀ p ∉ s.readCells 1, ∀ rest,
        ((chipFifo spi).move s (.reader rest)).spi.mem p = s.spi.mem p ∧
          ((chipFifo spi).move s .writer).spi.mem p = s.spi.mem p) := by
  intro s
  have h : ChipInv s := Machine.Invariant.run (chipFifo_invariant spi) acts
  refine ⟨(chipFifo_simulates spi).run (chipFifo_invariant spi) acts, ?_,
    fun hbusy => ⟨h.start_le, h.filled hbusy⟩, fun p hp rest => h.move_mem spi hp⟩
  exact ⟨s.image.stored .spiRam ++ s.image.writer.rest, by
    rw [← List.append_assoc]
    exact h.image_inv.accounted.symm⟩

/-- Two bytes of `twoBytes` go through the chip, and a third one comes behind them. -/
theorem chipFifo_passes_twoBytes :
    let s := (chipFifo twoBytes).run ([.callWrite 0x100 2, .callRead 0x200 2] ++
      List.replicate 6 .writer ++ List.replicate 6 (.reader fun _ => 7))
    s.delivered <+: s.passed ∧ s.delivered = [0x55, 0xff] ∧
      segment s.spi.mem 0x200 4 = [0x55, 0xff, 7, 0] :=
  ⟨(chipFifo_refines_fifo twoBytes _).2.1, by decide +kernel⟩

end Mp3Decoder
