import Mp3Decoder.Lib.Schedule
import Mp3Decoder.Lib.RingWindow

/-!
# The byte FIFO in SPI RAM (`spiram_fifo.c`)

One task writes and one task reads.  Both cut their calls into chunks of at most `SPIREADSIZE`
bytes that do not cross the end of the RAM, move one chunk at a time under `mux`, and wait on a
binary semaphore of their own when the FIFO is too full or too empty for the chunk.

A task's program counter names the point between two of its synchronisation operations; the code
between two of them is one step.  `delivered` and `passed` are ghost records of every byte handed
to a reader's buffer and of every byte given to `spiRamFifoWrite`.  The RAM is an array of bytes.
The event counters are `long`s that nothing else depends on and are kept as integers.
-/

namespace Mp3Decoder

open RingWindow

/-- The two buffers the code can be built with: the SPI RAM chip, or, with `FAKE_SPI_BUFF`, an
internal array. -/
inductive SpiBuff
  | spiRam
  | fakeSpiBuff
  deriving DecidableEq, Repr

def SpiBuff.spiramSize : SpiBuff → ℤ
  | .spiRam => 128 * 1024
  | .fakeSpiBuff => 1850

def spiReadSize : ℤ := 64

def fifoLowmark : ℤ := 112 * 1024

/-- Where `spiRamFifoRead(buff, len)` stands.  `len` is what is left of the call, `n` the chunk. -/
inductive ReaderPc
  | idle
  | chunk (len : ℤ)
  | lock (len n : ℤ)
  | locked (len n : ℤ)
  | lowmark (len n : ℤ)
  | waitCanRead (len n : ℤ)
  | giveCanWrite (len : ℤ)
  deriving DecidableEq, Repr

/-- Where `spiRamFifoWrite(buff, len)` stands; `buff` holds the bytes still to be written. -/
inductive WriterPc
  | idle
  | chunk (buff : List UInt8)
  | lock (buff : List UInt8) (n : ℤ)
  | locked (buff : List UInt8) (n : ℤ)
  | waitCanWrite (buff : List UInt8) (n : ℤ)
  | giveCanRead (buff : List UInt8)
  deriving DecidableEq, Repr

structure Fifo where
  fifoRpos : ℤ
  fifoWpos : ℤ
  fifoFill : ℤ
  semCanRead : Bool
  semCanWrite : Bool
  /-- the mutex is free -/
  mux : Bool
  fifoOvfCnt : ℤ
  fifoUdrCnt : ℤ
  spiram : ℤ → UInt8
  reader : ReaderPc
  /-- what the current or last `spiRamFifoRead` has stored at `buff` -/
  readBuff : List UInt8
  writer : WriterPc
  delivered : List UInt8
  passed : List UInt8

/-- `vSemaphoreCreateBinary` gives both semaphores; the RAM holds whatever `spiRamTest` left. -/
def spiRamFifoInit (ram : ℤ → UInt8) : Fifo where
  fifoRpos := 0
  fifoWpos := 0
  fifoFill := 0
  semCanRead := true
  semCanWrite := true
  mux := true
  fifoOvfCnt := 0
  fifoUdrCnt := 0
  spiram := ram
  reader := .idle
  readBuff := []
  writer := .idle
  delivered := []
  passed := []

/-- The chunk: no more than `SPIREADSIZE`, and not past the end of the RAM. -/
def chunkSize (b : SpiBuff) (len pos : ℤ) : ℤ :=
  let n := if len > spiReadSize then spiReadSize else len
  if n > b.spiramSize - pos then b.spiramSize - pos else n

/-- `pos += n; if (pos >= SPIRAMSIZE) pos = 0;` -/
def advancePos (b : SpiBuff) (pos n : ℤ) : ℤ :=
  if pos + n ≥ b.spiramSize then 0 else pos + n

def spiRamRead (ram : ℤ → UInt8) (addr n : ℤ) : List UInt8 := slice ram addr n.toNat

def spiRamWrite (ram : ℤ → UInt8) (addr : ℤ) (buff : List UInt8) (n : ℤ) : ℤ → UInt8 :=
  blit ram addr (buff.take n.toNat)

/-- One step of the task in `spiRamFifoRead`. -/
def spiRamFifoRead (b : SpiBuff) (s : Fifo) : Option Fifo :=
  match s.reader with
  | .idle => none
  | .chunk len =>
    if len > 0 then some { s with reader := .lock len (chunkSize b len s.fifoRpos) }
    else some { s with reader := .idle }
  | .lock len n => if s.mux then some { s with mux := false, reader := .locked len n } else none
  | .locked len n =>
    if s.fifoFill < n then
      some { s with fifoUdrCnt := s.fifoUdrCnt + 1, mux := true, reader := .lowmark len n }
    else
      some { s with
        readBuff := s.readBuff ++ spiRamRead s.spiram s.fifoRpos n
        delivered := s.delivered ++ spiRamRead s.spiram s.fifoRpos n
        fifoFill := s.fifoFill - n
        fifoRpos := advancePos b s.fifoRpos n
        mux := true
        reader := .giveCanWrite (len - n) }
  | .lowmark len n =>
    -- `fifoFill` is read again here without the mutex
    if s.fifoFill < fifoLowmark then some { s with reader := .waitCanRead len n }
    else some { s with reader := .chunk len }
  | .waitCanRead len _ =>
    if s.semCanRead then some { s with semCanRead := false, reader := .chunk len } else none
  | .giveCanWrite len => some { s with semCanWrite := true, reader := .chunk len }

/-- One step of the task in `spiRamFifoWrite`. -/
def spiRamFifoWrite (b : SpiBuff) (s : Fifo) : Option Fifo :=
  match s.writer with
  | .idle => none
  | .chunk buff =>
    if (buff.length : ℤ) > 0 then
      some { s with writer := .lock buff (chunkSize b buff.length s.fifoWpos) }
    else some { s with writer := .idle }
  | .lock buff n => if s.mux then some { s with mux := false, writer := .locked buff n } else none
  | .locked buff n =>
    if b.spiramSize - s.fifoFill < n then
      some { s with fifoOvfCnt := s.fifoOvfCnt + 1, mux := true, writer := .waitCanWrite buff n }
    else
      some { s with
        spiram := spiRamWrite s.spiram s.fifoWpos buff n
        fifoFill := s.fifoFill + n
        fifoWpos := advancePos b s.fifoWpos n
        mux := true
        writer := .giveCanRead (buff.drop n.toNat) }
  | .waitCanWrite buff _ =>
    if s.semCanWrite then some { s with semCanWrite := false, writer := .chunk buff } else none
  | .giveCanRead buff => some { s with semCanRead := true, writer := .chunk buff }

/-- `spiRamFifoFill`: the fill under the mutex, `none` while the other task holds it. -/
def spiRamFifoFill (s : Fifo) : Option ℤ := if s.mux then some s.fifoFill else none

inductive FifoAct
  | callRead (len : ℤ)
  | callWrite (buff : List UInt8)
  | reader
  | writer

def callRead (len : ℤ) (s : Fifo) : Option Fifo :=
  if s.reader = .idle then some { s with reader := .chunk len, readBuff := [] } else none

def callWrite (buff : List UInt8) (s : Fifo) : Option Fifo :=
  if s.writer = .idle then some { s with writer := .chunk buff, passed := s.passed ++ buff }
  else none

/-- The FIFO with one reader and one writer: any calls, any interleaving. -/
def fifo (b : SpiBuff) (ram : ℤ → UInt8) : Schedule.Machine Fifo FifoAct where
  init := spiRamFifoInit ram
  step s
    | .callRead len => callRead len s
    | .callWrite buff => callWrite buff s
    | .reader => spiRamFifoRead b s
    | .writer => spiRamFifoWrite b s

theorem spiramSize_pos (b : SpiBuff) : 128 < b.spiramSize := by cases b <;> decide

theorem chunkSize_bounds {b : SpiBuff} {len pos : ℤ} (hlen : 0 < len) (hpos : pos < b.spiramSize) :
    1 ≤ chunkSize b len pos ∧ chunkSize b len pos ≤ 64 ∧ chunkSize b len pos ≤ len ∧
      pos + chunkSize b len pos ≤ b.spiramSize := by
  simp only [chunkSize, spiReadSize]
  split_ifs <;> omega

theorem advancePos_eq {b : SpiBuff} {pos n : ℤ} (h0 : 0 ≤ pos) (hn : 0 ≤ n)
    (hend : pos + n ≤ b.spiramSize) : advancePos b pos n = (pos + n) % b.spiramSize := by
  have := spiramSize_pos b
  rw [advancePos]
  split_ifs with h
  · rw [le_antisymm hend h, Int.emod_self]
  · rw [Int.emod_eq_of_lt (by omega) (by omega)]

end Mp3Decoder
