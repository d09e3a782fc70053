import Mp3Decoder.Lib.Schedule
import Mp3Decoder.Lib.BoundedQueue
import Mathlib.Data.Int.Notation
import Mathlib.Logic.Function.Basic

/-!
# I2S output through a ring of DMA buffers (`i2s_freertos.c`)

The DMA sends the buffers of `I2SDMABUFCNT` descriptors in ring order and raises an EOF interrupt
after the last word of each.  `slc_isr` hands the finished buffer to the writer through
`dmaQueue`; `i2sPushSample` takes buffers from the queue and fills them.

`i2s` moves one word, one interrupt or one half of a push at a time; an interrupt may be handled
any time before the next EOF.  `dmaRing` is the queue traffic alone, with each interrupt handled
at its EOF; `i2s_refines_dmaRing` replays the first in the second.
-/

namespace Mp3Decoder

open Schedule

def i2sDmaBufCnt : ℕ := 14

def i2sDmaBufLen : ℕ := 32 * 2

/-- `xQueueCreate(I2SDMABUFCNT-1, sizeof(int*))`, holding descriptor numbers. -/
abbrev DmaQueue := BoundedQueue ℕ (i2sDmaBufCnt - 1)

/-- `next_link_ptr` of a descriptor. -/
def nextLink (x : ℕ) : ℕ := if x < i2sDmaBufCnt - 1 then x + 1 else 0

/-- `slc_isr` on an EOF of `finishedDesc`: the new queue and `underrunCnt`. -/
def slcIsr (dmaQueue : DmaQueue) (underrunCnt : ℤ) (finishedDesc : ℕ) : DmaQueue × ℤ :=
  if dmaQueue.isFull then (dmaQueue.dropFront.send finishedDesc, underrunCnt + 1)
  else (dmaQueue.send finishedDesc, underrunCnt)

/-! ### The queue traffic -/

structure DmaRing where
  dmaQueue : DmaQueue
  underrunCnt : ℤ
  sending : ℕ
  /-- the descriptors finished so far, in order -/
  finished : List ℕ

inductive RingAct
  | eof
  | pop
  deriving DecidableEq, Repr

def dmaRing : Machine DmaRing RingAct where
  init := ⟨.empty, 0, 0, []⟩
  step s
    | .eof =>
      let r := slcIsr s.dmaQueue s.underrunCnt s.sending
      some ⟨r.1, r.2, nextLink s.sending, s.finished ++ [s.sending]⟩
    | .pop =>
      if s.dmaQueue.front.isSome then some { s with dmaQueue := s.dmaQueue.dropFront } else none

/-! ### Words, interrupts and pushes -/

structure I2s where
  dmaQueue : DmaQueue
  underrunCnt : ℤ
  i2sBuf : ℕ → ℕ → UInt32
  sending : ℕ
  sendPos : ℕ
  /-- the descriptor of an EOF that `slc_isr` has not handled yet -/
  eofDesc : Option ℕ
  currDMABuff : Option ℕ
  currDMABuffPos : ℕ
  /-- the sample of the `i2sPushSample` call in progress -/
  pushing : Option UInt32
  sent : List UInt32
  pushed : List UInt32
  finished : List ℕ

/-- After `i2sInit`: cleared buffers, an empty queue, the DMA about to send descriptor 0. -/
def i2sInit : I2s where
  dmaQueue := .empty
  underrunCnt := 0
  i2sBuf := fun _ _ => 0
  sending := 0
  sendPos := 0
  eofDesc := none
  currDMABuff := none
  currDMABuffPos := 0
  pushing := none
  sent := []
  pushed := []
  finished := []

/-- The DMA sends one word; after the last one it raises EOF and follows the link.  It does not
finish a buffer while an earlier EOF is still unhandled. -/
def dmaWord (s : I2s) : Option I2s :=
  let sent := s.sent ++ [s.i2sBuf s.sending s.sendPos]
  if s.sendPos + 1 < i2sDmaBufLen then some { s with sent := sent, sendPos := s.sendPos + 1 }
  else if s.eofDesc.isSome then none
  else some { s with
    sent := sent, sendPos := 0, sending := nextLink s.sending, eofDesc := some s.sending }

def handleEof (s : I2s) : Option I2s :=
  match s.eofDesc with
  | none => none
  | some finishedDesc =>
    let r := slcIsr s.dmaQueue s.underrunCnt finishedDesc
    some { s with
      dmaQueue := r.1, underrunCnt := r.2, eofDesc := none
      finished := s.finished ++ [finishedDesc] }

/-- One step of `i2sPushSample(sample)`: take a new buffer when there is none or it is full, and
otherwise store the sample. -/
def i2sPushSample (s : I2s) : Option I2s :=
  match s.pushing with
  | none => none
  | some sample =>
    match s.currDMABuff with
    | none =>
      match s.dmaQueue.front with
      | none => none
      | some y => some { s with
          dmaQueue := s.dmaQueue.dropFront, currDMABuff := some y, currDMABuffPos := 0 }
    | some y =>
      if s.currDMABuffPos = i2sDmaBufLen then
        match s.dmaQueue.front with
        | none => none
        | some z => some { s with
            dmaQueue := s.dmaQueue.dropFront, currDMABuff := some z, currDMABuffPos := 0 }
      else
        some { s with
          i2sBuf := Function.update s.i2sBuf y
            (Function.update (s.i2sBuf y) s.currDMABuffPos sample)
          currDMABuffPos := s.currDMABuffPos + 1
          pushing := none
          pushed := s.pushed ++ [sample] }

inductive I2sAct
  | word
  | isr
  | callPush (sample : UInt32)
  | push
  deriving DecidableEq, Repr

def i2s : Machine I2s I2sAct where
  init := i2sInit
  step s
    | .word => dmaWord s
    | .isr => handleEof s
    | .callPush sample => if s.pushing = none then some { s with pushing := some sample } else none
    | .push => i2sPushSample s

/-- The buffer the next step of `i2sPushSample` stores its sample in, when it stores one. -/
def pushTarget (s : I2s) : Option ℕ :=
  if s.pushing.isSome ∧ s.currDMABuffPos ≠ i2sDmaBufLen then s.currDMABuff else none

end Mp3Decoder
