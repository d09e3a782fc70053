import Mp3Decoder.Driver.I2sQueue
import Mathlib.Tactic.Ring

/-!
# The words the DMA sends

`dmaQueue` is one shorter than the ring so that the buffer being sent is out of reach of the
writer, and `underrunCnt` counts the EOFs that find it full.  But `i2sPushSample` also holds a
buffer outside the queue.  When an EOF comes while 12 buffers are queued and the held one still
lacks words, the DMA moves on to the held buffer and no underrun is counted.

As long as that does not happen the DMA sends the initial zeros and then the pushed samples.  The
invariant numbers the words: word `w` belongs to place `w % 64` of buffer `w / 64 % 14`.
-/

namespace Mp3Decoder

open Schedule

/-! ### Replaying the queue traffic -/

/-- The EOFs raised, handled or not. -/
def I2s.eofs (s : I2s) : ℕ := s.finished.length + if s.eofDesc.isSome then 1 else 0

/-- The queue traffic of a state, with an unhandled EOF still to come. -/
def I2s.ring (s : I2s) : DmaRing :=
  ⟨s.dmaQueue, s.underrunCnt, s.finished.length % i2sDmaBufCnt, s.finished⟩

structure EofInv (s : I2s) : Prop where
  sending_eq : s.sending = s.eofs % i2sDmaBufCnt
  eofDesc_eq : ∀ d, s.eofDesc = some d → d = s.finished.length % i2sDmaBufCnt
  sendPos_lt : s.sendPos < i2sDmaBufLen

/-- The ways a push can move: take the front buffer of the queue, or store the sample. -/
theorem i2sPushSample_cases {s s' : I2s} (h : i2sPushSample s = some s') :
    (∃ y, s.dmaQueue.front = some y ∧ (s.currDMABuff = none ∨ s.currDMABuffPos = i2sDmaBufLen) ∧
      s' = { s with
        dmaQueue := s.dmaQueue.dropFront, currDMABuff := some y, currDMABuffPos := 0 }) ∨
    (∃ sample y, s.pushing = some sample ∧ s.currDMABuff = some y ∧
      s.currDMABuffPos ≠ i2sDmaBufLen ∧
      s' = { s with
        i2sBuf := Function.update s.i2sBuf y
          (Function.update (s.i2sBuf y) s.currDMABuffPos sample)
        currDMABuffPos := s.currDMABuffPos + 1
        pushing := none
        pushed := s.pushed ++ [sample] }) := by
  unfold i2sPushSample at h
  split at h
  case h_1 => cases h
  case h_2 sample hpushing =>
    split at h
    case h_1 hcurr =>
      split at h <;> cases h
      rename_i y hfront
      exact .inl ⟨y, hfront, .inl hcurr, rfl⟩
    case h_2 y hcurr =>
      split at h
      case isTrue hpos =>
        split at h <;> cases h
        rename_i z hfront
        exact .inl ⟨z, hfront, .inr hpos, rfl⟩
      case isFalse hpos =>
        cases h
        exact .inr ⟨sample, y, hpushing, hcurr, hpos, rfl⟩

theorem dmaWord_cases {s s' : I2s} (h : dmaWord s = some s') :
    (s.sendPos + 1 < i2sDmaBufLen ∧
      s' = { s with
        sent := s.sent ++ [s.i2sBuf s.sending s.sendPos], sendPos := s.sendPos + 1 }) ∨
    (¬ s.sendPos + 1 < i2sDmaBufLen ∧ s.eofDesc = none ∧
      s' = { s with
        sent := s.sent ++ [s.i2sBuf s.sending s.sendPos], sendPos := 0
        sending := nextLink s.sending, eofDesc := some s.sending }) := by
  unfold dmaWord at h
  split at h
  case isTrue hpos =>
    cases h
    exact .inl ⟨hpos, rfl⟩
  case isFalse hpos =>
    split at h <;> cases h
    rename_i heof
    exact .inr ⟨hpos, by simpa using heof, rfl⟩

theorem handleEof_cases {s s' : I2s} (h : handleEof s = some s') :
    ∃ d, s.eofDesc = some d ∧
      s' = { s with
        dmaQueue := (slcIsr s.dmaQueue s.underrunCnt d).1
        underrunCnt := (slcIsr s.dmaQueue s.underrunCnt d).2
        eofDesc := none
        finished := s.finished ++ [d] } := by
  unfold handleEof at h
  split at h <;> cases h
  rename_i d heof
  exact ⟨d, heof, rfl⟩

theorem callPush_cases {s s' : I2s} {sample : UInt32}
    (h : i2s.step s (.callPush sample) = some s') : s' = { s with pushing := some sample } := by
  simp only [i2s] at h
  split at h <;> cases h
  rfl

theorem eof_invariant : i2s.Invariant EofInv where
  init := ⟨rfl, by rintro d ⟨⟩, by decide⟩
  step {s a s'} h _ hstep := by
    obtain ⟨hsend, hdesc, hpos⟩ := h
    cases a with
    | word =>
      rcases dmaWord_cases hstep with ⟨hlt, rfl⟩ | ⟨-, heof, rfl⟩
      · exact ⟨hsend, hdesc, hlt⟩
      · simp only [I2s.eofs, heof, Option.isSome_none, Bool.false_eq_true, if_false,
          Nat.add_zero] at hsend
        refine ⟨?_, ?_, ?_⟩
        · show nextLink s.sending = (s.finished.length + 1) % i2sDmaBufCnt
          rw [hsend, nextLink_eq]
        · rintro d ⟨⟩
          exact hsend
        · show 0 < i2sDmaBufLen
          decide
    | isr =>
      obtain ⟨d, heof, rfl⟩ := handleEof_cases hstep
      refine ⟨?_, by rintro _ ⟨⟩, hpos⟩
      simpa [I2s.eofs, heof] using hsend
    | callPush sample =>
      rw [callPush_cases hstep]
      exact ⟨hsend, hdesc, hpos⟩
    | push =>
      rcases i2sPushSample_cases hstep with ⟨y, -, -, rfl⟩ | ⟨sample, y, -, -, -, rfl⟩
      · exact ⟨hsend, hdesc, hpos⟩
      · exact ⟨hsend, hdesc, hpos⟩

/-- **The queue traffic of the driver.**  Interrupts and pops replay in `dmaRing`; words and stores
do not touch the queue. -/
theorem i2s_refines_dmaRing : Machine.Simulation i2s dmaRing EofInv I2s.ring where
  init := rfl
  step {s a s'} h hstep := by
    cases a with
    | word =>
      refine ⟨[], ?_⟩
      rcases dmaWord_cases hstep with ⟨-, rfl⟩ | ⟨-, -, rfl⟩
      · rfl
      · rfl
    | isr =>
      obtain ⟨d, heof, rfl⟩ := handleEof_cases hstep
      refine ⟨[.eof], ?_⟩
      have hd := h.eofDesc_eq d heof
      show (⟨_, _, _, _⟩ : DmaRing) = ⟨_, _, nextLink (s.finished.length % i2sDmaBufCnt), _⟩
      rw [nextLink_eq, hd]
      simp only [I2s.ring, List.length_append, List.length_singleton]
    | callPush sample =>
      rw [callPush_cases hstep]
      exact ⟨[], rfl⟩
    | push =>
      rcases i2sPushSample_cases hstep with ⟨y, hfront, -, rfl⟩ | ⟨sample, y, -, -, -, rfl⟩
      · refine ⟨[.pop], ?_⟩
        simp [Machine.move, dmaRing, I2s.ring, hfront]
      · exact ⟨[], rfl⟩

theorem queue_invariant : i2s.Invariant fun s => EofInv s ∧ RingInv s.ring :=
  i2s_refines_dmaRing.invariant eof_invariant ring_invariant

/-! ### Words -/

/-- The words the DMA ought to send: the cleared buffers, then the samples. -/
def I2s.stream (s : I2s) : List UInt32 :=
  List.replicate (i2sDmaBufCnt * i2sDmaBufLen) 0 ++ s.pushed

/-- The writer holds a buffer that still lacks words. -/
def I2s.HoldsUnfilled (s : I2s) : Prop :=
  s.currDMABuff.isSome ∧ s.currDMABuffPos ≠ i2sDmaBufLen

/-- No EOF comes while 12 buffers are queued and the writer holds an unfilled one; and an EOF
that finds the queue full is handled before the DMA or the writer goes on. -/
def EofLeavesRoom (s : I2s) (a : I2sAct) : Prop :=
  (a = .word → s.sendPos + 1 = i2sDmaBufLen → s.HoldsUnfilled → s.dmaQueue.items.length < 12) ∧
    (s.eofDesc.isSome → s.dmaQueue.isFull → a ≠ .word ∧ a ≠ .push)

instance (s : I2s) : Decidable s.HoldsUnfilled := inferInstanceAs (Decidable (_ ∧ _))

instance (s : I2s) (a : I2sAct) : Decidable (EofLeavesRoom s a) :=
  inferInstanceAs (Decidable (_ ∧ _))

/-- The writer's place in the stream, and the words of the ring from the DMA's buffer on. -/
structure InStep (s : I2s) : Prop where
  none_popped : s.currDMABuff = none →
    s.finished.length = s.dmaQueue.items.length ∧ s.pushed = []
  held : ∀ y, s.currDMABuff = some y →
    ∃ j, s.finished.length = s.dmaQueue.items.length + j + 1 ∧ y = j % i2sDmaBufCnt ∧
      s.currDMABuffPos ≤ i2sDmaBufLen ∧ s.pushed.length = i2sDmaBufLen * j + s.currDMABuffPos
  ahead : i2sDmaBufLen * (s.eofs + 1) ≤ s.stream.length ∨
    s.eofDesc.isSome ∧ s.dmaQueue.isFull ∧ s.sendPos = 0
  sent_le : i2sDmaBufLen * s.eofs + s.sendPos ≤ s.stream.length
  sent_eq : s.sent = s.stream.take (i2sDmaBufLen * s.eofs + s.sendPos)
  words : ∀ w, i2sDmaBufLen * s.eofs ≤ w → ∀ hw : w < s.stream.length,
    s.i2sBuf (w / i2sDmaBufLen % i2sDmaBufCnt) (w % i2sDmaBufLen) = s.stream.get ⟨w, hw⟩

structure WordsInv (s : I2s) : Prop where
  eof : EofInv s
  ring : RingInv s.ring
  underrun_nonneg : 0 ≤ s.underrunCnt
  in_step : s.underrunCnt = 0 → InStep s

theorem stream_length (s : I2s) : s.stream.length = 896 + s.pushed.length := by
  simp only [I2s.stream, List.length_append, List.length_replicate]
  rfl

/-- The buffer being sent is complete when the DMA or the writer goes on. -/
theorem InStep.sending_filled {s : I2s} (h : InStep s) {a : I2sAct} (hroom : EofLeavesRoom s a)
    (ha : a = .word ∨ a = .push) : i2sDmaBufLen * (s.eofs + 1) ≤ s.stream.length := by
  rcases h.ahead with hle | ⟨hsome, hfull, -⟩
  · exact hle
  · obtain ⟨hword, hpush⟩ := hroom.2 hsome hfull
    exact (ha.elim hword hpush).elim

/-- The next word the DMA sends is the next one of the stream. -/
theorem InStep.next_word {s : I2s} (h : InStep s) (heof : EofInv s)
    (hlt : i2sDmaBufLen * s.eofs + s.sendPos < s.stream.length) :
    s.sent ++ [s.i2sBuf s.sending s.sendPos] =
      s.stream.take (i2sDmaBufLen * s.eofs + s.sendPos + 1) := by
  have hpos := heof.sendPos_lt
  have hword := h.words (i2sDmaBufLen * s.eofs + s.sendPos) (by omega) hlt
  have hdiv : (i2sDmaBufLen * s.eofs + s.sendPos) / i2sDmaBufLen = s.eofs := by
    simp only [i2sDmaBufLen] at hpos ⊢
    omega
  have hmod : (i2sDmaBufLen * s.eofs + s.sendPos) % i2sDmaBufLen = s.sendPos := by
    simp only [i2sDmaBufLen] at hpos ⊢
    omega
  rw [hdiv, hmod, ← heof.sending_eq] at hword
  rw [hword, h.sent_eq, List.get_eq_getElem, List.take_append_getElem]

theorem InStep.word {s s' : I2s} (h : InStep s) (heof : EofInv s)
    (hroom : EofLeavesRoom s .word) (hstep : dmaWord s = some s') : InStep s' := by
  have hlen := stream_length s
  have hpos := heof.sendPos_lt
  have hahead := h.sending_filled hroom (.inl rfl)
  have hlt : i2sDmaBufLen * s.eofs + s.sendPos < s.stream.length := by
    simp only [i2sDmaBufLen] at hpos hahead ⊢
    omega
  have hsent := h.next_word heof hlt
  rcases dmaWord_cases hstep with ⟨-, rfl⟩ | ⟨hlast, hnone, rfl⟩
  · exact ⟨h.none_popped, h.held, .inl hahead, hlt, hsent, h.words⟩
  · -- the DMA moves on to the next buffer
    have heofs : s.eofs = s.finished.length := by simp [I2s.eofs, hnone]
    have hend : i2sDmaBufLen * s.eofs + s.sendPos + 1 = i2sDmaBufLen * (s.eofs + 1) := by
      simp only [i2sDmaBufLen] at hpos hlast ⊢
      omega
    refine ⟨h.none_popped, h.held, ?_, ?_, ?_, ?_⟩
    · show i2sDmaBufLen * (s.finished.length + 1 + 1) ≤ s.stream.length ∨
        true = true ∧ s.dmaQueue.isFull = true ∧ 0 = 0
      rw [BoundedQueue.isFull_iff, hlen]
      have hfits : s.dmaQueue.items.length ≤ 13 := s.dmaQueue.fits
      by_cases hfull : s.dmaQueue.items.length = 13
      · exact .inr ⟨rfl, hfull, rfl⟩
      left
      cases hcurr : s.currDMABuff with
      | none =>
        obtain ⟨hqueued, -⟩ := h.none_popped hcurr
        simp only [i2sDmaBufLen]
        omega
      | some y =>
        obtain ⟨j, hqueued, -, hle, hpushed⟩ := h.held y hcurr
        by_cases hunfilled : s.currDMABuffPos = i2sDmaBufLen
        · simp only [i2sDmaBufLen] at *
          omega
        · have := hroom.1 rfl (by omega) ⟨by rw [hcurr]; rfl, hunfilled⟩
          simp only [i2sDmaBufLen] at *
          omega
    · show i2sDmaBufLen * (s.finished.length + 1) + 0 ≤ s.stream.length
      rwa [← heofs]
    · show s.sent ++ [s.i2sBuf s.sending s.sendPos] =
        s.stream.take (i2sDmaBufLen * (s.finished.length + 1))
      rw [hsent, hend, heofs]
    · intro w hw
      have hw' : i2sDmaBufLen * (s.finished.length + 1) ≤ w := hw
      apply h.words w
      simp only [i2sDmaBufLen, heofs] at hw' ⊢
      omega

theorem InStep.isr {s s' : I2s} (h : InStep s) (hstep : handleEof s = some s')
    (hnone : s'.underrunCnt = 0) (hzero : s.underrunCnt = 0) : InStep s' := by
  obtain ⟨d, heof, rfl⟩ := handleEof_cases hstep
  -- a full queue would have been counted
  have hroom : ¬ s.dmaQueue.isFull := by
    intro hfull
    simp only [slcIsr, if_pos hfull, hzero] at hnone
    omega
  have hitems : (slcIsr s.dmaQueue s.underrunCnt d).1.items.length =
      s.dmaQueue.items.length + 1 := by
    rw [slcIsr_items, if_neg hroom, List.length_append, List.length_singleton]
  have heofs : s.eofs = s.finished.length + 1 := by simp [I2s.eofs, heof]
  refine ⟨?_, ?_, ?_, ?_, ?_, ?_⟩
  · intro hcurr
    obtain ⟨hqueued, hpushed⟩ := h.none_popped hcurr
    refine ⟨?_, hpushed⟩
    show (s.finished ++ [d]).length = _
    rw [List.length_append, List.length_singleton, hitems, hqueued]
  · intro y hcurr
    obtain ⟨j, hqueued, hrest⟩ := h.held y hcurr
    refine ⟨j, ?_, hrest⟩
    show (s.finished ++ [d]).length = _
    rw [List.length_append, List.length_singleton, hitems]
    omega
  all_goals
    have heofs' : ({ s with
        dmaQueue := (slcIsr s.dmaQueue s.underrunCnt d).1
        underrunCnt := (slcIsr s.dmaQueue s.underrunCnt d).2
        eofDesc := none
        finished := s.finished ++ [d] } : I2s).eofs = s.eofs := by
      rw [heofs]
      simp [I2s.eofs]
    rw [heofs']
  · left
    exact h.ahead.resolve_right fun hpending => hroom hpending.2.1
  · exact h.sent_le
  · exact h.sent_eq
  · exact h.words

theorem InStep.take_buffer {s : I2s} (h : InStep s) (hring : RingInv s.ring)
    (hroom : EofLeavesRoom s .push) {y : ℕ} (hfront : s.dmaQueue.front = some y)
    (hneeded : s.currDMABuff = none ∨ s.currDMABuffPos = i2sDmaBufLen) :
    InStep { s with
      dmaQueue := s.dmaQueue.dropFront, currDMABuff := some y, currDMABuffPos := 0 } := by
  have hahead := h.sending_filled hroom (.inr rfl)
  have hitems := BoundedQueue.items_of_front hfront
  have hqueue := congrArg List.length hitems
  rw [List.length_cons] at hqueue
  have hy : y = (s.finished.length - s.dmaQueue.items.length) % i2sDmaBufCnt := by
    have hrun : s.dmaQueue.items =
      ringRun (s.finished.length - s.dmaQueue.items.length) s.dmaQueue.items.length :=
        hring.items_eq
    rw [hqueue] at hrun ⊢
    rw [hitems] at hrun
    exact (List.cons.inj hrun).1
  refine ⟨by rintro ⟨⟩, ?_, .inl hahead, h.sent_le, h.sent_eq, h.words⟩
  rintro y' ⟨⟩
  cases hcurr : s.currDMABuff with
  | none =>
    obtain ⟨hqueued, hpushed⟩ := h.none_popped hcurr
    refine ⟨0, ?_, ?_, Nat.zero_le _, ?_⟩
    · show s.finished.length = s.dmaQueue.items.tail.length + 0 + 1
      omega
    · rw [hy, hqueued, Nat.sub_self]
    · rw [hpushed]
      rfl
  | some x =>
    obtain ⟨j, hqueued, -, -, hpushed⟩ := h.held x hcurr
    have hfull := hneeded.resolve_left (by rw [hcurr]; exact Option.some_ne_none x)
    refine ⟨j + 1, ?_, ?_, Nat.zero_le _, ?_⟩
    · show s.finished.length = s.dmaQueue.items.tail.length + (j + 1) + 1
      omega
    · rw [hy]
      congr 1
      omega
    · show s.pushed.length = i2sDmaBufLen * (j + 1) + 0
      rw [hpushed, hfull]
      ring

/-- The buffer a sample is stored in is not being sent, and none of the words still to be sent
from the ring has its place. -/
theorem InStep.store_sample {s : I2s} (h : InStep s) (heof : EofInv s)
    (hroom : EofLeavesRoom s .push) {y : ℕ} (hcurr : s.currDMABuff = some y)
    (hpos : s.currDMABuffPos ≠ i2sDmaBufLen) (sample : UInt32) :
    y ≠ s.sending ∧ InStep { s with
      i2sBuf := Function.update s.i2sBuf y
        (Function.update (s.i2sBuf y) s.currDMABuffPos sample)
      currDMABuffPos := s.currDMABuffPos + 1
      pushing := none
      pushed := s.pushed ++ [sample] } := by
  have hahead := h.sending_filled hroom (.inr rfl)
  have hlen := stream_length s
  obtain ⟨j, hqueued, hy, hle, hpushed⟩ := h.held y hcurr
  have hfinished : s.finished.length ≤ s.eofs := Nat.le_add_right _ _
  have hsend := heof.sending_eq
  set s' : I2s := { s with
    i2sBuf := Function.update s.i2sBuf y
      (Function.update (s.i2sBuf y) s.currDMABuffPos sample)
    currDMABuffPos := s.currDMABuffPos + 1
    pushing := none
    pushed := s.pushed ++ [sample] } with hs'
  have hstream : s'.stream = s.stream ++ [sample] := by
    rw [I2s.stream, I2s.stream, List.append_assoc]
  have hlen' : s'.stream.length = s.stream.length + 1 := by
    rw [hstream, List.length_append, List.length_singleton]
  have heofs : s'.eofs = s.eofs := rfl
  have hsentLe := h.sent_le
  refine ⟨?_, ?_, ?_, ?_, ?_, ?_, ?_⟩
  · rw [hy, hsend]
    simp only [i2sDmaBufLen, i2sDmaBufCnt] at *
    omega
  · intro hnone
    rw [show s'.currDMABuff = s.currDMABuff from rfl, hcurr] at hnone
    cases hnone
  · intro y' hy'
    obtain rfl : y = y' := Option.some.inj (hcurr.symm.trans hy')
    refine ⟨j, hqueued, hy, ?_, ?_⟩
    · show s.currDMABuffPos + 1 ≤ i2sDmaBufLen
      omega
    · show (s.pushed ++ [sample]).length = i2sDmaBufLen * j + (s.currDMABuffPos + 1)
      rw [List.length_append, List.length_singleton]
      omega
  · left
    rw [heofs]
    omega
  · rw [heofs, show s'.sendPos = s.sendPos from rfl]
    omega
  · show s.sent = s'.stream.take (i2sDmaBufLen * s.eofs + s.sendPos)
    rw [hstream, List.take_append_of_le_length hsentLe]
    exact h.sent_eq
  · intro w hw hlt
    have hw' : i2sDmaBufLen * s.eofs ≤ w := hw
    show Function.update s.i2sBuf y _ _ _ = _
    by_cases hold : w < s.stream.length
    · -- an older word, less than a lap away from the new one
      rw [List.get_of_eq hstream, List.get_eq_getElem, List.getElem_append_left hold]
      by_cases hbuf : w / i2sDmaBufLen % i2sDmaBufCnt = y
      · rw [hbuf, Function.update_self, Function.update_of_ne]
        · rw [← hbuf]
          exact h.words w hw' hold
        · simp only [i2sDmaBufLen, i2sDmaBufCnt] at *
          omega
      · rw [Function.update_of_ne hbuf]
        exact h.words w hw' hold
    · -- the new word
      have hnew : w = s.stream.length := by omega
      have hbuf : w / i2sDmaBufLen % i2sDmaBufCnt = y := by
        simp only [i2sDmaBufLen, i2sDmaBufCnt] at *
        omega
      have hplace : w % i2sDmaBufLen = s.currDMABuffPos := by
        simp only [i2sDmaBufLen] at *
        omega
      rw [hbuf, hplace, Function.update_self, Function.update_self, List.get_of_eq hstream]
      simp [hnew]

theorem wordsInv_init : WordsInv i2s.init where
  eof := eof_invariant.init
  ring := ringInv_init
  underrun_nonneg := Int.le_refl 0
  in_step _ := {
    none_popped := fun _ => ⟨rfl, rfl⟩
    held := by rintro y ⟨⟩
    ahead := .inl (by rw [stream_length]; decide)
    sent_le := Nat.zero_le _
    sent_eq := rfl
    words := by
      intro w _ hw
      rw [List.get_eq_getElem]
      simp only [I2s.stream, i2s, i2sInit, List.append_nil, List.getElem_replicate] }

theorem slcIsr_underrunCnt_le (dmaQueue : DmaQueue) (underrunCnt : ℤ) (d : ℕ) :
    underrunCnt ≤ (slcIsr dmaQueue underrunCnt d).2 := by
  rw [slcIsr]
  by_cases hfull : dmaQueue.isFull = true
  · rw [if_pos hfull]
    exact Int.le_add_one (Int.le_refl _)
  · rw [if_neg hfull]

theorem underrunCnt_le_step {s s' : I2s} {a : I2sAct} (hstep : i2s.step s a = some s') :
    s.underrunCnt ≤ s'.underrunCnt := by
  cases a with
  | word =>
    rcases dmaWord_cases hstep with ⟨-, rfl⟩ | ⟨-, -, rfl⟩
    · exact Int.le_refl _
    · exact Int.le_refl _
  | isr =>
    obtain ⟨d, -, rfl⟩ := handleEof_cases hstep
    exact slcIsr_underrunCnt_le _ _ _
  | callPush sample =>
    rw [callPush_cases hstep]
  | push =>
    rcases i2sPushSample_cases hstep with ⟨y, -, -, rfl⟩ | ⟨sample, y, -, -, -, rfl⟩
    · exact Int.le_refl _
    · exact Int.le_refl _

theorem words_invariant : i2s.InvariantUnder EofLeavesRoom WordsInv where
  init := wordsInv_init
  step {s a s'} h hroom hstep := by
    obtain ⟨heof', hring'⟩ := queue_invariant.step ⟨h.eof, h.ring⟩ trivial hstep
    have hle := underrunCnt_le_step hstep
    have hnonneg := h.underrun_nonneg
    refine ⟨heof', hring', by omega, ?_⟩
    intro hzero'
    have hzero : s.underrunCnt = 0 := by omega
    have hin := h.in_step hzero
    cases a with
    | word => exact hin.word h.eof hroom hstep
    | isr => exact hin.isr hstep hzero' hzero
    | callPush sample =>
      rw [callPush_cases hstep]
      exact ⟨hin.none_popped, hin.held, hin.ahead, hin.sent_le, hin.sent_eq, hin.words⟩
    | push =>
      rcases i2sPushSample_cases hstep with ⟨y, hfront, hneeded, rfl⟩ | ⟨sample, y, _, hcurr, hpos, rfl⟩
      · exact hin.take_buffer h.ring hroom hfront hneeded
      · exact (hin.store_sample h.eof hroom hcurr hpos sample).2

/-! ### Whole buffers -/

/-- The DMA sends a whole buffer and its EOF is handled. -/
def sendBuffer : List I2sAct := List.replicate i2sDmaBufLen .word ++ [.isr]

def I2s.afterBuffer (s : I2s) : I2s :=
  let r := slcIsr s.dmaQueue s.underrunCnt s.sending
  { s with
    sent := s.sent ++ (List.range i2sDmaBufLen).map (s.i2sBuf s.sending)
    sending := nextLink s.sending
    dmaQueue := r.1
    underrunCnt := r.2
    finished := s.finished ++ [s.sending] }

theorem runFrom_words (s : I2s) (k : ℕ) (hk : s.sendPos + k < i2sDmaBufLen) :
    i2s.runFrom s (List.replicate k .word) = { s with
      sent := s.sent ++ (List.range' s.sendPos k).map (s.i2sBuf s.sending)
      sendPos := s.sendPos + k } := by
  induction k generalizing s with
  | zero => simp
  | succ k ih =>
    have hword : i2s.move s .word = { s with
        sent := s.sent ++ [s.i2sBuf s.sending s.sendPos], sendPos := s.sendPos + 1 } :=
      i2s.move_of_step (if_pos (by omega))
    rw [List.replicate_succ, Machine.runFrom_cons, hword, ih]
    · simp only [List.range'_succ, List.map_cons, List.append_assoc, List.singleton_append]
      rw [show s.sendPos + 1 + k = s.sendPos + (k + 1) by omega]
    · show s.sendPos + 1 + k < i2sDmaBufLen
      omega

theorem runFrom_sendBuffer {s : I2s} (hpos : s.sendPos = 0) (heof : s.eofDesc = none) :
    i2s.runFrom s sendBuffer = s.afterBuffer := by
  have hwords := runFrom_words s 63 (by rw [hpos]; decide)
  have hlist : sendBuffer = List.replicate 63 .word ++ [.word, .isr] := by decide
  have hsent : s.sent ++ (List.range' 0 63).map (s.i2sBuf s.sending) ++ [s.i2sBuf s.sending 63] =
      s.sent ++ (List.range i2sDmaBufLen).map (s.i2sBuf s.sending) := by
    rw [List.append_assoc, ← List.map_singleton (f := s.i2sBuf s.sending), ← List.map_append]
    rfl
  rw [hlist, Machine.runFrom_append, hwords, Machine.runFrom_cons, Machine.runFrom_cons,
    Machine.runFrom_nil, I2s.afterBuffer, ← hsent]
  simp [Machine.move, i2s, dmaWord, handleEof, heof, hpos, i2sDmaBufLen]

theorem runFrom_laps {s : I2s} (hpos : s.sendPos = 0) (heof : s.eofDesc = none) (n : ℕ) :
    i2s.runFrom s (List.replicate n sendBuffer).flatten = I2s.afterBuffer^[n] s := by
  induction n generalizing s with
  | zero => rfl
  | succ n ih =>
    rw [List.replicate_succ, List.flatten_cons, Machine.runFrom_append,
      runFrom_sendBuffer hpos heof, ih (s := s.afterBuffer) hpos heof, Function.iterate_succ_apply]

/-- No EOF comes before the last word of a buffer. -/
theorem alwaysFrom_words {s : I2s} (heof : s.eofDesc = none) (k : ℕ)
    (hk : s.sendPos + k < i2sDmaBufLen) :
    i2s.AlwaysFrom EofLeavesRoom s (List.replicate k .word) := by
  induction k generalizing s with
  | zero => trivial
  | succ k ih =>
    have hword : i2s.move s .word = { s with
        sent := s.sent ++ [s.i2sBuf s.sending s.sendPos], sendPos := s.sendPos + 1 } :=
      i2s.move_of_step (if_pos (by omega))
    refine ⟨⟨fun _ hlast => absurd hlast (by omega), ?_⟩, ?_⟩
    · rw [heof]
      exact nofun
    · rw [hword]
      exact ih heof (show s.sendPos + 1 + k < i2sDmaBufLen by omega)

/-- An EOF that is handled at once may come while the writer holds no unfilled buffer. -/
theorem alwaysFrom_sendBuffer {s : I2s} (hpos : s.sendPos = 0) (heof : s.eofDesc = none)
    (hfilled : ¬s.HoldsUnfilled) : i2s.AlwaysFrom EofLeavesRoom s sendBuffer := by
  have hk : s.sendPos + 63 < i2sDmaBufLen := by
    rw [hpos]
    decide
  have hlist : sendBuffer = List.replicate 63 .word ++ [.word, .isr] := by decide
  rw [hlist, Machine.alwaysFrom_append, runFrom_words s 63 hk]
  refine ⟨alwaysFrom_words heof 63 hk, ⟨fun _ _ hunfilled => absurd hunfilled hfilled, ?_⟩,
    ⟨nofun, fun _ _ => ⟨nofun, nofun⟩⟩, trivial⟩
  show s.eofDesc.isSome → _
  rw [heof]
  exact nofun

theorem alwaysFrom_laps {s : I2s} (hpos : s.sendPos = 0) (heof : s.eofDesc = none)
    (hfilled : ¬s.HoldsUnfilled) (n : ℕ) :
    i2s.AlwaysFrom EofLeavesRoom s (List.replicate n sendBuffer).flatten := by
  induction n generalizing s with
  | zero => trivial
  | succ n ih =>
    rw [List.replicate_succ, List.flatten_cons, Machine.alwaysFrom_append,
      runFrom_sendBuffer hpos heof]
    exact ⟨alwaysFrom_sendBuffer hpos heof hfilled, ih (s := s.afterBuffer) hpos heof hfilled⟩

/-! ### What is sent -/

/-- The writer never stores into the buffer being sent, and the words sent are the cleared buffers
and then the samples in the order they were pushed. -/
def SendsPushed (acts : List I2sAct) : Prop :=
  i2s.Always (fun s a => a = .push → pushTarget s ≠ some s.sending) acts ∧
    (i2s.run acts).sent <+: (i2s.run acts).stream

/-- **Without underrun the DMA sends what was pushed**, along every run in which no EOF comes
while 12 buffers are queued and the writer holds an unfilled one, and every EOF that finds the
queue full is handled before the DMA or the writer goes on. -/
theorem i2s_sends_pushed (acts : List I2sAct) (hroom : i2s.Always EofLeavesRoom acts)
    (hunderrun : (i2s.run acts).underrunCnt = 0) : SendsPushed acts := by
  refine ⟨?_, ?_⟩
  · rw [Machine.always_iff_moves] at hroom ⊢
    rintro pre a hpre rfl htarget
    obtain ⟨more, hmore⟩ := hpre
    have hpreRoom : i2s.Always EofLeavesRoom pre :=
      (i2s.always_iff_moves _ pre).mpr fun q b hq =>
        hroom q b ((hq.trans (List.prefix_append pre _)).trans ⟨more, hmore⟩)
    have h : WordsInv (i2s.run pre) := words_invariant.run hpreRoom
    have hle := i2s.le_runFrom (·.underrunCnt) underrunCnt_le_step (i2s.run pre) (.push :: more)
    rw [← Machine.run_append, ← List.singleton_append, ← List.append_assoc, hmore, hunderrun] at hle
    have hin := h.in_step (Int.le_antisymm hle h.underrun_nonneg)
    simp only [pushTarget] at htarget
    split at htarget
    · rename_i hstore
      exact (hin.store_sample h.eof (hroom pre .push ⟨more, hmore⟩) htarget hstore.2 0).1 rfl
    · cases htarget
  · have h : WordsInv (i2s.run acts) := words_invariant.run hroom
    rw [(h.in_step hunderrun).sent_eq]
    exact List.take_prefix _ _

/-- A sample, with a second move for the case that the first one takes a buffer. -/
def pushSample (sample : UInt32) : List I2sAct := [.callPush sample, .push, .push]

/-- The writer fills buffer 0 while the DMA sends the others, and the DMA comes to its first words. -/
def filledBuffer : List I2sAct :=
  sendBuffer ++ ((List.range i2sDmaBufLen).flatMap fun k => pushSample (UInt32.ofNat (k + 7))) ++
    (List.replicate 13 sendBuffer).flatten ++ [.word, .word]

theorem i2s_sends_pushed_filledBuffer : SendsPushed filledBuffer ∧
    (i2s.run filledBuffer).sent.drop (i2sDmaBufCnt * i2sDmaBufLen) = [7, 8] := by
  obtain ⟨pushes, hpushes⟩ : ∃ pushes : List I2sAct, pushes =
    (List.range i2sDmaBufLen).flatMap fun k => pushSample (UInt32.ofNat (k + 7)) := ⟨_, rfl⟩
  obtain ⟨s, hs⟩ : ∃ s, s = i2s.runFrom i2s.init.afterBuffer pushes := ⟨_, rfl⟩
  have hs_eq : s.sendPos = 0 ∧ s.eofDesc = none ∧ ¬s.HoldsUnfilled := by
    rw [hs, hpushes]
    decide +kernel
  have hpush : i2s.AlwaysFrom EofLeavesRoom i2s.init.afterBuffer pushes := by
    rw [hpushes]
    decide +kernel
  obtain ⟨hpos, heof, hfilled⟩ := hs_eq
  have hfirst : i2s.runFrom i2s.init sendBuffer = i2s.init.afterBuffer := runFrom_sendBuffer rfl rfl
  have hroom : i2s.Always EofLeavesRoom filledBuffer := by
    simp only [filledBuffer, ← hpushes, Machine.Always, Machine.alwaysFrom_append,
      Machine.runFrom_append, hfirst, ← hs, runFrom_laps hpos heof]
    refine ⟨⟨⟨alwaysFrom_sendBuffer rfl rfl (by decide), hpush⟩,
      alwaysFrom_laps hpos heof hfilled 13⟩, ?_⟩
    rw [hs, hpushes]
    decide +kernel
  have hrun : i2s.run filledBuffer = i2s.runFrom (I2s.afterBuffer^[13] s) [.word, .word] := by
    simp only [filledBuffer, ← hpushes, Machine.run, Machine.runFrom_append, hfirst, ← hs,
      runFrom_laps hpos heof]
  have hlast : (i2s.run filledBuffer).underrunCnt = 0 ∧
      (i2s.run filledBuffer).sent.drop (i2sDmaBufCnt * i2sDmaBufLen) = [7, 8] := by
    rw [hrun, hs, hpushes]
    decide +kernel
  exact ⟨i2s_sends_pushed filledBuffer hroom hlast.1, hlast.2⟩

/-! ### The DMA laps the writer -/

/-- The writer takes a buffer and stores one sample; 13 more EOFs fill the queue without an
underrun, and the DMA is back at the buffer the writer holds. -/
def heldBufferLap : List I2sAct :=
  sendBuffer ++ [.callPush 7, .push, .push] ++ (List.replicate 13 sendBuffer).flatten

theorem run_heldBufferLap :
    i2s.run heldBufferLap =
      I2s.afterBuffer^[13] (i2s.runFrom i2s.init.afterBuffer [.callPush 7, .push, .push]) := by
  rw [heldBufferLap, Machine.run_append, Machine.run_append, runFrom_laps]
  · rw [Machine.run, runFrom_sendBuffer rfl rfl]
  · rw [Machine.run, runFrom_sendBuffer rfl rfl]
    rfl
  · rw [Machine.run, runFrom_sendBuffer rfl rfl]
    rfl

/-- An EOF that finds 12 buffers queued and buffer 0 held: the DMA sends the stale word after the
stored one, and the next sample goes into the buffer being sent. -/
theorem i2s_overruns_held_buffer :
    let acts := heldBufferLap ++ [.word, .word, .callPush 8, .push]
    (i2s.run acts).underrunCnt = 0 ∧ ¬ SendsPushed acts ∧
      ¬ (i2s.run acts).sent <+: (i2s.run acts).stream := by
  intro acts
  have hrun : i2s.run acts = _ := Machine.run_append _ _ _
  rw [run_heldBufferLap] at hrun
  refine ⟨?_, ?_, ?_⟩
  · rw [hrun]
    decide +kernel
  · rintro ⟨halways, -⟩
    have hstore := (i2s.always_iff_moves _ _).mp halways
      (heldBufferLap ++ [.word, .word, .callPush 8]) .push ⟨[], by simp [acts]⟩ rfl
    rw [Machine.run_append, run_heldBufferLap] at hstore
    exact hstore (by decide +kernel)
  · rw [hrun]
    decide +kernel

end Mp3Decoder
