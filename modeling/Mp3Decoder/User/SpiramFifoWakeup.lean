import Mp3Decoder.User.SpiramFifoOrder

/-!
# No lost wake-up and no deadlock in the FIFO

A task that found too little data (or room) releases `mux` before it waits, so the other task may
move a chunk in between.  The invariant says that such a chunk is never missed: while the reader
is on its way to `semCanRead` or waiting on it, the FIFO is still short of the chunk, or the token
has been given, or the writer is just about to give it.  Tokens left over from earlier rounds only
make a task look once more.
-/

namespace Mp3Decoder

open Schedule

def ReaderPc.HoldsMux : ReaderPc → Prop
  | .locked _ _ => True
  | .idle | .chunk _ | .lock _ _ | .lowmark _ _ | .waitCanRead _ _ | .giveCanWrite _ => False

def WriterPc.HoldsMux : WriterPc → Prop
  | .locked _ _ => True
  | .idle | .chunk _ | .lock _ _ | .waitCanWrite _ _ | .giveCanRead _ => False

/-- The chunk a reader found missing, from the failed test to the next token. -/
def ReaderPc.short : ReaderPc → Option ℤ
  | .lowmark _ n | .waitCanRead _ n => some n
  | .idle | .chunk _ | .lock _ _ | .locked _ _ | .giveCanWrite _ => none

def WriterPc.short : WriterPc → Option ℤ
  | .waitCanWrite _ n => some n
  | .idle | .chunk _ | .lock _ _ | .locked _ _ | .giveCanRead _ => none

/-- Between releasing `mux` and giving `semCanWrite`. -/
def ReaderPc.AboutToGive : ReaderPc → Prop
  | .giveCanWrite _ => True
  | .idle | .chunk _ | .lock _ _ | .locked _ _ | .lowmark _ _ | .waitCanRead _ _ => False

def WriterPc.AboutToGive : WriterPc → Prop
  | .giveCanRead _ => True
  | .idle | .chunk _ | .lock _ _ | .locked _ _ | .waitCanWrite _ _ => False

structure WakeupInv (b : SpiBuff) (s : Fifo) : Prop where
  order : FifoInv b s
  mux_free : s.mux = true → ¬ s.reader.HoldsMux ∧ ¬ s.writer.HoldsMux
  mux_taken : s.mux = false → s.reader.HoldsMux ∨ s.writer.HoldsMux
  exclusive : ¬ (s.reader.HoldsMux ∧ s.writer.HoldsMux)
  reader_short : ∀ n, s.reader.short = some n →
    s.fifoFill < n ∨ s.semCanRead = true ∨ s.writer.AboutToGive
  writer_short : ∀ n, s.writer.short = some n →
    b.spiramSize - s.fifoFill < n ∨ s.semCanWrite = true ∨ s.reader.AboutToGive

theorem wakeupInv_init (b : SpiBuff) (ram : ℤ → UInt8) : WakeupInv b (spiRamFifoInit ram) where
  order := fifoInv_init b ram
  mux_free _ := ⟨id, id⟩
  mux_taken h := by cases h
  exclusive h := h.1
  reader_short n h := by cases h
  writer_short n h := by cases h

/-- A step of the reader: the mutex passes correctly, and room it makes is announced. -/
theorem WakeupInv.reader_step {b : SpiBuff} {s s' : Fifo} (h : WakeupInv b s)
    (hstep : spiRamFifoRead b s = some s') : WakeupInv b s' := by
  have horder := h.order.reader_step hstep
  obtain ⟨-, hfree, htaken, hexcl, hreader, hwriter⟩ := h
  unfold spiRamFifoRead at hstep
  split at hstep
  case h_1 => cases hstep
  case h_2 len hpc =>
    rw [hpc] at hfree htaken hwriter
    split at hstep <;> cases hstep
    all_goals
      refine ⟨horder, hfree, htaken, fun hm => hm.1, ?_, hwriter⟩
      rintro n ⟨⟩
  case h_3 len n hpc =>
    rw [hpc] at hwriter
    split at hstep <;> cases hstep
    rename_i hmux
    refine ⟨horder, by rintro ⟨⟩, fun _ => .inl trivial, fun hm => (hfree hmux).2 hm.2, ?_, ?_⟩
    · rintro n ⟨⟩
    · exact fun n hn => (hwriter n hn).imp_right (Or.imp_right False.elim)
  case h_4 len n hpc =>
    rw [hpc] at hexcl hwriter
    have hwfree : ¬ s.writer.HoldsMux := fun hm => hexcl ⟨trivial, hm⟩
    split at hstep <;> cases hstep
    · -- too little data: the reader will wait, and the fill is still what it saw
      rename_i hshort
      refine ⟨horder, fun _ => ⟨id, hwfree⟩, by rintro ⟨⟩, fun hm => hm.1, ?_, ?_⟩
      · rintro n' ⟨⟩
        exact .inl hshort
      · exact fun n' hn => (hwriter n' hn).imp_right (Or.imp_right False.elim)
    · -- a chunk was read: the writer's token is about to be given
      refine ⟨horder, fun _ => ⟨id, hwfree⟩, by rintro ⟨⟩, fun hm => hm.1, ?_, ?_⟩
      · rintro n' ⟨⟩
      · exact fun n' _ => .inr (.inr trivial)
  case h_5 len n hpc =>
    rw [hpc] at hfree htaken hreader hwriter
    split at hstep <;> cases hstep
    · exact ⟨horder, hfree, htaken, fun hm => hm.1, hreader, hwriter⟩
    · refine ⟨horder, hfree, htaken, fun hm => hm.1, ?_, hwriter⟩
      rintro n' ⟨⟩
  case h_6 len n hpc =>
    rw [hpc] at hfree htaken hwriter
    split at hstep <;> cases hstep
    refine ⟨horder, hfree, htaken, fun hm => hm.1, ?_, hwriter⟩
    rintro n' ⟨⟩
  case h_7 len hpc =>
    rw [hpc] at hfree htaken
    cases hstep
    refine ⟨horder, hfree, htaken, fun hm => hm.1, ?_, fun n' _ => .inr (.inl rfl)⟩
    rintro n' ⟨⟩

/-- A step of the writer: the mutex passes correctly, and data it stores is announced. -/
theorem WakeupInv.writer_step {b : SpiBuff} {s s' : Fifo} (h : WakeupInv b s)
    (hstep : spiRamFifoWrite b s = some s') : WakeupInv b s' := by
  have horder := h.order.writer_step hstep
  obtain ⟨-, hfree, htaken, hexcl, hreader, hwriter⟩ := h
  unfold spiRamFifoWrite at hstep
  split at hstep
  case h_1 => cases hstep
  case h_2 buff hpc =>
    rw [hpc] at hfree htaken hreader
    split at hstep <;> cases hstep
    all_goals
      refine ⟨horder, hfree, htaken, fun hm => hm.2, hreader, ?_⟩
      rintro n ⟨⟩
  case h_3 buff n hpc =>
    rw [hpc] at hreader
    split at hstep <;> cases hstep
    rename_i hmux
    refine ⟨horder, by rintro ⟨⟩, fun _ => .inr trivial, fun hm => (hfree hmux).1 hm.1, ?_, ?_⟩
    · exact fun n hn => (hreader n hn).imp_right (Or.imp_right False.elim)
    · rintro n ⟨⟩
  case h_4 buff n hpc =>
    rw [hpc] at hexcl hreader
    have hrfree : ¬ s.reader.HoldsMux := fun hm => hexcl ⟨hm, trivial⟩
    split at hstep <;> cases hstep
    · -- too little room: the writer will wait, and the fill is still what it saw
      rename_i hshort
      refine ⟨horder, fun _ => ⟨hrfree, id⟩, by rintro ⟨⟩, fun hm => hm.2, ?_, ?_⟩
      · exact fun n' hn => (hreader n' hn).imp_right (Or.imp_right False.elim)
      · rintro n' ⟨⟩
        exact .inl hshort
    · -- a chunk was written: the reader's token is about to be given
      refine ⟨horder, fun _ => ⟨hrfree, id⟩, by rintro ⟨⟩, fun hm => hm.2, ?_, ?_⟩
      · exact fun n' _ => .inr (.inr trivial)
      · rintro n' ⟨⟩
  case h_5 buff n hpc =>
    rw [hpc] at hfree htaken hreader
    split at hstep <;> cases hstep
    refine ⟨horder, hfree, htaken, fun hm => hm.2, hreader, ?_⟩
    rintro n' ⟨⟩
  case h_6 buff hpc =>
    rw [hpc] at hfree htaken
    cases hstep
    refine ⟨horder, hfree, htaken, fun hm => hm.2, fun n' _ => .inr (.inl rfl), ?_⟩
    rintro n' ⟨⟩

theorem wakeup_invariant (b : SpiBuff) (ram : ℤ → UInt8) :
    (fifo b ram).Invariant (WakeupInv b) where
  init := wakeupInv_init b ram
  step {s a s'} h _ hstep := by
    cases a with
    | reader => exact h.reader_step hstep
    | writer => exact h.writer_step hstep
    | callRead len =>
      have horder := h.order.call_read hstep
      obtain ⟨-, hfree, htaken, -, -, hwriter⟩ := h
      simp only [fifo, callRead] at hstep
      split at hstep <;> cases hstep
      rename_i hidle
      rw [hidle] at hfree htaken hwriter
      refine ⟨horder, hfree, htaken, fun hm => hm.1, ?_, hwriter⟩
      rintro n ⟨⟩
    | callWrite buff =>
      have horder := h.order.call_write hstep
      obtain ⟨-, hfree, htaken, -, hreader, -⟩ := h
      simp only [fifo, callWrite] at hstep
      split at hstep <;> cases hstep
      rename_i hidle
      rw [hidle] at hfree htaken hreader
      refine ⟨horder, hfree, htaken, fun hm => hm.2, hreader, ?_⟩
      rintro n ⟨⟩

/-- In the middle of a call and unable to move. -/
def ReaderBlocked (b : SpiBuff) (s : Fifo) : Prop := s.reader ≠ .idle ∧ spiRamFifoRead b s = none

def WriterBlocked (b : SpiBuff) (s : Fifo) : Prop := s.writer ≠ .idle ∧ spiRamFifoWrite b s = none

theorem readerBlocked_cases {b : SpiBuff} {s : Fifo} (h : ReaderBlocked b s) :
    (∃ len n, s.reader = .lock len n ∧ s.mux = false) ∨
      (∃ len n, s.reader = .waitCanRead len n ∧ s.semCanRead = false) := by
  obtain ⟨hmid, hstep⟩ := h
  unfold spiRamFifoRead at hstep
  split at hstep
  case h_1 hpc => exact absurd hpc hmid
  case h_2 => split at hstep <;> cases hstep
  case h_3 len n hpc =>
    split at hstep
    · cases hstep
    · rename_i hmux
      exact .inl ⟨len, n, hpc, Bool.eq_false_of_not_eq_true hmux⟩
  case h_4 => split at hstep <;> cases hstep
  case h_5 => split at hstep <;> cases hstep
  case h_6 len n hpc =>
    split at hstep
    · cases hstep
    · rename_i htok
      exact .inr ⟨len, n, hpc, Bool.eq_false_of_not_eq_true htok⟩
  case h_7 => cases hstep

theorem writerBlocked_cases {b : SpiBuff} {s : Fifo} (h : WriterBlocked b s) :
    (∃ buff n, s.writer = .lock buff n ∧ s.mux = false) ∨
      (∃ buff n, s.writer = .waitCanWrite buff n ∧ s.semCanWrite = false) := by
  obtain ⟨hmid, hstep⟩ := h
  unfold spiRamFifoWrite at hstep
  split at hstep
  case h_1 hpc => exact absurd hpc hmid
  case h_2 => split at hstep <;> cases hstep
  case h_3 buff n hpc =>
    split at hstep
    · cases hstep
    · rename_i hmux
      exact .inl ⟨buff, n, hpc, Bool.eq_false_of_not_eq_true hmux⟩
  case h_4 => split at hstep <;> cases hstep
  case h_5 buff n hpc =>
    split at hstep
    · cases hstep
    · rename_i htok
      exact .inr ⟨buff, n, hpc, Bool.eq_false_of_not_eq_true htok⟩
  case h_6 => cases hstep

/-- Two waiting tasks would each lack a chunk of at most 64 bytes, one of data and one of room,
in a RAM of more than 128. -/
theorem WakeupInv.not_both_blocked {b : SpiBuff} {s : Fifo} (h : WakeupInv b s) :
    ¬ (ReaderBlocked b s ∧ WriterBlocked b s) := by
  rintro ⟨hr, hw⟩
  have hsize := spiramSize_pos b
  rcases readerBlocked_cases hr with ⟨len, n, hrpc, hmux⟩ | ⟨len, n, hrpc, hrtok⟩ <;>
    rcases writerBlocked_cases hw with ⟨buff, m, hwpc, hmux'⟩ | ⟨buff, m, hwpc, hwtok⟩
  · have hheld := h.mux_taken hmux
    rw [hrpc, hwpc] at hheld
    exact hheld.elim id id
  · have hheld := h.mux_taken hmux
    rw [hrpc, hwpc] at hheld
    exact hheld.elim id id
  · have hheld := h.mux_taken hmux'
    rw [hrpc, hwpc] at hheld
    exact hheld.elim id id
  · have hdata := h.reader_short n (by rw [hrpc]; rfl)
    have hroom := h.writer_short m (by rw [hwpc]; rfl)
    rw [hrtok, hwpc] at hdata
    rw [hwtok, hrpc] at hroom
    simp only [Bool.false_eq_true, WriterPc.AboutToGive, ReaderPc.AboutToGive, or_false]
      at hdata hroom
    have hrcur : s.reader.current = some (len, n) := by rw [hrpc]; rfl
    have hwcur : s.writer.current = some m := by rw [hwpc]; rfl
    have hn := h.order.reader_bounds hrcur
    have hm := h.order.writer_bounds hwcur
    omega

/-- **No lost wake-up, no deadlock.**  After every schedule: a reader waiting on `semCanRead`
without a token lacks data for its chunk, unless the writer is just about to give the token; the
same for the writer and free space; and the two tasks are never blocked together. -/
theorem fifo_no_lost_wakeup (b : SpiBuff) (ram : ℤ → UInt8) (acts : List FifoAct) :
    let s := (fifo b ram).run acts
    (∀ len n, s.reader = .waitCanRead len n → s.semCanRead = false →
        n = chunkSize b len s.fifoRpos ∧
          (s.fifoFill < n ∨ ∃ buff, s.writer = .giveCanRead buff)) ∧
      (∀ buff n, s.writer = .waitCanWrite buff n → s.semCanWrite = false →
        n = chunkSize b buff.length s.fifoWpos ∧
          (b.spiramSize - s.fifoFill < n ∨ ∃ len, s.reader = .giveCanWrite len)) ∧
      ¬ (ReaderBlocked b s ∧ WriterBlocked b s) := by
  intro s
  have h : WakeupInv b s := (wakeup_invariant b ram).run acts
  refine ⟨?_, ?_, h.not_both_blocked⟩
  · intro len n hpc htok
    refine ⟨(h.order.reader_chunk len n (by rw [hpc]; rfl)).2, ?_⟩
    rcases h.reader_short n (by rw [hpc]; rfl) with hshort | htrue | hgive
    · exact .inl hshort
    · rw [htok] at htrue
      cases htrue
    · cases hw : s.writer with
      | giveCanRead buff => exact .inr ⟨buff, rfl⟩
      | _ => rw [hw] at hgive; exact hgive.elim
  · intro buff n hpc htok
    have hchunk := (h.order.writer_chunk n (by rw [hpc]; rfl)).2
    rw [hpc] at hchunk
    refine ⟨hchunk, ?_⟩
    rcases h.writer_short n (by rw [hpc]; rfl) with hshort | htrue | hgive
    · exact .inl hshort
    · rw [htok] at htrue
      cases htrue
    · cases hr : s.reader with
      | giveCanWrite len => exact .inr ⟨len, rfl⟩
      | _ => rw [hr] at hgive; exact hgive.elim

end Mp3Decoder
