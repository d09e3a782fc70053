import Mp3Decoder.User.SpiramFifo
import Mathlib.Tactic.Linarith

/-!
# The FIFO delivers what was written, in order

The invariant accounts for every byte passed to `spiRamFifoWrite`: it has been delivered, or it
is in the window of `fifoFill` cells from `fifoRpos` on, or it is still in the writer's buffer.
The chunk each task computed before taking `mux` stays the right one, because only that task
moves its own position.
-/

namespace Mp3Decoder

open RingWindow Schedule

/-- The chunk a reader is working on, with what is left of its call. -/
def ReaderPc.current : ReaderPc → Option (ℤ × ℤ)
  | .lock len n | .locked len n | .lowmark len n | .waitCanRead len n => some (len, n)
  | .idle | .chunk _ | .giveCanWrite _ => none

def WriterPc.current : WriterPc → Option ℤ
  | .lock _ n | .locked _ n | .waitCanWrite _ n => some n
  | .idle | .chunk _ | .giveCanRead _ => none

/-- What is left of the reader's call. -/
def ReaderPc.left : ReaderPc → ℤ
  | .idle => 0
  | .chunk len | .lock len _ | .locked len _ | .lowmark len _ | .waitCanRead len _
  | .giveCanWrite len => len

/-- The bytes of the current call not yet in the RAM. -/
def WriterPc.rest : WriterPc → List UInt8
  | .idle => []
  | .chunk buff | .lock buff _ | .locked buff _ | .waitCanWrite buff _ | .giveCanRead buff => buff

/-- The bytes stored in the RAM, oldest first. -/
def Fifo.stored (b : SpiBuff) (s : Fifo) : List UInt8 :=
  ringWindow s.spiram b.spiramSize s.fifoRpos s.fifoFill.toNat

structure FifoInv (b : SpiBuff) (s : Fifo) : Prop where
  fill_nonneg : 0 ≤ s.fifoFill
  fill_le : s.fifoFill ≤ b.spiramSize
  rpos_nonneg : 0 ≤ s.fifoRpos
  rpos_lt : s.fifoRpos < b.spiramSize
  wpos_eq : (s.fifoRpos + s.fifoFill) % b.spiramSize = s.fifoWpos
  accounted : s.passed = s.delivered ++ s.stored b ++ s.writer.rest
  reader_chunk : ∀ len n, s.reader.current = some (len, n) →
    0 < len ∧ n = chunkSize b len s.fifoRpos
  writer_chunk : ∀ n, s.writer.current = some n →
    0 < s.writer.rest.length ∧ n = chunkSize b s.writer.rest.length s.fifoWpos

theorem FifoInv.wpos_nonneg {b : SpiBuff} {s : Fifo} (h : FifoInv b s) : 0 ≤ s.fifoWpos :=
  h.wpos_eq ▸ Int.emod_nonneg _ (by have := spiramSize_pos b; omega)

theorem FifoInv.wpos_lt {b : SpiBuff} {s : Fifo} (h : FifoInv b s) :
    s.fifoWpos < b.spiramSize :=
  h.wpos_eq ▸ Int.emod_lt_of_pos _ (by have := spiramSize_pos b; omega)

/-- The reader's chunk lies inside the RAM. -/
theorem FifoInv.reader_bounds {b : SpiBuff} {s : Fifo} (h : FifoInv b s) {len n : ℤ}
    (hn : s.reader.current = some (len, n)) :
    1 ≤ n ∧ n ≤ 64 ∧ n ≤ len ∧ s.fifoRpos + n ≤ b.spiramSize := by
  obtain ⟨hlen, rfl⟩ := h.reader_chunk len n hn
  exact chunkSize_bounds hlen h.rpos_lt

theorem FifoInv.writer_bounds {b : SpiBuff} {s : Fifo} (h : FifoInv b s) {n : ℤ}
    (hn : s.writer.current = some n) :
    1 ≤ n ∧ n ≤ 64 ∧ n ≤ s.writer.rest.length ∧ s.fifoWpos + n ≤ b.spiramSize := by
  obtain ⟨hlen, rfl⟩ := h.writer_chunk n hn
  exact chunkSize_bounds (by omega) h.wpos_lt

theorem fifoInv_init (b : SpiBuff) (ram : ℤ → UInt8) : FifoInv b (spiRamFifoInit ram) where
  fill_nonneg := le_rfl
  fill_le := by have := spiramSize_pos b; exact (by omega : (0 : ℤ) ≤ b.spiramSize)
  rpos_nonneg := le_rfl
  rpos_lt := by have := spiramSize_pos b; exact (by omega : (0 : ℤ) < b.spiramSize)
  wpos_eq := by simp [spiRamFifoInit]
  accounted := by simp [spiRamFifoInit, Fifo.stored, ringWindow, WriterPc.rest]
  reader_chunk := by simp [spiRamFifoInit, ReaderPc.current]
  writer_chunk := by simp [spiRamFifoInit, WriterPc.current]

/-- Moving a chunk out of the RAM keeps the account: the bytes read are the oldest stored. -/
theorem FifoInv.read_chunk {b : SpiBuff} {s : Fifo} (h : FifoInv b s) {len n : ℤ}
    (hpc : s.reader = .locked len n) (hfill : ¬ s.fifoFill < n) :
    FifoInv b { s with
      readBuff := s.readBuff ++ spiRamRead s.spiram s.fifoRpos n
      delivered := s.delivered ++ spiRamRead s.spiram s.fifoRpos n
      fifoFill := s.fifoFill - n
      fifoRpos := advancePos b s.fifoRpos n
      mux := true
      reader := .giveCanWrite (len - n) } := by
  have hcur : s.reader.current = some (len, n) := by rw [hpc]; rfl
  obtain ⟨hn1, _, _, hend⟩ := h.reader_bounds hcur
  have hsize := spiramSize_pos b
  have hfill0 := h.fill_nonneg
  have hfillLe := h.fill_le
  have hpos := advancePos_eq h.rpos_nonneg (by omega) hend
  have hcast : ((n.toNat : ℕ) : ℤ) = n := Int.toNat_of_nonneg (by omega)
  refine ⟨by simp only; omega, by simp only; omega, ?_, ?_, ?_, ?_, ?_, h.writer_chunk⟩
  · simpa only [hpos] using Int.emod_nonneg _ (by omega)
  · simpa only [hpos] using Int.emod_lt_of_pos _ (by omega)
  · simp only [hpos, Int.emod_add_emod]
    rw [show s.fifoRpos + n + (s.fifoFill - n) = s.fifoRpos + s.fifoFill by ring]
    exact h.wpos_eq
  · have hle : n.toNat ≤ s.fifoFill.toNat := by omega
    have hinside : s.fifoRpos + n.toNat ≤ b.spiramSize := by omega
    have hpop := ringWindow_pop s.spiram hle h.rpos_nonneg hinside
    rw [hcast] at hpop
    have hrest : (s.fifoFill - n).toNat = s.fifoFill.toNat - n.toNat := by omega
    have hacc := h.accounted
    simp only [Fifo.stored] at hacc ⊢
    rw [hacc, hpop, hpos, hrest, spiRamRead]
    simp only [List.append_assoc]
  · intro len' n' hcur
    cases hcur

/-- Moving a chunk into the RAM keeps the account: the cells past the window are free. -/
theorem FifoInv.write_chunk {b : SpiBuff} {s : Fifo} (h : FifoInv b s) {buff : List UInt8} {n : ℤ}
    (hpc : s.writer = .locked buff n) (hroom : ¬ b.spiramSize - s.fifoFill < n) :
    FifoInv b { s with
      spiram := spiRamWrite s.spiram s.fifoWpos buff n
      fifoFill := s.fifoFill + n
      fifoWpos := advancePos b s.fifoWpos n
      mux := true
      writer := .giveCanRead (buff.drop n.toNat) } := by
  obtain ⟨hn1, _, hlen, hend⟩ := h.writer_bounds (n := n) (by rw [hpc]; rfl)
  rw [hpc] at hlen
  simp only [WriterPc.rest] at hlen
  have hsize := spiramSize_pos b
  have hfill0 := h.fill_nonneg
  have hpos := advancePos_eq h.wpos_nonneg (by omega) hend
  have hchunk : (buff.take n.toNat).length = n.toNat := by
    rw [List.length_take]; omega
  have hcast : ((n.toNat : ℕ) : ℤ) = n := Int.toNat_of_nonneg (by omega)
  refine ⟨by simp only; omega, by simp only; omega, h.rpos_nonneg, h.rpos_lt, ?_, ?_,
    h.reader_chunk, ?_⟩
  · rw [hpos, ← add_assoc, ← Int.emod_add_emod, h.wpos_eq]
  · have haddr : (s.fifoRpos + s.fifoFill.toNat) % b.spiramSize = s.fifoWpos := by
      rw [Int.toNat_of_nonneg hfill0]
      exact h.wpos_eq
    have hfits : (s.fifoFill.toNat : ℤ) + (buff.take n.toNat).length ≤ b.spiramSize := by
      rw [hchunk]
      omega
    have hinside : s.fifoWpos + (buff.take n.toNat).length ≤ b.spiramSize := by
      rw [hchunk]
      omega
    have hpush := @ringWindow_push _ s.spiram _ _ _ _ _ haddr hfits hinside h.wpos_nonneg
    have hgrown : (s.fifoFill + n).toNat = s.fifoFill.toNat + (buff.take n.toNat).length := by
      rw [hchunk]; omega
    have hacc := h.accounted
    rw [hpc] at hacc
    simp only [Fifo.stored, WriterPc.rest] at hacc ⊢
    rw [spiRamWrite, hgrown, hpush, hacc]
    simp only [List.append_assoc, List.take_append_drop]
  · intro n' hcur
    cases hcur

theorem FifoInv.reader_step {b : SpiBuff} {s s' : Fifo} (h : FifoInv b s)
    (hstep : spiRamFifoRead b s = some s') : FifoInv b s' := by
  -- only `locked` touches the shared variables; elsewhere the chunk is carried along or dropped
  unfold spiRamFifoRead at hstep
  split at hstep
  case h_1 => cases hstep
  case h_2 len hpc =>
    split at hstep <;> cases hstep
    · refine { h with reader_chunk := ?_ }
      rintro len' n' hcur
      cases hcur
      exact ⟨by assumption, rfl⟩
    · exact { h with reader_chunk := by rintro _ _ ⟨⟩ }
  case h_3 len n hpc =>
    split at hstep <;> cases hstep
    refine { h with reader_chunk := ?_ }
    exact fun len' n' hcur => h.reader_chunk len' n' (by rw [hpc]; exact hcur)
  case h_4 len n hpc =>
    split at hstep <;> cases hstep
    · refine { h with reader_chunk := ?_ }
      exact fun len' n' hcur => h.reader_chunk len' n' (by rw [hpc]; exact hcur)
    · exact h.read_chunk hpc (by assumption)
  case h_5 len n hpc =>
    split at hstep <;> cases hstep
    · refine { h with reader_chunk := ?_ }
      exact fun len' n' hcur => h.reader_chunk len' n' (by rw [hpc]; exact hcur)
    · exact { h with reader_chunk := by rintro _ _ ⟨⟩ }
  case h_6 len n hpc =>
    split at hstep <;> cases hstep
    exact { h with reader_chunk := by rintro _ _ ⟨⟩ }
  case h_7 len hpc =>
    cases hstep
    exact { h with reader_chunk := by rintro _ _ ⟨⟩ }

theorem FifoInv.writer_step {b : SpiBuff} {s s' : Fifo} (h : FifoInv b s)
    (hstep : spiRamFifoWrite b s = some s') : FifoInv b s' := by
  have hacc := h.accounted
  unfold spiRamFifoWrite at hstep
  split at hstep
  case h_1 => cases hstep
  case h_2 buff hpc =>
    rw [hpc] at hacc
    split at hstep <;> cases hstep
    · refine { h with accounted := hacc, writer_chunk := ?_ }
      rintro n' hcur
      cases hcur
      exact ⟨by simp only [WriterPc.rest]; omega, rfl⟩
    · have hnil : buff = [] := List.length_eq_zero_iff.mp (by omega)
      subst hnil
      exact { h with accounted := hacc, writer_chunk := by rintro _ ⟨⟩ }
  case h_3 buff n hpc =>
    rw [hpc] at hacc
    split at hstep <;> cases hstep
    refine { h with accounted := hacc, writer_chunk := ?_ }
    intro n' hcur
    have hchunk := h.writer_chunk n' (by rw [hpc]; exact hcur)
    rwa [hpc] at hchunk
  case h_4 buff n hpc =>
    split at hstep <;> cases hstep
    · rw [hpc] at hacc
      refine { h with accounted := hacc, writer_chunk := ?_ }
      intro n' hcur
      have hchunk := h.writer_chunk n' (by rw [hpc]; exact hcur)
      rwa [hpc] at hchunk
    · exact h.write_chunk hpc (by assumption)
  case h_5 buff n hpc =>
    rw [hpc] at hacc
    split at hstep <;> cases hstep
    exact { h with accounted := hacc, writer_chunk := by rintro _ ⟨⟩ }
  case h_6 buff hpc =>
    rw [hpc] at hacc
    cases hstep
    exact { h with accounted := hacc, writer_chunk := by rintro _ ⟨⟩ }

theorem FifoInv.call_read {b : SpiBuff} {s s' : Fifo} (h : FifoInv b s) {len : ℤ}
    (hstep : callRead len s = some s') : FifoInv b s' := by
  unfold callRead at hstep
  split at hstep <;> cases hstep
  exact { h with reader_chunk := by rintro _ _ ⟨⟩ }

theorem FifoInv.call_write {b : SpiBuff} {s s' : Fifo} (h : FifoInv b s) {buff : List UInt8}
    (hstep : callWrite buff s = some s') : FifoInv b s' := by
  have hacc := h.accounted
  unfold callWrite at hstep
  split at hstep <;> cases hstep
  rename_i hidle
  rw [hidle] at hacc
  refine { h with accounted := ?_, writer_chunk := by rintro _ ⟨⟩ }
  simpa only [WriterPc.rest, List.append_nil, Fifo.stored] using congrArg (· ++ buff) hacc

theorem fifo_invariant (b : SpiBuff) (ram : ℤ → UInt8) : (fifo b ram).Invariant (FifoInv b) where
  init := fifoInv_init b ram
  step {s a s'} h _ hstep := by
    cases a with
    | callRead len => exact h.call_read hstep
    | callWrite buff => exact h.call_write hstep
    | reader => exact h.reader_step hstep
    | writer => exact h.writer_step hstep

/-- **The FIFO keeps order.**  After every schedule of one reader and one writer, whatever their
calls, what was delivered is a prefix of what was passed in, the fill and both positions are in
range and agree, and every chunk in progress has between 1 and 64 bytes and stays inside the
RAM. -/
theorem fifo_delivers_in_order (b : SpiBuff) (ram : ℤ → UInt8) (acts : List FifoAct) :
    let s := (fifo b ram).run acts
    s.delivered <+: s.passed ∧
      (0 ≤ s.fifoFill ∧ s.fifoFill ≤ b.spiramSize) ∧
      (0 ≤ s.fifoRpos ∧ s.fifoRpos < b.spiramSize) ∧
      (0 ≤ s.fifoWpos ∧ s.fifoWpos < b.spiramSize) ∧
      (s.fifoRpos + s.fifoFill) % b.spiramSize = s.fifoWpos ∧
      (∀ len n, s.reader.current = some (len, n) →
        1 ≤ n ∧ n ≤ 64 ∧ s.fifoRpos + n ≤ b.spiramSize) ∧
      (∀ n, s.writer.current = some n → 1 ≤ n ∧ n ≤ 64 ∧ s.fifoWpos + n ≤ b.spiramSize) := by
  intro s
  have h : FifoInv b s := (fifo_invariant b ram).run acts
  refine ⟨⟨s.stored b ++ s.writer.rest, ?_⟩, ⟨h.fill_nonneg, h.fill_le⟩,
    ⟨h.rpos_nonneg, h.rpos_lt⟩, ⟨h.wpos_nonneg, h.wpos_lt⟩, h.wpos_eq, ?_, ?_⟩
  · rw [h.accounted, List.append_assoc]
  · intro len n hn
    obtain ⟨h1, h64, _, hend⟩ := h.reader_bounds hn
    exact ⟨h1, h64, hend⟩
  · intro n hn
    obtain ⟨h1, h64, _, hend⟩ := h.writer_bounds hn
    exact ⟨h1, h64, hend⟩

end Mp3Decoder
