import Mp3Decoder.Driver.I2sFreertos
import Mathlib.Data.List.Nodup

/-!
# What `dmaQueue` holds

Number the buffers in the order the DMA sends them, so that number `j` is descriptor
`j % I2SDMABUFCNT`.  Whatever was popped and dropped, the queue holds a run of consecutive
numbers that ends at the last one finished.
-/

namespace Mp3Decoder

open Schedule

/-- The descriptors of `n` buffers in sending order, from number `lo` on. -/
def ringRun (lo n : ℕ) : List ℕ := (List.range' lo n).map (· % i2sDmaBufCnt)

@[simp] theorem ringRun_length (lo n : ℕ) : (ringRun lo n).length = n := by simp [ringRun]

theorem ringRun_concat (lo n : ℕ) :
    ringRun lo (n + 1) = ringRun lo n ++ [(lo + n) % i2sDmaBufCnt] := by
  simp [ringRun, List.range'_1_concat]

theorem ringRun_tail (lo n : ℕ) : (ringRun lo n).tail = ringRun (lo + 1) (n - 1) := by
  cases n with
  | zero => rfl
  | succ n => rfl

theorem ringRun_append (lo m n : ℕ) : ringRun lo m ++ ringRun (lo + m) n = ringRun lo (m + n) := by
  rw [ringRun, ringRun, ringRun, ← List.map_append, List.range'_append_1]

/-- A number less than a full turn past the run is not in it. -/
theorem not_mem_ringRun {lo n j : ℕ} (hlo : lo + n ≤ j) (hj : j < lo + i2sDmaBufCnt) :
    j % i2sDmaBufCnt ∉ ringRun lo n := by
  intro hmem
  obtain ⟨i, hi, heq⟩ := List.mem_map.mp hmem
  rw [List.mem_range'_1] at hi
  simp only [i2sDmaBufCnt] at heq hj
  omega

theorem ringRun_nodup {lo n : ℕ} (hn : n ≤ i2sDmaBufCnt) : (ringRun lo n).Nodup := by
  apply List.Nodup.map_on
  · intro i hi j hj heq
    rw [List.mem_range'_1] at hi hj
    simp only [i2sDmaBufCnt] at heq hn
    omega
  · exact List.nodup_range'

theorem nextLink_eq (j : ℕ) : nextLink (j % i2sDmaBufCnt) = (j + 1) % i2sDmaBufCnt := by
  rw [nextLink]
  by_cases h : j % i2sDmaBufCnt < i2sDmaBufCnt - 1
  · rw [if_pos h]
    simp only [i2sDmaBufCnt] at h ⊢
    omega
  · rw [if_neg h]
    simp only [i2sDmaBufCnt] at h ⊢
    omega

/-- The queue after an EOF: one more item at the back, and one less at the front if it was full. -/
theorem slcIsr_items (dmaQueue : DmaQueue) (underrunCnt : ℤ) (x : ℕ) :
    (slcIsr dmaQueue underrunCnt x).1.items =
      (if dmaQueue.isFull then dmaQueue.items.tail else dmaQueue.items) ++ [x] := by
  have hfits := dmaQueue.fits
  rw [slcIsr]
  split_ifs with hfull
  · rw [BoundedQueue.isFull_iff] at hfull
    rw [BoundedQueue.send_items, BoundedQueue.dropFront_items]
    rw [BoundedQueue.dropFront_items, List.length_tail, hfull]
    decide
  · rw [BoundedQueue.isFull_iff] at hfull
    exact BoundedQueue.send_items (by omega)

/-- A queue that holds the last of `k` finished buffers does so after one more EOF. -/
theorem slcIsr_ringRun {dmaQueue : DmaQueue} {k : ℕ} (hle : dmaQueue.items.length ≤ k)
    (hitems : dmaQueue.items = ringRun (k - dmaQueue.items.length) dmaQueue.items.length)
    (underrunCnt : ℤ) :
    ∃ m ≤ k + 1, (slcIsr dmaQueue underrunCnt (k % i2sDmaBufCnt)).1.items =
      ringRun (k + 1 - m) m := by
  rw [slcIsr_items]
  by_cases hfull : dmaQueue.isFull = true
  · -- the run loses its first number and gains the one just finished
    have hlen : dmaQueue.items.length = 13 := (BoundedQueue.isFull_iff _).mp hfull
    rw [hlen] at hle hitems
    refine ⟨13, by omega, ?_⟩
    rw [if_pos hfull, hitems, ringRun_tail, ringRun_concat (k + 1 - 13) 12]
    rw [show k - 13 + 1 = k + 1 - 13 by omega, show k + 1 - 13 + 12 = k by omega]
  · refine ⟨dmaQueue.items.length + 1, by omega, ?_⟩
    rw [if_neg hfull, ringRun_concat, Nat.add_sub_add_right, ← hitems]
    rw [show k - dmaQueue.items.length + dmaQueue.items.length = k by omega]

structure RingInv (s : DmaRing) : Prop where
  finished_eq : s.finished = ringRun 0 s.finished.length
  sending_eq : s.sending = s.finished.length % i2sDmaBufCnt
  queued_le : s.dmaQueue.items.length ≤ s.finished.length
  items_eq : s.dmaQueue.items =
    ringRun (s.finished.length - s.dmaQueue.items.length) s.dmaQueue.items.length

theorem ringInv_init : RingInv dmaRing.init := ⟨rfl, rfl, Nat.le_refl _, rfl⟩

theorem RingInv.eof {s s' : DmaRing} (h : RingInv s) (hstep : dmaRing.step s .eof = some s') :
    RingInv s' := by
  obtain ⟨hfin, hsend, hle, hitems⟩ := h
  obtain ⟨m, hm, hrun⟩ := slcIsr_ringRun hle hitems s.underrunCnt
  rw [← hsend] at hrun
  have hqueued : (slcIsr s.dmaQueue s.underrunCnt s.sending).1.items.length = m := by
    rw [hrun, ringRun_length]
  have hfinished : (s.finished ++ [s.sending]).length = s.finished.length + 1 := by
    rw [List.length_append, List.length_singleton]
  cases hstep
  refine ⟨?_, ?_, ?_, ?_⟩
  · show s.finished ++ [s.sending] = ringRun 0 (s.finished ++ [s.sending]).length
    rw [hfinished, ringRun_concat, ← hfin, Nat.zero_add, hsend]
  · show nextLink s.sending = (s.finished ++ [s.sending]).length % i2sDmaBufCnt
    rw [hfinished, hsend, nextLink_eq]
  · show _ ≤ (s.finished ++ [s.sending]).length
    rwa [hqueued, hfinished]
  · show _ = ringRun ((s.finished ++ [s.sending]).length - _) _
    rw [hqueued, hfinished]
    exact hrun

theorem RingInv.pop {s s' : DmaRing} (h : RingInv s) (hstep : dmaRing.step s .pop = some s') :
    RingInv s' := by
  obtain ⟨hfin, hsend, hle, hitems⟩ := h
  simp only [dmaRing] at hstep
  split at hstep <;> cases hstep
  rename_i hfront
  obtain ⟨x, hx⟩ := Option.isSome_iff_exists.mp hfront
  have hlen := congrArg List.length (BoundedQueue.items_of_front hx)
  rw [List.length_cons, List.length_tail] at hlen
  refine ⟨hfin, hsend, ?_, ?_⟩
  · simp only [BoundedQueue.dropFront_items, List.length_tail]
    omega
  · simp only [BoundedQueue.dropFront_items, List.length_tail]
    conv_lhs => rw [hitems, ringRun_tail]
    congr 1
    omega

theorem ring_invariant : dmaRing.Invariant RingInv where
  init := ringInv_init
  step {s a s'} h _ hstep := by
    cases a with
    | eof => exact h.eof hstep
    | pop => exact h.pop hstep

/-- **The queue is a run of the ring.**  After every interleaving of interrupts and pops, with or
without underruns, `dmaQueue` holds consecutive ring indices that end just before the buffer being
sent: the buffers that finished last, in the order they finished, at most 13, without repetition,
and never the one being sent.

Here an interrupt is handled at its EOF.  In `i2s` the same holds whenever no EOF is pending.  Between
an EOF and its `slc_isr` the DMA is one buffer further on: the queue ends just before the buffer that
has finished, which is not in it yet, and by `i2s_refines_dmaRing` it is as before the EOF. -/
theorem dmaQueue_contiguous (acts : List RingAct) :
    let s := dmaRing.run acts
    let m := s.dmaQueue.items.length
    s.dmaQueue.items <:+ s.finished ∧
      s.finished = (List.range s.finished.length).map (· % i2sDmaBufCnt) ∧
      s.dmaQueue.items =
        (List.range m).map (fun i => (s.sending + i2sDmaBufCnt - m + i) % i2sDmaBufCnt) ∧
      m ≤ 13 ∧ s.dmaQueue.items.Nodup ∧
      s.sending = s.finished.length % i2sDmaBufCnt ∧ s.sending ∉ s.dmaQueue.items := by
  intro s m
  obtain ⟨hfin, hsend, hle, hitems⟩ : RingInv s := ring_invariant.run acts
  have hm : m ≤ 13 := s.dmaQueue.fits
  have hm' : s.dmaQueue.items.length = m := rfl
  rw [hm'] at hle hitems
  refine ⟨⟨ringRun 0 (s.finished.length - m), ?_⟩, ?_, ?_, hm, ?_, hsend, ?_⟩
  · conv_rhs => rw [hfin]
    rw [hitems]
    conv_lhs => rw [← Nat.zero_add (s.finished.length - m)]
    rw [Nat.zero_add, ← Nat.sub_add_cancel hle]
    simpa using ringRun_append 0 (s.finished.length - m) m
  · rw [List.range_eq_range']
    exact hfin
  · rw [hitems, ringRun, List.range'_eq_map_range, List.map_map]
    refine List.map_congr_left fun i _ => ?_
    simp only [Function.comp_apply, hsend, i2sDmaBufCnt]
    omega
  · rw [hitems]
    exact ringRun_nodup (by simp only [i2sDmaBufCnt]; omega)
  · rw [hitems, hsend]
    exact not_mem_ringRun (by omega) (by simp only [i2sDmaBufCnt]; omega)

end Mp3Decoder
