import Mp3Decoder.Lib.MachineInt
import Mp3Decoder.Lib.Schedule
import Mp3Decoder.User.SpiramFifo
import Mathlib.Algebra.Order.Group.Abs
import Mathlib.Algebra.Order.Ring.Int
import Mathlib.Tactic.Linarith
import Mathlib.Tactic.Ring

/-!
# The playback rate (`render_sample_block`)

Every 1500 blocks `recalcAddDelSamp` sets `sampAddDel`, the samples to drop from each block in units
of `2 ^ -24`, from the fill of the FIFO.  `render_sample_block` adds it to `sampErr` and works whole
samples off, one at a time.

How a sample becomes a word for the I2S port depends on the build, and is a parameter here.
-/

namespace Mp3Decoder

open MachineInt Schedule

/-! ### The code -/

/-- The static variables of `recalcAddDelSamp`. -/
structure RecalcStatics where
  cnt : ℤ := 0
  minFifoFill : ℤ := 0

/-- What a call of `recalcAddDelSamp` reads from the FIFO, the fill twice. -/
structure FifoReads where
  fill : ℤ
  fillAgain : ℤ
  underrunCt : ℤ

/-- `ADD_DEL_BUFFPERSAMP` -/
def addDelBuffpersamp : ℤ := 1000

/-- `ADD_DEL_BUFFPERSAMP_NOSPIRAM` -/
def addDelBuffpersampNospiram : ℤ := 1500

def recalcAddDelSamp (b : SpiBuff) (st : RecalcStatics) (reads : FifoReads) (oldVal : ℤ) :
    Option (RecalcStatics × ℤ) := do
  let minFifoFill := if reads.fill < st.minFifoFill then reads.fill else st.minFifoFill
  let cnt ← int32 (st.cnt + 1)
  if cnt < 1500 then
    return (⟨cnt, minFifoFill⟩, oldVal)
  else if b.spiramSize < 10 * 1024 then
    let tgt := 1600
    -- `prevUdr` is not static
    let udr ← int32 (reads.underrunCt - 0)
    let minFifoFill := if udr ≠ 0 then -1 else minFifoFill
    let below ← int32 (minFifoFill - tgt)
    let change ← int32 (below * addDelBuffpersampNospiram)
    let ret ← int32 (oldVal + change)
    return (⟨0, 9999⟩, ret)
  else
    let tgt := b.spiramSize / 2
    let above ← int32 (reads.fillAgain - tgt)
    let ret ← int32 (above * addDelBuffpersamp)
    return (⟨0, minFifoFill⟩, ret)

/-- The state of `render_sample_block`, with the words given to `i2sPushSample` so far.  `copies`
(how often each sample was pushed) and `used` (the values of `sampAddDel`, call by call) are ghost
records. -/
structure Renderer (κ : Type) where
  recalc : RecalcStatics
  sampAddDel : ℤ
  sampErr : ℤ
  /-- the static variables of the conversion -/
  conv : κ
  pushed : List (BitVec 32)
  copies : List ℕ
  used : List ℤ

variable {κ : Type} (convert : κ → Int16 → κ × BitVec 32)

/-- A round of the loop. -/
def renderSample (r : Renderer κ) (s : Int16) : Option (Renderer κ) :=
  let conv := (convert r.conv s).1
  let samp := (convert r.conv s).2
  if r.sampErr > 2 ^ 24 then do
    let sampErr ← int32 (r.sampErr - 2 ^ 24)
    return { r with conv, sampErr, copies := r.copies ++ [0] }
  else if r.sampErr < -2 ^ 24 then do
    let sampErr ← int32 (r.sampErr + 2 ^ 24)
    return { r with
      conv, sampErr, pushed := r.pushed ++ [samp, samp], copies := r.copies ++ [2] }
  else
    return { r with conv, pushed := r.pushed ++ [samp], copies := r.copies ++ [1] }

def renderSampleBlock (b : SpiBuff) (r : Renderer κ) (block : List Int16) (reads : FifoReads) :
    Option (Renderer κ) := do
  let (recalc, sampAddDel) ← recalcAddDelSamp b r.recalc reads r.sampAddDel
  let sampErr ← int32 (r.sampErr + sampAddDel)
  block.foldlM (renderSample convert)
    { r with recalc, sampAddDel, sampErr, used := r.used ++ [sampAddDel] }

/-- A call with a block of 32 samples, at fills that the FIFO can have. -/
structure RenderCall (b : SpiBuff) where
  block : List Int16
  length_eq : block.length = 32
  reads : FifoReads
  fillAgain_nonneg : 0 ≤ reads.fillAgain
  fillAgain_le : reads.fillAgain ≤ b.spiramSize

def playbackMachine (b : SpiBuff) (conv : κ) : Machine (Renderer κ) (RenderCall b) where
  init := {
    recalc := {}
    sampAddDel := 0
    sampErr := 0
    conv := conv
    pushed := []
    copies := []
    used := [] }
  step r call := renderSampleBlock convert b r call.block call.reads

/-! ### The loop -/

/-- The words of a block. -/
def converted : κ → List Int16 → List (BitVec 32)
  | _, [] => []
  | conv, s :: block => (convert conv s).2 :: converted (convert conv s).1 block

/-- Each word as often as its entry in `copies` says. -/
def pushes : List (BitVec 32) → List ℕ → List (BitVec 32)
  | word :: words, n :: copies => List.replicate n word ++ pushes words copies
  | _, _ => []

/-- The samples of `block` go from `r` to `r'`, with the given copies. -/
structure Rendered (r r' : Renderer κ) (block : List Int16) (copies : List ℕ) : Prop where
  length_eq : copies.length = block.length
  le_two : ∀ n ∈ copies, n ≤ 2
  pushed_eq : r'.pushed = r.pushed ++ pushes (converted convert r.conv block) copies
  copies_eq : r'.copies = r.copies ++ copies
  sampErr_eq : r'.sampErr = r.sampErr - (copies.count 0 - copies.count 2 : ℤ) * 2 ^ 24
  recalc_eq : r'.recalc = r.recalc
  sampAddDel_eq : r'.sampAddDel = r.sampAddDel
  used_eq : r'.used = r.used

variable {convert}

theorem Rendered.nil (r : Renderer κ) : Rendered convert r r [] [] where
  length_eq := rfl
  le_two := by simp
  pushed_eq := by simp [pushes]
  copies_eq := by simp
  sampErr_eq := by simp
  recalc_eq := rfl
  sampAddDel_eq := rfl
  used_eq := rfl

/-- One sample has been converted and pushed `n` times. -/
def Renderer.copied (convert : κ → Int16 → κ × BitVec 32) (r : Renderer κ) (s : Int16) (n : ℕ) :
    Renderer κ := { r with
  conv := (convert r.conv s).1
  sampErr := r.sampErr - ((if n = 0 then 1 else 0) - (if n = 2 then 1 else 0)) * 2 ^ 24
  pushed := r.pushed ++ List.replicate n (convert r.conv s).2
  copies := r.copies ++ [n] }

/-- One sample in front of a block. -/
theorem Rendered.cons {r r' : Renderer κ} {s : Int16} {block : List Int16} {n : ℕ}
    {copies : List ℕ} (hn : n ≤ 2) (h : Rendered convert (r.copied convert s n) r' block copies) :
    Rendered convert r r' (s :: block) (n :: copies) := by
  constructor
  · rw [List.length_cons, List.length_cons, h.length_eq]
  · intro k hk
    rcases List.mem_cons.mp hk with rfl | hk
    · exact hn
    · exact h.le_two k hk
  · rw [h.pushed_eq, converted, pushes, Renderer.copied, List.append_assoc]
  · rw [h.copies_eq, Renderer.copied, List.append_assoc, List.singleton_append]
  · rw [h.sampErr_eq, Renderer.copied]
    simp only [List.count_cons, beq_iff_eq, Nat.cast_add, Nat.cast_ite, Nat.cast_one, Nat.cast_zero]
    ring
  · exact h.recalc_eq
  · exact h.sampAddDel_eq
  · exact h.used_eq

/-- A sample is dropped, doubled or pushed once. -/
theorem renderSample_cases (r : Renderer κ) (s : Int16)
    (hint : -2 ^ 31 ≤ r.sampErr ∧ r.sampErr < 2 ^ 31) :
    (2 ^ 24 < r.sampErr ∧ renderSample convert r s = some (r.copied convert s 0)) ∨
    (r.sampErr < -2 ^ 24 ∧ renderSample convert r s = some (r.copied convert s 2)) ∨
    ((-2 ^ 24 ≤ r.sampErr ∧ r.sampErr ≤ 2 ^ 24) ∧
      renderSample convert r s = some (r.copied convert s 1)) := by
  by_cases hdrop : r.sampErr > 2 ^ 24
  · left
    refine ⟨hdrop, ?_⟩
    rw [renderSample, if_pos hdrop, int32_of_mem (by omega) (by omega)]
    simp [Renderer.copied]
  right
  by_cases hdouble : r.sampErr < -2 ^ 24
  · left
    refine ⟨hdouble, ?_⟩
    rw [renderSample, if_neg hdrop, if_pos hdouble, int32_of_mem (by omega) (by omega)]
    simp [Renderer.copied, List.replicate]
  · right
    refine ⟨⟨by omega, by omega⟩, ?_⟩
    rw [renderSample, if_neg hdrop, if_neg hdouble]
    simp [Renderer.copied]

/-- The loop works `sampErr` off: from at most `k + 1` samples of error it drops or doubles at most
`k`, all in one direction, and leaves at most one. -/
theorem renderSamples_eq {k : ℕ} {block : List Int16} (hk : k ≤ block.length) {r : Renderer κ}
    (hlo : -((k + 1) * 2 ^ 24) ≤ r.sampErr) (hhi : r.sampErr ≤ (k + 1) * 2 ^ 24)
    (hint : -2 ^ 31 ≤ r.sampErr ∧ r.sampErr < 2 ^ 31) :
    ∃ r' copies, block.foldlM (renderSample convert) r = some r' ∧
      Rendered convert r r' block copies ∧ |r'.sampErr| ≤ 2 ^ 24 ∧
      (-2 ^ 24 ≤ r.sampErr → copies.count 0 ≤ k ∧ copies.count 2 = 0) ∧
      (r.sampErr ≤ 2 ^ 24 → copies.count 2 ≤ k ∧ copies.count 0 = 0) := by
  induction block generalizing k r with
  | nil =>
    have hzero : k = 0 := Nat.le_zero.mp hk
    rw [hzero] at hlo hhi
    push_cast at hlo hhi
    refine ⟨r, [], rfl, .nil r, ?_, ?_, ?_⟩
    · rw [abs_le]
      constructor
      · linarith
      · linarith
    · intro _
      exact ⟨Nat.zero_le k, rfl⟩
    · intro _
      exact ⟨Nat.zero_le k, rfl⟩
  | cons s block ih =>
    rw [List.length_cons] at hk
    rw [List.foldlM_cons]
    rcases renderSample_cases r s hint with ⟨hdrop, hstep⟩ | ⟨hdouble, hstep⟩ | ⟨hfew, hstep⟩
    · -- one sample is dropped
      obtain ⟨k, rfl⟩ : ∃ j, k = j + 1 :=
        Nat.exists_eq_succ_of_ne_zero (by rintro rfl; push_cast at hlo hhi; linarith)
      push_cast at hlo hhi
      have herr : (r.copied convert s 0).sampErr = r.sampErr - 2 ^ 24 := by simp [Renderer.copied]
      obtain ⟨r', copies, hfold, hrendered, hsmall, hup, -⟩ :=
        ih (k := k) (r := r.copied convert s 0) (by omega) (by rw [herr]; linarith)
          (by rw [herr]; linarith) (by omega)
      obtain ⟨hzero, htwo⟩ := hup (by omega)
      rw [hstep]
      refine ⟨r', 0 :: copies, hfold, hrendered.cons (Nat.zero_le 2), hsmall, ?_, ?_⟩
      · intro _
        simp only [List.count_cons_self, Nat.add_le_add_iff_right]
        exact ⟨hzero, by simpa using htwo⟩
      · intro hle
        omega
    · -- one sample is doubled
      obtain ⟨k, rfl⟩ : ∃ j, k = j + 1 :=
        Nat.exists_eq_succ_of_ne_zero (by rintro rfl; push_cast at hlo hhi; linarith)
      push_cast at hlo hhi
      have herr : (r.copied convert s 2).sampErr = r.sampErr + 2 ^ 24 := by simp [Renderer.copied]
      obtain ⟨r', copies, hfold, hrendered, hsmall, -, hdown⟩ :=
        ih (k := k) (r := r.copied convert s 2) (by omega) (by rw [herr]; linarith)
          (by rw [herr]; linarith) (by omega)
      obtain ⟨htwo, hzero⟩ := hdown (by omega)
      rw [hstep]
      refine ⟨r', 2 :: copies, hfold, hrendered.cons (Nat.le_refl 2), hsmall, ?_, ?_⟩
      · intro hge
        omega
      · intro _
        simp only [List.count_cons_self, Nat.add_le_add_iff_right]
        exact ⟨htwo, by simpa using hzero⟩
    · -- nothing is left to do in this block
      have herr : (r.copied convert s 1).sampErr = r.sampErr := by simp [Renderer.copied]
      obtain ⟨r', copies, hfold, hrendered, hsmall, hup, hdown⟩ :=
        ih (k := 0) (r := r.copied convert s 1) (Nat.zero_le _)
          (by rw [herr]; push_cast; linarith) (by rw [herr]; push_cast; linarith) (by omega)
      obtain ⟨hzero, htwo⟩ := hup (by omega)
      have hnone : List.count 0 copies = 0 := Nat.le_zero.mp hzero
      rw [hstep]
      refine ⟨r', 1 :: copies, hfold, hrendered.cons (by decide), hsmall, ?_, ?_⟩
      · intro _
        simp [hnone, htwo]
      · intro _
        simp [hnone, htwo]

/-! ### Whole runs -/

/-- A call that overflows nowhere, leaves at most one sample of error, and pushes the samples of its
block in order, each once but for at most four that are dropped or at most four that are doubled. -/
def RendersExactly (convert : κ → Int16 → κ × BitVec 32) {b : SpiBuff} (r : Renderer κ)
    (call : RenderCall b) : Prop :=
  ∃ r' copies, renderSampleBlock convert b r call.block call.reads = some r' ∧
    copies.length = 32 ∧ (∀ n ∈ copies, n ≤ 2) ∧
    (copies.count 0 ≤ 4 ∧ copies.count 2 = 0 ∨ copies.count 2 ≤ 4 ∧ copies.count 0 = 0) ∧
    r'.pushed = r.pushed ++ pushes (converted convert r.conv call.block) copies ∧
    r'.copies = r.copies ++ copies ∧ r'.used = r.used ++ [r'.sampAddDel] ∧
    |r'.sampErr| ≤ 2 ^ 24

structure RateInv (r : Renderer κ) : Prop where
  cnt_nonneg : 0 ≤ r.recalc.cnt
  cnt_lt : r.recalc.cnt < 1500
  sampAddDel_le : |r.sampAddDel| ≤ 65536000
  sampErr_le : |r.sampErr| ≤ 2 ^ 24
  /-- what was used is worked off or still due -/
  conserved : (r.copies.count 0 - r.copies.count 2 : ℤ) * 2 ^ 24 + r.sampErr = r.used.sum

/-- With the SPI RAM, `sampAddDel` is less than four samples in either direction. -/
theorem recalcAddDelSamp_bounds {st : RecalcStatics} (hnonneg : 0 ≤ st.cnt) (hlt : st.cnt < 1500)
    {reads : FifoReads} (hfill : 0 ≤ reads.fillAgain)
    (hfull : reads.fillAgain ≤ SpiBuff.spiRam.spiramSize) {oldVal : ℤ} (hold : |oldVal| ≤ 65536000) :
    ∃ st' ret, recalcAddDelSamp .spiRam st reads oldVal = some (st', ret) ∧ 0 ≤ st'.cnt ∧
      st'.cnt < 1500 ∧ |ret| ≤ 65536000 := by
  have hsize : SpiBuff.spiRam.spiramSize = 131072 := rfl
  rw [hsize] at hfull
  rw [recalcAddDelSamp, int32_of_mem (by omega) (by omega)]
  by_cases hwait : st.cnt + 1 < 1500
  · refine ⟨_, oldVal, if_pos hwait, ?_, hwait, hold⟩
    show 0 ≤ st.cnt + 1
    omega
  · have habove : |(reads.fillAgain - 65536) * addDelBuffpersamp| ≤ 65536000 := by
      rw [abs_le, addDelBuffpersamp]
      omega
    have hbounds := abs_le.mp habove
    have hbig : ¬ SpiBuff.spiRam.spiramSize < 10 * 1024 := by decide
    have htgt : SpiBuff.spiRam.spiramSize / 2 = 65536 := rfl
    refine ⟨⟨0, if reads.fill < st.minFifoFill then reads.fill else st.minFifoFill⟩,
      (reads.fillAgain - 65536) * addDelBuffpersamp, ?_, Int.le_refl 0,
      show (0 : ℤ) < 1500 by decide, habove⟩
    show (if st.cnt + 1 < 1500 then _ else if SpiBuff.spiRam.spiramSize < 10 * 1024 then _ else _) = _
    rw [if_neg hwait, if_neg hbig]
    simp only [htgt, int32_of_mem (show -2 ^ 31 ≤ reads.fillAgain - 65536 by omega) (by omega)]
    show (int32 ((reads.fillAgain - 65536) * addDelBuffpersamp)).bind _ = _
    rw [int32_of_mem (by omega) (by omega)]
    rfl

theorem RateInv.call {r : Renderer κ} (h : RateInv r) (call : RenderCall .spiRam) :
    ∃ r', renderSampleBlock convert .spiRam r call.block call.reads = some r' ∧ RateInv r' ∧
      RendersExactly convert r call := by
  obtain ⟨st, ret, hrecalc, hnonneg, hlt, hret⟩ := recalcAddDelSamp_bounds h.cnt_nonneg h.cnt_lt
    call.fillAgain_nonneg call.fillAgain_le h.sampAddDel_le
  have hold := abs_le.mp h.sampErr_le
  have hadd := abs_le.mp hret
  obtain ⟨r₁, hr₁⟩ : ∃ r₁ : Renderer κ, r₁ = { r with
    recalc := st
    sampAddDel := ret
    sampErr := r.sampErr + ret
    used := r.used ++ [ret] } := ⟨_, rfl⟩
  have herr : r₁.sampErr = r.sampErr + ret := by rw [hr₁]
  have hlen := call.length_eq
  obtain ⟨r', copies, hfold, hrendered, hsmall, hup, hdown⟩ :
      ∃ r' copies, call.block.foldlM (renderSample convert) r₁ = some r' ∧
        Rendered convert r₁ r' call.block copies ∧ |r'.sampErr| ≤ 2 ^ 24 ∧
        (-2 ^ 24 ≤ r₁.sampErr → copies.count 0 ≤ 4 ∧ copies.count 2 = 0) ∧
        (r₁.sampErr ≤ 2 ^ 24 → copies.count 2 ≤ 4 ∧ copies.count 0 = 0) :=
    renderSamples_eq (by omega) (by rw [herr]; push_cast; omega) (by rw [herr]; push_cast; omega)
      (by omega)
  have hcall : renderSampleBlock convert .spiRam r call.block call.reads = some r' := by
    rw [renderSampleBlock, hrecalc]
    show (int32 (r.sampErr + ret)).bind _ = _
    rw [int32_of_mem (by omega) (by omega), ← hfold, hr₁]
    rfl
  have hpushed := hrendered.pushed_eq
  have hcopies := hrendered.copies_eq
  have hsum := hrendered.sampErr_eq
  have hstatics := hrendered.recalc_eq
  have hkept := hrendered.sampAddDel_eq
  have hused := hrendered.used_eq
  subst hr₁
  refine ⟨r', hcall, ⟨?_, ?_, ?_, hsmall, ?_⟩, r', copies, hcall, ?_, hrendered.le_two, ?_, hpushed,
    hcopies, ?_, hsmall⟩
  · rw [hstatics]
    exact hnonneg
  · rw [hstatics]
    exact hlt
  · rw [hkept]
    exact hret
  · have hbefore := h.conserved
    rw [hcopies, hsum, hused, List.count_append, List.count_append, List.sum_append,
      List.sum_singleton, ← hbefore]
    push_cast
    ring
  · rw [hrendered.length_eq, hlen]
  · by_cases hsign : -2 ^ 24 ≤ r.sampErr + ret
    · exact .inl (hup hsign)
    · exact .inr (hdown (by show r.sampErr + ret ≤ 2 ^ 24; omega))
  · rw [hused, hkept]

theorem rate_invariant (convert : κ → Int16 → κ × BitVec 32) (conv : κ) :
    (playbackMachine convert .spiRam conv).Invariant RateInv where
  init := by
    constructor
    · exact Int.le_refl 0
    · show (0 : ℤ) < 1500
      decide
    · simp [playbackMachine]
    · simp [playbackMachine]
    · simp [playbackMachine]
  step {r call r'} h _ hstep := by
    obtain ⟨r'', hcall, hinv, -⟩ : ∃ r'', renderSampleBlock convert .spiRam r call.block call.reads =
        some r'' ∧ RateInv r'' ∧ RendersExactly convert r call := h.call call
    have heq : some r'' = some r' := hcall.symm.trans hstep
    rw [← Option.some.inj heq]
    exact hinv

/-- **The playback rate is exact.**  With the SPI RAM, whatever the fills of the FIFO, no call
overflows, every call keeps `sampErr` within one sample and drops or doubles at most four samples of
its block, and the samples dropped less those doubled are what `sampAddDel` asked for, but for what
is left in `sampErr`. -/
theorem playback_rate_exact (convert : κ → Int16 → κ × BitVec 32) (conv : κ)
    (calls : List (RenderCall .spiRam)) :
    (playbackMachine convert .spiRam conv).Always (RendersExactly convert) calls ∧
      ((((playbackMachine convert .spiRam conv).run calls).copies.count 0 -
          ((playbackMachine convert .spiRam conv).run calls).copies.count 2 : ℤ) * 2 ^ 24 +
        ((playbackMachine convert .spiRam conv).run calls).sampErr =
      ((playbackMachine convert .spiRam conv).run calls).used.sum) := by
  have hinv := rate_invariant convert conv
  constructor
  · rw [Machine.always_iff_moves]
    intro pre call _
    obtain ⟨-, -, -, hexact⟩ := (Machine.Invariant.run hinv pre).call call
    exact hexact
  · exact (Machine.Invariant.run hinv calls).conserved

end Mp3Decoder
