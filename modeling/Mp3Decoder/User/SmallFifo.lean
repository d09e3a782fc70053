import Mp3Decoder.User.RateControl

/-!
# The playback rate with the small FIFO (`recalcAddDelSamp`)

Without the SPI RAM the FIFO holds 1850 bytes, and every 1500 calls the rate is changed by how far
the minimum fill of the period was off 1600.  `recalcSpec` is the rule as the comments give it: a
period with underruns counts as a minimum of -1.  `prevUdr` is forgotten between the calls and the
minimum of the first period starts at 0, which `recalc_follows_iff` makes precise.

The changes add up in `sampAddDel`; `smallFifo_staysInRange_iff` says when a block can work them off.
-/

namespace Mp3Decoder

open MachineInt Schedule

/-! ### The rule -/

/-- A call of `recalcAddDelSamp` at a fill that the small FIFO can have; the count is a `long`. -/
structure RecalcCall where
  oldVal : ℤ
  reads : FifoReads
  fill_nonneg : 0 ≤ reads.fill
  fill_le : reads.fill ≤ 1850
  underrunCt_nonneg : 0 ≤ reads.underrunCt
  underrunCt_lt : reads.underrunCt < 2 ^ 31

/-- The static variables, with ghost records of the calls: the fills since the last recalculation,
whether there has been one, and the underrun counts then and in the last call. -/
structure RecalcRun where
  statics : RecalcStatics := {}
  fills : List ℤ := []
  started : Bool := false
  recalcUnderrunCt : ℤ := 0
  underrunCt : ℤ := 0

/-- The calls one after the other; the count of the underruns does not go back. -/
def recalcMachine : Machine RecalcRun RecalcCall where
  init := {}
  step s call :=
    if call.reads.underrunCt < s.underrunCt then none
    else
      (recalcAddDelSamp .fakeSpiBuff s.statics call.reads call.oldVal).map fun r =>
        if s.fills.length + 1 < 1500 then
          { s with
            statics := r.1
            fills := call.reads.fill :: s.fills
            underrunCt := call.reads.underrunCt }
        else
          { statics := r.1
            fills := []
            started := true
            recalcUnderrunCt := call.reads.underrunCt
            underrunCt := call.reads.underrunCt }

/-- The minimum fill that is reckoned with: -1 when the count has grown since the last
recalculation. -/
def reckonedFill (s : RecalcRun) (reads : FifoReads) : ℤ :=
  if s.recalcUnderrunCt < reads.underrunCt then -1 else s.fills.foldl min reads.fill

/-- What a call returns: each 1500th is a recalculation. -/
def recalcSpec (s : RecalcRun) (reads : FifoReads) (oldVal : ℤ) : Option ℤ :=
  if s.fills.length + 1 < 1500 then some oldVal
  else int32 (oldVal + (reckonedFill s reads - 1600) * addDelBuffpersampNospiram)

/-- The call follows the rule, whatever the old value. -/
def RecalcFollows (s : RecalcRun) (call : RecalcCall) : Prop :=
  s.underrunCt ≤ call.reads.underrunCt → ∀ oldVal,
    (recalcAddDelSamp .fakeSpiBuff s.statics call.reads oldVal).map Prod.snd =
      recalcSpec s call.reads oldVal

/-- A recalculation at which the two variables do no harm: the count has grown, or there has been no
underrun at all and, in the first period, the FIFO has been empty in some call. -/
def RecalcHarmless (s : RecalcRun) (call : RecalcCall) : Prop :=
  s.underrunCt ≤ call.reads.underrunCt → s.fills.length + 1 = 1500 →
    s.recalcUnderrunCt < call.reads.underrunCt ∨
      call.reads.underrunCt = 0 ∧ (s.started = true ∨ s.fills.foldl min call.reads.fill = 0)

/-! ### The minimum -/

theorem foldl_min_le (fills : List ℤ) (a : ℤ) : fills.foldl min a ≤ a := by
  induction fills generalizing a with
  | nil => exact Int.le_refl a
  | cons fill fills ih => exact Int.le_trans (ih (min a fill)) (Int.min_le_left a fill)

theorem le_foldl_min {fills : List ℤ} {a b : ℤ} (ha : b ≤ a) (hfills : ∀ fill ∈ fills, b ≤ fill) :
    b ≤ fills.foldl min a := by
  induction fills generalizing a with
  | nil => exact ha
  | cons fill fills ih =>
    apply ih (Int.le_min.mpr ⟨ha, hfills fill List.mem_cons_self⟩)
    intro other hother
    exact hfills other (List.mem_cons_of_mem fill hother)

theorem foldl_min_comm (fills : List ℤ) (a b : ℤ) :
    fills.foldl min (min a b) = min a (fills.foldl min b) := by
  induction fills generalizing b with
  | nil => rfl
  | cons fill fills ih =>
    rw [List.foldl_cons, List.foldl_cons, Int.min_assoc, ih]

/-! ### One call -/

/-- What `recalcAddDelSamp` returns with the small FIFO. -/
def smallReturns (st : RecalcStatics) (reads : FifoReads) (oldVal : ℤ) :
    Option (RecalcStatics × ℤ) :=
  let minFifoFill := min reads.fill st.minFifoFill
  if st.cnt + 1 < 1500 then some (⟨st.cnt + 1, minFifoFill⟩, oldVal)
  else
    (int32 (oldVal + ((if reads.underrunCt ≠ 0 then -1 else minFifoFill) - 1600) *
      addDelBuffpersampNospiram)).map fun ret => (⟨0, 9999⟩, ret)

theorem recalcAddDelSamp_small {st : RecalcStatics} {reads : FifoReads} (hnonneg : 0 ≤ st.cnt)
    (hlt : st.cnt < 1500) (hmin : 0 ≤ st.minFifoFill ∧ st.minFifoFill ≤ 9999)
    (hfill : 0 ≤ reads.fill ∧ reads.fill ≤ 1850) (hcount : -2 ^ 31 ≤ reads.underrunCt)
    (hcount' : reads.underrunCt < 2 ^ 31) (oldVal : ℤ) :
    recalcAddDelSamp .fakeSpiBuff st reads oldVal = smallReturns st reads oldVal := by
  have hsmall : SpiBuff.fakeSpiBuff.spiramSize < 10 * 1024 := by decide
  have hminimum : (if reads.fill < st.minFifoFill then reads.fill else st.minFifoFill) =
      min reads.fill st.minFifoFill := by
    rw [Int.min_def]
    split_ifs <;> omega
  simp only [recalcAddDelSamp, smallReturns, hminimum]
  rw [int32_of_mem (by omega) (by omega)]
  simp only [Option.bind_eq_bind, Option.bind_some]
  by_cases hwait : st.cnt + 1 < 1500
  · rw [if_pos hwait, if_pos hwait]
    rfl
  · rw [if_neg hwait, if_neg hwait, if_pos hsmall, Int.sub_zero,
      int32_of_mem (by omega) (by omega), Option.bind_some]
    obtain ⟨reckoned, hreckoned⟩ : ∃ reckoned, reckoned = if reads.underrunCt ≠ 0 then -1
        else min reads.fill st.minFifoFill := ⟨_, rfl⟩
    have hmem : -1 ≤ reckoned ∧ reckoned ≤ 1850 := by
      rw [hreckoned]
      split_ifs <;> omega
    rw [← hreckoned, int32_of_mem (by omega) (by omega), Option.bind_some,
      addDelBuffpersampNospiram, int32_of_mem (by omega) (by omega), Option.bind_some,
      Option.map_eq_bind]
    rfl

/-- The static variables are what the ghost records say. -/
structure RecalcInv (s : RecalcRun) : Prop where
  cnt : s.statics.cnt = s.fills.length
  length_lt : s.fills.length < 1500
  fills : ∀ fill ∈ s.fills, 0 ≤ fill ∧ fill ≤ 1850
  minFifoFill : s.statics.minFifoFill = s.fills.foldl min (if s.started then 9999 else 0)
  recalcUnderrunCt_nonneg : 0 ≤ s.recalcUnderrunCt
  recalcUnderrunCt_le : s.recalcUnderrunCt ≤ s.underrunCt

variable {s : RecalcRun}

/-- The minimum with the fill of a call. -/
theorem RecalcInv.minimum (h : RecalcInv s) (reads : FifoReads) :
    min reads.fill s.statics.minFifoFill =
      min (if s.started then 9999 else 0) (s.fills.foldl min reads.fill) := by
  rw [h.minFifoFill, ← foldl_min_comm, ← foldl_min_comm, Int.min_comm]

theorem RecalcInv.minimum_mem (h : RecalcInv s) (call : RecalcCall) :
    0 ≤ s.fills.foldl min call.reads.fill ∧ s.fills.foldl min call.reads.fill ≤ 1850 :=
  ⟨le_foldl_min call.fill_nonneg fun fill hfill => (h.fills fill hfill).1,
    Int.le_trans (foldl_min_le _ _) call.fill_le⟩

/-- What `recalcAddDelSamp` returns. -/
def recalcReturns (s : RecalcRun) (reads : FifoReads) (oldVal : ℤ) : Option (RecalcStatics × ℤ) :=
  let minFifoFill := min (if s.started then 9999 else 0) (s.fills.foldl min reads.fill)
  if s.fills.length + 1 < 1500 then some (⟨s.fills.length + 1, minFifoFill⟩, oldVal)
  else
    (int32 (oldVal + ((if reads.underrunCt ≠ 0 then -1 else minFifoFill) - 1600) *
      addDelBuffpersampNospiram)).map fun ret => (⟨0, 9999⟩, ret)

theorem RecalcInv.returns (h : RecalcInv s) (call : RecalcCall) (oldVal : ℤ) :
    recalcAddDelSamp .fakeSpiBuff s.statics call.reads oldVal =
      recalcReturns s call.reads oldVal := by
  have hlength := h.length_lt
  have hmin : 0 ≤ s.statics.minFifoFill ∧ s.statics.minFifoFill ≤ 9999 := by
    rw [h.minFifoFill]
    constructor
    · apply le_foldl_min
      · split_ifs <;> decide
      · exact fun fill hfill => (h.fills fill hfill).1
    · apply Int.le_trans (foldl_min_le _ _)
      split_ifs <;> decide
  have hcnt := h.cnt
  have hwait : s.statics.cnt + 1 < 1500 ↔ s.fills.length + 1 < 1500 := by omega
  rw [recalcAddDelSamp_small (by omega) (by omega) hmin ⟨call.fill_nonneg, call.fill_le⟩
    (by have := call.underrunCt_nonneg; omega) call.underrunCt_lt, smallReturns, recalcReturns,
    h.minimum call.reads, hcnt]
  simp only [← hcnt, hwait]

/-- **One call** follows the rule exactly where the forgotten count and the first minimum do no
harm. -/
theorem RecalcInv.follows_iff (h : RecalcInv s) (call : RecalcCall) :
    RecalcFollows s call ↔ RecalcHarmless s call := by
  have hlength := h.length_lt
  have hbefore := h.recalcUnderrunCt_nonneg
  have hbefore' := h.recalcUnderrunCt_le
  obtain ⟨hnonneg, hle⟩ := h.minimum_mem call
  simp only [RecalcFollows, RecalcHarmless, h.returns call, recalcReturns, recalcSpec, reckonedFill]
  generalize s.fills.foldl min call.reads.fill = fill at hnonneg hle ⊢
  apply imp_congr_right
  intro hcount
  by_cases hwait : s.fills.length + 1 < 1500
  · simp only [if_pos hwait, Option.map_some, implies_true, true_iff]
    omega
  simp only [if_neg hwait, Option.map_map, Function.comp_def, Option.map_id_fun', id]
  rw [forall_prop_of_true (by omega)]
  -- the minimum of the code against that of the rule
  obtain ⟨code, hcode⟩ : ∃ code, code = if call.reads.underrunCt ≠ 0 then -1
      else min (if s.started then 9999 else 0) fill := ⟨_, rfl⟩
  obtain ⟨rule, hrule⟩ : ∃ rule, rule =
      if s.recalcUnderrunCt < call.reads.underrunCt then -1 else fill := ⟨_, rfl⟩
  rw [← hcode, ← hrule, addDelBuffpersampNospiram]
  have hiff : code = rule ↔ s.recalcUnderrunCt < call.reads.underrunCt ∨
      call.reads.underrunCt = 0 ∧ (s.started = true ∨ fill = 0) := by
    rw [hcode, hrule]
    cases s.started with
    | true =>
      simp only [if_true, true_or, and_true]
      split_ifs <;> omega
    | false =>
      simp only [Bool.false_eq_true, if_false, false_or]
      split_ifs <;> omega
  rw [← hiff]
  constructor
  · intro hsame
    have hcode' : -1 ≤ code ∧ code ≤ 1850 := by
      rw [hcode]
      split_ifs <;> omega
    have hrule' : -1 ≤ rule ∧ rule ≤ 1850 := by
      rw [hrule]
      split_ifs <;> omega
    have hzero := hsame 0
    rw [int32_of_mem (by omega) (by omega), int32_of_mem (by omega) (by omega)] at hzero
    have hvalue := Option.some.inj hzero
    omega
  · intro hsame oldVal
    rw [hsame]

/-! ### Whole runs -/

theorem recalc_invariant : recalcMachine.Invariant RecalcInv where
  init := by
    refine ⟨rfl, by decide, ?_, rfl, Int.le_refl 0, Int.le_refl 0⟩
    intro fill hfill
    cases hfill
  step {s call s'} h _ hstep := by
    have hlength := h.length_lt
    simp only [recalcMachine, h.returns call] at hstep
    by_cases hback : call.reads.underrunCt < s.underrunCt
    · rw [if_pos hback] at hstep
      cases hstep
    rw [if_neg hback, Option.map_eq_some_iff] at hstep
    obtain ⟨r, hr, rfl⟩ := hstep
    rw [recalcReturns] at hr
    by_cases hwait : s.fills.length + 1 < 1500
    · rw [if_pos hwait] at hr ⊢
      obtain rfl := (Option.some.inj hr).symm
      refine ⟨rfl, hwait, ?_, ?_, h.recalcUnderrunCt_nonneg, ?_⟩
      · intro fill hfill
        rcases List.mem_cons.mp hfill with rfl | hold
        · exact ⟨call.fill_nonneg, call.fill_le⟩
        · exact h.fills fill hold
      · show min _ (s.fills.foldl min call.reads.fill) = _
        rw [List.foldl_cons, ← foldl_min_comm]
      · have hle := h.recalcUnderrunCt_le
        show s.recalcUnderrunCt ≤ call.reads.underrunCt
        omega
    · rw [if_neg hwait, Option.map_eq_some_iff] at hr
      obtain ⟨ret, -, rfl⟩ := hr
      rw [if_neg hwait]
      refine ⟨rfl, Nat.succ_pos 1499, ?_, rfl, call.underrunCt_nonneg, Int.le_refl _⟩
      intro fill hfill
      cases hfill

/-- **The small FIFO and underruns.**  In every run, the recalculations follow the rule exactly when
at each of them the count of the underruns has grown since the last one, or is 0 still, and, at the
first, the FIFO has been empty in between. -/
theorem recalc_follows_iff (calls : List RecalcCall) :
    recalcMachine.Always RecalcFollows calls ↔ recalcMachine.Always RecalcHarmless calls :=
  recalc_invariant.always_iff (fun h => h.follows_iff _) calls

/-- A call at a good fill, when one underrun has been counted. -/
def calmCall : RecalcCall where
  oldVal := 0
  reads := { fill := 1700, fillAgain := 1700, underrunCt := 1 }
  fill_nonneg := by decide
  fill_le := by decide
  underrunCt_nonneg := by decide
  underrunCt_lt := by decide

/-- Calm calls within a period. -/
theorem calm_period (h : RecalcInv s) (hcount : s.underrunCt ≤ 1) (n : ℕ)
    (hn : s.fills.length + n < 1500) :
    let s' := recalcMachine.runFrom s (List.replicate n calmCall)
    RecalcInv s' ∧ s'.fills.length = s.fills.length + n ∧ s'.underrunCt ≤ 1 ∧
      s'.recalcUnderrunCt = s.recalcUnderrunCt := by
  induction n generalizing s with
  | zero => exact ⟨h, rfl, hcount, rfl⟩
  | succ n ih =>
    obtain ⟨s₁, hs₁⟩ : ∃ s₁, s₁ = RecalcRun.mk ⟨s.fills.length + 1,
        min (if s.started then 9999 else 0) (s.fills.foldl min 1700)⟩ (1700 :: s.fills) s.started
        s.recalcUnderrunCt 1 := ⟨_, rfl⟩
    have hstep : recalcMachine.step s calmCall = some s₁ := by
      have hlow : ¬calmCall.reads.underrunCt < s.underrunCt := Int.not_lt.mpr hcount
      have hwait : s.fills.length + 1 < 1500 := by omega
      simp only [recalcMachine, h.returns calmCall, recalcReturns, if_neg hlow, if_pos hwait]
      rw [hs₁]
      rfl
    have hnext := recalc_invariant.step h trivial hstep
    have hlength : s₁.fills.length = s.fills.length + 1 := by
      rw [hs₁]
      rfl
    obtain ⟨hinv, hlength', hcount', hrecalc⟩ := ih hnext (by rw [hs₁]) (by omega)
    rw [List.replicate_succ, Machine.runFrom_cons, recalcMachine.move_of_step hstep]
    refine ⟨hinv, by omega, hcount', ?_⟩
    rw [hrecalc, hs₁]

/-- In the second of two periods of calm calls nothing is new, but `prevUdr` is 0 again. -/
theorem recalc_not_follows : ¬∀ calls, recalcMachine.Always RecalcFollows calls := by
  intro hall
  have hfollows := hall (List.replicate 2999 calmCall ++ [calmCall])
  rw [recalc_invariant.always_iff (fun h => h.follows_iff _), Machine.always_iff_moves] at hfollows
  have hlast := hfollows (List.replicate 2999 calmCall) calmCall (List.prefix_refl _)
  have hperiods : (List.replicate 2999 calmCall) =
      List.replicate 1499 calmCall ++ (calmCall :: List.replicate 1499 calmCall) := by
    rw [← List.replicate_succ, ← List.replicate_add]
  -- the first period, and its recalculation
  obtain ⟨hfirst, hlength, hcount, -⟩ := calm_period recalc_invariant.init (by decide) 1499
    (by decide)
  rw [hperiods, Machine.run, Machine.runFrom_append, Machine.runFrom_cons] at hlast
  generalize recalcMachine.runFrom recalcMachine.init (List.replicate 1499 calmCall) = s₁ at *
  obtain ⟨s₂, hs₂⟩ : ∃ s₂, s₂ = RecalcRun.mk ⟨0, 9999⟩ [] true 1 1 := ⟨_, rfl⟩
  have hrecalc : recalcMachine.step s₁ calmCall = some s₂ := by
    have hlow : ¬calmCall.reads.underrunCt < s₁.underrunCt := Int.not_lt.mpr hcount
    have hwait : ¬s₁.fills.length + 1 < 1500 := by
      rw [hlength]
      decide
    simp only [recalcMachine, hfirst.returns calmCall, recalcReturns, if_neg hlow, if_neg hwait]
    rw [hs₂]
    rfl
  have hsecond := recalc_invariant.step hfirst trivial hrecalc
  rw [recalcMachine.move_of_step hrecalc] at hlast
  -- the second period
  obtain ⟨-, hlength', hcount', hold⟩ := calm_period hsecond (by rw [hs₂]) 1499
    (by rw [hs₂]; decide)
  rw [hs₂] at hlast hlength' hcount' hold
  have hharm := hlast hcount' (by rw [hlength']; rfl)
  rw [hold] at hharm
  revert hharm
  decide

/-! ### The blocks -/

/-- A call of `render_sample_block` at a fill that the small FIFO can have. -/
structure SmallRenderCall extends RenderCall .fakeSpiBuff where
  fill_nonneg : 0 ≤ reads.fill
  fill_le : reads.fill ≤ 1850
  underrunCt_nonneg : 0 ≤ reads.underrunCt
  underrunCt_lt : reads.underrunCt < 2 ^ 31

variable {κ : Type} (convert : κ → Int16 → κ × BitVec 32)

/-- The calls one after the other; the counts of the underruns need not even ascend. -/
def smallFifoMachine (conv : κ) : Machine (Renderer κ) SmallRenderCall where
  init := (playbackMachine convert .fakeSpiBuff conv).init
  step r call := renderSampleBlock convert .fakeSpiBuff r call.block call.reads

/-- The correction for a block: the old one, changed in each 1500th call. -/
def smallCorrection (r : Renderer κ) (reads : FifoReads) : ℤ :=
  if r.recalc.cnt + 1 < 1500 then r.sampAddDel
  else r.sampAddDel + ((if reads.underrunCt ≠ 0 then -1 else min reads.fill r.recalc.minFifoFill) -
    1600) * addDelBuffpersampNospiram

/-- No overflow in the call, and at most one sample of error behind it. -/
def BlockInRange (r : Renderer κ) (call : SmallRenderCall) : Prop :=
  ∃ r', renderSampleBlock convert .fakeSpiBuff r call.block call.reads = some r' ∧
    |r'.sampErr| ≤ 2 ^ 24

/-- The correction with what is left of the last one is no more than the 32 samples of a block, and
the one that may be left. -/
def CorrectionFits (r : Renderer κ) (call : SmallRenderCall) : Prop :=
  |r.sampErr + smallCorrection r call.reads| ≤ 33 * 2 ^ 24

structure SmallInv (r : Renderer κ) : Prop where
  cnt_nonneg : 0 ≤ r.recalc.cnt
  cnt_lt : r.recalc.cnt < 1500
  minFifoFill : 0 ≤ r.recalc.minFifoFill ∧ r.recalc.minFifoFill ≤ 9999
  sampErr_le : |r.sampErr| ≤ 2 ^ 24

variable {convert} {r : Renderer κ}

/-- A round works off at most one sample. -/
theorem renderSample_sampErr {r' : Renderer κ} {s : Int16} (h : renderSample convert r s = some r') :
    |r'.sampErr - r.sampErr| ≤ 2 ^ 24 ∧ r'.recalc = r.recalc ∧ r'.sampAddDel = r.sampAddDel := by
  rw [renderSample] at h
  split_ifs at h with hdrop hdouble
  · obtain ⟨sampErr, hsampErr, hr'⟩ := Option.bind_eq_some_iff.mp h
    obtain ⟨rfl, -, -⟩ := int32_eq_some_iff.mp hsampErr
    obtain rfl := (Option.some.inj hr').symm
    refine ⟨?_, rfl, rfl⟩
    rw [abs_le]
    constructor <;> simp only <;> omega
  · obtain ⟨sampErr, hsampErr, hr'⟩ := Option.bind_eq_some_iff.mp h
    obtain ⟨rfl, -, -⟩ := int32_eq_some_iff.mp hsampErr
    obtain rfl := (Option.some.inj hr').symm
    refine ⟨?_, rfl, rfl⟩
    rw [abs_le]
    constructor <;> simp only <;> omega
  · obtain rfl := (Option.some.inj h).symm
    refine ⟨?_, rfl, rfl⟩
    rw [sub_self, abs_zero]
    decide

/-- A block works off at most as many samples as it has. -/
theorem renderSamples_sampErr {block : List Int16} {r' : Renderer κ}
    (h : block.foldlM (renderSample convert) r = some r') :
    |r'.sampErr - r.sampErr| ≤ block.length * 2 ^ 24 ∧ r'.recalc = r.recalc ∧
      r'.sampAddDel = r.sampAddDel := by
  induction block generalizing r with
  | nil =>
    obtain rfl := Option.some.inj h
    refine ⟨?_, rfl, rfl⟩
    rw [sub_self, abs_zero, List.length_nil, Nat.cast_zero, zero_mul]
  | cons s block ih =>
    rw [List.foldlM_cons] at h
    obtain ⟨r₁, hfirst, hrest⟩ := Option.bind_eq_some_iff.mp h
    obtain ⟨hstep, hrecalc, hadd⟩ := renderSample_sampErr hfirst
    obtain ⟨hblock, hrecalc', hadd'⟩ := ih hrest
    refine ⟨?_, hrecalc'.trans hrecalc, hadd'.trans hadd⟩
    rw [List.length_cons]
    push_cast
    rw [abs_le] at hstep hblock ⊢
    constructor
    · linarith
    · linarith

/-- The static variables behind a call. -/
def smallStatics (st : RecalcStatics) (reads : FifoReads) : RecalcStatics :=
  if st.cnt + 1 < 1500 then ⟨st.cnt + 1, min reads.fill st.minFifoFill⟩ else ⟨0, 9999⟩

theorem SmallInv.recalc (h : SmallInv r) (call : SmallRenderCall) :
    recalcAddDelSamp .fakeSpiBuff r.recalc call.reads r.sampAddDel =
      if r.recalc.cnt + 1 < 1500 then
        some (smallStatics r.recalc call.reads, smallCorrection r call.reads)
      else (int32 (smallCorrection r call.reads)).map fun ret =>
        (smallStatics r.recalc call.reads, ret) := by
  have hcount := call.underrunCt_nonneg
  rw [recalcAddDelSamp_small h.cnt_nonneg h.cnt_lt h.minFifoFill ⟨call.fill_nonneg, call.fill_le⟩
    (by omega) call.underrunCt_lt, smallReturns, smallStatics, smallCorrection]
  by_cases hwait : r.recalc.cnt + 1 < 1500
  · simp only [if_pos hwait]
  · simp only [if_neg hwait]

/-- A block that has come through. -/
theorem SmallInv.of_block (h : SmallInv r) {call : SmallRenderCall} {r' : Renderer κ}
    (hblock : renderSampleBlock convert .fakeSpiBuff r call.block call.reads = some r') :
    |r'.sampErr - (r.sampErr + smallCorrection r call.reads)| ≤ 32 * 2 ^ 24 ∧
      r'.recalc = smallStatics r.recalc call.reads ∧
      r'.sampAddDel = smallCorrection r call.reads := by
  obtain ⟨⟨st, ret⟩, hrecalc, hrest⟩ := Option.bind_eq_some_iff.mp hblock
  obtain ⟨sampErr, hsampErr, hfold⟩ := Option.bind_eq_some_iff.mp hrest
  obtain ⟨rfl, -, -⟩ := int32_eq_some_iff.mp hsampErr
  obtain ⟨hreach, hst, hadd⟩ := renderSamples_sampErr hfold
  have hvalues : st = smallStatics r.recalc call.reads ∧ ret = smallCorrection r call.reads := by
    rw [h.recalc call] at hrecalc
    split_ifs at hrecalc
    · exact Prod.mk.inj (Option.some.inj hrecalc).symm
    · obtain ⟨value, hvalue, heq⟩ := Option.map_eq_some_iff.mp hrecalc
      obtain ⟨rfl, -, -⟩ := int32_eq_some_iff.mp hvalue
      exact Prod.mk.inj heq.symm
  rw [call.length_eq, hvalues.2] at hreach
  exact ⟨hreach, hst.trans hvalues.1, hadd.trans hvalues.2⟩

theorem SmallInv.statics (h : SmallInv r) (call : SmallRenderCall) :
    0 ≤ (smallStatics r.recalc call.reads).cnt ∧ (smallStatics r.recalc call.reads).cnt < 1500 ∧
      0 ≤ (smallStatics r.recalc call.reads).minFifoFill ∧
      (smallStatics r.recalc call.reads).minFifoFill ≤ 9999 := by
  have hcnt := h.cnt_nonneg
  have hmin := h.minFifoFill
  have hfill := call.fill_nonneg
  rw [smallStatics]
  split_ifs with hwait
  · refine ⟨?_, hwait, ?_, ?_⟩
    all_goals
      simp only
      omega
  · decide

/-- **One block** -/
theorem SmallInv.inRange_iff (h : SmallInv r) (call : SmallRenderCall) :
    BlockInRange convert r call ↔ CorrectionFits r call := by
  have hold := abs_le.mp h.sampErr_le
  rw [CorrectionFits]
  constructor
  · rintro ⟨r', hblock, hsmall⟩
    have hreach := abs_le.mp (h.of_block hblock).1
    have hsmall' := abs_le.mp hsmall
    rw [abs_le]
    omega
  · intro hfits
    have hbounds := abs_le.mp hfits
    obtain ⟨correction, hcorrection⟩ : ∃ c, c = smallCorrection r call.reads := ⟨_, rfl⟩
    rw [← hcorrection] at hbounds
    have hrecalc : recalcAddDelSamp .fakeSpiBuff r.recalc call.reads r.sampAddDel =
        some (smallStatics r.recalc call.reads, correction) := by
      rw [h.recalc call, ← hcorrection, int32_of_mem (by omega) (by omega), Option.map_some, ite_self]
    obtain ⟨r₁, hr₁⟩ : ∃ r₁ : Renderer κ, r₁ = { r with
      recalc := smallStatics r.recalc call.reads
      sampAddDel := correction
      sampErr := r.sampErr + correction
      used := r.used ++ [correction] } := ⟨_, rfl⟩
    have herr : r₁.sampErr = r.sampErr + correction := by rw [hr₁]
    obtain ⟨r', copies, hfold, -, hsmall, -⟩ :
        ∃ r' copies, call.block.foldlM (renderSample convert) r₁ = some r' ∧
          Rendered convert r₁ r' call.block copies ∧ |r'.sampErr| ≤ 2 ^ 24 ∧
          (-2 ^ 24 ≤ r₁.sampErr → copies.count 0 ≤ 32 ∧ copies.count 2 = 0) ∧
          (r₁.sampErr ≤ 2 ^ 24 → copies.count 2 ≤ 32 ∧ copies.count 0 = 0) :=
      renderSamples_eq (Nat.le_of_eq call.length_eq.symm) (by rw [herr]; push_cast; omega)
        (by rw [herr]; push_cast; omega) (by omega)
    refine ⟨r', ?_, hsmall⟩
    rw [renderSampleBlock, hrecalc]
    show (int32 (r.sampErr + correction)).bind _ = _
    rw [int32_of_mem (by omega) (by omega), ← hfold, hr₁]
    rfl

/-! ### Whole runs of blocks -/

theorem SmallInv.init (conv : κ) : SmallInv (smallFifoMachine convert conv).init := by
  refine ⟨Int.le_refl 0, ?_, ⟨Int.le_refl 0, ?_⟩, ?_⟩
  · show (0 : ℤ) < 1500
    decide
  · show (0 : ℤ) ≤ 9999
    decide
  · show |(0 : ℤ)| ≤ 2 ^ 24
    decide

theorem SmallInv.next (h : SmallInv r) {call : SmallRenderCall} (hrange : BlockInRange convert r call)
    {r' : Renderer κ}
    (hblock : renderSampleBlock convert .fakeSpiBuff r call.block call.reads = some r') :
    SmallInv r' := by
  obtain ⟨r'', hblock', hsmall⟩ := hrange
  obtain rfl := Option.some.inj (hblock.symm.trans hblock')
  obtain ⟨-, hst, -⟩ := h.of_block hblock
  obtain ⟨hnonneg, hlt, hmin⟩ := h.statics call
  rw [← hst] at hnonneg hlt hmin
  exact ⟨hnonneg, hlt, hmin, hsmall⟩

/-- **The small FIFO keeps in range** for as long as the corrections fit, and no longer: in every run,
no call overflows and each leaves at most one sample of error exactly when in each call the
correction with what was left before is at most 33 samples. -/
theorem smallFifo_staysInRange_iff (convert : κ → Int16 → κ × BitVec 32) (conv : κ)
    (calls : List SmallRenderCall) :
    (smallFifoMachine convert conv).Always (BlockInRange convert) calls ↔
      (smallFifoMachine convert conv).Always CorrectionFits calls := by
  constructor
  · have hinv : (smallFifoMachine convert conv).InvariantUnder (BlockInRange convert) SmallInv :=
      ⟨.init conv, fun h hrange hblock => h.next hrange hblock⟩
    exact hinv.always fun h hrange => (h.inRange_iff _).mp hrange
  · have hinv : (smallFifoMachine convert conv).InvariantUnder CorrectionFits SmallInv :=
      ⟨.init conv, fun h hfits hblock => h.next ((h.inRange_iff _).mpr hfits) hblock⟩
    exact hinv.always fun h hfits => (h.inRange_iff _).mpr hfits

/-- A block of silence, with an empty FIFO and no underruns. -/
def starvedCall : SmallRenderCall where
  block := List.replicate 32 0
  length_eq := List.length_replicate
  reads := { fill := 0, fillAgain := 0, underrunCt := 0 }
  fillAgain_nonneg := by decide
  fillAgain_le := by decide
  fill_nonneg := by decide
  fill_le := by decide
  underrunCt_nonneg := by decide
  underrunCt_lt := by decide

/-- While all is in range, every period takes 1600 * 1500 off the correction. -/
theorem starved_run (conv : κ)
    (hrange : ∀ n, BlockInRange convert
      ((smallFifoMachine convert conv).run (List.replicate n starvedCall)) starvedCall) (n : ℕ) :
    let r := (smallFifoMachine convert conv).run (List.replicate n starvedCall)
    SmallInv r ∧ r.recalc.cnt = (n % 1500 : ℕ) ∧ r.sampAddDel = -2400000 * (n / 1500 : ℕ) := by
  induction n with
  | zero => exact ⟨.init conv, rfl, rfl⟩
  | succ n ih =>
    obtain ⟨hinv, hcnt, hadd⟩ := ih
    have hblockRange := hrange n
    rw [List.replicate_succ', Machine.run_append, Machine.runFrom_cons, Machine.runFrom_nil]
    generalize (smallFifoMachine convert conv).run (List.replicate n starvedCall) = r at *
    obtain ⟨r', hblock, hsmall⟩ := hblockRange
    obtain ⟨-, hst, hadd'⟩ := hinv.of_block hblock
    have hnext := hinv.next ⟨r', hblock, hsmall⟩ hblock
    have hmove : (smallFifoMachine convert conv).move r starvedCall = r' :=
      (smallFifoMachine convert conv).move_of_step hblock
    rw [hmove]
    have hmin : min (0 : ℤ) r.recalc.minFifoFill = 0 := Int.min_eq_left hinv.minFifoFill.1
    refine ⟨hnext, ?_, ?_⟩
    · rw [hst, smallStatics]
      split_ifs with hwait
      · show r.recalc.cnt + 1 = _
        omega
      · show (0 : ℤ) = _
        omega
    · rw [hadd', smallCorrection, hadd]
      split_ifs with hwait hcount
      · omega
      · exact absurd rfl hcount
      · show _ + (min (0 : ℤ) r.recalc.minFifoFill - 1600) * addDelBuffpersampNospiram = _
        rw [hmin, addDelBuffpersampNospiram]
        omega

/-- A FIFO that stays empty drives the correction out of range. -/
theorem smallFifo_not_staysInRange : ¬∀ calls : List SmallRenderCall,
    (smallFifoMachine (fun _ _ => ((), 0)) ()).Always (BlockInRange fun _ _ => ((), 0)) calls := by
  intro hall
  have hrange : ∀ n, BlockInRange (fun _ _ => ((), 0)) ((smallFifoMachine (fun _ _ => ((), 0))
      ()).run (List.replicate n starvedCall)) starvedCall := by
    intro n
    exact (Machine.always_iff_moves _ _ _).mp (hall (List.replicate n starvedCall ++ [starvedCall]))
      _ _ (List.prefix_refl _)
  obtain ⟨hinv, hcnt, hadd⟩ := starved_run () hrange 360000
  have hfits := (hinv.inRange_iff starvedCall).mp (hrange 360000)
  have hold := abs_le.mp hinv.sampErr_le
  rw [CorrectionFits, smallCorrection, hcnt, if_pos (by decide), hadd] at hfits
  have hbounds := abs_le.mp hfits
  omega

end Mp3Decoder
