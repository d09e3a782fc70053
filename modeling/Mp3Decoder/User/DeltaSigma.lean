import Mp3Decoder.Lib.MachineInt
import Mp3Decoder.Lib.Schedule
import Mp3Decoder.Lib.SignFeedback

/-!
# The delta-sigma converter (`sampToI2sDeltaSigma`)

Each sample is fed 32 times into two integrators whose feedback is full scale with the sign of the
output.  Nothing limits the integrators.  A sample of full scale cancels the feedback (or, when
negative, exceeds it by one) and so lets the second one run away; samples within a quarter of full
scale keep both small.
-/

namespace Mp3Decoder

open MachineInt Schedule SignFeedback

/-! ### The code -/

/-- The static variables. -/
structure DeltaSigma where
  i1v : ℤ := 0
  i2v : ℤ := 0
  outReg : ℤ := 0
  deriving DecidableEq, Repr

/-- A round of the loop, where `w` overflows nowhere. -/
def deltaSigmaStep (s : ℤ) (st : DeltaSigma) : Option DeltaSigma := do
  let w := s
  let w ← int32 (if st.outReg > 0 then w - 32767 else w + 32767)
  let w ← int32 (w + st.i1v)
  let i1v := w
  let w ← int32 (if st.outReg > 0 then w - 32767 else w + 32767)
  let w ← int32 (w + st.i2v)
  return { i1v := i1v, i2v := w, outReg := w }

/-- `n` rounds of the loop, which shift the bits of the output into `val`. -/
def deltaSigmaLoop (s : ℤ) : ℕ → DeltaSigma → BitVec 32 → Option (DeltaSigma × BitVec 32)
  | 0, st, val => some (st, val)
  | n + 1, st, val => do
    let st ← deltaSigmaStep s st
    deltaSigmaLoop s n st (val <<< 1 ||| if st.i2v > 0 then 1 else 0)

def sampToI2sDeltaSigma (st : DeltaSigma) (s : Int16) : Option (DeltaSigma × BitVec 32) :=
  deltaSigmaLoop s.toInt 32 st 0

/-- The calls with the samples one after the other. -/
def deltaSigmaMachine : Machine DeltaSigma Int16 where
  init := {}
  step st s := (sampToI2sDeltaSigma st s).map Prod.fst

/-- No value leaves the range of `int` in the call. -/
def StaysInRange (st : DeltaSigma) (s : Int16) : Prop := (sampToI2sDeltaSigma st s).isSome = true

instance (st : DeltaSigma) (s : Int16) : Decidable (StaysInRange st s) :=
  inferInstanceAs (Decidable (_ = _))

/-! ### Quiet samples -/

def DeltaSigma.loop (st : DeltaSigma) : Loop := ⟨st.i1v, st.i2v⟩

variable {s : ℤ} {st : DeltaSigma}

/-- A round in which every sum is in range. -/
theorem deltaSigmaStep_of_mem {feedback : ℤ}
    (hfeedback : feedback = if st.outReg > 0 then -32767 else 32767)
    (hdiff : |s + feedback| < 2 ^ 31) (hfirst : |s + feedback + st.i1v| < 2 ^ 31)
    (hdiff' : |s + feedback + st.i1v + feedback| < 2 ^ 31)
    (hsecond : |s + feedback + st.i1v + feedback + st.i2v| < 2 ^ 31) :
    deltaSigmaStep s st = some ⟨s + feedback + st.i1v,
      s + feedback + st.i1v + feedback + st.i2v, s + feedback + st.i1v + feedback + st.i2v⟩ := by
  have hint : ∀ {z : ℤ}, |z| < 2 ^ 31 → int32 z = some z := by
    intro z hz
    obtain ⟨hlo, hhi⟩ := abs_lt.mp hz
    exact int32_of_mem hlo.le hhi
  have hsub : ∀ w : ℤ, (if st.outReg > 0 then w - 32767 else w + 32767) = w + feedback := by
    intro w
    rw [hfeedback]
    split_ifs
    · rfl
    · rfl
  simp only [deltaSigmaStep, hsub, hint hdiff, hint hfirst, hint hdiff', hint hsecond,
    Option.bind_eq_bind, Option.bind_some]
  rfl

/-- Within a quarter of full scale the code is the loop. -/
theorem deltaSigmaStep_eq (hs : 4 * |s| ≤ 32767) (hout : st.outReg = st.i2v)
    (he : st.loop.energy 32767 s ≤ 55 * 32767 ^ 2) :
    ∃ st', deltaSigmaStep s st = some st' ∧ st'.loop = st.loop.next 32767 s ∧
      st'.outReg = st'.i2v := by
  obtain ⟨hfirst, hsecond⟩ := energy_reach (by decide) hs he
  have hi₁ : |st.i1v| ≤ 6 * 32767 := hfirst
  have hi₂ : |st.i2v| ≤ 14 * 32767 := hsecond
  obtain ⟨feedback, hfeedback⟩ : ∃ f : ℤ, f = if st.outReg > 0 then -32767 else 32767 := ⟨_, rfl⟩
  have hf : |feedback| = 32767 := by
    rw [hfeedback]
    split_ifs
    · rfl
    · rfl
  have hstep := deltaSigmaStep_of_mem (s := s) hfeedback
    (by have := abs_add_le s feedback; omega)
    (by have := abs_add_three s feedback st.i1v; omega)
    (by have := abs_add_three s feedback st.i1v
        have := abs_add_le (s + feedback + st.i1v) feedback
        omega)
    (by have := abs_add_three s feedback st.i1v
        have := abs_add_three (s + feedback + st.i1v) feedback st.i2v
        omega)
  refine ⟨_, hstep, ?_, rfl⟩
  rw [hout] at hfeedback
  have hnext : st.loop.next 32767 s =
      ⟨st.i1v + (s + feedback), st.i2v + (st.i1v + (s + feedback) + feedback)⟩ := by
    rw [hfeedback]
    rfl
  rw [hnext, DeltaSigma.loop, Loop.mk.injEq]
  constructor
  · ring
  · ring

theorem deltaSigmaLoop_eq (hs : 4 * |s| ≤ 32767) (n : ℕ) (hout : st.outReg = st.i2v)
    (he : ∀ k < n, ((Loop.next 32767 s)^[k] st.loop).energy 32767 s ≤ 55 * 32767 ^ 2)
    (val : BitVec 32) :
    ∃ st' val', deltaSigmaLoop s n st val = some (st', val') ∧
      st'.loop = (Loop.next 32767 s)^[n] st.loop ∧ st'.outReg = st'.i2v := by
  induction n generalizing st val with
  | zero => exact ⟨st, val, rfl, rfl, hout⟩
  | succ n ih =>
    obtain ⟨st₁, hstep, hloop, hout₁⟩ := deltaSigmaStep_eq hs hout (he 0 (Nat.succ_pos n))
    obtain ⟨st', val', hrest, hloop', hout'⟩ := ih hout₁ (by
      intro k hk
      rw [hloop, ← Function.iterate_succ_apply]
      exact he (k + 1) (Nat.succ_lt_succ hk)) (val <<< 1 ||| if st₁.i2v > 0 then 1 else 0)
    refine ⟨st', val', ?_, ?_, hout'⟩
    · rw [deltaSigmaLoop, hstep]
      exact hrest
    · rw [hloop', hloop, Function.iterate_succ_apply]

/-- Before a quiet sample the loop has little energy, whatever the sample is. -/
structure Quiet (st : DeltaSigma) : Prop where
  outReg_eq : st.outReg = st.i2v
  energy_le : ∀ s : ℤ, 4 * |s| ≤ 32767 → st.loop.energy 32767 s ≤ 55 * 32767 ^ 2

theorem Quiet.sample (h : Quiet st) {s : Int16} (hs : 4 * |s.toInt| ≤ 32767) :
    ∃ st' val, sampToI2sDeltaSigma st s = some (st', val) ∧ Quiet st' := by
  have hbound := energy_iterate (by decide) hs (h.energy_le s.toInt hs)
  obtain ⟨st', val, hloop, heq, hout⟩ := deltaSigmaLoop_eq hs 32 h.outReg_eq (by
    intro k _
    rcases le_max_iff.mp (hbound k) with hfalling | hsettled
    · have hk : (0 : ℤ) ≤ k := Int.natCast_nonneg k
      omega
    · omega) 0
  refine ⟨st', val, hloop, hout, ?_⟩
  intro t ht
  apply energy_switch (by decide) hs ht
  rw [heq]
  rcases le_max_iff.mp (hbound 32) with hfalling | hsettled
  · push_cast at hfalling
    omega
  · exact hsettled

theorem quiet_invariant : deltaSigmaMachine.InvariantUnder
    (fun _ s => 4 * |s.toInt| ≤ 32767) Quiet where
  init := by
    refine ⟨rfl, fun s _ => ?_⟩
    rw [energy_of_not_pos (by decide)]
    simp [parabola, deltaSigmaMachine, DeltaSigma.loop]
  step {st s st'} h hs hstep := by
    obtain ⟨st'', val, hsample, hquiet⟩ := h.sample hs
    simp only [deltaSigmaMachine, hsample, Option.map_some, Option.some.injEq] at hstep
    exact hstep ▸ hquiet

/-- **Within a quarter of full scale the converter never overflows.** -/
theorem deltaSigma_staysInRange (samples : List Int16)
    (h : deltaSigmaMachine.Always (fun _ s => |s.toInt| ≤ 8191) samples) :
    deltaSigmaMachine.Always StaysInRange samples := by
  have hquiet : deltaSigmaMachine.Always (fun _ s => 4 * |s.toInt| ≤ 32767) samples := by
    rw [Machine.always_iff_moves] at h ⊢
    intro pre s hpre
    have hs := h pre s hpre
    omega
  apply quiet_invariant.always _ hquiet
  intro st s hst hs
  obtain ⟨st', val, hsample, -⟩ := hst.sample hs
  rw [StaysInRange, hsample]
  rfl

theorem deltaSigma_staysInRange_square :
    deltaSigmaMachine.Always StaysInRange [8191, -8191, 8191] :=
  deltaSigma_staysInRange [8191, -8191, 8191] (by decide)

/-! ### Full scale -/

/-- The state after `n` rounds at negative full scale, once the output stays low: the sample and the
feedback miss each other by one, so the first integrator sinks and the second one sinks faster. -/
def sinkingState (n : ℕ) : DeltaSigma where
  i1v := -(65536 + n)
  i2v := -(65537 + 32769 * n + n * (n + 1) / 2)
  outReg := -(65537 + 32769 * n + n * (n + 1) / 2)

theorem sinkingState_succ (n : ℕ) : (sinkingState (n + 1)).i1v = (sinkingState n).i1v - 1 ∧
    (sinkingState (n + 1)).i2v = (sinkingState n).i2v + ((sinkingState n).i1v - 1 + 32767) := by
  have hsquare : ((n + 1 : ℕ) : ℤ) * ((n + 1 : ℕ) + 1) = n * (n + 1) + (n + 1) * 2 := by
    push_cast
    ring
  simp only [sinkingState, hsquare, Int.add_mul_ediv_right _ _ two_ne_zero]
  push_cast
  constructor
  · ring
  · ring

theorem sinkingState_bounds {n : ℕ} (hn : n ≤ 40478) :
    -2 ^ 31 < (sinkingState n).i2v ∧ (sinkingState n).i2v ≤ 0 := by
  have hmul : (n : ℤ) * (n + 1) ≤ 40478 * 40479 := by
    have hle := Nat.mul_le_mul hn (Nat.succ_le_succ hn)
    exact_mod_cast hle
  have hpos : (0 : ℤ) ≤ n * (n + 1) := by positivity
  simp only [sinkingState]
  omega

theorem deltaSigmaStep_fullScale {n : ℕ} (hn : n < 40478) :
    deltaSigmaStep (-32768) (sinkingState n) = some (sinkingState (n + 1)) := by
  obtain ⟨hlow, hneg⟩ := sinkingState_bounds hn.le
  obtain ⟨hlow', -⟩ := sinkingState_bounds (show n + 1 ≤ 40478 from hn)
  obtain ⟨hfirst, hsecond⟩ := sinkingState_succ n
  have hfirst_eq : (sinkingState n).i1v = -(65536 + n) := rfl
  have hsum : -32768 + 32767 + (sinkingState n).i1v = (sinkingState (n + 1)).i1v := by omega
  have hsum' : (sinkingState (n + 1)).i1v + 32767 + (sinkingState n).i2v =
      (sinkingState (n + 1)).i2v := by omega
  have hhigh : 32767 = if (sinkingState n).outReg > 0 then (-32767 : ℤ) else 32767 :=
    (if_neg (not_lt.mpr hneg)).symm
  have hstep := deltaSigmaStep_of_mem (s := -32768) hhigh (by decide)
    (abs_lt.mpr ⟨by omega, by omega⟩) (abs_lt.mpr ⟨by omega, by omega⟩)
    (abs_lt.mpr ⟨by omega, by omega⟩)
  rw [hstep, hsum, hsum']
  rfl

theorem deltaSigmaLoop_fullScale (k : ℕ) {n : ℕ} (hn : n + k ≤ 40478) (val : BitVec 32) :
    ∃ val', deltaSigmaLoop (-32768) k (sinkingState n) val = some (sinkingState (n + k), val') := by
  induction k generalizing n val with
  | zero => exact ⟨val, rfl⟩
  | succ k ih =>
    obtain ⟨val', hrest⟩ := ih (n := n + 1) (by omega)
      (val <<< 1 ||| if (sinkingState (n + 1)).i2v > 0 then 1 else 0)
    refine ⟨val', ?_⟩
    rw [deltaSigmaLoop, deltaSigmaStep_fullScale (by omega), ← Nat.add_assoc, Nat.add_right_comm]
    exact hrest

theorem runFrom_fullScale (k : ℕ) {n : ℕ} (hn : n + 32 * k ≤ 40478) :
    deltaSigmaMachine.runFrom (sinkingState n) (List.replicate k (-32768)) =
      sinkingState (n + 32 * k) := by
  induction k generalizing n with
  | zero => rfl
  | succ k ih =>
    obtain ⟨val, hloop⟩ := deltaSigmaLoop_fullScale 32 (n := n) (by omega) 0
    have hmove : deltaSigmaMachine.move (sinkingState n) (-32768) = sinkingState (n + 32) := by
      apply Machine.move_of_step
      show (deltaSigmaLoop (-32768) 32 _ 0).map Prod.fst = _
      rw [hloop]
      rfl
    rw [List.replicate_succ, Machine.runFrom_cons, hmove, ih (by omega),
      show n + 32 + 32 * k = n + 32 * (k + 1) by omega]

/-- The 1266th sample of negative full scale overflows. -/
theorem deltaSigma_overflows :
    ¬ ∀ samples, deltaSigmaMachine.Always StaysInRange samples := by
  intro h
  have hall := h (List.replicate 1266 (-32768))
  rw [Machine.always_iff_moves] at hall
  have hlast := hall (List.replicate 1265 (-32768)) (-32768)
    ⟨[], by rw [List.append_nil, ← List.replicate_succ']⟩
  have hfirst : deltaSigmaMachine.move {} (-32768) = sinkingState 30 := by decide +kernel
  have hrun : deltaSigmaMachine.run (List.replicate 1265 (-32768)) = sinkingState 40478 := by
    rw [List.replicate_succ, Machine.run, Machine.runFrom_cons]
    show deltaSigmaMachine.runFrom (deltaSigmaMachine.move {} (-32768)) _ = _
    rw [hfirst, runFrom_fullScale 1264 (by decide)]
  rw [hrun] at hlast
  exact absurd hlast (by decide +kernel)

end Mp3Decoder
