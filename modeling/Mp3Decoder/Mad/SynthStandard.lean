import Mp3Decoder.Lib.PolyphaseFilter
import Mp3Decoder.Mad.Dct32
import Mp3Decoder.Mad.SynthSliding

/-!
# Synthesis is the polyphase filter of the standard

The flow chart of the standard turns a block of 32 subband samples into 64 numbers, of which
`dct32` computes the 32 that differ in more than the sign, and has a window of 512 coefficients, of
which `D` has those that differ in more than the sign.  With the signs put back, `mad_synth_frame`
renders what the flow chart makes of its blocks.
-/

namespace Mp3Decoder

open Finset

/-! ### The signs put back -/

/-- The window of 512 coefficients -/
def standardWindow (n : ℕ) : ℤ :=
  if n % 32 ≤ 16 then windowEntry (n % 32) (n / 32 : ℕ)
  else -windowEntry (32 - n % 32) (15 - n / 32 : ℕ)

/-- Entry `i` of the 64 numbers of a block, from the outputs of `dct32` -/
def vectorV (out : DctOutput) (i : ℕ) : BitVec 32 :=
  if i < 16 then out 0 i
  else if i = 16 then 0
  else if i ≤ 32 then -out 0 (32 - i)
  else if i ≤ 48 then -out 1 (i - 33)
  else -out 1 (63 - i)

/-- Matrixing in machine arithmetic -/
def matrixing (block : ℕ → BitVec 32) : ℕ → BitVec 32 := vectorV (dct32 block)

/-- A term of the window has its place in the flow chart. -/
theorem standardTerm (out : DctOutput) {k j : ℕ} (hk : k < 32) (hj : j < 16) :
    BitVec.ofInt 32 (windowCoeff k j) * tapOutput k j out =
      BitVec.ofInt 32 (standardWindow (k + 32 * j)) * vectorV out (k + 32 * (j % 2)) := by
  have hmod : (k + 32 * j) % 32 = k := by omega
  have hdiv : (k + 32 * j) / 32 = j := by omega
  have hcol : ((15 - j : ℕ) : ℤ) = 15 - j := by omega
  rw [standardWindow, hmod, hdiv, hcol, windowCoeff, tapOutput, vectorV]
  rcases Nat.mod_two_eq_zero_or_one j with hparity | hparity
  · rw [hparity, Nat.mul_zero, Nat.add_zero]
    by_cases hlow : k < 16
    · simp only [hlow, hlow.le, hlow.ne, if_true, false_and, if_false]
    · by_cases hmiddle : k = 16
      · simp [hmiddle]
      · have hhigh : ¬k ≤ 16 := by omega
        simp only [hmiddle, hlow, hhigh, show k ≤ 32 by omega, if_true, false_and, if_false,
          BitVec.ofInt_neg, neg_mul_neg]
  · have hfar : ¬k + 32 * 1 < 16 ∧ ¬k + 32 * 1 = 16 := by omega
    rw [hparity]
    simp only [hfar.1, hfar.2, Nat.one_ne_zero, and_false, if_false]
    by_cases hzero : k = 0
    · simp [hzero, BitVec.ofInt_neg]
    · have hbehind : ¬k + 32 * 1 ≤ 32 := by omega
      by_cases hlow : k ≤ 16
      · simp only [hzero, hlow, hbehind, show k + 32 * 1 ≤ 48 by omega,
          show k + 32 * 1 - 33 = k - 1 by omega, if_true, if_false, BitVec.ofInt_neg, neg_mul,
          mul_neg]
      · simp only [hzero, hlow, hbehind, show ¬k + 32 * 1 ≤ 48 by omega,
          show 63 - (k + 32 * 1) = 31 - k by omega, if_false, BitVec.ofInt_neg, neg_mul_neg]

/-- The output of the flow chart on the blocks of one channel -/
def polyphaseOutput (blocks : List (ℕ → BitVec 32)) (k : ℕ) : BitVec 32 :=
  Polyphase.output 32 16 (fun n => BitVec.ofInt 32 (standardWindow n))
    (Polyphase.run 32 matrixing blocks) k

/-- The sliding window is the flow chart. -/
theorem slidingSum_eq_polyphase (ch : ℕ) (blocks : List SubbandBlock) {k : ℕ} (hk : k < 32) :
    slidingSum k (nthBack (dctOutputs dct32 ch blocks.reverse)) =
      polyphaseOutput (blocks.map fun block => block ch) k := by
  rw [slidingSum, polyphaseOutput, Polyphase.output_run _ _ _ hk]
  refine sum_congr rfl ?_
  intro j hj
  have hback : vectorV (nthBack (dctOutputs dct32 ch blocks.reverse) j) (k + 32 * (j % 2)) =
      Polyphase.back matrixing (blocks.map fun block => block ch) j (k + 32 * (j % 2)) := by
    rw [nthBack, dctOutputs, Polyphase.back, List.getD_eq_getElem?_getD, List.getElem?_map,
      ← List.map_reverse, List.getElem?_map]
    cases blocks.reverse[j]? with
    | none =>
      simp only [Option.map_none, Option.getD_none, vectorV, neg_zero, ite_self]
    | some block => rfl
  rw [standardTerm _ hk (mem_range.mp hj), hback]

/-! ### Matrixing -/

/-- Entry `i` of the 64 numbers, as the standard defines it -/
noncomputable def matrixSum (x : ℕ → BitVec 32) (i : ℕ) : ℝ :=
  ∑ s ∈ range 32, (x s).toInt * Real.cos ((16 + i : ℕ) * (2 * s + 1 : ℕ) * (Real.pi / (64 : ℕ)))

theorem matrixSum_eq (x : ℕ → BitVec 32) (i : ℕ) : matrixSum x i =
    ∑ s ∈ range 32, (x s).toInt * Real.cos ((16 + i) * (2 * s + 1) * (Real.pi / 64)) := by
  rw [matrixSum]
  push_cast
  rfl

theorem dct32Sum_eq (x : ℕ → BitVec 32) (k : ℕ) : dct32Sum x k =
    ∑ s ∈ range 32, (x s).toInt * Real.cos (k * (2 * s + 1) * (Real.pi / 64)) := by
  rw [dct32Sum, FastCosine.cosineSum_eq]
  refine sum_congr rfl ?_
  intro s _
  ring_nf

/-- Half a turn on from frequency `k`, or short of it -/
theorem cos_halfTurn (s : ℕ) {m k : ℝ} (h : m = 64 - k ∨ m = 64 + k) :
    Real.cos (m * (2 * s + 1) * (Real.pi / 64)) = -Real.cos (k * (2 * s + 1) * (Real.pi / 64)) := by
  rcases h with rfl | rfl
  · have hturn : (64 - k) * (2 * s + 1) * (Real.pi / 64) =
        Real.pi - k * (2 * s + 1) * (Real.pi / 64) + s * (2 * Real.pi) := by ring
    rw [hturn, Real.cos_add_nat_mul_two_pi, Real.cos_pi_sub]
  · have hturn : (64 + k) * (2 * s + 1) * (Real.pi / 64) =
        k * (2 * s + 1) * (Real.pi / 64) + Real.pi + s * (2 * Real.pi) := by ring
    rw [hturn, Real.cos_add_nat_mul_two_pi, Real.cos_add_pi]

theorem matrixSum_turned (x : ℕ → BitVec 32) {i k : ℕ} (h : i + k = 48 ∨ i = 48 + k) :
    matrixSum x i = -dct32Sum x k := by
  rw [matrixSum_eq, dct32Sum_eq, ← sum_neg_distrib]
  refine sum_congr rfl ?_
  intro s _
  have hplace : (16 : ℝ) + i = 64 - k ∨ (16 : ℝ) + i = 64 + k := by
    rcases h with h | h
    · left
      have hcast : (i : ℝ) + k = 48 := by exact_mod_cast h
      linarith
    · right
      have hcast : (i : ℝ) = 48 + k := by exact_mod_cast h
      linarith
  rw [cos_halfTurn s hplace, mul_neg]

theorem matrixSum_middle (x : ℕ → BitVec 32) : matrixSum x 16 = 0 := by
  rw [matrixSum_eq]
  refine sum_eq_zero ?_
  intro s _
  have hright : ((16 : ℝ) + (16 : ℕ)) * (2 * s + 1) * (Real.pi / 64) =
      Real.pi / 2 + s * Real.pi := by
    push_cast
    ring
  rw [hright, Real.cos_add_nat_mul_pi, Real.cos_pi_div_two, mul_zero, mul_zero]

/-- Every output of `dct32` is at least as exact as the worst. -/
theorem dct32Output_worst {x : ℕ → BitVec 32} (hx : ∀ s < 32, (x s).toInt.natAbs ≤ 2 ^ 24) {k : ℕ}
    (hk : k < 32) : |2 ^ 12 * ((dct32Output x k).toInt : ℝ) - dct32Sum x k| ≤ 2 ^ 25 := by
  have hbits : ∀ k < 32, dct32ErrorBits.getD k 0 ≤ 25 := by decide
  exact (dct32Output_close hx hk).trans (pow_le_pow_right₀ one_le_two (hbits k hk))

/-- `SHIFT` leaves room for a change of sign. -/
theorem toInt_neg_ssoShift (x : BitVec 32) : (-ssoShift x).toInt = -(ssoShift x).toInt := by
  have hrange : (ssoShift x).toInt.natAbs ≤ 2 ^ 19 := by
    have hlow := BitVec.le_toInt (x + 0x800#32)
    have hhigh := BitVec.toInt_lt (x := x + 0x800#32)
    rw [ssoShift, BitVec.toInt_sshiftRight, Int.shiftRight_eq_div_pow]
    omega
  exact toInt_neg_of_reach hrange (by norm_num)

/-- The entries that have an output of `dct32` with the other sign. -/
theorem matrixing_turned (x : ℕ → BitVec 32) {i k : ℕ} (hi : 16 < i) (hlt : i < 64)
    (h : i + k = 48 ∨ i = 48 + k) : matrixing x i = -dct32Output x k := by
  have hlow : ¬i < 16 := by omega
  have hmiddle : i ≠ 16 := by omega
  rw [matrixing, vectorV, if_neg hlow, if_neg hmiddle, dct32Output]
  by_cases hfirst : i ≤ 32
  · have hk : ¬k < 16 := by omega
    rw [if_pos hfirst, if_neg hk, if_neg hk, show k - 16 = 32 - i by omega]
  · have hk : k < 16 := by omega
    rw [if_neg hfirst, if_pos hk, if_pos hk]
    by_cases hsecond : i ≤ 48
    · rw [if_pos hsecond, show 15 - k = i - 33 by omega]
    · rw [if_neg hsecond, show 15 - k = 63 - i by omega]

/-- **Matrixing** is right up to the error of `dct32`. -/
theorem matrixing_close {x : ℕ → BitVec 32} (hx : ∀ s < 32, (x s).toInt.natAbs ≤ 2 ^ 24) {i : ℕ}
    (hi : i < 64) : |2 ^ 12 * ((matrixing x i).toInt : ℝ) - matrixSum x i| ≤ 2 ^ 25 := by
  rcases Nat.lt_trichotomy i 16 with hlow | rfl | hhigh
  · have hword : matrixing x i = dct32Output x (16 + i) := by
      rw [matrixing, vectorV, if_pos hlow, dct32Output, if_neg (by omega), if_neg (by omega),
        Nat.add_sub_cancel_left]
    have hsum : matrixSum x i = dct32Sum x (16 + i) := by
      rw [dct32Sum_eq, matrixSum_eq]
      push_cast
      rfl
    rw [hword, hsum]
    exact dct32Output_worst hx (by omega)
  · have hword : (matrixing x 16).toInt = 0 := rfl
    rw [hword, matrixSum_middle]
    norm_num
  · obtain ⟨k, hk, hplace⟩ : ∃ k < 32, i + k = 48 ∨ i = 48 + k := by
      by_cases hle : i ≤ 48
      · exact ⟨48 - i, by omega, by omega⟩
      · exact ⟨i - 48, by omega, by omega⟩
    have hclose := dct32Output_worst hx hk
    rw [matrixing_turned x hhigh hi hplace, matrixSum_turned x hplace, dct32Output_eq x hk,
      toInt_neg_ssoShift, ← dct32Output_eq x hk, Int.cast_neg, mul_neg, neg_sub_neg, abs_sub_comm]
    exact hclose

/-! ### The run -/

/-- The buffers of a run from the start, by the blocks so far -/
theorem synthFrames_samples {nch : ℕ} (frames : List SubbandFrame)
    (hnch : ∀ frame ∈ frames, madNchannels frame.header = nch)
    (hfull : ∀ frame ∈ frames, frame.options &&& madOptionHalfsamplerate = 0) :
    let blocks := frameBlocks frames
    let out := (synthFrames dct32 madSynthInit frames).2.filterMap SynthCall.rendered
    out.length = blocks.length ∧ ∀ t < blocks.length, ∃ buff, out[t]? = some (buff, 32) ∧
      ∀ k < 32, (buff k).toInt =
        ∑ ch ∈ range nch, channelSample dct32 k ch (blocks.take (t + 1)).reverse := by
  intro blocks out
  cases frames with
  | nil => exact ⟨rfl, fun t ht => absurd ht (Nat.not_lt_zero t)⟩
  | cons frame rest =>
    have hle : nch ≤ 2 := by
      rw [← hnch frame List.mem_cons_self]
      exact madNchannels_le frame.header
    have hout : out = _ :=
      synthFrames_rendered dct32 _ madSynthInit hnch hfull (show 0 < 16 by decide)
    have hinit : FiltersDelayed dct32 nch [] madSynthInit.filter :=
      fun _ _ _ _ _ _ => DelayLine.recent_nil 16 0
    obtain ⟨_, hlength, hbuffs⟩ := synthBlocks_sliding dct32 hle blocks [] _ hinit
    rw [hout]
    refine ⟨by rw [List.length_map]; exact hlength, ?_⟩
    intro t ht
    obtain ⟨buff, hget, hsamples⟩ := hbuffs t ht
    rw [List.append_nil] at hsamples
    refine ⟨buff, ?_, hsamples⟩
    rw [List.getElem?_map]
    exact congrArg (Option.map fun buff => (buff, 32)) hget

/-- **The flow chart of the standard**: over any run of frames with `nch` channels at full rate,
every sample rendered is what the flow chart makes of the blocks so far, and each number that it
turns a block into is right up to the error of `dct32`. -/
theorem madSynth_flowChart {nch : ℕ} (frames : List SubbandFrame)
    (hnch : ∀ frame ∈ frames, madNchannels frame.header = nch)
    (hfull : ∀ frame ∈ frames, frame.options &&& madOptionHalfsamplerate = 0) :
    let blocks := frameBlocks frames
    let out := (synthFrames dct32 madSynthInit frames).2.filterMap SynthCall.rendered
    out.length = blocks.length ∧
      (∀ t < blocks.length, ∃ buff, out[t]? = some (buff, 32) ∧ ∀ k < 32, (buff k).toInt =
        ∑ ch ∈ range nch, (scale (synthShift
          (polyphaseOutput ((blocks.take (t + 1)).map fun block => block ch) k))).toInt) ∧
      ∀ block ∈ blocks, ∀ ch, (∀ s < 32, (block ch s).toInt.natAbs ≤ 2 ^ 24) → ∀ i < 64,
        |2 ^ 12 * ((matrixing (block ch) i).toInt : ℝ) - matrixSum (block ch) i| ≤ 2 ^ 25 := by
  intro blocks out
  obtain ⟨hlength, hbuffs⟩ := synthFrames_samples frames hnch hfull
  refine ⟨hlength, ?_, fun block _ ch hx i hi => matrixing_close hx hi⟩
  intro t ht
  obtain ⟨buff, hget, hsamples⟩ := hbuffs t ht
  refine ⟨buff, hget, ?_⟩
  intro k hk
  rw [hsamples k hk]
  refine sum_congr rfl ?_
  intro ch _
  rw [channelSample, slidingSum_eq_polyphase ch _ hk]

theorem madSynth_flowChart_mixed :
    let frames := [stereoFrame true, stereoFrame false]
    let out := (synthFrames dct32 madSynthInit frames).2.filterMap SynthCall.rendered
    out.length = 54 ∧ ∃ buff, out[20]? = some (buff, 32) ∧ (buff 17).toInt =
      ∑ ch ∈ range 2, (scale (synthShift (polyphaseOutput
        (((frameBlocks frames).take 21).map fun block => block ch) 17))).toInt := by
  intro frames out
  have hblocks : (frameBlocks frames).length = 54 := rfl
  have hnch : ∀ frame ∈ frames, madNchannels frame.header = 2 := by decide +kernel
  have hfull : ∀ frame ∈ frames, frame.options &&& madOptionHalfsamplerate = 0 := by
    decide +kernel
  obtain ⟨hlength, hsamples, _⟩ := madSynth_flowChart frames hnch hfull
  obtain ⟨buff, hget, hbuff⟩ := hsamples 20 (by rw [hblocks]; omega)
  exact ⟨hlength.trans hblocks, buff, hget, hbuff 17 (by omega)⟩

end Mp3Decoder
