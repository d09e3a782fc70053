import Mp3Decoder.Lib.CosineError
import Mp3Decoder.Lib.CosineTable
import Mp3Decoder.Mad.Imdct
import Mp3Decoder.Mad.Synth

/-!
# The cosine transform of the synthesis filter (`dct32`)

`dct32` is straight-line code of 80 multiplications.  It is written here over any type with the
operations it needs, so that the same lines run on machine words and on real numbers.  On real
numbers they are the cosine transform; `dct32_transforms` bounds what the truncating products of the
machine words add to it.
-/

namespace Mp3Decoder

/-! ### The code -/

/-- `costab1`, ..., `costab31` -/
def costab : List ℕ := [
  0x0ffb10f2, 0x0fec46d2, 0x0fd3aac0, 0x0fb14be8, 0x0f853f7e, 0x0f4fa0ab, 0x0f109082, 0x0ec835e8,
  0x0e76bd7a, 0x0e1c5979, 0x0db941a3, 0x0d4db315, 0x0cd9f024, 0x0c5e4036, 0x0bdaef91, 0x0b504f33,
  0x0abeb49a, 0x0a267993, 0x0987fbfe, 0x08e39d9d, 0x0839c3cd, 0x078ad74e, 0x06d74402, 0x061f78aa,
  0x0563e69d, 0x04a5018c, 0x03e33f2f, 0x031f1708, 0x0259020e, 0x01917a6c, 0x00c8fb30]

/-- `MUL(x, costab_i)` -/
def mulCostab (i : ℕ) (x : Fixed) : Fixed := madFMul x (madF (costab.getD (i - 1) 0))

/-- The second `SHIFT(x)`, with rounding -/
def ssoShift (x : Fixed) : Fixed := (x + 0x800#32).sshiftRight 12

section
variable {α : Type*} [Add α] [Sub α] (double : α → α) (mul : ℕ → α → α)

/-- The lines of `dct32`: what is shifted and stored, in the order of the frequencies. -/
def dct32Lines (x : ℕ → α) : List α :=
  let t0 := x 0 + x 31; let t16 := mul 1 (x 0 - x 31)
  let t1 := x 15 + x 16; let t17 := mul 31 (x 15 - x 16)
  let t41 := t16 + t17
  let t59 := mul 2 (t16 - t17)
  let t33 := t0 + t1
  let t50 := mul 2 (t0 - t1)
  let t2 := x 7 + x 24; let t18 := mul 15 (x 7 - x 24)
  let t3 := x 8 + x 23; let t19 := mul 17 (x 8 - x 23)
  let t42 := t18 + t19
  let t60 := mul 30 (t18 - t19)
  let t34 := t2 + t3
  let t51 := mul 30 (t2 - t3)
  let t4 := x 3 + x 28; let t20 := mul 7 (x 3 - x 28)
  let t5 := x 12 + x 19; let t21 := mul 25 (x 12 - x 19)
  let t43 := t20 + t21
  let t61 := mul 14 (t20 - t21)
  let t35 := t4 + t5
  let t52 := mul 14 (t4 - t5)
  let t6 := x 4 + x 27; let t22 := mul 9 (x 4 - x 27)
  let t7 := x 11 + x 20; let t23 := mul 23 (x 11 - x 20)
  let t44 := t22 + t23
  let t62 := mul 18 (t22 - t23)
  let t36 := t6 + t7
  let t53 := mul 18 (t6 - t7)
  let t8 := x 1 + x 30; let t24 := mul 3 (x 1 - x 30)
  let t9 := x 14 + x 17; let t25 := mul 29 (x 14 - x 17)
  let t45 := t24 + t25
  let t63 := mul 6 (t24 - t25)
  let t37 := t8 + t9
  let t54 := mul 6 (t8 - t9)
  let t10 := x 6 + x 25; let t26 := mul 13 (x 6 - x 25)
  let t11 := x 9 + x 22; let t27 := mul 19 (x 9 - x 22)
  let t46 := t26 + t27
  let t64 := mul 26 (t26 - t27)
  let t38 := t10 + t11
  let t55 := mul 26 (t10 - t11)
  let t12 := x 2 + x 29; let t28 := mul 5 (x 2 - x 29)
  let t13 := x 13 + x 18; let t29 := mul 27 (x 13 - x 18)
  let t47 := t28 + t29
  let t65 := mul 10 (t28 - t29)
  let t39 := t12 + t13
  let t56 := mul 10 (t12 - t13)
  let t14 := x 5 + x 26; let t30 := mul 11 (x 5 - x 26)
  let t15 := x 10 + x 21; let t31 := mul 21 (x 10 - x 21)
  let t48 := t30 + t31
  let t66 := mul 22 (t30 - t31)
  let t40 := t14 + t15
  let t57 := mul 22 (t14 - t15)
  let t69 := t33 + t34; let t89 := mul 4 (t33 - t34)
  let t70 := t35 + t36; let t90 := mul 28 (t35 - t36)
  let t71 := t37 + t38; let t91 := mul 12 (t37 - t38)
  let t72 := t39 + t40; let t92 := mul 20 (t39 - t40)
  let t73 := t41 + t42; let t94 := mul 4 (t41 - t42)
  let t74 := t43 + t44; let t95 := mul 28 (t43 - t44)
  let t75 := t45 + t46; let t96 := mul 12 (t45 - t46)
  let t76 := t47 + t48; let t97 := mul 20 (t47 - t48)
  let t78 := t50 + t51; let t100 := mul 4 (t50 - t51)
  let t79 := t52 + t53; let t101 := mul 28 (t52 - t53)
  let t80 := t54 + t55; let t102 := mul 12 (t54 - t55)
  let t81 := t56 + t57; let t103 := mul 20 (t56 - t57)
  let t83 := t59 + t60; let t106 := mul 4 (t59 - t60)
  let t84 := t61 + t62; let t107 := mul 28 (t61 - t62)
  let t85 := t63 + t64; let t108 := mul 12 (t63 - t64)
  let t86 := t65 + t66; let t109 := mul 20 (t65 - t66)
  let t113 := t69 + t70
  let t114 := t71 + t72
  let t115 := t73 + t74
  let t116 := t75 + t76
  let t32 := t115 + t116
  let t118 := t78 + t79
  let t119 := t80 + t81
  let t58 := t118 + t119
  let t121 := t83 + t84
  let t122 := t85 + t86
  let t67 := t121 + t122
  let t49 := double t67 - t32
  let t125 := t89 + t90
  let t126 := t91 + t92
  let t93 := t125 + t126
  let t128 := t94 + t95
  let t129 := t96 + t97
  let t98 := t128 + t129
  let t68 := double t98 - t49
  let t132 := t100 + t101
  let t133 := t102 + t103
  let t104 := t132 + t133
  let t82 := double t104 - t58
  let t136 := t106 + t107
  let t137 := t108 + t109
  let t110 := t136 + t137
  let t87 := double t110 - t67
  let t77 := double t87 - t68
  let t141 := mul 8 (t69 - t70)
  let t142 := mul 24 (t71 - t72)
  let t143 := t141 + t142
  let t144 := mul 8 (t73 - t74)
  let t145 := mul 24 (t75 - t76)
  let t146 := t144 + t145
  let t88 := double t146 - t77
  let t148 := mul 8 (t78 - t79)
  let t149 := mul 24 (t80 - t81)
  let t150 := t148 + t149
  let t105 := double t150 - t82
  let t152 := mul 8 (t83 - t84)
  let t153 := mul 24 (t85 - t86)
  let t154 := t152 + t153
  let t111 := double t154 - t87
  let t99 := double t111 - t88
  let t157 := mul 8 (t89 - t90)
  let t158 := mul 24 (t91 - t92)
  let t159 := t157 + t158
  let t127 := double t159 - t93
  let t160 := double (mul 16 (t125 - t126)) - t127
  let t161 := mul 8 (t94 - t95)
  let t162 := mul 24 (t96 - t97)
  let t163 := t161 + t162
  let t130 := double t163 - t98
  let t112 := double t130 - t99
  let t164 := double (mul 16 (t128 - t129)) - t130
  let t166 := mul 8 (t100 - t101)
  let t167 := mul 24 (t102 - t103)
  let t168 := t166 + t167
  let t134 := double t168 - t104
  let t120 := double t134 - t105
  let t135 := double (mul 16 (t118 - t119)) - t120
  let t169 := double (mul 16 (t132 - t133)) - t134
  let t151 := double t169 - t135
  let t170 := double (double (mul 16 (t148 - t149)) - t150) - t151
  let t171 := mul 8 (t106 - t107)
  let t172 := mul 24 (t108 - t109)
  let t173 := t171 + t172
  let t138 := double t173 - t110
  let t123 := double t138 - t111
  let t139 := double (mul 16 (t121 - t122)) - t123
  let t117 := double t123 - t112
  let t124 := double (mul 16 (t115 - t116)) - t117
  let t131 := double t139 - t124
  let t140 := double t164 - t131
  let t174 := double (mul 16 (t136 - t137)) - t138
  let t155 := double t174 - t139
  let t147 := double t155 - t140
  let t156 := double (double (mul 16 (t144 - t145)) - t146) - t147
  let t175 := double (double (mul 16 (t152 - t153)) - t154) - t155
  let t165 := double t175 - t156
  let t176 := double (double (double (mul 16 (t161 - t162)) - t163) - t164) - t165
  [t113 + t114, t32, t58, t49, t93, t68, t82, t77, t143, t88, t105, t99, t127, t112, t120, t117,
   mul 16 (t113 - t114), t124, t135, t131, t160, t140, t151, t147,
   double (mul 16 (t141 - t142)) - t143, t156, t170, t165,
   double (double (mul 16 (t157 - t158)) - t159) - t160, t176,
   double (double (double (mul 16 (t166 - t167)) - t168) - t169) - t170,
   double (double (double (double (mul 16 (t171 - t172)) - t173) - t174) - t175) - t176]

end

/-- `dct32`: frequency `k` goes to `hi[15 - k]` or `lo[k - 16]`. -/
def dct32 (x : ℕ → BitVec 32) : DctOutput := fun eo s =>
  ssoShift ((dct32Lines (· * 2) mulCostab x).getD (if eo = 0 then 16 + s else 15 - s) 0)

/-! ### The algorithm -/

section
variable {α : Type*} [Add α] [Sub α] (double : α → α) (mul : ℕ → α → α)

/-- **The lines are the fast transform**, unrolled. -/
theorem dct32Lines_eq (x : ℕ → α) : dct32Lines double mul x =
    (List.range 32).map (FastCosine.fastCosine double mul 5 1 x) := rfl

end

/-! ### The constants -/

/-- The cosines of the multiples of `π/64`, `2^56` times as large -/
def cosines64 : List ℤ := [
  72057594037927936, 71970797510159343, 71710617027291437, 71277679386896565, 70673027573671297,
  69898118246794937, 68954818230709971, 67845400017778470, 66572536293648945, 65139293498522520,
  63549124439829895, 61805859974115821, 59913699778170136, 57877202231638534, 55701273435486726,
  53391155392773495, 50952413380206181, 48390922540901629, 45712853730651825, 42924658651791783,
  40033054310483523, 37045006834859885, 33967714693011692, 30808591351247617, 27575247414404491,
  24275472291233652, 20917215429032983, 17508567162732085, 14057739224566805, 10573044961297012,
  7062879306626092, 3535698557070346, 0]

/-- The coarser the multiple, the more exact the entry. -/
def cosines64Error (j : ℕ) : ℤ := (32 / Nat.gcd j 32 : ℕ) ^ 3

theorem cosines64_near : ∀ j ≤ 32, CosineTable.Near (2 ^ 56) (cosines64.getD j 0)
    (cosines64Error j) (Real.cos (j * (Real.pi / 64))) := by
  have hfits : ∀ j < 33, 2 ^ 5 ∣ j ∨
      CosineTable.Fits (2 ^ 56) 32 (cosines64.getD · 0) cosines64Error j := by
    decide +kernel
  refine CosineTable.near_of_fits (m := 5) (by push_cast; ring) (dvd_refl _) ?_
    fun j hj => hfits j (by omega)
  rintro j hj ⟨i, rfl⟩
  obtain rfl | rfl : i = 0 ∨ i = 1 := by omega
  · norm_num [CosineTable.Near, cosines64, cosines64Error]
  · have hright : ((2 ^ 5 * 1 : ℕ) : ℝ) * (Real.pi / 64) = Real.pi / 2 := by
      push_cast
      ring
    rw [hright, Real.cos_pi_div_two]
    norm_num [CosineTable.Near, cosines64, cosines64Error]

/-- **The constants are rounded correctly.** -/
theorem costab_nearest {i : ℕ} (hpos : 0 < i) (hlt : i < 32) :
    |(costab.getD (i - 1) 0 : ℝ) - 2 ^ 28 * Real.cos (i * (Real.pi / 64))| ≤ 1 / 2 := by
  have hround : ∀ i < 32, 0 < i →
      2 * |cosines64.getD i 0 - (costab.getD (i - 1) 0 : ℕ) * (2 ^ 28 : ℕ)| +
        2 * cosines64Error i ≤ (1 : ℕ) * (2 ^ 28 : ℕ) := by
    decide +kernel
  have hnear := cosines64_near i hlt.le
  rw [show 2 ^ 56 = 2 ^ 28 * 2 ^ 28 from rfl] at hnear
  have hclose := hnear.round (hround i hlt hpos) (by norm_num)
  rw [Int.cast_natCast, Nat.cast_one, Nat.cast_pow, Nat.cast_ofNat] at hclose
  exact hclose

/-! ### The error -/

/-- Frequency `k` of the transform of the 32 words -/
noncomputable def dct32Sum (x : ℕ → BitVec 32) (k : ℕ) : ℝ :=
  FastCosine.cosineSum 32 (Real.pi / 64) (fun i => (x i).toInt) k

/-- The lines on real numbers are exact. -/
theorem dct32Lines_real (x : ℕ → ℝ) {k : ℕ} (hk : k < 32) :
    (dct32Lines (2 * ·) (fun j x => x * Real.cos (j * (Real.pi / 64))) x).getD k 0 =
      FastCosine.cosineSum 32 (Real.pi / 64) x k := by
  have hangle : 2 ^ (5 + 1) * ((1 : ℕ) * (Real.pi / 64)) = Real.pi := by
    push_cast
    ring
  have hsum := FastCosine.fastCosine_eq_sum hangle x hk
  rw [Nat.cast_one, one_mul, show 2 ^ 5 = 32 from rfl] at hsum
  rw [dct32Lines_eq, List.getD_eq_getElem?_getD, List.getElem?_map,
    List.getElem?_range hk, ← hsum]
  rfl

/-- The output of `dct32` for frequency `k`, before `SHIFT` -/
def dct32Word (x : ℕ → BitVec 32) (k : ℕ) : BitVec 32 :=
  (dct32Lines (· * 2) mulCostab x).getD k 0

/-- The budget of frequency `k`, for inputs of at most `2^24` -/
def dct32Budget (k : ℕ) : Budget :=
  FastCosine.cosineBudget 12 16 (fun j => costab.getD (j - 1) 0) 5 1 (fun _ => ⟨true, 0, 2 ^ 24⟩) k

theorem dct32Word_holds {x : ℕ → BitVec 32} (hx : ∀ i < 32, (x i).toInt.natAbs ≤ 2 ^ 24) {k : ℕ}
    (hk : k < 32) : (dct32Budget k).Holds (dct32Word x k) (dct32Sum x k) := by
  have hangle : 2 ^ (5 + 1) * ((1 : ℕ) * (Real.pi / 64)) = Real.pi := by
    push_cast
    ring
  have hwords : ∀ j : ℕ, 0 < j → 2 * (j * (Real.pi / 64)) < Real.pi →
      |((costab.getD (j - 1) 0 : ℤ) : ℝ) - 2 ^ (12 + 16) * Real.cos (j * (Real.pi / 64))| ≤ 1 := by
    intro j hpos hlt
    have hj : (j : ℝ) < 32 := by
      have hscaled : (j : ℝ) * Real.pi < 32 * Real.pi := by linarith
      exact lt_of_mul_lt_mul_right hscaled Real.pi_pos.le
    have hclose := costab_nearest hpos (by exact_mod_cast hj)
    rw [Int.cast_natCast]
    refine hclose.trans ?_
    norm_num
  have hholds := FastCosine.fastCosineWord_holds hangle hwords
    (b := fun _ => ⟨true, 0, 2 ^ 24⟩) (fun i hi => Budget.Holds.self (hx i hi)) hk
  rw [Nat.cast_one, one_mul] at hholds
  rw [dct32Word, dct32Lines_eq, List.getD_eq_getElem?_getD, List.getElem?_map,
    List.getElem?_range hk]
  exact hholds

/-- `SHIFT` takes off at most half of the last place that is left. -/
theorem ssoShift_close {x : BitVec 32} (hx : x.toInt.natAbs + 2 ^ 11 < 2 ^ 31) :
    |2 ^ 12 * (ssoShift x).toInt - x.toInt| ≤ 2 ^ 11 := by
  have hsum : (x + 0x800#32).toInt = x.toInt + 2 ^ 11 :=
    toInt_add_of_reach le_rfl (n := 2 ^ 11) (by decide) hx
  rw [ssoShift, BitVec.toInt_sshiftRight, hsum, Int.shiftRight_eq_div_pow, abs_le]
  omega

/-- How many bits the error of each frequency has, in units of `2^-28` -/
def dct32ErrorBits : List ℕ := [
  11, 17, 17, 19, 17, 20, 19, 21, 16, 21, 19, 22, 18, 22, 20, 23,
  16, 23, 21, 23, 19, 24, 21, 24, 18, 24, 22, 25, 20, 25, 22, 25]

theorem dct32Budget_fits : ∀ k < 32, (dct32Budget k).fits = true ∧
    (dct32Budget k).reach + 2 ^ 11 < 2 ^ 31 ∧
      (dct32Budget k).error + 2 ^ 11 ≤ 2 ^ dct32ErrorBits.getD k 0 := by
  decide +kernel

/-- What `dct32` stores for frequency `k` -/
def dct32Output (x : ℕ → BitVec 32) (k : ℕ) : BitVec 32 :=
  dct32 x (if k < 16 then 1 else 0) (if k < 16 then 15 - k else k - 16)

theorem dct32Output_eq (x : ℕ → BitVec 32) {k : ℕ} (hk : k < 32) :
    dct32Output x k = ssoShift (dct32Word x k) := by
  rw [dct32Output, dct32, dct32Word]
  by_cases hlow : k < 16
  · rw [if_pos hlow, if_pos hlow, if_neg Nat.one_ne_zero, show 15 - (15 - k) = k by omega]
  · rw [if_neg hlow, if_neg hlow, if_pos rfl, show 16 + (k - 16) = k by omega]

theorem dct32Output_close {x : ℕ → BitVec 32} (hx : ∀ i < 32, (x i).toInt.natAbs ≤ 2 ^ 24) {k : ℕ}
    (hk : k < 32) :
    |2 ^ 12 * ((dct32Output x k).toInt : ℝ) - dct32Sum x k| ≤ 2 ^ dct32ErrorBits.getD k 0 := by
  obtain ⟨hfits, hreach, herror⟩ := dct32Budget_fits k hk
  have hholds := dct32Word_holds hx hk
  have hword := hholds.natAbs_le hfits
  have hshift : |2 ^ 12 * ((ssoShift (dct32Word x k)).toInt : ℝ) - (dct32Word x k).toInt| ≤
      2 ^ 11 := by
    exact_mod_cast ssoShift_close (by omega)
  have hbits : ((dct32Budget k).error : ℝ) + 2 ^ 11 ≤ 2 ^ dct32ErrorBits.getD k 0 := by
    exact_mod_cast herror
  have htriangle := abs_sub_le (2 ^ 12 * ((ssoShift (dct32Word x k)).toInt : ℝ))
    ((dct32Word x k).toInt : ℝ) (dct32Sum x k)
  rw [dct32Output_eq x hk]
  linarith [hholds.close hfits]

/-- **`dct32` is the cosine transform**: over the real numbers exactly, and on words of at most
`2^24` with the errors of `dct32ErrorBits`. -/
theorem dct32_transforms (x : ℕ → BitVec 32) {k : ℕ} (hk : k < 32) :
    (dct32Lines (2 * ·) (fun j x => x * Real.cos (j * (Real.pi / 64)))
        fun i => ((x i).toInt : ℝ)).getD k 0 = dct32Sum x k ∧
      ((∀ i < 32, (x i).toInt.natAbs ≤ 2 ^ 24) →
        |2 ^ 12 * ((dct32Output x k).toInt : ℝ) - dct32Sum x k| ≤ 2 ^ dct32ErrorBits.getD k 0) :=
  ⟨dct32Lines_real _ hk, fun hx => dct32Output_close hx hk⟩

theorem dct32_transforms_ramp :
    |2 ^ 12 * ((dct32Output (fun i => BitVec.ofNat 32 (1000 * i)) 5).toInt : ℝ) -
      dct32Sum (fun i => BitVec.ofNat 32 (1000 * i)) 5| ≤ 2 ^ 20 :=
  (dct32_transforms (fun i => BitVec.ofNat 32 (1000 * i)) (show 5 < 32 by omega)).2
    (by decide)

end Mp3Decoder
