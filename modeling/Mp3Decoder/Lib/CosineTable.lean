import Mathlib.Analysis.SpecialFunctions.Trigonometric.Basic

/-!
# Tables of cosines

A table of scaled cosines of the multiples of an angle that divides the right angle is right when
its entries fit together as the half-angle formula says.  That is a check of integers; only the
coarsest entries need an argument of their own.
-/

namespace CosineTable

/-- `entry` is `scale * x`, give or take `error`. -/
def Near (scale : ℕ) (entry error : ℤ) (x : ℝ) : Prop :=
  |(entry : ℝ) - scale * x| ≤ error

/-- The entries for an angle and for its double, as integers. -/
def HalfAngle (scale : ℕ) (entry error double doubleError : ℤ) : Prop :=
  0 ≤ entry + error ∧ (entry ≤ error ∨
      2 * (entry - error) ^ 2 ≤ scale * (scale + double - doubleError)) ∧
    scale * (scale + double + doubleError) ≤ 2 * (entry + error) ^ 2

instance (scale : ℕ) (entry error double doubleError : ℤ) :
    Decidable (HalfAngle scale entry error double doubleError) :=
  inferInstanceAs (Decidable (_ ∧ _ ∧ _))

variable {scale : ℕ} {entry error : ℤ}

theorem Near.neg {x : ℝ} (h : Near scale entry error x) : Near scale (-entry) error (-x) := by
  rw [Near, Int.cast_neg, mul_neg, neg_sub_neg, abs_sub_comm]
  exact h

/-- A finer scale, rounded. -/
theorem Near.round {fine : ℕ} {x : ℝ} (h : Near (scale * fine) entry error x) {rounded : ℤ}
    {bound : ℕ} (hround : 2 * |entry - rounded * fine| + 2 * error ≤ bound * fine)
    (hfine : 0 < fine) : |(rounded : ℝ) - scale * x| ≤ bound / 2 := by
  have hpos : (0 : ℝ) < fine := Nat.cast_pos.mpr hfine
  have hcast : 2 * |(entry : ℝ) - rounded * fine| + 2 * error ≤ bound * fine := by
    exact_mod_cast hround
  rw [Near] at h
  push_cast at h
  have htriangle := abs_sub_le ((rounded : ℝ) * fine) entry (scale * fine * x)
  rw [abs_sub_comm ((rounded : ℝ) * fine) entry] at htriangle
  have hscaled : fine * |(rounded : ℝ) - scale * x| = |(rounded : ℝ) * fine - scale * fine * x| := by
    rw [← abs_of_pos hpos, ← abs_mul, abs_of_pos hpos]
    ring_nf
  refine le_of_mul_le_mul_left ?_ hpos
  rw [hscaled]
  linarith

theorem Near.halfAngle {double doubleError : ℤ} {angle : ℝ} (hangle : 0 ≤ Real.cos angle)
    (h : Near scale double doubleError (Real.cos (2 * angle)))
    (hcheck : HalfAngle scale entry error double doubleError) :
    Near scale entry error (Real.cos angle) := by
  obtain ⟨hnonneg, hlow, hhigh⟩ := hcheck
  have hnonneg : (0 : ℝ) ≤ entry + error := by exact_mod_cast hnonneg
  have hhigh : (scale : ℝ) * (scale + double + doubleError) ≤ 2 * (entry + error) ^ 2 := by
    exact_mod_cast hhigh
  obtain ⟨y, hy⟩ : ∃ y, y = scale * Real.cos angle := ⟨_, rfl⟩
  have hypos : 0 ≤ y := by
    rw [hy]
    exact mul_nonneg (Nat.cast_nonneg _) hangle
  have hsquare : 2 * y ^ 2 = scale * (scale + scale * Real.cos (2 * angle)) := by
    rw [hy, Real.cos_two_mul]
    ring
  rw [Near, abs_le] at h
  have hscale : (0 : ℝ) ≤ scale := Nat.cast_nonneg _
  have hupper : y ≤ entry + error := by
    refine le_of_sq_le_sq ?_ hnonneg
    have hle := mul_le_mul_of_nonneg_left
      (by linarith [h.1] : scale + scale * Real.cos (2 * angle) ≤ scale + double + doubleError)
      hscale
    linarith
  have hlower : entry - error ≤ y := by
    rcases hlow with hle | hle
    · have hle : (entry : ℝ) ≤ error := by exact_mod_cast hle
      linarith
    · have hle : 2 * ((entry : ℝ) - error) ^ 2 ≤ scale * (scale + double - doubleError) := by
        exact_mod_cast hle
      refine le_of_sq_le_sq ?_ hypos
      have hscaled := mul_le_mul_of_nonneg_left
        (by linarith [h.2] : (scale : ℝ) + double - doubleError ≤
          scale + scale * Real.cos (2 * angle)) hscale
      linarith
  rw [Near, ← hy, abs_le]
  constructor <;> linarith

/-- Above one half, `4 * y^3 - 3 * y` is monotone. -/
theorem triple_mono {scale x y : ℝ} (hx : scale ≤ 2 * x) (hxy : x ≤ y) (hscale : 0 ≤ scale) :
    4 * x ^ 3 - 3 * scale ^ 2 * x ≤ 4 * y ^ 3 - 3 * scale ^ 2 * y := by
  have hxx : scale ^ 2 ≤ 4 * (x * x) := by
    calc scale ^ 2 = scale * scale := sq scale
      _ ≤ 2 * x * (2 * x) := mul_le_mul hx hx hscale (hscale.trans hx)
      _ = 4 * (x * x) := by ring
  have hxnonneg : 0 ≤ x := by linarith
  have hxy' : x * x ≤ x * y := mul_le_mul_of_nonneg_left hxy hxnonneg
  have hyy : x * y ≤ y * y := mul_le_mul_of_nonneg_right hxy (hxnonneg.trans hxy)
  have hdiff : 4 * y ^ 3 - 3 * scale ^ 2 * y - (4 * x ^ 3 - 3 * scale ^ 2 * x) =
      (y - x) * (4 * (x * x) + 4 * (x * y) + 4 * (y * y) - 3 * scale ^ 2) := by ring
  have hproduct : 0 ≤ (y - x) * (4 * (x * x) + 4 * (x * y) + 4 * (y * y) - 3 * scale ^ 2) :=
    mul_nonneg (sub_nonneg.mpr hxy) (by linarith)
  linarith

/-- An entry from the cosine of three times the angle, where the angle is at most 60 degrees. -/
theorem Near.thirdAngle {angle triple : ℝ} (htriple : Real.cos (3 * angle) = triple)
    (hangle : 1 / 2 ≤ Real.cos angle) (herror : 0 ≤ error)
    (hlow : (scale : ℤ) ≤ 2 * (entry - error))
    (hbelow : (4 : ℝ) * (entry - error) ^ 3 - 3 * scale ^ 2 * (entry - error) <
      scale ^ 3 * triple)
    (habove : scale ^ 3 * triple <
      (4 : ℝ) * (entry + error) ^ 3 - 3 * scale ^ 2 * (entry + error)) :
    Near scale entry error (Real.cos angle) := by
  have hscale : (0 : ℝ) ≤ scale := Nat.cast_nonneg _
  have hlow : (scale : ℝ) ≤ 2 * (entry - error) := by exact_mod_cast hlow
  have herror : (0 : ℝ) ≤ error := by exact_mod_cast herror
  obtain ⟨y, hy⟩ : ∃ y, y = scale * Real.cos angle := ⟨_, rfl⟩
  have hcube : 4 * y ^ 3 - 3 * scale ^ 2 * y = scale ^ 3 * triple := by
    rw [hy, ← htriple, Real.cos_three_mul]
    ring
  have hyhalf : scale ≤ 2 * y := by
    rw [hy]
    have hmul := mul_le_mul_of_nonneg_left hangle hscale
    linarith
  have hlower : entry - error ≤ y := by
    by_contra hfar
    have hmono := triple_mono hyhalf (not_le.mp hfar).le hscale
    linarith
  have hupper : y ≤ entry + error := by
    by_contra hfar
    have hmono := triple_mono (by linarith : (scale : ℝ) ≤ 2 * (entry + error))
      (not_le.mp hfar).le hscale
    linarith
  rw [Near, ← hy, abs_le]
  constructor <;> linarith

/-- The check of entry `j` of a table for the multiples of an angle, `count` of which are a right
angle. -/
def Fits (scale count : ℕ) (entries errors : ℕ → ℤ) (j : ℕ) : Prop :=
  if 2 * j ≤ count then HalfAngle scale (entries j) (errors j) (entries (2 * j)) (errors (2 * j))
  else HalfAngle scale (entries j) (errors j) (-entries (2 * count - 2 * j))
    (errors (2 * count - 2 * j))

instance (scale count : ℕ) (entries errors : ℕ → ℤ) (j : ℕ) :
    Decidable (Fits scale count entries errors j) :=
  inferInstanceAs (Decidable (ite _ _ _))

section
variable {count : ℕ} {angle : ℝ} (hangle : 2 * (count * angle) = Real.pi)
include hangle

/-- The angles of the table are not above the right angle. -/
theorem cos_nonneg_of_le {j : ℕ} (hj : j ≤ count) : 0 ≤ Real.cos (j * angle) := by
  have hpi := Real.pi_pos
  have hpositive : 0 < angle := by
    by_contra hneg
    have hproduct := mul_nonpos_of_nonneg_of_nonpos (Nat.cast_nonneg (α := ℝ) count)
      (not_lt.mp hneg)
    linarith
  have hle : (j : ℝ) * angle ≤ count * angle :=
    mul_le_mul_of_nonneg_right (Nat.cast_le.mpr hj) hpositive.le
  have hnonneg : 0 ≤ (j : ℝ) * angle := mul_nonneg (Nat.cast_nonneg j) hpositive.le
  exact Real.cos_nonneg_of_neg_pi_div_two_le_of_le (by linarith) (by linarith)

/-- One entry from the entry of its double, which may be the other side of the right angle. -/
theorem Fits.near {entries errors : ℕ → ℤ} {j : ℕ} (hj : j ≤ count)
    (hfits : Fits scale count entries errors j)
    (hdouble : ∀ i ≤ count, i = 2 * j ∨ i = 2 * count - 2 * j →
      Near scale (entries i) (errors i) (Real.cos (i * angle))) :
    Near scale (entries j) (errors j) (Real.cos (j * angle)) := by
  have hpositive := cos_nonneg_of_le hangle hj
  rw [Fits] at hfits
  split_ifs at hfits with hhalf
  · have hnear := hdouble (2 * j) hhalf (Or.inl rfl)
    rw [Nat.cast_mul, Nat.cast_ofNat, mul_assoc] at hnear
    exact hnear.halfAngle hpositive hfits
  · have hnear := (hdouble (2 * count - 2 * j) (by omega) (Or.inr rfl)).neg
    have hturn : ((2 * count - 2 * j : ℕ) : ℝ) * angle = Real.pi - 2 * (j * angle) := by
      rw [Nat.cast_sub (by omega), ← hangle]
      push_cast
      ring
    rw [hturn, Real.cos_pi_sub, neg_neg] at hnear
    exact hnear.halfAngle hpositive hfits

/-- **A table that fits together is right**, if it is right at the multiples of `2^m`. -/
theorem near_of_fits {m : ℕ} {entries errors : ℕ → ℤ} (hcount : 2 ^ m ∣ count)
    (hbase : ∀ j ≤ count, 2 ^ m ∣ j → Near scale (entries j) (errors j) (Real.cos (j * angle)))
    (hfits : ∀ j ≤ count, 2 ^ m ∣ j ∨ Fits scale count entries errors j) :
    ∀ j ≤ count, Near scale (entries j) (errors j) (Real.cos (j * angle)) := by
  -- the level `n` has the multiples of `2^(m - n)`
  have hlevels : ∀ n ≤ m, ∀ j ≤ count, 2 ^ (m - n) ∣ j →
      Near scale (entries j) (errors j) (Real.cos (j * angle)) := by
    intro n
    induction n with
    | zero => exact fun _ j hj hdvd => hbase j hj hdvd
    | succ n ih =>
      intro hn j hj hdvd
      rcases hfits j hj with hcoarse | hcheck
      · exact hbase j hj hcoarse
      · have hpow : 2 ^ (m - n) = 2 * 2 ^ (m - (n + 1)) := by
          rw [← pow_succ', show m - (n + 1) + 1 = m - n by omega]
        have hdouble : 2 ^ (m - n) ∣ 2 * j := hpow ▸ Nat.mul_dvd_mul_left 2 hdvd
        have hwhole : 2 ^ (m - n) ∣ 2 * count :=
          Nat.dvd_mul_left_of_dvd ((pow_dvd_pow 2 (Nat.sub_le m n)).trans hcount) 2
        refine hcheck.near hangle hj ?_
        rintro i hi (heq | heq)
        · exact ih (by omega) i hi (heq ▸ hdouble)
        · exact ih (by omega) i hi (heq ▸ Nat.dvd_sub hwhole hdouble)
  intro j hj
  exact hlevels m le_rfl j hj (by rw [Nat.sub_self, pow_zero]; exact one_dvd j)

end

end CosineTable
