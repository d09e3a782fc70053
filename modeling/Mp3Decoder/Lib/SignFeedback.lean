import Mathlib.Algebra.Order.Group.Abs
import Mathlib.Algebra.Order.Ring.Int
import Mathlib.Tactic.Linarith
import Mathlib.Tactic.Ring

/-!
# Two integrators with sign feedback

A second-order loop: both integrators get the input less `fullScale` while the second one is
positive, and plus `fullScale` otherwise.  Between two sign changes the state moves along a parabola,
on which `parabola` falls by a fixed amount; at a sign change the feedback of the second integrator
takes energy out, unless there is little of it.  So for a constant input of at most a quarter of
full scale `energy` falls until the loop has settled.
-/

namespace SignFeedback

structure Loop where
  first : ℤ
  second : ℤ

/-- A step with input `s`. -/
def Loop.next (fullScale s : ℤ) (x : Loop) : Loop :=
  let feedback := if x.second > 0 then -fullScale else fullScale
  let first := x.first + (s + feedback)
  ⟨first, x.second + (first + feedback)⟩

/-- The parabola through a state whose second integrator is positive. -/
def parabola (fullScale s i₁ i₂ : ℤ) : ℤ :=
  6 * (fullScale - s) * i₂ + 3 * i₁ ^ 2 - (8 * fullScale - 3 * s) * i₁

def Loop.energy (fullScale s : ℤ) (x : Loop) : ℤ :=
  if x.second > 0 then parabola fullScale s x.first x.second
  else parabola fullScale (-s) (-x.first) (-x.second)

section

variable {fullScale s i₁ i₂ : ℤ}

/-- Along a parabola. -/
theorem parabola_next :
    parabola fullScale s (i₁ + (s - fullScale)) (i₂ + (i₁ + (s - fullScale) - fullScale)) =
    parabola fullScale s i₁ i₂ - fullScale * (fullScale - s) := by
  simp only [parabola]
  ring

/-- From one parabola to the next. -/
theorem parabola_flip : parabola fullScale (-s) (-i₁) (-i₂) =
    parabola fullScale s i₁ i₂ + (16 * fullScale * i₁ - 12 * fullScale * i₂) := by
  simp only [parabola]
  ring

/-- A sign change to `i₁`, `i₂`. -/
theorem parabola_cross (hscale : 0 ≤ fullScale) (hs : 4 * |s| ≤ fullScale) (hcross : i₂ ≤ 0)
    (hfrom : 0 ≤ i₂ - (i₁ - fullScale)) {e : ℤ}
    (he : parabola fullScale s i₁ i₂ ≤ e) :
    parabola fullScale (-s) (-i₁) (-i₂) ≤ e ∨
      4 * parabola fullScale (-s) (-i₁) (-i₂) ≤ 124 * fullScale ^ 2 := by
  have hbounds := abs_le.mp (show |s| ≤ |s| from le_refl _)
  have hlo : 0 ≤ fullScale + 4 * s := by linarith
  have hhi : 0 ≤ fullScale - 4 * s := by linarith
  by_cases hfar : i₁ ≤ -3 * fullScale
  · left
    have hfirst : 0 ≤ fullScale * (-3 * fullScale - i₁) := mul_nonneg hscale (by linarith)
    have hsecond : 0 ≤ fullScale * (i₂ - (i₁ - fullScale)) := mul_nonneg hscale hfrom
    rw [parabola_flip]
    nlinarith
  · right
    have hge : 0 ≤ i₁ + 3 * fullScale := by linarith
    have hle : 0 ≤ fullScale - i₁ := by linarith
    have hsecond : 0 ≤ (fullScale + s) * (i₂ - (i₁ - fullScale)) :=
      mul_nonneg (by linarith) hfrom
    have hsquare := mul_nonneg hge hle
    have hinput := mul_nonneg hlo hge
    have hfirst := mul_nonneg hscale hge
    have hscaled := mul_nonneg hscale hhi
    simp only [parabola]
    nlinarith

/-- How far a parabola reaches. -/
theorem parabola_bounds (hscale : 0 < fullScale) (hs : 4 * |s| ≤ fullScale) (hpos : 0 ≤ i₂)
    (he : parabola fullScale s i₁ i₂ ≤ 55 * fullScale ^ 2) :
    -4 * fullScale ≤ i₁ ∧ i₁ ≤ 6 * fullScale ∧ i₂ ≤ 14 * fullScale := by
  have hbounds := abs_le.mp (show |s| ≤ |s| from le_refl _)
  have hlo : 0 ≤ fullScale + 4 * s := by linarith
  have hhi : 0 ≤ fullScale - 4 * s := by linarith
  have hsecond : 0 ≤ (fullScale - s) * i₂ := mul_nonneg (by linarith) hpos
  simp only [parabola] at he
  refine ⟨?_, ?_, ?_⟩
  · by_contra hlt
    have hbelow : 0 < -4 * fullScale - i₁ := by linarith
    nlinarith [mul_pos hscale hbelow, mul_nonneg hhi hbelow.le, mul_pos hbelow hbelow]
  · by_contra hlt
    have habove : 0 < i₁ - 6 * fullScale := by linarith
    nlinarith [mul_pos hscale habove, mul_nonneg hlo habove.le, mul_pos habove habove]
  · by_contra hlt
    have habove : 0 < i₂ - 14 * fullScale := by linarith
    nlinarith [mul_pos hscale habove, mul_nonneg hhi habove.le, mul_nonneg hscale.le hlo,
      mul_nonneg hscale.le hhi, sq_nonneg (6 * i₁ - (8 * fullScale - 3 * s)), mul_nonneg hlo hhi]

/-- Another input. -/
theorem parabola_switch (hscale : 0 < fullScale) (hs : 4 * |s| ≤ fullScale) {t : ℤ}
    (ht : 4 * |t| ≤ fullScale) (hpos : 0 ≤ i₂)
    (he : 4 * parabola fullScale s i₁ i₂ ≤ 124 * fullScale ^ 2) :
    parabola fullScale t i₁ i₂ ≤ 55 * fullScale ^ 2 := by
  have hsbounds := abs_le.mp (show |s| ≤ |s| from le_refl _)
  have htbounds := abs_le.mp (show |t| ≤ |t| from le_refl _)
  obtain ⟨-, hfirst, -⟩ := parabola_bounds hscale hs hpos (by nlinarith)
  have hlo : 0 ≤ fullScale + 4 * s := by linarith
  have hhi : 0 ≤ fullScale - 4 * s := by linarith
  have hfall : 2 * i₂ - i₁ ≤ 16 * fullScale := by
    by_contra hlt
    have habove : 0 < 2 * i₂ - i₁ - 16 * fullScale := by linarith
    simp only [parabola] at he
    nlinarith [mul_pos hscale habove, mul_nonneg hhi habove.le, mul_nonneg hscale.le hhi,
      sq_nonneg (6 * i₁ - 5 * fullScale)]
  have hrise : -16 * fullScale ≤ 2 * i₂ - i₁ := by linarith
  have hswitch : parabola fullScale t i₁ i₂ =
      parabola fullScale s i₁ i₂ + 3 * ((s - t) * (2 * i₂ - i₁)) := by
    simp only [parabola]
    ring
  have hjump : (s - t) * (2 * i₂ - i₁) ≤ 8 * fullScale ^ 2 := by
    have hup : 0 ≤ fullScale - 2 * (s - t) := by linarith
    have hdown : 0 ≤ fullScale + 2 * (s - t) := by linarith
    have hover : 0 ≤ 16 * fullScale - (2 * i₂ - i₁) := by linarith
    have hunder : 0 ≤ 16 * fullScale + (2 * i₂ - i₁) := by linarith
    nlinarith [mul_nonneg hup hunder, mul_nonneg hdown hover]
  rw [hswitch]
  linarith

end

/-! ### The energy of the loop -/

section

variable {fullScale s : ℤ} {x : Loop}

theorem energy_of_pos (h : x.second > 0) :
    x.energy fullScale s = parabola fullScale s x.first x.second := if_pos h

theorem energy_of_not_pos (h : ¬ x.second > 0) :
    x.energy fullScale s = parabola fullScale (-s) (-x.first) (-x.second) := if_neg h

/-- **A step takes energy out of the loop** as long as it has not settled. -/
theorem energy_next (hscale : 0 < fullScale) (hs : 4 * |s| ≤ fullScale) :
    4 * (x.next fullScale s).energy fullScale s ≤
        4 * x.energy fullScale s - 3 * fullScale ^ 2 ∨
      4 * (x.next fullScale s).energy fullScale s ≤ 124 * fullScale ^ 2 := by
  have hbounds := abs_le.mp (show |s| ≤ |s| from le_refl _)
  by_cases hpos : x.second > 0
  · have hnext : x.next fullScale s = ⟨x.first + (s - fullScale),
        x.second + (x.first + (s - fullScale) - fullScale)⟩ := by
      simp only [Loop.next, if_pos hpos, sub_eq_add_neg]
    have hfall : 3 * fullScale ^ 2 ≤ 4 * (fullScale * (fullScale - s)) := by
      nlinarith [mul_nonneg hscale.le (show 0 ≤ fullScale - 4 * s by linarith)]
    have halong : parabola fullScale s (x.first + (s - fullScale))
        (x.second + (x.first + (s - fullScale) - fullScale)) =
        parabola fullScale s x.first x.second - fullScale * (fullScale - s) := parabola_next
    rw [energy_of_pos hpos, hnext]
    by_cases hstay : x.second + (x.first + (s - fullScale) - fullScale) > 0
    · left
      rw [energy_of_pos hstay, halong]
      linarith
    · rw [energy_of_not_pos hstay]
      have hcross := parabola_cross hscale.le hs (not_lt.mp hstay)
        (show 0 ≤ _ - (x.first + (s - fullScale) - fullScale) by linarith) halong.le
      rcases hcross with hless | hsettled
      · left
        linarith
      · exact .inr hsettled
  · -- the mirror image
    obtain ⟨i₁, hi₁⟩ : ∃ i₁, i₁ = -x.first + (-s - fullScale) := ⟨_, rfl⟩
    obtain ⟨i₂, hi₂⟩ : ∃ i₂, i₂ = -x.second + (i₁ - fullScale) := ⟨_, rfl⟩
    have hnext : x.next fullScale s = ⟨-i₁, -i₂⟩ := by
      simp only [Loop.next, if_neg hpos, hi₁, hi₂, Loop.mk.injEq]
      constructor
      · ring
      · ring
    have hs' : 4 * |-s| ≤ fullScale := by rwa [abs_neg]
    have hfall : 3 * fullScale ^ 2 ≤ 4 * (fullScale * (fullScale - -s)) := by
      nlinarith [mul_nonneg hscale.le (show 0 ≤ fullScale + 4 * s by linarith)]
    have halong : parabola fullScale (-s) i₁ i₂ = parabola fullScale (-s) (-x.first) (-x.second) -
        fullScale * (fullScale - -s) := by
      rw [hi₂, hi₁]
      exact parabola_next
    rw [energy_of_not_pos hpos, hnext]
    by_cases hcross : -i₂ > 0
    · rw [energy_of_pos hcross]
      have hflip := parabola_cross hscale.le hs' (show i₂ ≤ 0 by linarith)
        (show 0 ≤ i₂ - (i₁ - fullScale) by linarith) halong.le
      rw [neg_neg] at hflip
      rcases hflip with hless | hsettled
      · left
        linarith
      · exact .inr hsettled
    · left
      rw [energy_of_not_pos hcross, neg_neg, neg_neg, halong]
      linarith

theorem energy_reach (hscale : 0 < fullScale) (hs : 4 * |s| ≤ fullScale)
    (he : x.energy fullScale s ≤ 55 * fullScale ^ 2) :
    |x.first| ≤ 6 * fullScale ∧ |x.second| ≤ 14 * fullScale := by
  by_cases hpos : x.second > 0
  · rw [energy_of_pos hpos] at he
    obtain ⟨hlo, hhi, hsecond⟩ := parabola_bounds hscale hs hpos.le he
    exact ⟨abs_le.mpr ⟨by linarith, hhi⟩, abs_le.mpr ⟨by linarith, hsecond⟩⟩
  · rw [energy_of_not_pos hpos] at he
    obtain ⟨hlo, hhi, hsecond⟩ := parabola_bounds hscale (by rwa [abs_neg]) (by linarith) he
    exact ⟨abs_le.mpr ⟨by linarith, by linarith⟩, abs_le.mpr ⟨by linarith, by linarith⟩⟩

theorem energy_switch (hscale : 0 < fullScale) (hs : 4 * |s| ≤ fullScale) {t : ℤ}
    (ht : 4 * |t| ≤ fullScale) (he : 4 * x.energy fullScale s ≤ 124 * fullScale ^ 2) :
    x.energy fullScale t ≤ 55 * fullScale ^ 2 := by
  by_cases hpos : x.second > 0
  · rw [energy_of_pos hpos] at he ⊢
    exact parabola_switch hscale hs ht hpos.le he
  · rw [energy_of_not_pos hpos] at he ⊢
    exact parabola_switch hscale (by rwa [abs_neg]) (by rwa [abs_neg]) (by linarith) he

/-- The energy after `n` steps with the same input. -/
theorem energy_iterate (hscale : 0 < fullScale) (hs : 4 * |s| ≤ fullScale)
    (he : x.energy fullScale s ≤ 55 * fullScale ^ 2) (n : ℕ) :
    4 * ((Loop.next fullScale s)^[n] x).energy fullScale s ≤
      max (220 * fullScale ^ 2 - 3 * n * fullScale ^ 2) (124 * fullScale ^ 2) := by
  induction n with
  | zero =>
    apply le_max_of_le_left
    rw [Function.iterate_zero, id]
    push_cast
    linarith
  | succ n ih =>
    rw [Function.iterate_succ_apply']
    have hsquare : 0 ≤ fullScale ^ 2 := sq_nonneg fullScale
    rcases energy_next (x := (Loop.next fullScale s)^[n] x) hscale hs with hless | hsettled
    · rcases le_max_iff.mp ih with hfalling | hsettled
      · apply le_max_of_le_left
        push_cast
        linarith
      · apply le_max_of_le_right
        linarith
    · exact le_max_of_le_right hsettled

end

end SignFeedback
