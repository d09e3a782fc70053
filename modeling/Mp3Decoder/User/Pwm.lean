import Mathlib.Algebra.Order.BigOperators.Group.List
import Mathlib.Algebra.Order.Group.Abs
import Mathlib.Data.Int.Notation
import Mathlib.Data.List.OfFn
import Mathlib.Tactic.Linarith
import Mp3Decoder.User.RateControl

/-!
# The PWM converter (`sampToI2sPwm`)

A sample chooses one of 32 words with more and more bits set, and the rounding error should go into
the next sample.  The error is taken from the low bits of the word that was looked up, not of the
sample, and it is subtracted: every sample but the first loses at least 16 on top of its rounding.
-/

namespace Mp3Decoder

/-! ### The code -/

def fakePwm : List (BitVec 32) := [
  0x00000010, 0x00000410, 0x00400410, 0x00400C10, 0x00500C10, 0x00D00C10, 0x20D00C10, 0x21D00C10,
  0x21D80C10, 0xA1D80C10, 0xA1D80D10, 0xA1D80D30, 0xA1DC0D30, 0xA1DC8D30, 0xB1DC8D30, 0xB9DC8D30,
  0xB9FC8D30, 0xBDFC8D30, 0xBDFE8D30, 0xBDFE8D32, 0xBDFE8D33, 0xBDFECD33, 0xFDFECD33, 0xFDFECD73,
  0xFDFEDD73, 0xFFFEDD73, 0xFFFEDD7B, 0xFFFEFD7B, 0xFFFFFD7B, 0xFFFFFDFB, 0xFFFFFFFB, 0xFFFFFFFF]

/-- `s + 32768` -/
def pwmValue (s : Int16) : ℤ := s.toInt + 32768

/-- The value that is rounded: without the last error, and clipped. -/
def pwmClipped (err : ℤ) (s : Int16) : ℤ :=
  let samp := pwmValue s - err
  let samp := if samp > 65535 then 65535 else samp
  if samp < 0 then 0 else samp

/-- `samp >> 11` -/
def pwmIndex (err : ℤ) (s : Int16) : ℕ := (pwmClipped err s / 2048).toNat

/-- `sampToI2sPwm`, with the static variable `err`. -/
def sampToI2sPwm (err : ℤ) (s : Int16) : ℤ × BitVec 32 :=
  let samp := fakePwm.getD (pwmIndex err s) 0
  ((samp &&& 0x7ff).toNat, samp)

/-- The level of the word that is chosen. -/
def pwmLevel (err : ℤ) (s : Int16) : ℤ := 2048 * pwmIndex err s

/-- The sum of the values less that of the levels, from error `err` on. -/
def pwmLoss : ℤ → List Int16 → ℤ
  | _, [] => 0
  | err, s :: samples =>
    pwmValue s - pwmLevel err s + pwmLoss (sampToI2sPwm err s).1 samples

/-! ### What is lost -/

/-- A sample for which nothing is clipped. -/
def PwmUnclipped (s : Int16) : Prop := 4096 ≤ pwmValue s ∧ pwmValue s ≤ 61439

instance (s : Int16) : Decidable (PwmUnclipped s) := inferInstanceAs (Decidable (_ ∧ _))

/-- The errors are never 0. -/
theorem fakePwm_low : fakePwm.all (fun word => 16 ≤ (word &&& 0x7ff).toNat) = true := by decide

theorem sampToI2sPwm_err {err : ℤ} {s : Int16} (hindex : pwmIndex err s < 32) :
    16 ≤ (sampToI2sPwm err s).1 ∧ (sampToI2sPwm err s).1 ≤ 2047 := by
  rw [sampToI2sPwm, List.getD_eq_getElem?_getD, List.getElem?_eq_getElem hindex, Option.getD_some]
  have hlow := List.all_eq_true.mp fakePwm_low _ (List.getElem_mem hindex)
  have hmask : (fakePwm[pwmIndex err s] &&& 0x7ff).toNat ≤ 2047 := by
    rw [BitVec.toNat_and]
    exact Nat.and_le_right
  have hlow' := of_decide_eq_true hlow
  exact ⟨Int.ofNat_le.mpr hlow', Int.ofNat_le.mpr hmask⟩

/-- **One sample** loses the old error and what rounding takes. -/
theorem pwmLevel_eq {err : ℤ} {s : Int16} (hs : PwmUnclipped s) (hnonneg : 0 ≤ err)
    (hle : err ≤ 2047) : pwmIndex err s < 32 ∧
      pwmValue s - pwmLevel err s = err + (pwmValue s - err) % 2048 := by
  obtain ⟨hlo, hhi⟩ := hs
  have hclipped : pwmClipped err s = pwmValue s - err := by
    simp only [pwmClipped]
    rw [if_neg (show ¬pwmValue s - err > 65535 by omega), if_neg (by omega)]
  rw [pwmLevel, pwmIndex, hclipped]
  omega

/-- **All samples** -/
theorem le_pwmLoss {err : ℤ} {samples : List Int16} (hs : ∀ s ∈ samples, PwmUnclipped s)
    (hlo : 16 ≤ err) (hhi : err ≤ 2047) : 16 * (samples.length : ℤ) ≤ pwmLoss err samples := by
  induction samples generalizing err with
  | nil => exact Int.le_refl 0
  | cons s samples ih =>
    obtain ⟨hindex, hloss⟩ := pwmLevel_eq (hs s List.mem_cons_self) (by omega) hhi
    obtain ⟨hlo', hhi'⟩ := sampToI2sPwm_err hindex
    have hrest := ih (fun other hother => hs other (List.mem_cons_of_mem s hother)) hlo' hhi'
    have hround := Int.emod_nonneg (pwmValue s - err) (show (2048 : ℤ) ≠ 0 by decide)
    rw [pwmLoss, hloss, List.length_cons]
    push_cast
    omega

/-- From the initial error 0, too. -/
theorem le_pwmLoss_start {samples : List Int16} (hs : ∀ s ∈ samples, PwmUnclipped s) :
    16 * (samples.length : ℤ) - 16 ≤ pwmLoss 0 samples := by
  cases samples with
  | nil => decide
  | cons s samples =>
    obtain ⟨hindex, hloss⟩ := pwmLevel_eq (hs s List.mem_cons_self) (Int.le_refl 0) (by decide)
    obtain ⟨hlo, hhi⟩ := sampToI2sPwm_err hindex
    have hrest := le_pwmLoss (fun other hother => hs other (List.mem_cons_of_mem s hother)) hlo hhi
    have hround := Int.emod_nonneg (pwmValue s - 0) (show (2048 : ℤ) ≠ 0 by decide)
    rw [pwmLoss, hloss, List.length_cons]
    push_cast
    omega

/-- **No sequence is converted without loss**: whatever the samples, the levels fall behind the values
by more than any bound. -/
theorem pwm_losesSignal {s : ℕ → Int16} (hs : ∀ i, PwmUnclipped (s i)) (bound : ℤ) :
    ¬∀ n, |pwmLoss 0 (List.ofFn fun i : Fin n => s i)| < bound := by
  intro hbounded
  obtain ⟨n, hn⟩ : ∃ n : ℕ, bound ≤ 16 * (n : ℤ) - 16 := ⟨bound.toNat + 1, by omega⟩
  have hall : ∀ sample ∈ List.ofFn fun i : Fin n => s i, PwmUnclipped sample := by
    intro sample hsample
    obtain ⟨i, rfl⟩ := (List.mem_ofFn' _ _).mp hsample
    exact hs i
  have hloss := le_pwmLoss_start hall
  rw [List.length_ofFn] at hloss
  have hlt := (abs_lt.mp (hbounded n)).2
  omega

/-- Silence -/
theorem pwm_losesSignal_silence :
    ¬∀ n, |pwmLoss 0 (List.ofFn fun _ : Fin n => (0 : Int16))| < 4096 := by
  have hs : ∀ _ : ℕ, PwmUnclipped 0 := fun _ => by decide
  exact pwm_losesSignal hs 4096

/-- No constant does for all sequences. -/
theorem pwm_not_lossless : ¬∃ bound, ∀ samples : List Int16, (∀ s ∈ samples, PwmUnclipped s) →
    |pwmLoss 0 samples| < bound := by
  rintro ⟨bound, hbounded⟩
  have hsilence : ∀ n, ∀ s ∈ List.replicate n (0 : Int16), PwmUnclipped s := by
    intro n s hs
    rw [List.eq_of_mem_replicate hs]
    decide
  have hlt := (abs_lt.mp (hbounded _ (hsilence (bound.toNat + 1)))).2
  have hloss := le_pwmLoss_start (hsilence (bound.toNat + 1))
  rw [List.length_replicate] at hloss
  omega

end Mp3Decoder
