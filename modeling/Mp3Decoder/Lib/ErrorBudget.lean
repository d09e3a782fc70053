import Mathlib.Data.BitVec
import Mathlib.Data.Real.Basic
import Mathlib.Tactic.Linarith
import Mathlib.Tactic.Positivity
import Mathlib.Tactic.Ring

/-!
# How exact fixed-point arithmetic is

A word of 32 bits stands for a real number, from which truncated products lead it away.  A `Budget`
bounds the distance and the size of the number; each operation has its budget, and with it the check
that nothing overflows.  Budgets are natural numbers, so what a program makes of them is evaluated.

A product drops the low `p` bits of one factor and the low `q` bits of the other.  The second factor
is a constant, stored `2^(p + q)` times as large as the number it stands for.
-/

/-- How far a word is from its number and how large that number is, as long as all that was computed
on the way `fits`. -/
structure Budget where
  fits : Bool
  error : ℕ
  magnitude : ℕ
  deriving DecidableEq

namespace Budget

/-- A bound of the word itself -/
def reach (b : Budget) : ℕ := b.error + b.magnitude

/-- The budget of a sum or of a difference. -/
def combine (b c : Budget) : Budget where
  fits := b.fits && c.fits && decide (b.reach + c.reach < 2 ^ 31)
  error := b.error + c.error
  magnitude := b.magnitude + c.magnitude

instance : Add Budget := ⟨combine⟩

instance : Sub Budget := ⟨combine⟩

instance : Neg Budget := ⟨fun b => { b with fits := b.fits && decide (b.reach < 2 ^ 31) }⟩

/-- The budget of twice a word. -/
def double (b : Budget) : Budget := combine b b

/-- The budget of a word divided by two, toward zero. -/
def half (b : Budget) : Budget where
  fits := b.fits && decide (b.reach < 2 ^ 31)
  error := b.error / 2 + 1
  magnitude := b.magnitude / 2 + 1

/-- The budget of a product with the factor `c`. -/
def scale (p q : ℕ) (c : ℤ) (b : Budget) : Budget where
  fits := b.fits && decide (c.natAbs < 2 ^ 31) &&
    decide ((b.reach / 2 ^ p + 1) * (c / 2 ^ q).natAbs < 2 ^ 31)
  error := (b.reach * (c % 2 ^ q).natAbs + 2 ^ (p + q) * (c / 2 ^ q).natAbs +
    b.error * c.natAbs + b.magnitude) / 2 ^ (p + q) + 1
  magnitude := b.magnitude * (c.natAbs + 1) / 2 ^ (p + q) + 1

/-- The same error, where the number is also known to be at most `magnitude`. -/
def cap (magnitude : ℕ) (b : Budget) : Budget := { b with magnitude := min b.magnitude magnitude }

/-- The budget holds of a word and its number. -/
structure Holds (b : Budget) (word : BitVec 32) (exact : ℝ) : Prop where
  close : b.fits = true → |(word.toInt : ℝ) - exact| ≤ b.error
  small : |exact| ≤ b.magnitude

end Budget

/-! ### Words as integers -/

theorem cast_natAbs (z : ℤ) : (z.natAbs : ℝ) = |(z : ℝ)| := by
  rw [Nat.cast_natAbs, Int.cast_abs]

theorem toInt_of_bounds {word : BitVec 32} {z : ℤ} (hword : word.toInt = z.bmod (2 ^ 32))
    (hz : z.natAbs < 2 ^ 31) : word.toInt = z := by
  simp only [Int.bmod] at hword
  omega

theorem toInt_add_of_reach {x y : BitVec 32} {m n : ℕ} (hx : x.toInt.natAbs ≤ m)
    (hy : y.toInt.natAbs ≤ n) (hlt : m + n < 2 ^ 31) : (x + y).toInt = x.toInt + y.toInt :=
  toInt_of_bounds (BitVec.toInt_add x y) (by omega)

theorem toInt_sub_of_reach {x y : BitVec 32} {m n : ℕ} (hx : x.toInt.natAbs ≤ m)
    (hy : y.toInt.natAbs ≤ n) (hlt : m + n < 2 ^ 31) : (x - y).toInt = x.toInt - y.toInt :=
  toInt_of_bounds BitVec.toInt_sub (by omega)

theorem toInt_neg_of_reach {x : BitVec 32} {m : ℕ} (hx : x.toInt.natAbs ≤ m) (hlt : m < 2 ^ 31) :
    (-x).toInt = -x.toInt :=
  toInt_of_bounds BitVec.toInt_neg (by omega)

theorem toInt_sdiv_two {x : BitVec 32} {m : ℕ} (hx : x.toInt.natAbs ≤ m) (hlt : m < 2 ^ 31) :
    (x.sdiv 2).toInt = x.toInt.tdiv 2 := by
  refine toInt_of_bounds ?_ ?_
  · rw [BitVec.toInt_sdiv]
    rfl
  · rw [Int.natAbs_tdiv]
    exact Nat.lt_of_le_of_lt (Nat.div_le_self _ _) (Nat.lt_of_le_of_lt hx hlt)

/-- Division toward zero leaves at most one. -/
theorem tdiv_two_rest (z : ℤ) : |z - 2 * z.tdiv 2| ≤ 1 := by
  rw [abs_le]
  rcases Int.le_total 0 z with hz | hz
  · rw [Int.tdiv_eq_ediv_of_nonneg hz]
    omega
  · have hneg : z.tdiv 2 = -((-z) / 2) := by
      rw [← Int.tdiv_eq_ediv_of_nonneg (by omega : 0 ≤ -z), Int.neg_tdiv, neg_neg]
    omega

/-- The product with a constant. -/
def scaleWord (p q : ℕ) (c : ℤ) (x : BitVec 32) : BitVec 32 :=
  x.sshiftRight p * (BitVec.ofInt 32 c).sshiftRight q

/-- The product that drops low bits, as the product of the quotients. -/
theorem toInt_truncatedMul {x y : BitVec 32} {p q : ℕ}
    (hlt : (x.toInt / 2 ^ p * (y.toInt / 2 ^ q)).natAbs < 2 ^ 31) :
    (x.sshiftRight p * y.sshiftRight q).toInt = x.toInt / 2 ^ p * (y.toInt / 2 ^ q) := by
  refine toInt_of_bounds ?_ hlt
  rw [BitVec.toInt_mul, BitVec.toInt_sshiftRight, BitVec.toInt_sshiftRight,
    Int.shiftRight_eq_div_pow, Int.shiftRight_eq_div_pow]
  push_cast
  rfl

/-! ### What the budgets promise -/

namespace Budget

variable {b c : Budget} {x y : BitVec 32} {r s : ℝ}

/-- A word that stands for itself. -/
theorem Holds.self {magnitude : ℕ} (hx : x.toInt.natAbs ≤ magnitude) :
    (⟨true, 0, magnitude⟩ : Budget).Holds x x.toInt where
  close _ := by rw [sub_self, abs_zero, Nat.cast_zero]
  small := by
    rw [← cast_natAbs]
    exact Nat.cast_le.mpr hx

theorem Holds.cap (h : b.Holds x r) {magnitude : ℕ} (hr : |r| ≤ magnitude) :
    (b.cap magnitude).Holds x r where
  close := h.close
  small := by
    change |r| ≤ (min b.magnitude magnitude : ℕ)
    rw [Nat.cast_min]
    exact le_min h.small hr

theorem Holds.natAbs_le (h : b.Holds x r) (hfits : b.fits = true) :
    x.toInt.natAbs ≤ b.reach := by
  have hx : |(x.toInt : ℝ)| ≤ b.error + b.magnitude := by
    have htriangle := abs_add_le ((x.toInt : ℝ) - r) r
    rw [sub_add_cancel] at htriangle
    linarith [h.close hfits, h.small]
  rw [← cast_natAbs] at hx
  exact_mod_cast hx

theorem fits_combine (hfits : (b.combine c).fits = true) :
    (b.fits = true ∧ c.fits = true) ∧ b.reach + c.reach < 2 ^ 31 := by
  rw [combine, Bool.and_eq_true_iff, Bool.and_eq_true_iff, decide_eq_true_iff] at hfits
  exact hfits

theorem Holds.add (hx : b.Holds x r) (hy : c.Holds y s) : (b + c).Holds (x + y) (r + s) where
  close hfits := by
    obtain ⟨⟨hb, hc⟩, hlt⟩ := fits_combine hfits
    rw [toInt_add_of_reach (hx.natAbs_le hb) (hy.natAbs_le hc) hlt]
    calc |((x.toInt + y.toInt : ℤ) : ℝ) - (r + s)|
        = |((x.toInt : ℝ) - r) + ((y.toInt : ℝ) - s)| := by push_cast; ring_nf
      _ ≤ |(x.toInt : ℝ) - r| + |(y.toInt : ℝ) - s| := abs_add_le _ _
      _ ≤ b.error + c.error := add_le_add (hx.close hb) (hy.close hc)
      _ = ((b + c).error : ℝ) := (Nat.cast_add _ _).symm
  small := by
    calc |r + s| ≤ |r| + |s| := abs_add_le _ _
      _ ≤ b.magnitude + c.magnitude := add_le_add hx.small hy.small
      _ = ((b + c).magnitude : ℝ) := (Nat.cast_add _ _).symm

theorem Holds.sub (hx : b.Holds x r) (hy : c.Holds y s) : (b - c).Holds (x - y) (r - s) where
  close hfits := by
    obtain ⟨⟨hb, hc⟩, hlt⟩ := fits_combine hfits
    rw [toInt_sub_of_reach (hx.natAbs_le hb) (hy.natAbs_le hc) hlt]
    calc |((x.toInt - y.toInt : ℤ) : ℝ) - (r - s)|
        = |((x.toInt : ℝ) - r) - ((y.toInt : ℝ) - s)| := by push_cast; ring_nf
      _ ≤ |(x.toInt : ℝ) - r| + |(y.toInt : ℝ) - s| := abs_sub _ _
      _ ≤ b.error + c.error := add_le_add (hx.close hb) (hy.close hc)
      _ = ((b - c).error : ℝ) := (Nat.cast_add _ _).symm
  small := by
    calc |r - s| ≤ |r| + |s| := abs_sub _ _
      _ ≤ b.magnitude + c.magnitude := add_le_add hx.small hy.small
      _ = ((b - c).magnitude : ℝ) := (Nat.cast_add _ _).symm

theorem Holds.double (hx : b.Holds x r) : b.double.Holds (x * 2) (2 * r) := by
  have hsum : (b + b).Holds (x + x) (r + r) := hx.add hx
  rw [← mul_two, ← two_mul] at hsum
  exact hsum

theorem fits_alone {fits : Bool} {m : ℕ} (hfits : (fits && decide (m < 2 ^ 31)) = true) :
    fits = true ∧ m < 2 ^ 31 := by
  rw [Bool.and_eq_true_iff, decide_eq_true_iff] at hfits
  exact hfits

theorem Holds.neg (hx : b.Holds x r) : (-b).Holds (-x) (-r) where
  close hfits := by
    obtain ⟨hb, hlt⟩ := fits_alone hfits
    rw [toInt_neg_of_reach (hx.natAbs_le hb) hlt, Int.cast_neg, neg_sub_neg, abs_sub_comm]
    exact hx.close hb
  small := by
    rw [abs_neg]
    exact hx.small

/-- Half of a bound, rounded up. -/
theorem half_le (n : ℕ) : (n : ℝ) / 2 ≤ (n / 2 : ℕ) + 1 / 2 := by
  have hn : (n : ℝ) ≤ 2 * (n / 2 : ℕ) + 1 := by
    exact_mod_cast (by omega : n ≤ 2 * (n / 2) + 1)
  linarith

theorem Holds.half (hx : b.Holds x r) : b.half.Holds (x.sdiv 2) (r / 2) where
  close hfits := by
    obtain ⟨hb, hlt⟩ := fits_alone hfits
    rw [toInt_sdiv_two (hx.natAbs_le hb) hlt]
    have hrest : |(x.toInt : ℝ) - 2 * (x.toInt.tdiv 2 : ℤ)| ≤ 1 := by
      exact_mod_cast tdiv_two_rest x.toInt
    have herror := half_le b.error
    have hcast : (b.half.error : ℝ) = (b.error / 2 : ℕ) + 1 := Nat.cast_succ _
    have hclose := hx.close hb
    rw [abs_le] at hrest hclose ⊢
    constructor <;> linarith [hrest.1, hrest.2, hclose.1, hclose.2]
  small := by
    have hmagnitude := half_le b.magnitude
    have hcast : (b.half.magnitude : ℝ) = (b.magnitude / 2 : ℕ) + 1 := Nat.cast_succ _
    rw [abs_div, abs_two, hcast]
    linarith [hx.small]

end Budget

/-- What truncation takes off a product of integers. -/
theorem truncated_product (x c : ℤ) (p q : ℕ) :
    2 ^ (p + q) * (x / 2 ^ p * (c / 2 ^ q)) =
      x * c - (x * (c % 2 ^ q) + x % 2 ^ p * (2 ^ q * (c / 2 ^ q))) := by
  have hx := Int.mul_ediv_add_emod x (2 ^ p)
  have hc := Int.mul_ediv_add_emod c (2 ^ q)
  generalize x / 2 ^ p = a at *
  generalize x % 2 ^ p = r at *
  generalize c / 2 ^ q = h at *
  generalize c % 2 ^ q = s at *
  rw [← hx, ← hc, pow_add]
  ring

theorem natAbs_ediv_le {x : ℤ} {m d : ℕ} (hd : 0 < d) (hx : x.natAbs ≤ m) :
    (x / d).natAbs ≤ m / d + 1 := by
  have hdiv := Int.mul_ediv_add_emod x d
  have hnonneg := Int.emod_nonneg x (by omega : (d : ℤ) ≠ 0)
  have hlt := Int.emod_lt_of_pos x (by omega : (0 : ℤ) < d)
  rw [← Nat.sub_le_iff_le_add, Nat.le_div_iff_mul_le hd]
  zify
  rcases Int.le_total 0 (x / d) with ha | ha
  · have hproduct : ((x / d).natAbs - 1 : ℕ) * (d : ℤ) ≤ d * (x / d) := by
      rw [mul_comm]
      exact Int.mul_le_mul_of_nonneg_left (by omega) (by omega)
    omega
  · rcases Nat.eq_zero_or_pos (x / d).natAbs with hzero | hpos
    · rw [hzero]
      simp
    · have hproduct : ((x / d).natAbs - 1 : ℕ) * (d : ℤ) = -(d * (x / d)) - d := by
        rw [Nat.cast_sub hpos, Int.ofNat_natAbs_of_nonpos ha]
        push_cast
        ring
      omega

/-- What is taken off, bounded. -/
theorem truncation_le {x c : ℤ} {m p q : ℕ} (hx : x.natAbs ≤ m) :
    (x * (c % 2 ^ q) + x % 2 ^ p * (2 ^ q * (c / 2 ^ q))).natAbs ≤
      m * (c % 2 ^ q).natAbs + 2 ^ (p + q) * (c / 2 ^ q).natAbs := by
  have hrest : (x % 2 ^ p).natAbs ≤ 2 ^ p := by
    have hpos : (0 : ℤ) < 2 ^ p := by positivity
    have hnonneg := Int.emod_nonneg x hpos.ne'
    have hlt := Int.emod_lt_of_pos x hpos
    zify
    rw [abs_of_nonneg hnonneg]
    exact hlt.le
  have hpow : ((2 : ℤ) ^ q).natAbs = 2 ^ q := by rw [Int.natAbs_pow]; rfl
  calc (x * (c % 2 ^ q) + x % 2 ^ p * (2 ^ q * (c / 2 ^ q))).natAbs
      ≤ (x * (c % 2 ^ q)).natAbs + (x % 2 ^ p * (2 ^ q * (c / 2 ^ q))).natAbs :=
        Int.natAbs_add_le _ _
    _ = x.natAbs * (c % 2 ^ q).natAbs + (x % 2 ^ p).natAbs * (2 ^ q * (c / 2 ^ q).natAbs) := by
        rw [Int.natAbs_mul, Int.natAbs_mul, Int.natAbs_mul, hpow]
    _ ≤ m * (c % 2 ^ q).natAbs + 2 ^ p * (2 ^ q * (c / 2 ^ q).natAbs) :=
        Nat.add_le_add (Nat.mul_le_mul_right _ hx) (Nat.mul_le_mul_right _ hrest)
    _ = m * (c % 2 ^ q).natAbs + 2 ^ (p + q) * (c / 2 ^ q).natAbs := by
        rw [pow_add, mul_assoc]

theorem two_pow_mul_abs (k : ℕ) (z : ℝ) : 2 ^ k * |z| = |2 ^ k * z| := by
  rw [abs_mul, abs_of_pos (by positivity : (0 : ℝ) < 2 ^ k)]

theorem abs_le_div {z : ℝ} {k n : ℕ} (h : 2 ^ k * |z| ≤ n) : |z| ≤ (n / 2 ^ k + 1 : ℕ) := by
  have hpos : (0 : ℝ) < 2 ^ k := by positivity
  have hlt : (n : ℝ) < 2 ^ k * ((n / 2 ^ k + 1 : ℕ) : ℝ) := by
    exact_mod_cast Nat.lt_mul_div_succ n (Nat.two_pow_pos k)
  exact le_of_mul_le_mul_left (h.trans hlt.le) hpos

namespace Budget

variable {b : Budget} {x : BitVec 32} {r : ℝ} {p q : ℕ}

/-- The factors of a product that fits, and what they make. -/
theorem fits_scale {c : ℤ} (hx : b.Holds x r) (hfits : (b.scale p q c).fits = true) :
    b.fits = true ∧ (scaleWord p q c x).toInt = x.toInt / 2 ^ p * (c / 2 ^ q) := by
  rw [scale, Bool.and_eq_true_iff, Bool.and_eq_true_iff, decide_eq_true_iff,
    decide_eq_true_iff] at hfits
  obtain ⟨⟨hb, hword⟩, hproduct⟩ := hfits
  have hfactor : (BitVec.ofInt 32 c).toInt = c :=
    toInt_of_bounds (BitVec.toInt_ofInt _) hword
  have hquotient : (x.toInt / 2 ^ p).natAbs ≤ b.reach / 2 ^ p + 1 := by
    have hdiv := natAbs_ediv_le (Nat.two_pow_pos p) (hx.natAbs_le hb)
    push_cast at hdiv
    exact hdiv
  refine ⟨hb, ?_⟩
  rw [scaleWord, toInt_truncatedMul, hfactor]
  rw [hfactor, Int.natAbs_mul]
  exact Nat.lt_of_le_of_lt (Nat.mul_le_mul_right _ hquotient) hproduct

theorem Holds.scale (hx : b.Holds x r) {c : ℤ} {value : ℝ}
    (hclose : |(c : ℝ) - 2 ^ (p + q) * value| ≤ 1) :
    (b.scale p q c).Holds (scaleWord p q c x) (r * value) where
  close hfits := by
    obtain ⟨hb, hvalue⟩ := fits_scale hx hfits
    refine abs_le_div ?_
    have htruncated : (2 : ℝ) ^ (p + q) * (x.toInt / 2 ^ p * (c / 2 ^ q) : ℤ) =
        x.toInt * c - (x.toInt * (c % 2 ^ q) + x.toInt % 2 ^ p * (2 ^ q * (c / 2 ^ q)) : ℤ) := by
      exact_mod_cast truncated_product x.toInt c p q
    have hrest : |((x.toInt * (c % 2 ^ q) + x.toInt % 2 ^ p * (2 ^ q * (c / 2 ^ q)) : ℤ) : ℝ)| ≤
        b.reach * (c % 2 ^ q).natAbs + 2 ^ (p + q) * (c / 2 ^ q).natAbs := by
      rw [← cast_natAbs]
      exact_mod_cast truncation_le (c := c) (p := p) (q := q) (hx.natAbs_le hb)
    generalize (x.toInt * (c % 2 ^ q) + x.toInt % 2 ^ p * (2 ^ q * (c / 2 ^ q)) : ℤ) = rest
      at htruncated hrest
    have hfar : |((x.toInt : ℝ) - r) * c| ≤ b.error * c.natAbs := by
      rw [abs_mul, cast_natAbs]
      exact mul_le_mul_of_nonneg_right (hx.close hb) (abs_nonneg _)
    have hcoefficient : |r * ((c : ℝ) - 2 ^ (p + q) * value)| ≤ b.magnitude := by
      rw [abs_mul]
      calc |r| * |(c : ℝ) - 2 ^ (p + q) * value| ≤ b.magnitude * 1 :=
            mul_le_mul hx.small hclose (abs_nonneg _) (Nat.cast_nonneg _)
        _ = b.magnitude := mul_one _
    rw [hvalue, two_pow_mul_abs, mul_sub, htruncated]
    calc |(x.toInt : ℝ) * c - rest - 2 ^ (p + q) * (r * value)|
        = |(((x.toInt : ℝ) - r) * c + r * ((c : ℝ) - 2 ^ (p + q) * value)) - rest| := by
          ring_nf
      _ ≤ |((x.toInt : ℝ) - r) * c + r * ((c : ℝ) - 2 ^ (p + q) * value)| + |(rest : ℝ)| :=
          abs_sub _ _
      _ ≤ _ := by
        have hsum := abs_add_le (((x.toInt : ℝ) - r) * c) (r * ((c : ℝ) - 2 ^ (p + q) * value))
        push_cast
        linarith
  small := by
    refine abs_le_div ?_
    have hvalue : 2 ^ (p + q) * |value| ≤ c.natAbs + 1 := by
      have htriangle := abs_sub_abs_le_abs_sub (2 ^ (p + q) * value) (c : ℝ)
      rw [abs_sub_comm] at htriangle
      rw [two_pow_mul_abs, cast_natAbs]
      linarith
    calc 2 ^ (p + q) * |r * value| = |r| * (2 ^ (p + q) * |value|) := by
          rw [abs_mul]
          ring
      _ ≤ b.magnitude * (c.natAbs + 1) :=
          mul_le_mul hx.small hvalue (by positivity) (Nat.cast_nonneg _)
      _ = ((b.magnitude * (c.natAbs + 1) : ℕ) : ℝ) := by push_cast; ring

end Budget

/-! ### Words with their numbers -/

/-- A word, its number and a budget that holds of the two.  Straight-line code that runs on these
comes with a bound of its error. -/
structure Tracked where
  word : BitVec 32
  exact : ℝ
  budget : Budget
  holds : budget.Holds word exact

namespace Tracked

instance : Add Tracked :=
  ⟨fun x y => ⟨x.word + y.word, x.exact + y.exact, x.budget + y.budget, x.holds.add y.holds⟩⟩

instance : Sub Tracked :=
  ⟨fun x y => ⟨x.word - y.word, x.exact - y.exact, x.budget - y.budget, x.holds.sub y.holds⟩⟩

noncomputable def double (x : Tracked) : Tracked where
  word := 2 * x.word
  exact := 2 * x.exact
  budget := x.budget.double
  holds := by
    rw [mul_comm]
    exact x.holds.double

noncomputable def scale (p q : ℕ) {c : ℤ} {value : ℝ}
    (hclose : |(c : ℝ) - 2 ^ (p + q) * value| ≤ 1) (x : Tracked) : Tracked :=
  ⟨scaleWord p q c x.word, x.exact * value, x.budget.scale p q c, x.holds.scale hclose⟩

/-- Zero, where nothing is known -/
def unknown : Tracked where
  word := 0
  exact := 0
  budget := ⟨false, 0, 0⟩
  holds := ⟨fun h => absurd h Bool.false_ne_true, by rw [abs_zero, Nat.cast_zero]⟩

end Tracked
