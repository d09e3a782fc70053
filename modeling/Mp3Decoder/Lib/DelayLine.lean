import Mathlib.Algebra.BigOperators.Intervals

/-!
# Delay lines in a ring of slots

A filter that needs the last `n` inputs keeps them in a ring of `n` slots, of which each step
overwrites the oldest.  The inputs do not move; what changes is how old the content of a slot is.
The sum over the slots is then the sum over the ages, whatever slot is the next to be written.
-/

namespace DelayLine

/-- How many steps back slot `q` was written, where step `p` comes next and writes slot `p % n`. -/
def age (n p q : ℕ) : ℕ := (p + (n - 1 - q)) % n

theorem age_lt {n : ℕ} (hn : 0 < n) (p q : ℕ) : age n p q < n := Nat.mod_lt _ hn

theorem age_congr {n p p' : ℕ} (h : p % n = p' % n) (q : ℕ) : age n p q = age n p' q := by
  rw [age, age, Nat.add_mod, h, ← Nat.add_mod]

/-- The slot of age `j` and the age of slot `j` are the same number. -/
theorem age_age {n q : ℕ} (p : ℕ) (hq : q < n) : age n p (age n p q) = q := by
  have hn : 0 < n := by omega
  have hlt := age_lt hn p q
  have hdiv := Nat.div_add_mod (p + (n - 1 - q)) n
  have hback : p + (n - 1 - age n p q) = q + n * ((p + (n - 1 - q)) / n) := by
    simp only [age] at hlt ⊢
    omega
  rw [age, hback, Nat.add_mul_mod_self_left, Nat.mod_eq_of_lt hq]

/-- The slot just written. -/
theorem age_last {n : ℕ} (hn : 0 < n) (p : ℕ) : age n (p + 1) (p % n) = 0 := by
  have hlt := Nat.mod_lt p hn
  have hdiv := Nat.div_add_mod p n
  have hround : p + 1 + (n - 1 - p % n) = n * (p / n + 1) := by
    rw [Nat.mul_add, Nat.mul_one]
    omega
  rw [age, hround, Nat.mul_mod_right]

/-- The other slots get older. -/
theorem age_succ {n p q : ℕ} (hq : q < n) (hne : q ≠ p % n) :
    age n (p + 1) q = age n p q + 1 := by
  have hn : 0 < n := by omega
  have hlt := age_lt hn p q
  have hstay : age n p q + 1 ≠ n := by
    intro hage
    -- the slot of age `n - 1` is the next to be written
    have hback := age_age p hq
    rw [show age n p q = n - 1 by omega, age, Nat.sub_self, Nat.add_zero] at hback
    exact hne hback.symm
  have hmod : age n (p + 1) q = (age n p q + 1) % n := by
    rw [age, age, Nat.mod_add_mod, Nat.add_right_comm]
  rw [hmod, Nat.mod_eq_of_lt (by omega)]

theorem age_parity (m p q : ℕ) (hq : q < 2 * m) : age (2 * m) p q % 2 = (p + 1 + q) % 2 := by
  rw [age, Nat.mod_mul_right_mod]
  omega

/-! ### What the slots hold -/

variable {α : Type*}

/-- The slots hold the last `n` inputs, of which `past` has the newest first. -/
def Recent (n : ℕ) (zero : α) (past : List α) (slots : ℕ → α) : Prop :=
  ∀ q < n, slots q = past.getD (age n past.length q) zero

theorem recent_nil (n : ℕ) (zero : α) : Recent n zero [] fun _ => zero := by
  intro q hq
  rfl

/-- **One step** writes the slot whose turn it is. -/
theorem Recent.write {n : ℕ} {zero : α} {past : List α} {slots slots' : ℕ → α}
    (h : Recent n zero past slots) (x : α) (hx : slots' (past.length % n) = x)
    (hother : ∀ q < n, q ≠ past.length % n → slots' q = slots q) :
    Recent n zero (x :: past) slots' := by
  intro q hq
  rw [List.length_cons]
  by_cases hslot : q = past.length % n
  · rw [hslot, hx, age_last (by omega), List.getD_cons_zero]
  · rw [hother q hq hslot, h q hq, age_succ hq hslot, List.getD_cons_succ]

/-! ### Sums over the slots -/

variable {M : Type*} [AddCommMonoid M]

open Finset

/-- **The sum over the slots** is the sum over the ages. -/
theorem sum_age (n p : ℕ) (g : ℕ → M) : ∑ q ∈ range n, g (age n p q) = ∑ j ∈ range n, g j := by
  refine sum_nbij' (age n p) (age n p) ?_ ?_ ?_ ?_ ?_
  · intro q hq
    rw [mem_range] at hq ⊢
    exact age_lt (by omega) p q
  · intro j hj
    rw [mem_range] at hj ⊢
    exact age_lt (by omega) p j
  · intro q hq
    exact age_age p (mem_range.mp hq)
  · intro j hj
    exact age_age p (mem_range.mp hj)
  · intro q _
    rfl

/-- The slots of one parity and those of the other, whichever comes first. -/
theorem sum_even_odd (m b : ℕ) (f : ℕ → M) :
    ∑ v ∈ range m, f (2 * v + (b + 1) % 2) + ∑ v ∈ range m, f (2 * v + b % 2) =
      ∑ q ∈ range (2 * m), f q := by
  induction m with
  | zero => simp only [Nat.mul_zero, range_zero, sum_empty, add_zero]
  | succ m ih =>
    rw [Nat.mul_succ, sum_range_succ _ m, sum_range_succ _ m, add_add_add_comm, ih,
      sum_range_succ _ (2 * m + 1), sum_range_succ _ (2 * m), add_assoc]
    rcases Nat.mod_two_eq_zero_or_one b with hb | hb
    · rw [hb, show (b + 1) % 2 = 1 by omega, add_comm (f (2 * m + 1)), Nat.add_zero (2 * m)]
    · rw [hb, show (b + 1) % 2 = 0 by omega, Nat.add_zero (2 * m)]

/-- **Two sums for one**: even ages from the slots of the parity just written, odd ages from the
slots of the other parity. -/
theorem sum_age_parity (m p : ℕ) (even odd : ℕ → M) :
    ∑ v ∈ range m, even (age (2 * m) p (2 * v + (p + 1) % 2)) +
        ∑ v ∈ range m, odd (age (2 * m) p (2 * v + p % 2)) =
      ∑ j ∈ range (2 * m), if j % 2 = 0 then even j else odd j := by
  rw [← sum_age (2 * m) p, ← sum_even_odd m p]
  congr 1
  · refine sum_congr rfl ?_
    intro v hv
    have hparity := age_parity m p (2 * v + (p + 1) % 2) (by rw [mem_range] at hv; omega)
    rw [if_pos (by omega)]
  · refine sum_congr rfl ?_
    intro v hv
    have hparity := age_parity m p (2 * v + p % 2) (by rw [mem_range] at hv; omega)
    rw [if_neg (by omega)]

end DelayLine
