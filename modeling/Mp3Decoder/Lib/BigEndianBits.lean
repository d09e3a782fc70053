import Mathlib.Data.Nat.Bitwise
import Mathlib.Tactic.Ring

/-!
# Bit fields of a byte store, most significant bit first

Bit `pos` of a store is bit `7 - pos % 8` of byte `pos / 8`.  `bitsVal store pos n` is the number
that `n` bits from `pos` on spell.  A field splits anywhere (`bitsVal_add`), and a field inside one
byte is a shift and a remainder (`bitsVal_byte`).

`Holds` is the invariant of a cache: its lowest bits are the next bits of the store.
-/

namespace BigEndianBits

def bitAt (store : ℕ → UInt8) (pos : ℕ) : ℕ := (store (pos / 8)).toNat / 2 ^ (7 - pos % 8) % 2

def bitsVal (store : ℕ → UInt8) (pos : ℕ) : ℕ → ℕ
  | 0 => 0
  | n + 1 => 2 * bitsVal store pos n + bitAt store (pos + n)

/-- A mask in two parts -/
theorem and_mul_add (k a m : ℕ) {b n : ℕ} (hb : b < 2 ^ k) (hn : n < 2 ^ k) :
    (2 ^ k * a + b) &&& (2 ^ k * m + n) = 2 ^ k * (a &&& m) + (b &&& n) := by
  apply Nat.eq_of_testBit_eq
  intro i
  rw [Nat.testBit_and, Nat.testBit_two_pow_mul_add a hb, Nat.testBit_two_pow_mul_add m hn,
    Nat.testBit_two_pow_mul_add _ (Nat.and_lt_two_pow b hn)]
  split_ifs
  · rw [Nat.testBit_and]
  · rw [Nat.testBit_and]

variable (store : ℕ → UInt8)

@[simp] theorem bitsVal_zero (pos : ℕ) : bitsVal store pos 0 = 0 := rfl

theorem bitsVal_succ (pos n : ℕ) :
    bitsVal store pos (n + 1) = 2 * bitsVal store pos n + bitAt store (pos + n) := rfl

theorem bitsVal_one (pos : ℕ) : bitsVal store pos 1 = bitAt store pos := by
  rw [bitsVal_succ, bitsVal_zero, Nat.mul_zero, Nat.zero_add, Nat.add_zero]

theorem bitAt_lt (pos : ℕ) : bitAt store pos < 2 := Nat.mod_lt _ (by decide)

theorem bitsVal_lt (pos n : ℕ) : bitsVal store pos n < 2 ^ n := by
  induction n with
  | zero => exact Nat.one_pos
  | succ n ih =>
    have hbit := bitAt_lt store (pos + n)
    rw [bitsVal_succ, Nat.pow_succ]
    omega

/-- A field splits at any bit. -/
theorem bitsVal_add (pos m n : ℕ) :
    bitsVal store pos (m + n) = bitsVal store pos m * 2 ^ n + bitsVal store (pos + m) n := by
  induction n with
  | zero => simp
  | succ n ih =>
    rw [← Nat.add_assoc, bitsVal_succ, ih, bitsVal_succ, Nat.pow_succ, Nat.add_assoc pos m n]
    ring

/-- A field inside one byte. -/
theorem bitsVal_byte (b off n : ℕ) (h : off + n ≤ 8) :
    bitsVal store (8 * b + off) n = (store b).toNat / 2 ^ (8 - off - n) % 2 ^ n := by
  induction n with
  | zero => rw [bitsVal_zero, Nat.pow_zero, Nat.mod_one]
  | succ n ih =>
    have hbyte : (8 * b + off + n) / 8 = b := by omega
    have hbit : 7 - (8 * b + off + n) % 8 = 8 - off - (n + 1) := by omega
    have hpow : 2 ^ (8 - off - n) = 2 ^ (8 - off - (n + 1)) * 2 := by
      rw [← Nat.pow_succ]
      congr 1
      omega
    rw [bitsVal_succ, ih (by omega), bitAt, hbyte, hbit, hpow, ← Nat.div_div_eq_div_mul,
      Nat.pow_succ 2 n, Nat.mul_comm (2 ^ n) 2, Nat.mod_mul]
    omega

/-- The bits of a field -/
theorem bitsVal_testBit (pos : ℕ) {n i : ℕ} (hi : i < n) :
    (bitsVal store pos n).testBit (n - 1 - i) = decide (bitAt store (pos + i) = 1) := by
  induction n with
  | zero => exact absurd hi (Nat.not_lt_zero i)
  | succ n ih =>
    have hbit := bitAt_lt store (pos + n)
    rw [bitsVal_succ]
    by_cases hlast : i = n
    · rw [hlast, Nat.add_sub_cancel, Nat.sub_self, Nat.testBit_zero, Nat.mul_add_mod,
        Nat.mod_eq_of_lt hbit]
    · have hhalf : (2 * bitsVal store pos n + bitAt store (pos + n)) / 2 = bitsVal store pos n := by
        omega
      rw [show n + 1 - 1 - i = n - 1 - i + 1 by omega, Nat.testBit_succ, hhalf, ih (by omega)]

/-- A mask of one bit -/
theorem bitsVal_and_bit (pos : ℕ) {n i : ℕ} (hi : i < n) :
    bitsVal store pos n &&& 2 ^ (n - 1 - i) = 0 ↔ bitsVal store (pos + i) 1 = 0 := by
  have hbit := bitAt_lt store (pos + i)
  rw [Nat.and_two_pow, bitsVal_testBit store pos hi, bitsVal_one]
  by_cases hset : bitAt store (pos + i) = 1
  · simp [hset]
  · simp [hset]
    omega

/-- Fields see only the bits they cover. -/
theorem bitsVal_bits {store store' : ℕ → UInt8} {pos n : ℕ}
    (h : ∀ i < n, bitAt store (pos + i) = bitAt store' (pos + i)) :
    bitsVal store pos n = bitsVal store' pos n := by
  induction n with
  | zero => rfl
  | succ n ih =>
    rw [bitsVal_succ, bitsVal_succ, ih fun i hi => h i (by omega), h n (by omega)]

/-! ### A cache of unread bits -/

/-- The lowest `sz` bits of `cache` are the bits of the store from `pos` on. -/
def Holds (cache sz pos : ℕ) : Prop := cache % 2 ^ sz = bitsVal store pos sz

variable {store} {cache sz pos n : ℕ}

/-- Bits that have been used. -/
theorem Holds.drop (h : Holds store cache sz pos) (hn : n ≤ sz) :
    Holds store cache (sz - n) (pos + n) := by
  have hsplit := bitsVal_add store pos n (sz - n)
  rw [Nat.add_sub_cancel' hn, ← h] at hsplit
  have hdvd : 2 ^ (sz - n) ∣ 2 ^ sz := Nat.pow_dvd_pow 2 (Nat.sub_le sz n)
  rw [Holds, ← Nat.mod_mod_of_dvd cache hdvd, hsplit, Nat.mul_add_mod_self_right,
    Nat.mod_eq_of_lt (bitsVal_lt store _ _)]

/-- The next `n` bits. -/
theorem Holds.top (h : Holds store cache sz pos) (hn : n ≤ sz) :
    cache >>> (sz - n) % 2 ^ n = bitsVal store pos n := by
  have hsplit := bitsVal_add store pos n (sz - n)
  rw [Nat.add_sub_cancel' hn, ← h] at hsplit
  have hpow : 2 ^ sz = 2 ^ (sz - n) * 2 ^ n := by rw [← Nat.pow_add, Nat.sub_add_cancel hn]
  rw [Nat.shiftRight_eq_div_pow, ← Nat.mod_mul_right_div_self, ← hpow, hsplit,
    Nat.mul_comm, Nat.mul_add_div (Nat.two_pow_pos _), Nat.div_eq_of_lt (bitsVal_lt store _ _),
    Nat.add_zero]

/-- The next bit. -/
theorem Holds.testBit (h : Holds store cache sz pos) (hsz : 0 < sz) :
    cache.testBit (sz - 1) = decide (bitAt store pos = 1) := by
  have htop := h.top (Nat.succ_le_of_lt hsz)
  rw [Nat.pow_one, Nat.shiftRight_eq_div_pow, bitsVal_succ, bitsVal_zero, Nat.mul_zero,
    Nat.zero_add, Nat.add_zero] at htop
  rw [Nat.testBit_eq_decide_div_mod_eq, htop]

/-- More bits from behind, in a register of `width` bits. -/
theorem Holds.append (h : Holds store cache sz pos) {width : ℕ} (hwidth : sz + n ≤ width) :
    Holds store ((cache <<< n ||| bitsVal store (pos + sz) n) % 2 ^ width) (sz + n) pos := by
  have hdvd : 2 ^ (sz + n) ∣ 2 ^ width := Nat.pow_dvd_pow 2 hwidth
  have hlt := bitsVal_lt store (pos + sz) n
  rw [Holds, Nat.mod_mod_of_dvd _ hdvd, ← Nat.shiftLeft_add_eq_or_of_lt hlt, Nat.shiftLeft_eq,
    bitsVal_add, ← h, Nat.pow_add, Nat.mul_comm (2 ^ sz), Nat.mod_mul, Nat.mul_add_mod_self_right,
    Nat.mod_eq_of_lt hlt, Nat.mul_comm cache, Nat.mul_add_div (Nat.two_pow_pos n),
    Nat.div_eq_of_lt hlt, Nat.add_zero]
  ring

end BigEndianBits
