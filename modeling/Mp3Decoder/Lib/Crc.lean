import Mathlib.Data.BitVec
import Mathlib.Data.Nat.Notation

/-!
# Cyclic redundancy checks, most significant bit first

A message is divided bit by bit: `run poly crc bits` is the remainder after `bits`, from the
remainder `crc`.  Moving a remainder up is linear in exclusive or (`shifts_xor`), and bits that are
taken in at the top only move up until they fall out (`run_top`).  So several bits are taken in at
once with a table of remainders (`run_table`).
-/

namespace Crc

variable {w : ℕ} (poly : BitVec w)

/-- What is subtracted when a bit falls out at the top. -/
def reduce (top : Bool) : BitVec w := if top then poly else 0#w

/-- The remainder moved up by one bit. -/
def shift (crc : BitVec w) : BitVec w := (crc <<< 1) ^^^ reduce poly crc.msb

/-- One bit of the message -/
def step (crc : BitVec w) (bit : Bool) : BitVec w := (crc <<< 1) ^^^ reduce poly (crc.msb ^^ bit)

def run (crc : BitVec w) (bits : List Bool) : BitVec w := bits.foldl (step poly) crc

def shifts : ℕ → BitVec w → BitVec w
  | 0, crc => crc
  | n + 1, crc => shift poly (shifts n crc)

/-- **Concatenation** -/
theorem run_append (crc : BitVec w) (bits bits' : List Bool) :
    run poly crc (bits ++ bits') = run poly (run poly crc bits) bits' := by
  simp only [run, List.foldl_append]

theorem run_concat (crc : BitVec w) (bits : List Bool) (bit : Bool) :
    run poly crc (bits ++ [bit]) = step poly (run poly crc bits) bit := by
  rw [run_append]
  rfl

/-! ### Linearity -/

theorem reduce_xor (a b : Bool) : reduce poly (a ^^ b) = reduce poly a ^^^ reduce poly b := by
  cases a <;> cases b <;> simp [reduce]

theorem shift_xor (a b : BitVec w) : shift poly (a ^^^ b) = shift poly a ^^^ shift poly b := by
  simp only [shift, BitVec.shiftLeft_xor_distrib, BitVec.msb_xor, reduce_xor]
  ac_rfl

theorem shifts_xor (n : ℕ) (a b : BitVec w) :
    shifts poly n (a ^^^ b) = shifts poly n a ^^^ shifts poly n b := by
  induction n with
  | zero => rfl
  | succ n ih => rw [shifts, ih, shift_xor, shifts, shifts]

/-- **Bits taken in at the top**: those of `data` that are still to come have moved up unchanged. -/
theorem run_top (crc data : BitVec w) {n : ℕ} (hn : n ≤ w) :
    run poly crc ((List.range n).map data.getMsbD) =
      shifts poly n (crc ^^^ data) ^^^ (data <<< n) := by
  induction n with
  | zero =>
    show crc = (crc ^^^ data) ^^^ (data <<< 0)
    rw [BitVec.shiftLeft_zero, BitVec.xor_assoc, BitVec.xor_self, BitVec.xor_zero]
  | succ n ih =>
    have hmsb : (data <<< n).msb = data.getMsbD n := by
      rw [BitVec.msb_eq_getMsbD_zero, BitVec.getMsbD_shiftLeft, Nat.zero_add]
    rw [List.range_succ, List.map_append, List.map_singleton, run_concat, ih (by omega), step,
      BitVec.msb_xor, hmsb, Bool.xor_assoc, Bool.xor_self, Bool.xor_false,
      BitVec.shiftLeft_xor_distrib, ← BitVec.shiftLeft_add, shifts, shift]
    ac_rfl

/-- Zeros at the top fall out without a trace. -/
theorem shifts_clear {crc : BitVec w} {n : ℕ} (hn : n ≤ w) (h : ∀ i < n, crc.getMsbD i = false) :
    shifts poly n crc = crc <<< n := by
  induction n with
  | zero => exact (BitVec.shiftLeft_zero crc).symm
  | succ n ih =>
    have hmsb : (crc <<< n).msb = false := by
      rw [BitVec.msb_eq_getMsbD_zero, BitVec.getMsbD_shiftLeft, Nat.zero_add, h n (by omega)]
    rw [shifts, ih (by omega) fun i hi => h i (by omega), shift, hmsb, ← BitVec.shiftLeft_add]
    exact BitVec.xor_zero

/-! ### Tables -/

/-- The table for `n` bits at a time -/
def entry (n : ℕ) (index : BitVec w) : BitVec w := shifts poly n (index <<< (w - n))

/-- **`n` bits at once**: their entry, and the rest of the remainder moved up. -/
theorem run_table (crc data : BitVec w) {n : ℕ} (hn : n ≤ w) (hdata : data <<< n = 0#w) :
    run poly crc ((List.range n).map data.getMsbD) =
      (crc <<< n) ^^^ entry poly n ((crc ^^^ data) >>> (w - n)) := by
  rw [run_top poly crc data hn, hdata, BitVec.xor_zero]
  obtain ⟨x, hx⟩ : ∃ x, x = crc ^^^ data := ⟨_, rfl⟩
  obtain ⟨high, hhigh⟩ : ∃ high, high = x >>> (w - n) <<< (w - n) := ⟨_, rfl⟩
  have hclear : ∀ i < n, (x ^^^ high).getMsbD i = false := by
    intro i hi
    have hkept : high.getMsbD i = x.getMsbD i := by
      rw [hhigh, BitVec.getMsbD_shiftLeft, BitVec.getMsbD_ushiftRight, Nat.add_sub_cancel]
      simp [show i + (w - n) < w by omega]
    rw [BitVec.getMsbD_xor, hkept, Bool.xor_self]
  have hout : high <<< n = 0#w := by
    rw [hhigh, ← BitVec.shiftLeft_add, Nat.sub_add_cancel hn]
    simp
  calc shifts poly n (crc ^^^ data)
      = shifts poly n ((x ^^^ high) ^^^ high) := by
        rw [← hx, BitVec.xor_assoc, BitVec.xor_self, BitVec.xor_zero]
    _ = (x <<< n) ^^^ shifts poly n high := by
        rw [shifts_xor, shifts_clear poly hn hclear, BitVec.shiftLeft_xor_distrib, hout,
          BitVec.xor_zero]
    _ = (crc <<< n) ^^^ entry poly n ((crc ^^^ data) >>> (w - n)) := by
        rw [hx, BitVec.shiftLeft_xor_distrib, hdata, BitVec.xor_zero, hhigh, hx, entry]

end Crc
