import Mathlib.Data.Nat.Bits
import Mp3Decoder.Lib.BigEndianBits

/-!
# Writing bit fields

What a writer puts into a byte store: `Spells store pos bits` says that the bits stand there from bit
`pos` on, and `field n v` are the bits of a field of `n` bits.  A field that has been written is read
back (`Spells.field`), and the bits of several fields are those of one after the other
(`spells_append`).  `pack` is a store in which given bits stand.
-/

namespace BigEndianBits

/-- The bits from bit `pos` on -/
def Spells (store : ℕ → UInt8) : ℕ → List Bool → Prop
  | _, [] => True
  | pos, b :: bits => bitAt store pos = b.toNat ∧ Spells store (pos + 1) bits

/-- The lowest `n` bits of a number, the highest of them first -/
def field : ℕ → ℕ → List Bool
  | 0, _ => []
  | n + 1, v => v.testBit n :: field n v

@[simp] theorem field_length (n v : ℕ) : (field n v).length = n := by
  induction n with
  | zero => rfl
  | succ n ih => rw [field, List.length_cons, ih]

section
variable {store : ℕ → UInt8} {pos : ℕ}

theorem spells_append {xs ys : List Bool} :
    Spells store pos (xs ++ ys) ↔ Spells store pos xs ∧ Spells store (pos + xs.length) ys := by
  induction xs generalizing pos with
  | nil => exact (true_and _).symm.to_iff
  | cons x xs ih =>
    rw [List.cons_append, Spells, Spells, ih, List.length_cons, and_assoc, Nat.add_assoc,
      Nat.add_comm 1]

/-- **A field that has been written is read.** -/
theorem Spells.field {n v : ℕ} (h : Spells store pos (field n v)) :
    bitsVal store pos n = v % 2 ^ n := by
  induction n generalizing pos with
  | zero => rw [bitsVal_zero, Nat.pow_zero, Nat.mod_one]
  | succ n ih =>
    obtain ⟨hbit, hrest⟩ := h
    rw [Nat.add_comm n 1, bitsVal_add, ih hrest, bitsVal_succ, bitsVal_zero, Nat.add_zero, hbit,
      Nat.add_comm 1 n, Nat.mod_pow_succ, Nat.toNat_testBit]
    ring

theorem field_mod {n m v : ℕ} (h : m ≤ n) :
    BigEndianBits.field m (v % 2 ^ n) = BigEndianBits.field m v := by
  induction m with
  | zero => rfl
  | succ m ih =>
    rw [BigEndianBits.field, BigEndianBits.field, ih (Nat.le_of_succ_le h), Nat.testBit_mod_two_pow,
      decide_eq_true (Nat.lt_of_succ_le h), Bool.true_and]

/-- What is read is what stands there. -/
theorem spells_field {n : ℕ} : Spells store pos (BigEndianBits.field n (bitsVal store pos n)) := by
  induction n generalizing pos with
  | zero => trivial
  | succ n ih =>
    have hsplit := bitsVal_add store pos 1 n
    have hlow : bitsVal store pos (n + 1) % 2 ^ n = bitsVal store (pos + 1) n := by
      rw [Nat.add_comm n 1, hsplit, Nat.mul_comm, Nat.mul_add_mod,
        Nat.mod_eq_of_lt (bitsVal_lt store (pos + 1) n)]
    refine ⟨?_, ?_⟩
    · have htop := bitsVal_testBit store pos (Nat.succ_pos n)
      have hbit := bitAt_lt store pos
      rw [Nat.succ_sub_one, Nat.sub_zero, Nat.add_zero] at htop
      rw [htop]
      by_cases hone : bitAt store pos = 1
      · rw [decide_eq_true hone, hone]
        rfl
      · rw [decide_eq_false hone]
        show bitAt store pos = 0
        omega
    · rw [← field_mod (Nat.le_refl n), hlow]
      exact ih

theorem Spells.field_of_lt {n v : ℕ} (h : Spells store pos (BigEndianBits.field n v))
    (hv : v < 2 ^ n) : bitsVal store pos n = v := by
  rw [h.field, Nat.mod_eq_of_lt hv]

/-- A field, and what has been written behind it -/
theorem spells_field_append {n v : ℕ} (hv : v < 2 ^ n) {bits : List Bool} :
    Spells store pos (BigEndianBits.field n v ++ bits) ↔
      bitsVal store pos n = v ∧ Spells store (pos + n) bits := by
  rw [spells_append, field_length]
  constructor
  · rintro ⟨hfield, hrest⟩
    exact ⟨hfield.field_of_lt hv, hrest⟩
  · rintro ⟨rfl, hrest⟩
    exact ⟨spells_field, hrest⟩

theorem Spells.bit {b : Bool} (h : Spells store pos [b]) : bitAt store pos = b.toNat := h.1

/-- Bit by bit -/
theorem spells_iff {bits : List Bool} : Spells store pos bits ↔
    ∀ i < bits.length, bitAt store (pos + i) = (bits.getD i false).toNat := by
  induction bits generalizing pos with
  | nil => exact ⟨fun _ i hi => absurd hi (Nat.not_lt_zero i), fun _ => trivial⟩
  | cons b bits ih =>
    rw [Spells, ih]
    constructor
    · rintro ⟨hbit, hrest⟩ i hi
      cases i with
      | zero => exact hbit
      | succ i =>
        rw [List.getD_cons_succ, ← hrest i (Nat.lt_of_succ_lt_succ hi), Nat.add_assoc,
          Nat.add_comm 1]
    · intro hall
      refine ⟨hall 0 (Nat.succ_pos _), ?_⟩
      intro i hi
      have hnext := hall (i + 1) (Nat.succ_lt_succ hi)
      rw [List.getD_cons_succ] at hnext
      rw [← hnext, Nat.add_assoc, Nat.add_comm 1]

instance {bits : List Bool} : Decidable (Spells store pos bits) := decidable_of_iff' _ spells_iff

end

/-- Bits that stand in one store stand wherever the same bytes are. -/
theorem Spells.of_bytes {store store' : ℕ → UInt8} {a a' n : ℕ}
    (hsame : ∀ j < n, store (a + j) = store' (a' + j)) {pos : ℕ} {bits : List Bool}
    (hend : pos + bits.length ≤ 8 * n) (h : Spells store (8 * a + pos) bits) :
    Spells store' (8 * a' + pos) bits := by
  rw [spells_iff] at h ⊢
  intro i hi
  have hbyte : ∀ b, (8 * b + pos + i) / 8 = b + (pos + i) / 8 := by
    intro b
    omega
  have hoff : ∀ b, (8 * b + pos + i) % 8 = (pos + i) % 8 := by
    intro b
    omega
  have hbit := h i hi
  rw [bitAt, hbyte, hoff] at hbit ⊢
  rw [← hsame _ (by omega)]
  exact hbit

/-- Byte `b` of a store with the given bits from its start on -/
def packByte (bits : List Bool) (b : ℕ) : ℕ :=
  Nat.ofBits fun i : Fin 8 => bits.getD (8 * b + (7 - i)) false

/-- A store in which bits stand from bit 0 on -/
def pack (bits : List Bool) (b : ℕ) : UInt8 := UInt8.ofNat (packByte bits b)

theorem spells_pack (bits : List Bool) : Spells (pack bits) 0 bits := by
  rw [spells_iff]
  intro i _
  have hlt : packByte bits (i / 8) < 2 ^ 8 := Nat.ofBits_lt_two_pow _
  have hbyte : (pack bits (i / 8)).toNat = packByte bits (i / 8) := by
    rw [pack, UInt8.toNat_ofNat', Nat.mod_eq_of_lt hlt]
  rw [Nat.zero_add, bitAt, hbyte, ← Nat.toNat_testBit, packByte,
    Nat.testBit_ofBits_lt _ _ (by omega)]
  simp only
  rw [show 8 * (i / 8) + (7 - (7 - i % 8)) = i by omega]

end BigEndianBits
