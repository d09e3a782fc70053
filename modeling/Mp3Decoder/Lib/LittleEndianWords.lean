import Mathlib.Data.Nat.Notation

/-!
# Little-endian words

A bank of 32-bit words and the bytes in it: byte `k` of the bank is byte `k % 4` of word `k / 4`.
-/

namespace LittleEndianWords

/-- Byte `j` of a word, as a signed shift and a mask give it. -/
def byteOf (word : BitVec 32) (j : ℕ) : UInt8 := ⟨((word.sshiftRight (8 * j)) &&& 0xff).setWidth 8⟩

def wordOf (b₀ b₁ b₂ b₃ : UInt8) : BitVec 32 :=
  b₀.toBitVec.setWidth 32 <<< 0 ||| b₁.toBitVec.setWidth 32 <<< 8 |||
    b₂.toBitVec.setWidth 32 <<< 16 ||| b₃.toBitVec.setWidth 32 <<< 24

def bankByte (words : ℕ → BitVec 32) (k : ℕ) : UInt8 := byteOf (words (k / 4)) (k % 4)

/-- The bank with the given bytes. -/
def bankOf (bytes : ℕ → UInt8) (i : ℕ) : BitVec 32 :=
  wordOf (bytes (4 * i)) (bytes (4 * i + 1)) (bytes (4 * i + 2)) (bytes (4 * i + 3))

theorem byteOf_wordOf (b₀ b₁ b₂ b₃ : UInt8) : byteOf (wordOf b₀ b₁ b₂ b₃) 0 = b₀ ∧
    byteOf (wordOf b₀ b₁ b₂ b₃) 1 = b₁ ∧ byteOf (wordOf b₀ b₁ b₂ b₃) 2 = b₂ ∧
    byteOf (wordOf b₀ b₁ b₂ b₃) 3 = b₃ := by
  refine ⟨?_, ?_, ?_, ?_⟩
  all_goals
    apply UInt8.toBitVec_inj.mp
    apply BitVec.eq_of_getLsbD_eq
    intro i hi
    simp only [byteOf, wordOf, BitVec.getLsbD_setWidth, BitVec.getLsbD_and,
      BitVec.getLsbD_sshiftRight, BitVec.getLsbD_or, BitVec.getLsbD_shiftLeft]
    have hcases : i = 0 ∨ i = 1 ∨ i = 2 ∨ i = 3 ∨ i = 4 ∨ i = 5 ∨ i = 6 ∨ i = 7 := by omega
    rcases hcases with rfl | rfl | rfl | rfl | rfl | rfl | rfl | rfl
    all_goals simp

theorem bankByte_bankOf (bytes : ℕ → UInt8) (k : ℕ) : bankByte (bankOf bytes) k = bytes k := by
  obtain ⟨h0, h1, h2, h3⟩ := byteOf_wordOf (bytes (4 * (k / 4))) (bytes (4 * (k / 4) + 1))
    (bytes (4 * (k / 4) + 2)) (bytes (4 * (k / 4) + 3))
  have hk : k = 4 * (k / 4) + k % 4 := (Nat.div_add_mod k 4).symm
  have hcases : k % 4 = 0 ∨ k % 4 = 1 ∨ k % 4 = 2 ∨ k % 4 = 3 := by omega
  rw [bankByte, bankOf]
  rcases hcases with h | h | h | h
  · rw [h, h0, show 4 * (k / 4) = k by omega]
  · rw [h, h1, show 4 * (k / 4) + 1 = k by omega]
  · rw [h, h2, show 4 * (k / 4) + 2 = k by omega]
  · rw [h, h3, show 4 * (k / 4) + 3 = k by omega]

end LittleEndianWords
