import Mp3Decoder.Mad.Bit

/-!
# The main-data pointer

The bit pointer `III_decode` reads with, and the addresses it has dereferenced so far.
`Cursor mem lo hi ptr pos` says that the pointer stands at bit `pos` and that every byte read so
far has a bit in `lo .. hi`.
-/

namespace Mp3Decoder

/-- The addresses that `mad_bit_read` dereferences. -/
def madBitReadBytes (p : MadBitptr) (len : ℕ) : List ℕ :=
  (if p.left = 8 then [p.byte] else []) ++
    if len < p.left then []
    else (List.range ((len - p.left) / 8)).map (p.byte + 1 + ·) ++
      if (len - p.left) % 8 > 0 then [p.byte + 1 + (len - p.left) / 8] else []

/-- The addresses that `mad_bit_skip` dereferences. -/
def madBitSkipBytes (mem : Mem) (p : MadBitptr) (len : ℕ) : List ℕ :=
  let q := madBitSkip mem p len
  if q.left < 8 then [q.byte] else []

structure MainPtr where
  bits : MadBitptr
  reads : List ℕ := []

def MainPtr.read (mem : Mem) (ptr : MainPtr) (len : ℕ) : ℕ × MainPtr :=
  let r := madBitRead mem ptr.bits len
  (r.1, { bits := r.2, reads := madBitReadBytes ptr.bits len ++ ptr.reads })

def MainPtr.skip (mem : Mem) (ptr : MainPtr) (len : ℕ) : MainPtr where
  bits := madBitSkip mem ptr.bits len
  reads := madBitSkipBytes mem ptr.bits len ++ ptr.reads

/-- The byte at address `a` has a bit in `lo .. hi`. -/
def ByteIn (lo hi a : ℕ) : Prop := lo < 8 * a + 8 ∧ 8 * a ≤ hi

theorem madBitReadBytes_in {mem : Mem} {p : MadBitptr} {pos len a : ℕ} (h : AtBit mem p pos)
    (ha : a ∈ madBitReadBytes p len) : ByteIn pos (pos + len) a := by
  have hleft := h.left_le
  have hpos := h.pos_eq
  rw [madBitReadBytes, List.mem_append] at ha
  rw [ByteIn]
  rcases ha with ha | ha
  · -- the byte the pointer stands before
    split_ifs at ha with h8
    · rw [List.mem_singleton] at ha
      omega
    · cases ha
  · split_ifs at ha with hlen hrest
    · cases ha
    · rcases List.mem_append.mp ha with hwhole | hlast
      · obtain ⟨i, hi, rfl⟩ := List.mem_map.mp hwhole
        rw [List.mem_range] at hi
        omega
      · rw [List.mem_singleton] at hlast
        omega
    · rw [List.append_nil] at ha
      obtain ⟨i, hi, rfl⟩ := List.mem_map.mp ha
      rw [List.mem_range] at hi
      omega

theorem madBitSkipBytes_in {mem : Mem} {p : MadBitptr} {pos len a : ℕ} (h : AtBit mem p pos)
    (ha : a ∈ madBitSkipBytes mem p len) : p.byte ≤ a ∧ 8 * a ≤ pos + len := by
  have hskip := h.skip len
  have hleft := hskip.left_le
  have hpos := hskip.pos_eq
  have hbyte := le_madBitSkip_byte mem p len
  rw [madBitSkipBytes] at ha
  split_ifs at ha with h8
  · rw [List.mem_singleton] at ha
    omega
  · cases ha

structure Cursor (mem : Mem) (lo hi : ℕ) (ptr : MainPtr) (pos : ℕ) : Prop where
  at_pos : AtBit mem ptr.bits pos
  lo_le : lo ≤ pos
  lo_lt : lo < 8 * ptr.bits.byte + 8
  reads_in : ∀ a ∈ ptr.reads, ByteIn lo hi a

namespace Cursor

variable {mem : Mem} {lo hi pos : ℕ} {ptr : MainPtr}

theorem read (h : Cursor mem lo hi ptr pos) {len : ℕ} (hhi : pos + len ≤ hi) :
    Cursor mem lo hi (ptr.read mem len).2 (pos + len) := by
  have hlo := h.lo_le
  obtain ⟨hread, hleft⟩ := h.at_pos.read len
  have hpos := hread.pos_eq
  refine ⟨hread, by omega, ?_, ?_⟩
  · show lo < 8 * (madBitRead mem ptr.bits len).2.byte + 8
    omega
  · intro a ha
    rcases List.mem_append.mp ha with hnew | hold
    · have hin := madBitReadBytes_in h.at_pos hnew
      rw [ByteIn] at hin ⊢
      omega
    · exact h.reads_in a hold

theorem skip (h : Cursor mem lo hi ptr pos) {len : ℕ} (hhi : pos + len ≤ hi) :
    Cursor mem lo hi (ptr.skip mem len) (pos + len) := by
  have hlo := h.lo_le
  have hlt := h.lo_lt
  have hbyte := le_madBitSkip_byte mem ptr.bits len
  refine ⟨h.at_pos.skip len, by omega, ?_, ?_⟩
  · show lo < 8 * (madBitSkip mem ptr.bits len).byte + 8
    omega
  · intro a ha
    rcases List.mem_append.mp ha with hnew | hold
    · have hin := madBitSkipBytes_in h.at_pos hnew
      rw [ByteIn]
      omega
    · exact h.reads_in a hold

end Cursor

end Mp3Decoder
