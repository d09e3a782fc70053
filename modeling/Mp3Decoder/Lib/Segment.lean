import Mathlib.Data.List.DropRight
import Mathlib.Data.Nat.Notation

/-!
# Segments of a store

`segment m a n` lists the `n` cells of a store from `a` on, and `memcpy` overwrites a run of cells
with a segment.  A queue kept at the front of a store is described by what remains of a history
at its end: the lemmas on `List.rtake` say what appending and copying do to such an end.
-/

namespace Segment

variable {α : Type*}

def segment (m : ℕ → α) (a n : ℕ) : List α := (List.range n).map fun i => m (a + i)

/-- `memcpy(&dst[dest], &src[start], len)`, and also `memmove`: `src` is read before. -/
def memcpy (dst : ℕ → α) (dest : ℕ) (src : ℕ → α) (start len : ℕ) : ℕ → α :=
  fun i => if dest ≤ i ∧ i < dest + len then src (start + (i - dest)) else dst i

@[simp] theorem length_segment (m : ℕ → α) (a n : ℕ) : (segment m a n).length = n := by
  rw [segment, List.length_map, List.length_range]

@[simp] theorem segment_zero (m : ℕ → α) (a : ℕ) : segment m a 0 = [] := rfl

theorem segment_add (m : ℕ → α) (a k n : ℕ) :
    segment m a (k + n) = segment m a k ++ segment m (a + k) n := by
  rw [segment, List.range_add, List.map_append, List.map_map]
  congr 1
  apply List.map_congr_left
  intro i _
  rw [Function.comp_apply, Nat.add_assoc]

theorem segment_congr {m m' : ℕ → α} {a a' n : ℕ} (h : ∀ i, i < n → m (a + i) = m' (a' + i)) :
    segment m a n = segment m' a' n := by
  apply List.map_congr_left
  intro i hi
  exact h i (List.mem_range.mp hi)

theorem take_segment (m : ℕ → α) (a : ℕ) {k n : ℕ} (h : k ≤ n) :
    (segment m a n).take k = segment m a k := by
  obtain ⟨d, rfl⟩ := Nat.exists_eq_add_of_le h
  rw [segment_add, List.take_left' (length_segment m a k)]

theorem drop_segment (m : ℕ → α) (a : ℕ) {k n : ℕ} (h : k ≤ n) :
    (segment m a n).drop k = segment m (a + k) (n - k) := by
  obtain ⟨d, rfl⟩ := Nat.exists_eq_add_of_le h
  rw [segment_add, List.drop_left' (length_segment m a k), Nat.add_sub_cancel_left]

theorem rtake_segment (m : ℕ → α) (a : ℕ) {k n : ℕ} (h : k ≤ n) :
    (segment m a n).rtake k = segment m (a + (n - k)) k := by
  rw [List.rtake, length_segment, drop_segment m a (Nat.sub_le n k), Nat.sub_sub_self h]

/-! ### Copies -/

theorem segment_memcpy (dst : ℕ → α) (dest : ℕ) (src : ℕ → α) (start len : ℕ) :
    segment (memcpy dst dest src start len) dest len = segment src start len := by
  apply segment_congr
  intro i hi
  rw [memcpy, if_pos ⟨Nat.le_add_right dest i, Nat.add_lt_add_left hi dest⟩,
    Nat.add_sub_cancel_left]

/-- Copying to the cells behind a segment appends. -/
theorem segment_memcpy_append (dst : ℕ → α) (dest : ℕ) (src : ℕ → α) (start len : ℕ) :
    segment (memcpy dst dest src start len) 0 (dest + len) =
      segment dst 0 dest ++ segment src start len := by
  rw [segment_add, Nat.zero_add, segment_memcpy]
  congr 1
  apply segment_congr
  intro i hi
  rw [memcpy, if_neg fun h => Nat.not_lt.mpr h.1 (by omega)]

/-! ### The end of a list -/

theorem rtake_append_left (l : List α) {p : List α} {n : ℕ} (h : n ≤ p.length) :
    (l ++ p).rtake n = p.rtake n := by
  rw [List.rtake, List.rtake, List.length_append, Nat.add_sub_assoc h, List.drop_append]
  rw [List.drop_of_length_le (by omega), Nat.add_sub_cancel_left, List.nil_append]

theorem rtake_append_add (l p : List α) (n : ℕ) :
    (l ++ p).rtake (n + p.length) = l.rtake n ++ p := by
  rw [List.rtake, List.rtake, List.length_append, Nat.add_sub_add_right]
  exact List.drop_append_of_le_length (Nat.sub_le _ _)

@[simp] theorem length_rtake (l : List α) (n : ℕ) : (l.rtake n).length = min n l.length := by
  rw [List.rtake, List.length_drop]
  omega

theorem rtake_rtake (l : List α) {k n : ℕ} (h : k ≤ n) : (l.rtake n).rtake k = l.rtake k := by
  rw [List.rtake, length_rtake, List.rtake, List.rtake, List.drop_drop]
  congr 1
  omega

/-- The end of a list grown from its own end. -/
theorem rtake_rtake_append (l p : List α) {k n : ℕ} (h : k ≤ n + p.length) :
    (l.rtake n ++ p).rtake k = (l ++ p).rtake k := by
  rw [← rtake_append_add, rtake_rtake _ h]

end Segment
