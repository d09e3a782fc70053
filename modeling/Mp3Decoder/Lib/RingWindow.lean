import Mathlib.Data.List.Range
import Mathlib.Data.Int.ModEq
import Mathlib.Tactic.Ring

/-!
# Windows of a circular store

`slice store pos n` lists `n` cells from `pos` on, `ringWindow store size pos n` the same with
indices taken modulo `size`.  `blit` overwrites a run of cells.  A window grows at its end by a
blit to the cells just past it (`ringWindow_push`) and shrinks at its front by a slice
(`ringWindow_pop`), as long as neither run crosses the end of the store.
-/

namespace RingWindow

variable {β : Type*}

def slice (store : ℤ → β) (pos : ℤ) (n : ℕ) : List β :=
  (List.range n).map fun i : ℕ => store (pos + i)

def ringWindow (store : ℤ → β) (size pos : ℤ) (n : ℕ) : List β :=
  (List.range n).map fun i : ℕ => store ((pos + i) % size)

/-- Overwrite the cells from `addr` on with `xs`. -/
def blit (store : ℤ → β) (addr : ℤ) (xs : List β) : ℤ → β :=
  fun a => if addr ≤ a then xs.getD (a - addr).toNat (store a) else store a

@[simp] theorem slice_length (store : ℤ → β) (pos : ℤ) (n : ℕ) :
    (slice store pos n).length = n := by simp [slice]

theorem ringWindow_add (store : ℤ → β) (size pos : ℤ) (m n : ℕ) :
    ringWindow store size pos (m + n) =
      ringWindow store size pos m ++ ringWindow store size (pos + m) n := by
  simp only [ringWindow, List.range_add, List.map_append, List.map_map]
  congr 1
  refine List.map_congr_left fun i _ => ?_
  simp only [Function.comp_apply, Nat.cast_add, add_assoc]

/-- The start of a window counts modulo the size. -/
theorem ringWindow_emod (store : ℤ → β) (size pos : ℤ) (n : ℕ) :
    ringWindow store size (pos % size) n = ringWindow store size pos n := by
  simp only [ringWindow, Int.emod_add_emod]

theorem ringWindow_eq_slice {store : ℤ → β} {size pos : ℤ} {n : ℕ}
    (h0 : 0 ≤ pos) (hn : pos + n ≤ size) : ringWindow store size pos n = slice store pos n := by
  refine List.map_congr_left fun i hi => ?_
  have hi : (i : ℤ) < n := by exact_mod_cast List.mem_range.mp hi
  rw [Int.emod_eq_of_lt (by omega) (by omega)]

theorem blit_of_lt {store : ℤ → β} {addr a : ℤ} {xs : List β} (h : a < addr) :
    blit store addr xs a = store a := if_neg (by omega)

theorem blit_of_ge {store : ℤ → β} {addr a : ℤ} {xs : List β} (h : addr + xs.length ≤ a) :
    blit store addr xs a = store a := by
  rw [blit, if_pos (by omega), List.getD_eq_getElem?_getD, List.getElem?_eq_none (by omega),
    Option.getD_none]

theorem slice_blit_self (store : ℤ → β) (addr : ℤ) (xs : List β) :
    slice (blit store addr xs) addr xs.length = xs := by
  refine List.ext_getElem (by simp) fun i h₁ h₂ => ?_
  simp only [slice, blit, List.getElem_map, List.getElem_range]
  rw [if_pos (by omega), show (addr + (i : ℤ) - addr).toNat = i from by omega,
    List.getD_eq_getElem?_getD, List.getElem?_eq_getElem h₂, Option.getD_some]

/-- Positions less than a full turn apart are different cells. -/
theorem emod_ne_of_lt {size p q : ℤ} (hpq : p < q) (hq : q < p + size) : p % size ≠ q % size := by
  intro h
  have hdvd : size ∣ q - p :=
    Int.dvd_of_emod_eq_zero (Int.emod_eq_emod_iff_emod_sub_eq_zero.mp h.symm)
  have := Int.le_of_dvd (by omega) hdvd
  omega

/-- A blit to the cells just past a window leaves the window alone. -/
theorem ringWindow_blit_past {store : ℤ → β} {size pos addr : ℤ} {m : ℕ} {xs : List β}
    (haddr : (pos + m) % size = addr) (hroom : (m : ℤ) + xs.length ≤ size)
    (hend : addr + xs.length ≤ size) :
    ringWindow (blit store addr xs) size pos m = ringWindow store size pos m := by
  refine List.map_congr_left fun i hi => ?_
  have hi : (i : ℤ) < m := by exact_mod_cast List.mem_range.mp hi
  have haddr0 : 0 ≤ addr := haddr ▸ Int.emod_nonneg _ (by omega)
  rcases lt_or_ge ((pos + i) % size) addr with hlt | hge
  · exact blit_of_lt hlt
  rcases lt_or_ge ((pos + i) % size) (addr + xs.length) with hin | hout
  · -- the cell would be `addr + j`, which stands `m + j - i < size` cells further on
    exfalso
    have hcell : (pos + m + ((pos + i) % size - addr)) % size = (pos + i) % size := by
      rw [← Int.emod_add_emod, haddr, add_sub_cancel,
        Int.emod_eq_of_lt (by omega) (by omega)]
    have hlt : pos + i < pos + m + ((pos + i) % size - addr) := by omega
    exact emod_ne_of_lt hlt (by omega) hcell.symm
  · exact blit_of_ge hout

/-- Writing `xs` to the cells just past a window appends `xs` to it. -/
theorem ringWindow_push {store : ℤ → β} {size pos addr : ℤ} {m : ℕ} {xs : List β}
    (haddr : (pos + m) % size = addr) (hroom : (m : ℤ) + xs.length ≤ size)
    (hend : addr + xs.length ≤ size) (h0 : 0 ≤ addr) :
    ringWindow (blit store addr xs) size pos (m + xs.length) =
      ringWindow store size pos m ++ xs := by
  rw [ringWindow_add, ringWindow_blit_past haddr hroom hend, ← ringWindow_emod _ _ (pos + m),
    haddr, ringWindow_eq_slice h0 hend, slice_blit_self]

/-- Reading the first `n` cells of a window leaves the window that starts after them. -/
theorem ringWindow_pop (store : ℤ → β) {size pos : ℤ} {m n : ℕ} (hn : n ≤ m)
    (h0 : 0 ≤ pos) (hend : pos + n ≤ size) :
    ringWindow store size pos m =
      slice store pos n ++ ringWindow store size ((pos + n) % size) (m - n) := by
  rw [ringWindow_emod, ← ringWindow_eq_slice h0 hend, ← ringWindow_add, Nat.add_sub_cancel' hn]

end RingWindow
