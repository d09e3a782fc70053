import Mathlib.Data.List.GetD
import Mathlib.Tactic.IntervalCases
import Mp3Decoder.Lib.ClumpCodes
import Mp3Decoder.Mad.HuffmanTables

/-!
# The codes of the tables

Read the other way, every table of `huffman.c` that is used has a code for each pair of values that
it is for, and both quad tables have one for all four bits.
-/

namespace Mp3Decoder

deriving instance DecidableEq for PairValue

deriving instance DecidableEq for QuadValue

/-- The index of a pair of values below `n` -/
def pairIndex (n : ℕ) (a : PairValue) : Option ℕ :=
  if a.x < n ∧ a.y < n then some (n * a.x + a.y) else none

/-- The index of four values of 0 or 1 -/
def quadIndex (a : QuadValue) : Option ℕ :=
  if a.v < 2 ∧ a.w < 2 ∧ a.x < 2 ∧ a.y < 2 then some (8 * a.v + 4 * a.w + 2 * a.x + a.y) else none

theorem pairIndex_inj {n : ℕ} (a b : PairValue) (i : ℕ) (ha : pairIndex n a = some i)
    (hb : pairIndex n b = some i) : a = b := by
  rw [pairIndex] at ha hb
  split_ifs at ha with hain
  split_ifs at hb with hbin
  have hsame : n * a.x + a.y = n * b.x + b.y := by
    rw [Option.some.inj ha, Option.some.inj hb]
  have hn : 0 < n := by omega
  have hx : a.x = b.x := by
    have hquotient := congrArg (· / n) hsame
    simp only [Nat.mul_add_div hn, Nat.div_eq_of_lt hain.2, Nat.div_eq_of_lt hbin.2,
      Nat.add_zero] at hquotient
    exact hquotient
  have hy : a.y = b.y := by
    rw [hx] at hsame
    omega
  cases a
  cases b
  simp only at hx hy
  rw [hx, hy]

theorem quadIndex_inj (a b : QuadValue) (i : ℕ) (ha : quadIndex a = some i)
    (hb : quadIndex b = some i) : a = b := by
  rw [quadIndex] at ha hb
  split_ifs at ha with hain
  split_ifs at hb with hbin
  have hsame : 8 * a.v + 4 * a.w + 2 * a.x + a.y = 8 * b.v + 4 * b.w + 2 * b.x + b.y := by
    rw [Option.some.inj ha, Option.some.inj hb]
  cases a
  cases b
  simp only at hsame hain hbin
  rw [QuadValue.mk.injEq]
  omega

/-- The values below this one have a code in table `select`; none in tables 4 and 14. -/
def pairRange (select : ℕ) : ℕ :=
  [1, 2, 3, 3, 0, 4, 4, 6, 6, 6, 8, 8, 8, 16, 0, 16].getD select 16

/-- A table with a code for all pairs of values below `n`. -/
structure Complete (t : ClumpTable PairValue 19) (n : ℕ) : Prop where
  replicated : t.Replicated
  covers : t.Covers (pairIndex n) (n * n)

instance (t : ClumpTable PairValue 19) (n : ℕ) : Decidable (Complete t n) :=
  decidable_of_iff (t.Replicated ∧ t.Covers (pairIndex n) (n * n))
    ⟨fun h => ⟨h.1, h.2⟩, fun h => ⟨h.replicated, h.covers⟩⟩

/-- The tables, each with the values that it is for -/
def pairTablesFor : List (ClumpTable PairValue 19 × ℕ) := [
  (pairTable0, 1), (pairTable1, 2), (pairTable2, 3), (pairTable3, 3), (pairTable5, 4),
  (pairTable6, 4), (pairTable7, 6), (pairTable8, 6), (pairTable9, 6), (pairTable10, 8),
  (pairTable11, 8), (pairTable12, 8), (pairTable13, 16), (pairTable15, 16), (pairTable16, 16),
  (pairTable24, 16)]

theorem pairTablesFor_complete : ∀ c ∈ pairTablesFor, Complete c.1 c.2 := by decide +kernel

/-- **Every table that is used is complete.** -/
theorem pairTableAt_complete {select : ℕ} {table : ClumpTable PairValue 19}
    (h : (pairTableAt select).table = some table) : Complete table (pairRange select) := by
  have hlt : select < 32 := by
    by_contra hge
    rw [pairTableAt, List.getD_eq_default _ _ (Nat.not_lt.mp hge)] at h
    cases h
  have hall : ∀ (i : ℕ) (c : ClumpTable PairValue 19 × ℕ), pairTablesFor[i]? = some c →
      some c.1 = some table → Complete table c.2 := by
    intro i c hc ht
    rw [← Option.some.inj ht]
    exact pairTablesFor_complete c (List.mem_of_getElem? hc)
  interval_cases select
  · exact hall 0 _ rfl h
  · exact hall 1 _ rfl h
  · exact hall 2 _ rfl h
  · exact hall 3 _ rfl h
  · cases h
  · exact hall 4 _ rfl h
  · exact hall 5 _ rfl h
  · exact hall 6 _ rfl h
  · exact hall 7 _ rfl h
  · exact hall 8 _ rfl h
  · exact hall 9 _ rfl h
  · exact hall 10 _ rfl h
  · exact hall 11 _ rfl h
  · exact hall 12 _ rfl h
  · cases h
  · exact hall 13 _ rfl h
  all_goals first | exact hall 14 _ rfl h | exact hall 15 _ rfl h

theorem quadTableAt_complete (select : ℕ) :
    (quadTableAt select).Replicated ∧ (quadTableAt select).Covers quadIndex 16 := by
  have hall : ∀ table ∈ madHuffQuadTable, table.Replicated ∧ table.Covers quadIndex 16 := by
    decide +kernel
  rw [quadTableAt, List.getD_eq_getElem?_getD]
  cases hget : madHuffQuadTable[select]? with
  | none => exact hall _ List.mem_cons_self
  | some table => exact hall table (List.mem_of_getElem? hget)

end Mp3Decoder
