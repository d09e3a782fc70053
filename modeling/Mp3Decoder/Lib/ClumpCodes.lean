import Mathlib.Algebra.Order.Group.Nat
import Mp3Decoder.Lib.BitWriter
import Mp3Decoder.Lib.ClumpTable

/-!
# The code words of a clump table

A table of clumps is made for decoding.  Read the other way it gives the code word of each value:
`codes` are all of them, and `codeOf` is that of one value.  Where a code is shorter than its clump,
its entry has to stand at every index that begins with it (`replicated`); then what stands in the
store as the code of a value is decoded to this value (`decode_codeOf`).
-/

open BigEndianBits

namespace ClumpTable

variable {α : Type*}

/-- The block of the next `bits` bits -/
def block (entries : List (Entry α)) (offset bits : ℕ) : List (Entry α) :=
  (entries.drop offset).take (2 ^ bits)

/-- The code words of the block at `offset`, with their values -/
def codes (entries : List (Entry α)) : ℕ → ℕ → ℕ → List (List Bool × α)
  | 0, _, _ => []
  | depth + 1, offset, bits => (block entries offset bits).zipIdx.flatMap fun e =>
    match e.1 with
    | .value hlen a => [(field hlen (e.2 >>> (bits - hlen)), a)]
    | .ptr offset' bits' =>
      (codes entries depth offset' bits').map fun c => (field bits e.2 ++ c.1, c.2)

/-- Every index that begins with the code of an entry has this entry. -/
def replicated [DecidableEq α] (entries : List (Entry α)) : ℕ → ℕ → ℕ → Bool
  | 0, _, _ => true
  | depth + 1, offset, bits => (block entries offset bits).zipIdx.all fun e =>
    match e.1 with
    | .value hlen a => (block entries offset bits).zipIdx.all fun e' =>
      if e'.2 >>> (bits - hlen) = e.2 >>> (bits - hlen) then
        match e'.1 with
        | .value hlen' a' => decide (hlen' = hlen ∧ a' = a)
        | .ptr _ _ => false
      else true
    | .ptr offset' bits' => replicated entries depth offset' bits'

theorem block_getElem? {entries : List (Entry α)} {offset bits i : ℕ} {entry : Entry α} :
    (block entries offset bits)[i]? = some entry ↔ i < 2 ^ bits ∧ entries[offset + i]? = some entry := by
  rw [block, List.getElem?_take, List.getElem?_drop]
  split_ifs with hi
  · exact (and_iff_right hi).symm
  · refine iff_of_false (by simp) fun h => hi h.1

/-- The first `hlen` of `bits` bits -/
theorem bitsVal_shift (store : ℕ → UInt8) (pos : ℕ) {hlen bits : ℕ} (h : hlen ≤ bits) :
    bitsVal store pos bits >>> (bits - hlen) = bitsVal store pos hlen := by
  have hsplit := bitsVal_add store pos hlen (bits - hlen)
  rw [Nat.add_sub_cancel' h] at hsplit
  rw [hsplit, Nat.shiftRight_eq_div_pow, Nat.mul_comm, Nat.mul_add_div (Nat.two_pow_pos _),
    Nat.div_eq_of_lt (bitsVal_lt store _ _), Nat.add_zero]

/-- **A code that stands in the store is read as its value.** -/
theorem read_code [DecidableEq α] {entries : List (Entry α)} {depth budget offset bits : ℕ}
    (hfit : chainsFit entries depth budget offset bits = true)
    (hsame : replicated entries depth offset bits = true) {code : List Bool} {a : α}
    (hcode : (code, a) ∈ codes entries depth offset bits) {store : ℕ → UInt8} {pos : ℕ}
    (hstore : Spells store pos code) :
    read entries store depth pos offset bits = some (a, code.length) := by
  induction depth generalizing budget offset bits code pos with
  | zero => exact absurd hcode List.not_mem_nil
  | succ depth ih =>
    simp only [chainsFit, Bool.and_eq_true, decide_eq_true_eq, List.all_eq_true] at hfit
    obtain ⟨⟨-, hlength⟩, hblock⟩ := hfit
    rw [codes, List.mem_flatMap] at hcode
    obtain ⟨⟨entry, i⟩, hentry, hcode⟩ := hcode
    have hget : (block entries offset bits)[i]? = some entry := by
      rw [List.mem_zipIdx_iff_getElem?] at hentry
      exact hentry
    obtain ⟨hi, hat⟩ := block_getElem?.mp hget
    have hfits := hblock entry (List.mem_of_getElem? hget)
    rw [replicated, List.all_eq_true] at hsame
    have hreplica := hsame (entry, i) hentry
    cases entry with
    | value hlen b =>
      simp only [List.mem_singleton, Prod.mk.injEq] at hcode
      obtain ⟨rfl, rfl⟩ := hcode
      have hlen_le : hlen ≤ bits := of_decide_eq_true hfits
      have hprefix : i >>> (bits - hlen) < 2 ^ hlen := by
        rw [Nat.shiftRight_eq_div_pow, Nat.div_lt_iff_lt_mul (Nat.two_pow_pos _), ← Nat.pow_add,
          Nat.add_sub_cancel' hlen_le]
        exact hi
      have hvalue := hstore.field_of_lt hprefix
      rw [← bitsVal_shift store pos hlen_le] at hvalue
      -- the entry that is found is a replica
      have hlt := bitsVal_lt store pos bits
      obtain ⟨found, hfound⟩ : ∃ found, entries[offset + bitsVal store pos bits]? = some found :=
        ⟨_, List.getElem?_eq_getElem (by omega)⟩
      have hmem : (found, bitsVal store pos bits) ∈ (block entries offset bits).zipIdx := by
        rw [List.mem_zipIdx_iff_getElem?]
        exact block_getElem?.mpr ⟨hlt, hfound⟩
      simp only [List.all_eq_true] at hreplica
      have hthere := hreplica _ hmem
      rw [if_pos hvalue] at hthere
      rw [read, hfound]
      cases found with
      | value hlen' b' =>
        obtain ⟨rfl, rfl⟩ := of_decide_eq_true hthere
        simp only [field_length]
      | ptr _ _ => cases hthere
    | ptr offset' bits' =>
      obtain ⟨⟨rest, b⟩, hrest, hcode⟩ := List.mem_map.mp hcode
      simp only [Prod.mk.injEq] at hcode
      obtain ⟨rfl, rfl⟩ := hcode
      obtain ⟨hclump, hbehind⟩ := spells_append.mp hstore
      rw [field_length] at hbehind
      rw [read, hclump.field_of_lt hi, hat]
      simp only
      rw [ih hfits hreplica hrest hbehind, Option.map_some, List.length_append, field_length]

/-- The code word of a value -/
def codeOf [DecidableEq α] {budget : ℕ} (t : ClumpTable α budget) (a : α) : Option (List Bool) :=
  ((codes t.entries t.depth 0 t.startbits).find? fun c => c.2 = a).map Prod.fst

theorem codeOf_mem [DecidableEq α] {budget : ℕ} {t : ClumpTable α budget} {a : α}
    {code : List Bool} (h : t.codeOf a = some code) :
    (code, a) ∈ codes t.entries t.depth 0 t.startbits := by
  rw [codeOf, Option.map_eq_some_iff] at h
  obtain ⟨c, hfind, rfl⟩ := h
  have hvalue := List.find?_some hfind
  rw [decide_eq_true_eq] at hvalue
  rw [← hvalue]
  exact List.mem_of_find?_eq_some hfind

/-- A table in which short codes fill their clumps. -/
def Replicated [DecidableEq α] {budget : ℕ} (t : ClumpTable α budget) : Prop :=
  replicated t.entries t.depth 0 t.startbits = true

instance [DecidableEq α] {budget : ℕ} (t : ClumpTable α budget) : Decidable t.Replicated :=
  inferInstanceAs (Decidable (_ = _))

/-- **Decoding undoes encoding.** -/
theorem decode_codeOf [DecidableEq α] {budget : ℕ} {t : ClumpTable α budget} (ht : t.Replicated)
    {a : α} {code : List Bool} (hcode : t.codeOf a = some code) {store : ℕ → UInt8} {pos : ℕ}
    (hstore : Spells store pos code) : t.decode store pos = (a, code.length) := by
  have hread := read_code t.fits ht (codeOf_mem hcode) hstore
  simp only [decode, hread, Option.get_some]

/-! ### All values at once -/

/-- The numbers of a list, as the bits of one -/
def maskOf (indices : List ℕ) : ℕ := indices.foldl (fun m i => m ||| 1 <<< i) 0

theorem maskOf_testBit (indices : List ℕ) (j : ℕ) : (maskOf indices).testBit j = decide (j ∈ indices) := by
  have hfold : ∀ m, (indices.foldl (fun m i => m ||| 1 <<< i) m).testBit j =
      (m.testBit j || decide (j ∈ indices)) := by
    induction indices with
    | nil =>
      intro m
      rw [List.foldl_nil, decide_eq_false List.not_mem_nil, Bool.or_false]
    | cons i indices ih =>
      intro m
      rw [List.foldl_cons, ih, Nat.testBit_or, Nat.one_shiftLeft, Nat.testBit_two_pow,
        Bool.or_assoc]
      congr 1
      rw [Bool.eq_iff_iff]
      simp only [Bool.or_eq_true, decide_eq_true_eq, List.mem_cons, eq_comm (a := i)]
  rw [maskOf, hfold, Nat.zero_testBit, Bool.false_or]

/-- The table has a code for every value whose index is below `count`. -/
def Covers {budget : ℕ} (t : ClumpTable α budget) (index : α → Option ℕ) (count : ℕ) : Prop :=
  maskOf ((codes t.entries t.depth 0 t.startbits).filterMap fun c => index c.2) = 2 ^ count - 1

instance {budget : ℕ} (t : ClumpTable α budget) (index : α → Option ℕ) (count : ℕ) :
    Decidable (Covers t index count) := inferInstanceAs (Decidable (_ = _))

theorem Covers.codeOf_isSome [DecidableEq α] {budget : ℕ} {t : ClumpTable α budget}
    {index : α → Option ℕ} {count : ℕ} (h : t.Covers index count)
    (hindex : ∀ a b i, index a = some i → index b = some i → a = b) {a : α} {i : ℕ}
    (ha : index a = some i) (hi : i < count) : (t.codeOf a).isSome = true := by
  have hbit := maskOf_testBit
    ((codes t.entries t.depth 0 t.startbits).filterMap fun c => index c.2) i
  rw [h, Nat.testBit_two_pow_sub_one, decide_eq_true hi, eq_comm, decide_eq_true_eq,
    List.mem_filterMap] at hbit
  obtain ⟨c, hc, hci⟩ := hbit
  rw [codeOf, Option.isSome_map, List.find?_isSome]
  exact ⟨c, hc, decide_eq_true (hindex _ _ _ hci ha)⟩

end ClumpTable
