import Mp3Decoder.Lib.BigEndianBits
import Mathlib.Data.Int.Notation
import Mathlib.Data.List.Basic

/-!
# Prefix codes laid out in clumps

A table of entries decodes a prefix code a few bits at a time: a clump of the next bits indexes a
block of the table, whose entry either holds the value and the number of bits of the clump that
belong to its code, or points to a further block.  Bits come from a cache whose lowest
`cachesz` bits are unread.

`chainsFit` bounds the blocks and the bits of every chain of lookups.  A `ClumpTable`
carries that fact, so that looking up is total.

`decode` is the code itself: it reads the bits from the store they come from, one after the other.
From a cache that holds the next bits of the store, `lookup` finds the same (`lookup_decode`).
-/

open BigEndianBits

namespace ClumpTable

inductive Entry (α : Type*)
  | ptr (offset bits : ℕ)
  | value (hlen : ℕ) (a : α)
  deriving Repr

/-- The `bits` bits of `cache` below its highest unread one, of which there are `sz`. -/
def mask (cache : ℕ) (sz : ℤ) (bits : ℕ) : ℕ := cache >>> (sz - bits).toNat % 2 ^ bits

theorem mask_lt (cache : ℕ) (sz : ℤ) (bits : ℕ) : mask cache sz bits < 2 ^ bits :=
  Nat.mod_lt _ (Nat.two_pow_pos bits)

variable {α : Type*}

/-- The value found from the block at `offset` on, and what is left of the cache; `none` outside
the table and after `depth` lookups. -/
def walk (entries : List (Entry α)) (cache : ℕ) : ℕ → ℤ → ℕ → ℕ → Option (α × ℤ)
  | 0, _, _, _ => none
  | depth + 1, sz, offset, bits =>
    match entries[offset + mask cache sz bits]? with
    | none => none
    | some (.value hlen a) => some (a, sz - hlen)
    | some (.ptr offset' bits') => walk entries cache depth (sz - bits) offset' bits'

/-- Every chain of at most `depth` lookups from the block at `offset` on stays in the table, and
its clumps have at most `budget` bits together. -/
def chainsFit (entries : List (Entry α)) : ℕ → ℕ → ℕ → ℕ → Bool
  | 0, _, _, _ => false
  | depth + 1, budget, offset, bits =>
    decide (bits ≤ budget) && decide (offset + 2 ^ bits ≤ entries.length) &&
      ((entries.drop offset).take (2 ^ bits)).all fun
        | .value hlen _ => decide (hlen ≤ bits)
        | .ptr offset' bits' => chainsFit entries depth (budget - bits) offset' bits'

/-- A table that fits always finds a value, within its budget. -/
theorem walk_of_chainsFit {entries : List (Entry α)} {depth budget offset bits : ℕ}
    (h : chainsFit entries depth budget offset bits = true) (cache : ℕ) (sz : ℤ) :
    ∃ a sz', walk entries cache depth sz offset bits = some (a, sz') ∧
      sz - budget ≤ sz' ∧ sz' ≤ sz := by
  induction depth generalizing budget offset bits sz with
  | zero => cases h
  | succ depth ih =>
    simp only [chainsFit, Bool.and_eq_true, decide_eq_true_eq, List.all_eq_true] at h
    obtain ⟨⟨hbits, hlen⟩, hblock⟩ := h
    have hmask := mask_lt cache sz bits
    have hget : entries[offset + mask cache sz bits]? = some entries[offset + mask cache sz bits] :=
      List.getElem?_eq_getElem (by omega)
    have hentry := hblock entries[offset + mask cache sz bits] (by
      rw [List.mem_take_iff_getElem]
      refine ⟨mask cache sz bits, ?_, List.getElem_drop⟩
      rw [List.length_drop]
      omega)
    rw [walk, hget]
    cases hcase : entries[offset + mask cache sz bits] with
    | value hlen a =>
      rw [hcase] at hentry
      simp only [decide_eq_true_eq] at hentry
      refine ⟨a, sz - hlen, rfl, ?_, ?_⟩
      · omega
      · omega
    | ptr offset' bits' =>
      rw [hcase] at hentry
      obtain ⟨a, sz', hwalk, hlow, hhigh⟩ := ih hentry (sz - bits)
      refine ⟨a, sz', hwalk, ?_, ?_⟩
      · omega
      · omega

/-! ### Reading from the store -/

/-- The value whose code stands at bit `pos`, and the number of its bits. -/
def read (entries : List (Entry α)) (store : ℕ → UInt8) : ℕ → ℕ → ℕ → ℕ → Option (α × ℕ)
  | 0, _, _, _ => none
  | depth + 1, pos, offset, bits =>
    match entries[offset + bitsVal store pos bits]? with
    | none => none
    | some (.value hlen a) => some (a, hlen)
    | some (.ptr offset' bits') =>
      (read entries store depth (pos + bits) offset' bits').map fun r => (r.1, bits + r.2)

/-- A walk through the cache reads the store. -/
theorem walk_eq_read {entries : List (Entry α)} {depth budget offset bits : ℕ}
    (h : chainsFit entries depth budget offset bits = true) {store : ℕ → UInt8}
    {cache sz pos : ℕ} (hcache : Holds store cache sz pos) (hsz : budget ≤ sz) :
    walk entries cache depth sz offset bits =
      (read entries store depth pos offset bits).map fun r => (r.1, (sz : ℤ) - r.2) := by
  induction depth generalizing budget offset bits sz pos with
  | zero => cases h
  | succ depth ih =>
    simp only [chainsFit, Bool.and_eq_true, decide_eq_true_eq, List.all_eq_true] at h
    obtain ⟨⟨hbits, hlen⟩, hblock⟩ := h
    have hmask : mask cache sz bits = bitsVal store pos bits := by
      have hnat : ((sz : ℤ) - bits).toNat = sz - bits := by omega
      rw [mask, hnat]
      exact hcache.top (by omega)
    have hlt := bitsVal_lt store pos bits
    rw [walk, read, hmask]
    have hget : entries[offset + bitsVal store pos bits]? =
        some entries[offset + bitsVal store pos bits] := List.getElem?_eq_getElem (by omega)
    have hentry := hblock entries[offset + bitsVal store pos bits] (by
      rw [List.mem_take_iff_getElem]
      refine ⟨bitsVal store pos bits, ?_, List.getElem_drop⟩
      rw [List.length_drop]
      omega)
    rw [hget]
    cases hcase : entries[offset + bitsVal store pos bits] with
    | value hlen a => rfl
    | ptr offset' bits' =>
      rw [hcase] at hentry
      have hrest : ((sz : ℤ) - bits) = ((sz - bits : ℕ) : ℤ) := by omega
      simp only
      rw [hrest, ih hentry (hcache.drop (by omega)) (by omega), Option.map_map]
      congr 1
      funext r
      simp only [Function.comp_apply]
      congr 1
      omega

end ClumpTable

/-- A table all of whose chains fit: `depth` lookups and `budget` bits at most. -/
structure ClumpTable (α : Type*) (budget : ℕ) where
  entries : List (ClumpTable.Entry α)
  startbits : ℕ
  depth : ℕ
  fits : ClumpTable.chainsFit entries depth budget 0 startbits = true

namespace ClumpTable

variable {α : Type*} {budget : ℕ}

theorem walk_isSome (t : ClumpTable α budget) (cache : ℕ) (sz : ℤ) :
    (walk t.entries cache t.depth sz 0 t.startbits).isSome = true := by
  obtain ⟨a, sz', hwalk, -⟩ := walk_of_chainsFit t.fits cache sz
  rw [hwalk]
  rfl

/-- The next value, and what is left of the cache. -/
def lookup (t : ClumpTable α budget) (cache : ℕ) (sz : ℤ) : α × ℤ :=
  (walk t.entries cache t.depth sz 0 t.startbits).get (t.walk_isSome cache sz)

/-- A lookup finds an entry of the table. -/
theorem lookup_mem (t : ClumpTable α budget) (cache : ℕ) (sz : ℤ) :
    ∃ hlen, Entry.value hlen (t.lookup cache sz).1 ∈ t.entries := by
  have hwalk : ∀ {depth : ℕ} {sz : ℤ} {offset bits : ℕ} {r : α × ℤ},
      walk t.entries cache depth sz offset bits = some r →
        ∃ hlen, Entry.value hlen r.1 ∈ t.entries := by
    intro depth
    induction depth with
    | zero =>
      intro sz offset bits r h
      cases h
    | succ depth ih =>
      intro sz offset bits r h
      rw [walk] at h
      cases hget : t.entries[offset + mask cache sz bits]? with
      | none =>
        rw [hget] at h
        cases h
      | some entry =>
        rw [hget] at h
        cases entry with
        | value hlen a =>
          cases h
          exact ⟨hlen, List.mem_of_getElem? hget⟩
        | ptr offset' bits' => exact ih h
  exact hwalk (Option.some_get (t.walk_isSome cache sz)).symm

/-- A lookup takes at most `budget` bits. -/
theorem lookup_bits (t : ClumpTable α budget) (cache : ℕ) (sz : ℤ) :
    sz - budget ≤ (t.lookup cache sz).2 ∧ (t.lookup cache sz).2 ≤ sz := by
  obtain ⟨a, sz', hwalk, hlow, hhigh⟩ := walk_of_chainsFit t.fits cache sz
  simp only [lookup, hwalk, Option.get_some]
  exact ⟨hlow, hhigh⟩

theorem read_isSome (t : ClumpTable α budget) (store : ℕ → UInt8) (pos : ℕ) :
    (read t.entries store t.depth pos 0 t.startbits).isSome = true := by
  have hholds : Holds store (bitsVal store pos budget) budget pos :=
    Nat.mod_eq_of_lt (bitsVal_lt store pos budget)
  have hsome := t.walk_isSome (bitsVal store pos budget) budget
  rwa [walk_eq_read t.fits hholds (Nat.le_refl budget), Option.isSome_map] at hsome

/-- The value whose code stands at bit `pos`, and the number of its bits. -/
def decode (t : ClumpTable α budget) (store : ℕ → UInt8) (pos : ℕ) : α × ℕ :=
  (read t.entries store t.depth pos 0 t.startbits).get (t.read_isSome store pos)

/-- **Looking up through the cache is reading from the store.** -/
theorem lookup_decode (t : ClumpTable α budget) {store : ℕ → UInt8} {cache sz pos : ℕ}
    (hcache : Holds store cache sz pos) (hsz : budget ≤ sz) :
    t.lookup cache sz = ((t.decode store pos).1, (sz : ℤ) - (t.decode store pos).2) := by
  have hwalk := walk_eq_read t.fits hcache hsz
  obtain ⟨r, hr⟩ := Option.isSome_iff_exists.mp (t.read_isSome store pos)
  rw [hr, Option.map_some] at hwalk
  simp only [lookup, decode, hwalk, hr, Option.get_some]

theorem decode_le (t : ClumpTable α budget) (store : ℕ → UInt8) (pos : ℕ) :
    (t.decode store pos).2 ≤ budget := by
  have hholds : Holds store (bitsVal store pos budget) budget pos :=
    Nat.mod_eq_of_lt (bitsVal_lt store pos budget)
  have hbits := (t.lookup_bits (bitsVal store pos budget) budget).1
  rw [t.lookup_decode hholds (Nat.le_refl budget)] at hbits
  simp only at hbits
  omega

end ClumpTable
