import Mp3Decoder.Mad.HuffTrace
import Mp3Decoder.Mad.HuffReference
import Mathlib.Tactic.Linarith

/-!
# The bit cache of `III_huffdecode`

The cache is filled at five places, each with as many bits as fit, and holds enough of them for the
longest code word that is taken before the next one.  `Ahead` is what every statement keeps: the
decoder stands at some bit of the stream, and the cache holds the bits that follow.
`iiiHuffdecode_cursor` says how far the stream is read: at most `MAD_BUFFER_GUARD` bytes past the
end of the part.
-/

namespace Mp3Decoder

open BigEndianBits

theorem readSign_end (mem : Mem) (pos value : ℕ) :
    (readSign mem pos value).2 = if value = 0 then pos else pos + 1 := by
  rw [readSign]
  split_ifs <;> rfl

theorem readSign_le (mem : Mem) (pos value : ℕ) : (readSign mem pos value).2 ≤ pos + 1 := by
  rw [readSign_end]
  split_ifs
  · exact Nat.le_succ pos
  · exact Nat.le_refl _

namespace HuffState

variable {mem : Mem} {lo hi last : ℕ} {s t : HuffState} {pos : ℕ}

/-- The decoder stands at bit `pos` of a part that ends at `last`; the cache holds what follows. -/
structure Ahead (mem : Mem) (lo hi last : ℕ) (s : HuffState) (pos : ℕ) : Prop where
  peek_at : Cursor mem lo hi s.peek (pos + s.cachesz.toNat)
  bitsLeft_eq : s.bitsLeft = last - (pos + s.cachesz)
  cachesz_nonneg : 0 ≤ s.cachesz
  cachesz_le : s.cachesz ≤ 31
  holds : Holds mem s.bitcache s.cachesz.toNat pos

theorem Ahead.of_eq (h : Ahead mem lo hi last s pos) (hpeek : t.peek = s.peek)
    (hbitcache : t.bitcache = s.bitcache) (hcachesz : t.cachesz = s.cachesz)
    (hleft : t.bitsLeft = s.bitsLeft) : Ahead mem lo hi last t pos := by
  obtain ⟨hat, hbits, hnonneg, hle, hholds⟩ := h
  exact ⟨by rwa [hpeek, hcachesz], by rw [hleft, hbits, hcachesz], hcachesz ▸ hnonneg,
    hcachesz ▸ hle, by rwa [hbitcache, hcachesz]⟩

/-- Taking `k` bits from the cache. -/
theorem Ahead.take (h : Ahead mem lo hi last s pos) {k : ℕ} (hk : (k : ℤ) ≤ s.cachesz)
    (hpeek : t.peek = s.peek) (hbitcache : t.bitcache = s.bitcache)
    (hcachesz : t.cachesz = s.cachesz - k) (hleft : t.bitsLeft = s.bitsLeft) :
    Ahead mem lo hi last t (pos + k) := by
  have hnonneg := h.cachesz_nonneg
  have hle := h.cachesz_le
  have hbits := h.bitsLeft_eq
  have hpos : pos + k + t.cachesz.toNat = pos + s.cachesz.toNat := by omega
  have hnat : t.cachesz.toNat = s.cachesz.toNat - k := by omega
  refine ⟨?_, by rw [hleft, hbits, hcachesz]; push_cast; ring, by omega, by omega, ?_⟩
  · rw [hpos, hpeek]
    exact h.peek_at
  · rw [hbitcache, hnat]
    exact h.holds.drop (by omega)

theorem Ahead.refill (h : Ahead mem lo hi last s pos) {bits : ℕ} (hbits : s.cachesz + bits ≤ 31)
    (hhi : pos + s.cachesz + bits ≤ hi) : Ahead mem lo hi last (s.refill mem bits) pos := by
  have hnonneg := h.cachesz_nonneg
  have hleft := h.bitsLeft_eq
  have hsz : (s.refill mem bits).cachesz.toNat = s.cachesz.toNat + bits := by
    show (s.cachesz + bits).toNat = s.cachesz.toNat + bits
    omega
  refine ⟨?_, ?_, ?_, hbits, ?_⟩
  · rw [hsz, ← Nat.add_assoc]
    exact h.peek_at.read (by omega)
  · show s.bitsLeft - bits = last - (pos + (s.cachesz + bits))
    omega
  · show 0 ≤ s.cachesz + bits
    omega
  · rw [hsz]
    have hvalue : (s.peek.read mem bits).1 = bitsVal mem (pos + s.cachesz.toNat) bits :=
      h.peek_at.at_pos.read_value bits
    show Holds mem ((s.bitcache <<< bits ||| (s.peek.read mem bits).1) % 2 ^ 32) _ pos
    rw [hvalue]
    exact h.holds.append (by omega)

/-- A point of the program at which the cache is in step with the stream. -/
def InStep (mem : Mem) (lo hi last : ℕ) (p : HuffPoint) : Prop :=
  ∃ pos, Ahead mem lo hi last p.state pos

/-! ### The values of a pair -/

variable (requantize : ℕ → ℤ → ℤ)

theorem Ahead.signed (h : Ahead mem lo hi last s pos) (hone : 1 ≤ s.cachesz) (requantized : ℤ)
    (i : ℕ) : Ahead mem lo hi last (s.signed requantized i) (pos + 1) :=
  h.take hone rfl rfl rfl rfl

/-- A value takes no more than its sign bit. -/
theorem Ahead.plainValue (h : Ahead mem lo hi last s pos) (hone : 1 ≤ s.cachesz) (value i : ℕ) :
    Ahead mem lo hi last (s.plainValue requantize value i) (readSign mem pos value).2 ∧
      s.cachesz - 1 ≤ (s.plainValue requantize value i).cachesz := by
  rw [HuffState.plainValue, readSign_end]
  by_cases hzero : value = 0
  · rw [if_pos hzero, if_pos hzero]
    exact ⟨h.of_eq rfl rfl rfl rfl, Int.sub_le_self _ Int.one_nonneg⟩
  · rw [if_neg hzero, if_neg hzero]
    split_ifs with hhit
    · exact ⟨h.signed hone _ i, Int.le_refl _⟩
    · exact ⟨h.take hone rfl rfl rfl rfl, Int.le_refl _⟩

/-- The cache before the linbits are taken. -/
def linbitsFull (mem : Mem) (s : HuffState) (room : ℕ) : HuffState :=
  if s.cachesz % 2 ^ 32 < (s.linbits + room : ℕ) then s.refill mem 16 else s

@[simp] theorem linbitsFull_linbits (s : HuffState) (room : ℕ) :
    (s.linbitsFull mem room).linbits = s.linbits := by
  rw [linbitsFull]
  split_ifs <;> rfl

theorem Ahead.linbitsFull (h : Ahead mem lo hi last s pos) (hlinbits : s.linbits ≤ 13)
    {room : ℕ} (hroom : room ≤ 2) (hhi : pos + 30 ≤ hi) :
    Ahead mem lo hi last (s.linbitsFull mem room) pos ∧
      (s.linbits + room : ℕ) ≤ (s.linbitsFull mem room).cachesz := by
  have hnonneg := h.cachesz_nonneg
  have hle := h.cachesz_le
  rw [HuffState.linbitsFull]
  split_ifs with hfew
  · refine ⟨h.refill (by omega) (by omega), ?_⟩
    show ((s.linbits + room : ℕ) : ℤ) ≤ s.cachesz + 16
    omega
  · exact ⟨h, by omega⟩

theorem Ahead.linbitsTaken (h : Ahead mem lo hi last s pos) (hlinbits : s.linbits ≤ 13)
    {room : ℕ} (hroom : room ≤ 2) (hhi : pos + 30 ≤ hi) :
    Ahead mem lo hi last { s.linbitsFull mem room with
      cachesz := (s.linbitsFull mem room).cachesz - (s.linbitsFull mem room).linbits }
      (pos + s.linbits) := by
  obtain ⟨hfull, henough⟩ := h.linbitsFull hlinbits hroom hhi
  rw [linbitsFull_linbits]
  exact hfull.take (by omega) rfl rfl rfl rfl

/-- A value with linbits takes these and its sign bit. -/
theorem Ahead.linbitsValue (h : Ahead mem lo hi last s pos) (hlinbits : s.linbits ≤ 13)
    {room : ℕ} (hroom : room ≤ 2) (hpos : 1 ≤ room) (hhi : pos + 30 ≤ hi) (i : ℕ) :
    Ahead mem lo hi last (s.linbitsValue requantize mem i room) (pos + s.linbits + 1) ∧
      (room : ℤ) - 1 ≤ (s.linbitsValue requantize mem i room).cachesz := by
  obtain ⟨-, henough⟩ := h.linbitsFull hlinbits hroom hhi
  have htaken := h.linbitsTaken hlinbits hroom hhi
  have hleft : 1 ≤ (s.linbitsFull mem room).cachesz - (s.linbitsFull mem room).linbits := by
    rw [linbitsFull_linbits]
    omega
  refine ⟨htaken.signed hleft _ i, ?_⟩
  show (room : ℤ) - 1 ≤ (s.linbitsFull mem room).cachesz - (s.linbitsFull mem room).linbits - 1
  rw [linbitsFull_linbits]
  omega

theorem Ahead.pairValue (h : Ahead mem lo hi last s pos) (hlinbits : s.linbits ≤ 13)
    {room : ℕ} (hroom : room ≤ 2) (hpos : 1 ≤ room) (henough : room ≤ s.cachesz)
    (hhi : pos + 30 ≤ hi) (value i : ℕ) :
    Ahead mem lo hi last (s.pairValue requantize mem value i room)
        (readValue mem s.linbits pos value).2 ∧
      (room : ℤ) - 1 ≤ (s.pairValue requantize mem value i room).cachesz := by
  rw [HuffState.pairValue, readValue]
  by_cases hlin : s.linbits ≠ 0 ∧ value = 15
  · rw [if_pos hlin, if_pos hlin, readSign, if_neg (by omega)]
    exact h.linbitsValue requantize hlinbits hroom hpos hhi i
  · rw [if_neg hlin, if_neg hlin]
    obtain ⟨hat, hleft⟩ := h.plainValue requantize (by omega) value i
    exact ⟨hat, by omega⟩

theorem readValue_le (mem : Mem) {linbits : ℕ} (hlinbits : linbits ≤ 13) (pos value : ℕ) :
    (readValue mem linbits pos value).2 ≤ pos + 14 := by
  rw [readValue]
  split_ifs
  · have hsign := readSign_le mem (pos + linbits) (15 + bitsVal mem pos linbits)
    omega
  · have hsign := readSign_le mem pos value
    omega

theorem Ahead.pairValuePoints (h : Ahead mem lo hi last s pos) (hlinbits : s.linbits ≤ 13)
    {room : ℕ} (hroom : room ≤ 2) (hpos : 1 ≤ room) (henough : room ≤ s.cachesz)
    (hhi : pos + 30 ≤ hi) (value i : ℕ) :
    ∀ p ∈ s.pairValuePoints requantize mem value i room, InStep mem lo hi last p := by
  intro p hp
  have hvalue := h.pairValue requantize hlinbits hroom hpos henough hhi value i
  rw [HuffState.pairValuePoints] at hp
  rw [HuffState.pairValue] at hvalue
  split_ifs at hp hvalue with hlin
  · rw [HuffState.linbitsPoints] at hp
    simp only [List.mem_cons, List.not_mem_nil, or_false] at hp
    rcases hp with rfl | rfl | rfl
    · exact ⟨_, (h.linbitsFull hlinbits hroom hhi).1⟩
    · exact ⟨_, h.linbitsTaken hlinbits hroom hhi⟩
    · exact ⟨_, hvalue.1⟩
  · rw [List.mem_singleton] at hp
    rw [hp]
    exact ⟨_, hvalue.1⟩

/-! ### Lookups -/

theorem clumpSizes_bounds {α : Type} {entries : List (ClumpTable.Entry α)}
    {depth budget offset bits : ℕ}
    (hfit : ClumpTable.chainsFit entries depth budget offset bits = true) (cache : ℕ) (sz : ℤ) :
    ∀ sz' ∈ clumpSizes entries cache depth sz offset bits, sz - budget ≤ sz' ∧ sz' ≤ sz := by
  intro sz' hmem
  induction depth generalizing budget offset bits sz with
  | zero => cases hmem
  | succ depth ih =>
    simp only [ClumpTable.chainsFit, Bool.and_eq_true, decide_eq_true_eq, List.all_eq_true] at hfit
    obtain ⟨⟨hbits, hlen⟩, hblock⟩ := hfit
    have hmask := ClumpTable.mask_lt cache sz bits
    have hentry := hblock entries[offset + ClumpTable.mask cache sz bits] (by
      rw [List.mem_take_iff_getElem]
      refine ⟨ClumpTable.mask cache sz bits, ?_, List.getElem_drop⟩
      rw [List.length_drop]
      omega)
    rw [clumpSizes, List.getElem?_eq_getElem (by omega)] at hmem
    cases hcase : entries[offset + ClumpTable.mask cache sz bits] with
    | value hlen a =>
      rw [hcase] at hmem
      cases hmem
    | ptr offset' bits' =>
      rw [hcase] at hmem hentry
      rcases List.mem_cons.mp hmem with rfl | hrest
      · omega
      · have hbounds := ih hentry (sz - bits) hrest
        omega

/-- A lookup takes the bits of one code. -/
theorem Ahead.lookup {α : Type} {budget : ℕ} (h : Ahead mem lo hi last s pos)
    (table : ClumpTable α budget) (hbudget : budget ≤ s.cachesz) :
    (table.lookup s.bitcache s.cachesz).1 = (table.decode mem pos).1 ∧
      s.cachesz - budget ≤ (table.lookup s.bitcache s.cachesz).2 ∧
      Ahead mem lo hi last { s with cachesz := (table.lookup s.bitcache s.cachesz).2 }
        (pos + (table.decode mem pos).2) := by
  have hnonneg := h.cachesz_nonneg
  have hle := table.decode_le mem pos
  have hnat : s.cachesz = (s.cachesz.toNat : ℤ) := by omega
  have hlookup : table.lookup s.bitcache s.cachesz =
      ((table.decode mem pos).1, s.cachesz - (table.decode mem pos).2) := by
    rw [hnat]
    exact table.lookup_decode h.holds (by omega)
  rw [hlookup]
  refine ⟨rfl, ?_, h.take (by omega) rfl rfl rfl rfl⟩
  show s.cachesz - budget ≤ s.cachesz - (table.decode mem pos).2
  omega

theorem Ahead.lookupPoints {α : Type} {budget : ℕ} (h : Ahead mem lo hi last s pos)
    (table : ClumpTable α budget) (hbudget : budget ≤ s.cachesz) :
    ∀ p ∈ s.lookupPoints table, InStep mem lo hi last p := by
  intro p hp
  obtain ⟨sz, hsz, rfl⟩ := List.mem_map.mp hp
  have hbounds : s.cachesz - budget ≤ sz ∧ sz ≤ s.cachesz := by
    rcases List.mem_append.mp hsz with hclump | hlast
    · exact clumpSizes_bounds table.fits s.bitcache s.cachesz sz hclump
    · rw [List.mem_singleton.mp hlast]
      exact table.lookup_bits s.bitcache s.cachesz
  have hnonneg := h.cachesz_nonneg
  refine ⟨pos + (s.cachesz - sz).toNat, h.take (by omega) rfl rfl ?_ rfl⟩
  show sz = s.cachesz - (s.cachesz - sz).toNat
  omega

/-! ### The big values -/

@[simp] theorem pairValue_linbits (mem : Mem) (s : HuffState) (value i room : ℕ) :
    (s.pairValue requantize mem value i room).linbits = s.linbits := by
  rw [HuffState.pairValue, HuffState.linbitsValue, HuffState.plainValue]
  split_ifs <;> rfl

/-- The cache before a code word of the big values. -/
def pairFull (mem : Mem) (s : HuffState) : HuffState :=
  if s.cachesz < 21 then s.refill mem (((32 - 1 - 21) + (21 - s.cachesz)).toNat / 8 * 8) else s

@[simp] theorem pairFull_table (mem : Mem) (s : HuffState) : (s.pairFull mem).table = s.table := by
  rw [pairFull]
  split_ifs <;> rfl

@[simp] theorem pairFull_linbits (mem : Mem) (s : HuffState) :
    (s.pairFull mem).linbits = s.linbits := by
  rw [pairFull]
  split_ifs <;> rfl

@[simp] theorem pair_linbits (mem : Mem) (s : HuffState) :
    (s.pair requantize mem).linbits = s.linbits := by
  simp only [HuffState.pair, pairValue_linbits]
  split_ifs <;> rfl

theorem Ahead.pairFull (h : Ahead mem lo hi last s pos) (hhi : pos + 31 ≤ hi) :
    Ahead mem lo hi last (s.pairFull mem) pos ∧ 21 ≤ (s.pairFull mem).cachesz := by
  have hnonneg := h.cachesz_nonneg
  rw [HuffState.pairFull]
  split_ifs with hfew
  · refine ⟨h.refill (by omega) (by omega), ?_⟩
    show 21 ≤ s.cachesz + ((((32 - 1 - 21) + (21 - s.cachesz)).toNat / 8 * 8 : ℕ) : ℤ)
    omega
  · exact ⟨h, by omega⟩

/-- The code word of a pair, and the program behind its lookup. -/
def pairCode (mem : Mem) (s : HuffState) : PairValue × HuffState :=
  let s := s.pairFull mem
  let r := s.table.lookup s.bitcache s.cachesz
  (r.1, { s with cachesz := r.2 })

/-- The program behind x. -/
def pairFirst (mem : Mem) (s : HuffState) : HuffState :=
  (s.pairCode mem).2.pairValue requantize mem (s.pairCode mem).1.x 0 2

/-- The program behind y. -/
def pairSecond (mem : Mem) (s : HuffState) : HuffState :=
  (s.pairFirst requantize mem).pairValue requantize mem (s.pairCode mem).1.y 1 1

theorem pair_eq (mem : Mem) (s : HuffState) : s.pair requantize mem =
    { s.pairSecond requantize mem with xrptr := (s.pairSecond requantize mem).xrptr + 2 } := rfl

theorem pairPoints_eq (mem : Mem) (s : HuffState) : s.pairPoints requantize mem =
    ⟨s.pairFull mem, []⟩ :: (s.pairFull mem).lookupPoints (s.pairFull mem).table ++
      (s.pairCode mem).2.pairValuePoints requantize mem (s.pairCode mem).1.x 0 2 ++
      (s.pairFirst requantize mem).pairValuePoints requantize mem (s.pairCode mem).1.y 1 1 := rfl

/-- A lookup leaves two bits, for the signs of a pair without linbits. -/
theorem Ahead.pairCode (h : Ahead mem lo hi last s pos) (hhi : pos + 31 ≤ hi) :
    (s.pairCode mem).1 = (s.table.decode mem pos).1 ∧
      Ahead mem lo hi last (s.pairCode mem).2 (pos + (s.table.decode mem pos).2) ∧
      2 ≤ (s.pairCode mem).2.cachesz ∧ (s.pairCode mem).2.linbits = s.linbits := by
  obtain ⟨hfull, henough⟩ := h.pairFull hhi
  obtain ⟨hvalue, hleft, hlooked⟩ := hfull.lookup (s.pairFull mem).table (by omega)
  rw [pairFull_table] at hvalue hleft hlooked
  refine ⟨?_, ?_, ?_, pairFull_linbits mem s⟩
  · rw [HuffState.pairCode, pairFull_table]
    exact hvalue
  · rw [HuffState.pairCode, pairFull_table]
    exact hlooked
  · rw [HuffState.pairCode, pairFull_table]
    show 2 ≤ (s.table.lookup (s.pairFull mem).bitcache (s.pairFull mem).cachesz).2
    omega

theorem Ahead.pairFirst (h : Ahead mem lo hi last s pos) (hlinbits : s.linbits ≤ 13)
    (hhi : pos + 49 ≤ hi) :
    Ahead mem lo hi last (s.pairFirst requantize mem) (readValue mem s.linbits
        (pos + (s.table.decode mem pos).2) (s.table.decode mem pos).1.x).2 ∧
      1 ≤ (s.pairFirst requantize mem).cachesz ∧
      (s.pairFirst requantize mem).linbits = s.linbits := by
  obtain ⟨hvalue, hlooked, htwo, hlin⟩ := h.pairCode (by omega)
  have hcode := s.table.decode_le mem pos
  obtain ⟨hx, hleft⟩ := hlooked.pairValue requantize (by omega) (Nat.le_refl 2) one_le_two htwo
    (by omega) (s.pairCode mem).1.x 0
  rw [hlin, hvalue] at hx
  refine ⟨?_, ?_, ?_⟩
  · rw [HuffState.pairFirst, hvalue]
    exact hx
  · rw [HuffState.pairFirst]
    omega
  · rw [HuffState.pairFirst, pairValue_linbits, hlin]

/-- One code word of the big values, from inside the part: where it ends, and all that it passes. -/
theorem Ahead.pair {d : BitDecoder} (h : Ahead mem lo hi last s d.pos) (hlinbits : s.linbits ≤ 13)
    (hmore : s.cachesz + s.bitsLeft > 0) (hhi : last + 63 ≤ hi) :
    Ahead mem lo hi last (s.pair requantize mem) (d.pair mem s.table s.linbits).pos ∧
      ∀ p ∈ s.pairPoints requantize mem, InStep mem lo hi last p := by
  have hbits := h.bitsLeft_eq
  have hcode := s.table.decode_le mem d.pos
  obtain ⟨hfull, henough⟩ := h.pairFull (by omega)
  obtain ⟨hvalue, hlooked, htwo, hlin⟩ := h.pairCode (by omega)
  obtain ⟨hx, hone, hxlin⟩ := h.pairFirst requantize hlinbits (by omega)
  have hxpos := readValue_le mem hlinbits (d.pos + (s.table.decode mem d.pos).2)
    (s.table.decode mem d.pos).1.x
  obtain ⟨hy, -⟩ := hx.pairValue requantize (by omega) one_le_two (Nat.le_refl 1) hone (by omega)
    (s.pairCode mem).1.y 1
  constructor
  · rw [hxlin, hvalue] at hy
    rw [pair_eq, HuffState.pairSecond, hvalue]
    exact hy.of_eq rfl rfl rfl rfl
  · intro p hp
    rw [pairPoints_eq, List.mem_append, List.mem_append, List.mem_cons] at hp
    rcases hp with ((rfl | hp) | hp) | hp
    · exact ⟨_, hfull⟩
    · exact hfull.lookupPoints _ (by omega) p hp
    · exact hlooked.pairValuePoints requantize (by omega) (Nat.le_refl 2) one_le_two htwo (by omega)
        _ _ p hp
    · exact hx.pairValuePoints requantize (by omega) one_le_two (Nat.le_refl 1) hone (by omega)
        _ _ p hp

theorem nextRegion_some {tables : HuffTables} {channel : Channel}
    (h : s.nextRegion tables channel = some t) :
    t.peek = s.peek ∧ t.bitcache = s.bitcache ∧ t.cachesz = s.cachesz ∧ t.bitsLeft = s.bitsLeft ∧
      (s.linbits ≤ 13 → t.linbits ≤ 13) := by
  simp only [HuffState.nextRegion] at h
  by_cases hboundary : (s.rcount + 2 ^ 32 - 1) % 2 ^ 32 = 0
  · rw [if_pos hboundary] at h
    obtain ⟨table, -, rfl⟩ := Option.map_eq_some_iff.mp h
    exact ⟨rfl, rfl, rfl, rfl, fun _ => tables.linbits_le _⟩
  · rw [if_neg hboundary] at h
    cases h
    exact ⟨rfl, rfl, rfl, rfl, id⟩

theorem nextExponent_same (s : HuffState) (exponents : ℕ → ℤ) :
    (s.nextExponent exponents).peek = s.peek ∧
      (s.nextExponent exponents).bitcache = s.bitcache ∧
      (s.nextExponent exponents).cachesz = s.cachesz ∧
      (s.nextExponent exponents).bitsLeft = s.bitsLeft ∧
      (s.nextExponent exponents).linbits = s.linbits := by
  rw [HuffState.nextExponent]
  split_ifs <;> exact ⟨rfl, rfl, rfl, rfl, rfl⟩

/-- The region and the exponent of the next band, where a band ends. -/
def nextBand (tables : HuffTables) (channel : Channel) (exponents : ℕ → ℤ) (s : HuffState) :
    Option HuffState :=
  if s.xrptr = s.sfbound then (s.nextRegion tables channel).map (·.nextExponent exponents)
  else some s

theorem Ahead.nextBand {tables : HuffTables} {channel : Channel} {exponents : ℕ → ℤ}
    (h : Ahead mem lo hi last s pos) (hlinbits : s.linbits ≤ 13)
    (hnext : s.nextBand tables channel exponents = some t) :
    Ahead mem lo hi last t pos ∧ t.linbits ≤ 13 ∧ t.cachesz + t.bitsLeft = s.cachesz + s.bitsLeft := by
  rw [HuffState.nextBand] at hnext
  split_ifs at hnext with hbound
  · obtain ⟨u, hregion, rfl⟩ := Option.map_eq_some_iff.mp hnext
    obtain ⟨hpeek, hcache, hcachesz, hleft, hlin⟩ := nextRegion_some hregion
    obtain ⟨hpeek', hcache', hcachesz', hleft', hlin'⟩ := nextExponent_same u exponents
    refine ⟨h.of_eq (hpeek'.trans hpeek) (hcache'.trans hcache) (hcachesz'.trans hcachesz)
      (hleft'.trans hleft), ?_, ?_⟩
    · rw [hlin']
      exact hlin hlinbits
    · rw [hcachesz', hleft', hcachesz, hleft]
  · cases hnext
    exact ⟨h, hlinbits, rfl⟩

theorem bigValues_succ (tables : HuffTables) (mem : Mem) (channel : Channel) (exponents : ℕ → ℤ)
    (n : ℕ) (s : HuffState) :
    s.bigValues requantize tables mem channel exponents (n + 1) =
      if s.cachesz + s.bitsLeft > 0 then
        match s.nextBand tables channel exponents with
        | none => (s, .badhufftable)
        | some t => (t.pair requantize mem).bigValues requantize tables mem channel exponents n
      else (s, .none) := rfl

/-- The whole run of the big values keeps the cache in step. -/
theorem Ahead.bigValues (tables : HuffTables) (channel : Channel) (exponents : ℕ → ℤ)
    (h : Ahead mem lo hi last s pos) (hlinbits : s.linbits ≤ 13) (hhi : last + 63 ≤ hi) (n : ℕ) :
    (∃ pos', Ahead mem lo hi last
        (s.bigValues requantize tables mem channel exponents n).1 pos') ∧
      ∀ p ∈ s.bigValuesPoints requantize tables mem channel exponents n,
        InStep mem lo hi last p := by
  induction n generalizing s pos with
  | zero => exact ⟨⟨pos, h⟩, fun p hp => absurd hp List.not_mem_nil⟩
  | succ n ih =>
    rw [bigValues_succ, HuffState.bigValuesPoints]
    by_cases hmore : s.cachesz + s.bitsLeft > 0
    · rw [if_pos hmore, if_pos hmore]
      have hbands : (if s.xrptr = s.sfbound then
          (s.nextRegion tables channel).map (·.nextExponent exponents)
        else some s) = s.nextBand tables channel exponents := rfl
      simp only [hbands]
      cases hnext : s.nextBand tables channel exponents with
      | none =>
        refine ⟨⟨pos, h⟩, ?_⟩
        intro p hp
        rw [List.mem_singleton.mp hp]
        exact ⟨pos, h⟩
      | some t =>
        obtain ⟨hband, hlin, hsum⟩ := h.nextBand hlinbits hnext
        obtain ⟨hpair, hpoints⟩ := Ahead.pair requantize (d := ⟨pos, []⟩) hband hlin (by omega) hhi
        obtain ⟨hrun, hrest⟩ := ih hpair (by rw [pair_linbits]; exact hlin)
        refine ⟨hrun, ?_⟩
        intro p hp
        simp only [List.cons_append, List.mem_cons, List.mem_append] at hp
        rcases hp with rfl | hp | hp
        · exact ⟨pos, hband⟩
        · exact hpoints p hp
        · exact hrest p hp
    · rw [if_neg hmore, if_neg hmore]
      exact ⟨⟨pos, h⟩, fun p hp => absurd hp List.not_mem_nil⟩

/-! ### The quadruples -/

theorem Ahead.quadBand (h : Ahead mem lo hi last s pos) (exponents : ℕ → ℤ) :
    Ahead mem lo hi last (s.quadBand exponents) pos ∧
      (s.quadBand exponents).cachesz = s.cachesz := by
  rw [HuffState.quadBand]
  split_ifs
  · exact ⟨h.of_eq rfl rfl rfl rfl, rfl⟩
  · exact ⟨h, rfl⟩

theorem Ahead.quadValue (h : Ahead mem lo hi last s pos) (hone : 1 ≤ s.cachesz) (value i : ℕ) :
    Ahead mem lo hi last (s.quadValue requantize value i) (readUnit mem pos value).2 ∧
      s.cachesz - 1 ≤ (s.quadValue requantize value i).cachesz := by
  rw [HuffState.quadValue, readUnit, readSign_end]
  by_cases hzero : value ≠ 0
  · rw [if_pos hzero, if_pos hzero, if_neg one_ne_zero]
    exact ⟨h.signed hone _ i, Int.le_refl _⟩
  · rw [if_neg hzero, if_neg hzero, if_pos rfl]
    exact ⟨h.of_eq rfl rfl rfl rfl, Int.sub_le_self _ Int.one_nonneg⟩

/-- Two values of a quadruple, behind the band boundary before them. -/
def halfQuad (requantize : ℕ → ℤ → ℤ) (exponents : ℕ → ℤ) (s : HuffState) (a b : ℕ) : HuffState :=
  let s := ((s.quadBand exponents).quadValue requantize a 0).quadValue requantize b 1
  { s with xrptr := s.xrptr + 2 }

theorem Ahead.halfQuad (exponents : ℕ → ℤ) (h : Ahead mem lo hi last s pos)
    (htwo : 2 ≤ s.cachesz) (a b : ℕ) :
    Ahead mem lo hi last (s.halfQuad requantize exponents a b)
        (readUnit mem (readUnit mem pos a).2 b).2 ∧
      s.cachesz - 2 ≤ (s.halfQuad requantize exponents a b).cachesz ∧
      ∀ p ∈ s.halfQuadPoints requantize exponents a b, InStep mem lo hi last p := by
  obtain ⟨hband, hsame⟩ := h.quadBand exponents
  obtain ⟨ha, haleft⟩ := hband.quadValue requantize (by omega) a 0
  obtain ⟨hb, hbleft⟩ := ha.quadValue requantize (by omega) b 1
  refine ⟨hb.of_eq rfl rfl rfl rfl, ?_, ?_⟩
  · show s.cachesz - 2 ≤
      (((s.quadBand exponents).quadValue requantize a 0).quadValue requantize b 1).cachesz
    omega
  · intro p hp
    simp only [HuffState.halfQuadPoints, List.mem_cons, List.not_mem_nil, or_false] at hp
    rcases hp with rfl | rfl | rfl
    · exact ⟨_, hband⟩
    · exact ⟨_, ha⟩
    · exact ⟨_, hb⟩

/-- The cache before a code word of the quadruples. -/
def quadFull (mem : Mem) (s : HuffState) : HuffState :=
  if s.cachesz < 10 then s.refill mem 16 else s

theorem Ahead.quadFull (h : Ahead mem lo hi last s pos) (hhi : pos + 31 ≤ hi) :
    Ahead mem lo hi last (s.quadFull mem) pos ∧ 10 ≤ (s.quadFull mem).cachesz := by
  have hnonneg := h.cachesz_nonneg
  rw [HuffState.quadFull]
  split_ifs with hfew
  · refine ⟨h.refill (by omega) (by omega), ?_⟩
    show 10 ≤ s.cachesz + 16
    omega
  · exact ⟨h, by omega⟩

/-- The code word of a quadruple, and the program behind its lookup. -/
def quadCode (mem : Mem) (table : ClumpTable QuadValue 6) (s : HuffState) : QuadValue × HuffState :=
  let s := s.quadFull mem
  let r := table.lookup s.bitcache s.cachesz
  (r.1, { s with cachesz := r.2 })

/-- The program behind v and w. -/
def quadFirst (mem : Mem) (table : ClumpTable QuadValue 6) (exponents : ℕ → ℤ) (s : HuffState) :
    HuffState :=
  (s.quadCode mem table).2.halfQuad requantize exponents (s.quadCode mem table).1.v
    (s.quadCode mem table).1.w

theorem quad_eq (mem : Mem) (table : ClumpTable QuadValue 6) (exponents : ℕ → ℤ) (s : HuffState) :
    s.quad requantize mem table exponents =
      ((s.quadFirst requantize mem table exponents).halfQuad requantize exponents
        (s.quadCode mem table).1.x (s.quadCode mem table).1.y) := rfl

theorem quadPoints_eq (mem : Mem) (table : ClumpTable QuadValue 6) (exponents : ℕ → ℤ)
    (s : HuffState) : s.quadPoints requantize mem table exponents =
      ⟨s.quadFull mem, []⟩ :: (s.quadFull mem).lookupPoints table ++
        (s.quadCode mem table).2.halfQuadPoints requantize exponents (s.quadCode mem table).1.v
          (s.quadCode mem table).1.w ++
        (s.quadFirst requantize mem table exponents).halfQuadPoints requantize exponents
          (s.quadCode mem table).1.x (s.quadCode mem table).1.y := rfl

/-- A lookup leaves four bits, for the signs. -/
theorem Ahead.quadCode (table : ClumpTable QuadValue 6) (h : Ahead mem lo hi last s pos)
    (hhi : pos + 31 ≤ hi) :
    (s.quadCode mem table).1 = (table.decode mem pos).1 ∧
      Ahead mem lo hi last (s.quadCode mem table).2 (pos + (table.decode mem pos).2) ∧
      4 ≤ (s.quadCode mem table).2.cachesz := by
  obtain ⟨hfull, henough⟩ := h.quadFull hhi
  obtain ⟨hvalue, hleft, hlooked⟩ := hfull.lookup table (by omega)
  refine ⟨hvalue, hlooked, ?_⟩
  show 4 ≤ (table.lookup (s.quadFull mem).bitcache (s.quadFull mem).cachesz).2
  omega

/-- One code word of the quadruples, from inside the part. -/
theorem Ahead.quad (table : ClumpTable QuadValue 6) (exponents : ℕ → ℤ) {d : BitDecoder}
    (h : Ahead mem lo hi last s d.pos) (hmore : s.cachesz + s.bitsLeft > 0)
    (hhi : last + 63 ≤ hi) :
    Ahead mem lo hi last (s.quad requantize mem table exponents) (d.quad mem table).pos ∧
      ∀ p ∈ s.quadPoints requantize mem table exponents, InStep mem lo hi last p := by
  have hbits := h.bitsLeft_eq
  obtain ⟨hfull, henough⟩ := h.quadFull (by omega)
  obtain ⟨hvalue, hlooked, hfour⟩ := h.quadCode table (by omega)
  obtain ⟨hvw, hleft, hvwpoints⟩ := hlooked.halfQuad requantize exponents (by omega)
    (s.quadCode mem table).1.v (s.quadCode mem table).1.w
  obtain ⟨hxy, -, hxypoints⟩ := hvw.halfQuad requantize exponents (by omega)
    (s.quadCode mem table).1.x (s.quadCode mem table).1.y
  constructor
  · rw [quad_eq, HuffState.quadFirst]
    rw [hvalue] at hxy ⊢
    exact hxy
  · intro p hp
    rw [quadPoints_eq, List.mem_append, List.mem_append, List.mem_cons] at hp
    rcases hp with ((rfl | hp) | hp) | hp
    · exact ⟨_, hfull⟩
    · exact hfull.lookupPoints _ (by omega) p hp
    · exact hvwpoints p hp
    · exact hxypoints p hp

/-- The whole run of the quadruples keeps the cache in step. -/
theorem Ahead.count1 (table : ClumpTable QuadValue 6) (exponents : ℕ → ℤ)
    (h : Ahead mem lo hi last s pos) (hhi : last + 63 ≤ hi) (n : ℕ) :
    (∃ pos', Ahead mem lo hi last (s.count1 requantize mem table exponents n) pos') ∧
      ∀ p ∈ s.count1Points requantize mem table exponents n, InStep mem lo hi last p := by
  induction n generalizing s pos with
  | zero => exact ⟨⟨pos, h⟩, fun p hp => absurd hp List.not_mem_nil⟩
  | succ n ih =>
    rw [HuffState.count1, HuffState.count1Points]
    by_cases hmore : s.cachesz + s.bitsLeft > 0 ∧ s.xrptr ≤ 572
    · rw [if_pos hmore, if_pos hmore]
      obtain ⟨hquad, hpoints⟩ := Ahead.quad requantize table exponents (d := ⟨pos, []⟩) h
        hmore.1 hhi
      obtain ⟨hrun, hrest⟩ := ih hquad
      refine ⟨hrun, ?_⟩
      intro p hp
      rcases List.mem_append.mp hp with hp | hp
      · exact hpoints p hp
      · exact hrest p hp
    · rw [if_neg hmore, if_neg hmore]
      exact ⟨⟨pos, h⟩, fun p hp => absurd hp List.not_mem_nil⟩

@[simp] theorem quadValue_xrptr (s : HuffState) (value i : ℕ) :
    (s.quadValue requantize value i).xrptr = s.xrptr := by
  rw [HuffState.quadValue]
  split_ifs <;> rfl

@[simp] theorem quadBand_xrptr (s : HuffState) (exponents : ℕ → ℤ) :
    (s.quadBand exponents).xrptr = s.xrptr := by
  rw [HuffState.quadBand]
  split_ifs <;> rfl

theorem quad_xrptr (mem : Mem) (table : ClumpTable QuadValue 6) (exponents : ℕ → ℤ)
    (s : HuffState) : (s.quad requantize mem table exponents).xrptr = s.xrptr + 4 := by
  simp only [HuffState.quad, quadValue_xrptr, quadBand_xrptr]
  split_ifs <;> rfl

end HuffState

/-! ### The whole part -/

open HuffState

theorem huffStart_ahead {mem : Mem} {lo hi pos : ℕ} {peek : MainPtr} (h : Cursor mem lo hi peek pos)
    (bitsLeft : ℕ) (hhi : pos + 31 ≤ hi) (xr : ℕ → ℤ) (channel : Channel) (sfbwidth : List ℕ)
    (exponents : ℕ → ℤ) (table : ClumpTable PairValue 19) (linbits : ℕ) :
    (huffStart mem peek bitsLeft xr channel sfbwidth exponents table linbits).Ahead mem lo hi
      (pos + bitsLeft) pos := by
  have hleft := h.at_pos.left_le
  obtain ⟨bits, hbits⟩ : ∃ bits, bits =
    peek.bits.left + ((32 - 1 - 24) + (24 - peek.bits.left)) / 8 * 8 := ⟨_, rfl⟩
  have hle : bits ≤ 31 := by omega
  simp only [huffStart, ← hbits]
  refine ⟨h.read (by omega), ?_, ?_, ?_, ?_⟩
  · show (bitsLeft : ℤ) - bits = ((pos + bitsLeft : ℕ) : ℤ) - (pos + bits)
    omega
  · show (0 : ℤ) ≤ bits
    omega
  · show (bits : ℤ) ≤ 31
    omega
  · show (peek.read mem bits).1 % 2 ^ bits = bitsVal mem pos bits
    rw [show (peek.read mem bits).1 = bitsVal mem pos bits from h.at_pos.read_value bits]
    exact Nat.mod_eq_of_lt (bitsVal_lt mem pos bits)

theorem huffWords_ahead (requantize : ℕ → ℤ → ℤ) (tables : HuffTables) {mem : Mem}
    {lo hi last pos : ℕ} (channel : Channel) (exponents : ℕ → ℤ) {s : HuffState}
    (h : s.Ahead mem lo hi last pos) (hlinbits : s.linbits ≤ 13) (hhi : last + 63 ≤ hi) :
    (∃ pos', (huffWords requantize tables mem channel exponents s).1.Ahead mem lo hi last pos') ∧
      ∀ p ∈ huffWordsPoints requantize tables mem channel exponents s,
        HuffState.InStep mem lo hi last p := by
  obtain ⟨⟨big, hbig⟩, hbigPoints⟩ := h.bigValues requantize tables channel exponents hlinbits hhi
    channel.bigValues
  rw [huffWords, huffWordsPoints]
  simp only [List.mem_append]
  split_ifs with herror hover
  · exact ⟨⟨big, hbig⟩, fun p hp => hp.elim (hbigPoints p) fun hp => absurd hp List.not_mem_nil⟩
  · exact ⟨⟨big, hbig⟩, fun p hp => hp.elim (hbigPoints p) fun hp => absurd hp List.not_mem_nil⟩
  · obtain ⟨hrun, hpoints⟩ := hbig.count1 requantize
      (tables.quad (channel.flags &&& count1tableSelect)) exponents hhi 144
    refine ⟨hrun, ?_⟩
    intro p hp
    simp only [List.cons_append, List.mem_cons, List.mem_append, List.not_mem_nil, or_false] at hp
    rcases hp with hp | rfl | hp | rfl
    · exact hbigPoints p hp
    · exact ⟨big, hbig⟩
    · exact hpoints p hp
    · exact hrun

/-- The pointer ends where the part ends, and the cache is in step at every point. -/
theorem huffdecodeWith_ahead (requantize : ℕ → ℤ → ℤ) (tables : HuffTables) {mem : Mem}
    {lo hi pos : ℕ} {ptr : MainPtr} (h : Cursor mem lo hi ptr pos) (xr : ℕ → ℤ) (channel : Channel)
    (sfbwidth : List ℕ) {part2 : ℕ} (hpart2 : part2 ≤ channel.part23Length) (exponents : ℕ → ℤ)
    (hhi : pos + (channel.part23Length - part2) + 63 ≤ hi) :
    Cursor mem lo hi
        (huffdecodeWith requantize tables mem ptr xr channel sfbwidth part2 exponents).ptr
        (pos + (channel.part23Length - part2)) ∧
      ∀ p ∈ huffdecodePoints requantize tables mem ptr xr channel sfbwidth part2 exponents,
        HuffState.InStep mem lo hi (pos + (channel.part23Length - part2)) p := by
  obtain ⟨bitsLeft, hbits⟩ : ∃ bitsLeft, bitsLeft = channel.part23Length - part2 := ⟨_, rfl⟩
  have hint : (channel.part23Length : ℤ) - part2 = bitsLeft := by omega
  have hlong : ¬ (bitsLeft : ℤ) < 0 := by omega
  rw [← hbits] at hhi ⊢
  have hskip : Cursor mem lo hi (ptr.skip mem bitsLeft) (pos + bitsLeft) := h.skip (by omega)
  have hpeek : Cursor mem lo hi { ptr.skip mem bitsLeft with bits := ptr.bits } pos :=
    ⟨h.at_pos, h.lo_le, h.lo_lt, hskip.reads_in⟩
  have hptr : ∀ reads, (∀ a ∈ reads, ByteIn lo hi a) →
      Cursor mem lo hi { ptr.skip mem bitsLeft with reads := reads } (pos + bitsLeft) :=
    fun reads hreads => ⟨hskip.at_pos, hskip.lo_le, hskip.lo_lt, hreads⟩
  obtain ⟨entry, hentry⟩ : ∃ entry, entry = tables.pair (channel.tableSelect 0) := ⟨_, rfl⟩
  have hlinbits : entry.linbits ≤ 13 := hentry ▸ tables.linbits_le _
  have hstart := huffStart_ahead hpeek bitsLeft (by omega) xr channel sfbwidth exponents
    (entry.table.getD pairTable0) entry.linbits
  simp only [huffdecodeWith, huffdecodePart, huffdecodePoints, hint, if_neg hlong,
    Int.toNat_natCast, ← hentry]
  generalize hs : huffStart mem _ _ _ _ _ _ _ _ = s at hstart ⊢
  have hslin : s.linbits ≤ 13 := by
    rw [← hs]
    exact hlinbits
  by_cases hnull : entry.table.isNone
  · rw [if_pos hnull, if_pos hnull]
    refine ⟨hptr _ hstart.peek_at.reads_in, ?_⟩
    intro p hp
    rw [List.mem_singleton.mp hp]
    exact ⟨pos, hstart⟩
  · rw [if_neg hnull, if_neg hnull]
    obtain ⟨⟨pos', hwords⟩, hpoints⟩ := huffWords_ahead requantize tables channel exponents
      hstart hslin (by omega)
    refine ⟨hptr _ hwords.peek_at.reads_in, ?_⟩
    intro p hp
    rcases List.mem_cons.mp hp with rfl | hp
    · exact ⟨pos, hstart⟩
    · exact hpoints p hp

/-- **How far `III_huffdecode` reads.**  It leaves the pointer at the end of the part, or where it
was when the scalefactors alone are longer than the part, and reads no bit further than
`MAD_BUFFER_GUARD` bytes behind that end. -/
theorem iiiHuffdecode_cursor (requantize : ℕ → ℤ → ℤ) {mem : Mem} {lo hi pos : ℕ} {ptr : MainPtr}
    (h : Cursor mem lo hi ptr pos) {part2 : ℕ} (xr : ℕ → ℤ) (channel : Channel)
    (sfbwidth : List ℕ) (exponents : ℕ → ℤ)
    (hhi : pos + (channel.part23Length - part2) + 63 ≤ hi) :
    Cursor mem lo hi
      (iiiHuffdecode requantize mem ptr xr channel sfbwidth part2 exponents).ptr
      (pos + (channel.part23Length - part2)) := by
  rw [iiiHuffdecode]
  by_cases hpart2 : part2 ≤ channel.part23Length
  · exact (huffdecodeWith_ahead requantize madHuffTables h xr channel sfbwidth hpart2 _ hhi).1
  · have hnone : channel.part23Length - part2 = 0 := by omega
    have hshort : (channel.part23Length : ℤ) - part2 < 0 := by omega
    simp only [huffdecodeWith, if_pos hshort, hnone]
    exact h

/-- Scalefactors that are longer than the part are an error. -/
theorem iiiHuffdecode_short (requantize : ℕ → ℤ → ℤ) {mem : Mem} {ptr : MainPtr} {xr : ℕ → ℤ}
    {channel : Channel} {sfbwidth : List ℕ} {part2 : ℕ} {exponents : ℕ → ℤ}
    (hshort : channel.part23Length < part2) :
    (iiiHuffdecode requantize mem ptr xr channel sfbwidth part2 exponents).error ≠ .none := by
  have hneg : (channel.part23Length : ℤ) - part2 < 0 := by omega
  rw [iiiHuffdecode, huffdecodeWith]
  simp only [if_pos hneg]
  decide

end Mp3Decoder
