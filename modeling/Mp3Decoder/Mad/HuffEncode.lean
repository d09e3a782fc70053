import Mp3Decoder.Mad.HuffAgree
import Mp3Decoder.Mad.HuffCodes

/-!
# Writing code words

The other direction of `III_huffdecode`: the code words of the values of a channel, one after the
other.  What has been written is what `III_huffdecode` finds.
-/

namespace Mp3Decoder

open BigEndianBits

/-! ### Values and pairs -/

/-- The sign bit of a value that is not 0 -/
def signBits (value : ℤ) : List Bool := if value = 0 then [] else [decide (value < 0)]

/-- The value that is looked up in a table; 15 stands for all from 15 on where there are linbits. -/
def symbol (linbits : ℕ) (value : ℤ) : ℕ :=
  if linbits = 0 then value.natAbs else min value.natAbs 15

/-- What follows the code word for one of its values -/
def valueBits (linbits : ℕ) (value : ℤ) : List Bool :=
  (if linbits ≠ 0 ∧ 15 ≤ value.natAbs then field linbits (value.natAbs - 15) else []) ++
    signBits value

/-- The linbits have room for a value. -/
def ValueFits (linbits : ℕ) (value : ℤ) : Prop := linbits ≠ 0 → value.natAbs < 15 + 2 ^ linbits

instance (linbits : ℕ) (value : ℤ) : Decidable (ValueFits linbits value) :=
  inferInstanceAs (Decidable (_ → _))

/-- The bits of a pair, if the table has a code for it -/
def pairBits (entry : HuffTable) (x y : ℤ) : Option (List Bool) :=
  if ValueFits entry.linbits x ∧ ValueFits entry.linbits y then
    (entry.table.bind fun table =>
        table.codeOf ⟨symbol entry.linbits x, symbol entry.linbits y⟩).map fun code =>
      code ++ (valueBits entry.linbits x ++ valueBits entry.linbits y)
  else none

section
variable {mem : Mem} {pos : ℕ}

theorem readSign_written {value : ℤ} (h : Spells mem pos (signBits value)) :
    readSign mem pos value.natAbs = (value, pos + (signBits value).length) := by
  rw [signBits] at h ⊢
  rw [readSign]
  by_cases hzero : value = 0
  · rw [if_pos hzero, if_pos (Int.natAbs_eq_zero.mpr hzero), hzero]
    rfl
  · rw [if_neg hzero] at h ⊢
    rw [if_neg fun habs => hzero (Int.natAbs_eq_zero.mp habs), h.bit, List.length_singleton]
    congr 1
    by_cases hneg : value < 0
    · rw [decide_eq_true hneg, if_pos (by decide)]
      omega
    · rw [decide_eq_false hneg, if_neg (by decide)]
      omega

theorem readValue_written {linbits : ℕ} {value : ℤ} (hfits : ValueFits linbits value)
    (h : Spells mem pos (valueBits linbits value)) :
    readValue mem linbits pos (symbol linbits value) =
      (value, pos + (valueBits linbits value).length) := by
  obtain ⟨hlin, hsign⟩ := spells_append.mp h
  rw [readValue, symbol, valueBits, List.length_append]
  by_cases hescape : linbits ≠ 0 ∧ 15 ≤ value.natAbs
  · have hmin : min value.natAbs 15 = 15 := by omega
    have hroom := hfits hescape.1
    rw [if_pos hescape] at hlin hsign ⊢
    rw [field_length] at hsign ⊢
    have hsum : 15 + (value.natAbs - 15) = value.natAbs := by omega
    rw [if_neg hescape.1, hmin, if_pos ⟨hescape.1, rfl⟩, hlin.field_of_lt (by omega), hsum,
      readSign_written hsign, Nat.add_assoc]
  · rw [if_neg hescape] at hsign ⊢
    rw [List.length_nil, Nat.add_zero] at hsign
    rw [List.length_nil, Nat.zero_add]
    by_cases hnone : linbits = 0
    · rw [if_neg fun hboth => hboth.1 hnone, if_pos hnone]
      exact readSign_written hsign
    · have hmin : min value.natAbs 15 = value.natAbs := by omega
      rw [if_neg hnone, hmin, if_neg fun hboth => hescape ⟨hboth.1, hboth.2.ge⟩]
      exact readSign_written hsign

/-- **A pair that has been written is found.** -/
theorem pair_written {entry : HuffTable} {table : ClumpTable PairValue 19}
    (htable : entry.table = some table) (hrep : table.Replicated) {x y : ℤ} {bits : List Bool}
    (hbits : pairBits entry x y = some bits) {d : BitDecoder} (h : Spells mem d.pos bits) :
    d.pair mem table entry.linbits = ⟨d.pos + bits.length, d.values ++ [x, y]⟩ := by
  rw [pairBits] at hbits
  split_ifs at hbits with hfits
  rw [htable, Option.bind_some, Option.map_eq_some_iff] at hbits
  obtain ⟨code, hcode, rfl⟩ := hbits
  obtain ⟨hword, hrest⟩ := spells_append.mp h
  obtain ⟨hx, hy⟩ := spells_append.mp hrest
  have hlookup := ClumpTable.decode_codeOf hrep hcode hword
  simp only [BitDecoder.pair, hlookup]
  rw [readValue_written hfits.1 hx]
  simp only
  rw [readValue_written hfits.2 hy]
  simp only [List.length_append, Nat.add_assoc]

/-! ### Quadruples -/

/-- Four values of -1, 0 and 1 -/
structure Quad where
  v : ℤ
  w : ℤ
  x : ℤ
  y : ℤ

def Quad.values (q : Quad) : List ℤ := [q.v, q.w, q.x, q.y]

/-- The bits of a quadruple, if the table has a code for it -/
def quadBits (table : ClumpTable QuadValue 6) (q : Quad) : Option (List Bool) :=
  if q.v.natAbs < 2 ∧ q.w.natAbs < 2 ∧ q.x.natAbs < 2 ∧ q.y.natAbs < 2 then
    (table.codeOf ⟨q.v.natAbs, q.w.natAbs, q.x.natAbs, q.y.natAbs⟩).map fun code =>
      code ++ (signBits q.v ++ (signBits q.w ++ (signBits q.x ++ signBits q.y)))
  else none

theorem readUnit_written {value : ℤ} (hunit : value.natAbs < 2) (h : Spells mem pos (signBits value)) :
    readUnit mem pos value.natAbs = (value, pos + (signBits value).length) := by
  have hsame : (if value.natAbs ≠ 0 then 1 else 0) = value.natAbs := by
    split_ifs <;> omega
  rw [readUnit, hsame]
  exact readSign_written h

theorem quad_written {table : ClumpTable QuadValue 6} (hrep : table.Replicated) {q : Quad}
    {bits : List Bool} (hbits : quadBits table q = some bits) {d : BitDecoder}
    (h : Spells mem d.pos bits) :
    d.quad mem table = ⟨d.pos + bits.length, d.values ++ q.values⟩ := by
  rw [quadBits] at hbits
  split_ifs at hbits with hunits
  rw [Option.map_eq_some_iff] at hbits
  obtain ⟨code, hcode, rfl⟩ := hbits
  obtain ⟨hword, hrest⟩ := spells_append.mp h
  obtain ⟨hv, hrest⟩ := spells_append.mp hrest
  obtain ⟨hw, hrest⟩ := spells_append.mp hrest
  obtain ⟨hx, hy⟩ := spells_append.mp hrest
  have hlookup := ClumpTable.decode_codeOf hrep hcode hword
  simp only [BitDecoder.quad, hlookup, readUnit_written hunits.1 hv,
    readUnit_written hunits.2.1 hw, readUnit_written hunits.2.2.1 hx,
    readUnit_written hunits.2.2.2 hy]
  simp only [List.length_append, Nat.add_assoc, Quad.values]

end

/-! ### The words of a channel -/

/-- The values of a channel: pairs, and the quadruples behind them -/
structure CodeWords where
  big : List (ℤ × ℤ)
  count1 : List Quad

def bigList (big : List (ℤ × ℤ)) : List ℤ := big.flatMap fun p => [p.1, p.2]

def quadList (quads : List Quad) : List ℤ := quads.flatMap Quad.values

theorem bigList_cons (p : ℤ × ℤ) (big : List (ℤ × ℤ)) :
    bigList (p :: big) = [p.1, p.2] ++ bigList big := rfl

theorem quadList_cons (q : Quad) (quads : List Quad) :
    quadList (q :: quads) = q.values ++ quadList quads := rfl

theorem bigList_length (big : List (ℤ × ℤ)) : (bigList big).length = 2 * big.length := by
  induction big with
  | nil => rfl
  | cons p big ih =>
    rw [bigList_cons, List.length_append, ih, List.length_cons]
    simp only [List.length_cons, List.length_nil]
    omega

theorem quadList_length (quads : List Quad) : (quadList quads).length = 4 * quads.length := by
  induction quads with
  | nil => rfl
  | cons q quads ih =>
    rw [quadList_cons, List.length_append, ih, List.length_cons]
    simp only [Quad.values, List.length_cons, List.length_nil]
    omega

def CodeWords.values (words : CodeWords) : List ℤ := bigList words.big ++ quadList words.count1

/-- The bits of the big values, of which the first belongs to line `line` -/
def bigBits (tables : HuffTables) (channel : Channel) (widths : List ℕ) :
    ℕ → List (ℤ × ℤ) → Option (List Bool)
  | _, [] => some []
  | line, p :: big =>
    let entry := tables.pair (channel.tableSelect (regionOf channel (bandOf widths line)))
    (pairBits entry p.1 p.2).bind fun bits =>
      (bigBits tables channel widths (line + 2) big).map (bits ++ ·)

def count1Bits (table : ClumpTable QuadValue 6) : List Quad → Option (List Bool)
  | [] => some []
  | q :: quads => (quadBits table q).bind fun bits => (count1Bits table quads).map (bits ++ ·)

/-- The bits of a channel behind its scalefactors -/
def CodeWords.bits (words : CodeWords) (tables : HuffTables) (channel : Channel)
    (widths : List ℕ) : Option (List Bool) :=
  (bigBits tables channel widths 0 words.big).bind fun big =>
    (count1Bits (tables.quad (channel.flags &&& count1tableSelect)) words.count1).map (big ++ ·)

/-! ### What takes no bits -/

theorem signBits_nil {value : ℤ} (h : signBits value = []) : value = 0 := by
  by_contra hne
  rw [signBits, if_neg hne] at h
  cases h

theorem pairBits_nil {entry : HuffTable} {x y : ℤ} (h : pairBits entry x y = some []) :
    x = 0 ∧ y = 0 := by
  rw [pairBits] at h
  split_ifs at h
  obtain ⟨code, -, hcode⟩ := Option.map_eq_some_iff.mp h
  simp only [List.append_eq_nil_iff, valueBits] at hcode
  exact ⟨signBits_nil hcode.2.1.2, signBits_nil hcode.2.2.2⟩

theorem quadBits_nil {table : ClumpTable QuadValue 6} {q : Quad} (h : quadBits table q = some []) :
    q.values = [0, 0, 0, 0] := by
  rw [quadBits] at h
  split_ifs at h
  obtain ⟨code, -, hcode⟩ := Option.map_eq_some_iff.mp h
  simp only [List.append_eq_nil_iff] at hcode
  obtain ⟨-, hv, hw, hx, hy⟩ := hcode
  rw [Quad.values, signBits_nil hv, signBits_nil hw, signBits_nil hx, signBits_nil hy]

theorem bigBits_nil {tables : HuffTables} {channel : Channel} {widths : List ℕ} {line : ℕ}
    {big : List (ℤ × ℤ)} (h : bigBits tables channel widths line big = some []) :
    bigList big = List.replicate (2 * big.length) 0 := by
  induction big generalizing line with
  | nil => rfl
  | cons p big ih =>
    obtain ⟨bits, hbits, hmap⟩ := Option.bind_eq_some_iff.mp h
    obtain ⟨more, hmore, happend⟩ := Option.map_eq_some_iff.mp hmap
    obtain ⟨rfl, rfl⟩ := List.append_eq_nil_iff.mp happend
    obtain ⟨hx, hy⟩ := pairBits_nil hbits
    rw [bigList_cons, hx, hy, ih hmore, List.length_cons,
      show 2 * (big.length + 1) = 2 * big.length + 1 + 1 by omega, List.replicate_succ,
      List.replicate_succ]
    rfl

theorem count1Bits_nil {table : ClumpTable QuadValue 6} {quads : List Quad}
    (h : count1Bits table quads = some []) :
    quadList quads = List.replicate (4 * quads.length) 0 := by
  induction quads with
  | nil => rfl
  | cons q quads ih =>
    obtain ⟨bits, hbits, hmap⟩ := Option.bind_eq_some_iff.mp h
    obtain ⟨more, hmore, happend⟩ := Option.map_eq_some_iff.mp hmap
    obtain ⟨rfl, rfl⟩ := List.append_eq_nil_iff.mp happend
    rw [quadList_cons, quadBits_nil hbits, ih hmore, List.length_cons,
      show 4 * (quads.length + 1) = 4 * quads.length + 1 + 1 + 1 + 1 by omega]
    simp only [List.replicate_succ, List.cons_append, List.nil_append]

/-! ### Decoding what has been written -/

/-- What the decoder has found, up to zeros at the end, is what has been written. -/
def Finds (found written : List ℤ) : Prop := ∃ zeros, found ++ List.replicate zeros 0 = written

section
variable {tables : HuffTables} {channel : Channel} {widths : List ℕ} {mem : Mem} {last : ℕ}

theorem pairs_done {n : ℕ} {d : BitDecoder} (h : last ≤ d.pos) :
    BitDecoder.pairs tables mem channel widths last n d = (d, .none) := by
  cases n with
  | zero => rfl
  | succ n => rw [BitDecoder.pairs, if_neg (Nat.not_lt.mpr h)]

theorem quads_done {table : ClumpTable QuadValue 6} {n : ℕ} {d : BitDecoder} (h : last ≤ d.pos) :
    d.quads mem table last n = d := by
  cases n with
  | zero => rfl
  | succ n => rw [BitDecoder.quads, if_neg fun hboth => Nat.not_lt.mpr h hboth.1]

/-- Every pair is found, unless nothing but zeros is left. -/
theorem pairs_written (hrep : ∀ select table, (tables.pair select).table = some table →
      table.Replicated) {big : List (ℤ × ℤ)} {bits : List Bool} {d : BitDecoder}
    (hbits : bigBits tables channel widths d.values.length big = some bits)
    (h : Spells mem d.pos bits) (hlast : d.pos + bits.length ≤ last) :
    ∃ d' zeros, BitDecoder.pairs tables mem channel widths last big.length d = (d', .none) ∧
      d'.pos = d.pos + bits.length ∧
      d'.values ++ List.replicate zeros 0 = d.values ++ bigList big ∧
      (zeros = 0 ∨ d'.pos = last) := by
  induction big generalizing d bits with
  | nil =>
    cases hbits
    exact ⟨d, 0, rfl, rfl, rfl, Or.inl rfl⟩
  | cons p big ih =>
    by_cases hend : d.pos < last
    · obtain ⟨first, hfirst, hmap⟩ := Option.bind_eq_some_iff.mp hbits
      obtain ⟨more, hmore, rfl⟩ := Option.map_eq_some_iff.mp hmap
      obtain ⟨hword, hrest⟩ := spells_append.mp h
      rw [List.length_append] at hlast
      obtain ⟨entry, hentry⟩ : ∃ entry, entry =
          tables.pair (channel.tableSelect (regionOf channel (bandOf widths d.values.length))) :=
        ⟨_, rfl⟩
      rw [← hentry] at hfirst
      cases htable : entry.table with
      | none =>
        rw [pairBits, htable, Option.bind_none, Option.map_none, ite_self] at hfirst
        cases hfirst
      | some table =>
        have hpair := pair_written htable (hrep _ _ (hentry ▸ htable)) hfirst hword
        have hline : (d.values ++ [p.1, p.2]).length = d.values.length + 2 := by
          rw [List.length_append]
          rfl
        obtain ⟨d', zeros, hpairs, hpos, hvalues, hstop⟩ :=
          ih (d := ⟨d.pos + first.length, d.values ++ [p.1, p.2]⟩) (by rw [hline]; exact hmore) hrest
            (by simp only; omega)
        refine ⟨d', zeros, ?_, ?_, ?_, hstop⟩
        · rw [List.length_cons, BitDecoder.pairs, if_pos hend]
          simp only [← hentry, htable, hpair]
          exact hpairs
        · rw [hpos, List.length_append, Nat.add_assoc]
        · rw [hvalues, bigList_cons, List.append_assoc]
    · -- what is left takes no bits
      have hempty : bits = [] := List.eq_nil_of_length_eq_zero (by omega)
      rw [hempty] at hbits
      refine ⟨d, 2 * (p :: big).length, pairs_done (Nat.not_lt.mp hend), ?_, ?_, Or.inr ?_⟩
      · rw [hempty]
        rfl
      · rw [bigBits_nil hbits]
      · omega

theorem quads_written {table : ClumpTable QuadValue 6} (hrep : table.Replicated)
    {quads : List Quad} {bits : List Bool} {d : BitDecoder} {n : ℕ}
    (hbits : count1Bits table quads = some bits) (h : Spells mem d.pos bits)
    (hlast : d.pos + bits.length = last) (hroom : d.values.length + 4 * quads.length ≤ 576)
    (hn : quads.length ≤ n) :
    (d.quads mem table last n).pos = last ∧
      Finds (d.quads mem table last n).values (d.values ++ quadList quads) := by
  induction quads generalizing d bits n with
  | nil =>
    cases hbits
    rw [quads_done hlast.ge]
    exact ⟨hlast, 0, rfl⟩
  | cons q quads ih =>
    rw [List.length_cons] at hroom hn
    by_cases hend : d.pos < last
    · obtain ⟨first, hfirst, hmap⟩ := Option.bind_eq_some_iff.mp hbits
      obtain ⟨more, hmore, rfl⟩ := Option.map_eq_some_iff.mp hmap
      obtain ⟨hword, hrest⟩ := spells_append.mp h
      rw [List.length_append] at hlast
      obtain ⟨m, rfl⟩ : ∃ m, n = m + 1 := ⟨n - 1, by omega⟩
      have hquad := quad_written hrep hfirst hword
      have hlength : (d.values ++ q.values).length = d.values.length + 4 := by
        rw [List.length_append]
        rfl
      rw [BitDecoder.quads, if_pos ⟨hend, by omega⟩, hquad]
      obtain ⟨hpos, zeros, hvalues⟩ :=
        ih (d := ⟨d.pos + first.length, d.values ++ q.values⟩) hmore hrest (by simp only; omega)
          (by rw [hlength]; omega) (show quads.length ≤ m by omega)
      refine ⟨hpos, zeros, ?_⟩
      rw [hvalues, quadList_cons, List.append_assoc]
    · have hempty : bits = [] := List.eq_nil_of_length_eq_zero (by omega)
      rw [hempty] at hbits hlast
      rw [quads_done (Nat.not_lt.mp hend)]
      refine ⟨hlast, 4 * (q :: quads).length, ?_⟩
      rw [count1Bits_nil hbits]

theorem trim_of_le {d : BitDecoder} (h : d.pos ≤ last) : d.trim last = d.values :=
  if_neg (Nat.not_lt.mpr h)

/-- All that was written is found, and no more. -/
theorem decode_written (hpair : ∀ select table, (tables.pair select).table = some table →
      table.Replicated) (hquad : ∀ select, (tables.quad select).Replicated)
    (hregion : (tables.pair (channel.tableSelect 0)).table.isSome = true) {words : CodeWords}
    {bits : List Bool} (hbits : words.bits tables channel widths = some bits)
    (hbig : words.big.length = channel.bigValues) (hroom : words.values.length ≤ 576) {start : ℕ}
    (h : Spells mem start bits) :
    (BitDecoder.decode tables mem channel widths start (start + bits.length)).2 = .none ∧
      Finds (BitDecoder.decode tables mem channel widths start (start + bits.length)).1
        words.values := by
  obtain ⟨first, hfirst, hmap⟩ := Option.bind_eq_some_iff.mp hbits
  obtain ⟨more, hmore, rfl⟩ := Option.map_eq_some_iff.mp hmap
  obtain ⟨hwords, hrest⟩ := spells_append.mp h
  obtain ⟨last, hlast⟩ : ∃ last, last = start + (first ++ more).length := ⟨_, rfl⟩
  have hend : start + first.length + more.length = last := by
    rw [hlast, List.length_append, Nat.add_assoc]
  have hnone : (tables.pair (channel.tableSelect 0)).table.isNone = false := by
    rw [← Option.not_isSome, hregion]
    rfl
  have hpart : start + first.length ≤ last := by omega
  obtain ⟨d, zeros, hpairs, hpos, hvalues, hstop⟩ := pairs_written (d := ⟨start, []⟩) hpair hfirst
    hwords hpart
  simp only [List.nil_append] at hpos hvalues
  rw [hbig] at hpairs
  have hdecode : BitDecoder.decode tables mem channel widths start last =
      ((d.quads mem (tables.quad (channel.flags &&& count1tableSelect)) last 144).trim last,
        .none) := by
    simp only [BitDecoder.decode, hnone, hpairs]
    rw [if_neg (by decide), if_neg (by decide), if_neg (by omega)]
  rw [← hlast, hdecode]
  refine ⟨rfl, ?_⟩
  rw [CodeWords.values, List.length_append, bigList_length, quadList_length] at hroom
  rcases hstop with hall | hstop
  · -- all pairs have been found
    rw [hall, List.replicate_zero, List.append_nil] at hvalues
    have hlength : d.values.length = 2 * words.big.length := by rw [hvalues, bigList_length]
    have hpart : d.pos + more.length = last := by omega
    obtain ⟨hquads, hfinds⟩ := quads_written (hquad (channel.flags &&& count1tableSelect)) hmore
      (hpos ▸ hrest) hpart (by omega) (show words.count1.length ≤ 144 by omega)
    rw [trim_of_le hquads.le, CodeWords.values, ← hvalues]
    exact hfinds
  · -- the part has ended among the pairs: all that follows is 0
    have hempty : more = [] := List.eq_nil_of_length_eq_zero (by omega)
    rw [hempty] at hmore
    rw [quads_done hstop.ge, trim_of_le hstop.le]
    refine ⟨zeros + 4 * words.count1.length, ?_⟩
    rw [CodeWords.values, ← hvalues, count1Bits_nil hmore, List.append_assoc,
      List.replicate_append_replicate]

end

/-! ### What can be written -/

/-- The absolute values below this one can be written with table `select`. -/
def valueRange (select : ℕ) : ℕ :=
  if (pairTableAt select).linbits = 0 then pairRange select
  else 15 + 2 ^ (pairTableAt select).linbits

/-- A pair that can be written with table `select` -/
structure PairFits (select : ℕ) (p : ℤ × ℤ) : Prop where
  used : (pairTableAt select).table.isSome = true
  x_lt : p.1.natAbs < valueRange select
  y_lt : p.2.natAbs < valueRange select

instance (select : ℕ) (p : ℤ × ℤ) : Decidable (PairFits select p) :=
  decidable_of_iff ((pairTableAt select).table.isSome = true ∧ p.1.natAbs < valueRange select ∧
    p.2.natAbs < valueRange select)
    ⟨fun h => ⟨h.1, h.2.1, h.2.2⟩, fun h => ⟨h.used, h.x_lt, h.y_lt⟩⟩

/-- A table with linbits has a code for all pairs of values up to 15. -/
theorem pairRange_linbits : ∀ select, (pairTableAt select).linbits ≠ 0 → pairRange select = 16 := by
  intro select hlinbits
  by_cases hhigh : 16 ≤ select
  · exact List.getD_eq_default _ _ hhigh
  · have hnone : ∀ low < 16, (pairTableAt low).linbits = 0 := by decide +kernel
    exact absurd (hnone select (Nat.not_le.mp hhigh)) hlinbits

theorem symbol_lt {select : ℕ} {value : ℤ} (h : value.natAbs < valueRange select) :
    ValueFits (pairTableAt select).linbits value ∧
      symbol (pairTableAt select).linbits value < pairRange select := by
  rw [valueRange] at h
  rw [ValueFits, symbol]
  by_cases hnone : (pairTableAt select).linbits = 0
  · rw [if_pos hnone] at h
    rw [if_pos hnone]
    exact ⟨fun hlin => absurd hnone hlin, h⟩
  · rw [if_neg hnone] at h
    rw [if_neg hnone, pairRange_linbits select hnone]
    exact ⟨fun _ => h, by omega⟩

theorem PairFits.bits_isSome {select : ℕ} {p : ℤ × ℤ} (h : PairFits select p) :
    (pairBits (pairTableAt select) p.1 p.2).isSome = true := by
  obtain ⟨table, htable⟩ := Option.isSome_iff_exists.mp h.used
  have hx := symbol_lt h.x_lt
  have hy := symbol_lt h.y_lt
  have hindex : pairRange select * symbol (pairTableAt select).linbits p.1 +
      symbol (pairTableAt select).linbits p.2 < pairRange select * pairRange select := by
    calc pairRange select * symbol (pairTableAt select).linbits p.1 +
          symbol (pairTableAt select).linbits p.2
        < pairRange select * symbol (pairTableAt select).linbits p.1 + pairRange select :=
          Nat.add_lt_add_left hy.2 _
      _ = pairRange select * (symbol (pairTableAt select).linbits p.1 + 1) := by rw [Nat.mul_succ]
      _ ≤ pairRange select * pairRange select := Nat.mul_le_mul_left _ hx.2
  have hcode := (pairTableAt_complete htable).covers.codeOf_isSome pairIndex_inj
    (a := ⟨symbol (pairTableAt select).linbits p.1, symbol (pairTableAt select).linbits p.2⟩)
    (if_pos ⟨hx.2, hy.2⟩) hindex
  rw [pairBits, if_pos ⟨hx.1, hy.1⟩, Option.isSome_map, htable, Option.bind_some]
  exact hcode

/-- Values of -1, 0 and 1 -/
structure Quad.Units (q : Quad) : Prop where
  v_lt : q.v.natAbs < 2
  w_lt : q.w.natAbs < 2
  x_lt : q.x.natAbs < 2
  y_lt : q.y.natAbs < 2

instance (q : Quad) : Decidable q.Units :=
  decidable_of_iff (q.v.natAbs < 2 ∧ q.w.natAbs < 2 ∧ q.x.natAbs < 2 ∧ q.y.natAbs < 2)
    ⟨fun h => ⟨h.1, h.2.1, h.2.2.1, h.2.2.2⟩, fun h => ⟨h.v_lt, h.w_lt, h.x_lt, h.y_lt⟩⟩

theorem Quad.Units.bits_isSome {q : Quad} (h : q.Units) (select : ℕ) :
    (quadBits (quadTableAt select) q).isSome = true := by
  obtain ⟨hv, hw, hx, hy⟩ := h
  rw [quadBits, if_pos ⟨hv, hw, hx, hy⟩, Option.isSome_map]
  refine (quadTableAt_complete select).2.codeOf_isSome quadIndex_inj (if_pos ⟨hv, hw, hx, hy⟩) ?_
  simp only
  omega

/-- The words of a channel, each in the range of its table -/
structure CodeWords.Fits (words : CodeWords) (channel : Channel) (widths : List ℕ) : Prop where
  region0 : (pairTableAt (channel.tableSelect 0)).table.isSome = true
  count : words.big.length = channel.bigValues
  room : words.values.length ≤ 576
  pairs : ∀ p ∈ words.big.zipIdx,
    PairFits (channel.tableSelect (regionOf channel (bandOf widths (2 * p.2)))) p.1
  units : ∀ q ∈ words.count1, q.Units

theorem bigBits_isSome {channel : Channel} {widths : List ℕ} {big : List (ℤ × ℤ)} {i : ℕ}
    (h : ∀ p ∈ big.zipIdx i,
      PairFits (channel.tableSelect (regionOf channel (bandOf widths (2 * p.2)))) p.1) :
    (bigBits madHuffTables channel widths (2 * i) big).isSome = true := by
  induction big generalizing i with
  | nil => rfl
  | cons p big ih =>
    rw [List.zipIdx_cons] at h
    have hfirst := (h (p, i) List.mem_cons_self).bits_isSome
    have hrest := ih fun q hq => h q (List.mem_cons_of_mem _ hq)
    obtain ⟨bits, hbits⟩ := Option.isSome_iff_exists.mp hfirst
    have hbits' : pairBits (madHuffTables.pair
        (channel.tableSelect (regionOf channel (bandOf widths (2 * i))))) p.1 p.2 = some bits := hbits
    rw [bigBits, hbits', Option.bind_some, Option.isSome_map]
    exact hrest

theorem count1Bits_isSome {quads : List Quad} (h : ∀ q ∈ quads, q.Units) (select : ℕ) :
    (count1Bits (quadTableAt select) quads).isSome = true := by
  induction quads with
  | nil => rfl
  | cons q quads ih =>
    obtain ⟨bits, hbits⟩ :=
      Option.isSome_iff_exists.mp ((h q List.mem_cons_self).bits_isSome select)
    rw [count1Bits, hbits, Option.bind_some, Option.isSome_map]
    exact ih fun q' hq => h q' (List.mem_cons_of_mem _ hq)

theorem CodeWords.Fits.bits_isSome {words : CodeWords} {channel : Channel} {widths : List ℕ}
    (h : words.Fits channel widths) :
    (words.bits madHuffTables channel widths).isSome = true := by
  obtain ⟨big, hbig⟩ := Option.isSome_iff_exists.mp (bigBits_isSome h.pairs)
  rw [CodeWords.bits, hbig, Option.bind_some, Option.isSome_map]
  exact count1Bits_isSome h.units (channel.flags &&& count1tableSelect)

/-! ### `III_huffdecode` -/

/-- The lines that have been found, and 0 behind them -/
theorem Finds.spectrum {found written : List ℤ} (h : Finds found written)
    (requantize : ℕ → ℤ → ℤ) (widths : List ℕ) (exponents : ℕ → ℤ) (xr : ℕ → ℤ) {i : ℕ}
    (hi : i < 576) :
    Mp3Decoder.spectrum requantize widths exponents found (restLines .none xr) i =
      requantized requantize (written.getD i 0) (exponents (bandOf widths i)) := by
  obtain ⟨zeros, rfl⟩ := h
  rw [Mp3Decoder.spectrum]
  by_cases hin : i < found.length
  · rw [dif_pos hin, List.getD_eq_getElem?_getD, List.getElem?_append_left hin,
      List.getElem?_eq_getElem hin, Option.getD_some]
  · rw [dif_neg hin, restLines, if_pos ⟨rfl, hi⟩, List.getD_eq_getElem?_getD,
      List.getElem?_append_right (Nat.not_lt.mp hin), List.getElem?_replicate]
    split_ifs
    · rfl
    · rfl

/-- What has been written behind the scalefactors is decoded. -/
theorem iiiHuffdecode_written (requantize : ℕ → ℤ → ℤ) {mem : Mem} {ptr : MainPtr} {pos : ℕ}
    (hpos : AtBit mem ptr.bits pos) (xr : ℕ → ℤ) {channel : Channel}
    (hbig : channel.bigValues ≤ 288) (hcounts : HuffState.RegionCounts channel) {widths : List ℕ}
    (hw : BandWidths widths) (exponents : ℕ → ℤ) {words : CodeWords}
    (hfits : words.Fits channel widths) {bits : List Bool}
    (hbits : words.bits madHuffTables channel widths = some bits) {part2Length : ℕ}
    (hlength : channel.part23Length = part2Length + bits.length) (hwritten : Spells mem pos bits) :
    let r := iiiHuffdecode requantize mem ptr xr channel widths part2Length exponents
    r.error = .none ∧ AtBit mem r.ptr.bits (pos + bits.length) ∧
      ∀ i < 576, r.xr i = requantized requantize (words.values.getD i 0)
        (iiiExponents channel widths exponents (bandOf widths i)) := by
  have hint : (channel.part23Length : ℤ) - part2Length = bits.length := by omega
  simp only [iiiHuffdecode, huffdecodeWith, hint]
  rw [if_neg (by omega)]
  obtain ⟨hi, hle, hcursor⟩ := exists_cursor hpos (pos + bits.length + 63)
  obtain ⟨herror, hxr⟩ := huffdecodePart_follows requantize madHuffTables hcursor xr hbig hcounts hw
    bits.length (iiiExponents channel widths exponents) hle
  have hpair : ∀ select table, (madHuffTables.pair select).table = some table → table.Replicated :=
    fun select table htable => (pairTableAt_complete htable).replicated
  have hquad : ∀ select, (madHuffTables.quad select).Replicated :=
    fun select => (quadTableAt_complete select).1
  obtain ⟨hdecode, hfinds⟩ := decode_written hpair hquad hfits.region0 hbits hfits.count hfits.room
    hwritten
  rw [hdecode] at herror hxr
  rw [huffdecodePart_bits, herror, hxr, Int.toNat_natCast]
  exact ⟨rfl, hpos.skip _, fun i hi => hfinds.spectrum requantize widths _ xr hi⟩

/-- **Every spectrum in the range of its tables has bits, and from them `III_huffdecode` gets it
back.**  It ends behind the last of them. -/
theorem huffman_roundTrip (requantize : ℕ → ℤ → ℤ) {channel : Channel}
    (haccepted : channel.Accepted) {widths : List ℕ} (hw : BandWidths widths) {words : CodeWords}
    (hfits : words.Fits channel widths) :
    ∃ bits, words.bits madHuffTables channel widths = some bits ∧
      ∀ (mem : Mem) (ptr : MainPtr) (pos part2Length : ℕ) (xr exponents : ℕ → ℤ),
        AtBit mem ptr.bits pos → Spells mem pos bits →
        channel.part23Length = part2Length + bits.length →
        let r := iiiHuffdecode requantize mem ptr xr channel widths part2Length exponents
        r.error = .none ∧ AtBit mem r.ptr.bits (pos + bits.length) ∧
          ∀ i < 576, r.xr i = requantized requantize (words.values.getD i 0)
            (iiiExponents channel widths exponents (bandOf widths i)) := by
  obtain ⟨bits, hbits⟩ := Option.isSome_iff_exists.mp hfits.bits_isSome
  refine ⟨bits, hbits, ?_⟩
  intro mem ptr pos part2Length xr exponents hpos hwritten hlength
  exact iiiHuffdecode_written requantize hpos xr haccepted.bigValues_le haccepted.regionCounts hw
    exponents hfits hbits hlength hwritten

/-- Two pairs of table 1 and a quadruple, behind 5 bits of scalefactors -/
theorem huffman_roundTrip_long :
    let words : CodeWords := ⟨[(1, 0), (0, -1)], [⟨0, -1, 0, 1⟩]⟩
    let bits := [false, true, false, false, false, true, true, false, false, false, true, false,
      true, true, false]
    let channel : Channel := { part23Length := 20, bigValues := 2, tableSelect := fun _ => 1 }
    let r := iiiHuffdecode (fun value exp => value * exp) (pack bits) { bits := madBitInit 0 }
      (fun _ => 7) channel sfb44100Long 5 fun _ => 3
    words.bits madHuffTables channel sfb44100Long = some bits ∧ r.error = .none ∧
      AtBit (pack bits) r.ptr.bits 15 ∧
      ∀ i < 576, r.xr i = requantized (fun value exp => value * exp)
        (words.values.getD i 0) (iiiExponents channel sfb44100Long (fun _ => 3)
          (bandOf sfb44100Long i)) := by
  intro words bits channel r
  have hbits : words.bits madHuffTables channel sfb44100Long = some bits := by decide +kernel
  have haccepted : channel.Accepted :=
    ⟨by decide, by decide, fun _ => ⟨by decide, by decide⟩, fun hswitched => absurd rfl hswitched⟩
  have hw : BandWidths sfb44100Long := ⟨by decide, by decide, by decide⟩
  have hfits : words.Fits channel sfb44100Long :=
    ⟨by decide, by decide, by decide, by decide +kernel, by decide⟩
  obtain ⟨found, hfound, hall⟩ :=
    huffman_roundTrip (fun value exp => value * exp) haccepted hw hfits
  have hsame : found = bits := Option.some.inj (hfound.symm.trans hbits)
  rw [hsame] at hall
  exact ⟨hbits, hall (pack bits) { bits := madBitInit 0 } 0 5 (fun _ => 7) (fun _ => 3)
    (atBit_init _ 0) (spells_pack bits) rfl⟩

end Mp3Decoder
