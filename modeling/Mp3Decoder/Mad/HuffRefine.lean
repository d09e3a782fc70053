import Mp3Decoder.Mad.HuffCache
import Mathlib.Algebra.BigOperators.Ring.List

/-!
# `III_huffdecode` is bit-by-bit decoding

Behind every code word the program stands where the decoder of `HuffReference` stands, with the same
lines behind it (`Follows`).  What it keeps besides the cache is a position in the band table
(`InBand`), the table of the region that this band is in (`InRegion`) and the values it has
requantized with the exponent of this band (`Memo`).
-/

namespace Mp3Decoder

open BigEndianBits

/-! ### The spectrum grows at its end -/

variable {requantize : ℕ → ℤ → ℤ} {widths : List ℕ} {exponents : ℕ → ℤ} {xr : ℕ → ℤ}

theorem spectrum_nil : spectrum requantize widths exponents [] xr = xr := by
  funext i
  exact dif_neg (Nat.not_lt_zero i)

theorem spectrum_append (values : List ℤ) (value : ℤ) :
    spectrum requantize widths exponents (values ++ [value]) xr =
      Function.update (spectrum requantize widths exponents values xr) values.length
        (requantized requantize value (exponents (bandOf widths values.length))) := by
  funext i
  simp only [spectrum, List.length_append, List.length_singleton]
  by_cases hlast : i = values.length
  · rw [hlast, Function.update_self, dif_pos (Nat.lt_succ_self _),
      List.getElem_append_right (Nat.le_refl _)]
    simp only [Nat.sub_self, List.getElem_cons_zero]
  · rw [Function.update_of_ne hlast]
    simp only [spectrum]
    by_cases hin : i < values.length
    · rw [dif_pos hin, dif_pos (Nat.lt_succ_of_lt hin), List.getElem_append_left hin]
    · rw [dif_neg hin, dif_neg (by omega)]

theorem requantized_readSign (mem : Mem) (pos : ℕ) {value : ℕ} (hvalue : value ≠ 0) (exp : ℤ) :
    requantized requantize (readSign mem pos value).1 exp =
      if bitAt mem pos = 1 then -requantize value exp else requantize value exp := by
  rw [readSign, if_neg hvalue]
  by_cases hsign : bitAt mem pos = 1
  · have hneg : -(value : ℤ) < 0 := by omega
    simp only [if_pos hsign, requantized]
    rw [if_neg (by omega), if_pos hneg, Int.natAbs_neg, Int.natAbs_natCast]
  · simp only [if_neg hsign, requantized]
    rw [if_neg (by omega), if_neg (by omega), Int.natAbs_natCast]

namespace HuffState

variable {mem : Mem} {lo hi last : ℕ} {s t u : HuffState} {pos : ℕ}

/-! ### The values -/

/-- Nothing but the cache, the lines and the remembered values has changed. -/
structure SameBand (s t : HuffState) : Prop where
  xrptr : t.xrptr = s.xrptr
  sfbound : t.sfbound = s.sfbound
  sfbwidth : t.sfbwidth = s.sfbwidth
  exp : t.exp = s.exp
  expptr : t.expptr = s.expptr
  region : t.region = s.region
  rcount : t.rcount = s.rcount
  table : t.table = s.table
  linbits : t.linbits = s.linbits

theorem SameBand.trans (h : SameBand s t) (h' : SameBand t u) : SameBand s u :=
  ⟨h'.xrptr.trans h.xrptr, h'.sfbound.trans h.sfbound, h'.sfbwidth.trans h.sfbwidth,
    h'.exp.trans h.exp, h'.expptr.trans h.expptr, h'.region.trans h.region,
    h'.rcount.trans h.rcount, h'.table.trans h.table, h'.linbits.trans h.linbits⟩

/-- What the program remembers it has requantized with the exponent of this band. -/
def Memo (requantize : ℕ → ℤ → ℤ) (s : HuffState) : Prop :=
  ∀ value, s.reqhits.testBit value = true → s.reqcache value = requantize value s.exp

/-- Line `xrptr + i` has been set to `value`, requantized. -/
structure Wrote (requantize : ℕ → ℤ → ℤ) (s t : HuffState) (i : ℕ) (value : ℤ) : Prop where
  xr_eq : t.xr = Function.update s.xr (s.xrptr + i) (requantized requantize value s.exp)
  memo : s.Memo requantize → t.Memo requantize
  same : SameBand s t

theorem Ahead.signed_xr (h : Ahead mem lo hi last s pos) (hone : 1 ≤ s.cachesz)
    (requantized : ℤ) (i : ℕ) :
    (s.signed requantized i).xr = Function.update s.xr (s.xrptr + i)
      (if bitAt mem pos = 1 then -requantized else requantized) := by
  have hnat : (s.cachesz - 1).toNat = s.cachesz.toNat - 1 := by omega
  have hbit := h.holds.testBit (by omega)
  rw [← hnat] at hbit
  simp only [HuffState.signed, hbit, decide_eq_true_eq]

theorem Memo.insert (h : s.Memo requantize) (value : ℕ) :
    Memo requantize { s with
      reqhits := s.reqhits ||| 1 <<< value
      reqcache := Function.update s.reqcache value (requantize value s.exp) } := by
  intro other hother
  show Function.update s.reqcache value (requantize value s.exp) other = requantize other s.exp
  by_cases hsame : other = value
  · rw [hsame, Function.update_self]
  · rw [Function.update_of_ne hsame]
    apply h
    rw [Nat.testBit_or, Nat.one_shiftLeft, Nat.testBit_two_pow_of_ne (Ne.symm hsame),
      Bool.or_false] at hother
    exact hother

theorem Ahead.plainValue_wrote (h : Ahead mem lo hi last s pos) (hone : 1 ≤ s.cachesz)
    (hmemo : s.Memo requantize) (value i : ℕ) :
    Wrote requantize s (s.plainValue requantize value i) i (readSign mem pos value).1 := by
  by_cases hzero : value = 0
  · rw [HuffState.plainValue, if_pos hzero, hzero]
    exact ⟨rfl, id, rfl, rfl, rfl, rfl, rfl, rfl, rfl, rfl, rfl⟩
  · rw [HuffState.plainValue, if_neg hzero]
    by_cases hhit : s.reqhits.testBit value
    · rw [if_pos hhit, hmemo value hhit]
      refine ⟨?_, id, rfl, rfl, rfl, rfl, rfl, rfl, rfl, rfl, rfl⟩
      rw [h.signed_xr hone, requantized_readSign mem pos hzero]
    · rw [if_neg hhit]
      obtain ⟨t, ht⟩ : ∃ t : HuffState, t = { s with
        reqhits := s.reqhits ||| 1 <<< value
        reqcache := Function.update s.reqcache value (requantize value s.exp) } := ⟨_, rfl⟩
      have hat : Ahead mem lo hi last t pos := by
        rw [ht]
        exact h.of_eq rfl rfl rfl rfl
      have hxr := hat.signed_xr (by rw [ht]; exact hone) (requantize value s.exp) i
      simp only [← ht]
      refine ⟨?_, fun _ => ?_, ?_⟩
      · rw [hxr, requantized_readSign mem pos hzero, ht]
      · show t.Memo requantize
        rw [ht]
        exact hmemo.insert value
      · rw [ht]
        exact ⟨rfl, rfl, rfl, rfl, rfl, rfl, rfl, rfl, rfl⟩

theorem linbitsFull_wrote (mem : Mem) (s : HuffState) (room : ℕ) :
    SameBand s (s.linbitsFull mem room) ∧ (s.linbitsFull mem room).xr = s.xr ∧
      (s.linbitsFull mem room).reqhits = s.reqhits ∧
      (s.linbitsFull mem room).reqcache = s.reqcache := by
  rw [HuffState.linbitsFull]
  split_ifs <;> exact ⟨⟨rfl, rfl, rfl, rfl, rfl, rfl, rfl, rfl, rfl⟩, rfl, rfl, rfl⟩

/-- The linbits and the sign of a value. -/
theorem Ahead.linbitsValue_wrote (h : Ahead mem lo hi last s pos) (hlinbits : s.linbits ≤ 13)
    {room : ℕ} (hroom : room ≤ 2) (hpos : 1 ≤ room) (hhi : pos + 30 ≤ hi) (i : ℕ) :
    Wrote requantize s (s.linbitsValue requantize mem i room) i
      (readSign mem (pos + s.linbits) (15 + bitsVal mem pos s.linbits)).1 := by
  obtain ⟨hfull, henough⟩ := h.linbitsFull hlinbits hroom hhi
  obtain ⟨hsame, hxr, hhits, hcache⟩ := linbitsFull_wrote mem s room
  have htaken := h.linbitsTaken hlinbits hroom hhi
  obtain ⟨full, hf⟩ : ∃ full, full = s.linbitsFull mem room := ⟨_, rfl⟩
  rw [← hf] at hfull henough hsame hxr hhits hcache htaken
  obtain ⟨taken, ht⟩ : ∃ taken : HuffState, taken = { full with
    cachesz := full.cachesz - full.linbits } := ⟨_, rfl⟩
  rw [← ht] at htaken
  have hmask : ClumpTable.mask full.bitcache full.cachesz full.linbits =
      bitsVal mem pos s.linbits := by
    have hnat : (full.cachesz - full.linbits).toNat = full.cachesz.toNat - full.linbits := by omega
    rw [ClumpTable.mask, hnat, hsame.linbits]
    exact hfull.holds.top (by omega)
  have hvalue : s.linbitsValue requantize mem i room =
      taken.signed (requantize (15 + bitsVal mem pos s.linbits) s.exp) i := by
    rw [← hmask, ← hsame.exp, ht, hf]
    rfl
  have hleft : 1 ≤ taken.cachesz := by
    rw [ht]
    show 1 ≤ full.cachesz - full.linbits
    rw [hsame.linbits]
    omega
  rw [hvalue]
  refine ⟨?_, fun hmemo => ?_, ?_⟩
  · rw [htaken.signed_xr hleft, requantized_readSign _ _ (by omega), ht]
    show Function.update full.xr (full.xrptr + i) _ = _
    rw [hxr, hsame.xrptr]
  · rw [ht]
    show ∀ value, full.reqhits.testBit value = true → full.reqcache value = _
    rw [hhits, hcache]
    show ∀ value, s.reqhits.testBit value = true → s.reqcache value = requantize value full.exp
    rw [hsame.exp]
    exact hmemo
  · rw [ht]
    exact ⟨hsame.xrptr, hsame.sfbound, hsame.sfbwidth, hsame.exp, hsame.expptr, hsame.region,
      hsame.rcount, hsame.table, hsame.linbits⟩

theorem Ahead.pairValue_wrote (h : Ahead mem lo hi last s pos) (hlinbits : s.linbits ≤ 13)
    {room : ℕ} (hroom : room ≤ 2) (hpos : 1 ≤ room) (henough : room ≤ s.cachesz)
    (hhi : pos + 30 ≤ hi) (hmemo : s.Memo requantize) (value i : ℕ) :
    Wrote requantize s (s.pairValue requantize mem value i room) i
      (readValue mem s.linbits pos value).1 := by
  rw [HuffState.pairValue, readValue]
  by_cases hlin : s.linbits ≠ 0 ∧ value = 15
  · rw [if_pos hlin, if_pos hlin]
    exact h.linbitsValue_wrote hlinbits hroom hpos hhi i
  · rw [if_neg hlin, if_neg hlin]
    exact h.plainValue_wrote (by omega) hmemo value i

theorem Ahead.quadValue_wrote (requantize : ℕ → ℤ → ℤ) (h : Ahead mem lo hi last s pos)
    (hone : 1 ≤ s.cachesz)
    (value i : ℕ) :
    Wrote requantize s (s.quadValue requantize value i) i (readUnit mem pos value).1 := by
  rw [HuffState.quadValue, readUnit]
  by_cases hzero : value ≠ 0
  · rw [if_pos hzero, if_pos hzero]
    refine ⟨?_, id, rfl, rfl, rfl, rfl, rfl, rfl, rfl, rfl, rfl⟩
    rw [h.signed_xr hone, requantized_readSign mem pos one_ne_zero]
  · rw [if_neg hzero, if_neg hzero]
    exact ⟨rfl, id, rfl, rfl, rfl, rfl, rfl, rfl, rfl, rfl, rfl⟩

/-! ### The band -/

/-- The program is in band `band`, or at its end. -/
structure InBand (widths : List ℕ) (exponents : ℕ → ℤ) (s : HuffState) (band : ℕ) : Prop where
  band_lt : band < widths.length
  sfbound_eq : s.sfbound = (widths.take (band + 1)).sum
  sfbwidth_eq : s.sfbwidth = widths.drop (band + 1)
  exp_eq : s.exp = exponents band
  expptr_eq : s.expptr = band + 1
  low : (widths.take band).sum ≤ s.xrptr
  high : s.xrptr ≤ s.sfbound

theorem InBand.of_same {band : ℕ} (h : InBand widths exponents s band) (hsame : SameBand s t) :
    InBand widths exponents t band :=
  ⟨h.band_lt, hsame.sfbound.trans h.sfbound_eq, hsame.sfbwidth.trans h.sfbwidth_eq,
    hsame.exp.trans h.exp_eq, hsame.expptr.trans h.expptr_eq, hsame.xrptr ▸ h.low,
    hsame.xrptr ▸ hsame.sfbound ▸ h.high⟩

/-- A band that ends before the last line is not the last one. -/
theorem InBand.succ_lt {band : ℕ} (h : InBand widths exponents s band) (hw : BandWidths widths)
    (hbound : s.xrptr = s.sfbound) (hxr : s.xrptr < 576) : band + 1 < widths.length := by
  by_contra hlast
  have hall : widths.take (band + 1) = widths := List.take_of_length_le (by omega)
  have hsum := h.sfbound_eq
  rw [hall, hw.sum_eq] at hsum
  omega

/-- At the end of a band that is not the last one. -/
theorem InBand.next {band : ℕ} (h : InBand widths exponents s band) (hw : BandWidths widths)
    (hbound : s.xrptr = s.sfbound) (hxr : s.xrptr < 576) (hxrptr : t.xrptr = s.xrptr)
    (hsfbound : t.sfbound = s.sfbound + s.sfbwidth.headD 0) (hsfbwidth : t.sfbwidth = s.sfbwidth.tail)
    (hexp : t.exp = exponents s.expptr) (hexpptr : t.expptr = s.expptr + 1) :
    InBand widths exponents t (band + 1) ∧ t.xrptr < t.sfbound := by
  have hlt := h.succ_lt hw hbound hxr
  have hhead : s.sfbwidth.headD 0 = widths[band + 1] := by
    rw [h.sfbwidth_eq, List.drop_eq_getElem_cons hlt, List.headD_cons]
  have hsum : (widths.take (band + 2)).sum = (widths.take (band + 1)).sum + widths[band + 1] := by
    rw [List.take_succ_eq_append_getElem hlt, List.sum_append, List.sum_singleton]
  have hpos := hw.pos widths[band + 1] (List.getElem_mem hlt)
  have hbound' := h.sfbound_eq
  refine ⟨⟨hlt, ?_, ?_, ?_, ?_, ?_, ?_⟩, ?_⟩
  · rw [hsfbound, hhead, hsum, hbound']
  · rw [hsfbwidth, h.sfbwidth_eq, List.tail_drop]
  · rw [hexp, h.expptr_eq]
  · rw [hexpptr, h.expptr_eq]
  · rw [hxrptr, hbound, hbound']
  · rw [hxrptr, hsfbound, hbound]
    omega
  · rw [hxrptr, hsfbound, hhead, hbound]
    omega

/-- Two more lines of a band that has not ended. -/
theorem InBand.two {band : ℕ} (h : InBand widths exponents s band) (hw : BandWidths widths)
    (hinside : s.xrptr < s.sfbound) (heven : 2 ∣ s.xrptr) :
    bandOf widths s.xrptr = band ∧ bandOf widths (s.xrptr + 1) = band ∧
      s.xrptr + 2 ≤ s.sfbound := by
  have hbound := h.sfbound_eq
  have hlow := h.low
  have hdvd : 2 ∣ s.sfbound := by
    rw [hbound]
    exact List.dvd_sum fun width hwidth => hw.even width (List.mem_of_mem_take hwidth)
  refine ⟨bandOf_eq h.band_lt hlow (by omega), bandOf_eq h.band_lt (by omega) (by omega), by omega⟩

/-! ### The region -/

/-- The program has the table of the region that band `band` is in. -/
structure InRegion (tables : HuffTables) (channel : Channel) (s : HuffState) (band : ℕ) : Prop where
  region_eq : s.region = regionOf channel band
  table_eq : (tables.pair (channel.tableSelect s.region)).table = some s.table
  linbits_eq : s.linbits = (tables.pair (channel.tableSelect s.region)).linbits
  rcount_lt : s.rcount < 2 ^ 32
  rcount_eq : (s.rcount + band) % 2 ^ 32 =
    if s.region = 0 then channel.region0Count + 1
    else channel.region0Count + 1 + channel.region1Count + 1

theorem InRegion.of_same {tables : HuffTables} {channel : Channel} {band : ℕ}
    (h : InRegion tables channel s band) (hsame : SameBand s t) : InRegion tables channel t band := by
  obtain ⟨hregion, htable, hlinbits, hlt, hcount⟩ := h
  refine ⟨hsame.region.trans hregion, ?_, ?_, hsame.rcount ▸ hlt, ?_⟩
  · rw [hsame.region, hsame.table, htable]
  · rw [hsame.region, hsame.linbits, hlinbits]
  · rw [hsame.region, hsame.rcount, hcount]

/-- `region0_count` and `region1_count` are `unsigned char`s. -/
structure RegionCounts (channel : Channel) : Prop where
  region0 : channel.region0Count < 2 ^ 8
  region1 : channel.region1Count < 2 ^ 8

/-- When the region ends, and which one follows. -/
theorem InRegion.boundary {tables : HuffTables} {channel : Channel} {band : ℕ}
    (h : InRegion tables channel s band) (hcounts : RegionCounts channel) (hband : band < 576) :
    ((s.rcount + 2 ^ 32 - 1) % 2 ^ 32 = 0 ∧ s.region < 2 ∧
        regionOf channel (band + 1) = s.region + 1) ∨
      ((s.rcount + 2 ^ 32 - 1) % 2 ^ 32 ≠ 0 ∧ regionOf channel (band + 1) = s.region) := by
  obtain ⟨hregion, -, -, hlt, hcount⟩ := h
  have h0 := hcounts.region0
  have h1 := hcounts.region1
  rw [regionOf] at hregion ⊢
  split_ifs at hregion hcount ⊢ <;> omega

/-- The next band of the big values, its region with a table or without. -/
theorem nextRegion_cases {tables : HuffTables} {channel : Channel} {band : ℕ}
    (hregion : InRegion tables channel s band) (hcounts : RegionCounts channel)
    (hband : band < 576) :
    (s.nextRegion tables channel = none ∧
        (tables.pair (channel.tableSelect (regionOf channel (band + 1)))).table = none) ∨
      ∃ t, s.nextRegion tables channel = some t ∧ InRegion tables channel t (band + 1) ∧
        t.xrptr = s.xrptr ∧ t.sfbound = s.sfbound + s.sfbwidth.headD 0 ∧
        t.sfbwidth = s.sfbwidth.tail ∧ t.exp = s.exp ∧ t.expptr = s.expptr ∧ t.xr = s.xr ∧
        t.reqhits = s.reqhits ∧ t.reqcache = s.reqcache := by
  have hlt := hregion.rcount_lt
  have hcount := hregion.rcount_eq
  have h0 := hcounts.region0
  have h1 := hcounts.region1
  simp only [HuffState.nextRegion]
  rcases hregion.boundary hcounts hband with ⟨hzero, htwo, hnext⟩ | ⟨hmore, hnext⟩
  · rw [if_pos hzero, hnext]
    cases htable : (tables.pair (channel.tableSelect (s.region + 1))).table with
    | none => exact .inl ⟨rfl, rfl⟩
    | some table =>
      refine .inr ⟨_, rfl, ⟨hnext.symm, htable, rfl, ?_, ?_⟩, rfl, rfl, rfl, rfl, rfl, rfl, rfl, rfl⟩
      · show (if s.region = 0 then channel.region1Count + 1 else 0) < 2 ^ 32
        split_ifs <;> omega
      · show ((if s.region = 0 then channel.region1Count + 1 else 0) + (band + 1)) % 2 ^ 32 =
          if s.region + 1 = 0 then channel.region0Count + 1
          else channel.region0Count + 1 + channel.region1Count + 1
        rw [if_neg (Nat.succ_ne_zero s.region)]
        split_ifs at hcount ⊢ <;> omega
  · rw [if_neg hmore]
    refine .inr ⟨_, rfl, ⟨hnext.symm, hregion.table_eq, hregion.linbits_eq, ?_, ?_⟩, rfl, rfl, rfl,
      rfl, rfl, rfl, rfl, rfl⟩
    · show (s.rcount + 2 ^ 32 - 1) % 2 ^ 32 < 2 ^ 32
      omega
    · show ((s.rcount + 2 ^ 32 - 1) % 2 ^ 32 + (band + 1)) % 2 ^ 32 =
        if s.region = 0 then channel.region0Count + 1
        else channel.region0Count + 1 + channel.region1Count + 1
      rw [← hcount]
      omega

theorem nextExponent_memo (s : HuffState) (exponents : ℕ → ℤ) (hmemo : s.Memo requantize) :
    (s.nextExponent exponents).Memo requantize ∧
      (s.nextExponent exponents).exp = exponents s.expptr ∧
      (s.nextExponent exponents).expptr = s.expptr + 1 := by
  rw [HuffState.nextExponent]
  split_ifs with hexp
  · refine ⟨?_, rfl, rfl⟩
    intro value hvalue
    have hnone : (0 : ℕ).testBit value = true := hvalue
    rw [Nat.zero_testBit] at hnone
    cases hnone
  · exact ⟨hmemo, not_not.mp hexp, rfl⟩

/-- Where the next pair of the big values is decoded. -/
structure InPair (requantize : ℕ → ℤ → ℤ) (tables : HuffTables) (channel : Channel)
    (widths : List ℕ) (exponents : ℕ → ℤ) (s : HuffState) (band : ℕ) : Prop where
  inBand : InBand widths exponents s band
  inRegion : InRegion tables channel s band
  memo : s.Memo requantize

theorem InPair.nextBand {tables : HuffTables} {channel : Channel} {band : ℕ}
    (h : InPair requantize tables channel widths exponents s band) (hw : BandWidths widths)
    (hcounts : RegionCounts channel) (hxr : s.xrptr < 576) :
    (s.nextBand tables channel exponents = none ∧ (tables.pair (channel.tableSelect
        (regionOf channel (bandOf widths s.xrptr)))).table = none) ∨
      ∃ t, s.nextBand tables channel exponents = some t ∧
        InPair requantize tables channel widths exponents t (bandOf widths s.xrptr) ∧
        t.xrptr = s.xrptr ∧ t.xr = s.xr ∧ t.xrptr < t.sfbound := by
  have hlength : band < 576 := Nat.lt_of_lt_of_le h.inBand.band_lt hw.length_le
  rw [HuffState.nextBand]
  by_cases hbound : s.xrptr = s.sfbound
  · rw [if_pos hbound]
    have hnextBand : ∀ t : HuffState, t.xrptr = s.xrptr →
        t.sfbound = s.sfbound + s.sfbwidth.headD 0 → t.sfbwidth = s.sfbwidth.tail →
        t.exp = exponents s.expptr → t.expptr = s.expptr + 1 →
        InBand widths exponents t (band + 1) ∧ t.xrptr < t.sfbound :=
      fun t => h.inBand.next hw hbound hxr
    have hband : bandOf widths s.xrptr = band + 1 := by
      obtain ⟨hinside, hlt⟩ := hnextBand { s with
        sfbound := s.sfbound + s.sfbwidth.headD 0
        sfbwidth := s.sfbwidth.tail
        exp := exponents s.expptr
        expptr := s.expptr + 1 } rfl rfl rfl rfl rfl
      apply bandOf_eq hinside.band_lt hinside.low
      rw [← hinside.sfbound_eq]
      exact hlt
    rw [hband]
    rcases nextRegion_cases h.inRegion hcounts hlength with ⟨hnone, htable⟩ | ⟨t, hsome, hregion,
      hxrptr, hsfbound, hsfbwidth, hexp, hexpptr, hxr', hhits, hcache⟩
    · rw [hnone]
      exact .inl ⟨rfl, htable⟩
    · rw [hsome]
      have htmemo : t.Memo requantize := by
        intro value hvalue
        rw [hcache, hexp]
        exact h.memo value (hhits ▸ hvalue)
      obtain ⟨hmemo, hexp', hexpptr'⟩ := nextExponent_memo t exponents htmemo
      rw [hexpptr] at hexp' hexpptr'
      have hsame : (t.nextExponent exponents).xrptr = t.xrptr ∧
          (t.nextExponent exponents).sfbound = t.sfbound ∧
          (t.nextExponent exponents).sfbwidth = t.sfbwidth ∧
          (t.nextExponent exponents).xr = t.xr ∧
          InRegion tables channel (t.nextExponent exponents) (band + 1) := by
        obtain ⟨hregion', htable', hlinbits', hlt', hcount'⟩ := hregion
        rw [HuffState.nextExponent]
        split_ifs <;> exact ⟨rfl, rfl, rfl, rfl, hregion', htable', hlinbits', hlt', hcount'⟩
      obtain ⟨hxrptr', hsfbound', hsfbwidth', hxr'', hregion'⟩ := hsame
      obtain ⟨hinside, hlt⟩ := hnextBand (t.nextExponent exponents) (hxrptr'.trans hxrptr)
        (hsfbound'.trans hsfbound) (hsfbwidth'.trans hsfbwidth) hexp' hexpptr'
      exact .inr ⟨_, rfl, ⟨hinside, hregion', hmemo⟩, hxrptr'.trans hxrptr, hxr''.trans hxr', hlt⟩
  · rw [if_neg hbound]
    have hinside : s.xrptr < s.sfbound := Nat.lt_of_le_of_ne h.inBand.high hbound
    have hband : bandOf widths s.xrptr = band := by
      apply bandOf_eq h.inBand.band_lt h.inBand.low
      rw [← h.inBand.sfbound_eq]
      exact hinside
    rw [hband]
    exact .inr ⟨s, rfl, h, rfl, rfl, hinside⟩

/-! ### Code words -/

/-- The program stands where the reference decoder `d` stands. -/
structure Follows (requantize : ℕ → ℤ → ℤ) (mem : Mem) (widths : List ℕ) (exponents : ℕ → ℤ)
    (xr : ℕ → ℤ) (lo hi last : ℕ) (s : HuffState) (d : BitDecoder) : Prop where
  ahead : Ahead mem lo hi last s d.pos
  xrptr_eq : s.xrptr = d.values.length
  even : 2 ∣ d.values.length
  xr_eq : s.xr = spectrum requantize widths exponents d.values xr

theorem Follows.more_iff {d : BitDecoder}
    (h : Follows requantize mem widths exponents xr lo hi last s d) :
    s.cachesz + s.bitsLeft > 0 ↔ d.pos < last := by
  have hbits := h.ahead.bitsLeft_eq
  omega

/-- Two lines of one band, written one after the other. -/
theorem Follows.two {d : BitDecoder} {band : ℕ} {x y : ℤ} {pos : ℕ}
    (h : Follows requantize mem widths exponents xr lo hi last s d)
    (hband : InBand widths exponents s band) (hw : BandWidths widths)
    (hinside : s.xrptr < s.sfbound) (hx : Wrote requantize s t 0 x) (hy : Wrote requantize t u 1 y)
    (hahead : Ahead mem lo hi last u pos) :
    Follows requantize mem widths exponents xr lo hi last { u with xrptr := u.xrptr + 2 }
        ⟨pos, d.values ++ [x, y]⟩ ∧
      InBand widths exponents { u with xrptr := u.xrptr + 2 } band := by
  have heven : 2 ∣ s.xrptr := h.xrptr_eq ▸ h.even
  obtain ⟨hfirst, hsecond, hroom⟩ := hband.two hw hinside heven
  have hsame := hx.same.trans hy.same
  refine ⟨⟨hahead.of_eq rfl rfl rfl rfl, ?_, ?_, ?_⟩, ?_⟩
  · show u.xrptr + 2 = (d.values ++ [x, y]).length
    rw [hsame.xrptr, h.xrptr_eq, List.length_append]
    rfl
  · rw [List.length_append]
    exact Nat.dvd_add h.even (Nat.dvd_refl 2)
  · show u.xr = spectrum requantize widths exponents (d.values ++ [x, y]) xr
    have hsplit : d.values ++ [x, y] = d.values ++ [x] ++ [y] := by
      rw [List.append_assoc, List.singleton_append]
    have hlength : (d.values ++ [x]).length = s.xrptr + 1 := by
      rw [List.length_append, h.xrptr_eq, List.length_singleton]
    rw [hsplit, spectrum_append, spectrum_append, hlength, ← h.xrptr_eq, ← h.xr_eq, hfirst, hsecond,
      hy.xr_eq, hx.xr_eq, hx.same.xrptr, hx.same.exp, hband.exp_eq, Nat.add_zero]
  · obtain ⟨hlt, hbound, hwidth, hexp, hexpptr, hlow, -⟩ := hband.of_same hsame
    refine ⟨hlt, hbound, hwidth, hexp, hexpptr, ?_, ?_⟩
    · show (widths.take band).sum ≤ u.xrptr + 2
      omega
    · show u.xrptr + 2 ≤ u.sfbound
      rw [hsame.xrptr, hsame.sfbound]
      exact hroom

theorem pairCode_same (requantize : ℕ → ℤ → ℤ) (mem : Mem) (s : HuffState) :
    SameBand s (s.pairCode mem).2 ∧ (s.pairCode mem).2.xr = s.xr ∧
      (s.Memo requantize → (s.pairCode mem).2.Memo requantize) := by
  rw [HuffState.pairCode, HuffState.pairFull]
  split_ifs <;> exact ⟨⟨rfl, rfl, rfl, rfl, rfl, rfl, rfl, rfl, rfl⟩, rfl, id⟩

theorem Wrote.of_same {i : ℕ} {value : ℤ} (hsame : SameBand s t) (hxr : t.xr = s.xr)
    (hmemo : s.Memo requantize → t.Memo requantize) (h : Wrote requantize t u i value) :
    Wrote requantize s u i value := by
  refine ⟨?_, fun hm => h.memo (hmemo hm), hsame.trans h.same⟩
  rw [h.xr_eq, hxr, hsame.xrptr, hsame.exp]

/-- **A pair.** -/
theorem Follows.pair {tables : HuffTables} {channel : Channel} {d : BitDecoder} {band : ℕ}
    (h : Follows requantize mem widths exponents xr lo hi last s d)
    (hpair : InPair requantize tables channel widths exponents s band) (hw : BandWidths widths)
    (hinside : s.xrptr < s.sfbound) (hmore : d.pos < last) (hhi : last + 63 ≤ hi) :
    Follows requantize mem widths exponents xr lo hi last (s.pair requantize mem)
        (d.pair mem s.table s.linbits) ∧
      InPair requantize tables channel widths exponents (s.pair requantize mem) band := by
  have hlinbits : s.linbits ≤ 13 := by
    rw [hpair.inRegion.linbits_eq]
    exact tables.linbits_le _
  have hcode := s.table.decode_le mem d.pos
  obtain ⟨hvalue, hlooked, htwo, hlin⟩ := h.ahead.pairCode (by omega)
  obtain ⟨hsame, hxr, hmemo⟩ := pairCode_same requantize mem s
  obtain ⟨hx, hone, hxlin⟩ := h.ahead.pairFirst requantize hlinbits (by omega)
  have hxpos := readValue_le mem hlinbits (d.pos + (s.table.decode mem d.pos).2)
    (s.table.decode mem d.pos).1.x
  have hxwrote := hlooked.pairValue_wrote (by omega) (Nat.le_refl 2) one_le_two htwo (by omega)
    (hmemo hpair.memo) (s.pairCode mem).1.x 0
  have hfirst : Wrote requantize s (s.pairFirst requantize mem) 0 _ :=
    hxwrote.of_same hsame hxr hmemo
  have hsecond : Wrote requantize (s.pairFirst requantize mem) (s.pairSecond requantize mem) 1 _ :=
    hx.pairValue_wrote (by omega) one_le_two (Nat.le_refl 1) hone (by omega)
      (hfirst.memo hpair.memo) (s.pairCode mem).1.y 1
  have hend := (h.ahead.pair requantize hlinbits (h.more_iff.mpr hmore) hhi).1
  rw [pair_eq] at hend ⊢
  rw [hlin, hvalue] at hfirst
  rw [hxlin, hvalue] at hsecond
  have hahead : Ahead mem lo hi last (s.pairSecond requantize mem)
      (d.pair mem s.table s.linbits).pos := hend.of_eq rfl rfl rfl rfl
  obtain ⟨hfollows, hband⟩ := h.two hpair.inBand hw hinside hfirst hsecond hahead
  refine ⟨hfollows, hband, ?_, hsecond.memo (hfirst.memo hpair.memo)⟩
  obtain ⟨hregion, htable, hlinbits, hlt, hcount⟩ :=
    hpair.inRegion.of_same (hfirst.same.trans hsecond.same)
  exact ⟨hregion, htable, hlinbits, hlt, hcount⟩

/-- The band of the next pair, where its region has a table. -/
theorem Follows.nextBand {tables : HuffTables} {channel : Channel} {d : BitDecoder} {band : ℕ}
    (h : Follows requantize mem widths exponents xr lo hi last s d)
    (hpair : InPair requantize tables channel widths exponents s band) (hw : BandWidths widths)
    (hcounts : RegionCounts channel) (hroom : d.values.length < 576) :
    (s.nextBand tables channel exponents = none ∧ (tables.pair (channel.tableSelect
        (regionOf channel (bandOf widths d.values.length)))).table = none) ∨
      ∃ t, s.nextBand tables channel exponents = some t ∧
        Follows requantize mem widths exponents xr lo hi last t d ∧
        InPair requantize tables channel widths exponents t (bandOf widths d.values.length) ∧
        t.xrptr < t.sfbound := by
  have hlinbits : s.linbits ≤ 13 := by
    rw [hpair.inRegion.linbits_eq]
    exact tables.linbits_le _
  have hxr : s.xrptr < 576 := by
    rw [h.xrptr_eq]
    exact hroom
  rw [← h.xrptr_eq]
  rcases hpair.nextBand hw hcounts hxr with hnone | ⟨t, hsome, hnext, hxrptr, hsame, hinside⟩
  · exact .inl hnone
  · obtain ⟨hahead, -, -⟩ := h.ahead.nextBand hlinbits hsome
    exact .inr ⟨t, hsome, ⟨hahead, hxrptr.trans h.xrptr_eq, h.even, hsame.trans h.xr_eq⟩, hnext,
      hinside⟩

theorem length_pair (mem : Mem) (table : ClumpTable PairValue 19) (linbits : ℕ) (d : BitDecoder) :
    (d.pair mem table linbits).values.length = d.values.length + 2 := by
  rw [BitDecoder.pair, List.length_append]
  rfl

theorem length_quad (mem : Mem) (table : ClumpTable QuadValue 6) (d : BitDecoder) :
    (d.quad mem table).values.length = d.values.length + 4 := by
  rw [BitDecoder.quad, List.length_append]
  rfl

/-- **The big values.** -/
theorem Follows.bigValues {tables : HuffTables} {channel : Channel} {d : BitDecoder} {band : ℕ}
    (h : Follows requantize mem widths exponents xr lo hi last s d)
    (hpair : InPair requantize tables channel widths exponents s band) (hw : BandWidths widths)
    (hcounts : RegionCounts channel) (hhi : last + 63 ≤ hi) {n : ℕ}
    (hroom : d.values.length + 2 * n ≤ 576) :
    (s.bigValues requantize tables mem channel exponents n).2 =
        (d.pairs tables mem channel widths last n).2 ∧
      Follows requantize mem widths exponents xr lo hi last
        (s.bigValues requantize tables mem channel exponents n).1
        (d.pairs tables mem channel widths last n).1 ∧
      (d.pairs tables mem channel widths last n).1.values.length ≤ 576 ∧
      ∃ band', InBand widths exponents (s.bigValues requantize tables mem channel exponents n).1
        band' := by
  induction n generalizing s d band with
  | zero =>
    have hlength : d.values.length ≤ 576 := hroom
    exact ⟨rfl, h, hlength, band, hpair.inBand⟩
  | succ n ih =>
    rw [bigValues_succ, BitDecoder.pairs]
    have hstop : Follows requantize mem widths exponents xr lo hi last s d ∧
        d.values.length ≤ 576 ∧ ∃ band', InBand widths exponents s band' :=
      ⟨h, by omega, band, hpair.inBand⟩
    by_cases hmore : d.pos < last
    · rw [if_pos (h.more_iff.mpr hmore), if_pos hmore]
      rcases h.nextBand hpair hw hcounts (by omega) with ⟨hnone, htable⟩ | ⟨t, hsome, hfollows,
        hnext, hinside⟩
      · rw [hnone]
        simp only [htable]
        exact ⟨trivial, hstop⟩
      · have hregion := hnext.inRegion.table_eq
        have hlinbits := hnext.inRegion.linbits_eq
        rw [hnext.inRegion.region_eq] at hregion hlinbits
        rw [hsome]
        simp only [hregion, ← hlinbits]
        obtain ⟨hfollows', hpair'⟩ := hfollows.pair hnext hw hinside hmore hhi
        apply ih hfollows' hpair'
        rw [length_pair]
        omega
    · rw [if_neg (mt h.more_iff.mp hmore), if_neg hmore]
      exact ⟨rfl, hstop⟩

/-- The band of the next two values of a quadruple. -/
theorem InBand.quadBand {band : ℕ} (h : InBand widths exponents s band) (hw : BandWidths widths)
    (hxr : s.xrptr < 576) :
    ∃ band', InBand widths exponents (s.quadBand exponents) band' ∧
      (s.quadBand exponents).xrptr < (s.quadBand exponents).sfbound := by
  rw [HuffState.quadBand]
  by_cases hbound : s.xrptr = s.sfbound
  · rw [if_pos hbound]
    exact ⟨band + 1, h.next hw hbound hxr rfl rfl rfl rfl rfl⟩
  · rw [if_neg hbound]
    exact ⟨band, h, Nat.lt_of_le_of_ne h.high hbound⟩

theorem quadBand_xr (s : HuffState) (exponents : ℕ → ℤ) : (s.quadBand exponents).xr = s.xr := by
  rw [HuffState.quadBand]
  split_ifs <;> rfl

/-- Half a quadruple. -/
theorem Follows.halfQuad {d : BitDecoder} {band : ℕ}
    (h : Follows requantize mem widths exponents xr lo hi last s d)
    (hband : InBand widths exponents s band) (hw : BandWidths widths) (hxr : d.values.length < 576)
    (htwo : 2 ≤ s.cachesz) (a b : ℕ) :
    Follows requantize mem widths exponents xr lo hi last (s.halfQuad requantize exponents a b)
        ⟨(readUnit mem (readUnit mem d.pos a).2 b).2,
          d.values ++ [(readUnit mem d.pos a).1, (readUnit mem (readUnit mem d.pos a).2 b).1]⟩ ∧
      ∃ band', InBand widths exponents (s.halfQuad requantize exponents a b) band' := by
  obtain ⟨band', hband', hinside⟩ := hband.quadBand hw (by rw [h.xrptr_eq]; exact hxr)
  obtain ⟨hahead, hsame⟩ := h.ahead.quadBand exponents
  have hfollows : Follows requantize mem widths exponents xr lo hi last (s.quadBand exponents) d :=
    ⟨hahead, (quadBand_xrptr s exponents).trans h.xrptr_eq, h.even,
      (quadBand_xr s exponents).trans h.xr_eq⟩
  obtain ⟨ha, haleft⟩ := hahead.quadValue requantize (by omega) a 0
  have hawrote := hahead.quadValue_wrote requantize (by omega) a 0
  obtain ⟨hb, -⟩ := ha.quadValue requantize (by omega) b 1
  have hbwrote := ha.quadValue_wrote requantize (by omega) b 1
  obtain ⟨htwo', hend⟩ := hfollows.two hband' hw hinside hawrote hbwrote hb
  exact ⟨htwo', band', hend⟩

theorem quadCode_same (mem : Mem) (table : ClumpTable QuadValue 6) (s : HuffState) :
    SameBand s (s.quadCode mem table).2 ∧ (s.quadCode mem table).2.xr = s.xr := by
  rw [HuffState.quadCode, HuffState.quadFull]
  split_ifs <;> exact ⟨⟨rfl, rfl, rfl, rfl, rfl, rfl, rfl, rfl, rfl⟩, rfl⟩

/-- **A quadruple.** -/
theorem Follows.quad (table : ClumpTable QuadValue 6) {d : BitDecoder} {band : ℕ}
    (h : Follows requantize mem widths exponents xr lo hi last s d)
    (hband : InBand widths exponents s band) (hw : BandWidths widths)
    (hxr : d.values.length ≤ 572) (hmore : d.pos < last) (hhi : last + 63 ≤ hi) :
    Follows requantize mem widths exponents xr lo hi last
        (s.quad requantize mem table exponents) (d.quad mem table) ∧
      ∃ band', InBand widths exponents (s.quad requantize mem table exponents) band' := by
  obtain ⟨hvalue, hlooked, hfour⟩ := h.ahead.quadCode table (by omega)
  obtain ⟨hsame, hlines⟩ := quadCode_same mem table s
  have hfollows : Follows requantize mem widths exponents xr lo hi last (s.quadCode mem table).2
      ⟨d.pos + (table.decode mem d.pos).2, d.values⟩ :=
    ⟨hlooked, hsame.xrptr.trans h.xrptr_eq, h.even, hlines.trans h.xr_eq⟩
  obtain ⟨hvw, band', hband'⟩ := hfollows.halfQuad (hband.of_same hsame) hw (by simp only; omega)
    (by omega) (s.quadCode mem table).1.v (s.quadCode mem table).1.w
  obtain ⟨-, hleft, -⟩ := hlooked.halfQuad requantize exponents (by omega)
    (s.quadCode mem table).1.v (s.quadCode mem table).1.w
  obtain ⟨hxy, hband''⟩ := hvw.halfQuad hband' hw (by
    simp only [List.length_append, List.length_cons, List.length_nil]
    omega) (by omega) (s.quadCode mem table).1.x (s.quadCode mem table).1.y
  rw [quad_eq, quadFirst]
  refine ⟨?_, hband''⟩
  rw [hvalue] at hxy ⊢
  simp only [List.append_assoc, List.cons_append, List.nil_append] at hxy
  exact hxy

/-- **The quadruples.** -/
theorem Follows.count1 (table : ClumpTable QuadValue 6) {d : BitDecoder} {band : ℕ}
    (h : Follows requantize mem widths exponents xr lo hi last s d)
    (hband : InBand widths exponents s band) (hw : BandWidths widths)
    (hroom : d.values.length ≤ 576) (hhi : last + 63 ≤ hi) (n : ℕ) :
    Follows requantize mem widths exponents xr lo hi last
        (s.count1 requantize mem table exponents n) (d.quads mem table last n) ∧
      (d.quads mem table last n).values.length ≤ 576 := by
  induction n generalizing s d band with
  | zero => exact ⟨h, hroom⟩
  | succ n ih =>
    rw [HuffState.count1, BitDecoder.quads]
    by_cases hmore : d.pos < last ∧ d.values.length ≤ 572
    · have hcode : s.cachesz + s.bitsLeft > 0 ∧ s.xrptr ≤ 572 :=
        ⟨h.more_iff.mpr hmore.1, h.xrptr_eq ▸ hmore.2⟩
      rw [if_pos hcode, if_pos hmore]
      obtain ⟨hquad, band', hband'⟩ := h.quad table hband hw hmore.2 hmore.1 hhi
      apply ih hquad hband'
      rw [length_quad]
      omega
    · have hcode : ¬ (s.cachesz + s.bitsLeft > 0 ∧ s.xrptr ≤ 572) := by
        rw [h.more_iff, h.xrptr_eq]
        exact hmore
      rw [if_neg hcode, if_neg hmore]
      exact ⟨h, hroom⟩

/-- **The lines that are left.** -/
theorem Follows.rzero {d : BitDecoder}
    (h : Follows requantize mem widths exponents xr lo hi last s d) (hroom : d.values.length ≤ 576) :
    s.rzero = spectrum requantize widths exponents (d.trim last) (restLines .none xr) := by
  have hbits := h.ahead.bitsLeft_eq
  have hover : s.cachesz + s.bitsLeft < 0 ↔ last < d.pos := by omega
  have htrim : (d.trim last).length =
      if s.cachesz + s.bitsLeft < 0 then s.xrptr - 4 else s.xrptr := by
    rw [BitDecoder.trim, h.xrptr_eq]
    simp only [hover]
    split_ifs
    · rw [List.length_take]
      omega
    · rfl
  have hget : ∀ i (hi : i < (d.trim last).length) (hi' : i < d.values.length),
      (d.trim last)[i] = d.values[i] := by
    intro i hi hi'
    simp only [BitDecoder.trim]
    split_ifs
    · exact List.getElem_take
    · rfl
  have hle : (d.trim last).length ≤ d.values.length := by
    rw [htrim, h.xrptr_eq]
    split_ifs <;> omega
  funext i
  simp only [HuffState.rzero, ← htrim, spectrum, restLines, h.xr_eq]
  by_cases hin : i < (d.trim last).length
  · have hin' : i < d.values.length := by omega
    rw [if_neg (by omega), dif_pos hin', dif_pos hin, hget i hin hin']
  · rw [dif_neg hin]
    by_cases hzero : i < 576
    · rw [if_pos ⟨by omega, hzero⟩, if_pos ⟨trivial, hzero⟩]
    · rw [if_neg (by omega), dif_neg (by omega), if_neg (by omega)]

end HuffState

/-! ### The whole part -/

open HuffState

/-- Where decoding starts. -/
theorem huffStart_inPair (requantize : ℕ → ℤ → ℤ) (exponents xr : ℕ → ℤ) {tables : HuffTables}
    {channel : Channel} (hw : BandWidths widths)
    (hcounts : RegionCounts channel) (mem : Mem) (peek : MainPtr) (bitsLeft : ℤ)
    {table : ClumpTable PairValue 19}
    (htable : (tables.pair (channel.tableSelect 0)).table = some table) :
    InPair requantize tables channel widths exponents (huffStart mem peek bitsLeft xr channel widths
      exponents table (tables.pair (channel.tableSelect 0)).linbits) 0 := by
  have h0 := hcounts.region0
  have hregion : regionOf channel 0 = 0 := if_pos (Nat.zero_le _)
  have hlength : 0 < widths.length := by
    by_contra hempty
    have hsum := hw.sum_eq
    have hnil : widths = [] := List.eq_nil_of_length_eq_zero (by omega)
    rw [hnil] at hsum
    cases hsum
  refine ⟨⟨hlength, ?_, ?_, rfl, rfl, Nat.zero_le _, Nat.zero_le _⟩,
    ⟨hregion.symm, htable, rfl, ?_, ?_⟩, ?_⟩
  · show widths.headD 0 = (widths.take 1).sum
    rw [List.take_one, List.headD_eq_head?_getD]
    cases widths.head? <;> simp
  · show widths.tail = widths.drop 1
    rw [List.drop_one]
  · show channel.region0Count + 1 < 2 ^ 32
    omega
  · show (channel.region0Count + 1 + 0) % 2 ^ 32 = channel.region0Count + 1
    omega
  · intro value hvalue
    have hnone : (0 : ℕ).testBit value = true := hvalue
    rw [Nat.zero_testBit] at hnone
    cases hnone

/-- The code words of a part, from their start on. -/
theorem huffWords_follows {tables : HuffTables} {channel : Channel} {mem : Mem} {lo hi last : ℕ}
    {s : HuffState} {start : ℕ}
    (h : Follows requantize mem widths exponents xr lo hi last s ⟨start, []⟩)
    (hpair : InPair requantize tables channel widths exponents s 0) (hw : BandWidths widths)
    (hcounts : RegionCounts channel) (hbig : channel.bigValues ≤ 288) (hhi : last + 63 ≤ hi)
    (htable : (tables.pair (channel.tableSelect 0)).table.isNone = false) :
    let r := huffWords requantize tables mem channel exponents s
    let values := BitDecoder.decode tables mem channel widths start last
    r.2 = values.2 ∧ (if r.2 = .none then r.1.rzero else r.1.xr) =
      spectrum requantize widths exponents values.1 (restLines values.2 xr) := by
  have hroom : (⟨start, []⟩ : BitDecoder).values.length + 2 * channel.bigValues ≤ 576 := by
    show 0 + 2 * channel.bigValues ≤ 576
    omega
  obtain ⟨herror, hfollows, hlength, band, hband⟩ := h.bigValues hpair hw hcounts hhi hroom
  have hrest : ∀ error, error ≠ MadError.none → restLines error xr = xr := by
    intro error hne
    funext i
    exact if_neg fun hboth => hne hboth.1
  have hover : (s.bigValues requantize tables mem channel exponents channel.bigValues).1.cachesz +
      (s.bigValues requantize tables mem channel exponents channel.bigValues).1.bitsLeft < 0 ↔
      last < (BitDecoder.pairs tables mem channel widths last channel.bigValues
        ⟨start, []⟩).1.pos := by
    have hbits := hfollows.ahead.bitsLeft_eq
    omega
  simp only [huffWords, BitDecoder.decode, htable, Bool.false_eq_true, if_false, herror]
  by_cases hfailed : (BitDecoder.pairs tables mem channel widths last channel.bigValues
      ⟨start, []⟩).2 ≠ .none
  · rw [if_pos hfailed, if_pos hfailed]
    refine ⟨herror, ?_⟩
    rw [if_neg (herror ▸ hfailed), hfollows.xr_eq, hrest _ hfailed]
  · rw [if_neg hfailed, if_neg hfailed]
    by_cases hbad : last < (BitDecoder.pairs tables mem channel widths last channel.bigValues
        ⟨start, []⟩).1.pos
    · rw [if_pos (hover.mpr hbad), if_pos hbad]
      have hne : MadError.badhuffdata ≠ .none := by decide
      refine ⟨rfl, ?_⟩
      rw [if_neg hne, hfollows.xr_eq, hrest _ hne]
    · rw [if_neg (mt hover.mp hbad), if_neg hbad]
      obtain ⟨hcount1, hlength'⟩ := hfollows.count1
        (tables.quad (channel.flags &&& count1tableSelect)) hband hw hlength hhi 144
      refine ⟨rfl, ?_⟩
      rw [if_pos rfl]
      exact hcount1.rzero hlength'

/-- The error and the lines of a part, from any cursor. -/
theorem huffdecodePart_follows (requantize : ℕ → ℤ → ℤ) (tables : HuffTables) {mem : Mem}
    {lo hi pos : ℕ} {ptr : MainPtr} (h : Cursor mem lo hi ptr pos) (xr : ℕ → ℤ) {channel : Channel}
    (hbig : channel.bigValues ≤ 288) (hcounts : RegionCounts channel) {widths : List ℕ}
    (hw : BandWidths widths) (bitsLeft : ℕ) (exponents : ℕ → ℤ)
    (hhi : pos + bitsLeft + 63 ≤ hi) :
    let run := huffdecodePart requantize tables mem ptr xr channel widths bitsLeft exponents
    let reference := BitDecoder.decode tables mem channel widths pos (pos + bitsLeft)
    run.error = reference.2 ∧
      run.xr = spectrum requantize widths exponents reference.1 (restLines reference.2 xr) := by
  have hskip : Cursor mem lo hi (ptr.skip mem bitsLeft) (pos + bitsLeft) := h.skip (by omega)
  have hpeek : Cursor mem lo hi { ptr.skip mem bitsLeft with bits := ptr.bits } pos :=
    ⟨h.at_pos, h.lo_le, h.lo_lt, hskip.reads_in⟩
  simp only [huffdecodePart, Int.toNat_natCast]
  cases htable : (tables.pair (channel.tableSelect 0)).table with
  | none =>
    simp only [BitDecoder.decode, htable, Option.isNone_none, if_true]
    refine ⟨trivial, ?_⟩
    have hrest : restLines .badhufftable xr = xr := by
      funext i
      exact if_neg fun hboth => absurd hboth.1 (by decide)
    rw [hrest, spectrum_nil]
  | some table =>
    have hahead := huffStart_ahead hpeek bitsLeft (by omega) xr channel widths exponents table
      (tables.pair (channel.tableSelect 0)).linbits
    have hpair := huffStart_inPair requantize exponents xr hw hcounts mem
      { ptr.skip mem bitsLeft with bits := ptr.bits } bitsLeft htable
    exact huffWords_follows ⟨hahead, rfl, Nat.dvd_zero 2, spectrum_nil.symm⟩ hpair hw hcounts hbig
      hhi (by rw [htable]; rfl)

end Mp3Decoder
