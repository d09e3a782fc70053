import Mp3Decoder.Mad.HuffRefine
import Mp3Decoder.Mad.SideInfoAccepted

/-!
# The arrays of `III_huffdecode`

All elements that `III_exponents` and `III_huffdecode` touch are there, for side information that
`III_sideinfo` accepts and the band tables of all sample rates, whatever the main data is; and
where no error is reported all 576 lines have been set.
-/

namespace Mp3Decoder

/-- The element is there: of a band table of `entries` widths, and of `regions` table numbers. -/
def HuffAccess.InBounds (entries regions : ℕ) : HuffAccess → Prop
  | .xr i => 0 ≤ i ∧ i < 576
  | .exponents i => i < entries
  | .sfbwidth left => 0 < left
  | .tableSelect i => i < regions
  | .rqTable value => value ≤ 8206
  | .reqcache value => 1 ≤ value ∧ value ≤ 15
  | .scalefac i => i < 39
  | .pretab i => i < 22
  | .subblockGain i => i < 3

instance (entries regions : ℕ) : DecidablePred (HuffAccess.InBounds entries regions)
  | .xr i => inferInstanceAs (Decidable (0 ≤ i ∧ i < 576))
  | .exponents i => inferInstanceAs (Decidable (i < entries))
  | .sfbwidth left => inferInstanceAs (Decidable (0 < left))
  | .tableSelect i => inferInstanceAs (Decidable (i < regions))
  | .rqTable value => inferInstanceAs (Decidable (value ≤ 8206))
  | .reqcache value => inferInstanceAs (Decidable (1 ≤ value ∧ value ≤ 15))
  | .scalefac i => inferInstanceAs (Decidable (i < 39))
  | .pretab i => inferInstanceAs (Decidable (i < 22))
  | .subblockGain i => inferInstanceAs (Decidable (i < 3))

def HuffPoint.InBounds (entries regions : ℕ) (p : HuffPoint) : Prop :=
  ∀ access ∈ p.accesses, access.InBounds entries regions

/-- The lines that have been set at one of `points`. -/
def SetAt (points : List HuffPoint) (i : ℕ) : Prop :=
  ∃ p ∈ points, HuffAccess.xr i ∈ p.accesses

theorem SetAt.left {points points' : List HuffPoint} {i : ℕ} (h : SetAt points i) :
    SetAt (points ++ points') i := by
  obtain ⟨p, hp, hi⟩ := h
  exact ⟨p, List.mem_append_left _ hp, hi⟩

theorem SetAt.right {points points' : List HuffPoint} {i : ℕ} (h : SetAt points' i) :
    SetAt (points ++ points') i := by
  obtain ⟨p, hp, hi⟩ := h
  exact ⟨p, List.mem_append_right _ hp, hi⟩

theorem SetAt.cons {points : List HuffPoint} {i : ℕ} (h : SetAt points i) (p : HuffPoint) :
    SetAt (p :: points) i := by
  obtain ⟨q, hq, hi⟩ := h
  exact ⟨q, List.mem_cons_of_mem p hq, hi⟩

/-! ### The tables -/

/-- Values of pairs have 4 bits. -/
def TableValues (tables : HuffTables) : Prop :=
  ∀ select table, (tables.pair select).table = some table → ∀ hlen value,
    ClumpTable.Entry.value hlen value ∈ table.entries → value.x ≤ 15 ∧ value.y ≤ 15

/-- Whether the values of a table have 4 bits. -/
def valuesFit (entries : List HuffPair) : Bool :=
  entries.all fun
    | .value _ value => decide (value.x ≤ 15 ∧ value.y ≤ 15)
    | .ptr _ _ => true

theorem madHuffTables_values : TableValues madHuffTables := by
  intro select table htable hlen value hmem
  have hall : ∀ entry ∈ madHuffPairTable,
      (entry.table.all fun table => valuesFit table.entries) = true := by decide +kernel
  have hentry : madHuffPairTable.getD select ⟨none, 0⟩ ∈ madHuffPairTable := by
    have hsome : (madHuffPairTable.getD select ⟨none, 0⟩).table = some table := htable
    rw [List.getD_eq_getElem?_getD] at hsome ⊢
    cases hget : madHuffPairTable[select]? with
    | none =>
      rw [hget] at hsome
      cases hsome
    | some entry => exact List.mem_of_getElem? hget
  have hfit := hall _ hentry
  rw [show (madHuffPairTable.getD select ⟨none, 0⟩).table = some table from htable] at hfit
  have hvalue := List.all_eq_true.mp hfit _ hmem
  exact of_decide_eq_true hvalue

instance (widths : List ℕ) : Decidable (BandWidths widths) :=
  decidable_of_iff
    ((∀ width ∈ widths, 0 < width) ∧ (∀ width ∈ widths, 2 ∣ width) ∧ widths.sum = 576)
    ⟨fun h => ⟨h.1, h.2.1, h.2.2⟩, fun h => ⟨h.pos, h.even, h.sum_eq⟩⟩

/-- The band table of a channel. -/
def SfbWidths.select (row : SfbWidths) (channel : Channel) : List ℕ :=
  if channel.blockType = 2 then if channel.isMixed then row.m else row.s else row.l

theorem sfbwidthOf_eq (header : MadHeader) (channel : Channel) : sfbwidthOf header channel =
    (sfbwidthTable.getD (sfreqIndex header) ⟨[], [], []⟩).select channel := rfl

/-- A band table over all the lines, that has what `III_exponents` touches. -/
def BandsFit (widths : List ℕ) (accesses : List HuffAccess) : Prop :=
  BandWidths widths ∧ widths.length ≤ 39 ∧ ∀ access ∈ accesses, access.InBounds widths.length 2

instance (widths : List ℕ) (accesses : List HuffAccess) : Decidable (BandsFit widths accesses) :=
  inferInstanceAs (Decidable (_ ∧ _ ∧ _))

theorem sfbwidthTable_long : ∀ row ∈ sfbwidthTable, ∀ preflag,
    BandsFit row.l (longAccesses preflag) := by decide +kernel

theorem sfbwidthTable_short : ∀ row ∈ sfbwidthTable, BandsFit row.s (shortAccesses row.s 0 0) := by
  decide +kernel

theorem sfbwidthTable_mixed : ∀ row ∈ sfbwidthTable, BandsFit row.m (mixedAccesses row.m 0 0) := by
  decide +kernel

theorem BandsFit.inBounds {widths : List ℕ} {accesses : List HuffAccess}
    (h : BandsFit widths accesses) {regions : ℕ} (hregions : 2 ≤ regions) :
    ∀ access ∈ accesses, access.InBounds widths.length regions := by
  intro access haccess
  have hbound := h.2.2 access haccess
  cases access with
  | tableSelect i => exact Nat.lt_of_lt_of_le hbound hregions
  | _ => exact hbound

/-- **`III_exponents` stays inside its arrays.** -/
theorem exponentsAccesses_inBounds {row : SfbWidths} (hrow : row ∈ sfbwidthTable)
    (channel : Channel) {regions : ℕ} (hregions : 2 ≤ regions) :
    BandWidths (row.select channel) ∧ (row.select channel).length ≤ 39 ∧
      ∀ access ∈ exponentsAccesses channel (row.select channel),
        access.InBounds (row.select channel).length regions := by
  have hfit : ∀ {widths : List ℕ} {accesses : List HuffAccess}, BandsFit widths accesses →
      BandWidths widths ∧ widths.length ≤ 39 ∧
        ∀ access ∈ [.subblockGain 0, .subblockGain 1, .subblockGain 2] ++ accesses,
          access.InBounds widths.length regions := by
    intro widths accesses h
    refine ⟨h.1, h.2.1, ?_⟩
    intro access haccess
    rcases List.mem_append.mp haccess with hgain | haccess
    · simp only [List.mem_cons, List.not_mem_nil, or_false] at hgain
      rcases hgain with rfl | rfl | rfl <;> simp [HuffAccess.InBounds]
    · exact h.inBounds hregions access haccess
  rw [SfbWidths.select, exponentsAccesses]
  by_cases hshort : channel.blockType = 2
  · rw [if_pos hshort, if_pos hshort]
    by_cases hmixed : channel.isMixed
    · rw [if_pos hmixed, if_pos hmixed]
      exact hfit (sfbwidthTable_mixed row hrow)
    · rw [if_neg hmixed, if_neg hmixed]
      exact hfit (sfbwidthTable_short row hrow)
  · rw [if_neg hshort, if_neg hshort]
    have hlong := sfbwidthTable_long row hrow channel.hasPreflag
    exact ⟨hlong.1, hlong.2.1, hlong.inBounds hregions⟩

/-! ### Code words -/

namespace HuffState

variable {requantize : ℕ → ℤ → ℤ} {tables : HuffTables} {channel : Channel} {widths : List ℕ}
  {exponents xr : ℕ → ℤ} {mem : Mem} {lo hi last regions : ℕ} {s t : HuffState}

theorem lookupPoints_accesses {α : Type} {budget : ℕ} (s : HuffState) (table : ClumpTable α budget) :
    ∀ p ∈ s.lookupPoints table, p.accesses = [] := by
  intro p hp
  obtain ⟨sz, -, rfl⟩ := List.mem_map.mp hp
  rfl

theorem pairValuePoints_inBounds (requantize : ℕ → ℤ → ℤ) (mem : Mem) (entries regions : ℕ)
    {s : HuffState} (hlinbits : s.linbits ≤ 13) {value i : ℕ}
    (hvalue : value ≤ 15) (hxr : s.xrptr + i < 576) (room : ℕ) :
    (∀ p ∈ s.pairValuePoints requantize mem value i room, p.InBounds entries regions) ∧
      SetAt (s.pairValuePoints requantize mem value i room) (s.xrptr + i) := by
  have hline : HuffAccess.InBounds entries regions (.xr (s.xrptr + i)) :=
    ⟨Int.natCast_nonneg _, Int.ofNat_lt.mpr hxr⟩
  rw [HuffState.pairValuePoints]
  by_cases hlin : s.linbits ≠ 0 ∧ value = 15
  · rw [if_pos hlin]
    have hmask := ClumpTable.mask_lt (s.linbitsFull mem room).bitcache
      (s.linbitsFull mem room).cachesz (s.linbitsFull mem room).linbits
    rw [linbitsFull_linbits] at hmask
    have hpow : 2 ^ s.linbits ≤ 2 ^ 13 := Nat.pow_le_pow_right (by decide) hlinbits
    constructor
    · intro p hp access haccess
      simp only [HuffState.linbitsPoints, List.mem_cons, List.not_mem_nil, or_false] at hp
      rcases hp with rfl | rfl | rfl
      · cases haccess
      · rw [List.mem_singleton.mp haccess]
        show 15 + ClumpTable.mask (s.linbitsFull mem room).bitcache
          (s.linbitsFull mem room).cachesz (s.linbitsFull mem room).linbits ≤ 8206
        rw [linbitsFull_linbits]
        omega
      · rw [List.mem_singleton.mp haccess]
        exact hline
    · exact ⟨⟨s.linbitsValue requantize mem i room, [.xr (s.xrptr + i)]⟩,
        List.mem_cons_of_mem _ (List.mem_cons_of_mem _ List.mem_cons_self), List.mem_cons_self⟩
  · rw [if_neg hlin]
    have hplain : (∀ access ∈ s.plainAccesses value i, access.InBounds entries regions) ∧
        HuffAccess.xr (s.xrptr + i) ∈ s.plainAccesses value i := by
      rw [HuffState.plainAccesses]
      split_ifs with hzero hhit
      · refine ⟨?_, List.mem_cons_self⟩
        intro access haccess
        rw [List.mem_singleton.mp haccess]
        exact hline
      · refine ⟨?_, List.mem_cons_of_mem _ List.mem_cons_self⟩
        intro access haccess
        rcases List.mem_cons.mp haccess with rfl | haccess
        · exact ⟨Nat.pos_of_ne_zero hzero, hvalue⟩
        · rw [List.mem_singleton.mp haccess]
          exact hline
      · refine ⟨?_, List.mem_cons_of_mem _ (List.mem_cons_of_mem _ List.mem_cons_self)⟩
        intro access haccess
        rcases List.mem_cons.mp haccess with rfl | haccess
        · show value ≤ 8206
          omega
        · rcases List.mem_cons.mp haccess with rfl | haccess
          · exact ⟨Nat.pos_of_ne_zero hzero, hvalue⟩
          · rw [List.mem_singleton.mp haccess]
            exact hline
    constructor
    · intro p hp
      rw [List.mem_singleton.mp hp]
      exact hplain.1
    · exact ⟨_, List.mem_cons_self, hplain.2⟩

theorem pairValue_xrptr (mem : Mem) (s : HuffState) (value i room : ℕ) :
    (s.pairValue requantize mem value i room).xrptr = s.xrptr := by
  rw [HuffState.pairValue, HuffState.linbitsValue, HuffState.plainValue]
  split_ifs <;> rfl

/-- A pair, inside the lines. -/
theorem pairPoints_inBounds (requantize : ℕ → ℤ → ℤ) (mem : Mem) (entries regions : ℕ)
    {s : HuffState} (hlinbits : s.linbits ≤ 13)
    (hvalues : ∀ hlen value, ClumpTable.Entry.value hlen value ∈ s.table.entries →
      value.x ≤ 15 ∧ value.y ≤ 15) (hxr : s.xrptr + 1 < 576) :
    (∀ p ∈ s.pairPoints requantize mem, p.InBounds entries regions) ∧
      SetAt (s.pairPoints requantize mem) s.xrptr ∧
      SetAt (s.pairPoints requantize mem) (s.xrptr + 1) := by
  obtain ⟨hsame, -, -⟩ := pairCode_same requantize mem s
  obtain ⟨hlen, hcode⟩ := (s.pairFull mem).table.lookup_mem (s.pairFull mem).bitcache
    (s.pairFull mem).cachesz
  rw [pairFull_table] at hcode
  have hfit : (s.pairCode mem).1.x ≤ 15 ∧ (s.pairCode mem).1.y ≤ 15 := by
    rw [HuffState.pairCode, pairFull_table]
    exact hvalues hlen _ hcode
  obtain ⟨hx, hxset⟩ := pairValuePoints_inBounds requantize mem
    (s := (s.pairCode mem).2) (i := 0) entries regions (by rw [hsame.linbits]; exact hlinbits) hfit.1
    (by rw [hsame.xrptr]; omega) 2
  have hfirst : (s.pairFirst requantize mem).xrptr = s.xrptr := by
    rw [HuffState.pairFirst, pairValue_xrptr, hsame.xrptr]
  obtain ⟨hy, hyset⟩ := pairValuePoints_inBounds requantize mem
    (s := s.pairFirst requantize mem) (i := 1) entries regions
    (by rw [HuffState.pairFirst, pairValue_linbits, hsame.linbits]; exact hlinbits) hfit.2
    (by rw [hfirst]; exact hxr) 1
  rw [hsame.xrptr] at hxset
  rw [hfirst] at hyset
  rw [pairPoints_eq]
  refine ⟨?_, hxset.right.left, hyset.right⟩
  intro p hp
  rw [List.mem_append, List.mem_append, List.mem_cons] at hp
  rcases hp with ((rfl | hp) | hp) | hp
  · intro access haccess
    cases haccess
  · intro access haccess
    rw [lookupPoints_accesses _ _ p hp] at haccess
    cases haccess
  · exact hx p hp
  · exact hy p hp

/-! ### The runs -/

theorem pair_xrptr (mem : Mem) (s : HuffState) :
    (s.pair requantize mem).xrptr = s.xrptr + 2 := by
  rw [pair_eq, HuffState.pairSecond, HuffState.pairFirst]
  simp only [pairValue_xrptr, (pairCode_same requantize mem s).1.xrptr]

theorem nextBand_xrptr (h : s.nextBand tables channel exponents = some t) : t.xrptr = s.xrptr := by
  rw [HuffState.nextBand] at h
  split_ifs at h with hbound
  · obtain ⟨u, hregion, rfl⟩ := Option.map_eq_some_iff.mp h
    have hu : u.xrptr = s.xrptr := by
      simp only [HuffState.nextRegion] at hregion
      by_cases hzero : (s.rcount + 2 ^ 32 - 1) % 2 ^ 32 = 0
      · rw [if_pos hzero] at hregion
        obtain ⟨table, -, rfl⟩ := Option.map_eq_some_iff.mp hregion
        rfl
      · rw [if_neg hzero] at hregion
        cases hregion
        rfl
    rw [← hu, HuffState.nextExponent]
    split_ifs <;> rfl
  · cases h
    rfl

/-- The elements touched where a band ends. -/
theorem InBand.boundary_inBounds {band : ℕ} (h : InBand widths exponents s band)
    (hw : BandWidths widths) (hbound : s.xrptr = s.sfbound) (hxr : s.xrptr < 576) :
    0 < s.sfbwidth.length ∧ s.expptr < widths.length := by
  have hlt := h.succ_lt hw hbound hxr
  rw [h.sfbwidth_eq, h.expptr_eq, List.length_drop]
  omega

theorem InPair.regionAccesses_inBounds {band : ℕ}
    (h : InPair requantize tables channel widths exponents s band) (hw : BandWidths widths)
    (hcounts : RegionCounts channel)
    (hregions : ∀ band < widths.length, regionOf channel band < regions)
    (hbound : s.xrptr = s.sfbound) (hxr : s.xrptr < 576) :
    ∀ access ∈ s.regionAccesses, access.InBounds widths.length regions := by
  intro access haccess
  have hlt := h.inBand.succ_lt hw hbound hxr
  have hregion := hregions (band + 1) hlt
  have hlength := hw.length_le
  rw [HuffState.regionAccesses] at haccess
  rcases List.mem_cons.mp haccess with rfl | haccess
  · exact (h.inBand.boundary_inBounds hw hbound hxr).1
  · split_ifs at haccess with hzero
    · rw [List.mem_singleton.mp haccess]
      rcases h.inRegion.boundary hcounts (by omega) with ⟨-, -, hnext⟩ | ⟨hmore, -⟩
      · show s.region + 1 < regions
        omega
      · exact absurd hzero hmore
    · cases haccess

/-- **The big values touch what is there and set every line they pass.** -/
theorem Follows.bigValuesPoints {d : BitDecoder} {band : ℕ}
    (h : Follows requantize mem widths exponents xr lo hi last s d)
    (hpair : InPair requantize tables channel widths exponents s band) (hw : BandWidths widths)
    (hcounts : RegionCounts channel) (hvalues : TableValues tables)
    (hregions : ∀ band < widths.length, regionOf channel band < regions) (hhi : last + 63 ≤ hi)
    {n : ℕ} (hroom : d.values.length + 2 * n ≤ 576) :
    (∀ p ∈ s.bigValuesPoints requantize tables mem channel exponents n,
        p.InBounds widths.length regions) ∧
      ∀ i, s.xrptr ≤ i → i < (s.bigValues requantize tables mem channel exponents n).1.xrptr →
        SetAt (s.bigValuesPoints requantize tables mem channel exponents n) i := by
  induction n generalizing s d band with
  | zero =>
    refine ⟨fun p hp => absurd hp List.not_mem_nil, ?_⟩
    intro i hlow hhigh
    have hhigh' : i < s.xrptr := hhigh
    omega
  | succ n ih =>
    rw [HuffState.bigValuesPoints, bigValues_succ]
    by_cases hmore : s.cachesz + s.bitsLeft > 0
    · rw [if_pos hmore, if_pos hmore]
      have hxr : s.xrptr < 576 := by
        rw [h.xrptr_eq]
        omega
      have hbands : (if s.xrptr = s.sfbound then
          (s.nextRegion tables channel).map (·.nextExponent exponents)
        else some s) = s.nextBand tables channel exponents := rfl
      have hregion : ∀ access ∈ (if s.xrptr = s.sfbound then s.regionAccesses else []),
          access.InBounds widths.length regions := by
        split_ifs with hbound
        · exact hpair.regionAccesses_inBounds hw hcounts hregions hbound hxr
        · exact fun access haccess => absurd haccess List.not_mem_nil
      simp only [hbands]
      rcases h.nextBand hpair hw hcounts (by omega) with ⟨hnone, -⟩ | ⟨t, hsome, hfollows, hnext,
        hinside⟩
      · rw [hnone]
        refine ⟨?_, ?_⟩
        · intro p hp
          rw [List.mem_singleton.mp hp]
          exact hregion
        · intro i hlow hhigh
          have hhigh' : i < s.xrptr := hhigh
          omega
      · rw [hsome]
        have hxrptr := nextBand_xrptr hsome
        have hlinbits : t.linbits ≤ 13 := by
          rw [hnext.inRegion.linbits_eq]
          exact tables.linbits_le _
        obtain ⟨hpairs, hx, hy⟩ := pairPoints_inBounds requantize mem widths.length regions hlinbits
          (hvalues _ t.table hnext.inRegion.table_eq)
          (by rw [hxrptr, h.xrptr_eq]; omega)
        obtain ⟨hfollows', hpair'⟩ := hfollows.pair hnext hw hinside (h.more_iff.mp hmore) hhi
        obtain ⟨hrest, hset⟩ := ih hfollows' hpair' (by rw [length_pair]; omega)
        rw [hxrptr] at hx hy
        refine ⟨?_, ?_⟩
        · intro p hp
          simp only [List.cons_append, List.mem_cons, List.mem_append] at hp
          rcases hp with rfl | hp | hp
          · intro access haccess
            rcases List.mem_append.mp haccess with hfirst | hexponent
            · exact hregion access hfirst
            · split_ifs at hexponent with hbound
              · rw [List.mem_singleton.mp hexponent]
                exact (hpair.inBand.boundary_inBounds hw hbound hxr).2
              · cases hexponent
          · exact hpairs p hp
          · exact hrest p hp
        · intro i hlow hhigh
          by_cases hlast : s.xrptr + 2 ≤ i
          · exact (hset i (by rw [pair_xrptr, hxrptr]; exact hlast) hhigh).right
          · rcases Nat.lt_or_eq_of_le hlow with hsecond | rfl
            · have hi : i = s.xrptr + 1 := by omega
              rw [hi]
              exact (hy.cons _).left
            · exact (hx.cons _).left
    · rw [if_neg hmore, if_neg hmore]
      refine ⟨fun p hp => absurd hp List.not_mem_nil, ?_⟩
      intro i hlow hhigh
      have hhigh' : i < s.xrptr := hhigh
      omega

/-- Half a quadruple, inside the lines. -/
theorem InBand.halfQuadPoints {band : ℕ} (h : InBand widths exponents s band) (hw : BandWidths widths)
    (requantize : ℕ → ℤ → ℤ) (regions : ℕ) (hxr : s.xrptr + 1 < 576) (a b : ℕ) :
    (∀ p ∈ s.halfQuadPoints requantize exponents a b, p.InBounds widths.length regions) ∧
      SetAt (s.halfQuadPoints requantize exponents a b) s.xrptr ∧
      SetAt (s.halfQuadPoints requantize exponents a b) (s.xrptr + 1) := by
  rw [HuffState.halfQuadPoints]
  simp only [quadBand_xrptr]
  refine ⟨?_, ⟨_, List.mem_cons_of_mem _ List.mem_cons_self, List.mem_cons_self⟩,
    ⟨_, List.mem_cons_of_mem _ (List.mem_cons_of_mem _ List.mem_cons_self), List.mem_cons_self⟩⟩
  intro p hp access haccess
  simp only [List.mem_cons, List.not_mem_nil, or_false] at hp
  rcases hp with rfl | rfl | rfl
  · rw [HuffState.quadAccesses] at haccess
    split_ifs at haccess with hbound
    · obtain ⟨hwidth, hexponent⟩ := h.boundary_inBounds hw hbound (by omega)
      simp only [List.mem_cons, List.not_mem_nil, or_false] at haccess
      rcases haccess with rfl | rfl | rfl
      · exact hwidth
      · exact hexponent
      · show 1 ≤ 8206
        decide
    · cases haccess
  · rw [List.mem_singleton.mp haccess]
    exact ⟨by omega, by omega⟩
  · rw [List.mem_singleton.mp haccess]
    exact ⟨by omega, by omega⟩

theorem quadFirst_xrptr (mem : Mem) (table : ClumpTable QuadValue 6) (exponents : ℕ → ℤ)
    (s : HuffState) : (s.quadFirst requantize mem table exponents).xrptr = s.xrptr + 2 := by
  rw [HuffState.quadFirst, HuffState.halfQuad]
  simp only [quadValue_xrptr, quadBand_xrptr, (quadCode_same mem table s).1.xrptr]

/-- **The quadruples touch what is there and set every line they pass.** -/
theorem Follows.count1Points (table : ClumpTable QuadValue 6) (regions : ℕ) {d : BitDecoder}
    {band : ℕ} (h : Follows requantize mem widths exponents xr lo hi last s d)
    (hband : InBand widths exponents s band) (hw : BandWidths widths) (hhi : last + 63 ≤ hi)
    (n : ℕ) :
    (∀ p ∈ s.count1Points requantize mem table exponents n, p.InBounds widths.length regions) ∧
      ∀ i, s.xrptr ≤ i → i < (s.count1 requantize mem table exponents n).xrptr →
        SetAt (s.count1Points requantize mem table exponents n) i := by
  induction n generalizing s d band with
  | zero =>
    refine ⟨fun p hp => absurd hp List.not_mem_nil, ?_⟩
    intro i hlow hhigh
    have hhigh' : i < s.xrptr := hhigh
    omega
  | succ n ih =>
    rw [HuffState.count1Points, HuffState.count1]
    by_cases hmore : s.cachesz + s.bitsLeft > 0 ∧ s.xrptr ≤ 572
    · rw [if_pos hmore, if_pos hmore]
      have hpos : d.pos < last := h.more_iff.mp hmore.1
      have hlength : d.values.length ≤ 572 := h.xrptr_eq ▸ hmore.2
      obtain ⟨hsame, hlines⟩ := quadCode_same mem table s
      obtain ⟨hvalue, hlooked, hfour⟩ := h.ahead.quadCode table (by omega)
      have hfollows : Follows requantize mem widths exponents xr lo hi last
          (s.quadCode mem table).2 ⟨d.pos + (table.decode mem d.pos).2, d.values⟩ :=
        ⟨hlooked, hsame.xrptr.trans h.xrptr_eq, h.even, hlines.trans h.xr_eq⟩
      obtain ⟨-, band', hband'⟩ := hfollows.halfQuad (hband.of_same hsame) hw
        (by simp only; omega) (by omega) (s.quadCode mem table).1.v (s.quadCode mem table).1.w
      have hband'' : InBand widths exponents (s.quadFirst requantize mem table exponents) band' :=
        hband'
      obtain ⟨hvw, hv, hwset⟩ := (hband.of_same hsame).halfQuadPoints hw requantize regions
        (by rw [hsame.xrptr]; omega) (s.quadCode mem table).1.v (s.quadCode mem table).1.w
      obtain ⟨hxy, hx, hy⟩ := hband''.halfQuadPoints hw requantize regions
        (by rw [quadFirst_xrptr]; omega) (s.quadCode mem table).1.x (s.quadCode mem table).1.y
      rw [hsame.xrptr] at hv hwset
      rw [quadFirst_xrptr] at hx hy
      obtain ⟨hquad, bandq, hbandq⟩ := h.quad table hband hw hlength hpos hhi
      obtain ⟨hrest, hset⟩ := ih hquad hbandq
      refine ⟨?_, ?_⟩
      · intro p hp
        rcases List.mem_append.mp hp with hp | hp
        · rw [quadPoints_eq, List.mem_append, List.mem_append, List.mem_cons] at hp
          rcases hp with ((rfl | hp) | hp) | hp
          · exact fun access haccess => absurd haccess List.not_mem_nil
          · intro access haccess
            rw [lookupPoints_accesses _ _ p hp] at haccess
            cases haccess
          · exact hvw p hp
          · exact hxy p hp
        · exact hrest p hp
      · intro i hlow hhigh
        by_cases hlast : s.xrptr + 4 ≤ i
        · exact (hset i (by rw [quad_xrptr]; exact hlast) hhigh).right
        · apply SetAt.left
          rw [quadPoints_eq]
          have hfour : i = s.xrptr ∨ i = s.xrptr + 1 ∨ i = s.xrptr + 2 ∨ i = s.xrptr + 2 + 1 := by
            omega
          rcases hfour with rfl | rfl | rfl | rfl
          · exact hv.right.left
          · exact hwset.right.left
          · exact hx.right
          · exact hy.right
    · rw [if_neg hmore, if_neg hmore]
      refine ⟨fun p hp => absurd hp List.not_mem_nil, ?_⟩
      intro i hlow hhigh
      omega

/-! ### The lines that are left -/

theorem le_count1_xrptr (requantize : ℕ → ℤ → ℤ) (mem : Mem) (table : ClumpTable QuadValue 6)
    (exponents : ℕ → ℤ) (n : ℕ)
    (s : HuffState) : s.xrptr ≤ (s.count1 requantize mem table exponents n).xrptr := by
  induction n generalizing s with
  | zero => exact Nat.le_refl _
  | succ n ih =>
    rw [HuffState.count1]
    split_ifs
    · have hrest := ih (s.quad requantize mem table exponents)
      rw [quad_xrptr] at hrest
      omega
    · exact Nat.le_refl _

/-- Only a quadruple can overrun the part here, so that there is one to step back over. -/
theorem count1_overrun {table : ClumpTable QuadValue 6} {n : ℕ} (hs : 0 ≤ s.cachesz + s.bitsLeft)
    (hover : (s.count1 requantize mem table exponents n).cachesz +
      (s.count1 requantize mem table exponents n).bitsLeft < 0) :
    4 ≤ (s.count1 requantize mem table exponents n).xrptr := by
  cases n with
  | zero =>
    have hover' : s.cachesz + s.bitsLeft < 0 := hover
    omega
  | succ n =>
    rw [HuffState.count1] at hover ⊢
    split_ifs at hover ⊢ with hmore
    · have hrest := le_count1_xrptr requantize mem table exponents n
        (s.quad requantize mem table exponents)
      rw [quad_xrptr] at hrest
      omega
    · omega

theorem rzeroAccesses_inBounds (entries regions : ℕ) (heven : 2 ∣ s.xrptr) (hxr : s.xrptr ≤ 576)
    (hback : s.cachesz + s.bitsLeft < 0 → 4 ≤ s.xrptr) :
    (∀ access ∈ s.rzeroAccesses, access.InBounds entries regions) ∧
      ∀ i : ℕ, s.xrptr ≤ i → i < 576 → HuffAccess.xr i ∈ s.rzeroAccesses := by
  obtain ⟨x, hx⟩ : ∃ x : ℤ, x = if s.cachesz + s.bitsLeft < 0 then (s.xrptr : ℤ) - 4 else s.xrptr :=
    ⟨_, rfl⟩
  have hrange : 0 ≤ x ∧ x ≤ s.xrptr ∧ 2 ∣ x := by
    rw [hx]
    split_ifs with hover
    · have hfour := hback hover
      omega
    · omega
  simp only [HuffState.rzeroAccesses, ← hx]
  refine ⟨?_, ?_⟩
  · intro access haccess
    obtain ⟨k, hk, hmem⟩ := List.mem_flatMap.mp haccess
    rw [List.mem_range] at hk
    simp only [List.mem_cons, List.not_mem_nil, or_false] at hmem
    rcases hmem with rfl | rfl
    · exact ⟨by omega, by omega⟩
    · exact ⟨by omega, by omega⟩
  · intro i hlow hhigh
    rw [List.mem_flatMap]
    refine ⟨((i - x) / 2).toNat, List.mem_range.mpr (by omega), ?_⟩
    simp only [List.mem_cons, List.not_mem_nil, or_false, HuffAccess.xr.injEq]
    omega

end HuffState

/-! ### The whole part -/

open HuffState

/-- The number of regions that have a table: two where the window is switched. -/
def regionsOf (channel : Channel) : ℕ := if channel.blockType = 0 then 3 else 2

theorem Channel.Accepted.regionCounts {channel : Channel} (h : channel.Accepted) :
    RegionCounts channel := by
  by_cases htype : channel.blockType = 0
  · obtain ⟨hregion0, hregion1⟩ := h.regions htype
    exact ⟨by omega, by omega⟩
  · obtain ⟨-, hregion0, hregion1⟩ := h.switched htype
    exact ⟨by omega, by omega⟩

/-- No band is in a region without a table: there are fewer bands than the first two regions of a
switched window have. -/
theorem Channel.Accepted.regionOf_lt {channel : Channel} (h : channel.Accepted) {band : ℕ}
    (hband : band < 39) : regionOf channel band < regionsOf channel := by
  rw [regionsOf, regionOf]
  by_cases htype : channel.blockType = 0
  · rw [if_pos htype]
    split_ifs <;> omega
  · obtain ⟨hregion0, -, hregion1⟩ := h.switched htype
    rw [if_neg htype]
    split_ifs <;> omega

theorem huffWordsPoints_inBounds {requantize : ℕ → ℤ → ℤ} {tables : HuffTables} {channel : Channel}
    {widths : List ℕ} {exponents xr : ℕ → ℤ} {mem : Mem} {lo hi last start regions : ℕ}
    {s : HuffState} (h : Follows requantize mem widths exponents xr lo hi last s ⟨start, []⟩)
    (hpair : InPair requantize tables channel widths exponents s 0) (hw : BandWidths widths)
    (hcounts : RegionCounts channel) (hvalues : TableValues tables)
    (hregions : ∀ band < widths.length, regionOf channel band < regions)
    (hbig : channel.bigValues ≤ 288) (hhi : last + 63 ≤ hi) :
    (∀ p ∈ huffWordsPoints requantize tables mem channel exponents s,
        p.InBounds widths.length regions) ∧
      ((huffWords requantize tables mem channel exponents s).2 = .none → ∀ i < 576,
        SetAt (huffWordsPoints requantize tables mem channel exponents s) i) := by
  have hroom : (⟨start, []⟩ : BitDecoder).values.length + 2 * channel.bigValues ≤ 576 := by
    show 0 + 2 * channel.bigValues ≤ 576
    omega
  have hzero : s.xrptr = 0 := h.xrptr_eq
  obtain ⟨-, hfollows, hlength, band, hband⟩ := h.bigValues hpair hw hcounts hhi hroom
  obtain ⟨hpoints, hset⟩ := h.bigValuesPoints hpair hw hcounts hvalues hregions hhi hroom
  rw [huffWordsPoints, huffWords]
  simp only
  by_cases hfailed : (s.bigValues requantize tables mem channel exponents channel.bigValues).2 ≠ .none
  · rw [if_pos hfailed, if_pos hfailed, List.append_nil]
    exact ⟨hpoints, fun hnone => absurd hnone hfailed⟩
  · rw [if_neg hfailed, if_neg hfailed]
    by_cases hover : (s.bigValues requantize tables mem channel exponents
        channel.bigValues).1.cachesz + (s.bigValues requantize tables mem channel exponents
        channel.bigValues).1.bitsLeft < 0
    · rw [if_pos hover, if_pos hover, List.append_nil]
      exact ⟨hpoints, fun hnone => by cases hnone⟩
    · rw [if_neg hover, if_neg hover]
      obtain ⟨table, htable⟩ : ∃ table, table = tables.quad (channel.flags &&& count1tableSelect) :=
        ⟨_, rfl⟩
      rw [← htable]
      obtain ⟨hquads, hquadSet⟩ := hfollows.count1Points table regions hband hw hhi 144
      obtain ⟨hend, hendLength⟩ := hfollows.count1 table hband hw hlength hhi 144
      obtain ⟨hleft, hleftSet⟩ := rzeroAccesses_inBounds widths.length regions
        (s := (s.bigValues requantize tables mem channel exponents channel.bigValues).1.count1
          requantize mem table exponents 144) (hend.xrptr_eq ▸ hend.even)
        (hend.xrptr_eq ▸ hendLength) (count1_overrun (by omega))
      refine ⟨?_, ?_⟩
      · intro p hp
        simp only [List.cons_append, List.mem_append, List.mem_cons, List.not_mem_nil, or_false] at hp
        rcases hp with hp | rfl | hp | rfl
        · exact hpoints p hp
        · intro access haccess
          rw [List.mem_singleton.mp haccess]
          show 1 ≤ 8206
          decide
        · exact hquads p hp
        · exact hleft
      · intro _ i hi
        by_cases hfirst : i < (s.bigValues requantize tables mem channel exponents
            channel.bigValues).1.xrptr
        · exact (hset i (by omega) hfirst).left
        · apply SetAt.right
          by_cases hsecond : i < ((s.bigValues requantize tables mem channel exponents
              channel.bigValues).1.count1 requantize mem table exponents 144).xrptr
          · exact ((hquadSet i (by omega) hsecond).cons _).left
          · exact SetAt.right ⟨_, List.mem_cons_self, hleftSet i (by omega) hi⟩

theorem huffdecodePoints_inBounds (requantize : ℕ → ℤ → ℤ) {tables : HuffTables}
    (hvalues : TableValues tables) {mem : Mem} {ptr : MadBitptr} {pos : ℕ} (hptr : AtBit mem ptr pos)
    (xr : ℕ → ℤ) {channel : Channel} (hbig : channel.bigValues ≤ 288)
    (hcounts : RegionCounts channel) {widths : List ℕ} (hw : BandWidths widths) {regions : ℕ}
    (hregions : ∀ band < widths.length, regionOf channel band < regions) {part2Length : ℕ}
    (hpart2 : part2Length ≤ channel.part23Length) (exponents : ℕ → ℤ) :
    (∀ p ∈ huffdecodePoints requantize tables mem { bits := ptr } xr channel widths part2Length
        exponents, p.InBounds widths.length regions) ∧
      ((huffdecodeWith requantize tables mem { bits := ptr } xr channel widths part2Length
          exponents).error = .none → ∀ i < 576,
        SetAt (huffdecodePoints requantize tables mem { bits := ptr } xr channel widths part2Length
          exponents) i) := by
  obtain ⟨bitsLeft, hbits⟩ : ∃ bitsLeft, bitsLeft = channel.part23Length - part2Length := ⟨_, rfl⟩
  have hint : (channel.part23Length : ℤ) - part2Length = bitsLeft := by omega
  have hlong : ¬ (bitsLeft : ℤ) < 0 := by omega
  have hcursor : Cursor mem 0 (pos + bitsLeft + 63) { bits := ptr } pos :=
    ⟨hptr, Nat.zero_le pos, Nat.succ_pos _, fun a ha => absurd ha List.not_mem_nil⟩
  have hskip : Cursor mem 0 (pos + bitsLeft + 63) (MainPtr.skip mem { bits := ptr } bitsLeft)
      (pos + bitsLeft) := hcursor.skip (by omega)
  have hpeek : Cursor mem 0 (pos + bitsLeft + 63)
      { MainPtr.skip mem { bits := ptr } bitsLeft with bits := ptr } pos :=
    ⟨hcursor.at_pos, hcursor.lo_le, hcursor.lo_lt, hskip.reads_in⟩
  have hlength : 0 < widths.length := by
    by_contra hempty
    have hsum := hw.sum_eq
    have hnil : widths = [] := List.eq_nil_of_length_eq_zero (by omega)
    rw [hnil] at hsum
    cases hsum
  have hregion0 : 0 < regions := Nat.lt_of_le_of_lt (Nat.zero_le _) (hregions 0 hlength)
  have hstart : ∀ s : HuffState, HuffPoint.InBounds widths.length regions
      ⟨s, [.sfbwidth widths.length, .tableSelect 0, .exponents 0]⟩ := by
    intro s access haccess
    simp only [List.mem_cons, List.not_mem_nil, or_false] at haccess
    rcases haccess with rfl | rfl | rfl
    · exact hlength
    · exact hregion0
    · exact hlength
  simp only [huffdecodePoints, huffdecodeWith, huffdecodePart, hint, if_neg hlong,
    Int.toNat_natCast]
  cases htable : (tables.pair (channel.tableSelect 0)).table with
  | none =>
    simp only [Option.isNone_none, if_true]
    refine ⟨?_, fun hnone => by cases hnone⟩
    intro p hp
    rw [List.mem_singleton.mp hp]
    exact hstart _
  | some table =>
    have hahead := huffStart_ahead hpeek bitsLeft (by omega) xr channel widths exponents table
      (tables.pair (channel.tableSelect 0)).linbits
    have hpair := huffStart_inPair requantize exponents xr hw hcounts mem
      { MainPtr.skip mem { bits := ptr } bitsLeft with bits := ptr } bitsLeft htable
    obtain ⟨hpoints, hset⟩ := huffWordsPoints_inBounds
      ⟨hahead, rfl, Nat.dvd_zero 2, spectrum_nil.symm⟩ hpair hw hcounts hvalues hregions hbig
      (Nat.le_refl _)
    simp only [Option.isNone_some, Bool.false_eq_true, if_false]
    refine ⟨?_, fun hnone i hi => (hset hnone i hi).cons _⟩
    intro p hp
    rcases List.mem_cons.mp hp with rfl | hp
    · exact hstart _
    · exact hpoints p hp

/-- **All accesses of `III_exponents` and `III_huffdecode` are in bounds.**  For accepted side
information, any scalefactors, flags and main data, and the band tables of every sample rate; and
where no error is reported all lines have been set. -/
theorem huffdecode_staysInBounds (requantize : ℕ → ℤ → ℤ) {mem : Mem} {ptr : MadBitptr} {pos : ℕ}
    (hptr : AtBit mem ptr pos) {nch : ℕ} {lsf : Bool} {si : SideInfo}
    (hok : (iiiSideinfo mem ptr nch lsf si).result = .none) {gr ch : ℕ}
    (hgr : gr < if lsf then 1 else 2) (hch : ch < nch) (scalefac : ℕ → ℕ) (flags : ℕ)
    {row : SfbWidths} (hrow : row ∈ sfbwidthTable) {data : Mem} {main : MadBitptr} {start : ℕ}
    (hmain : AtBit data main start) (xr : ℕ → ℤ) (part2Length : ℕ) (exponents : ℕ → ℤ) :
    let channel := { (iiiSideinfo mem ptr nch lsf si).si.gr gr ch with scalefac, flags }
    let widths := row.select channel
    let accesses := iiiHuffdecodeAccesses requantize data { bits := main } xr channel widths
      part2Length exponents
    widths.length ≤ 39 ∧
      (∀ access ∈ accesses, access.InBounds widths.length (regionsOf channel)) ∧
      ((iiiHuffdecode requantize data { bits := main } xr channel widths part2Length
          exponents).error = .none → ∀ i : ℕ, i < 576 → HuffAccess.xr i ∈ accesses) := by
  intro channel widths accesses
  obtain ⟨hbig, htype, hregions, hswitched⟩ := iiiSideinfo_accepted hptr hok hgr hch
  have haccepted : channel.Accepted := ⟨hbig, htype, hregions, hswitched⟩
  have htwo : 2 ≤ regionsOf channel := by
    rw [regionsOf]
    split_ifs <;> omega
  obtain ⟨hw, hlength, hexponents⟩ := exponentsAccesses_inBounds hrow channel htwo
  refine ⟨hlength, ?_⟩
  simp only [accesses, iiiHuffdecodeAccesses, iiiHuffdecode]
  by_cases hpart2 : part2Length ≤ channel.part23Length
  · have hlong : ¬ (channel.part23Length : ℤ) - part2Length < 0 := by omega
    obtain ⟨hpoints, hset⟩ := huffdecodePoints_inBounds requantize madHuffTables_values hmain xr
      haccepted.bigValues_le haccepted.regionCounts hw
      (fun band hband => haccepted.regionOf_lt (by omega)) hpart2
      (iiiExponents channel widths exponents)
    rw [if_neg hlong]
    refine ⟨?_, ?_⟩
    · intro access haccess
      rcases List.mem_append.mp haccess with hfirst | hpoint
      · exact hexponents access hfirst
      · obtain ⟨p, hp, hmem⟩ := List.mem_flatMap.mp hpoint
        exact hpoints p hp access hmem
    · intro hnone i hi
      obtain ⟨p, hp, hmem⟩ := hset hnone i hi
      exact List.mem_append_right _ (List.mem_flatMap.mpr ⟨p, hp, hmem⟩)
  · have hshort : (channel.part23Length : ℤ) - part2Length < 0 := by omega
    simp only [huffdecodePoints, huffdecodeWith, if_pos hshort, List.flatMap_nil, List.append_nil]
    exact ⟨fun access haccess => absurd haccess List.not_mem_nil, fun hnone => by cases hnone⟩

/-- Side information of one pair of table 13, whose code is that of the values 15 and 0. -/
def pair13Bytes : Mem :=
  fun a => ([0x0, 0x0, 0x68, 0x7, 0x48, 0x0, 0x68, 0x0, 0x0] : List UInt8).getD a 0

def pair13Data : Mem := fun a => ([0x01, 0x00] : List UInt8).getD a 0

def pair13 : SideinfoState := iiiSideinfo pair13Bytes (madBitInit 0) 1 true {}

/-- The last element of `reqcache` is used: tables 13 and 15 have the value 15 and no linbits. -/
theorem huffdecode_uses_reqcache15 :
    pair13.result = .none ∧
      HuffAccess.reqcache 15 ∈ iiiHuffdecodeAccesses (fun _ _ => 0) pair13Data
        { bits := madBitInit 0 } (fun _ => 0) (pair13.si.gr 0 0)
        (sfbwidthTable.getD 3 ⟨[], [], []⟩).l 0 (fun _ => 0) := by
  decide +kernel

theorem huffdecode_staysInBounds_pair13 :
    let row : SfbWidths := ⟨sfb24000Long, sfb24000Short, sfb24000Mixed⟩
    let accesses := iiiHuffdecodeAccesses (fun _ _ => 0) pair13Data { bits := madBitInit 0 }
      (fun _ => 0) (pair13.si.gr 0 0) (row.select (pair13.si.gr 0 0)) 0 (fun _ => 0)
    (∀ access ∈ accesses, access.InBounds (row.select (pair13.si.gr 0 0)).length
        (regionsOf (pair13.si.gr 0 0))) ∧
      ∀ i : ℕ, i < 576 → HuffAccess.xr i ∈ accesses := by
  intro row accesses
  have hrow : row ∈ sfbwidthTable := List.mem_cons_of_mem _ (List.mem_cons_of_mem _
    (List.mem_cons_of_mem _ List.mem_cons_self))
  have hok : pair13.result = .none := by decide +kernel
  have hdecoded : (iiiHuffdecode (fun _ _ => 0) pair13Data { bits := madBitInit 0 } (fun _ => 0)
      (pair13.si.gr 0 0) (row.select (pair13.si.gr 0 0)) 0 (fun _ => 0)).error = .none := by
    decide +kernel
  have hall := huffdecode_staysInBounds (fun _ _ => 0) (atBit_init pair13Bytes 0) hok Nat.one_pos
    Nat.one_pos (pair13.si.gr 0 0).scalefac (pair13.si.gr 0 0).flags hrow (atBit_init pair13Data 0)
    (fun _ => 0) 0 (fun _ => 0)
  exact ⟨hall.2.1, hall.2.2 hdecoded⟩

end Mp3Decoder
