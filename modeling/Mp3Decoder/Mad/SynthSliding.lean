import Mp3Decoder.Lib.DelayLine
import Mp3Decoder.Mad.Synth

/-!
# Synthesis is a sliding window

Each cell of the filter is a slot of a delay line of 16 blocks, in which the slots of one parity and
those of the other lie apart.  The columns of `D` that the phase selects are the ages of the slots,
modulo 16.  So sample `k` of a block is a sum over the last 16 blocks with coefficients that depend
on `k` and the age only.
-/

namespace Mp3Decoder

open DelayLine Finset

/-! ### The sliding window -/

/-- The coefficient of sample `k` for the block `j` steps back -/
def windowCoeff (k j : ℕ) : ℤ :=
  if k = 16 ∧ j % 2 = 0 then 0
  else if k ≤ 16 then if j % 2 = 0 then windowEntry k j else -windowEntry k j
  else windowEntry (32 - k) (15 - j)

/-- The output of `dct32` that sample `k` takes from the block `j` steps back -/
def tapOutput (k j : ℕ) (out : DctOutput) : BitVec 32 :=
  if j % 2 = 0 then out 0 (if k < 16 then k else 32 - k)
  else if k = 0 then out 0 0
  else out 1 (if k ≤ 16 then k - 1 else 31 - k)

/-- The sum of sample `k`, with `back j` the output for the block `j` steps back -/
def slidingSum (k : ℕ) (back : ℕ → DctOutput) : BitVec 32 :=
  ∑ j ∈ range 16, BitVec.ofInt 32 (windowCoeff k j) * tapOutput k j (back j)

/-! ### Columns and ages -/

theorem notPhase_eq : ∀ phase < 16, notPhase phase = (phase + 1) % 2 := by decide

theorem windowEntry_mod {row col : ℕ} (hrow : row < 17) (hcol : col < 32) :
    windowEntry row col = windowEntry row (col % 16 : ℕ) := by
  simp only [windowEntry, Int.toNat_natCast]
  by_cases hlow : col < 16
  · rw [Nat.mod_eq_of_lt hlow]
  · have hperiod := windowD_period row hrow (col % 16) (by omega)
    rw [show col % 16 + 16 = col by omega] at hperiod
    exact hperiod

/-- The columns of `ptr = *Dptr + pe` and of `ptr = *Dptr + po` -/
theorem colsFrom : ∀ phase < 16, ∀ v < 8,
    peOf phase + (16 - 2 * v) % 16 < 32 ∧
    (peOf phase + (16 - 2 * v) % 16) % 16 = age 16 (phase + 1) (2 * v + (phase &&& 1)) ∧
    poOf phase + (16 - 2 * v) % 16 < 32 ∧
    (poOf phase + (16 - 2 * v) % 16) % 16 = age 16 (phase + 1) (2 * v + notPhase phase) := by
  decide +kernel

/-- The columns of `ptr = *Dptr - pe` and of `ptr = *Dptr - po` -/
theorem colsBack : ∀ phase < 16, ∀ v < 8,
    peOf phase ≤ 15 + 2 * v ∧ 15 + 2 * v - peOf phase < 32 ∧
    (15 + 2 * v - peOf phase) % 16 = 15 - age 16 (phase + 1) (2 * v + (phase &&& 1)) ∧
    poOf phase ≤ 15 + 2 * v ∧ 15 + 2 * v - poOf phase < 32 ∧
    (15 + 2 * v - poOf phase) % 16 = 15 - age 16 (phase + 1) (2 * v + notPhase phase) := by
  decide +kernel

/-! ### One sum -/

/-- The cells of a channel's filter are delay lines: `outs` are the outputs of `dct32` so far, the
newest first. -/
def Delayed (outs : List DctOutput) (filter : Filter) : Prop :=
  ∀ eo < 2, ∀ s < 16, Recent 16 0 (outs.map fun out => out eo s)
    fun q => filter eo (q % 2) s (q / 2)

/-- The output of the block `j` steps back, zero before the start -/
def nthBack (outs : List DctOutput) (j : ℕ) : DctOutput := outs.getD j fun _ _ => 0

theorem Delayed.cell {outs : List DctOutput} {filter : Filter} (h : Delayed outs filter)
    {eo s peo v : ℕ} (heo : eo < 2) (hs : s < 16) (hpeo : peo < 2) (hv : v < 8) :
    filter eo peo s v = nthBack outs (age 16 outs.length (2 * v + peo)) eo s := by
  have hcell := h eo heo s hs (2 * v + peo) (by omega)
  simp only [show (2 * v + peo) % 2 = peo by omega, show (2 * v + peo) / 2 = v by omega,
    List.length_map] at hcell
  rw [hcell, nthBack, List.getD_eq_getElem?_getD, List.getElem?_map,
    List.getD_eq_getElem?_getD]
  cases outs[age 16 outs.length (2 * v + peo)]? with
  | none => rfl
  | some out => rfl

/-- What a tap adds. -/
def Tap.product (filter : Filter) (tap : Tap) : BitVec 32 :=
  filter tap.eo tap.peo tap.s tap.v * BitVec.ofInt 32 (windowEntry tap.row tap.col)

theorem mla_eq (filter : Filter) (lo : BitVec 32) (taps : List Tap) :
    mla filter lo taps = lo + (taps.map (Tap.product filter)).sum := by
  induction taps generalizing lo with
  | nil => rw [mla, List.foldl_nil, List.map_nil, List.sum_nil, add_zero]
  | cons tap taps ih =>
    have htail := ih (lo + Tap.product filter tap)
    rw [List.map_cons, List.sum_cons, ← add_assoc, ← htail]
    rfl

theorem sum_map_range (f : ℕ → BitVec 32) (n : ℕ) :
    ((List.range n).map f).sum = ∑ v ∈ range n, f v := rfl

theorem sum_reverse (filter : Filter) (taps : List Tap) :
    (taps.reverse.map (Tap.product filter)).sum = (taps.map (Tap.product filter)).sum :=
  ((List.reverse_perm taps).map _).sum_eq

/-- The product for the block `j` steps back with column `col j` of a row -/
def weighted (outs : List DctOutput) (eo s row : ℕ) (col : ℕ → ℕ) (j : ℕ) : BitVec 32 :=
  BitVec.ofInt 32 (windowEntry row (col j : ℕ)) * nthBack outs j eo s

section
variable {outs : List DctOutput} {filter : Filter} {eo s row peo offset : ℕ}

theorem Delayed.tapsFrom (h : Delayed outs filter) (heo : eo < 2) (hs : s < 16) (hrow : row < 17)
    (hpeo : peo < 2) (hcol : ∀ v < 8, offset + (16 - 2 * v) % 16 < 32 ∧
      (offset + (16 - 2 * v) % 16) % 16 = age 16 outs.length (2 * v + peo)) :
    ((Mp3Decoder.tapsFrom eo peo s row offset).map (Tap.product filter)).sum =
      ∑ v ∈ range 8, weighted outs eo s row id (age 16 outs.length (2 * v + peo)) := by
  rw [Mp3Decoder.tapsFrom, List.map_map, sum_map_range]
  refine sum_congr rfl ?_
  intro v hv
  have hv := mem_range.mp hv
  obtain ⟨hlt, hmod⟩ := hcol v hv
  have hentry := windowEntry_mod hrow hlt
  rw [hmod] at hentry
  simp only [Function.comp, Tap.product, weighted, id_eq]
  rw [h.cell heo hs hpeo hv, ← hentry, mul_comm, Nat.cast_add]

theorem Delayed.tapsBack (h : Delayed outs filter) (heo : eo < 2) (hs : s < 16) (hrow : row < 17)
    (hpeo : peo < 2) (hcol : ∀ v < 8, offset ≤ 15 + 2 * v ∧ 15 + 2 * v - offset < 32 ∧
      (15 + 2 * v - offset) % 16 = 15 - age 16 outs.length (2 * v + peo)) :
    ((Mp3Decoder.tapsBack eo peo s row offset).map (Tap.product filter)).sum =
      ∑ v ∈ range 8, weighted outs eo s row (fun j => 15 - j) (age 16 outs.length (2 * v + peo)) := by
  rw [Mp3Decoder.tapsBack, List.map_map, sum_map_range]
  refine sum_congr rfl ?_
  intro v hv
  have hv := mem_range.mp hv
  obtain ⟨hle, hlt, hmod⟩ := hcol v hv
  have hentry := windowEntry_mod hrow hlt
  rw [hmod] at hentry
  simp only [Function.comp, Tap.product, weighted]
  rw [h.cell heo hs hpeo hv, ← hentry, mul_comm]
  congr 3
  omega

end

/-! ### The terms of the window -/

theorem slidingTerm_low (outs : List DctOutput) {k : ℕ} (hk : k < 16) (j : ℕ) :
    BitVec.ofInt 32 (windowCoeff k j) * tapOutput k j (nthBack outs j) =
      if j % 2 = 0 then weighted outs 0 k k id j
      else -weighted outs (if k = 0 then 0 else 1) (k - 1) k id j := by
  have hle : k ≤ 16 := hk.le
  have hne : k ≠ 16 := hk.ne
  by_cases hj : j % 2 = 0
  · simp only [windowCoeff, tapOutput, weighted, id_eq, hj, hne, hle, hk, if_true, false_and,
      if_false]
  · by_cases hzero : k = 0
    · simp only [windowCoeff, tapOutput, weighted, id_eq, hj, hzero, BitVec.ofInt_neg, neg_mul,
        and_false, if_false, if_true, Nat.zero_le]
    · simp only [windowCoeff, tapOutput, weighted, id_eq, hj, hzero, hle, BitVec.ofInt_neg,
        neg_mul, and_false, if_false, if_true]

theorem slidingTerm_middle (outs : List DctOutput) (j : ℕ) :
    BitVec.ofInt 32 (windowCoeff 16 j) * tapOutput 16 j (nthBack outs j) =
      if j % 2 = 0 then 0 else -weighted outs 1 15 16 id j := by
  by_cases hj : j % 2 = 0
  · rw [windowCoeff, if_pos ⟨rfl, hj⟩, if_pos hj, show BitVec.ofInt 32 0 = 0 from rfl,
      zero_mul]
  · simp only [windowCoeff, tapOutput, weighted, id_eq, hj, BitVec.ofInt_neg, neg_mul, and_false,
      if_false, le_refl, if_true, Nat.reduceEqDiff, Nat.reduceSub]

theorem slidingTerm_high (outs : List DctOutput) {k j : ℕ} (hk : 16 < k) (hj : j < 16) :
    BitVec.ofInt 32 (windowCoeff k j) * tapOutput k j (nthBack outs j) =
      if j % 2 = 0 then weighted outs 0 (32 - k) (32 - k) (fun j => 15 - j) j
      else weighted outs 1 (31 - k) (32 - k) (fun j => 15 - j) j := by
  have hcol : (15 : ℤ) - j = (15 - j : ℕ) := by omega
  have hne : k ≠ 16 := hk.ne'
  have hzero : k ≠ 0 := by omega
  have hle : ¬k ≤ 16 := by omega
  have hlt : ¬k < 16 := by omega
  by_cases hj : j % 2 = 0
  · simp only [windowCoeff, tapOutput, weighted, hcol, hj, hne, hle, hlt, if_true, false_and,
      if_false]
  · simp only [windowCoeff, tapOutput, weighted, hcol, hj, hzero, hle, and_false, if_false]

/-! ### The stores -/

section
variable {outs : List DctOutput} {filter : Filter} {phase : ℕ} (hd : Delayed outs filter)
  (hphase : phase < 16) (hlen : outs.length % 16 = (phase + 1) % 16)
include hphase hlen

/-- Both parities of the phase make up the window. -/
theorem sum_parities (even odd : ℕ → BitVec 32) :
    ∑ v ∈ range 8, even (age 16 outs.length (2 * v + (phase &&& 1))) +
        ∑ v ∈ range 8, odd (age 16 outs.length (2 * v + notPhase phase)) =
      ∑ j ∈ range 16, if j % 2 = 0 then even j else odd j := by
  have hsum := sum_age_parity 8 outs.length even odd
  rw [show outs.length % 2 = (phase + 1) % 2 by omega,
    show (outs.length + 1) % 2 = phase % 2 by omega] at hsum
  rw [Nat.and_one_is_mod, notPhase_eq phase hphase]
  exact hsum

include hd

theorem sum_evenFrom {eo s row : ℕ} (heo : eo < 2) (hs : s < 16) (hrow : row < 17) :
    ((tapsFrom eo (phase &&& 1) s row (peOf phase)).map (Tap.product filter)).sum =
      ∑ v ∈ range 8, weighted outs eo s row id (age 16 outs.length (2 * v + (phase &&& 1))) := by
  refine hd.tapsFrom heo hs hrow (by rw [Nat.and_one_is_mod]; omega) ?_
  intro v hv
  obtain ⟨hlt, hmod, _, _⟩ := colsFrom phase hphase v hv
  exact ⟨hlt, hmod.trans (age_congr hlen.symm _)⟩

theorem sum_oddFrom {eo s row : ℕ} (heo : eo < 2) (hs : s < 16) (hrow : row < 17) :
    ((tapsFrom eo (notPhase phase) s row (poOf phase)).map (Tap.product filter)).sum =
      ∑ v ∈ range 8, weighted outs eo s row id (age 16 outs.length (2 * v + notPhase phase)) := by
  refine hd.tapsFrom heo hs hrow (by rw [notPhase_eq phase hphase]; omega) ?_
  intro v hv
  obtain ⟨_, _, hlt, hmod⟩ := colsFrom phase hphase v hv
  exact ⟨hlt, hmod.trans (age_congr hlen.symm _)⟩

theorem sum_evenBack {eo s row : ℕ} (heo : eo < 2) (hs : s < 16) (hrow : row < 17) :
    ((tapsBack eo (phase &&& 1) s row (peOf phase)).map (Tap.product filter)).sum =
      ∑ v ∈ range 8, weighted outs eo s row (fun j => 15 - j)
        (age 16 outs.length (2 * v + (phase &&& 1))) := by
  refine hd.tapsBack heo hs hrow (by rw [Nat.and_one_is_mod]; omega) ?_
  intro v hv
  obtain ⟨hle, hlt, hmod, _, _, _⟩ := colsBack phase hphase v hv
  exact ⟨hle, hlt, hmod.trans (by rw [age_congr hlen.symm])⟩

theorem sum_oddBack {eo s row : ℕ} (heo : eo < 2) (hs : s < 16) (hrow : row < 17) :
    ((tapsBack eo (notPhase phase) s row (poOf phase)).map (Tap.product filter)).sum =
      ∑ v ∈ range 8, weighted outs eo s row (fun j => 15 - j)
        (age 16 outs.length (2 * v + notPhase phase)) := by
  refine hd.tapsBack heo hs hrow (by rw [notPhase_eq phase hphase]; omega) ?_
  intro v hv
  obtain ⟨_, _, _, hle, hlt, hmod⟩ := colsBack phase hphase v hv
  exact ⟨hle, hlt, hmod.trans (by rw [age_congr hlen.symm])⟩

/-- The stores behind `pcm1`: the odd ages are negated. -/
theorem sum_forward {eo s s' row : ℕ} {added : List Tap} (slot : ℕ) (heo : eo < 2) (hs : s < 16)
    (hs' : s' < 16) (hrow : row < 17)
    (hadded : (added.map (Tap.product filter)).sum =
      ((tapsFrom 0 (phase &&& 1) s row (peOf phase)).map (Tap.product filter)).sum) :
    ({ slot, negated := tapsFrom eo (notPhase phase) s' row (poOf phase), added } :
        PcmStore).sum filter =
      ∑ j ∈ range 16, if j % 2 = 0 then weighted outs 0 s row id j
        else -weighted outs eo s' row id j := by
  simp only [PcmStore.sum, mla_eq, zero_add]
  rw [hadded, sum_evenFrom hd hphase hlen (by omega) hs hrow,
    sum_oddFrom hd hphase hlen heo hs' hrow, ← sum_neg_distrib, add_comm]
  exact sum_parities hphase hlen (weighted outs 0 s row id) (fun j => -weighted outs eo s' row id j)

/-- The stores behind `pcm2`: the row is read from its end. -/
theorem sum_mirrored {s s' row : ℕ} (slot : ℕ) (hs : s < 16) (hs' : s' < 16) (hrow : row < 17) :
    ({ slot, negated := [], added := tapsBack 0 (phase &&& 1) s row (peOf phase) ++
        (tapsBack 1 (notPhase phase) s' row (poOf phase)).reverse } : PcmStore).sum filter =
      ∑ j ∈ range 16, if j % 2 = 0 then weighted outs 0 s row (fun j => 15 - j) j
        else weighted outs 1 s' row (fun j => 15 - j) j := by
  simp only [PcmStore.sum, mla_eq, List.map_nil, List.sum_nil, zero_add, neg_zero]
  rw [List.map_append, List.sum_append, sum_reverse,
    sum_evenBack hd hphase hlen (by omega) hs hrow, sum_oddBack hd hphase hlen (by omega) hs' hrow]
  exact sum_parities hphase hlen (weighted outs 0 s row fun j => 15 - j)
    (weighted outs 1 s' row fun j => 15 - j)

/-- **Every store** puts the sliding sum of its slot. -/
theorem pcmStores_sum : ∀ store ∈ pcmStores 30 phase,
    store.sum filter = slidingSum store.slot (nthBack outs) := by
  intro store hstore
  simp only [pcmStores, List.mem_append, List.mem_flatMap, List.mem_range, List.mem_cons,
    List.not_mem_nil, or_false] at hstore
  rcases hstore with (hzero | ⟨i, hi, hsb | hmirror⟩) | hlast
  · rw [hzero, sum_forward hd hphase hlen 0 (by omega) (by omega) (by omega) (by omega) rfl]
    refine sum_congr rfl ?_
    intro j _
    exact (slidingTerm_low outs (by omega) j).symm
  · rw [hsb, sum_forward hd hphase hlen (i + 1) (by omega) (by omega) (by omega) (by omega)
      (sum_reverse filter _)]
    refine sum_congr rfl ?_
    intro j _
    have hterm := slidingTerm_low outs (show i + 1 < 16 by omega) j
    rw [if_neg (show i + 1 ≠ 0 by omega)] at hterm
    exact hterm.symm
  · rw [hmirror, sum_mirrored hd hphase hlen (1 + 30 - i) (by omega) (by omega) (by omega)]
    refine sum_congr rfl ?_
    intro j hj
    have hterm := slidingTerm_high outs (show 16 < 1 + 30 - i by omega)
      (mem_range.mp hj)
    rw [show 32 - (1 + 30 - i) = i + 1 by omega, show 31 - (1 + 30 - i) = i + 1 - 1 by omega]
      at hterm
    exact hterm.symm
  · -- even ages have no part in the middle sample
    have hsum := sum_parities hphase hlen (fun _ => 0) fun j => -weighted outs 1 15 16 id j
    rw [sum_const_zero, zero_add] at hsum
    rw [hlast, PcmStore.sum, mla_eq, mla_eq, List.map_nil, List.sum_nil, add_zero, zero_add,
      sum_oddFrom hd hphase hlen (by omega) (by omega) (by omega), ← sum_neg_distrib, hsum]
    refine sum_congr rfl ?_
    intro j _
    exact (slidingTerm_middle outs j).symm

end

/-! ### The buffer -/

/-- Two samples fit into 16 bits. -/
theorem scale_range (sample : BitVec 32) :
    -2 ^ 14 ≤ (scale sample).toInt ∧ (scale sample).toInt ≤ 2 ^ 14 - 1 := by
  obtain ⟨clipped, hscale, hlow, hhigh⟩ : ∃ clipped : BitVec 32,
      scale sample = (clipped.sshiftRight 14).setWidth 16 ∧ -2 ^ 28 ≤ clipped.toInt ∧
        clipped.toInt ≤ 2 ^ 28 - 1 := by
    refine ⟨_, rfl, ?_⟩
    by_cases hbig : madFOne ≤ (sample + 0x1000#32).toInt
    · rw [if_pos hbig]
      decide
    · by_cases hsmall : (sample + 0x1000#32).toInt < -madFOne
      · rw [if_neg hbig, if_pos hsmall]
        decide
      · rw [if_neg hbig, if_neg hsmall]
        rw [madFOne] at hbig hsmall
        omega
  have hshift : (clipped.sshiftRight 14).toInt = clipped.toInt / 2 ^ 14 := by
    rw [BitVec.toInt_sshiftRight, Int.shiftRight_eq_div_pow]
    rfl
  have hnat := BitVec.toInt_eq_toNat_bmod (clipped.sshiftRight 14)
  rw [hscale, BitVec.toInt_setWidth]
  rw [hshift] at hnat
  simp only [Int.bmod] at hnat ⊢
  omega

/-- Each slot of a list without repetition gets one addition. -/
theorem foldl_update_add (f : ℕ → BitVec 16) (slots : List ℕ) (hnodup : slots.Nodup)
    (buff : PcmBuffer) (k : ℕ) :
    slots.foldl (fun buff slot => Function.update buff slot (buff slot + f slot)) buff k =
      if k ∈ slots then buff k + f k else buff k := by
  induction slots generalizing buff with
  | nil => rfl
  | cons slot slots ih =>
    have hslot := (List.nodup_cons.mp hnodup).1
    rw [List.foldl_cons, ih (List.nodup_cons.mp hnodup).2]
    by_cases hk : k = slot
    · rw [hk, if_neg hslot, if_pos List.mem_cons_self, Function.update_self]
    · rw [Function.update_of_ne hk]
      simp only [List.mem_cons, hk, false_or]

/-- **Each slot once**, whatever the phase -/
theorem pcmStores_slots (phase : ℕ) :
    ((pcmStores 30 phase).map PcmStore.slot).Perm (List.range 32) := by
  simp only [pcmStores, List.map_append, List.map_flatMap, List.map_cons, List.map_nil]
  decide

theorem pcmStores_accumulate {outs : List DctOutput} {filter : Filter} {phase : ℕ}
    (hd : Delayed outs filter) (hphase : phase < 16) (hlen : outs.length % 16 = (phase + 1) % 16)
    (buff : PcmBuffer) {k : ℕ} (hk : k < 32) :
    (pcmStores 30 phase).foldl (PcmStore.accumulate filter) buff k =
      buff k + scale (synthShift (slidingSum k (nthBack outs))) := by
  have hfold : (pcmStores 30 phase).foldl (PcmStore.accumulate filter) buff =
      ((pcmStores 30 phase).map PcmStore.slot).foldl (fun buff slot => Function.update buff slot
        (buff slot + scale (synthShift (slidingSum slot (nthBack outs))))) buff := by
    rw [List.foldl_map]
    refine List.foldl_ext _ _ _ ?_
    intro buff store hstore
    rw [PcmStore.accumulate, pcmStores_sum hd hphase hlen store hstore]
  have hperm := pcmStores_slots phase
  rw [hfold, foldl_update_add _ _ (hperm.nodup_iff.mpr List.nodup_range),
    if_pos (hperm.mem_iff.mpr (List.mem_range.mpr hk))]

/-! ### Blocks -/

theorem storeDct32_delayed {outs : List DctOutput} {filter : Filter} (hd : Delayed outs filter)
    (out : DctOutput) : Delayed (out :: outs) (storeDct32 filter (outs.length % 16) out) := by
  intro eo heo s hs
  rw [List.map_cons]
  have hslot : outs.length % 16 < 16 := Nat.mod_lt _ (by omega)
  refine (hd eo heo s hs).write (out eo s) ?_ ?_
  · rw [List.length_map, storeDct32, if_pos]
    exact ⟨heo, (Nat.and_one_is_mod _).symm, hs, (Nat.shiftRight_one _).symm⟩
  · intro q hq hne
    rw [List.length_map] at hne
    rw [storeDct32, if_neg]
    rw [Nat.and_one_is_mod, Nat.shiftRight_one]
    omega

section
variable (dct32 : (ℕ → BitVec 32) → DctOutput)

/-- The outputs for one channel -/
def dctOutputs (ch : ℕ) (past : List SubbandBlock) : List DctOutput :=
  past.map fun block => dct32 (block ch)

/-- The filters of `nch` channels after the blocks `past`, the newest first -/
def FiltersDelayed (nch : ℕ) (past : List SubbandBlock) (filter : ℕ → Filter) : Prop :=
  ∀ ch < nch, Delayed (dctOutputs dct32 ch past) (filter ch)

/-- What channel `ch` adds to sample `k` of the newest block. -/
def channelSample (k ch : ℕ) (past : List SubbandBlock) : ℤ :=
  (scale (synthShift (slidingSum k (nthBack (dctOutputs dct32 ch past))))).toInt

theorem sum_channelSample (k n : ℕ) (past : List SubbandBlock) :
    -(n * 2 ^ 14) ≤ ∑ ch ∈ range n, channelSample dct32 k ch past ∧
      ∑ ch ∈ range n, channelSample dct32 k ch past ≤ n * (2 ^ 14 - 1) := by
  induction n with
  | zero => simp
  | succ n ih =>
    have hrange := scale_range (synthShift (slidingSum k (nthBack (dctOutputs dct32 n past))))
    rw [sum_range_succ, channelSample]
    push_cast
    omega

theorem synthBlock_succ (gap n phase : ℕ) (block : SubbandBlock) (filter : ℕ → Filter) :
    let before := synthBlock dct32 gap n phase block filter
    let filterCh := storeDct32 (before.1 n) phase (dct32 (block n))
    (synthBlock dct32 gap (n + 1) phase block filter).1 = Function.update before.1 n filterCh ∧
      (synthBlock dct32 gap (n + 1) phase block filter).2 =
        (pcmStores gap phase).foldl (PcmStore.accumulate filterCh) before.2 := by
  simp only [synthBlock, List.range_succ, List.foldl_append, List.foldl_cons, List.foldl_nil,
    and_self]

/-- **One channel after the other**: the filters stay delay lines, and the channels add up without
wrapping. -/
theorem synthBlock_channels {nch : ℕ} (hnch : nch ≤ 2) {past : List SubbandBlock}
    {filter : ℕ → Filter} (h : FiltersDelayed dct32 nch past filter) (block : SubbandBlock)
    {n : ℕ} (hn : n ≤ nch) :
    let out := synthBlock dct32 30 n (past.length % 16) block filter
    FiltersDelayed dct32 n (block :: past) out.1 ∧ (∀ ch, n ≤ ch → out.1 ch = filter ch) ∧
      ∀ k < 32, (out.2 k).toInt = ∑ ch ∈ range n, channelSample dct32 k ch (block :: past) := by
  intro out
  induction n with
  | zero =>
    refine ⟨?_, ?_, ?_⟩
    · intro ch hch
      omega
    · intro ch _
      rfl
    · intro k _
      rfl
  | succ n ih =>
    obtain ⟨hdone, hleft, hsum⟩ := ih (by omega)
    obtain ⟨hfst, hsnd⟩ := synthBlock_succ dct32 30 n (past.length % 16) block filter
    have hlength : (dctOutputs dct32 n past).length = past.length := List.length_map _
    have hfilter := storeDct32_delayed (h n (by omega)) (dct32 (block n))
    rw [hlength, ← hleft n (le_refl n)] at hfilter
    refine ⟨?_, ?_, ?_⟩
    · intro ch hch
      rw [hfst]
      by_cases hlast : ch = n
      · rw [hlast, Function.update_self]
        exact hfilter
      · rw [Function.update_of_ne hlast]
        exact hdone ch (by omega)
    · intro ch hch
      rw [hfst, Function.update_of_ne (by omega)]
      exact hleft ch (by omega)
    · intro k hk
      have hphase : past.length % 16 < 16 := Nat.mod_lt _ (by omega)
      have hnext : (dct32 (block n) :: dctOutputs dct32 n past).length % 16 =
          (past.length % 16 + 1) % 16 := by
        rw [List.length_cons, hlength]
        omega
      have hacc := pcmStores_accumulate hfilter hphase hnext
        (synthBlock dct32 30 n (past.length % 16) block filter).2 hk
      -- the sum of up to two channels fits
      have hbound := sum_channelSample dct32 k (n + 1) (block :: past)
      rw [sum_range_succ, ← hsum k hk] at hbound ⊢
      rw [hsnd, hacc, BitVec.toInt_add, Int.bmod_eq_of_le]
      · rfl
      · rw [channelSample, dctOutputs, List.map_cons, ← dctOutputs] at hbound
        omega
      · rw [channelSample, dctOutputs, List.map_cons, ← dctOutputs] at hbound
        omega

/-- **One block** -/
theorem synthBlock_sliding {nch : ℕ} (hnch : nch ≤ 2) {past : List SubbandBlock}
    {filter : ℕ → Filter} (h : FiltersDelayed dct32 nch past filter) (block : SubbandBlock) :
    let out := synthBlock dct32 30 nch (past.length % 16) block filter
    FiltersDelayed dct32 nch (block :: past) out.1 ∧
      ∀ k < 32, (out.2 k).toInt = ∑ ch ∈ range nch, channelSample dct32 k ch (block :: past) := by
  obtain ⟨hdone, _, hsum⟩ := synthBlock_channels dct32 hnch h block (le_refl nch)
  exact ⟨hdone, hsum⟩

/-- **A run of blocks** -/
theorem synthBlocks_sliding {nch : ℕ} (hnch : nch ≤ 2) (blocks : List SubbandBlock)
    (past : List SubbandBlock) (filter : ℕ → Filter) (h : FiltersDelayed dct32 nch past filter) :
    let out := synthBlocks dct32 30 nch (past.length % 16) blocks filter
    FiltersDelayed dct32 nch (blocks.reverse ++ past) out.1 ∧
      out.2.length = blocks.length ∧
      ∀ t < blocks.length, ∃ buff, out.2[t]? = some buff ∧ ∀ k < 32, (buff k).toInt =
        ∑ ch ∈ range nch, channelSample dct32 k ch ((blocks.take (t + 1)).reverse ++ past) := by
  induction blocks generalizing past filter with
  | nil => exact ⟨h, rfl, fun t ht => absurd ht (Nat.not_lt_zero t)⟩
  | cons block blocks ih =>
    obtain ⟨hfilter, hbuff⟩ := synthBlock_sliding dct32 hnch h block
    obtain ⟨hrest, hlength, hbuffs⟩ := ih (block :: past) _ hfilter
    rw [List.length_cons, ← Nat.mod_add_mod] at hrest hlength hbuffs
    refine ⟨?_, ?_, ?_⟩
    · rw [List.reverse_cons, List.append_assoc, List.singleton_append]
      exact hrest
    · rw [synthBlocks, List.length_cons, List.length_cons, hlength]
    · intro t ht
      cases t with
      | zero =>
        refine ⟨_, rfl, ?_⟩
        intro k hk
        rw [hbuff k hk]
        rfl
      | succ t =>
        obtain ⟨buff, hget, hsamples⟩ := hbuffs t (Nat.lt_of_succ_lt_succ ht)
        refine ⟨buff, hget, ?_⟩
        intro k hk
        rw [hsamples k hk, List.take_succ_cons, List.reverse_cons, List.append_assoc,
          List.singleton_append]

/-! ### Frames -/

theorem synthBlocks_append (gap nch : ℕ) (blocks blocks' : List SubbandBlock) (phase : ℕ)
    (filter : ℕ → Filter) (hphase : phase < 16) :
    (synthBlocks dct32 gap nch phase (blocks ++ blocks') filter).2 =
      (synthBlocks dct32 gap nch phase blocks filter).2 ++
        (synthBlocks dct32 gap nch ((phase + blocks.length) % 16) blocks'
          (synthBlocks dct32 gap nch phase blocks filter).1).2 := by
  induction blocks generalizing phase filter with
  | nil =>
    rw [List.length_nil, Nat.add_zero, Nat.mod_eq_of_lt hphase]
    rfl
  | cons block blocks ih =>
    have hrest := ih ((phase + 1) % 16)
      (synthBlock dct32 gap nch phase block filter).1 (Nat.mod_lt _ (by omega))
    have hphase' : ((phase + 1) % 16 + blocks.length) % 16 =
        (phase + (block :: blocks).length) % 16 := by
      rw [List.length_cons]
      omega
    rw [hphase'] at hrest
    simp only [List.cons_append, synthBlocks, hrest]

/-- The blocks of a run of frames -/
def frameBlocks (frames : List SubbandFrame) : List SubbandBlock :=
  frames.flatMap fun frame => frame.blocks (madNsbsamples frame.header)

/-- The buffers that are rendered -/
def SynthCall.rendered : SynthCall → Option (PcmBuffer × ℕ)
  | .setDacSampleRate _ => none
  | .renderSampleBlock buff noSamples => some (buff, noSamples)

theorem rendered_map (buffs : List PcmBuffer) (n : ℕ) :
    (buffs.map fun buff => SynthCall.renderSampleBlock buff n).filterMap SynthCall.rendered =
      buffs.map fun buff => (buff, n) := by
  induction buffs with
  | nil => rfl
  | cons buff buffs ih =>
    rw [List.map_cons, List.map_cons, List.filterMap_cons, ih]
    rfl

theorem frameBlocks_cons (frame : SubbandFrame) (frames : List SubbandFrame) :
    frameBlocks (frame :: frames) =
      frame.blocks (madNsbsamples frame.header) ++ frameBlocks frames :=
  List.flatMap_cons

theorem madSynthFrame_full {frame : SubbandFrame} (synth : MadSynth)
    (hfull : frame.options &&& madOptionHalfsamplerate = 0) :
    let blocks := frame.blocks (madNsbsamples frame.header)
    let out := synthBlocks dct32 30 (madNchannels frame.header) synth.phase blocks synth.filter
    (madSynthFrame dct32 synth frame).1.filter = out.1 ∧
      (madSynthFrame dct32 synth frame).1.phase = (synth.phase + blocks.length) % 16 ∧
      (madSynthFrame dct32 synth frame).2.filterMap SynthCall.rendered =
        out.2.map fun buff => (buff, 32) := by
  have hhalf : ¬frame.options &&& madOptionHalfsamplerate ≠ 0 := fun h => h hfull
  simp only [madSynthFrame, if_neg hhalf, synthFull, SubbandFrame.blocks, List.length_map,
    List.length_range, List.filterMap_append, rendered_map]
  exact ⟨trivial, trivial, rfl⟩

/-- **Grouping the blocks into frames** makes no difference. -/
theorem synthFrames_rendered {nch : ℕ} (frames : List SubbandFrame) (synth : MadSynth)
    (hnch : ∀ frame ∈ frames, madNchannels frame.header = nch)
    (hfull : ∀ frame ∈ frames, frame.options &&& madOptionHalfsamplerate = 0)
    (hphase : synth.phase < 16) :
    (synthFrames dct32 synth frames).2.filterMap SynthCall.rendered =
      (synthBlocks dct32 30 nch synth.phase (frameBlocks frames) synth.filter).2.map
        fun buff => (buff, 32) := by
  induction frames generalizing synth with
  | nil => rfl
  | cons frame frames ih =>
    obtain ⟨hfilter, hphase', hcalls⟩ := madSynthFrame_full dct32 synth
      (hfull frame List.mem_cons_self)
    have hrest := ih (madSynthFrame dct32 synth frame).1
      (fun frame hframe => hnch frame (List.mem_cons_of_mem _ hframe))
      (fun frame hframe => hfull frame (List.mem_cons_of_mem _ hframe))
      (by rw [hphase']; exact Nat.mod_lt _ (by omega))
    rw [hfilter, hphase'] at hrest
    rw [hnch frame List.mem_cons_self] at hcalls hrest
    rw [synthFrames, List.filterMap_append, hcalls, hrest, frameBlocks_cons,
      synthBlocks_append dct32 _ _ _ _ _ _ hphase, List.map_append]

end

/-! ### The accesses -/

theorem madNchannels_le (header : MadHeader) : madNchannels header ≤ 2 := by
  rw [madNchannels]
  split_ifs
  all_goals decide

instance (size : ℕ) (access : SynthAccess) : Decidable (access.InBounds size) :=
  match access with
  | .window _ _ => inferInstanceAs (Decidable (_ ∧ _))
  | .filter _ _ _ _ _ => inferInstanceAs (Decidable (_ ∧ _))
  | .buffer _ => inferInstanceAs (Decidable (_ < _))

/-- The cells that a tap reads exist. -/
structure Tap.InBounds (tap : Tap) : Prop where
  eo_lt : tap.eo < 2
  peo_lt : tap.peo < 2
  s_lt : tap.s < 16
  v_lt : tap.v < 8
  row_lt : tap.row < 17
  col_mem : 0 ≤ tap.col ∧ tap.col < 32

theorem tapsFrom_inBounds {eo peo s row offset : ℕ} (heo : eo < 2) (hpeo : peo < 2) (hs : s < 16)
    (hrow : row < 17) (hoffset : offset < 16) :
    ∀ tap ∈ tapsFrom eo peo s row offset, tap.InBounds := by
  intro tap htap
  obtain ⟨v, hv, rfl⟩ := List.mem_map.mp htap
  rw [List.mem_range] at hv
  exact ⟨heo, hpeo, hs, hv, hrow, by simp only; omega⟩

theorem tapsBack_inBounds {eo peo s row offset : ℕ} (heo : eo < 2) (hpeo : peo < 2) (hs : s < 16)
    (hrow : row < 17) (hoffset : offset < 16) :
    ∀ tap ∈ tapsBack eo peo s row offset, tap.InBounds := by
  intro tap htap
  obtain ⟨v, hv, rfl⟩ := List.mem_map.mp htap
  rw [List.mem_range] at hv
  exact ⟨heo, hpeo, hs, hv, hrow, by simp only; omega⟩

/-- The phases and the offsets in `D` of a block -/
theorem phase_bounds : ∀ phase < 16, peOf phase < 16 ∧ poOf phase < 16 ∧ notPhase phase < 2 ∧
    phase &&& 1 < 2 ∧ phase >>> 1 < 8 := by decide

theorem pcmStores_inBounds {phase : ℕ} (hphase : phase < 16) : ∀ store ∈ pcmStores 30 phase,
    (∀ tap ∈ store.negated ++ store.added, tap.InBounds) ∧ store.slot < 32 := by
  obtain ⟨hpe, hpo, hnot, hparity, -⟩ := phase_bounds phase hphase
  intro store hstore
  simp only [pcmStores, List.mem_append, List.mem_flatMap, List.mem_cons, List.mem_range,
    List.not_mem_nil, or_false] at hstore
  simp only [List.forall_mem_append]
  rcases hstore with (rfl | ⟨i, hi, rfl | rfl⟩) | rfl
  · exact ⟨⟨tapsFrom_inBounds (by omega) hnot (by omega) (by omega) hpo,
      tapsFrom_inBounds (by omega) hparity (by omega) (by omega) hpe⟩, (by decide : 0 < 32)⟩
  · refine ⟨⟨tapsFrom_inBounds (by omega) hnot (by omega) (by omega) hpo, fun tap htap => ?_⟩, ?_⟩
    · exact tapsFrom_inBounds (by omega) hparity (by omega) (by omega) hpe tap
        (List.mem_reverse.mp htap)
    · simp only
      omega
  · refine ⟨⟨fun tap htap => absurd htap List.not_mem_nil, ?_⟩, ?_⟩
    · rw [List.forall_mem_append]
      refine ⟨tapsBack_inBounds (by omega) hparity (by omega) (by omega) hpe, fun tap htap => ?_⟩
      exact tapsBack_inBounds (by omega) hnot (by omega) (by omega) hpo tap
        (List.mem_reverse.mp htap)
    · simp only
      omega
  · exact ⟨⟨tapsFrom_inBounds (by omega) hnot (by omega) (by omega) hpo,
      fun tap htap => absurd htap List.not_mem_nil⟩, (by decide : 16 < 32)⟩

/-- What one channel of a block accesses. -/
theorem channelAccesses_inBounds {ch phase : ℕ} (hch : ch < 2) (hphase : phase < 16) :
    ∀ access ∈ dct32Accesses ch phase ++ (pcmStores 30 phase).flatMap (PcmStore.accesses ch),
      access.InBounds 32 := by
  obtain ⟨-, -, -, hparity, hslot⟩ := phase_bounds phase hphase
  rw [List.forall_mem_append]
  constructor
  · intro access haccess
    simp only [dct32Accesses, List.mem_flatMap, List.mem_map, List.mem_range] at haccess
    obtain ⟨eo, heo, s, hs, rfl⟩ := haccess
    exact ⟨hch, heo, hparity, hs, hslot⟩
  · intro access haccess
    obtain ⟨store, hstore, hmem⟩ := List.mem_flatMap.mp haccess
    obtain ⟨htaps, hbuffer⟩ := pcmStores_inBounds hphase store hstore
    rw [PcmStore.accesses, List.mem_append, List.mem_singleton] at hmem
    rcases hmem with hmem | rfl
    · obtain ⟨tap, htap, hcell⟩ := List.mem_flatMap.mp hmem
      have h := htaps tap htap
      simp only [Tap.accesses, List.mem_cons, List.not_mem_nil, or_false] at hcell
      rcases hcell with rfl | rfl
      · exact ⟨hch, h.eo_lt, h.peo_lt, h.s_lt, h.v_lt⟩
      · exact ⟨h.row_lt, h.col_mem⟩
    · exact hbuffer

theorem synthBlocksAccesses_inBounds {nch : ℕ} (hnch : nch ≤ 2) (ns : ℕ) {phase : ℕ}
    (hphase : phase < 16) :
    ∀ access ∈ synthBlocksAccesses 30 nch phase ns, access.InBounds 32 := by
  induction ns generalizing phase with
  | zero =>
    intro access h
    exact absurd h List.not_mem_nil
  | succ ns ih =>
    intro access h
    rw [synthBlocksAccesses, List.mem_append] at h
    rcases h with h | h
    · rw [synthBlockAccesses, List.mem_flatMap] at h
      obtain ⟨ch, hch, haccess⟩ := h
      rw [List.mem_range] at hch
      exact channelAccesses_inBounds (by omega) hphase access haccess
    · exact ih (Nat.mod_lt _ (by omega)) access h

section
variable (dct32 : (ℕ → BitVec 32) → DctOutput)

theorem synthFramesAccesses_inBounds (frames : List SubbandFrame) (synth : MadSynth)
    (hfull : ∀ frame ∈ frames, frame.options &&& madOptionHalfsamplerate = 0)
    (hphase : synth.phase < 16) :
    ∀ access ∈ synthFramesAccesses dct32 synth frames, access.InBounds 32 := by
  induction frames generalizing synth with
  | nil =>
    intro access h
    exact absurd h List.not_mem_nil
  | cons frame frames ih =>
    intro access h
    rw [synthFramesAccesses, List.mem_append] at h
    rcases h with h | h
    · exact synthBlocksAccesses_inBounds (madNchannels_le _) _ hphase access h
    · have hphase' := (madSynthFrame_full dct32 synth (hfull frame List.mem_cons_self)).2.1
      exact ih _ (fun frame hframe => hfull frame (List.mem_cons_of_mem _ hframe))
        (by rw [hphase']; exact Nat.mod_lt _ (by omega)) access h

/-! ### The run -/

/-- The output of `dct32` for channel `ch` of the block `j` steps before block `t`, zero before the
start -/
def dctBack (blocks : List SubbandBlock) (ch t j : ℕ) : DctOutput :=
  if j ≤ t then dct32 (blocks.getD (t - j) (fun _ _ => 0) ch) else fun _ _ => 0

theorem nthBack_take {blocks : List SubbandBlock} {t : ℕ} (ch : ℕ) (ht : t < blocks.length) :
    nthBack (dctOutputs dct32 ch (blocks.take (t + 1)).reverse) = dctBack dct32 blocks ch t := by
  funext j
  have hlength : (blocks.take (t + 1)).length = t + 1 := by
    rw [List.length_take]
    omega
  rw [nthBack, dctOutputs, dctBack, List.getD_eq_getElem?_getD, List.getElem?_map]
  by_cases hj : j ≤ t
  · have hget : blocks[t - j]? = some blocks[t - j] := List.getElem?_eq_getElem (by omega)
    rw [if_pos hj, List.getElem?_reverse (by omega), hlength, List.getElem?_take_of_lt (by omega),
      List.getD_eq_getElem?_getD, show t + 1 - 1 - j = t - j by omega, hget]
    rfl
  · rw [if_neg hj, List.getElem?_eq_none (by rw [List.length_reverse]; omega)]
    rfl

/-- **The phase-rotated filter is a sliding window**, over any run of frames with `nch` channels at
full rate. -/
theorem madSynth_slidingWindow {nch : ℕ} (frames : List SubbandFrame)
    (hnch : ∀ frame ∈ frames, madNchannels frame.header = nch)
    (hfull : ∀ frame ∈ frames, frame.options &&& madOptionHalfsamplerate = 0) :
    let blocks := frameBlocks frames
    let out := (synthFrames dct32 madSynthInit frames).2.filterMap SynthCall.rendered
    out.length = blocks.length ∧
      (∀ t < blocks.length, ∃ buff, out[t]? = some (buff, 32) ∧ ∀ k < 32, (buff k).toInt =
        ∑ ch ∈ range nch,
          (scale (synthShift (slidingSum k (dctBack dct32 blocks ch t)))).toInt) ∧
      (∀ access ∈ synthFramesAccesses dct32 madSynthInit frames, access.InBounds 32) ∧
      ∀ phase, ((pcmStores 30 phase).map PcmStore.slot).Perm (List.range 32) := by
  intro blocks out
  have hphase : madSynthInit.phase < 16 := by decide
  have hrun : out.length = blocks.length ∧ ∀ t < blocks.length, ∃ buff,
      out[t]? = some (buff, 32) ∧ ∀ k < 32, (buff k).toInt = ∑ ch ∈ range nch,
        (scale (synthShift (slidingSum k (dctBack dct32 blocks ch t)))).toInt := by
    cases frames with
    | nil => exact ⟨rfl, fun t ht => absurd ht (Nat.not_lt_zero t)⟩
    | cons frame rest =>
      have hle : nch ≤ 2 := hnch frame List.mem_cons_self ▸ madNchannels_le frame.header
      have hout : out = _ := synthFrames_rendered dct32 _ madSynthInit hnch hfull hphase
      have hinit : FiltersDelayed dct32 nch [] madSynthInit.filter :=
        fun _ _ _ _ _ _ => recent_nil 16 0
      obtain ⟨_, hlength, hbuffs⟩ := synthBlocks_sliding dct32 hle blocks [] _ hinit
      rw [hout]
      refine ⟨by rw [List.length_map]; exact hlength, ?_⟩
      intro t ht
      obtain ⟨buff, hget, hsamples⟩ := hbuffs t ht
      refine ⟨buff, ?_, ?_⟩
      · rw [List.getElem?_map]
        exact congrArg (Option.map fun buff => (buff, 32)) hget
      · intro k hk
        rw [hsamples k hk, List.append_nil]
        refine sum_congr rfl ?_
        intro ch _
        rw [channelSample, nthBack_take dct32 ch ht]
  exact ⟨hrun.1, hrun.2, synthFramesAccesses_inBounds dct32 frames madSynthInit hfull hphase,
    pcmStores_slots⟩

end

/-- A Layer III stereo frame of 18 blocks (LSF) or 36 -/
def stereoFrame (lsf : Bool) : SubbandFrame where
  header := { layer := 3, mode := 1, flags := { lsfExt := lsf } }
  options := 0
  sbsample ch s sb := BitVec.ofNat 32 (1000 * ch + 100 * s + sb)

theorem madSynth_slidingWindow_mixed :
    let dct32 : (ℕ → BitVec 32) → DctOutput := fun samples eo s => samples (16 * eo + s)
    let frames := [stereoFrame true, stereoFrame false]
    let out := (synthFrames dct32 madSynthInit frames).2.filterMap SynthCall.rendered
    out.length = 54 ∧ ∃ buff, out[20]? = some (buff, 32) ∧ (buff 17).toInt =
      ∑ ch ∈ range 2,
        (scale (synthShift (slidingSum 17 (dctBack dct32 (frameBlocks frames) ch 20)))).toInt := by
  intro dct32 frames out
  have hblocks : (frameBlocks frames).length = 54 := rfl
  have hnch : ∀ frame ∈ frames, madNchannels frame.header = 2 := by decide +kernel
  have hfull : ∀ frame ∈ frames, frame.options &&& madOptionHalfsamplerate = 0 := by
    decide +kernel
  obtain ⟨hlength, hsamples, _⟩ := madSynth_slidingWindow dct32 frames hnch hfull
  obtain ⟨buff, hget, hbuff⟩ := hsamples 20 (by rw [hblocks]; omega)
  exact ⟨hlength.trans hblocks, buff, hget, hbuff 17 (by omega)⟩

end Mp3Decoder
