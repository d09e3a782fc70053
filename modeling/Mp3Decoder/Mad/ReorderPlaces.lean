import Mathlib.Data.List.GetD
import Mathlib.Data.Set.Finite.Basic
import Mathlib.Data.Set.Card
import Mathlib.Order.Interval.Finset.Nat
import Mp3Decoder.Mad.Reorder

/-!
# Where reordering puts the lines (`III_reorder`)

Bands come in threes, one for each window.  Line `f` of window `w`, counted over the bands, goes to
subband `f / 6`, behind the windows before `w`.  `reorderTrace` are the places of `tmp` that are
written: each of those copied back once.
-/

namespace Mp3Decoder

/-! ### Bands in threes -/

/-- The table of the bands with the widths `widths`. -/
def triples (widths : List ℕ) : List ℕ := widths.flatMap fun a => [a, a, a]

@[simp] theorem triples_cons (a : ℕ) (widths : List ℕ) :
    triples (a :: widths) = a :: a :: a :: triples widths := rfl

theorem triples_sum (widths : List ℕ) : (triples widths).sum = 3 * widths.sum := by
  induction widths with
  | nil => rfl
  | cons a widths ih =>
    simp only [triples_cons, List.sum_cons, ih]
    omega

/-- The lines of a window in the first band, and those behind. -/
theorem windowLines_triples_cons (a : ℕ) (widths : List ℕ) (l : ℕ) {w : ℕ} (hw : w < 3) :
    windowLines (triples (a :: widths)) 0 l w =
      List.range' (l + w * a) a ++ windowLines (triples widths) 0 (l + 3 * a) w := by
  have hwindow : w = 0 ∨ w = 1 ∨ w = 2 := by omega
  simp only [triples_cons, windowLines_cons, show l + a + a + a = l + 3 * a by omega]
  rcases hwindow with rfl | rfl | rfl
  · simp
  · simp
  · simp [show l + a + a = l + 2 * a by omega]

theorem windowLines_triples_length (widths : List ℕ) (l : ℕ) {w : ℕ} (hw : w < 3) :
    (windowLines (triples widths) 0 l w).length = widths.sum := by
  induction widths generalizing l with
  | nil => rfl
  | cons a widths ih =>
    rw [windowLines_triples_cons a widths l hw, List.length_append, List.length_range', ih,
      List.sum_cons]

/-- **Line `f` of a window**, the `k`-th of it in band `b`. -/
theorem windowLines_triples_getD {widths : List ℕ} {b : ℕ} (hb : b < widths.length) {k : ℕ}
    (hk : k < widths[b]) (l : ℕ) {w : ℕ} (hw : w < 3) :
    (windowLines (triples widths) 0 l w).getD ((widths.take b).sum + k) 0 =
      l + 3 * (widths.take b).sum + w * widths[b] + k := by
  induction widths generalizing b l with
  | nil => exact absurd hb (Nat.not_lt_zero b)
  | cons a widths ih =>
    rw [windowLines_triples_cons a widths l hw]
    cases b with
    | zero =>
      rw [List.getElem_cons_zero] at hk ⊢
      rw [List.take_zero, List.sum_nil, Nat.zero_add, List.getD_append _ _ _ _ (by simpa using hk),
        List.getD_eq_getElem?_getD, List.getElem?_range' hk, Option.getD_some]
      omega
    | succ b =>
      rw [List.getElem_cons_succ] at hk ⊢
      rw [List.take_succ_cons, List.sum_cons, List.getD_append_right _ _ _ _ (by simp; omega),
        List.length_range', show a + (widths.take b).sum + k - a = (widths.take b).sum + k by omega,
        ih (Nat.lt_of_succ_lt_succ hb) hk]
      omega

/-- Every line is one of some window in some band. -/
theorem exists_band {widths : List ℕ} {l m : ℕ} (hl : l ≤ m) (hm : m < l + 3 * widths.sum) :
    ∃ b, ∃ hb : b < widths.length, ∃ k < widths[b], ∃ w < 3,
      m = l + 3 * (widths.take b).sum + w * widths[b] + k := by
  induction widths generalizing l with
  | nil =>
    rw [List.sum_nil] at hm
    omega
  | cons a widths ih =>
    rw [List.sum_cons] at hm
    by_cases hfirst : m < l + 3 * a
    · have ha : 0 < a := by omega
      refine ⟨0, Nat.succ_pos _, (m - l) % a, Nat.mod_lt _ ha, (m - l) / a, ?_, ?_⟩
      · rw [Nat.div_lt_iff_lt_mul ha]
        omega
      · have hdiv := Nat.div_add_mod (m - l) a
        rw [Nat.mul_comm] at hdiv
        simp only [List.take_zero, List.sum_nil, List.getElem_cons_zero]
        omega
    · obtain ⟨b, hb, k, hk, w, hw, heq⟩ := ih (l := l + 3 * a) (by omega) (by omega)
      refine ⟨b + 1, Nat.succ_lt_succ hb, k, hk, w, hw, ?_⟩
      simp only [List.take_succ_cons, List.sum_cons, List.getElem_cons_succ]
      omega

theorem sum_take_add_lt {widths : List ℕ} {b k : ℕ} (hb : b < widths.length) (hk : k < widths[b]) :
    (widths.take b).sum + k < widths.sum := by
  have hsplit := List.sum_take_add_sum_drop widths b
  rw [List.drop_eq_getElem_cons hb, List.sum_cons] at hsplit
  omega

/-! ### Where the lines go -/

/-- Long bands that a mixed block skips, and short ones over the rest.  A long band without lines
is skipped too, unless it is the last one. -/
structure ReorderBands (mixed : Bool) (longs shorts : List ℕ) : Prop where
  longs_last : ∀ h : longs ≠ [], 0 < longs.getLast h
  longs_sum : longs.sum = if mixed then 36 else 0
  shorts_pos : ∀ a ∈ shorts, 0 < a
  shorts_sum : 3 * shorts.sum = 576 - 18 * reorderStart mixed

theorem sum_pos_of_last {widths : List ℕ} (hne : widths ≠ []) (hlast : 0 < widths.getLast hne) :
    0 < widths.sum :=
  lt_of_lt_of_le hlast (List.le_sum_of_mem (List.getLast_mem hne))

/-- `while (l < 36) l += *sfbwidth++;` skips bands that fill the lines up to 36. -/
theorem skip_longs {longs : List ℕ} (hlast : ∀ h : longs ≠ [], 0 < longs.getLast h) {l : ℕ}
    (hsum : l + longs.sum = 36) (rest : List ℕ) (sfbi : ℕ) :
    (forBands 36 (fun _ _ _ s => s) (longs ++ rest) sfbi l ()).rest = rest := by
  induction longs generalizing l sfbi with
  | nil =>
    have hl : ¬l < 36 := by
      rw [List.sum_nil] at hsum
      omega
    cases rest with
    | nil => rfl
    | cons a rest => rw [List.nil_append, forBands, if_neg hl]
  | cons a longs ih =>
    have hpos := sum_pos_of_last (List.cons_ne_nil a longs) (hlast _)
    rw [List.sum_cons] at hsum hpos
    rw [List.cons_append, forBands, if_pos (by omega)]
    refine ih ?_ (by omega) (sfbi + 1)
    intro hne
    rw [← List.getLast_cons hne]
    exact hlast _

variable {mixed : Bool} {longs shorts : List ℕ}

theorem ReorderBands.widths (h : ReorderBands mixed longs shorts) :
    reorderWidths mixed (longs ++ triples shorts) = triples shorts := by
  have hsum := h.longs_sum
  cases mixed with
  | true =>
    rw [reorderWidths, if_pos rfl]
    exact skip_longs h.longs_last (by rw [hsum]; rfl) _ 0
  | false =>
    rw [reorderWidths, if_neg Bool.false_ne_true]
    cases longs with
    | nil => rfl
    | cons a longs =>
      have hpos := sum_pos_of_last (List.cons_ne_nil a longs) (h.longs_last _)
      rw [hsum, if_neg Bool.false_ne_true] at hpos
      exact absurd hpos (Nat.lt_irrefl 0)

theorem ReorderBands.start_le (mixed : Bool) : reorderStart mixed ≤ 2 := by
  cases mixed <;> decide

theorem ReorderBands.fits (h : ReorderBands mixed longs shorts) :
    ReorderFits (reorderStart mixed) (triples shorts) := by
  have hstart := ReorderBands.start_le mixed
  have hsum := h.shorts_sum
  refine ⟨?_, ?_, ?_, ?_⟩
  · intro n hn
    obtain ⟨a, ha, hmem⟩ := List.mem_flatMap.mp hn
    have heq : n = a := by simpa using hmem
    have hle := List.le_sum_of_mem ha
    have hpos := h.shorts_pos a ha
    rw [heq]
    omega
  · intro hnil
    have hzero := triples_sum shorts
    rw [hnil, List.sum_nil] at hzero
    omega
  · rw [triples_sum, hsum]
  · intro w hw
    rw [windowLines_triples_length _ _ hw]
    omega

/-- The place of line `f` of window `w`. -/
def reorderPlace (sb w f : ℕ) : ℕ := 18 * (sb + f / 6) + 6 * w + f % 6

/-- Subband, window and line of a place. -/
theorem reorderPlace_parts (sb f : ℕ) {w : ℕ} (hw : w < 3) :
    reorderPlace sb w f / 18 = sb + f / 6 ∧ reorderPlace sb w f % 18 / 6 = w ∧
      reorderPlace sb w f % 6 = f % 6 := by
  rw [reorderPlace]
  omega

/-- **Each line goes to its place.** -/
theorem ReorderBands.place (h : ReorderBands mixed longs shorts) (xr : ℕ → Fixed)
    (tmp : ℕ → ℕ → ℕ → Fixed) {b : ℕ} (hb : b < shorts.length) {k : ℕ} (hk : k < shorts[b]) {w : ℕ}
    (hw : w < 3) : iiiReorder xr mixed (longs ++ triples shorts) tmp
        (reorderPlace (reorderStart mixed) w ((shorts.take b).sum + k)) =
      xr (18 * reorderStart mixed + 3 * (shorts.take b).sum + w * shorts[b] + k) := by
  have hfits := h.fits
  rw [← h.widths] at hfits
  have hsum := h.shorts_sum
  have hlt := sum_take_add_lt hb hk
  rw [iiiReorder_eq xr hfits tmp, h.widths]
  obtain ⟨f, hf⟩ : ∃ f, f = (shorts.take b).sum + k := ⟨_, rfl⟩
  rw [← hf] at hlt ⊢
  obtain ⟨sb, hsb⟩ : ∃ sb, sb = reorderStart mixed := ⟨_, rfl⟩
  rw [← hsb] at hsum ⊢
  obtain ⟨hdiv, hwindow, hmod⟩ := reorderPlace_parts sb f hw
  have hline : 6 * (sb + f / 6 - sb) + f % 6 = f := by omega
  simp only [hdiv, hwindow, hmod, hline]
  rw [if_pos (by rw [reorderPlace]; omega), hf, windowLines_triples_getD hb hk _ hw]

/-- The line that comes to index `i`. -/
def reorderSource (sb : ℕ) (shorts : List ℕ) (i : ℕ) : ℕ :=
  (windowLines (triples shorts) 0 (18 * sb) (i % 18 / 6)).getD (6 * (i / 18 - sb) + i % 6) 0

theorem mem_windowLines {widths : List ℕ} {v l w m : ℕ} (h : m ∈ windowLines widths v l w) :
    l ≤ m ∧ m < l + widths.sum := by
  induction widths generalizing v l with
  | nil => cases h
  | cons a widths ih =>
    rw [windowLines_cons, List.mem_append] at h
    rw [List.sum_cons]
    rcases h with hfirst | hrest
    · split_ifs at hfirst
      · have hrange := List.mem_range'_1.mp hfirst
        omega
      · cases hfirst
    · have hrest' := ih hrest
      omega

/-- **The lines are permuted.** -/
theorem ReorderBands.bijOn (h : ReorderBands mixed longs shorts) :
    Set.BijOn (reorderSource (reorderStart mixed) shorts)
      (Set.Ico (18 * reorderStart mixed) 576) (Set.Ico (18 * reorderStart mixed) 576) := by
  have hstart := ReorderBands.start_le mixed
  have hsum := h.shorts_sum
  have htriples := triples_sum shorts
  generalize reorderStart mixed = sb at *
  have hmaps : Set.MapsTo (reorderSource sb shorts) (Set.Ico (18 * sb) 576)
      (Set.Ico (18 * sb) 576) := by
    intro i hi
    obtain ⟨hlo, hhi⟩ := hi
    have hlength := windowLines_triples_length shorts (18 * sb) (show i % 18 / 6 < 3 by omega)
    have hindex : 6 * (i / 18 - sb) + i % 6 <
        (windowLines (triples shorts) 0 (18 * sb) (i % 18 / 6)).length := by
      rw [hlength]
      omega
    have hmem := mem_windowLines (List.getElem_mem hindex)
    rw [reorderSource, List.getD_eq_getElem?_getD, List.getElem?_eq_getElem hindex, Option.getD_some]
    exact ⟨hmem.1, by omega⟩
  apply (Set.Finite.surjOn_iff_bijOn_of_mapsTo (Set.finite_Ico _ _) hmaps).mp
  intro m hm
  have hend : m < 18 * sb + 3 * shorts.sum := by
    have hlt := hm.2
    omega
  obtain ⟨b, hb, k, hk, w, hw, heq⟩ := exists_band hm.1 hend
  have hlt := sum_take_add_lt hb hk
  refine ⟨reorderPlace sb w ((shorts.take b).sum + k), ?_, ?_⟩
  · rw [reorderPlace, Set.mem_Ico]
    omega
  · rw [heq, ← windowLines_triples_getD hb hk _ hw]
    generalize (shorts.take b).sum + k = f at hlt ⊢
    obtain ⟨hdiv, hwindow, hmod⟩ := reorderPlace_parts sb f hw
    have hline : 6 * (sb + f / 6 - sb) + f % 6 = f := by omega
    simp only [reorderSource, hdiv, hwindow, hmod, hline]

/-! ### What is written -/

/-- The places of `tmp` that are written for the given lines. -/
def reorderTrace (xr : ℕ → Fixed) : List ℕ → ReorderState → List (ℕ × ℕ × ℕ)
  | [], _ => []
  | l :: ls, s =>
    let s' := s.countDown
    (s'.sbw s'.w, s'.w, s'.sw s'.w) :: reorderTrace xr ls (reorderLine xr s l)

/-- Line `p` of window `w`. -/
def reorderSlot (sb w p : ℕ) : ℕ × ℕ × ℕ := (sb + p / 6, w, p % 6)

variable {xr : ℕ → Fixed} {sb : ℕ} {written : ℕ → List ℕ} {s : ReorderState}

theorem reorderTrace_append (ls ls' : List ℕ) (s : ReorderState) :
    reorderTrace xr (ls ++ ls') s =
      reorderTrace xr ls s ++ reorderTrace xr ls' (ls.foldl (reorderLine xr) s) := by
  induction ls generalizing s with
  | nil => rfl
  | cons l ls ih => simp only [List.cons_append, reorderTrace, ih, List.foldl_cons]

/-- **One band** writes the places behind those of its window. -/
theorem Dealt.band_trace (h : Dealt xr sb written s) (hw : s.w < 3) (l n : ℕ) (hf : n ≤ s.f) :
    reorderTrace xr (List.range' l n) s =
      (List.range n).map fun p => reorderSlot sb s.w ((written s.w).length + p) := by
  induction n with
  | zero => rfl
  | succ n ih =>
    obtain ⟨hdealt, hf', hw', -⟩ := h.band hw l n (by omega)
    rw [List.range'_1_concat, reorderTrace_append, ih (by omega), List.range_succ, List.map_append,
      List.map_singleton]
    generalize (List.range' l n).foldl (reorderLine xr) s = s' at hdealt hf' hw'
    have hcount : s'.countDown = { s' with f := s'.f - 1 } := by
      rw [ReorderState.countDown, if_neg (by omega)]
    have hsw := hdealt.sw s.w hw
    have hsbw := hdealt.sbw s.w hw
    rw [Function.update_self, List.length_append, List.length_range'] at hsw hsbw
    simp only [reorderTrace, hcount, hw', hsw, hsbw, reorderSlot]

/-- The places for the bands `widths`, when `count w` lines of each window are there. -/
def bandSlots (sb : ℕ) : List ℕ → ℕ → (ℕ → ℕ) → List (ℕ × ℕ × ℕ)
  | [], _, _ => []
  | width :: widths, v, count =>
    ((List.range width).map fun p => reorderSlot sb v (count v + p)) ++
      bandSlots sb widths ((v + 1) % 3) (Function.update count v (count v + width))

/-- The turn to the next window can be made before the first line of a band. -/
theorem reorderTrace_next {width : ℕ} {widths : List ℕ} (hpos : 0 < width) (hlt : width < 2 ^ 32)
    (hf : s.f = 0) (hs : s.sfbwidth = width :: widths) (l : ℕ) (ls : List ℕ) :
    reorderTrace xr (l :: ls) s =
      reorderTrace xr (l :: ls) { s with f := width, w := (s.w + 1) % 3, sfbwidth := widths } := by
  simp only [reorderTrace, reorderLine, countDown_next hpos hlt hf hs]

/-- **All bands** -/
theorem Dealt.bands_trace {width : ℕ} {widths : List ℕ}
    (hpos : ∀ n ∈ width :: widths, 0 < n ∧ n < 2 ^ 32) (h : Dealt xr sb written s) (hw : s.w < 3)
    (hf : s.f = width) (hs : s.sfbwidth = widths) (l : ℕ) :
    reorderTrace xr (List.range' l (width :: widths).sum) s =
      bandSlots sb (width :: widths) s.w fun w => (written w).length := by
  induction widths generalizing width written s l with
  | nil =>
    rw [List.sum_singleton, h.band_trace hw l width (by omega)]
    simp [bandSlots]
  | cons next widths ih =>
    obtain ⟨hdealt, hf', hw', hs'⟩ := h.band hw l width (by omega)
    have hband := h.band_trace hw l width (by omega)
    rw [hf, Nat.sub_self] at hf'
    rw [hs] at hs'
    have hnext := hpos next (List.mem_cons_of_mem _ List.mem_cons_self)
    rw [List.sum_cons, ← List.range'_append_1, reorderTrace_append, hband]
    generalize (List.range' l width).foldl (reorderLine xr) s = after at hdealt hf' hw' hs' ⊢
    have hrest := ih (fun n hn => hpos n (List.mem_cons_of_mem _ hn))
      (s := { after with f := next, w := (after.w + 1) % 3, sfbwidth := widths })
      ⟨hdealt.sw, hdealt.sbw, hdealt.tmp⟩ (Nat.mod_lt _ (by omega)) rfl rfl (l + width)
    -- the first of the lines to come makes the turn
    obtain ⟨count, hcount⟩ : ∃ count, (next :: widths).sum = count + 1 := by
      rw [List.sum_cons]
      exact ⟨next + widths.sum - 1, by omega⟩
    rw [hcount, List.range'_succ, ← reorderTrace_next hnext.1 hnext.2 hf' hs', ← List.range'_succ,
      ← hcount] at hrest
    have hcounts : (fun w => (Function.update written s.w (written s.w ++ List.range' l width)
        w).length) = Function.update (fun w => (written w).length) s.w
          ((written s.w).length + width) := by
      funext w
      by_cases hcur : w = s.w
      · rw [hcur, Function.update_self, Function.update_self, List.length_append,
          List.length_range']
      · rw [Function.update_of_ne hcur, Function.update_of_ne hcur]
    rw [hrest, hcounts, hw']
    rfl

theorem reorderSlot_injective (sb w : ℕ) : Function.Injective (reorderSlot sb w) := by
  intro p q heq
  simp only [reorderSlot, Prod.mk.injEq, true_and] at heq
  omega

theorem count_range_map_reorderSlot (sb v start width w p : ℕ) :
    ((List.range width).map fun q => reorderSlot sb v (start + q)).count (reorderSlot sb w p) =
      if v = w ∧ start ≤ p ∧ p < start + width then 1 else 0 := by
  have hnodup : ((List.range width).map fun q => reorderSlot sb v (start + q)).Nodup :=
    List.nodup_range.map fun q q' heq => Nat.add_left_cancel (reorderSlot_injective sb v heq)
  rw [hnodup.count]
  congr 1
  rw [List.mem_map, eq_iff_iff]
  constructor
  · rintro ⟨q, hq, heq⟩
    have hv : v = w := congrArg (fun slot => slot.2.1) heq
    rw [hv] at heq
    have hp := reorderSlot_injective sb w heq
    have hlt := List.mem_range.mp hq
    exact ⟨hv, by omega, by omega⟩
  · rintro ⟨hv, hlo, hhi⟩
    refine ⟨p - start, List.mem_range.mpr (by omega), ?_⟩
    rw [hv, show start + (p - start) = p by omega]

/-- How often a place is written: once, if its line comes. -/
theorem bandSlots_count (sb : ℕ) (widths : List ℕ) (v l : ℕ) (count : ℕ → ℕ) (w p : ℕ) :
    (bandSlots sb widths v count).count (reorderSlot sb w p) =
      if count w ≤ p ∧ p < count w + (windowLines widths v l w).length then 1 else 0 := by
  induction widths generalizing v l count with
  | nil =>
    rw [if_neg]
    · rfl
    · simp only [windowLines, List.length_nil]
      omega
  | cons width widths ih =>
    rw [bandSlots, List.count_append, count_range_map_reorderSlot, ih _ (l + width),
      windowLines_cons, List.length_append]
    by_cases hv : v = w
    · rw [hv, Function.update_self, if_pos rfl, List.length_range']
      split_ifs <;> omega
    · rw [Function.update_of_ne (Ne.symm hv), if_neg hv, if_neg fun hall => hv hall.1,
        List.length_nil, Nat.zero_add, Nat.zero_add]

/-- `III_reorder` before its loop over the lines -/
def reorderEntry (mixed : Bool) (sfbwidth : List ℕ) (tmp : ℕ → ℕ → ℕ → Fixed) : ReorderState :=
  { tmp, sbw := fun _ => reorderStart mixed, sw := fun _ => 0
    f := (reorderWidths mixed sfbwidth).headD 0, w := 0
    sfbwidth := (reorderWidths mixed sfbwidth).tail }

theorem iiiReorder_apply (xr : ℕ → Fixed) {mixed : Bool} (sfbwidth : List ℕ)
    (tmp : ℕ → ℕ → ℕ → Fixed) {i : ℕ} (hi : 18 * reorderStart mixed ≤ i ∧ i < 576) :
    iiiReorder xr mixed sfbwidth tmp i =
      ((List.range' (18 * reorderStart mixed) (576 - 18 * reorderStart mixed)).foldl
        (reorderLine xr) (reorderEntry mixed sfbwidth tmp)).tmp (i / 18) (i % 18 / 6) (i % 6) :=
  if_pos hi

/-- The places that the loop of `III_reorder` writes -/
def reorderWrites (xr : ℕ → Fixed) (mixed : Bool) (sfbwidth : List ℕ) (tmp : ℕ → ℕ → ℕ → Fixed) :
    List (ℕ × ℕ × ℕ) :=
  reorderTrace xr (List.range' (18 * reorderStart mixed) (576 - 18 * reorderStart mixed))
    (reorderEntry mixed sfbwidth tmp)

/-- **Each place that is copied back is written once.** -/
theorem ReorderBands.writes_count (h : ReorderBands mixed longs shorts) (xr : ℕ → Fixed)
    (tmp : ℕ → ℕ → ℕ → Fixed) {a w k : ℕ} (hlo : reorderStart mixed ≤ a) (hhi : a < 32) (hw : w < 3)
    (hk : k < 6) : (reorderWrites xr mixed (longs ++ triples shorts) tmp).count (a, w, k) = 1 := by
  have hfits := h.fits
  simp only [reorderWrites, reorderEntry, h.widths]
  obtain ⟨sb, hsb⟩ : ∃ sb, sb = reorderStart mixed := ⟨_, rfl⟩
  rw [← hsb] at hfits hlo ⊢
  cases hwidths : triples shorts with
  | nil => exact absurd hwidths hfits.nonempty
  | cons width widths =>
    rw [hwidths] at hfits
    have hstart : Dealt xr sb (fun _ => []) ⟨tmp, fun _ => sb, fun _ => 0, width, 0, widths⟩ :=
      ⟨fun _ _ => rfl, fun _ _ => rfl, fun _ _ _ hp => absurd hp (Nat.not_lt_zero _)⟩
    have htrace := hstart.bands_trace hfits.pos (Nat.succ_pos 2) rfl rfl (18 * sb)
    have hwindow := hfits.window w hw
    have hslot : (a, w, k) = reorderSlot sb w (6 * (a - sb) + k) := by
      rw [reorderSlot, show sb + (6 * (a - sb) + k) / 6 = a by omega,
        show (6 * (a - sb) + k) % 6 = k by omega]
    rw [List.headD_cons, List.tail_cons, ← hfits.sum_eq, htrace, hslot,
      bandSlots_count sb _ _ (18 * sb), if_pos]
    rw [hwindow, List.length_nil]
    omega

/-- **`III_reorder` only reorders**: line `f` of a window, which is the `k`-th of it in band `b`,
goes to its place; so the lines are permuted, those below stay, and what is copied back has been
written once. -/
theorem iiiReorder_permutes (h : ReorderBands mixed longs shorts) (xr : ℕ → Fixed)
    (tmp : ℕ → ℕ → ℕ → Fixed) :
    let sb := reorderStart mixed
    let out := iiiReorder xr mixed (longs ++ triples shorts) tmp
    (∀ b, ∀ hb : b < shorts.length, ∀ k < shorts[b], ∀ w < 3,
      let f := (shorts.take b).sum + k
      out (18 * (sb + f / 6) + 6 * w + f % 6) =
        xr (18 * sb + 3 * (shorts.take b).sum + w * shorts[b] + k)) ∧
    (∃ source : ℕ → ℕ, Set.BijOn source (Set.Ico (18 * sb) 576) (Set.Ico (18 * sb) 576) ∧
      ∀ i ∈ Set.Ico (18 * sb) 576, out i = xr (source i)) ∧
    (∀ i < 18 * sb, out i = xr i) ∧
    ∀ a w k, sb ≤ a → a < 32 → w < 3 → k < 6 →
      (reorderWrites xr mixed (longs ++ triples shorts) tmp).count (a, w, k) = 1 := by
  have hfits := h.fits
  rw [← h.widths] at hfits
  refine ⟨fun b hb k hk w hw => h.place xr tmp hb hk hw, ⟨_, h.bijOn, fun i hi => ?_⟩,
    fun i hi => ?_, fun a w k hlo hhi hw hk => h.writes_count xr tmp hlo hhi hw hk⟩
  · rw [iiiReorder_eq xr hfits tmp, h.widths]
    exact if_pos hi
  · exact if_neg fun hin => absurd hin.1 (by omega)

/-- A mixed block at 44100 Hz -/
theorem iiiReorder_permutes_mixed :
    let longs := [4, 4, 4, 4, 4, 4, 6, 6]
    let shorts := [4, 6, 8, 10, 12, 14, 18, 22, 30, 56]
    ReorderBands true longs shorts ∧
      iiiReorder (fun i => BitVec.ofNat 32 i) true (longs ++ triples shorts) (fun _ _ _ => 0) 54 =
        BitVec.ofNat 32 50 := by
  have hbands : ReorderBands true [4, 4, 4, 4, 4, 4, 6, 6] [4, 6, 8, 10, 12, 14, 18, 22, 30, 56] :=
    ⟨by decide, by decide, by decide, by decide⟩
  have hplaces := iiiReorder_permutes hbands (fun i => BitVec.ofNat 32 i) fun _ _ _ => 0
  exact ⟨hbands, hplaces.1 1 (by decide) 2 (by decide) 0 (by decide)⟩

/-- A band without lines makes the counter wrap: as if it had 2^32 lines. -/
theorem countDown_zero {widths : List ℕ} (hf : s.f = 0) (hs : s.sfbwidth = 0 :: widths) :
    s.countDown =
      { s with f := 2 ^ 32, w := (s.w + 1) % 3, sfbwidth := widths : ReorderState }.countDown := by
  rw [ReorderState.countDown, if_pos hf, hs, ReorderState.countDown, if_neg (by simp only; omega)]
  simp only [List.headD_cons, List.tail_cons]
  rw [show (0 + 2 ^ 32 - 1) % 2 ^ 32 = 2 ^ 32 - 1 by omega]

/-- All that follows goes to one window. -/
theorem iiiReorder_zeroWidth (xr : ℕ → Fixed) (tmp : ℕ → ℕ → ℕ → Fixed) :
    iiiReorder xr false (triples [0, 192]) tmp 6 = xr 0 := by
  obtain ⟨s, hs⟩ : ∃ s, s = reorderEntry false (triples [0, 192]) tmp := ⟨_, rfl⟩
  rw [iiiReorder_apply xr _ tmp (by decide), ← hs, show reorderStart false = 0 from rfl]
  norm_num only
  obtain ⟨s', hs'⟩ : ∃ s' : ReorderState, s' =
      { s with f := 2 ^ 32, w := (s.w + 1) % 3, sfbwidth := [0, 192, 192, 192] } := ⟨_, rfl⟩
  have hdealt : Dealt xr 0 (fun _ => []) s' := by
    rw [hs', hs]
    exact ⟨fun _ _ => rfl, fun _ _ => rfl, fun _ _ _ hp => absurd hp (Nat.not_lt_zero _)⟩
  have hw : s'.w = 1 := by
    rw [hs', hs]
    rfl
  have hf : s'.f = 2 ^ 32 := by rw [hs']
  have hfirst : s.countDown = s'.countDown := by
    have hzero : s.f = 0 := by
      rw [hs]
      rfl
    have hwidths : s.sfbwidth = 0 :: [0, 192, 192, 192] := by
      rw [hs]
      rfl
    rw [hs', countDown_zero hzero hwidths]
  obtain ⟨n, hn⟩ : ∃ n, n = 575 := ⟨_, rfl⟩
  rw [show 576 = n + 1 by omega, List.range'_succ, List.foldl_cons, reorderLine, hfirst,
    ← reorderLine, ← List.foldl_cons, ← List.range'_succ]
  have hcell := (hdealt.band (by omega) 0 (n + 1) (by omega)).1.tmp 1 (by decide) 0
  rw [hw] at hcell
  simp only [Function.update_self, List.nil_append, List.getElem_range'] at hcell
  exact hcell (by rw [List.length_range']; omega)

/-- The first line can be where the first one of the second window should be. -/
theorem iiiReorder_not_permutes : ¬∀ (xr : ℕ → Fixed) (mixed : Bool) (longs shorts : List ℕ)
    (tmp : ℕ → ℕ → ℕ → Fixed), longs.sum = (if mixed then 36 else 0) →
      3 * shorts.sum = 576 - 18 * reorderStart mixed →
      ∀ b, ∀ hb : b < shorts.length, ∀ k < shorts[b], ∀ w < 3,
        let sb := reorderStart mixed
        let f := (shorts.take b).sum + k
        iiiReorder xr mixed (longs ++ triples shorts) tmp (18 * (sb + f / 6) + 6 * w + f % 6) =
          xr (18 * sb + 3 * (shorts.take b).sum + w * shorts[b] + k) := by
  intro hall
  have hplace : iiiReorder (fun i => BitVec.ofNat 32 i) false (triples [0, 192]) (fun _ _ _ => 0) 6 =
      BitVec.ofNat 32 192 :=
    hall (fun i => BitVec.ofNat 32 i) false [] [0, 192] (fun _ _ _ => 0) rfl rfl 1 (by decide) 0
      (by decide) 1 (by decide)
  exact absurd ((iiiReorder_zeroWidth _ _).symm.trans hplace) (by decide)

end Mp3Decoder
