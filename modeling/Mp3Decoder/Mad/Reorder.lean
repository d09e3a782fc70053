import Mp3Decoder.Mad.Stereo

/-!
# Reordering short blocks (`III_reorder`)

The lines of a short block come band by band, the three windows of a band one behind the other.
`III_reorder` deals them out to an array by subband, window and line, which is not initialised.
`windowLines` are the lines of one window: they fill its part of the array in their order.
-/

namespace Mp3Decoder

/-! ### The code -/

/-- The locals of `III_reorder`; `tmp` is by subband, window and line. -/
structure ReorderState where
  tmp : ℕ → ℕ → ℕ → Fixed
  sbw : ℕ → ℕ
  sw : ℕ → ℕ
  f : ℕ
  w : ℕ
  sfbwidth : List ℕ

namespace ReorderState

/-- `if (f-- == 0)`: the next window. -/
def countDown (s : ReorderState) : ReorderState :=
  if s.f = 0 then
    { s with
      f := (s.sfbwidth.headD 0 + 2 ^ 32 - 1) % 2 ^ 32
      sfbwidth := s.sfbwidth.tail
      w := (s.w + 1) % 3 }
  else { s with f := s.f - 1 }

/-- `tmp[sbw[w]][w][sw[w]++] = value`, and the next subband after six lines. -/
def deal (s : ReorderState) (value : Fixed) : ReorderState :=
  let tmp := Function.update s.tmp (s.sbw s.w)
    (Function.update (s.tmp (s.sbw s.w)) s.w
      (Function.update (s.tmp (s.sbw s.w) s.w) (s.sw s.w) value))
  if s.sw s.w + 1 = 6 then
    { s with
      tmp
      sw := Function.update s.sw s.w 0
      sbw := Function.update s.sbw s.w (s.sbw s.w + 1) }
  else { s with tmp, sw := Function.update s.sw s.w (s.sw s.w + 1) }

end ReorderState

/-- One round of the loop over the lines. -/
def reorderLine (xr : ℕ → Fixed) (s : ReorderState) (l : ℕ) : ReorderState :=
  s.countDown.deal (xr l)

/-- The first subband of a short block: the lower two of a mixed one are long. -/
def reorderStart (mixed : Bool) : ℕ := if mixed then 2 else 0

/-- `while (l < 36) l += *sfbwidth++;` in a mixed block -/
def reorderWidths (mixed : Bool) (sfbwidth : List ℕ) : List ℕ :=
  if mixed then (forBands 36 (fun _ _ _ s => s) sfbwidth 0 0 ()).rest else sfbwidth

/-- `III_reorder`, with the array `tmp` -/
def iiiReorder (xr : ℕ → Fixed) (mixed : Bool) (sfbwidth : List ℕ) (tmp : ℕ → ℕ → ℕ → Fixed) :
    ℕ → Fixed :=
  let sb := reorderStart mixed
  let widths := reorderWidths mixed sfbwidth
  let s := (List.range' (18 * sb) (576 - 18 * sb)).foldl (reorderLine xr)
    { tmp, sbw := fun _ => sb, sw := fun _ => 0, f := widths.headD 0, w := 0
      sfbwidth := widths.tail }
  -- memcpy
  fun i => if 18 * sb ≤ i ∧ i < 576 then s.tmp (i / 18) (i % 18 / 6) (i % 6) else xr i

/-! ### What it puts where -/

/-- The lines of window `w`, where line `l` is the first of the bands `widths` and belongs to window
`v`. -/
def windowLines : List ℕ → ℕ → ℕ → ℕ → List ℕ
  | [], _, _, _ => []
  | width :: widths, v, l, w =>
    (if v = w then List.range' l width else []) ++ windowLines widths ((v + 1) % 3) (l + width) w

theorem windowLines_cons (width : ℕ) (widths : List ℕ) (v l w : ℕ) :
    windowLines (width :: widths) v l w =
      (if v = w then List.range' l width else []) ++
        windowLines widths ((v + 1) % 3) (l + width) w := rfl

/-- The lines `written w` of each window have been dealt out, from subband `sb` on. -/
structure Dealt (xr : ℕ → Fixed) (sb : ℕ) (written : ℕ → List ℕ) (s : ReorderState) : Prop where
  sw : ∀ w < 3, s.sw w = (written w).length % 6
  sbw : ∀ w < 3, s.sbw w = sb + (written w).length / 6
  tmp : ∀ w < 3, ∀ p (hp : p < (written w).length),
    s.tmp (sb + p / 6) w (p % 6) = xr ((written w)[p])

variable {xr : ℕ → Fixed} {sb : ℕ} {written : ℕ → List ℕ} {s : ReorderState}

/-- What is in the array after a line. -/
theorem deal_tmp (s : ReorderState) (value : Fixed) (a w k : ℕ) :
    (s.deal value).tmp a w k =
      if a = s.sbw s.w ∧ w = s.w ∧ k = s.sw s.w then value else s.tmp a w k := by
  have htmp : (s.deal value).tmp = Function.update s.tmp (s.sbw s.w)
      (Function.update (s.tmp (s.sbw s.w)) s.w
        (Function.update (s.tmp (s.sbw s.w) s.w) (s.sw s.w) value)) := by
    rw [ReorderState.deal]
    split_ifs
    · rfl
    · rfl
  rw [htmp]
  by_cases ha : a = s.sbw s.w
  · rw [ha, Function.update_self]
    by_cases hw : w = s.w
    · rw [hw, Function.update_self]
      by_cases hk : k = s.sw s.w
      · rw [hk, Function.update_self, if_pos ⟨rfl, rfl, rfl⟩]
      · rw [Function.update_of_ne hk, if_neg fun hall => hk hall.2.2]
    · rw [Function.update_of_ne hw, if_neg fun hall => hw hall.2.1]
  · rw [Function.update_of_ne ha, if_neg fun hall => ha hall.1]

/-- **One line** goes behind those of its window. -/
theorem Dealt.deal (h : Dealt xr sb written s) (hw : s.w < 3) (l : ℕ) :
    Dealt xr sb (Function.update written s.w (written s.w ++ [l])) (s.deal (xr l)) := by
  have hsw := h.sw s.w hw
  have hsbw := h.sbw s.w hw
  have hlength : (written s.w ++ [l]).length = (written s.w).length + 1 := by
    rw [List.length_append, List.length_singleton]
  refine ⟨?_, ?_, ?_⟩
  · intro w hw'
    by_cases hcur : w = s.w
    · rw [hcur, Function.update_self, hlength, ReorderState.deal]
      split_ifs
      · show Function.update s.sw s.w 0 s.w = _
        rw [Function.update_self]
        omega
      · show Function.update s.sw s.w (s.sw s.w + 1) s.w = _
        rw [Function.update_self]
        omega
    · rw [Function.update_of_ne hcur, ← h.sw w hw', ReorderState.deal]
      split_ifs
      · exact Function.update_of_ne hcur _ _
      · exact Function.update_of_ne hcur _ _
  · intro w hw'
    by_cases hcur : w = s.w
    · rw [hcur, Function.update_self, hlength, ReorderState.deal]
      split_ifs
      · show Function.update s.sbw s.w (s.sbw s.w + 1) s.w = _
        rw [Function.update_self]
        omega
      · show s.sbw s.w = _
        omega
    · rw [Function.update_of_ne hcur, ← h.sbw w hw', ReorderState.deal]
      split_ifs
      · exact Function.update_of_ne hcur _ _
      · rfl
  · intro w hw' p hp
    rw [deal_tmp]
    by_cases hcur : w = s.w
    · subst hcur
      simp only [Function.update_self] at hp ⊢
      rw [hlength] at hp
      by_cases hlast : p = (written s.w).length
      · rw [if_pos ⟨by omega, trivial, by omega⟩]
        simp only [hlast, List.getElem_append_right (Nat.le_refl _), Nat.sub_self,
          List.getElem_singleton]
      · rw [if_neg (by omega), h.tmp s.w hw' p (by omega),
          List.getElem_append_left (by omega)]
    · simp only [Function.update_of_ne hcur] at hp ⊢
      rw [if_neg fun hall => hcur hall.2.1]
      exact h.tmp w hw' p hp

/-- What dealing leaves alone. -/
theorem deal_control (s : ReorderState) (value : Fixed) :
    (s.deal value).f = s.f ∧ (s.deal value).w = s.w ∧ (s.deal value).sfbwidth = s.sfbwidth := by
  rw [ReorderState.deal]
  split_ifs
  · exact ⟨rfl, rfl, rfl⟩
  · exact ⟨rfl, rfl, rfl⟩

/-- **One band**: its `n` lines go behind those of its window. -/
theorem Dealt.band (h : Dealt xr sb written s) (hw : s.w < 3) (l n : ℕ) (hf : n ≤ s.f) :
    let s' := (List.range' l n).foldl (reorderLine xr) s
    Dealt xr sb (Function.update written s.w (written s.w ++ List.range' l n)) s' ∧
      s'.f = s.f - n ∧ s'.w = s.w ∧ s'.sfbwidth = s.sfbwidth := by
  induction n generalizing l s written with
  | zero =>
    refine ⟨?_, rfl, rfl, rfl⟩
    rw [List.range'_zero, List.append_nil, Function.update_eq_self]
    exact h
  | succ n ih =>
    have hcount : s.countDown = { s with f := s.f - 1 } := by
      rw [ReorderState.countDown, if_neg (by omega)]
    have hdown : Dealt xr sb written s.countDown := by
      rw [hcount]
      exact ⟨h.sw, h.sbw, h.tmp⟩
    have hw' : s.countDown.w = s.w := by rw [hcount]
    have hline := hdown.deal (hw' ▸ hw) l
    obtain ⟨hf1, hw1, hwidths1⟩ := deal_control s.countDown (xr l)
    have hf2 : (reorderLine xr s l).f = s.f - 1 := by rw [reorderLine, hf1, hcount]
    have hw2 : (reorderLine xr s l).w = s.w := by rw [reorderLine, hw1, hw']
    have hwidths2 : (reorderLine xr s l).sfbwidth = s.sfbwidth := by
      rw [reorderLine, hwidths1, hcount]
    rw [hw'] at hline
    obtain ⟨hdealt, hf3, hw3, hwidths3⟩ := ih (s := reorderLine xr s l) hline
      (by rw [hw2]; exact hw) (l + 1) (by rw [hf2]; omega)
    rw [hw2, Function.update_self, Function.update_idem, List.append_assoc,
      List.singleton_append] at hdealt
    refine ⟨hdealt, ?_, hw3.trans hw2, hwidths3.trans hwidths2⟩
    rw [List.range'_succ, List.foldl_cons, hf3, hf2]
    omega

/-- The first line of a band turns to the next window, which can be done before. -/
theorem countDown_next {width : ℕ} {widths : List ℕ} (hpos : 0 < width) (hlt : width < 2 ^ 32)
    (hf : s.f = 0) (hs : s.sfbwidth = width :: widths) : s.countDown =
      { s with f := width, w := (s.w + 1) % 3, sfbwidth := widths : ReorderState }.countDown := by
  rw [ReorderState.countDown, if_pos hf, hs, ReorderState.countDown, if_neg (by simp only; omega)]
  simp only [List.headD_cons, List.tail_cons]
  rw [show (width + 2 ^ 32 - 1) % 2 ^ 32 = width - 1 by omega]

theorem reorderLine_next {width : ℕ} {widths : List ℕ} (hpos : 0 < width) (hlt : width < 2 ^ 32)
    (hf : s.f = 0) (hs : s.sfbwidth = width :: widths) (l : ℕ) :
    reorderLine xr s l =
      reorderLine xr { s with f := width, w := (s.w + 1) % 3, sfbwidth := widths } l := by
  rw [reorderLine, reorderLine, countDown_next hpos hlt hf hs]

/-- **All bands**: each window gets its lines. -/
theorem Dealt.bands {width : ℕ} {widths : List ℕ}
    (hpos : ∀ n ∈ width :: widths, 0 < n ∧ n < 2 ^ 32) (h : Dealt xr sb written s) (hw : s.w < 3)
    (hf : s.f = width) (hs : s.sfbwidth = widths) (l : ℕ) :
    Dealt xr sb (fun w => written w ++ windowLines (width :: widths) s.w l w)
      ((List.range' l (width :: widths).sum).foldl (reorderLine xr) s) := by
  induction widths generalizing width written s l with
  | nil =>
    obtain ⟨hdealt, -⟩ := h.band hw l width (by omega)
    have hlines : (fun w => written w ++ windowLines [width] s.w l w) =
        Function.update written s.w (written s.w ++ List.range' l width) := by
      funext w
      by_cases hcur : w = s.w
      · rw [hcur, Function.update_self, windowLines, if_pos rfl, windowLines, List.append_nil]
      · rw [Function.update_of_ne hcur, windowLines, if_neg (Ne.symm hcur), windowLines,
          List.append_nil, List.append_nil]
    rw [hlines, List.sum_singleton]
    exact hdealt
  | cons next widths ih =>
    obtain ⟨hdealt, hf', hw', hs'⟩ := h.band hw l width (by omega)
    rw [hf, Nat.sub_self] at hf'
    rw [hs] at hs'
    have hnext := hpos next (List.mem_cons_of_mem _ List.mem_cons_self)
    obtain ⟨after, hafter⟩ : ∃ after, after = (List.range' l width).foldl (reorderLine xr) s :=
      ⟨_, rfl⟩
    rw [← hafter] at hdealt hf' hw' hs'
    have hrest := ih (fun n hn => hpos n (List.mem_cons_of_mem _ hn))
      (s := { after with f := next, w := (after.w + 1) % 3, sfbwidth := widths })
      ⟨hdealt.sw, hdealt.sbw, hdealt.tmp⟩ (Nat.mod_lt _ (by omega)) rfl rfl (l + width)
    have hlines : (fun w => Function.update written s.w (written s.w ++ List.range' l width) w ++
          windowLines (next :: widths) ((after.w + 1) % 3) (l + width) w) =
        fun w => written w ++ windowLines (width :: next :: widths) s.w l w := by
      funext w
      rw [hw', windowLines_cons width]
      by_cases hcur : w = s.w
      · rw [hcur, Function.update_self, if_pos rfl, List.append_assoc]
      · rw [Function.update_of_ne hcur, if_neg (Ne.symm hcur), List.nil_append]
    rw [hlines] at hrest
    -- the first of the lines to come makes the turn
    obtain ⟨count, hcount⟩ : ∃ count, (next :: widths).sum = count + 1 := by
      rw [List.sum_cons]
      exact ⟨next + widths.sum - 1, by omega⟩
    rw [hcount, List.range'_succ, List.foldl_cons, ← reorderLine_next hnext.1 hnext.2 hf' hs',
      ← List.foldl_cons, ← List.range'_succ, ← hcount, hafter, ← List.foldl_append,
      List.range'_append_1, ← List.sum_cons] at hrest
    exact hrest

/-! ### Nothing of `tmp` is left -/

/-- The bands cover the lines from subband `sb` on, each window a third of them. -/
structure ReorderFits (sb : ℕ) (widths : List ℕ) : Prop where
  pos : ∀ n ∈ widths, 0 < n ∧ n < 2 ^ 32
  nonempty : widths ≠ []
  sum_eq : widths.sum = 576 - 18 * sb
  window : ∀ w < 3, (windowLines widths 0 (18 * sb) w).length = 6 * (32 - sb)

instance (sb : ℕ) (widths : List ℕ) : Decidable (ReorderFits sb widths) :=
  decidable_of_iff
    ((∀ n ∈ widths, 0 < n ∧ n < 2 ^ 32) ∧ widths ≠ [] ∧ widths.sum = 576 - 18 * sb ∧
      ∀ w < 3, (windowLines widths 0 (18 * sb) w).length = 6 * (32 - sb))
    ⟨fun h => ⟨h.1, h.2.1, h.2.2.1, h.2.2.2⟩, fun h => ⟨h.pos, h.nonempty, h.sum_eq, h.window⟩⟩

/-- **`III_reorder`** fills each window of each subband with the lines of the window in their
order; what was in `tmp` does not matter. -/
theorem iiiReorder_eq {mixed : Bool} {sfbwidth : List ℕ} (xr : ℕ → Fixed)
    (h : ReorderFits (reorderStart mixed) (reorderWidths mixed sfbwidth))
    (tmp : ℕ → ℕ → ℕ → Fixed) :
    iiiReorder xr mixed sfbwidth tmp = fun i =>
      if 18 * reorderStart mixed ≤ i ∧ i < 576 then
        xr ((windowLines (reorderWidths mixed sfbwidth) 0 (18 * reorderStart mixed)
          (i % 18 / 6)).getD (6 * (i / 18 - reorderStart mixed) + i % 6) 0)
      else xr i := by
  funext i
  simp only [iiiReorder]
  obtain ⟨sb, hsb⟩ : ∃ sb, sb = reorderStart mixed := ⟨_, rfl⟩
  rw [← hsb] at h ⊢
  by_cases hin : 18 * sb ≤ i ∧ i < 576
  · rw [if_pos hin, if_pos hin]
    cases hwidths : reorderWidths mixed sfbwidth with
    | nil => exact absurd hwidths h.nonempty
    | cons width widths =>
      rw [hwidths] at h
      have hstart : Dealt xr sb (fun _ => []) ⟨tmp, fun _ => sb, fun _ => 0, width, 0, widths⟩ :=
        ⟨fun _ _ => rfl, fun _ _ => rfl, fun _ _ _ hp => absurd hp (Nat.not_lt_zero _)⟩
      have hdealt := hstart.bands h.pos (Nat.succ_pos 2) rfl rfl (18 * sb)
      have hwindow := h.window (i % 18 / 6) (by omega)
      have hcell := hdealt.tmp (i % 18 / 6) (by omega) (6 * (i / 18 - sb) + i % 6)
        (by rw [List.nil_append, hwindow]; omega)
      rw [h.sum_eq, show sb + (6 * (i / 18 - sb) + i % 6) / 6 = i / 18 by omega,
        show (6 * (i / 18 - sb) + i % 6) % 6 = i % 6 by omega] at hcell
      rw [List.headD_cons, List.tail_cons, hcell, List.getD_eq_getElem?_getD,
        List.getElem?_eq_getElem (by rw [hwindow]; omega)]
      simp only [List.nil_append, Option.getD_some]
  · rw [if_neg hin, if_neg hin]

/-- The tables of all sample rates -/
theorem sfbwidthTable_reorder : ∀ row ∈ sfbwidthTable,
    ReorderFits (reorderStart false) (reorderWidths false row.s) ∧
      ReorderFits (reorderStart true) (reorderWidths true row.m) := by decide +kernel

end Mp3Decoder
