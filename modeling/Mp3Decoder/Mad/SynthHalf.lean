import Mp3Decoder.Mad.SynthSliding

/-!
# Synthesis at half rate (`synth_half`)

`synth_half` computes all samples of `synth_full`, from the same filter, but its second pointer
starts 16 slots lower.  So the upper samples are added to the lower ones, and the middle one goes
behind the buffer.
-/

namespace Mp3Decoder

/-! ### One channel -/

/-- What a store adds. -/
def PcmStore.value (filter : Filter) (store : PcmStore) : BitVec 16 :=
  scale (synthShift (store.sum filter))

/-- The place of a store in `synth_half`, of a store in `synth_full` -/
def PcmStore.halved (store : PcmStore) : PcmStore :=
  { store with slot := if 16 < store.slot then store.slot - 16 else store.slot }

theorem accumulate_eq (filter : Filter) (stores : List PcmStore) (buff : PcmBuffer) (k : ℕ) :
    stores.foldl (PcmStore.accumulate filter) buff k =
      buff k + (stores.map fun store => if store.slot = k then store.value filter else 0).sum := by
  induction stores generalizing buff with
  | nil => simp
  | cons store stores ih =>
    rw [List.foldl_cons, ih, List.map_cons, List.sum_cons, ← add_assoc, PcmStore.accumulate]
    by_cases hk : store.slot = k
    · rw [if_pos hk, ← hk, Function.update_self]
      rfl
    · rw [if_neg hk, Function.update_of_ne (Ne.symm hk), add_zero]

/-- **The stores** are those of `synth_full`, some of them 16 slots lower. -/
theorem pcmStores_half (phase : ℕ) :
    pcmStores 14 phase = (pcmStores 30 phase).map PcmStore.halved := by
  have hmirror : (List.range 15).flatMap (fun i : ℕ =>
      [{ slot := i + 1
         negated := tapsFrom 1 (notPhase phase) (i + 1 - 1) (i + 1) (poOf phase)
         added := (tapsFrom 0 (phase &&& 1) (i + 1) (i + 1) (peOf phase)).reverse },
       { slot := 1 + 14 - i
         negated := []
         added := tapsBack 0 (phase &&& 1) (i + 1) (i + 1) (peOf phase) ++
          (tapsBack 1 (notPhase phase) (i + 1 - 1) (i + 1) (poOf phase)).reverse : PcmStore }]) =
      ((List.range 15).flatMap fun i : ℕ =>
      [{ slot := i + 1
         negated := tapsFrom 1 (notPhase phase) (i + 1 - 1) (i + 1) (poOf phase)
         added := (tapsFrom 0 (phase &&& 1) (i + 1) (i + 1) (peOf phase)).reverse },
       { slot := 1 + 30 - i
         negated := []
         added := tapsBack 0 (phase &&& 1) (i + 1) (i + 1) (peOf phase) ++
          (tapsBack 1 (notPhase phase) (i + 1 - 1) (i + 1) (poOf phase)).reverse : PcmStore }]).map
        PcmStore.halved := by
    rw [List.map_flatMap]
    apply List.flatMap_congr
    intro i hi
    have hlt := List.mem_range.mp hi
    simp only [List.map_cons, List.map_nil, PcmStore.halved]
    rw [if_neg (by omega), if_pos (by omega), show 1 + 30 - i - 16 = 1 + 14 - i by omega]
  rw [pcmStores, pcmStores, List.map_append, List.map_append, ← hmirror]
  rfl

/-- The buffer of `synth_half`, of that of `synth_full` -/
def foldBuffer (full : PcmBuffer) : PcmBuffer := fun k =>
  if k = 0 ∨ k = 16 then full k else if k < 16 then full k + full (k + 16) else 0

theorem foldBuffer_zero : foldBuffer (fun _ => 0) = fun _ => 0 := by
  funext k
  simp [foldBuffer]

/-- **The upper samples are added to the lower ones.** -/
theorem accumulate_half (filter : Filter) (phase : ℕ) (buff : PcmBuffer) :
    (pcmStores 14 phase).foldl (PcmStore.accumulate filter) (foldBuffer buff) =
      foldBuffer ((pcmStores 30 phase).foldl (PcmStore.accumulate filter) buff) := by
  have hslots : ∀ store ∈ pcmStores 30 phase, store.slot < 32 := by
    intro store hstore
    exact List.mem_range.mp
      ((pcmStores_slots phase).mem_iff.mp (List.mem_map.mpr ⟨store, hstore, rfl⟩))
  have hvalue : ∀ store : PcmStore, store.halved.value filter = store.value filter :=
    fun _ => rfl
  funext k
  rw [accumulate_eq, pcmStores_half, List.map_map]
  simp only [Function.comp_def, hvalue]
  generalize pcmStores 30 phase = stores at hslots
  by_cases hends : k = 0 ∨ k = 16
  · have hterms : (stores.map fun store =>
        if store.halved.slot = k then store.value filter else 0) =
        stores.map fun store => if store.slot = k then store.value filter else 0 := by
      apply List.map_congr_left
      intro store hstore
      have hlt := hslots store hstore
      have hslot : store.halved.slot = k ↔ store.slot = k := by
        rw [PcmStore.halved]
        grind
      simp only [hslot]
    rw [foldBuffer, foldBuffer, if_pos hends, if_pos hends, hterms, accumulate_eq]
  · by_cases hk : k < 16
    · have hterms : (stores.map fun store =>
          if store.halved.slot = k then store.value filter else 0) =
          stores.map fun store => (if store.slot = k then store.value filter else 0) +
            if store.slot = k + 16 then store.value filter else 0 := by
        apply List.map_congr_left
        intro store hstore
        have hlt := hslots store hstore
        rw [PcmStore.halved]
        grind
      rw [foldBuffer, foldBuffer, if_neg hends, if_pos hk, if_neg hends, if_pos hk, hterms,
        List.sum_map_add, accumulate_eq, accumulate_eq, add_add_add_comm]
    · have hterms : (stores.map fun store =>
          if store.halved.slot = k then store.value filter else 0) =
          stores.map fun store => 0 := by
        apply List.map_congr_left
        intro store hstore
        have hlt := hslots store hstore
        have hslot : store.halved.slot ≠ k := by
          rw [PcmStore.halved]
          grind
        exact if_neg hslot
      rw [foldBuffer, foldBuffer, if_neg hends, if_neg hk, if_neg hends, if_neg hk, hterms]
      simp

/-! ### Blocks and frames -/

section
variable (dct32 : (ℕ → BitVec 32) → DctOutput)

theorem synthBlock_half (nch phase : ℕ) (block : SubbandBlock) (filter : ℕ → Filter) :
    synthBlock dct32 14 nch phase block filter =
      ((synthBlock dct32 30 nch phase block filter).1,
        foldBuffer (synthBlock dct32 30 nch phase block filter).2) := by
  induction nch with
  | zero =>
    show (filter, fun _ => 0) = (filter, foldBuffer fun _ => 0)
    rw [foldBuffer_zero]
  | succ n ih =>
    obtain ⟨hhalfFilter, hhalfBuff⟩ := synthBlock_succ dct32 14 n phase block filter
    obtain ⟨hfullFilter, hfullBuff⟩ := synthBlock_succ dct32 30 n phase block filter
    rw [ih] at hhalfFilter hhalfBuff
    refine Prod.ext ?_ ?_
    · rw [hhalfFilter, hfullFilter]
    · rw [hhalfBuff, hfullBuff, accumulate_half]

theorem synthBlocks_half (nch : ℕ) (blocks : List SubbandBlock) (phase : ℕ)
    (filter : ℕ → Filter) : synthBlocks dct32 14 nch phase blocks filter =
      ((synthBlocks dct32 30 nch phase blocks filter).1,
        (synthBlocks dct32 30 nch phase blocks filter).2.map foldBuffer) := by
  induction blocks generalizing phase filter with
  | nil => rfl
  | cons block blocks ih =>
    simp only [synthBlocks, synthBlock_half, ih, List.map_cons]

/-- The frame without the option -/
def SubbandFrame.fullRate (frame : SubbandFrame) : SubbandFrame := { frame with options := 0 }

/-- The samples rendered -/
def renderedBlocks (synth : MadSynth) (frame : SubbandFrame) : List (PcmBuffer × ℕ) :=
  (madSynthFrame dct32 synth frame).2.filterMap SynthCall.rendered

theorem madSynthFrame_half {frame : SubbandFrame} (synth : MadSynth)
    (hhalf : frame.options &&& madOptionHalfsamplerate ≠ 0) :
    (madSynthFrame dct32 synth frame).1.filter =
        (madSynthFrame dct32 synth frame.fullRate).1.filter ∧
      (madSynthFrame dct32 synth frame).1.phase =
        (madSynthFrame dct32 synth frame.fullRate).1.phase ∧
      renderedBlocks dct32 synth frame =
        (renderedBlocks dct32 synth frame.fullRate).map fun out => (foldBuffer out.1, 16) := by
  have hfull : ¬frame.fullRate.options &&& madOptionHalfsamplerate ≠ 0 := fun h => h (Nat.zero_and _)
  simp only [renderedBlocks, madSynthFrame, if_pos hhalf, if_neg hfull, synthHalf, synthFull,
    synthBlocks_half, List.filterMap_append, rendered_map]
  refine ⟨rfl, rfl, ?_⟩
  show List.map _ (List.map _ _) = List.map _ (List.map _ _)
  rw [List.map_map, List.map_map]
  rfl

/-- What `mad_synth_frame` accesses in `synth_half` -/
def synthHalfAccesses (synth : MadSynth) (frame : SubbandFrame) : List SynthAccess :=
  synthBlocksAccesses 14 (madNchannels frame.header) synth.phase (madNsbsamples frame.header)

theorem madNchannels_pos (header : MadHeader) : 0 < madNchannels header := by
  rw [madNchannels]
  split_ifs
  all_goals decide

theorem madNsbsamples_pos (header : MadHeader) : 0 < madNsbsamples header := by
  rw [madNsbsamples]
  split_ifs
  all_goals decide

/-- Every channel of every block stores behind the buffer. -/
theorem synthHalfAccesses_behind (synth : MadSynth) (frame : SubbandFrame) :
    SynthAccess.buffer 16 ∈ synthHalfAccesses synth frame := by
  obtain ⟨ns, hns⟩ := Nat.exists_eq_add_one.mpr (madNsbsamples_pos frame.header)
  rw [synthHalfAccesses, hns, synthBlocksAccesses]
  apply List.mem_append_left
  rw [synthBlockAccesses, List.mem_flatMap]
  refine ⟨0, List.mem_range.mpr (madNchannels_pos frame.header), ?_⟩
  apply List.mem_append_right
  rw [List.mem_flatMap]
  refine ⟨{ slot := 16, negated := tapsFrom 1 (notPhase synth.phase) 15 16 (poOf synth.phase)
            added := [] }, ?_, ?_⟩
  · exact List.mem_append_right _ List.mem_cons_self
  · exact List.mem_append_right _ List.mem_cons_self

/-- Half rate is every other sample of full rate. -/
structure HalfDecimates (synth : MadSynth) (frame : SubbandFrame) : Prop where
  /-- block by block -/
  samples : List.Forall₂ (fun half full : PcmBuffer × ℕ => half.2 = 16 ∧
      ∀ k < 16, half.1 k = full.1 (2 * k))
    (renderedBlocks dct32 synth frame) (renderedBlocks dct32 synth frame.fullRate)
  writes : ∀ slot, SynthAccess.buffer slot ∈ synthHalfAccesses synth frame → slot < 16
  filter : (madSynthFrame dct32 synth frame).1.filter =
    (madSynthFrame dct32 synth frame.fullRate).1.filter
  phase : (madSynthFrame dct32 synth frame).1.phase =
    (madSynthFrame dct32 synth frame.fullRate).1.phase

/-- **Half rate is never that**: the filter and the phase are the same, but the samples are the full
ones folded at 16, and slot 16 is written. -/
theorem synthHalf_folds (synth : MadSynth) {frame : SubbandFrame}
    (hhalf : frame.options &&& madOptionHalfsamplerate ≠ 0) :
    ¬HalfDecimates dct32 synth frame ∧
      (madSynthFrame dct32 synth frame).1.filter =
        (madSynthFrame dct32 synth frame.fullRate).1.filter ∧
      (madSynthFrame dct32 synth frame).1.phase =
        (madSynthFrame dct32 synth frame.fullRate).1.phase ∧
      renderedBlocks dct32 synth frame =
        (renderedBlocks dct32 synth frame.fullRate).map fun out => (foldBuffer out.1, 16) := by
  refine ⟨?_, madSynthFrame_half dct32 synth hhalf⟩
  intro h
  exact absurd (h.writes 16 (synthHalfAccesses_behind synth frame)) (by decide)

end

/-- A mono frame at half rate, silent -/
def halfRateFrame : SubbandFrame where
  header := { layer := 3, mode := 0 }
  options := madOptionHalfsamplerate
  sbsample _ _ _ := 0

/-- One value left in the filter from the blocks before -/
def halfRateSynth : MadSynth :=
  { madSynthInit with
    filter := fun _ eo peo s v => if eo = 1 ∧ peo = 1 ∧ s = 0 ∧ v = 0 then 0x10000 else 0 }

theorem synthHalf_folds_silence :
    halfRateFrame.options &&& madOptionHalfsamplerate ≠ 0 ∧
      ¬HalfDecimates (fun _ _ _ => 0) halfRateSynth halfRateFrame := by
  have hhalf : halfRateFrame.options &&& madOptionHalfsamplerate ≠ 0 := by decide
  exact ⟨hhalf, (synthHalf_folds (fun _ _ _ => 0) halfRateSynth hhalf).1⟩

/-- Here sample 1 is not sample 2 of full rate. -/
theorem synthHalf_not_decimates :
    ¬HalfDecimates (fun _ _ _ => 0) halfRateSynth halfRateFrame := by
  intro h
  have hsamples := h.samples
  rw [(madSynthFrame_half _ _ (by decide)).2.2] at hsamples
  obtain ⟨buffs, hfull⟩ : ∃ buffs, renderedBlocks (fun _ _ _ => 0) halfRateSynth
      halfRateFrame.fullRate =
      ((synthBlock (fun _ _ _ => 0) 30 1 0 (fun _ _ => 0) halfRateSynth.filter).2, 32) :: buffs :=
    ⟨_, rfl⟩
  rw [hfull, List.map_cons, List.forall₂_cons] at hsamples
  exact absurd (hsamples.1.2 1 (by decide)) (by decide +kernel)

end Mp3Decoder
