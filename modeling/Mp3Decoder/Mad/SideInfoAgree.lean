import Mp3Decoder.Mad.SideInfoAccepted

/-!
# Side information from different garbage

`III_sideinfo` fills a structure on the stack that is not initialised.  Two runs over the same bits
agree on the pointer, the error and every field that `III_sideinfo` sets: the fields of a window
where `window_switching_flag` is set, and of the third region where it is clear.
-/

namespace Mp3Decoder

/-- The fields from the side information are the same, as far as they have been set. -/
structure Channel.SameInfo (channel channel' : Channel) : Prop where
  part23Length : channel.part23Length = channel'.part23Length
  bigValues : channel.bigValues = channel'.bigValues
  globalGain : channel.globalGain = channel'.globalGain
  scalefacCompress : channel.scalefacCompress = channel'.scalefacCompress
  flags : channel.flags = channel'.flags
  blockType : channel.blockType = channel'.blockType
  tableSelect : ∀ i < 2, channel.tableSelect i = channel'.tableSelect i
  region2 : channel.blockType = 0 → channel.tableSelect 2 = channel'.tableSelect 2
  subblockGain : channel.isSwitched → ∀ w < 3, channel.subblockGain w = channel'.subblockGain w
  region0Count : channel.region0Count = channel'.region0Count
  region1Count : channel.region1Count = channel'.region1Count

theorem Channel.SameInfo.isMixed {channel channel' : Channel} (h : channel.SameInfo channel') :
    channel.isMixed = channel'.isMixed := by
  rw [Channel.isMixed, Channel.isMixed, h.flags]

/-- Three values put into an array. -/
theorem update_three {f f' : ℕ → ℕ} (a b c : ℕ) {i : ℕ} (hi : i < 3) :
    Function.update (Function.update (Function.update f 0 a) 1 b) 2 c i =
      Function.update (Function.update (Function.update f' 0 a) 1 b) 2 c i := by
  simp only [Function.update_apply]
  split_ifs
  all_goals first | rfl | omega

theorem update_two {f f' : ℕ → ℕ} (a b : ℕ) {i : ℕ} (hi : i < 2) :
    Function.update (Function.update f 0 a) 1 b i =
      Function.update (Function.update f' 0 a) 1 b i := by
  simp only [Function.update_apply]
  split_ifs
  all_goals first | rfl | omega

variable {mem : Mem} {lsf : Bool} {scfsi scfsi' : ℕ} {ptr : MadBitptr} {result : MadError}

/-- The fields before `window_switching_flag` are the same. -/
structure Channel.SameStart (channel channel' : Channel) : Prop where
  part23Length : channel.part23Length = channel'.part23Length
  bigValues : channel.bigValues = channel'.bigValues
  globalGain : channel.globalGain = channel'.globalGain
  scalefacCompress : channel.scalefacCompress = channel'.scalefacCompress
  flags : channel.flags = channel'.flags

theorem readWindow_agree (mem : Mem) (ptr : MadBitptr) (result : MadError)
    {channel channel' : Channel} (h : channel.SameStart channel')
    (hscfsi : lsf = false → scfsi = scfsi') :
    let r := readWindow mem lsf scfsi channel ptr result
    let r' := readWindow mem lsf scfsi' channel' ptr result
    r.2 = r'.2 ∧ (r.2.2 = .none → r.1.SameInfo r'.1) := by
  have hbad : ∀ b : Bool, (!lsf && b && decide (scfsi ≠ 0)) = (!lsf && b && decide (scfsi' ≠ 0)) := by
    intro b
    cases lsf with
    | true => rfl
    | false => rw [hscfsi rfl]
  simp only [readWindow, hbad, h.flags]
  refine ⟨trivial, ?_⟩
  intro hok
  obtain ⟨hscfsi, -⟩ := firstError_none (by decide) hok
  obtain ⟨-, htype⟩ := firstError_none (by decide) hscfsi
  have hswitched := of_decide_eq_false htype
  exact ⟨h.part23Length, h.bigValues, h.globalGain, h.scalefacCompress, rfl, rfl,
    fun i hi => update_two _ _ hi, fun hzero => absurd hzero hswitched,
    fun _ w hw => update_three _ _ _ hw, rfl, rfl⟩

theorem readRegions_agree {channel channel' : Channel} (h : channel.SameStart channel') :
    (readRegions mem channel ptr).2 = (readRegions mem channel' ptr).2 ∧
      (readRegions mem channel ptr).1.SameInfo (readRegions mem channel' ptr).1 := by
  have htables : ∀ i < 3, (readRegions mem channel ptr).1.tableSelect i =
      (readRegions mem channel' ptr).1.tableSelect i := fun i hi => update_three _ _ _ hi
  exact ⟨rfl, h.part23Length, h.bigValues, h.globalGain, h.scalefacCompress, h.flags, rfl,
    fun i hi => htables i (Nat.lt_succ_of_lt hi), fun _ => htables 2 (Nat.lt_succ_self 2),
    fun hswitched => absurd rfl hswitched, rfl, rfl⟩

theorem Channel.SameInfo.orFlags {channel channel' : Channel} (h : channel.SameInfo channel')
    (flags : ℕ) : Channel.SameInfo { channel with flags := channel.flags ||| flags }
      { channel' with flags := channel'.flags ||| flags } :=
  ⟨h.part23Length, h.bigValues, h.globalGain, h.scalefacCompress,
    congrArg (· ||| flags) h.flags, h.blockType, h.tableSelect, h.region2, h.subblockGain,
    h.region0Count, h.region1Count⟩

/-- **One channel** -/
theorem readChannel_agree (channel channel' : Channel) (hscfsi : lsf = false → scfsi = scfsi') :
    let r := readChannel mem lsf scfsi channel ptr result
    let r' := readChannel mem lsf scfsi' channel' ptr result
    r.2 = r'.2 ∧ (r.2.2 = .none → r.1.SameInfo r'.1) := by
  simp only [readChannel]
  generalize madBitRead mem ptr 12 = part23
  generalize madBitRead mem part23.2 9 = big
  generalize madBitRead mem big.2 8 = gain
  generalize madBitRead mem gain.2 (if lsf then 9 else 4) = compress
  generalize madBitRead mem compress.2 1 = switching
  have hstart : Channel.SameStart
      { channel with
        part23Length := part23.1, bigValues := big.1, globalGain := gain.1
        scalefacCompress := compress.1, flags := 0 }
      { channel' with
        part23Length := part23.1, bigValues := big.1, globalGain := gain.1
        scalefacCompress := compress.1, flags := 0 } := ⟨rfl, rfl, rfl, rfl, rfl⟩
  by_cases hwindow : switching.1 ≠ 0
  · simp only [if_pos hwindow]
    obtain ⟨hrest, hsame⟩ := readWindow_agree mem switching.2 _ hstart hscfsi
    rw [hrest] at hsame ⊢
    exact ⟨rfl, fun hok => (hsame hok).orFlags _⟩
  · simp only [if_neg hwindow]
    obtain ⟨hrest, hsame⟩ := readRegions_agree hstart
    rw [hrest]
    exact ⟨rfl, fun _ => hsame.orFlags _⟩

/-- Short blocks do not go with scalefactors taken over from granule 0. -/
theorem readChannel_short {channel : Channel}
    (hok : (readChannel mem false scfsi channel ptr result).2.2 = .none)
    (hshort : (readChannel mem false scfsi channel ptr result).1.blockType = 2) : scfsi = 0 := by
  simp only [readChannel] at hok hshort
  generalize madBitRead mem (madBitRead mem (madBitRead mem (madBitRead mem
    (madBitRead mem ptr 12).2 9).2 8).2 (if false then 9 else 4)).2 1 = switching at hok hshort
  by_cases hwindow : switching.1 ≠ 0
  · simp only [if_pos hwindow, readWindow] at hok hshort
    obtain ⟨-, hbad⟩ := firstError_none (by decide) hok
    simp only [hshort, Bool.not_false, decide_true, Bool.true_and, decide_eq_false_iff_not,
      not_not] at hbad
    exact hbad
  · simp only [if_neg hwindow, readRegions] at hshort
    cases hshort

theorem readChannel_result {channel : Channel}
    (hok : (readChannel mem lsf scfsi channel ptr result).2.2 = .none) : result = .none := by
  simp only [readChannel] at hok
  generalize madBitRead mem (madBitRead mem (madBitRead mem (madBitRead mem
    (madBitRead mem ptr 12).2 9).2 8).2 (if lsf then 9 else 4)).2 1 = switching at hok
  by_cases hwindow : switching.1 ≠ 0
  · simp only [if_pos hwindow, readWindow] at hok
    obtain ⟨hscfsi, -⟩ := firstError_none (by decide) hok
    obtain ⟨hbig, -⟩ := firstError_none (by decide) hscfsi
    exact (firstError_none (by decide) hbig).1
  · simp only [if_neg hwindow] at hok
    exact (firstError_none (by decide) hok).1

/-! ### All channels -/

/-- Two runs have read the channels of `done`. -/
structure SidesAgree (lsf : Bool) (nch : ℕ) (done : ℕ → ℕ → Prop) (s s' : SideinfoState) : Prop where
  ptr : s.ptr = s'.ptr
  result : s.result = s'.result
  mainDataBegin : s.si.mainDataBegin = s'.si.mainDataBegin
  scfsi : lsf = false → ∀ ch < nch, s.si.scfsi ch = s'.si.scfsi ch
  channels : s.result = .none → ∀ gr ch, done gr ch →
    (s.si.gr gr ch).SameInfo (s'.si.gr gr ch)
  short : s.result = .none → lsf = false → ∀ gr ch, done gr ch →
    (s.si.gr gr ch).blockType = 2 → s.si.scfsi ch = 0

variable {nch : ℕ} {done : ℕ → ℕ → Prop} {s s' : SideinfoState}

theorem SidesAgree.mono {done' : ℕ → ℕ → Prop} (h : SidesAgree lsf nch done s s')
    (hle : ∀ gr ch, done' gr ch → done gr ch) : SidesAgree lsf nch done' s s' :=
  ⟨h.ptr, h.result, h.mainDataBegin, h.scfsi,
    fun hok gr ch hdone => h.channels hok gr ch (hle gr ch hdone),
    fun hok hlsf gr ch hdone => h.short hok hlsf gr ch (hle gr ch hdone)⟩

theorem SidesAgree.readChannel (h : SidesAgree lsf nch done s s') (gr : ℕ) {ch : ℕ}
    (hch : ch < nch) : SidesAgree lsf nch (fun gr' ch' => done gr' ch' ∨ gr' = gr ∧ ch' = ch)
      (readGranuleChannel mem lsf s gr ch) (readGranuleChannel mem lsf s' gr ch) := by
  obtain ⟨r, hr⟩ : ∃ r, r = Mp3Decoder.readChannel mem lsf (s.si.scfsi ch) (s.si.gr gr ch) s.ptr
      s.result := ⟨_, rfl⟩
  obtain ⟨r', hr'⟩ : ∃ r', r' = Mp3Decoder.readChannel mem lsf (s'.si.scfsi ch) (s'.si.gr gr ch)
      s'.ptr s'.result := ⟨_, rfl⟩
  have hagree : r.2 = r'.2 ∧ (r.2.2 = .none → r.1.SameInfo r'.1) := by
    rw [hr, hr', ← h.ptr, ← h.result]
    exact readChannel_agree _ _ fun hlsf => h.scfsi hlsf ch hch
  have hbefore : r.2.2 = .none → s.result = .none := by
    rw [hr]
    exact readChannel_result
  have hshort : r.2.2 = .none → lsf = false → r.1.blockType = 2 → s.si.scfsi ch = 0 := by
    intro hok hlsf htype
    rw [hr, hlsf] at hok htype
    exact readChannel_short hok htype
  have hs : readGranuleChannel mem lsf s gr ch =
      { ptr := r.2.1
        si := { s.si with gr := Function.update s.si.gr gr (Function.update (s.si.gr gr) ch r.1) }
        dataBitlen := s.dataBitlen + r.1.part23Length
        result := r.2.2 } := by rw [hr]; rfl
  have hs' : readGranuleChannel mem lsf s' gr ch =
      { ptr := r'.2.1
        si := { s'.si with
          gr := Function.update s'.si.gr gr (Function.update (s'.si.gr gr) ch r'.1) }
        dataBitlen := s'.dataBitlen + r'.1.part23Length
        result := r'.2.2 } := by rw [hr']; rfl
  rw [hs, hs']
  refine ⟨congrArg Prod.fst hagree.1, congrArg Prod.snd hagree.1, h.mainDataBegin, h.scfsi, ?_, ?_⟩
  · intro hok gr' ch' hdone
    simp only [update_channel]
    by_cases hnew : gr' = gr ∧ ch' = ch
    · rw [if_pos hnew, if_pos hnew]
      exact hagree.2 hok
    · rw [if_neg hnew, if_neg hnew]
      exact h.channels (hbefore hok) gr' ch' (hdone.resolve_right hnew)
  · intro hok hlsf gr' ch' hdone
    simp only [update_channel]
    by_cases hnew : gr' = gr ∧ ch' = ch
    · rw [if_pos hnew, hnew.2]
      exact hshort hok hlsf
    · rw [if_neg hnew]
      exact h.short (hbefore hok) hlsf gr' ch' (hdone.resolve_right hnew)

theorem SidesAgree.granule (h : SidesAgree lsf nch done s s') (gr : ℕ) :
    SidesAgree lsf nch (fun gr' ch' => done gr' ch' ∨ gr' = gr ∧ ch' < nch)
      (readGranule mem lsf nch s gr) (readGranule mem lsf nch s' gr) := by
  have hchannels : ∀ n ≤ nch, SidesAgree lsf nch (fun gr' ch' => done gr' ch' ∨ gr' = gr ∧ ch' < n)
      ((List.range n).foldl (fun s ch => readGranuleChannel mem lsf s gr ch) s)
      ((List.range n).foldl (fun s ch => readGranuleChannel mem lsf s gr ch) s') := by
    intro n
    induction n with
    | zero =>
      intro _
      apply h.mono
      intro gr' ch' hdone
      exact hdone.resolve_right fun hnone => absurd hnone.2 (Nat.not_lt_zero ch')
    | succ n ih =>
      intro hn
      rw [List.range_succ, List.foldl_append, List.foldl_append]
      apply ((ih (by omega)).readChannel gr hn).mono
      intro gr' ch' hdone
      rcases hdone with hold | ⟨hgr, hch⟩
      · exact .inl (.inl hold)
      · rcases Nat.lt_succ_iff_lt_or_eq.mp hch with hlt | heq
        · exact .inl (.inr ⟨hgr, hlt⟩)
        · exact .inr ⟨hgr, heq⟩
  exact hchannels nch (le_refl nch)

theorem readScfsi_agree (mem : Mem) (h : s.ptr = s'.ptr) (nch : ℕ) :
    (readScfsi mem nch s).ptr = (readScfsi mem nch s').ptr ∧
      ∀ ch < nch, (readScfsi mem nch s).si.scfsi ch = (readScfsi mem nch s').si.scfsi ch := by
  rw [readScfsi, readScfsi]
  induction nch with
  | zero => exact ⟨h, fun ch hch => absurd hch (Nat.not_lt_zero ch)⟩
  | succ nch ih =>
    obtain ⟨hptr, hscfsi⟩ := ih
    rw [List.range_succ, List.foldl_append, List.foldl_append]
    simp only [List.foldl_cons, List.foldl_nil, readScfsiChannel, hptr]
    refine ⟨trivial, ?_⟩
    intro ch hch
    by_cases hlast : ch = nch
    · rw [hlast, Function.update_self, Function.update_self]
    · rw [Function.update_of_ne hlast, Function.update_of_ne hlast]
      exact hscfsi ch (by omega)

theorem readScfsi_result (nch : ℕ) (s : SideinfoState) :
    (readScfsi mem nch s).result = s.result := by
  rw [readScfsi]
  induction nch with
  | zero => rfl
  | succ nch ih =>
    rw [List.range_succ, List.foldl_append]
    exact ih

theorem sideinfoStart_agree (mem : Mem) (ptr : MadBitptr) (nch : ℕ) (lsf : Bool)
    (si si' : SideInfo) : SidesAgree lsf nch (fun _ _ => False) (sideinfoStart mem ptr nch lsf si)
      (sideinfoStart mem ptr nch lsf si') := by
  cases lsf with
  | true =>
    exact ⟨rfl, rfl, rfl, fun hlsf => (nomatch hlsf), fun _ _ _ hdone => hdone.elim,
      fun _ _ _ _ hdone => hdone.elim⟩
  | false =>
    obtain ⟨start, hstart⟩ : ∃ start : SideInfo → SideinfoState, start = fun si =>
      { ptr := (madBitRead mem (madBitRead mem ptr 9).2 (privBitlen false nch)).2
        si := { si with
          mainDataBegin := (madBitRead mem ptr 9).1
          privateBits := (madBitRead mem (madBitRead mem ptr 9).2 (privBitlen false nch)).1 }
        dataBitlen := 0
        result := .none } := ⟨_, rfl⟩
    have hrun : ∀ si, sideinfoStart mem ptr nch false si = readScfsi mem nch (start si) := by
      intro si
      rw [hstart]
      rfl
    have hptr : (start si).ptr = (start si').ptr := by rw [hstart]
    have hresult : (start si).result = (start si').result := by rw [hstart]
    have hbegin : (start si).si.mainDataBegin = (start si').si.mainDataBegin := by rw [hstart]
    rw [hrun, hrun]
    obtain ⟨hptr', hscfsi⟩ := readScfsi_agree mem hptr nch
    exact ⟨hptr', by rw [readScfsi_result, readScfsi_result, hresult],
      by rw [readScfsi_mainDataBegin, readScfsi_mainDataBegin, hbegin], fun _ => hscfsi,
      fun _ _ _ hdone => hdone.elim, fun _ _ _ _ hdone => hdone.elim⟩

/-- **Two runs of `III_sideinfo`** over the same bits agree, whatever was on the stack. -/
theorem iiiSideinfo_agree (mem : Mem) (ptr : MadBitptr) (nch : ℕ) (lsf : Bool)
    (si si' : SideInfo) :
    SidesAgree lsf nch (fun gr ch => gr < (if lsf then 1 else 2) ∧ ch < nch)
      (iiiSideinfo mem ptr nch lsf si) (iiiSideinfo mem ptr nch lsf si') := by
  have hgranules : ∀ n, SidesAgree lsf nch (fun gr ch => gr < n ∧ ch < nch)
      ((List.range n).foldl (readGranule mem lsf nch) (sideinfoStart mem ptr nch lsf si))
      ((List.range n).foldl (readGranule mem lsf nch) (sideinfoStart mem ptr nch lsf si')) := by
    intro n
    induction n with
    | zero =>
      apply (sideinfoStart_agree mem ptr nch lsf si si').mono
      intro gr ch hdone
      exact absurd hdone.1 (Nat.not_lt_zero gr)
    | succ n ih =>
      rw [List.range_succ, List.foldl_append, List.foldl_append]
      apply (ih.granule n).mono
      intro gr ch hdone
      rcases Nat.lt_succ_iff_lt_or_eq.mp hdone.1 with hlt | heq
      · exact .inl ⟨hlt, hdone.2⟩
      · exact .inr ⟨heq, hdone.2⟩
  exact hgranules _

end Mp3Decoder
