import Mp3Decoder.Mad.SideInfo

/-!
# Accepted side information

What `III_sideinfo` makes sure of when it reports no error, for each channel of each granule.
`block_type` is 0 exactly where `window_switching_flag` is clear, and only then has the channel three
regions of its own.
-/

namespace Mp3Decoder

open BigEndianBits

/-- `window_switching_flag`, as the block type tells it. -/
def Channel.isSwitched (channel : Channel) : Prop := channel.blockType ≠ 0

structure Channel.Accepted (channel : Channel) : Prop where
  bigValues_le : channel.bigValues ≤ 288
  blockType_le : channel.blockType ≤ 3
  regions : channel.blockType = 0 → channel.region0Count ≤ 15 ∧ channel.region1Count ≤ 7
  switched : channel.isSwitched →
    7 ≤ channel.region0Count ∧ channel.region0Count ≤ 8 ∧ channel.region1Count = 36

theorem firstError_none {result error : MadError} {bad : Bool} (herror : error ≠ .none)
    (h : firstError result bad error = .none) : result = .none ∧ bad = false := by
  rw [firstError] at h
  by_cases hbad : bad ∧ result = .none
  · rw [if_pos hbad] at h
    exact absurd h herror
  · rw [if_neg hbad] at h
    refine ⟨h, ?_⟩
    cases hb : bad with
    | false => rfl
    | true => exact absurd ⟨hb, h⟩ hbad

variable {mem : Mem} {lsf : Bool} {scfsi : ℕ} {channel : Channel} {ptr : MadBitptr}
  {result : MadError} {pos : ℕ}

theorem InByte.read_lt (h : InByte mem ptr pos) (len : ℕ) : (madBitRead mem ptr len).1 < 2 ^ len := by
  rw [h.1.read_value]
  exact bitsVal_lt mem pos len

/-- The block type of a switched window is not 0, and its regions are fixed. -/
theorem readWindow_accepted (h : InByte mem ptr pos)
    (hok : (readWindow mem lsf scfsi channel ptr result).2.2 = .none) :
    result = .none ∧ (readWindow mem lsf scfsi channel ptr result).1.isSwitched ∧
      (readWindow mem lsf scfsi channel ptr result).1.blockType ≤ 3 ∧
      7 ≤ (readWindow mem lsf scfsi channel ptr result).1.region0Count ∧
      (readWindow mem lsf scfsi channel ptr result).1.region0Count ≤ 8 ∧
      (readWindow mem lsf scfsi channel ptr result).1.region1Count = 36 := by
  simp only [readWindow] at hok ⊢
  obtain ⟨hscfsi, -⟩ := firstError_none (by decide) hok
  obtain ⟨hresult, htype⟩ := firstError_none (by decide) hscfsi
  have hlt := h.read_lt 2
  refine ⟨hresult, of_decide_eq_false htype, by omega, ?_, ?_, trivial⟩
  · split_ifs <;> omega
  · split_ifs <;> omega

theorem readRegions_accepted (channel : Channel) (h : InByte mem ptr pos) :
    (readRegions mem channel ptr).1.blockType = 0 ∧
      (readRegions mem channel ptr).1.region0Count ≤ 15 ∧
      (readRegions mem channel ptr).1.region1Count ≤ 7 := by
  have hthird := ((h.read 5).read 5).read 5
  have h0 := hthird.read_lt 4
  have h1 := (hthird.read 4).read_lt 3
  refine ⟨rfl, ?_, ?_⟩
  · show (madBitRead mem _ 4).1 ≤ 15
    omega
  · show (madBitRead mem _ 3).1 ≤ 7
    omega

theorem readChannel_accepted (h : InByte mem ptr pos)
    (hok : (readChannel mem lsf scfsi channel ptr result).2.2 = .none) :
    result = .none ∧ (readChannel mem lsf scfsi channel ptr result).1.Accepted := by
  have hcompress := ((h.read 12).read 9).read 8
  have hswitching := (hcompress.read (if lsf then 9 else 4)).read 1
  simp only [readChannel] at hok ⊢
  generalize madBitRead mem (madBitRead mem (madBitRead mem (madBitRead mem
    (madBitRead mem ptr 12).2 9).2 8).2 (if lsf then 9 else 4)).2 1 = switching
    at hok hswitching ⊢
  by_cases hwindow : switching.1 ≠ 0
  · rw [if_pos hwindow] at hok ⊢
    obtain ⟨hbig, hswitched, htype, hlow, hhigh, hregion1⟩ := readWindow_accepted hswitching hok
    obtain ⟨hresult, hle⟩ := firstError_none (by decide) hbig
    have hvalues := of_decide_eq_false hle
    exact ⟨hresult, by simpa [readWindow] using hvalues, htype, fun hzero => absurd hzero hswitched,
      fun _ => ⟨hlow, hhigh, hregion1⟩⟩
  · rw [if_neg hwindow] at hok ⊢
    obtain ⟨hresult, hle⟩ := firstError_none (by decide) hok
    have hvalues := of_decide_eq_false hle
    obtain ⟨-, hregions⟩ := readRegions_accepted channel hswitching
    refine ⟨hresult, ?_, Nat.zero_le 3, fun _ => hregions, fun hswitched => absurd rfl hswitched⟩
    simpa [readRegions] using hvalues

/-! ### All channels -/

/-- The channels of `done` have been read; they are fine unless an error has been found. -/
structure ReadUpTo (mem : Mem) (s : SideinfoState) (done : ℕ → ℕ → Prop) : Prop where
  inByte : ∃ pos, InByte mem s.ptr pos
  accepted : s.result = .none → ∀ gr ch, done gr ch → (s.si.gr gr ch).Accepted

theorem ReadUpTo.readChannel {s : SideinfoState} {done : ℕ → ℕ → Prop} (h : ReadUpTo mem s done)
    (gr ch : ℕ) : ReadUpTo mem (readGranuleChannel mem lsf s gr ch)
      fun gr' ch' => done gr' ch' ∨ gr' = gr ∧ ch' = ch := by
  obtain ⟨pos, hpos⟩ := h.inByte
  refine ⟨⟨_, readChannel_at hpos⟩, ?_⟩
  intro hok gr' ch' hdone
  obtain ⟨hresult, haccepted⟩ := readChannel_accepted hpos hok
  show (Function.update s.si.gr gr (Function.update (s.si.gr gr) ch _) gr' ch').Accepted
  rw [update_channel]
  by_cases hnew : gr' = gr ∧ ch' = ch
  · rw [if_pos hnew]
    exact haccepted
  · rw [if_neg hnew]
    exact h.accepted hresult gr' ch' (hdone.resolve_right hnew)

theorem ReadUpTo.mono {s : SideinfoState} {done done' : ℕ → ℕ → Prop} (h : ReadUpTo mem s done)
    (hle : ∀ gr ch, done' gr ch → done gr ch) : ReadUpTo mem s done' :=
  ⟨h.inByte, fun hok gr ch hdone => h.accepted hok gr ch (hle gr ch hdone)⟩

theorem ReadUpTo.granule {s : SideinfoState} {done : ℕ → ℕ → Prop} (h : ReadUpTo mem s done)
    (gr nch : ℕ) : ReadUpTo mem (readGranule mem lsf nch s gr)
      fun gr' ch' => done gr' ch' ∨ gr' = gr ∧ ch' < nch := by
  rw [readGranule]
  induction nch with
  | zero =>
    apply h.mono
    intro gr' ch' hdone
    exact hdone.resolve_right fun hnone => absurd hnone.2 (Nat.not_lt_zero ch')
  | succ nch ih =>
    rw [List.range_succ, List.foldl_append]
    apply (ih.readChannel gr nch).mono
    intro gr' ch' hdone
    rcases hdone with hold | ⟨hgr, hch⟩
    · exact .inl (.inl hold)
    · rcases Nat.lt_succ_iff_lt_or_eq.mp hch with hlt | heq
      · exact .inl (.inr ⟨hgr, hlt⟩)
      · exact .inr ⟨hgr, heq⟩

theorem sideinfoStart_inByte (h : AtBit mem ptr pos) (nch : ℕ) (lsf : Bool) (si : SideInfo) :
    ∃ pos', InByte mem (sideinfoStart mem ptr nch lsf si).ptr pos' := by
  cases lsf with
  | true =>
    have hfirst : InByte mem (madBitRead mem ptr 8).2 (pos + 8) := h.read 8
    exact ⟨_, hfirst.read (privBitlen true nch)⟩
  | false =>
    have hfirst : InByte mem (madBitRead mem ptr 9).2 (pos + 9) := h.read 9
    exact ⟨_, readScfsi_at (hfirst.read (privBitlen false nch))⟩

/-- **Every channel of accepted side information is fine.** -/
theorem iiiSideinfo_accepted (h : AtBit mem ptr pos) {nch : ℕ} {si : SideInfo}
    (hok : (iiiSideinfo mem ptr nch lsf si).result = .none) {gr ch : ℕ}
    (hgr : gr < if lsf then 1 else 2) (hch : ch < nch) :
    ((iiiSideinfo mem ptr nch lsf si).si.gr gr ch).Accepted := by
  have hgranules : ∀ n, ReadUpTo mem
      ((List.range n).foldl (readGranule mem lsf nch) (sideinfoStart mem ptr nch lsf si))
      fun gr ch => gr < n ∧ ch < nch := by
    intro n
    induction n with
    | zero =>
      exact ⟨sideinfoStart_inByte h nch lsf si, fun _ gr ch hdone =>
        absurd hdone.1 (Nat.not_lt_zero gr)⟩
    | succ n ih =>
      rw [List.range_succ, List.foldl_append]
      apply (ih.granule n nch).mono
      intro gr ch hdone
      rcases Nat.lt_succ_iff_lt_or_eq.mp hdone.1 with hlt | heq
      · exact .inl ⟨hlt, hdone.2⟩
      · exact .inr ⟨heq, hdone.2⟩
  exact (hgranules _).accepted hok gr ch ⟨hgr, hch⟩

end Mp3Decoder
