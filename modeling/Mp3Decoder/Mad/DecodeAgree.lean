import Mp3Decoder.Mad.HeaderFields
import Mp3Decoder.Mad.HuffAgree

/-!
# Main data over different garbage

`III_decode` reads the same bits twice, with side information that agrees as far as `III_sideinfo`
has set it.  `SidesMatch` is what the two have in common after some of the channels: the side
information, and the scalefactors of these channels.  In LSF the right channel of the second granule
holds the illegal positions of the first.
-/

namespace Mp3Decoder

/-! ### The sample rate -/

/-- The sample rates of `decode_header`; MPEG 2.5 is LSF. -/
def MadHeader.ValidRate (header : MadHeader) : Prop :=
  (header.flags.mpeg25Ext = true → header.flags.lsfExt = true) ∧ ∃ index < 3,
    header.samplerate = samplerateOf header.flags.lsfExt header.flags.mpeg25Ext index

/-- A header without an error has one of them, and so has what `decode_header` makes of it
(`decodeHeader_spec`). -/
theorem headerAt_validRate {mem : Mem} {f : ℕ} (hok : headerError mem f = .none) :
    (headerAt mem f).ValidRate := by
  obtain ⟨hmpeg25, hfreq⟩ := headerError_fields hok
  exact ⟨hmpeg25, _, hfreq, rfl⟩

/-- `sfbwidth_table[sfreqi]` -/
def sfbRow (header : MadHeader) : SfbWidths := sfbwidthTable.getD (sfreqIndex header) ⟨[], [], []⟩

/-- The row is there, and one of MPEG-1 for MPEG-1. -/
theorem MadHeader.ValidRate.row {header : MadHeader} (h : header.ValidRate) :
    sfbRow header ∈ sfbwidthTable ∧
      (header.flags.lsfExt = false → sfbRow header ∈ sfbwidthTable.take 3) := by
  obtain ⟨hmpeg25, index, hindex, hrate⟩ := h
  have hrows : ∀ lsf mpeg25 : Bool, (mpeg25 = true → lsf = true) → ∀ index < 3,
      let row := sfreqIndex { samplerate := samplerateOf lsf mpeg25 index
                              flags := { lsfExt := lsf, mpeg25Ext := mpeg25 } }
      row < 9 ∧ (lsf = false → row < 3) := by decide
  obtain ⟨hrow, hrow3⟩ := hrows _ _ hmpeg25 index hindex
  have hsame : sfreqIndex { samplerate := samplerateOf header.flags.lsfExt header.flags.mpeg25Ext index
                            flags := { lsfExt := header.flags.lsfExt
                                       mpeg25Ext := header.flags.mpeg25Ext } } =
      sfreqIndex header := by
    simp only [sfreqIndex, hrate]
  rw [hsame] at hrow hrow3
  have hmem : ∀ row < 9, sfbwidthTable.getD row ⟨[], [], []⟩ ∈ sfbwidthTable ∧
      (row < 3 → sfbwidthTable.getD row ⟨[], [], []⟩ ∈ sfbwidthTable.take 3) := by
    intro row hrow
    have hlength : sfbwidthTable.length = 9 := rfl
    rw [List.getD_eq_getElem?_getD, List.getElem?_eq_getElem (by omega)]
    refine ⟨List.getElem_mem _, ?_⟩
    intro hrow3
    exact List.mem_take_iff_getElem.mpr ⟨row, by omega, rfl⟩
  exact ⟨(hmem _ hrow).1, fun hlsf => (hmem _ hrow).2 (hrow3 hlsf)⟩

/-! ### The side information -/

/-- A channel with other scalefactors, and perhaps with `preflag`. -/
structure Channel.Rescaled (channel channel' : Channel) : Prop where
  eq : channel' = { channel with flags := channel'.flags, scalefac := channel'.scalefac }
  isMixed : channel'.isMixed = channel.isMixed

theorem iiiScalefactors_rescaled (mem : Mem) (ptr : MainPtr) (channel gr0ch : Channel)
    (scfsi : ℕ) : channel.Rescaled (iiiScalefactors mem ptr channel gr0ch scfsi).1 := by
  refine ⟨?_, (iiiScalefactors_lengths mem ptr channel gr0ch scfsi).isMixed⟩
  rw [iiiScalefactors]
  split_ifs
  · rfl
  · rfl

theorem iiiScalefactors_flags (mem : Mem) (ptr : MainPtr) (channel gr0ch : Channel)
    (scfsi : ℕ) : (iiiScalefactors mem ptr channel gr0ch scfsi).1.flags = channel.flags := by
  rw [iiiScalefactors]
  split_ifs
  · rfl
  · rfl

theorem iiiScalefactorsLsf_rescaled (mem : Mem) (ptr : MainPtr) (channel : Channel)
    (gr1ch : Option Channel) (modeExtension : ℕ) :
    channel.Rescaled (iiiScalefactorsLsf mem ptr channel gr1ch modeExtension).1 := by
  refine ⟨?_, (iiiScalefactorsLsf_lengths mem ptr channel gr1ch modeExtension).isMixed⟩
  rw [iiiScalefactorsLsf]
  split_ifs
  · rfl
  · rfl
  · rfl

namespace Channel.Rescaled

variable {channel channel' : Channel} (h : channel.Rescaled channel')
include h

theorem blockType : channel'.blockType = channel.blockType := by rw [h.eq]

theorem accepted (haccepted : channel.Accepted) : channel'.Accepted := by
  rw [h.eq]
  exact ⟨haccepted.bigValues_le, haccepted.blockType_le, haccepted.regions, haccepted.switched⟩

theorem count (lsf : Bool) : scalefacCount lsf channel' = scalefacCount lsf channel := by
  rw [scalefacCount, scalefacCount, nsfbShort, nsfbShort, h.blockType, h.isMixed]

theorem widths (header : MadHeader) : sfbwidthOf header channel' = sfbwidthOf header channel := by
  rw [sfbwidthOf_eq, sfbwidthOf_eq, SfbWidths.select, SfbWidths.select, h.blockType, h.isMixed]

/-- The fields of two channels stay the same. -/
theorem sameInfo {other other' : Channel} (hother : other.Rescaled other')
    (hinfo : channel.SameInfo other) (hflags : channel'.flags = other'.flags) :
    channel'.SameInfo other' := by
  rw [h.eq, hother.eq]
  exact ⟨hinfo.part23Length, hinfo.bigValues, hinfo.globalGain, hinfo.scalefacCompress, hflags,
    hinfo.blockType, hinfo.tableSelect, hinfo.region2, hinfo.subblockGain, hinfo.region0Count,
    hinfo.region1Count⟩

end Channel.Rescaled

/-- The channels that `III_sideinfo` has set are the same in both, and so are the scalefactors of
those that are `done`. -/
structure SidesMatch (header : MadHeader) (nch : ℕ) (done : ℕ → ℕ → Prop) (si si' : SideInfo) :
    Prop where
  scfsi : header.flags.lsfExt = false → ∀ ch < nch, si.scfsi ch = si'.scfsi ch
  info : ∀ gr < ngrOf header, ∀ ch < nch, (si.gr gr ch).SameInfo (si'.gr gr ch)
  accepted : ∀ gr < ngrOf header, ∀ ch < nch, (si.gr gr ch).Accepted
  short : header.flags.lsfExt = false → ∀ gr < ngrOf header, ∀ ch < nch,
    (si.gr gr ch).blockType = 2 → si.scfsi ch = 0
  scalefac : ∀ gr < ngrOf header, ∀ ch < nch, done gr ch →
    AgreeBelow (scalefacCount header.flags.lsfExt (si.gr gr ch)) (si.gr gr ch).scalefac
      (si'.gr gr ch).scalefac
  illegalPos : header.flags.lsfExt = true → header.modeExtension &&& iStereo ≠ 0 → done 0 1 →
    AgreeBelow 39 (si.gr 1 1).scalefac (si'.gr 1 1).scalefac

variable {header : MadHeader} {nch : ℕ} {done : ℕ → ℕ → Prop} {si si' : SideInfo}

theorem SidesMatch.mono {done' : ℕ → ℕ → Prop} (h : SidesMatch header nch done si si')
    (hle : ∀ gr ch, done' gr ch → done gr ch) : SidesMatch header nch done' si si' :=
  ⟨h.scfsi, h.info, h.accepted, h.short,
    fun gr hgr ch hch hdone => h.scalefac gr hgr ch hch (hle gr ch hdone),
    fun hlsf hintensity hdone => h.illegalPos hlsf hintensity (hle 0 1 hdone)⟩

/-- `III_sideinfo` without an error. -/
theorem SidesMatch.start {mem : Mem} {ptr : MadBitptr} {pos : ℕ} (hptr : AtBit mem ptr pos)
    (si si' : SideInfo)
    (hok : (iiiSideinfo mem ptr nch header.flags.lsfExt si).result = .none) :
    SidesMatch header nch (fun _ _ => False) (iiiSideinfo mem ptr nch header.flags.lsfExt si).si
      (iiiSideinfo mem ptr nch header.flags.lsfExt si').si := by
  have hagree := iiiSideinfo_agree mem ptr nch header.flags.lsfExt si si'
  exact ⟨hagree.scfsi, fun gr hgr ch hch => hagree.channels hok gr ch ⟨hgr, hch⟩,
    fun gr hgr ch hch => iiiSideinfo_accepted hptr hok hgr hch,
    fun hlsf gr hgr ch hch => hagree.short hok hlsf gr ch ⟨hgr, hch⟩,
    fun _ _ _ _ hdone => hdone.elim, fun _ _ hdone => hdone.elim⟩

/-! ### Scalefactors -/

/-- Channel `ch` of granule `gr` gets its scalefactors. -/
theorem SidesMatch.channel (h : SidesMatch header nch done si si') {gr ch : ℕ}
    {new new' : SideInfo} (hscfsi : new.scfsi = si.scfsi) (hscfsi' : new'.scfsi = si'.scfsi)
    (hother : ∀ gr' < ngrOf header, ∀ ch', ¬(gr' = gr ∧ ch' = ch) →
      new.gr gr' ch' = si.gr gr' ch' ∧ new'.gr gr' ch' = si'.gr gr' ch')
    (hset : (si.gr gr ch).Rescaled (new.gr gr ch)) (hset' : (si'.gr gr ch).Rescaled (new'.gr gr ch))
    (hflags : (new.gr gr ch).flags = (new'.gr gr ch).flags)
    (hscalefac : AgreeBelow (scalefacCount header.flags.lsfExt (si.gr gr ch))
      (new.gr gr ch).scalefac (new'.gr gr ch).scalefac)
    (hillegal : header.flags.lsfExt = true → header.modeExtension &&& iStereo ≠ 0 →
      (done 0 1 ∨ 0 = gr ∧ 1 = ch) → AgreeBelow 39 (new.gr 1 1).scalefac (new'.gr 1 1).scalefac) :
    SidesMatch header nch (fun gr' ch' => done gr' ch' ∨ gr' = gr ∧ ch' = ch) new new' := by
  refine ⟨?_, ?_, ?_, ?_, ?_, hillegal⟩
  · intro hlsf ch' hch'
    rw [hscfsi, hscfsi']
    exact h.scfsi hlsf ch' hch'
  · intro gr' hgr' ch' hch'
    have hinfo := h.info gr' hgr' ch' hch'
    by_cases hnew : gr' = gr ∧ ch' = ch
    · rw [hnew.1, hnew.2] at hinfo ⊢
      exact hset.sameInfo hset' hinfo hflags
    · rw [(hother gr' hgr' ch' hnew).1, (hother gr' hgr' ch' hnew).2]
      exact hinfo
  · intro gr' hgr' ch' hch'
    have haccepted := h.accepted gr' hgr' ch' hch'
    by_cases hnew : gr' = gr ∧ ch' = ch
    · rw [hnew.1, hnew.2] at haccepted ⊢
      exact hset.accepted haccepted
    · rw [(hother gr' hgr' ch' hnew).1]
      exact haccepted
  · intro hlsf gr' hgr' ch' hch' htype
    rw [hscfsi]
    apply h.short hlsf gr' hgr' ch' hch'
    by_cases hnew : gr' = gr ∧ ch' = ch
    · rw [hnew.1, hnew.2] at htype ⊢
      rw [← hset.blockType]
      exact htype
    · rw [(hother gr' hgr' ch' hnew).1] at htype
      exact htype
  · intro gr' hgr' ch' hch' hdone
    by_cases hnew : gr' = gr ∧ ch' = ch
    · rw [hnew.1, hnew.2, hset.count]
      exact hscalefac
    · rw [(hother gr' hgr' ch' hnew).1, (hother gr' hgr' ch' hnew).2]
      exact h.scalefac gr' hgr' ch' hch' (hdone.resolve_right hnew)

/-- What `decode_scalefactors` leaves of the side information in LSF. -/
theorem decodeScalefactors_lsf (mem : Mem) (hlsf : header.flags.lsfExt = true) (ptr : MainPtr)
    (si : SideInfo) (ch : ℕ) :
    let r := iiiScalefactorsLsf mem ptr (si.gr 0 ch) (gr1chOf si ch) header.modeExtension
    let d := decodeScalefactors mem header ptr si 0 ch
    d.1.scfsi = si.scfsi ∧ (∀ ch', d.1.gr 0 ch' = if ch' = ch then r.1 else si.gr 0 ch') ∧
      d.1.gr 1 1 = r.2.1.getD (si.gr 1 1) ∧ d.2 = r.2.2 := by
  simp only [decodeScalefactors, if_pos hlsf]
  cases (iiiScalefactorsLsf mem ptr (si.gr 0 ch) (gr1chOf si ch) header.modeExtension).2.1 with
  | none =>
    refine ⟨rfl, ?_, ?_, trivial⟩
    · intro ch'
      simp only [Option.elim_none, setChannel_gr, true_and]
    · simp only [Option.elim_none, setChannel_gr, Nat.one_ne_zero, false_and, if_false,
        Option.getD_none]
  | some gr1ch =>
    refine ⟨rfl, ?_, ?_, trivial⟩
    · intro ch'
      simp only [Option.elim_some, setChannel_gr, Nat.zero_ne_one, false_and, if_false, true_and]
    · simp only [Option.elim_some, setChannel_gr, and_self, if_true, Option.getD_some]

/-- There is a `gr1ch` behind when there was one before. -/
theorem iiiScalefactorsLsf_isSome (mem : Mem) (ptr : MainPtr) (channel : Channel)
    (gr1ch : Option Channel) (modeExtension : ℕ) :
    (iiiScalefactorsLsf mem ptr channel gr1ch modeExtension).2.1.isSome = gr1ch.isSome := by
  by_cases hintensity : isIntensity modeExtension gr1ch = true
  · simp only [iiiScalefactorsLsf, if_pos hintensity, Option.isSome_map]
  · simp only [iiiScalefactorsLsf, if_neg hintensity]

theorem SidesMatch.lsfScalefactors (h : SidesMatch header nch done si si') (mem : Mem)
    (hlsf : header.flags.lsfExt = true) {ptr ptr' : MainPtr} (hptr : ptr.bits = ptr'.bits) {ch : ℕ}
    (hgr : 0 < ngrOf header) (hch : ch < nch) :
    let d := Mp3Decoder.decodeScalefactors mem header ptr si 0 ch
    let d' := Mp3Decoder.decodeScalefactors mem header ptr' si' 0 ch
    SidesMatch header nch (fun gr' ch' => done gr' ch' ∨ gr' = 0 ∧ ch' = ch) d.1 d'.1 ∧
      d.2.bits = d'.2.bits ∧ (si.gr 0 ch).Rescaled (d.1.gr 0 ch) := by
  have hinfo := h.info 0 hgr ch hch
  have hone : ∀ gr' < ngrOf header, gr' = 0 := by
    intro gr' hgr'
    rw [ngrOf, if_pos hlsf] at hgr'
    omega
  obtain ⟨hscfsi, hrow, hgr1, hbits⟩ := decodeScalefactors_lsf mem hlsf ptr si ch
  obtain ⟨hscfsi', hrow', hgr1', hbits'⟩ := decodeScalefactors_lsf mem hlsf ptr' si' ch
  have hset := iiiScalefactorsLsf_rescaled mem ptr (si.gr 0 ch) (gr1chOf si ch)
    header.modeExtension
  have hset' := iiiScalefactorsLsf_rescaled mem ptr' (si'.gr 0 ch) (gr1chOf si' ch)
    header.modeExtension
  have hsome : (gr1chOf si ch).isSome = (gr1chOf si' ch).isSome := by
    rw [gr1chOf, gr1chOf]
    split_ifs
    · rfl
    · rfl
  obtain ⟨hscalefac, hflags, hend, hillegal⟩ := iiiScalefactorsLsf_agree mem
    header.modeExtension hinfo hptr hsome
  have hisSome := iiiScalefactorsLsf_isSome mem ptr (si.gr 0 ch) (gr1chOf si ch)
    header.modeExtension
  have hisSome' := iiiScalefactorsLsf_isSome mem ptr' (si'.gr 0 ch) (gr1chOf si' ch)
    header.modeExtension
  generalize iiiScalefactorsLsf mem ptr (si.gr 0 ch) (gr1chOf si ch) header.modeExtension = r at *
  generalize iiiScalefactorsLsf mem ptr' (si'.gr 0 ch) (gr1chOf si' ch) header.modeExtension = r'
    at *
  have hchannel : (Mp3Decoder.decodeScalefactors mem header ptr si 0 ch).1.gr 0 ch = r.1 := by
    rw [hrow, if_pos rfl]
  have hchannel' : (Mp3Decoder.decodeScalefactors mem header ptr' si' 0 ch).1.gr 0 ch = r'.1 := by
    rw [hrow', if_pos rfl]
  refine ⟨?_, by rw [hbits, hbits', hend], by rw [hchannel]; exact hset⟩
  apply h.channel hscfsi hscfsi'
  · intro gr' hgr' ch' hother
    rw [hone gr' hgr'] at hother ⊢
    rw [hrow, hrow', if_neg fun heq => hother ⟨rfl, heq⟩, if_neg fun heq => hother ⟨rfl, heq⟩]
    exact ⟨rfl, rfl⟩
  · rw [hchannel]
    exact hset
  · rw [hchannel']
    exact hset'
  · rw [hchannel, hchannel']
    exact hflags
  · rw [hchannel, hchannel', scalefacCount, if_pos hlsf]
    exact hscalefac
  · intro _ hintensity hdone
    rw [hgr1, hgr1']
    by_cases hleft : ch = 0
    · -- the left channel leaves the illegal positions alone
      have hnone : ∀ si, gr1chOf si ch = none := fun si => if_pos hleft
      rw [hnone, Option.isSome_none] at hisSome hisSome'
      have hr : r.2.1 = none := Option.isSome_eq_false_iff.mp hisSome |> Option.isNone_iff_eq_none.mp
      have hr' : r'.2.1 = none :=
        Option.isSome_eq_false_iff.mp hisSome' |> Option.isNone_iff_eq_none.mp
      rw [hr, hr', Option.getD_none, Option.getD_none]
      exact h.illegalPos hlsf hintensity (hdone.resolve_right fun hnew => by omega)
    · have hright : ∀ si, gr1chOf si ch = some (si.gr 1 1) := fun si => if_neg hleft
      rw [hright, Option.isSome_some] at hisSome hisSome'
      obtain ⟨g, hg⟩ := Option.isSome_iff_exists.mp hisSome
      obtain ⟨g', hg'⟩ := Option.isSome_iff_exists.mp hisSome'
      rw [hg, hg', Option.getD_some, Option.getD_some]
      apply hillegal _ g g' hg hg'
      rw [isIntensity, hright]
      exact decide_eq_true ⟨hintensity, rfl⟩

theorem SidesMatch.mpeg1Scalefactors (h : SidesMatch header nch done si si') (mem : Mem)
    (hlsf : header.flags.lsfExt = false) {ptr ptr' : MainPtr} (hptr : ptr.bits = ptr'.bits)
    {gr ch : ℕ} (hgr : gr < ngrOf header) (hch : ch < nch) (hfirst : gr ≠ 0 → done 0 ch) :
    let d := Mp3Decoder.decodeScalefactors mem header ptr si gr ch
    let d' := Mp3Decoder.decodeScalefactors mem header ptr' si' gr ch
    SidesMatch header nch (fun gr' ch' => done gr' ch' ∨ gr' = gr ∧ ch' = ch) d.1 d'.1 ∧
      d.2.bits = d'.2.bits ∧ (si.gr gr ch).Rescaled (d.1.gr gr ch) := by
  have hinfo := h.info gr hgr ch hch
  have hmpeg1 : ¬header.flags.lsfExt = true := by
    rw [hlsf]
    exact Bool.false_ne_true
  obtain ⟨scfsi, hscfsi⟩ : ∃ scfsi, scfsi = if gr = 0 then 0 else si.scfsi ch := ⟨_, rfl⟩
  have hscfsi' : scfsi = if gr = 0 then 0 else si'.scfsi ch := by
    rw [hscfsi, h.scfsi hlsf ch hch]
  simp only [Mp3Decoder.decodeScalefactors, if_neg hmpeg1, ← hscfsi, ← hscfsi']
  have hgr0 : scfsi ≠ 0 → AgreeBelow 21 (si.gr 0 ch).scalefac (si'.gr 0 ch).scalefac := by
    intro hcopied
    have hsecond : gr ≠ 0 := fun hzero => hcopied (hscfsi.trans (if_pos hzero))
    rw [hscfsi, if_neg hsecond] at hcopied
    have hpos : 0 < ngrOf header := by omega
    have hagree := h.scalefac 0 hpos ch hch (hfirst hsecond)
    have hlong : (si.gr 0 ch).blockType ≠ 2 := fun hshort =>
      hcopied (h.short hlsf 0 hpos ch hch hshort)
    rw [scalefacCount, if_neg hmpeg1, if_neg hlong] at hagree
    exact hagree.mono (by omega)
  obtain ⟨hscalefac, hbits⟩ := iiiScalefactors_agree mem hinfo hptr hgr0
  have hset := iiiScalefactors_rescaled mem ptr (si.gr gr ch) (si.gr 0 ch) scfsi
  have hset' := iiiScalefactors_rescaled mem ptr' (si'.gr gr ch) (si'.gr 0 ch) scfsi
  have hflags := iiiScalefactors_flags mem ptr (si.gr gr ch) (si.gr 0 ch) scfsi
  have hflags' := iiiScalefactors_flags mem ptr' (si'.gr gr ch) (si'.gr 0 ch) scfsi
  have hself : ∀ (si : SideInfo) channel, (si.setChannel gr ch channel).gr gr ch = channel :=
    fun si channel => (setChannel_gr si gr ch channel gr ch).trans (if_pos ⟨rfl, rfl⟩)
  have hkeep : ∀ (si : SideInfo) channel, (si.setChannel gr ch channel).scfsi = si.scfsi :=
    fun _ _ => rfl
  refine ⟨?_, hbits, by rw [hself]; exact hset⟩
  apply h.channel (hkeep si _) (hkeep si' _)
  · intro gr' _ ch' hother
    rw [setChannel_gr, setChannel_gr, if_neg hother, if_neg hother]
    exact ⟨rfl, rfl⟩
  · rw [hself]
    exact hset
  · rw [hself]
    exact hset'
  · rw [hself, hself, hflags, hflags', hinfo.flags]
  · rw [hself, hself, hlsf]
    exact hscalefac
  · intro hyes
    exact absurd hyes hmpeg1

/-- **The scalefactors of one channel.**  Those of granule 0 have been read before they are copied. -/
theorem SidesMatch.decodeScalefactors (h : SidesMatch header nch done si si') (mem : Mem)
    {ptr ptr' : MainPtr} (hptr : ptr.bits = ptr'.bits) {gr ch : ℕ} (hgr : gr < ngrOf header)
    (hch : ch < nch) (hfirst : gr ≠ 0 → done 0 ch) :
    let d := Mp3Decoder.decodeScalefactors mem header ptr si gr ch
    let d' := Mp3Decoder.decodeScalefactors mem header ptr' si' gr ch
    SidesMatch header nch (fun gr' ch' => done gr' ch' ∨ gr' = gr ∧ ch' = ch) d.1 d'.1 ∧
      d.2.bits = d'.2.bits ∧ (si.gr gr ch).Rescaled (d.1.gr gr ch) := by
  cases hlsf : header.flags.lsfExt with
  | true =>
    have hgr0 : gr = 0 := by
      rw [ngrOf, if_pos hlsf] at hgr
      omega
    rw [hgr0] at hgr ⊢
    exact h.lsfScalefactors mem hlsf hptr hgr hch
  | false => exact h.mpeg1Scalefactors mem hlsf hptr hgr hch hfirst

/-! ### Channels and granules -/

/-- Two runs have decoded the channels that are `done`. -/
structure DecodeMatch (mem : Mem) (header : MadHeader) (nch : ℕ) (done : ℕ → ℕ → Prop)
    (s s' : DecodeState) : Prop where
  error : s.error = s'.error
  bits : s.ptr.bits = s'.ptr.bits
  at_bit : ∃ pos, AtBit mem s.ptr.bits pos
  sides : s.error = .none → SidesMatch header nch done s.si s'.si
  lines : s.error = .none → ∀ gr < ngrOf header, ∀ ch < nch, done gr ch →
    AgreeBelow 576 (s.xr gr ch) (s'.xr gr ch)

variable {mem : Mem} {s s' : DecodeState}

theorem DecodeMatch.mono {done' : ℕ → ℕ → Prop} (h : DecodeMatch mem header nch done s s')
    (hle : ∀ gr ch, done' gr ch → done gr ch) : DecodeMatch mem header nch done' s s' :=
  ⟨h.error, h.bits, h.at_bit, fun hok => (h.sides hok).mono hle,
    fun hok gr hgr ch hch hdone => h.lines hok gr hgr ch hch (hle gr ch hdone)⟩

/-- The same bands in both. -/
theorem SidesMatch.widths (h : SidesMatch header nch done si si') {gr ch : ℕ}
    (hgr : gr < ngrOf header) (hch : ch < nch) :
    sfbwidthOf header (si.gr gr ch) = sfbwidthOf header (si'.gr gr ch) := by
  have hinfo := h.info gr hgr ch hch
  rw [sfbwidthOf_eq, sfbwidthOf_eq, SfbWidths.select, SfbWidths.select, hinfo.blockType,
    hinfo.isMixed]

theorem update_lines (f : ℕ → ℕ → ℕ → ℤ) (gr ch : ℕ) (xr : ℕ → ℤ) (gr' ch' : ℕ) :
    Function.update f gr (Function.update (f gr) ch xr) gr' ch' =
      if gr' = gr ∧ ch' = ch then xr else f gr' ch' := by
  by_cases hgr : gr' = gr
  · rw [hgr, Function.update_self, Function.update_apply]
    simp only [true_and]
  · rw [Function.update_of_ne hgr, if_neg fun hboth => hgr hboth.1]

/-- **One channel** of a granule -/
theorem DecodeMatch.part (requantize : ℕ → ℤ → ℤ) (hrate : header.ValidRate)
    (h : DecodeMatch mem header nch done s s') (stack stack' : Stack) {gr ch : ℕ}
    (hgr : gr < ngrOf header) (hch : ch < nch) (hfirst : gr ≠ 0 → done 0 ch) :
    DecodeMatch mem header nch (fun gr' ch' => done gr' ch' ∨ gr' = gr ∧ ch' = ch)
      (decodePart requantize mem header stack gr s ch)
      (decodePart requantize mem header stack' gr s' ch) := by
  simp only [decodePart, ← h.error]
  by_cases herror : s.error ≠ .none
  · rw [if_pos herror, if_pos herror]
    exact ⟨h.error, h.bits, h.at_bit, fun hok => absurd hok herror, fun hok => absurd hok herror⟩
  rw [if_neg herror, if_neg herror]
  rw [not_not] at herror
  have hsides := h.sides herror
  obtain ⟨pos, hpos⟩ := h.at_bit
  obtain ⟨hscale, hbits, hset⟩ := hsides.decodeScalefactors mem h.bits hgr hch hfirst
  -- the pointer behind the scalefactors
  obtain ⟨hi, hle, hcursor⟩ := exists_cursor hpos (pos + part2Of header s.si gr ch)
  have hbehind := (decodeScalefactors_cursor hcursor s.si gr ch hle).at_pos
  have hwidths := hset.widths header
  rw [← hsides.widths hgr hch, ← h.bits, ← hbits]
  generalize Mp3Decoder.decodeScalefactors mem header s.ptr s.si gr ch = scale at *
  generalize Mp3Decoder.decodeScalefactors mem header s'.ptr s'.si gr ch = scale' at *
  -- the bands of the channel
  obtain ⟨hrow, hrow3⟩ := hrate.row
  have hselect : sfbwidthOf header (s.si.gr gr ch) =
      (sfbRow header).select (scale.1.gr gr ch) := hwidths.symm
  obtain ⟨hw, hlength, -⟩ := exponentsAccesses_inBounds hrow (scale.1.gr gr ch) (le_refl 2)
  have hset' := bandsSet hrow hrow3 (scale.1.gr gr ch)
  rw [hselect]
  have hchannel : (scale.1.gr gr ch).SameExponents
      (scalefacCount header.flags.lsfExt (scale.1.gr gr ch)) (scale'.1.gr gr ch) :=
    ⟨hscale.info gr hgr ch hch, hscale.scalefac gr hgr ch hch (.inr ⟨rfl, rfl⟩)⟩
  obtain ⟨herror', hend, hat, hlines⟩ := iiiHuffdecode_agree requantize hbehind hbits hchannel
    (hscale.accepted gr hgr ch hch) hw hlength hset'.bands hset'.count
    (madBitLength s.ptr.bits scale.2.bits) (stack.xr gr ch) (stack'.xr gr ch)
    (stack.exponents gr ch) (stack'.exponents gr ch)
  refine ⟨herror', hend, hat, fun _ => hscale, ?_⟩
  intro hok gr' hgr' ch' hch' hdone
  simp only [update_lines]
  by_cases hnew : gr' = gr ∧ ch' = ch
  · rw [if_pos hnew, if_pos hnew]
    exact hlines hok
  · rw [if_neg hnew, if_neg hnew]
    exact h.lines herror gr' hgr' ch' hch' (hdone.resolve_right hnew)

/-- The channels of the granules before `gr`, and the first `n` of granule `gr`. -/
def doneBefore (nch gr n : ℕ) (gr' ch' : ℕ) : Prop := gr' < gr ∧ ch' < nch ∨ gr' = gr ∧ ch' < n

theorem DecodeMatch.channels (requantize : ℕ → ℤ → ℤ) (hrate : header.ValidRate) {gr : ℕ}
    (h : DecodeMatch mem header nch (doneBefore nch gr 0) s s') (stack stack' : Stack)
    (hgr : gr < ngrOf header) : ∀ n ≤ nch, DecodeMatch mem header nch (doneBefore nch gr n)
      ((List.range n).foldl (decodePart requantize mem header stack gr) s)
      ((List.range n).foldl (decodePart requantize mem header stack' gr) s') := by
  intro n
  induction n with
  | zero =>
    intro _
    exact h
  | succ n ih =>
    intro hn
    rw [List.range_succ, List.foldl_append, List.foldl_append]
    have hfirst : gr ≠ 0 → doneBefore nch gr n 0 n := fun hsecond => .inl ⟨by omega, hn⟩
    apply ((ih (by omega)).part requantize hrate stack stack' hgr hn hfirst).mono
    intro gr' ch' hdone
    rcases hdone with hbefore | ⟨heq, hlt⟩
    · exact .inl (.inl hbefore)
    · rcases Nat.lt_succ_iff_lt_or_eq.mp hlt with hless | hlast
      · exact .inl (.inr ⟨heq, hless⟩)
      · exact .inr ⟨heq, hlast⟩

/-- Joint stereo has two channels. -/
theorem two_channels (hnch : nch = madNchannels header) (hmode : header.mode = 2) : nch = 2 := by
  rw [hnch, madNchannels, hmode]
  rfl

/-- **One granule** -/
theorem DecodeMatch.granule (requantize : ℕ → ℤ → ℤ) (hrate : header.ValidRate)
    (hnch : nch = madNchannels header) {gr : ℕ}
    (h : DecodeMatch mem header nch (doneBefore nch gr 0) s s') (stack stack' : Stack)
    (hgr : gr < ngrOf header) : DecodeMatch mem header nch (doneBefore nch (gr + 1) 0)
      (decodeGranule requantize mem header stack nch s gr)
      (decodeGranule requantize mem header stack' nch s' gr) := by
  have hnext : ∀ gr' ch', doneBefore nch (gr + 1) 0 gr' ch' → doneBefore nch gr nch gr' ch' := by
    intro gr' ch' hdone
    rcases hdone with ⟨hlt, hch⟩ | ⟨-, hnone⟩
    · rcases Nat.lt_succ_iff_lt_or_eq.mp hlt with hless | heq
      · exact .inl ⟨hless, hch⟩
      · exact .inr ⟨heq, hch⟩
    · exact absurd hnone (Nat.not_lt_zero ch')
  have hchannels :=
    (h.channels requantize hrate stack stack' hgr nch (Nat.le_refl nch)).mono hnext
  rw [decodeGranule, decodeGranule]
  generalize (List.range nch).foldl (decodePart requantize mem header stack gr) s = t at *
  generalize (List.range nch).foldl (decodePart requantize mem header stack' gr) s' = t' at *
  have hbad : t.error = .none → header.mode = 2 → badStereo t.si gr = badStereo t'.si gr := by
    intro hok hmode
    have htwo := two_channels hnch hmode
    have hleft := (hchannels.sides hok).info gr hgr 0 (by omega)
    have hright := (hchannels.sides hok).info gr hgr 1 (by omega)
    rw [badStereo, badStereo, hleft.blockType, hright.blockType, hleft.isMixed, hright.isMixed]
  by_cases hstop : t.error = .none ∧ header.mode = 2 ∧ header.modeExtension ≠ 0 ∧
      badStereo t.si gr
  · obtain ⟨hok, hmode, hextension, hstereo⟩ := hstop
    rw [if_pos ⟨hok, hmode, hextension, hstereo⟩,
      if_pos ⟨hchannels.error ▸ hok, hmode, hextension, hbad hok hmode ▸ hstereo⟩]
    have hbadstereo : MadError.badstereo ≠ .none := by decide
    exact ⟨rfl, hchannels.bits, hchannels.at_bit, fun hnone => absurd hnone hbadstereo,
      fun hnone => absurd hnone hbadstereo⟩
  · rw [if_neg hstop, if_neg fun hstop' => hstop ?_]
    · exact hchannels
    · obtain ⟨hok, hmode, hextension, hstereo⟩ := hstop'
      rw [← hchannels.error] at hok
      exact ⟨hok, hmode, hextension, (hbad hok hmode).symm ▸ hstereo⟩

end Mp3Decoder
