import Mp3Decoder.Mad.HuffEncode
import Mp3Decoder.Mad.ScalefactorsEncode

/-!
# Writing the main data

A frame is its side information, with the scalefactors in the channels, and the code words of each
channel.  Its parts stand one behind the other, as `III_decode` reads them, and `III_decode` finds
every line of what has been written.
-/

namespace Mp3Decoder

open BigEndianBits

/-- What is written in a frame -/
structure FrameContent where
  si : SideInfo
  words : ℕ → ℕ → CodeWords

/-- The right channel of intensity stereo has positions, which are shorter. -/
def intensityAt (header : MadHeader) (si : SideInfo) (ch : ℕ) : Bool :=
  isIntensity header.modeExtension (gr1chOf si ch)

/-- `scfsi` is about granule 1. -/
def scfsiAt (si : SideInfo) (gr ch : ℕ) : ℕ := if gr = 0 then 0 else si.scfsi ch

def scaleBits (header : MadHeader) (si : SideInfo) (gr ch : ℕ) : List Bool :=
  if header.flags.lsfExt then lsfBits (si.gr gr ch) (intensityAt header si ch)
  else mpeg1Bits (si.gr gr ch) (scfsiAt si gr ch)

def ScaleFits (header : MadHeader) (si : SideInfo) (gr ch : ℕ) : Prop :=
  if header.flags.lsfExt then LsfFits (si.gr gr ch) (intensityAt header si ch)
  else Mpeg1Fits (si.gr gr ch) (si.gr 0 ch) (scfsiAt si gr ch)

namespace FrameContent

variable (c : FrameContent) (header : MadHeader)

/-- The channel behind its scalefactors -/
def scaled (gr ch : ℕ) : Channel :=
  (c.si.gr gr ch).scaled header.flags.lsfExt (intensityAt header c.si ch)

def widths (gr ch : ℕ) : List ℕ := sfbwidthOf header (c.si.gr gr ch)

def wordBits (gr ch : ℕ) : List Bool :=
  ((c.words gr ch).bits madHuffTables (c.scaled header gr ch) (c.widths header gr ch)).getD []

/-- The part of a channel -/
def partBits (gr ch : ℕ) : List Bool := scaleBits header c.si gr ch ++ c.wordBits header gr ch

/-- The first `n` channels of a granule -/
def granuleBits (gr n : ℕ) : List Bool := (List.range n).flatMap (c.partBits header gr)

/-- The first `n` granules -/
def mainBits (nch n : ℕ) : List Bool := (List.range n).flatMap fun gr => c.granuleBits header gr nch

/-- Line `i` of a channel: its value, requantized by the exponent of its band -/
def line (requantize : ℕ → ℤ → ℤ) (gr ch i : ℕ) : ℤ :=
  requantized requantize ((c.words gr ch).values.getD i 0)
    (iiiExponents (c.scaled header gr ch) (c.widths header gr ch) (fun _ => 0)
      (bandOf (c.widths header gr ch) i))

/-- One channel can be written. -/
structure ChannelFits (gr ch : ℕ) : Prop where
  scale : ScaleFits header c.si gr ch
  words : (c.words gr ch).Fits (c.scaled header gr ch) (c.widths header gr ch)
  part23Length : (c.si.gr gr ch).part23Length = (c.partBits header gr ch).length

/-- All of the frame can be written, and its joint stereo is not rejected. -/
structure Fits (nch : ℕ) : Prop where
  info : c.si.FitsFields header.flags.lsfExt nch
  channels : ∀ gr < ngrOf header, ∀ ch < nch, c.ChannelFits header gr ch
  stereo : header.mode = 2 → header.modeExtension ≠ 0 → ∀ gr < ngrOf header,
    badStereo c.si gr = false

end FrameContent

theorem Channel.FitsFields.accepted {lsf : Bool} {scfsi : ℕ} {channel : Channel}
    (h : channel.FitsFields lsf scfsi) : channel.Accepted where
  bigValues_le := h.bigValues
  blockType_le := Nat.le_of_lt_succ h.blockType
  regions hplain := by
    obtain ⟨-, -, hregion0, hregion1⟩ := h.regions hplain
    omega
  switched hswitched := by
    obtain ⟨hregion1, hregion0, -⟩ := h.window hswitched
    rw [hregion0]
    split_ifs <;> omega

/-- `preflag` is another bit. -/
theorem scaled_rescaled (channel : Channel) (lsf intensity : Bool) :
    channel.Rescaled (channel.scaled lsf intensity) := by
  rw [Channel.scaled]
  split_ifs
  · refine ⟨rfl, ?_⟩
    have hother : preflag &&& mixedBlockFlag = 0 := by decide
    simp only [Channel.isMixed]
    rw [Nat.and_or_distrib_right, hother, Nat.or_zero]
  · exact ⟨rfl, rfl⟩

theorem scaled_scalefac (channel : Channel) (lsf intensity : Bool) :
    (channel.scaled lsf intensity).scalefac = channel.scalefac := by
  rw [Channel.scaled]
  split_ifs <;> rfl

theorem scaled_mpeg1 (channel : Channel) (intensity : Bool) :
    channel.scaled false intensity = channel := if_neg fun hlsf => Bool.false_ne_true hlsf.1

/-! ### One channel -/

section
variable {mem : Mem} {header : MadHeader} {c : FrameContent} {nch : ℕ} {done : ℕ → ℕ → Prop}

/-- What `III_decode` has found: the scalefactors of the channels that are done, and the side
information of all. -/
structure ContentFound (header : MadHeader) (c : FrameContent) (nch : ℕ) (done : ℕ → ℕ → Prop)
    (si : SideInfo) : Prop where
  scfsi : header.flags.lsfExt = false → ∀ ch < nch, si.scfsi ch = c.si.scfsi ch
  todo : ∀ gr < ngrOf header, ∀ ch < nch, ¬done gr ch → (si.gr gr ch).SameInfo (c.si.gr gr ch)
  scaled : ∀ gr < ngrOf header, ∀ ch < nch, done gr ch →
    (si.gr gr ch).SameExponents (scalefacCount header.flags.lsfExt (c.si.gr gr ch))
      (c.scaled header gr ch)

theorem intensityAt_found (header : MadHeader) (si si' : SideInfo) (ch : ℕ) :
    intensityAt header si ch = intensityAt header si' ch := by
  rw [intensityAt, intensityAt, isIntensity, isIntensity, gr1chOf, gr1chOf]
  split_ifs <;> rfl

/-- Channel `ch` of granule `gr` has got its scalefactors. -/
theorem ContentFound.channel {si new : SideInfo} (h : ContentFound header c nch done si)
    {gr ch : ℕ} (hscfsi : new.scfsi = si.scfsi)
    (hothers : ∀ gr' < ngrOf header, ∀ ch', ¬(gr' = gr ∧ ch' = ch) →
      new.gr gr' ch' = si.gr gr' ch')
    (hset : (new.gr gr ch).SameExponents (scalefacCount header.flags.lsfExt (c.si.gr gr ch))
      (c.scaled header gr ch)) :
    ContentFound header c nch (fun gr' ch' => done gr' ch' ∨ gr' = gr ∧ ch' = ch) new := by
  refine ⟨fun hmpeg1 ch' hch' => ?_, ?_, ?_⟩
  · rw [hscfsi]
    exact h.scfsi hmpeg1 ch' hch'
  · intro gr' hgr' ch' hch' hnot
    rw [not_or] at hnot
    rw [hothers gr' hgr' ch' hnot.2]
    exact h.todo gr' hgr' ch' hch' hnot.1
  · intro gr' hgr' ch' hch' hdone
    by_cases hnew : gr' = gr ∧ ch' = ch
    · rw [hnew.1, hnew.2]
      exact hset
    · rw [hothers gr' hgr' ch' hnew]
      exact h.scaled gr' hgr' ch' hch' (hdone.resolve_right hnew)

theorem ContentFound.lsfScalefactors {si : SideInfo} (h : ContentFound header c nch done si)
    (hlsf : header.flags.lsfExt = true) {ch : ℕ} (hgr : 0 < ngrOf header) (hch : ch < nch)
    (hnot : ¬done 0 ch) (hfits : c.ChannelFits header 0 ch) {ptr : MainPtr} {pos : ℕ}
    (hpos : AtBit mem ptr.bits pos) (hwritten : Spells mem pos (scaleBits header c.si 0 ch)) :
    let d := decodeScalefactors mem header ptr si 0 ch
    ContentFound header c nch (fun gr' ch' => done gr' ch' ∨ gr' = 0 ∧ ch' = ch) d.1 ∧
      AtBit mem d.2.bits (pos + (scaleBits header c.si 0 ch).length) := by
  have hscale := hfits.scale
  have hintensity : isIntensity header.modeExtension (gr1chOf si ch) = intensityAt header c.si ch :=
    intensityAt_found header si c.si ch
  rw [scaleBits, if_pos hlsf] at hwritten ⊢
  rw [ScaleFits, if_pos hlsf] at hscale
  rw [← hintensity] at hwritten hscale ⊢
  have hinfo := h.todo 0 hgr ch hch hnot
  obtain ⟨hscfsi, hrow, -, hbits⟩ := decodeScalefactors_lsf mem hlsf ptr si ch
  obtain ⟨hagree, hflags, hat⟩ := iiiScalefactorsLsf_written hpos hinfo hscale hwritten
  have hset := iiiScalefactorsLsf_rescaled mem ptr (si.gr 0 ch) (gr1chOf si ch)
    header.modeExtension
  simp only [hbits]
  refine ⟨h.channel hscfsi ?_ ?_, hat⟩
  · intro gr' hgr' ch' hother
    have hzero : gr' = 0 := by
      rw [ngrOf, if_pos hlsf] at hgr'
      omega
    rw [hzero] at hother ⊢
    rw [hrow, if_neg fun hsame => hother ⟨rfl, hsame⟩]
  · have hscaled : c.scaled header 0 ch =
        (c.si.gr 0 ch).scaled true (isIntensity header.modeExtension (gr1chOf si ch)) := by
      rw [FrameContent.scaled, hlsf, hintensity]
    rw [hrow, if_pos rfl, hscaled, scalefacCount, if_pos hlsf]
    refine ⟨hset.sameInfo (scaled_rescaled _ _ _) hinfo hflags, ?_⟩
    rw [scaled_scalefac]
    exact hagree

theorem ContentFound.mpeg1Scalefactors {si : SideInfo} (h : ContentFound header c nch done si)
    (hmpeg1 : header.flags.lsfExt = false) (hinfo : c.si.FitsFields header.flags.lsfExt nch)
    {gr ch : ℕ} (hgr : gr < ngrOf header) (hch : ch < nch) (hnot : ¬done gr ch)
    (hfirst : gr ≠ 0 → done 0 ch) (hfits : c.ChannelFits header gr ch) {ptr : MainPtr} {pos : ℕ}
    (hpos : AtBit mem ptr.bits pos) (hwritten : Spells mem pos (scaleBits header c.si gr ch)) :
    let d := decodeScalefactors mem header ptr si gr ch
    ContentFound header c nch (fun gr' ch' => done gr' ch' ∨ gr' = gr ∧ ch' = ch) d.1 ∧
      AtBit mem d.2.bits (pos + (scaleBits header c.si gr ch).length) := by
  have hscale := hfits.scale
  have hneg : ¬header.flags.lsfExt = true := by
    rw [hmpeg1]
    exact Bool.false_ne_true
  rw [scaleBits, if_neg hneg] at hwritten ⊢
  rw [ScaleFits, if_neg hneg] at hscale
  have hscfsi : (if gr = 0 then 0 else si.scfsi ch) = scfsiAt c.si gr ch := by
    rw [scfsiAt, h.scfsi hmpeg1 ch hch]
  -- the scalefactors of granule 0 that are copied
  have hgr0 : scfsiAt c.si gr ch ≠ 0 →
      AgreeBelow 21 (si.gr 0 ch).scalefac (c.si.gr 0 ch).scalefac := by
    intro hcopied
    have hsecond : gr ≠ 0 := fun hzero => hcopied (if_pos hzero)
    rw [scfsiAt, if_neg hsecond] at hcopied
    have hpos : 0 < ngrOf header := by omega
    have hchannel : (0, ch) ∈ frameChannels header.flags.lsfExt nch :=
      mem_frameChannels.mpr ⟨hpos, hch⟩
    have hlong : (c.si.gr 0 ch).blockType ≠ 2 := fun hshort =>
      hcopied ((hinfo.channels (0, ch) hchannel).scfsi_eq hmpeg1 hshort)
    have hagree := (h.scaled 0 hpos ch hch (hfirst hsecond)).scalefac
    rw [FrameContent.scaled, scaled_scalefac, scalefacCount, if_neg hneg, if_neg hlong] at hagree
    exact hagree.mono (by decide)
  obtain ⟨hagree, hat⟩ :=
    iiiScalefactors_written hpos (h.todo gr hgr ch hch hnot) hscale hgr0 hwritten
  have hset := iiiScalefactors_rescaled mem ptr (si.gr gr ch) (si.gr 0 ch) (scfsiAt c.si gr ch)
  have hflags := iiiScalefactors_flags mem ptr (si.gr gr ch) (si.gr 0 ch) (scfsiAt c.si gr ch)
  simp only [decodeScalefactors, if_neg hneg, hscfsi]
  refine ⟨h.channel rfl ?_ ?_, hat⟩
  · intro gr' _ ch' hother
    rw [setChannel_gr, if_neg hother]
  · rw [setChannel_gr, if_pos ⟨rfl, rfl⟩, FrameContent.scaled, hmpeg1, scaled_mpeg1]
    have hinfo' := h.todo gr hgr ch hch hnot
    exact ⟨hset.sameInfo ⟨rfl, rfl⟩ hinfo' (hflags.trans hinfo'.flags), hagree⟩

/-- The scalefactors of one channel -/
theorem ContentFound.scalefactors {si : SideInfo} (h : ContentFound header c nch done si)
    (hinfo : c.si.FitsFields header.flags.lsfExt nch) {gr ch : ℕ} (hgr : gr < ngrOf header)
    (hch : ch < nch) (hnot : ¬done gr ch) (hfirst : gr ≠ 0 → done 0 ch)
    (hfits : c.ChannelFits header gr ch) {ptr : MainPtr} {pos : ℕ} (hpos : AtBit mem ptr.bits pos)
    (hwritten : Spells mem pos (scaleBits header c.si gr ch)) :
    let d := decodeScalefactors mem header ptr si gr ch
    ContentFound header c nch (fun gr' ch' => done gr' ch' ∨ gr' = gr ∧ ch' = ch) d.1 ∧
      AtBit mem d.2.bits (pos + (scaleBits header c.si gr ch).length) := by
  cases hlsf : header.flags.lsfExt with
  | true =>
    have hzero : gr = 0 := by
      rw [ngrOf, if_pos hlsf] at hgr
      omega
    rw [hzero] at hgr hnot hfits hwritten ⊢
    exact h.lsfScalefactors hlsf hgr hch hnot hfits hpos hwritten
  | false => exact h.mpeg1Scalefactors hlsf hinfo hgr hch hnot hfirst hfits hpos hwritten

/-- Both channels are accepted, or none is. -/
theorem Channel.SameInfo.accepted {found channel : Channel} (h : found.SameInfo channel)
    (haccepted : channel.Accepted) : found.Accepted := by
  obtain ⟨hbig, htype, hregions, hswitched⟩ := haccepted
  rw [← h.bigValues] at hbig
  rw [← h.blockType] at htype
  rw [← h.blockType, ← h.region0Count, ← h.region1Count] at hregions
  rw [Channel.isSwitched, ← h.blockType, ← h.region0Count, ← h.region1Count] at hswitched
  exact ⟨hbig, htype, hregions, hswitched⟩

theorem Channel.SameInfo.widths {found channel : Channel} (h : found.SameInfo channel)
    (header : MadHeader) : sfbwidthOf header found = sfbwidthOf header channel := by
  rw [sfbwidthOf_eq, sfbwidthOf_eq, SfbWidths.select, SfbWidths.select, h.blockType, h.isMixed]

/-- The channels that are `done` have been found, and the pointer stands behind them. -/
structure ContentDecoded (requantize : ℕ → ℤ → ℤ) (mem : Mem) (header : MadHeader)
    (c : FrameContent) (nch : ℕ) (done : ℕ → ℕ → Prop) (pos : ℕ) (s : DecodeState) : Prop where
  error : s.error = .none
  at_pos : AtBit mem s.ptr.bits pos
  sides : ContentFound header c nch done s.si
  lines : ∀ gr < ngrOf header, ∀ ch < nch, done gr ch → ∀ i < 576,
    s.xr gr ch i = c.line header requantize gr ch i

/-- **One channel** -/
theorem ContentDecoded.part {requantize : ℕ → ℤ → ℤ} {pos : ℕ} {s : DecodeState}
    (h : ContentDecoded requantize mem header c nch done pos s) (hrate : header.ValidRate)
    (hfits : c.Fits header nch) (stack : Stack) {gr ch : ℕ} (hgr : gr < ngrOf header)
    (hch : ch < nch) (hnot : ¬done gr ch) (hfirst : gr ≠ 0 → done 0 ch)
    (hwritten : Spells mem pos (c.partBits header gr ch)) :
    ContentDecoded requantize mem header c nch
      (fun gr' ch' => done gr' ch' ∨ gr' = gr ∧ ch' = ch)
      (pos + (c.partBits header gr ch).length) (decodePart requantize mem header stack gr s ch) := by
  obtain ⟨hscaleBits, hwords⟩ := spells_append.mp hwritten
  have hchannel := hfits.channels gr hgr ch hch
  have hinfo := h.sides.todo gr hgr ch hch hnot
  obtain ⟨hsides, hat⟩ := h.sides.scalefactors hfits.info hgr hch hnot hfirst hchannel h.at_pos
    hscaleBits
  have hwidths : sfbwidthOf header (s.si.gr gr ch) = c.widths header gr ch := hinfo.widths header
  have hlength := h.at_pos.length hat
  simp only [decodePart, h.error, hwidths, hlength]
  rw [if_neg (by decide)]
  generalize decodeScalefactors mem header s.ptr s.si gr ch = scale at *
  -- the words, for the channel as it has been written
  have hmem : (gr, ch) ∈ frameChannels header.flags.lsfExt nch := mem_frameChannels.mpr ⟨hgr, hch⟩
  have hrescaled := scaled_rescaled (c.si.gr gr ch) header.flags.lsfExt (intensityAt header c.si ch)
  have haccepted : (c.scaled header gr ch).Accepted :=
    hrescaled.accepted (hfits.info.channels (gr, ch) hmem).accepted
  obtain ⟨hrow, hrow3⟩ := hrate.row
  have hselect : c.widths header gr ch = (sfbRow header).select (c.scaled header gr ch) :=
    (hrescaled.widths header).symm
  obtain ⟨hw, hcount, -⟩ := exponentsAccesses_inBounds hrow (c.scaled header gr ch) (le_refl 2)
  have hset := bandsSet hrow hrow3 (c.scaled header gr ch)
  rw [← hselect] at hw hcount hset
  obtain ⟨bits, hbits⟩ := Option.isSome_iff_exists.mp hchannel.words.bits_isSome
  have hwordBits : c.wordBits header gr ch = bits := by
    rw [FrameContent.wordBits, hbits, Option.getD_some]
  have hpart23 : (c.scaled header gr ch).part23Length =
      (scaleBits header c.si gr ch).length + bits.length := by
    rw [FrameContent.scaled, hrescaled.eq]
    show (c.si.gr gr ch).part23Length = _
    rw [hchannel.part23Length, FrameContent.partBits, List.length_append, hwordBits]
  obtain ⟨herror, hend, hlines⟩ := iiiHuffdecode_written requantize hat (stack.xr gr ch)
    haccepted.bigValues_le haccepted.regionCounts hw (fun _ => 0) hchannel.words hbits hpart23
    (hwordBits ▸ hwords)
  -- and for the channel that has been found
  have hfound := hsides.scaled gr hgr ch hch (.inr ⟨rfl, rfl⟩)
  have hselect' : c.widths header gr ch = (sfbRow header).select (scale.1.gr gr ch) :=
    (hfound.info.widths header).trans (hrescaled.widths header) |>.symm
  have hbands := (bandsSet hrow hrow3 (scale.1.gr gr ch)).bands
  have hsetCount := hset.count
  rw [← hselect'] at hbands
  rw [FrameContent.scaled, hrescaled.count] at hsetCount
  obtain ⟨herror', hend', -, hlines'⟩ := iiiHuffdecode_agree requantize hat rfl hfound
    (hfound.info.accepted haccepted) hw hcount hbands hsetCount
    ((scaleBits header c.si gr ch).length : ℤ) (stack.xr gr ch) (stack.xr gr ch)
    (stack.exponents gr ch) fun _ => 0
  rw [herror] at herror'
  rw [← hend'] at hend
  have hpos : pos + (c.partBits header gr ch).length =
      pos + (scaleBits header c.si gr ch).length + bits.length := by
    rw [FrameContent.partBits, List.length_append, hwordBits, Nat.add_assoc]
  rw [hpos]
  refine ⟨herror', hend, hsides, ?_⟩
  intro gr' hgr' ch' hch' hdone i hi
  simp only [update_lines]
  by_cases hnew : gr' = gr ∧ ch' = ch
  · rw [if_pos hnew, hlines' herror' i hi, hlines i hi, hnew.1, hnew.2]
    rfl
  · rw [if_neg hnew]
    exact h.lines gr' hgr' ch' hch' (hdone.resolve_right hnew) i hi

theorem ContentDecoded.mono {requantize : ℕ → ℤ → ℤ} {pos : ℕ} {s : DecodeState}
    {done' : ℕ → ℕ → Prop} (h : ContentDecoded requantize mem header c nch done pos s)
    (hsame : ∀ gr < ngrOf header, ∀ ch < nch, done' gr ch ↔ done gr ch) :
    ContentDecoded requantize mem header c nch done' pos s where
  error := h.error
  at_pos := h.at_pos
  sides := ⟨h.sides.scfsi,
    fun gr hgr ch hch hnot => h.sides.todo gr hgr ch hch fun hdone =>
      hnot ((hsame gr hgr ch hch).mpr hdone),
    fun gr hgr ch hch hdone => h.sides.scaled gr hgr ch hch ((hsame gr hgr ch hch).mp hdone)⟩
  lines gr hgr ch hch hdone := h.lines gr hgr ch hch ((hsame gr hgr ch hch).mp hdone)

theorem ContentDecoded.channels {requantize : ℕ → ℤ → ℤ} {pos gr : ℕ} {s : DecodeState}
    (h : ContentDecoded requantize mem header c nch (doneBefore nch gr 0) pos s)
    (hrate : header.ValidRate) (hfits : c.Fits header nch) (stack : Stack)
    (hgr : gr < ngrOf header) {n : ℕ} (hn : n ≤ nch)
    (hwritten : Spells mem pos (c.granuleBits header gr n)) :
    ContentDecoded requantize mem header c nch (doneBefore nch gr n)
      (pos + (c.granuleBits header gr n).length)
      ((List.range n).foldl (decodePart requantize mem header stack gr) s) := by
  induction n with
  | zero => exact h
  | succ n ih =>
    have hsplit : c.granuleBits header gr (n + 1) =
        c.granuleBits header gr n ++ c.partBits header gr n := by
      simp only [FrameContent.granuleBits, List.range_succ, List.flatMap_append,
        List.flatMap_singleton]
    rw [hsplit] at hwritten ⊢
    obtain ⟨hbefore, hlast⟩ := spells_append.mp hwritten
    rw [List.length_append, ← Nat.add_assoc, List.range_succ, List.foldl_append]
    have hnot : ¬doneBefore nch gr n gr n := by
      rintro (⟨hlt, -⟩ | ⟨-, hlt⟩)
      · exact Nat.lt_irrefl gr hlt
      · exact Nat.lt_irrefl n hlt
    have hfirst : gr ≠ 0 → doneBefore nch gr n 0 n := fun hsecond => .inl ⟨by omega, hn⟩
    apply ((ih (by omega) hbefore).part hrate hfits stack hgr hn hnot hfirst hlast).mono
    intro gr' _ ch' _
    rw [doneBefore, doneBefore]
    omega

/-- **One granule** -/
theorem ContentDecoded.granule {requantize : ℕ → ℤ → ℤ} {pos gr : ℕ} {s : DecodeState}
    (h : ContentDecoded requantize mem header c nch (doneBefore nch gr 0) pos s)
    (hrate : header.ValidRate) (hnch : nch = madNchannels header) (hfits : c.Fits header nch)
    (stack : Stack) (hgr : gr < ngrOf header)
    (hwritten : Spells mem pos (c.granuleBits header gr nch)) :
    ContentDecoded requantize mem header c nch (doneBefore nch (gr + 1) 0)
      (pos + (c.granuleBits header gr nch).length)
      (decodeGranule requantize mem header stack nch s gr) := by
  have hnext : ∀ gr' < ngrOf header, ∀ ch' < nch,
      doneBefore nch (gr + 1) 0 gr' ch' ↔ doneBefore nch gr nch gr' ch' := by
    intro gr' _ ch' _
    rw [doneBefore, doneBefore]
    omega
  have hchannels := (h.channels hrate hfits stack hgr (Nat.le_refl nch) hwritten).mono hnext
  rw [decodeGranule]
  generalize (List.range nch).foldl (decodePart requantize mem header stack gr) s = t at *
  rw [if_neg]
  · exact hchannels
  · rintro ⟨-, hmode, hextension, hbad⟩
    have htwo := two_channels hnch hmode
    have hdone : ∀ ch < nch, doneBefore nch (gr + 1) 0 gr ch :=
      fun ch hch => .inl ⟨Nat.lt_succ_self gr, hch⟩
    have hinfo : ∀ ch < nch, (t.si.gr gr ch).blockType = (c.si.gr gr ch).blockType ∧
        (t.si.gr gr ch).isMixed = (c.si.gr gr ch).isMixed := by
      intro ch hch
      have hsame := (hchannels.sides.scaled gr hgr ch hch (hdone ch hch)).info
      have hrescaled := scaled_rescaled (c.si.gr gr ch) header.flags.lsfExt
        (intensityAt header c.si ch)
      exact ⟨hsame.blockType.trans hrescaled.blockType, hsame.isMixed.trans hrescaled.isMixed⟩
    obtain ⟨hleft, hleftMixed⟩ := hinfo 0 (by omega)
    obtain ⟨hright, hrightMixed⟩ := hinfo 1 (by omega)
    have hgood := hfits.stereo hmode hextension gr hgr
    rw [badStereo] at hbad hgood
    rw [hleft, hright, hleftMixed, hrightMixed, hgood] at hbad
    exact Bool.false_ne_true hbad

theorem ContentDecoded.granules {requantize : ℕ → ℤ → ℤ} {pos : ℕ} {s : DecodeState}
    (h : ContentDecoded requantize mem header c nch (doneBefore nch 0 0) pos s)
    (hrate : header.ValidRate) (hnch : nch = madNchannels header) (hfits : c.Fits header nch)
    (stack : Stack) {n : ℕ} (hn : n ≤ ngrOf header)
    (hwritten : Spells mem pos (c.mainBits header nch n)) :
    ContentDecoded requantize mem header c nch (doneBefore nch n 0)
      (pos + (c.mainBits header nch n).length)
      ((List.range n).foldl (decodeGranule requantize mem header stack nch) s) := by
  induction n with
  | zero => exact h
  | succ n ih =>
    have hsplit : c.mainBits header nch (n + 1) =
        c.mainBits header nch n ++ c.granuleBits header n nch := by
      simp only [FrameContent.mainBits, List.range_succ, List.flatMap_append,
        List.flatMap_singleton]
    rw [hsplit] at hwritten ⊢
    obtain ⟨hbefore, hlast⟩ := spells_append.mp hwritten
    rw [List.length_append, ← Nat.add_assoc, List.range_succ, List.foldl_append]
    exact (ih (by omega) hbefore).granule hrate hnch hfits stack hn hlast

end

/-! ### The frame -/

/-- `data_bitlen` is the length of the main data. -/
theorem FrameContent.Fits.dataBitlen {header : MadHeader} {c : FrameContent} {nch : ℕ}
    (h : c.Fits header nch) :
    ((frameChannels header.flags.lsfExt nch).map fun p => (c.si.gr p.1 p.2).part23Length).sum =
      (c.mainBits header nch (ngrOf header)).length := by
  have hparts : (frameChannels header.flags.lsfExt nch).map
        (fun p => (c.si.gr p.1 p.2).part23Length) =
      (frameChannels header.flags.lsfExt nch).map
        fun p => (c.partBits header p.1 p.2).length := by
    apply List.map_congr_left
    intro p hp
    obtain ⟨hgr, hch⟩ := mem_frameChannels.mp hp
    exact (h.channels p.1 hgr p.2 hch).part23Length
  rw [hparts]
  simp only [frameChannels, SProd.sprod, List.product, List.map_flatMap, List.map_map,
    FrameContent.mainBits, FrameContent.granuleBits, List.length_flatMap, ngrOf]
  rw [List.flatMap_def, List.sum_flatten, List.map_map]
  rfl

/-- What has been written in a frame is found. -/
theorem iiiDecode_written (requantize : ℕ → ℤ → ℤ) {mem : Mem} {ptr : MadBitptr} {pos : ℕ}
    (hptr : AtBit mem ptr pos) {header : MadHeader} (hrate : header.ValidRate) {c : FrameContent}
    (hfits : c.Fits header (madNchannels header)) {found : SideInfo}
    (hsaid : c.si.Says header.flags.lsfExt (madNchannels header) found)
    (hwritten : Spells mem pos (c.mainBits header (madNchannels header) (ngrOf header)))
    (stack : Stack) :
    let r := iiiDecode requantize mem ptr header found (madNchannels header) stack
    r.error = .none ∧ AtBit mem r.ptr.bits
        (pos + (c.mainBits header (madNchannels header) (ngrOf header)).length) ∧
      ∀ gr < ngrOf header, ∀ ch < madNchannels header, ∀ i < 576,
        r.xr gr ch i = c.line header requantize gr ch i := by
  have hnone : ∀ gr ch, ¬doneBefore (madNchannels header) 0 0 gr ch := by
    rintro gr ch (⟨hlt, -⟩ | ⟨-, hlt⟩)
    · exact Nat.not_lt_zero _ hlt
    · exact Nat.not_lt_zero _ hlt
  have hstart : ContentDecoded requantize mem header c (madNchannels header)
      (doneBefore (madNchannels header) 0 0) pos
      { ptr := { bits := ptr }, si := found, xr := stack.xr, error := .none } := by
    refine ⟨rfl, hptr, ⟨hsaid.scfsi, ?_, ?_⟩, ?_⟩
    · intro gr hgr ch hch _
      exact hsaid.channels (gr, ch) (mem_frameChannels.mpr ⟨hgr, hch⟩)
    · exact fun gr _ ch _ hdone => absurd hdone (hnone gr ch)
    · exact fun gr _ ch _ hdone => absurd hdone (hnone gr ch)
  have hall := hstart.granules hrate rfl hfits stack (Nat.le_refl _) hwritten
  exact ⟨hall.error, hall.at_pos, fun gr hgr ch hch =>
    hall.lines gr hgr ch hch (.inl ⟨hgr, hch⟩)⟩

/-- **A frame that has been written is decoded.**  From the bits of its side information `III_sideinfo`
gets what `III_decode` needs, on any garbage, and from the bits of its parts `III_decode` gets every
line of every channel back; it ends behind the last part. -/
theorem mainData_roundTrip (requantize : ℕ → ℤ → ℤ) {mem data : Mem} {ptr ptr' : MadBitptr}
    {pos pos' : ℕ} (hptr : AtBit mem ptr pos) (hptr' : AtBit data ptr' pos') {header : MadHeader}
    (hrate : header.ValidRate) {c : FrameContent} (hfits : c.Fits header (madNchannels header))
    (hside : Spells mem pos (sideinfoBits header.flags.lsfExt (madNchannels header) c.si))
    (hmain : Spells data pos' (c.mainBits header (madNchannels header) (ngrOf header)))
    (stack : Stack) :
    let info := iiiSideinfo mem ptr (madNchannels header) header.flags.lsfExt stack.si
    let r := iiiDecode requantize data ptr' header info.si (madNchannels header) stack
    info.result = .none ∧ r.error = .none ∧
      info.dataBitlen = (c.mainBits header (madNchannels header) (ngrOf header)).length ∧
      AtBit data r.ptr.bits (pos' + info.dataBitlen) ∧
      ∀ gr < ngrOf header, ∀ ch < madNchannels header, ∀ i < 576,
        r.xr gr ch i = c.line header requantize gr ch i := by
  obtain ⟨hresult, hsaid, hlength⟩ := iiiSideinfo_written hptr stack.si hfits.info hside
  have hbits := hfits.dataBitlen
  rw [← hlength] at hbits
  obtain ⟨herror, hat, hlines⟩ := iiiDecode_written requantize hptr' hrate hfits hsaid hmain stack
  exact ⟨hresult, herror, hbits, hbits ▸ hat, hlines⟩

/-- A mono frame: granule 1 has the scalefactors of granule 0. -/
def copiedFrame : FrameContent where
  si := {
    scfsi := fun _ => 15
    gr := fun gr _ => {
      part23Length := if gr = 0 then 36 else 15, bigValues := 2, globalGain := 210
      scalefacCompress := 5, tableSelect := fun _ => 1, region0Count := 6, region1Count := 5
      scalefac := fun sfbi => if sfbi < 21 then sfbi % 2 else 0 } }
  words := fun _ _ => ⟨[(1, 0), (0, -1)], [⟨0, -1, 0, 1⟩]⟩

def monoHeader : MadHeader := { layer := 3, samplerate := 44100 }

theorem copiedFrame_fits : copiedFrame.Fits monoHeader 1 := by
  have hall : frameChannels false 1 = [(0, 0), (1, 0)] := by decide
  have hbits : ∀ first last, BitsFit 1 (fun sfbi => if sfbi < 21 then sfbi % 2 else 0) first last := by
    intro first last i _ _
    simp only
    split_ifs <;> omega
  have hwords : ∀ gr < 2, (copiedFrame.words gr 0).Fits (copiedFrame.scaled monoHeader gr 0)
      (copiedFrame.widths monoHeader gr 0) := fun gr hgr =>
    ⟨by interval_cases gr <;> decide, by interval_cases gr <;> decide,
      by interval_cases gr <;> decide, by interval_cases gr <;> decide +kernel,
      by interval_cases gr <;> decide⟩
  refine ⟨⟨by decide, by decide, fun _ => by decide, ?_⟩, ?_, fun hmode => absurd hmode (by decide)⟩
  · show ∀ p ∈ frameChannels false 1, _
    rw [hall]
    intro p hp
    rcases List.mem_pair.mp hp with rfl | rfl
    · exact ⟨⟨by decide, by decide, by decide, by decide, by decide, by decide⟩, by decide, by decide,
        by decide, by decide⟩
    · exact ⟨⟨by decide, by decide, by decide, by decide, by decide, by decide⟩, by decide, by decide,
        by decide, by decide⟩
  · intro gr hgr ch hch
    obtain rfl : ch = 0 := by omega
    have hgranule : gr = 0 ∨ gr = 1 := by
      rw [ngrOf] at hgr
      simp only [monoHeader, Bool.false_eq_true, if_false] at hgr
      omega
    rcases hgranule with rfl | rfl
    · exact ⟨⟨fun hshort => absurd hshort (by decide),
        fun _ => ⟨hbits 0 6, hbits 6 11, hbits 11 16, hbits 16 21, by decide⟩⟩, hwords 0 (by decide),
        by decide +kernel⟩
    · exact ⟨⟨fun hshort => absurd hshort (by decide),
        fun _ => ⟨fun _ _ _ => rfl, fun _ _ _ => rfl, fun _ _ _ => rfl, fun _ _ _ => rfl,
          by decide⟩⟩, hwords 1 (by decide), by decide +kernel⟩

theorem mainData_roundTrip_copied :
    let bits := copiedFrame.mainBits monoHeader 1 2
    let info := iiiSideinfo (pack (sideinfoBits false 1 copiedFrame.si)) (madBitInit 0) 1 false {}
    let r := iiiDecode (fun value exp => value * exp) (pack bits) (madBitInit 0) monoHeader info.si 1
      ⟨{}, fun _ _ _ => 7, fun _ _ _ => 7⟩
    info.result = .none ∧ r.error = .none ∧ info.dataBitlen = bits.length ∧
      ∀ gr < 2, ∀ ch < 1, ∀ i < 576,
        r.xr gr ch i = copiedFrame.line monoHeader (fun value exp => value * exp) gr ch i := by
  intro bits info r
  have hrate : monoHeader.ValidRate := ⟨fun hmpeg25 => absurd hmpeg25 (by decide), 0, by decide, rfl⟩
  have hall := mainData_roundTrip (fun value exp => value * exp)
    (atBit_init (pack (sideinfoBits false 1 copiedFrame.si)) 0) (atBit_init (pack bits) 0) hrate
    copiedFrame_fits (spells_pack _) (spells_pack bits) ⟨{}, fun _ _ _ => 7, fun _ _ _ => 7⟩
  exact ⟨hall.1, hall.2.1, hall.2.2.1, hall.2.2.2.2⟩

end Mp3Decoder
