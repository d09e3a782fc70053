import Mp3Decoder.Mad.HuffCache

/-!
# Reading the main data (`III_decode`)

The part of each channel of each granule: its scalefactors, then its code words.  `mainParts` is
where the parts are according to the side information, and `iiiDecode_reads` bounds the bytes that
are read by where the parts end.  The stereo, reordering and filter stages behind the reading are
left out, but for the one error that they can report.
-/

namespace Mp3Decoder

/-- `MAD_NCHANNELS(header)` -/
def madNchannels (header : MadHeader) : ℕ := if header.mode ≠ 0 then 2 else 1

/-- The variables on the stack that are not initialised. -/
structure Stack where
  si : SideInfo
  xr : ℕ → ℕ → ℕ → ℤ
  exponents : ℕ → ℕ → ℕ → ℤ

structure DecodeState where
  ptr : MainPtr
  si : SideInfo
  xr : ℕ → ℕ → ℕ → ℤ
  error : MadError

/-- `ch == 0 ? 0 : &si->gr[1].ch[1]` -/
def gr1chOf (si : SideInfo) (ch : ℕ) : Option Channel := if ch = 0 then none else some (si.gr 1 1)

def SideInfo.setChannel (si : SideInfo) (gr ch : ℕ) (channel : Channel) : SideInfo :=
  { si with gr := Function.update si.gr gr (Function.update (si.gr gr) ch channel) }

theorem setChannel_gr (si : SideInfo) (gr ch : ℕ) (channel : Channel) (gr' ch' : ℕ) :
    (si.setChannel gr ch channel).gr gr' ch' =
      if gr' = gr ∧ ch' = ch then channel else si.gr gr' ch' :=
  update_channel si.gr gr ch channel gr' ch'

/-- The scalefactors of one channel: the side information with them, and the pointer behind. -/
def decodeScalefactors (mem : Mem) (header : MadHeader) (ptr : MainPtr) (si : SideInfo)
    (gr ch : ℕ) : SideInfo × MainPtr :=
  if header.flags.lsfExt then
    let r := iiiScalefactorsLsf mem ptr (si.gr gr ch) (gr1chOf si ch) header.modeExtension
    let si := si.setChannel gr ch r.1
    (r.2.1.elim si (si.setChannel 1 1), r.2.2)
  else
    let r := iiiScalefactors mem ptr (si.gr gr ch) (si.gr 0 ch) (if gr = 0 then 0 else si.scfsi ch)
    (si.setChannel gr ch r.1, r.2)

variable (requantize : ℕ → ℤ → ℤ)

/-- Channel `ch` of granule `gr`, unless an error has ended the loops. -/
def decodePart (mem : Mem) (header : MadHeader) (stack : Stack) (gr : ℕ) (s : DecodeState)
    (ch : ℕ) : DecodeState :=
  if s.error ≠ .none then s
  else
    let sfbwidth := sfbwidthOf header (s.si.gr gr ch)
    let scale := decodeScalefactors mem header s.ptr s.si gr ch
    let part2Length := madBitLength s.ptr.bits scale.2.bits
    let r := iiiHuffdecode requantize mem scale.2 (stack.xr gr ch) (scale.1.gr gr ch) sfbwidth
      part2Length (stack.exponents gr ch)
    { ptr := r.ptr
      si := scale.1
      xr := Function.update s.xr gr (Function.update (s.xr gr) ch r.xr)
      error := r.error }

/-- The check of `III_stereo`: both channels have the same kind of blocks. -/
def badStereo (si : SideInfo) (gr : ℕ) : Bool :=
  (si.gr gr 0).blockType ≠ (si.gr gr 1).blockType ∨ (si.gr gr 0).isMixed ≠ (si.gr gr 1).isMixed

/-- One granule; joint stereo (mode 2) checks its channels. -/
def decodeGranule (mem : Mem) (header : MadHeader) (stack : Stack) (nch : ℕ) (s : DecodeState)
    (gr : ℕ) : DecodeState :=
  let s := (List.range nch).foldl (decodePart requantize mem header stack gr) s
  if s.error = .none ∧ header.mode = 2 ∧ header.modeExtension ≠ 0 ∧ badStereo s.si gr then
    { s with error := .badstereo }
  else s

/-- The number of granules. -/
def ngrOf (header : MadHeader) : ℕ := if header.flags.lsfExt then 1 else 2

/-- `III_decode`, up to the samples. -/
def iiiDecode (mem : Mem) (ptr : MadBitptr) (header : MadHeader) (si : SideInfo) (nch : ℕ)
    (stack : Stack) : DecodeState :=
  (List.range (ngrOf header)).foldl (decodeGranule requantize mem header stack nch)
    { ptr := { bits := ptr }, si, xr := stack.xr, error := .none }

/-! ### Where the parts are -/

/-- The length of the scalefactors of channel `ch` of granule `gr`. -/
def part2Of (header : MadHeader) (si : SideInfo) (gr ch : ℕ) : ℕ :=
  if header.flags.lsfExt then
    part2BitsLsf (si.gr gr ch) (isIntensity header.modeExtension (gr1chOf si ch))
  else part2Bits (si.gr gr ch) (if gr = 0 then 0 else si.scfsi ch)

/-- A part: the bit it starts at, the length of its scalefactors, and `part2_3_length`. -/
structure MainPart where
  start : ℕ
  part2 : ℕ
  part23 : ℕ
  deriving DecidableEq, Repr

/-- Where the part ends, or its scalefactors when they alone are longer. -/
def MainPart.last (part : MainPart) : ℕ := part.start + max part.part2 part.part23

/-- The parts of the given granules and channels, one behind the other. -/
def layParts (header : MadHeader) (si : SideInfo) : List (ℕ × ℕ) → ℕ → List MainPart
  | [], _ => []
  | (gr, ch) :: rest, start =>
    ⟨start, part2Of header si gr ch, (si.gr gr ch).part23Length⟩ ::
      layParts header si rest (start + (si.gr gr ch).part23Length)

/-- The channels of a granule, in front of `rest`. -/
def granuleChannels (gr : ℕ) (chs : List ℕ) (rest : List (ℕ × ℕ)) : List (ℕ × ℕ) :=
  chs.map (gr, ·) ++ rest

/-- The parts of a frame whose main data starts at bit `start`. -/
def mainParts (header : MadHeader) (si : SideInfo) (nch start : ℕ) : List MainPart :=
  layParts header si
    ((List.range (ngrOf header)).foldr (fun gr => granuleChannels gr (List.range nch)) []) start

/-- Every part ends `MAD_BUFFER_GUARD` bytes before bit `hi`. -/
def PartsFit (hi : ℕ) (parts : List MainPart) : Prop :=
  ∀ part ∈ parts, part.last + 8 * madBufferGuard ≤ hi

instance (hi : ℕ) (parts : List MainPart) : Decidable (PartsFit hi parts) :=
  inferInstanceAs (Decidable (∀ part ∈ parts, part.last + 8 * madBufferGuard ≤ hi))

/-! ### What decoding keeps -/

/-- Two channels with scalefactors and code words of the same lengths. -/
structure SameLengths (channel channel' : Channel) : Prop where
  part23Length : channel'.part23Length = channel.part23Length
  scalefacCompress : channel'.scalefacCompress = channel.scalefacCompress
  blockType : channel'.blockType = channel.blockType
  isMixed : channel'.isMixed = channel.isMixed

theorem SameLengths.refl (channel : Channel) : SameLengths channel channel := ⟨rfl, rfl, rfl, rfl⟩

theorem SameLengths.trans {c c' c'' : Channel} (h : SameLengths c c') (h' : SameLengths c' c'') :
    SameLengths c c'' :=
  ⟨h'.part23Length.trans h.part23Length, h'.scalefacCompress.trans h.scalefacCompress,
    h'.blockType.trans h.blockType, h'.isMixed.trans h.isMixed⟩

theorem SameLengths.part2Bits {c c' : Channel} (h : SameLengths c c') (scfsi : ℕ) :
    Mp3Decoder.part2Bits c' scfsi = Mp3Decoder.part2Bits c scfsi := by
  simp only [Mp3Decoder.part2Bits, nsfbShort, slen1, slen2, h.scalefacCompress, h.blockType,
    h.isMixed]

theorem SameLengths.part2BitsLsf {c c' : Channel} (h : SameLengths c c') (intensity : Bool) :
    Mp3Decoder.part2BitsLsf c' intensity = Mp3Decoder.part2BitsLsf c intensity := by
  simp only [Mp3Decoder.part2BitsLsf, lsfParts, lsfIndex, h.scalefacCompress, h.blockType,
    h.isMixed]

theorem iiiScalefactors_lengths (mem : Mem) (ptr : MainPtr) (channel gr0ch : Channel) (scfsi : ℕ) :
    SameLengths channel (iiiScalefactors mem ptr channel gr0ch scfsi).1 := by
  rw [iiiScalefactors]
  split_ifs
  · exact ⟨rfl, rfl, rfl, rfl⟩
  · exact ⟨rfl, rfl, rfl, rfl⟩

theorem iiiScalefactorsLsf_lengths (mem : Mem) (ptr : MainPtr) (channel : Channel)
    (gr1ch : Option Channel) (modeExtension : ℕ) :
    SameLengths channel (iiiScalefactorsLsf mem ptr channel gr1ch modeExtension).1 := by
  have hmixed : ∀ flags : ℕ, (flags ||| preflag) &&& mixedBlockFlag = flags &&& mixedBlockFlag := by
    intro flags
    rw [Nat.and_or_distrib_right]
    exact Nat.or_zero _
  rw [iiiScalefactorsLsf]
  split_ifs
  · exact ⟨rfl, rfl, rfl, rfl⟩
  · refine ⟨rfl, rfl, rfl, ?_⟩
    simp only [Channel.isMixed]
    rw [hmixed]
  · exact ⟨rfl, rfl, rfl, rfl⟩

theorem iiiScalefactorsLsf_gr1_lengths {mem : Mem} {ptr : MainPtr} {channel gr1ch' : Channel}
    {gr1ch : Option Channel} {modeExtension : ℕ}
    (h : (iiiScalefactorsLsf mem ptr channel gr1ch modeExtension).2.1 = some gr1ch') :
    ∃ g, gr1ch = some g ∧ SameLengths g gr1ch' := by
  by_cases hintensity : isIntensity modeExtension gr1ch = true
  · simp only [iiiScalefactorsLsf, if_pos hintensity] at h
    obtain ⟨g, hg, rfl⟩ := Option.map_eq_some_iff.mp h
    exact ⟨g, hg, rfl, rfl, rfl, rfl⟩
  · simp only [iiiScalefactorsLsf, if_neg hintensity] at h
    exact ⟨gr1ch', h, .refl gr1ch'⟩

/-- Two side informations with the parts in the same places. -/
structure SameLayout (si si' : SideInfo) : Prop where
  scfsi : si'.scfsi = si.scfsi
  lengths : ∀ gr ch, SameLengths (si.gr gr ch) (si'.gr gr ch)

theorem SameLayout.refl (si : SideInfo) : SameLayout si si := ⟨rfl, fun _ _ => .refl _⟩

theorem SameLayout.setChannel {si si' : SideInfo} (h : SameLayout si si') {gr ch : ℕ}
    {channel : Channel} (hsame : SameLengths (si.gr gr ch) channel) :
    SameLayout si (si'.setChannel gr ch channel) := by
  refine ⟨h.scfsi, ?_⟩
  intro g c
  rw [setChannel_gr]
  by_cases hset : g = gr ∧ c = ch
  · rw [if_pos hset, hset.1, hset.2]
    exact hsame
  · rw [if_neg hset]
    exact h.lengths g c

theorem SameLayout.part2Of {si si' : SideInfo} (h : SameLayout si si') (header : MadHeader)
    (gr ch : ℕ) : Mp3Decoder.part2Of header si' gr ch = Mp3Decoder.part2Of header si gr ch := by
  have hlengths := h.lengths gr ch
  have hintensity : isIntensity header.modeExtension (gr1chOf si' ch) =
      isIntensity header.modeExtension (gr1chOf si ch) := by
    simp only [isIntensity, gr1chOf]
    split_ifs <;> rfl
  rw [Mp3Decoder.part2Of, Mp3Decoder.part2Of, h.scfsi, hintensity, hlengths.part2Bits,
    hlengths.part2BitsLsf]

/-- Reading scalefactors leaves the layout alone. -/
theorem SameLayout.decodeScalefactors {si si' : SideInfo} (h : SameLayout si si') (mem : Mem)
    (header : MadHeader) (ptr : MainPtr) (gr ch : ℕ) :
    SameLayout si (Mp3Decoder.decodeScalefactors mem header ptr si' gr ch).1 := by
  rw [Mp3Decoder.decodeScalefactors]
  by_cases hlsf : header.flags.lsfExt = true
  · simp only [if_pos hlsf]
    have hchannel := h.setChannel ((h.lengths gr ch).trans (iiiScalefactorsLsf_lengths mem ptr
      (si'.gr gr ch) (gr1chOf si' ch) header.modeExtension))
    cases hgr1 : (iiiScalefactorsLsf mem ptr (si'.gr gr ch) (gr1chOf si' ch)
        header.modeExtension).2.1 with
    | none => exact hchannel
    | some gr1ch' =>
      obtain ⟨g, hg, hsame⟩ := iiiScalefactorsLsf_gr1_lengths hgr1
      have hg1 : g = si'.gr 1 1 := by
        rw [gr1chOf] at hg
        split_ifs at hg
        exact (Option.some.inj hg).symm
      rw [hg1] at hsame
      exact hchannel.setChannel ((h.lengths 1 1).trans hsame)
  · simp only [if_neg hlsf]
    exact h.setChannel ((h.lengths gr ch).trans (iiiScalefactors_lengths mem ptr _ _ _))

/-! ### What it reads -/

variable {requantize} {mem : Mem} {header : MadHeader} {lo hi : ℕ}

theorem decodeScalefactors_cursor {ptr : MainPtr} {pos : ℕ} (h : Cursor mem lo hi ptr pos)
    (si : SideInfo) (gr ch : ℕ) (hhi : pos + part2Of header si gr ch ≤ hi) :
    Cursor mem lo hi (decodeScalefactors mem header ptr si gr ch).2
      (pos + part2Of header si gr ch) := by
  rw [part2Of] at hhi ⊢
  rw [decodeScalefactors]
  by_cases hlsf : header.flags.lsfExt = true
  · rw [if_pos hlsf] at hhi ⊢
    rw [if_pos hlsf]
    exact iiiScalefactorsLsf_cursor h hhi
  · rw [if_neg hlsf] at hhi ⊢
    rw [if_neg hlsf]
    exact iiiScalefactors_cursor h hhi

/-- The loops have come to the parts in `rest`, of a frame with side information `si`, and read in
range so far. -/
inductive Reading (mem : Mem) (header : MadHeader) (si : SideInfo) (lo hi : ℕ)
    (rest : List (ℕ × ℕ)) (s : DecodeState) : Prop
  | stopped {pos : ℕ} : s.error ≠ .none → Cursor mem lo (hi - 1) s.ptr pos →
      Reading mem header si lo hi rest s
  | running {pos : ℕ} : SameLayout si s.si → Cursor mem lo (hi - 1) s.ptr pos →
      PartsFit hi (layParts header si rest pos) → Reading mem header si lo hi rest s

variable {si : SideInfo} {rest : List (ℕ × ℕ)} {s : DecodeState}

theorem Reading.part {gr ch : ℕ} (h : Reading mem header si lo hi ((gr, ch) :: rest) s)
    (stack : Stack) :
    Reading mem header si lo hi rest (decodePart requantize mem header stack gr s ch) := by
  rw [decodePart]
  by_cases herror : s.error ≠ .none
  · rw [if_pos herror]
    cases h with
    | stopped _ hcursor => exact .stopped herror hcursor
    | running _ hcursor => exact .stopped herror hcursor
  rw [if_neg herror]
  cases h with
  | stopped hstopped => exact absurd hstopped herror
  | running hlayout hcursor hfit =>
    rename_i pos
    have hlast := hfit _ List.mem_cons_self
    have hguard : 8 * madBufferGuard = 64 := rfl
    simp only [MainPart.last, hguard] at hlast
    have hpart2 := hlayout.part2Of header gr ch
    rw [← hpart2] at hlast
    have hscale : Cursor mem lo (hi - 1) (decodeScalefactors mem header s.ptr s.si gr ch).2
        (pos + part2Of header s.si gr ch) := decodeScalefactors_cursor hcursor s.si gr ch (by omega)
    have hlayout' := hlayout.decodeScalefactors mem header s.ptr gr ch
    have hpart23 := (hlayout'.lengths gr ch).part23Length
    have hlength := hcursor.at_pos.length hscale.at_pos
    simp only [hlength]
    obtain ⟨scale, hscaleEq⟩ : ∃ scale, scale = decodeScalefactors mem header s.ptr s.si gr ch :=
      ⟨_, rfl⟩
    rw [← hscaleEq] at hscale hlayout' hpart23 ⊢
    have hread : Cursor mem lo (hi - 1) (iiiHuffdecode requantize mem scale.2 (stack.xr gr ch)
        (scale.1.gr gr ch) (sfbwidthOf header (s.si.gr gr ch)) (part2Of header s.si gr ch : ℕ)
        (stack.exponents gr ch)).ptr (pos + part2Of header s.si gr ch +
          ((scale.1.gr gr ch).part23Length - part2Of header s.si gr ch)) :=
      iiiHuffdecode_cursor requantize hscale _ _ _ _ (by omega)
    by_cases hshort : (si.gr gr ch).part23Length < part2Of header s.si gr ch
    · refine .stopped ?_ hread
      exact iiiHuffdecode_short requantize (hpart23 ▸ hshort)
    · have hend : pos + part2Of header s.si gr ch + ((si.gr gr ch).part23Length -
          part2Of header s.si gr ch) = pos + (si.gr gr ch).part23Length := by omega
      rw [hpart23, hend] at hread
      exact .running hlayout' hread fun part hpart => hfit part (List.mem_cons_of_mem _ hpart)

theorem Reading.channels {gr : ℕ} {chs : List ℕ}
    (h : Reading mem header si lo hi (granuleChannels gr chs rest) s) (stack : Stack) :
    Reading mem header si lo hi rest (chs.foldl (decodePart requantize mem header stack gr) s) := by
  induction chs generalizing s with
  | nil => exact h
  | cons ch chs ih => exact ih (h.part stack)

/-- Ending the loops with an error. -/
theorem Reading.stop (h : Reading mem header si lo hi rest s) {error : MadError}
    (herror : error ≠ .none) : Reading mem header si lo hi rest { s with error } := by
  cases h with
  | stopped _ hcursor => exact .stopped herror hcursor
  | running _ hcursor => exact .stopped herror hcursor

theorem Reading.granule {gr nch : ℕ}
    (h : Reading mem header si lo hi (granuleChannels gr (List.range nch) rest) s) (stack : Stack) :
    Reading mem header si lo hi rest (decodeGranule requantize mem header stack nch s gr) := by
  have hchannels : Reading mem header si lo hi rest
      ((List.range nch).foldl (decodePart requantize mem header stack gr) s) := h.channels stack
  rw [decodeGranule]
  split_ifs
  · exact hchannels.stop (by decide)
  · exact hchannels

theorem Reading.granules {grs : List ℕ} {nch : ℕ} (h : Reading mem header si lo hi
      (grs.foldr (fun gr => granuleChannels gr (List.range nch)) []) s) (stack : Stack) :
    Reading mem header si lo hi []
      (grs.foldl (decodeGranule requantize mem header stack nch) s) := by
  induction grs generalizing s with
  | nil => exact h
  | cons gr grs ih => exact ih (h.granule stack)

theorem Reading.reads_in (h : Reading mem header si lo hi rest s) :
    ∀ a ∈ s.ptr.reads, ByteIn lo (hi - 1) a := by
  cases h with
  | stopped _ hcursor => exact hcursor.reads_in
  | running _ hcursor => exact hcursor.reads_in

/-- **What `III_decode` reads.**  When every part of the frame ends at least `MAD_BUFFER_GUARD`
bytes before bit `hi`, every byte that it reads has a bit from its start on and starts before
`hi`. -/
theorem iiiDecode_reads (requantize : ℕ → ℤ → ℤ) {ptr : MadBitptr} {pos : ℕ} (hptr : AtBit mem ptr pos)
    (hleft : 0 < ptr.left) (si : SideInfo) (nch : ℕ) (stack : Stack)
    (hfit : PartsFit hi (mainParts header si nch pos)) :
    ∀ a ∈ (iiiDecode requantize mem ptr header si nch stack).ptr.reads, ByteIn pos (hi - 1) a := by
  have hpos := hptr.pos_eq
  have hstart : Cursor mem pos (hi - 1) { bits := ptr } pos :=
    ⟨hptr, Nat.le_refl _, by simp only; omega, fun _ ha => nomatch ha⟩
  have hbegin : Reading mem header si pos hi
      ((List.range (ngrOf header)).foldr (fun gr => granuleChannels gr (List.range nch)) [])
      { ptr := { bits := ptr }, si, xr := stack.xr, error := .none } :=
    .running (.refl si) hstart hfit
  exact (hbegin.granules stack).reads_in

end Mp3Decoder
