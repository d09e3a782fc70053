import Mp3Decoder.Mad.DecodeAgree
import Mp3Decoder.Mad.SideInfoEncode

/-!
# Writing the scalefactors

The bits of a channel's scalefactors, of MPEG-1 and LSF.  A channel holds the scalefactors that are
to be written.  `scaled` is what the decoder makes of it: in LSF `preflag` comes from the lengths.
-/

namespace Mp3Decoder

open BigEndianBits

/-- `n` scalefactors of `slen` bits each, from `scalefac[sfbi]` on -/
def scalefacBits (slen : ℕ) (scalefac : ℕ → ℕ) : ℕ → ℕ → List Bool
  | 0, _ => []
  | n + 1, sfbi => field slen (scalefac sfbi) ++ scalefacBits slen scalefac n (sfbi + 1)

@[simp] theorem scalefacBits_length (slen : ℕ) (scalefac : ℕ → ℕ) (n sfbi : ℕ) :
    (scalefacBits slen scalefac n sfbi).length = n * slen := by
  induction n generalizing sfbi with
  | zero => rw [scalefacBits, List.length_nil, Nat.zero_mul]
  | succ n ih =>
    rw [scalefacBits, List.length_append, field_length, ih, Nat.succ_mul, Nat.add_comm]

/-- The scalefactors `first .. last` fit `slen` bits. -/
def BitsFit (slen : ℕ) (scalefac : ℕ → ℕ) (first last : ℕ) : Prop :=
  ∀ i, first ≤ i → i < last → scalefac i < 2 ^ slen

section
variable {mem : Mem} {ptr : MainPtr} {pos : ℕ} {start scalefac : ℕ → ℕ}

/-- Scalefactors that have been written are read, behind those that are there already. -/
theorem readScalefacs_written {slen n sfbi : ℕ} (h : AtBit mem ptr.bits pos)
    (hfits : BitsFit slen scalefac sfbi (sfbi + n))
    (hwritten : Spells mem pos (scalefacBits slen scalefac n sfbi))
    (hbefore : AgreeBelow sfbi start scalefac) :
    AgreeBelow (sfbi + n) (readScalefacs mem slen n sfbi start ptr).1 scalefac ∧
      AtBit mem (readScalefacs mem slen n sfbi start ptr).2.bits (pos + n * slen) := by
  induction n generalizing pos sfbi start ptr with
  | zero =>
    rw [Nat.zero_mul]
    exact ⟨hbefore, h⟩
  | succ n ih =>
    have hfirst : scalefac sfbi < 2 ^ slen := hfits sfbi (Nat.le_refl sfbi) (by omega)
    obtain ⟨hvalue, hrest⟩ := (spells_field_append hfirst).mp hwritten
    have hread : (ptr.read mem slen).1 = scalefac sfbi := (h.read_value slen).trans hvalue
    have hnext : AgreeBelow (sfbi + 1) (Function.update start sfbi (ptr.read mem slen).1) scalefac := by
      have hupdate := hbefore.update (scalefac sfbi)
      rw [Function.update_eq_self] at hupdate
      rw [hread]
      exact hupdate
    have hbehind : AtBit mem (ptr.read mem slen).2.bits (pos + slen) := (h.read slen).1
    obtain ⟨hagree, hat⟩ := ih hbehind (fun i hlow hhigh => hfits i (by omega) (by omega)) hrest hnext
    rw [readScalefacs, show sfbi + (n + 1) = sfbi + 1 + n by omega, Nat.succ_mul, Nat.add_comm (n * slen),
      ← Nat.add_assoc]
    exact ⟨hagree, hat⟩

/-! ### MPEG-1 -/

/-- The bits of the scalefactors `first .. last`, none where they are those of granule 0 -/
def scfsiBandBits (scalefac : ℕ → ℕ) (scfsi bit slen first last : ℕ) : List Bool :=
  if scfsi &&& bit ≠ 0 then [] else scalefacBits slen scalefac (last - first) first

/-- They fit their bits, or are those of granule 0. -/
def ScfsiBandFits (scalefac gr0ch : ℕ → ℕ) (scfsi bit slen first last : ℕ) : Prop :=
  if scfsi &&& bit ≠ 0 then ∀ i, first ≤ i → i < last → scalefac i = gr0ch i
  else BitsFit slen scalefac first last

theorem scfsiBandBits_length (scalefac : ℕ → ℕ) (scfsi bit slen first last : ℕ) :
    (scfsiBandBits scalefac scfsi bit slen first last).length =
      scfsiBits scfsi bit (last - first) slen := by
  rw [scfsiBandBits, scfsiBits]
  split_ifs
  · rfl
  · exact scalefacBits_length _ _ _ _

theorem readScfsiBand_written {gr0ch gr0 : ℕ → ℕ} {scfsi bit slen first last : ℕ}
    (hle : first ≤ last) (h : AtBit mem ptr.bits pos)
    (hfits : ScfsiBandFits scalefac gr0ch scfsi bit slen first last)
    (hgr0 : scfsi ≠ 0 → AgreeBelow last gr0 gr0ch)
    (hwritten : Spells mem pos (scfsiBandBits scalefac scfsi bit slen first last))
    (hbefore : AgreeBelow first start scalefac) :
    AgreeBelow last (readScfsiBand mem gr0 scfsi bit slen first last start ptr).1 scalefac ∧
      AtBit mem (readScfsiBand mem gr0 scfsi bit slen first last start ptr).2.bits
        (pos + (scfsiBandBits scalefac scfsi bit slen first last).length) := by
  rw [scfsiBandBits_length, scfsiBits]
  rw [scfsiBandBits] at hwritten
  rw [ScfsiBandFits] at hfits
  rw [readScfsiBand]
  by_cases hcopy : scfsi &&& bit ≠ 0
  · rw [if_pos hcopy] at hfits
    rw [if_pos hcopy, if_pos hcopy]
    have hscfsi : scfsi ≠ 0 := by
      intro hzero
      rw [hzero, Nat.zero_and] at hcopy
      exact hcopy rfl
    refine ⟨?_, h⟩
    intro i hi
    show setScalefacs start gr0 first last i = scalefac i
    rw [setScalefacs]
    by_cases hin : first ≤ i ∧ i < last
    · rw [if_pos hin, hgr0 hscfsi i hi, hfits i hin.1 hin.2]
    · rw [if_neg hin]
      exact hbefore i (by omega)
  · rw [if_neg hcopy] at hwritten hfits
    rw [if_neg hcopy, if_neg hcopy]
    have hlast : first + (last - first) = last := by omega
    have hread := readScalefacs_written h (hlast.symm ▸ hfits) hwritten hbefore
    rw [hlast] at hread
    exact hread

/-- The bits of `III_scalefactors` -/
def mpeg1Bits (channel : Channel) (scfsi : ℕ) : List Bool :=
  if channel.blockType = 2 then
    scalefacBits (slen1 channel) channel.scalefac (nsfbShort channel) 0 ++
      scalefacBits (slen2 channel) channel.scalefac (6 * 3) (nsfbShort channel)
  else
    let band := scfsiBandBits channel.scalefac scfsi
    band 0x8 (slen1 channel) 0 6 ++ (band 0x4 (slen1 channel) 6 11 ++
      (band 0x2 (slen2 channel) 11 16 ++ band 0x1 (slen2 channel) 16 21))

structure Mpeg1Fits (channel gr0ch : Channel) (scfsi : ℕ) : Prop where
  short : channel.blockType = 2 →
    BitsFit (slen1 channel) channel.scalefac 0 (nsfbShort channel) ∧
    BitsFit (slen2 channel) channel.scalefac (nsfbShort channel) (nsfbShort channel + 6 * 3) ∧
    ∀ i, nsfbShort channel + 6 * 3 ≤ i → i < nsfbShort channel + 6 * 3 + 1 * 3 →
      channel.scalefac i = 0
  long : channel.blockType ≠ 2 →
    ScfsiBandFits channel.scalefac gr0ch.scalefac scfsi 0x8 (slen1 channel) 0 6 ∧
    ScfsiBandFits channel.scalefac gr0ch.scalefac scfsi 0x4 (slen1 channel) 6 11 ∧
    ScfsiBandFits channel.scalefac gr0ch.scalefac scfsi 0x2 (slen2 channel) 11 16 ∧
    ScfsiBandFits channel.scalefac gr0ch.scalefac scfsi 0x1 (slen2 channel) 16 21 ∧
    channel.scalefac 21 = 0

/-- **The scalefactors of MPEG-1** -/
theorem iiiScalefactors_written {channel found gr0ch gr0 : Channel} {scfsi : ℕ}
    (h : AtBit mem ptr.bits pos) (hinfo : found.SameInfo channel)
    (hfits : Mpeg1Fits channel gr0ch scfsi)
    (hgr0 : scfsi ≠ 0 → AgreeBelow 21 gr0.scalefac gr0ch.scalefac)
    (hwritten : Spells mem pos (mpeg1Bits channel scfsi)) :
    let r := iiiScalefactors mem ptr found gr0 scfsi
    AgreeBelow (scalefacCount false channel) r.1.scalefac channel.scalefac ∧
      AtBit mem r.2.bits (pos + (mpeg1Bits channel scfsi).length) := by
  have hslen1 : slen1 found = slen1 channel := by rw [slen1, slen1, hinfo.scalefacCompress]
  have hslen2 : slen2 found = slen2 channel := by rw [slen2, slen2, hinfo.scalefacCompress]
  have hnsfb : nsfbShort found = nsfbShort channel := by rw [nsfbShort, nsfbShort, hinfo.isMixed]
  have hnone : AgreeBelow 0 found.scalefac channel.scalefac :=
    fun i hi => absurd hi (Nat.not_lt_zero i)
  simp only [iiiScalefactors, scalefacCount, mpeg1Bits, hinfo.blockType, hslen1, hslen2, hnsfb]
    at hwritten ⊢
  by_cases hshort : channel.blockType = 2
  · simp only [if_pos hshort] at hwritten ⊢
    obtain ⟨hlow, hhigh, hzero⟩ := hfits.short hshort
    obtain ⟨hfirst, hsecond⟩ := spells_append.mp hwritten
    rw [scalefacBits_length] at hsecond
    obtain ⟨hagree, hat⟩ := readScalefacs_written h ((Nat.zero_add _).symm ▸ hlow) hfirst hnone
    rw [Nat.zero_add] at hagree
    obtain ⟨hagree', hat'⟩ := readScalefacs_written hat hhigh hsecond hagree
    rw [List.length_append, scalefacBits_length, scalefacBits_length, ← Nat.add_assoc]
    refine ⟨?_, hat'⟩
    intro i hi
    rw [setScalefacs]
    by_cases hin : nsfbShort channel + 6 * 3 ≤ i ∧ i < nsfbShort channel + 6 * 3 + 1 * 3
    · rw [if_pos hin, hzero i hin.1 hin.2]
    · rw [if_neg hin]
      exact hagree' i (by simp only [Bool.false_eq_true, if_false] at hi; omega)
  · simp only [if_neg hshort] at hwritten ⊢
    obtain ⟨hfits8, hfits4, hfits2, hfits1, hlast⟩ := hfits.long hshort
    have hcopied : ∀ last ≤ 21, scfsi ≠ 0 → AgreeBelow last gr0.scalefac gr0ch.scalefac :=
      fun last hle hscfsi => (hgr0 hscfsi).mono hle
    obtain ⟨hband8, hrest⟩ := spells_append.mp hwritten
    obtain ⟨hband4, hrest⟩ := spells_append.mp hrest
    obtain ⟨hband2, hband1⟩ := spells_append.mp hrest
    obtain ⟨h6, hat6⟩ := readScfsiBand_written (Nat.zero_le 6) h hfits8 (hcopied 6 (by decide))
      hband8 hnone
    obtain ⟨h11, hat11⟩ := readScfsiBand_written (by decide) hat6 hfits4 (hcopied 11 (by decide))
      hband4 h6
    obtain ⟨h16, hat16⟩ := readScfsiBand_written (by decide) hat11 hfits2 (hcopied 16 (by decide))
      hband2 h11
    obtain ⟨h21, hat21⟩ := readScfsiBand_written (by decide) hat16 hfits1 (hcopied 21 (by decide))
      hband1 h16
    simp only [List.length_append, ← Nat.add_assoc]
    refine ⟨?_, hat21⟩
    have hupdate := h21.update (channel.scalefac 21)
    rw [Function.update_eq_self, hlast] at hupdate
    exact hupdate

/-! ### LSF -/

/-- The bits of the parts, the first of which starts at `scalefac[n]` -/
def lsfPartsBits (scalefac : ℕ → ℕ) : ℕ → List (ℕ × ℕ) → List Bool
  | _, [] => []
  | n, part :: parts =>
    scalefacBits part.1 scalefac part.2 n ++ lsfPartsBits scalefac (n + part.2) parts

/-- Each part fits its bits, and behind the last one all is 0. -/
def LsfPartsFit (scalefac : ℕ → ℕ) : ℕ → List (ℕ × ℕ) → Prop
  | n, [] => ∀ i, n ≤ i → i < 39 → scalefac i = 0
  | n, part :: parts =>
    BitsFit part.1 scalefac n (n + part.2) ∧ LsfPartsFit scalefac (n + part.2) parts

/-- The loop over the parts, with intensity positions or without -/
theorem foldParts_written {step : LsfState → ℕ × ℕ → LsfState}
    (hstep : ∀ s part, (step s part).n = s.n + part.2 ∧
      (step s part).scalefac = (readScalefacs mem part.1 part.2 s.n s.scalefac s.ptr).1 ∧
      (step s part).ptr = (readScalefacs mem part.1 part.2 s.n s.scalefac s.ptr).2)
    {parts : List (ℕ × ℕ)} {s : LsfState} (h : AtBit mem s.ptr.bits pos)
    (hfits : LsfPartsFit scalefac s.n parts)
    (hwritten : Spells mem pos (lsfPartsBits scalefac s.n parts))
    (hbefore : AgreeBelow s.n s.scalefac scalefac) :
    let r := parts.foldl step s
    AgreeBelow 39 (setScalefacs r.scalefac (fun _ => 0) r.n 39) scalefac ∧
      AtBit mem r.ptr.bits (pos + (lsfPartsBits scalefac s.n parts).length) := by
  induction parts generalizing s pos with
  | nil =>
    refine ⟨?_, h⟩
    intro i hi
    rw [List.foldl_nil, setScalefacs]
    by_cases hin : s.n ≤ i ∧ i < 39
    · rw [if_pos hin]
      exact (hfits i hin.1 hin.2).symm
    · rw [if_neg hin]
      exact hbefore i (by omega)
  | cons part parts ih =>
    obtain ⟨hn, hscalefac, hptr⟩ := hstep s part
    obtain ⟨hfirst, hrest⟩ := spells_append.mp hwritten
    rw [scalefacBits_length] at hrest
    obtain ⟨hagree, hat⟩ := readScalefacs_written h hfits.1 hfirst hbefore
    rw [← hscalefac, ← hn] at hagree
    rw [← hptr] at hat
    have hnext := ih hat (hn.symm ▸ hfits.2) (hn.symm ▸ hrest) hagree
    rw [lsfPartsBits, List.length_append, scalefacBits_length, ← Nat.add_assoc, ← hn]
    exact hnext

/-- The bits of `III_scalefactors_lsf` -/
def lsfBits (channel : Channel) (intensity : Bool) : List Bool :=
  lsfPartsBits channel.scalefac 0 (lsfParts channel intensity)

def LsfFits (channel : Channel) (intensity : Bool) : Prop :=
  LsfPartsFit channel.scalefac 0 (lsfParts channel intensity)

/-- The channel behind its scalefactors: of LSF, the lengths may have `preflag` set. -/
def Channel.scaled (channel : Channel) (lsf intensity : Bool) : Channel :=
  if lsf = true ∧ intensity = false ∧ (lsfSlen channel.scalefacCompress false).1 = 2 then
    { channel with flags := channel.flags ||| preflag }
  else channel

/-- **The scalefactors of LSF** -/
theorem iiiScalefactorsLsf_written {channel found : Channel} {gr1ch : Option Channel}
    {modeExtension : ℕ} (h : AtBit mem ptr.bits pos) (hinfo : found.SameInfo channel)
    (hfits : LsfFits channel (isIntensity modeExtension gr1ch))
    (hwritten : Spells mem pos (lsfBits channel (isIntensity modeExtension gr1ch))) :
    let r := iiiScalefactorsLsf mem ptr found gr1ch modeExtension
    AgreeBelow 39 r.1.scalefac channel.scalefac ∧
      r.1.flags = (channel.scaled true (isIntensity modeExtension gr1ch)).flags ∧
      AtBit mem r.2.2.bits (pos + (lsfBits channel (isIntensity modeExtension gr1ch)).length) := by
  have hparts : ∀ intensity, lsfParts found intensity = lsfParts channel intensity := by
    intro intensity
    rw [lsfParts, lsfParts, lsfIndex, lsfIndex, hinfo.scalefacCompress, hinfo.blockType,
      hinfo.isMixed]
  have hnone : AgreeBelow 0 found.scalefac channel.scalefac :=
    fun i hi => absurd hi (Nat.not_lt_zero i)
  simp only [iiiScalefactorsLsf, hparts, hinfo.scalefacCompress, hinfo.flags, Channel.scaled, lsfBits,
    LsfFits] at hfits hwritten ⊢
  cases hintensity : isIntensity modeExtension gr1ch with
  | true =>
    rw [hintensity] at hfits hwritten
    have hstep : ∀ s part, (readIntensityPart mem s part).n = s.n + part.2 ∧
        (readIntensityPart mem s part).scalefac =
          (readScalefacs mem part.1 part.2 s.n s.scalefac s.ptr).1 ∧
        (readIntensityPart mem s part).ptr =
          (readScalefacs mem part.1 part.2 s.n s.scalefac s.ptr).2 := fun _ _ => ⟨rfl, rfl, rfl⟩
    obtain ⟨hagree, hat⟩ := foldParts_written hstep
      (s := ⟨0, found.scalefac, (gr1ch.getD {}).scalefac, ptr⟩) h hfits hwritten hnone
    exact ⟨hagree, rfl, hat⟩
  | false =>
    rw [hintensity] at hfits hwritten
    have hstep : ∀ s part, (readLsfPart mem s part).n = s.n + part.2 ∧
        (readLsfPart mem s part).scalefac =
          (readScalefacs mem part.1 part.2 s.n s.scalefac s.ptr).1 ∧
        (readLsfPart mem s part).ptr =
          (readScalefacs mem part.1 part.2 s.n s.scalefac s.ptr).2 := fun _ _ => ⟨rfl, rfl, rfl⟩
    obtain ⟨hagree, hat⟩ := foldParts_written hstep
      (s := ⟨0, found.scalefac, (gr1ch.getD {}).scalefac, ptr⟩) h hfits hwritten hnone
    refine ⟨hagree, ?_, hat⟩
    simp only [if_neg Bool.false_ne_true, true_and]
    split_ifs
    · rfl
    · rfl

end

end Mp3Decoder
