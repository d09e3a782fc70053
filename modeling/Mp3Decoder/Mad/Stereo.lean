import Mp3Decoder.Mad.Imdct
import Mp3Decoder.Mad.MainData

/-!
# Joint stereo (`III_stereo`)

The bands above the last one with a line of the right channel that is not 0 carry intensity
positions; the others may be middle/side coded.  `modes` has the mode of each band, which an illegal
position takes back to what `mode_extension` says without intensity stereo.

The loops go over the band table with the index `sfbi` and the line `l` of the band: `forBands`.
-/

namespace Mp3Decoder

/-! ### Loops over bands -/

/-- Where a loop over the bands has come to. -/
structure BandLoop (σ : Type) where
  rest : List ℕ
  sfbi : ℕ
  l : ℕ
  state : σ

/-- `while (l < limit) { n = sfbwidth[sfbi]; ...; ++sfbi; l += n; }` -/
def forBands {σ : Type} (limit : ℕ) (step : ℕ → ℕ → ℕ → σ → σ) :
    List ℕ → ℕ → ℕ → σ → BandLoop σ
  | [], sfbi, l, s => ⟨[], sfbi, l, s⟩
  | n :: widths, sfbi, l, s =>
    if l < limit then forBands limit step widths (sfbi + 1) (l + n) (step sfbi l n s)
    else ⟨n :: widths, sfbi, l, s⟩

/-- Only the steps at the bands of the table matter. -/
theorem forBands_congr {σ : Type} {limit : ℕ} {step step' : ℕ → ℕ → ℕ → σ → σ} {widths : List ℕ}
    {sfbi : ℕ} (h : ∀ sfbi', sfbi' < sfbi + widths.length → step sfbi' = step' sfbi') (l : ℕ)
    (s : σ) : forBands limit step widths sfbi l s = forBands limit step' widths sfbi l s := by
  induction widths generalizing sfbi l s with
  | nil => rfl
  | cons n widths ih =>
    rw [List.length_cons] at h
    have hrest : ∀ sfbi', sfbi' < sfbi + 1 + widths.length → step sfbi' = step' sfbi' :=
      fun sfbi' hlt => h sfbi' (by omega)
    rw [forBands, forBands, h sfbi (by omega), ih hrest]

/-! ### Tables -/

def rootTable : List Fixed := [
  madF 0x09837f05, madF 0x0b504f33, madF 0x0d744fcd, madF 0x10000000, madF 0x1306fe0a,
  madF 0x16a09e66, madF 0x1ae89f99]

/-- `is_table` -/
def intensityTable : List Fixed := [
  madF 0x00000000, madF 0x0361962f, madF 0x05db3d74, madF 0x08000000, madF 0x0a24c28c,
  madF 0x0c9e69d1, madF 0x10000000]

/-- `is_lsf_table` -/
def intensityLsfTable : List (List Fixed) := [
  [madF 0x0d744fcd, madF 0x0b504f33, madF 0x09837f05, madF 0x08000000, madF 0x06ba27e6,
    madF 0x05a8279a, madF 0x04c1bf83, madF 0x04000000, madF 0x035d13f3, madF 0x02d413cd,
    madF 0x0260dfc1, madF 0x02000000, madF 0x01ae89fa, madF 0x016a09e6, madF 0x01306fe1],
  [madF 0x0b504f33, madF 0x08000000, madF 0x05a8279a, madF 0x04000000, madF 0x02d413cd,
    madF 0x02000000, madF 0x016a09e6, madF 0x01000000, madF 0x00b504f3, madF 0x00800000,
    madF 0x005a827a, madF 0x00400000, madF 0x002d413d, madF 0x00200000, madF 0x0016a09e]]

/-! ### Which bands are processed -/

def iStereo : ℕ := 0x1

def msStereo : ℕ := 0x2

/-- `mode & ~I_STEREO` -/
def noIntensity (mode : ℕ) : ℕ := mode &&& 0xfffe

/-- Whether `right_xr` has a line that is not 0 in the band of width `n` at line `l`. -/
def bandNonzero (right : ℕ → Fixed) (l n : ℕ) : Bool :=
  (List.range n).any fun i => right (l + i) ≠ 0

/-- The end of the last band that is not zero; `bound`, or `lower` for the long bands of a mixed
block. -/
def lastNonzero (right : ℕ → Fixed) (sfbi l n bound : ℕ) : ℕ :=
  if bandNonzero right l n then sfbi + 1 else bound

structure ShortBounds where
  max : ℕ
  bound : ℕ → ℕ
  w : ℕ

/-- The same for the windows of a short block. -/
def lastNonzeroShort (right : ℕ → Fixed) (sfbi l n : ℕ) (s : ShortBounds) : ShortBounds :=
  let found := bandNonzero right l n
  { max := if found then sfbi + 1 else s.max
    bound := if found then Function.update s.bound s.w (sfbi + 1) else s.bound
    w := (s.w + 1) % 3 }

/-- `modes`, from the lines of the right channel -/
def stereoModes (modeExtension : ℕ) (blockType : ℕ) (mixed : Bool) (sfbwidth : List ℕ)
    (right : ℕ → Fixed) : ℕ → ℕ :=
  if blockType = 2 then
    let long := if mixed then forBands 36 (lastNonzero right) sfbwidth 0 0 0
      else ⟨sfbwidth, 0, 0, 0⟩
    let start := long.sfbi
    let short := (forBands 576 (lastNonzeroShort right) long.rest start long.l
      ⟨0, fun _ => 0, 0⟩).state
    let lower := if short.max ≠ 0 then start else long.state
    fun i =>
      if i < lower ∨ start ≤ i ∧ i < short.max ∧ i < short.bound ((i - start) % 3) then
        noIntensity modeExtension
      else modeExtension
  else
    let bound := (forBands 576 (lastNonzero right) sfbwidth 0 0 0).state
    fun i => if i < bound then noIntensity modeExtension else modeExtension

/-! ### The processing -/

structure StereoState where
  xr : ℕ → ℕ → Fixed
  modes : ℕ → ℕ

/-- The lines `l .. l + n` of both channels, each from the two lines there. -/
def mapBand (xr : ℕ → ℕ → Fixed) (l n : ℕ) (f : Fixed → Fixed → Fixed × Fixed) :
    ℕ → ℕ → Fixed := fun ch i =>
  if l ≤ i ∧ i < l + n then
    if ch = 0 then (f (xr 0 i) (xr 1 i)).1 else if ch = 1 then (f (xr 0 i) (xr 1 i)).2 else xr ch i
  else xr ch i

/-- An illegal position: no intensity stereo in this band. -/
def illegalBand (s : StereoState) (sfbi : ℕ) : StereoState :=
  { s with modes := Function.update s.modes sfbi (noIntensity (s.modes sfbi)) }

/-- A band of LSF intensity stereo. -/
def intensityLsf (scale : List Fixed) (illegalPos scalefac : ℕ → ℕ) (sfbi l n : ℕ)
    (s : StereoState) : StereoState :=
  if s.modes sfbi &&& iStereo = 0 then s
  else if illegalPos sfbi ≠ 0 then illegalBand s sfbi
  else
    let isPos := scalefac sfbi
    { s with
      xr := mapBand s.xr l n fun left _ =>
        if isPos = 0 then (left, left)
        else
          let opposite := madFMul left (scale.getD ((isPos - 1) / 2) 0)
          if isPos &&& 1 ≠ 0 then (opposite, left) else (left, opposite) }

/-- A band of MPEG-1 intensity stereo. -/
def intensityMpeg1 (scalefac : ℕ → ℕ) (sfbi l n : ℕ) (s : StereoState) : StereoState :=
  if s.modes sfbi &&& iStereo = 0 then s
  else
    let isPos := scalefac sfbi
    if 7 ≤ isPos then illegalBand s sfbi
    else
      { s with
        xr := mapBand s.xr l n fun left _ =>
          (madFMul left (intensityTable.getD isPos 0),
            madFMul left (intensityTable.getD (6 - isPos) 0)) }

/-- A band of middle/side stereo. -/
def middleSide (sfbi l n : ℕ) (s : StereoState) : StereoState :=
  if s.modes sfbi ≠ msStereo then s
  else
    let invsqrt2 := rootTable.getD 1 0
    { s with
      xr := mapBand s.xr l n fun m s => (madFMul (m + s) invsqrt2, madFMul (m - s) invsqrt2) }

/-- What `III_stereo` reads of the side information. -/
structure StereoInfo where
  /-- of both channels, as they agree -/
  blockType : ℕ
  mixed : Bool
  /-- of the right channel -/
  scalefacCompress : ℕ
  scalefac : ℕ → ℕ
  /-- `granule[1].ch[1].scalefac` -/
  illegalPos : ℕ → ℕ

/-- `III_stereo` for channels that agree. -/
def stereoLines (lsf : Bool) (modeExtension : ℕ) (info : StereoInfo) (sfbwidth : List ℕ)
    (xr : ℕ → ℕ → Fixed) : ℕ → ℕ → Fixed :=
  let intensity : StereoState :=
    if modeExtension &&& iStereo ≠ 0 then
      let start : StereoState :=
        { xr, modes := stereoModes modeExtension info.blockType info.mixed sfbwidth (xr 1) }
      let step := if lsf then
          intensityLsf (intensityLsfTable.getD (info.scalefacCompress &&& 0x1) []) info.illegalPos
            info.scalefac
        else intensityMpeg1 info.scalefac
      (forBands 576 step sfbwidth 0 0 start).state
    else { xr, modes := fun _ => modeExtension }
  if modeExtension &&& msStereo ≠ 0 then (forBands 576 middleSide sfbwidth 0 0 intensity).state.xr
  else intensity.xr

/-- The part of the side information for granule `gr`. -/
def stereoInfo (si : SideInfo) (gr : ℕ) : StereoInfo where
  blockType := (si.gr gr 1).blockType
  mixed := (si.gr gr 1).isMixed
  scalefacCompress := (si.gr gr 1).scalefacCompress
  scalefac := (si.gr gr 1).scalefac
  illegalPos := (si.gr (gr + 1) 1).scalefac

/-- `III_stereo`: the lines and the error. -/
def iiiStereo (header : MadHeader) (si : SideInfo) (gr : ℕ) (sfbwidth : List ℕ)
    (xr : ℕ → ℕ → Fixed) : (ℕ → ℕ → Fixed) × MadError :=
  if badStereo si gr then (xr, .badstereo)
  else
    (stereoLines header.flags.lsfExt header.modeExtension (stereoInfo si gr) sfbwidth xr, .none)

/-! ### What it depends on -/

/-- The parts that are read for a table of `bands` bands are the same. -/
structure StereoInfo.Agree (lsf : Bool) (bands : ℕ) (info info' : StereoInfo) : Prop where
  blockType : info.blockType = info'.blockType
  mixed : info.mixed = info'.mixed
  scalefacCompress : info.scalefacCompress = info'.scalefacCompress
  scalefac : ∀ sfbi < bands, info.scalefac sfbi = info'.scalefac sfbi
  illegalPos : lsf = true → ∀ sfbi < bands, info.illegalPos sfbi = info'.illegalPos sfbi

theorem stereoLines_agree {lsf : Bool} {modeExtension : ℕ} {info info' : StereoInfo}
    {sfbwidth : List ℕ} (h : info.Agree lsf sfbwidth.length info') (xr : ℕ → ℕ → Fixed) :
    stereoLines lsf modeExtension info sfbwidth xr =
      stereoLines lsf modeExtension info' sfbwidth xr := by
  have hloop : ∀ start, forBands 576
      (if lsf then intensityLsf (intensityLsfTable.getD (info.scalefacCompress &&& 0x1) [])
        info.illegalPos info.scalefac else intensityMpeg1 info.scalefac) sfbwidth 0 0 start =
      forBands 576
      (if lsf then intensityLsf (intensityLsfTable.getD (info'.scalefacCompress &&& 0x1) [])
        info'.illegalPos info'.scalefac else intensityMpeg1 info'.scalefac) sfbwidth 0 0 start := by
    intro start
    apply forBands_congr
    intro sfbi hsfbi
    rw [Nat.zero_add] at hsfbi
    funext l n s
    cases lsf with
    | true =>
      simp only [if_true, intensityLsf, h.scalefacCompress, h.scalefac sfbi hsfbi,
        h.illegalPos rfl sfbi hsfbi]
    | false =>
      simp only [Bool.false_eq_true, if_false, intensityMpeg1, h.scalefac sfbi hsfbi]
  simp only [stereoLines, h.blockType, h.mixed, hloop]

end Mp3Decoder
