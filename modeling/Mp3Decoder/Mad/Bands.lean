import Mp3Decoder.Mad.SideInfo

/-!
# Scalefactor bands (`layer3.c`)

The band widths for each sample rate and block type, and `III_exponents`, which works out the
exponent of each band.  A band table is read through a moving pointer: the rest of a list.
-/

namespace Mp3Decoder

/-! ### Widths -/

def sfb48000Long : List ℕ :=
  [4, 4, 4, 4, 4, 4, 6, 6, 6, 8, 10, 12, 16, 18, 22, 28, 34, 40, 46, 54, 54, 192]

def sfb44100Long : List ℕ :=
  [4, 4, 4, 4, 4, 4, 6, 6, 8, 8, 10, 12, 16, 20, 24, 28, 34, 42, 50, 54, 76, 158]

def sfb32000Long : List ℕ :=
  [4, 4, 4, 4, 4, 4, 6, 6, 8, 10, 12, 16, 20, 24, 30, 38, 46, 56, 68, 84, 102, 26]

def sfb48000Short : List ℕ :=
  [4, 4, 4, 4, 4, 4, 4, 4, 4, 4, 4, 4, 6, 6, 6, 6, 6, 6, 10, 10, 10, 12, 12, 12, 14, 14, 14, 16, 16,
    16, 20, 20, 20, 26, 26, 26, 66, 66, 66]

def sfb44100Short : List ℕ :=
  [4, 4, 4, 4, 4, 4, 4, 4, 4, 4, 4, 4, 6, 6, 6, 8, 8, 8, 10, 10, 10, 12, 12, 12, 14, 14, 14, 18, 18,
    18, 22, 22, 22, 30, 30, 30, 56, 56, 56]

def sfb32000Short : List ℕ :=
  [4, 4, 4, 4, 4, 4, 4, 4, 4, 4, 4, 4, 6, 6, 6, 8, 8, 8, 12, 12, 12, 16, 16, 16, 20, 20, 20, 26, 26,
    26, 34, 34, 34, 42, 42, 42, 12, 12, 12]

def sfb48000Mixed : List ℕ :=
  [4, 4, 4, 4, 4, 4, 6, 6, 4, 4, 4, 6, 6, 6, 6, 6, 6, 10, 10, 10, 12, 12, 12, 14, 14, 14, 16, 16,
    16, 20, 20, 20, 26, 26, 26, 66, 66, 66]

def sfb44100Mixed : List ℕ :=
  [4, 4, 4, 4, 4, 4, 6, 6, 4, 4, 4, 6, 6, 6, 8, 8, 8, 10, 10, 10, 12, 12, 12, 14, 14, 14, 18, 18,
    18, 22, 22, 22, 30, 30, 30, 56, 56, 56]

def sfb32000Mixed : List ℕ :=
  [4, 4, 4, 4, 4, 4, 6, 6, 4, 4, 4, 6, 6, 6, 8, 8, 8, 12, 12, 12, 16, 16, 16, 20, 20, 20, 26, 26,
    26, 34, 34, 34, 42, 42, 42, 12, 12, 12]

def sfb24000Long : List ℕ :=
  [6, 6, 6, 6, 6, 6, 8, 10, 12, 14, 16, 18, 22, 26, 32, 38, 46, 54, 62, 70, 76, 36]

def sfb22050Long : List ℕ :=
  [6, 6, 6, 6, 6, 6, 8, 10, 12, 14, 16, 20, 24, 28, 32, 38, 46, 52, 60, 68, 58, 54]

def sfb24000Short : List ℕ :=
  [4, 4, 4, 4, 4, 4, 4, 4, 4, 6, 6, 6, 8, 8, 8, 10, 10, 10, 12, 12, 12, 14, 14, 14, 18, 18, 18, 24,
    24, 24, 32, 32, 32, 44, 44, 44, 12, 12, 12]

def sfb22050Short : List ℕ :=
  [4, 4, 4, 4, 4, 4, 4, 4, 4, 6, 6, 6, 6, 6, 6, 8, 8, 8, 10, 10, 10, 14, 14, 14, 18, 18, 18, 26, 26,
    26, 32, 32, 32, 42, 42, 42, 18, 18, 18]

def sfb16000Short : List ℕ :=
  [4, 4, 4, 4, 4, 4, 4, 4, 4, 6, 6, 6, 8, 8, 8, 10, 10, 10, 12, 12, 12, 14, 14, 14, 18, 18, 18, 24,
    24, 24, 30, 30, 30, 40, 40, 40, 18, 18, 18]

def sfb24000Mixed : List ℕ :=
  [6, 6, 6, 6, 6, 6, 6, 6, 6, 8, 8, 8, 10, 10, 10, 12, 12, 12, 14, 14, 14, 18, 18, 18, 24, 24, 24,
    32, 32, 32, 44, 44, 44, 12, 12, 12]

def sfb22050Mixed : List ℕ :=
  [6, 6, 6, 6, 6, 6, 6, 6, 6, 6, 6, 6, 8, 8, 8, 10, 10, 10, 14, 14, 14, 18, 18, 18, 26, 26, 26, 32,
    32, 32, 42, 42, 42, 18, 18, 18]

def sfb16000Mixed : List ℕ :=
  [6, 6, 6, 6, 6, 6, 6, 6, 6, 8, 8, 8, 10, 10, 10, 12, 12, 12, 14, 14, 14, 18, 18, 18, 24, 24, 24,
    30, 30, 30, 40, 40, 40, 18, 18, 18]

def sfb8000Long : List ℕ :=
  [12, 12, 12, 12, 12, 12, 16, 20, 24, 28, 32, 40, 48, 56, 64, 76, 90, 2, 2, 2, 2, 2]

def sfb8000Short : List ℕ :=
  [8, 8, 8, 8, 8, 8, 8, 8, 8, 12, 12, 12, 16, 16, 16, 20, 20, 20, 24, 24, 24, 28, 28, 28, 36, 36,
    36, 2, 2, 2, 2, 2, 2, 2, 2, 2, 26, 26, 26]

def sfb8000Mixed : List ℕ :=
  [12, 12, 12, 4, 4, 4, 8, 8, 8, 12, 12, 12, 16, 16, 16, 20, 20, 20, 24, 24, 24, 28, 28, 28, 36, 36,
    36, 2, 2, 2, 2, 2, 2, 2, 2, 2, 26, 26, 26]

structure SfbWidths where
  l : List ℕ
  s : List ℕ
  m : List ℕ

/-- `sfbwidth_table`; 16000, 12000 and 11025 Hz share the long bands of 22050 Hz, and 12000 and
11025 Hz the short and mixed ones of 16000 Hz. -/
def sfbwidthTable : List SfbWidths := [
  ⟨sfb48000Long, sfb48000Short, sfb48000Mixed⟩,
  ⟨sfb44100Long, sfb44100Short, sfb44100Mixed⟩,
  ⟨sfb32000Long, sfb32000Short, sfb32000Mixed⟩,
  ⟨sfb24000Long, sfb24000Short, sfb24000Mixed⟩,
  ⟨sfb22050Long, sfb22050Short, sfb22050Mixed⟩,
  ⟨sfb22050Long, sfb16000Short, sfb16000Mixed⟩,
  ⟨sfb22050Long, sfb16000Short, sfb16000Mixed⟩,
  ⟨sfb22050Long, sfb16000Short, sfb16000Mixed⟩,
  ⟨sfb8000Long, sfb8000Short, sfb8000Mixed⟩]

/-- `sfreqi` -/
def sfreqIndex (header : MadHeader) : ℕ :=
  let sfreq := if header.flags.mpeg25Ext then header.samplerate * 2 else header.samplerate
  let index := ((sfreq >>> 7 &&& 0x000f) + (sfreq >>> 15 &&& 0x0001) + 2 ^ 32 - 8) % 2 ^ 32
  if header.flags.mpeg25Ext then index + 3 else index

/-- `sfbwidth[ch]` -/
def sfbwidthOf (header : MadHeader) (channel : Channel) : List ℕ :=
  let widths := sfbwidthTable.getD (sfreqIndex header) ⟨[], [], []⟩
  if channel.blockType = 2 then if channel.isMixed then widths.m else widths.s else widths.l

/-! ### Exponents -/

def pretab : List ℕ := [0, 0, 0, 0, 0, 0, 0, 0, 0, 0, 0, 1, 1, 1, 1, 2, 2, 3, 3, 3, 2, 0]

def Channel.hasPreflag (channel : Channel) : Bool := channel.flags &&& preflag ≠ 0

/-- `scalefac_multiplier` -/
def Channel.scalefacMultiplier (channel : Channel) : ℕ :=
  if channel.flags &&& scalefacScale ≠ 0 then 2 else 1

/-- The exponent of a long band. -/
def longExponent (channel : Channel) (gain : ℤ) (sfbi : ℕ) : ℤ :=
  gain - ((channel.scalefac sfbi + if channel.hasPreflag then pretab.getD sfbi 0 else 0) <<<
    channel.scalefacMultiplier : ℕ)

/-- `while (l < 36)`: the long bands of a mixed block, up to the first short one. -/
def mixedExponents (channel : Channel) (gain : ℤ) :
    List ℕ → ℕ → ℕ → (ℕ → ℤ) → List ℕ × ℕ × ℕ × (ℕ → ℤ)
  | [], l, sfbi, exponents => ([], l, sfbi, exponents)
  | width :: sfbwidth, l, sfbi, exponents =>
    if l < 36 then
      mixedExponents channel gain sfbwidth (l + width) (sfbi + 1)
        (Function.update exponents sfbi (longExponent channel gain sfbi))
    else (width :: sfbwidth, l, sfbi, exponents)

/-- `while (l < 576)`: the short bands, three windows at a time. -/
def shortExponents (channel : Channel) (gain : ℤ) :
    List ℕ → ℕ → ℕ → (ℕ → ℤ) → ℕ → ℤ
  | width :: _ :: _ :: sfbwidth, l, sfbi, exponents =>
    if l < 576 then
      let exponent (w : ℕ) : ℤ := gain - 8 * (channel.subblockGain w : ℤ) -
        (channel.scalefac (sfbi + w) <<< channel.scalefacMultiplier : ℕ)
      shortExponents channel gain sfbwidth (l + 3 * width) (sfbi + 3)
        (Function.update (Function.update (Function.update exponents
          sfbi (exponent 0)) (sfbi + 1) (exponent 1)) (sfbi + 2) (exponent 2))
    else exponents
  | _, _, _, exponents => exponents

/-- `III_exponents`, over an array that holds `exponents`. -/
def iiiExponents (channel : Channel) (sfbwidth : List ℕ) (exponents : ℕ → ℤ) : ℕ → ℤ :=
  let gain : ℤ := channel.globalGain - 210
  if channel.blockType = 2 then
    let r := if channel.isMixed then mixedExponents channel gain sfbwidth 0 0 exponents
      else (sfbwidth, 0, 0, exponents)
    shortExponents channel gain r.1 r.2.1 r.2.2.1 r.2.2.2
  else fun sfbi => if sfbi < 22 then longExponent channel gain sfbi else exponents sfbi

end Mp3Decoder
