import Mp3Decoder.Mad.Bands
import Mp3Decoder.Mad.MainPtr

/-!
# Scalefactors (`III_scalefactors` and `III_scalefactors_lsf`)

The first part of a channel's main data.  How many bits it takes depends on the side information
alone: `part2Bits` and `part2BitsLsf`.
-/

namespace Mp3Decoder

/-- `slen1` and `slen2` of `sflen_table` -/
def sflenTable : List (ℕ × ℕ) := [
  (0, 0), (0, 1), (0, 2), (0, 3), (3, 0), (1, 1), (1, 2), (1, 3),
  (2, 1), (2, 2), (2, 3), (3, 1), (3, 2), (3, 3), (4, 2), (4, 3)]

def nsfbTable : List (List (List ℕ)) := [
  [[6, 5, 5, 5], [9, 9, 9, 9], [6, 9, 9, 9]],
  [[6, 5, 7, 3], [9, 9, 12, 6], [6, 9, 12, 6]],
  [[11, 10, 0, 0], [18, 18, 0, 0], [15, 18, 0, 0]],
  [[7, 7, 7, 0], [12, 12, 12, 0], [6, 15, 12, 0]],
  [[6, 6, 6, 3], [12, 9, 9, 6], [6, 12, 9, 6]],
  [[8, 8, 5, 0], [15, 12, 9, 0], [6, 18, 9, 0]]]

/-- `n` scalefactors of `slen` bits each, from `scalefac[sfbi]` on. -/
def readScalefacs (mem : Mem) (slen : ℕ) : ℕ → ℕ → (ℕ → ℕ) → MainPtr → (ℕ → ℕ) × MainPtr
  | 0, _, scalefac, ptr => (scalefac, ptr)
  | n + 1, sfbi, scalefac, ptr =>
    let r := ptr.read mem slen
    readScalefacs mem slen n (sfbi + 1) (Function.update scalefac sfbi r.1) r.2

/-- `for (sfbi = first; sfbi < last; ++sfbi) scalefac[sfbi] = values(sfbi);` -/
def setScalefacs (scalefac values : ℕ → ℕ) (first last : ℕ) : ℕ → ℕ :=
  fun sfbi => if first ≤ sfbi ∧ sfbi < last then values sfbi else scalefac sfbi

/-! ### MPEG-1 -/

/-- The scalefactors `first .. last` of a long block, copied from granule 0 where `scfsi` says
so. -/
def readScfsiBand (mem : Mem) (gr0ch : ℕ → ℕ) (scfsi bit slen first last : ℕ)
    (scalefac : ℕ → ℕ) (ptr : MainPtr) : (ℕ → ℕ) × MainPtr :=
  if scfsi &&& bit ≠ 0 then (setScalefacs scalefac gr0ch first last, ptr)
  else readScalefacs mem slen (last - first) first scalefac ptr

def slen1 (channel : Channel) : ℕ := (sflenTable.getD channel.scalefacCompress (0, 0)).1

def slen2 (channel : Channel) : ℕ := (sflenTable.getD channel.scalefacCompress (0, 0)).2

/-- The number of scalefactors of `slen1` bits of a short block. -/
def nsfbShort (channel : Channel) : ℕ := if channel.isMixed then 8 + 3 * 3 else 6 * 3

/-- `III_scalefactors`: the channel with its scalefactors, and the pointer behind them.  The
length that it returns is `mad_bit_length` from `ptr` on. -/
def iiiScalefactors (mem : Mem) (ptr : MainPtr) (channel gr0ch : Channel) (scfsi : ℕ) :
    Channel × MainPtr :=
  if channel.blockType = 2 then
    let nsfb := nsfbShort channel
    let r := readScalefacs mem (slen1 channel) nsfb 0 channel.scalefac ptr
    let r := readScalefacs mem (slen2 channel) (6 * 3) nsfb r.1 r.2
    ({ channel with
      scalefac := setScalefacs r.1 (fun _ => 0) (nsfb + 6 * 3) (nsfb + 6 * 3 + 1 * 3) }, r.2)
  else
    let band := readScfsiBand mem gr0ch.scalefac scfsi
    let r := band 0x8 (slen1 channel) 0 6 channel.scalefac ptr
    let r := band 0x4 (slen1 channel) 6 11 r.1 r.2
    let r := band 0x2 (slen2 channel) 11 16 r.1 r.2
    let r := band 0x1 (slen2 channel) 16 21 r.1 r.2
    ({ channel with scalefac := Function.update r.1 21 0 }, r.2)

/-! ### MPEG-2 -/

/-- The row of `nsfb_table` and `slen[4]`; `intensity` is for the right channel of intensity
stereo. -/
def lsfSlen (scalefacCompress : ℕ) (intensity : Bool) : ℕ × List ℕ :=
  if !intensity then
    if scalefacCompress < 400 then
      (0, [(scalefacCompress >>> 4) / 5, (scalefacCompress >>> 4) % 5,
        (scalefacCompress % 16) >>> 2, scalefacCompress % 4])
    else if scalefacCompress < 500 then
      let compress := scalefacCompress - 400
      (1, [(compress >>> 2) / 5, (compress >>> 2) % 5, compress % 4, 0])
    else
      let compress := scalefacCompress - 500
      (2, [compress / 3, compress % 3, 0, 0])
  else
    let compress := scalefacCompress >>> 1
    if compress < 180 then (3, [compress / 36, compress % 36 / 6, compress % 36 % 6, 0])
    else if compress < 244 then
      let compress := compress - 180
      (4, [(compress % 64) >>> 4, (compress % 16) >>> 2, compress % 4, 0])
    else
      let compress := compress - 244
      (5, [compress / 3, compress % 3, 0, 0])

/-- The column of `nsfb_table`. -/
def lsfIndex (channel : Channel) : ℕ :=
  if channel.blockType = 2 then if channel.isMixed then 2 else 1 else 0

/-- The four parts: the length of a scalefactor and their number. -/
def lsfParts (channel : Channel) (intensity : Bool) : List (ℕ × ℕ) :=
  let r := lsfSlen channel.scalefacCompress intensity
  r.2.zip ((nsfbTable.getD r.1 []).getD (lsfIndex channel) [])

structure LsfState where
  n : ℕ
  scalefac : ℕ → ℕ
  gr1Scalefac : ℕ → ℕ
  ptr : MainPtr

def readLsfPart (mem : Mem) (s : LsfState) (part : ℕ × ℕ) : LsfState :=
  let r := readScalefacs mem part.1 part.2 s.n s.scalefac s.ptr
  { s with n := s.n + part.2, scalefac := r.1, ptr := r.2 }

/-- A part of intensity positions: `gr1ch` records which of them are illegal. -/
def readIntensityPart (mem : Mem) (s : LsfState) (part : ℕ × ℕ) : LsfState :=
  let s' := readLsfPart mem s part
  let illegal (n : ℕ) : ℕ := if s'.scalefac n = (1 <<< part.1) - 1 then 1 else 0
  { s' with gr1Scalefac := setScalefacs s.gr1Scalefac illegal s.n (s.n + part.2) }

/-- `(mode_extension & I_STEREO) && gr1ch` -/
def isIntensity (modeExtension : ℕ) (gr1ch : Option Channel) : Bool :=
  modeExtension &&& 0x1 ≠ 0 ∧ gr1ch.isSome

/-- `III_scalefactors_lsf`: the two channels, and the pointer behind the scalefactors.  There is a
`gr1ch` for the right channel only. -/
def iiiScalefactorsLsf (mem : Mem) (ptr : MainPtr) (channel : Channel) (gr1ch : Option Channel)
    (modeExtension : ℕ) : Channel × Option Channel × MainPtr :=
  let intensity := isIntensity modeExtension gr1ch
  let parts := lsfParts channel intensity
  let zero (n : ℕ) (scalefac : ℕ → ℕ) := setScalefacs scalefac (fun _ => 0) n 39
  let start : LsfState := {
    n := 0, scalefac := channel.scalefac, gr1Scalefac := (gr1ch.getD {}).scalefac, ptr }
  if intensity then
    let s := parts.foldl (readIntensityPart mem) start
    ({ channel with scalefac := zero s.n s.scalefac },
      gr1ch.map fun gr1ch => { gr1ch with scalefac := zero s.n s.gr1Scalefac }, s.ptr)
  else
    let s := parts.foldl (readLsfPart mem) start
    let flags := if (lsfSlen channel.scalefacCompress false).1 = 2 then channel.flags ||| preflag
      else channel.flags
    ({ channel with flags, scalefac := zero s.n s.scalefac }, gr1ch, s.ptr)

/-! ### Their lengths -/

/-- The bits of `n` scalefactors, none where `scfsi` has them copied. -/
def scfsiBits (scfsi bit n slen : ℕ) : ℕ := if scfsi &&& bit ≠ 0 then 0 else n * slen

/-- The bits that `III_scalefactors` reads. -/
def part2Bits (channel : Channel) (scfsi : ℕ) : ℕ :=
  if channel.blockType = 2 then nsfbShort channel * slen1 channel + 6 * 3 * slen2 channel
  else scfsiBits scfsi 0x8 6 (slen1 channel) + scfsiBits scfsi 0x4 5 (slen1 channel) +
    scfsiBits scfsi 0x2 5 (slen2 channel) + scfsiBits scfsi 0x1 5 (slen2 channel)

/-- The bits that `III_scalefactors_lsf` reads. -/
def part2BitsLsf (channel : Channel) (intensity : Bool) : ℕ :=
  ((lsfParts channel intensity).map fun part => part.2 * part.1).sum

variable {mem : Mem} {lo hi : ℕ} {ptr : MainPtr} {pos : ℕ}

theorem readScalefacs_cursor {slen n sfbi : ℕ} {scalefac : ℕ → ℕ} (h : Cursor mem lo hi ptr pos)
    (hhi : pos + n * slen ≤ hi) :
    Cursor mem lo hi (readScalefacs mem slen n sfbi scalefac ptr).2 (pos + n * slen) := by
  induction n generalizing ptr pos sfbi scalefac with
  | zero => simpa [readScalefacs] using h
  | succ n ih =>
    have hsplit : pos + (n + 1) * slen = pos + slen + n * slen := by ring
    rw [hsplit] at hhi ⊢
    rw [readScalefacs]
    exact ih (h.read (by omega)) hhi

theorem readScfsiBand_cursor {gr0ch scalefac : ℕ → ℕ} {scfsi bit slen first last : ℕ}
    (h : Cursor mem lo hi ptr pos) (hhi : pos + scfsiBits scfsi bit (last - first) slen ≤ hi) :
    Cursor mem lo hi (readScfsiBand mem gr0ch scfsi bit slen first last scalefac ptr).2
      (pos + scfsiBits scfsi bit (last - first) slen) := by
  rw [scfsiBits] at hhi ⊢
  rw [readScfsiBand]
  by_cases hcopy : scfsi &&& bit ≠ 0
  · rw [if_pos hcopy, if_pos hcopy]
    exact h
  · rw [if_neg hcopy] at hhi ⊢
    rw [if_neg hcopy]
    exact readScalefacs_cursor h hhi

/-- **`III_scalefactors` reads `part2Bits` bits.** -/
theorem iiiScalefactors_cursor {channel gr0ch : Channel} {scfsi : ℕ}
    (h : Cursor mem lo hi ptr pos) (hhi : pos + part2Bits channel scfsi ≤ hi) :
    Cursor mem lo hi (iiiScalefactors mem ptr channel gr0ch scfsi).2
      (pos + part2Bits channel scfsi) := by
  rw [part2Bits] at hhi ⊢
  rw [iiiScalefactors]
  by_cases hshort : channel.blockType = 2
  · simp only [if_pos hshort] at hhi ⊢
    rw [← Nat.add_assoc]
    exact readScalefacs_cursor (readScalefacs_cursor h (by omega)) (by omega)
  · simp only [if_neg hshort] at hhi ⊢
    rw [← Nat.add_assoc, ← Nat.add_assoc, ← Nat.add_assoc]
    apply readScfsiBand_cursor
    · apply readScfsiBand_cursor
      · apply readScfsiBand_cursor
        · apply readScfsiBand_cursor h
          show pos + scfsiBits scfsi 0x8 6 (slen1 channel) ≤ hi
          omega
        · show pos + scfsiBits scfsi 0x8 6 (slen1 channel) + scfsiBits scfsi 0x4 5 (slen1 channel) ≤ hi
          omega
      · show pos + scfsiBits scfsi 0x8 6 (slen1 channel) + scfsiBits scfsi 0x4 5 (slen1 channel) +
          scfsiBits scfsi 0x2 5 (slen2 channel) ≤ hi
        omega
    · show pos + scfsiBits scfsi 0x8 6 (slen1 channel) + scfsiBits scfsi 0x4 5 (slen1 channel) +
        scfsiBits scfsi 0x2 5 (slen2 channel) + scfsiBits scfsi 0x1 5 (slen2 channel) ≤ hi
      omega

theorem foldParts_cursor {step : LsfState → ℕ × ℕ → LsfState}
    (hstep : ∀ s part, (step s part).ptr =
      (readScalefacs mem part.1 part.2 s.n s.scalefac s.ptr).2)
    (parts : List (ℕ × ℕ)) {s : LsfState} (h : Cursor mem lo hi s.ptr pos)
    (hhi : pos + (parts.map fun part => part.2 * part.1).sum ≤ hi) :
    Cursor mem lo hi (parts.foldl step s).ptr
      (pos + (parts.map fun part => part.2 * part.1).sum) := by
  induction parts generalizing s pos with
  | nil => exact h
  | cons part parts ih =>
    rw [List.map_cons, List.sum_cons, ← Nat.add_assoc] at hhi ⊢
    rw [List.foldl_cons]
    apply ih _ hhi
    rw [hstep]
    exact readScalefacs_cursor h (by omega)

/-- **`III_scalefactors_lsf` reads `part2BitsLsf` bits.** -/
theorem iiiScalefactorsLsf_cursor {channel : Channel} {gr1ch : Option Channel} {modeExtension : ℕ}
    (h : Cursor mem lo hi ptr pos)
    (hhi : pos + part2BitsLsf channel (isIntensity modeExtension gr1ch) ≤ hi) :
    Cursor mem lo hi (iiiScalefactorsLsf mem ptr channel gr1ch modeExtension).2.2
      (pos + part2BitsLsf channel (isIntensity modeExtension gr1ch)) := by
  rw [part2BitsLsf] at hhi ⊢
  rw [iiiScalefactorsLsf]
  cases hintensity : isIntensity modeExtension gr1ch with
  | true =>
    rw [hintensity] at hhi
    exact foldParts_cursor (fun _ _ => rfl) _ h hhi
  | false =>
    rw [hintensity] at hhi
    exact foldParts_cursor (fun _ _ => rfl) _ h hhi

end Mp3Decoder
