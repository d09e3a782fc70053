import Mp3Decoder.Mad.SideInfo
import Mp3Decoder.Mad.HuffmanTables
import Mathlib.Algebra.Order.BigOperators.Group.List

/-!
# Huffman decoding, bit by bit

What `III_huffdecode` is for: the code words of a channel stand in the stream one after the other,
and every line of the spectrum is its value, requantized by the exponent of its band.  There is no
cache, no pointer into the band table and nothing is remembered.
-/

namespace Mp3Decoder

open BigEndianBits

/-! ### Bands and regions -/

/-- The band that a line belongs to. -/
def bandOf : List ℕ → ℕ → ℕ
  | [], _ => 0
  | width :: widths, line => if line < width then 0 else bandOf widths (line - width) + 1

/-- The region that a band belongs to: `region0_count + 1` bands, `region1_count + 1` bands, and all
that remain. -/
def regionOf (channel : Channel) (band : ℕ) : ℕ :=
  if band ≤ channel.region0Count then 0
  else if band ≤ channel.region0Count + 1 + channel.region1Count then 1
  else 2

/-- Bands of even widths, over all the lines.  No band is empty: of even widths alone this does not
follow, but every band table of the decoder is such (`exponentsAccesses_inBounds`). -/
structure BandWidths (widths : List ℕ) : Prop where
  pos : ∀ width ∈ widths, 0 < width
  even : ∀ width ∈ widths, 2 ∣ width
  sum_eq : widths.sum = 576

theorem BandWidths.length_le {widths : List ℕ} (hw : BandWidths widths) : widths.length ≤ 576 := by
  rw [← hw.sum_eq]
  exact List.length_le_sum_of_one_le widths hw.pos

theorem bandOf_eq {widths : List ℕ} {band line : ℕ} (hband : band < widths.length)
    (hlow : (widths.take band).sum ≤ line) (hhigh : line < (widths.take (band + 1)).sum) :
    bandOf widths line = band := by
  induction widths generalizing band line with
  | nil => exact absurd hband (Nat.not_lt_zero band)
  | cons width widths ih =>
    rw [List.take_succ_cons, List.sum_cons] at hhigh
    cases band with
    | zero =>
      rw [List.take_zero, List.sum_nil, Nat.add_zero] at hhigh
      exact if_pos hhigh
    | succ band =>
      rw [List.take_succ_cons, List.sum_cons] at hlow
      have hout : ¬ line < width := by omega
      have hrest : bandOf widths (line - width) = band :=
        ih (Nat.lt_of_succ_lt_succ hband) (by omega) (by omega)
      rw [bandOf, if_neg hout, hrest]

/-! ### Code words -/

/-- A value and, unless it is 0, its sign bit; with the position behind it. -/
def readSign (mem : Mem) (pos value : ℕ) : ℤ × ℕ :=
  if value = 0 then (0, pos) else (if bitAt mem pos = 1 then -value else value, pos + 1)

/-- A value of a quadruple: 0 or 1, with its sign bit. -/
def readUnit (mem : Mem) (pos value : ℕ) : ℤ × ℕ := readSign mem pos (if value ≠ 0 then 1 else 0)

/-- A value of a pair; where the table has linbits they follow the value 15. -/
def readValue (mem : Mem) (linbits pos value : ℕ) : ℤ × ℕ :=
  if linbits ≠ 0 ∧ value = 15 then
    readSign mem (pos + linbits) (15 + bitsVal mem pos linbits)
  else readSign mem pos value

/-- The decoder stands at bit `pos` and has found the first values. -/
structure BitDecoder where
  pos : ℕ
  values : List ℤ

namespace BitDecoder

def pair (mem : Mem) (table : ClumpTable PairValue 19) (linbits : ℕ) (d : BitDecoder) :
    BitDecoder :=
  let code := table.decode mem d.pos
  let x := readValue mem linbits (d.pos + code.2) code.1.x
  let y := readValue mem linbits x.2 code.1.y
  { pos := y.2, values := d.values ++ [x.1, y.1] }

/-- The big values: `n` pairs, unless the part ends at bit `last` before. -/
def pairs (tables : HuffTables) (mem : Mem) (channel : Channel) (widths : List ℕ) (last : ℕ) :
    ℕ → BitDecoder → BitDecoder × MadError
  | 0, d => (d, .none)
  | n + 1, d =>
    if d.pos < last then
      let region := regionOf channel (bandOf widths d.values.length)
      let entry := tables.pair (channel.tableSelect region)
      match entry.table with
      | none => (d, .badhufftable)
      | some table => pairs tables mem channel widths last n (d.pair mem table entry.linbits)
    else (d, .none)

def quad (mem : Mem) (table : ClumpTable QuadValue 6) (d : BitDecoder) : BitDecoder :=
  let code := table.decode mem d.pos
  let v := readUnit mem (d.pos + code.2) code.1.v
  let w := readUnit mem v.2 code.1.w
  let x := readUnit mem w.2 code.1.x
  let y := readUnit mem x.2 code.1.y
  { pos := y.2, values := d.values ++ [v.1, w.1, x.1, y.1] }

/-- The quadruples that follow, as long as there is room for one and the part goes on. -/
def quads (mem : Mem) (table : ClumpTable QuadValue 6) (last : ℕ) : ℕ → BitDecoder → BitDecoder
  | 0, d => d
  | n + 1, d =>
    if d.pos < last ∧ d.values.length ≤ 572 then quads mem table last n (d.quad mem table) else d

/-- The last quadruple is dropped where it runs over the end of the part. -/
def trim (last : ℕ) (d : BitDecoder) : List ℤ :=
  if last < d.pos then d.values.take (d.values.length - 4) else d.values

/-- The values of the part `start .. last`.  Region 0 has to have a table, used or not. -/
def decode (tables : HuffTables) (mem : Mem) (channel : Channel) (widths : List ℕ)
    (start last : ℕ) : List ℤ × MadError :=
  if (tables.pair (channel.tableSelect 0)).table.isNone then ([], .badhufftable)
  else
    let big := pairs tables mem channel widths last channel.bigValues ⟨start, []⟩
    if big.2 ≠ .none then (big.1.values, big.2)
    else if last < big.1.pos then (big.1.values, .badhuffdata)
    else
      let table := tables.quad (channel.flags &&& count1tableSelect)
      ((big.1.quads mem table last 144).trim last, .none)

end BitDecoder

/-! ### The spectrum -/

/-- `III_requantize` of a value with a sign. -/
def requantized (requantize : ℕ → ℤ → ℤ) (value exp : ℤ) : ℤ :=
  if value = 0 then 0
  else if value < 0 then -requantize value.natAbs exp
  else requantize value.natAbs exp

/-- Line `i` is its value, requantized by the exponent of its band; `rest` follows the values. -/
def spectrum (requantize : ℕ → ℤ → ℤ) (widths : List ℕ) (exponents : ℕ → ℤ) (values : List ℤ)
    (rest : ℕ → ℤ) : ℕ → ℤ :=
  fun i => if h : i < values.length then
    requantized requantize values[i] (exponents (bandOf widths i)) else rest i

/-- The lines behind the values: 0, or what they were in `xr` where decoding has failed. -/
def restLines (error : MadError) (xr : ℕ → ℤ) : ℕ → ℤ :=
  fun i => if error = .none ∧ i < 576 then 0 else xr i

end Mp3Decoder
