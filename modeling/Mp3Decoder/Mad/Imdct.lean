import Mathlib.Data.BitVec
import Mathlib.Data.Nat.Notation
import Mathlib.Logic.Function.Basic

/-!
# From frequency lines to subband samples (`layer3.c`)

Alias reduction, the inverse transforms of long and short blocks, the overlap with the block before
and frequency inversion.  Fixed-point numbers are 32-bit words, and `mad_f_mul` drops the low bits of
both factors first.

The array `output` that the transforms write is not initialised, so it is an argument; their own
temporaries are written in full before they are read.
-/

namespace Mp3Decoder

/-- `mad_fixed_t` -/
abbrev Fixed : Type := BitVec 32

/-- `MAD_F(x)` -/
def madF (x : ℕ) : Fixed := BitVec.ofNat 32 x

def madFMul (x y : Fixed) : Fixed := x.sshiftRight 12 * y.sshiftRight 16

/-! ### Tables -/

/-- `cs` -/
def aliasCs : List Fixed := [
  madF 0x0db84a81, madF 0x0e1b9d7f, madF 0x0f31adcf, madF 0x0fbba815, madF 0x0feda417,
  madF 0x0ffc8fc8, madF 0x0fff964c, madF 0x0ffff8d3]

/-- `ca` -/
def aliasCa : List Fixed := [
  -madF 0x083b5fe7, -madF 0x078c36d2, -madF 0x05039814, -madF 0x02e91dd1, -madF 0x0183603a,
  -madF 0x00a7cb87, -madF 0x003a2847, -madF 0x000f27b4]

/-- `imdct_s` -/
def imdctSTable : List (List Fixed) := [
  [madF 0x09bd7ca0, -madF 0x0ec835e8, -madF 0x0216a2a2, madF 0x0fdcf549, -madF 0x061f78aa,
    -madF 0x0cb19346],
  [-madF 0x0cb19346, madF 0x061f78aa, madF 0x0fdcf549, madF 0x0216a2a2, -madF 0x0ec835e8,
    -madF 0x09bd7ca0],
  [madF 0x061f78aa, -madF 0x0ec835e8, madF 0x0ec835e8, -madF 0x061f78aa, -madF 0x061f78aa,
    madF 0x0ec835e8],
  [-madF 0x0ec835e8, -madF 0x061f78aa, madF 0x061f78aa, madF 0x0ec835e8, madF 0x0ec835e8,
    madF 0x061f78aa],
  [madF 0x0216a2a2, -madF 0x061f78aa, madF 0x09bd7ca0, -madF 0x0cb19346, madF 0x0ec835e8,
    -madF 0x0fdcf549],
  [-madF 0x0fdcf549, -madF 0x0ec835e8, -madF 0x0cb19346, -madF 0x09bd7ca0, -madF 0x061f78aa,
    -madF 0x0216a2a2]]

/-- `window_l` -/
def windowL : List Fixed := [
  madF 0x00b2aa3e, madF 0x0216a2a2, madF 0x03768962, madF 0x04cfb0e2, madF 0x061f78aa,
  madF 0x07635284, madF 0x0898c779, madF 0x09bd7ca0, madF 0x0acf37ad, madF 0x0bcbe352,
  madF 0x0cb19346, madF 0x0d7e8807, madF 0x0e313245, madF 0x0ec835e8, madF 0x0f426cb5,
  madF 0x0f9ee890, madF 0x0fdcf549, madF 0x0ffc19fd, madF 0x0ffc19fd, madF 0x0fdcf549,
  madF 0x0f9ee890, madF 0x0f426cb5, madF 0x0ec835e8, madF 0x0e313245, madF 0x0d7e8807,
  madF 0x0cb19346, madF 0x0bcbe352, madF 0x0acf37ad, madF 0x09bd7ca0, madF 0x0898c779,
  madF 0x07635284, madF 0x061f78aa, madF 0x04cfb0e2, madF 0x03768962, madF 0x0216a2a2,
  madF 0x00b2aa3e]

/-- `window_s` -/
def windowS : List Fixed := [
  madF 0x0216a2a2, madF 0x061f78aa, madF 0x09bd7ca0, madF 0x0cb19346, madF 0x0ec835e8,
  madF 0x0fdcf549, madF 0x0fdcf549, madF 0x0ec835e8, madF 0x0cb19346, madF 0x09bd7ca0,
  madF 0x061f78aa, madF 0x0216a2a2]

/-- `scale` of `sdctII` -/
def sdctScale : List Fixed := [
  madF 0x1fe0d3b4, madF 0x1ee8dd47, madF 0x1d007930, madF 0x1a367e59, madF 0x16a09e66,
  madF 0x125abcf8, madF 0x0d8616bc, madF 0x08483ee1, madF 0x02c9fad7]

/-- `scale` of `dctIV` -/
def dctScale : List Fixed := [
  madF 0x1ff833fa, madF 0x1fb9ea93, madF 0x1f3dd120, madF 0x1e84d969, madF 0x1d906bcf,
  madF 0x1c62648b, madF 0x1afd100f, madF 0x1963268b, madF 0x1797c6a4, madF 0x159e6f5b,
  madF 0x137af940, madF 0x11318ef3, madF 0x0ec6a507, madF 0x0c3ef153, madF 0x099f61c5,
  madF 0x06ed12c5, madF 0x042d4544, madF 0x0165547c]

/-! ### Alias reduction -/

/-- One butterfly: the `i`-th lines from the boundary `start` of two subbands. -/
def aliasStep (start : ℕ) (xr : ℕ → Fixed) (i : ℕ) : ℕ → Fixed :=
  let a := xr (start - 1 - i)
  let b := xr (start + i)
  let cs := aliasCs.getD i 0
  let ca := aliasCa.getD i 0
  Function.update (Function.update xr (start - 1 - i) (madFMul a cs + madFMul (-b) ca))
    (start + i) (madFMul b cs + madFMul a ca)

/-- `III_aliasreduce`, at the boundaries `18`, `36`, ... below `lines` -/
def iiiAliasreduce (xr : ℕ → Fixed) (lines : ℕ) : ℕ → Fixed :=
  (List.range ((lines - 1) / 18)).foldl
    (fun xr k => (List.range 8).foldl (aliasStep (18 * (k + 1))) xr) xr

/-! ### Long blocks -/

/-- `fastsdct`: the values for every other slot of `y`. -/
def fastsdct (x : ℕ → Fixed) : List Fixed :=
  let c0 := madF 0x1f838b8d
  let c1 := madF 0x1bb67ae8
  let c2 := madF 0x18836fa3
  let c3 := madF 0x1491b752
  let c4 := madF 0x0af1d43a
  let c5 := madF 0x058e86a0
  let c6 := -madF 0x1e11f642
  let a0 := x 3 + x 5
  let a1 := x 3 - x 5
  let a2 := x 6 + x 2
  let a3 := x 6 - x 2
  let a4 := x 1 + x 7
  let a5 := x 1 - x 7
  let a6 := x 8 + x 0
  let a7 := x 8 - x 0
  let a8 := a0 + a2
  let a9 := a0 - a2
  let a10 := a0 - a6
  let a11 := a2 - a6
  let a12 := a8 + a6
  let a13 := a1 - a3
  let a14 := a13 + a7
  let a15 := a3 + a7
  let a16 := a1 - a7
  let a17 := a1 + a3
  let m0 := madFMul a17 (-c3)
  let m1 := madFMul a16 (-c0)
  let m2 := madFMul a15 (-c4)
  let m3 := madFMul a14 (-c1)
  let m4 := madFMul a5 (-c1)
  let m5 := madFMul a11 (-c6)
  let m6 := madFMul a10 (-c5)
  let m7 := madFMul a9 (-c2)
  let a18 := x 4 + a4
  let a19 := 2 * x 4 - a4
  let a20 := a19 + m5
  let a21 := a19 - m5
  let a22 := a19 + m6
  let a23 := m4 + m2
  let a24 := m4 - m2
  let a25 := m4 + m1
  [a18 + a12, m0 - a25, m7 - a20, m3, a21 - m6, a24 - m1, a12 - 2 * a18, a23 + m0, a22 + m7]

/-- `sdctII`, of 18 values -/
def sdctII (x : ℕ → Fixed) : ℕ → Fixed :=
  let even := fastsdct fun i => x i + x (18 - i - 1)
  let odd := fastsdct fun i => madFMul (x i - x (18 - i - 1)) (sdctScale.getD i 0)
  let start (i : ℕ) : Fixed := if i % 2 = 0 then even.getD (i / 2) 0 else odd.getD (i / 2) 0
  -- output accumulation
  (List.range 8).foldl (fun X k =>
    Function.update X (2 * k + 3) (X (2 * k + 3) - X (2 * k + 1))) start

/-- `dctIV`, of 18 values -/
def dctIV (y : ℕ → Fixed) : ℕ → Fixed :=
  let X := sdctII fun i => madFMul (y i) (dctScale.getD i 0)
  -- scale reduction and output accumulation
  (List.range 17).foldl (fun X k =>
    Function.update X (k + 1) ((X (k + 1)).sdiv 2 - X k)) (Function.update X 0 ((X 0).sdiv 2))

/-- `imdct36`, over an array that holds `y` -/
def imdct36 (x y : ℕ → Fixed) : ℕ → Fixed :=
  let tmp := dctIV x
  fun i =>
    if i < 9 then tmp (9 + i)
    else if i < 27 then -tmp (36 - (9 + i) - 1)
    else if i < 36 then -tmp (i - 27)
    else y i

/-- `z[i] = mad_f_mul(z[i], window_l[i])` -/
def windowedL (z : ℕ → Fixed) (i : ℕ) : Fixed := madFMul (z i) (windowL.getD i 0)

/-- `III_imdct_l`, over an array that holds `output` -/
def iiiImdctL (x output : ℕ → Fixed) (blockType : ℕ) : ℕ → Fixed :=
  let z := imdct36 x output
  match blockType with
  | 0 => fun i => if i < 36 then windowedL z i else z i
  | 1 => fun i =>
    if i < 18 then windowedL z i
    else if i < 24 then z i
    else if i < 30 then madFMul (z i) (windowS.getD (i - 18) 0)
    else if i < 36 then 0
    else z i
  | 3 => fun i =>
    if i < 6 then 0
    else if i < 12 then madFMul (z i) (windowS.getD (i - 6) 0)
    else if i < 18 then z i
    else if i < 36 then windowedL z i
    else z i
  | _ => z

/-! ### Short blocks -/

/-- `X[0] * (*s)[0] + ... + X[5] * (*s)[5]` -/
def imdctSum (x : ℕ → Fixed) (row : ℕ) : Fixed :=
  (List.range 6).foldl (fun lo k => lo + madFMul (x k) ((imdctSTable.getD row []).getD k 0)) 0

/-- `yptr[j]` of one window -/
def imdctShort (x : ℕ → Fixed) (j : ℕ) : Fixed :=
  if j < 3 then imdctSum x (2 * j)
  else if j < 6 then -imdctSum x (2 * (5 - j))
  else if j < 9 then imdctSum x (2 * (j - 6) + 1)
  else imdctSum x (2 * (11 - j) + 1)

/-- `III_imdct_s`, over an array that holds `output` -/
def iiiImdctS (x output : ℕ → Fixed) : ℕ → Fixed :=
  let y (w j : ℕ) : Fixed := imdctShort (fun k => x (6 * w + k)) j
  let wptr (i : ℕ) : Fixed := windowS.getD i 0
  fun j =>
    let i := j % 6
    match j / 6 with
    | 0 => 0
    | 1 => madFMul (y 0 i) (wptr i)
    | 2 => madFMul (y 0 (i + 6)) (wptr (i + 6)) + madFMul (y 1 i) (wptr i)
    | 3 => madFMul (y 1 (i + 6)) (wptr (i + 6)) + madFMul (y 2 i) (wptr i)
    | 4 => madFMul (y 2 (i + 6)) (wptr (i + 6))
    | 5 => 0
    | _ => output j

/-! ### Overlap and frequency inversion -/

/-- The block of one channel: `sample[i][sb]`, `overlap[sb][i]` and `output`. -/
structure Subbands where
  sample : ℕ → ℕ → Fixed
  overlap : ℕ → ℕ → Fixed
  output : ℕ → Fixed

/-- `III_overlap` -/
def iiiOverlap (s : Subbands) (sb : ℕ) : Subbands :=
  { s with
    sample := fun i sb' =>
      if i < 18 ∧ sb' = sb then s.output i + s.overlap sb i else s.sample i sb'
    overlap := Function.update s.overlap sb fun i =>
      if i < 18 then s.output (i + 18) else s.overlap sb i }

/-- `III_overlap_z` -/
def iiiOverlapZ (s : Subbands) (sb : ℕ) : Subbands :=
  { s with
    sample := fun i sb' => if i < 18 ∧ sb' = sb then s.overlap sb i else s.sample i sb'
    overlap := Function.update s.overlap sb fun i => if i < 18 then 0 else s.overlap sb i }

/-- `III_freqinver` -/
def iiiFreqinver (s : Subbands) (sb : ℕ) : Subbands :=
  { s with
    sample := fun i sb' =>
      if i < 18 ∧ i % 2 = 1 ∧ sb' = sb then -s.sample i sb' else s.sample i sb' }

end Mp3Decoder
