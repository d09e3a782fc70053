import Mp3Decoder.Mad.Scalefactors
import Mp3Decoder.Mad.HuffmanTables

/-!
# Huffman decoding (`III_huffdecode`)

The code words of one channel are decoded from a 32-bit cache of `cachesz` unread bits.  `bits_left`
counts the bits of the part that are not in the cache yet, and goes below zero where the cache has
been filled from behind the end of the part.  `peek` runs ahead of the decoder.

`III_requantize` only works on the values and is a parameter.
-/

namespace Mp3Decoder

/-- The locals of `III_huffdecode`. -/
structure HuffState where
  peek : MainPtr
  bitcache : ℕ
  cachesz : ℤ
  bitsLeft : ℤ
  xr : ℕ → ℤ
  xrptr : ℕ
  sfbound : ℕ
  sfbwidth : List ℕ
  exp : ℤ
  expptr : ℕ
  region : ℕ
  rcount : ℕ
  table : ClumpTable PairValue 19
  linbits : ℕ
  reqhits : ℕ
  reqcache : ℕ → ℤ

namespace HuffState

/-- `bits` more bits for the cache. -/
def refill (mem : Mem) (s : HuffState) (bits : ℕ) : HuffState :=
  let r := s.peek.read mem bits
  { s with
    peek := r.2
    bitcache := (s.bitcache <<< bits ||| r.1) % 2 ^ 32
    cachesz := s.cachesz + bits
    bitsLeft := s.bitsLeft - bits }

def zero (s : HuffState) (i : ℕ) : HuffState :=
  { s with xr := Function.update s.xr (s.xrptr + i) 0 }

/-- `xrptr[i] = MASK1BIT(bitcache, cachesz--) ? -requantized : requantized;` -/
def signed (s : HuffState) (requantized : ℤ) (i : ℕ) : HuffState :=
  let sign := s.bitcache.testBit (s.cachesz - 1).toNat
  { s with
    cachesz := s.cachesz - 1
    xr := Function.update s.xr (s.xrptr + i) (if sign then -requantized else requantized) }

variable (requantize : ℕ → ℤ → ℤ)

/-- A value without linbits, requantized at most once for each exponent. -/
def plainValue (s : HuffState) (value i : ℕ) : HuffState :=
  if value = 0 then s.zero i
  else if s.reqhits.testBit value then s.signed (s.reqcache value) i
  else
    let requantized := requantize value s.exp
    { s with
      reqhits := s.reqhits ||| 1 <<< value
      reqcache := Function.update s.reqcache value requantized }.signed requantized i

/-- `case 15`: a value with linbits, of which `room` more bits than these have to be there.  The
test compares with an unsigned number. -/
def linbitsValue (mem : Mem) (s : HuffState) (i room : ℕ) : HuffState :=
  let s := if s.cachesz % 2 ^ 32 < (s.linbits + room : ℕ) then s.refill mem 16 else s
  let value := 15 + ClumpTable.mask s.bitcache s.cachesz s.linbits
  { s with cachesz := s.cachesz - s.linbits }.signed (requantize value s.exp) i

def pairValue (mem : Mem) (s : HuffState) (value i room : ℕ) : HuffState :=
  if s.linbits ≠ 0 ∧ value = 15 then s.linbitsValue requantize mem i room
  else s.plainValue requantize value i

/-- One code word of the big values. -/
def pair (mem : Mem) (s : HuffState) : HuffState :=
  let s := if s.cachesz < 21 then
      s.refill mem (((32 - 1 - 21) + (21 - s.cachesz)).toNat / 8 * 8)
    else s
  let r := s.table.lookup s.bitcache s.cachesz
  let s := { s with cachesz := r.2 }.pairValue requantize mem r.1.x 0 2
  let s := s.pairValue requantize mem r.1.y 1 1
  { s with xrptr := s.xrptr + 2 }

/-- `change table if region boundary`; `none` for a table that is not used. -/
def nextRegion (tables : HuffTables) (s : HuffState) (channel : Channel) : Option HuffState :=
  let s := { s with
    sfbound := s.sfbound + s.sfbwidth.headD 0
    sfbwidth := s.sfbwidth.tail
    rcount := (s.rcount + 2 ^ 32 - 1) % 2 ^ 32 }
  if s.rcount = 0 then
    let rcount := if s.region = 0 then channel.region1Count + 1 else 0  -- all remaining
    let entry := tables.pair (channel.tableSelect (s.region + 1))
    entry.table.map fun table =>
      { s with rcount, region := s.region + 1, table, linbits := entry.linbits }
  else some s

/-- The exponent of the next band; another one empties the cache of requantized values. -/
def nextExponent (s : HuffState) (exponents : ℕ → ℤ) : HuffState :=
  let s := if s.exp ≠ exponents s.expptr then { s with exp := exponents s.expptr, reqhits := 0 }
    else s
  { s with expptr := s.expptr + 1 }

/-- The big values; `MAD_ERROR_BADHUFFTABLE` where a region has no table. -/
def bigValues (tables : HuffTables) (mem : Mem) (channel : Channel) (exponents : ℕ → ℤ) :
    ℕ → HuffState → HuffState × MadError
  | 0, s => (s, .none)
  | n + 1, s =>
    if s.cachesz + s.bitsLeft > 0 then
      let next := if s.xrptr = s.sfbound then
          (s.nextRegion tables channel).map (·.nextExponent exponents)
        else some s
      match next with
      | none => (s, .badhufftable)
      | some s => bigValues tables mem channel exponents n (s.pair requantize mem)
    else (s, .none)

/-- The next band inside a quadruple. -/
def quadBand (s : HuffState) (exponents : ℕ → ℤ) : HuffState :=
  if s.xrptr = s.sfbound then
    { s with
      sfbound := s.sfbound + s.sfbwidth.headD 0
      sfbwidth := s.sfbwidth.tail
      exp := exponents s.expptr
      expptr := s.expptr + 1 }
  else s

/-- A value of 0 or 1; `requantized` always is `III_requantize(1, exp)`. -/
def quadValue (s : HuffState) (value i : ℕ) : HuffState :=
  if value ≠ 0 then s.signed (requantize 1 s.exp) i else s.zero i

/-- One code word of the `count1` region: four values, two at a time. -/
def quad (mem : Mem) (table : ClumpTable QuadValue 6) (exponents : ℕ → ℤ) (s : HuffState) :
    HuffState :=
  let s := if s.cachesz < 10 then s.refill mem 16 else s
  let r := table.lookup s.bitcache s.cachesz
  let s := { s with cachesz := r.2 }.quadBand exponents
  let s := (s.quadValue requantize r.1.v 0).quadValue requantize r.1.w 1
  let s := { s with xrptr := s.xrptr + 2 }.quadBand exponents
  let s := (s.quadValue requantize r.1.x 0).quadValue requantize r.1.y 1
  { s with xrptr := s.xrptr + 2 }

/-- `while (cachesz + bits_left > 0 && xrptr <= &xr[572])`; a round moves `xrptr` on by 4. -/
def count1 (mem : Mem) (table : ClumpTable QuadValue 6) (exponents : ℕ → ℤ) :
    ℕ → HuffState → HuffState
  | 0, s => s
  | n + 1, s =>
    if s.cachesz + s.bitsLeft > 0 ∧ s.xrptr ≤ 572 then
      count1 mem table exponents n (s.quad requantize mem table exponents)
    else s

/-- `rzero`, after the last quadruple has been taken back where it overran the part. -/
def rzero (s : HuffState) : ℕ → ℤ :=
  let xrptr := if s.cachesz + s.bitsLeft < 0 then s.xrptr - 4 else s.xrptr
  fun i => if xrptr ≤ i ∧ i < 576 then 0 else s.xr i

end HuffState

structure HuffResult where
  ptr : MainPtr
  xr : ℕ → ℤ
  error : MadError

/-- The cache filled up to a byte boundary, with `bitsLeft` bits of the part to come. -/
def huffStart (mem : Mem) (peek : MainPtr) (bitsLeft : ℤ) (xr : ℕ → ℤ) (channel : Channel)
    (sfbwidth : List ℕ) (exponents : ℕ → ℤ) (table : ClumpTable PairValue 19) (linbits : ℕ) :
    HuffState :=
  let left := peek.bits.left
  let cachesz := left + ((32 - 1 - 24) + (24 - left)) / 8 * 8
  let r := peek.read mem cachesz
  { peek := r.2
    bitcache := r.1
    cachesz := cachesz
    bitsLeft := bitsLeft - cachesz
    xr := xr
    xrptr := 0
    sfbound := sfbwidth.headD 0
    sfbwidth := sfbwidth.tail
    exp := exponents 0
    expptr := 1
    region := 0
    rcount := channel.region0Count + 1
    table := table
    linbits := linbits
    reqhits := 0
    reqcache := fun _ => 0 }

/-- The code words, from the first one on. -/
def huffWords (requantize : ℕ → ℤ → ℤ) (tables : HuffTables) (mem : Mem) (channel : Channel)
    (exponents : ℕ → ℤ) (s : HuffState) : HuffState × MadError :=
  let r := s.bigValues requantize tables mem channel exponents channel.bigValues
  if r.2 ≠ .none then r
  else if r.1.cachesz + r.1.bitsLeft < 0 then (r.1, .badhuffdata)  -- big_values overrun
  else
    let table := tables.quad (channel.flags &&& count1tableSelect)
    (r.1.count1 requantize mem table exponents 144, .none)

/-- `III_huffdecode` from `peek = *ptr` on, for `bitsLeft` bits. -/
def huffdecodePart (requantize : ℕ → ℤ → ℤ) (tables : HuffTables) (mem : Mem) (ptr : MainPtr)
    (xr : ℕ → ℤ) (channel : Channel) (sfbwidth : List ℕ) (bitsLeft : ℤ) (exponents : ℕ → ℤ) :
    HuffResult :=
  let skipped := ptr.skip mem bitsLeft.toNat
  let peek : MainPtr := { skipped with bits := ptr.bits }
  let entry := tables.pair (channel.tableSelect 0)
  let s := huffStart mem peek bitsLeft xr channel sfbwidth exponents
    (entry.table.getD pairTable0) entry.linbits
  if entry.table.isNone then
    { ptr := { skipped with reads := s.peek.reads }, xr, error := .badhufftable }
  else
    let r := huffWords requantize tables mem channel exponents s
    { ptr := { skipped with reads := r.1.peek.reads }
      xr := if r.2 = .none then r.1.rzero else r.1.xr
      error := r.2 }

/-- `III_huffdecode`, with the array `exponents` filled in and any tables. -/
def huffdecodeWith (requantize : ℕ → ℤ → ℤ) (tables : HuffTables) (mem : Mem) (ptr : MainPtr)
    (xr : ℕ → ℤ) (channel : Channel) (sfbwidth : List ℕ) (part2Length : ℤ) (exponents : ℕ → ℤ) :
    HuffResult :=
  let bitsLeft := (channel.part23Length : ℤ) - part2Length
  if bitsLeft < 0 then { ptr, xr, error := .badpart3len }
  else huffdecodePart requantize tables mem ptr xr channel sfbwidth bitsLeft exponents

/-- `III_huffdecode`, with the uninitialised array `exponents`. -/
def iiiHuffdecode (requantize : ℕ → ℤ → ℤ) (mem : Mem) (ptr : MainPtr) (xr : ℕ → ℤ)
    (channel : Channel) (sfbwidth : List ℕ) (part2Length : ℤ) (exponents : ℕ → ℤ) : HuffResult :=
  huffdecodeWith requantize madHuffTables mem ptr xr channel sfbwidth part2Length
    (iiiExponents channel sfbwidth exponents)

end Mp3Decoder
