import Mp3Decoder.Mad.Huffdecode

/-!
# The steps of `III_huffdecode`

Every point the program passes on its way, with the array elements it touches there.  The points
follow the functions of `Huffdecode` statement by statement.
-/

namespace Mp3Decoder

/-- An array element; of `sfbwidth`, how many of the entries are left from there on. -/
inductive HuffAccess
  | xr (i : ℤ)
  | exponents (i : ℕ)
  | sfbwidth (left : ℕ)
  | tableSelect (i : ℕ)
  | rqTable (value : ℕ)
  | reqcache (value : ℕ)
  | scalefac (i : ℕ)
  | pretab (i : ℕ)
  | subblockGain (i : ℕ)
  deriving DecidableEq

/-- The program behind a statement, and what that statement accessed. -/
structure HuffPoint where
  state : HuffState
  accesses : List HuffAccess := []

namespace HuffState

variable (requantize : ℕ → ℤ → ℤ)

/-- The elements that `plainValue` touches. -/
def plainAccesses (s : HuffState) (value i : ℕ) : List HuffAccess :=
  if value = 0 then [.xr (s.xrptr + i)]
  else if s.reqhits.testBit value then [.reqcache value, .xr (s.xrptr + i)]
  else [.rqTable value, .reqcache value, .xr (s.xrptr + i)]

def linbitsPoints (mem : Mem) (s : HuffState) (i room : ℕ) : List HuffPoint :=
  let full := if s.cachesz % 2 ^ 32 < (s.linbits + room : ℕ) then s.refill mem 16 else s
  let value := 15 + ClumpTable.mask full.bitcache full.cachesz full.linbits
  [⟨full, []⟩, ⟨{ full with cachesz := full.cachesz - full.linbits }, [.rqTable value]⟩,
    ⟨s.linbitsValue requantize mem i room, [.xr (s.xrptr + i)]⟩]

def pairValuePoints (mem : Mem) (s : HuffState) (value i room : ℕ) : List HuffPoint :=
  if s.linbits ≠ 0 ∧ value = 15 then s.linbitsPoints requantize mem i room
  else [⟨s.plainValue requantize value i, s.plainAccesses value i⟩]

end HuffState

/-- `cachesz` after each `cachesz -= clumpsz` of a lookup. -/
def clumpSizes {α : Type} (entries : List (ClumpTable.Entry α)) (cache : ℕ) :
    ℕ → ℤ → ℕ → ℕ → List ℤ
  | 0, _, _, _ => []
  | depth + 1, sz, offset, bits =>
    match entries[offset + ClumpTable.mask cache sz bits]? with
    | some (.ptr offset' bits') =>
      (sz - bits) :: clumpSizes entries cache depth (sz - bits) offset' bits'
    | _ => []

namespace HuffState

variable (requantize : ℕ → ℤ → ℤ)

/-- The points of a lookup in a table. -/
def lookupPoints {α : Type} {budget : ℕ} (s : HuffState) (table : ClumpTable α budget) :
    List HuffPoint :=
  (clumpSizes table.entries s.bitcache table.depth s.cachesz 0 table.startbits ++
    [(table.lookup s.bitcache s.cachesz).2]).map fun sz => ⟨{ s with cachesz := sz }, []⟩

def pairPoints (mem : Mem) (s : HuffState) : List HuffPoint :=
  let s := if s.cachesz < 21 then
      s.refill mem (((32 - 1 - 21) + (21 - s.cachesz)).toNat / 8 * 8)
    else s
  let r := s.table.lookup s.bitcache s.cachesz
  let looked := { s with cachesz := r.2 }
  ⟨s, []⟩ :: s.lookupPoints s.table ++ looked.pairValuePoints requantize mem r.1.x 0 2 ++
    (looked.pairValue requantize mem r.1.x 0 2).pairValuePoints requantize mem r.1.y 1 1

/-- The elements touched at a band boundary of the big values. -/
def regionAccesses (s : HuffState) : List HuffAccess :=
  .sfbwidth s.sfbwidth.length ::
    if (s.rcount + 2 ^ 32 - 1) % 2 ^ 32 = 0 then [.tableSelect (s.region + 1)] else []

def bigValuesPoints (tables : HuffTables) (mem : Mem) (channel : Channel) (exponents : ℕ → ℤ) :
    ℕ → HuffState → List HuffPoint
  | 0, _ => []
  | n + 1, s =>
    if s.cachesz + s.bitsLeft > 0 then
      let next := if s.xrptr = s.sfbound then
          (s.nextRegion tables channel).map (·.nextExponent exponents)
        else some s
      let accesses := if s.xrptr = s.sfbound then s.regionAccesses else []
      match next with
      | none => [⟨s, accesses⟩]
      | some t =>
        let exponent := if s.xrptr = s.sfbound then [.exponents s.expptr] else []
        ⟨t, accesses ++ exponent⟩ :: t.pairPoints requantize mem ++
          bigValuesPoints tables mem channel exponents n (t.pair requantize mem)
    else []

/-- The elements touched at a band boundary of the quadruples. -/
def quadAccesses (s : HuffState) : List HuffAccess :=
  if s.xrptr = s.sfbound then
    [.sfbwidth s.sfbwidth.length, .exponents s.expptr, .rqTable 1]
  else []

/-- Two values of a quadruple, from the band boundary before them on. -/
def halfQuadPoints (s : HuffState) (exponents : ℕ → ℤ) (a b : ℕ) : List HuffPoint :=
  let t := s.quadBand exponents
  let u := t.quadValue requantize a 0
  [⟨t, s.quadAccesses⟩, ⟨u, [.xr t.xrptr]⟩,
    ⟨u.quadValue requantize b 1, [.xr (t.xrptr + 1)]⟩]

def quadPoints (mem : Mem) (table : ClumpTable QuadValue 6) (exponents : ℕ → ℤ) (s : HuffState) :
    List HuffPoint :=
  let s := if s.cachesz < 10 then s.refill mem 16 else s
  let r := table.lookup s.bitcache s.cachesz
  let looked : HuffState := { s with cachesz := r.2 }
  let half := ((looked.quadBand exponents).quadValue requantize r.1.v 0).quadValue requantize r.1.w 1
  ⟨s, []⟩ :: s.lookupPoints table ++ looked.halfQuadPoints requantize exponents r.1.v r.1.w ++
    HuffState.halfQuadPoints requantize { half with xrptr := half.xrptr + 2 } exponents r.1.x r.1.y

def count1Points (mem : Mem) (table : ClumpTable QuadValue 6) (exponents : ℕ → ℤ) :
    ℕ → HuffState → List HuffPoint
  | 0, _ => []
  | n + 1, s =>
    if s.cachesz + s.bitsLeft > 0 ∧ s.xrptr ≤ 572 then
      s.quadPoints requantize mem table exponents ++
        count1Points mem table exponents n (s.quad requantize mem table exponents)
    else []

/-- The elements that `rzero` touches, two at a time. -/
def rzeroAccesses (s : HuffState) : List HuffAccess :=
  let xrptr : ℤ := if s.cachesz + s.bitsLeft < 0 then s.xrptr - 4 else s.xrptr
  (List.range ((576 - xrptr + 1) / 2).toNat).flatMap fun k : ℕ =>
    [.xr (xrptr + 2 * k), .xr (xrptr + 2 * k + 1)]

end HuffState

def huffWordsPoints (requantize : ℕ → ℤ → ℤ) (tables : HuffTables) (mem : Mem) (channel : Channel)
    (exponents : ℕ → ℤ) (s : HuffState) : List HuffPoint :=
  let big := s.bigValues requantize tables mem channel exponents channel.bigValues
  s.bigValuesPoints requantize tables mem channel exponents channel.bigValues ++
    if big.2 ≠ .none then []
    else if big.1.cachesz + big.1.bitsLeft < 0 then []
    else
      let table := tables.quad (channel.flags &&& count1tableSelect)
      let quads := big.1.count1 requantize mem table exponents 144
      ⟨big.1, [.rqTable 1]⟩ :: big.1.count1Points requantize mem table exponents 144 ++
        [⟨quads, quads.rzeroAccesses⟩]

/-- The points of `III_huffdecode`, none where the scalefactors are longer than the part. -/
def huffdecodePoints (requantize : ℕ → ℤ → ℤ) (tables : HuffTables) (mem : Mem) (ptr : MainPtr)
    (xr : ℕ → ℤ) (channel : Channel) (sfbwidth : List ℕ) (part2Length : ℤ) (exponents : ℕ → ℤ) :
    List HuffPoint :=
  let bitsLeft := (channel.part23Length : ℤ) - part2Length
  if bitsLeft < 0 then []
  else
    let skipped := ptr.skip mem bitsLeft.toNat
    let peek : MainPtr := { skipped with bits := ptr.bits }
    let entry := tables.pair (channel.tableSelect 0)
    let s := huffStart mem peek bitsLeft xr channel sfbwidth exponents
      (entry.table.getD pairTable0) entry.linbits
    ⟨s, [.sfbwidth sfbwidth.length, .tableSelect 0, .exponents 0]⟩ ::
      if entry.table.isNone then []
      else huffWordsPoints requantize tables mem channel exponents s

/-! ### `III_exponents` -/

/-- `while (l < 576)`; fewer than three entries of the band table are not enough. -/
def shortAccesses : List ℕ → ℕ → ℕ → List HuffAccess
  | width :: width' :: width'' :: sfbwidth, l, sfbi =>
    if l < 576 then
      [.exponents sfbi, .scalefac sfbi, .exponents (sfbi + 1), .scalefac (sfbi + 1),
        .exponents (sfbi + 2), .scalefac (sfbi + 2),
        .sfbwidth (width :: width' :: width'' :: sfbwidth).length] ++
        shortAccesses sfbwidth (l + 3 * width) (sfbi + 3)
    else []
  | _, l, _ => if l < 576 then [.sfbwidth 0] else []

/-- `while (l < 36)`, and the short bands behind. -/
def mixedAccesses : List ℕ → ℕ → ℕ → List HuffAccess
  | [], l, sfbi => if l < 36 then [.sfbwidth 0] else shortAccesses [] l sfbi
  | width :: sfbwidth, l, sfbi =>
    if l < 36 then
      [.exponents sfbi, .scalefac sfbi, .pretab sfbi, .sfbwidth (width :: sfbwidth).length] ++
        mixedAccesses sfbwidth (l + width) (sfbi + 1)
    else shortAccesses (width :: sfbwidth) l sfbi

def longAccesses (preflag : Bool) : List HuffAccess :=
  (List.range 22).flatMap fun sfbi =>
    [.exponents sfbi, .scalefac sfbi] ++ if preflag then [.pretab sfbi] else []

def exponentsAccesses (channel : Channel) (sfbwidth : List ℕ) : List HuffAccess :=
  if channel.blockType = 2 then
    [.subblockGain 0, .subblockGain 1, .subblockGain 2] ++
      if channel.isMixed then mixedAccesses sfbwidth 0 0 else shortAccesses sfbwidth 0 0
  else longAccesses channel.hasPreflag

/-- All that `III_huffdecode` and the `III_exponents` in it touch. -/
def iiiHuffdecodeAccesses (requantize : ℕ → ℤ → ℤ) (mem : Mem) (ptr : MainPtr) (xr : ℕ → ℤ)
    (channel : Channel) (sfbwidth : List ℕ) (part2Length : ℤ) (exponents : ℕ → ℤ) :
    List HuffAccess :=
  (if (channel.part23Length : ℤ) - part2Length < 0 then [] else exponentsAccesses channel sfbwidth) ++
    (huffdecodePoints requantize madHuffTables mem ptr xr channel sfbwidth part2Length
      (iiiExponents channel sfbwidth exponents)).flatMap HuffPoint.accesses

end Mp3Decoder
