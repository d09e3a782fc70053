import Mp3Decoder.Mad.Header

/-!
# Layer III side information (`III_sideinfo`)

The arrays of `struct sideinfo` are functions of their index, so that what the decoder leaves
unset stays what it was: the structure lives on the stack and is not cleared.
-/

namespace Mp3Decoder

open BigEndianBits

def count1tableSelect : ℕ := 0x01

def scalefacScale : ℕ := 0x02

def preflag : ℕ := 0x04

def mixedBlockFlag : ℕ := 0x08

/-- `struct channel` -/
structure Channel where
  part23Length : ℕ := 0
  bigValues : ℕ := 0
  globalGain : ℕ := 0
  scalefacCompress : ℕ := 0
  flags : ℕ := 0
  blockType : ℕ := 0
  tableSelect : ℕ → ℕ := fun _ => 0
  subblockGain : ℕ → ℕ := fun _ => 0
  region0Count : ℕ := 0
  region1Count : ℕ := 0
  scalefac : ℕ → ℕ := fun _ => 0

/-- `struct sideinfo`; `gr g c` is channel `c` of granule `g`. -/
structure SideInfo where
  mainDataBegin : ℕ := 0
  privateBits : ℕ := 0
  scfsi : ℕ → ℕ := fun _ => 0
  gr : ℕ → ℕ → Channel := fun _ _ => {}

def Channel.isMixed (channel : Channel) : Bool := channel.flags &&& mixedBlockFlag ≠ 0

/-- The first error stands: `if (... && result == 0) result = error`. -/
def firstError (result : MadError) (bad : Bool) (error : MadError) : MadError :=
  if bad ∧ result = .none then error else result

/-- The fields of a channel that follow a set `window_switching_flag`. -/
def readWindow (mem : Mem) (lsf : Bool) (scfsi : ℕ) (channel : Channel) (ptr : MadBitptr)
    (result : MadError) : Channel × MadBitptr × MadError :=
  let blockType := madBitRead mem ptr 2
  let result := firstError result (blockType.1 = 0) .badblocktype
  let result := firstError result (!lsf && blockType.1 = 2 && scfsi ≠ 0) .badscfsi
  let mixed := madBitRead mem blockType.2 1
  let table0 := madBitRead mem mixed.2 5
  let table1 := madBitRead mem table0.2 5
  let gain0 := madBitRead mem table1.2 3
  let gain1 := madBitRead mem gain0.2 3
  let gain2 := madBitRead mem gain1.2 3
  let channel := { channel with
    blockType := blockType.1
    region0Count := if mixed.1 = 0 ∧ blockType.1 = 2 then 8 else 7
    region1Count := 36
    flags := if mixed.1 ≠ 0 then channel.flags ||| mixedBlockFlag else channel.flags
    tableSelect := Function.update (Function.update channel.tableSelect 0 table0.1) 1 table1.1
    subblockGain := Function.update (Function.update (Function.update channel.subblockGain
      0 gain0.1) 1 gain1.1) 2 gain2.1 }
  (channel, gain2.2, result)

/-- The fields that follow a clear `window_switching_flag`. -/
def readRegions (mem : Mem) (channel : Channel) (ptr : MadBitptr) : Channel × MadBitptr :=
  let table0 := madBitRead mem ptr 5
  let table1 := madBitRead mem table0.2 5
  let table2 := madBitRead mem table1.2 5
  let region0 := madBitRead mem table2.2 4
  let region1 := madBitRead mem region0.2 3
  ({ channel with
    blockType := 0
    tableSelect := Function.update (Function.update (Function.update channel.tableSelect
      0 table0.1) 1 table1.1) 2 table2.1
    region0Count := region0.1
    region1Count := region1.1 }, region1.2)

/-- One channel of one granule. -/
def readChannel (mem : Mem) (lsf : Bool) (scfsi : ℕ) (channel : Channel) (ptr : MadBitptr)
    (result : MadError) : Channel × MadBitptr × MadError :=
  let part23 := madBitRead mem ptr 12
  let big := madBitRead mem part23.2 9
  let gain := madBitRead mem big.2 8
  let compress := madBitRead mem gain.2 (if lsf then 9 else 4)
  let result := firstError result (big.1 > 288) .badbigvalues
  let channel := { channel with
    part23Length := part23.1
    bigValues := big.1
    globalGain := gain.1
    scalefacCompress := compress.1
    flags := 0 }
  -- window_switching_flag
  let switching := madBitRead mem compress.2 1
  let r := if switching.1 ≠ 0 then readWindow mem lsf scfsi channel switching.2 result
    else
      let regions := readRegions mem channel switching.2
      (regions.1, regions.2, result)
  -- [preflag,] scalefac_scale, count1table_select
  let last := madBitRead mem r.2.1 (if lsf then 2 else 3)
  ({ r.1 with flags := r.1.flags ||| last.1 }, last.2, r.2.2)

structure SideinfoState where
  ptr : MadBitptr
  si : SideInfo
  dataBitlen : ℕ
  result : MadError

def readGranuleChannel (mem : Mem) (lsf : Bool) (s : SideinfoState) (gr ch : ℕ) : SideinfoState :=
  let r := readChannel mem lsf (s.si.scfsi ch) (s.si.gr gr ch) s.ptr s.result
  { ptr := r.2.1
    si := { s.si with gr := Function.update s.si.gr gr (Function.update (s.si.gr gr) ch r.1) }
    dataBitlen := s.dataBitlen + r.1.part23Length
    result := r.2.2 }

theorem update_channel (f : ℕ → ℕ → Channel) (gr ch : ℕ) (channel : Channel) (gr' ch' : ℕ) :
    Function.update f gr (Function.update (f gr) ch channel) gr' ch' =
      if gr' = gr ∧ ch' = ch then channel else f gr' ch' := by
  by_cases hgr : gr' = gr
  · rw [hgr, Function.update_self, Function.update_apply]
    simp only [true_and]
  · rw [Function.update_of_ne hgr, if_neg fun hboth => hgr hboth.1]

/-- The channels of one granule. -/
def readGranule (mem : Mem) (lsf : Bool) (nch : ℕ) (s : SideinfoState) (gr : ℕ) : SideinfoState :=
  (List.range nch).foldl (fun s ch => readGranuleChannel mem lsf s gr ch) s

def readScfsiChannel (mem : Mem) (s : SideinfoState) (ch : ℕ) : SideinfoState :=
  let r := madBitRead mem s.ptr 4
  { s with ptr := r.2, si := { s.si with scfsi := Function.update s.si.scfsi ch r.1 } }

def readScfsi (mem : Mem) (nch : ℕ) (s : SideinfoState) : SideinfoState :=
  (List.range nch).foldl (readScfsiChannel mem) s

/-- `*priv_bitlen` -/
def privBitlen (lsf : Bool) (nch : ℕ) : ℕ :=
  if lsf then if nch = 1 then 1 else 2 else if nch = 1 then 5 else 3

/-- The fields before the channels. -/
def sideinfoStart (mem : Mem) (ptr : MadBitptr) (nch : ℕ) (lsf : Bool) (si : SideInfo) :
    SideinfoState :=
  let mainDataBegin := madBitRead mem ptr (if lsf then 8 else 9)
  let priv := madBitRead mem mainDataBegin.2 (privBitlen lsf nch)
  let s : SideinfoState := {
    ptr := priv.2
    si := { si with mainDataBegin := mainDataBegin.1, privateBits := priv.1 }
    dataBitlen := 0
    result := .none }
  if lsf then s else readScfsi mem nch s

/-- `III_sideinfo`, on the stack garbage `si`: the pointer behind the side information, the
structure, `data_bitlen` and the error. -/
def iiiSideinfo (mem : Mem) (ptr : MadBitptr) (nch : ℕ) (lsf : Bool) (si : SideInfo) :
    SideinfoState :=
  (List.range (if lsf then 1 else 2)).foldl (readGranule mem lsf nch)
    (sideinfoStart mem ptr nch lsf si)

/-! ### Its length -/

/-- `si_len` in `mad_layer_III` -/
def siLen (lsf : Bool) (nch : ℕ) : ℕ :=
  if lsf then if nch = 1 then 9 else 17 else if nch = 1 then 17 else 32

/-- The pointer stands at bit `pos`, in a byte or before one. -/
def InByte (mem : Mem) (ptr : MadBitptr) (pos : ℕ) : Prop := AtBit mem ptr pos ∧ 0 < ptr.left

theorem InByte.read {mem : Mem} {ptr : MadBitptr} {pos : ℕ} (h : InByte mem ptr pos) (len : ℕ) :
    InByte mem (madBitRead mem ptr len).2 (pos + len) := h.1.read len

theorem readWindow_at {mem : Mem} {lsf : Bool} {scfsi : ℕ} {channel : Channel} {ptr : MadBitptr}
    {result : MadError} {pos : ℕ} (h : InByte mem ptr pos) :
    InByte mem (readWindow mem lsf scfsi channel ptr result).2.1 (pos + 22) :=
  ((((((h.read 2).read 1).read 5).read 5).read 3).read 3).read 3

theorem readRegions_at {mem : Mem} {channel : Channel} {ptr : MadBitptr} {pos : ℕ}
    (h : InByte mem ptr pos) : InByte mem (readRegions mem channel ptr).2 (pos + 22) :=
  ((((h.read 5).read 5).read 5).read 4).read 3

/-- A channel takes as many bits with window switching as without. -/
theorem readChannel_at {mem : Mem} {lsf : Bool} {scfsi : ℕ} {channel : Channel} {ptr : MadBitptr}
    {result : MadError} {pos : ℕ} (h : InByte mem ptr pos) :
    InByte mem (readChannel mem lsf scfsi channel ptr result).2.1
      (pos + if lsf then 63 else 59) := by
  have hswitch := ((((h.read 12).read 9).read 8).read (if lsf then 9 else 4)).read 1
  simp only [readChannel]
  by_cases hwindow : (madBitRead mem (madBitRead mem (madBitRead mem (madBitRead mem
      (madBitRead mem ptr 12).2 9).2 8).2 (if lsf then 9 else 4)).2 1).1 ≠ 0
  · rw [if_pos hwindow]
    convert (readWindow_at hswitch).read (if lsf then 2 else 3) using 1
    cases lsf <;> rfl
  · rw [if_neg hwindow]
    convert (readRegions_at hswitch).read (if lsf then 2 else 3) using 1
    cases lsf <;> rfl

/-- A loop whose rounds each read `k` bits. -/
theorem foldl_at {mem : Mem} {step : SideinfoState → ℕ → SideinfoState} {k : ℕ}
    (hstep : ∀ {s pos} i, InByte mem s.ptr pos → InByte mem (step s i).ptr (pos + k))
    (is : List ℕ) {s : SideinfoState} {pos : ℕ} (h : InByte mem s.ptr pos) :
    InByte mem (is.foldl step s).ptr (pos + k * is.length) := by
  induction is generalizing s pos with
  | nil => exact h
  | cons i is ih =>
    rw [List.foldl_cons, List.length_cons, Nat.mul_succ, Nat.add_comm (k * is.length) k,
      ← Nat.add_assoc]
    exact ih (hstep i h)

theorem readGranule_at {mem : Mem} {lsf : Bool} {nch : ℕ} {s : SideinfoState} {pos : ℕ} (gr : ℕ)
    (h : InByte mem s.ptr pos) :
    InByte mem (readGranule mem lsf nch s gr).ptr (pos + (if lsf then 63 else 59) * nch) := by
  have hchannel : ∀ {s : SideinfoState} {pos : ℕ} (ch : ℕ), InByte mem s.ptr pos →
      InByte mem (readGranuleChannel mem lsf s gr ch).ptr (pos + if lsf then 63 else 59) :=
    fun ch hs => readChannel_at hs
  have hchannels := foldl_at hchannel (List.range nch) h
  rwa [List.length_range] at hchannels

theorem readScfsi_at {mem : Mem} {nch : ℕ} {s : SideinfoState} {pos : ℕ}
    (h : InByte mem s.ptr pos) : InByte mem (readScfsi mem nch s).ptr (pos + 4 * nch) := by
  have hchannel : ∀ {s : SideinfoState} {pos : ℕ} (ch : ℕ), InByte mem s.ptr pos →
      InByte mem (readScfsiChannel mem s ch).ptr (pos + 4) := fun ch hs => hs.read 4
  have hfold := foldl_at hchannel (List.range nch) h
  rwa [List.length_range] at hfold

theorem sideinfoStart_at {mem : Mem} {ptr : MadBitptr} {pos : ℕ} (h : AtBit mem ptr pos)
    (nch : ℕ) (lsf : Bool) (si : SideInfo) : InByte mem (sideinfoStart mem ptr nch lsf si).ptr
      (if lsf then pos + 8 + privBitlen lsf nch else pos + 9 + privBitlen lsf nch + 4 * nch) := by
  cases lsf with
  | true => exact InByte.read (h.read 8) (privBitlen true nch)
  | false =>
    have hfirst := InByte.read (h.read 9) (privBitlen false nch)
    simp only [sideinfoStart, Bool.false_eq_true, if_false]
    exact readScfsi_at hfirst

/-- **The side information has the length the frame layout assumes.** -/
theorem iiiSideinfo_at {mem : Mem} {ptr : MadBitptr} {pos nch : ℕ} (h : AtBit mem ptr pos)
    (hnch : nch = 1 ∨ nch = 2) (lsf : Bool) (si : SideInfo) :
    InByte mem (iiiSideinfo mem ptr nch lsf si).ptr (pos + 8 * siLen lsf nch) := by
  have hgranule : ∀ {s : SideinfoState} {pos : ℕ} (gr : ℕ), InByte mem s.ptr pos →
      InByte mem (readGranule mem lsf nch s gr).ptr (pos + (if lsf then 63 else 59) * nch) :=
    fun gr hs => readGranule_at gr hs
  have hgranules := foldl_at hgranule (List.range (if lsf then 1 else 2))
    (sideinfoStart_at h nch lsf si)
  rw [List.length_range] at hgranules
  have hbits : pos + 8 * siLen lsf nch =
      (if lsf then pos + 8 + privBitlen lsf nch else pos + 9 + privBitlen lsf nch + 4 * nch) +
        (if lsf then 63 else 59) * nch * (if lsf then 1 else 2) := by
    cases lsf <;> rcases hnch with rfl | rfl <;> rfl
  rw [hbits]
  exact hgranules

theorem foldl_mainDataBegin {step : SideinfoState → ℕ → SideinfoState}
    (hstep : ∀ s i, (step s i).si.mainDataBegin = s.si.mainDataBegin) (is : List ℕ)
    (s : SideinfoState) : (is.foldl step s).si.mainDataBegin = s.si.mainDataBegin := by
  induction is generalizing s with
  | nil => rfl
  | cons i is ih => rw [List.foldl_cons, ih, hstep]

theorem readGranule_mainDataBegin (mem : Mem) (lsf : Bool) (nch : ℕ) (s : SideinfoState) (gr : ℕ) :
    (readGranule mem lsf nch s gr).si.mainDataBegin = s.si.mainDataBegin := by
  apply foldl_mainDataBegin
  intro s ch
  rfl

theorem readScfsi_mainDataBegin (mem : Mem) (nch : ℕ) (s : SideinfoState) :
    (readScfsi mem nch s).si.mainDataBegin = s.si.mainDataBegin := by
  apply foldl_mainDataBegin
  intro s ch
  rfl

/-- `main_data_begin` is the first field. -/
theorem iiiSideinfo_mainDataBegin {mem : Mem} {ptr : MadBitptr} {pos nch : ℕ}
    (h : AtBit mem ptr pos) (lsf : Bool) (si : SideInfo) :
    (iiiSideinfo mem ptr nch lsf si).si.mainDataBegin =
      bitsVal mem pos (if lsf then 8 else 9) := by
  rw [iiiSideinfo, foldl_mainDataBegin (readGranule_mainDataBegin mem lsf nch)]
  cases lsf with
  | true => exact h.read_value 8
  | false => exact (readScfsi_mainDataBegin mem nch _).trans (h.read_value 9)

end Mp3Decoder
