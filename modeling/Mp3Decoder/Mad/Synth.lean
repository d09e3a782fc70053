import Mathlib.Data.BitVec
import Mp3Decoder.Mad.Layer3
import Mp3Decoder.Mad.SynthWindow

/-!
# PCM synthesis (`synth.c`)

`mad_synth_frame` turns the 32 subband samples of each block into PCM samples.  `dct32` puts its
outputs into the slot of the filter that the phase names; then every sample is a sum over eight
slots of each parity, weighted with entries of `D`.  These sums are lists of `Tap`s here, in the
order of the source, so that a sum and the accesses it makes come from one list.

`synth_full` and `synth_half` differ in how far apart the two output pointers start and in the size
of the buffer.  `dct32` is a parameter.  Fixed-point numbers and samples are machine words.
-/

namespace Mp3Decoder

/-! ### The code -/

def madOptionHalfsamplerate : ℕ := 0x0002

/-- `MAD_F_ONE` -/
def madFOne : ℤ := 0x10000000

/-- `scale`: round, clip and quantize. -/
def scale (sample : BitVec 32) : BitVec 16 :=
  let rounded := sample + 0x1000#32
  let clipped :=
    if madFOne ≤ rounded.toInt then 0x0fffffff#32
    else if rounded.toInt < -madFOne then 0xf0000000#32
    else rounded
  (clipped.sshiftRight 14).setWidth 16

/-- The third `SHIFT(x)` -/
def synthShift (x : BitVec 32) : BitVec 32 := x.sshiftRight 2

/-- `synth->filter[ch][eo][peo][s][v]` for one channel -/
abbrev Filter : Type := ℕ → ℕ → ℕ → ℕ → BitVec 32

/-- What `dct32` writes to `lo` (`eo = 0`) and `hi` (`eo = 1`): `[eo][s]` -/
abbrev DctOutput : Type := ℕ → ℕ → BitVec 32

/-- `D[row][col]` -/
def windowEntry (row : ℕ) (col : ℤ) : ℤ := (windowD.getD row []).getD col.toNat 0

/-- `~phase & 1` -/
def notPhase (phase : ℕ) : ℕ := (0xffffffff - phase) &&& 1

/-- `pe = phase & ~1` -/
def peOf (phase : ℕ) : ℕ := phase &&& 0xfffffffe

/-- `po = ((phase - 1) & 0xf) | 1` -/
def poOf (phase : ℕ) : ℕ := ((phase + 0xffffffff) % 2 ^ 32 &&& 0xf) ||| 1

/-- A factor of the filter and the entry of `D` it is multiplied with. -/
structure Tap where
  eo : ℕ
  peo : ℕ
  s : ℕ
  v : ℕ
  row : ℕ
  col : ℤ
  deriving DecidableEq

/-- `ML0` and `MLA`s: the products of the taps go to `lo`. -/
def mla (filter : Filter) (lo : BitVec 32) (taps : List Tap) : BitVec 32 :=
  taps.foldl (fun lo tap => lo + filter tap.eo tap.peo tap.s tap.v *
    BitVec.ofInt 32 (windowEntry tap.row tap.col)) lo

/-- `(*f)[v]` with `ptr[0]`, `ptr[14]`, ..., `ptr[2]` of `ptr = *Dptr + offset` -/
def tapsFrom (eo peo s row offset : ℕ) : List Tap :=
  (List.range 8).map fun v : ℕ =>
    { eo, peo, s, v, row, col := offset + ((16 - 2 * v) % 16 : ℕ) }

/-- `(*f)[v]` with `ptr[31 - 16]`, `ptr[31 - 14]`, ..., `ptr[31 - 2]` of `ptr = *Dptr - offset` -/
def tapsBack (eo peo s row offset : ℕ) : List Tap :=
  (List.range 8).map fun v : ℕ =>
    { eo, peo, s, v, row, col := 31 - (16 - 2 * (v : ℤ)) - offset }

/-- One sample goes to a slot of the PCM buffer: the taps before `MLN` and those after it. -/
structure PcmStore where
  slot : ℕ
  negated : List Tap
  added : List Tap
  deriving DecidableEq

/-- The stores for one channel of a block.  `pcm2` starts `gap` behind `pcm1`. -/
def pcmStores (gap phase : ℕ) : List PcmStore :=
  let pe := peOf phase
  let po := poOf phase
  [{ slot := 0
     negated := tapsFrom 0 (notPhase phase) 0 0 po
     added := tapsFrom 0 (phase &&& 1) 0 0 pe }] ++
  (List.range 15).flatMap (fun i : ℕ =>
    let sb := i + 1
    [{ slot := sb
       negated := tapsFrom 1 (notPhase phase) (sb - 1) sb po
       added := (tapsFrom 0 (phase &&& 1) sb sb pe).reverse },
     { slot := 1 + gap - i
       negated := []
       added := tapsBack 0 (phase &&& 1) sb sb pe ++
        (tapsBack 1 (notPhase phase) (sb - 1) sb po).reverse }]) ++
  [{ slot := 16
     negated := tapsFrom 1 (notPhase phase) 15 16 po
     added := [] }]

/-- The sum of a store, before `SHIFT` -/
def PcmStore.sum (filter : Filter) (store : PcmStore) : BitVec 32 :=
  mla filter (-mla filter 0 store.negated) store.added

/-- `short_sample_buff` -/
abbrev PcmBuffer : Type := ℕ → BitVec 16

/-- `(*pcm) += (short int)raw_sample` -/
def PcmStore.accumulate (filter : Filter) (buff : PcmBuffer) (store : PcmStore) : PcmBuffer :=
  Function.update buff store.slot
    (buff store.slot + scale (synthShift (store.sum filter)))

/-- What the outputs of `dct32` leave in the filter: they go to slot `phase >> 1` of parity
`phase & 1`. -/
def storeDct32 (filter : Filter) (phase : ℕ) (out : DctOutput) : Filter := fun eo peo s v =>
  if eo < 2 ∧ peo = phase &&& 1 ∧ s < 16 ∧ v = phase >>> 1 then out eo s else filter eo peo s v

/-- The subband samples of one block: `[ch][sb]` -/
abbrev SubbandBlock : Type := ℕ → ℕ → BitVec 32

/-- `struct mad_frame` with `sbsample[ch][s][sb]` -/
structure SubbandFrame extends MadFrame where
  sbsample : ℕ → ℕ → ℕ → BitVec 32

/-- `MAD_NSBSAMPLES(header)` -/
def madNsbsamples (header : MadHeader) : ℕ :=
  if header.layer = 1 then 12 else if header.layer = 3 ∧ header.flags.lsfExt then 18 else 36

structure MadPcm where
  samplerate : ℕ
  channels : ℕ
  length : ℕ

structure MadSynth where
  /-- by channel -/
  filter : ℕ → Filter
  phase : ℕ
  pcm : MadPcm

/-- `mad_synth_init`, with `mad_synth_mute` -/
def madSynthInit : MadSynth where
  filter _ _ _ _ _ := 0
  phase := 0
  pcm := { samplerate := 0, channels := 0, length := 0 }

/-- What synthesis calls. -/
inductive SynthCall
  | setDacSampleRate (rate : ℕ)
  | renderSampleBlock (shortSampleBuff : PcmBuffer) (noSamples : ℕ)

section
variable (dct32 : (ℕ → BitVec 32) → DctOutput)

/-- The `Channel For` loop on one block: the filters and the buffer. -/
def synthBlock (gap nch phase : ℕ) (block : SubbandBlock) (filter : ℕ → Filter) :
    (ℕ → Filter) × PcmBuffer :=
  (List.range nch).foldl
    (fun acc ch =>
      let filterCh := storeDct32 (acc.1 ch) phase (dct32 (block ch))
      (Function.update acc.1 ch filterCh,
        (pcmStores gap phase).foldl (PcmStore.accumulate filterCh) acc.2))
    (filter, fun _ => 0)

/-- The `Block for` loop on the blocks that are left: the filters and the buffers rendered. -/
def synthBlocks (gap nch : ℕ) : ℕ → List SubbandBlock → (ℕ → Filter) →
    (ℕ → Filter) × List PcmBuffer
  | _, [], filter => (filter, [])
  | phase, block :: blocks, filter =>
    let this := synthBlock dct32 gap nch phase block filter
    let rest := synthBlocks gap nch ((phase + 1) % 16) blocks this.1
    (rest.1, this.2 :: rest.2)

/-- The blocks `(*sbsample)[s]` with `s < ns` -/
def SubbandFrame.blocks (frame : SubbandFrame) (ns : ℕ) : List SubbandBlock :=
  (List.range ns).map fun s ch => frame.sbsample ch s

/-- `synth_full` -/
def synthFull (synth : MadSynth) (frame : SubbandFrame) (nch ns : ℕ) :
    MadSynth × List SynthCall :=
  let out := synthBlocks dct32 30 nch synth.phase (frame.blocks ns) synth.filter
  ({ synth with filter := out.1 }, out.2.map fun buff => .renderSampleBlock buff 32)

/-- `synth_half` -/
def synthHalf (synth : MadSynth) (frame : SubbandFrame) (nch ns : ℕ) :
    MadSynth × List SynthCall :=
  let out := synthBlocks dct32 14 nch synth.phase (frame.blocks ns) synth.filter
  ({ synth with filter := out.1 }, out.2.map fun buff => .renderSampleBlock buff 16)

/-- `mad_synth_frame`: the state and the calls made, in order. -/
def madSynthFrame (synth : MadSynth) (frame : SubbandFrame) : MadSynth × List SynthCall :=
  let nch := madNchannels frame.header
  let ns := madNsbsamples frame.header
  let samplerate := frame.header.samplerate
  let half := frame.options &&& madOptionHalfsamplerate ≠ 0
  let pcm : MadPcm :=
    if half then
      { samplerate := samplerate / 2, channels := nch, length := 128 * ns / 2 }
    else { samplerate, channels := nch, length := 128 * ns }
  let calls : List SynthCall :=
    if half then [.setDacSampleRate samplerate, .setDacSampleRate (samplerate / 2)]
    else [.setDacSampleRate samplerate]
  let out :=
    if half then synthHalf dct32 { synth with pcm } frame nch ns
    else synthFull dct32 { synth with pcm } frame nch ns
  ({ out.1 with phase := (out.1.phase + ns) % 16 }, calls ++ out.2)

/-- A run of `mad_synth_frame` calls. -/
def synthFrames : MadSynth → List SubbandFrame → MadSynth × List SynthCall
  | synth, [] => (synth, [])
  | synth, frame :: frames =>
    let this := madSynthFrame dct32 synth frame
    let rest := synthFrames this.1 frames
    (rest.1, this.2 ++ rest.2)

end

/-! ### The accesses -/

inductive SynthAccess
  | window (row : ℕ) (col : ℤ)
  | filter (ch eo peo s v : ℕ)
  | buffer (slot : ℕ)
  deriving DecidableEq

/-- Inside `D[17][32]`, `filter[2][2][2][16][8]` and a buffer of `size` entries. -/
def SynthAccess.InBounds (size : ℕ) : SynthAccess → Prop
  | .window row col => row < 17 ∧ 0 ≤ col ∧ col < 32
  | .filter ch eo peo s v => ch < 2 ∧ eo < 2 ∧ peo < 2 ∧ s < 16 ∧ v < 8
  | .buffer slot => slot < size

def Tap.accesses (ch : ℕ) (tap : Tap) : List SynthAccess :=
  [.filter ch tap.eo tap.peo tap.s tap.v, .window tap.row tap.col]

def PcmStore.accesses (ch : ℕ) (store : PcmStore) : List SynthAccess :=
  (store.negated ++ store.added).flatMap (Tap.accesses ch) ++ [.buffer store.slot]

/-- The stores of `dct32` -/
def dct32Accesses (ch phase : ℕ) : List SynthAccess :=
  (List.range 2).flatMap fun eo => (List.range 16).map fun s =>
    .filter ch eo (phase &&& 1) s (phase >>> 1)

/-- What `synthBlock` accesses. -/
def synthBlockAccesses (gap nch phase : ℕ) : List SynthAccess :=
  (List.range nch).flatMap fun ch =>
    dct32Accesses ch phase ++ (pcmStores gap phase).flatMap (PcmStore.accesses ch)

/-- What `synthBlocks` accesses. -/
def synthBlocksAccesses (gap nch : ℕ) : ℕ → ℕ → List SynthAccess
  | _, 0 => []
  | phase, ns + 1 =>
    synthBlockAccesses gap nch phase ++ synthBlocksAccesses gap nch ((phase + 1) % 16) ns

/-- What a run of `mad_synth_frame` calls accesses in `synth_full`. -/
def synthFramesAccesses (dct32 : (ℕ → BitVec 32) → DctOutput) :
    MadSynth → List SubbandFrame → List SynthAccess
  | _, [] => []
  | synth, frame :: frames =>
    synthBlocksAccesses 30 (madNchannels frame.header) synth.phase (madNsbsamples frame.header) ++
      synthFramesAccesses dct32 (madSynthFrame dct32 synth frame).1 frames

end Mp3Decoder
