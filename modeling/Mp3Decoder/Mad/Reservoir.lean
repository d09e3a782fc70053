import Mp3Decoder.Lib.Schedule
import Mp3Decoder.Mad.FreeRate
import Mp3Decoder.Mad.Layer3

/-!
# The bit reservoir

A run of `mad_layer_III` calls, with the payloads of all frames since the last reset as a ghost.
The reservoir always holds the end of that history (`ReservoirInv`), so that `III_decode` finds the
main data of its frame in one piece wherever the frames before have put it.

The calls of a run may be any; frames that follow each other in the stream are a special case.
-/

namespace Mp3Decoder

open Segment Schedule BigEndianBits

/-! ### The next header -/

/-- `main_data_begin` of the frame at `f`. -/
def mainDataBeginAt (mem : Mem) (f : ℕ) : ℕ :=
  bitsVal mem (8 * headerEnd mem f) (if lsfAt mem f then 8 else 9)

/-- `main_data_begin` of the frame at `f`, or 0 where there is no header of Layer III -/
def nextMainDataBegin (mem : Mem) (f : ℕ) : ℕ :=
  if headerField mem f 0 11 = 0x7ff ∧ layerAt mem f = 3 then mainDataBeginAt mem f else 0

/-- The mask for the sync word and the layer -/
theorem headerField_and_sync (mem : Mem) (f : ℕ) :
    headerField mem f 0 32 &&& 0xffe60000 = 0xffe20000 ↔
      headerField mem f 0 11 = 0x7ff ∧ layerAt mem f = 3 := by
  have hsync := bitsVal_lt mem (8 * f) 11
  have hversion := bitsVal_lt mem (8 * f + 11) 2
  have hlayer := bitsVal_lt mem (8 * f + 13) 2
  have hrest := bitsVal_lt mem (8 * f + 15) 17
  have hword : headerField mem f 0 32 = 2 ^ 17 * (2 ^ 4 * bitsVal mem (8 * f) 11 +
      (2 ^ 2 * bitsVal mem (8 * f + 11) 2 + bitsVal mem (8 * f + 13) 2)) +
        bitsVal mem (8 * f + 15) 17 := by
    rw [headerField, Nat.add_zero, show 32 = 11 + 2 + 2 + 17 from rfl, bitsVal_add, bitsVal_add,
      bitsVal_add, show 8 * f + (11 + 2) = 8 * f + 13 by omega,
      show 8 * f + (11 + 2 + 2) = 8 * f + 15 by omega]
    omega
  rw [hword, show 0xffe60000 = 2 ^ 17 * (2 ^ 4 * 0x7ff + 3) + 0 from rfl,
    and_mul_add 17 _ _ hrest (by decide), and_mul_add 4 _ _ (by omega) (by decide),
    show 3 = 2 ^ 2 * 0 + 3 from rfl, and_mul_add 2 _ _ hlayer (by decide), Nat.and_zero,
    Nat.and_zero, show 0x7ff = 2 ^ 11 - 1 from rfl, show 3 = 2 ^ 2 - 1 from rfl,
    Nat.and_two_pow_sub_one_eq_mod, Nat.and_two_pow_sub_one_eq_mod, Nat.mod_eq_of_lt hsync,
    Nat.mod_eq_of_lt hlayer, layerAt, headerField, headerField]
  simp only [Nat.add_zero]
  omega

/-- **The value peeked** is what the fields of the next header say. -/
theorem peekMainDataBegin_eq (mem : Mem) (f : ℕ) :
    peekMainDataBegin mem f = nextMainDataBegin mem f := by
  have hread : (madBitRead mem (madBitInit f) 32).1 = headerField mem f 0 32 :=
    (atBit_init mem f).read_value 32
  have hbehind : AtBit mem (madBitRead mem (madBitInit f) 32).2 (8 * f + 32) :=
    ((atBit_init mem f).read 32).1
  have hprotection : headerField mem f 0 32 &&& 0x00010000 = 0 ↔ protectionAt mem f = true := by
    rw [protectionAt, decide_eq_true_iff]
    exact bitsVal_and_bit mem (8 * f) (n := 32) (i := 15) (by decide)
  have hversion : headerField mem f 0 32 &&& 0x00080000 ≠ 0 ↔ ¬lsfAt mem f = true := by
    rw [lsfAt, decide_eq_true_iff]
    exact not_congr (bitsVal_and_bit mem (8 * f) (n := 32) (i := 12) (by decide))
  rw [peekMainDataBegin, nextMainDataBegin, mainDataBeginAt, headerEnd]
  generalize madBitRead mem (madBitInit f) 32 = header at hread hbehind ⊢
  simp only [hread, headerField_and_sync, hprotection, hversion, ite_not]
  split_ifs with hsync hprot
  · rw [(hbehind.skip 16).read_value, show 8 * (f + 4 + 2) = 8 * f + 32 + 16 by omega]
  · rw [(hbehind.skip 16).read_value, show 8 * (f + 4 + 2) = 8 * f + 32 + 16 by omega]
  · rw [hbehind.read_value, show 8 * (f + 4 + 0) = 8 * f + 32 by omega]
  · rw [hbehind.read_value, show 8 * (f + 4 + 0) = 8 * f + 32 by omega]
  · rfl

/-! ### One update -/

section Update

variable {mem : Mem} {stream : MadStream} {mainDataBegin space next start : ℕ} {error : MadError}

/-- What the new reservoir may be taken from, besides the payload. -/
def keptLen (stream : MadStream) (mainDataBegin : ℕ) : ℕ :=
  if mainDataBegin = 0 then 0 else stream.mdLen

/-- The payload is used up to the part of the next frame, or is kept whole when the next frame
needs more than that. -/
theorem findMainData_cases {found : FoundMain}
    (hfound : found = findMainData mem stream mainDataBegin (mainDataBegin + space - next) error)
    (hnext : next ≤ mainDataBegin + space) :
    found.frameUsed + next ≤ space ∨
      space < next ∧ mainDataBegin ≠ 0 ∧ found.frameUsed = 0 ∧
        found.stream.mainData = stream.mainData ∧ found.stream.mdLen = stream.mdLen := by
  rw [findMainData] at hfound
  by_cases hzero : mainDataBegin = 0
  · rw [if_pos hzero] at hfound
    left
    rw [hfound]
    simp only
    omega
  rw [if_neg hzero] at hfound
  by_cases hshort : mainDataBegin > stream.mdLen
  · rw [if_pos hshort] at hfound
    rw [hfound]
    by_cases hlong : space < next
    · exact .inr ⟨hlong, hzero, rfl, rfl, rfl⟩
    · left
      simp only
      omega
  rw [if_neg hshort] at hfound
  by_cases happend : mainDataBegin + space - next > mainDataBegin
  · simp only [if_pos happend] at hfound
    left
    rw [hfound]
    simp only
    omega
  · simp only [if_neg happend] at hfound
    rw [hfound]
    by_cases hlong : space < next
    · exact .inr ⟨hlong, hzero, rfl, rfl, rfl⟩
    · left
      simp only
      omega

/-- **One update of the reservoir.**  It holds as much of the old reservoir and the payload as the
next frame asks for, as far as there is so much. -/
theorem reservoir_update {s : MadStream} (hnext : next ≤ mainDataBegin + space)
    (hframe : s.nextFrame = start + space) {found : FoundMain}
    (hfound : found = findMainData mem stream mainDataBegin (mainDataBegin + space - next) error)
    (hdata : s.mainData = found.stream.mainData) (hlen : s.mdLen = found.stream.mdLen) :
    ∃ s', s' = preloadMainData mem s mainDataBegin next (mainDataBegin + space - next)
        (space - found.frameUsed) ∧
      s'.mdLen = min next (keptLen stream mainDataBegin + space) ∧
      segment s'.mainData 0 s'.mdLen = (segment stream.mainData 0 (keptLen stream mainDataBegin) ++
        segment mem start space).rtake s'.mdLen := by
  refine ⟨_, rfl, ?_⟩
  rcases findMainData_cases hfound hnext with henough | ⟨hlong, hzero, hused, hdata', hlen'⟩
  · -- the next frame starts inside the payload
    have hfree : space - found.frameUsed ≥ next := by omega
    rw [preloadMainData, if_pos hfree]
    have hle : next ≤ space := by omega
    have hmin : min next (keptLen stream mainDataBegin + space) = next :=
      Nat.min_eq_left (by omega)
    refine ⟨hmin.symm, ?_⟩
    simp only
    rw [segment_memcpy, rtake_append_left _ (by rw [length_segment]; exact hle),
      rtake_segment mem start hle, hframe, Nat.add_sub_assoc hle]
  · -- it starts before the payload
    rw [hdata'] at hdata
    rw [hlen'] at hlen
    have hkept : keptLen stream mainDataBegin = stream.mdLen := if_neg hzero
    have hfree : ¬ space - 0 ≥ next := by omega
    have hless : mainDataBegin + space - next < mainDataBegin := by omega
    have hextra : mainDataBegin - (mainDataBegin + space - next) = next - space := by omega
    have hroom : ¬ next - space + (space - 0) > next := by omega
    have hpayload : s.nextFrame - (space - 0) = start := by omega
    rw [hkept, preloadMainData, hused, if_neg hfree, if_pos hless, hextra]
    simp only [if_neg hroom]
    by_cases hshift : next - space < s.mdLen
    · have hlast : next - space + (space - 0) = next := by omega
      have hold : segment s.mainData (s.mdLen - (next - space)) (next - space) =
          (segment s.mainData 0 s.mdLen).rtake (next - space) := by
        rw [rtake_segment s.mainData 0 (Nat.le_of_lt hshift), Nat.zero_add]
      have hnew := rtake_append_add (segment stream.mainData 0 stream.mdLen)
        (segment mem start space) (next - space)
      simp only [if_pos hshift]
      refine ⟨by omega, ?_⟩
      rw [segment_memcpy_append, segment_memcpy, hold, hpayload, Nat.sub_zero]
      rw [length_segment] at hnew
      rw [hnew, hdata, hlen]
    · have hall := rtake_append_add (segment stream.mainData 0 stream.mdLen)
        (segment mem start space) stream.mdLen
      simp only [if_neg hshift]
      refine ⟨by omega, ?_⟩
      rw [segment_memcpy_append, hpayload, Nat.sub_zero, hdata, hlen]
      rw [length_segment] at hall
      rw [hall, rtake_segment stream.mainData 0 (Nat.le_refl _), Nat.sub_self]

/-- Main data is found only when the reservoir reaches back far enough. -/
theorem findMainData_le {found : FoundMain} {mdLen : ℕ}
    (hfound : found = findMainData mem stream mainDataBegin mdLen error)
    (hok : found.error = .none) : mainDataBegin ≤ stream.mdLen := by
  rw [findMainData] at hfound
  by_cases hzero : mainDataBegin = 0
  · rw [hzero]
    exact Nat.zero_le _
  rw [if_neg hzero] at hfound
  by_contra hshort
  rw [if_pos (Nat.not_le.mp hshort)] at hfound
  rw [hfound, firstError] at hok
  by_cases herror : error = .none
  · rw [if_pos ⟨rfl, herror⟩] at hok
    cases hok
  · rw [if_neg fun h => herror h.2] at hok
    exact herror hok

/-- **What `III_decode` finds at its pointer**: the end of the reservoir, and the payload up to
the part of the next frame. -/
theorem findMainData_bytes {found : FoundMain}
    (hfound : found = findMainData mem stream mainDataBegin (mainDataBegin + space - next) error)
    (hok : found.error = .none) (hstart : madBitNextbyte stream.ptr = start) :
    segment (if mainDataBegin = 0 then mem else found.stream.mainData)
        (madBitNextbyte found.ptr) (mainDataBegin + (space - next)) =
      (segment stream.mainData 0 stream.mdLen).rtake mainDataBegin ++
        segment mem start (space - next) := by
  have hle := findMainData_le hfound hok
  rw [findMainData] at hfound
  by_cases hzero : mainDataBegin = 0
  · rw [if_pos hzero] at hfound
    rw [if_pos hzero, hfound, hzero, Nat.zero_add (space - next), List.rtake_zero, List.nil_append,
      ← hstart]
  rw [if_neg hzero] at hfound ⊢
  rw [if_neg (Nat.not_lt.mpr hle)] at hfound
  by_cases happend : mainDataBegin + space - next > mainDataBegin
  · simp only [if_pos happend] at hfound
    have hused : mainDataBegin + space - next - mainDataBegin = space - next := by omega
    have hseg := segment_memcpy_append stream.mainData stream.mdLen mem start (space - next)
    have hend := rtake_append_add (segment stream.mainData 0 stream.mdLen)
      (segment mem start (space - next)) mainDataBegin
    have hlen : mainDataBegin + (space - next) ≤ stream.mdLen + (space - next) := by omega
    have hfirst : 0 + (stream.mdLen + (space - next) - (mainDataBegin + (space - next))) =
        stream.mdLen - mainDataBegin := by omega
    rw [length_segment, ← hseg, rtake_segment _ 0 hlen, hfirst] at hend
    rw [hfound]
    simp only [hused, hstart, madBitNextbyte_init]
    exact hend
  · simp only [if_neg happend] at hfound
    have hnone : space - next = 0 := by omega
    rw [hfound, hnone, Nat.add_zero, segment_zero, List.append_nil, madBitNextbyte_init,
      rtake_segment stream.mainData 0 hle, Nat.zero_add]

theorem findMainData_nextFrame (mdLen : ℕ) :
    (findMainData mem stream mainDataBegin mdLen error).stream.nextFrame = stream.nextFrame := by
  rw [findMainData]
  split_ifs
  · rfl
  · rfl
  · rfl
  · rfl

variable {requantize : ℕ → ℤ → ℤ} {header : MadHeader} {info : SideinfoState} {stack : Stack}

/-- `next_md_begin`: what the next header says, unless that reaches back beyond this frame's main
data. -/
def nextBeginOf (mem : Mem) (nextFrame mainDataBegin space : ℕ) : ℕ :=
  let next := nextMainDataBegin mem nextFrame
  if next > mainDataBegin + space then 0 else next

/-- `mad_layer_III` computes it from the value peeked. -/
theorem nextBeginOf_eq (mem : Mem) (nextFrame mainDataBegin space : ℕ) :
    nextBeginOf mem nextFrame mainDataBegin space =
      if peekMainDataBegin mem nextFrame > mainDataBegin + space then 0
      else peekMainDataBegin mem nextFrame := by
  rw [peekMainDataBegin_eq]
  rfl

theorem nextBeginOf_le (mem : Mem) (nextFrame mainDataBegin space : ℕ) :
    nextBeginOf mem nextFrame mainDataBegin space ≤ mainDataBegin + space := by
  simp only [nextBeginOf]
  split_ifs <;> omega

/-- `mad_layer_III` behind the side information. -/
theorem layerMainData_reservoir {r : LayerResult}
    (hr : r = layerMainData requantize mem header stream info error stack)
    (hstart : madBitNextbyte stream.ptr = start)
    (hframe : stream.nextFrame = start + space) (hbegin : info.si.mainDataBegin = mainDataBegin)
    (hnext : next = nextBeginOf mem stream.nextFrame mainDataBegin space) :
    r.stream.mdLen = min next (keptLen stream mainDataBegin + space) ∧
      segment r.stream.mainData 0 r.stream.mdLen =
        (segment stream.mainData 0 (keptLen stream mainDataBegin) ++
          segment mem start space).rtake r.stream.mdLen ∧
      ∀ call, r.call = some call → mainDataBegin ≤ stream.mdLen ∧
        segment call.mem (madBitNextbyte call.ptr) (mainDataBegin + (space - next)) =
          (segment stream.mainData 0 stream.mdLen).rtake mainDataBegin ++
            segment mem start (space - next) := by
  rw [hr]
  have hspace : stream.nextFrame - madBitNextbyte stream.ptr = space := by omega
  have hle : next ≤ mainDataBegin + space := hnext ▸ nextBeginOf_le _ _ _ _
  simp only [layerMainData, hbegin, hspace]
  rw [← nextBeginOf_eq, ← hnext]
  obtain ⟨found, hfound⟩ : ∃ found, found =
    findMainData mem stream mainDataBegin (mainDataBegin + space - next) error := ⟨_, rfl⟩
  simp only [← hfound]
  have hfoundNext : found.stream.nextFrame = start + space := by
    rw [hfound, findMainData_nextFrame, hframe]
  generalize hresult : iiiDecode requantize _ found.ptr header info.si (madNchannels header) stack =
    result
  obtain ⟨decoded, hdecoded⟩ : ∃ decoded : MadStream, decoded =
    if found.error = .none then
      { found.stream with
        ancPtr := result.ptr.bits
        ancBitlen := UInt32.ofNat ((mainDataBegin + space - next) * 8) -
          UInt32.ofNat info.dataBitlen }
    else found.stream := ⟨_, rfl⟩
  simp only [← hdecoded]
  have hsame : decoded.nextFrame = start + space ∧
      decoded.mainData = found.stream.mainData ∧ decoded.mdLen = found.stream.mdLen := by
    rw [hdecoded]
    split_ifs <;> exact ⟨hfoundNext, rfl, rfl⟩
  obtain ⟨s', hs', hlen, hholds⟩ :=
    reservoir_update hle hsame.1 hfound hsame.2.1 hsame.2.2
  simp only [← hs']
  refine ⟨?_, ?_, ?_⟩
  · split_ifs <;> exact hlen
  · split_ifs <;> exact hholds
  · intro call hcall
    by_cases hok : found.error = .none
    · rw [if_pos hok] at hcall
      cases hcall
      exact ⟨findMainData_le hfound hok, findMainData_bytes hfound hok hstart⟩
    · rw [if_neg hok] at hcall
      cases hcall

theorem nextBeginOf_le_511 (mem : Mem) (nextFrame mainDataBegin space : ℕ) :
    nextBeginOf mem nextFrame mainDataBegin space ≤ 511 := by
  have hpeek := peekMainDataBegin_le mem nextFrame
  rw [nextBeginOf_eq]
  split_ifs <;> omega

/-- The next frame cannot ask for more than its header can say. -/
theorem madLayerIII_mdLen_le (hptr : InByte mem stream.ptr (8 * start)) (frame : MadFrame) :
    (madLayerIII requantize mem stream frame stack).stream.mdLen ≤ 511 := by
  rcases madLayerIII_cases requantize hptr frame stack with
    ⟨-, hresult⟩ | ⟨hpasses, header, info, error, hresult, hinfo, hbegin, -⟩
  · rw [hresult]
    exact Nat.zero_le 511
  obtain ⟨payload, hpayload⟩ : ∃ payload, payload =
    start + siLen frame.header.flags.lsfExt (madNchannels frame.header) := ⟨_, rfl⟩
  rw [← hpayload] at hpasses hinfo
  have hstart : madBitNextbyte info.ptr = payload := by
    rw [hinfo.1.nextbyte]
    omega
  have hframe : stream.nextFrame = payload + (stream.nextFrame - payload) := by omega
  obtain ⟨s, hs⟩ : ∃ s : MadStream, s = { stream with ptr := info.ptr } := ⟨_, rfl⟩
  have hsame : s.nextFrame = stream.nextFrame ∧ s.ptr = info.ptr := by
    rw [hs]
    exact ⟨rfl, rfl⟩
  rw [← hs] at hresult
  have hlen := (layerMainData_reservoir hresult (hsame.2 ▸ hstart) (hsame.1.trans hframe) hbegin
    rfl).1
  have hnext := nextBeginOf_le_511 mem s.nextFrame
    (bitsVal mem (8 * start) (if frame.header.flags.lsfExt then 8 else 9))
    (stream.nextFrame - payload)
  omega

end Update

/-! ### Runs -/

/-- What a call of `mad_layer_III` is made with: the side information starts at byte `start`. -/
structure LayerCall where
  mem : Mem
  header : MadHeader
  options : ℕ
  start : ℕ
  cache : ℕ
  nextFrame : ℕ
  stack : Stack

namespace LayerCall

variable (c : LayerCall)

def payloadStart : ℕ := c.start + siLen c.header.flags.lsfExt (madNchannels c.header)

/-- The frame-length check. -/
def Passes : Prop := c.payloadStart ≤ c.nextFrame

instance : Decidable c.Passes := inferInstanceAs (Decidable (c.payloadStart ≤ c.nextFrame))

/-- `frame_space` -/
def frameSpace : ℕ := c.nextFrame - c.payloadStart

def payload : List UInt8 := segment c.mem c.payloadStart c.frameSpace

/-- `main_data_begin` of the frame -/
def mainDataBegin : ℕ := bitsVal c.mem (8 * c.start) (if c.header.flags.lsfExt then 8 else 9)

/-- `next_md_begin` -/
def nextMdBegin : ℕ := nextBeginOf c.mem c.nextFrame c.mainDataBegin c.frameSpace

def enter (stream : MadStream) : MadStream :=
  { stream with nextFrame := c.nextFrame, ptr := ⟨c.start, c.cache, 8⟩ }

end LayerCall

/-- The stream, and the payloads since the last reset. -/
structure ReservoirState where
  stream : MadStream
  history : List UInt8

variable (requantize : ℕ → ℤ → ℤ)

/-- The call of `mad_layer_III` itself. -/
def LayerCall.result (c : LayerCall) (stream : MadStream) : LayerResult :=
  madLayerIII requantize c.mem (c.enter stream) ⟨c.header, c.options⟩ c.stack

/-- The reservoir under a run of calls; a frame that fails the length check resets it. -/
def reservoirMachine (mainData : Mem) : Machine ReservoirState LayerCall where
  init := ⟨madStreamInit mainData, []⟩
  step s c := some {
    stream := (c.result requantize s.stream).stream
    history := if c.Passes then s.history ++ c.payload else [] }

/-- The reservoir holds the end of the history. -/
structure ReservoirInv (s : ReservoirState) : Prop where
  mdLen_le : s.stream.mdLen ≤ 511
  holds : segment s.stream.mainData 0 s.stream.mdLen = s.history.rtake s.stream.mdLen

/-- The copy that appends to the reservoir stays inside `main_data`. -/
def LayerResult.CopyFits (r : LayerResult) : Prop :=
  ∀ dest len, r.append = some (dest, len) → dest + len ≤ madBufferMdlen

/-- What a call that passes the length check does to the reservoir, and what it lets `III_decode`
read. -/
structure Delivers (s s' : ReservoirState) (c : LayerCall) (r : LayerResult) : Prop where
  mdLen_eq : s'.stream.mdLen =
    min c.nextMdBegin ((if c.mainDataBegin = 0 then 0 else s.stream.mdLen) + c.frameSpace)
  mdLen_le : s'.stream.mdLen ≤ 511
  holds : segment s'.stream.mainData 0 s'.stream.mdLen =
    (s.history ++ c.payload).rtake s'.stream.mdLen
  reads : ∀ call, r.call = some call →
    segment call.mem (madBitNextbyte call.ptr)
        (c.mainDataBegin + (c.frameSpace - c.nextMdBegin)) =
      s.history.rtake c.mainDataBegin ++ c.payload.take (c.frameSpace - c.nextMdBegin)

variable {requantize}

theorem reservoirInv_init (mainData : Mem) : ReservoirInv (reservoirMachine requantize mainData).init :=
  ⟨Nat.zero_le 511, rfl⟩

/-- One call, from a reservoir that holds the end of the history. -/
theorem ReservoirInv.delivers {s : ReservoirState} (h : ReservoirInv s) {c : LayerCall}
    (hpasses : c.Passes) (mainData : Mem) :
    Delivers s ((reservoirMachine requantize mainData).move s c) c
      (c.result requantize s.stream) := by
  have hptr : InByte c.mem (c.enter s.stream).ptr (8 * c.start) :=
    ⟨⟨Nat.le_refl 8, rfl, fun _ hlt => absurd hlt (Nat.lt_irrefl 8)⟩, Nat.succ_pos 7⟩
  rcases madLayerIII_cases requantize hptr ⟨c.header, c.options⟩ c.stack with
    ⟨hshort, -⟩ | ⟨-, header, info, error, hresult, hinfo, hbegin, -⟩
  · exact absurd hpasses (Nat.not_le.mpr hshort)
  have hstart : madBitNextbyte info.ptr = c.payloadStart := by
    rw [hinfo.1.nextbyte]
    show (8 * c.payloadStart + 7) / 8 = c.payloadStart
    omega
  have hframe : c.nextFrame = c.payloadStart + c.frameSpace := by
    rw [LayerCall.Passes] at hpasses
    rw [LayerCall.frameSpace]
    omega
  obtain ⟨stream, hstream⟩ : ∃ stream : MadStream,
    stream = { c.enter s.stream with ptr := info.ptr } := ⟨_, rfl⟩
  have hdata : stream.mainData = s.stream.mainData ∧ stream.mdLen = s.stream.mdLen ∧
      stream.nextFrame = c.nextFrame ∧ stream.ptr = info.ptr := by
    rw [hstream]
    exact ⟨rfl, rfl, rfl, rfl⟩
  rw [← hstream] at hresult
  obtain ⟨hmain, hlen, hnext, hptr'⟩ := hdata
  obtain ⟨hmdLen, hholds, hreads⟩ := layerMainData_reservoir hresult (hptr' ▸ hstart)
    (hnext.trans hframe) hbegin rfl
  have hpayload : c.payload.length = c.frameSpace := length_segment _ _ _
  have hkept : segment stream.mainData 0 (keptLen stream c.mainDataBegin) =
      s.history.rtake (keptLen stream c.mainDataBegin) := by
    rw [keptLen, hlen, hmain]
    split_ifs
    · rw [segment_zero, List.rtake_zero]
    · exact h.holds
  have hmove : (reservoirMachine requantize mainData).move s c = {
      stream := (c.result requantize s.stream).stream
      history := s.history ++ c.payload } := by
    rw [Machine.move_of_step _ rfl, if_pos hpasses]
  rw [hnext] at hmdLen hreads
  rw [hmove]
  refine ⟨?_, ?_, ?_, ?_⟩
  · rw [← hlen]
    exact hmdLen
  · exact madLayerIII_mdLen_le hptr ⟨c.header, c.options⟩
  · have hle : (c.result requantize s.stream).stream.mdLen ≤
        keptLen stream c.mainDataBegin + c.payload.length := by
      rw [hpayload]
      exact hmdLen.trans_le (Nat.min_le_right _ _)
    rw [← rtake_rtake_append _ _ hle, ← hkept]
    exact hholds
  · intro call hcall
    obtain ⟨hle, hbytes⟩ := hreads call hcall
    rw [hlen] at hle hbytes
    rw [hmain, h.holds, rtake_rtake _ hle] at hbytes
    rw [LayerCall.payload, take_segment _ _ (Nat.sub_le _ _)]
    exact hbytes

/-- The reservoir copy of a call fits. -/
def CallFits (requantize : ℕ → ℤ → ℤ) (s : ReservoirState) (c : LayerCall) : Prop :=
  (c.result requantize s.stream).CopyFits

theorem ReservoirInv.reset {s : ReservoirState} {c : LayerCall} (hshort : ¬ c.Passes)
    (mainData : Mem) : ReservoirInv ((reservoirMachine requantize mainData).move s c) := by
  have hptr : InByte c.mem (c.enter s.stream).ptr (8 * c.start) :=
    ⟨⟨Nat.le_refl 8, rfl, fun _ hlt => absurd hlt (Nat.lt_irrefl 8)⟩, Nat.succ_pos 7⟩
  rcases madLayerIII_cases requantize hptr ⟨c.header, c.options⟩ c.stack with
    ⟨-, hresult⟩ | ⟨hpasses, -⟩
  · have hzero : (c.result requantize s.stream).stream.mdLen = 0 := by
      rw [LayerCall.result, hresult]
    rw [Machine.move_of_step _ rfl, if_neg hshort]
    refine ⟨?_, ?_⟩
    · rw [hzero]
      exact Nat.zero_le 511
    · rw [hzero]
      rfl
  · exact absurd hpasses hshort

theorem reservoir_invariant (mainData : Mem) :
    (reservoirMachine requantize mainData).InvariantUnder (CallFits requantize) ReservoirInv where
  init := reservoirInv_init mainData
  step {s c s'} hs _ hstep := by
    rw [← Machine.move_of_step _ hstep]
    by_cases hpasses : c.Passes
    · have hdelivers : Delivers s ((reservoirMachine requantize mainData).move s c) c
          (c.result requantize s.stream) := hs.delivers hpasses mainData
      have hhistory : ((reservoirMachine requantize mainData).move s c).history =
          s.history ++ c.payload := by rw [Machine.move_of_step _ rfl, if_pos hpasses]
      exact ⟨hdelivers.mdLen_le, hhistory ▸ hdelivers.holds⟩
    · exact ReservoirInv.reset hpasses mainData

/-- **The bit reservoir.**  In every run of `mad_layer_III` calls whose copies fit in `main_data`,
each call that passes the length check leaves the last `md_len` bytes of the payloads since the
last reset in `main_data[0 .. md_len)`, and `III_decode` reads the `main_data_begin` bytes of
payload before the frame and then the bytes of its own payload that are not the next frame's. -/
theorem reservoir_holds_payloads (requantize : ℕ → ℤ → ℤ) (mainData : Mem) (calls : List LayerCall)
    (hfit : (reservoirMachine requantize mainData).Always (CallFits requantize) calls) :
    (reservoirMachine requantize mainData).Always
      (fun s c => c.Passes → Delivers s ((reservoirMachine requantize mainData).move s c) c
        (c.result requantize s.stream)) calls :=
  (reservoir_invariant mainData).always (fun hs _ hpasses => hs.delivers hpasses mainData) hfit

instance (r : LayerResult) : Decidable r.CopyFits :=
  decidable_of_iff (r.append.all fun copy => copy.1 + copy.2 ≤ madBufferMdlen) (by
    rw [LayerResult.CopyFits]
    cases r.append with
    | none => simp
    | some copy => simp [Prod.ext_iff])

instance (requantize : ℕ → ℤ → ℤ) (s : ReservoirState) (c : LayerCall) :
    Decidable (CallFits requantize s c) :=
  inferInstanceAs (Decidable (c.result requantize s.stream).CopyFits)

/-- Two frames of silence, the second of which has 10 bytes of main data in the first. -/
def silentCalls : List LayerCall :=
  let mem : Mem := fun a => if a = 200 then 0xff else if a = 201 then 0xfb else if a = 204 then 5
    else 0
  let stack : Stack := { si := {}, xr := fun _ _ _ => 0, exponents := fun _ _ _ => 0 }
  [⟨mem, {}, 0, 100, 0, 200, stack⟩, ⟨mem, {}, 0, 204, 0, 300, stack⟩]

theorem reservoir_holds_silence :
    (reservoirMachine (fun _ _ => 0) fun _ => 0).Always (CallFits fun _ _ => 0) silentCalls ∧
      (reservoirMachine (fun _ _ => 0) fun _ => 0).Always
        (fun s c => c.Passes → Delivers s
          ((reservoirMachine (fun _ _ => 0) fun _ => 0).move s c) c
          (c.result (fun _ _ => 0) s.stream)) silentCalls := by
  have hfit : (reservoirMachine (fun _ _ => 0) fun _ => 0).Always (CallFits fun _ _ => 0)
    silentCalls := by decide +kernel
  exact ⟨hfit, reservoir_holds_payloads _ _ _ hfit⟩

end Mp3Decoder
