import Mp3Decoder.User.Decoder

/-!
# What a frame can make the decoder do

The input is not trusted.  For each of three things that can go wrong in `mad_frame_decode` there
is a condition on the bytes in `readBuf` and on the stream: a call through a null pointer, a copy
past the end of `main_data`, and reading past the end of the main data.
-/

namespace Mp3Decoder

open Schedule BigEndianBits

/-- The layer decoder that ran in a call of `mad_frame_decode`, if any. -/
def FrameResult.layer : FrameResult → Option LayerResult
  | .returned _ _ _ layer => layer
  | .nullCall _ _ => none

variable {requantize : ℕ → ℤ → ℤ} {base : ReadBufAddr} {source : Mem} {s : Decoder}
  {a : Surroundings}

/-- Conditions on the inner loop that agree there agree in every run. -/
theorem always_iff_decode {P Q : Decoder → Surroundings → Prop} (requantize : ℕ → ℤ → ℤ)
    (base : ReadBufAddr) (source mainData readBuf : Mem) (acts : List Surroundings)
    (h : ∀ {s a}, Ready base source s → s.pc = .decode → (P s a ↔ Q s a)) :
    (decoderMachine requantize base source mainData readBuf).Always
        (fun s a => s.pc = .decode → P s a) acts ↔
      (decoderMachine requantize base source mainData readBuf).Always
        (fun s a => s.pc = .decode → Q s a) acts := by
  apply (decoder_invariant requantize base source mainData readBuf).always_iff
  intro s a hinv
  apply forall_congr'
  intro hpc
  exact h (hinv (by rw [hpc]; decide)) hpc

/-! ### Null pointers -/

/-- `mad_frame_decode` does not call through a null pointer. -/
def NoNullCall (requantize : ℕ → ℤ → ℤ) (base : ReadBufAddr) (s : Decoder) (a : Surroundings) :
    Prop :=
  ∀ frame stream, s.decodeResult requantize base a ≠ .nullCall frame stream

/-- The frame that the search for a header settles on, if any, is of Layer III. -/
def FindsLayerIII (base : ReadBufAddr) (s : Decoder) (a : Surroundings) : Prop :=
  ∀ f r n, Accepts (memoryWith base s.readBuf a.outside) s.stream f r n →
    layerAt (memoryWith base s.readBuf a.outside) f = 3

theorem Ready.noNullCall_iff (h : Ready base source s) (hpc : s.pc = .decode) :
    NoNullCall requantize base s a ↔ FindsLayerIII base s a := by
  have hcase := h.frameCase hpc requantize a
  rw [NoNullCall]
  generalize s.decodeResult requantize base a = result at hcase
  rcases hcase with ⟨haccepts, hlayer, -, -, -⟩ | ⟨haccepts, hlayer⟩ | ⟨hno, -, -, -⟩
  · constructor
    · intro _ f' r' n' haccepts'
      rw [← (haccepts.unique haccepts').1]
      exact hlayer
    · intro _ _ _ hnull
      cases hnull
  · constructor
    · intro hnot
      exact absurd rfl (hnot _ _)
    · intro hfinds
      exact absurd (hfinds _ _ _ haccepts) hlayer
  · constructor
    · intro _ f r n haccepts
      exact absurd haccepts (hno f r n)
    · intro _ _ _ hnull
      cases hnull

/-- **No call through a null pointer happens in a run exactly when every frame that is found is of
Layer III.** -/
theorem decoder_noNullCall_iff (requantize : ℕ → ℤ → ℤ) (base : ReadBufAddr)
    (source mainData readBuf : Mem) (acts : List Surroundings) :
    (decoderMachine requantize base source mainData readBuf).Always
        (fun s a => s.pc = .decode → NoNullCall requantize base s a) acts ↔
      (decoderMachine requantize base source mainData readBuf).Always
        (fun s a => s.pc = .decode → FindsLayerIII base s a) acts :=
  always_iff_decode requantize base source mainData readBuf acts Ready.noNullCall_iff

/-- A Layer II header of 32 kbit/s at 44.1 kHz. -/
def layerIIFrame : Mem := fun a =>
  if a = 0 then 0xff else if a = 1 then 0xfd else if a = 2 then 0x10 else 0

def FrameResult.isNullCall : FrameResult → Bool
  | .returned .. => false
  | .nullCall .. => true

theorem NoNullCall.isNullCall_eq (h : NoNullCall requantize base s a) :
    (s.decodeResult requantize base a).isNullCall = false := by
  rw [NoNullCall] at h
  generalize s.decodeResult requantize base a = result at h ⊢
  cases result with
  | returned ok frame stream layer => rfl
  | nullCall frame stream => exact absurd rfl (h frame stream)

theorem decoder_calls_null : ¬ ∀ requantize base source mainData readBuf acts,
    (decoderMachine requantize base source mainData readBuf).Always
      (fun s a => s.pc = .decode → NoNullCall requantize base s a) acts := by
  intro h
  have hrun := h (fun _ _ => 0) ⟨4096, by decide⟩ layerIIFrame (fun _ => 0) (fun _ => 0)
    [silentSurroundings, silentSurroundings]
  exact absurd (hrun.2.1 rfl).isNullCall_eq (by decide +kernel)

/-! ### The reservoir copy -/

/-- The bytes of the frame at `f` behind its side information start here. -/
def payloadStartAt (mem : Mem) (f : ℕ) : ℕ :=
  headerEnd mem f + siLen (lsfAt mem f) (madNchannels (headerAt mem f))

/-- A Layer III frame at `f` of `n` bytes in free format whose main data begins in the reservoir,
and whose payload together with the reservoir is longer than `main_data`, not counting what the
next header asks for. -/
structure Overlong (mem : Mem) (stream : MadStream) (f n : ℕ) : Prop where
  layerIII : layerAt mem f = 3
  free_format : (headerAt mem f).bitrate = 0
  begins : mainDataBeginAt mem f ≠ 0
  reaches : mainDataBeginAt mem f ≤ stream.mdLen
  long : madBufferMdlen + nextBeginOf mem (f + n) (mainDataBeginAt mem f)
    (f + n - payloadStartAt mem f) < stream.mdLen + (f + n - payloadStartAt mem f)

/-- The copy of `mad_layer_III`, if there is one, stays inside `main_data`. -/
def CopyFits (requantize : ℕ → ℤ → ℤ) (base : ReadBufAddr) (s : Decoder) (a : Surroundings) :
    Prop :=
  ∀ r, (s.decodeResult requantize base a).layer = some r → r.CopyFits

/-- The frame found is not overlong. -/
def FindsNoOverlong (base : ReadBufAddr) (s : Decoder) (a : Surroundings) : Prop :=
  ∀ f r n, Accepts (memoryWith base s.readBuf a.outside) s.stream f r n →
    ¬ Overlong (memoryWith base s.readBuf a.outside) s.stream f n

theorem findMainData_append {mem : Mem} {stream : MadStream} {mainDataBegin mdLen : ℕ}
    {error : MadError} (dest len : ℕ) :
    (findMainData mem stream mainDataBegin mdLen error).append = some (dest, len) ↔
      mainDataBegin ≠ 0 ∧ mainDataBegin ≤ stream.mdLen ∧ mainDataBegin < mdLen ∧
        dest = stream.mdLen ∧ len = mdLen - mainDataBegin := by
  rw [findMainData]
  by_cases hzero : mainDataBegin = 0
  · simp [hzero]
  by_cases hshort : mainDataBegin > stream.mdLen
  · simp [hzero, hshort]
  by_cases happend : mdLen > mainDataBegin
  · simp only [if_neg hzero, if_neg hshort, if_pos happend, Option.some.injEq, Prod.mk.injEq]
    omega
  · simp [hzero, hshort, happend]

/-- `mad_layer_III` on an accepted frame, either too short for its side information or behind it. -/
theorem acceptedFrame_cases (requantize : ℕ → ℤ → ℤ) {mem : Mem} {f r : ℕ} {header : MadHeader}
    {ptr : MadBitptr}
    (hheader : SameButCrc header (frameHeader mem f r)) (hptr : InByte mem ptr (8 * headerEnd mem f))
    (stream : MadStream) (n freerate options : ℕ) (stack : Stack) :
    (f + n < payloadStartAt mem f ∧
      (madLayerIII requantize mem (acceptedStream stream f n ptr freerate) ⟨header, options⟩
        stack).append = none ∧
      (madLayerIII requantize mem (acceptedStream stream f n ptr freerate) ⟨header, options⟩
        stack).call = none) ∨
    (payloadStartAt mem f ≤ f + n ∧ ∃ header' info error,
      madLayerIII requantize mem (acceptedStream stream f n ptr freerate) ⟨header, options⟩ stack =
        layerMainData requantize mem header'
          { acceptedStream stream f n ptr freerate with ptr := info.ptr } info error stack ∧
      InByte mem info.ptr (8 * payloadStartAt mem f) ∧
      info.si.mainDataBegin = mainDataBeginAt mem f) := by
  have hlsf : header.flags.lsfExt = lsfAt mem f := by
    rw [hheader]
    rfl
  have hnch : madNchannels header = madNchannels (headerAt mem f) := by
    rw [hheader]
    rfl
  have hat : InByte mem (acceptedStream stream f n ptr freerate).ptr (8 * headerEnd mem f) := hptr
  have hcases := madLayerIII_cases requantize hat ⟨header, options⟩ stack
  simp only [hlsf, hnch] at hcases
  rcases hcases with ⟨hshort, hresult⟩ | ⟨hlong, header', info, error, hresult, hinfo, hbegin, -⟩
  · left
    rw [hresult]
    exact ⟨hshort, rfl, rfl⟩
  · exact .inr ⟨hlong, header', info, error, hresult, hinfo, hbegin⟩

theorem layerMainData_append {mem : Mem} {header : MadHeader} {stream : MadStream}
    {info : SideinfoState} {error : MadError} {stack : Stack} {start space : ℕ} {r : LayerResult}
    (hr : r = layerMainData requantize mem header { stream with ptr := info.ptr } info error stack)
    (hstart : madBitNextbyte info.ptr = start) (hspace : stream.nextFrame - start = space)
    (dest len : ℕ) :
    r.append = some (dest, len) ↔
      info.si.mainDataBegin ≠ 0 ∧ info.si.mainDataBegin ≤ stream.mdLen ∧
        nextBeginOf mem stream.nextFrame info.si.mainDataBegin space < space ∧
        dest = stream.mdLen ∧
        len = space - nextBeginOf mem stream.nextFrame info.si.mainDataBegin space := by
  have hnext := nextBeginOf_le mem stream.nextFrame info.si.mainDataBegin space
  rw [hr]
  simp only [layerMainData, hstart, hspace, findMainData_append]
  have hpeek := (nextBeginOf_eq mem stream.nextFrame info.si.mainDataBegin space).symm
  rw [hpeek]
  omega

/-- The copy for an accepted frame fits exactly when the frame is not overlong; frames whose rate is
in the table are too short to be. -/
theorem copyFits_iff_not_overlong (requantize : ℕ → ℤ → ℤ) {mem : Mem} {stream : MadStream} {f r n : ℕ}
    {header : MadHeader} {ptr : MadBitptr} (hframe : FrameAt mem stream f r n)
    (hlayer : layerAt mem f = 3) (hmdLen : stream.mdLen ≤ 511)
    (hheader : SameButCrc header (frameHeader mem f r)) (hptr : InByte mem ptr (8 * headerEnd mem f))
    (freerate options : ℕ) (stack : Stack) :
    (madLayerIII requantize mem (acceptedStream stream f n ptr freerate) ⟨header, options⟩
      stack).CopyFits ↔ ¬ Overlong mem stream f n := by
  have hsize : madBufferMdlen = 2567 := rfl
  have hafter : f ≤ payloadStartAt mem f := by
    rw [payloadStartAt, headerEnd]
    omega
  rcases acceptedFrame_cases requantize hheader hptr stream n freerate options stack with
    ⟨hshort, hnone, -⟩ | ⟨hlong, header', info, error, hresult, hinfo, hbegin⟩
  · constructor
    · intro _ hover
      have hlen := hover.long
      omega
    · intro _ dest len hcopy
      rw [hnone] at hcopy
      cases hcopy
  have hstart : madBitNextbyte info.ptr = payloadStartAt mem f := by
    rw [hinfo.1.nextbyte]
    omega
  have happend := layerMainData_append hresult hstart rfl
  rw [hbegin] at happend
  have hnext : (acceptedStream stream f n ptr freerate).nextFrame = f + n := rfl
  have hreservoir : (acceptedStream stream f n ptr freerate).mdLen = stream.mdLen := rfl
  rw [hnext, hreservoir] at happend
  constructor
  · intro hfits hover
    have hlen := hover.long
    have hbound := hfits _ _
      ((happend _ _).mpr ⟨hover.begins, hover.reaches, by omega, rfl, rfl⟩)
    omega
  · intro hnot dest len hcopy
    obtain ⟨hbegins, hreaches, hroom, rfl, rfl⟩ := (happend dest len).mp hcopy
    by_contra hpast
    by_cases htable : (headerAt mem f).bitrate = 0
    · exact hnot ⟨hlayer, htable, hbegins, hreaches, by omega⟩
    · have htableLen := hframe.table_le hlayer htable
      omega

theorem Ready.copyFits_iff (h : Ready base source s) (hpc : s.pc = .decode) :
    CopyFits requantize base s a ↔ FindsNoOverlong base s a := by
  have hcase := h.frameCase hpc requantize a
  rw [CopyFits, FindsNoOverlong]
  generalize s.decodeResult requantize base a = result at hcase ⊢
  generalize memoryWith base s.readBuf a.outside = mem at hcase ⊢
  rcases hcase with ⟨haccepts, hlayer, hheader, hptr, -⟩ | ⟨haccepts, hlayer⟩ | ⟨hno, -, -, -⟩
  · have hiff := copyFits_iff_not_overlong requantize haccepts.frame hlayer
      h.mdLen_le hheader hptr
    constructor
    · intro hfits f' r' n' haccepts'
      obtain ⟨heq, -, hn⟩ := haccepts.unique haccepts'
      rw [← heq, ← hn]
      exact (hiff _ _ _).mp (hfits _ rfl)
    · intro hfinds r' hr'
      cases hr'
      exact (hiff _ _ _).mpr (hfinds _ _ _ haccepts)
  · constructor
    · intro _ f' r' n' haccepts' hlong
      obtain ⟨heq, -⟩ := haccepts.unique haccepts'
      rw [heq] at hlayer
      exact hlayer hlong.layerIII
    · intro _ r hr
      cases hr
  · constructor
    · intro _ f r n haccepts
      exact absurd haccepts (hno f r n)
    · intro _ r hr
      cases hr

/-- **Every copy to the reservoir fits in a run exactly when no frame that is found is overlong.** -/
theorem decoder_copyFits_iff (requantize : ℕ → ℤ → ℤ) (base : ReadBufAddr)
    (source mainData readBuf : Mem) (acts : List Surroundings) :
    (decoderMachine requantize base source mainData readBuf).Always
        (fun s a => s.pc = .decode → CopyFits requantize base s a) acts ↔
      (decoderMachine requantize base source mainData readBuf).Always
        (fun s a => s.pc = .decode → FindsNoOverlong base s a) acts :=
  always_iff_decode requantize base source mainData readBuf acts Ready.copyFits_iff

theorem CopyFits.all_fit (h : CopyFits requantize base s a) :
    (s.decodeResult requantize base a).layer.all (fun r => decide r.CopyFits) = true := by
  rw [Option.all_eq_true]
  intro r hr
  exact decide_eq_true (h r hr)

/-- Two free-format frames of 640 kbit/s at 44.1 kHz, of 2089 bytes each.  The second one has 511
bytes of main data in the first, and no frame follows.  Both have a `big_values` of 511, so that
nothing is decoded. -/
def overlongFrames : Mem := fun a =>
  if a = 0 ∨ a = 2089 then 0xff else if a = 1 ∨ a = 2090 then 0xfb
  else if a = 3 ∨ a = 2092 then 0xc0
  else if a = 2093 then 0xff else if a = 2094 then 0x80
  else if a = 7 ∨ a = 2096 then 0x03 else if a = 8 ∨ a = 2097 then 0xfe else 0

theorem decoder_overruns_mainData : ¬ ∀ requantize base source mainData readBuf acts,
    (decoderMachine requantize base source mainData readBuf).Always
      (fun s a => s.pc = .decode → CopyFits requantize base s a) acts := by
  intro h
  have hrun := h (fun _ _ => 0) ⟨4096, by decide⟩ overlongFrames (fun _ => 0) (fun _ => 0)
    [silentSurroundings, silentSurroundings, silentSurroundings, silentSurroundings,
      silentSurroundings]
  have hfits := hrun.2.2.2.2.1 (by decide +kernel)
  exact absurd hfits.all_fit (by decide +kernel)

/-! ### Reading the main data -/

/-- The end of the array that `III_decode` reads: `stream->bufend`, or the end of `main_data`. -/
def DecodeCall.arrayEnd (call : DecodeCall) (stream : MadStream) : ℕ :=
  if call.si.mainDataBegin = 0 then stream.bufend else madBufferMdlen

/-- Every byte read through the main-data pointer is in the array it points into. -/
def DecodeCall.ReadsInside (call : DecodeCall) (stream : MadStream) : Prop :=
  ∀ addr ∈ call.result.ptr.reads, addr < call.arrayEnd stream ∧
    (call.si.mainDataBegin = 0 → stream.buffer ≤ addr)

/-- The parts that the side information claims end `MAD_BUFFER_GUARD` bytes before the array. -/
def DecodeCall.PartsInside (call : DecodeCall) (stream : MadStream) : Prop :=
  PartsFit (8 * call.arrayEnd stream)
    (mainParts call.header call.si (madNchannels call.header) call.ptr.pos)

instance (call : DecodeCall) (stream : MadStream) : Decidable (call.ReadsInside stream) :=
  inferInstanceAs (Decidable (∀ addr ∈ call.result.ptr.reads, addr < call.arrayEnd stream ∧
    (call.si.mainDataBegin = 0 → stream.buffer ≤ addr)))

instance (call : DecodeCall) (stream : MadStream) : Decidable (call.PartsInside stream) :=
  inferInstanceAs (Decidable (PartsFit _ _))

/-- A condition on the call of `III_decode`, if `mad_frame_decode` makes one. -/
def OnDecodeCall (P : DecodeCall → MadStream → Prop) (requantize : ℕ → ℤ → ℤ)
    (base : ReadBufAddr) (s : Decoder) (a : Surroundings) : Prop :=
  ∀ call ∈ (s.decodeResult requantize base a).layer.bind LayerResult.call, P call s.stream

instance (P : DecodeCall → MadStream → Prop) [∀ call stream, Decidable (P call stream)]
    (requantize : ℕ → ℤ → ℤ) (base : ReadBufAddr) (s : Decoder) (a : Surroundings) :
    Decidable (OnDecodeCall P requantize base s a) :=
  inferInstanceAs (Decidable (∀ call ∈ _, P call s.stream))

theorem findMainData_ptr {mem : Mem} {stream : MadStream} {mainDataBegin mdLen : ℕ}
    {error : MadError} {found : FoundMain}
    (hfound : found = findMainData mem stream mainDataBegin mdLen error)
    (hok : found.error = .none) :
    found.ptr = if mainDataBegin = 0 then stream.ptr
      else madBitInit (stream.mdLen - mainDataBegin) := by
  have hle := findMainData_le hfound hok
  rw [hfound, findMainData]
  by_cases hzero : mainDataBegin = 0
  · rw [if_pos hzero, if_pos hzero]
  · rw [if_neg hzero, if_neg (Nat.not_lt.mpr hle), if_neg hzero]
    split_ifs <;> rfl

/-- Where `III_decode` starts to read. -/
theorem layerMainData_call {mem : Mem} {header : MadHeader} {stream : MadStream}
    {info : SideinfoState} {error : MadError} {stack : Stack} {r : LayerResult} {call : DecodeCall}
    (hr : r = layerMainData requantize mem header { stream with ptr := info.ptr } info error stack)
    (hcall : r.call = some call) :
    (call.si.mainDataBegin = 0 → call.mem = mem) ∧
    call.ptr = (if call.si.mainDataBegin = 0 then info.ptr
      else madBitInit (stream.mdLen - call.si.mainDataBegin)) ∧
    call.result = iiiDecode requantize call.mem call.ptr call.header call.si
      (madNchannels call.header) stack := by
  rw [hr] at hcall
  simp only [layerMainData] at hcall
  generalize hfound : findMainData mem _ _ _ error = found at hcall
  by_cases hok : found.error = .none
  · have hptr := findMainData_ptr hfound.symm hok
    rw [if_pos hok] at hcall
    cases hcall
    exact ⟨fun hzero => if_pos hzero, hptr, rfl⟩
  · rw [if_neg hok] at hcall
    cases hcall

/-- A call for an accepted frame reads inside its array when the parts are. -/
theorem DecodeCall.reads_of_parts {mem : Mem} {stream : MadStream} {f r n : ℕ} {header : MadHeader}
    {ptr : MadBitptr} (hbuffer : stream.buffer ≤ f) (hbufend : 0 < stream.bufend)
    (hheader : SameButCrc header (frameHeader mem f r)) (hptr : InByte mem ptr (8 * headerEnd mem f))
    {freerate options : ℕ} {stack : Stack} {call : DecodeCall}
    (hcall : (madLayerIII requantize mem (acceptedStream stream f n ptr freerate) ⟨header, options⟩
      stack).call = some call)
    (hparts : call.PartsInside stream) : call.ReadsInside stream := by
  rcases acceptedFrame_cases requantize hheader hptr stream n freerate options stack with
    ⟨-, -, hnone⟩ | ⟨-, header', info, error, hresult, hinfo, -⟩
  · rw [hnone] at hcall
    cases hcall
  obtain ⟨hmem, hstart, hdecode⟩ := layerMainData_call hresult hcall
  have hafter : f ≤ payloadStartAt mem f := by
    rw [payloadStartAt, headerEnd]
    omega
  have hend : 0 < call.arrayEnd stream := by
    rw [arrayEnd]
    split_ifs
    · exact hbufend
    · decide
  -- the pointer stands in a byte of the array
  obtain ⟨pos, hat, hleft, hlo⟩ : ∃ pos, AtBit call.mem call.ptr pos ∧ 0 < call.ptr.left ∧
      (call.si.mainDataBegin = 0 → 8 * f ≤ pos) := by
    by_cases hzero : call.si.mainDataBegin = 0
    · rw [if_pos hzero] at hstart
      rw [hmem hzero, hstart]
      exact ⟨_, hinfo.1, hinfo.2, fun _ => by omega⟩
    · rw [if_neg hzero] at hstart
      rw [hstart]
      exact ⟨_, atBit_init _ _, Nat.succ_pos 7, fun h => absurd h hzero⟩
  rw [PartsInside, hat.pos] at hparts
  have hreads := iiiDecode_reads requantize hat hleft call.si (madNchannels call.header) stack
    hparts
  rw [← hdecode] at hreads
  intro addr haddr
  have hin := hreads addr haddr
  rw [ByteIn] at hin
  refine ⟨by omega, fun hzero => ?_⟩
  have hpos := hlo hzero
  omega

theorem Ready.reads_of_parts (h : Ready base source s) (hpc : s.pc = .decode)
    (hparts : OnDecodeCall DecodeCall.PartsInside requantize base s a) :
    OnDecodeCall DecodeCall.ReadsInside requantize base s a := by
  have hwindow := h.windowed hpc
  have hbuffer := hwindow.buffer_eq
  have hle := hwindow.le_nextFrame
  have hcase := h.frameCase hpc requantize a
  rw [OnDecodeCall] at hparts ⊢
  generalize s.decodeResult requantize base a = result at hcase hparts ⊢
  intro call hcall
  have hpart := hparts call hcall
  rcases hcase with ⟨haccepts, hlayer, hheader, hptr, -⟩ | ⟨haccepts, hlayer⟩ | ⟨hno, -, -, -⟩
  · have hfrom := haccepts.le
    have hfits := haccepts.fits
    have hguard : madBufferGuard = 8 := rfl
    exact DecodeCall.reads_of_parts (by omega) (by omega) hheader hptr hcall hpart
  · cases hcall
  · cases hcall

/-- **What `III_decode` reads is inside the buffer or the reservoir**, in every run in which the
side information claims no more than is there. -/
theorem decoder_readsInside (requantize : ℕ → ℤ → ℤ) (base : ReadBufAddr)
    (source mainData readBuf : Mem) (acts : List Surroundings)
    (hparts : (decoderMachine requantize base source mainData readBuf).Always
      (fun s a => s.pc = .decode → OnDecodeCall DecodeCall.PartsInside requantize base s a) acts) :
    (decoderMachine requantize base source mainData readBuf).Always
      (fun s a => s.pc = .decode → OnDecodeCall DecodeCall.ReadsInside requantize base s a) acts := by
  have hinvariant : (decoderMachine requantize base source mainData readBuf).InvariantUnder
      (fun s a => s.pc = .decode → OnDecodeCall DecodeCall.PartsInside requantize base s a)
      (DecoderInv base source) :=
    ⟨decoderInv_init, fun hs _ hstep => (decoder_invariant requantize base source mainData
      readBuf).step hs trivial hstep⟩
  apply hinvariant.always _ hparts
  intro s a h hpart hpc
  exact (h (by rw [hpc]; decide)).reads_of_parts hpc (hpart hpc)

/-- A frame of 104 bytes, 32 kbit/s at 44.1 kHz and mono, whose main data is in the frame. -/
def plainFrame : Mem := fun a =>
  if a = 0 then 0xff else if a = 1 then 0xfb else if a = 2 then 0x10 else if a = 3 then 0xc0 else 0

theorem decoder_readsInside_plainFrame :
    (decoderMachine (fun _ _ => 0) ⟨4096, by decide⟩ plainFrame (fun _ => 0) fun _ => 0).Always
      (fun s a => s.pc = .decode → OnDecodeCall DecodeCall.PartsInside (fun _ _ => 0)
        ⟨4096, by decide⟩ s a) [silentSurroundings, silentSurroundings] ∧
    (decoderMachine (fun _ _ => 0) ⟨4096, by decide⟩ plainFrame (fun _ => 0) fun _ => 0).Always
      (fun s a => s.pc = .decode → OnDecodeCall DecodeCall.ReadsInside (fun _ _ => 0)
        ⟨4096, by decide⟩ s a) [silentSurroundings, silentSurroundings] := by
  have hparts : (decoderMachine (fun _ _ => 0) ⟨4096, by decide⟩ plainFrame (fun _ => 0)
      fun _ => 0).Always (fun s a => s.pc = .decode → OnDecodeCall DecodeCall.PartsInside
        (fun _ _ => 0) ⟨4096, by decide⟩ s a) [silentSurroundings, silentSurroundings] := by
    decide +kernel
  exact ⟨hparts, decoder_readsInside _ _ _ _ _ _ hparts⟩

/-- A frame of 104 bytes behind 1700 bytes that are not one.  It claims a `part2_3_length` of 4095
bits. -/
def greedyFrame : Mem := fun a =>
  if a = 1700 ∨ a = 1804 then 0xff else if a = 1701 ∨ a = 1805 then 0xfb
  else if a = 1702 then 0x10 else if a = 1703 then 0xc0
  else if a = 1706 then 0x3f else if a = 1707 then 0xfc else 0

theorem decoder_reads_outside : ¬ ∀ requantize base source mainData readBuf acts,
    (decoderMachine requantize base source mainData readBuf).Always
      (fun s a => s.pc = .decode → OnDecodeCall DecodeCall.ReadsInside requantize base s a) acts := by
  intro h
  have hrun := h (fun _ _ => 0) ⟨4096, by decide⟩ greedyFrame (fun _ => 0) (fun _ => 0)
    [silentSurroundings, silentSurroundings, silentSurroundings]
  exact absurd (hrun.2.2.1 (by decide +kernel)) (by decide +kernel)

end Mp3Decoder
