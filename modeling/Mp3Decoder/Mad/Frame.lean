import Mp3Decoder.Mad.HeaderSearch
import Mp3Decoder.Mad.Layer3

/-!
# Decoding a frame (`mad_frame_decode`)

The decoder of a frame is found by its layer, in a table that has only Layer III left.
-/

namespace Mp3Decoder

/-- `mad_frame_init` -/
def madFrameInit : MadFrame where
  header := madHeaderInit
  options := 0

variable (requantize : ℕ → ℤ → ℤ)

abbrev LayerDecoder := Mem → MadStream → MadFrame → Stack → LayerResult

/-- `decoder_table`, with `none` for a null pointer. -/
def decoderTable : List (Option LayerDecoder) := [none, none, some (madLayerIII requantize)]

/-- What a call of `mad_frame_decode` does: it returns, possibly after a layer decoder has run, or
calls through a null pointer. -/
inductive FrameResult
  | returned (ok : Bool) (frame : MadFrame) (stream : MadStream) (layer : Option LayerResult)
  | nullCall (frame : MadFrame) (stream : MadStream)

/-- `audio_data()`; `ancillary_data()` is for the other layers. -/
def audioData (mem : Mem) (frame : MadFrame) (stream : MadStream) (stack : Stack) : FrameResult :=
  let frame := { frame with
    header := { frame.header with flags := { frame.header.flags with incomplete := false } } }
  match ((decoderTable requantize)[frame.header.layer - 1]?).join with
  | none => .nullCall frame stream
  | some decode =>
    let r := decode mem stream frame stack
    let frame := { frame with header := r.header }
    if r.ok then .returned true frame r.stream (some r)
    else
      let stream := if madRecoverable r.stream.error then r.stream
        else { r.stream with nextFrame := r.stream.thisFrame }
      .returned false frame { stream with ancBitlen := 0 } (some r)

/-- `mad_frame_decode` -/
def madFrameDecode (mem : Mem) (frame : MadFrame) (stream : MadStream) (stack : Stack) :
    FrameResult :=
  let frame := { frame with options := stream.options }
  if frame.header.flags.incomplete then audioData requantize mem frame stream stack
  else
    let r := madHeaderDecode mem frame.header stream
    let frame := { frame with header := r.2.1 }
    if r.1 then audioData requantize mem frame r.2.2 stack
    else .returned false frame { r.2.2 with ancBitlen := 0 } none

/-! ### Errors of a frame -/

/-- No error, or one after which decoding goes on with the next frame. -/
def MadError.Recovers (error : MadError) : Prop := error = .none ∨ madRecoverable error = true

theorem recovers_none : MadError.none.Recovers := .inl rfl

/-- An error of the side information or the main data, which the checksum is not. -/
def MadError.OfDecoding (error : MadError) : Prop := error.Recovers ∧ error ≠ .badcrc

theorem ofDecoding_none : MadError.none.OfDecoding := ⟨recovers_none, nofun⟩

theorem ofDecoding_recoverable {error : MadError} (h : madRecoverable error = true)
    (hcrc : error ≠ .badcrc) : error.OfDecoding := ⟨.inr h, hcrc⟩

theorem firstError_ofDecoding {result error : MadError} (bad : Bool) (hresult : result.OfDecoding)
    (herror : error.OfDecoding) : (firstError result bad error).OfDecoding := by
  rw [firstError]
  split_ifs
  · exact herror
  · exact hresult

theorem readWindow_ofDecoding {mem : Mem} {lsf : Bool} {scfsi : ℕ} {channel : Channel}
    {ptr : MadBitptr} {result : MadError} (h : result.OfDecoding) :
    (readWindow mem lsf scfsi channel ptr result).2.2.OfDecoding :=
  firstError_ofDecoding _ (firstError_ofDecoding _ h (ofDecoding_recoverable rfl nofun))
    (ofDecoding_recoverable rfl nofun)

theorem readChannel_ofDecoding {mem : Mem} {lsf : Bool} {scfsi : ℕ} {channel : Channel}
    {ptr : MadBitptr} {result : MadError} (h : result.OfDecoding) :
    (readChannel mem lsf scfsi channel ptr result).2.2.OfDecoding := by
  have hbig : ∀ bad, (firstError result bad .badbigvalues).OfDecoding :=
    fun bad => firstError_ofDecoding bad h (ofDecoding_recoverable rfl nofun)
  simp only [readChannel]
  generalize madBitRead mem (madBitRead mem (madBitRead mem (madBitRead mem
    (madBitRead mem ptr 12).2 9).2 8).2 (if lsf then 9 else 4)).2 1 = switching
  by_cases hwindow : switching.1 ≠ 0
  · rw [if_pos hwindow]
    exact readWindow_ofDecoding (hbig _)
  · rw [if_neg hwindow]
    exact hbig _

theorem foldl_ofDecoding {step : SideinfoState → ℕ → SideinfoState}
    (hstep : ∀ s i, s.result.OfDecoding → (step s i).result.OfDecoding) (is : List ℕ)
    {s : SideinfoState} (h : s.result.OfDecoding) : (is.foldl step s).result.OfDecoding := by
  induction is generalizing s with
  | nil => exact h
  | cons i is ih => exact ih (hstep s i h)

theorem iiiSideinfo_ofDecoding (mem : Mem) (ptr : MadBitptr) (nch : ℕ) (lsf : Bool) (si : SideInfo) :
    (iiiSideinfo mem ptr nch lsf si).result.OfDecoding := by
  have hstart : (sideinfoStart mem ptr nch lsf si).result.OfDecoding := by
    simp only [sideinfoStart]
    split_ifs
    · exact ofDecoding_none
    · rw [readScfsi]
      apply foldl_ofDecoding
      · intro s ch h
        exact h
      · exact ofDecoding_none
  apply foldl_ofDecoding _ _ hstart
  intro s gr hs
  exact foldl_ofDecoding (fun _ _ h => readChannel_ofDecoding h) _ hs

variable {requantize}

theorem bigValues_ofDecoding {tables : HuffTables} {mem : Mem} {channel : Channel}
    {exponents : ℕ → ℤ} (n : ℕ) (s : HuffState) :
    (s.bigValues requantize tables mem channel exponents n).2.OfDecoding := by
  induction n generalizing s with
  | zero => exact ofDecoding_none
  | succ n ih =>
    rw [HuffState.bigValues]
    by_cases hmore : s.cachesz + s.bitsLeft > 0
    · rw [if_pos hmore]
      simp only
      split
      · show MadError.badhufftable.OfDecoding
        exact ofDecoding_recoverable rfl nofun
      · exact ih _
    · rw [if_neg hmore]
      exact ofDecoding_none

theorem iiiHuffdecode_ofDecoding {mem : Mem} {ptr : MainPtr} {xr : ℕ → ℤ} {channel : Channel}
    {sfbwidth : List ℕ} {part2Length : ℤ} {exponents : ℕ → ℤ} :
    (iiiHuffdecode requantize mem ptr xr channel sfbwidth part2Length exponents).error.OfDecoding := by
  have hwords : ∀ s exponents,
      (huffWords requantize madHuffTables mem channel exponents s).2.OfDecoding := by
    intro s exponents
    rw [huffWords]
    split_ifs
    · exact bigValues_ofDecoding _ _
    · show MadError.badhuffdata.OfDecoding
      exact ofDecoding_recoverable rfl (by decide)
    · exact ofDecoding_none
  simp only [iiiHuffdecode, huffdecodeWith, huffdecodePart]
  split_ifs
  · show MadError.badpart3len.OfDecoding
    exact ofDecoding_recoverable rfl (by decide)
  · show MadError.badhufftable.OfDecoding
    exact ofDecoding_recoverable rfl (by decide)
  · exact hwords _ _
  · exact hwords _ _

theorem foldl_decode_ofDecoding {step : DecodeState → ℕ → DecodeState}
    (hstep : ∀ s i, s.error.OfDecoding → (step s i).error.OfDecoding) (is : List ℕ)
    {s : DecodeState} (h : s.error.OfDecoding) : (is.foldl step s).error.OfDecoding := by
  induction is generalizing s with
  | nil => exact h
  | cons i is ih => exact ih (hstep s i h)

theorem iiiDecode_ofDecoding (mem : Mem) (ptr : MadBitptr) (header : MadHeader) (si : SideInfo)
    (nch : ℕ) (stack : Stack) :
    (iiiDecode requantize mem ptr header si nch stack).error.OfDecoding := by
  have hpart : ∀ gr s ch, s.error.OfDecoding →
      (decodePart requantize mem header stack gr s ch).error.OfDecoding := by
    intro gr s ch h
    rw [decodePart]
    split_ifs
    · exact h
    · exact iiiHuffdecode_ofDecoding
  apply foldl_decode_ofDecoding _ _ ofDecoding_none
  intro s gr h
  have hchannels := foldl_decode_ofDecoding (hpart gr) (List.range nch) h
  rw [decodeGranule]
  split_ifs
  · show MadError.badstereo.OfDecoding
    exact ofDecoding_recoverable rfl (by decide)
  · exact hchannels

/-! ### What a frame leaves alone -/

/-- Two streams that differ only in what `mad_layer_III` may change. -/
structure SamePlace (stream stream' : MadStream) : Prop where
  buffer : stream'.buffer = stream.buffer
  bufend : stream'.bufend = stream.bufend
  skiplen : stream'.skiplen = stream.skiplen
  sync : stream'.sync = stream.sync
  freerate : stream'.freerate = stream.freerate
  thisFrame : stream'.thisFrame = stream.thisFrame
  nextFrame : stream'.nextFrame = stream.nextFrame
  options : stream'.options = stream.options

theorem SamePlace.trans {s s' s'' : MadStream} (h : SamePlace s s') (h' : SamePlace s' s'') :
    SamePlace s s'' :=
  ⟨h'.buffer.trans h.buffer, h'.bufend.trans h.bufend, h'.skiplen.trans h.skiplen,
    h'.sync.trans h.sync, h'.freerate.trans h.freerate, h'.thisFrame.trans h.thisFrame,
    h'.nextFrame.trans h.nextFrame, h'.options.trans h.options⟩

theorem findMainData_samePlace (mem : Mem) (stream : MadStream) (mainDataBegin mdLen : ℕ)
    (error : MadError) :
    SamePlace stream (findMainData mem stream mainDataBegin mdLen error).stream := by
  rw [findMainData]
  split_ifs
  all_goals exact ⟨rfl, rfl, rfl, rfl, rfl, rfl, rfl, rfl⟩

theorem preloadMainData_samePlace (mem : Mem) (stream : MadStream)
    (mainDataBegin nextMdBegin mdLen frameFree : ℕ) : SamePlace stream
      (preloadMainData mem stream mainDataBegin nextMdBegin mdLen frameFree) := by
  simp only [preloadMainData]
  split_ifs
  all_goals exact ⟨rfl, rfl, rfl, rfl, rfl, rfl, rfl, rfl⟩

theorem findMainData_recovers {mem : Mem} {stream : MadStream} {mainDataBegin mdLen : ℕ}
    {error : MadError} (h : error.Recovers) :
    (findMainData mem stream mainDataBegin mdLen error).error.Recovers := by
  rw [findMainData]
  split_ifs
  · exact h
  · rw [firstError]
    split_ifs
    · show MadError.baddataptr.Recovers
      exact .inr rfl
    · exact h
  · exact h
  · exact h

/-- What a layer decoder promises `mad_frame_decode`. -/
structure LayerResult.Returns (r : LayerResult) (stream : MadStream) (header : MadHeader) : Prop where
  samePlace : SamePlace stream r.stream
  incomplete : r.header.flags.incomplete = header.flags.incomplete
  recoverable : r.ok = false → madRecoverable r.stream.error = true

theorem layerMainData_returns (mem : Mem) (header : MadHeader) (stream : MadStream)
    (info : SideinfoState) {error : MadError} (stack : Stack) (herror : error.Recovers) :
    (layerMainData requantize mem header stream info error stack).Returns stream header := by
  simp only [layerMainData]
  generalize (if peekMainDataBegin mem stream.nextFrame > info.si.mainDataBegin +
    (stream.nextFrame - madBitNextbyte stream.ptr) then 0
    else peekMainDataBegin mem stream.nextFrame) = next
  generalize info.si.mainDataBegin + (stream.nextFrame - madBitNextbyte stream.ptr) - next = mdLen
  obtain ⟨found, hfound⟩ : ∃ found,
    found = findMainData mem stream info.si.mainDataBegin mdLen error := ⟨_, rfl⟩
  simp only [← hfound]
  have hplace : SamePlace stream found.stream := hfound ▸ findMainData_samePlace _ _ _ _ _
  have hrecovers : found.error.Recovers := hfound ▸ findMainData_recovers herror
  generalize hresult : iiiDecode requantize _ found.ptr header info.si (madNchannels header) stack =
    result
  have hdecode : result.error.Recovers := hresult ▸ (iiiDecode_ofDecoding _ _ _ _ _ _).1
  obtain ⟨last, hlast⟩ : ∃ last,
    last = if found.error = .none then result.error else found.error := ⟨_, rfl⟩
  have hlastRecovers : last.Recovers := by
    rw [hlast]
    split_ifs
    · exact hdecode
    · exact hrecovers
  obtain ⟨decoded, hdecoded⟩ : ∃ decoded : MadStream, decoded =
    if found.error = .none then
      { found.stream with
        ancPtr := result.ptr.bits
        ancBitlen := UInt32.ofNat (mdLen * 8) - UInt32.ofNat info.dataBitlen }
    else found.stream := ⟨_, rfl⟩
  have hdecodedPlace : SamePlace stream decoded := by
    rw [hdecoded]
    split_ifs
    · exact hplace.trans ⟨rfl, rfl, rfl, rfl, rfl, rfl, rfl, rfl⟩
    · exact hplace
  simp only [← hlast, ← hdecoded]
  have hpreload := hdecodedPlace.trans (preloadMainData_samePlace mem decoded
    info.si.mainDataBegin next mdLen (stream.nextFrame - madBitNextbyte stream.ptr -
      found.frameUsed))
  by_cases hok : last = .none
  · simp only [if_pos hok]
    exact ⟨hpreload, rfl, fun h => absurd hok (of_decide_eq_false h)⟩
  · simp only [if_neg hok]
    exact ⟨hpreload.trans ⟨rfl, rfl, rfl, rfl, rfl, rfl, rfl, rfl⟩, rfl,
      fun _ => hlastRecovers.resolve_left hok⟩

theorem checkCrc_cases (mem : Mem) (frame : MadFrame) (ptr : MadBitptr) (len : ℕ) :
    (checkCrc mem frame ptr len).1.flags = frame.header.flags ∧
      (checkCrc mem frame ptr len).2.Recovers := by
  rw [checkCrc]
  by_cases hprotected : frame.header.flags.protection = true
  · rw [if_pos hprotected]
    refine ⟨rfl, ?_⟩
    simp only
    split_ifs
    · show MadError.badcrc.Recovers
      exact .inr rfl
    · exact recovers_none
  · rw [if_neg hprotected]
    exact ⟨rfl, recovers_none⟩

/-- **`mad_layer_III` as `mad_frame_decode` sees it.**  It stays in its place in the buffer, and
its errors are recoverable. -/
theorem madLayerIII_returns (requantize : ℕ → ℤ → ℤ) (mem : Mem) (stream : MadStream)
    (frame : MadFrame) (stack : Stack) :
    (madLayerIII requantize mem stream frame stack).Returns stream frame.header := by
  obtain ⟨hflags, hcrc⟩ := checkCrc_cases mem frame stream.ptr
    (siLen frame.header.flags.lsfExt (madNchannels frame.header))
  have hinfo := iiiSideinfo_ofDecoding mem stream.ptr (madNchannels frame.header)
    frame.header.flags.lsfExt stack.si
  simp only [madLayerIII]
  by_cases hshort : (stream.nextFrame : ℤ) - madBitNextbyte stream.ptr <
      siLen frame.header.flags.lsfExt (madNchannels frame.header)
  · rw [if_pos hshort]
    refine ⟨⟨rfl, rfl, rfl, rfl, rfl, rfl, rfl, rfl⟩, rfl, fun _ => ?_⟩
    show madRecoverable .badframelen = true
    rfl
  · rw [if_neg hshort]
    generalize checkCrc mem frame stream.ptr _ = crc at hflags hcrc ⊢
    generalize iiiSideinfo mem stream.ptr _ _ stack.si = info at hinfo ⊢
    have herror : (if crc.2 = .none then info.result else crc.2).Recovers := by
      split_ifs
      · exact hinfo.1
      · exact hcrc
    have hmain : ∀ header s,
        (layerMainData requantize mem header s info _ stack).Returns s header :=
      fun header s => layerMainData_returns mem header s info stack herror
    refine ⟨SamePlace.trans ?_ (hmain _ _).samePlace, (hmain _ _).incomplete.trans ?_,
      (hmain _ _).recoverable⟩
    · exact ⟨rfl, rfl, rfl, rfl, rfl, rfl, rfl, rfl⟩
    · show crc.1.flags.incomplete = frame.header.flags.incomplete
      rw [hflags]

/-! ### The flag of a header without its frame -/

theorem decodeHeader_incomplete {mem : Mem} {stream : MadStream} {f : ℕ}
    (hptr : AtBit mem stream.ptr (8 * f)) (header : MadHeader) :
    (decodeHeader mem header stream).2.1.flags.incomplete = false := by
  obtain ⟨hbad, hgood⟩ := decodeHeader_eq hptr header
  by_cases herror : headerError mem f = .none
  · obtain ⟨header', ptr', heq, hs, -⟩ := hgood herror
    rw [heq, hs]
    rfl
  · obtain ⟨header', ptr', heq, hincomplete⟩ := hbad herror
    rw [heq]
    exact hincomplete

theorem setFreeRate_incomplete (mem : Mem) (header : MadHeader) (stream : MadStream) :
    (setFreeRate mem header stream).2.1.flags.incomplete = header.flags.incomplete := by
  simp only [setFreeRate]
  split_ifs <;> rfl

/-- A header that was not accepted is not waiting for its frame. -/
def HeaderOutcome.NotWaiting : HeaderOutcome → Prop
  | .fail header _ => header.flags.incomplete = false
  | .done _ _ => True
  | .again header _ => header.flags.incomplete = false

theorem processFrame_notWaiting (mem : Mem) (header : MadHeader) (stream : MadStream) (ptr : ℕ) :
    (processFrame mem header stream ptr).NotWaiting := by
  obtain ⟨start, hstart⟩ : ∃ start : MadStream, start =
    { stream with thisFrame := ptr, nextFrame := ptr + 1, ptr := madBitInit ptr } := ⟨_, rfl⟩
  have hptr : AtBit mem start.ptr (8 * ptr) := by
    rw [hstart]
    exact atBit_init mem ptr
  have hdecode := decodeHeader_incomplete hptr header
  simp only [processFrame, ← hstart]
  generalize decodeHeader mem header start = d at hdecode ⊢
  have hfree := (setFreeRate_incomplete mem d.2.1 d.2.2).trans hdecode
  generalize setFreeRate mem d.2.1 d.2.2 = g at hfree ⊢
  split_ifs
  all_goals first | exact hdecode | exact hfree | trivial

theorem headerLoop_notWaiting (mem : Mem) {header : MadHeader} (h : header.flags.incomplete = false)
    (stream : MadStream) (ptr fuel : ℕ) :
    (headerLoop mem header stream ptr fuel).NotWaiting := by
  induction fuel generalizing header stream ptr with
  | zero => exact h
  | succ fuel ih =>
    have hpass : (headerPass mem header stream ptr).NotWaiting := by
      rw [headerPass]
      split
      · exact h
      · exact processFrame_notWaiting _ _ _ _
    rw [headerLoop]
    generalize headerPass mem header stream ptr = outcome at hpass ⊢
    cases outcome with
    | fail header stream => exact hpass
    | done header stream => exact hpass
    | again header stream => exact ih hpass _ _

theorem madHeaderDecode_incomplete (mem : Mem) {header : MadHeader}
    (h : header.flags.incomplete = false) (stream : MadStream)
    (hfail : (madHeaderDecode mem header stream).1 = false) :
    (madHeaderDecode mem header stream).2.1.flags.incomplete = false := by
  have hloop : ∀ stream ptr fuel, (headerLoop mem header stream ptr fuel).NotWaiting :=
    headerLoop_notWaiting mem h
  revert hfail
  simp only [madHeaderDecode]
  split_ifs
  all_goals first
    | exact fun _ => h
    | intro hfail
      revert hfail
      generalize hout : headerLoop mem header _ _ _ = outcome
      have hnot : outcome.NotWaiting := hout ▸ hloop _ _ _
      cases outcome with
      | fail header stream => exact fun _ => hnot
      | done header stream => exact fun hfail => absurd hfail.symm Bool.false_ne_true
      | again header stream => exact fun _ => hnot

/-! ### One call -/

/-- The stream that the decoder of an accepted frame is called with. -/
def acceptedStream (stream : MadStream) (f n : ℕ) (ptr : MadBitptr) (freerate : ℕ) : MadStream :=
  { stream with thisFrame := f, nextFrame := f + n, ptr, freerate, sync := true }

/-- The header that the decoder of the frame at `f` is called with, without its CRC words. -/
def frameHeader (mem : Mem) (f r : ℕ) : MadHeader :=
  { completeHeader mem f r with
    flags := { (completeHeader mem f r).flags with incomplete := false } }

/-- The return of `mad_frame_decode` after a Layer III frame. -/
def afterLayerIII (options : ℕ) (r : LayerResult) : FrameResult :=
  .returned r.ok ⟨r.header, options⟩ (if r.ok then r.stream else { r.stream with ancBitlen := 0 })
    (some r)

theorem decoderTable_join {layer : ℕ} (h : layer ≠ 3) :
    ((decoderTable requantize)[layer - 1]?).join = none := by
  match layer, h with
  | 0, _ => rfl
  | 1, _ => rfl
  | 2, _ => rfl
  | 3, h => exact absurd rfl h
  | _ + 4, _ => rfl

theorem audioData_other {mem : Mem} {frame : MadFrame} {stream : MadStream} {stack : Stack}
    (h : frame.header.layer ≠ 3) : ∃ frame' stream',
      audioData requantize mem frame stream stack = .nullCall frame' stream' := by
  simp only [audioData, decoderTable_join h]
  exact ⟨_, _, rfl⟩

/-- The errors of Layer III leave `next_frame` behind the frame. -/
theorem audioData_layerIII {mem : Mem} {header : MadHeader} {options : ℕ} {stream : MadStream}
    {stack : Stack} (h : header.layer = 3) :
    audioData requantize mem ⟨header, options⟩ stream stack =
      afterLayerIII options (madLayerIII requantize mem stream
        ⟨{ header with flags := { header.flags with incomplete := false } }, options⟩ stack) := by
  have hreturns : (madLayerIII requantize mem stream ⟨{ header with
      flags := { header.flags with incomplete := false } }, options⟩ stack).Returns stream _ :=
    madLayerIII_returns requantize mem stream _ stack
  have hthird : ((decoderTable requantize)[header.layer - 1]?).join =
      some (madLayerIII requantize) := by
    rw [h]
    rfl
  simp only [audioData, hthird]
  generalize madLayerIII requantize mem stream _ stack = r at hreturns ⊢
  rw [afterLayerIII]
  cases hok : r.ok with
  | true => rfl
  | false =>
    rw [if_pos (hreturns.recoverable hok)]
    rfl

/-- A Layer III frame leaves the stream in its place, and its errors are recoverable. -/
theorem afterLayerIII_eq {r : LayerResult} {stream : MadStream} {header : MadHeader}
    (h : r.Returns stream header) (options : ℕ) : ∃ stream',
      afterLayerIII options r = .returned r.ok ⟨r.header, options⟩ stream' (some r) ∧
      SamePlace stream stream' ∧ stream'.mdLen = r.stream.mdLen ∧
      (r.ok = true ∨ madRecoverable stream'.error = true) := by
  rw [afterLayerIII]
  cases hok : r.ok with
  | true => exact ⟨_, rfl, h.samePlace, rfl, .inl rfl⟩
  | false =>
    exact ⟨_, rfl, h.samePlace.trans ⟨rfl, rfl, rfl, rfl, rfl, rfl, rfl, rfl⟩, rfl,
      .inr (h.recoverable hok)⟩

/-- The ways a call can end when no header is waiting for its frame. -/
inductive FrameCase (requantize : ℕ → ℤ → ℤ) (mem : Mem) (stream : MadStream) (stack : Stack) :
    FrameResult → Prop
  | layerIII {f r n freerate : ℕ} {header : MadHeader} {ptr : MadBitptr} :
      Accepts mem stream f r n → layerAt mem f = 3 → SameButCrc header (frameHeader mem f r) →
      InByte mem ptr (8 * headerEnd mem f) → FreerateIn mem stream freerate →
      FrameCase requantize mem stream stack (afterLayerIII stream.options
        (madLayerIII requantize mem (acceptedStream stream f n ptr freerate)
          ⟨header, stream.options⟩ stack))
  | otherLayer {f r n : ℕ} {frame' : MadFrame} {stream' : MadStream} :
      Accepts mem stream f r n → layerAt mem f ≠ 3 →
      FrameCase requantize mem stream stack (.nullCall frame' stream')
  | noFrame {header : MadHeader} {ptr : MadBitptr} {thisFrame nextFrame freerate : ℕ}
      {error : MadError} :
      (∀ f r n, ¬ Accepts mem stream f r n) → SearchFailure mem stream nextFrame error →
      FreerateIn mem stream freerate → header.flags.incomplete = false →
      FrameCase requantize mem stream stack (.returned false ⟨header, stream.options⟩
        { stream with
          thisFrame, nextFrame, ptr, freerate, error, sync := false, ancBitlen := 0 } none)

/-- **One call of `mad_frame_decode`.** -/
theorem madFrameDecode_cases (requantize : ℕ → ℤ → ℤ) (mem : Mem) {frame : MadFrame}
    {stream : MadStream} (hincomplete : frame.header.flags.incomplete = false)
    (hskip : stream.skiplen = 0) (hnext : stream.nextFrame ≠ 0) (stack : Stack) :
    FrameCase requantize mem stream stack (madFrameDecode requantize mem frame stream stack) := by
  have hwaiting := madHeaderDecode_incomplete mem hincomplete stream
  simp only [madFrameDecode, hincomplete, Bool.false_eq_true, if_false]
  rcases madHeaderDecode_cases mem frame.header hskip hnext with
    ⟨f, r, n, header, ptr, freerate, haccepts, hread, hfree, hdecode⟩ |
    ⟨hno, header, ptr, thisFrame, nextFrame, freerate, error, hfail, hfree, hdecode⟩
  · obtain ⟨waiting, hwait⟩ : ∃ waiting, waiting = markIncomplete header := ⟨_, rfl⟩
    have hs : SameButCrc waiting (completeHeader mem f r) := hwait ▸ hread.header_eq
    have hlayer : waiting.layer = layerAt mem f := by
      rw [hs]
      rfl
    have hheader : SameButCrc
        { waiting with flags := { waiting.flags with incomplete := false } }
        (frameHeader mem f r) := by
      rw [SameButCrc, hs]
      rfl
    have hptr : InByte mem ptr (8 * headerEnd mem f) := ⟨hread.ptr_at, hread.ptr_left⟩
    rw [hdecode, ← hwait]
    by_cases hthree : layerAt mem f = 3
    · simp only [if_true]
      rw [audioData_layerIII (hlayer.trans hthree)]
      exact .layerIII haccepts hthree hheader hptr hfree
    · simp only [if_true]
      obtain ⟨frame', stream', hnull⟩ : ∃ frame' stream', audioData requantize mem
          ⟨waiting, stream.options⟩ (acceptedStream stream f n ptr freerate) stack =
            .nullCall frame' stream' := audioData_other (hlayer ▸ hthree)
      rw [acceptedStream] at hnull
      rw [hnull]
      exact .otherLayer haccepts hthree
  · rw [hdecode] at hwaiting ⊢
    exact .noFrame hno hfail hfree (hwaiting rfl)

end Mp3Decoder
