import Mp3Decoder.Mad.Frame
import Mp3Decoder.Mad.HeaderRuns

/-!
# Runs of the frame decoder

Any sequence of `mad_stream_buffer` and `mad_frame_decode` calls, on buffers of any size and content.
Each call ends, stays inside its buffer, and moves on or asks for more data.  That it moves on
rests on the lengths of frames: the remembered free-format rate is 0 or at least 8 kbit/s.
-/

namespace Mp3Decoder

open Schedule BigEndianBits

/-! ### Loops end by themselves -/

theorem syncScan_enough (mem : Mem) {last ptr n : ℕ} (hn : last ≤ ptr + n) (k : ℕ) :
    syncScan mem last ptr (n + k) = syncScan mem last ptr n := by
  induction n generalizing ptr with
  | zero =>
    cases k with
    | zero => rfl
    | succ k =>
      have hstop : ¬ (ptr + 1 < last ∧ ¬ isSync mem ptr) := by omega
      rw [Nat.zero_add]
      exact if_neg hstop
  | succ n ih =>
    rw [Nat.add_right_comm, syncScan, syncScan]
    split_ifs
    · exact ih (by omega)
    · rfl

theorem freeBitrateLoop_enough (mem : Mem) (header : MadHeader) {stream : MadStream} (rate : ℕ)
    {fuel : ℕ} (hfuel : stream.bufend < madBitNextbyte stream.ptr + fuel) (k : ℕ) :
    freeBitrateLoop mem header stream rate (fuel + k) =
      freeBitrateLoop mem header stream rate fuel := by
  induction fuel generalizing stream rate with
  | zero =>
    cases k with
    | zero => rfl
    | succ k =>
      have hnone : madStreamSync mem stream = none := by
        cases hsearch : madStreamSync mem stream with
        | none => rfl
        | some peek =>
          obtain ⟨p, -, hle, hguard, -, -⟩ := madStreamSync_some hsearch
          omega
      simp only [freeBitrateLoop, hnone]
  | succ fuel ih =>
    rw [Nat.add_right_comm, freeBitrateLoop, freeBitrateLoop]
    cases hsearch : madStreamSync mem stream with
    | none => rfl
    | some peek =>
      obtain ⟨p, hpeek, hle, -, -, -⟩ := madStreamSync_some hsearch
      have hat : AtBit mem peek.ptr (8 * p) := by
        rw [hpeek]
        exact atBit_init mem p
      obtain ⟨next, hnext⟩ : ∃ next, next = { peek with ptr := madBitSkip mem peek.ptr 8 } :=
        ⟨_, rfl⟩
      have hend : next.bufend = stream.bufend := by rw [hnext, hpeek]
      have hptr : madBitNextbyte next.ptr = p + 1 := by
        have hskip : next.ptr = madBitSkip mem peek.ptr 8 := by rw [hnext]
        rw [hskip, (hat.skip 8).nextbyte]
        omega
      simp only [← hnext]
      have hrest : ∀ rate, freeBitrateLoop mem header next rate (fuel + k) =
          freeBitrateLoop mem header next rate fuel := fun rate => ih rate (by omega)
      split_ifs
      · rfl
      · exact hrest _
      · exact hrest _

/-- Going back to `sync:` moves `next_frame` on inside the buffer. -/
theorem headerPass_again {mem : Mem} {header header' : MadHeader} {stream stream' : MadStream}
    (h : headerPass mem header stream stream.nextFrame = .again header' stream') :
    stream.nextFrame < stream'.nextFrame ∧ stream'.nextFrame ≤ stream'.bufend ∧
      stream'.bufend = stream.bufend := by
  have hbound : ∀ {q : ℕ}, stream.nextFrame ≤ q →
      processFrame mem header stream q = .again header' stream' →
      stream.nextFrame < stream'.nextFrame ∧ stream'.nextFrame ≤ stream'.bufend ∧
        stream'.bufend = stream.bufend := by
    intro q hle hagain
    have hresult := processFrame_cases mem header stream q
    rw [hagain] at hresult
    obtain ⟨-, hnext, hend', -, r, n, -, hfits, -⟩ := hresult.again_eq
    have hguard : madBufferGuard = 8 := rfl
    omega
  by_cases hsync : stream.sync = true
  · rw [headerPass, synchronize, if_pos hsync] at h
    split_ifs at h with hshort hword
    exact hbound (Nat.le_refl _) h
  · rcases headerPass_unsynced mem header (Bool.eq_false_of_not_eq_true hsync) with
      ⟨-, hpass⟩ | ⟨q, hfound, hpass⟩
    · rw [hpass] at h
      cases h
    · rw [hpass] at h
      exact hbound hfound.le h

theorem headerLoop_enough (mem : Mem) (header : MadHeader) {stream : MadStream} {fuel : ℕ}
    (hfuel : stream.bufend < stream.nextFrame + fuel) (hpos : 0 < fuel) (k : ℕ) :
    headerLoop mem header stream stream.nextFrame (fuel + k) =
      headerLoop mem header stream stream.nextFrame fuel := by
  induction fuel generalizing header stream with
  | zero => exact absurd hpos (Nat.lt_irrefl 0)
  | succ fuel ih =>
    rw [Nat.add_right_comm, headerLoop, headerLoop]
    cases hpass : headerPass mem header stream stream.nextFrame with
    | fail header' stream' => rfl
    | done header' stream' => rfl
    | again header' stream' =>
      obtain ⟨hlt, hle, hend⟩ := headerPass_again hpass
      exact ih header' (by omega) (by omega)

theorem count1_enough (requantize : ℕ → ℤ → ℤ) (mem : Mem) (table : ClumpTable QuadValue 6)
    (exponents : ℕ → ℤ) {s : HuffState} {n : ℕ} (hn : 572 < s.xrptr + 4 * n) (k : ℕ) :
    s.count1 requantize mem table exponents (n + k) = s.count1 requantize mem table exponents n := by
  induction n generalizing s with
  | zero =>
    cases k with
    | zero => rfl
    | succ k =>
      have hstop : ¬ (s.cachesz + s.bitsLeft > 0 ∧ s.xrptr ≤ 572) := by omega
      rw [Nat.zero_add]
      exact if_neg hstop
  | succ n ih =>
    rw [Nat.add_right_comm, HuffState.count1, HuffState.count1]
    split_ifs
    · apply ih
      rw [HuffState.quad_xrptr]
      omega
    · rfl

/-- The loops of a call of `mad_frame_decode` end by themselves: more rounds than the model allows
them change nothing. -/
structure LoopsEnd (requantize : ℕ → ℤ → ℤ) : Prop where
  sync : ∀ mem (stream : MadStream) start k,
    syncScan mem stream.bufend start (stream.bufend - start + k) =
      syncScan mem stream.bufend start (stream.bufend - start)
  free_bitrate : ∀ mem header (stream : MadStream) rate k,
    freeBitrateLoop mem header stream rate (stream.bufend + 1 + k) =
      freeBitrateLoop mem header stream rate (stream.bufend + 1)
  header : ∀ mem header (stream : MadStream) k,
    headerLoop mem header stream stream.nextFrame (stream.bufend + 1 - stream.nextFrame + 1 + k) =
      headerLoop mem header stream stream.nextFrame (stream.bufend + 1 - stream.nextFrame + 1)
  count1 : ∀ mem table exponents (s : HuffState) k,
    s.count1 requantize mem table exponents (144 + k) = s.count1 requantize mem table exponents 144

theorem loops_end (requantize : ℕ → ℤ → ℤ) : LoopsEnd requantize where
  sync mem stream start k := syncScan_enough mem (by omega) k
  free_bitrate mem header stream rate k := freeBitrateLoop_enough mem header rate (by omega) k
  header mem header stream k := headerLoop_enough mem header (by omega) (by omega) k
  count1 mem table exponents s k := count1_enough requantize mem table exponents (by omega) k

/-! ### Lengths of frames -/

/-- A free-format rate that can be remembered: none, or at least 8 kbit/s. -/
def GoodRate (freerate : ℕ) : Prop := freerate = 0 ∨ 8000 ≤ freerate

theorem rateFor_le (header : MadHeader) (n : ℕ) : rateFor header n ≤ 89478 := by
  have hslots : slotsPerFrame header = 72 ∨ slotsPerFrame header = 144 := by
    rw [slotsPerFrame]
    split_ifs
    · exact .inl rfl
    · exact .inr rfl
  rw [rateFor]
  split_ifs
  · omega
  · rcases hslots with h | h
    · rw [h]
      omega
    · rw [h]
      omega

/-- A measured rate is remembered as it is. -/
theorem DiscoveredRate.bounds {mem : Mem} {bufend f rate : ℕ}
    (h : DiscoveredRate mem bufend f rate) : 8 ≤ rate ∧ rate * 1000 % 2 ^ 32 = rate * 1000 := by
  obtain ⟨p, hp, hrate, -⟩ := h
  have hle := rateFor_le (headerAt mem f) (p - f)
  have hge := hp.rate_le
  omega

theorem FreerateIn.good {mem : Mem} {stream : MadStream} {freerate : ℕ}
    (h : FreerateIn mem stream freerate) (hgood : GoodRate stream.freerate) : GoodRate freerate := by
  rcases h with heq | ⟨f, rate, -, hrate, heq⟩
  · rw [heq]
    exact hgood
  · have hbounds := hrate.bounds
    right
    omega

/-- The nonzero rates in the tables for Layer III. -/
theorem layerIII_bitrate_bounds : ∀ lsf : Bool, ∀ index < 15,
    bitrateEntry (bitrateRow lsf 3) index ≠ 0 →
      8000 ≤ bitrateEntry (bitrateRow lsf 3) index ∧
        bitrateEntry (bitrateRow lsf 3) index ≤ 640000 := by
  decide

/-- A Layer III frame has between 8 and 640 kbit/s. -/
theorem FrameAt.rate_bounds {mem : Mem} {stream : MadStream} {f r n : ℕ}
    (h : FrameAt mem stream f r n) (hlayer : layerAt mem f = 3) (hgood : GoodRate stream.freerate) :
    8000 ≤ r ∧ r ≤ 640000 := by
  have hok := h.header_ok
  rw [headerError] at hok
  split_ifs at hok with hmpeg25 hlayer4 hbad hfreq3
  have hindex : headerField mem f 16 4 < 15 := by
    have hlt := bitsVal_lt mem (8 * f + 16) 4
    rw [headerField] at hbad ⊢
    omega
  cases h.rate with
  | table hne =>
    have hrate : (headerAt mem f).bitrate =
        bitrateEntry (bitrateRow (lsfAt mem f) 3) (headerField mem f 16 4) := by
      rw [← hlayer]
      rfl
    rw [hrate] at hne ⊢
    exact layerIII_bitrate_bounds _ _ hindex hne
  | discovered h0 hneed hrate =>
    have hbounds := hrate.bounds
    obtain ⟨p, -, -, hhigh⟩ := hrate
    have hle : ¬ 640 < _ := fun hgt => hhigh ⟨hlayer, hgt⟩
    omega
  | remembered h0 hno =>
    have hzero : stream.freerate ≠ 0 := fun h => hno (.inl h)
    have hle : ¬ 640000 < stream.freerate := fun h => hno (.inr (.inr ⟨hlayer, h⟩))
    rcases hgood with h | h <;> omega

/-- A Layer III frame is not empty. -/
theorem FrameAt.pos {mem : Mem} {stream : MadStream} {f r n : ℕ} (h : FrameAt mem stream f r n)
    (hlayer : layerAt mem f = 3) (hgood : GoodRate stream.freerate) : 0 < n := by
  obtain ⟨hge, hle⟩ := h.rate_bounds hlayer hgood
  obtain ⟨hrate0, -, -, hrateLe⟩ := samplerate_bounds h.header_ok
  have hsamplerate : (completeHeader mem f r).samplerate = (headerAt mem f).samplerate := rfl
  have hlayer1 : ¬ (completeHeader mem f r).layer = 1 := by
    show ¬ layerAt mem f = 1
    omega
  have hbitrate : (completeHeader mem f r).bitrate = r := rfl
  obtain ⟨slots, hslots, hbounds⟩ : ∃ slots, slotsPerFrame (completeHeader mem f r) = slots ∧
      72 ≤ slots ∧ slots ≤ 144 := by
    rw [slotsPerFrame]
    split_ifs
    · exact ⟨72, rfl, by omega⟩
    · exact ⟨144, rfl, by omega⟩
  have hprod : 48000 ≤ slots * r ∧ slots * r < 2 ^ 32 :=
    ⟨by nlinarith, by nlinarith⟩
  rw [h.length, frameLength, if_neg hlayer1, hslots, hbitrate, hsamplerate,
    Nat.mod_eq_of_lt hprod.2]
  have hdiv : 0 < slots * r / (headerAt mem f).samplerate :=
    Nat.div_pos (hrateLe.trans hprod.1) hrate0
  omega

/-! ### Runs -/

/-- What `mad_stream_buffer` is called with: there is room for the guard. -/
structure InputBuffer where
  addr : ℕ
  length : ℕ
  addr_ne : addr ≠ 0
  guard_le : madBufferGuard ≤ length

structure FrameState where
  stream : MadStream
  frame : MadFrame
  /-- a call through a null pointer was made -/
  crashed : Bool

inductive FrameAct
  | buffer (input : InputBuffer)
  | decode (mem : Mem) (stack : Stack)

/-- Calls of `mad_stream_buffer` and `mad_frame_decode`, after `mad_stream_init` and
`mad_frame_init`. -/
def frameMachine (requantize : ℕ → ℤ → ℤ) (mainData : Mem) : Machine FrameState FrameAct where
  init := ⟨madStreamInit mainData, madFrameInit, false⟩
  step s
    | .buffer input =>
      if s.crashed then none
      else some { s with stream := madStreamBuffer s.stream input.addr input.length }
    | .decode mem stack =>
      if s.crashed then none
      else
        match madFrameDecode requantize mem s.frame s.stream stack with
        | .returned _ frame stream _ => some ⟨stream, frame, false⟩
        | .nullCall frame stream => some ⟨stream, frame, true⟩

structure InBuffer (stream : MadStream) : Prop where
  buffer_ne : stream.buffer ≠ 0
  le_thisFrame : stream.buffer ≤ stream.thisFrame
  le_nextFrame : stream.buffer ≤ stream.nextFrame
  nextFrame_le : stream.nextFrame ≤ stream.bufend

/-- What a call can rely on. -/
structure Positioned (s : FrameState) : Prop where
  skiplen_eq : s.stream.skiplen = 0
  not_waiting : s.frame.header.flags.incomplete = false
  good_rate : GoodRate s.stream.freerate
  place : s.stream.buffer = 0 ∧ s.stream.nextFrame = 0 ∨ InBuffer s.stream

def FrameInv (s : FrameState) : Prop := s.crashed = false → Positioned s

/-- A call stays in its buffer, and moves on or asks for more data. -/
structure Advances (stream : MadStream) (ok : Bool) (stream' : MadStream) : Prop where
  buffer_eq : stream'.buffer = stream.buffer
  bufend_eq : stream'.bufend = stream.bufend
  le_thisFrame : stream'.buffer ≤ stream'.thisFrame
  nextFrame_le : stream'.nextFrame ≤ stream'.bufend
  moves : (ok = true ∨ madRecoverable stream'.error = true) ∧
      stream.nextFrame < stream'.nextFrame ∨
    ok = false ∧ stream'.error = .buflen ∧ stream.nextFrame ≤ stream'.nextFrame

variable {requantize : ℕ → ℤ → ℤ} {mem : Mem} {frame : MadFrame} {stream : MadStream}
  {stack : Stack}

/-- `this_frame` after a call. -/
theorem madFrameDecode_thisFrame (hincomplete : frame.header.flags.incomplete = false)
    (hskip : stream.skiplen = 0) (hnext : stream.nextFrame ≠ 0) {ok : Bool} {frame' : MadFrame}
    {stream' : MadStream} {layer : Option LayerResult}
    (hresult : madFrameDecode requantize mem frame stream stack = .returned ok frame' stream' layer) :
    stream'.thisFrame = stream.thisFrame ∨ stream.nextFrame ≤ stream'.thisFrame := by
  have hcase := madFrameDecode_cases requantize mem hincomplete hskip hnext stack
  cases hok : (madHeaderDecode mem frame.header stream).1 with
  | false =>
    have hleaves := madHeaderDecode_leaves mem frame.header hskip hok
    simp only [madFrameDecode, hincomplete, hok, Bool.false_eq_true, if_false] at hresult
    cases hresult
    exact hleaves.thisFrame
  | true =>
    have haccepted : ∃ f r n, Accepts mem stream f r n := by
      rcases madHeaderDecode_cases mem frame.header hskip hnext with
        ⟨f, r, n, _, _, _, haccepts, -⟩ | ⟨-, _, _, _, _, _, _, -, -, hdecode⟩
      · exact ⟨f, r, n, haccepts⟩
      · rw [hdecode] at hok
        cases hok
    obtain ⟨f, r, n, haccepted⟩ := haccepted
    rw [hresult] at hcase
    generalize hresult' : FrameResult.returned ok frame' stream' layer = result at hcase
    rcases hcase with ⟨haccepts, -, -, -, -⟩ | - | ⟨hno, -, -, -⟩
    · obtain ⟨stream'', hafter, hplace, -⟩ := afterLayerIII_eq
        (madLayerIII_returns requantize mem (acceptedStream stream _ _ _ _) _ stack) stream.options
      rw [hafter] at hresult'
      cases hresult'
      right
      rw [hplace.thisFrame]
      exact haccepts.le
    · cases hresult'
    · exact absurd haccepted (hno f r n)

/-- A failed search leaves `next_frame` in the buffer, not before where it was. -/
theorem SearchFailure.nextFrame_bounds {nextFrame : ℕ} {error : MadError}
    (h : SearchFailure mem stream nextFrame error) (hbufend : stream.nextFrame ≤ stream.bufend) :
    stream.nextFrame ≤ nextFrame ∧ nextFrame ≤ stream.bufend := by
  have hguard : madBufferGuard = 8 := rfl
  cases h with
  | short hsync heq => omega
  | noSync hsync hle hend => omega
  | bad hlt hend => omega
  | tooLong hle hsync hend => omega

/-- A failed search that ends the inner loop asks for more data. -/
theorem SearchFailure.recoverable_or {nextFrame : ℕ} {error : MadError}
    (h : SearchFailure mem stream nextFrame error) :
    madRecoverable error = true ∧ stream.nextFrame < nextFrame ∨ error = .buflen := by
  cases h with
  | short hsync heq herror => exact .inr herror
  | noSync hsync hle hend herror => exact .inr herror
  | bad hlt hend hrec => exact .inl ⟨hrec, hlt⟩
  | tooLong hle hsync hend hword hframe hlong herror => exact .inr herror

/-- **One call advances**, when the frame that it finds, if any, is of Layer III. -/
theorem madFrameDecode_advances (requantize : ℕ → ℤ → ℤ) (stack : Stack)
    (hincomplete : frame.header.flags.incomplete = false) (hskip : stream.skiplen = 0)
    (hgood : GoodRate stream.freerate) (hin : InBuffer stream)
    (hlayer : ∀ f r n, Accepts mem stream f r n → layerAt mem f = 3) :
    ∃ ok frame' stream' layer,
      madFrameDecode requantize mem frame stream stack = .returned ok frame' stream' layer ∧
        Advances stream ok stream' ∧ frame'.header.flags.incomplete = false ∧
        stream'.skiplen = 0 ∧ GoodRate stream'.freerate := by
  have hbuffer := hin.buffer_ne
  have hle := hin.le_nextFrame
  have hle' := hin.le_thisFrame
  have hend := hin.nextFrame_le
  have hnext : stream.nextFrame ≠ 0 := by omega
  have hcase := madFrameDecode_cases requantize mem hincomplete hskip hnext stack
  have hthis : ∀ {ok frame' stream' layer}, madFrameDecode requantize mem frame stream stack =
      .returned ok frame' stream' layer → stream.buffer ≤ stream'.thisFrame := by
    intro ok frame' stream' layer hresult
    rcases madFrameDecode_thisFrame hincomplete hskip hnext hresult with heq | hge <;> omega
  generalize madFrameDecode requantize mem frame stream stack = result at hcase hthis ⊢
  rcases hcase with ⟨haccepts, hthree, hheader, hptr, hfree⟩ | ⟨haccepts, hother⟩ |
    ⟨hno, hfail, hfree, hwaiting⟩
  · rename_i f r n freerate header ptr
    have hreturns := madLayerIII_returns requantize mem (acceptedStream stream f n ptr freerate)
      ⟨header, stream.options⟩ stack
    obtain ⟨stream', hafter, hplace, -, hon⟩ := afterLayerIII_eq hreturns stream.options
    have hpos := haccepts.frame.pos hthree hgood
    have hfrom := haccepts.le
    have hfits := haccepts.fits
    have hnext' : stream'.nextFrame = f + n := hplace.nextFrame
    have hbufend' : stream'.bufend = stream.bufend := hplace.bufend
    have hwaiting : header.flags.incomplete = false := by
      rw [hheader]
      rfl
    refine ⟨_, _, _, _, hafter, ⟨hplace.buffer, hbufend', ?_, by omega, .inl ⟨hon, by omega⟩⟩,
      hreturns.incomplete.trans hwaiting, hplace.skiplen.trans hskip, ?_⟩
    · exact hplace.buffer.trans_le (hthis hafter)
    · rw [hplace.freerate]
      exact hfree.good hgood
  · exact absurd (hlayer _ _ _ haccepts) hother
  · have hthis' := hthis rfl
    obtain ⟨hge, hle''⟩ := hfail.nextFrame_bounds hend
    refine ⟨_, _, _, _, rfl, ⟨rfl, rfl, hthis', hle'', ?_⟩, hwaiting, hskip, hfree.good hgood⟩
    rcases hfail.recoverable_or with ⟨hrec, hlt⟩ | herror
    · exact .inl ⟨.inr hrec, hlt⟩
    · exact .inr ⟨rfl, herror, hge⟩

/-- A call with no buffer. -/
theorem madFrameDecode_null (requantize : ℕ → ℤ → ℤ) (mem : Mem) (stack : Stack)
    (hincomplete : frame.header.flags.incomplete = false) (hnext : stream.nextFrame = 0) :
    ∃ frame' stream', madFrameDecode requantize mem frame stream stack =
        .returned false frame' stream' none ∧ frame'.header.flags.incomplete = false ∧
        stream'.skiplen = stream.skiplen ∧ stream'.freerate = stream.freerate ∧
        stream'.buffer = stream.buffer ∧ stream'.nextFrame = 0 := by
  simp only [madFrameDecode, hincomplete, Bool.false_eq_true, if_false, madHeaderDecode,
    if_pos hnext]
  exact ⟨_, _, rfl, hincomplete, rfl, rfl, rfl, hnext⟩

theorem InBuffer.of_advances {stream' : MadStream} {ok : Bool} (h : InBuffer stream)
    (hadvances : Advances stream ok stream') : InBuffer stream' := by
  have hbuffer := hadvances.buffer_eq
  have hle := h.le_nextFrame
  refine ⟨by rw [hbuffer]; exact h.buffer_ne, hadvances.le_thisFrame, ?_, hadvances.nextFrame_le⟩
  rcases hadvances.moves with ⟨-, hlt⟩ | ⟨-, -, hge⟩ <;> omega

/-- A frame of another layer is called through a null pointer. -/
theorem madFrameDecode_other (requantize : ℕ → ℤ → ℤ) (stack : Stack)
    (hincomplete : frame.header.flags.incomplete = false) (hskip : stream.skiplen = 0)
    (hnext : stream.nextFrame ≠ 0) (hother : ¬ ∀ f r n, Accepts mem stream f r n → layerAt mem f = 3) :
    ∃ frame' stream', madFrameDecode requantize mem frame stream stack = .nullCall frame' stream' := by
  have hcase := madFrameDecode_cases requantize mem hincomplete hskip hnext stack
  generalize madFrameDecode requantize mem frame stream stack = result at hcase ⊢
  rcases hcase with ⟨haccepts, hthree, -, -, -⟩ | ⟨haccepts, hlayer⟩ | ⟨hno, -, -, -⟩
  · apply absurd _ hother
    intro f r n haccepts'
    rw [← (haccepts.unique haccepts').1]
    exact hthree
  · exact ⟨_, _, rfl⟩
  · exact absurd (fun f r n haccepts => absurd haccepts (hno f r n)) hother

theorem frame_invariant (requantize : ℕ → ℤ → ℤ) (mainData : Mem) :
    (frameMachine requantize mainData).Invariant FrameInv where
  init _ := ⟨rfl, rfl, .inl rfl, .inl ⟨rfl, rfl⟩⟩
  step {s a s'} h _ hstep := by
    cases a with
    | buffer input =>
      simp only [frameMachine] at hstep
      split_ifs at hstep with hcrashed
      cases hstep
      have hs := h (Bool.eq_false_of_not_eq_true hcrashed)
      exact fun _ => ⟨hs.skiplen_eq, hs.not_waiting, hs.good_rate,
        .inr ⟨input.addr_ne, Nat.le_refl _, Nat.le_refl _, Nat.le_add_right _ _⟩⟩
    | decode mem stack =>
      simp only [frameMachine] at hstep
      split_ifs at hstep with hcrashed
      have hs := h (Bool.eq_false_of_not_eq_true hcrashed)
      rcases hs.place with ⟨hbuffer, hnull⟩ | hin
      · obtain ⟨frame', stream', hresult, hwaiting, hskip, hrate, hbuffer', hnull'⟩ :=
          madFrameDecode_null requantize mem stack hs.not_waiting hnull
        rw [hresult] at hstep
        cases hstep
        exact fun _ => ⟨hskip.trans hs.skiplen_eq, hwaiting, by rw [hrate]; exact hs.good_rate,
          .inl ⟨hbuffer'.trans hbuffer, hnull'⟩⟩
      by_cases hlayer : ∀ f r n, Accepts mem s.stream f r n → layerAt mem f = 3
      · obtain ⟨ok, frame', stream', layer, hresult, hadvances, hwaiting, hskip, hrate⟩ :=
          madFrameDecode_advances requantize stack hs.not_waiting hs.skiplen_eq
            hs.good_rate hin hlayer
        rw [hresult] at hstep
        cases hstep
        exact fun _ => ⟨hskip, hwaiting, hrate, .inr (hin.of_advances hadvances)⟩
      · have hle := hin.le_nextFrame
        have hne := hin.buffer_ne
        obtain ⟨frame', stream', hresult⟩ := madFrameDecode_other requantize stack
          hs.not_waiting hs.skiplen_eq (by omega) hlayer
        rw [hresult] at hstep
        cases hstep
        exact fun h => nomatch h

/-- The call advances, unless it finds a frame of another layer. -/
def CallAdvances (requantize : ℕ → ℤ → ℤ) (s : FrameState) (mem : Mem) (stack : Stack) : Prop :=
  (∀ f r n, Accepts mem s.stream f r n → layerAt mem f = 3) →
    ∃ ok frame stream layer,
      madFrameDecode requantize mem s.frame s.stream stack = .returned ok frame stream layer ∧
        Advances s.stream ok stream

/-- **Every call on a buffer advances.** -/
theorem calls_advance (requantize : ℕ → ℤ → ℤ) (mainData : Mem) (acts : List FrameAct) :
    let s := (frameMachine requantize mainData).run acts
    s.crashed = false → s.stream.buffer ≠ 0 → ∀ mem stack, CallAdvances requantize s mem stack := by
  intro s hcrashed hbuffer mem stack hlayer
  have hs : Positioned s := (frame_invariant requantize mainData).run acts hcrashed
  have hin : InBuffer s.stream := hs.place.resolve_left fun h => hbuffer h.1
  obtain ⟨ok, frame, stream, layer, hresult, hadvances, -⟩ := madFrameDecode_advances requantize stack
    hs.not_waiting hs.skiplen_eq hs.good_rate hin hlayer
  exact ⟨ok, frame, stream, layer, hresult, hadvances⟩

end Mp3Decoder
