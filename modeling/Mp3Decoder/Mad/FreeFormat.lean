import Mp3Decoder.Mad.FreeRate

/-!
# Free-format frames

`free_bitrate` turns the distance of the next header into a rate, and `mad_header_decode` turns the
rate into the length of the frame.  All the divisions truncate; the 1 that `free_bitrate` adds to the
distance makes up for them.

The loop of `free_bitrate` has no counter.  `ScanEnds` is its meaning without one.
-/

namespace Mp3Decoder

open BigEndianBits

/-! ### From a rate to a length and back -/

theorem mul_div_succ_div {a b : ℕ} (hb : 0 < b) (hlt : b < a) (r : ℕ) :
    b * (a * r / b + 1) / a = r := by
  have hlow : a * r < b * (a * r / b + 1) := Nat.lt_mul_div_succ (a * r) hb
  have hhigh : b * (a * r / b) ≤ a * r := Nat.mul_div_le (a * r) b
  apply Nat.div_eq_of_lt_le
  · rw [Nat.mul_comm r a]
    exact hlow.le
  · calc b * (a * r / b + 1) = b * (a * r / b) + b := Nat.mul_succ _ _
      _ ≤ a * r + b := Nat.add_le_add_right hhigh b
      _ < a * r + a := Nat.add_lt_add_left hlt _
      _ = (r + 1) * a := by rw [Nat.add_mul, Nat.one_mul, Nat.mul_comm r a]

/-- The length of a free-format frame of `r` kbit/s -/
def freeLength (header : MadHeader) (r : ℕ) : ℕ :=
  slotsPerFrame header * 1000 * r / header.samplerate + padSlot header

section
variable {mem : Mem} {f r : ℕ} (hok : headerError mem f = .none) (hlayer : layerAt mem f = 3)
  (hr : r ≤ 640)
include hok hlayer hr

/-- **The rate of the length of a rate** -/
theorem rateFor_freeLength : rateFor (headerAt mem f) (freeLength (headerAt mem f) r) = r := by
  obtain ⟨hpos, hlt, hslots, hrate⟩ := samplerate_bounds hok
  have hlayer1 : ¬ (headerAt mem f).layer = 1 := by
    show ¬ layerAt mem f = 1
    omega
  rw [rateFor, if_neg hlayer1, freeLength, Nat.add_sub_cancel]
  generalize (headerAt mem f).samplerate = samplerate at *
  generalize slotsPerFrame (headerAt mem f) = slots at *
  have hhigh : samplerate * (slots * 1000 * r / samplerate) ≤ slots * 1000 * r :=
    Nat.mul_div_le _ _
  have hproduct : slots * 1000 * r ≤ 144 * 1000 * 640 :=
    Nat.mul_le_mul (Nat.mul_le_mul_right 1000 hslots) hr
  have hwrap : samplerate * (slots * 1000 * r / samplerate + 1) < 2 ^ 32 := by
    rw [Nat.mul_succ]
    omega
  rw [Nat.mod_eq_of_lt hwrap, Nat.div_div_eq_div_mul, mul_div_succ_div hpos hlt]

/-- **The length of the rate found** -/
theorem frameLength_free {header : MadHeader} (hheader : header.layer = layerAt mem f)
    (hslots : slotsPerFrame header = slotsPerFrame (headerAt mem f))
    (hsamplerate : header.samplerate = (headerAt mem f).samplerate)
    (hpad : padSlot header = padSlot (headerAt mem f)) (hbitrate : header.bitrate = 1000 * r) :
    frameLength header = freeLength (headerAt mem f) r := by
  obtain ⟨-, -, hle, -⟩ := samplerate_bounds hok
  have hlayer1 : ¬ header.layer = 1 := by omega
  have hproduct : slotsPerFrame (headerAt mem f) * (1000 * r) ≤ 144 * (1000 * 640) :=
    Nat.mul_le_mul hle (Nat.mul_le_mul_left 1000 hr)
  rw [frameLength, if_neg hlayer1, freeLength, hslots, hsamplerate, hpad, hbitrate,
    Nat.mod_eq_of_lt (by omega), Nat.mul_assoc]

end

/-! ### The frame found -/

/-- A free-format frame of `r` kbit/s at `f`: the first later header of its layer and sample rate is
where the frame ends. -/
structure FreeFormatFrame (mem : Mem) (bufend f r : ℕ) : Prop where
  header_ok : headerError mem f = .none
  layer_eq : layerAt mem f = 3
  free : (headerAt mem f).bitrate = 0
  rate_ge : 8 ≤ r
  rate_le : r ≤ 640
  next : SameFormatAt mem f (f + freeLength (headerAt mem f) r)
  first : ∀ q, f < q → q < f + freeLength (headerAt mem f) r → ¬ SameFormatAt mem f q
  guard : f + freeLength (headerAt mem f) r + madBufferGuard ≤ bufend

variable {mem : Mem} {f r : ℕ} {stream : MadStream}

/-- The search starts behind the header, and the frame ends behind that. -/
theorem FreeFormatFrame.headerEnd_le {bufend : ℕ} (h : FreeFormatFrame mem bufend f r) :
    headerEnd mem f ≤ f + freeLength (headerAt mem f) r := by
  obtain ⟨hpos, hlt, -, -⟩ := samplerate_bounds h.header_ok
  have hlength : 8 ≤ slotsPerFrame (headerAt mem f) * 1000 * r / (headerAt mem f).samplerate := by
    rw [Nat.le_div_iff_mul_le hpos, Nat.mul_comm]
    exact Nat.mul_le_mul hlt.le h.rate_ge
  rw [freeLength, headerEnd]
  split_ifs <;> omega

theorem FreeFormatFrame.discovered {bufend : ℕ} (h : FreeFormatFrame mem bufend f r) :
    DiscoveredRate mem bufend f r := by
  have hrate := rateFor_freeLength h.header_ok h.layer_eq h.rate_le
  have hhigh := h.rate_le
  have hdistance : f + freeLength (headerAt mem f) r - f = freeLength (headerAt mem f) r := by omega
  refine ⟨f + freeLength (headerAt mem f) r, ⟨h.headerEnd_le, h.guard, h.next, ?_, ?_⟩, ?_, ?_⟩
  · rw [hdistance, hrate]
    exact h.rate_ge
  · intro q hq hlt hsame
    have hbehind : f < q := by
      rw [headerEnd] at hq
      omega
    exact absurd hsame (h.first q hbehind hlt)
  · rw [hdistance, hrate]
  · rintro ⟨-, hgt⟩
    omega

/-- **`free_bitrate` finds the rate**, and leaves the bit pointer where it was. -/
theorem FreeFormatFrame.freeBitrate_eq {header : MadHeader} (h : FreeFormatFrame mem stream.bufend f r)
    (hs : SameButCrc header (headerAt mem f)) (hthis : stream.thisFrame = f)
    (hstart : madBitNextbyte stream.ptr = headerEnd mem f) :
    freeBitrate mem stream header = (true, { stream with freerate := 1000 * r }) := by
  rcases freeBitrate_cases hs hthis hstart with ⟨rate, hrate, heq⟩ | ⟨hnone, -⟩
  · have hle := h.rate_le
    rw [heq, hrate.unique h.discovered, Nat.mod_eq_of_lt (by omega), Nat.mul_comm]
  · exact absurd h.discovered (hnone r)

/-- **The pass of `mad_header_decode` over the frame.**  It accepts the frame with the length found. -/
theorem FreeFormatFrame.processFrame_eq (h : FreeFormatFrame mem stream.bufend f r)
    (hneed : NeedsSearch mem stream f) (header : MadHeader) :
    ∃ header' ptr, processFrame mem header stream f = .done header' { stream with
        thisFrame := f
        nextFrame := f + freeLength (headerAt mem f) r
        ptr
        freerate := 1000 * r
        sync := true } ∧
      header'.bitrate = 1000 * r ∧ frameLength header' = freeLength (headerAt mem f) r ∧
      AtBit mem ptr (8 * headerEnd mem f) := by
  obtain ⟨start, hstart⟩ : ∃ start : MadStream, start =
    { stream with thisFrame := f, nextFrame := f + 1, ptr := madBitInit f } := ⟨_, rfl⟩
  have hptr : AtBit mem start.ptr (8 * f) := by
    rw [hstart]
    exact atBit_init mem f
  obtain ⟨header₁, ptr, hdecode, hs, hptrAt, -⟩ := (decodeHeader_eq hptr header).2 h.header_ok
  obtain ⟨behind, hbehind⟩ : ∃ behind : MadStream, behind = { start with ptr } := ⟨_, rfl⟩
  have hend : AtBit mem ptr (8 * headerEnd mem f) := by
    rw [headerEnd]
    convert hptrAt using 1
    split_ifs <;> omega
  have hnext : madBitNextbyte behind.ptr = headerEnd mem f := by
    have hbyte := hend.nextbyte
    rw [hbehind, hbyte]
    omega
  have hbufend : behind.bufend = stream.bufend := by rw [hbehind, hstart]
  have hfree := (hbufend ▸ h : FreeFormatFrame mem behind.bufend f r).freeBitrate_eq hs
    (by rw [hbehind, hstart]) hnext
  have hbitrate : header₁.bitrate = 0 := by
    rw [hs]
    exact h.free
  have hlayer : header₁.layer = layerAt mem f := by
    rw [hs]
    rfl
  have hsearch : behind.freerate = 0 ∨ (!behind.sync) = true ∨
      header₁.layer = 3 ∧ behind.freerate > 640000 := by
    rw [hlayer, Bool.not_eq_true', hbehind, hstart]
    exact hneed
  have hset : setFreeRate mem header₁ behind = (true, { header₁ with
      bitrate := 1000 * r, flags := { header₁.flags with freeformat := true } },
      { behind with freerate := 1000 * r }) := by
    simp only [setFreeRate, if_pos hbitrate, if_pos hsearch, hfree, if_true]
  have hlength : ∀ incomplete, frameLength { header₁ with
      bitrate := 1000 * r, flags := { header₁.flags with freeformat := true, incomplete } } =
      freeLength (headerAt mem f) r := by
    intro incomplete
    apply frameLength_free h.header_ok h.layer_eq h.rate_le
    · exact hlayer
    · rw [hs]
      rfl
    · rw [hs]
    · rw [hs]
      rfl
    · rfl
  have hroom : ¬ ((freeLength (headerAt mem f) r + madBufferGuard : ℕ) : ℤ) >
      (stream.bufend : ℤ) - f := by
    have hguard := h.guard
    omega
  refine ⟨{ header₁ with
    bitrate := 1000 * r, flags := { header₁.flags with freeformat := true, incomplete := true } },
    ptr, ?_, rfl, hlength true, hend⟩
  simp only [processFrame, ← hstart, hdecode, ← hbehind, hset, hlength]
  rw [hbehind, hstart]
  simp only [Bool.not_true, Bool.false_eq_true, if_false]
  rw [if_neg hroom]
  by_cases hsync : stream.sync = true
  · rw [if_pos hsync]
    simp only [hsync]
  · rw [if_neg hsync, if_pos h.next.1]

theorem synchronize_synced {ptr : ℕ} (hsync : stream.sync = true)
    (hroom : ptr + madBufferGuard ≤ stream.bufend) (hword : isSync mem ptr = true) :
    synchronize mem stream ptr = .ok (stream, ptr) := by
  have hguard : ¬ (stream.bufend : ℤ) - ptr < madBufferGuard := by omega
  rw [synchronize, if_pos hsync, if_neg hguard, if_neg fun h => h hword]

/-- A call that is synchronised with a frame returns what its pass over the frame accepts. -/
theorem madHeaderDecode_of_pass {header header' : MadHeader} {found stream' : MadStream}
    (hskip : stream.skiplen = 0) (hnull : stream.nextFrame ≠ 0)
    (hsync : synchronize mem stream stream.nextFrame = .ok (found, f))
    (hdone : processFrame mem header found f = .done header' stream') :
    madHeaderDecode mem header stream = (true, header', stream') := by
  have hpass : headerPass mem header stream stream.nextFrame = .done header' stream' := by
    rw [headerPass, hsync]
    exact hdone
  simp only [madHeaderDecode, if_neg hnull, hskip, ne_eq, not_true_eq_false, false_and, if_false,
    Nat.add_zero, headerLoop, hpass]

/-! ### The scan ends -/

/-- The loop of `free_bitrate` from `stream` and `rate` on ends with the last rate. -/
inductive ScanEnds (mem : Mem) (header : MadHeader) : MadStream → ℕ → ℕ → Prop
  | noSync {stream : MadStream} {rate : ℕ} : madStreamSync mem stream = none →
      ScanEnds mem header stream rate rate
  | found {stream peek : MadStream} {rate : ℕ} : madStreamSync mem stream = some peek →
      sameFormat mem header peek = true →
      8 ≤ rateFor header (madBitNextbyte peek.ptr - peek.thisFrame) →
      ScanEnds mem header stream rate (rateFor header (madBitNextbyte peek.ptr - peek.thisFrame))
  | tooLow {stream peek : MadStream} {rate last : ℕ} : madStreamSync mem stream = some peek →
      sameFormat mem header peek = true →
      rateFor header (madBitNextbyte peek.ptr - peek.thisFrame) < 8 →
      ScanEnds mem header { peek with ptr := madBitSkip mem peek.ptr 8 }
        (rateFor header (madBitNextbyte peek.ptr - peek.thisFrame)) last →
      ScanEnds mem header stream rate last
  | otherFormat {stream peek : MadStream} {rate last : ℕ} : madStreamSync mem stream = some peek →
      sameFormat mem header peek = false →
      ScanEnds mem header { peek with ptr := madBitSkip mem peek.ptr 8 } rate last →
      ScanEnds mem header stream rate last

/-- A round that goes on leaves less of the buffer. -/
theorem freeBitrateLoop_ends (header : MadHeader) {fuel : ℕ} {rate : ℕ}
    (hfuel : stream.bufend < madBitNextbyte stream.ptr + fuel) :
    ScanEnds mem header stream rate (freeBitrateLoop mem header stream rate fuel) := by
  induction fuel generalizing stream rate with
  | zero =>
    cases hsearch : madStreamSync mem stream with
    | none => exact .noSync hsearch
    | some peek =>
      obtain ⟨p, -, hle, hguard, -⟩ := madStreamSync_some hsearch
      omega
  | succ fuel ih =>
    rw [freeBitrateLoop]
    cases hsearch : madStreamSync mem stream with
    | none => exact .noSync hsearch
    | some peek =>
      obtain ⟨p, hpeek, hle, -⟩ := madStreamSync_some hsearch
      have hpeekPtr : AtBit mem peek.ptr (8 * p) := by
        rw [hpeek]
        exact atBit_init mem p
      have hpeekEnd : peek.bufend = stream.bufend := by rw [hpeek]
      have hnext : ∀ rate', ScanEnds mem header { peek with ptr := madBitSkip mem peek.ptr 8 } rate'
          (freeBitrateLoop mem header { peek with ptr := madBitSkip mem peek.ptr 8 } rate' fuel) := by
        intro rate'
        apply ih
        simp only [(hpeekPtr.skip 8).nextbyte, hpeekEnd]
        omega
      simp only
      by_cases hsame : sameFormat mem header peek = true
      · rw [if_pos hsame]
        by_cases henough : rateFor header (madBitNextbyte peek.ptr - peek.thisFrame) ≥ 8
        · rw [if_pos henough]
          exact .found hsearch hsame henough
        · rw [if_neg henough]
          exact .tooLow hsearch hsame (Nat.not_le.mp henough) (hnext _)
      · rw [if_neg hsame]
        exact .otherFormat hsearch (Bool.eq_false_of_not_eq_true hsame) (hnext _)

/-- **Free-format discovery is exact.**  The rate of a free-format frame is found, the frame gets the
length that the rate was found from, and the scan ends whatever the buffer holds. -/
theorem freeFormat_exact :
    (∀ (mem : Mem) (stream : MadStream) (header : MadHeader) (f r : ℕ),
      FreeFormatFrame mem stream.bufend f r → SameButCrc header (headerAt mem f) →
      stream.thisFrame = f → madBitNextbyte stream.ptr = headerEnd mem f →
      freeBitrate mem stream header = (true, { stream with freerate := 1000 * r })) ∧
    (∀ (mem : Mem) (stream found : MadStream) (header : MadHeader) (f r : ℕ),
      stream.skiplen = 0 → stream.nextFrame ≠ 0 →
      synchronize mem stream stream.nextFrame = .ok (found, f) →
      FreeFormatFrame mem found.bufend f r → NeedsSearch mem found f →
      ∃ header' stream', madHeaderDecode mem header stream = (true, header', stream') ∧
        frameLength header' = freeLength (headerAt mem f) r ∧ stream'.thisFrame = f ∧
        stream'.nextFrame = f + freeLength (headerAt mem f) r ∧ stream'.freerate = 1000 * r ∧
        AtBit mem stream'.ptr (8 * headerEnd mem f)) ∧
    ∀ (mem : Mem) (stream : MadStream) (header : MadHeader),
      ScanEnds mem header stream 0 (freeBitrateLoop mem header stream 0 (stream.bufend + 1)) ∧
        let start := madBitNextbyte stream.ptr
        let ptr := syncScan mem stream.bufend start (stream.bufend - start)
        stream.bufend ≤ ptr + 1 ∨ isSync mem ptr := by
  refine ⟨?_, ?_, ?_⟩
  · intro mem stream header f r h hs hthis hstart
    exact h.freeBitrate_eq hs hthis hstart
  · intro mem stream found header f r hskip hnull hsync h hneed
    obtain ⟨header', ptr, hdone, -, hlength, hptr⟩ := h.processFrame_eq hneed header
    exact ⟨header', _, madHeaderDecode_of_pass hskip hnull hsync hdone, hlength, rfl, rfl, rfl, hptr⟩
  · intro mem stream header
    exact ⟨freeBitrateLoop_ends header (by omega), syncScan_stop (by omega)⟩

/-- Two free-format headers at 44.1 kHz, 104 bytes apart -/
def freeHeaders : Mem := fun a =>
  if a = 4096 ∨ a = 4200 then 0xff else if a = 4097 ∨ a = 4201 then 0xfb else 0

theorem freeHeaders_frame : FreeFormatFrame freeHeaders 4496 4096 32 where
  header_ok := by decide +kernel
  layer_eq := by decide +kernel
  free := by decide +kernel
  rate_ge := by decide
  rate_le := by decide
  next := ⟨by decide +kernel, by decide +kernel, by decide +kernel, by decide +kernel⟩
  first := by
    intro q hlt hbefore hsame
    have hlength : freeLength (headerAt freeHeaders 4096) 32 = 104 := by decide +kernel
    have hnone : ∀ k < 103, isSync freeHeaders (4097 + k) = false := by decide +kernel
    have hno := hnone (q - 4097) (by omega)
    rw [show 4097 + (q - 4097) = q by omega, hsame.1] at hno
    cases hno
  guard := by decide +kernel

theorem freeFormat_exact_freeHeaders :
    let start := madStreamBuffer (madStreamInit freeHeaders) 4096 400
    freeBitrate freeHeaders { start with ptr := madBitInit 4100 } (headerAt freeHeaders 4096) =
        (true, { start with ptr := madBitInit 4100, freerate := 32000 }) ∧
      ∃ header stream, madHeaderDecode freeHeaders {} start = (true, header, stream) ∧
        frameLength header = 104 ∧ stream.nextFrame = 4200 := by
  intro start
  have hfound := freeFormat_exact.1 freeHeaders { start with ptr := madBitInit 4100 }
    (headerAt freeHeaders 4096) 4096 32 freeHeaders_frame rfl rfl (by decide +kernel)
  have hsync : synchronize freeHeaders start start.nextFrame = .ok (start, 4096) :=
    synchronize_synced rfl (by decide) (by decide)
  obtain ⟨header, stream, hdecode, hlength, -, hnext, -, -⟩ := freeFormat_exact.2.1 freeHeaders start
    start {} 4096 32 rfl (by decide) hsync freeHeaders_frame (.inl rfl)
  have h104 : freeLength (headerAt freeHeaders 4096) 32 = 104 := by decide +kernel
  rw [h104] at hlength hnext
  exact ⟨hfound, header, stream, hdecode, hlength, hnext⟩

end Mp3Decoder
