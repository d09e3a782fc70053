import Mp3Decoder.User.Decoder

/-!
# Resynchronisation

After a loss of synchronisation `mad_header_decode` accepts only a frame that is followed by another
sync word, until it has found one.  `mad_stream_buffer` declares the stream synchronised, so the
frame at the front of a fresh buffer needs no second sync word.
-/

namespace Mp3Decoder

open Schedule

/-- The call of `mad_header_decode` in `mad_frame_decode`. -/
def Decoder.headerResult (base : ReadBufAddr) (s : Decoder) (a : Surroundings) :
    Bool × MadHeader × MadStream :=
  madHeaderDecode (memoryWith base s.readBuf a.outside) s.frame.header s.stream

/-- `tskmad`, with a record of whether `mad_header_decode` has failed with a recoverable error since
it last accepted a frame. -/
structure Watched where
  decoder : Decoder
  lost : Bool

def lostAfter (r : Bool × MadHeader × MadStream) (lost : Bool) : Bool :=
  if r.1 then false else if madRecoverable r.2.2.error then true else lost

def watchedMachine (requantize : ℕ → ℤ → ℤ) (base : ReadBufAddr) (source mainData readBuf : Mem) :
    Machine Watched Surroundings where
  init := ⟨(decoderMachine requantize base source mainData readBuf).init, false⟩
  step w a :=
    ((decoderMachine requantize base source mainData readBuf).step w.decoder a).map fun s => {
      decoder := s
      lost :=
        if w.decoder.pc = .decode then lostAfter (w.decoder.headerResult base a) w.lost else w.lost }

/-- A frame accepted after a loss is followed by a sync word. -/
def NeedsTwoHeaders (base : ReadBufAddr) (w : Watched) (a : Surroundings) : Prop :=
  w.decoder.pc = .decode → w.lost = true → (w.decoder.headerResult base a).1 = true →
    isSync (memoryWith base w.decoder.readBuf a.outside)
      (w.decoder.headerResult base a).2.2.nextFrame = true

/-- The same, but for the frame that the first call after a refill finds at the front of `readBuf`. -/
def NeedsTwoHeadersInside (base : ReadBufAddr) (w : Watched) (a : Surroundings) : Prop :=
  w.decoder.pc = .decode → w.lost = true → (w.decoder.headerResult base a).1 = true →
    isSync (memoryWith base w.decoder.readBuf a.outside)
        (w.decoder.headerResult base a).2.2.nextFrame = true ∨
      w.decoder.stream.nextFrame = base.addr ∧
        (w.decoder.headerResult base a).2.2.thisFrame = base.addr

instance (base : ReadBufAddr) (w : Watched) (a : Surroundings) :
    Decidable (NeedsTwoHeaders base w a) :=
  inferInstanceAs (Decidable (_ → _ → _ → _))

variable {requantize : ℕ → ℤ → ℤ} {base : ReadBufAddr} {source mainData readBuf : Mem}

/-- Once synchronisation is lost, the stream is unsynchronised or the buffer is fresh. -/
structure WatchedInv (base : ReadBufAddr) (source : Mem) (w : Watched) : Prop where
  decoder : DecoderInv base source w.decoder
  unsynced : w.lost = true → w.decoder.pc = .decode →
    w.decoder.stream.sync = false ∨ w.decoder.stream.nextFrame = base.addr

variable {s : Decoder} {a : Surroundings}

/-- A call in which no header is accepted. -/
theorem decode_of_noHeader (hwaiting : s.frame.header.flags.incomplete = false)
    (hfail : (s.headerResult base a).1 = false) :
    (s.decode requantize base a).stream = { (s.headerResult base a).2.2 with ancBitlen := 0 } := by
  rw [Decoder.headerResult] at hfail ⊢
  have hresult : s.decodeResult requantize base a = .returned false
      ⟨(madHeaderDecode (memoryWith base s.readBuf a.outside) s.frame.header s.stream).2.1,
        s.stream.options⟩
      { (madHeaderDecode (memoryWith base s.readBuf a.outside) s.frame.header s.stream).2.2 with
        ancBitlen := 0 } none := by
    simp only [Decoder.decodeResult, madFrameDecode, hwaiting, hfail, Bool.false_eq_true, if_false]
  rw [Decoder.decode, hresult]

/-- A call that leaves the search for a header with a recoverable error is unsynchronised. -/
theorem decode_unsynced (h : Ready base source s) (hpc : s.pc = .decode) {lost : Bool}
    (hlost : lostAfter (s.headerResult base a) lost = true) :
    (s.decode requantize base a).stream.sync = false := by
  have hle := (h.windowed hpc).le_nextFrame
  have hbase := base.ne_zero
  have hnext : s.stream.nextFrame ≠ 0 := by omega
  rcases madHeaderDecode_cases (memoryWith base s.readBuf a.outside) s.frame.header h.skiplen_eq
    hnext with ⟨f, r, n, header, ptr, freerate, -, -, -, hdecode⟩ |
      ⟨-, header, ptr, thisFrame, nextFrame, freerate, error, -, -, hdecode⟩
  · have haccepted : (s.headerResult base a).1 = true := by rw [Decoder.headerResult, hdecode]
    rw [lostAfter, if_pos haccepted] at hlost
    cases hlost
  · have hfail : (s.headerResult base a).1 = false := by rw [Decoder.headerResult, hdecode]
    rw [decode_of_noHeader h.not_waiting hfail, Decoder.headerResult, hdecode]

theorem watched_invariant (requantize : ℕ → ℤ → ℤ) (base : ReadBufAddr)
    (source mainData readBuf : Mem) :
    (watchedMachine requantize base source mainData readBuf).Invariant (WatchedInv base source) where
  init := ⟨(decoder_invariant requantize base source mainData readBuf).init, fun h => nomatch h⟩
  step {w a w'} h _ hstep := by
    obtain ⟨s, hs, rfl⟩ := Option.map_eq_some_iff.mp hstep
    have hinv := (decoder_invariant requantize base source mainData readBuf).step h.decoder trivial hs
    refine ⟨hinv, ?_⟩
    intro hlost hpc'
    cases hpc : w.decoder.pc with
    | input =>
      simp only [decoderMachine, hpc] at hs
      cases hs
      exact .inr rfl
    | decode =>
      simp only [decoderMachine, hpc] at hs
      cases hs
      have hready := h.decoder (by rw [hpc]; decide)
      simp only [hpc, if_true] at hlost
      exact .inl (decode_unsynced hready hpc hlost)
    | crashed =>
      simp only [decoderMachine, hpc] at hs
      cases hs

/-- **Resynchronisation needs two headers**, but for a frame at the front of a fresh buffer: after a
recoverable error the next frame that `mad_header_decode` accepts is followed by a sync word, unless
the call is the first one since `mad_stream_buffer` and the frame stands where the buffer starts. -/
theorem decoder_needs_two_headers (requantize : ℕ → ℤ → ℤ) (base : ReadBufAddr)
    (source mainData readBuf : Mem) (acts : List Surroundings) :
    (watchedMachine requantize base source mainData readBuf).Always
      (NeedsTwoHeadersInside base) acts := by
  have hinv := watched_invariant requantize base source mainData readBuf
  rw [Machine.always_iff_moves]
  intro pre a _ hpc hlost haccepted
  have h := Machine.Invariant.run hinv pre
  generalize (watchedMachine requantize base source mainData readBuf).run pre = w
    at h hpc hlost haccepted ⊢
  have hready := h.decoder (by rw [hpc]; decide)
  have hwindow := hready.windowed hpc
  have hle := hwindow.le_nextFrame
  have hbase := base.ne_zero
  have hnext : w.decoder.stream.nextFrame ≠ 0 := by omega
  rcases madHeaderDecode_cases (memoryWith base w.decoder.readBuf a.outside)
    w.decoder.frame.header hready.skiplen_eq hnext with
      ⟨f, r, n, header, ptr, freerate, haccepts, -, -, hdecode⟩ |
      ⟨-, header, ptr, thisFrame, nextFrame, freerate, error, -, -, hdecode⟩
  · rw [Decoder.headerResult, hdecode]
    rcases h.unsynced hlost hpc with hunsync | hfresh
    · exact .inl (haccepts.confirmed hunsync)
    · have hsync := hwindow.fresh hpc hfresh
      exact .inr ⟨hfresh, (haccepts.synced hsync).trans hfresh⟩
  · rw [Decoder.headerResult, hdecode] at haccepted
    cases haccepted

/-- Zeros but for a header of 32 kbit/s at 44.1 kHz, whose frame does not fit behind it. -/
def lateFrame : Mem := fun a =>
  if a = 2098 then 0xff else if a = 2099 then 0xfb else if a = 2100 then 0x10 else 0

/-- The search of the first buffer ends with a lost sync and with the frame at the end of the
buffer; the first call after the refill accepts it, with zeros behind it. -/
theorem decoder_accepts_single_header : ¬ ∀ requantize base source mainData readBuf acts,
    (watchedMachine requantize base source mainData readBuf).Always (NeedsTwoHeaders base) acts := by
  intro h
  have hbad := h (fun _ _ => 0) ⟨4096, by decide⟩ lateFrame (fun _ => 0) (fun _ => 0)
    (List.replicate 5 silentSurroundings)
  revert hbad
  decide +kernel

end Mp3Decoder
