import Mp3Decoder.User.Decoder

/-!
# Does the decoder task move on?

When `mad_frame_decode` asks for more data, `input()` makes room by what is before `next_frame`.
At the front of a fresh buffer `mad_header_decode` stays where it is only for a frame that is
longer than the buffer, and then `input()` presents the same bytes again.
-/

namespace Mp3Decoder

open Schedule

/-- When the step ends the inner loop, `next_frame` is behind the front of `readBuf`, and the
following `input()` reads at least one new byte. -/
def MovesOn (requantize : ℕ → ℤ → ℤ) (base : ReadBufAddr) (source : Mem) (s : Decoder)
    (a : Surroundings) : Prop :=
  s.pc = .decode → (s.decode requantize base a).pc = .input →
    base.addr < (s.decode requantize base a).stream.nextFrame ∧
      ∀ outside, (s.decode requantize base a).taken <
        ((s.decode requantize base a).input base source outside).taken

/-- A frame at the front of `readBuf` fits in it, with the guard behind. -/
def FirstFrameFits (base : ReadBufAddr) (s : Decoder) (a : Surroundings) : Prop :=
  s.pc = .decode → s.stream.nextFrame = base.addr →
    isSync (memoryWith base s.readBuf a.outside) base.addr = true →
      ∀ r n, FrameAt (memoryWith base s.readBuf a.outside) s.stream base.addr r n →
        n + madBufferGuard ≤ readBufSize

variable {requantize : ℕ → ℤ → ℤ} {base : ReadBufAddr} {source : Mem} {s : Decoder}
  {a : Surroundings}

/-- `input()` reads what is missing. -/
theorem taken_lt_input (hbufend : s.stream.bufend = base.addr + readBufSize)
    (hnext : base.addr < s.stream.nextFrame) (outside : Mem) :
    s.taken < (s.input base source outside).taken := by
  have hsize : readBufSize = 2106 := rfl
  have htaken : (s.input base source outside).taken =
      s.taken + (readBufSize - (s.stream.bufend - s.stream.nextFrame)) := rfl
  omega

/-- A search that ends the inner loop moves on, unless the frame at the front is too long. -/
theorem SearchFailure.movesOn {mem : Mem} {stream : MadStream} {nextFrame addr : ℕ}
    {error : MadError} (h : SearchFailure mem stream nextFrame error)
    (hbufend : stream.bufend = addr + readBufSize) (hle : addr ≤ stream.nextFrame)
    (hend : stream.nextFrame ≤ stream.bufend)
    (hfresh : stream.nextFrame = addr → stream.sync = true)
    (hfits : stream.nextFrame = addr → isSync mem addr = true → ∀ r n,
      FrameAt mem stream addr r n → n + madBufferGuard ≤ readBufSize) :
    addr < nextFrame := by
  have hsize : readBufSize = 2106 := rfl
  have hguard : madBufferGuard = 8 := rfl
  have hge := (h.nextFrame_bounds hend).1
  by_contra hstays
  have hfront : stream.nextFrame = addr := by omega
  have hsame : nextFrame = addr := by omega
  cases h with
  | short hsync heq herror hshort => omega
  | noSync hunsync =>
    rw [hfresh hfront] at hunsync
    cases hunsync
  | bad hlt => omega
  | tooLong hnext hsync hend hword hframe hlong herror =>
    rw [hsame] at hword hframe hlong
    have hroom := hfits hfront hword _ _ hframe
    omega

/-- An accepted frame at the front fits. -/
theorem Accepts.fits_at {mem : Mem} {stream : MadStream} {addr f r n r' n' : ℕ}
    (h : Accepts mem stream f r n) (hfront : stream.nextFrame = addr) (hsync : stream.sync = true)
    (hbufend : stream.bufend = addr + readBufSize) (hframe : FrameAt mem stream addr r' n') :
    n' + madBufferGuard ≤ readBufSize := by
  have hat := h.synced hsync
  have hfits := h.fits
  have hsame := h.frame
  rw [hat, hfront] at hsame
  have hlength := (hsame.unique hframe).2
  omega

/-- A search that stops at a frame that is too long for the buffer stays there. -/
theorem SearchFailure.stays {mem : Mem} {stream : MadStream} {nextFrame addr r n : ℕ}
    {error : MadError} (h : SearchFailure mem stream nextFrame error)
    (hfront : stream.nextFrame = addr) (hsync : stream.sync = true) (hword : isSync mem addr = true)
    (hframe : FrameAt mem stream addr r n) :
    nextFrame = addr ∧ error = .buflen := by
  cases h with
  | short _ heq herror hshort => exact ⟨heq.trans hfront, herror⟩
  | noSync hunsync =>
    rw [hsync] at hunsync
    cases hunsync
  | bad hlt hend hrec hnone =>
    rw [hfront] at hnone
    exact absurd hframe (hnone hsync hword r n)
  | tooLong hle hat _ _ _ _ herror => exact ⟨(hat hsync).trans hfront, herror⟩

/-- A step of the inner loop moves on exactly when the first frame fits. -/
theorem Ready.movesOn_iff (h : Ready base source s) (hpc : s.pc = .decode) :
    MovesOn requantize base source s a ↔ FirstFrameFits base s a := by
  have hwindow := h.windowed hpc
  have hbufend := hwindow.bufend_eq
  have hle := hwindow.le_nextFrame
  have hend := hwindow.nextFrame_le
  have hcase := h.frameCase hpc requantize a
  generalize hresult : s.decodeResult requantize base a = result at hcase
  rcases hcase with ⟨haccepts, hlayer, hheader, hptr, hfree⟩ | ⟨haccepts, hlayer⟩ |
    ⟨hno, hfail, hfree, hwaiting⟩
  · -- the frame was accepted, so it fits, and the inner loop goes on
    rename_i f r n freerate header ptr
    have hreturns := madLayerIII_returns requantize
      (memoryWith base s.readBuf a.outside) (acceptedStream s.stream f n ptr freerate)
      ⟨header, s.stream.options⟩ a.stack
    have hon := (decode_layerIII hresult hreturns).1
    constructor
    · intro _ _ hfront _ r' n' hframe
      exact haccepts.fits_at hfront (hwindow.fresh hpc hfront) hbufend hframe
    · intro _ _ hstop
      rw [hon] at hstop
      cases hstop
  · have hcrashed : (s.decode requantize base a).pc = .crashed := by rw [Decoder.decode, hresult]
    constructor
    · intro _ _ hfront _ r' n' hframe
      exact haccepts.fits_at hfront (hwindow.fresh hpc hfront) hbufend hframe
    · intro _ _ hstop
      rw [hcrashed] at hstop
      cases hstop
  · rename_i header ptr thisFrame nextFrame freerate error
    have hstream : (s.decode requantize base a).stream.nextFrame = nextFrame ∧
        (s.decode requantize base a).stream.bufend = s.stream.bufend := by
      rw [Decoder.decode, hresult]
      exact ⟨rfl, rfl⟩
    constructor
    · intro hmoves _ hfront hword r n hframe
      obtain ⟨hstays, herror⟩ :=
        hfail.stays hfront (hwindow.fresh hpc hfront) hword hframe
      have hstop : (s.decode requantize base a).pc = .input := by
        have hdone : ¬ (false = true ∨ madRecoverable .buflen = true) := by decide
        rw [Decoder.decode, hresult, herror]
        exact if_neg hdone
      have hnext := (hmoves hpc hstop).1
      omega
    · intro hfits _ _
      have hnext : base.addr < nextFrame :=
        hfail.movesOn hbufend hle (by omega) (hwindow.fresh hpc) (hfits hpc)
      rw [hstream.1]
      exact ⟨hnext, taken_lt_input (hstream.2.trans hbufend) (hstream.1.symm ▸ hnext)⟩

/-- **The decoder task moves on in a run exactly when every frame that comes to stand at the front
of `readBuf` fits in it.** -/
theorem decoder_movesOn_iff (requantize : ℕ → ℤ → ℤ) (base : ReadBufAddr)
    (source mainData readBuf : Mem) (acts : List Surroundings) :
    (decoderMachine requantize base source mainData readBuf).Always
        (MovesOn requantize base source) acts ↔
      (decoderMachine requantize base source mainData readBuf).Always
        (FirstFrameFits base) acts := by
  apply (decoder_invariant requantize base source mainData readBuf).always_iff
  intro s a h
  cases hpc : s.pc with
  | decode => exact (h (by rw [hpc]; decide)).movesOn_iff hpc
  | input =>
    have hno : s.pc ≠ .decode := by rw [hpc]; decide
    exact ⟨fun _ h => absurd h hno, fun _ h => absurd h hno⟩
  | crashed =>
    have hno : s.pc ≠ .decode := by rw [hpc]; decide
    exact ⟨fun _ h => absurd h hno, fun _ h => absurd h hno⟩

/-- A Layer II header of 160 kbit/s at 8 kHz: its frame has 2880 bytes. -/
def longFrame : Mem := fun a =>
  if a = 0 then 0xff else if a = 1 then 0xe5 else if a = 2 then 0xe8 else 0

theorem decoder_stuck : ¬ ∀ requantize base source mainData readBuf acts,
    (decoderMachine requantize base source mainData readBuf).Always
      (MovesOn requantize base source) acts := by
  intro h
  have hrun := h (fun _ _ => 0) ⟨4096, by decide⟩ longFrame (fun _ => 0) (fun _ => 0)
    [silentSurroundings, silentSurroundings]
  have hmoves := hrun.2.1 rfl (by decide +kernel)
  exact absurd hmoves.1 (by decide +kernel)

end Mp3Decoder
