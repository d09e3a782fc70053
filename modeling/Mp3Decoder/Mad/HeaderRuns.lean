import Mp3Decoder.Lib.Schedule
import Mp3Decoder.Mad.HeaderSearch

/-!
# Runs of header searches

A run of `mad_header_decode` calls on one buffer, whatever the callers do with the errors.  The
positions that a failed call leaves behind are `Skippable`: no frame that is followed by a sync word
starts there.
-/

namespace Mp3Decoder

open Schedule

/-! ### What a failed search leaves behind -/

/-- A position that a search may leave behind. -/
def Skippable (mem : Mem) (stream : MadStream) (p : ℕ) : Prop :=
  isSync mem p = true → p + madBufferGuard ≤ stream.bufend →
    Passed mem stream p ∨ ∀ r n, ¬ FrameAt mem stream p r n

/-- A failed search, from `stream` to `stream'`. -/
structure Leaves (mem : Mem) (stream stream' : MadStream) : Prop where
  thisFrame : stream'.thisFrame = stream.thisFrame ∨ stream.nextFrame ≤ stream'.thisFrame
  skipped : ∀ p, stream.nextFrame ≤ p → p < stream'.nextFrame → Skippable mem stream p

theorem Leaves.of_stays {mem : Mem} {stream stream' : MadStream}
    (hthis : stream'.thisFrame = stream.thisFrame ∨ stream.nextFrame ≤ stream'.thisFrame)
    (hnext : stream'.nextFrame ≤ stream.nextFrame) : Leaves mem stream stream' :=
  ⟨hthis, fun p hle hlt => by omega⟩

/-- A search that resumes behind `q` leaves behind what is skippable from the start. -/
theorem Resumes.leaves {mem : Mem} {stream stream' stream'' : MadStream} {q : ℕ}
    (h : Resumes mem stream stream' q) (hthis : stream'.thisFrame = q)
    (hleaves : Leaves mem stream' stream'') : Leaves mem stream stream'' := by
  have hle := h.le
  have hnext := h.next
  have hend := h.bufend_eq
  refine ⟨.inr ?_, ?_⟩
  · rcases hleaves.thisFrame with heq | hge <;> omega
  · intro p hp hlt hword hroom
    rcases Nat.lt_trichotomy p q with hlt' | heq | hgt
    · rw [h.first p hp hlt'] at hword
      cases hword
    · rw [heq]
      exact .inl h.passed
    · rcases hleaves.skipped p (by omega) hlt hword (by omega) with ⟨r, n, hframe, hfits, hno⟩ | hnone
      · exact .inl ⟨r, n, hframe.of_unsynced hend h.unsynced' h.unsynced, hend ▸ hfits, hno⟩
      · right
        intro r n hframe
        exact hnone r n (hframe.of_unsynced hend.symm h.unsynced h.unsynced')

theorem headerPass_synced_leaves {mem : Mem} {header header' : MadHeader} {stream stream' : MadStream}
    (hsync : stream.sync = true)
    (hfail : headerPass mem header stream stream.nextFrame = .fail header' stream') :
    Leaves mem stream stream' := by
  rw [headerPass, synchronize, if_pos hsync] at hfail
  by_cases hshort : (stream.bufend : ℤ) - stream.nextFrame < madBufferGuard
  · rw [if_pos hshort] at hfail
    cases hfail
    exact .of_stays (.inl rfl) (Nat.le_refl _)
  rw [if_neg hshort] at hfail
  have honly : ∀ p, stream.nextFrame ≤ p → p < stream.nextFrame + 1 → p = stream.nextFrame := by
    omega
  by_cases hword : isSync mem stream.nextFrame = true
  · rw [if_neg fun h => h hword] at hfail
    have hresult := processFrame_cases mem header stream stream.nextFrame
    have hframe : processFrame mem header stream stream.nextFrame = .fail header' stream' := hfail
    rw [hframe] at hresult
    cases hresult with
    | noFrame _ _ _ _ hnone =>
      refine ⟨.inr (Nat.le_refl _), fun p hle hlt _ _ => ?_⟩
      rw [honly p hle hlt]
      exact .inr hnone
    | tooLong => exact .of_stays (.inr (Nat.le_refl _)) (Nat.le_refl _)
  · rw [if_pos hword] at hfail
    cases hfail
    refine ⟨.inr (Nat.le_refl _), fun p hle hlt hsyncAt _ => ?_⟩
    rw [honly p hle hlt] at hsyncAt
    exact absurd hsyncAt hword

/-- Going back to `sync:`. -/
theorem ProcessResult.again_eq {mem : Mem} {stream stream' : MadStream} {f : ℕ} {header : MadHeader}
    (h : ProcessResult mem stream f (.again header stream')) :
    stream'.thisFrame = f ∧ stream'.nextFrame = f + 1 ∧ stream'.bufend = stream.bufend ∧
      stream'.sync = stream.sync ∧ Passed mem stream f := by
  cases h with
  | unconfirmed hread _ hfits _ hnext =>
    exact ⟨rfl, rfl, rfl, rfl, _, _, hread.frame, hfits, hnext⟩

theorem headerLoop_unsynced_leaves {mem : Mem} {header header' : MadHeader}
    {stream stream' : MadStream} (hunsync : stream.sync = false) {fuel : ℕ}
    (hfail : headerLoop mem header stream stream.nextFrame fuel = .fail header' stream') :
    Leaves mem stream stream' := by
  induction fuel generalizing header stream with
  | zero => cases hfail
  | succ fuel ih =>
    rw [headerLoop] at hfail
    rcases headerPass_unsynced mem header hunsync with ⟨hnone, hpass⟩ | ⟨q, hfound, hpass⟩
    · rw [hpass] at hfail
      cases hfail
      refine ⟨.inl rfl, fun p hle hlt hword hroom => ?_⟩
      rw [hnone p hle (by omega)] at hword
      cases hword
    · have hresult := processFrame_cases mem header stream q
      have hnoSync : ∀ p, stream.nextFrame ≤ p → p < q → Skippable mem stream p := by
        intro p hp hlt hsyncAt
        rw [hfound.first p hp hlt] at hsyncAt
        cases hsyncAt
      rw [hpass] at hfail
      cases houtcome : processFrame mem header stream q with
      | done header'' stream'' =>
        rw [houtcome] at hfail
        cases hfail
      | fail header'' stream'' =>
        rw [houtcome] at hresult hfail
        cases hfail
        cases hresult with
        | noFrame _ _ _ _ hnone =>
          refine ⟨.inr hfound.le, fun p hp hlt => ?_⟩
          rcases Nat.eq_or_lt_of_le (Nat.le_of_lt_succ hlt) with heq | hlt'
          · intro _ _
            rw [heq]
            exact .inr hnone
          · exact hnoSync p hp hlt'
        | tooLong => exact ⟨.inr hfound.le, hnoSync⟩
      | again header'' stream'' =>
        rw [houtcome] at hresult hfail
        obtain ⟨hthis, hnext, hend, hsync', hpassed⟩ := hresult.again_eq
        have hunsync' : stream''.sync = false := hsync'.trans hunsync
        have hresumes : Resumes mem stream stream'' q :=
          ⟨hfound.le, hfound.first, hpassed, hnext, hend, hunsync, hunsync'⟩
        exact hresumes.leaves hthis (ih hunsync' hfail)

/-- What no call changes. -/
theorem madHeaderDecode_stays (mem : Mem) (header : MadHeader) {stream : MadStream}
    (hskip : stream.skiplen = 0) :
    (madHeaderDecode mem header stream).2.2.skiplen = 0 ∧
      (madHeaderDecode mem header stream).2.2.bufend = stream.bufend := by
  by_cases hnull : stream.nextFrame = 0
  · simp only [madHeaderDecode, if_pos hnull]
    exact ⟨hskip, trivial⟩
  · rcases madHeaderDecode_cases mem header hskip hnull with
      ⟨f, r, n, header', ptr, freerate, -, -, -, hdecode⟩ | ⟨-, _, _, _, _, _, _, -, -, hdecode⟩
    · rw [hdecode]
      exact ⟨hskip, rfl⟩
    · rw [hdecode]
      exact ⟨hskip, rfl⟩

/-- **A failed call leaves behind only what is skippable.** -/
theorem madHeaderDecode_leaves (mem : Mem) (header : MadHeader) {stream : MadStream}
    (hskip : stream.skiplen = 0) (hfail : (madHeaderDecode mem header stream).1 = false) :
    Leaves mem stream (madHeaderDecode mem header stream).2.2 := by
  have hleaves : ∀ {header' stream' fuel}, 0 < fuel →
      headerLoop mem header stream stream.nextFrame fuel = .fail header' stream' →
      Leaves mem stream stream' := by
    intro header' stream' fuel hpos hloop
    cases hsync : stream.sync with
    | false => exact headerLoop_unsynced_leaves hsync hloop
    | true =>
      obtain ⟨fuel, rfl⟩ := Nat.exists_eq_succ_of_ne_zero (Nat.pos_iff_ne_zero.mp hpos)
      have hpass := headerPass_synced mem header hsync
      rw [headerLoop] at hloop
      generalize houtcome : headerPass mem header stream stream.nextFrame = outcome at hpass hloop
      cases hpass with
      | accepted => cases hloop
      | failed =>
        cases hloop
        exact headerPass_synced_leaves hsync houtcome
  by_cases hnull : stream.nextFrame = 0
  · simp only [madHeaderDecode, if_pos hnull]
    exact .of_stays (.inl rfl) (Nat.le_refl _)
  have hresult := headerLoop_cases mem header stream
    (show stream.bufend < stream.nextFrame + (stream.bufend + 1 - stream.nextFrame + 1) by omega)
    (Nat.succ_pos _)
  revert hfail
  simp only [madHeaderDecode, if_neg hnull, hskip, ne_eq, not_true_eq_false, false_and, if_false,
    Nat.add_zero]
  generalize houtcome : headerLoop mem header stream stream.nextFrame _ = outcome at hresult
  cases hresult with
  | accepted => exact fun hfail => absurd hfail.symm Bool.false_ne_true
  | failed =>
    intro _
    have hfailed := hleaves (Nat.succ_pos _) houtcome
    exact ⟨hfailed.thisFrame, hfailed.skipped⟩

/-! ### Runs on one buffer -/

/-- What `decode_header` reads at `p`, if it succeeds. -/
def headerRead (mem : Mem) (p : ℕ) : Option MadHeader :=
  let r := decodeHeader mem madHeaderInit { madStreamInit mem with ptr := madBitInit p }
  if r.1 then some r.2.1 else none

/-- An offset where a frame of `n` bytes stands that is good without looking any further: its
header has a bit rate, it fits in the buffer, and a sync word follows it. -/
structure AcceptableAt (mem : Mem) (bufend p n : ℕ) : Prop where
  sync_word : isSync mem p = true
  decodes : ∃ header, headerRead mem p = some header ∧ header.bitrate ≠ 0 ∧ n = frameLength header
  fits : p + n + madBufferGuard ≤ bufend
  next_sync : isSync mem (p + n) = true

theorem AcceptableAt.frame {mem : Mem} {bufend p n : ℕ} (h : AcceptableAt mem bufend p n)
    (stream : MadStream) : ∃ r, FrameAt mem stream p r n := by
  obtain ⟨header, hread, hbitrate, hlength⟩ := h.decodes
  have hptr : AtBit mem { madStreamInit mem with ptr := madBitInit p }.ptr (8 * p) := atBit_init mem p
  obtain ⟨hbad, hgood⟩ := decodeHeader_eq hptr madHeaderInit
  simp only [headerRead] at hread
  by_cases herror : headerError mem p = .none
  · obtain ⟨header', ptr, hdecode, hs, -⟩ := hgood herror
    rw [hdecode] at hread
    cases hread
    have hrate : header'.bitrate = (headerAt mem p).bitrate := by rw [hs]
    rw [hrate] at hbitrate
    refine ⟨(headerAt mem p).bitrate, herror, .table hbitrate, ?_⟩
    rw [hlength, hs]
    rfl
  · obtain ⟨header', ptr, hdecode, -⟩ := hbad herror
    rw [hdecode] at hread
    cases hread

/-- A buffer being searched, with the start and the end of every frame returned so far. -/
structure HeaderSearch where
  stream : MadStream
  returned : List (ℕ × ℕ)

/-- Calls of `mad_header_decode` on one buffer, from any stream with nothing to skip. -/
def headerMachine (mem : Mem) (stream : MadStream) : Machine HeaderSearch MadHeader where
  init := ⟨{ stream with skiplen := 0 }, []⟩
  step s header :=
    let r := madHeaderDecode mem header s.stream
    some {
      stream := r.2.2
      returned := if r.1 then (r.2.2.thisFrame, r.2.2.nextFrame) :: s.returned else s.returned }

/-- An acceptable offset is not skippable. -/
theorem AcceptableAt.not_skippable {mem : Mem} {stream : MadStream} {p n : ℕ}
    (h : AcceptableAt mem stream.bufend p n) : ¬ Skippable mem stream p := by
  intro hskippable
  obtain ⟨r, hframe⟩ := h.frame stream
  have hfits := h.fits
  rcases hskippable h.sync_word (by omega) with ⟨r', n', hframe', -, hno⟩ | hnone
  · have hnext := h.next_sync
    rw [(hframe.unique hframe').2, hno] at hnext
    cases hnext
  · exact hnone r n hframe

/-- A search does not accept a frame behind an acceptable offset. -/
theorem AcceptableAt.le_of_accepts {mem : Mem} {stream : MadStream} {p n f r k : ℕ}
    (h : AcceptableAt mem stream.bufend p n) (haccepts : Accepts mem stream f r k)
    (hle : stream.nextFrame ≤ p) : f ≤ p := by
  by_contra hbefore
  cases hsync : stream.sync with
  | true =>
    have hfirst := haccepts.synced hsync
    omega
  | false =>
    have hpassed := haccepts.passed hsync p hle (Nat.not_le.mp hbefore) h.sync_word
    exact h.not_skippable fun _ _ => .inl hpassed

/-- `p` is where a returned frame starts, or strictly inside one. -/
def HeaderSearch.Covers (s : HeaderSearch) (p : ℕ) : Prop :=
  ∃ frame ∈ s.returned, p = frame.1 ∨ frame.1 < p ∧ p < frame.2

structure SearchInv (mem : Mem) (stream : MadStream) (s : HeaderSearch) : Prop where
  skiplen_eq : s.stream.skiplen = 0
  bufend_eq : s.stream.bufend = stream.bufend
  covers : ∀ p n, AcceptableAt mem stream.bufend p n → stream.nextFrame ≤ p →
    p < s.stream.nextFrame → s.Covers p

/-- A step, from what it leaves between the two values of `next_frame`. -/
theorem SearchInv.step {mem : Mem} {stream : MadStream} {s s' : HeaderSearch}
    (h : SearchInv mem stream s) (hskip : s'.stream.skiplen = 0)
    (hbufend : s'.stream.bufend = s.stream.bufend)
    (hreturned : ∀ frame ∈ s.returned, frame ∈ s'.returned)
    (hnew : ∀ p n, AcceptableAt mem s.stream.bufend p n → s.stream.nextFrame ≤ p →
      p < s'.stream.nextFrame → s'.Covers p) : SearchInv mem stream s' := by
  refine ⟨hskip, hbufend.trans h.bufend_eq, fun p n hp hle hlt => ?_⟩
  by_cases hbefore : p < s.stream.nextFrame
  · obtain ⟨frame, hmem, hinside⟩ := h.covers p n hp hle hbefore
    exact ⟨frame, hreturned frame hmem, hinside⟩
  · exact hnew p n (h.bufend_eq ▸ hp) (Nat.not_lt.mp hbefore) hlt

theorem header_invariant (mem : Mem) (stream : MadStream) :
    (headerMachine mem stream).Invariant (SearchInv mem stream) where
  init := ⟨rfl, rfl, fun p n _ hle hlt => by
    have hnext : (headerMachine mem stream).init.stream.nextFrame = stream.nextFrame := rfl
    omega⟩
  step {s header s'} h _ hstep := by
    cases hstep
    cases hok : (madHeaderDecode mem header s.stream).1 with
    | false =>
      have hleaves := madHeaderDecode_leaves mem header h.skiplen_eq hok
      have hstays := madHeaderDecode_stays mem header h.skiplen_eq
      refine h.step hstays.1 hstays.2 (fun frame hmem => hmem) fun p n hp hle hlt => ?_
      exact absurd (hleaves.skipped p hle hlt) hp.not_skippable
    | true =>
      have hnull : s.stream.nextFrame ≠ 0 := by
        intro hzero
        simp only [madHeaderDecode, if_pos hzero] at hok
        cases hok
      have hstays := madHeaderDecode_stays mem header h.skiplen_eq
      rcases madHeaderDecode_cases mem header h.skiplen_eq hnull with
        ⟨f, r, n, header', ptr, freerate, haccepts, -, -, hdecode⟩ |
        ⟨-, _, _, _, _, _, _, -, -, hdecode⟩
      · rw [hdecode] at hstays ⊢
        refine h.step hstays.1 hstays.2 (fun frame hmem => List.mem_cons_of_mem _ hmem) ?_
        intro p k hp hle hlt
        have hge := hp.le_of_accepts haccepts hle
        have hend : p < f + n := hlt
        refine ⟨(f, f + n), List.mem_cons_self, ?_⟩
        rcases Nat.eq_or_lt_of_le hge with heq | hgt
        · exact .inl heq.symm
        · exact .inr ⟨hgt, hend⟩
      · rw [hdecode] at hok
        cases hok

/-- **The search skips no good frame.**  In every run of `mad_header_decode` calls on a buffer, every
acceptable offset between the first and the last `next_frame` is where a returned frame starts, or
is strictly inside one. -/
theorem search_skips_no_good_frame (mem : Mem) (stream : MadStream) (headers : List MadHeader)
    {p n : ℕ} (hp : AcceptableAt mem stream.bufend p n) (hle : stream.nextFrame ≤ p)
    (hlt : p < ((headerMachine mem stream).run headers).stream.nextFrame) :
    ((headerMachine mem stream).run headers).Covers p :=
  ((header_invariant mem stream).run headers).covers p n hp hle hlt

/-- Two headers of 32 kbit/s at 44.1 kHz, 104 bytes apart. -/
def twoHeaders : Mem := fun a =>
  if a = 4096 ∨ a = 4200 then 0xff else if a = 4097 ∨ a = 4201 then 0xfb
  else if a = 4098 ∨ a = 4202 then 0x10 else 0

theorem search_skips_no_twoHeaders :
    AcceptableAt twoHeaders 4496 4096 104 ∧
      ((headerMachine twoHeaders (madStreamBuffer (madStreamInit twoHeaders) 4096 400)).run
        [{}]).Covers 4096 := by
  have hp : AcceptableAt twoHeaders 4496 4096 104 :=
    ⟨by decide, ⟨(headerRead twoHeaders 4096).getD {}, by decide +kernel, by decide +kernel,
      by decide +kernel⟩, by decide, by decide⟩
  exact ⟨hp, search_skips_no_good_frame twoHeaders
    (madStreamBuffer (madStreamInit twoHeaders) 4096 400) [{}] hp (Nat.le_refl _)
    (by decide +kernel)⟩

end Mp3Decoder
