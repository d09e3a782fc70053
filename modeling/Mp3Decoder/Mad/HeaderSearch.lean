import Mp3Decoder.Mad.FreeRate

/-!
# The search for a frame

`FrameAt mem stream f r n` says that a header stands at `f` whose frame has bit rate `r` and
`n` bytes.  Every pass of `mad_header_decode` ends in one of the ways of `processFrame_cases`.
-/

namespace Mp3Decoder

open BigEndianBits

/-- The header at `f` as a successful `mad_header_decode` returns it, without its CRC words. -/
def completeHeader (mem : Mem) (f r : ℕ) : MadHeader :=
  { headerAt mem f with
    bitrate := r
    flags := { (headerAt mem f).flags with
      incomplete := true, freeformat := (headerAt mem f).bitrate = 0 } }

structure FrameAt (mem : Mem) (stream : MadStream) (f r n : ℕ) : Prop where
  header_ok : headerError mem f = .none
  rate : RateAt mem stream f r
  length : n = frameLength (completeHeader mem f r)

theorem RateAt.of_stream {mem : Mem} {stream stream' : MadStream} {f r : ℕ}
    (h : RateAt mem stream f r) (hbufend : stream.bufend = stream'.bufend)
    (hfreerate : stream.freerate = stream'.freerate) (hsync : stream.sync = stream'.sync) :
    RateAt mem stream' f r := by
  have hneed : NeedsSearch mem stream f ↔ NeedsSearch mem stream' f := by
    rw [NeedsSearch, NeedsSearch, hfreerate, hsync]
  cases h with
  | table hne => exact .table hne
  | discovered h0 hsearch hrate => exact .discovered h0 (hneed.mp hsearch) (hbufend ▸ hrate)
  | remembered h0 hno =>
    rw [hfreerate]
    exact .remembered h0 fun h => hno (hneed.mpr h)

theorem FrameAt.of_stream {mem : Mem} {stream stream' : MadStream} {f r n : ℕ}
    (h : FrameAt mem stream f r n) (hbufend : stream.bufend = stream'.bufend)
    (hfreerate : stream.freerate = stream'.freerate) (hsync : stream.sync = stream'.sync) :
    FrameAt mem stream' f r n :=
  ⟨h.header_ok, h.rate.of_stream hbufend hfreerate hsync, h.length⟩

theorem FrameAt.unique {mem : Mem} {stream : MadStream} {f r n r' n' : ℕ}
    (h : FrameAt mem stream f r n) (h' : FrameAt mem stream f r' n') : r = r' ∧ n = n' := by
  have hr := h.rate.unique h'.rate
  exact ⟨hr, by rw [h.length, h'.length, hr]⟩

/-- `slots_per_frame * bitrate / samplerate` for the rates in the tables. -/
theorem layerIII_slots_le (lsf mpeg25 : Bool) (h : mpeg25 → lsf) :
    ∀ index < 15, ∀ freq < 3, (if lsf then 72 else 144) * bitrateEntry (bitrateRow lsf 3) index %
      2 ^ 32 / samplerateOf lsf mpeg25 freq ≤ 1440 := by
  match lsf, mpeg25, h with
  | false, false, _ => decide
  | true, false, _ => decide
  | true, true, _ => decide
  | false, true, h => exact absurd (h rfl) Bool.false_ne_true

/-- A Layer III frame whose rate is in the table has at most 1441 bytes. -/
theorem FrameAt.table_le {mem : Mem} {stream : MadStream} {f r n : ℕ}
    (h : FrameAt mem stream f r n) (hlayer : layerAt mem f = 3)
    (htable : (headerAt mem f).bitrate ≠ 0) : n ≤ 1441 := by
  have hok := h.header_ok
  have hrate : r = (headerAt mem f).bitrate := h.rate.unique (.table htable)
  have hindex := bitsVal_lt mem (8 * f + 16) 4
  have hfreq := bitsVal_lt mem (8 * f + 20) 2
  rw [headerError] at hok
  split_ifs at hok with hmpeg25 hlayer4 hbad hfreq3
  have hslots := layerIII_slots_le (lsfAt mem f) (mpeg25At mem f)
    (fun h25 => by by_contra hlsf; exact hmpeg25 ⟨by simpa using hlsf, h25⟩)
    (headerField mem f 16 4) (by rw [headerField] at hbad ⊢; omega)
    (headerField mem f 20 2) (by rw [headerField] at hfreq3 ⊢; omega)
  have hpad : padSlot (completeHeader mem f r) ≤ 1 := by
    rw [padSlot]
    split_ifs <;> decide
  have hslotsEq : slotsPerFrame (completeHeader mem f r) = if lsfAt mem f then 72 else 144 := by
    show (if layerAt mem f = 3 ∧ lsfAt mem f = true then 72 else 144) = _
    rw [hlayer]
    simp only [true_and]
  have hbitrate : (completeHeader mem f r).bitrate =
      bitrateEntry (bitrateRow (lsfAt mem f) 3) (headerField mem f 16 4) := by
    rw [← hlayer]
    exact hrate
  have hsamplerate : (completeHeader mem f r).samplerate =
      samplerateOf (lsfAt mem f) (mpeg25At mem f) (headerField mem f 20 2) := rfl
  have hlayer1 : ¬ (completeHeader mem f r).layer = 1 := by
    show ¬ layerAt mem f = 1
    omega
  rw [h.length, frameLength, if_neg hlayer1, hslotsEq, hbitrate, hsamplerate]
  omega

/-- The errors of `decode_header` are recoverable. -/
theorem headerError_recoverable {mem : Mem} {f : ℕ} (h : headerError mem f ≠ .none) :
    madRecoverable (headerError mem f) = true := by
  revert h
  rw [headerError]
  split_ifs
  all_goals decide

/-- A frame that was read: its header, and the pointer behind it. -/
structure FrameRead (mem : Mem) (stream : MadStream) (f r n : ℕ) (header : MadHeader)
    (ptr : MadBitptr) : Prop where
  frame : FrameAt mem stream f r n
  header_eq : SameButCrc { header with flags := { header.flags with incomplete := true } }
    (completeHeader mem f r)
  ptr_at : AtBit mem ptr (8 * headerEnd mem f)
  ptr_left : 0 < ptr.left

theorem FrameRead.length_eq {mem : Mem} {stream : MadStream} {f r n : ℕ} {header : MadHeader}
    {ptr : MadBitptr} (h : FrameRead mem stream f r n header ptr) :
    frameLength header = n := by
  have hlength : frameLength { header with flags := { header.flags with incomplete := true } } =
      frameLength (completeHeader mem f r) := by
    rw [h.header_eq]
    rfl
  rw [h.frame.length, ← hlength]
  rfl

/-- How a header at `f` is read. -/
theorem readFrame_cases (mem : Mem) (header : MadHeader) {stream : MadStream} {f : ℕ}
    (hthis : stream.thisFrame = f) (hptr : AtBit mem stream.ptr (8 * f)) :
    ((∀ r n, ¬ FrameAt mem stream f r n) ∧ ∃ header' ptr error, madRecoverable error = true ∧
      ((decodeHeader mem header stream = (false, header', { stream with ptr, error })) ∨
        ∃ header₁ stream₁, decodeHeader mem header stream = (true, header₁, stream₁) ∧
          setFreeRate mem header₁ stream₁ = (false, header', { stream with ptr, error }))) ∨
    (∃ r n header' ptr freerate, FrameRead mem stream f r n header' ptr ∧
      FreerateAfter mem stream f freerate ∧
      ∃ header₁ stream₁, decodeHeader mem header stream = (true, header₁, stream₁) ∧
        setFreeRate mem header₁ stream₁ = (true, header', { stream with ptr, freerate })) := by
  obtain ⟨hbad, hgood⟩ := decodeHeader_eq hptr header
  by_cases herr : headerError mem f = .none
  · obtain ⟨header₁, ptr, hdecode, hs, hptrAt, hleft⟩ := hgood herr
    have hstart : madBitNextbyte ptr = headerEnd mem f := by
      rw [hptrAt.nextbyte, headerEnd]
      split_ifs <;> omega
    have hthis₁ : ({ stream with ptr := ptr } : MadStream).thisFrame = f := hthis
    rcases setFreeRate_cases hs hthis₁ hstart with ⟨r, freerate, hrate, hafter, hset⟩ | ⟨hnone, hset⟩
    · right
      refine ⟨r, _, _, ptr, freerate, ⟨⟨herr, hrate.of_stream rfl rfl rfl, rfl⟩, ?_, ?_, hleft⟩,
        hafter, _, _, hdecode, hset⟩
      · rw [SameButCrc, hs]
        rfl
      · rw [headerEnd]
        convert hptrAt using 1
        split_ifs <;> omega
    · left
      refine ⟨?_, _, ptr, .lostsync, rfl, .inr ⟨_, _, hdecode, hset⟩⟩
      intro r n hframe
      exact hnone r (hframe.rate.of_stream rfl rfl rfl)
  · left
    obtain ⟨header', ptr, hdecode, -⟩ := hbad herr
    exact ⟨fun r n hframe => herr hframe.header_ok, header', ptr, _, headerError_recoverable herr,
      .inl hdecode⟩

/-- The header of an accepted frame. -/
def markIncomplete (header : MadHeader) : MadHeader :=
  { header with flags := { header.flags with incomplete := true } }

/-- The ways a pass can end after its sync word at `f`. -/
inductive ProcessResult (mem : Mem) (stream : MadStream) (f : ℕ) : HeaderOutcome → Prop
  | noFrame (header' : MadHeader) (ptr : MadBitptr) (error : MadError) :
      madRecoverable error = true → (∀ r n, ¬ FrameAt mem stream f r n) →
      ProcessResult mem stream f
        (.fail header' { stream with thisFrame := f, nextFrame := f + 1, ptr, error })
  | tooLong {r n : ℕ} {header' : MadHeader} {ptr : MadBitptr} {freerate : ℕ} :
      FrameRead mem stream f r n header' ptr → FreerateAfter mem stream f freerate →
      stream.bufend < f + n + madBufferGuard →
      ProcessResult mem stream f (.fail header'
        { stream with thisFrame := f, nextFrame := f, ptr, freerate, error := .buflen })
  | accepted {r n : ℕ} {header' : MadHeader} {ptr : MadBitptr} {freerate : ℕ} :
      FrameRead mem stream f r n header' ptr → FreerateAfter mem stream f freerate →
      f + n + madBufferGuard ≤ stream.bufend →
      (stream.sync = true ∨ isSync mem (f + n) = true) →
      ProcessResult mem stream f (.done (markIncomplete header')
        { stream with thisFrame := f, nextFrame := f + n, ptr, freerate, sync := true })
  | unconfirmed {r n : ℕ} {header' : MadHeader} {ptr : MadBitptr} {freerate : ℕ} :
      FrameRead mem stream f r n header' ptr → FreerateAfter mem stream f freerate →
      f + n + madBufferGuard ≤ stream.bufend →
      stream.sync = false → isSync mem (f + n) = false →
      ProcessResult mem stream f (.again header'
        { stream with thisFrame := f, nextFrame := f + 1, ptr, freerate })

theorem processFrame_cases (mem : Mem) (header : MadHeader) (stream : MadStream) (f : ℕ) :
    ProcessResult mem stream f (processFrame mem header stream f) := by
  obtain ⟨start, hstart⟩ : ∃ start : MadStream, start =
    { stream with thisFrame := f, nextFrame := f + 1, ptr := madBitInit f } := ⟨_, rfl⟩
  have hthis : start.thisFrame = f := by rw [hstart]
  have hptr : AtBit mem start.ptr (8 * f) := by
    rw [hstart]
    exact atBit_init mem f
  have hbufend : start.bufend = stream.bufend := by rw [hstart]
  have hfreerate : start.freerate = stream.freerate := by rw [hstart]
  have hsync : start.sync = stream.sync := by rw [hstart]
  simp only [processFrame, ← hstart]
  rcases readFrame_cases mem header hthis hptr with
    ⟨hnone, header', ptr, error, hrec, hfail⟩ |
    ⟨r, n, header', ptr, freerate, hread, hafter, header₁, stream₁, hdecode, hset⟩
  · have hnone' : ∀ r n, ¬ FrameAt mem stream f r n := fun r n hframe =>
      hnone r n (hframe.of_stream hbufend.symm hfreerate.symm hsync.symm)
    rcases hfail with hdecode | ⟨header₁, stream₁, hdecode, hset⟩
    · rw [hdecode]
      rw [hstart]
      exact .noFrame header' ptr error hrec hnone'
    · rw [hdecode]
      simp only [hset]
      rw [hstart]
      exact .noFrame header' ptr error hrec hnone'
  · have hread' : FrameRead mem stream f r n header' ptr :=
      ⟨hread.frame.of_stream hbufend hfreerate hsync, hread.header_eq, hread.ptr_at, hread.ptr_left⟩
    have hafter' : FreerateAfter mem stream f freerate := by
      rwa [FreerateAfter, hbufend, hfreerate] at hafter
    rw [hdecode]
    simp only [hset, hread.length_eq, hthis]
    by_cases hlong : stream.bufend < f + n + madBufferGuard
    · have hcond : ((n + madBufferGuard : ℕ) : ℤ) > (start.bufend : ℤ) - f := by omega
      simp only [Bool.not_true, Bool.false_eq_true, if_false, if_pos hcond]
      rw [hstart]
      exact .tooLong hread' hafter' hlong
    have hcond : ¬ ((n + madBufferGuard : ℕ) : ℤ) > (start.bufend : ℤ) - f := by omega
    simp only [Bool.not_true, Bool.false_eq_true, if_false, if_neg hcond]
    by_cases hsync' : stream.sync = true
    · have hresult := ProcessResult.accepted hread' hafter' (by omega) (.inl hsync')
      rw [hsync, if_pos hsync', hstart]
      simpa only [markIncomplete, hsync'] using hresult
    have hunsync : stream.sync = false := Bool.eq_false_of_not_eq_true hsync'
    rw [hsync, if_neg hsync']
    by_cases hnext : isSync mem (f + n) = true
    · rw [if_pos hnext, hstart]
      exact .accepted hread' hafter' (by omega) (.inr hnext)
    · rw [if_neg hnext, hstart]
      exact .unconfirmed hread' hafter' (by omega) hunsync (Bool.eq_false_of_not_eq_true hnext)

/-! ### Whole searches -/

/-- A sync word that an unsynchronised search passes over: its frame fits in the buffer, but no
sync word follows it. -/
def Passed (mem : Mem) (stream : MadStream) (q : ℕ) : Prop :=
  ∃ r n, FrameAt mem stream q r n ∧ q + n + madBufferGuard ≤ stream.bufend ∧
    isSync mem (q + n) = false

/-- The frame at `f` that `mad_header_decode` accepts: the one at `next_frame` when the stream is
synchronised, and otherwise the first one that is followed by a sync word. -/
structure Accepts (mem : Mem) (stream : MadStream) (f r n : ℕ) : Prop where
  le : stream.nextFrame ≤ f
  synced : stream.sync = true → f = stream.nextFrame
  sync_word : isSync mem f = true
  frame : FrameAt mem stream f r n
  fits : f + n + madBufferGuard ≤ stream.bufend
  confirmed : stream.sync = false → isSync mem (f + n) = true
  passed : stream.sync = false → ∀ q, stream.nextFrame ≤ q → q < f → isSync mem q = true →
    Passed mem stream q

/-- At most one frame is accepted. -/
theorem Accepts.unique {mem : Mem} {stream : MadStream} {f r n f' r' n' : ℕ}
    (h : Accepts mem stream f r n) (h' : Accepts mem stream f' r' n') :
    f = f' ∧ r = r' ∧ n = n' := by
  have hfirst : ∀ {g s m g' s' m' : ℕ}, Accepts mem stream g s m → Accepts mem stream g' s' m' →
      stream.sync = false → ¬ g < g' := by
    intro g s m g' s' m' hg hg' hunsync hlt
    obtain ⟨t, k, hframe, -, hnext⟩ := hg'.passed hunsync g hg.le hlt hg.sync_word
    have hconfirmed := hg.confirmed hunsync
    rw [(hg.frame.unique hframe).2, hnext] at hconfirmed
    cases hconfirmed
  have hf : f = f' := by
    cases hsync : stream.sync with
    | true => rw [h.synced hsync, h'.synced hsync]
    | false =>
      have hge := hfirst h h' hsync
      have hle := hfirst h' h hsync
      omega
  rw [← hf] at h'
  exact ⟨hf, h.frame.unique h'.frame⟩

/-- The remembered rate, or one measured inside the buffer. -/
def FreerateIn (mem : Mem) (stream : MadStream) (freerate : ℕ) : Prop :=
  freerate = stream.freerate ∨ ∃ f rate, stream.nextFrame ≤ f ∧
    DiscoveredRate mem stream.bufend f rate ∧ freerate = rate * 1000 % 2 ^ 32

/-- The ways a search can fail. -/
inductive SearchFailure (mem : Mem) (stream : MadStream) (nextFrame : ℕ) (error : MadError) : Prop
  | short : stream.sync = true → nextFrame = stream.nextFrame → error = .buflen →
      stream.bufend < stream.nextFrame + madBufferGuard → SearchFailure mem stream nextFrame error
  | noSync : stream.sync = false → stream.nextFrame ≤ nextFrame →
      (nextFrame ≤ stream.bufend ∨ nextFrame = stream.nextFrame) → error = .buflen →
      SearchFailure mem stream nextFrame error
  | bad : stream.nextFrame < nextFrame → nextFrame + 7 ≤ stream.bufend →
      madRecoverable error = true →
      (stream.sync = true → isSync mem stream.nextFrame = true →
        ∀ r n, ¬ FrameAt mem stream stream.nextFrame r n) → SearchFailure mem stream nextFrame error
  | tooLong {r n : ℕ} : stream.nextFrame ≤ nextFrame → (stream.sync = true → nextFrame = stream.nextFrame) →
      nextFrame + madBufferGuard ≤ stream.bufend → isSync mem nextFrame = true →
      FrameAt mem stream nextFrame r n →
      stream.bufend < nextFrame + n + madBufferGuard → error = .buflen →
      SearchFailure mem stream nextFrame error

/-- What a search leaves behind, apart from the result of `mad_header_decode`'s last lines. -/
inductive SearchResult (mem : Mem) (stream : MadStream) : HeaderOutcome → Prop
  | accepted {f r n : ℕ} {header : MadHeader} {ptr : MadBitptr} {freerate : ℕ} :
      Accepts mem stream f r n → FrameRead mem stream f r n header ptr →
      FreerateIn mem stream freerate → SearchResult mem stream (.done (markIncomplete header)
        { stream with thisFrame := f, nextFrame := f + n, ptr, freerate, sync := true })
  | failed {header : MadHeader} {ptr : MadBitptr} {thisFrame nextFrame freerate : ℕ}
      {error : MadError} :
      (∀ f r n, ¬ Accepts mem stream f r n) → SearchFailure mem stream nextFrame error →
      FreerateIn mem stream freerate → SearchResult mem stream (.fail header
        { stream with thisFrame, nextFrame, ptr, freerate, error })

theorem FreerateAfter.in_search {mem : Mem} {stream : MadStream} {f freerate : ℕ}
    (h : FreerateAfter mem stream f freerate) (hle : stream.nextFrame ≤ f) :
    FreerateIn mem stream freerate :=
  h.imp_right fun ⟨rate, hrate, heq⟩ => ⟨f, rate, hle, hrate, heq⟩

/-- A synchronised search looks at `next_frame` only. -/
theorem headerPass_synced (mem : Mem) (header : MadHeader) {stream : MadStream}
    (hsync : stream.sync = true) :
    SearchResult mem stream (headerPass mem header stream stream.nextFrame) := by
  rw [headerPass, synchronize, if_pos hsync]
  by_cases hshort : (stream.bufend : ℤ) - stream.nextFrame < madBufferGuard
  · rw [if_pos hshort]
    refine .failed ?_ (.short hsync rfl rfl (by omega)) (.inl rfl)
    intro f r n h
    have hfits := h.fits
    have hle := h.le
    omega
  rw [if_neg hshort]
  by_cases hword : isSync mem stream.nextFrame = true
  · rw [if_neg fun h => h hword]
    show SearchResult mem stream (processFrame mem header stream stream.nextFrame)
    have hresult := processFrame_cases mem header stream stream.nextFrame
    have honly : ∀ f r n, Accepts mem stream f r n → FrameAt mem stream stream.nextFrame r n ∧
        stream.nextFrame + n + madBufferGuard ≤ stream.bufend := by
      intro f r n h
      rw [← h.synced hsync]
      exact ⟨h.frame, h.fits⟩
    revert hresult
    generalize processFrame mem header stream stream.nextFrame = outcome
    rintro (⟨header', ptr, error, hrec, hnone⟩ | ⟨hread, hafter, hlong⟩ |
      ⟨hread, hafter, hfits, -⟩ | ⟨-, -, -, hunsync, -⟩)
    · have hfail : SearchFailure mem stream (stream.nextFrame + 1) error :=
        .bad (Nat.lt_succ_self _) (by simp only [madBufferGuard] at hshort; omega) hrec
          fun _ _ => hnone
      exact .failed (fun f r n h => hnone r n (honly f r n h).1) hfail (.inl rfl)
    · have hfail : SearchFailure mem stream stream.nextFrame .buflen :=
        .tooLong (Nat.le_refl _) (fun _ => rfl) (by omega) hword hread.frame hlong rfl
      refine .failed ?_ hfail (hafter.in_search (Nat.le_refl _))
      intro f r n h
      obtain ⟨hframe, hfits⟩ := honly f r n h
      rw [(hframe.unique hread.frame).2] at hfits
      omega
    · have haccepts : Accepts mem stream stream.nextFrame _ _ :=
        ⟨Nat.le_refl _, fun _ => rfl, hword, hread.frame, hfits, fun h => by simp [hsync] at h,
          fun h => by simp [hsync] at h⟩
      exact .accepted haccepts hread (hafter.in_search (Nat.le_refl _))
    · rw [hsync] at hunsync
      cases hunsync
  · rw [if_pos hword]
    refine .failed ?_ (.bad (Nat.lt_succ_self _) ?_ rfl fun _ h => absurd h hword) (.inl rfl)
    · intro f r n h
      rw [← h.synced hsync] at hword
      exact hword h.sync_word
    · simp only [madBufferGuard] at hshort
      omega

/-- An unsynchronised stream does not rely on the remembered rate. -/
theorem FrameAt.of_unsynced {mem : Mem} {stream stream' : MadStream} {f r n : ℕ}
    (h : FrameAt mem stream f r n) (hbufend : stream.bufend = stream'.bufend)
    (hunsync : stream.sync = false) (hunsync' : stream'.sync = false) :
    FrameAt mem stream' f r n := by
  refine ⟨h.header_ok, ?_, h.length⟩
  cases h.rate with
  | table hne => exact .table hne
  | discovered h0 _ hrate => exact .discovered h0 (.inr (.inl hunsync')) (hbufend ▸ hrate)
  | remembered _ hno => exact absurd (.inr (.inl hunsync)) hno

/-- Going back to `sync:` after an unconfirmed frame at `q`. -/
structure Resumes (mem : Mem) (stream stream' : MadStream) (q : ℕ) : Prop where
  le : stream.nextFrame ≤ q
  first : ∀ p, stream.nextFrame ≤ p → p < q → isSync mem p = false
  passed : Passed mem stream q
  next : stream'.nextFrame = q + 1
  bufend_eq : stream'.bufend = stream.bufend
  unsynced : stream.sync = false
  unsynced' : stream'.sync = false

theorem Resumes.accepts_iff {mem : Mem} {stream stream' : MadStream} {q : ℕ}
    (h : Resumes mem stream stream' q) (f r n : ℕ) :
    Accepts mem stream' f r n ↔ Accepts mem stream f r n := by
  have hto : ∀ {f r n}, FrameAt mem stream' f r n → FrameAt mem stream f r n :=
    fun hframe => hframe.of_unsynced h.bufend_eq h.unsynced' h.unsynced
  have hfrom : ∀ {f r n}, FrameAt mem stream f r n → FrameAt mem stream' f r n :=
    fun hframe => hframe.of_unsynced h.bufend_eq.symm h.unsynced h.unsynced'
  have hnext := h.next
  constructor
  · intro ha
    have hle := ha.le
    have hfits := ha.fits
    rw [h.bufend_eq] at hfits
    refine ⟨by have := h.le; omega, fun hs => ?_, ha.sync_word, hto ha.frame, hfits,
      fun _ => ha.confirmed h.unsynced', ?_⟩
    · rw [h.unsynced] at hs
      cases hs
    · intro _ p hp hpf hword
      rcases Nat.lt_trichotomy p q with hlt | heq | hgt
      · rw [h.first p hp hlt] at hword
        cases hword
      · rw [heq]
        exact h.passed
      · obtain ⟨r', n', hframe, hfits', hno⟩ := ha.passed h.unsynced' p (by omega) hpf hword
        exact ⟨r', n', hto hframe, h.bufend_eq ▸ hfits', hno⟩
  · intro ha
    have hq : q < f := by
      rcases Nat.lt_trichotomy f q with hlt | heq | hgt
      · have hword := ha.sync_word
        rw [h.first f ha.le hlt] at hword
        cases hword
      · obtain ⟨r', n', hframe, -, hno⟩ := h.passed
        have hframe' : FrameAt mem stream q r n := heq ▸ ha.frame
        have hword := ha.confirmed h.unsynced
        rw [heq, (hframe'.unique hframe).2, hno] at hword
        cases hword
      · exact hgt
    refine ⟨by omega, fun hs => ?_, ha.sync_word, hfrom ha.frame, h.bufend_eq ▸ ha.fits,
      fun _ => ha.confirmed h.unsynced, ?_⟩
    · rw [h.unsynced'] at hs
      cases hs
    · intro _ p hp hpf hword
      have hqp := h.le
      obtain ⟨r', n', hframe, hfits', hno⟩ := ha.passed h.unsynced p (by omega) hpf hword
      exact ⟨r', n', hfrom hframe, h.bufend_eq ▸ hfits', hno⟩

theorem Resumes.failure {mem : Mem} {stream stream' : MadStream} {q nextFrame : ℕ}
    {error : MadError} (h : Resumes mem stream stream' q) (hq : q + madBufferGuard ≤ stream.bufend)
    (hfail : SearchFailure mem stream' nextFrame error) :
    SearchFailure mem stream nextFrame error := by
  have hle := h.le
  have hnext := h.next
  have hend := h.bufend_eq
  have hguard : madBufferGuard = 8 := rfl
  cases hfail with
  | short hsync =>
    rw [h.unsynced'] at hsync
    cases hsync
  | noSync _ hge hle' herr =>
    exact .noSync h.unsynced (by omega) (.inl (by rcases hle' with h | h <;> omega)) herr
  | bad hlt hroom hrec =>
    refine .bad (by omega) (by omega) hrec fun hs => ?_
    rw [h.unsynced] at hs
    cases hs
  | tooLong hge _ hroom hword hframe hlong herr =>
    refine .tooLong (by omega) (fun hs => ?_) (by omega) hword
      (hframe.of_unsynced h.bufend_eq h.unsynced' h.unsynced) (by omega) herr
    rw [h.unsynced] at hs
    cases hs

/-- What the rest of the search leaves behind is what the whole search does. -/
theorem Resumes.result {mem : Mem} {stream stream' : MadStream} {q : ℕ} {outcome : HeaderOutcome}
    (h : Resumes mem stream stream' q) (hroom : q + madBufferGuard ≤ stream.bufend)
    (hstream : ∃ ptr freerate, FreerateIn mem stream freerate ∧
      stream' = { stream with thisFrame := q, nextFrame := q + 1, ptr, freerate })
    (hresult : SearchResult mem stream' outcome) : SearchResult mem stream outcome := by
  obtain ⟨ptr, freerate, hrate, hstream⟩ := hstream
  have hle := h.le
  have hnext := h.next
  have hrateIn : ∀ {rate}, FreerateIn mem stream' rate → FreerateIn mem stream rate := by
    rintro rate (heq | ⟨f, found, hf, hdiscovered, heq⟩)
    · rw [heq, hstream]
      exact hrate
    · exact .inr ⟨f, found, by omega, h.bufend_eq ▸ hdiscovered, heq⟩
  cases hresult with
  | accepted haccepts hread hin =>
    have haccepts' := (h.accepts_iff _ _ _).mp haccepts
    have hread' : FrameRead mem stream _ _ _ _ _ :=
      ⟨haccepts'.frame, hread.header_eq, hread.ptr_at, hread.ptr_left⟩
    have hin' := hrateIn hin
    rw [hstream]
    exact .accepted haccepts' hread' hin'
  | failed hno hfail hin =>
    have hno' : ∀ f r n, ¬ Accepts mem stream f r n := fun f r n ha =>
      hno f r n ((h.accepts_iff f r n).mpr ha)
    have hfail' := h.failure hroom hfail
    have hin' := hrateIn hin
    rw [hstream]
    exact .failed hno' hfail' hin'

/-- `q` is where an unsynchronised pass finds a sync word. -/
structure FoundSync (mem : Mem) (stream : MadStream) (q : ℕ) : Prop where
  unsynced : stream.sync = false
  le : stream.nextFrame ≤ q
  room : q + madBufferGuard ≤ stream.bufend
  sync_word : isSync mem q = true
  first : ∀ p, stream.nextFrame ≤ p → p < q → isSync mem p = false

/-- An unsynchronised pass finds no sync word, or processes the frame at the first one. -/
theorem headerPass_unsynced (mem : Mem) (header : MadHeader) {stream : MadStream}
    (hunsync : stream.sync = false) :
    ((∀ p, stream.nextFrame ≤ p → p + madBufferGuard ≤ stream.bufend → isSync mem p = false) ∧
      headerPass mem header stream stream.nextFrame = .fail header { stream with
        ptr := madBitInit stream.nextFrame
        nextFrame :=
          if (stream.bufend : ℤ) - stream.nextFrame ≥ madBufferGuard then
            stream.bufend - madBufferGuard
          else stream.nextFrame
        error := .buflen }) ∨
    ∃ q, FoundSync mem stream q ∧
      headerPass mem header stream stream.nextFrame = processFrame mem header stream q := by
  have hsync : ¬ stream.sync = true := by rw [hunsync]; exact Bool.false_ne_true
  have hstart : madBitNextbyte (madBitInit stream.nextFrame) = stream.nextFrame :=
    madBitNextbyte_init _
  rw [headerPass, synchronize, if_neg hsync]
  cases hsearch : madStreamSync mem { stream with ptr := madBitInit stream.nextFrame } with
  | none =>
    left
    refine ⟨fun p hle hroom => madStreamSync_none hsearch (hstart.trans_le hle) hroom, ?_⟩
    simp only [hsearch]
  | some found =>
    right
    obtain ⟨q, hfound, hle, hroom, hword, hfirst⟩ := madStreamSync_some hsearch
    refine ⟨q, ⟨hunsync, hstart.symm.trans_le hle, hroom, hword,
      fun p hp => hfirst p (hstart.trans_le hp)⟩, ?_⟩
    simp only [hsearch, hfound, madBitNextbyte_init]
    rfl

/-- A frame is accepted where the sync word is, or it is passed over. -/
theorem FoundSync.accepts_cases {mem : Mem} {stream : MadStream} {q f r n : ℕ}
    (h : FoundSync mem stream q) (ha : Accepts mem stream f r n) :
    FrameAt mem stream q r n ∧ q + n + madBufferGuard ≤ stream.bufend ∨ Passed mem stream q := by
  rcases Nat.lt_trichotomy f q with hlt | heq | hgt
  · have hword := ha.sync_word
    rw [h.first f ha.le hlt] at hword
    cases hword
  · exact .inl (heq ▸ ⟨ha.frame, ha.fits⟩)
  · exact .inr (ha.passed h.unsynced q h.le hgt h.sync_word)

theorem headerLoop_unsynced (mem : Mem) (header : MadHeader) {stream : MadStream}
    (hunsync : stream.sync = false) {fuel : ℕ} (hfuel : stream.bufend < stream.nextFrame + fuel)
    (hpos : 0 < fuel) :
    SearchResult mem stream (headerLoop mem header stream stream.nextFrame fuel) := by
  induction fuel generalizing header stream with
  | zero => exact absurd hpos (Nat.lt_irrefl 0)
  | succ fuel ih =>
    have hsync : ¬ stream.sync = true := by rw [hunsync]; exact Bool.false_ne_true
    rcases headerPass_unsynced mem header hunsync with ⟨hnone, hpass⟩ | ⟨q, hfound, hpass⟩
    · have hno : ∀ f r n, ¬ Accepts mem stream f r n := by
        intro f r n ha
        have hfits := ha.fits
        have hword := ha.sync_word
        rw [hnone f ha.le (by omega)] at hword
        cases hword
      rw [headerLoop, hpass]
      refine .failed hno (.noSync hunsync ?_ ?_ rfl) (.inl rfl)
      · split_ifs <;> omega
      · split_ifs <;> omega
    · have hle := hfound.le
      have hroom := hfound.room
      have hguard : madBufferGuard = 8 := rfl
      have hresult := processFrame_cases mem header stream q
      rw [headerLoop, hpass]
      generalize processFrame mem header stream q = outcome at hresult
      cases hresult with
      | noFrame header' ptr error hrec hnone =>
        have hno : ∀ f r n, ¬ Accepts mem stream f r n := by
          intro f r n ha
          rcases hfound.accepts_cases ha with ⟨hframe, -⟩ | ⟨r', n', hframe, -⟩
          · exact hnone r n hframe
          · exact hnone r' n' hframe
        exact .failed hno (.bad (by omega) (by omega) hrec fun h => absurd h hsync) (.inl rfl)
      | tooLong hread hafter hlong =>
        have hno : ∀ f r n, ¬ Accepts mem stream f r n := by
          intro f r n ha
          rcases hfound.accepts_cases ha with ⟨hframe, hfits⟩ | ⟨r', n', hframe, hfits, -⟩
          · rw [(hframe.unique hread.frame).2] at hfits
            omega
          · rw [(hframe.unique hread.frame).2] at hfits
            omega
        have hfail : SearchFailure mem stream q .buflen :=
          .tooLong hle (fun h => absurd h hsync) hroom hfound.sync_word hread.frame hlong rfl
        exact .failed hno hfail (hafter.in_search hle)
      | accepted hread hafter hfits hconfirmed =>
        have haccepts : Accepts mem stream q _ _ :=
          ⟨hle, fun h => absurd h hsync, hfound.sync_word, hread.frame, hfits,
            fun _ => hconfirmed.resolve_left hsync, fun _ p hp hpq hword => by
              rw [hfound.first p hp hpq] at hword
              cases hword⟩
        exact .accepted haccepts hread (hafter.in_search hle)
      | @unconfirmed r n header' ptr freerate hread hafter hfits _ hnext =>
        -- the search goes on behind `q`
        obtain ⟨stream', hstream⟩ : ∃ stream' : MadStream, stream' =
          { stream with thisFrame := q, nextFrame := q + 1, ptr, freerate } := ⟨_, rfl⟩
        have hresumes : Resumes mem stream stream' q :=
          ⟨hle, hfound.first, ⟨r, n, hread.frame, hfits, hnext⟩, by rw [hstream],
            by rw [hstream], hunsync, by rw [hstream]; exact hunsync⟩
        have hnextEq := hresumes.next
        have hendEq := hresumes.bufend_eq
        have hrest := ih header' hresumes.unsynced' (by omega) (by omega)
        have hrate := hafter.in_search hle
        rw [← hstream]
        exact hresumes.result hroom ⟨ptr, freerate, hrate, hstream⟩ hrest

theorem headerLoop_cases (mem : Mem) (header : MadHeader) (stream : MadStream) {fuel : ℕ}
    (hfuel : stream.bufend < stream.nextFrame + fuel) (hpos : 0 < fuel) :
    SearchResult mem stream (headerLoop mem header stream stream.nextFrame fuel) := by
  by_cases hsync : stream.sync = true
  · obtain ⟨fuel, rfl⟩ := Nat.exists_eq_succ_of_ne_zero (Nat.pos_iff_ne_zero.mp hpos)
    have hpass := headerPass_synced mem header hsync
    rw [headerLoop]
    revert hpass
    generalize headerPass mem header stream stream.nextFrame = outcome
    rintro (⟨haccepts, hread, hin⟩ | ⟨hno, hfail, hin⟩)
    · exact .accepted haccepts hread hin
    · exact .failed hno hfail hin
  · exact headerLoop_unsynced mem header (Bool.eq_false_of_not_eq_true hsync) hfuel hpos

/-- **One call of `mad_header_decode`.**  It returns the accepted frame when there is one, and
otherwise fails in one of the ways of `SearchFailure` and loses synchronisation. -/
theorem madHeaderDecode_cases (mem : Mem) (header : MadHeader) {stream : MadStream}
    (hskip : stream.skiplen = 0) (hnext : stream.nextFrame ≠ 0) :
    (∃ f r n header' ptr freerate, Accepts mem stream f r n ∧
        FrameRead mem stream f r n header' ptr ∧ FreerateIn mem stream freerate ∧
        madHeaderDecode mem header stream = (true, markIncomplete header',
          { stream with thisFrame := f, nextFrame := f + n, ptr, freerate, sync := true })) ∨
      ((∀ f r n, ¬ Accepts mem stream f r n) ∧
        ∃ header' ptr thisFrame nextFrame freerate error,
          SearchFailure mem stream nextFrame error ∧ FreerateIn mem stream freerate ∧
          madHeaderDecode mem header stream = (false, header',
            { stream with thisFrame, nextFrame, ptr, freerate, error, sync := false })) := by
  have hloop := headerLoop_cases mem header stream
    (show stream.bufend < stream.nextFrame + (stream.bufend + 1 - stream.nextFrame + 1) by omega)
    (Nat.succ_pos _)
  simp only [madHeaderDecode, if_neg hnext, hskip, ne_eq, not_true_eq_false, false_and, if_false,
    Nat.add_zero]
  revert hloop
  generalize headerLoop mem header stream stream.nextFrame _ = outcome
  rintro (⟨haccepts, hread, hin⟩ | ⟨hno, hfail, hin⟩)
  · exact .inl ⟨_, _, _, _, _, _, haccepts, hread, hin, by simp only [hskip]⟩
  · rename_i header' ptr thisFrame nextFrame freerate error
    exact .inr ⟨hno, header', ptr, thisFrame, nextFrame, freerate, error, hfail, hin,
      by simp only [hskip]⟩

end Mp3Decoder
