import Mp3Decoder.Mad.HeaderFields

/-!
# Free-format rates

A free-format header has bit rate index 0.  `free_bitrate` looks for the next header of the same
layer and sample rate and computes the rate from its distance; the rate is remembered in
`stream->freerate`.  `RateAt` says which rate the header at an address gets.
-/

namespace Mp3Decoder

open BigEndianBits

/-- The first byte behind the header at `f` and its CRC word. -/
def headerEnd (mem : Mem) (f : ℕ) : ℕ := f + 4 + if protectionAt mem f then 2 else 0

/-- A header at `p` of the layer and sample rate of the one at `f`. -/
def SameFormatAt (mem : Mem) (f p : ℕ) : Prop :=
  isSync mem p ∧ headerError mem p = .none ∧ layerAt mem p = layerAt mem f ∧
    (headerAt mem p).samplerate = (headerAt mem f).samplerate

/-- The header at `f` has a next header of its format at `p`, and the ones before it are too close
for a rate of 8 kbit/s. -/
structure NextFormatAt (mem : Mem) (bufend f start p : ℕ) : Prop where
  start_le : start ≤ p
  guard : p + madBufferGuard ≤ bufend
  same : SameFormatAt mem f p
  rate_le : 8 ≤ rateFor (headerAt mem f) (p - f)
  first : ∀ q, start ≤ q → q < p → SameFormatAt mem f q → rateFor (headerAt mem f) (q - f) < 8

/-- `free_bitrate` finds `rate` kbit/s for the header at `f`. -/
def DiscoveredRate (mem : Mem) (bufend f rate : ℕ) : Prop :=
  ∃ p, NextFormatAt mem bufend f (headerEnd mem f) p ∧ rate = rateFor (headerAt mem f) (p - f) ∧
    ¬ (layerAt mem f = 3 ∧ rate > 640)

theorem NextFormatAt.unique {mem : Mem} {bufend f start p p' : ℕ}
    (h : NextFormatAt mem bufend f start p) (h' : NextFormatAt mem bufend f start p') : p = p' := by
  rcases Nat.lt_trichotomy p p' with hlt | heq | hgt
  · exact absurd (h'.first p h.start_le hlt h.same) (Nat.not_lt.mpr h.rate_le)
  · exact heq
  · exact absurd (h.first p' h'.start_le hgt h'.same) (Nat.not_lt.mpr h'.rate_le)

theorem DiscoveredRate.unique {mem : Mem} {bufend f rate rate' : ℕ}
    (h : DiscoveredRate mem bufend f rate) (h' : DiscoveredRate mem bufend f rate') :
    rate = rate' := by
  obtain ⟨p, hp, hrate, -⟩ := h
  obtain ⟨p', hp', hrate', -⟩ := h'
  rw [hrate, hrate', hp.unique hp']

theorem SameButCrc.rateFor {h h' : MadHeader} (hs : SameButCrc h h') (n : ℕ) :
    rateFor h n = Mp3Decoder.rateFor h' n := by
  rw [hs]
  rfl

/-- `sameFormat` on a stream that stands at a sync word. -/
theorem sameFormat_iff {mem : Mem} {header : MadHeader} {f p : ℕ} {stream : MadStream}
    (hs : SameButCrc header (headerAt mem f)) (hptr : AtBit mem stream.ptr (8 * p))
    (hsync : isSync mem p) : sameFormat mem header stream = true ↔ SameFormatAt mem f p := by
  have hlayer : header.layer = layerAt mem f := by
    rw [hs]
    rfl
  have hrate : header.samplerate = (headerAt mem f).samplerate := by rw [hs]
  obtain ⟨hbad, hgood⟩ := decodeHeader_eq hptr header
  rw [sameFormat, SameFormatAt]
  by_cases herr : headerError mem p = .none
  · obtain ⟨header', ptr', heq, hs', -⟩ := hgood herr
    have hlayer' : header'.layer = layerAt mem p := by
      rw [hs']
      rfl
    have hrate' : header'.samplerate = (headerAt mem p).samplerate := by rw [hs']
    simp [heq, hsync, herr, hlayer', hrate', hlayer, hrate]
  · obtain ⟨header', ptr', heq, -⟩ := hbad herr
    simp [heq, herr]

/-- A search may start past a sync word that does not end it. -/
theorem nextFormatAt_from {mem : Mem} {bufend f start p q : ℕ} (hle : start ≤ p)
    (hfirst : ∀ r, start ≤ r → r < p → isSync mem r = false)
    (hlow : SameFormatAt mem f p → rateFor (headerAt mem f) (p - f) < 8) :
    NextFormatAt mem bufend f (p + 1) q ↔ NextFormatAt mem bufend f start q := by
  have honly : ∀ r, start ≤ r → r < p + 1 → SameFormatAt mem f r →
      rateFor (headerAt mem f) (r - f) < 8 := by
    intro r hr hrp hsame
    by_cases heq : r = p
    · rw [heq] at hsame ⊢
      exact hlow hsame
    · have hno := hfirst r hr (by omega)
      rw [hsame.1] at hno
      cases hno
  constructor
  · intro h
    have hpq := h.start_le
    refine ⟨by omega, h.guard, h.same, h.rate_le, ?_⟩
    intro r hr hrq hsame
    by_cases hrp : r < p + 1
    · exact honly r hr hrp hsame
    · exact h.first r (by omega) hrq hsame
  · intro h
    have hpq : p + 1 ≤ q := by
      by_contra hlt
      exact absurd (honly q h.start_le (by omega) h.same) (Nat.not_lt.mpr h.rate_le)
    exact ⟨hpq, h.guard, h.same, h.rate_le, fun r hr hrq => h.first r (by omega) hrq⟩

/-- The search loop stops at the next header of the format, or finds none and no rate. -/
theorem freeBitrateLoop_cases {mem : Mem} {header : MadHeader} {f : ℕ}
    (hs : SameButCrc header (headerAt mem f)) {stream : MadStream} (hthis : stream.thisFrame = f)
    {start rate fuel : ℕ} (hstart : madBitNextbyte stream.ptr = start)
    (hfuel : stream.bufend < start + fuel) (hrate : rate < 8) :
    (∃ p, NextFormatAt mem stream.bufend f start p ∧
        freeBitrateLoop mem header stream rate fuel = rateFor (headerAt mem f) (p - f)) ∨
      (freeBitrateLoop mem header stream rate fuel < 8 ∧
        ∀ p, ¬ NextFormatAt mem stream.bufend f start p) := by
  induction fuel generalizing stream start rate with
  | zero =>
    right
    refine ⟨hrate, fun p hp => ?_⟩
    have hle := hp.start_le
    have hguard := hp.guard
    omega
  | succ fuel ih =>
    rw [freeBitrateLoop]
    cases hsearch : madStreamSync mem stream with
    | none =>
      right
      refine ⟨hrate, fun p hp => ?_⟩
      have hno := madStreamSync_none hsearch (hstart ▸ hp.start_le) hp.guard
      exact absurd hp.same.1 (by rw [hno]; exact Bool.false_ne_true)
    | some peek =>
      obtain ⟨p, hpeek, hle, hguard, hsync, hfirst⟩ := madStreamSync_some hsearch
      rw [hstart] at hle hfirst
      have hpeekPtr : AtBit mem peek.ptr (8 * p) := by
        rw [hpeek]
        exact atBit_init mem p
      have hpeekThis : peek.thisFrame = f := by
        rw [hpeek]
        exact hthis
      have hat : madBitNextbyte peek.ptr - peek.thisFrame = p - f := by
        rw [hpeekPtr.nextbyte, hpeekThis]
        omega
      have hiff := sameFormat_iff hs hpeekPtr hsync
      obtain ⟨next, hnext⟩ : ∃ next, next = { peek with ptr := madBitSkip mem peek.ptr 8 } := ⟨_, rfl⟩
      have hnextThis : next.thisFrame = f := by rw [hnext, hpeekThis]
      have hnextEnd : next.bufend = stream.bufend := by rw [hnext, hpeek]
      have hnextPtr : madBitNextbyte next.ptr = p + 1 := by
        have hptr : next.ptr = madBitSkip mem peek.ptr 8 := by rw [hnext]
        rw [hptr, (hpeekPtr.skip 8).nextbyte]
        omega
      simp only [← hnext]
      -- the rest of the search starts at `p + 1`
      have hrest : ∀ {rate' : ℕ}, rate' < 8 →
          (SameFormatAt mem f p → rateFor (headerAt mem f) (p - f) < 8) →
          (∃ q, NextFormatAt mem stream.bufend f start q ∧
            freeBitrateLoop mem header next rate' fuel = rateFor (headerAt mem f) (q - f)) ∨
          (freeBitrateLoop mem header next rate' fuel < 8 ∧
            ∀ q, ¬ NextFormatAt mem stream.bufend f start q) := by
        intro rate' hrate' hlow
        have hfuel' : next.bufend < p + 1 + fuel := by omega
        have hnextRest := ih hnextThis hnextPtr hfuel' hrate'
        simp only [hnextEnd, nextFormatAt_from hle hfirst hlow] at hnextRest
        exact hnextRest
      by_cases hsame : SameFormatAt mem f p
      · rw [if_pos (hiff.mpr hsame), hat, hs.rateFor]
        by_cases henough : rateFor (headerAt mem f) (p - f) ≥ 8
        · left
          rw [if_pos henough]
          refine ⟨p, ⟨hle, hguard, hsame, henough, ?_⟩, rfl⟩
          intro q hq hqp hqsame
          have hno := hfirst q hq hqp
          rw [hqsame.1] at hno
          cases hno
        · rw [if_neg henough]
          exact hrest (by omega) fun _ => by omega
      · rw [if_neg fun h => hsame (hiff.mp h)]
        exact hrest hrate fun h => absurd h hsame

/-- `free_bitrate` succeeds when a rate is discovered, and only then. -/
theorem freeBitrate_cases {mem : Mem} {header : MadHeader} {f : ℕ}
    (hs : SameButCrc header (headerAt mem f)) {stream : MadStream} (hthis : stream.thisFrame = f)
    (hstart : madBitNextbyte stream.ptr = headerEnd mem f) :
    (∃ rate, DiscoveredRate mem stream.bufend f rate ∧
        freeBitrate mem stream header = (true, { stream with freerate := rate * 1000 % 2 ^ 32 })) ∨
      ((∀ rate, ¬ DiscoveredRate mem stream.bufend f rate) ∧
        freeBitrate mem stream header = (false, { stream with error := .lostsync })) := by
  have hlayer : header.layer = layerAt mem f := by
    rw [hs]
    rfl
  have hfuel : stream.bufend < headerEnd mem f + (stream.bufend + 1) := by omega
  simp only [freeBitrate, hlayer]
  rcases freeBitrateLoop_cases hs hthis hstart hfuel (by decide : 0 < 8) with
    ⟨p, hp, hval⟩ | ⟨hval, hnone⟩
  · rw [hval]
    have hge := hp.rate_le
    by_cases hhigh : layerAt mem f = 3 ∧ rateFor (headerAt mem f) (p - f) > 640
    · right
      rw [if_pos (.inr hhigh)]
      refine ⟨?_, rfl⟩
      rintro rate ⟨p', hp', hrate, hlow⟩
      rw [hp.unique hp'] at hhigh
      exact hlow (hrate ▸ hhigh)
    · left
      rw [if_neg fun h => h.elim (by omega) hhigh]
      exact ⟨_, ⟨p, hp, rfl, hhigh⟩, rfl⟩
  · right
    rw [if_pos (.inl hval)]
    refine ⟨?_, rfl⟩
    rintro rate ⟨p, hp, -⟩
    exact hnone p hp

/-! ### The rate of a frame -/

/-- A free-format header at `f` has to be measured: no rate is remembered, or none to rely on. -/
def NeedsSearch (mem : Mem) (stream : MadStream) (f : ℕ) : Prop :=
  stream.freerate = 0 ∨ stream.sync = false ∨ layerAt mem f = 3 ∧ stream.freerate > 640000

/-- The bit rate of a frame at `f`: the table's, the one measured, or the one remembered. -/
inductive RateAt (mem : Mem) (stream : MadStream) (f : ℕ) : ℕ → Prop
  | table : (headerAt mem f).bitrate ≠ 0 → RateAt mem stream f (headerAt mem f).bitrate
  | discovered {rate : ℕ} : (headerAt mem f).bitrate = 0 → NeedsSearch mem stream f →
      DiscoveredRate mem stream.bufend f rate → RateAt mem stream f (rate * 1000 % 2 ^ 32)
  | remembered : (headerAt mem f).bitrate = 0 → ¬ NeedsSearch mem stream f →
      RateAt mem stream f stream.freerate

theorem RateAt.unique {mem : Mem} {stream : MadStream} {f r r' : ℕ} (h : RateAt mem stream f r)
    (h' : RateAt mem stream f r') : r = r' := by
  cases h with
  | table hne =>
    cases h' with
    | table => rfl
    | discovered h0 => exact absurd h0 hne
    | remembered h0 => exact absurd h0 hne
  | discovered h0 hneed hrate =>
    cases h' with
    | table hne => exact absurd h0 hne
    | discovered _ _ hrate' => rw [hrate.unique hrate']
    | remembered _ hno => exact absurd hneed hno
  | remembered h0 hno =>
    cases h' with
    | table hne => exact absurd h0 hne
    | discovered _ hneed => exact absurd hneed hno
    | remembered => rfl

/-- What `stream->freerate` can be after a header at `f`. -/
def FreerateAfter (mem : Mem) (stream : MadStream) (f freerate : ℕ) : Prop :=
  freerate = stream.freerate ∨
    ∃ rate, DiscoveredRate mem stream.bufend f rate ∧ freerate = rate * 1000 % 2 ^ 32

theorem setFreeRate_cases {mem : Mem} {header : MadHeader} {f : ℕ}
    (hs : SameButCrc header (headerAt mem f)) {stream : MadStream} (hthis : stream.thisFrame = f)
    (hstart : madBitNextbyte stream.ptr = headerEnd mem f) :
    (∃ r freerate, RateAt mem stream f r ∧ FreerateAfter mem stream f freerate ∧
        setFreeRate mem header stream = (true, { header with
          bitrate := r
          flags := { header.flags with freeformat := (headerAt mem f).bitrate = 0 } },
          { stream with freerate := freerate })) ∨
      ((∀ r, ¬ RateAt mem stream f r) ∧
        setFreeRate mem header stream = (false, header, { stream with error := .lostsync })) := by
  have hbitrate : header.bitrate = (headerAt mem f).bitrate := by rw [hs]
  have hlayer : header.layer = layerAt mem f := by
    rw [hs]
    rfl
  have hfree : header.flags.freeformat = false := by
    rw [hs]
    rfl
  have hneed : (stream.freerate = 0 ∨ (!stream.sync) = true ∨
      header.layer = 3 ∧ stream.freerate > 640000) ↔ NeedsSearch mem stream f := by
    rw [NeedsSearch, hlayer, Bool.not_eq_true']
  rw [setFreeRate]
  by_cases h0 : header.bitrate = 0
  · have h0' : (headerAt mem f).bitrate = 0 := hbitrate ▸ h0
    rw [if_pos h0]
    by_cases hsearch : NeedsSearch mem stream f
    · rw [if_pos (hneed.mpr hsearch)]
      rcases freeBitrate_cases hs hthis hstart with ⟨rate, hrate, heq⟩ | ⟨hnone, heq⟩
      · left
        refine ⟨_, _, .discovered h0' hsearch hrate, .inr ⟨rate, hrate, rfl⟩, ?_⟩
        simp [heq, h0']
      · right
        refine ⟨?_, by simp [heq]⟩
        intro r hr
        cases hr with
        | table hne => exact hne h0'
        | discovered _ _ hrate => exact hnone _ hrate
        | remembered _ hno => exact hno hsearch
    · left
      rw [if_neg fun h => hsearch (hneed.mp h)]
      refine ⟨_, _, .remembered h0' hsearch, .inl rfl, ?_⟩
      simp [h0']
  · left
    have h0' : (headerAt mem f).bitrate ≠ 0 := hbitrate ▸ h0
    have hflag : decide ((headerAt mem f).bitrate = 0) = header.flags.freeformat := by
      rw [hfree]
      exact decide_eq_false h0'
    rw [if_neg h0]
    refine ⟨_, _, .table h0', .inl rfl, ?_⟩
    rw [hflag, ← hbitrate]

end Mp3Decoder
