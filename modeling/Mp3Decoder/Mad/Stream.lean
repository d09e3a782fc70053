import Mp3Decoder.Mad.Bit

/-!
# Streams (`stream.c`)

Pointers into the input buffer are addresses, with the null pointer at 0.  `mainData` is the
static array behind `stream->main_data`; its indices are addresses of their own.
-/

namespace Mp3Decoder

def madBufferGuard : ℕ := 8

def madBufferMdlen : ℕ := 511 + 2048 + madBufferGuard

inductive MadError
  | none | buflen | bufptr | nomem
  | lostsync | badlayer | badbitrate | badsamplerate | bademphasis
  | badcrc | badbitalloc | badscalefactor | badmode | badframelen | badbigvalues | badblocktype
  | badscfsi | baddataptr | badpart3len | badhufftable | badhuffdata | badstereo
  deriving DecidableEq, Repr

def MadError.code : MadError → ℕ
  | .none => 0x0000
  | .buflen => 0x0001
  | .bufptr => 0x0002
  | .nomem => 0x0031
  | .lostsync => 0x0101
  | .badlayer => 0x0102
  | .badbitrate => 0x0103
  | .badsamplerate => 0x0104
  | .bademphasis => 0x0105
  | .badcrc => 0x0201
  | .badbitalloc => 0x0211
  | .badscalefactor => 0x0221
  | .badmode => 0x0222
  | .badframelen => 0x0231
  | .badbigvalues => 0x0232
  | .badblocktype => 0x0233
  | .badscfsi => 0x0234
  | .baddataptr => 0x0235
  | .badpart3len => 0x0236
  | .badhufftable => 0x0237
  | .badhuffdata => 0x0238
  | .badstereo => 0x0239

/-- `MAD_RECOVERABLE(error)` -/
def madRecoverable (error : MadError) : Bool := error.code &&& 0xff00 ≠ 0

structure MadStream where
  buffer : ℕ
  bufend : ℕ
  skiplen : ℕ
  sync : Bool
  freerate : ℕ
  thisFrame : ℕ
  nextFrame : ℕ
  ptr : MadBitptr
  ancPtr : MadBitptr
  ancBitlen : UInt32
  mainData : Mem
  mdLen : ℕ
  options : ℕ
  error : MadError

/-- `mad_stream_init`, over a static array that holds `mainData`. -/
def madStreamInit (mainData : Mem) : MadStream where
  buffer := 0
  bufend := 0
  skiplen := 0
  sync := false
  freerate := 0
  thisFrame := 0
  nextFrame := 0
  ptr := madBitInit 0
  ancPtr := madBitInit 0
  ancBitlen := 0
  mainData := mainData
  mdLen := 0
  options := 0
  error := .none

def madStreamBuffer (stream : MadStream) (buffer length : ℕ) : MadStream :=
  { stream with
    buffer := buffer
    bufend := buffer + length
    thisFrame := buffer
    nextFrame := buffer
    sync := true
    ptr := madBitInit buffer }

/-- `ptr[0] == 0xff && (ptr[1] & 0xe0) == 0xe0` -/
def isSync (mem : Mem) (ptr : ℕ) : Bool := mem ptr = 0xff ∧ mem (ptr + 1) &&& 0xe0 = 0xe0

/-- `while (ptr < end - 1 && !sync word) ++ptr;`, with at most `n` bytes to go. -/
def syncScan (mem : Mem) (last : ℕ) (ptr : ℕ) : ℕ → ℕ
  | 0 => ptr
  | n + 1 => if ptr + 1 < last ∧ ¬ isSync mem ptr then syncScan mem last (ptr + 1) n else ptr

/-- `mad_stream_sync`: the stream at the next sync word, or `none` for a result of -1. -/
def madStreamSync (mem : Mem) (stream : MadStream) : Option MadStream :=
  let start := madBitNextbyte stream.ptr
  let ptr := syncScan mem stream.bufend start (stream.bufend - start)
  if (stream.bufend : ℤ) - ptr < madBufferGuard then none
  else some { stream with ptr := madBitInit ptr }

/-! ### What the scan finds -/

theorem le_syncScan (mem : Mem) (last ptr n : ℕ) : ptr ≤ syncScan mem last ptr n := by
  induction n generalizing ptr with
  | zero => exact Nat.le_refl _
  | succ n ih =>
    rw [syncScan]
    by_cases h : ptr + 1 < last ∧ ¬ isSync mem ptr
    · rw [if_pos h]
      exact Nat.le_trans (Nat.le_succ ptr) (ih (ptr + 1))
    · rw [if_neg h]

theorem not_isSync_of_lt_syncScan {mem : Mem} {last ptr n p : ℕ} (hle : ptr ≤ p)
    (hlt : p < syncScan mem last ptr n) : isSync mem p = false := by
  induction n generalizing ptr with
  | zero => exact absurd hlt (Nat.not_lt.mpr hle)
  | succ n ih =>
    rw [syncScan] at hlt
    by_cases h : ptr + 1 < last ∧ ¬ isSync mem ptr
    · rw [if_pos h] at hlt
      rcases Nat.eq_or_lt_of_le hle with heq | hgt
      · rw [← heq]
        exact Bool.eq_false_of_not_eq_true h.2
      · exact ih hgt hlt
    · rw [if_neg h] at hlt
      exact absurd hlt (Nat.not_lt.mpr hle)

theorem syncScan_stop {mem : Mem} {last ptr n : ℕ} (hn : last ≤ ptr + n) :
    last ≤ syncScan mem last ptr n + 1 ∨ isSync mem (syncScan mem last ptr n) := by
  induction n generalizing ptr with
  | zero =>
    left
    show last ≤ ptr + 1
    omega
  | succ n ih =>
    rw [syncScan]
    by_cases h : ptr + 1 < last ∧ ¬ isSync mem ptr
    · rw [if_pos h]
      exact ih (by omega)
    · rw [if_neg h]
      by_cases hend : ptr + 1 < last
      · right
        by_contra hsync
        exact h ⟨hend, hsync⟩
      · left
        omega

/-- `mad_stream_sync` stops at the first sync word that has `MAD_BUFFER_GUARD` bytes after it. -/
theorem madStreamSync_some {mem : Mem} {stream stream' : MadStream}
    (h : madStreamSync mem stream = some stream') :
    ∃ ptr, stream' = { stream with ptr := madBitInit ptr } ∧ madBitNextbyte stream.ptr ≤ ptr ∧
      ptr + madBufferGuard ≤ stream.bufend ∧ isSync mem ptr ∧
      ∀ p, madBitNextbyte stream.ptr ≤ p → p < ptr → isSync mem p = false := by
  simp only [madStreamSync] at h
  split at h
  · cases h
  · rename_i hguard
    cases h
    have hroom : syncScan mem stream.bufend (madBitNextbyte stream.ptr)
        (stream.bufend - madBitNextbyte stream.ptr) + madBufferGuard ≤ stream.bufend := by
      simp only [madBufferGuard] at hguard ⊢
      omega
    refine ⟨_, rfl, le_syncScan _ _ _ _, hroom, ?_, fun p => not_isSync_of_lt_syncScan⟩
    have henough : stream.bufend ≤
      madBitNextbyte stream.ptr + (stream.bufend - madBitNextbyte stream.ptr) := by omega
    refine (syncScan_stop henough).resolve_left fun hend => ?_
    simp only [madBufferGuard] at hroom
    omega

/-- When `mad_stream_sync` fails, no sync word has `MAD_BUFFER_GUARD` bytes after it. -/
theorem madStreamSync_none {mem : Mem} {stream : MadStream} (h : madStreamSync mem stream = none)
    {p : ℕ} (hle : madBitNextbyte stream.ptr ≤ p) (hp : p + madBufferGuard ≤ stream.bufend) :
    isSync mem p = false := by
  simp only [madStreamSync] at h
  split at h
  · rename_i hguard
    have hlt : p < syncScan mem stream.bufend (madBitNextbyte stream.ptr)
        (stream.bufend - madBitNextbyte stream.ptr) := by omega
    exact not_isSync_of_lt_syncScan hle hlt
  · cases h

end Mp3Decoder
