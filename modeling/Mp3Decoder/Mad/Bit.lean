import Mp3Decoder.Lib.BigEndianBits
import Mathlib.Data.Int.Notation
import Mathlib.Order.Bounds.Defs

/-!
# The bit pointer (`bit.c`)

`struct mad_bitptr` reads a byte stream most significant bit first: `left` bits of the byte at
`byte` are still unread, and that byte is in `cache` once some of its bits have been read.  Its
position is bit `8 * byte + 8 - left` (`AtBit`); every operation has one lemma that says where it
goes, and `madBitRead` another that says what it returns.

Addresses are natural numbers and memory is total: what lies outside the arrays of the program is
some byte.  The fields are `unsigned short`s, whose wrap `mad_bit_skip` relies on.
-/

namespace Mp3Decoder

open BigEndianBits

abbrev Mem := ℕ → UInt8

structure MadBitptr where
  byte : ℕ
  cache : ℕ
  left : ℕ
  deriving DecidableEq, Repr

def madBitInit (byte : ℕ) : MadBitptr := ⟨byte, 0, 8⟩

/-- `mad_bit_length`: the bits between two pointers. -/
def madBitLength (first last : MadBitptr) : ℤ :=
  first.left + 8 * ((last.byte : ℤ) - (first.byte + 1)) + (8 - last.left)

def madBitNextbyte (p : MadBitptr) : ℕ := if p.left = 8 then p.byte else p.byte + 1

def madBitSkip (mem : Mem) (p : MadBitptr) (len : ℕ) : MadBitptr :=
  let byte := p.byte + len / 8
  let left := (p.left + 2 ^ 16 - len % 8) % 2 ^ 16
  let q : MadBitptr :=
    if left > 8 then ⟨byte + 1, p.cache, (left + 8) % 2 ^ 16⟩ else ⟨byte, p.cache, left⟩
  if q.left < 8 then { q with cache := (mem q.byte).toNat } else q

/-- `while (len >= CHAR_BIT) value = (value << CHAR_BIT) | *byte++`, for `n` bytes. -/
def moreBytes (mem : Mem) (value byte : ℕ) : ℕ → ℕ
  | 0 => value
  | n + 1 => moreBytes mem (value <<< 8 ||| (mem byte).toNat) (byte + 1) n

def madBitRead (mem : Mem) (p : MadBitptr) (len : ℕ) : ℕ × MadBitptr :=
  let cache := if p.left = 8 then (mem p.byte).toNat else p.cache
  if len < p.left then
    ((cache &&& ((1 <<< p.left) - 1)) >>> (p.left - len), ⟨p.byte, cache, p.left - len⟩)
  else
    -- remaining bits in current byte, then more bytes
    let value := moreBytes mem (cache &&& ((1 <<< p.left) - 1)) (p.byte + 1) ((len - p.left) / 8)
    let byte := p.byte + 1 + (len - p.left) / 8
    let len := (len - p.left) % 8
    if len > 0 then
      let cache := (mem byte).toNat
      (value <<< len ||| cache >>> (8 - len), ⟨byte, cache, 8 - len⟩)
    else (value, ⟨byte, cache, 8⟩)

/-! ### Checksums -/

def crcTable : List UInt16 := [
  0x0000, 0x8005, 0x800f, 0x000a, 0x801b, 0x001e, 0x0014, 0x8011, 0x8033, 0x0036, 0x003c, 0x8039,
  0x0028, 0x802d, 0x8027, 0x0022, 0x8063, 0x0066, 0x006c, 0x8069, 0x0078, 0x807d, 0x8077, 0x0072,
  0x0050, 0x8055, 0x805f, 0x005a, 0x804b, 0x004e, 0x0044, 0x8041, 0x80c3, 0x00c6, 0x00cc, 0x80c9,
  0x00d8, 0x80dd, 0x80d7, 0x00d2, 0x00f0, 0x80f5, 0x80ff, 0x00fa, 0x80eb, 0x00ee, 0x00e4, 0x80e1,
  0x00a0, 0x80a5, 0x80af, 0x00aa, 0x80bb, 0x00be, 0x00b4, 0x80b1, 0x8093, 0x0096, 0x009c, 0x8099,
  0x0088, 0x808d, 0x8087, 0x0082, 0x8183, 0x0186, 0x018c, 0x8189, 0x0198, 0x819d, 0x8197, 0x0192,
  0x01b0, 0x81b5, 0x81bf, 0x01ba, 0x81ab, 0x01ae, 0x01a4, 0x81a1, 0x01e0, 0x81e5, 0x81ef, 0x01ea,
  0x81fb, 0x01fe, 0x01f4, 0x81f1, 0x81d3, 0x01d6, 0x01dc, 0x81d9, 0x01c8, 0x81cd, 0x81c7, 0x01c2,
  0x0140, 0x8145, 0x814f, 0x014a, 0x815b, 0x015e, 0x0154, 0x8151, 0x8173, 0x0176, 0x017c, 0x8179,
  0x0168, 0x816d, 0x8167, 0x0162, 0x8123, 0x0126, 0x012c, 0x8129, 0x0138, 0x813d, 0x8137, 0x0132,
  0x0110, 0x8115, 0x811f, 0x011a, 0x810b, 0x010e, 0x0104, 0x8101, 0x8303, 0x0306, 0x030c, 0x8309,
  0x0318, 0x831d, 0x8317, 0x0312, 0x0330, 0x8335, 0x833f, 0x033a, 0x832b, 0x032e, 0x0324, 0x8321,
  0x0360, 0x8365, 0x836f, 0x036a, 0x837b, 0x037e, 0x0374, 0x8371, 0x8353, 0x0356, 0x035c, 0x8359,
  0x0348, 0x834d, 0x8347, 0x0342, 0x03c0, 0x83c5, 0x83cf, 0x03ca, 0x83db, 0x03de, 0x03d4, 0x83d1,
  0x83f3, 0x03f6, 0x03fc, 0x83f9, 0x03e8, 0x83ed, 0x83e7, 0x03e2, 0x83a3, 0x03a6, 0x03ac, 0x83a9,
  0x03b8, 0x83bd, 0x83b7, 0x03b2, 0x0390, 0x8395, 0x839f, 0x039a, 0x838b, 0x038e, 0x0384, 0x8381,
  0x0280, 0x8285, 0x828f, 0x028a, 0x829b, 0x029e, 0x0294, 0x8291, 0x82b3, 0x02b6, 0x02bc, 0x82b9,
  0x02a8, 0x82ad, 0x82a7, 0x02a2, 0x82e3, 0x02e6, 0x02ec, 0x82e9, 0x02f8, 0x82fd, 0x82f7, 0x02f2,
  0x02d0, 0x82d5, 0x82df, 0x02da, 0x82cb, 0x02ce, 0x02c4, 0x82c1, 0x8243, 0x0246, 0x024c, 0x8249,
  0x0258, 0x825d, 0x8257, 0x0252, 0x0270, 0x8275, 0x827f, 0x027a, 0x826b, 0x026e, 0x0264, 0x8261,
  0x0220, 0x8225, 0x822f, 0x022a, 0x823b, 0x023e, 0x0234, 0x8231, 0x8213, 0x0216, 0x021c, 0x8219,
  0x0208, 0x820d, 0x8207, 0x0202]

/-- `unalShort(&crc_table[i])`, which extends the sign. -/
def crcEntry (i : UInt32) : UInt32 :=
  let entry := crcTable.getD (i &&& 0xff).toNat 0
  if entry &&& 0x8000 = 0 then entry.toUInt32 else entry.toUInt32 ||| 0xffff0000

/-- `(crc << 8) ^ unalShort(&crc_table[((crc >> 8) ^ data) & 0xff])` -/
def crcByte (crc data : UInt32) : UInt32 := (crc <<< 8) ^^^ crcEntry ((crc >>> 8) ^^^ data)

def crcBlocks (mem : Mem) (p : MadBitptr) (crc : UInt32) : ℕ → MadBitptr × UInt32
  | 0 => (p, crc)
  | n + 1 =>
    let r := madBitRead mem p 32
    let data := UInt32.ofNat r.1
    let crc := crcByte crc (data >>> 24)
    let crc := crcByte crc (data >>> 16)
    let crc := crcByte crc (data >>> 8)
    crcBlocks mem r.2 (crcByte crc data) n

def crcBytes (mem : Mem) (p : MadBitptr) (crc : UInt32) : ℕ → MadBitptr × UInt32
  | 0 => (p, crc)
  | n + 1 =>
    let r := madBitRead mem p 8
    crcBytes mem r.2 (crcByte crc (UInt32.ofNat r.1)) n

def crcBits (mem : Mem) (p : MadBitptr) (crc : UInt32) : ℕ → MadBitptr × UInt32
  | 0 => (p, crc)
  | n + 1 =>
    let r := madBitRead mem p 1
    let msb := UInt32.ofNat r.1 ^^^ (crc >>> 15)
    let crc := crc <<< 1
    crcBits mem r.2 (if msb &&& 1 = 0 then crc else crc ^^^ 0x8005) n

/-- `mad_bit_crc`, on its own copy of the bit pointer. -/
def madBitCrc (mem : Mem) (p : MadBitptr) (len : ℕ) (init : UInt16) : UInt16 :=
  let r := crcBlocks mem p init.toUInt32 (len / 32)
  let r := crcBytes mem r.1 r.2 (len % 32 / 8)
  let r := crcBits mem r.1 r.2 (len % 8)
  r.2.toUInt16

/-! ### The cursor -/

/-- The pointer stands at bit `pos`. -/
structure AtBit (mem : Mem) (p : MadBitptr) (pos : ℕ) : Prop where
  left_le : p.left ≤ 8
  pos_eq : 8 * p.byte + 8 = pos + p.left
  cache_eq : 0 < p.left → p.left < 8 → p.cache = (mem p.byte).toNat

theorem atBit_init (mem : Mem) (byte : ℕ) : AtBit mem (madBitInit byte) (8 * byte) :=
  ⟨Nat.le_refl 8, rfl, fun _ h => absurd h (Nat.lt_irrefl 8)⟩

@[simp] theorem madBitNextbyte_init (byte : ℕ) : madBitNextbyte (madBitInit byte) = byte := rfl

/-- The first byte not yet begun. -/
theorem AtBit.nextbyte {mem : Mem} {p : MadBitptr} {pos : ℕ} (h : AtBit mem p pos) :
    madBitNextbyte p = (pos + 7) / 8 := by
  have hleft := h.left_le
  have hpos := h.pos_eq
  rw [madBitNextbyte]
  by_cases h8 : p.left = 8
  · rw [if_pos h8]
    omega
  · rw [if_neg h8]
    omega

theorem AtBit.length {mem : Mem} {p q : MadBitptr} {pos n : ℕ} (hp : AtBit mem p pos)
    (hq : AtBit mem q (pos + n)) : madBitLength p q = n := by
  have hp' := hp.pos_eq
  have hq' := hq.pos_eq
  rw [madBitLength]
  omega

theorem AtBit.skip {mem : Mem} {p : MadBitptr} {pos : ℕ} (h : AtBit mem p pos) (len : ℕ) :
    AtBit mem (madBitSkip mem p len) (pos + len) := by
  have hleft := h.left_le
  have hpos := h.pos_eq
  simp only [madBitSkip]
  by_cases hr : len % 8 ≤ p.left
  · have hwrap : (p.left + 2 ^ 16 - len % 8) % 2 ^ 16 = p.left - len % 8 := by omega
    have hin : ¬ p.left - len % 8 > 8 := by omega
    rw [hwrap, if_neg hin]
    by_cases h8 : p.left - len % 8 < 8
    · rw [if_pos h8]
      exact ⟨by simp only; omega, by simp only; omega, fun _ _ => rfl⟩
    · rw [if_neg h8]
      exact ⟨by simp only; omega, by simp only; omega, fun _ hlt => absurd hlt h8⟩
  · have hwrap : (p.left + 2 ^ 16 - len % 8) % 2 ^ 16 = p.left + 2 ^ 16 - len % 8 := by omega
    have hback : (p.left + 2 ^ 16 - len % 8 + 8) % 2 ^ 16 = p.left + 8 - len % 8 := by omega
    have hout : p.left + 2 ^ 16 - len % 8 > 8 := by omega
    rw [hwrap, if_pos hout, hback, if_pos (by simp only; omega)]
    exact ⟨by simp only; omega, by simp only; omega, fun _ _ => rfl⟩

theorem le_madBitSkip_byte (mem : Mem) (p : MadBitptr) (len : ℕ) :
    p.byte ≤ (madBitSkip mem p len).byte := by
  simp only [madBitSkip]
  split_ifs <;> simp only <;> omega

/-- Where a read goes, and that it leaves the cursor in a byte or before one. -/
theorem AtBit.read {mem : Mem} {p : MadBitptr} {pos : ℕ} (h : AtBit mem p pos) (len : ℕ) :
    AtBit mem (madBitRead mem p len).2 (pos + len) ∧ 0 < (madBitRead mem p len).2.left := by
  have hleft := h.left_le
  have hpos := h.pos_eq
  have hcache : 0 < p.left →
      (if p.left = 8 then (mem p.byte).toNat else p.cache) = (mem p.byte).toNat := by
    intro h0
    by_cases h8 : p.left = 8
    · rw [if_pos h8]
    · rw [if_neg h8]
      exact h.cache_eq h0 (by omega)
  simp only [madBitRead]
  by_cases hlen : len < p.left
  · rw [if_pos hlen]
    exact ⟨⟨by simp only; omega, by simp only; omega, fun _ _ => hcache (by omega)⟩,
      by simp only; omega⟩
  · rw [if_neg hlen]
    by_cases hrest : (len - p.left) % 8 > 0
    · rw [if_pos hrest]
      exact ⟨⟨by simp only; omega, by simp only; omega, fun _ _ => rfl⟩, by simp only; omega⟩
    · rw [if_neg hrest]
      exact ⟨⟨Nat.le_refl 8, by simp only; omega, fun _ h8 => absurd h8 (Nat.lt_irrefl 8)⟩,
        Nat.succ_pos 7⟩

/-- The unread bits of the cached byte. -/
theorem AtBit.cached {mem : Mem} {p : MadBitptr} {pos n : ℕ} (h : AtBit mem p pos)
    (hn : n ≤ p.left) :
    ((if p.left = 8 then (mem p.byte).toNat else p.cache) &&& ((1 <<< p.left) - 1)) >>>
      (p.left - n) = bitsVal mem pos n := by
  have hleft := h.left_le
  have hpos : pos = 8 * p.byte + (8 - p.left) := by
    have := h.pos_eq
    omega
  rcases Nat.eq_zero_or_pos p.left with h0 | h0
  · have hn0 : n = 0 := by omega
    rw [hn0, h0, bitsVal_zero]
    exact Nat.and_zero _
  have hcache : (if p.left = 8 then (mem p.byte).toNat else p.cache) = (mem p.byte).toNat := by
    by_cases h8 : p.left = 8
    · rw [if_pos h8]
    · rw [if_neg h8]
      exact h.cache_eq h0 (by omega)
  have hpow : 2 ^ p.left = 2 ^ (p.left - n) * 2 ^ n := by
    rw [← Nat.pow_add]
    congr 1
    omega
  rw [hcache, Nat.one_shiftLeft, Nat.and_two_pow_sub_one_eq_mod, Nat.shiftRight_eq_div_pow, hpow,
    Nat.mod_mul_right_div_self, hpos, bitsVal_byte mem _ _ _ (by omega)]
  congr 3
  omega

theorem moreBytes_bitsVal (mem : Mem) {pos m byte : ℕ} (hbyte : pos + m = 8 * byte) (n : ℕ) :
    moreBytes mem (bitsVal mem pos m) byte n = bitsVal mem pos (m + 8 * n) := by
  induction n generalizing m byte with
  | zero => rfl
  | succ n ih =>
    have hlt : (mem byte).toNat < 2 ^ 8 := (mem byte).toNat_lt
    have hnext : bitsVal mem pos m <<< 8 ||| (mem byte).toNat = bitsVal mem pos (m + 8) := by
      rw [← Nat.shiftLeft_add_eq_or_of_lt hlt, Nat.shiftLeft_eq, bitsVal_add, hbyte,
        ← Nat.add_zero (8 * byte), bitsVal_byte mem byte 0 8 (Nat.le_refl 8)]
      rw [Nat.mod_eq_of_lt (by simpa using hlt), Nat.sub_zero, Nat.sub_self, Nat.pow_zero,
        Nat.div_one]
    rw [moreBytes, hnext, ih (by omega)]
    congr 1
    omega

/-- What a read returns. -/
theorem AtBit.read_value {mem : Mem} {p : MadBitptr} {pos : ℕ} (h : AtBit mem p pos) (len : ℕ) :
    (madBitRead mem p len).1 = bitsVal mem pos len := by
  simp only [madBitRead]
  by_cases hlen : len < p.left
  · rw [if_pos hlen]
    exact h.cached (Nat.le_of_lt hlen)
  have hfirst := h.cached (Nat.le_refl p.left)
  rw [Nat.sub_self, Nat.shiftRight_zero] at hfirst
  have hbyte : pos + p.left = 8 * (p.byte + 1) := by
    have := h.pos_eq
    omega
  rw [if_neg hlen, hfirst, moreBytes_bitsVal mem hbyte]
  by_cases hrest : (len - p.left) % 8 > 0
  · -- the top bits of one more byte
    rw [if_pos hrest]
    simp only
    have hend : pos + (p.left + 8 * ((len - p.left) / 8)) =
        8 * (p.byte + 1 + (len - p.left) / 8) + 0 := by omega
    have htop := bitsVal_byte mem (p.byte + 1 + (len - p.left) / 8) 0 ((len - p.left) % 8)
      (by omega)
    have hlt : (mem (p.byte + 1 + (len - p.left) / 8)).toNat / 2 ^ (8 - (len - p.left) % 8) <
        2 ^ ((len - p.left) % 8) := by
      rw [Nat.div_lt_iff_lt_mul (Nat.two_pow_pos _), ← Nat.pow_add,
        show (len - p.left) % 8 + (8 - (len - p.left) % 8) = 8 by omega]
      exact UInt8.toNat_lt _
    rw [Nat.sub_zero, Nat.mod_eq_of_lt hlt] at htop
    rw [Nat.shiftRight_eq_div_pow, ← Nat.shiftLeft_add_eq_or_of_lt hlt, Nat.shiftLeft_eq, ← htop,
      ← hend, ← bitsVal_add]
    congr 1
    omega
  · rw [if_neg hrest, show p.left + 8 * ((len - p.left) / 8) = len by omega]

/-! ### What the parsers rest on -/

/-- The pointers that `mad_bit_init`, reads of a field and skips lead to. -/
inductive MadBitptr.Reached (mem : Mem) : MadBitptr → Prop
  | init (byte : ℕ) : Reached mem (madBitInit byte)
  | read {p : MadBitptr} (len : ℕ) : Reached mem p → len ≤ 32 → Reached mem (madBitRead mem p len).2
  | skip {p : MadBitptr} (len : ℕ) : Reached mem p → Reached mem (madBitSkip mem p len)

/-- The bit at which a pointer stands. -/
def MadBitptr.pos (p : MadBitptr) : ℕ := 8 * p.byte + 8 - p.left

theorem AtBit.pos {mem : Mem} {p : MadBitptr} {pos : ℕ} (h : AtBit mem p pos) : p.pos = pos := by
  have hpos := h.pos_eq
  rw [MadBitptr.pos]
  omega

theorem MadBitptr.Reached.atBit {mem : Mem} {p : MadBitptr} (h : p.Reached mem) :
    AtBit mem p p.pos := by
  induction h with
  | init byte => exact atBit_init mem byte
  | read len _ _ ih =>
    have hread := (ih.read len).1
    rwa [hread.pos]
  | skip len _ ih =>
    have hskip := ih.skip len
    rwa [hskip.pos]

/-- A pointer that has begun its byte, or stands before one, is known by its position. -/
theorem AtBit.same {mem : Mem} {p q : MadBitptr} {pos : ℕ} (hp : AtBit mem p pos)
    (hq : AtBit mem q pos) (hp0 : 0 < p.left) (hq0 : 0 < q.left) :
    p.byte = q.byte ∧ p.left = q.left := by
  have hp8 := hp.left_le
  have hq8 := hq.left_le
  have hpos := hp.pos_eq
  have hqos := hq.pos_eq
  omega

/-- A field in two parts: read one after the other, read at once, or the first part skipped. -/
theorem AtBit.read_add {mem : Mem} {p : MadBitptr} {pos : ℕ} (h : AtBit mem p pos) (a b : ℕ) :
    let first := madBitRead mem p a
    let second := madBitRead mem first.2 b
    let whole := madBitRead mem p (a + b)
    let behind := madBitRead mem (madBitSkip mem p a) b
    whole.1 = first.1 * 2 ^ b + second.1 ∧ behind.1 = second.1 ∧
      (second.2.byte = whole.2.byte ∧ second.2.left = whole.2.left) ∧
      (behind.2.byte = whole.2.byte ∧ behind.2.left = whole.2.left) := by
  intro first second whole behind
  have hfirst := h.read a
  have hskip := h.skip a
  have hsecond := hfirst.1.read b
  have hbehind := hskip.read b
  have hwhole := h.read (a + b)
  rw [← Nat.add_assoc] at hwhole
  refine ⟨?_, ?_, hsecond.1.same hwhole.1 hsecond.2 hwhole.2,
    hbehind.1.same hwhole.1 hbehind.2 hwhole.2⟩
  · rw [h.read_value, h.read_value, hfirst.1.read_value, bitsVal_add]
  · rw [hskip.read_value, hfirst.1.read_value]

theorem madBitptr_cursor {mem : Mem} {p : MadBitptr} (h : p.Reached mem) :
    (∀ len ≤ 32, (madBitRead mem p len).1 = bitsVal mem p.pos len ∧
      (madBitRead mem p len).2.pos = p.pos + len) ∧
    (∀ len, (madBitSkip mem p len).pos = p.pos + len) ∧
    (∀ q : MadBitptr, q.Reached mem → madBitLength p q = (q.pos : ℤ) - p.pos) ∧
    IsLeast {byte | p.pos ≤ 8 * byte} (madBitNextbyte p) ∧
    (0 < p.left → p.left < 8 → p.cache = (mem p.byte).toNat) ∧
    ∀ a b, a + b ≤ 32 →
      let first := madBitRead mem p a
      let second := madBitRead mem first.2 b
      let whole := madBitRead mem p (a + b)
      let behind := madBitRead mem (madBitSkip mem p a) b
      whole.1 = first.1 * 2 ^ b + second.1 ∧ behind.1 = second.1 ∧
        (second.2.byte = whole.2.byte ∧ second.2.left = whole.2.left) ∧
        (behind.2.byte = whole.2.byte ∧ behind.2.left = whole.2.left) := by
  have hp := h.atBit
  refine ⟨fun len _ => ⟨hp.read_value len, (hp.read len).1.pos⟩,
    fun len => (hp.skip len).pos, ?_, ?_, hp.cache_eq, fun a b _ => hp.read_add a b⟩
  · intro q hq
    have hp' := hp.pos_eq
    have hq' := hq.atBit.pos_eq
    rw [madBitLength]
    omega
  · rw [hp.nextbyte]
    constructor
    · rw [Set.mem_ofPred_eq]
      omega
    · intro byte hbyte
      rw [Set.mem_ofPred_eq] at hbyte
      omega

/-- Three bits read and the rest of the byte skipped: no bit of the byte is left. -/
theorem madBitptr_cursor_left_zero :
    let mem : Mem := fun byte => UInt8.ofNat (37 * byte)
    let p := madBitSkip mem (madBitRead mem (madBitInit 3) 3).2 5
    p.left = 0 ∧ (madBitRead mem p 12).1 = bitsVal mem 32 12 ∧
      IsLeast {byte | 32 ≤ 8 * byte} (madBitNextbyte p) := by
  intro mem p
  have hp : p.Reached mem := .skip 5 (.read 3 (.init 3) (by decide))
  obtain ⟨hread, -, -, hnext, -⟩ := madBitptr_cursor hp
  have hpos : p.pos = 32 := (((atBit_init mem 3).read 3).1.skip 5).pos
  rw [hpos] at hread hnext
  exact ⟨by decide, (hread 12 (by decide)).1, hnext⟩

-- from here on the cursor lemmas are all there is to know about the three operations
attribute [irreducible] madBitRead madBitSkip madBitNextbyte

end Mp3Decoder
