import Mp3Decoder.Lib.LittleEndianWords
import Mp3Decoder.Lib.Segment
import Mp3Decoder.Mad.Bit

/-!
# The SPI RAM driver

`spiRamWrite` fills the W registers of the SPI peripheral word by word and starts a transaction that
sends `len` of their bytes to the chip.  `spiRamRead` starts one that receives `len` bytes into them
and copies the words out, with guards that are one too weak: of a last word with one, two or three
bytes it stores one byte more.
-/

namespace Mp3Decoder

open Segment LittleEndianWords

/-- The peripheral's W registers, the chip (`SPIRAMSIZE` bytes) and the memory of the processor. -/
structure SpiRam where
  words : ℕ → BitVec 32
  chip : BitVec 17 → UInt8
  mem : Mem

/-- What a transaction takes from `SPI_USER1`, `SPI_USER2` and `SPI_ADDR`. -/
structure SpiUser where
  command : ℕ
  addr : BitVec 32
  /-- the length of the data phase in bits, less one -/
  bitlen : ℕ

/-- The address phase sends the upper 24 bits, of which the chip looks at the lower 17. -/
def SpiUser.chipAddr (user : SpiUser) : BitVec 17 := (user.addr >>> 8).setWidth 17

def SpiUser.bytes (user : SpiUser) : ℕ := (user.bitlen + 1) / 8

/-- A transaction.  `rest` is what the peripheral leaves in the W registers behind the bytes that it
receives. -/
def SpiRam.usr (s : SpiRam) (user : SpiUser) (rest : ℕ → UInt8) : SpiRam :=
  if user.command = 0x02 then
    { s with chip := fun a =>
        if (a - user.chipAddr).toNat < user.bytes then bankByte s.words (a - user.chipAddr).toNat
        else s.chip a }
  else if user.command = 0x03 then
    { s with words := bankOf fun k =>
        if k < user.bytes then s.chip (user.chipAddr + BitVec.ofNat 17 k) else rest k }
  else s

/-- The stores of a round in `spiRamRead`, with `len` bytes to go. -/
def SpiRam.storeWord (mem : Mem) (p : ℕ) (d : BitVec 32) (len : ℕ) : Mem :=
  let mem := Function.update mem (p + 0) (byteOf d 0)
  let mem := if 1 ≤ len then Function.update mem (p + 1) (byteOf d 1) else mem
  let mem := if 2 ≤ len then Function.update mem (p + 2) (byteOf d 2) else mem
  if 3 ≤ len then Function.update mem (p + 3) (byteOf d 3) else mem

/-- The loop of `spiRamRead`, from word `i` on. -/
def SpiRam.copyOut (words : ℕ → BitVec 32) (buff len i : ℕ) (mem : Mem) : Mem :=
  if 0 < len then
    copyOut words buff (len - 4) (i + 1) (storeWord mem (buff + i * 4) (words i) len)
  else mem
termination_by len

/-- The loop of `spiRamWrite`, over the first `n` words. -/
def SpiRam.copyIn (mem : Mem) (buff : ℕ) (words : ℕ → BitVec 32) : ℕ → ℕ → BitVec 32
  | 0 => words
  | i + 1 => Function.update (copyIn mem buff words i) i
      (wordOf (mem (buff + i * 4 + 0)) (mem (buff + i * 4 + 1)) (mem (buff + i * 4 + 2))
        (mem (buff + i * 4 + 3)))

def SpiRam.spiRamRead (s : SpiRam) (addr : BitVec 32) (buff len : ℕ) (rest : ℕ → UInt8) : SpiRam :=
  let s := s.usr { command := 0x03, addr := addr <<< 8, bitlen := (8 * len - 1) &&& 0x1ff } rest
  { s with mem := copyOut s.words buff len 0 s.mem }

def SpiRam.spiRamWrite (s : SpiRam) (addr : BitVec 32) (buff len : ℕ) : SpiRam :=
  let s := { s with words := copyIn s.mem buff s.words ((len + 3) / 4) }
  s.usr { command := 0x02, addr := addr <<< 8, bitlen := (8 * len - 1) &&& 0x1ff } (bankByte s.words)

/-- The `k`-th byte of the chip from `addr` on. -/
def chipAt (addr : BitVec 32) (k : ℕ) : BitVec 17 := addr.setWidth 17 + BitVec.ofNat 17 k

/-! ### The two loops -/

/-- The bytes that `spiRamRead` stores. -/
def storedBytes (len : ℕ) : ℕ := if len % 4 = 0 then len else len + 1

theorem storeWord_eq (words : ℕ → BitVec 32) (mem : Mem) (p i : ℕ) {len : ℕ} (hlen : 0 < len) :
    SpiRam.storeWord mem p (words i) len =
      memcpy mem p (bankByte words) (4 * i) (min 4 (len + 1)) := by
  funext a
  have hbyte : ∀ k < 4, a = p + k → byteOf (words i) k = bankByte words (4 * i + (a - p)) := by
    intro k hk ha
    rw [bankByte, ha, Nat.add_sub_cancel_left, Nat.mul_add_mod, Nat.mod_eq_of_lt hk,
      show (4 * i + k) / 4 = i by omega]
  simp only [SpiRam.storeWord, memcpy, if_pos (show 1 ≤ len from hlen), ite_apply,
    Function.update_apply]
  split_ifs
  all_goals first | rfl | omega | exact hbyte _ (by decide) ‹_›

theorem memcpy_memcpy {α : Type*} (dst src : ℕ → α) (dest start n m : ℕ) :
    memcpy (memcpy dst dest src start n) (dest + n) src (start + n) m =
      memcpy dst dest src start (n + m) := by
  funext a
  simp only [memcpy]
  split_ifs
  all_goals first | rfl | omega | (congr 1; omega)

theorem copyOut_eq (words : ℕ → BitVec 32) (buff len i : ℕ) (mem : Mem) :
    SpiRam.copyOut words buff len i mem =
      memcpy mem (buff + 4 * i) (bankByte words) (4 * i) (storedBytes len) := by
  induction len using Nat.strong_induction_on generalizing i mem with
  | _ len ih =>
    rw [SpiRam.copyOut]
    by_cases hlen : 0 < len
    · rw [if_pos hlen, storeWord_eq words mem _ i hlen, ih (len - 4) (by omega), Nat.mul_comm i 4]
      by_cases hlast : len < 4
      · have hdone : len - 4 = 0 := by omega
        have hone : min 4 (len + 1) = storedBytes len := by
          rw [storedBytes, if_neg (by omega)]
          omega
        rw [hdone, hone]
        funext a
        rw [memcpy, if_neg (by rw [storedBytes]; simp only [Nat.zero_mod, if_true]; omega)]
      · have hfour : min 4 (len + 1) = 4 := by omega
        have hrest : 4 + storedBytes (len - 4) = storedBytes len := by
          rw [storedBytes, storedBytes]
          split_ifs <;> omega
        rw [hfour, show buff + 4 * (i + 1) = buff + 4 * i + 4 by omega,
          show 4 * (i + 1) = 4 * i + 4 by omega, memcpy_memcpy, hrest]
    · have hdone : len = 0 := by omega
      rw [if_neg hlen, hdone]
      funext a
      rw [memcpy, if_neg (by rw [storedBytes]; simp only [Nat.zero_mod, if_true]; omega)]

theorem copyIn_eq (mem : Mem) (buff : ℕ) (words : ℕ → BitVec 32) {n k : ℕ} (hk : k < 4 * n) :
    bankByte (SpiRam.copyIn mem buff words n) k = mem (buff + k) := by
  have hword : ∀ i < n, SpiRam.copyIn mem buff words n i = bankOf (fun k => mem (buff + k)) i := by
    intro i hi
    clear hk
    induction n with
    | zero => omega
    | succ n ih =>
      rw [SpiRam.copyIn, Function.update_apply]
      by_cases hlast : i = n
      · rw [if_pos hlast, hlast, bankOf, Nat.mul_comm 4 n]
        rfl
      · rw [if_neg hlast, ih (by omega)]
  rw [bankByte, hword (k / 4) (by omega)]
  exact bankByte_bankOf (fun k => mem (buff + k)) k

/-! ### The transactions -/

theorem bytes_of_len {len : ℕ} (hpos : 1 ≤ len) (hle : len ≤ 64) (command : ℕ) (addr : BitVec 32) :
    SpiUser.bytes ⟨command, addr, (8 * len - 1) &&& 0x1ff⟩ = len := by
  have hmask : (8 * len - 1) &&& 0x1ff = (8 * len - 1) % 2 ^ 9 := Nat.and_two_pow_sub_one_eq_mod _ 9
  show (((8 * len - 1) &&& 0x1ff) + 1) / 8 = len
  rw [hmask]
  omega

theorem chipAddr_of_addr (command : ℕ) (addr : BitVec 32) (bitlen : ℕ) :
    SpiUser.chipAddr ⟨command, addr <<< 8, bitlen⟩ = addr.setWidth 17 := by
  apply BitVec.eq_of_getLsbD_eq
  intro i hi
  simp only [SpiUser.chipAddr, BitVec.getLsbD_setWidth, BitVec.getLsbD_ushiftRight,
    BitVec.getLsbD_shiftLeft]
  have hlt : 8 + i < 32 := by omega
  simp [hi, hlt]

theorem spiRamWrite_mem (s : SpiRam) (addr : BitVec 32) (buff len : ℕ) :
    (s.spiRamWrite addr buff len).mem = s.mem := rfl

theorem spiRamWrite_chip (s : SpiRam) (addr : BitVec 32) (buff : ℕ) {len : ℕ} (hpos : 1 ≤ len)
    (hle : len ≤ 64) (a : BitVec 17) : (s.spiRamWrite addr buff len).chip a =
      if (a - addr.setWidth 17).toNat < len then s.mem (buff + (a - addr.setWidth 17).toNat)
      else s.chip a := by
  simp only [SpiRam.spiRamWrite, SpiRam.usr, if_true, bytes_of_len hpos hle, chipAddr_of_addr]
  by_cases hin : (a - addr.setWidth 17).toNat < len
  · rw [if_pos hin, if_pos hin, copyIn_eq s.mem buff s.words (by omega)]
  · rw [if_neg hin, if_neg hin]

theorem spiRamRead_mem (s : SpiRam) (addr : BitVec 32) (buff : ℕ) {len : ℕ} (hpos : 1 ≤ len)
    (hle : len ≤ 64) (rest : ℕ → UInt8) : (s.spiRamRead addr buff len rest).mem =
      memcpy s.mem buff (fun k => if k < len then s.chip (chipAt addr k) else rest k) 0
        (storedBytes len) := by
  have hread : ¬ (0x03 : ℕ) = 0x02 := by decide
  simp only [SpiRam.spiRamRead, SpiRam.usr, if_neg hread, if_true, bytes_of_len hpos hle,
    chipAddr_of_addr, copyOut_eq]
  congr 1
  funext k
  rw [bankByte_bankOf]
  rfl

/-! ### A read after a write -/

/-- What a write followed by a read should do. -/
structure WriteReadExact (s : SpiRam) (addr : BitVec 32) (src dst len : ℕ) (rest : ℕ → UInt8) :
    Prop where
  stored : ∀ k < len, (s.spiRamWrite addr src len).chip (chipAt addr k) = s.mem (src + k)
  chip_kept : ∀ a, (∀ k < len, a ≠ chipAt addr k) →
    (s.spiRamWrite addr src len).chip a = s.chip a
  loaded : ∀ k < len,
    ((s.spiRamWrite addr src len).spiRamRead addr dst len rest).mem (dst + k) = s.mem (src + k)
  kept_behind : ∀ p, dst + len ≤ p →
    ((s.spiRamWrite addr src len).spiRamRead addr dst len rest).mem p = s.mem p

theorem toNat_chipAt_sub (addr : BitVec 32) {k : ℕ} (hk : k < 2 ^ 17) :
    (chipAt addr k - addr.setWidth 17).toNat = k := by
  rw [chipAt, BitVec.add_comm, BitVec.add_sub_cancel, BitVec.toNat_ofNat, Nat.mod_eq_of_lt hk]

theorem chipAt_toNat_sub (addr : BitVec 32) (a : BitVec 17) :
    chipAt addr (a - addr.setWidth 17).toNat = a := by
  rw [chipAt, BitVec.ofNat_toNat, BitVec.setWidth_eq, BitVec.add_comm, BitVec.sub_add_cancel]

variable (s : SpiRam) (addr : BitVec 32) (src dst : ℕ) {len : ℕ}

theorem spiRamWrite_chipAt (hpos : 1 ≤ len) (hle : len ≤ 64) {k : ℕ} (hk : k < len) :
    (s.spiRamWrite addr src len).chip (chipAt addr k) = s.mem (src + k) := by
  rw [spiRamWrite_chip s addr src hpos hle, toNat_chipAt_sub addr (by omega), if_pos hk]

theorem spiRamWrite_read_mem (hpos : 1 ≤ len) (hle : len ≤ 64) (rest : ℕ → UInt8) :
    ((s.spiRamWrite addr src len).spiRamRead addr dst len rest).mem =
      memcpy s.mem dst (fun k => if k < len then s.mem (src + k) else rest k) 0
        (storedBytes len) := by
  rw [spiRamRead_mem _ addr dst hpos hle, spiRamWrite_mem]
  congr 1
  funext k
  by_cases hk : k < len
  · rw [if_pos hk, if_pos hk, spiRamWrite_chipAt s addr src hpos hle hk]
  · rw [if_neg hk, if_neg hk]

/-- **A read after a write is exact** just when `len` is a multiple of 4, or the byte behind the
destination already is what the last W register has there. -/
theorem spiRam_writeReadExact_iff (hpos : 1 ≤ len) (hle : len ≤ 64) (rest : ℕ → UInt8) :
    WriteReadExact s addr src dst len rest ↔ len % 4 = 0 ∨ s.mem (dst + len) = rest len := by
  have hmem := spiRamWrite_read_mem s addr src dst hpos hle rest
  constructor
  · intro h
    by_cases hfour : len % 4 = 0
    · exact .inl hfour
    · right
      have hbehind := h.kept_behind (dst + len) (Nat.le_refl _)
      rw [hmem, memcpy, storedBytes, if_neg hfour, if_pos (by omega), Nat.zero_add,
        Nat.add_sub_cancel_left, if_neg (Nat.lt_irrefl len)] at hbehind
      exact hbehind.symm
  · intro h
    constructor
    · intro k hk
      exact spiRamWrite_chipAt s addr src hpos hle hk
    · intro a ha
      rw [spiRamWrite_chip s addr src hpos hle, if_neg]
      intro hlt
      exact ha _ hlt (chipAt_toNat_sub addr a).symm
    · intro k hk
      have hstored : k < storedBytes len := by
        rw [storedBytes]
        split_ifs <;> omega
      rw [hmem, memcpy, if_pos (by omega), Nat.zero_add, Nat.add_sub_cancel_left, if_pos hk]
    · intro p hp
      rw [hmem, memcpy, storedBytes]
      rcases h with hfour | hsame
      · rw [if_pos hfour, if_neg (by omega)]
      · by_cases hlast : p = dst + len
        · rw [hlast, Nat.zero_add, Nat.add_sub_cancel_left, if_neg (Nat.lt_irrefl len), ← hsame,
            ite_self]
        · rw [if_neg]
          split_ifs <;> omega

/-- A byte at `0x100`, and another one behind it. -/
def twoBytes : SpiRam where
  words := fun _ => 0
  chip := fun _ => 0
  mem := fun a => if a = 0x100 then 0x55 else if a = 0x101 then 0xff else 0

theorem spiRam_writeReadExact_word :
    WriteReadExact twoBytes 0 0x100 0x200 4 (fun k => twoBytes.mem (0x100 + k)) :=
  (spiRam_writeReadExact_iff twoBytes 0 0x100 0x200 (by decide) (by decide) _).mpr (.inl rfl)

/-- A read of one byte stores two: the second one is still in the register from the write. -/
theorem spiRamRead_stores_behind : ¬ ∀ (s : SpiRam) (addr : BitVec 32) (src dst len : ℕ)
    (rest : ℕ → UInt8), 1 ≤ len → len ≤ 64 → WriteReadExact s addr src dst len rest := by
  intro h
  have hbehind := (h twoBytes 0 0x100 0x200 1 (fun k => twoBytes.mem (0x100 + k)) (by decide)
    (by decide)).kept_behind (0x200 + 1) (by decide)
  rw [spiRamWrite_read_mem twoBytes 0 0x100 0x200 (by decide) (by decide)] at hbehind
  exact absurd hbehind (by decide)

end Mp3Decoder
