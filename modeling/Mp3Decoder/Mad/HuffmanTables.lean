import Mp3Decoder.Lib.ClumpTable

/-!
# Huffman code tables (`huffman.c`)

The tables of the source, entry by entry.  The lookup chains of a pair table take at most 19 bits,
which is what the bit cache of `III_huffdecode` relies on; a quad table takes at most 6 and one
extra lookup.
-/

namespace Mp3Decoder

open ClumpTable (Entry)

/-- `huffpair.value` -/
structure PairValue where
  x : ℕ
  y : ℕ

/-- `huffquad.value` -/
structure QuadValue where
  v : ℕ
  w : ℕ
  x : ℕ
  y : ℕ

abbrev HuffPair := Entry PairValue

abbrev HuffQuad := Entry QuadValue

namespace Huffman

/-- `PTR(offs, bits)` -/
def p {α : Type} (offset bits : ℕ) : Entry α := .ptr offset bits

/-- `V(x, y, hlen)` of a pair table -/
def v (x y hlen : ℕ) : HuffPair := .value hlen ⟨x, y⟩

/-- `V(v, w, x, y, hlen)` of a quad table -/
def q (v w x y hlen : ℕ) : HuffQuad := .value hlen ⟨v, w, x, y⟩

def hufftabA : List HuffQuad := [
  p 16 2, p 20 2, p 24 1, p 26 1, q 0 0 1 0 4, q 0 0 0 1 4, q 0 1 0 0 4, q 1 0 0 0 4, q 0 0 0 0 1,
  q 0 0 0 0 1, q 0 0 0 0 1, q 0 0 0 0 1, q 0 0 0 0 1, q 0 0 0 0 1, q 0 0 0 0 1, q 0 0 0 0 1,
  q 1 0 1 1 2, q 1 1 1 1 2, q 1 1 0 1 2, q 1 1 1 0 2, q 0 1 1 1 2, q 0 1 0 1 2, q 1 0 0 1 1,
  q 1 0 0 1 1, q 0 1 1 0 1, q 0 0 1 1 1, q 1 0 1 0 1, q 1 1 0 0 1]

def hufftabB : List HuffQuad := [
  q 1 1 1 1 4, q 1 1 1 0 4, q 1 1 0 1 4, q 1 1 0 0 4, q 1 0 1 1 4, q 1 0 1 0 4, q 1 0 0 1 4,
  q 1 0 0 0 4, q 0 1 1 1 4, q 0 1 1 0 4, q 0 1 0 1 4, q 0 1 0 0 4, q 0 0 1 1 4, q 0 0 1 0 4,
  q 0 0 0 1 4, q 0 0 0 0 4]

def hufftab0 : List HuffPair := [
  v 0 0 0]

def hufftab1 : List HuffPair := [
  v 1 1 3, v 0 1 3, v 1 0 2, v 1 0 2, v 0 0 1, v 0 0 1, v 0 0 1, v 0 0 1]

def hufftab2 : List HuffPair := [
  p 8 3, v 1 1 3, v 0 1 3, v 1 0 3, v 0 0 1, v 0 0 1, v 0 0 1, v 0 0 1, v 2 2 3, v 0 2 3, v 1 2 2,
  v 1 2 2, v 2 1 2, v 2 1 2, v 2 0 2, v 2 0 2]

def hufftab3 : List HuffPair := [
  p 8 3, v 1 0 3, v 1 1 2, v 1 1 2, v 0 1 2, v 0 1 2, v 0 0 2, v 0 0 2, v 2 2 3, v 0 2 3, v 1 2 2,
  v 1 2 2, v 2 1 2, v 2 1 2, v 2 0 2, v 2 0 2]

def hufftab5 : List HuffPair := [
  p 8 4, v 1 1 3, v 0 1 3, v 1 0 3, v 0 0 1, v 0 0 1, v 0 0 1, v 0 0 1, p 24 1, v 3 2 4, v 3 1 3,
  v 3 1 3, v 1 3 4, v 0 3 4, v 3 0 4, v 2 2 4, v 1 2 3, v 1 2 3, v 2 1 3, v 2 1 3, v 0 2 3, v 0 2 3,
  v 2 0 3, v 2 0 3, v 3 3 1, v 2 3 1]

def hufftab6 : List HuffPair := [
  p 16 3, p 24 1, p 26 1, v 1 2 4, v 2 1 4, v 2 0 4, v 0 1 3, v 0 1 3, v 1 1 2, v 1 1 2, v 1 1 2,
  v 1 1 2, v 1 0 3, v 1 0 3, v 0 0 3, v 0 0 3, v 3 3 3, v 0 3 3, v 2 3 2, v 2 3 2, v 3 2 2, v 3 2 2,
  v 3 0 2, v 3 0 2, v 1 3 1, v 3 1 1, v 2 2 1, v 0 2 1]

def hufftab7 : List HuffPair := [
  p 16 4, p 32 4, p 48 2, v 1 1 4, v 0 1 3, v 0 1 3, v 1 0 3, v 1 0 3, v 0 0 1, v 0 0 1, v 0 0 1,
  v 0 0 1, v 0 0 1, v 0 0 1, v 0 0 1, v 0 0 1, p 52 2, p 56 1, p 58 1, v 1 5 4, v 5 1 4, p 60 1,
  v 5 0 4, p 62 1, v 2 4 4, v 4 2 4, v 1 4 3, v 1 4 3, v 4 1 3, v 4 1 3, v 4 0 3, v 4 0 3, v 0 4 4,
  v 2 3 4, v 3 2 4, v 0 3 4, v 1 3 3, v 1 3 3, v 3 1 3, v 3 1 3, v 3 0 3, v 3 0 3, v 2 2 3, v 2 2 3,
  v 1 2 2, v 1 2 2, v 1 2 2, v 1 2 2, v 2 1 1, v 2 1 1, v 0 2 2, v 2 0 2, v 5 5 2, v 4 5 2, v 5 4 2,
  v 5 3 2, v 3 5 1, v 4 4 1, v 2 5 1, v 5 2 1, v 0 5 1, v 3 4 1, v 4 3 1, v 3 3 1]

def hufftab8 : List HuffPair := [
  p 16 4, p 32 4, v 1 2 4, v 2 1 4, v 1 1 2, v 1 1 2, v 1 1 2, v 1 1 2, v 0 1 3, v 0 1 3, v 1 0 3,
  v 1 0 3, v 0 0 2, v 0 0 2, v 0 0 2, v 0 0 2, p 48 3, p 56 2, p 60 1, v 1 5 4, v 5 1 4, p 62 1,
  p 64 1, v 2 4 4, v 4 2 4, v 1 4 4, v 4 1 3, v 4 1 3, v 0 4 4, v 4 0 4, v 2 3 4, v 3 2 4, v 1 3 4,
  v 3 1 4, v 0 3 4, v 3 0 4, v 2 2 2, v 2 2 2, v 2 2 2, v 2 2 2, v 0 2 2, v 0 2 2, v 0 2 2, v 0 2 2,
  v 2 0 2, v 2 0 2, v 2 0 2, v 2 0 2, v 5 5 3, v 5 4 3, v 4 5 2, v 4 5 2, v 5 3 1, v 5 3 1, v 5 3 1,
  v 5 3 1, v 3 5 2, v 4 4 2, v 2 5 1, v 2 5 1, v 5 2 1, v 0 5 1, v 3 4 1, v 4 3 1, v 5 0 1, v 3 3 1]

def hufftab9 : List HuffPair := [
  p 16 4, p 32 3, p 40 2, p 44 2, p 48 1, v 1 2 4, v 2 1 4, v 2 0 4, v 1 1 3, v 1 1 3, v 0 1 3,
  v 0 1 3, v 1 0 3, v 1 0 3, v 0 0 3, v 0 0 3, p 50 1, v 3 5 4, v 5 3 4, p 52 1, v 4 4 4, v 2 5 4,
  v 5 2 4, v 1 5 4, v 5 1 3, v 5 1 3, v 3 4 3, v 3 4 3, v 4 3 3, v 4 3 3, v 5 0 4, v 0 4 4, v 2 4 3,
  v 4 2 3, v 3 3 3, v 4 0 3, v 1 4 2, v 1 4 2, v 4 1 2, v 4 1 2, v 2 3 2, v 3 2 2, v 1 3 1, v 1 3 1,
  v 3 1 1, v 3 1 1, v 0 3 2, v 3 0 2, v 2 2 1, v 0 2 1, v 5 5 1, v 4 5 1, v 5 4 1, v 0 5 1]

def hufftab10 : List HuffPair := [
  p 16 4, p 32 4, p 48 2, v 1 1 4, v 0 1 3, v 0 1 3, v 1 0 3, v 1 0 3, v 0 0 1, v 0 0 1, v 0 0 1,
  v 0 0 1, v 0 0 1, v 0 0 1, v 0 0 1, v 0 0 1, p 52 3, p 60 2, p 64 3, p 72 1, p 74 2, p 78 2,
  p 82 2, v 1 7 4, v 7 1 4, p 86 1, p 88 2, p 92 2, v 1 6 4, v 6 1 4, v 6 0 4, p 96 1, p 98 1,
  p 100 1, v 1 4 4, v 4 1 4, v 4 0 4, v 2 3 4, v 3 2 4, v 0 3 4, v 1 3 3, v 1 3 3, v 3 1 3, v 3 1 3,
  v 3 0 3, v 3 0 3, v 2 2 3, v 2 2 3, v 1 2 2, v 2 1 2, v 0 2 2, v 2 0 2, v 7 7 3, v 6 7 3, v 7 6 3,
  v 5 7 3, v 7 5 3, v 6 6 3, v 4 7 2, v 4 7 2, v 7 4 2, v 5 6 2, v 6 5 2, v 3 7 2, v 7 3 2, v 7 3 2,
  v 4 6 2, v 4 6 2, v 5 5 3, v 5 4 3, v 6 3 2, v 6 3 2, v 2 7 1, v 7 2 1, v 6 4 2, v 0 7 2, v 7 0 1,
  v 7 0 1, v 6 2 1, v 6 2 1, v 4 5 2, v 3 5 2, v 0 6 1, v 0 6 1, v 5 3 2, v 4 4 2, v 3 6 1, v 2 6 1,
  v 2 5 2, v 5 2 2, v 1 5 1, v 1 5 1, v 5 1 1, v 5 1 1, v 3 4 2, v 4 3 2, v 0 5 1, v 5 0 1, v 2 4 1,
  v 4 2 1, v 3 3 1, v 0 4 1]

def hufftab11 : List HuffPair := [
  p 16 4, p 32 4, p 48 4, p 64 3, v 1 2 4, p 72 1, v 1 1 3, v 1 1 3, v 0 1 3, v 0 1 3, v 1 0 3,
  v 1 0 3, v 0 0 2, v 0 0 2, v 0 0 2, v 0 0 2, p 74 2, p 78 3, p 86 2, p 90 1, p 92 2, v 2 7 4,
  v 7 2 4, p 96 1, v 7 1 3, v 7 1 3, v 1 7 4, v 7 0 4, v 3 6 4, v 6 3 4, v 6 0 4, p 98 1, p 100 1,
  v 1 5 4, v 6 2 3, v 6 2 3, v 2 6 4, v 0 6 4, v 1 6 3, v 1 6 3, v 6 1 3, v 6 1 3, v 5 1 4, v 3 4 4,
  v 5 0 4, p 102 1, v 2 4 4, v 4 2 4, v 1 4 4, v 4 1 4, v 0 4 4, v 4 0 4, v 2 3 3, v 2 3 3, v 3 2 3,
  v 3 2 3, v 1 3 2, v 1 3 2, v 1 3 2, v 1 3 2, v 3 1 2, v 3 1 2, v 3 1 2, v 3 1 2, v 0 3 3, v 3 0 3,
  v 2 2 2, v 2 2 2, v 2 1 1, v 2 1 1, v 2 1 1, v 2 1 1, v 0 2 1, v 2 0 1, v 7 7 2, v 6 7 2, v 7 6 2,
  v 7 5 2, v 6 6 2, v 6 6 2, v 4 7 2, v 4 7 2, v 7 4 2, v 7 4 2, v 5 7 3, v 5 5 3, v 5 6 2, v 6 5 2,
  v 3 7 1, v 3 7 1, v 7 3 1, v 4 6 1, v 4 5 2, v 5 4 2, v 3 5 2, v 5 3 2, v 6 4 1, v 0 7 1, v 4 4 1,
  v 2 5 1, v 5 2 1, v 0 5 1, v 4 3 1, v 3 3 1]

def hufftab12 : List HuffPair := [
  p 16 4, p 32 4, p 48 4, p 64 2, p 68 3, p 76 1, v 1 2 4, v 2 1 4, p 78 1, v 0 0 4, v 1 1 3,
  v 1 1 3, v 0 1 3, v 0 1 3, v 1 0 3, v 1 0 3, p 80 2, p 84 1, p 86 1, p 88 1, v 5 6 4, v 3 7 4,
  p 90 1, v 2 7 4, v 7 2 4, v 4 6 4, v 6 4 4, v 1 7 4, v 7 1 4, p 92 1, v 3 6 4, v 6 3 4, v 4 5 4,
  v 5 4 4, v 4 4 4, p 94 1, v 2 6 3, v 2 6 3, v 6 2 3, v 6 2 3, v 6 1 3, v 6 1 3, v 1 6 4, v 6 0 4,
  v 3 5 4, v 5 3 4, v 2 5 4, v 5 2 4, v 1 5 3, v 1 5 3, v 5 1 3, v 5 1 3, v 3 4 3, v 3 4 3, v 4 3 3,
  v 4 3 3, v 5 0 4, v 0 4 4, v 2 4 3, v 2 4 3, v 4 2 3, v 4 2 3, v 1 4 3, v 1 4 3, v 3 3 2, v 4 1 2,
  v 2 3 2, v 3 2 2, v 4 0 3, v 0 3 3, v 3 0 2, v 3 0 2, v 1 3 1, v 1 3 1, v 1 3 1, v 1 3 1, v 3 1 1,
  v 2 2 1, v 0 2 1, v 2 0 1, v 7 7 2, v 6 7 2, v 7 6 1, v 7 6 1, v 5 7 1, v 7 5 1, v 6 6 1, v 4 7 1,
  v 7 4 1, v 6 5 1, v 7 3 1, v 5 5 1, v 0 7 1, v 7 0 1, v 0 6 1, v 0 5 1]

def hufftab13 : List HuffPair := [
  p 16 4, p 32 4, p 48 4, p 64 2, v 1 1 4, v 0 1 4, v 1 0 3, v 1 0 3, v 0 0 1, v 0 0 1, v 0 0 1,
  v 0 0 1, v 0 0 1, v 0 0 1, v 0 0 1, v 0 0 1, p 68 4, p 84 4, p 100 4, p 116 4, p 132 4, p 148 4,
  p 164 3, p 172 3, p 180 3, p 188 3, p 196 3, p 204 3, p 212 1, p 214 2, p 218 3, p 226 1, p 228 2,
  p 232 2, p 236 2, p 240 2, v 8 1 4, p 244 1, p 246 1, p 248 1, p 250 2, p 254 1, v 1 5 4, v 5 1 4,
  p 256 1, p 258 1, p 260 1, v 1 4 4, v 4 1 3, v 4 1 3, v 0 4 4, v 4 0 4, v 2 3 4, v 3 2 4, v 1 3 3,
  v 1 3 3, v 3 1 3, v 3 1 3, v 0 3 3, v 0 3 3, v 3 0 3, v 3 0 3, v 2 2 3, v 2 2 3, v 1 2 2, v 2 1 2,
  v 0 2 2, v 2 0 2, p 262 4, p 278 4, p 294 4, p 310 3, p 318 2, p 322 2, p 326 3, p 334 2, p 338 1,
  p 340 2, p 344 2, p 348 2, p 352 2, p 356 2, v 1 15 4, v 15 1 4, v 15 0 4, p 360 1, p 362 1,
  p 364 1, v 14 2 4, p 366 1, v 1 14 4, v 14 1 4, p 368 1, p 370 1, p 372 1, p 374 1, p 376 1,
  p 378 1, v 12 6 4, v 3 13 4, p 380 1, v 2 13 4, v 13 2 4, v 1 13 4, v 11 7 4, p 382 1, p 384 1,
  v 12 3 4, p 386 1, v 4 11 4, v 13 1 3, v 13 1 3, v 0 13 4, v 13 0 4, v 8 10 4, v 10 8 4, v 4 12 4,
  v 12 4 4, v 6 11 4, v 11 6 4, v 3 12 3, v 3 12 3, v 2 12 3, v 2 12 3, v 12 2 3, v 12 2 3,
  v 5 11 3, v 5 11 3, v 11 5 4, v 8 9 4, v 1 12 3, v 1 12 3, v 12 1 3, v 12 1 3, v 9 8 4, v 0 12 4,
  v 12 0 3, v 12 0 3, v 11 4 4, v 6 10 4, v 10 6 4, v 7 9 4, v 3 11 3, v 3 11 3, v 11 3 3, v 11 3 3,
  v 8 8 4, v 5 10 4, v 2 11 3, v 2 11 3, v 10 5 4, v 6 9 4, v 10 4 3, v 10 4 3, v 7 8 4, v 8 7 4,
  v 9 4 3, v 9 4 3, v 7 7 4, v 7 6 4, v 11 2 2, v 11 2 2, v 11 2 2, v 11 2 2, v 1 11 2, v 1 11 2,
  v 11 1 2, v 11 1 2, v 0 11 3, v 11 0 3, v 9 6 3, v 4 10 3, v 3 10 3, v 10 3 3, v 5 9 3, v 9 5 3,
  v 2 10 2, v 2 10 2, v 10 2 2, v 10 2 2, v 1 10 2, v 1 10 2, v 10 1 2, v 10 1 2, v 0 10 3, v 6 8 3,
  v 10 0 2, v 10 0 2, v 8 6 3, v 4 9 3, v 9 3 2, v 9 3 2, v 3 9 3, v 5 8 3, v 8 5 3, v 6 7 3,
  v 2 9 2, v 2 9 2, v 9 2 2, v 9 2 2, v 5 7 3, v 7 5 3, v 3 8 2, v 3 8 2, v 8 3 2, v 8 3 2, v 6 6 3,
  v 4 7 3, v 7 4 3, v 5 6 3, v 6 5 3, v 7 3 3, v 1 9 1, v 9 1 1, v 0 9 2, v 9 0 2, v 4 8 2, v 8 4 2,
  v 7 2 2, v 7 2 2, v 4 6 3, v 6 4 3, v 2 8 1, v 2 8 1, v 2 8 1, v 2 8 1, v 8 2 1, v 1 8 1, v 3 7 2,
  v 2 7 2, v 1 7 1, v 1 7 1, v 7 1 1, v 7 1 1, v 5 5 2, v 0 7 2, v 7 0 2, v 3 6 2, v 6 3 2, v 4 5 2,
  v 5 4 2, v 2 6 2, v 6 2 2, v 3 5 2, v 0 8 1, v 8 0 1, v 1 6 1, v 6 1 1, v 0 6 1, v 6 0 1, v 5 3 2,
  v 4 4 2, v 2 5 1, v 2 5 1, v 5 2 1, v 0 5 1, v 3 4 1, v 4 3 1, v 5 0 1, v 2 4 1, v 4 2 1, v 3 3 1,
  p 388 3, v 15 15 4, v 14 15 4, v 13 15 4, v 14 14 4, v 12 15 4, v 13 14 4, v 11 15 4, v 15 11 4,
  v 12 14 4, v 13 12 4, p 396 1, v 14 12 3, v 14 12 3, v 13 13 3, v 13 13 3, v 15 10 4, v 12 13 4,
  v 11 14 3, v 11 14 3, v 14 11 3, v 14 11 3, v 9 15 3, v 9 15 3, v 15 9 3, v 15 9 3, v 14 10 3,
  v 14 10 3, v 11 13 3, v 11 13 3, v 13 11 3, v 13 11 3, v 8 15 3, v 8 15 3, v 15 8 3, v 15 8 3,
  v 12 12 3, v 12 12 3, v 10 14 4, v 9 14 4, v 8 14 3, v 8 14 3, v 7 15 4, v 7 14 4, v 15 7 2,
  v 15 7 2, v 15 7 2, v 15 7 2, v 13 10 2, v 13 10 2, v 10 13 3, v 11 12 3, v 12 11 3, v 15 6 3,
  v 6 15 2, v 6 15 2, v 14 8 2, v 5 15 2, v 9 13 2, v 13 9 2, v 15 5 2, v 14 7 2, v 10 12 2,
  v 11 11 2, v 4 15 2, v 4 15 2, v 15 4 2, v 15 4 2, v 12 10 3, v 14 6 3, v 15 3 2, v 15 3 2,
  v 3 15 1, v 3 15 1, v 8 13 2, v 13 8 2, v 2 15 1, v 15 2 1, v 6 14 2, v 9 12 2, v 0 15 1,
  v 0 15 1, v 12 9 2, v 5 14 2, v 10 11 1, v 10 11 1, v 7 13 2, v 13 7 2, v 4 14 1, v 4 14 1,
  v 12 8 2, v 13 6 2, v 3 14 1, v 3 14 1, v 11 9 1, v 11 9 1, v 9 11 2, v 10 10 2, v 11 10 1,
  v 14 5 1, v 14 4 1, v 8 12 1, v 6 13 1, v 14 3 1, v 2 14 1, v 0 14 1, v 14 0 1, v 5 13 1,
  v 13 5 1, v 7 12 1, v 12 7 1, v 4 13 1, v 8 11 1, v 11 8 1, v 13 4 1, v 9 10 1, v 10 9 1,
  v 6 12 1, v 13 3 1, v 7 11 1, v 5 12 1, v 12 5 1, v 9 9 1, v 7 10 1, v 10 7 1, v 9 7 1, v 15 14 3,
  v 15 12 3, v 15 13 2, v 15 13 2, v 14 13 1, v 14 13 1, v 14 13 1, v 14 13 1, v 10 15 1, v 14 9 1]

def hufftab15 : List HuffPair := [
  p 16 4, p 32 4, p 48 4, p 64 4, p 80 4, p 96 3, p 104 3, p 112 2, p 116 1, p 118 1, v 1 1 3,
  v 1 1 3, v 0 1 4, v 1 0 4, v 0 0 3, v 0 0 3, p 120 4, p 136 4, p 152 4, p 168 4, p 184 4, p 200 3,
  p 208 3, p 216 4, p 232 3, p 240 3, p 248 3, p 256 3, p 264 2, p 268 3, p 276 3, p 284 2, p 288 2,
  p 292 2, p 296 2, p 300 2, p 304 2, p 308 2, p 312 2, p 316 2, p 320 1, p 322 1, p 324 1, p 326 2,
  p 330 1, p 332 1, p 334 2, p 338 1, p 340 1, p 342 1, v 9 1 4, p 344 1, p 346 1, p 348 1, p 350 1,
  p 352 1, v 2 8 4, v 8 2 4, v 1 8 4, v 8 1 4, p 354 1, p 356 1, p 358 1, p 360 1, v 2 7 4, v 7 2 4,
  v 6 4 4, v 1 7 4, v 5 5 4, v 7 1 4, p 362 1, v 3 6 4, v 6 3 4, v 4 5 4, v 5 4 4, v 2 6 4, v 6 2 4,
  v 1 6 4, p 364 1, v 3 5 4, v 6 1 3, v 6 1 3, v 5 3 4, v 4 4 4, v 2 5 3, v 2 5 3, v 5 2 3, v 5 2 3,
  v 1 5 3, v 1 5 3, v 5 1 3, v 5 1 3, v 0 5 4, v 5 0 4, v 3 4 3, v 3 4 3, v 4 3 3, v 2 4 3, v 4 2 3,
  v 3 3 3, v 4 1 2, v 4 1 2, v 1 4 3, v 0 4 3, v 2 3 2, v 2 3 2, v 3 2 2, v 3 2 2, v 4 0 3, v 0 3 3,
  v 1 3 2, v 1 3 2, v 3 1 2, v 3 0 2, v 2 2 1, v 2 2 1, v 1 2 1, v 2 1 1, v 0 2 1, v 2 0 1, p 366 1,
  p 368 1, v 14 14 4, p 370 1, p 372 1, p 374 1, v 15 11 4, p 376 1, v 13 13 4, v 10 15 4,
  v 15 10 4, v 11 14 4, v 14 11 4, v 12 13 4, v 13 12 4, v 9 15 4, v 15 9 4, v 14 10 4, v 11 13 4,
  v 13 11 4, v 8 15 4, v 15 8 4, v 12 12 4, v 9 14 4, v 14 9 4, v 7 15 4, v 15 7 4, v 10 13 4,
  v 13 10 4, v 11 12 4, v 6 15 4, p 378 1, v 12 11 3, v 12 11 3, v 15 6 3, v 15 6 3, v 8 14 4,
  v 14 8 4, v 5 15 4, v 9 13 4, v 15 5 3, v 15 5 3, v 7 14 3, v 7 14 3, v 14 7 3, v 14 7 3,
  v 10 12 3, v 10 12 3, v 12 10 3, v 12 10 3, v 11 11 3, v 11 11 3, v 13 9 4, v 8 13 4, v 4 15 3,
  v 4 15 3, v 15 4 3, v 15 4 3, v 3 15 3, v 3 15 3, v 15 3 3, v 15 3 3, v 13 8 3, v 13 8 3,
  v 14 6 3, v 14 6 3, v 2 15 3, v 2 15 3, v 15 2 3, v 15 2 3, v 6 14 4, v 15 0 4, v 1 15 3,
  v 1 15 3, v 15 1 3, v 15 1 3, v 9 12 3, v 9 12 3, v 12 9 3, v 12 9 3, v 5 14 3, v 10 11 3,
  v 11 10 3, v 14 5 3, v 7 13 3, v 13 7 3, v 4 14 3, v 14 4 3, v 8 12 3, v 12 8 3, v 3 14 3,
  v 6 13 3, v 13 6 3, v 14 3 3, v 9 11 3, v 11 9 3, v 2 14 3, v 2 14 3, v 10 10 3, v 10 10 3,
  v 14 2 3, v 14 2 3, v 1 14 3, v 1 14 3, v 14 1 3, v 14 1 3, v 0 14 4, v 14 0 4, v 5 13 3,
  v 5 13 3, v 13 5 3, v 13 5 3, v 7 12 3, v 12 7 3, v 4 13 3, v 8 11 3, v 13 4 2, v 13 4 2,
  v 11 8 3, v 9 10 3, v 10 9 3, v 6 12 3, v 12 6 3, v 3 13 3, v 13 3 2, v 13 3 2, v 13 2 2,
  v 13 2 2, v 2 13 3, v 0 13 3, v 1 13 2, v 1 13 2, v 7 11 2, v 7 11 2, v 11 7 2, v 11 7 2,
  v 13 1 2, v 13 1 2, v 5 12 3, v 13 0 3, v 12 5 2, v 12 5 2, v 8 10 2, v 8 10 2, v 10 8 2,
  v 4 12 2, v 12 4 2, v 6 11 2, v 11 6 2, v 11 6 2, v 9 9 3, v 0 12 3, v 3 12 2, v 3 12 2, v 12 3 2,
  v 12 3 2, v 7 10 2, v 7 10 2, v 10 7 2, v 10 7 2, v 10 6 2, v 10 6 2, v 12 0 3, v 0 11 3,
  v 12 2 1, v 12 2 1, v 2 12 2, v 5 11 2, v 11 5 2, v 1 12 2, v 8 9 2, v 9 8 2, v 12 1 2, v 4 11 2,
  v 11 4 2, v 6 10 2, v 3 11 2, v 7 9 2, v 11 3 1, v 11 3 1, v 9 7 2, v 8 8 2, v 2 11 2, v 5 10 2,
  v 11 2 1, v 11 2 1, v 10 5 2, v 1 11 2, v 11 1 1, v 11 1 1, v 11 0 2, v 6 9 2, v 9 6 2, v 4 10 2,
  v 10 4 2, v 7 8 2, v 8 7 2, v 3 10 2, v 10 3 1, v 10 3 1, v 5 9 1, v 9 5 1, v 2 10 1, v 10 2 1,
  v 1 10 1, v 10 1 1, v 0 10 2, v 10 0 2, v 6 8 1, v 6 8 1, v 8 6 1, v 4 9 1, v 9 4 1, v 3 9 1,
  v 9 3 1, v 9 3 1, v 7 7 2, v 0 9 2, v 5 8 1, v 8 5 1, v 2 9 1, v 6 7 1, v 7 6 1, v 9 2 1, v 1 9 1,
  v 9 0 1, v 4 8 1, v 8 4 1, v 5 7 1, v 7 5 1, v 3 8 1, v 8 3 1, v 6 6 1, v 4 7 1, v 7 4 1, v 0 8 1,
  v 8 0 1, v 5 6 1, v 6 5 1, v 3 7 1, v 7 3 1, v 4 6 1, v 0 7 1, v 7 0 1, v 0 6 1, v 6 0 1,
  v 15 15 1, v 14 15 1, v 15 14 1, v 13 15 1, v 15 13 1, v 12 15 1, v 15 12 1, v 13 14 1, v 14 13 1,
  v 11 15 1, v 12 14 1, v 14 12 1, v 10 14 1, v 0 15 1]

def hufftab16 : List HuffPair := [
  p 16 4, p 32 4, p 48 4, p 64 2, v 1 1 4, v 0 1 4, v 1 0 3, v 1 0 3, v 0 0 1, v 0 0 1, v 0 0 1,
  v 0 0 1, v 0 0 1, v 0 0 1, v 0 0 1, v 0 0 1, p 68 3, p 76 3, p 84 2, v 15 15 4, p 88 2, p 92 1,
  p 94 4, v 15 2 4, p 110 1, v 1 15 4, v 15 1 4, p 112 4, p 128 4, p 144 4, p 160 4, p 176 4,
  p 192 4, p 208 3, p 216 3, p 224 3, p 232 3, p 240 3, p 248 3, p 256 3, p 264 2, p 268 2, p 272 1,
  p 274 2, p 278 2, p 282 1, v 5 1 4, p 284 1, p 286 1, p 288 1, p 290 1, v 1 4 4, v 4 1 4, p 292 1,
  v 2 3 4, v 3 2 4, v 1 3 3, v 1 3 3, v 3 1 3, v 3 1 3, v 0 3 4, v 3 0 4, v 2 2 3, v 2 2 3, v 1 2 2,
  v 2 1 2, v 0 2 2, v 2 0 2, v 14 15 3, v 15 14 3, v 13 15 3, v 15 13 3, v 12 15 3, v 15 12 3,
  v 11 15 3, v 15 11 3, v 10 15 2, v 10 15 2, v 15 10 3, v 9 15 3, v 15 9 3, v 15 8 3, v 8 15 2,
  v 8 15 2, v 7 15 2, v 15 7 2, v 6 15 2, v 15 6 2, v 5 15 2, v 15 5 2, v 4 15 1, v 4 15 1,
  v 15 4 1, v 15 3 1, v 15 0 1, v 15 0 1, v 15 0 1, v 15 0 1, v 15 0 1, v 15 0 1, v 15 0 1,
  v 15 0 1, v 3 15 2, v 3 15 2, v 3 15 2, v 3 15 2, p 294 4, p 310 3, p 318 3, p 326 3, v 2 15 1,
  v 0 15 1, p 334 2, p 338 2, p 342 2, p 346 1, p 348 2, p 352 2, p 356 1, p 358 2, p 362 2,
  p 366 2, p 370 2, v 14 3 4, p 374 1, p 376 1, p 378 1, p 380 1, p 382 1, p 384 1, p 386 1,
  v 0 13 4, p 388 1, p 390 1, p 392 1, v 3 12 4, p 394 1, v 1 12 4, v 12 0 4, p 396 1, v 14 2 3,
  v 14 2 3, v 2 14 4, v 1 14 4, v 13 3 4, v 2 13 4, v 13 2 4, v 13 1 4, v 3 11 4, p 398 1, v 1 13 3,
  v 1 13 3, v 12 4 4, v 6 11 4, v 12 3 4, v 10 7 4, v 2 12 3, v 2 12 3, v 12 2 4, v 11 5 4,
  v 12 1 4, v 0 12 4, v 4 11 4, v 11 4 4, v 6 10 4, v 10 6 4, v 11 3 3, v 11 3 3, v 5 10 4,
  v 10 5 4, v 2 11 3, v 2 11 3, v 11 2 3, v 11 2 3, v 1 11 3, v 1 11 3, v 11 1 3, v 11 1 3,
  v 0 11 4, v 11 0 4, v 6 9 4, v 9 6 4, v 4 10 4, v 10 4 4, v 7 8 4, v 8 7 4, v 10 3 3, v 10 3 3,
  v 3 10 4, v 5 9 4, v 2 10 3, v 2 10 3, v 9 5 4, v 6 8 4, v 10 1 3, v 10 1 3, v 8 6 4, v 7 7 4,
  v 9 4 3, v 9 4 3, v 4 9 4, v 5 7 4, v 6 7 3, v 6 7 3, v 10 2 2, v 10 2 2, v 10 2 2, v 10 2 2,
  v 1 10 2, v 1 10 2, v 0 10 3, v 10 0 3, v 3 9 3, v 9 3 3, v 5 8 3, v 8 5 3, v 2 9 2, v 2 9 2,
  v 9 2 2, v 9 2 2, v 7 6 3, v 0 9 3, v 1 9 2, v 1 9 2, v 9 1 2, v 9 1 2, v 9 0 3, v 4 8 3, v 8 4 3,
  v 7 5 3, v 3 8 3, v 8 3 3, v 6 6 3, v 2 8 3, v 8 2 2, v 8 2 2, v 4 7 3, v 7 4 3, v 1 8 2, v 1 8 2,
  v 8 1 2, v 8 1 2, v 8 0 2, v 8 0 2, v 0 8 3, v 5 6 3, v 3 7 2, v 3 7 2, v 7 3 2, v 7 3 2, v 6 5 3,
  v 4 6 3, v 2 7 2, v 2 7 2, v 7 2 2, v 7 2 2, v 6 4 3, v 5 5 3, v 0 7 2, v 0 7 2, v 1 7 1, v 1 7 1,
  v 1 7 1, v 1 7 1, v 7 1 1, v 7 1 1, v 7 0 2, v 3 6 2, v 6 3 2, v 4 5 2, v 5 4 2, v 2 6 2, v 6 2 1,
  v 1 6 1, v 6 1 1, v 6 1 1, v 0 6 2, v 6 0 2, v 5 3 1, v 5 3 1, v 3 5 2, v 4 4 2, v 2 5 1, v 5 2 1,
  v 1 5 1, v 0 5 1, v 3 4 1, v 4 3 1, v 5 0 1, v 2 4 1, v 4 2 1, v 3 3 1, v 0 4 1, v 4 0 1,
  v 12 14 4, p 400 1, v 13 14 3, v 13 14 3, v 14 9 3, v 14 9 3, v 14 10 4, v 13 9 4, v 14 14 2,
  v 14 14 2, v 14 14 2, v 14 14 2, v 14 13 3, v 14 13 3, v 14 11 3, v 14 11 3, v 11 14 2, v 11 14 2,
  v 12 13 2, v 12 13 2, v 13 12 3, v 13 11 3, v 10 14 2, v 10 14 2, v 12 12 2, v 12 12 2, v 10 13 3,
  v 13 10 3, v 7 14 3, v 10 12 3, v 12 10 2, v 12 10 2, v 12 9 3, v 7 13 3, v 5 14 2, v 5 14 2,
  v 11 13 1, v 11 13 1, v 11 13 1, v 11 13 1, v 9 14 1, v 9 14 1, v 11 12 2, v 12 11 2, v 8 14 2,
  v 14 8 2, v 9 13 2, v 14 7 2, v 11 11 2, v 8 13 2, v 13 8 2, v 6 14 2, v 14 6 1, v 9 12 1,
  v 10 11 2, v 11 10 2, v 14 5 2, v 13 7 2, v 4 14 1, v 4 14 1, v 14 4 2, v 8 12 2, v 12 8 1,
  v 3 14 1, v 6 13 1, v 6 13 1, v 13 6 2, v 9 11 2, v 11 9 2, v 10 10 2, v 14 1 1, v 14 1 1,
  v 13 4 1, v 13 4 1, v 11 8 2, v 10 9 2, v 7 11 1, v 7 11 1, v 11 7 2, v 13 0 2, v 0 14 1,
  v 14 0 1, v 5 13 1, v 13 5 1, v 7 12 1, v 12 7 1, v 4 13 1, v 8 11 1, v 9 10 1, v 6 12 1,
  v 12 6 1, v 3 13 1, v 5 12 1, v 12 5 1, v 8 10 1, v 10 8 1, v 9 9 1, v 4 12 1, v 11 6 1, v 7 10 1,
  v 5 11 1, v 8 9 1, v 9 8 1, v 7 9 1, v 9 7 1, v 8 8 1, v 14 12 1, v 13 13 1]

def hufftab24 : List HuffPair := [
  p 16 4, p 32 4, p 48 4, v 15 15 4, p 64 4, p 80 4, p 96 4, p 112 4, p 128 4, p 144 4, p 160 3,
  p 168 2, v 1 1 4, v 0 1 4, v 1 0 4, v 0 0 4, v 14 15 4, v 15 14 4, v 13 15 4, v 15 13 4,
  v 12 15 4, v 15 12 4, v 11 15 4, v 15 11 4, v 15 10 3, v 15 10 3, v 10 15 4, v 9 15 4, v 15 9 3,
  v 15 9 3, v 15 8 3, v 15 8 3, v 8 15 4, v 7 15 4, v 15 7 3, v 15 7 3, v 6 15 3, v 6 15 3,
  v 15 6 3, v 15 6 3, v 5 15 3, v 5 15 3, v 15 5 3, v 15 5 3, v 4 15 3, v 4 15 3, v 15 4 3,
  v 15 4 3, v 3 15 3, v 3 15 3, v 15 3 3, v 15 3 3, v 2 15 3, v 2 15 3, v 15 2 3, v 15 2 3,
  v 15 1 3, v 15 1 3, v 1 15 4, v 15 0 4, p 172 3, p 180 3, p 188 3, p 196 3, p 204 4, p 220 3,
  p 228 3, p 236 3, p 244 2, p 248 2, p 252 2, p 256 2, p 260 2, p 264 2, p 268 2, p 272 2, p 276 2,
  p 280 3, p 288 2, p 292 2, p 296 2, p 300 3, p 308 2, p 312 3, p 320 1, p 322 2, p 326 2, p 330 1,
  p 332 2, p 336 1, p 338 1, p 340 1, p 342 1, p 344 1, p 346 1, p 348 1, p 350 1, p 352 1, p 354 1,
  p 356 1, p 358 1, p 360 1, p 362 1, p 364 1, p 366 1, p 368 1, p 370 2, p 374 1, p 376 2, v 7 3 4,
  p 380 1, v 7 2 4, v 4 6 4, v 6 4 4, v 5 5 4, v 7 1 4, v 3 6 4, v 6 3 4, v 4 5 4, v 5 4 4, v 2 6 4,
  v 6 2 4, v 1 6 4, v 6 1 4, p 382 1, v 3 5 4, v 5 3 4, v 4 4 4, v 2 5 4, v 5 2 4, v 1 5 4, p 384 1,
  v 5 1 3, v 5 1 3, v 3 4 4, v 4 3 4, v 2 4 3, v 2 4 3, v 4 2 3, v 4 2 3, v 3 3 3, v 3 3 3, v 1 4 3,
  v 1 4 3, v 4 1 3, v 4 1 3, v 0 4 4, v 4 0 4, v 2 3 3, v 2 3 3, v 3 2 3, v 3 2 3, v 1 3 2, v 1 3 2,
  v 1 3 2, v 1 3 2, v 3 1 2, v 3 1 2, v 3 1 2, v 3 1 2, v 0 3 3, v 3 0 3, v 2 2 2, v 2 2 2, v 1 2 1,
  v 1 2 1, v 1 2 1, v 1 2 1, v 2 1 1, v 2 1 1, v 0 2 2, v 2 0 2, v 0 15 1, v 0 15 1, v 0 15 1,
  v 0 15 1, v 14 14 3, v 13 14 3, v 14 13 3, v 12 14 3, v 14 12 3, v 13 13 3, v 11 14 3, v 14 11 3,
  v 12 13 3, v 13 12 3, v 10 14 3, v 14 10 3, v 11 13 3, v 13 11 3, v 12 12 3, v 9 14 3, v 14 9 3,
  v 10 13 3, v 13 10 3, v 11 12 3, v 12 11 3, v 8 14 3, v 14 8 3, v 9 13 3, v 13 9 3, v 7 14 3,
  v 14 7 3, v 10 12 3, v 12 10 3, v 12 10 3, v 11 11 3, v 11 11 3, v 8 13 3, v 8 13 3, v 13 8 3,
  v 13 8 3, v 0 14 4, v 14 0 4, v 0 13 3, v 0 13 3, v 14 6 2, v 14 6 2, v 14 6 2, v 14 6 2,
  v 6 14 3, v 9 12 3, v 12 9 2, v 12 9 2, v 5 14 2, v 5 14 2, v 11 10 2, v 11 10 2, v 14 5 2,
  v 14 5 2, v 10 11 3, v 7 13 3, v 13 7 2, v 13 7 2, v 14 4 2, v 14 4 2, v 8 12 2, v 8 12 2,
  v 12 8 2, v 12 8 2, v 4 14 3, v 2 14 3, v 3 14 2, v 3 14 2, v 6 13 2, v 13 6 2, v 14 3 2,
  v 9 11 2, v 11 9 2, v 10 10 2, v 14 2 2, v 1 14 2, v 14 1 2, v 5 13 2, v 13 5 2, v 7 12 2,
  v 12 7 2, v 4 13 2, v 8 11 2, v 11 8 2, v 13 4 2, v 9 10 2, v 10 9 2, v 6 12 2, v 12 6 2,
  v 3 13 2, v 13 3 2, v 2 13 2, v 13 2 2, v 1 13 2, v 7 11 2, v 11 7 2, v 13 1 2, v 5 12 2,
  v 12 5 2, v 8 10 2, v 10 8 2, v 9 9 2, v 4 12 2, v 12 4 2, v 6 11 2, v 6 11 2, v 11 6 2, v 11 6 2,
  v 13 0 3, v 0 12 3, v 3 12 2, v 3 12 2, v 12 3 2, v 7 10 2, v 10 7 2, v 2 12 2, v 12 2 2,
  v 5 11 2, v 11 5 2, v 1 12 2, v 8 9 2, v 9 8 2, v 12 1 2, v 4 11 2, v 12 0 3, v 0 11 3, v 3 11 2,
  v 3 11 2, v 11 0 3, v 0 10 3, v 1 10 2, v 1 10 2, v 11 4 1, v 11 4 1, v 6 10 2, v 10 6 2, v 7 9 2,
  v 7 9 2, v 9 7 2, v 9 7 2, v 10 0 3, v 0 9 3, v 9 0 2, v 9 0 2, v 11 3 1, v 8 8 1, v 2 11 2,
  v 5 10 2, v 11 2 1, v 11 2 1, v 10 5 2, v 1 11 2, v 11 1 2, v 6 9 2, v 9 6 1, v 10 4 1, v 4 10 2,
  v 7 8 2, v 8 7 1, v 8 7 1, v 3 10 1, v 10 3 1, v 5 9 1, v 9 5 1, v 2 10 1, v 10 2 1, v 10 1 1,
  v 6 8 1, v 8 6 1, v 7 7 1, v 4 9 1, v 9 4 1, v 3 9 1, v 9 3 1, v 5 8 1, v 8 5 1, v 2 9 1, v 6 7 1,
  v 7 6 1, v 9 2 1, v 1 9 1, v 9 1 1, v 4 8 1, v 8 4 1, v 5 7 1, v 7 5 1, v 3 8 1, v 8 3 1, v 6 6 1,
  v 2 8 1, v 8 2 1, v 1 8 1, v 4 7 1, v 7 4 1, v 8 1 1, v 8 1 1, v 0 8 2, v 8 0 2, v 5 6 1, v 6 5 1,
  v 1 7 1, v 1 7 1, v 0 7 2, v 7 0 2, v 3 7 1, v 2 7 1, v 0 6 1, v 6 0 1, v 0 5 1, v 5 0 1]

end Huffman

open Huffman

/-- `struct hufftable` -/
structure HuffTable where
  table : Option (ClumpTable PairValue 19)
  linbits : ℕ

def pairTable0 : ClumpTable PairValue 19 := ⟨hufftab0, 0, 5, by decide +kernel⟩

def pairTable1 : ClumpTable PairValue 19 := ⟨hufftab1, 3, 5, by decide +kernel⟩

def pairTable2 : ClumpTable PairValue 19 := ⟨hufftab2, 3, 5, by decide +kernel⟩

def pairTable3 : ClumpTable PairValue 19 := ⟨hufftab3, 3, 5, by decide +kernel⟩

def pairTable5 : ClumpTable PairValue 19 := ⟨hufftab5, 3, 5, by decide +kernel⟩

def pairTable6 : ClumpTable PairValue 19 := ⟨hufftab6, 4, 5, by decide +kernel⟩

def pairTable7 : ClumpTable PairValue 19 := ⟨hufftab7, 4, 5, by decide +kernel⟩

def pairTable8 : ClumpTable PairValue 19 := ⟨hufftab8, 4, 5, by decide +kernel⟩

def pairTable9 : ClumpTable PairValue 19 := ⟨hufftab9, 4, 5, by decide +kernel⟩

def pairTable10 : ClumpTable PairValue 19 := ⟨hufftab10, 4, 5, by decide +kernel⟩

def pairTable11 : ClumpTable PairValue 19 := ⟨hufftab11, 4, 5, by decide +kernel⟩

def pairTable12 : ClumpTable PairValue 19 := ⟨hufftab12, 4, 5, by decide +kernel⟩

def pairTable13 : ClumpTable PairValue 19 := ⟨hufftab13, 4, 5, by decide +kernel⟩

def pairTable15 : ClumpTable PairValue 19 := ⟨hufftab15, 4, 5, by decide +kernel⟩

def pairTable16 : ClumpTable PairValue 19 := ⟨hufftab16, 4, 5, by decide +kernel⟩

def pairTable24 : ClumpTable PairValue 19 := ⟨hufftab24, 4, 5, by decide +kernel⟩

/-- `mad_huff_pair_table`; tables 4 and 14 are not used. -/
def madHuffPairTable : List HuffTable := [
  ⟨pairTable0, 0⟩, ⟨pairTable1, 0⟩, ⟨pairTable2, 0⟩, ⟨pairTable3, 0⟩, ⟨none, 0⟩, ⟨pairTable5, 0⟩,
  ⟨pairTable6, 0⟩, ⟨pairTable7, 0⟩, ⟨pairTable8, 0⟩, ⟨pairTable9, 0⟩, ⟨pairTable10, 0⟩,
  ⟨pairTable11, 0⟩, ⟨pairTable12, 0⟩, ⟨pairTable13, 0⟩, ⟨none, 0⟩, ⟨pairTable15, 0⟩,
  ⟨pairTable16, 1⟩, ⟨pairTable16, 2⟩, ⟨pairTable16, 3⟩, ⟨pairTable16, 4⟩, ⟨pairTable16, 6⟩,
  ⟨pairTable16, 8⟩, ⟨pairTable16, 10⟩, ⟨pairTable16, 13⟩, ⟨pairTable24, 4⟩, ⟨pairTable24, 5⟩,
  ⟨pairTable24, 6⟩, ⟨pairTable24, 7⟩, ⟨pairTable24, 8⟩, ⟨pairTable24, 9⟩, ⟨pairTable24, 11⟩,
  ⟨pairTable24, 13⟩]

/-- Quad tables are guaranteed to have at most one extra lookup. -/
def madHuffQuadTable : List (ClumpTable QuadValue 6) :=
  [⟨hufftabA, 4, 2, by decide +kernel⟩, ⟨hufftabB, 4, 2, by decide +kernel⟩]

/-- `mad_huff_pair_table[select]` -/
def pairTableAt (select : ℕ) : HuffTable := madHuffPairTable.getD select ⟨none, 0⟩

theorem linbits_le (select : ℕ) : (pairTableAt select).linbits ≤ 13 := by
  have hall : ∀ entry ∈ madHuffPairTable, entry.linbits ≤ 13 := by decide +kernel
  rw [pairTableAt, List.getD_eq_getElem?_getD]
  cases hget : madHuffPairTable[select]? with
  | none => exact Nat.zero_le 13
  | some entry => exact hall entry (List.mem_of_getElem? hget)

/-- `mad_huff_quad_table[channel->flags & count1table_select]` -/
def quadTableAt (select : ℕ) : ClumpTable QuadValue 6 :=
  madHuffQuadTable.getD select ⟨hufftabA, 4, 2, by decide +kernel⟩

/-- The tables that `III_huffdecode` works with: `linbits` are few enough for its cache, and a quad
is looked up by 4 bits and once more at most. -/
structure HuffTables where
  pair : ℕ → HuffTable
  quad : ℕ → ClumpTable QuadValue 6
  linbits_le : ∀ select, (pair select).linbits ≤ 13
  startbits_eq : ∀ select, (quad select).startbits = 4
  depth_le : ∀ select, (quad select).depth ≤ 2

theorem quadTableAt_layout (select : ℕ) :
    (quadTableAt select).startbits = 4 ∧ (quadTableAt select).depth ≤ 2 := by
  have hall : ∀ table ∈ madHuffQuadTable, table.startbits = 4 ∧ table.depth ≤ 2 := by
    decide +kernel
  rw [quadTableAt, List.getD_eq_getElem?_getD]
  cases hget : madHuffQuadTable[select]? with
  | none => exact ⟨rfl, Nat.le_refl 2⟩
  | some table => exact hall table (List.mem_of_getElem? hget)

/-- The tables of `huffman.c`. -/
def madHuffTables : HuffTables where
  pair := pairTableAt
  quad := quadTableAt
  linbits_le := linbits_le
  startbits_eq select := (quadTableAt_layout select).1
  depth_le select := (quadTableAt_layout select).2

end Mp3Decoder
