/-
Module: Criteria.Digest.Sha256
Purpose: The SHA-256 digest of a sequence of bytes.
Main exports:
  sha256, hexDigits
-/

namespace Criteria.Digest

/-- The 64 round constants: the first 32 bits of the fractional parts of the cube roots of
the first 64 primes. -/
def roundConstants : Array UInt32 :=
  #[0x428a2f98, 0x71374491, 0xb5c0fbcf, 0xe9b5dba5, 0x3956c25b, 0x59f111f1, 0x923f82a4, 0xab1c5ed5,
    0xd807aa98, 0x12835b01, 0x243185be, 0x550c7dc3, 0x72be5d74, 0x80deb1fe, 0x9bdc06a7, 0xc19bf174,
    0xe49b69c1, 0xefbe4786, 0x0fc19dc6, 0x240ca1cc, 0x2de92c6f, 0x4a7484aa, 0x5cb0a9dc, 0x76f988da,
    0x983e5152, 0xa831c66d, 0xb00327c8, 0xbf597fc7, 0xc6e00bf3, 0xd5a79147, 0x06ca6351, 0x14292967,
    0x27b70a85, 0x2e1b2138, 0x4d2c6dfc, 0x53380d13, 0x650a7354, 0x766a0abb, 0x81c2c92e, 0x92722c85,
    0xa2bfe8a1, 0xa81a664b, 0xc24b8b70, 0xc76c51a3, 0xd192e819, 0xd6990624, 0xf40e3585, 0x106aa070,
    0x19a4c116, 0x1e376c08, 0x2748774c, 0x34b0bcb5, 0x391c0cb3, 0x4ed8aa4a, 0x5b9cca4f, 0x682e6ff3,
    0x748f82ee, 0x78a5636f, 0x84c87814, 0x8cc70208, 0x90befffa, 0xa4506ceb, 0xbef9a3f7, 0xc67178f2]

/-- The eight working words of the digest. -/
structure Words where
  a : UInt32
  b : UInt32
  c : UInt32
  d : UInt32
  e : UInt32
  f : UInt32
  g : UInt32
  h : UInt32
deriving Repr, DecidableEq

/-- The first 32 bits of the fractional parts of the square roots of the first eight
primes. -/
def Words.initial : Words :=
  ⟨0x6a09e667, 0xbb67ae85, 0x3c6ef372, 0xa54ff53a, 0x510e527f, 0x9b05688c, 0x1f83d9ab, 0x5be0cd19⟩

/-- Word by word sum. -/
def Words.add (first second : Words) : Words :=
  ⟨first.a + second.a, first.b + second.b, first.c + second.c, first.d + second.d,
    first.e + second.e, first.f + second.f, first.g + second.g, first.h + second.h⟩

/-- Rotate a word to the right. -/
def rotateRight (word amount : UInt32) : UInt32 :=
  (word >>> amount) ||| (word <<< (32 - amount))

/-- The four bytes of a word, most significant first. -/
def wordBytes (word : UInt32) : List UInt8 :=
  [(word >>> 24).toUInt8, (word >>> 16).toUInt8, (word >>> 8).toUInt8, word.toUInt8]

/-- The message with the bit 1, zeros, and its length in bits, filled up to whole blocks of
64 bytes. -/
def padded (message : List UInt8) : Array UInt8 :=
  let length := message.length
  let zeros := (119 - length % 64) % 64
  let bits := UInt64.ofNat (8 * length)
  let high := (bits >>> 32).toUInt32
  (message ++ 0x80 :: List.replicate zeros 0 ++ wordBytes high ++ wordBytes bits.toUInt32).toArray

/-- The word that starts at a byte. -/
def wordAt (bytes : Array UInt8) (start : Nat) : UInt32 :=
  let byte := fun k => (bytes.getD (start + k) 0).toUInt32
  (byte 0 <<< 24) ||| (byte 1 <<< 16) ||| (byte 2 <<< 8) ||| byte 3

/-- The 64 words that one block is spread to. -/
def schedule (bytes : Array UInt8) (block : Nat) : Array UInt32 :=
  let first := ((List.range 16).map fun k => wordAt bytes (64 * block + 4 * k)).toArray
  (List.range 48).foldl (fun words k =>
    let early := words.getD (k + 1) 0
    let late := words.getD (k + 14) 0
    let s0 := rotateRight early 7 ^^^ rotateRight early 18 ^^^ (early >>> 3)
    let s1 := rotateRight late 17 ^^^ rotateRight late 19 ^^^ (late >>> 10)
    words.push (words.getD k 0 + s0 + words.getD (k + 9) 0 + s1)) first

/-- One of the 64 rounds. -/
def round (w : Words) (constant word : UInt32) : Words :=
  let s1 := rotateRight w.e 6 ^^^ rotateRight w.e 11 ^^^ rotateRight w.e 25
  let choice := (w.e &&& w.f) ^^^ (~~~w.e &&& w.g)
  let first := w.h + s1 + choice + constant + word
  let s0 := rotateRight w.a 2 ^^^ rotateRight w.a 13 ^^^ rotateRight w.a 22
  let majority := (w.a &&& w.b) ^^^ (w.a &&& w.c) ^^^ (w.b &&& w.c)
  ⟨first + s0 + majority, w.a, w.b, w.c, w.d + first, w.e, w.f, w.g⟩

/-- Take one block into the digest. -/
def absorb (bytes : Array UInt8) (words : Words) (block : Nat) : Words :=
  let spread := schedule bytes block
  words.add ((List.range 64).foldl (fun w k =>
    round w (roundConstants.getD k 0) (spread.getD k 0)) words)

/-- The 32 bytes of the SHA-256 digest. -/
def sha256 (message : List UInt8) : List UInt8 :=
  let bytes := padded message
  let w := (List.range (bytes.size / 64)).foldl (absorb bytes) Words.initial
  [w.a, w.b, w.c, w.d, w.e, w.f, w.g, w.h].flatMap wordBytes

/-- Two lower-case hexadecimal digits for every byte. -/
def hexDigits (bytes : List UInt8) : String :=
  String.ofList (bytes.flatMap fun byte =>
    [Nat.digitChar (byte.toNat / 16), Nat.digitChar (byte.toNat % 16)])

end Criteria.Digest
