/-!
# SHA-256

The hash function of 256 bits: messages are padded to blocks of 64 bytes, and each block is mixed
into a state of eight words. HMAC tags a message with a key by it; PBKDF2 repeats that many times, so that keys are slow
to derive from a passphrase.
-/

namespace Tablesmith.Cipher

/-- The state of the hash, and its result. -/
structure Digest where
  a : UInt32
  b : UInt32
  c : UInt32
  d : UInt32
  e : UInt32
  f : UInt32
  g : UInt32
  h : UInt32
deriving DecidableEq

namespace Sha256

/-- The state before the first block. -/
def start : Digest :=
  ⟨0x6a09e667, 0xbb67ae85, 0x3c6ef372, 0xa54ff53a, 0x510e527f, 0x9b05688c, 0x1f83d9ab, 0x5be0cd19⟩

def roundConstants : List UInt32 :=
  [0x428a2f98, 0x71374491, 0xb5c0fbcf, 0xe9b5dba5, 0x3956c25b, 0x59f111f1, 0x923f82a4, 0xab1c5ed5,
    0xd807aa98, 0x12835b01, 0x243185be, 0x550c7dc3, 0x72be5d74, 0x80deb1fe, 0x9bdc06a7, 0xc19bf174,
    0xe49b69c1, 0xefbe4786, 0x0fc19dc6, 0x240ca1cc, 0x2de92c6f, 0x4a7484aa, 0x5cb0a9dc, 0x76f988da,
    0x983e5152, 0xa831c66d, 0xb00327c8, 0xbf597fc7, 0xc6e00bf3, 0xd5a79147, 0x06ca6351, 0x14292967,
    0x27b70a85, 0x2e1b2138, 0x4d2c6dfc, 0x53380d13, 0x650a7354, 0x766a0abb, 0x81c2c92e, 0x92722c85,
    0xa2bfe8a1, 0xa81a664b, 0xc24b8b70, 0xc76c51a3, 0xd192e819, 0xd6990624, 0xf40e3585, 0x106aa070,
    0x19a4c116, 0x1e376c08, 0x2748774c, 0x34b0bcb5, 0x391c0cb3, 0x4ed8aa4a, 0x5b9cca4f, 0x682e6ff3,
    0x748f82ee, 0x78a5636f, 0x84c87814, 0x8cc70208, 0x90befffa, 0xa4506ceb, 0xbef9a3f7, 0xc67178f2]

/-- A word turned to the right by a number of bits between 1 and 31. -/
@[inline] def turn (word bits : UInt32) : UInt32 :=
  (word >>> bits) ||| (word <<< (32 - bits))

/-- One round with the given constant and word of the message schedule. -/
@[inline] def round (s : Digest) (constant word : UInt32) : Digest :=
  let choice := (s.e &&& s.f) ^^^ (~~~s.e &&& s.g)
  let first := s.h + (turn s.e 6 ^^^ turn s.e 11 ^^^ turn s.e 25) + choice + constant + word
  let majority := (s.a &&& s.b) ^^^ (s.a &&& s.c) ^^^ (s.b &&& s.c)
  let second := (turn s.a 2 ^^^ turn s.a 13 ^^^ turn s.a 22) + majority
  ⟨first + second, s.a, s.b, s.c, s.d + first, s.e, s.f, s.g⟩

/-- The sixteen words of the schedule that are in use, oldest first. -/
structure Window where
  w₀ : UInt32
  w₁ : UInt32
  w₂ : UInt32
  w₃ : UInt32
  w₄ : UInt32
  w₅ : UInt32
  w₆ : UInt32
  w₇ : UInt32
  w₈ : UInt32
  w₉ : UInt32
  w₁₀ : UInt32
  w₁₁ : UInt32
  w₁₂ : UInt32
  w₁₃ : UInt32
  w₁₄ : UInt32
  w₁₅ : UInt32

/-- Drops the oldest word and adds the next one. -/
@[inline] def Window.next (w : Window) : Window :=
  let early := turn w.w₁ 7 ^^^ turn w.w₁ 18 ^^^ (w.w₁ >>> 3)
  let late := turn w.w₁₄ 17 ^^^ turn w.w₁₄ 19 ^^^ (w.w₁₄ >>> 10)
  ⟨w.w₁, w.w₂, w.w₃, w.w₄, w.w₅, w.w₆, w.w₇, w.w₈, w.w₉, w.w₁₀, w.w₁₁, w.w₁₂, w.w₁₃, w.w₁₄, w.w₁₅,
    w.w₀ + early + w.w₉ + late⟩

/-- The rounds of a block, one per constant. -/
def rounds : List UInt32 → Window → Digest → Digest
  | [], _, state => state
  | constant :: rest, window, state => rounds rest window.next (round state constant window.w₀)

/-- Mixes a block into the state. -/
def absorb (s : Digest) (window : Window) : Digest :=
  let r := rounds roundConstants window s
  ⟨s.a + r.a, s.b + r.b, s.c + r.c, s.d + r.d, s.e + r.e, s.f + r.f, s.g + r.g, s.h + r.h⟩

/-- The word of four bytes, the first of them highest. -/
def word (a b c d : UInt8) : UInt32 :=
  (a.toUInt32 <<< 24) ||| (b.toUInt32 <<< 16) ||| (c.toUInt32 <<< 8) ||| d.toUInt32

/-- The words of a list of bytes; bytes that make up no word are dropped. -/
def words : List UInt8 → List UInt32
  | a :: b :: c :: d :: rest => word a b c d :: words rest
  | _ => []

/-- Mixes all blocks of sixteen words into the state. -/
def absorbWords (state : Digest) : List UInt32 → Digest
  | w₀ :: w₁ :: w₂ :: w₃ :: w₄ :: w₅ :: w₆ :: w₇ :: w₈ :: w₉ :: w₁₀ :: w₁₁ :: w₁₂ :: w₁₃ :: w₁₄ ::
      w₁₅ :: rest =>
    absorbWords
      (absorb state ⟨w₀, w₁, w₂, w₃, w₄, w₅, w₆, w₇, w₈, w₉, w₁₀, w₁₁, w₁₂, w₁₃, w₁₄, w₁₅⟩) rest
  | _ => state

/-- The bytes of a word, the highest first. -/
def wordBytes (word : UInt32) : List UInt8 :=
  [(word >>> 24).toUInt8, (word >>> 16).toUInt8, (word >>> 8).toUInt8, word.toUInt8]

/-- The last `count` bytes of a number, the highest first. -/
def numberBytes (count n : Nat) : List UInt8 :=
  (List.range count).map fun i => UInt8.ofNat (n / Nat.pow 256 (count - 1 - i))

/-- What follows a message of so many bytes: a set bit, zeros, and the length in bits, so that the
whole fills blocks of 64 bytes. -/
def padding (length : Nat) : List UInt8 :=
  0x80 :: List.replicate ((119 - length % 64) % 64) 0 ++ numberBytes 8 (8 * length)

/-- The hash of a message of which whole blocks are in the state already. -/
def finish (state : Digest) (absorbed : Nat) (message : List UInt8) : Digest :=
  absorbWords state (words (message ++ padding (absorbed + message.length)))

def hash (message : List UInt8) : Digest :=
  finish start 0 message

end Sha256

/-- The 32 bytes of a hash. -/
def Digest.bytes (s : Digest) : List UInt8 :=
  [s.a, s.b, s.c, s.d, s.e, s.f, s.g, s.h].flatMap Sha256.wordBytes

/-- The bitwise exclusive or of two hashes. -/
def Digest.xor (s t : Digest) : Digest :=
  ⟨s.a ^^^ t.a, s.b ^^^ t.b, s.c ^^^ t.c, s.d ^^^ t.d, s.e ^^^ t.e, s.f ^^^ t.f, s.g ^^^ t.g,
    s.h ^^^ t.h⟩

/-- A key for tags: the states of the hash after the first block of the inner and outer message. -/
structure TagKey where
  inner : Digest
  outer : Digest

namespace TagKey

/-- The bytes in a block of the hash. -/
def blockLength : Nat := 64

/-- The state after a block of key bytes, each combined with a fixed byte. -/
def keyState (mask : UInt8) (key : List UInt8) : Digest :=
  let filled := key ++ List.replicate (blockLength - key.length) 0
  Sha256.absorbWords Sha256.start (Sha256.words (filled.map (· ^^^ mask)))

/-- The key of some bytes; more than a block of them are hashed first. -/
def ofBytes (bytes : List UInt8) : TagKey :=
  let key := if blockLength < bytes.length then (Sha256.hash bytes).bytes else bytes
  ⟨keyState 0x36 key, keyState 0x5c key⟩

def tag (key : TagKey) (message : List UInt8) : Digest :=
  Sha256.finish key.outer blockLength (Sha256.finish key.inner blockLength message).bytes

/-- The state after a last block that holds a hash behind a block of key bytes. -/
def finishDigest (state digest : Digest) : Digest :=
  Sha256.absorb state
    ⟨digest.a, digest.b, digest.c, digest.d, digest.e, digest.f, digest.g, digest.h,
      0x80000000, 0, 0, 0, 0, 0, 0, 768⟩

/-- The tag of the bytes of a hash. -/
def tagDigest (key : TagKey) (digest : Digest) : Digest :=
  finishDigest key.outer (finishDigest key.inner digest)

/-- Tags the last tag `count` times over and combines all tags. -/
def iterate (key : TagKey) : Nat → Digest → Digest → Digest
  | 0, _, combined => combined
  | count + 1, last, combined =>
    let next := key.tagDigest last
    iterate key count next (combined.xor next)

/-- A block of derived bytes, by its number from 1. -/
def derivedBlock (key : TagKey) (salt : List UInt8) (rounds number : Nat) : List UInt8 :=
  let first := key.tag (salt ++ Sha256.numberBytes 4 number)
  (key.iterate (rounds - 1) first first).bytes

end TagKey

def deriveBytes (passphrase salt : List UInt8) (rounds length : Nat) : List UInt8 :=
  let key := TagKey.ofBytes passphrase
  ((List.range ((length + 31) / 32)).flatMap fun i =>
    key.derivedBlock salt rounds (i + 1)).take length

end Tablesmith.Cipher
