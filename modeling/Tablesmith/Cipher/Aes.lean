/-!
# AES with keys of 256 bits

A block of 16 bytes is taken as four columns of four bytes. Fourteen rounds substitute its bytes,
shift its rows, mix its columns and add a key; decryption undoes these steps in reverse order.

Messages of any length are filled up to whole blocks, each added byte holding the number of added bytes. Every block is
combined with the encrypted block before it, the first with a given block.
-/

namespace Tablesmith.Cipher

/-- Sixteen bytes, column by column. -/
abbrev Block : Type :=
  Vector UInt8 16

namespace Aes

/-- The substitution of bytes. -/
def substitutes : Array UInt8 :=
  #[0x63, 0x7c, 0x77, 0x7b, 0xf2, 0x6b, 0x6f, 0xc5, 0x30, 0x01, 0x67, 0x2b, 0xfe, 0xd7, 0xab, 0x76,
    0xca, 0x82, 0xc9, 0x7d, 0xfa, 0x59, 0x47, 0xf0, 0xad, 0xd4, 0xa2, 0xaf, 0x9c, 0xa4, 0x72, 0xc0,
    0xb7, 0xfd, 0x93, 0x26, 0x36, 0x3f, 0xf7, 0xcc, 0x34, 0xa5, 0xe5, 0xf1, 0x71, 0xd8, 0x31, 0x15,
    0x04, 0xc7, 0x23, 0xc3, 0x18, 0x96, 0x05, 0x9a, 0x07, 0x12, 0x80, 0xe2, 0xeb, 0x27, 0xb2, 0x75,
    0x09, 0x83, 0x2c, 0x1a, 0x1b, 0x6e, 0x5a, 0xa0, 0x52, 0x3b, 0xd6, 0xb3, 0x29, 0xe3, 0x2f, 0x84,
    0x53, 0xd1, 0x00, 0xed, 0x20, 0xfc, 0xb1, 0x5b, 0x6a, 0xcb, 0xbe, 0x39, 0x4a, 0x4c, 0x58, 0xcf,
    0xd0, 0xef, 0xaa, 0xfb, 0x43, 0x4d, 0x33, 0x85, 0x45, 0xf9, 0x02, 0x7f, 0x50, 0x3c, 0x9f, 0xa8,
    0x51, 0xa3, 0x40, 0x8f, 0x92, 0x9d, 0x38, 0xf5, 0xbc, 0xb6, 0xda, 0x21, 0x10, 0xff, 0xf3, 0xd2,
    0xcd, 0x0c, 0x13, 0xec, 0x5f, 0x97, 0x44, 0x17, 0xc4, 0xa7, 0x7e, 0x3d, 0x64, 0x5d, 0x19, 0x73,
    0x60, 0x81, 0x4f, 0xdc, 0x22, 0x2a, 0x90, 0x88, 0x46, 0xee, 0xb8, 0x14, 0xde, 0x5e, 0x0b, 0xdb,
    0xe0, 0x32, 0x3a, 0x0a, 0x49, 0x06, 0x24, 0x5c, 0xc2, 0xd3, 0xac, 0x62, 0x91, 0x95, 0xe4, 0x79,
    0xe7, 0xc8, 0x37, 0x6d, 0x8d, 0xd5, 0x4e, 0xa9, 0x6c, 0x56, 0xf4, 0xea, 0x65, 0x7a, 0xae, 0x08,
    0xba, 0x78, 0x25, 0x2e, 0x1c, 0xa6, 0xb4, 0xc6, 0xe8, 0xdd, 0x74, 0x1f, 0x4b, 0xbd, 0x8b, 0x8a,
    0x70, 0x3e, 0xb5, 0x66, 0x48, 0x03, 0xf6, 0x0e, 0x61, 0x35, 0x57, 0xb9, 0x86, 0xc1, 0x1d, 0x9e,
    0xe1, 0xf8, 0x98, 0x11, 0x69, 0xd9, 0x8e, 0x94, 0x9b, 0x1e, 0x87, 0xe9, 0xce, 0x55, 0x28, 0xdf,
    0x8c, 0xa1, 0x89, 0x0d, 0xbf, 0xe6, 0x42, 0x68, 0x41, 0x99, 0x2d, 0x0f, 0xb0, 0x54, 0xbb, 0x16]

/-- The byte that is substituted by each byte. -/
def sources : Array UInt8 :=
  ((List.range 256).map fun byte => UInt8.ofNat (substitutes.toList.idxOf (UInt8.ofNat byte))).toArray

def substitute (byte : UInt8) : UInt8 :=
  substitutes.getD byte.toNat 0

/-- The byte of a substitute. -/
def restore (byte : UInt8) : UInt8 :=
  sources.getD byte.toNat 0

/-- The double of a byte in the field of 256 elements. -/
def double (byte : UInt8) : UInt8 :=
  if byte &&& 0x80 = 0 then byte <<< 1 else (byte <<< 1) ^^^ 0x1b

/-- The byte itself if a bit of the factor is set, and nothing otherwise. -/
def ifBit (factor bit byte : UInt8) : UInt8 :=
  if factor &&& bit = 0 then 0 else byte

/-- The product of a byte and a factor below 16 in the field of 256 elements. -/
def times (factor byte : UInt8) : UInt8 :=
  let two := double byte
  let four := double two
  ifBit factor 1 byte ^^^ ifBit factor 2 two ^^^ ifBit factor 4 four ^^^ ifBit factor 8 (double four)

/-- The bitwise exclusive or of two blocks. -/
def add (left right : Block) : Block :=
  Vector.zipWith (· ^^^ ·) left right

/-- Row `r` moves left by `r` columns. -/
def shiftRows (block : Block) : Block :=
  Vector.ofFn fun i => block[(i.val + 4 * (i.val % 4)) % 16]

/-- Row `r` moves right by `r` columns. -/
def unshiftRows (block : Block) : Block :=
  Vector.ofFn fun i => block[(i.val + 12 * (i.val % 4)) % 16]

/-- The byte below another in its column, going round at the end. -/
def below (block : Block) (i : Fin 16) (steps : Nat) : UInt8 :=
  block[i.val / 4 * 4 + (i.val % 4 + steps) % 4]

/-- Every byte of a column becomes a sum of multiples of all bytes of the column. -/
def mix (f₀ f₁ f₂ f₃ : UInt8) (block : Block) : Block :=
  Vector.ofFn fun i =>
    times f₀ (below block i 0) ^^^ times f₁ (below block i 1) ^^^ times f₂ (below block i 2)
      ^^^ times f₃ (below block i 3)

def mixColumns : Block → Block :=
  mix 2 3 1 1

/-- Undoes the mixing of the columns. -/
def unmixColumns : Block → Block :=
  mix 14 11 13 9

/-- Four bytes of the key schedule. -/
structure Word where
  b₀ : UInt8
  b₁ : UInt8
  b₂ : UInt8
  b₃ : UInt8

/-- The bitwise exclusive or of two words. -/
def Word.add (left right : Word) : Word :=
  ⟨left.b₀ ^^^ right.b₀, left.b₁ ^^^ right.b₁, left.b₂ ^^^ right.b₂, left.b₃ ^^^ right.b₃⟩

def Word.substituted (word : Word) : Word :=
  ⟨substitute word.b₀, substitute word.b₁, substitute word.b₂, substitute word.b₃⟩

/-- The word with its first byte moved to the end. -/
def Word.rotated (word : Word) : Word :=
  ⟨word.b₁, word.b₂, word.b₃, word.b₀⟩

/-- The words of the key itself. -/
def keyWords : List UInt8 → List Word
  | b₀ :: b₁ :: b₂ :: b₃ :: rest => ⟨b₀, b₁, b₂, b₃⟩ :: keyWords rest
  | _ => []

/-- What is added to the word eight places back: the last word, changed at every fourth place. -/
def scheduleTerm (index : Nat) (constant : UInt8) (last : Word) : Word :=
  if index % 8 = 0 then last.rotated.substituted.add ⟨constant, 0, 0, 0⟩
  else if index % 8 = 4 then last.substituted
  else last

/-- Adds so many words to the schedule, which is given last word first. -/
def extendSchedule : Nat → Nat → UInt8 → List Word → List Word
  | 0, _, _, words => words
  | count + 1, index, constant, words =>
    let last := words.getD 0 ⟨0, 0, 0, 0⟩
    let base := words.getD 7 ⟨0, 0, 0, 0⟩
    extendSchedule count (index + 1) (if index % 8 = 0 then double constant else constant)
      (base.add (scheduleTerm index constant last) :: words)

/-- The blocks that four words each make up; a missing byte is zero. -/
def roundBlocks : List Word → List Block
  | w₀ :: w₁ :: w₂ :: w₃ :: rest =>
    #v[w₀.b₀, w₀.b₁, w₀.b₂, w₀.b₃, w₁.b₀, w₁.b₁, w₁.b₂, w₁.b₃,
      w₂.b₀, w₂.b₁, w₂.b₂, w₂.b₃, w₃.b₀, w₃.b₁, w₃.b₂, w₃.b₃] :: roundBlocks rest
  | _ => []

/-- The round keys of a key of 32 bytes. -/
def roundKeys (key : List UInt8) : List Block :=
  roundBlocks (extendSchedule 52 8 1 (keyWords key).reverse).reverse

/-- The rounds after the first key; the last of them does not mix columns. -/
def encryptRounds : List Block → Block → Block
  | [], block => block
  | [last], block => add last (shiftRows (block.map substitute))
  | key :: rest, block => encryptRounds rest (add key (mixColumns (shiftRows (block.map substitute))))

/-- Encrypts a block under the given round keys. -/
def encrypt : List Block → Block → Block
  | [], block => block
  | first :: rest, block => encryptRounds rest (add first block)

/-- Undoes the rounds after the first key. -/
def decryptRounds : List Block → Block → Block
  | [], block => block
  | [last], block => (unshiftRows (add last block)).map restore
  | key :: rest, block => (unshiftRows (unmixColumns (add key (decryptRounds rest block)))).map restore

/-- Decrypts a block under the given round keys. -/
def decrypt : List Block → Block → Block
  | [], block => block
  | first :: rest, block => add first (decryptRounds rest block)

end Aes

def blockSize : Nat := 16

/-- Fills bytes up to whole blocks; at least one byte is added. -/
def pad (bytes : List UInt8) : List UInt8 :=
  let missing := blockSize - bytes.length % blockSize
  bytes ++ List.replicate missing (UInt8.ofNat missing)

/-- Takes the added bytes off again, if that is what the bytes end with. -/
def unpad? (bytes : List UInt8) : Option (List UInt8) :=
  match bytes.getLast? with
  | none => none
  | some last =>
    let added := last.toNat
    let kept := bytes.take (bytes.length - added)
    if 0 < added ∧ added ≤ blockSize ∧ bytes.drop kept.length = List.replicate added last then
      some kept
    else none

/-- The blocks of a list of bytes whose length is a multiple of the size of a block. -/
def toBlocks? : List UInt8 → Option (List Block)
  | [] => some []
  | b₀ :: b₁ :: b₂ :: b₃ :: b₄ :: b₅ :: b₆ :: b₇ :: b₈ :: b₉ :: b₁₀ :: b₁₁ :: b₁₂ :: b₁₃ :: b₁₄ ::
      b₁₅ :: rest =>
    (toBlocks? rest).map
      (#v[b₀, b₁, b₂, b₃, b₄, b₅, b₆, b₇, b₈, b₉, b₁₀, b₁₁, b₁₂, b₁₃, b₁₄, b₁₅] :: ·)
  | _ => none

def ofBlocks (blocks : List Block) : List UInt8 :=
  blocks.flatMap Vector.toList

/-- Encrypts blocks one after the other; `previous` is combined with the first. -/
def encryptChain (keys : List Block) (previous : Block) : List Block → List Block
  | [] => []
  | block :: rest =>
    let encrypted := Aes.encrypt keys (Aes.add previous block)
    encrypted :: encryptChain keys encrypted rest

/-- Decrypts blocks one after the other; `previous` was combined with the first. -/
def decryptChain (keys : List Block) (previous : Block) : List Block → List Block
  | [] => []
  | block :: rest => Aes.add previous (Aes.decrypt keys block) :: decryptChain keys block rest

end Tablesmith.Cipher
