/-!
# Encodings

UTF-8 and UTF-16 in both byte orders, decoded without failing: what is no character becomes the
replacement character.

All other character sets number their characters; a table lists them in rows, with a full stop for a number
that has no character. In encodings of several bytes a character is one byte, or a lead byte and a trail byte. A pair that
is no character is replaced; if its trail byte is ASCII, it is read again by itself.
-/

namespace Tablesmith.Text.Encoding

/-- What stands for bytes that are no character. -/
def replacement : Char := '\ufffd'

/-- The order of the two bytes of a code unit. -/
inductive ByteOrder
  | little
  | big
deriving DecidableEq

/-- The code unit of two bytes. -/
def ByteOrder.unit (order : ByteOrder) (first second : UInt8) : Nat :=
  match order with
  | little => first.toNat + 256 * second.toNat
  | big => 256 * first.toNat + second.toNat

/-- The first half of a surrogate pair. -/
def isLeading (unit : Nat) : Bool :=
  0xd800 ≤ unit && unit < 0xdc00

/-- The second half of a surrogate pair. -/
def isTrailing (unit : Nat) : Bool :=
  0xdc00 ≤ unit && unit < 0xe000

def pairChar (leading trailing : Nat) : Char :=
  Char.ofNat (0x10000 + (leading - 0xd800) * 0x400 + (trailing - 0xdc00))

/-- The character of a code unit that stands alone. -/
def unitChar (unit : Nat) : Char :=
  if isLeading unit ∨ isTrailing unit then replacement else Char.ofNat unit

/-- Decodes code units; half of a pair without the other half is replaced. -/
def decodeUnits : List Nat → List Char
  | [] => []
  | [unit] => [unitChar unit]
  | unit :: next :: rest =>
    if isLeading unit && isTrailing next then pairChar unit next :: decodeUnits rest
    else unitChar unit :: decodeUnits (next :: rest)

/-- The code units of a list of bytes. A single byte at the end belongs to no unit; it takes half a
pair before it along and is replaced together with it. -/
def units (order : ByteOrder) : List UInt8 → List Nat
  | [] => []
  | [_] => [0xfffd]
  | [first, second, _] =>
    let unit := order.unit first second
    if isLeading unit then [0xfffd] else [unit, 0xfffd]
  | first :: second :: rest => order.unit first second :: units order rest

/-- Decodes UTF-16. -/
def decodeUtf16 (order : ByteOrder) (bytes : List UInt8) : List Char :=
  decodeUnits (units order bytes)

/-- How a character of several bytes goes on: how many bytes are still to come, the range of the next
one and the bits read so far. -/
structure Utf8Lead where
  following : Nat
  least : UInt8
  greatest : UInt8
  bits : Nat

/-- How a character begins with a byte that is not ASCII. -/
def utf8Lead? (byte : UInt8) : Option Utf8Lead :=
  if 0xc2 ≤ byte ∧ byte ≤ 0xdf then some ⟨1, 0x80, 0xbf, byte.toNat % 32⟩
  else if byte = 0xe0 then some ⟨2, 0xa0, 0xbf, 0⟩
  else if byte = 0xed then some ⟨2, 0x80, 0x9f, 13⟩
  else if 0xe1 ≤ byte ∧ byte ≤ 0xef then some ⟨2, 0x80, 0xbf, byte.toNat % 16⟩
  else if byte = 0xf0 then some ⟨3, 0x90, 0xbf, 0⟩
  else if 0xf1 ≤ byte ∧ byte ≤ 0xf3 then some ⟨3, 0x80, 0xbf, byte.toNat % 8⟩
  else if byte = 0xf4 then some ⟨3, 0x80, 0x8f, 4⟩
  else none

/-- Decodes UTF-8; `open?` is a character that has begun. What cannot go on is replaced as far as it
was read. -/
def decodeUtf8From (open? : Option Utf8Lead) : List UInt8 → List Char
  | [] => if open?.isSome then [replacement] else []
  | byte :: rest =>
    let begin? : List Char :=
      if byte < 0x80 then Char.ofNat byte.toNat :: decodeUtf8From none rest
      else
        match utf8Lead? byte with
        | some lead => decodeUtf8From (some lead) rest
        | none => replacement :: decodeUtf8From none rest
    match open? with
    | none => begin?
    | some lead =>
      if lead.least ≤ byte ∧ byte ≤ lead.greatest then
        let bits := lead.bits * 64 + byte.toNat % 64
        if lead.following = 1 then Char.ofNat bits :: decodeUtf8From none rest
        else decodeUtf8From (some ⟨lead.following - 1, 0x80, 0xbf, bits⟩) rest
      else replacement :: begin?

/-- Decodes UTF-8. -/
def decodeUtf8 (bytes : List UInt8) : List Char :=
  decodeUtf8From none bytes

/-- Every byte is the character with its number. -/
def decodeLatin1 (bytes : List UInt8) : List Char :=
  bytes.map fun byte => Char.ofNat byte.toNat

/-- Decodes UTF-16 with the lower byte first, unless a mark at the beginning says that it is another
encoding. -/
def decodeMarked : List UInt8 → List Char
  | 0xef :: 0xbb :: 0xbf :: rest => decodeUtf8 rest
  | 0xfe :: 0xff :: rest => decodeUtf16 .big rest
  | 0xff :: 0xfe :: rest => decodeUtf16 .little rest
  | bytes => decodeUtf16 .little bytes

/-- The characters of a set in rows of one width; a row may lack characters at its end. -/
structure CodeTable where
  width : Nat
  rows : Array String

/-- What stands in a table for a number without a character. -/
def gap : Char := '.'

def CodeTable.char? (table : CodeTable) (number : Nat) : Option Char :=
  ((table.rows[number / table.width]?).bind fun row =>
    row.toList[number % table.width]?).filter (· ≠ gap)

/-- What the bytes of an encoding mean, singly and in pairs. -/
structure PairEncoding where
  single? : UInt8 → Option Char
  isLead : UInt8 → Bool
  pair? : UInt8 → UInt8 → Option (List Char)

def isAsciiByte (byte : UInt8) : Bool :=
  byte < 0x80

def asciiChar? (byte : UInt8) : Option Char :=
  if isAsciiByte byte then some (Char.ofNat byte.toNat) else none

/-- The byte lies between two bounds. -/
def within (least greatest byte : UInt8) : Bool :=
  least ≤ byte && byte ≤ greatest

/-- Decodes bytes singly and in pairs. -/
def PairEncoding.decode (encoding : PairEncoding) : List UInt8 → List Char
  | [] => []
  | [byte] =>
    [if encoding.isLead byte then replacement else (encoding.single? byte).getD replacement]
  | lead :: trail :: rest =>
    if encoding.isLead lead then
      match encoding.pair? lead trail with
      | some chars => chars ++ encoding.decode rest
      | none =>
        replacement ::
          if isAsciiByte trail then encoding.decode (trail :: rest) else encoding.decode rest
    else (encoding.single? lead).getD replacement :: encoding.decode (trail :: rest)

end Tablesmith.Text.Encoding
