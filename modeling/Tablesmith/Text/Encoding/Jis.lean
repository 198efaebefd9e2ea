import Tablesmith.Text.Encoding.JisTables
import Tablesmith.Text.Encoding.Basic

/-!
# Japanese encodings

Three encodings of the JIS character sets: Shift JIS, EUC with a third set behind a shift byte, and
the seven-bit encoding that switches sets by escape sequences.
-/

namespace Tablesmith.Text.Encoding

/-- The half-width katakana counted from a byte. -/
def katakana (base byte : UInt8) : Char :=
  Char.ofNat (0xff61 + byte.toNat - base.toNat)

/-- The first number of the rows that are kept for private use. -/
def privateStart : Nat := 8836

/-- The last number of the rows that are kept for private use. -/
def privateEnd : Nat := 10715

/-- The character with a number, in the table or for private use. -/
def shiftedChar? (number : Nat) : Option Char :=
  if privateStart ≤ number ∧ number ≤ privateEnd then
    some (Char.ofNat (0xe000 + number - privateStart))
  else jis0208.char? number

def shiftJisPair? (lead trail : UInt8) : Option (List Char) :=
  if within 0x40 0x7e trail ∨ within 0x80 0xfc trail then
    let row := lead.toNat - if lead < 0xa0 then 0x81 else 0xc1
    let column := trail.toNat - if trail < 0x7f then 0x40 else 0x41
    (shiftedChar? (row * 188 + column)).map ([·])
  else none

def shiftJisSingle? (byte : UInt8) : Option Char :=
  if within 0xa1 0xdf byte then some (katakana 0xa1 byte)
  else if byte ≤ 0x80 then some (Char.ofNat byte.toNat)
  else none

def shiftJis : PairEncoding where
  single? := shiftJisSingle?
  isLead := fun byte => within 0x81 0x9f byte || within 0xe0 0xfc byte
  pair? := shiftJisPair?

/-- The number of a pair of bytes of EUC, each in a row of 94. -/
def eucNumber (lead trail : UInt8) : Nat :=
  (lead.toNat - 0xa1) * 94 + (trail.toNat - 0xa1)

/-- A byte of EUC beyond ASCII. -/
def isEucByte (byte : UInt8) : Bool :=
  within 0xa1 0xfe byte

/-- A pair of EUC: a half-width katakana behind a shift byte, or a character of JIS X 0208. -/
def eucPair? (lead trail : UInt8) : Option Char :=
  if lead = 0x8e ∧ within 0xa1 0xdf trail then some (katakana 0xa1 trail)
  else if isEucByte lead ∧ isEucByte trail then jis0208.char? (eucNumber lead trail)
  else none

/-- A byte of EUC that does not stand alone. -/
def isEucLead (byte : UInt8) : Bool :=
  byte = 0x8e || byte = 0x8f || isEucByte byte

/-- A character of JIS X 0212. -/
def eucThird? (lead trail : UInt8) : Option Char :=
  if isEucByte trail then jis0212.char? (eucNumber lead trail) else none

/-- Decodes EUC. Behind the other shift byte a pair is a character of JIS X 0212. -/
def decodeEucJp : List UInt8 → List Char
  | [] => []
  | [byte] => [(asciiChar? byte).getD replacement]
  | [lead, trail] =>
    if lead = 0x8f ∧ isEucByte trail then [replacement]
    else if isEucLead lead then
      match eucPair? lead trail with
      | some char => [char]
      | none => replacement :: if isAsciiByte trail then decodeEucJp [trail] else []
    else (asciiChar? lead).getD replacement :: decodeEucJp [trail]
  | lead :: trail :: last :: rest =>
    if lead = 0x8f ∧ isEucByte trail then
      match eucThird? trail last with
      | some char => char :: decodeEucJp rest
      | none =>
        replacement :: if isAsciiByte last then decodeEucJp (last :: rest) else decodeEucJp rest
    else if isEucLead lead then
      match eucPair? lead trail with
      | some char => char :: decodeEucJp (last :: rest)
      | none =>
        replacement ::
          if isAsciiByte trail then decodeEucJp (trail :: last :: rest)
          else decodeEucJp (last :: rest)
    else (asciiChar? lead).getD replacement :: decodeEucJp (trail :: last :: rest)

/-- The sets between which escape sequences switch. -/
inductive EscapedSet
  | ascii
  | roman
  | katakana
  | kanji
deriving DecidableEq

/-- The set that the two bytes behind an escape byte switch to. -/
def EscapedSet.ofEscape? (first second : UInt8) : Option EscapedSet :=
  if first = 0x28 ∧ second = 0x42 then some ascii
  else if first = 0x28 ∧ second = 0x4a then some roman
  else if first = 0x28 ∧ second = 0x49 then some katakana
  else if first = 0x24 ∧ (second = 0x40 ∨ second = 0x42) then some kanji
  else none

/-- A byte of one of the sets whose characters are single bytes. -/
def EscapedSet.single? (set : EscapedSet) (byte : UInt8) : Option Char :=
  match set with
  | katakana =>
    if within 0x21 0x5f byte then some (Encoding.katakana 0x21 byte) else none
  | roman =>
    if byte = 0x5c then some '¥'
    else if byte = 0x7e then some '‾'
    else if byte = 0x0e ∨ byte = 0x0f then none
    else asciiChar? byte
  | _ => if byte = 0x0e ∨ byte = 0x0f then none else asciiChar? byte

/-- A pair of the set of two-byte characters. -/
def kanjiPair? (lead trail : UInt8) : Option Char :=
  if within 0x21 0x7e trail then
    jis0208.char? ((lead.toNat - 0x21) * 94 + (trail.toNat - 0x21))
  else none

/-- The set that a text switches to, if an escape sequence stands at its beginning. -/
def switchTo? : List UInt8 → Option EscapedSet
  | 0x1b :: first :: second :: _ => EscapedSet.ofEscape? first second
  | _ => none

/-- Decodes the encoding with escape sequences. `set` is the current set, and `switched` says that
nothing came after the last switch: two switches in a row are replaced. The two bytes behind the
escape byte of a switch are passed over as `pending`. -/
def decodeEscaped (set : EscapedSet) (switched : Bool) (pending : Nat) : List UInt8 → List Char
  | [] => []
  | byte :: rest =>
    if 0 < pending then decodeEscaped set switched (pending - 1) rest
    else if byte = 0x1b then
      match switchTo? (byte :: rest) with
      | some next =>
        if switched then replacement :: decodeEscaped next true 2 rest
        else decodeEscaped next true 2 rest
      | none => replacement :: decodeEscaped set false 0 rest
    else if set = .kanji ∧ within 0x21 0x7e byte then
      match rest.head? with
      | none => [replacement]
      | some trail =>
        if trail = 0x1b then replacement :: decodeEscaped set false 0 rest
        else (kanjiPair? byte trail).getD replacement :: decodeEscaped set false 1 rest
    else if set = .kanji then replacement :: decodeEscaped set false 0 rest
    else (set.single? byte).getD replacement :: decodeEscaped set false 0 rest

end Tablesmith.Text.Encoding
