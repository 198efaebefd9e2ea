import Tablesmith.Text.Encoding.Big5Table
import Tablesmith.Text.Encoding.ChineseTables
import Tablesmith.Text.Encoding.Basic

/-!
# Chinese encodings

GB 18030, whose characters have one, two or four bytes, and Big5.
-/

namespace Tablesmith.Text.Encoding

/-- The character for private use of a pair of bytes. -/
def privatePair? (lead trail : UInt8) : Option Char :=
  let column := trail.toNat - if trail < 0x7f then 0x40 else 0x41
  if within 0xaa 0xaf lead ∧ 0xa1 ≤ trail then
    some (Char.ofNat (0xe000 + 94 * (lead.toNat - 0xaa) + (trail.toNat - 0xa1)))
  else if 0xf8 ≤ lead ∧ 0xa1 ≤ trail then
    some (Char.ofNat (0xe234 + 94 * (lead.toNat - 0xf8) + (trail.toNat - 0xa1)))
  else if within 0xa1 0xa7 lead ∧ trail < 0xa1 then
    some (Char.ofNat (0xe4c6 + 96 * (lead.toNat - 0xa1) + column))
  else none

/-- A pair of bytes of GB 18030. -/
def chinesePair? (lead trail : UInt8) : Option Char :=
  if within 0x40 0x7e trail ∨ within 0x80 0xfe trail then
    let column := trail.toNat - if trail < 0x7f then 0x40 else 0x41
    chinese.char? ((lead.toNat - 0x81) * 190 + column) <|> privatePair? lead trail
  else none

/-- The number of a sequence of four bytes. -/
def fourByteNumber (first second third fourth : UInt8) : Nat :=
  (((first.toNat - 0x81) * 10 + (second.toNat - 0x30)) * 126 + (third.toNat - 0x81)) * 10
    + (fourth.toNat - 0x30)

/-- The character of the first plane with the number of a four-byte sequence. -/
def runChar? (number : Nat) : Option Char :=
  (chineseRuns.reverse.find? fun run => run.1 ≤ number).map fun run =>
    Char.ofNat (run.2 + (number - run.1))

def fourByteChar? (number : Nat) : Option Char :=
  if number = 7457 then some '\ue7c7'
  else if number ≤ 39419 then runChar? number
  else if 189000 ≤ number ∧ number ≤ 1237575 then
    some (Char.ofNat (0x10000 + (number - 189000)))
  else none

/-- A byte that stands second or fourth in a sequence of four. -/
def isFourByteDigit (byte : UInt8) : Bool :=
  within 0x30 0x39 byte

/-- A byte of GB 18030 by itself. -/
def chineseSingle? (byte : UInt8) : Option Char :=
  if byte = 0x80 then some '€' else asciiChar? byte

/-- A byte that begins a sequence of two or four. -/
def isChineseLead (byte : UInt8) : Bool :=
  within 0x81 0xfe byte

/-- The character of a sequence of four bytes whose first two are known to fit; `none` if the others
do not, and a replacement if there is no such character. -/
def fourBytes? (first second third fourth : UInt8) : Option Char :=
  if isChineseLead third ∧ isFourByteDigit fourth then
    some ((fourByteChar? (fourByteNumber first second third fourth)).getD replacement)
  else none

/-- Decodes GB 18030; the first `pending` bytes belong to a character that is done. A broken sequence
of four bytes is replaced by its first byte, one that the end cuts short as a whole. -/
def decodeGb18030 (pending : Nat) : List UInt8 → List Char
  | [] => []
  | first :: rest =>
    if 0 < pending then decodeGb18030 (pending - 1) rest
    else if isChineseLead first then
      match rest.take 3 with
      | [] => [replacement]
      | second :: others =>
        if isFourByteDigit second then
          match others with
          | [] => [replacement]
          | [third] =>
            if isChineseLead third then [replacement] else replacement :: decodeGb18030 0 rest
          | third :: fourth :: _ =>
            match fourBytes? first second third fourth with
            | some char => char :: decodeGb18030 3 rest
            | none => replacement :: decodeGb18030 0 rest
        else
          match chinesePair? first second with
          | some char => char :: decodeGb18030 1 rest
          | none => replacement :: decodeGb18030 (if isAsciiByte second then 0 else 1) rest
    else (chineseSingle? first).getD replacement :: decodeGb18030 0 rest

/-- The four pairs of Big5 that stand for a letter and a combining mark. -/
def markedPairs : List (Nat × List Char) :=
  [(1133, ['Ê', '\u0304']), (1135, ['Ê', '\u030c']), (1164, ['ê', '\u0304']),
    (1166, ['ê', '\u030c'])]

def big5Pair? (lead trail : UInt8) : Option (List Char) :=
  if within 0x40 0x7e trail ∨ within 0xa1 0xfe trail then
    let column := trail.toNat - if trail < 0x7f then 0x40 else 0x62
    let number := (lead.toNat - 0x81) * 157 + column
    markedPairs.lookup number <|> (big5.char? number).map ([·])
  else none

/-- Big5 with the extension of Hong Kong. -/
def big5Encoding : PairEncoding where
  single? := asciiChar?
  isLead := within 0x81 0xfe
  pair? := big5Pair?

end Tablesmith.Text.Encoding
