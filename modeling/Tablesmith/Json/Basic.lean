import Tablesmith.Number.Numeral

/-!
# JSON values

Numbers and strings are kept as they are written; the text of a string is decoded where it is asked
for, so a value that nobody asks for is never refused because of what it would mean.

A string is written between quotes. Quotes, backslashes and control characters are escaped; every
other character stands for itself. Characters beyond the first plane may be escaped as a pair of
surrogates. Every element and every member stands on a line of its own, two spaces further in than what holds it. Arrays
and objects without content are written without a line break.
-/

namespace Tablesmith

/-- A JSON value. Strings and names are the characters between the quotes. -/
inductive Json
  | null
  | bool (value : Bool)
  | number (written : List Char)
  | string (written : List Char)
  | array (elements : List Json)
  | object (members : List (List Char × Json))

end Tablesmith

namespace Tablesmith.Json

open Tablesmith.Number

/-- A hexadecimal digit in small letters. -/
def hexDigit (value : Nat) : Char :=
  if value < 10 then Char.ofNat ('0'.toNat + value) else Char.ofNat ('a'.toNat + (value - 10))

/-- How a character is written between quotes. -/
def escapeChar (c : Char) : List Char :=
  if c = '"' then ['\\', '"']
  else if c = '\\' then ['\\', '\\']
  else if c = '\x08' then ['\\', 'b']
  else if c = '\t' then ['\\', 't']
  else if c = '\n' then ['\\', 'n']
  else if c = '\x0c' then ['\\', 'f']
  else if c = '\r' then ['\\', 'r']
  else if c.toNat < 0x20 then
    ['\\', 'u', '0', '0', hexDigit (c.toNat / 16), hexDigit (c.toNat % 16)]
  else [c]

/-- How a text is written between quotes. -/
def escape (text : List Char) : List Char :=
  text.flatMap escapeChar

/-- The code unit that four hexadecimal digits write. -/
def codeUnit? (a b c d : Char) : Option Nat :=
  readHexDigits? [a, b, c, d]

/-- A code unit that stands for itself. -/
def plainUnit? (unit : Nat) : Option Char :=
  if 0xd800 ≤ unit ∧ unit < 0xe000 then none else some (Char.ofNat unit)

def pairedUnits? (leading trailing : Nat) : Option Char :=
  if 0xd800 ≤ leading ∧ leading < 0xdc00 ∧ 0xdc00 ≤ trailing ∧ trailing < 0xe000 then
    some (Char.ofNat (0x10000 + (leading - 0xd800) * 0x400 + (trailing - 0xdc00)))
  else none

def shortEscape? (letter : Char) : Option Char :=
  if letter = '"' ∨ letter = '\\' ∨ letter = '/' then some letter
  else if letter = 'b' then some '\x08'
  else if letter = 'f' then some '\x0c'
  else if letter = 'n' then some '\n'
  else if letter = 'r' then some '\r'
  else if letter = 't' then some '\t'
  else none

/-- The text that is written between quotes; a surrogate without its partner has none. -/
def unescape? : List Char → Option (List Char)
  | [] => some []
  | '\\' :: 'u' :: a :: b :: c :: d :: rest =>
    match codeUnit? a b c d with
    | none => none
    | some unit =>
      match plainUnit? unit with
      | some character => (unescape? rest).map (character :: ·)
      | none =>
        match rest with
        | '\\' :: 'u' :: e :: f :: g :: h :: rest =>
          match (codeUnit? e f g h).bind (pairedUnits? unit) with
          | some character => (unescape? rest).map (character :: ·)
          | none => none
        | _ => none
  | '\\' :: letter :: rest =>
    match shortEscape? letter with
    | some character => (unescape? rest).map (character :: ·)
    | none => none
  | c :: rest => if c = '"' ∨ c = '\\' ∨ c.toNat < 0x20 then none else
    (unescape? rest).map (c :: ·)

def ofText (text : String) : Json :=
  .string (escape text.toList)

/-- An object whose members have the given names. -/
def ofMembers (members : List (String × Json)) : Json :=
  .object (members.map fun member => (escape member.1.toList, member.2))

/-- A line break and the indentation of a level. -/
def newline (level : Nat) : List Char :=
  '\n' :: List.replicate (2 * level) ' '

def quote (written : List Char) : List Char :=
  '"' :: written ++ ['"']

mutual

/-- A value that begins on a line of the given level. -/
def print (level : Nat) : Json → List Char
  | .null => ['n', 'u', 'l', 'l']
  | .bool true => ['t', 'r', 'u', 'e']
  | .bool false => ['f', 'a', 'l', 's', 'e']
  | .number written => written
  | .string written => quote written
  | .array [] => ['[', ']']
  | .array (element :: rest) =>
    '[' :: newline (level + 1) ++ print (level + 1) element ++ printElements (level + 1) rest
      ++ newline level ++ [']']
  | .object [] => ['\x7b', '\x7d']
  | .object ((name, value) :: rest) =>
    '\x7b' :: newline (level + 1) ++ quote name ++ [':', ' '] ++ print (level + 1) value
      ++ printMembers (level + 1) rest ++ newline level ++ ['\x7d']

/-- The elements of an array after the first. -/
def printElements (level : Nat) : List Json → List Char
  | [] => []
  | element :: rest => ',' :: newline level ++ print level element ++ printElements level rest

/-- The members of an object after the first. -/
def printMembers (level : Nat) : List (List Char × Json) → List Char
  | [] => []
  | (name, value) :: rest =>
    ',' :: newline level ++ quote name ++ [':', ' '] ++ print level value
      ++ printMembers level rest

end

def write (value : Json) : String :=
  String.ofList (print 0 value)

end Tablesmith.Json
