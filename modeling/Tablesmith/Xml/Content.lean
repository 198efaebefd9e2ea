import Tablesmith.Number.Numeral

/-!
# Texts of XML

What the bytes of texts, of references and of attribute values stand for. All of them are in UTF-8. What can be wrong with
a document, as far as it is looked at, is a fault.
-/

namespace Tablesmith

/-- The reason why a document cannot be read. -/
inductive XmlFault
  | malformed
  | badAttribute
  | badEncoding
  | unknownEntity (name : String)
  | badNumber
deriving DecidableEq

namespace XmlFault

def message : XmlFault → String
  | malformed => "the document is malformed"
  | badAttribute => "an attribute is malformed"
  | badEncoding => "text is not encoded in UTF-8"
  | unknownEntity name => "Parse entity '" ++ name ++ "' failed"
  | badNumber => "invalid digit found in string"

end XmlFault

end Tablesmith

namespace Tablesmith.Xml

open Tablesmith.Number

/-- The characters of bytes in UTF-8. -/
def decode? (bytes : List UInt8) : Option (List Char) :=
  (String.fromUTF8? ⟨bytes.toArray⟩).map String.toList

/-- The next line: a character that ends a line in some system. -/
def nextLine : Char := '\u0085'

/-- The character that separates lines. -/
def lineSeparator : Char := '\u2028'

/-- Every way to end a line becomes a line feed. -/
def normalizeLines : List Char → List Char
  | [] => []
  | '\r' :: c :: rest =>
    if c = '\n' ∨ c = nextLine then '\n' :: normalizeLines rest
    else '\n' :: normalizeLines (c :: rest)
  | c :: rest =>
    (if c = '\r' ∨ c = nextLine ∨ c = lineSeparator then '\n' else c) :: normalizeLines rest

def decodeText (bytes : List UInt8) : Except XmlFault (List Char) :=
  match decode? bytes with
  | some chars => .ok (normalizeLines chars)
  | none => .error .badEncoding

/-- The entities that every document knows. -/
def entity? (name : List Char) : Option Char :=
  if name = ['l', 't'] then some '<'
  else if name = ['g', 't'] then some '>'
  else if name = ['a', 'm', 'p'] then some '&'
  else if name = ['a', 'p', 'o', 's'] then some '\''
  else if name = ['q', 'u', 'o', 't'] then some '"'
  else none

def scalar? (code : Nat) : Option Char :=
  if code < 0xd800 ∨ (0xdfff < code ∧ code < 0x110000) then some (Char.ofNat code) else none

/-- The number in a character reference: 32 bits, in hexadecimal digits behind an `x`. -/
def referenceCode? : List Char → Option Nat
  | 'x' :: digits => readHex? (Nat.pow 2 32) (String.ofList digits)
  | digits => readNatural? (Nat.pow 2 32) (String.ofList digits)

/-- The characters that a reference in a text stands for; a number that no character has stands for
none. -/
def resolve (written : List Char) : Except XmlFault (List Char) :=
  match written with
  | '#' :: digits =>
    match referenceCode? digits with
    | some code => .ok (scalar? code).toList
    | none => .error .badNumber
  | _ =>
    match entity? written with
    | some c => .ok [c]
    | none => .error (.unknownEntity (String.ofList written))

/-- The characters that the bytes of a reference in a text stand for. -/
def decodeReference (bytes : List UInt8) : Except XmlFault (List Char) := do
  resolve (← decodeText bytes)

/-- The character that a reference in an attribute value stands for. Its number has no sign. -/
def attributeReference? (written : List Char) : Option Char :=
  match written with
  | '#' :: digits =>
    if digits.contains '+' then none
    else ((referenceCode? digits).filter (· ≠ 0)).bind scalar?
  | _ => entity? written

/-- Replaces the references in an attribute value. `open?` holds the characters of a reference that
has begun, in reverse order. -/
def unescape? (open? : Option (List Char)) : List Char → Option (List Char)
  | [] => if open? = none then some [] else none
  | c :: rest =>
    match open? with
    | none => if c = '&' then unescape? (some []) rest else (unescape? none rest).map (c :: ·)
    | some held =>
      if c = '&' then none
      else if c = ';' then do
        let resolved ← attributeReference? held.reverse
        let others ← unescape? none rest
        return resolved :: others
      else unescape? (some (c :: held)) rest

def attributeText (bytes : List UInt8) : Except XmlFault String :=
  match (decode? bytes).bind (unescape? none) with
  | some chars => .ok (String.ofList chars)
  | none => .error .malformed

end Tablesmith.Xml
