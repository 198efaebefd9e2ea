import Tablesmith.Biff.Record
import Tablesmith.Text.Encoding.CodePage

/-!
# Texts in records

A text is a count of characters, an option byte and the characters, one or two bytes each. A shared
text may carry the data of formatting runs and of a phonetic guide, and may go on in the next
continuation behind an option byte of its own.
-/

namespace Tablesmith.Biff

open Tablesmith.Text

/-- The option for characters of two bytes. -/
def isWide (options : Nat) : Bool :=
  options % 2 = 1

/-- The option for the data of a phonetic guide. -/
def hasGuide (options : Nat) : Bool :=
  options / 4 % 2 = 1

/-- The option for the data of formatting runs. -/
def hasRuns (options : Nat) : Bool :=
  options / 8 % 2 = 1

/-- Decodes characters. Narrow ones are the lower bytes of UTF-16 if that is the encoding of the
workbook. -/
def decodeCharacters (narrow : Encoding) (wide : Bool) (bytes : List UInt8) : List Char :=
  if wide then Encoding.decodeUtf16 .little bytes
  else
    match narrow with
    | .utf16 .little => Encoding.decodeLatin1 bytes
    | encoding => encoding.decode bytes

/-- Reads up to `count` characters and gives the number of those that were there. -/
def readCharacters (narrow : Encoding) (wide : Bool) (count : Nat) :
    Reading (List Char × Nat) := do
  let width := if wide then 2 else 1
  let bytes ← readUpTo (count * width)
  return (decodeCharacters narrow wide bytes, bytes.length / width)

/-- Reads an option byte and up to `count` characters. -/
def readPlainFragment (narrow : Encoding) (count : Nat) : Reading (List Char × Nat) := do
  let options ← readNumber 1
  readCharacters narrow (isWide options) count

def readOptional (present : Bool) (length : Nat) : Reading Nat :=
  if present then readNumber length else return 0

/-- Reads the first fragment of a shared text together with what it carries. -/
def readRichFragment (narrow : Encoding) (count : Nat) : Reading (List Char × Nat) := do
  let options ← readNumber 1
  let runs ← readOptional (hasRuns options) 2
  let guide ← readOptional (hasGuide options) 4
  let fragment ← readCharacters narrow (isWide options) count
  skip (4 * runs)
  skip guide
  return fragment

/-- Reads a text with a count of `length` bytes. -/
def readText (narrow : Encoding) (length : Nat) : Reading String := do
  let count ← readNumber length
  let fragment ← readPlainFragment narrow count
  return String.ofList fragment.1

/-- Reads the fragments that are still missing, none of which may be without characters. -/
def readFurther (narrow : Encoding) (missing : Nat) : Reading (List Char) := do
  if _done : missing = 0 then return []
  else
    let fragment ← readPlainFragment narrow missing
    if _stuck : fragment.2 = 0 then throw ⟨missing⟩
    else
      let rest ← readFurther narrow (missing - fragment.2)
      return fragment.1 ++ rest
termination_by missing

def readSharedText (narrow : Encoding) : Reading String := do
  let count ← readNumber 2
  let fragment ← readRichFragment narrow count
  let rest ← readFurther narrow (count - fragment.2)
  return String.ofList (fragment.1 ++ rest)

def readSharedTexts (narrow : Encoding) : Nat → Reading (List String)
  | 0 => return []
  | count + 1 => do
    let text ← readSharedText narrow
    let rest ← readSharedTexts narrow count
    return text :: rest

/-- Reads the table of shared texts: the number of uses, the number of texts and the texts. -/
def readSharedTable (narrow : Encoding) : Reading (List String) := do
  skip 4
  let count ← readNumber 4
  readSharedTexts narrow count

end Tablesmith.Biff
