import Tablesmith.Json.Basic
import Tablesmith.Text.Characters

/-!
# Reading JSON

Reads one value that makes up a whole text, but for blanks around it. Every step takes characters
off the text, so the length of the text bounds the number of steps.
-/

namespace Tablesmith.Json

open Tablesmith.Text

/-- What may stand between tokens. -/
def isSpace (c : Char) : Bool :=
  c == ' ' || c == '\n' || c == '\t' || c == '\r'

/-- The text from its next token on. -/
def skipSpace (chars : List Char) : List Char :=
  chars.dropWhile isSpace

/-- The characters of a string up to its closing quote, and what follows. Escapes are checked for
their form alone. -/
def takeString? : List Char → Option (List Char × List Char)
  | [] => none
  | '"' :: rest => some ([], rest)
  | '\\' :: 'u' :: a :: b :: c :: d :: rest =>
    if (codeUnit? a b c d).isSome then
      (takeString? rest).map fun taken =>
        ('\\' :: 'u' :: a :: b :: c :: d :: taken.1, taken.2)
    else none
  | '\\' :: letter :: rest =>
    if (shortEscape? letter).isSome then
      (takeString? rest).map fun taken => ('\\' :: letter :: taken.1, taken.2)
    else none
  | c :: rest =>
    if c = '\\' ∨ c.toNat < 0x20 then none
    else (takeString? rest).map fun taken => (c :: taken.1, taken.2)

/-- A run of digits, which must not be empty, and what follows. -/
def takeDigits? (chars : List Char) : Option (List Char × List Char) :=
  let digits := chars.takeWhile isAsciiDigit
  if digits = [] then none else some (digits, chars.dropWhile isAsciiDigit)

/-- The whole part of a number: zero, or digits that do not begin with zero. -/
def takeWhole? : List Char → Option (List Char × List Char)
  | '0' :: rest =>
    if (rest.head?.map isAsciiDigit).getD false then none else some (['0'], rest)
  | chars => takeDigits? chars

/-- The digits after a point, if there is one. -/
def takeFraction? : List Char → Option (List Char × List Char)
  | '.' :: rest => (takeDigits? rest).map fun taken => ('.' :: taken.1, taken.2)
  | chars => some ([], chars)

def takeExponentSign : List Char → List Char × List Char
  | '+' :: rest => (['+'], rest)
  | '-' :: rest => (['-'], rest)
  | chars => ([], chars)

def takeExponent? : List Char → Option (List Char × List Char)
  | [] => some ([], [])
  | c :: rest =>
    if c = 'e' ∨ c = 'E' then
      let signed := takeExponentSign rest
      (takeDigits? signed.2).map fun taken => (c :: signed.1 ++ taken.1, taken.2)
    else some ([], c :: rest)

/-- A number without its sign, and what follows. -/
def takeNumber? (chars : List Char) : Option (List Char × List Char) := do
  let whole ← takeWhole? chars
  let fraction ← takeFraction? whole.2
  let exponent ← takeExponent? fraction.2
  return (whole.1 ++ fraction.1 ++ exponent.1, exponent.2)

/-- What follows a word that must come next. -/
def expect? (word : List Char) (chars : List Char) : Option (List Char) :=
  if word.isPrefixOf chars then some (chars.drop word.length) else none

mutual

/-- A value and what follows it. -/
def takeValue? : Nat → List Char → Option (Json × List Char)
  | 0, _ => none
  | fuel + 1, chars =>
    match skipSpace chars with
    | 'n' :: rest => (expect? ['u', 'l', 'l'] rest).map fun rest => (.null, rest)
    | 't' :: rest => (expect? ['r', 'u', 'e'] rest).map fun rest => (.bool true, rest)
    | 'f' :: rest => (expect? ['a', 'l', 's', 'e'] rest).map fun rest => (.bool false, rest)
    | '"' :: rest => (takeString? rest).map fun taken => (.string taken.1, taken.2)
    | '-' :: rest => (takeNumber? rest).map fun taken => (.number ('-' :: taken.1), taken.2)
    | '[' :: rest =>
      match skipSpace rest with
      | ']' :: rest => some (.array [], rest)
      | rest => (takeElements? fuel rest).map fun taken => (.array taken.1, taken.2)
    | '\x7b' :: rest =>
      match skipSpace rest with
      | '\x7d' :: rest => some (.object [], rest)
      | rest => (takeMembers? fuel rest).map fun taken => (.object taken.1, taken.2)
    | rest => (takeNumber? rest).map fun taken => (.number taken.1, taken.2)

/-- The elements of an array up to its end. -/
def takeElements? : Nat → List Char → Option (List Json × List Char)
  | 0, _ => none
  | fuel + 1, chars =>
    match takeValue? fuel chars with
    | none => none
    | some (element, rest) =>
      match skipSpace rest with
      | ',' :: rest =>
        (takeElements? fuel rest).map fun taken => (element :: taken.1, taken.2)
      | ']' :: rest => some ([element], rest)
      | _ => none

/-- The members of an object up to its end. -/
def takeMembers? : Nat → List Char → Option (List (List Char × Json) × List Char)
  | 0, _ => none
  | fuel + 1, chars =>
    match skipSpace chars with
    | '"' :: rest =>
      match takeString? rest with
      | none => none
      | some (name, rest) =>
        match skipSpace rest with
        | ':' :: rest =>
          match takeValue? fuel rest with
          | none => none
          | some (value, rest) =>
            match skipSpace rest with
            | ',' :: rest =>
              (takeMembers? fuel rest).map fun taken => ((name, value) :: taken.1, taken.2)
            | '\x7d' :: rest => some ([(name, value)], rest)
            | _ => none
        | _ => none
    | _ => none

end

/-- The value that a text writes. -/
def read? (text : String) : Option Json :=
  let chars := text.toList
  match takeValue? (2 * chars.length + 2) chars with
  | some (value, rest) => if skipSpace rest = [] then some value else none
  | none => none

/-- The text of a string value. -/
def text? : Json → Option String
  | .string written => (unescape? written).map String.ofList
  | _ => none

end Tablesmith.Json
