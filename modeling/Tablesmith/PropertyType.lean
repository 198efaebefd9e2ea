import Tablesmith.Calendar.Date
import Tablesmith.Number.Numeral
import Tablesmith.Text.Characters
import Tablesmith.Text.Lowercase

/-!
# Property types

A column holds values of one of eight types. Values stay texts; a type only says which texts it accepts.

Headers may name a type by an alias. Aliases are told apart in small letters and without white space
around them; a later definition of the same alias replaces an earlier one, and the names of the types
themselves are aliases that can be redefined.
-/

namespace Tablesmith

open Tablesmith.Text
open Tablesmith.Number

inductive PropertyType
  | string
  | int
  | long
  | float
  | double
  | bool
  | dateTime
  | timeSpan
deriving DecidableEq

namespace PropertyType

def all : List PropertyType :=
  [string, int, long, float, double, bool, dateTime, timeSpan]

/-- The name of a type, as headers and accessor code spell it. -/
def name : PropertyType → String
  | string => "string"
  | int => "int"
  | long => "long"
  | float => "float"
  | double => "double"
  | bool => "bool"
  | dateTime => "DateTime"
  | timeSpan => "TimeSpan"

/-- The type of a name, whatever the case of its letters and the white space around it. -/
def ofName? (text : String) : Option PropertyType :=
  all.find? fun type => sameAscii type.name (trim text)

/-- The three spellings of numbers that are not finite. -/
def isNonFinite (text : String) : Bool :=
  text == "Infinity" || text == "-Infinity" || text == "NaN"

/-- A numeral that rounds to a finite number when everything from `bound` on is too large. -/
def isFiniteNumeral (bound : Nat) (text : String) : Bool :=
  match Numeral.read? text with
  | some numeral => numeral.below bound
  | none => false

/-- The texts that are values of a type. Numbers and truth values may have white space around them;
dates and times must be written exactly as this library writes them. -/
def accepts (type : PropertyType) (text : String) : Bool :=
  match type with
  | string => true
  | int => (readSigned? 32 (trim text)).isSome
  | long => (readSigned? 64 (trim text)).isSome
  | float => isNonFinite (trim text) || isFiniteNumeral singleOverflow (trim text)
  | double => isNonFinite (trim text) || isFiniteNumeral doubleOverflow (trim text)
  | bool => sameAscii (trim text) "true" || sameAscii (trim text) "false"
  | dateTime => (Calendar.Moment.read? text).isSome
  | timeSpan => (Calendar.Clock.read? text).isSome

end PropertyType

/-- The form in which aliases are compared. -/
def aliasKey (name : String) : String :=
  toLowercase (trim name)

/-- The order of texts by code points, which is also the order of their bytes. -/
def textLe (left right : String) : Bool :=
  !decide (right < left)

/-- Aliases with their types, sorted by alias and without repetition. -/
structure TypeAliases where
  entries : List (String × PropertyType)

namespace TypeAliases

/-- Places an entry among sorted ones, in the stead of one with the same alias. -/
def insertSorted (key : String) (type : PropertyType) :
    List (String × PropertyType) → List (String × PropertyType)
  | [] => [(key, type)]
  | entry :: rest =>
    if key = entry.1 then (key, type) :: rest
    else if textLe key entry.1 then (key, type) :: entry :: rest
    else entry :: insertSorted key type rest

def insert (aliases : TypeAliases) (name : String) (type : PropertyType) : TypeAliases :=
  ⟨insertSorted (aliasKey name) type aliases.entries⟩

def resolve (aliases : TypeAliases) (name : String) : Option PropertyType :=
  aliases.entries.lookup (aliasKey name)

/-- The names of the types, each standing for itself. -/
def builtin : TypeAliases :=
  PropertyType.all.foldl (fun aliases type => aliases.insert type.name type) ⟨[]⟩

/-- One line of an alias list: an alias and the name of the type it stands for. -/
structure Item where
  name : String
  typeName : String
deriving DecidableEq

/-- An alias item names a type that does not exist. -/
structure UnknownType where
  item : Item
deriving DecidableEq

/-- What is said about an alias item that names no type. -/
def UnknownType.message (unknown : UnknownType) : String :=
  "Type alias '" ++ unknown.item.name ++ "' maps to unknown type '" ++ unknown.item.typeName ++ "'"

/-- The definitions of a list on top of the built-in names; the first item with an unknown type is
refused. -/
def ofItems (items : List Item) : Except UnknownType TypeAliases :=
  items.foldlM
    (fun aliases item =>
      match PropertyType.ofName? item.typeName with
      | some type => .ok (aliases.insert item.name type)
      | none => .error ⟨item⟩)
    builtin

/-- The aliases as a list that defines them again. -/
def toItems (aliases : TypeAliases) : List Item :=
  aliases.entries.map fun entry => ⟨entry.1, entry.2.name⟩

end TypeAliases

end Tablesmith
