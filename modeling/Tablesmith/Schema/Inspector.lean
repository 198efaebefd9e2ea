import Tablesmith.Extract.Extractor
import Tablesmith.Schema.Discovery

/-!
# Inspectors

An inspector discovers the schema of a sheet with a cursor, in five passes over the first rows. A pass
moves the cursor before it checks, and whatever is wrong is where the cursor stands. Headers are kept
as they are written until the last pass puts names in their place.
-/

namespace Tablesmith

open Tablesmith.Grid
open Tablesmith.Text

/-- What the marks of the columns passed so far say. Of these columns `names` has the names, and of
those behind them the headers as they are written. -/
structure Marks (count : Nat) where
  names : Vector String count
  used : List String
  primaryKey : Option (Fin count)
  foreignKeys : List (ForeignKey count)

namespace Marks

variable {count : Nat}

/-- No column was passed. -/
def start (headers : Vector String count) : Marks count :=
  ⟨headers, [], none, []⟩

/-- Passes a column. Of two primary keys the first counts. -/
def add (marks : Marks count) (property : Fin count) (header : Header) : Marks count where
  names := marks.names.set property header.name
  used := marks.used ++ [header.name]
  primaryKey :=
    match header.role with
    | .primaryKey => marks.primaryKey.or (some property)
    | _ => marks.primaryKey
  foreignKeys :=
    match header.role with
    | .reference table => marks.foreignKeys ++ [⟨property, table⟩]
    | _ => marks.foreignKeys

end Marks

/-- An inspector keeps nothing but its place. -/
abbrev Inspector : Type :=
  Extractor Unit

namespace Inspector

open Extractor
open Discovery (Range markedColumns rawName headerProblem? rowCount description)

/-- An inspector that was not called yet. -/
def fresh : Inspector :=
  ⟨(), Location.unknown⟩

/-- What the calls for all numbers below a bound give, in order. -/
def tabulate {α : Type} : (n : Nat) → (Fin n → Extracting Unit α) → Extracting Unit (Vector α n)
  | 0, _ => return #v[]
  | n + 1, call => do
    let earlier ← tabulate n fun i => call i.castSucc
    let last ← call (Fin.last n)
    return earlier.push last

def readName (sheet : Sheet) : Extracting Unit String := do
  enterReference (reference Schema.nameRow Schema.nameColumn)
  let name := sheet.text Schema.nameRow Schema.nameColumn
  if sheet.isText Schema.nameRow Schema.nameColumn ∧ ¬isAllBlank name then return name
  else fail .sheetNameMissing

/-- Reads the range. Where there is no marker the cursor is at no cell. -/
def readRange (sheet : Sheet) : Extracting Unit Range :=
  match (markedColumns sheet).head?, (markedColumns sheet).getLast? with
  | some opening, some closing =>
    if closing ≤ opening then do
      enterReference (reference Schema.nameRow opening)
      fail .markerSingle
    else return ⟨opening, closing⟩
  | _, _ => do
    enterReference ""
    fail .markerMissing

/-- Reads the header of a property as it is written. -/
def readHeader (sheet : Sheet) (sheetName : String) (property : Nat) : Extracting Unit String := do
  enterReference (reference Schema.propertyRow (Schema.gridColumn property))
  let raw := rawName sheet property
  match headerProblem? raw sheetName with
  | some problem => fail problem
  | none => return raw

def readType (sheet : Sheet) (aliases : TypeAliases) (header : String) (property : Nat) :
    Extracting Unit PropertyType := do
  enterColumn header
  enterReference (reference Schema.typeRow (Schema.gridColumn property))
  if sheet.isText Schema.typeRow (Schema.gridColumn property) then
    let written := sheet.text Schema.typeRow (Schema.gridColumn property)
    match aliases.resolve written with
    | some type => return type
    | none => fail (.typeUnknown written)
  else fail .typeNotText

/-- Reads the mark of a property and takes it off. Only a name that had one can be new. -/
def readMark {count : Nat} (sheetName : String) (marks : Marks count) (property : Fin count) :
    Extracting Unit (Marks count) := do
  let raw := marks.names.get property
  enterColumn raw
  enterReference (reference Schema.propertyRow (Schema.gridColumn property))
  let header := Header.read raw
  if (Header.splitMark? raw).isSome ∧ header.name = sheetName then
    fail (.propertyNamedAsSheet header.name)
  else if marks.used.contains header.name then fail (.propertyRepeated header.name)
  else return marks.add property header

def inspect (table : String) (sheet : Sheet) (aliases : TypeAliases) : Extracting Unit Schema := do
  move fun _ => Location.ofSheet table sheet.name
  let name ← readName sheet
  let range ← readRange sheet
  let count := range.columnCount
  let headers ← tabulate count fun property => readHeader sheet name property
  let types ← tabulate count fun property =>
    readType sheet aliases (headers.get property) property
  let marks ← (List.finRange count).foldlM (readMark name) (Marks.start headers)
  enterColumn ""
  enterReference ""
  return {
    table := table
    name := name
    rowCount := rowCount sheet range
    columnCount := count
    properties := Vector.ofFn fun i => ⟨marks.names.get i, types.get i, description sheet i⟩
    primaryKey := marks.primaryKey
    foreignKeys := marks.foreignKeys
    grid := sheet }

end Inspector

end Tablesmith
