import Tablesmith.Files.Workspace
import Tablesmith.Grid.Sheet
import Tablesmith.Number.Numeral
import Tablesmith.PropertyType
import Tablesmith.Schema.Basic
import Tablesmith.Text.Characters
import Tablesmith.Text.WordRanges

/-!
# Discovery

Reads the schema of a sheet off its first rows. The header of a column names it and may mark it: `pkey` and `name[pkey]`
make it the primary key, and `name[Table]` makes its values keys of that table. The checks run in a fixed order, and the
first that fails names its place; what the schema holds is read by functions of the sheet alone. All sheets of a workbook
are reported, and no two of them may have the same name.
-/

namespace Tablesmith

open Tablesmith.Text

/-- What a column is used for. -/
inductive ColumnRole
  | value
  | primaryKey
  | reference (table : String)
deriving DecidableEq

/-- The name and the role of a column. -/
structure Header where
  name : String
  role : ColumnRole
deriving DecidableEq

namespace Header

/-- The mark of a primary key, in any case. -/
def keyMark : String := "pkey"

/-- The two words of a header of the form `name[word]`. -/
def splitMark? (raw : String) : Option (String × String) :=
  let name := raw.toList.takeWhile isWordChar
  match raw.toList.dropWhile isWordChar with
  | '[' :: rest =>
    let target := rest.takeWhile isWordChar
    if name ≠ [] ∧ target ≠ [] ∧ rest.dropWhile isWordChar = [']'] then
      some (String.ofList name, String.ofList target)
    else none
  | _ => none

/-- Reads a header; one of no known form is a plain name. -/
def read (raw : String) : Header :=
  if sameAscii raw keyMark then ⟨raw, .primaryKey⟩
  else
    match splitMark? raw with
    | some (name, target) =>
      if sameAscii target keyMark then ⟨name, .primaryKey⟩ else ⟨name, .reference target⟩
    | none => ⟨raw, .value⟩

end Header

open Tablesmith.Grid

/-- The first fault among the properties from `start` on, `count` of them. -/
def firstFault (check : Nat → Option Fault) (start : Nat) : Nat → Except Fault Unit
  | 0 => .ok ()
  | count + 1 =>
    match check start with
    | some fault => .error fault
    | none => firstFault check (start + 1) count

/-- The values of a function on all numbers below a bound, or the first error. -/
def tabulate? {ε α : Type} : (n : Nat) → (Fin n → Except ε α) → Except ε (Vector α n)
  | 0, _ => .ok #v[]
  | n + 1, f => do
    let earlier ← tabulate? n fun i => f i.castSucc
    let last ← f (Fin.last n)
    return earlier.push last

namespace Discovery

/-- The text contains the marker. -/
def isMarked (text : String) : Bool :=
  text.toList.contains Schema.marker

/-- The name of a sheet, which is a text that is not blank. -/
def sheetName (sheet : Sheet) (place : Location) : Except Fault String :=
  let name := sheet.text Schema.nameRow Schema.nameColumn
  if sheet.isText Schema.nameRow Schema.nameColumn ∧ ¬isAllBlank name then .ok name
  else
    .error ⟨{ place with cell := reference Schema.nameRow Schema.nameColumn }, .sheetNameMissing⟩

/-- The columns with a marker in the first row, from left to right. -/
def markedColumns (sheet : Sheet) : List Nat :=
  ((sheet.row Schema.nameRow).filter fun cell => isMarked cell.text).map Cell.column

/-- The opening and the closing column of the marked range. -/
structure Range where
  opening : Nat
  closing : Nat

/-- The range from the first marker to the last, which must not be the same. -/
def range (sheet : Sheet) (place : Location) : Except Fault Range :=
  match (markedColumns sheet).head?, (markedColumns sheet).getLast? with
  | some opening, some closing =>
    if closing ≤ opening then
      .error ⟨{ place with cell := reference Schema.nameRow opening }, .markerSingle⟩
    else .ok ⟨opening, closing⟩
  | _, _ => .error ⟨place, .markerMissing⟩

/-- The number of columns between the markers. -/
def Range.columnCount (range : Range) : Nat :=
  range.closing - range.opening - 1

/-- The number of marked rows from the first row of data on, without a gap. -/
def markedRows (sheet : Sheet) (column : Nat) : Nat :=
  ((List.range sheet.cells.size).takeWhile fun row =>
    isMarked (sheet.text (Schema.gridRow row) column)).length

/-- The last marked row closes the data. -/
def rowCount (sheet : Sheet) (range : Range) : Nat :=
  markedRows sheet range.opening - 1

/-- The header of a property as it is written. -/
def rawName (sheet : Sheet) (property : Nat) : String :=
  sheet.text Schema.propertyRow (Schema.gridColumn property)

def description (sheet : Sheet) (property : Nat) : String :=
  sheet.text Schema.descriptionRow (Schema.gridColumn property)

/-- The name of a property without the mark of its role. -/
def propertyName (sheet : Sheet) (property : Nat) : String :=
  (Header.read (rawName sheet property)).name

/-- What is wrong with a header by itself. -/
def headerProblem? (raw sheetName : String) : Option Problem :=
  if isAllBlank raw then some .propertyNameEmpty
  else if raw.toList.any isBlank then some (.propertyNameSpaced raw)
  else if raw = sheetName then some (.propertyNamedAsSheet raw)
  else none

/-- A fault in the header of a property by itself. -/
def headerFault? (sheet : Sheet) (sheetName : String) (place : Location) (property : Nat) :
    Option Fault :=
  (headerProblem? (rawName sheet property) sheetName).map fun problem =>
    ⟨{ place with cell := reference Schema.propertyRow (Schema.gridColumn property) }, problem⟩

def propertyType (sheet : Sheet) (aliases : TypeAliases) (place : Location) (property : Nat) :
    Except Fault PropertyType :=
  let column := Schema.gridColumn property
  let here :=
    { place with
      column := rawName sheet property
      cell := reference Schema.typeRow column }
  if sheet.isText Schema.typeRow column then
    let written := sheet.text Schema.typeRow column
    match aliases.resolve written with
    | some type => .ok type
    | none => .error ⟨here, .typeUnknown written⟩
  else .error ⟨here, .typeNotText⟩

/-- What is wrong with the name of a property once the mark of its role is gone. -/
def nameProblem? (sheet : Sheet) (sheetName : String) (property : Nat) : Option Problem :=
  let name := propertyName sheet property
  if name = sheetName then some (.propertyNamedAsSheet name)
  else if (List.range property).any fun earlier => propertyName sheet earlier = name then
    some (.propertyRepeated name)
  else none

/-- A fault in the name of a property once the mark of its role is gone. -/
def keyFault? (sheet : Sheet) (sheetName : String) (place : Location) (property : Nat) :
    Option Fault :=
  (nameProblem? sheet sheetName property).map fun problem =>
    ⟨{ place with
        column := rawName sheet property
        cell := reference Schema.propertyRow (Schema.gridColumn property) }, problem⟩

/-- The first column that is marked as the primary key. -/
def primaryKey? (sheet : Sheet) (columnCount : Nat) : Option (Fin columnCount) :=
  (List.finRange columnCount).find? fun property =>
    (Header.read (rawName sheet property)).role = .primaryKey

/-- The columns that refer to other tables, in order. -/
def foreignKeys (sheet : Sheet) (columnCount : Nat) : List (ForeignKey columnCount) :=
  (List.finRange columnCount).filterMap fun (property : Fin columnCount) =>
    match (Header.read (rawName sheet property)).role with
    | .reference table => some ⟨property, table⟩
    | _ => none

end Discovery

def Schema.discover (table : String) (sheet : Sheet) (aliases : TypeAliases) :
    Except Fault Schema := do
  let place := Location.ofSheet table sheet.name
  let name ← Discovery.sheetName sheet place
  let range ← Discovery.range sheet place
  let count := range.columnCount
  firstFault (Discovery.headerFault? sheet name place) 0 count
  let types ← tabulate? count fun i => Discovery.propertyType sheet aliases place i
  firstFault (Discovery.keyFault? sheet name place) 0 count
  return {
    table := table
    name := name
    rowCount := Discovery.rowCount sheet range
    columnCount := count
    properties := Vector.ofFn fun i =>
      ⟨Discovery.propertyName sheet i, types[i], Discovery.description sheet i⟩
    primaryKey := Discovery.primaryKey? sheet count
    foreignKeys := Discovery.foreignKeys sheet count
    grid := sheet }

open Tablesmith.Number

namespace Schema

/-- Tells the size of a sheet. -/
def sizeReport (schema : Schema) : Report :=
  .info (schema.table ++ "/" ++ schema.name ++ " size: " ++ showNat schema.rowCount ++ " rows x "
    ++ showNat schema.columnCount ++ " columns")

/-- Tells the name and the type of a property. -/
def propertyReport (property : Property) : Report :=
  .info ("  * " ++ property.name ++ " : " ++ property.type.name)

/-- Tells the primary key, or warns that there is none. -/
def primaryKeyReport (schema : Schema) : Report :=
  match schema.primaryKey with
  | some key =>
    let property := schema.propertyAt key
    .info ("  Primary Key: " ++ property.name ++ " (" ++ property.type.name ++ ")")
  | none =>
    .warning ("  " ++ schema.table ++ "/" ++ schema.name
      ++ " has no primary key; row indexes are used as keys")

def foreignKeyReport (schema : Schema) (key : ForeignKey schema.columnCount) : Report :=
  .info ("  Foreign Key: " ++ (schema.propertyAt key.column).name ++ " (references " ++ key.table
    ++ ")")

/-- Tells the foreign keys, or that there are none. -/
def foreignKeyReports (schema : Schema) : List Report :=
  if schema.foreignKeys = [] then [.info "  No foreign keys"]
  else schema.foreignKeys.map schema.foreignKeyReport

/-- Everything that is told about a schema. -/
def reports (schema : Schema) : List Report :=
  [.info "----------------------------------------", schema.sizeReport, .info "[Properties]"]
    ++ schema.properties.toList.map propertyReport
    ++ [.info "[Keys]", schema.primaryKeyReport]
    ++ schema.foreignKeyReports

/-- Discovers the sheets of a table one after the other; `earlier` holds the schemas found so far. -/
def discoverAll (table : String) (aliases : TypeAliases) (earlier : List Schema) :
    List Sheet → List Report × Except Fault (List Schema)
  | [] => ([], .ok earlier)
  | sheet :: rest =>
    match discover table sheet aliases with
    | .error fault => ([], .error fault)
    | .ok schema =>
      if earlier.any (·.name = schema.name) then
        ([], .error ⟨Location.ofSheet table sheet.name, .sheetRepeated schema.name⟩)
      else
        let following := discoverAll table aliases (earlier ++ [schema]) rest
        (schema.reports ++ following.1, following.2)

/-- The schemas of a workbook, in tab order, and what is told about them. -/
def ofWorkbook (workbook : Workbook) (aliases : TypeAliases) :
    List Report × Except Fault (List Schema) :=
  discoverAll workbook.stem aliases [] workbook.sheets

end Schema

end Tablesmith
