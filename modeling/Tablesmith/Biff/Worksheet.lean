import Tablesmith.Biff.Globals
import Tablesmith.Grid.Sheet
import Tablesmith.Workbook.Fault

/-!
# Worksheets

The records of a worksheet hold its cells. A formula holds its last result; a text result stands in a
record of its own right behind the formula. The worksheets of a book are in one stream of a compound file, together with
its shared texts.
-/

namespace Tablesmith.Biff

open Tablesmith.Grid
open Tablesmith.Number
open Tablesmith.Text

/-- What a cell record says of a cell besides its position. -/
structure Content where
  kind : CellKind
  value : String
deriving DecidableEq

/-- What is needed to read worksheets: the encoding of narrow texts and the kinds of styles. -/
structure Context where
  narrow : Encoding
  kinds : Array CellKind

def Context.number (context : Context) (style : Nat) (value : String) : Content :=
  ⟨CellKind.ofStyle context.kinds style, value⟩

/-- A truth value or an error, by its number. -/
def flagContent (isError : Bool) (value : Nat) : Content :=
  if isError then ⟨.error, errorText value⟩ else ⟨.boolean, showNat value⟩

/-- Row and column of a cell. -/
def readPosition : Reading (Nat × Nat) := do
  let row ← readNumber 2
  let column ← readNumber 2
  return (row, column)

/-- A truth value or an error. -/
def readFlag : Reading Content := do
  skip 2
  let value ← readNumber 1
  let isError ← readNumber 1
  return flagContent (isError ≠ 0) value

/-- A number as a double. -/
def readNumberContent (context : Context) : Reading Content := do
  let style ← readNumber 2
  return context.number style (← readDouble).text

/-- A compressed number. -/
def readPackedContent (context : Context) : Reading Content := do
  let style ← readNumber 2
  return context.number style (← readPacked)

def readSharedIndex : Reading Content := do
  skip 2
  return ⟨.sharedText, showNat (← readNumber 4)⟩

/-- A text. -/
def readLabel (context : Context) : Reading Content := do
  skip 2
  return ⟨.inlineText, ← readText context.narrow 2⟩

/-- The result of a formula: a content, a text in the next record, or nothing that is known. -/
inductive FormulaResult
  | content (content : Content)
  | textFollows
  | unknown
deriving DecidableEq

/-- The result in the eight bytes of a formula. The two upper bytes tell a double from the other
results, of which the lowest byte tells the kind. -/
def formulaResult (context : Context) (style bits : Nat) : FormulaResult :=
  if bits / Nat.pow 2 48 ≠ 0xffff then
    .content (context.number style (Binary64.ofBits (UInt64.ofNat bits)).text)
  else
    let detail := bits / Nat.pow 2 16 % 256
    match bits % 256 with
    | 0 => .textFollows
    | 1 => .content ⟨.boolean, if detail = 0 then "0" else "1"⟩
    | 2 => .content (flagContent true detail)
    | 3 => .content ⟨.inlineText, ""⟩
    | _ => .unknown

/-- The style and the result of a formula. -/
def readFormula : Reading (Nat × Nat) := do
  let style ← readNumber 2
  let bits ← readNumber 8
  return (style, bits)

/-- The record that holds the text result of a formula. -/
def formulaText : Nat := 519

/-- The content of a formula; `next?` is the record behind it, and the answer tells whether that was
read too. -/
def formulaContent (context : Context) (style bits : Nat) (next? : Option Record) :
    Except BiffError (Content × Bool) :=
  match formulaResult context style bits with
  | .content content => .ok (content, false)
  | .unknown => .error (.formulaResult bits)
  | .textFollows =>
    match next? with
    | some next =>
      if next.kind = formulaText then do
        let text ← next.read (readText context.narrow 2)
        return (⟨.inlineText, text⟩, true)
      else .error (.formulaResult bits)
    | none => .error (.formulaResult bits)

/-- The kinds of records that hold one cell. -/
inductive CellRecord
  | flag
  | number
  | packed
  | shared
  | label
  | formula
deriving DecidableEq

def CellRecord.ofKind? (kind : Nat) : Option CellRecord :=
  match kind with
  | 517 => some flag
  | 515 => some number
  | 638 => some packed
  | 253 => some shared
  | 516 => some label
  | 6 => some formula
  | _ => none

/-- The record that holds numbers in several columns of a row. -/
def packedRow : Nat := 189

def beginRecord : Nat := 2057

/-- Reads position and content of a cell record, but for the result of a formula. -/
def readCellRecord (context : Context) (record : CellRecord) :
    Reading ((Nat × Nat) × (Content ⊕ Nat × Nat)) := do
  let position ← readPosition
  match record with
  | .flag => return (position, .inl (← readFlag))
  | .number => return (position, .inl (← readNumberContent context))
  | .packed => return (position, .inl (← readPackedContent context))
  | .shared => return (position, .inl (← readSharedIndex))
  | .label => return (position, .inl (← readLabel context))
  | .formula => return (position, .inr (← readFormula))

/-- Stores a cell unless its value is empty. -/
def store (sheet : Sheet) (position : Nat × Nat) (content : Content) : Sheet :=
  if content.value = "" then sheet
  else sheet.push ⟨position.1, position.2, content.kind, content.value⟩

/-- Stores the cell of a record; the answer tells whether the record behind it was read too. -/
def storeCell (context : Context) (sheet : Sheet) (kind : CellRecord) (record : Record)
    (next? : Option Record) : Except BiffError (Sheet × Bool) := do
  let (position, found) ← record.read (readCellRecord context kind)
  match found with
  | .inl content => return (store sheet position content, false)
  | .inr (style, bits) =>
    let (content, taken) ← formulaContent context style bits next?
    return (store sheet position content, taken)

/-- Reads `count` compressed numbers of a row from a column on. -/
def readRow (context : Context) (row column : Nat) : Nat → Reading (List Cell)
  | 0 => return []
  | count + 1 => do
    let content ← readPackedContent context
    let rest ← readRow context row (column + 1) count
    return ⟨row, column, content.kind, content.value⟩ :: rest

/-- Reads the numbers of a row; the last two bytes of the record tell the last column. -/
def rowCells (context : Context) (record : Record) : Except BiffError (List Cell) := do
  let (_, _) ← record.read readPosition
  match lastNumber record.payload with
  | .error short => throw (.short short)
  | .ok last =>
    record.read do
      let (row, first) ← readPosition
      readRow context row first (last + 1 - first)

/-- Stores the cells of records up to the first that begins or ends a worksheet. With `taken` the
first record was already read with the one before it. -/
def readCells (context : Context) (sheet : Sheet) (taken : Bool) :
    List Record → Except BiffError Sheet
  | [] => .ok sheet
  | record :: rest =>
    if taken then readCells context sheet false rest
    else if record.kind = beginRecord ∨ record.kind = endRecord then .ok sheet
    else if record.kind = packedRow then
      match rowCells context record with
      | .ok cells => readCells context (cells.foldl Sheet.push sheet) false rest
      | .error reason => .error reason
    else
      match CellRecord.ofKind? record.kind with
      | none => readCells context sheet false rest
      | some kind =>
        match storeCell context sheet kind record rest.head? with
        | .ok (sheet, taken) => readCells context sheet taken rest
        | .error reason => .error reason

/-- Reads the worksheet whose first record is at a place in the stream. -/
def readWorksheet (context : Context) (file : String) (stream : List UInt8) (place : SheetPlace) :
    Except BiffError Sheet :=
  readCells context (Sheet.empty file place.name) false
    ((records (stream.drop place.offset)).drop 1)

/-- The stream of records of a compound file, under its newer or its older name. -/
def bookStream (file : CompoundFile) : Except CompoundError (Option (List UInt8)) := do
  match ← file.stream? "Workbook" with
  | some stream => return some stream
  | none => file.stream? "Book"

/-- Reads all worksheets of a book and its shared texts; `file` is the name of the book. -/
def readBook (file : String) (bytes : List UInt8) :
    Except WorkbookFault (List Sheet × List String) := do
  let container ← (CompoundFile.ofBytes bytes).mapError .compound
  match ← (bookStream container).mapError .compound with
  | none => throw (.noSheets file)
  | some stream =>
    let globals ← (Globals.ofRecords (records stream)).mapError (.ofRecords file)
    if globals.sheets.isEmpty then throw (.noSheets file)
    let context : Context := ⟨globals.narrow, globals.cellKinds.toArray⟩
    let sheets ←
      (globals.sheets.mapM (readWorksheet context file stream)).mapError (.ofRecords file)
    return (sheets, globals.sharedTexts)

end Tablesmith.Biff
