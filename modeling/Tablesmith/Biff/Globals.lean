import Tablesmith.Biff.Text
import Tablesmith.Grid.CellKind

/-!
# Workbook globals

The first records of a workbook stream describe the whole workbook: the encoding of narrow texts, the
date system, number formats, styles, shared texts and the sheets. They end with an end record.
-/

namespace Tablesmith.Biff

open Tablesmith.Grid
open Tablesmith.Number
open Tablesmith.Text

/-- Why a workbook stream cannot be read. -/
inductive BiffError
  | short (short : ShortRecord)
  | encrypted
  | codePage (number : Nat)
  | formulaResult (bits : Nat)
deriving DecidableEq

/-- A sheet of a workbook and the place of its first record in the stream. -/
structure SheetPlace where
  name : String
  offset : Nat
deriving DecidableEq

/-- What the records read so far say about the workbook. -/
structure Globals where
  narrow : Encoding
  system : DateSystem
  sharedTexts : List String
  formats : List (String × CellKind)
  styles : List String
  sheets : List SheetPlace

namespace Globals

/-- Nothing is said yet. -/
def start : Globals :=
  ⟨.utf16 .little, .from1900, [], [], [], []⟩

end Globals

/-- The record that ends the globals and a worksheet. -/
def endRecord : Nat := 10

/-- Reads what the payload of a record begins with. -/
def Record.read {α : Type} (record : Record) (reading : Reading α) : Except BiffError α :=
  match reading.run record.payload with
  | .ok result => .ok result.1
  | .error short => .error (.short short)

/-- The date system: a 1 stands for the days from 1904. -/
def readDateSystem (current : DateSystem) : Reading DateSystem := do
  return if (← readNumber 2) = 1 then .from1904 else current

/-- A number format: its identifier and its code. -/
def readFormat (narrow : Encoding) (system : DateSystem) : Reading (String × CellKind) := do
  let id ← readNumber 2
  let code ← readText narrow 2
  return (showNat id, CellKind.ofFormatCode code system)

/-- The number format of a style. -/
def readStyle : Reading String := do
  skip 2
  return showNat (← readNumber 2)

/-- A sheet, if it is a worksheet. -/
def readSheetPlace (narrow : Encoding) : Reading (Option SheetPlace) := do
  let offset ← readNumber 4
  let flags ← readNumber 2
  let name ← readText narrow 1
  return if flags / 256 = 0 then some ⟨name, offset⟩ else none

inductive GlobalRecord
  | encryption
  | dateSystem
  | codePage
  | format
  | style
  | sharedTexts
  | sheet
deriving DecidableEq

def GlobalRecord.ofKind? (kind : Nat) : Option GlobalRecord :=
  match kind with
  | 47 => some encryption
  | 34 => some dateSystem
  | 66 => some codePage
  | 1054 => some format
  | 224 => some style
  | 252 => some sharedTexts
  | 133 => some sheet
  | _ => none

/-- Takes in one record of the globals; records of other kinds say nothing. -/
def Globals.absorb (globals : Globals) (record : Record) : Except BiffError Globals :=
  match GlobalRecord.ofKind? record.kind with
  | none => .ok globals
  | some .encryption => .error .encrypted
  | some .dateSystem => do
    let system ← record.read (readDateSystem globals.system)
    return { globals with system := system }
  | some .codePage => do
    let number ← record.read (readNumber 2)
    match Encoding.ofCodePage? number with
    | some encoding => return { globals with narrow := encoding }
    | none => throw (.codePage number)
  | some .format => do
    let format ← record.read (readFormat globals.narrow globals.system)
    return { globals with formats := globals.formats ++ [format] }
  | some .style => do
    let style ← record.read readStyle
    return { globals with styles := globals.styles ++ [style] }
  | some .sharedTexts => do
    let texts ← record.read (readSharedTable globals.narrow)
    return { globals with sharedTexts := texts }
  | some .sheet => do
    let place ← record.read (readSheetPlace globals.narrow)
    return { globals with sheets := globals.sheets ++ place.toList }

/-- Reads the globals at the beginning of a stream. -/
def Globals.ofRecords (records : List Record) : Except BiffError Globals :=
  (records.takeWhile (·.kind ≠ endRecord)).foldlM Globals.absorb start

/-- The kind of cell that each style makes of a number. -/
def Globals.cellKinds (globals : Globals) : List CellKind :=
  CellKind.ofStyles globals.styles globals.formats globals.system

end Tablesmith.Biff
