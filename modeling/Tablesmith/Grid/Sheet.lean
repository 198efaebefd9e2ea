import Tablesmith.Files.Path
import Tablesmith.Grid.Cell
import Tablesmith.Number.Numeral
import Tablesmith.OrderedBy

/-!
# Sheets and workbooks

A sheet is a finite map from positions to cells that remembers in which order positions were first
used. A cell stored at a used position takes the place of the earlier one. A workbook is a file with sheets.
-/

namespace Tablesmith.Grid

open Tablesmith.Number

/-- A sheet with the names of its file and of its tab. -/
structure Sheet where
  file : String
  name : String
  cells : OrderedBy Cell.position

namespace Sheet

/-- A sheet without cells. -/
def empty (file name : String) : Sheet :=
  ⟨file, name, OrderedBy.empty⟩

/-- Stores a cell, in place of the one at its position if there is one. -/
def push (sheet : Sheet) (cell : Cell) : Sheet :=
  { sheet with cells := sheet.cells.insert cell }

def setText (sheet : Sheet) (row column : Nat) (value : String) : Sheet :=
  sheet.push ⟨row, column, .inlineText, value⟩

def setNumber (sheet : Sheet) (row column : Nat) (value : String) : Sheet :=
  sheet.push ⟨row, column, .number, value⟩

def cell? (sheet : Sheet) (row column : Nat) : Option Cell :=
  sheet.cells.find? (row, column)

/-- The text at a position, empty where there is no cell. -/
def text (sheet : Sheet) (row column : Nat) : String :=
  ((sheet.cell? row column).map Cell.text).getD ""

/-- There is a text cell at a position. -/
def isText (sheet : Sheet) (row column : Nat) : Bool :=
  ((sheet.cell? row column).map (·.kind.isText)).getD false

/-- The cells of a row from left to right. -/
def row (sheet : Sheet) (row : Nat) : List Cell :=
  (sheet.cells.toList.filter (·.row = row)).mergeSort fun left right => left.column ≤ right.column

/-- A cell that names a shared text by an index that is none. -/
structure BadSharedIndex where
  reference : String
  index : String
deriving DecidableEq

/-- A shared text becomes a text of the cell's own. -/
def resolveCell (shared : Array String) (cell : Cell) : Except BadSharedIndex Cell :=
  match cell.kind with
  | .sharedText =>
    match (readIndex? cell.value).bind fun i => shared[i]? with
    | some text => .ok { cell with kind := .inlineText, value := text }
    | none => .error ⟨cell.reference, cell.value⟩
  | _ => .ok cell

/-- Every shared text becomes a text of the cell's own; the first cell with a bad index is named. -/
def resolveShared (sheet : Sheet) (shared : Array String) : Except BadSharedIndex Sheet :=
  sheet.cells.toList.foldlM (fun resolved cell => (resolveCell shared cell).map resolved.push)
    (empty sheet.file sheet.name)

end Sheet

end Tablesmith.Grid

namespace Tablesmith

/-- A workbook: the path of its file and its sheets in the order of their tabs. -/
structure Workbook where
  path : String
  sheets : List Grid.Sheet

/-- The name of the workbook, which is also the name of its table. -/
def Workbook.stem (workbook : Workbook) : String :=
  Path.stem workbook.path

end Tablesmith
