import Tablesmith.Biff.Worksheet
import Tablesmith.Ooxml.Package
import Tablesmith.Grid.Sheet

/-!
# Formats of workbooks

The extension of the path of a workbook tells its format. Cells that name shared texts get these
texts when the workbook is read.
-/

namespace Tablesmith

open Tablesmith.Grid
open Tablesmith.Text

inductive WorkbookFormat
  | package
  | book
deriving DecidableEq

namespace WorkbookFormat

/-- The format that an extension stands for, whatever its case. -/
def ofExtension? (extension : String) : Option WorkbookFormat :=
  if lowerAscii extension = "xlsx" ∨ lowerAscii extension = "xlsm" then some package
  else if lowerAscii extension = "xls" then some book
  else none

/-- Reads the worksheets and the shared texts of a workbook. -/
def read (format : WorkbookFormat) (path : String) (bytes : List UInt8) :
    Except WorkbookFault (List Sheet × List String) :=
  match format with
  | package => Ooxml.readPackage path bytes
  | book => Biff.readBook path bytes

end WorkbookFormat

namespace Workbook

/-- The sheet with the texts that its cells name. -/
def resolveSheet (path : String) (shared : Array String) (sheet : Sheet) :
    Except WorkbookFault Sheet :=
  (sheet.resolveShared shared).mapError (.sharedIndex path sheet.name)

def ofBytes (path : String) (bytes : List UInt8) : Except WorkbookFault Workbook := do
  match (Path.extension? path).bind WorkbookFormat.ofExtension? with
  | none => throw (.unknownFormat path)
  | some format =>
    let (sheets, shared) ← format.read path bytes
    return ⟨path, ← sheets.mapM (resolveSheet path shared.toArray)⟩

end Workbook

end Tablesmith
