import Tablesmith.Biff.Globals
import Tablesmith.Compound.File
import Tablesmith.Grid.Sheet
import Tablesmith.Xml.Content
import Tablesmith.Zip.Archive

/-!
# Faults of workbooks

Why a workbook cannot be read: its format is not known, its container is broken, a part of it is
missing or broken, or there is nothing in it to read.
-/

namespace Tablesmith

open Tablesmith.Number

/-- The reason why a workbook cannot be read. -/
inductive WorkbookFault
  | unknownFormat (path : String)
  | passwordProtected (path : String)
  | noSheets (path : String)
  | partMissing (part : String)
  | sharedIndex (path sheet : String) (bad : Grid.Sheet.BadSharedIndex)
  | archive (reason : Zip.ArchiveError)
  | xml (fault : XmlFault)
  | compound (reason : CompoundError)
  | shortRecord (short : Biff.ShortRecord)
  | codePage (number : Nat)
  | formulaResult (bits : Nat)
deriving DecidableEq

namespace WorkbookFault

def message : WorkbookFault → String
  | unknownFormat path => "Cannot detect file format for '" ++ path ++ "'"
  | passwordProtected path => "Spreadsheet '" ++ path ++ "' is password protected"
  | noSheets path => "Spreadsheet '" ++ path ++ "' has no worksheet"
  | partMissing part => "Missing part '" ++ part ++ "' in spreadsheet"
  | sharedIndex path sheet bad =>
    "Shared string index '" ++ bad.index ++ "' out of range at '" ++ path ++ "' sheet '" ++ sheet
      ++ "' cell '" ++ bad.reference ++ "'"
  | archive reason => reason.message
  | xml fault => fault.message
  | compound reason => reason.message
  | shortRecord short => short.message
  | codePage number => "Invalid Code page '" ++ showNat number ++ "'"
  | formulaResult bits => "Invalid Formula value '" ++ showNat bits ++ "'"

/-- The reason why the records of a workbook cannot be read. -/
def ofRecords (path : String) : Biff.BiffError → WorkbookFault
  | .short short => shortRecord short
  | .encrypted => passwordProtected path
  | .codePage number => codePage number
  | .formulaResult bits => formulaResult bits

end WorkbookFault

end Tablesmith
