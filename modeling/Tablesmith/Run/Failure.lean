import Tablesmith.Fault
import Tablesmith.Files.Workspace
import Tablesmith.Settings.File
import Tablesmith.Workbook.Format

/-!
# Failures

Why a run stops before its end.
-/

namespace Tablesmith

open Tablesmith.Files

/-- The reason why a run stops. Where a file is to blame whose name the reason lacks, the file is named
in front of it. -/
inductive Failure
  | fault (fault : Fault)
  | missingSetting (missing : MissingSetting)
  | unknownType (unknown : TypeAliases.UnknownType)
  | cipher (error : CipherError)
  | tablesMissing (directory : String)
  | noWorkbooks (directory : String)
  | outputMissing (directory : String)
  | workbook (fault : WorkbookFault)
  | file (error : FileError)
  | notJson
  | inFile (path : String) (failure : Failure)
deriving DecidableEq

namespace Failure

def message : Failure → String
  | fault found => found.message
  | missingSetting missing => missing.message
  | unknownType unknown => unknown.message
  | cipher error => error.message
  | tablesMissing directory => "Table directory not found: '" ++ directory ++ "'"
  | noWorkbooks directory => "No workbook (*.xlsx, *.xls) found in '" ++ directory ++ "'"
  | outputMissing directory => "Output directory not found: '" ++ directory ++ "'"
  | workbook found => found.message
  | file error => error.message
  | notJson => "the text is not JSON of the expected form"
  | inFile path failure => path ++ ": " ++ failure.message

end Failure

/-- A part of a run, which may stop. -/
abbrev Running (m : Type → Type) : Type → Type :=
  ExceptT Failure m

namespace Running

variable {m : Type → Type} [Monad m]

/-- Goes on with a result, or stops for its error. -/
def ofResult {ε α : Type} (reason : ε → Failure) (result : Except ε α) : Running m α :=
  ExceptT.mk (pure (result.mapError reason))

/-- Goes on with the result of an operation on files, or stops for its error. -/
def ofFile {α : Type} (operation : m (Except FileError α)) : Running m α :=
  ExceptT.mk ((Except.mapError Failure.file ·) <$> operation)

/-- Names the file to blame if a part of a run stops. -/
def withFile {α : Type} (path : String) (part : Running m α) : Running m α :=
  ExceptT.mk ((Except.mapError (Failure.inFile path) ·) <$> part.run)

def readText [Workspace m] (path : String) : Running m String := do
  match String.fromUTF8? (← ofFile (Workspace.readBytes path)) with
  | some text => return text
  | none => throw (.file .notText)

def tell [Workspace m] (report : Report) : Running m Unit :=
  ExceptT.lift (Workspace.tell report)

end Running

end Tablesmith
