import Tablesmith.Accessor.Code
import Tablesmith.Extract.Document
import Tablesmith.Number.Numeral
import Tablesmith.Run.Failure
import Tablesmith.PropertyType

/-!
# Output

The results of a run are written into directories: accessor code, a document for every sheet, and a
document for every language. A document in such a directory that no sheet and no language of the run stands for is an
orphan. Before documents are written, orphans are kept, deleted, or left to the user to decide.
-/

namespace Tablesmith

open Running

variable {m : Type → Type} [Monad m] [Workspace m]

/-- What happens to orphans. -/
inductive OrphanPolicy
  | keep
  | delete
  | ask
deriving DecidableEq

/-- The name of a document whose stem is not among those in use. -/
def isOrphanName (active : List String) (name : String) : Bool :=
  documentEnding.toList.isSuffixOf name.toList && !active.contains (Path.stem name)

/-- The orphans among the files of a directory, in order. -/
def orphanNames (active names : List String) : List String :=
  (names.filter (isOrphanName active)).mergeSort textLe

/-- The paths of the orphans in a directory; what is no directory has none. -/
def findOrphans (directory : String) (active : List String) : Running m (List String) := do
  match Path.listing? directory with
  | none => return []
  | some base =>
    if ← (Workspace.isDirectory base : m Bool) then
      let names ← ofFile (Workspace.filesIn base)
      return (orphanNames active names).map fun name => Path.listed base [name]
    else return []

def OrphanPolicy.deletes (policy : OrphanPolicy) (path : String) : m Bool :=
  match policy with
  | keep => return false
  | delete => return true
  | ask => Workspace.mayDelete path

/-- Deletes an orphan or keeps it, and tells which. -/
def resolveOrphan (policy : OrphanPolicy) (path : String) : Running m Bool := do
  if ← (policy.deletes path : m Bool) then
    ofFile (Workspace.removeFile path)
    tell (.warning ("Deleted unused file '" ++ path ++ "'"))
    return true
  else
    tell (.warning ("Kept unused file '" ++ path ++ "'"))
    return false

/-- Deletes or keeps every orphan in a directory, and gives the paths of those that were deleted. -/
def resolveOrphans (directory : String) (active : List String) (policy : OrphanPolicy) :
    Running m (List String) := do
  (← findOrphans directory active).filterM (resolveOrphan policy)

open Tablesmith.Number

def Output.path (directory : String) (output : Output) : String :=
  Path.join directory (documentName output.stem)

def Output.save (directory : String) (cipher : Option DocumentCipher) (output : Output) :
    Running m Unit := do
  let path := output.path directory
  ofFile (Workspace.writeText path (renderDocument output.content cipher))
  tell (.info ("  * " ++ path ++ " (" ++ output.size ++ ")"))

/-- Deals with the orphans of a directory and writes documents into it. -/
def saveOutputs (directory : String) (cipher : Option DocumentCipher) (policy : OrphanPolicy)
    (outputs : List Output) : Running m Unit := do
  let _ ← resolveOrphans directory (outputs.map (·.stem)) policy
  outputs.forM (Output.save directory cipher)

/-- A directory that must exist already. -/
def needDirectory (directory : String) : Running m Unit := do
  unless ← (Workspace.isDirectory directory : m Bool) do
    throw (.outputMissing directory)

def Tables.save (tables : Tables) (directory : String) (cipher : Option DocumentCipher)
    (policy : OrphanPolicy) : Running m Unit := do
  needDirectory directory
  saveOutputs directory cipher policy tables.outputs

/-- Writes the documents of languages into a directory, which is made if need be. -/
def Languages.save (languages : Languages) (directory : String) (cipher : Option DocumentCipher)
    (policy : OrphanPolicy) : Running m Unit := do
  ofFile (Workspace.makeDirectories directory)
  saveOutputs directory cipher policy languages.outputs

/-- Writes the accessor code for schemas into a directory, and gives its path. -/
def saveCode (schemas : List Schema) (directory : String) : Running m String := do
  needDirectory directory
  let path := Path.join directory Accessor.fileName
  ofFile (Workspace.writeText path (Accessor.generate schemas))
  return path

end Tablesmith
