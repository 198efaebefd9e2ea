import Tablesmith.Number.Numeral
import Tablesmith.Run.Failure
import Tablesmith.Schema.Discovery

/-!
# Collecting schemas

Every file below the table directory that looks like a workbook by its name is one, unless it is the lock file of an open
workbook. Workbooks are read one after the other, in the order of the names on the way to them. The settings, which are
kept in a file like the alias list, name one by its stem that holds strings, and one that is not opened at all.
-/

namespace Tablesmith

open Tablesmith.Text

variable {m : Type → Type} [Monad m] [Workspace m]

def workbookExtensions : List String :=
  ["xlsx", "xls"]

/-- How the names of lock files begin. -/
def lockMark : String := "~$"

/-- The name of a file looks like that of a workbook. -/
def isWorkbookName (name : String) : Bool :=
  match Path.extension? name with
  | some extension =>
    workbookExtensions.contains (lowerAscii extension) && !lockMark.toList.isPrefixOf name.toList
  | none => false

/-- A file whose name is the last on its route is a workbook. -/
def isWorkbookRoute (route : List String) : Bool :=
  (route.getLast?.map isWorkbookName).getD false

/-- The order of routes, name by name. -/
def routeLe (left right : List String) : Bool :=
  !decide (right < left)

/-- The workbooks among files, in order. -/
def workbookRoutes (routes : List (List String)) : List (List String) :=
  (routes.filter isWorkbookRoute).mergeSort routeLe

def workbooksBelow (directory : String) : Running m (List String) := do
  match Path.listing? directory with
  | none => return []
  | some base =>
    let routes ← Running.ofFile (Workspace.filesBelow base)
    return (workbookRoutes routes).map (Path.listed base)

/-- The paths of the workbooks below a directory, of which there must be one. -/
def findWorkbooks (directory : String) : Running m (List String) := do
  if ← (Workspace.isDirectory directory : m Bool) then
    let paths ← workbooksBelow directory
    if paths.isEmpty then throw (.noWorkbooks directory) else return paths
  else throw (.tablesMissing directory)

open Running

def Settings.load (path : String) : Running m Settings :=
  withFile path do
    match Settings.ofText? (← readText path) with
    | some settings => return settings
    | none => throw .notJson

def Settings.save (settings : Settings) (path : String) : Running m Unit :=
  ofFile (Workspace.writeText path settings.toText)

namespace TypeAliases

/-- Loads the aliases in a file; without the file there are the names of types alone. -/
def load (path : String) : Running m TypeAliases := do
  if ← (Workspace.isPresent path : m Bool) then
    match itemsOfText? (← readText path) with
    | some items => ofResult .unknownType (ofItems items)
    | none => throw (.inFile path .notJson)
  else return builtin

def save (aliases : TypeAliases) (path : String) : Running m Unit :=
  ofFile (Workspace.writeText path aliases.toText)

end TypeAliases

def Settings.aliases (settings : Settings) : Running m TypeAliases :=
  match settings.typeAliasPath with
  | some path => TypeAliases.load path
  | none => return .builtin

open Tablesmith.Number

/-- The schemas of all sheets, those of tables and those of strings. -/
structure Collection where
  tables : List Schema
  strings : List Schema

namespace Collection

/-- No schemas. -/
def empty : Collection :=
  ⟨[], []⟩

def add (collection : Collection) (isStrings : Bool) (schemas : List Schema) : Collection :=
  if isStrings then { collection with strings := collection.strings ++ schemas }
  else { collection with tables := collection.tables ++ schemas }

def openWorkbook (path : String) : Running m Workbook :=
  withFile path do
    let content ← ofFile (Workspace.readBytes path)
    ofResult .workbook (Workbook.ofBytes path content.data.toList)

/-- Discovers the schemas of a workbook and tells about them. -/
def readWorkbook (aliases : TypeAliases) (path : String) : Running m (List Schema) := do
  let workbook ← openWorkbook path
  let (reports, result) := Schema.ofWorkbook workbook aliases
  reports.forM tell
  ofResult .fault result

def addPath (settings : Settings) (aliases : TypeAliases) (collection : Collection)
    (path : String) : Running m Collection := do
  let stem := Path.stem path
  if settings.enumFileName = some stem then
    tell (.info ("Skipping enum workbook '" ++ stem ++ "'"))
    return collection
  else
    let schemas ← readWorkbook aliases path
    return collection.add (settings.stringFileName = some stem) schemas

def tellPaths (paths : List String) : Running m Unit := do
  tell (.info "[Workbooks]")
  paths.forM fun path => tell (.info ("  * " ++ (Path.fileName? path).getD ""))
  tell (.info ("Found " ++ showNat paths.length ++ " workbook(s)"))

/-- Collects the schemas of all workbooks below a directory. -/
def ofDirectory (settings : Settings) (aliases : TypeAliases) (directory : String) :
    Running m Collection := do
  let paths ← findWorkbooks directory
  tellPaths paths
  paths.foldlM (addPath settings aliases) empty

/-- Collects the schemas that the settings ask for. -/
def ofSettings (settings : Settings) : Running m Collection := do
  let directory ← ofResult .missingSetting (settings.require .tablePath)
  let aliases ← settings.aliases
  ofDirectory settings aliases directory

end Collection

end Tablesmith
