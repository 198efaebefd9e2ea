import Tablesmith.Grid.CellKind
import Tablesmith.Ooxml.Part
import Tablesmith.Ooxml.Worksheet

/-!
# Packages

The worksheets of a package together with its shared texts. The main part of a workbook lists its sheets in the order of
their tabs, and names the day from which dates are counted. It refers to other parts by identifiers; its relationships say
at which path of the package each of them is. The styles give every style of a cell a number format, either a built-in one
or one that they define by a code.

A package that is encrypted is kept in a compound file and is no archive.
-/

namespace Tablesmith.Ooxml

open Tablesmith.Grid
open Tablesmith.Xml

/-- The paths of parts by identifier, the later ones first. -/
abbrev Relationships : Type :=
  List (String × String)

/-- The path in the package of a target, which is given from the top or from the workbook. -/
def targetPath (target : String) : String :=
  match target.toList with
  | '/' :: rest => String.ofList rest
  | chars => if "xl/".toList.isPrefixOf chars then target else "xl/" ++ target

/-- Relationships without a type, or with the type of a worksheet, are looked at. -/
def isWorksheetType (type : Option String) : Bool :=
  match type with
  | some type => "/worksheet".toList.isSuffixOf type.toList
  | none => true

def Relationships.step (relationships : Relationships) (event : Event) :
    Except XmlFault Relationships :=
  match event with
  | .start tag => do
    if localName tag.name ≠ name "Relationship" then return relationships
    let id ← tag.value? (name "Id")
    let type ← tag.value? (name "Type")
    let target ← tag.value? (name "Target")
    match id, target with
    | some id, some target =>
      if isWorksheetType type then return (id, targetPath target) :: relationships
      else return relationships
    | _, _ => return relationships
  | _ => .ok relationships

/-- A sheet and the part that holds it. -/
structure Tab where
  name : String
  path : String
deriving DecidableEq

/-- What the main part says. The last tab comes first. -/
structure Tabs where
  system : DateSystem
  tabs : List Tab
deriving DecidableEq

namespace Tabs

/-- Nothing is said. -/
def start : Tabs :=
  ⟨.from1900, []⟩

/-- The date system that a property names. -/
def dateSystem (value : Option String) : DateSystem :=
  if value = some "1" ∨ value = some "true" then .from1904 else .from1900

/-- Takes in an event. A sheet whose part is not known is left out. -/
def step (relationships : Relationships) (tabs : Tabs) (event : Event) : Except XmlFault Tabs :=
  match event with
  | .start tag => do
    if tag.name = Xml.name "sheet" then
      let values ← tag.values [Xml.name "name", Xml.name "id"]
      let path? := (values.lookup (Xml.name "id")).bind fun id => relationships.lookup id
      match values.lookup (Xml.name "name"), path? with
      | some name, some path => return { tabs with tabs := ⟨name, path⟩ :: tabs.tabs }
      | _, _ => return tabs
    else if tag.name = Xml.name "workbookPr" then
      return { tabs with system := dateSystem (← tag.value? (Xml.name "date1904")) }
    else return tabs
  | _ => .ok tabs

end Tabs

/-- What the styles say so far: whether definitions of formats or styles of cells are being listed,
the kinds of cells that defined formats make, and the format of each style, the last first. -/
structure Styles where
  inFormats : Bool
  inStyles : Bool
  formats : List (String × CellKind)
  styles : List String
deriving DecidableEq

namespace Styles

/-- Nothing is said. -/
def start : Styles :=
  ⟨false, false, [], []⟩

/-- Takes in a definition of a format. -/
def addFormat (styles : Styles) (tag : Tag) (system : DateSystem) : Except XmlFault Styles := do
  let id ← tag.value? (name "numFmtId")
  let code ← tag.value? (name "formatCode")
  match id, code with
  | some id, some code =>
    return { styles with formats := styles.formats ++ [(id, .ofFormatCode code system)] }
  | _, _ => return styles

def addStyle (styles : Styles) (tag : Tag) : Except XmlFault Styles := do
  let id ← tag.value? (name "numFmtId")
  return { styles with styles := id.getD "0" :: styles.styles }

def step (system : DateSystem) (styles : Styles) (event : Event) : Except XmlFault Styles :=
  match event with
  | .start tag =>
    if tag.name = name "numFmts" then .ok { styles with inFormats := true }
    else if tag.name = name "numFmt" ∧ styles.inFormats then styles.addFormat tag system
    else if tag.name = name "cellXfs" then .ok { styles with inStyles := true }
    else if tag.name = name "xf" ∧ styles.inStyles then styles.addStyle tag
    else .ok styles
  | .finish finished =>
    if finished = name "numFmts" then .ok { styles with inFormats := false }
    else if finished = name "cellXfs" then .ok { styles with inStyles := false }
    else .ok styles
  | _ => .ok styles

/-- The kind of cell that each style makes of a number. -/
def cellKinds (styles : Styles) (system : DateSystem) : List CellKind :=
  CellKind.ofStyles styles.styles.reverse styles.formats system

end Styles

open Tablesmith.Zip

/-- The stream of a compound file that holds an encrypted package. -/
def encryptedStream : String := "EncryptedPackage"

def isEncrypted (bytes : List UInt8) : Bool :=
  match CompoundFile.ofBytes bytes with
  | .ok file => file.contains encryptedStream
  | .error _ => false

/-- The part that lists the sheets. -/
def workbookPart : String := "xl/workbook.xml"

def relationshipsPart : String := "xl/_rels/workbook.xml.rels"

def stylesPart : String := "xl/styles.xml"

def sharedStringsPart : String := "xl/sharedStrings.xml"

/-- Reads the sheets that a package lists. -/
def readTabs (package : Archive) : Except WorkbookFault Tabs := do
  let relationships ← readPart Relationships.step [] (← needPart package relationshipsPart)
  readPart (Tabs.step relationships) Tabs.start (← needPart package workbookPart)

def readStyles (package : Archive) (system : DateSystem) : Except WorkbookFault (List CellKind) := do
  match ← part? package stylesPart with
  | some document =>
    return (← readPart (Styles.step system) Styles.start document).cellKinds system
  | none => return []

def readSharedStrings (package : Archive) : Except WorkbookFault (List String) := do
  match ← part? package sharedStringsPart with
  | some document => return (← readPart SharedStrings.step SharedStrings.start document).toList
  | none => return []

def readWorksheet (package : Archive) (file : String) (kinds : Array CellKind) (tab : Tab) :
    Except WorkbookFault Sheet := do
  let document ← needPart package tab.path
  return (← readPart (Worksheet.step kinds) (Worksheet.start (.empty file tab.name)) document).sheet

/-- Reads all worksheets of a package and its shared texts; `file` is the name of the package. -/
def readPackage (file : String) (bytes : List UInt8) :
    Except WorkbookFault (List Sheet × List String) := do
  if isEncrypted bytes then throw (.passwordProtected file)
  let package ← (Archive.ofBytes bytes).mapError .archive
  let tabs ← readTabs package
  if tabs.tabs.isEmpty then throw (.noSheets file)
  let kinds ← readStyles package tabs.system
  let shared ← readSharedStrings package
  let sheets ← tabs.tabs.reverse.mapM (readWorksheet package file kinds.toArray)
  return (sheets, shared)

end Tablesmith.Ooxml
