import Tablesmith.Extract.Document

/-!
# Extractors

An extractor goes through the cells of sheets with a cursor. Whatever it finds wrong, it names the
place where the cursor stands. The cursor stays where it is when a call stops, and so do the keys that
an extractor of tables has collected.
-/

namespace Tablesmith

/-- What an extractor keeps from call to call, and where it stands. -/
structure Extractor (κ : Type) where
  kept : κ
  place : Location

/-- A call of an extractor. What it does to the extractor stays when it stops. -/
abbrev Extracting (κ : Type) : Type → Type :=
  ExceptT Fault (StateM (Extractor κ))

namespace Extractor

variable {κ α : Type}

def move (change : Location → Location) : Extracting κ Unit :=
  modify fun extractor => { extractor with place := change extractor.place }

/-- Moves to a sheet, to no column and no cell of it. -/
def enterSheet (schema : Schema) : Extracting κ Unit :=
  move fun _ => Location.ofSheet schema.table schema.name

/-- Moves to a column; the cell stays. -/
def enterColumn (name : String) : Extracting κ Unit :=
  move fun place => { place with column := name }

/-- Moves to a cell; the column stays. -/
def enterReference (reference : String) : Extracting κ Unit :=
  move fun place => { place with cell := reference }

/-- Moves to the cell of a property in a data row. -/
def enterCell (schema : Schema) (row : Nat) (property : Fin schema.columnCount) :
    Extracting κ Unit := do
  enterColumn (schema.propertyAt property).name
  enterReference (Schema.cellReference row property)

/-- Moves out of all sheets. -/
def leave : Extracting κ Unit :=
  move fun _ => Location.unknown

/-- Stops where the cursor stands. -/
def fail (problem : Problem) : Extracting κ α := do
  throw ⟨(← get).place, problem⟩

/-- The text must be a value of the type; if it is none, the fault is where the cursor stands. -/
def check (text : String) (type : PropertyType) : Extracting κ String := do
  liftM (checkValue text type (← get).place)

/-- The value of a property in a row, to which the cursor moves. -/
def readValue (schema : Schema) (row : Nat) (property : Fin schema.columnCount) :
    Extracting κ String := do
  enterCell schema row property
  check (schema.text row property) (schema.propertyAt property).type

end Extractor

open Extractor

/-- An extractor of tables keeps the keys that it has collected. -/
abbrev TableExtractor : Type :=
  Extractor KeyCatalog

namespace TableExtractor

/-- An extractor that was not called yet. -/
def fresh : TableExtractor :=
  ⟨KeyCatalog.empty, Location.unknown⟩

def catalogue (change : KeyCatalog → KeyCatalog) : Extracting KeyCatalog Unit :=
  modify fun extractor => { extractor with kept := change extractor.kept }

/-- Adds a key to the catalog, and tells whether it was there already. -/
def addKey (table key : String) : Extracting KeyCatalog Bool := do
  let isKnown := (← get).kept.contains table key
  catalogue (·.insert table key)
  return isKnown

/-- Collects the key of a row. An empty key is passed over here. -/
def collectKey (schema : Schema) (key : Fin schema.columnCount) (row : Nat) :
    Extracting KeyCatalog Unit := do
  enterCell schema row key
  let text := schema.text row key
  if text ≠ "" then
    let value ← check text (schema.propertyAt key).type
    if ← addKey schema.name value then
      fail (.keyRepeated value)

def collectSheetKeys (schema : Schema) : Extracting KeyCatalog Unit := do
  enterSheet schema
  catalogue (·.register schema.name)
  match schema.primaryKey with
  | some key => (List.range schema.rowCount).forM (collectKey schema key)
  | none =>
    (List.range schema.rowCount).forM fun row =>
      catalogue (·.insert schema.name (Schema.rowKey row))

def collectKeys (schemas : List Schema) : Extracting KeyCatalog Unit :=
  schemas.forM collectSheetKeys

/-- The value of a reference must be a key of the table that it refers to. -/
def checkReference (schema : Schema) (reference : ForeignKey schema.columnCount) (row : Nat) :
    Extracting KeyCatalog Unit := do
  let value ← readValue schema row reference.column
  if (← get).kept.contains reference.table value then return ()
  else fail (.referenceDangling value reference.table)

/-- A reference must be to a table that is known, in every row to a key of it. -/
def checkForeignKey (schema : Schema) (reference : ForeignKey schema.columnCount) :
    Extracting KeyCatalog Unit := do
  if (← get).kept.containsTable reference.table then
    (List.range schema.rowCount).forM (checkReference schema reference)
  else
    enterColumn (schema.propertyAt reference.column).name
    enterReference ""
    fail (.tableUnknown reference.table)

/-- All references of a sheet must hold. -/
def checkSheetReferences (schema : Schema) : Extracting KeyCatalog Unit := do
  enterSheet schema
  schema.foreignKeys.forM (checkForeignKey schema)

/-- All references of all sheets must hold. -/
def checkReferences (schemas : List Schema) : Extracting KeyCatalog Unit :=
  schemas.forM checkSheetReferences

def readKey (schema : Schema) (row : Nat) : Extracting KeyCatalog String :=
  match schema.primaryKey with
  | some key => readValue schema row key
  | none => return Schema.rowKey row

def addValue (schema : Schema) (row : Nat) (record : Record) (property : Fin schema.columnCount) :
    Extracting KeyCatalog Record := do
  let value ← readValue schema row property
  return record.insert ((schema.propertyAt property).name, value)

/-- Adds the record of a row under its key. -/
def addRow (schema : Schema) (rows : Rows) (row : Nat) : Extracting KeyCatalog Rows := do
  let key ← readKey schema row
  let record ← schema.valueProperties.foldlM (addValue schema row) OrderedBy.empty
  return rows.insert (key, record)

/-- Adds the rows of a sheet under its name. -/
def addSheet (tables : Tables) (schema : Schema) : Extracting KeyCatalog Tables := do
  enterSheet schema
  let rows ← (List.range schema.rowCount).foldlM (addRow schema) OrderedBy.empty
  return tables.insert (schema.name, rows)

/-- Reads the rows of all sheets. -/
def read (schemas : List Schema) : Extracting KeyCatalog Tables := do
  let tables ← schemas.foldlM addSheet OrderedBy.empty
  leave
  return tables

/-- Collects the keys, checks the references and reads the rows. -/
def extract (schemas : List Schema) : Extracting KeyCatalog Tables := do
  collectKeys schemas
  checkReferences schemas
  read schemas

end TableExtractor

/-- An extractor of texts keeps nothing but its place. -/
abbrev StringExtractor : Type :=
  Extractor Unit

namespace StringExtractor

/-- An extractor that was not called yet. -/
def fresh : StringExtractor :=
  ⟨(), Location.unknown⟩

/-- The primary key of a string sheet. -/
def stringKey (schema : Schema) : Extracting Unit (Fin schema.columnCount) :=
  match schema.primaryKey with
  | some key => return key
  | none => fail .stringKeyMissing

/-- Adds the language of a column, which must hold strings, if it is not known. -/
def addName (schema : Schema) (known : List String) (property : Fin schema.columnCount) :
    Extracting Unit (List String) := do
  let found := schema.propertyAt property
  if found.type = .string then
    return if known.contains found.name then known else known ++ [found.name]
  else
    enterColumn found.name
    fail (.languageNotString found.type)

/-- Adds the languages of a sheet to those known. -/
def addNames (known : List String) (schema : Schema) : Extracting Unit (List String) := do
  enterSheet schema
  let _ ← stringKey schema
  schema.valueProperties.foldlM (addName schema) known

/-- The languages of all sheets in the order in which they are first seen. -/
def names (schemas : List Schema) : Extracting Unit (List String) := do
  let known ← schemas.foldlM addNames []
  leave
  return known

def addCell (schema : Schema) (row : Nat) (key : String) (languages : Languages)
    (property : Fin schema.columnCount) : Extracting Unit Languages := do
  enterCell schema row property
  let text := schema.text row property
  if text = "" then fail .stringEmpty
  else return languages.addText (schema.propertyAt property).name key text

/-- Adds the texts of a row, whose key must be new among all sheets. -/
def addRow (schema : Schema) (key : Fin schema.columnCount) (table : StringTable) (row : Nat) :
    Extracting Unit StringTable := do
  enterCell schema row key
  let text := schema.text row key
  if text = "" then fail .stringKeyEmpty
  else if table.keys.contains text then fail (.stringKeyRepeated text)
  else
    let languages ← schema.valueProperties.foldlM (addCell schema row text) table.languages
    return ⟨languages, table.keys.insert text⟩

/-- Adds the languages and the texts of a sheet. -/
def addSheet (table : StringTable) (schema : Schema) : Extracting Unit StringTable := do
  enterSheet schema
  let key ← stringKey schema
  let languages :=
    schema.valueProperties.foldl
      (fun languages property => languages.declare (schema.propertyAt property).name)
      table.languages
  (List.range schema.rowCount).foldlM (addRow schema key) ⟨languages, table.keys⟩

/-- Reads the texts of all sheets. -/
def read (schemas : List Schema) : Extracting Unit Languages := do
  let table ← schemas.foldlM addSheet StringTable.empty
  leave
  return table.languages

/-- Checks the languages and reads the texts of all sheets. -/
def extract (schemas : List Schema) : Extracting Unit Languages := do
  let _ ← names schemas
  read schemas

end StringExtractor

end Tablesmith
