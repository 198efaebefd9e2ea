import Std.Data.HashSet
import Tablesmith.Cipher.Basic
import Tablesmith.Extract.Tables
import Tablesmith.Json.Basic

/-!
# Strings and documents

A string sheet has a text per language in every row. Extraction turns rows into languages: each
language maps the keys of all string sheets to its texts.

The rows of a sheet and the texts of a language are written as JSON objects, in order, and encrypted
if there is a cipher. There is a document for every sheet, and one for every language, each named by its stem.
-/

namespace Tablesmith

/-- The texts of a language by their key. -/
abbrev Texts : Type :=
  TextMap String

/-- The texts of every language by the name of the language. -/
abbrev Languages : Type :=
  TextMap Texts

/-- The languages read so far and the keys that are in use in any of them. -/
structure StringTable where
  languages : Languages
  keys : Std.HashSet String

namespace Schema

/-- A string sheet needs a primary key. -/
def stringKey (schema : Schema) : Except Fault (Fin schema.columnCount) :=
  match schema.primaryKey with
  | some key => .ok key
  | none => .error ⟨Location.ofSheet schema.table schema.name, .stringKeyMissing⟩

/-- The language of a column, which must hold strings. -/
def language (schema : Schema) (property : Fin schema.columnCount) : Except Fault String :=
  let found := schema.propertyAt property
  if found.type = .string then .ok found.name
  else .error ⟨⟨schema.table, schema.name, found.name, ""⟩, .languageNotString found.type⟩

/-- The key of a row of texts, which must not be empty. -/
def stringKeyText (schema : Schema) (row : Nat) (key : Fin schema.columnCount) :
    Except Fault String :=
  let text := schema.text row key
  if text = "" then .error ⟨schema.locate row key, .stringKeyEmpty⟩ else .ok text

/-- The text of a row in a language, which must not be empty. -/
def stringText (schema : Schema) (row : Nat) (property : Fin schema.columnCount) :
    Except Fault String :=
  let text := schema.text row property
  if text = "" then .error ⟨schema.locate row property, .stringEmpty⟩ else .ok text

end Schema

namespace Languages

/-- The name of the document of a language, without its extension. -/
def fileStem (language : String) : String :=
  "GSTR_" ++ language

/-- The texts of a language, none if it is new. -/
def texts (languages : Languages) (language : String) : Texts :=
  (languages.get? language).getD OrderedBy.empty

/-- Adds a language, keeping its texts if it is there already. -/
def declare (languages : Languages) (language : String) : Languages :=
  languages.insert (language, languages.texts language)

def addText (languages : Languages) (language key text : String) : Languages :=
  languages.insert (language, (languages.texts language).insert (key, text))

end Languages

namespace StringTable

/-- Nothing is read yet. -/
def empty : StringTable :=
  ⟨OrderedBy.empty, ∅⟩

def addCell (schema : Schema) (row : Nat) (key : String) (languages : Languages)
    (property : Fin schema.columnCount) : Except Fault Languages :=
  (schema.stringText row property).map
    (languages.addText (schema.propertyAt property).name key)

/-- Adds the texts of a row, whose key must be new among all sheets. -/
def addRow (schema : Schema) (key : Fin schema.columnCount) (table : StringTable) (row : Nat) :
    Except Fault StringTable := do
  let text ← schema.stringKeyText row key
  if table.keys.contains text then throw ⟨schema.locate row key, .stringKeyRepeated text⟩
  else
    let languages ← schema.valueProperties.foldlM (addCell schema row text) table.languages
    return ⟨languages, table.keys.insert text⟩

/-- Adds the languages and the texts of a sheet. -/
def addSheet (table : StringTable) (schema : Schema) : Except Fault StringTable := do
  let key ← schema.stringKey
  let languages :=
    schema.valueProperties.foldl
      (fun languages property => languages.declare (schema.propertyAt property).name)
      table.languages
  (List.range schema.rowCount).foldlM (addRow schema key) ⟨languages, table.keys⟩

end StringTable

namespace Languages

/-- Adds the languages of a sheet to those known, each once. -/
def addNames (known : List String) (schema : Schema) : Except Fault (List String) := do
  let _ ← schema.stringKey
  schema.valueProperties.foldlM
    (fun known property =>
      (schema.language property).map fun language =>
        if known.contains language then known else known ++ [language])
    known

/-- The languages of all sheets in the order in which they are first seen. -/
def names (schemas : List Schema) : Except Fault (List String) :=
  schemas.foldlM addNames []

/-- Reads the texts of all sheets. -/
def read (schemas : List Schema) : Except Fault Languages :=
  (schemas.foldlM StringTable.addSheet StringTable.empty).map (·.languages)

/-- Checks the languages and reads the texts of all sheets. -/
def extract (schemas : List Schema) : Except Fault Languages := do
  let _ ← names schemas
  read schemas

end Languages

open Tablesmith.Number

def textsDocument (texts : TextMap String) : Json :=
  .ofMembers (texts.toList.map fun entry => (entry.1, .ofText entry.2))

/-- An object from keys to records. -/
def rowsDocument (rows : Rows) : Json :=
  .ofMembers (rows.toList.map fun entry => (entry.1, textsDocument entry.2))

/-- The text of a document, encrypted if there is a cipher. -/
def renderDocument (document : Json) (cipher : Option DocumentCipher) : String :=
  match cipher with
  | some cipher => cipher.encrypt document.write
  | none => document.write

def documentEnding : String := ".json"

def documentName (stem : String) : String :=
  stem ++ documentEnding

/-- A document that is to be written: its stem, its content, and how it is told what it holds. -/
structure Output where
  stem : String
  content : Json
  size : String

/-- The documents of tables, one for each sheet. -/
def Tables.outputs (tables : Tables) : List Output :=
  tables.toList.map fun entry =>
    ⟨entry.1, rowsDocument entry.2, showNat entry.2.size ++ " rows"⟩

def Languages.outputs (languages : Languages) : List Output :=
  languages.toList.map fun entry =>
    ⟨Languages.fileStem entry.1, textsDocument entry.2, showNat entry.2.size ++ " strings"⟩

end Tablesmith
