import Std.Data.HashMap
import Std.Data.HashSet
import Tablesmith.Number.Numeral
import Tablesmith.Schema.Basic

/-!
# Table extraction

The keys of all sheets are catalogued first, by the name of their table, then every reference is checked against the
catalog, and then the rows are read. A table can be known without having any key. A sheet without a primary key has the
numbers of its rows as keys.
-/

namespace Tablesmith

/-- The tables that are known and their keys. -/
structure KeyCatalog where
  tables : Std.HashMap String (Std.HashSet String)

namespace KeyCatalog

/-- No table is known. -/
def empty : KeyCatalog :=
  ⟨∅⟩

def keys? (catalog : KeyCatalog) (table : String) : Option (Std.HashSet String) :=
  catalog.tables[table]?

/-- Makes a table known. -/
def register (catalog : KeyCatalog) (table : String) : KeyCatalog :=
  ⟨catalog.tables.insertIfNew table ∅⟩

def containsTable (catalog : KeyCatalog) (table : String) : Bool :=
  catalog.tables.contains table

def contains (catalog : KeyCatalog) (table key : String) : Bool :=
  match catalog.keys? table with
  | some keys => keys.contains key
  | none => false

/-- Adds a key to a table, which is known from then on. -/
def insert (catalog : KeyCatalog) (table key : String) : KeyCatalog :=
  ⟨catalog.tables.alter table fun keys => some ((keys.getD ∅).insert key)⟩

/-- The number of tables that are known. -/
def size (catalog : KeyCatalog) : Nat :=
  catalog.tables.size

/-- No table is known. -/
def isEmpty (catalog : KeyCatalog) : Bool :=
  catalog.tables.isEmpty

end KeyCatalog

open Tablesmith.Number

/-- The values of a row by the name of their property. -/
abbrev Record : Type :=
  TextMap String

/-- The rows of a sheet by their key. -/
abbrev Rows : Type :=
  TextMap Record

/-- The rows of all sheets by the name of the sheet. -/
abbrev Tables : Type :=
  TextMap Rows

/-- A step that may fail and adds to the key catalog; what it added stays when it fails. -/
abbrev Cataloguing : Type → Type :=
  ExceptT Fault (StateM KeyCatalog)

namespace Schema

/-- The key of a row that has no key of its own. -/
def rowKey (row : Nat) : String :=
  showNat row

def value (schema : Schema) (row : Nat) (property : Fin schema.columnCount) :
    Except Fault String :=
  checkValue (schema.text row property) (schema.propertyAt property).type
    (schema.locate row property)

/-- Adds the key of a row to the catalog. An empty key is passed over here. -/
def catalogKey (schema : Schema) (key : Fin schema.columnCount) (row : Nat) : Cataloguing Unit := do
  if schema.text row key ≠ "" then
    let text ← liftM (schema.value row key)
    let isRepeated := (← get).contains schema.name text
    modify (·.insert schema.name text)
    if isRepeated then
      throw ⟨schema.locate row key, .keyRepeated text⟩

/-- Adds the keys of a sheet to the catalog. -/
def catalogKeys (schema : Schema) : Cataloguing Unit := do
  modify (·.register schema.name)
  match schema.primaryKey with
  | some key => (List.range schema.rowCount).forM (schema.catalogKey key)
  | none =>
    (List.range schema.rowCount).forM fun row => modify (·.insert schema.name (rowKey row))

/-- The value of a reference must be a key of the table that it refers to. -/
def checkReference (schema : Schema) (catalog : KeyCatalog) (reference : ForeignKey schema.columnCount)
    (row : Nat) : Except Fault Unit := do
  let value ← schema.value row reference.column
  if catalog.contains reference.table value then return ()
  else
    throw ⟨schema.locate row reference.column, .referenceDangling value reference.table⟩

/-- A reference must be to a table that is known, in every row to a key of it. -/
def checkForeignKey (schema : Schema) (catalog : KeyCatalog)
    (reference : ForeignKey schema.columnCount) : Except Fault Unit :=
  if catalog.containsTable reference.table then
    (List.range schema.rowCount).forM (schema.checkReference catalog reference)
  else
    .error
      ⟨⟨schema.table, schema.name, (schema.propertyAt reference.column).name, ""⟩,
        .tableUnknown reference.table⟩

/-- All references of a sheet must hold. -/
def checkForeignKeys (schema : Schema) (catalog : KeyCatalog) : Except Fault Unit :=
  schema.foreignKeys.forM (schema.checkForeignKey catalog)

def key (schema : Schema) (row : Nat) : Except Fault String :=
  match schema.primaryKey with
  | some key => schema.value row key
  | none => .ok (rowKey row)

/-- The values of a row, without its key. -/
def record (schema : Schema) (row : Nat) : Except Fault Record :=
  schema.valueProperties.foldlM
    (fun record property =>
      (schema.value row property).map fun value =>
        record.insert ((schema.propertyAt property).name, value))
    OrderedBy.empty

def rows (schema : Schema) : Except Fault Rows :=
  (List.range schema.rowCount).foldlM
    (fun rows row => do
      let key ← schema.key row
      let record ← schema.record row
      return rows.insert (key, record))
    OrderedBy.empty

end Schema

namespace Tables

/-- Adds the keys of all sheets to the catalog. -/
def catalogKeys (schemas : List Schema) : Cataloguing Unit :=
  schemas.forM Schema.catalogKeys

/-- Checks the references of all sheets against the catalog. -/
def checkForeignKeys (schemas : List Schema) (catalog : KeyCatalog) : Except Fault Unit :=
  schemas.forM (·.checkForeignKeys catalog)

/-- Reads the rows of all sheets. Of two sheets with one name the later counts. -/
def read (schemas : List Schema) : Except Fault Tables :=
  schemas.foldlM
    (fun tables schema => schema.rows.map fun rows => tables.insert (schema.name, rows))
    OrderedBy.empty

/-- Catalogues the keys, checks the references and reads the rows. -/
def extract (schemas : List Schema) : Cataloguing Tables := do
  catalogKeys schemas
  liftM (checkForeignKeys schemas (← get))
  liftM (read schemas)

end Tables

end Tablesmith
