import Tablesmith.Fault
import Tablesmith.Grid.Sheet

/-!
# Schemas

A sheet describes itself in its first four rows: its name and the marked range of its columns, then a
description, a name and a type for every column. Data rows follow.
-/

namespace Tablesmith

open Tablesmith.Grid

/-- A column of a sheet. -/
structure Property where
  name : String
  type : PropertyType
  description : String
deriving DecidableEq

/-- A column whose values are keys of another table. -/
structure ForeignKey (columnCount : Nat) where
  column : Fin columnCount
  table : String
deriving DecidableEq

/-- What a sheet holds: its columns, which of them are keys, and how many rows of data there are. -/
structure Schema where
  table : String
  name : String
  rowCount : Nat
  columnCount : Nat
  properties : Vector Property columnCount
  primaryKey : Option (Fin columnCount)
  foreignKeys : List (ForeignKey columnCount)
  grid : Sheet

namespace Schema

/-- The row of the name and of the range markers. -/
def nameRow : Nat := 0

/-- The column of the name; data columns begin here too. -/
def nameColumn : Nat := 1

def descriptionRow : Nat := 1

def propertyRow : Nat := 2

def typeRow : Nat := 3

def dataRow : Nat := 4

/-- The character that marks the ends of the range and the rows of data. -/
def marker : Char := '@'

/-- The sheet column of a property. -/
def gridColumn (property : Nat) : Nat :=
  property + nameColumn

/-- The sheet row of a data row. -/
def gridRow (row : Nat) : Nat :=
  dataRow + row

/-- A property by its place among the properties. -/
def propertyAt (schema : Schema) (property : Fin schema.columnCount) : Property :=
  schema.properties.get property

def text (schema : Schema) (row : Nat) (property : Fin schema.columnCount) : String :=
  schema.grid.text (gridRow row) (gridColumn property)

def cellReference (row property : Nat) : String :=
  Grid.reference (gridRow row) (gridColumn property)

/-- The properties that are not the primary key, in order. -/
def valueProperties (schema : Schema) : List (Fin schema.columnCount) :=
  (List.finRange schema.columnCount).filter fun property => schema.primaryKey ≠ some property

/-- The place of the cell of a property in a data row. -/
def locate (schema : Schema) (row : Nat) (property : Fin schema.columnCount) : Location :=
  ⟨schema.table, schema.name, (schema.propertyAt property).name, cellReference row property⟩

end Schema

end Tablesmith
