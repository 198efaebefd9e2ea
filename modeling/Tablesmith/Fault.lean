import Tablesmith.PropertyType

/-!
# Faults in the data

What can be wrong with a sheet, and where. A fault names its place as table, sheet, column and cell,
as far as they are known, and what it says depends on nothing else.
-/

namespace Tablesmith

/-- A place in the data; a part that is not known is empty. -/
structure Location where
  table : String
  sheet : String
  column : String
  cell : String
deriving DecidableEq

namespace Location

/-- No part is known. -/
def unknown : Location :=
  ⟨"", "", "", ""⟩

def ofSheet (table sheet : String) : Location :=
  ⟨table, sheet, "", ""⟩

/-- The known parts in brackets, with slashes between them. -/
def text (location : Location) : String :=
  let parts := [location.table, location.sheet, location.column, location.cell].filter (· ≠ "")
  "[" ++ String.intercalate "/" parts ++ "]"

/-- A message about a place. -/
def describe (location : Location) (message : String) : String :=
  location.text ++ " - " ++ message

end Location

/-- What a fault offends against: the layout of a sheet, the references between rows, or the type of
a value. -/
inductive FaultKind
  | schema
  | integrity
  | value
deriving DecidableEq

/-- Everything that can be wrong with a sheet. -/
inductive Problem
  | sheetNameMissing
  | markerMissing
  | markerSingle
  | propertyNameEmpty
  | propertyNameSpaced (name : String)
  | propertyNamedAsSheet (name : String)
  | propertyRepeated (name : String)
  | typeNotText
  | typeUnknown (name : String)
  | sheetRepeated (name : String)
  | valueEmpty
  | valueRejected (text : String) (type : PropertyType)
  | keyRepeated (key : String)
  | tableUnknown (table : String)
  | referenceDangling (value table : String)
  | stringKeyMissing
  | languageNotString (type : PropertyType)
  | stringKeyEmpty
  | stringKeyRepeated (key : String)
  | stringEmpty
deriving DecidableEq

namespace Problem

/-- What the problem offends against. -/
def kind : Problem → FaultKind
  | sheetNameMissing | markerMissing | markerSingle | propertyNameEmpty | propertyNameSpaced _
  | propertyNamedAsSheet _ | propertyRepeated _ | typeNotText | typeUnknown _ | sheetRepeated _
  | stringKeyMissing | languageNotString _ => .schema
  | keyRepeated _ | tableUnknown _ | referenceDangling _ _ | stringKeyEmpty
  | stringKeyRepeated _ => .integrity
  | valueEmpty | valueRejected _ _ | stringEmpty => .value

def message : Problem → String
  | sheetNameMissing => "sheet name cell is empty or not text"
  | markerMissing => "range marker '@' not found in the first row"
  | markerSingle => "range needs an opening and a closing '@' marker"
  | propertyNameEmpty => "property name is empty"
  | propertyNameSpaced name => "property name contains whitespace: '" ++ name ++ "'"
  | propertyNamedAsSheet name =>
    "property name '" ++ name ++ "' must differ from the sheet name"
  | propertyRepeated name => "duplicate property name '" ++ name ++ "'"
  | typeNotText => "property type must be a text cell"
  | typeUnknown name => "unsupported property type '" ++ name ++ "'"
  | sheetRepeated name => "duplicate sheet name '" ++ name ++ "'"
  | valueEmpty => "cell value is empty"
  | valueRejected text type => "'" ++ text ++ "' cannot be converted to " ++ type.name
  | keyRepeated key => "duplicate primary key value '" ++ key ++ "'"
  | tableUnknown table => "referenced table '" ++ table ++ "' not found"
  | referenceDangling value table =>
    "foreign key value '" ++ value ++ "' not found in the primary keys of '" ++ table ++ "'"
  | stringKeyMissing => "string table requires a primary key"
  | languageNotString type => "language column must be string, found " ++ type.name
  | stringKeyEmpty => "string key is empty"
  | stringKeyRepeated key => "duplicate string key '" ++ key ++ "'"
  | stringEmpty => "string value is empty"

end Problem

/-- A problem and its place. -/
structure Fault where
  location : Location
  problem : Problem
deriving DecidableEq

namespace Fault

/-- The place and what is said about the problem. -/
def message (fault : Fault) : String :=
  fault.location.describe fault.problem.message

end Fault

/-- A value of a column: not empty and accepted by its type. -/
def checkValue (text : String) (type : PropertyType) (location : Location) : Except Fault String :=
  if text = "" then .error ⟨location, .valueEmpty⟩
  else if type.accepts text then .ok text
  else .error ⟨location, .valueRejected text type⟩

end Tablesmith
