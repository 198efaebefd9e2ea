/-!
# Kinds of cells

What a cell holds decides how its stored value is shown. Numbers are dates or times only by their
number format, which is either one of the built-in ones or given by a format code.
-/

namespace Tablesmith.Grid

/-- The day from which a workbook counts dates. -/
inductive DateSystem
  | from1900
  | from1904
deriving DecidableEq

/-- The part of a moment that a date format shows. -/
inductive DatePart
  | moment
  | day
  | time
deriving DecidableEq

/-- What a cell holds. -/
inductive CellKind
  | empty
  | boolean
  | number
  | serial (part : DatePart) (system : DateSystem)
  | isoMoment
  | inlineText
  | sharedText
  | error
deriving DecidableEq

def CellKind.isText : CellKind → Bool
  | inlineText | sharedText => true
  | _ => false

/-- What is open while a format code is read, and which letters of dates and times were met. -/
structure FormatScan where
  escaped : Bool
  quoted : Bool
  bracketed : Bool
  hasDay : Bool
  hasTime : Bool
deriving DecidableEq

namespace FormatScan

/-- Nothing is open and nothing was met. -/
def start : FormatScan :=
  ⟨false, false, false, false, false⟩

/-- One more character of the format code. An underscore or a backslash takes the next character out
of consideration wherever it stands. -/
def step (scan : FormatScan) (c : Char) : FormatScan :=
  if scan.escaped then { scan with escaped := false }
  else if c = '_' ∨ c = '\\' then { scan with escaped := true }
  else if c = '"' ∧ scan.quoted then { scan with quoted := false }
  else if c = '"' ∧ ¬scan.bracketed then { scan with quoted := true }
  else if c = ']' ∧ scan.bracketed then { scan with bracketed := false }
  else if c = '[' ∧ ¬scan.quoted then { scan with bracketed := true }
  else if scan.quoted ∨ scan.bracketed then scan
  else if c.toLower = 'y' ∨ c.toLower = 'd' then { scan with hasDay := true }
  else if c.toLower = 'h' ∨ c.toLower = 's' then { scan with hasTime := true }
  else scan

/-- The kind of cell that the letters met so far make. -/
def kind (scan : FormatScan) (system : DateSystem) : CellKind :=
  match scan.hasDay, scan.hasTime with
  | true, true => .serial .moment system
  | true, false => .serial .day system
  | false, true => .serial .time system
  | false, false => .number

end FormatScan

/-- The kind of cell that a format code makes of a number. -/
def CellKind.ofFormatCode (code : String) (system : DateSystem) : CellKind :=
  (code.toList.foldl FormatScan.step FormatScan.start).kind system

/-- The kind of cell that a built-in number format makes of a number, if it is a date or a time. -/
def CellKind.ofBuiltinFormat? (id : String) (system : DateSystem) : Option CellKind :=
  if id = "22" then some (.serial .moment system)
  else if id ∈ ["14", "15", "16", "17"] then some (.serial .day system)
  else if id ∈ ["18", "19", "20", "21", "45", "46", "47"] then some (.serial .time system)
  else none

/-- The kind of cell that each style of a workbook makes of a number. Codes that the workbook defines
come before the built-in formats; of two definitions of one format the later counts. -/
def CellKind.ofStyles (styles : List String) (codes : List (String × CellKind))
    (system : DateSystem) : List CellKind :=
  styles.map fun id =>
    match codes.reverse.lookup id with
    | some kind => kind
    | none => (ofBuiltinFormat? id system).getD .number

/-- The kind of a number with the given style; a style that does not exist changes nothing. -/
def CellKind.ofStyle (styles : Array CellKind) (index : Nat) : CellKind :=
  styles[index]?.getD .number

def errorText (code : Nat) : String :=
  match code with
  | 0x00 => "#NULL!"
  | 0x07 => "#DIV/0!"
  | 0x0f => "#VALUE!"
  | 0x17 => "#REF!"
  | 0x1d => "#NAME?"
  | 0x24 => "#NUM!"
  | 0x2a => "#N/A"
  | 0x2b => "#GETTING_DATA"
  | _ => "#ERROR!"

end Tablesmith.Grid
