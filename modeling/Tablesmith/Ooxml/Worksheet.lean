import Tablesmith.Grid.Sheet
import Tablesmith.Ooxml.Part

/-!
# Worksheets

A worksheet lists rows and in them cells. Where a row or a cell does not say its number it follows
the one before it. A cell without a value is not stored.
-/

namespace Tablesmith.Ooxml

open Tablesmith.Grid
open Tablesmith.Number
open Tablesmith.Xml

/-- What is known while a worksheet is read: the row and the column that come next, the cell read
last with its value, a text that is being read, and the cells that were stored. -/
structure Worksheet where
  nextRow : Nat
  nextColumn : Nat
  row : Nat
  column : Nat
  kind : CellKind
  value : String
  open? : Option StringItem
  sheet : Sheet

namespace Worksheet

/-- Nothing was read. -/
def start (sheet : Sheet) : Worksheet :=
  ⟨0, 0, 0, 0, .empty, "", none, sheet⟩

/-- The kind of a cell by its type and its style; the style counts for numbers alone. -/
def cellKind (kinds : Array CellKind) (type style : Option String) : Except XmlFault CellKind :=
  match type with
  | some "inlineStr" | some "str" => .ok .inlineText
  | some "s" => .ok .sharedText
  | some "d" => .ok .isoMoment
  | some "b" => .ok .boolean
  | some "e" => .ok .error
  | _ =>
    match style with
    | none | some "" => .ok .number
    | some style =>
      match readIndex? style with
      | some index => .ok (CellKind.ofStyle kinds index)
      | none => .error .badNumber

/-- Begins a row. -/
def enterRow (worksheet : Worksheet) (tag : Tag) : Except XmlFault Worksheet := do
  let number := (← tag.value? (name "r")).bind readIndex?
  return { worksheet with
    nextRow := (number.map (· - 1)).getD worksheet.nextRow
    nextColumn := 0 }

def enterCell (kinds : Array CellKind) (worksheet : Worksheet) (tag : Tag) :
    Except XmlFault Worksheet := do
  let position := (← tag.value? (name "r")).bind position?
  let (row, column) := position.getD (worksheet.nextRow, worksheet.nextColumn)
  let type ← tag.value? (name "t")
  let style ← tag.value? (name "s")
  let kind ← cellKind kinds type style
  return { worksheet with
    nextColumn := column + 1, row := row, column := column, kind := kind, value := "" }

def leaveCell (worksheet : Worksheet) : Worksheet :=
  if worksheet.kind = .empty ∨ worksheet.value = "" then worksheet
  else
    let cell : Cell := ⟨worksheet.row, worksheet.column, worksheet.kind, worksheet.value⟩
    { worksheet with value := "", sheet := worksheet.sheet.push cell }

/-- Takes in an event outside of texts. -/
def stepOutside (kinds : Array CellKind) (worksheet : Worksheet) (event : Event) :
    Except XmlFault Worksheet :=
  match event with
  | .start tag =>
    if tag.name = name "row" then worksheet.enterRow tag
    else if tag.name = name "c" then worksheet.enterCell kinds tag
    else if tag.name = name "is" then
      .ok { worksheet with open? := some (.ofPieces tag.name) }
    else if tag.name = name "v" then
      .ok { worksheet with open? := some (.ofValue tag.name) }
    else .ok worksheet
  | .finish element =>
    if element = name "row" then .ok { worksheet with nextRow := worksheet.nextRow + 1 }
    else if element = name "c" then .ok worksheet.leaveCell
    else .ok worksheet
  | _ => .ok worksheet

def step (kinds : Array CellKind) (worksheet : Worksheet) (event : Event) :
    Except XmlFault Worksheet :=
  match worksheet.open? with
  | some item =>
    if item.isEndedBy event then
      .ok { worksheet with value := item.content, open? := none }
    else (item.step event).map fun item => { worksheet with open? := some item }
  | none => stepOutside kinds worksheet event

end Worksheet

end Tablesmith.Ooxml
