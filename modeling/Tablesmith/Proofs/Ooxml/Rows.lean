import Mathlib
import Tablesmith.Proofs.Grid.Reference
import Tablesmith.Proofs.Grid.Resolution
import Tablesmith.Proofs.Ooxml.StringItem

/-!
# Rows and cells with and without numbers

Rows and cells may leave out their number where it is the next one. Where the numbers
go up, what is read does not depend on which of them are written: every cell stands at
its own row and column (`foldlM_rows`), behind empty rows and cells without a value too.
-/

namespace Tablesmith.Ooxml

open Grid Number Outcome Text Xml

/-- What the tag of a row or a cell says: its number, counted from 1, whether that is written, and other attributes in
front of it and behind it. -/
structure Place where
  number : Nat
  isWritten : Bool
  before : List Attribute := []
  after : List Attribute := []
  short : Bool := false
  bounded : number < positionBound := by decide
  others : ∀ item ∈ before ++ after, item.name ≠ name "r" ∧ item.Fits := by decide +kernel

namespace Place

/-- The opening of an element whose position is written in this way. -/
def opening (place : Place) (position : String) : Opening :=
  ⟨place.before ++ ((if place.isWritten then [⟨name "r", name position⟩] else []) ++ place.after), place.short⟩

/-- The place with its number written. -/
def explicit (place : Place) : Place :=
  { place with isWritten := true }

/-- The kind of a cell in a place. -/
def kind (kinds : Array CellKind) (place : Place) : Except XmlFault CellKind := do
  let type ← said (place.before ++ place.after) (name "t")
  let style ← said (place.before ++ place.after) (name "s")
  Worksheet.cellKind kinds type style

/-- Numbers that go up from above `previous`, where one that is not written is the next one. -/
def Ascends (previous : Nat) : List Place → Prop
  | [] => True
  | place :: places =>
    previous < place.number ∧ (place.isWritten = false → place.number = previous + 1) ∧ Ascends place.number places

end Place

/-- The names that mean something in a worksheet. -/
def cellNames : List Name :=
  [name "row", name "c", name "is", name "v"]

/-- A value of a cell, as it is or as a text in pieces. -/
inductive CellValue
  | value (opening : Opening) (content : Content)
  | inline (item : Item (name "is"))

namespace CellValue

/-- A value and what follows it. -/
def marks (value : CellValue) (after : Tail) : List Marked :=
  match value with
  | .value opening content => wrap (name "v") opening content.tail after
  | inline item => item.marks after

/-- The characters of a value. -/
def visible : CellValue → List Char
  | value _ content => content.visible
  | inline item => item.visible

end CellValue

/-- A cell that is written with any number of values; the last one counts. -/
structure WrittenCell where
  place : Place
  lead : Gap cellNames
  values : List (CellValue × Gap cellNames)

namespace WrittenCell

/-- A cell in a row and what follows it. -/
def marks (row : Nat) (cell : WrittenCell) (after : Tail) : List Marked :=
  wrap (name "c") (cell.place.opening (reference (row - 1) (cell.place.number - 1)))
    (cell.lead.before (cell.values.flatMap fun value => value.1.marks value.2.toTail)) after

/-- The value of a cell. -/
def value (cell : WrittenCell) : String :=
  (cell.values.getLast?.map fun value => String.ofList value.1.visible).getD ""

/-- The cell with its position written. -/
def explicit (cell : WrittenCell) : WrittenCell :=
  { cell with place := cell.place.explicit }

/-- What is stored of a cell in a row: nothing without a value. -/
def stored (kinds : Array CellKind) (row : Nat) (cell : WrittenCell) : Except XmlFault (List Cell) :=
  (cell.place.kind kinds).map fun kind =>
    if kind = .empty ∨ cell.value = "" then [] else [⟨row - 1, cell.place.number - 1, kind, cell.value⟩]

end WrittenCell

/-- A row that is written with its cells. -/
structure WrittenRow where
  place : Place
  lead : Gap cellNames
  cells : List (WrittenCell × Gap cellNames)

namespace WrittenRow

/-- A row and what follows it. -/
def marks (row : WrittenRow) (after : Tail) : List Marked :=
  wrap (name "row") (row.place.opening (showNat row.place.number))
    (row.lead.before (row.cells.flatMap fun cell => cell.1.marks row.place.number cell.2.toTail)) after

/-- The row with its number and the positions of its cells written. -/
def explicit (row : WrittenRow) : WrittenRow :=
  { row with place := row.place.explicit, cells := row.cells.map fun cell => (cell.1.explicit, cell.2) }

/-- The cells of a row go up. -/
def Ascends (row : WrittenRow) : Prop :=
  Place.Ascends 0 (row.cells.map fun cell => cell.1.place)

/-- What is stored of a row. -/
def stored (kinds : Array CellKind) (row : WrittenRow) : Except XmlFault (List Cell) :=
  (row.cells.mapM fun cell : WrittenCell × Gap cellNames => cell.1.stored kinds row.place.number).map List.flatten

end WrittenRow

/-- Rows behind anything else, each of them followed by something else. -/
def rowMarks (before : List Marked) (rows : List (WrittenRow × Gap cellNames)) : List Marked :=
  before ++ rows.flatMap fun row => row.1.marks row.2.toTail

/-- All numbers and positions of rows written. -/
def explicitRows (rows : List (WrittenRow × Gap cellNames)) : List (WrittenRow × Gap cellNames) :=
  rows.map fun row => (row.1.explicit, row.2)

/-- Rows that go up, and so do the cells of each of them. -/
def Ascend (rows : List (WrittenRow × Gap cellNames)) : Prop :=
  Place.Ascends 0 (rows.map fun row => row.1.place) ∧ ∀ row ∈ rows, row.1.Ascends

/-- What is stored of rows. -/
def storedCells (kinds : Array CellKind) (rows : List (WrittenRow × Gap cellNames)) : Except XmlFault (List Cell) :=
  (rows.mapM fun row : WrittenRow × Gap cellNames => row.1.stored kinds).map List.flatten

namespace Place

variable {place : Place}

theorem said_opening (position : String) {sought : Name} (other : sought ≠ name "r") :
    said (place.opening position).attributes sought = said (place.before ++ place.after) sought := by
  have skipped : (place.opening position).attributes.find? (·.name = sought) =
      (place.before ++ place.after).find? (·.name = sought) := by
    rw [opening, List.find?_append, List.find?_append, List.find?_append]
    split
    · rw [List.find?_singleton, if_neg (by simpa using Ne.symm other), Option.none_or]
    · rw [List.find?_nil, Option.none_or]
  rw [said, said, skipped]

theorem said_position (place : Place) {position : String} (plain : '&' ∉ position.toList) :
    said (place.opening position).attributes (name "r") = .ok (if place.isWritten then some position else none) := by
  have none_before : place.before.find? (·.name = name "r") = none := by
    rw [List.find?_eq_none]
    exact fun item member same => (place.others item (List.mem_append_left _ member)).1 (by simpa using same)
  have none_after : place.after.find? (·.name = name "r") = none := by
    rw [List.find?_eq_none]
    exact fun item member same => (place.others item (List.mem_append_right _ member)).1 (by simpa using same)
  rw [said, opening]
  simp only [List.find?_append, none_before, none_after, Option.none_or, Option.or_none]
  cases place.isWritten
  · rfl
  · simp only [↓reduceIte, List.find?_singleton, decide_true, attributeText_name plain]
    rfl

/-- A position is written without characters that mean something in an attribute. -/
theorem fits_opening (place : Place) {position : String} (unquoted : '"' ∉ position.toList) :
    ∀ item ∈ (place.opening position).attributes, item.Fits := by
  intro item member
  rcases List.mem_append.mp member with before | later
  · exact (place.others item (List.mem_append_left _ before)).2
  · rcases List.mem_append.mp later with written | after
    · obtain rfl : item = ⟨name "r", name position⟩ := by
        split at written
        · exact List.mem_singleton.mp written
        · cases written
      refine ⟨(by decide +kernel : IsName (name "r")), fun quote => unquoted ?_⟩
      rw [← String.ofList_toList (s := position)] at quote
      obtain ⟨c, c_member, same⟩ := exists_of_mem_utf8 quote (by decide)
      rwa [← Char.toNat_inj.mp (same.trans (by decide : _ = '"'.toNat))]
    · exact (place.others item (List.mem_append_right _ after)).2

/-- What a tag says of its position and of everything else. -/
theorem value?_opening (place : Place) (element : Name) {position : String} (plain : '"' ∉ position.toList ∧ '&' ∉ position.toList) :
    Tag.value? ⟨element, attributeBytes (place.opening position).attributes⟩ (name "r") =
        .ok (if place.isWritten then some position else none) ∧
    ∀ sought, sought ≠ name "r" → Tag.value? ⟨element, attributeBytes (place.opening position).attributes⟩ sought =
        said (place.before ++ place.after) sought := by
  have fits := place.fits_opening plain.1
  refine ⟨?_, fun sought other => ?_⟩
  · rw [value?_attributeBytes fits, said_position place plain.2]
  · rw [value?_attributeBytes fits, said_opening position other]

end Place

/-- Digits and letters mean nothing in an attribute. -/
theorem plain_showNat (n : Nat) : '"' ∉ (showNat n).toList ∧ '&' ∉ (showNat n).toList := by
  have digits : ∀ c ∈ (showNat n).toList, c.isDigit = true := by
    rw [showNat, String.toList_ofList]
    exact fun c => Nat.isDigit_of_mem_toDigits (by decide) (by decide)
  exact ⟨fun quote => absurd (digits _ quote) (by decide), fun sign => absurd (digits _ sign) (by decide)⟩

theorem plain_reference (row column : Nat) :
    '"' ∉ (reference row column).toList ∧ '&' ∉ (reference row column).toList := by
  have letter {c : Char} (other : isAsciiLetter c = false) : c ∉ columnLetters column := fun member => by
    rw [isAsciiLetter_of_mem_columnLetters member] at other
    cases other
  have digits := plain_showNat (row + 1)
  rw [reference, String.toList_append, String.toList_ofList, List.mem_append, List.mem_append]
  exact ⟨not_or.mpr ⟨letter (by decide), digits.1⟩, not_or.mpr ⟨letter (by decide), digits.2⟩⟩

namespace Worksheet

variable {kinds : Array CellKind} {worksheet next : Worksheet} {events : List Event}

theorem foldlM_of_avoids (outside : worksheet.open? = none) (avoids : ∀ event ∈ events, event.Avoids cellNames) :
    events.foldlM (step kinds) worksheet = .ok worksheet := by
  refine foldlM_stays fun event member => ?_
  have event_avoids := avoids event member
  rw [step, outside]
  cases event with
  | start tag =>
    obtain ⟨no_row, no_cell, no_inline, no_value⟩ :
        tag.name ≠ name "row" ∧ tag.name ≠ name "c" ∧ tag.name ≠ name "is" ∧ tag.name ≠ name "v" := by
      simpa [Event.Avoids, cellNames] using event_avoids
    simp only [stepOutside, no_row, no_cell, no_inline, no_value, ↓reduceIte]
  | finish element =>
    obtain ⟨no_row, no_cell, -⟩ :
        element ≠ name "row" ∧ element ≠ name "c" ∧ element ≠ name "is" ∧ element ≠ name "v" := by
      simpa [Event.Avoids, cellNames] using event_avoids
    simp only [stepOutside, no_row, no_cell, ↓reduceIte]
  | _ => rfl

theorem foldlM_gap (outside : worksheet.open? = none) (gap : Gap cellNames) :
    gap.events.foldlM (step kinds) worksheet = .ok worksheet :=
  foldlM_of_avoids outside fun _ => avoids_of_mem_gap

/-- The last of some values counts. -/
theorem foldlM_values (outside : worksheet.open? = none) (values : List (CellValue × Gap cellNames)) :
    (markedEvents (values.flatMap fun value => value.1.marks value.2.toTail)).foldlM (step kinds) worksheet =
      .ok { worksheet with
        value := (values.getLast?.map fun value => String.ofList value.1.visible).getD worksheet.value } := by
  induction values generalizing worksheet with
  | nil => rfl
  | cons value values ih =>
    have taken : (markedEvents (value.1.marks value.2.toTail)).foldlM (step kinds) worksheet =
        .ok { worksheet with value := String.ofList value.1.visible } := by
      obtain ⟨value, after⟩ := value
      cases value with
      | value opening content =>
        exact (foldlM_value outside opening content after.toTail).trans (foldlM_gap (by exact outside) after)
      | inline item => exact (foldlM_inline outside item after.toTail).trans (foldlM_gap (by exact outside) after)
    rw [List.flatMap_cons, markedEvents_append, List.foldlM_append, taken, ok_bind]
    refine (ih (by exact outside)).trans ?_
    cases values <;> rfl

/-- Begins a cell in a row, at its own position. -/
def atCell (worksheet : Worksheet) (row : Nat) (cell : WrittenCell) (kind : CellKind) : Worksheet :=
  { worksheet with
    nextColumn := cell.place.number, row := row - 1, column := cell.place.number - 1, kind := kind, value := "" }

/-- Takes in a cell of a row, whether its position is written or not. -/
def takeCell (kinds : Array CellKind) (row : Nat) (worksheet : Worksheet) (cell : WrittenCell) : Except XmlFault Worksheet :=
  (cell.place.kind kinds).map fun kind => leaveCell { worksheet.atCell row cell kind with value := cell.value }

/-- Takes in a row, whether its number is written or not. -/
def takeRow (kinds : Array CellKind) (worksheet : Worksheet) (row : WrittenRow) : Except XmlFault Worksheet := do
  let entered := { worksheet with nextRow := row.place.number - 1, nextColumn := 0 }
  let left ← row.cells.foldlM (fun worksheet cell => worksheet.takeCell kinds row.place.number cell.1) entered
  return { left with nextRow := row.place.number }

section position

variable {row : Nat} {cell : WrittenCell}

/-- A cell begins at its own position if that is written or follows the one before it. -/
theorem enterCell_opening (row_counts : 0 < row ∧ row < positionBound) (column_counts : 0 < cell.place.number)
    (implied : cell.place.isWritten = false → worksheet.nextRow = row - 1 ∧ worksheet.nextColumn = cell.place.number - 1) :
    worksheet.enterCell kinds ⟨name "c", attributeBytes
        (cell.place.opening (reference (row - 1) (cell.place.number - 1))).attributes⟩ =
      (cell.place.kind kinds).map (worksheet.atCell row cell) := by
  obtain ⟨position_said, others_said⟩ :=
    cell.place.value?_opening (name "c") (plain_reference (row - 1) (cell.place.number - 1))
  have bounded := cell.place.bounded
  have read : position? (reference (row - 1) (cell.place.number - 1)) = some (row - 1, cell.place.number - 1) :=
    position?_reference (by omega) (by omega)
  have here : ((if cell.place.isWritten then some (reference (row - 1) (cell.place.number - 1)) else none).bind
      position?).getD (worksheet.nextRow, worksheet.nextColumn) = (row - 1, cell.place.number - 1) := by
    cases written : cell.place.isWritten
    · obtain ⟨row_next, column_next⟩ := implied written
      rw [row_next, column_next]
      rfl
    · rw [if_pos rfl, Option.bind_some, read, Option.getD_some]
  have next_column : cell.place.number - 1 + 1 = cell.place.number := Nat.sub_add_cancel column_counts
  rw [enterCell, position_said, others_said (name "t") (by decide +kernel), others_said (name "s") (by decide +kernel)]
  simp only [ok_bind, here, next_column, Place.kind]
  rcases said (cell.place.before ++ cell.place.after) (name "t") with _ | type
  · rfl
  rcases said (cell.place.before ++ cell.place.after) (name "s") with _ | style
  · rfl
  simp only [ok_bind]
  cases cellKind kinds type style <;> rfl

/-- A cell is taken in, and what follows it changes nothing. -/
theorem foldlM_cell (kinds : Array CellKind) (outside : worksheet.open? = none) (row_counts : 0 < row ∧ row < positionBound)
    (column_counts : 0 < cell.place.number)
    (implied : cell.place.isWritten = false → worksheet.nextRow = row - 1 ∧ worksheet.nextColumn = cell.place.number - 1)
    (after : Gap cellNames) :
    (markedEvents (cell.marks row after.toTail)).foldlM (step kinds) worksheet = worksheet.takeCell kinds row cell := by
  have no_row : name "c" ≠ name "row" := by decide +kernel
  have entered (tag : Tag) (named : tag.name = name "c") :
      step kinds worksheet (.start tag) = worksheet.enterCell kinds tag := by
    simp only [step, outside, stepOutside, named, no_row, ↓reduceIte]
  have left (worksheet : Worksheet) (outside : worksheet.open? = none) :
      step kinds worksheet (.finish (name "c")) = .ok worksheet.leaveCell := by
    simp only [step, outside, stepOutside, no_row, ↓reduceIte]
  rw [WrittenCell.marks, markedEvents_wrap, events_before, List.foldlM_cons, entered _ rfl,
    enterCell_opening row_counts column_counts implied, takeCell]
  cases cell.place.kind kinds with
  | error => rfl
  | ok kind =>
    have inside : (worksheet.atCell row cell kind).open? = none := outside
    have filled : (markedEvents (cell.values.flatMap fun value => value.1.marks value.2.toTail)).foldlM (step kinds)
        (worksheet.atCell row cell kind) = .ok { worksheet.atCell row cell kind with value := cell.value } :=
      foldlM_values inside cell.values
    rw [Except.map, ok_bind, List.foldlM_append, List.foldlM_append, foldlM_gap inside, ok_bind, filled, ok_bind,
      List.foldlM_cons, left, ok_bind]
    · refine foldlM_gap ?_ after
      unfold leaveCell
      split <;> exact outside
    · exact outside

/-- Behind a cell the next column is the one behind its own. -/
theorem behind_takeCell (taken : worksheet.takeCell kinds row cell = .ok next) :
    next.open? = worksheet.open? ∧ next.nextRow = worksheet.nextRow ∧ next.nextColumn = cell.place.number := by
  obtain ⟨kind, -, rfl⟩ := map_ok_iff.mp taken
  unfold leaveCell
  split <;> exact ⟨rfl, rfl, rfl⟩

theorem foldlM_cells {previous : Nat} {cells : List (WrittenCell × Gap cellNames)} (kinds : Array CellKind)
    (outside : worksheet.open? = none) (row_counts : 0 < row ∧ row < positionBound) (row_next : worksheet.nextRow = row - 1)
    (column_next : worksheet.nextColumn = previous) (ascends : Place.Ascends previous (cells.map fun cell => cell.1.place)) :
    (markedEvents (cells.flatMap fun cell => cell.1.marks row cell.2.toTail)).foldlM (step kinds) worksheet =
      cells.foldlM (fun worksheet cell => worksheet.takeCell kinds row cell.1) worksheet := by
  induction cells generalizing worksheet previous with
  | nil => rfl
  | cons cell cells ih =>
    obtain ⟨above, implied, rest_ascends⟩ := ascends
    have first := foldlM_cell kinds outside row_counts (Nat.zero_lt_of_lt above) (fun unwritten =>
      ⟨row_next, by rw [column_next, implied unwritten, Nat.add_sub_cancel]⟩) cell.2
    rw [List.flatMap_cons, markedEvents_append, List.foldlM_append, first, List.foldlM_cons]
    cases taken : worksheet.takeCell kinds row cell.1 with
    | error => rfl
    | ok next =>
      obtain ⟨still_outside, same_row, next_column⟩ := behind_takeCell taken
      exact ih (still_outside.trans outside) (same_row.trans row_next) next_column rest_ascends

theorem readIndex?_showNat {n : Nat} (bounded : n < positionBound) : readIndex? (showNat n) = some n := by
  have digits := readDigits?_eq_some_iff.mp (readDigits?_toDigits n)
  exact readIndex?_eq_some_iff.mpr ⟨_, Or.inl (String.toList_ofList), digits.1, digits.2.1, digits.2.2, bounded⟩

/-- A row has its own number if that is written or follows the one before it. -/
theorem enterRow_opening {place : Place} (implied : place.isWritten = false → worksheet.nextRow = place.number - 1) :
    worksheet.enterRow ⟨name "row", attributeBytes (place.opening (showNat place.number)).attributes⟩ =
      .ok { worksheet with nextRow := place.number - 1, nextColumn := 0 } := by
  obtain ⟨number_said, -⟩ := place.value?_opening (name "row") (plain_showNat place.number)
  have here : (((if place.isWritten then some (showNat place.number) else none).bind readIndex?).map (· - 1)).getD
      worksheet.nextRow = place.number - 1 := by
    cases written : place.isWritten
    · exact implied written
    · rw [if_pos rfl, Option.bind_some, readIndex?_showNat place.bounded]
      rfl
  rw [enterRow, number_said, ok_bind]
  simp only [here]
  rfl

end position

/-- Cells leave the row as it is. -/
theorem behind_takeCells {row : Nat} {cells : List (WrittenCell × Gap cellNames)}
    (taken : cells.foldlM (fun worksheet cell => worksheet.takeCell kinds row cell.1) worksheet = .ok next) :
    next.open? = worksheet.open? ∧ next.nextRow = worksheet.nextRow := by
  refine foldlM_keeps (fun left => left.open? = worksheet.open? ∧ left.nextRow = worksheet.nextRow) ?_ ⟨rfl, rfl⟩ taken
  intro cell _ state next holds stepped
  obtain ⟨same_outside, same_row, -⟩ := behind_takeCell stepped
  exact ⟨same_outside.trans holds.1, same_row.trans holds.2⟩

theorem behind_takeRow {row : WrittenRow} (taken : worksheet.takeRow kinds row = .ok next) :
    next.open? = worksheet.open? ∧ next.nextRow = row.place.number := by
  obtain ⟨left, cells_taken, given⟩ := bind_ok_iff.mp taken
  cases given
  exact ⟨(behind_takeCells cells_taken).1, rfl⟩

/-- A row is taken in, and what follows it changes nothing. -/
theorem foldlM_row {row : WrittenRow} (kinds : Array CellKind) (outside : worksheet.open? = none) (counts : 0 < row.place.number)
    (implied : row.place.isWritten = false → worksheet.nextRow = row.place.number - 1) (ascends : row.Ascends)
    (after : Gap cellNames) :
    (markedEvents (row.marks after.toTail)).foldlM (step kinds) worksheet = worksheet.takeRow kinds row := by
  have entered (tag : Tag) (named : tag.name = name "row") :
      step kinds worksheet (.start tag) = worksheet.enterRow tag := by
    simp only [step, outside, stepOutside, named, ↓reduceIte]
  have entered_row : ({ worksheet with nextRow := row.place.number - 1, nextColumn := 0 } : Worksheet).open? = none := outside
  have ran := foldlM_cells kinds entered_row ⟨counts, row.place.bounded⟩ rfl rfl ascends
  rw [WrittenRow.marks, markedEvents_wrap, events_before, List.foldlM_cons, entered _ rfl, enterRow_opening implied, ok_bind,
    List.foldlM_append, List.foldlM_append, foldlM_gap entered_row, ok_bind, ran, takeRow]
  cases taken : row.cells.foldlM (fun worksheet cell => worksheet.takeCell kinds row.place.number cell.1)
      { worksheet with nextRow := row.place.number - 1, nextColumn := 0 } with
  | error => rfl
  | ok left =>
    obtain ⟨same_outside, same_row⟩ := behind_takeCells taken
    have left_outside : left.open? = none := same_outside.trans outside
    have ended : step kinds left (.finish (name "row")) = .ok { left with nextRow := row.place.number } := by
      simp only [step, left_outside, stepOutside, ↓reduceIte, same_row, Nat.sub_add_cancel counts]
    rw [ok_bind, List.foldlM_cons, ended, ok_bind]
    exact foldlM_gap (by exact left_outside) after

/-- Rows are taken in one after the other, each at its own number, whichever numbers and positions are written. -/
theorem foldlM_rows {previous : Nat} {rows : List (WrittenRow × Gap cellNames)} (outside : worksheet.open? = none)
    (row_next : worksheet.nextRow = previous) (ascends : Place.Ascends previous (rows.map fun row => row.1.place))
    (cells_ascend : ∀ row ∈ rows, row.1.Ascends) :
    (markedEvents (rows.flatMap fun row => row.1.marks row.2.toTail)).foldlM (step kinds) worksheet =
      rows.foldlM (fun worksheet row => worksheet.takeRow kinds row.1) worksheet := by
  induction rows generalizing worksheet previous with
  | nil => rfl
  | cons row rows ih =>
    obtain ⟨above, implied, rest_ascends⟩ := ascends
    obtain ⟨first_ascends, rest_ascend⟩ := List.forall_mem_cons.mp cells_ascend
    have first := foldlM_row kinds outside (Nat.zero_lt_of_lt above) (fun unwritten => by
      rw [row_next, implied unwritten, Nat.add_sub_cancel]) first_ascends row.2
    rw [List.flatMap_cons, markedEvents_append, List.foldlM_append, first, List.foldlM_cons]
    cases taken : worksheet.takeRow kinds row.1 with
    | error => rfl
    | ok next =>
      obtain ⟨still_outside, next_row⟩ := behind_takeRow taken
      exact ih (still_outside.trans outside) next_row rest_ascends rest_ascend

theorem map_sheet_takeCell (kinds : Array CellKind) (worksheet : Worksheet) (row : Nat) (cell : WrittenCell) :
    (worksheet.takeCell kinds row cell).map (·.sheet) =
      (cell.stored kinds row).map fun cells => cells.foldl Sheet.push worksheet.sheet := by
  rw [takeCell, WrittenCell.stored]
  cases cell.place.kind kinds with
  | error => rfl
  | ok kind =>
    by_cases valued : kind = .empty ∨ cell.value = ""
    · simp [Except.map, leaveCell, atCell, valued]
    · simp [Except.map, leaveCell, atCell, valued]

theorem map_sheet_takeRow (kinds : Array CellKind) (worksheet : Worksheet) (row : WrittenRow) :
    (worksheet.takeRow kinds row).map (·.sheet) =
      (row.stored kinds).map fun cells => cells.foldl Sheet.push worksheet.sheet := by
  have gathered := foldlM_gather (·.sheet) Sheet.push (fun worksheet (cell : WrittenCell × Gap cellNames) =>
    map_sheet_takeCell kinds worksheet row.place.number cell.1) row.cells
    { worksheet with nextRow := row.place.number - 1, nextColumn := 0 }
  rw [WrittenRow.stored, ← gathered, takeRow]
  cases row.cells.foldlM (fun worksheet cell => worksheet.takeCell kinds row.place.number cell.1)
      { worksheet with nextRow := row.place.number - 1, nextColumn := 0 } <;> rfl

end Worksheet

section stored

variable {kinds : Array CellKind} {before : List Marked} {rows : List (WrittenRow × Gap cellNames)}

/-- What a worksheet with rows is read as, whichever numbers and positions are written. -/
theorem readWorksheet_rows {package : Zip.Archive} (tab : Tab) (avoids : ∀ marked ∈ before, marked.mark.Avoids cellNames)
    (ascend : Ascend rows) (writable : Writable (rowMarks before rows))
    (found : needPart package tab.path = .ok (written (rowMarks before rows))) (file : String) (kinds : Array CellKind) :
    readWorksheet package file kinds tab =
      ((storedCells kinds rows).map fun cells => cells.foldl Sheet.push (.empty file tab.name)).mapError .xml := by
  have start_outside : (Worksheet.start (.empty file tab.name)).open? = none := rfl
  have gathered := foldlM_gather (·.sheet) Sheet.push (fun worksheet (row : WrittenRow × Gap cellNames) =>
    Worksheet.map_sheet_takeRow kinds worksheet row.1) rows (Worksheet.start (.empty file tab.name))
  have sheet_kept : (Worksheet.start (.empty file tab.name)).sheet = .empty file tab.name := rfl
  rw [sheet_kept] at gathered
  have read := readPart_written writable (Worksheet.step kinds) (Worksheet.start (.empty file tab.name))
  rw [rowMarks, markedEvents_append, List.foldlM_append,
    Worksheet.foldlM_of_avoids start_outside fun _ => avoids_of_mem_markedEvents avoids, ok_bind,
    Worksheet.foldlM_rows start_outside rfl ascend.1 ascend.2] at read
  rw [readWorksheet, found, ok_bind, rowMarks, read, storedCells, ← gathered]
  cases rows.foldlM (fun worksheet row => worksheet.takeRow kinds row.1) (Worksheet.start (.empty file tab.name)) <;> rfl

theorem lt_of_ascends {previous : Nat} {places : List Place} (ascends : Place.Ascends previous places) :
    ∀ place ∈ places, previous < place.number := by
  induction places generalizing previous with
  | nil => exact nofun
  | cons first places ih =>
    obtain ⟨above, -, rest⟩ := ascends
    exact List.forall_mem_cons.mpr ⟨above, fun place member => lt_trans above (ih rest place member)⟩

theorem pairwise_of_ascends {previous : Nat} {places : List Place} (ascends : Place.Ascends previous places) :
    places.Pairwise (·.number < ·.number) := by
  induction places generalizing previous with
  | nil => exact .nil
  | cons first places ih => exact .cons (lt_of_ascends ascends.2.2) (ih ascends.2.2)

/-- The positions of the cells of rows. -/
def positions (rows : List (WrittenRow × Gap cellNames)) : List (Nat × Nat) :=
  rows.flatMap fun row => row.1.cells.map fun cell => (row.1.place.number - 1, cell.1.place.number - 1)

/-- No two cells have the same position. -/
theorem nodup_positions (ascend : Ascend rows) : (positions rows).Nodup := by
  have row_counts : ∀ row ∈ rows, 0 < row.1.place.number := fun row member =>
    lt_of_ascends ascend.1 _ (List.mem_map_of_mem member)
  have rows_go_up := List.pairwise_map.mp (pairwise_of_ascends ascend.1)
  refine List.nodup_flatMap.mpr ⟨fun row member => ?_, ?_⟩
  · have cells_go_up := List.pairwise_map.mp (pairwise_of_ascends (ascend.2 row member))
    have cell_counts : ∀ cell ∈ row.1.cells, 0 < cell.1.place.number := fun cell cell_member =>
      lt_of_ascends (ascend.2 row member) _ (List.mem_map_of_mem cell_member)
    refine List.pairwise_map.mpr (cells_go_up.imp_of_mem fun {cell later} cell_member later_member below same => ?_)
    have := cell_counts cell cell_member
    have := cell_counts later later_member
    have := (Prod.mk.inj same).2
    omega
  · refine rows_go_up.imp_of_mem fun {row later} row_member later_member below => ?_
    have := row_counts row row_member
    have := row_counts later later_member
    simp only [Function.onFun, List.disjoint_left, List.mem_map]
    rintro _ ⟨_, _, rfl⟩ ⟨_, _, same⟩
    have := (Prod.mk.inj same).1
    omega

/-- What all items give stands at their places, if what each of them gives does. -/
theorem sublist_flatten {ε α γ δ : Type} {give : α → Except ε (List γ)} {view : γ → δ} {places : α → List δ}
    (each : ∀ item given, give item = .ok given → (given.map view).Sublist (places item)) {items : List α} {all : List γ}
    (gathered : (items.mapM give).map List.flatten = .ok all) : (all.map view).Sublist (items.flatMap places) := by
  obtain ⟨parts, found, rfl⟩ := map_ok_iff.mp gathered
  have related := mapM_ok_iff.mp found
  clear gathered found
  induction related with
  | nil => exact .slnil
  | cons given _ ih =>
    rw [List.flatten_cons, List.map_append, List.flatMap_cons]
    exact (each _ _ given).append ih

theorem position_of_storedCells {cells : List Cell} (stored : storedCells kinds rows = .ok cells) :
    (cells.map Cell.position).Sublist (positions rows) := by
  refine sublist_flatten (fun row given row_stored => ?_) stored
  rw [List.map_eq_flatMap (l := row.1.cells)]
  refine sublist_flatten (fun cell given cell_stored => ?_) row_stored
  obtain ⟨kind, -, rfl⟩ := map_ok_iff.mp cell_stored
  split
  · exact List.nil_sublist _
  · exact List.Sublist.refl _

theorem ascends_explicit {previous : Nat} {places : List Place} (ascends : Place.Ascends previous places) :
    Place.Ascends previous (places.map Place.explicit) := by
  induction places generalizing previous with
  | nil => trivial
  | cons place places ih => exact ⟨ascends.1, nofun, ih ascends.2.2⟩

theorem ascend_explicitRows (ascend : Ascend rows) : Ascend (explicitRows rows) := by
  obtain ⟨rows_ascend, cells_ascend⟩ := ascend
  refine ⟨?_, List.forall_mem_map.mpr fun row member => ?_⟩
  · have explicit := ascends_explicit rows_ascend
    rw [List.map_map] at explicit
    rwa [explicitRows, List.map_map]
  · have explicit := ascends_explicit (cells_ascend row member)
    rw [List.map_map] at explicit
    unfold WrittenRow.Ascends WrittenRow.explicit
    rwa [List.map_map]

/-- What is stored does not depend on what is written of numbers and positions. -/
theorem storedCells_explicitRows (kinds : Array CellKind) (rows : List (WrittenRow × Gap cellNames)) :
    storedCells kinds (explicitRows rows) = storedCells kinds rows := by
  have rows_stored (row : WrittenRow) : row.explicit.stored kinds = row.stored kinds := by
    rw [WrittenRow.stored, WrittenRow.explicit, List.mapM_map]
    rfl
  rw [storedCells, explicitRows, List.mapM_map]
  simp only [Function.comp_def, rows_stored]
  rfl

/-- A worksheet whose rows and cells go up is read as if all their numbers and positions were written: what is stored are
the cells with a value, each at its own row and column and in the order in which they are written. -/
theorem readWorksheet_explicitRows {package other : Zip.Archive} (tab : Tab)
    (avoids : ∀ marked ∈ before, marked.mark.Avoids cellNames) (ascend : Ascend rows)
    (writable : Writable (rowMarks before rows)) (explicit_writable : Writable (rowMarks before (explicitRows rows)))
    (found : needPart package tab.path = .ok (written (rowMarks before rows)))
    (explicit_found : needPart other tab.path = .ok (written (rowMarks before (explicitRows rows)))) (file : String)
    (kinds : Array CellKind) :
    readWorksheet package file kinds tab = readWorksheet other file kinds tab ∧
      (readWorksheet package file kinds tab).map (·.cells.toList) = (storedCells kinds rows).mapError .xml := by
  have read := readWorksheet_rows tab avoids ascend writable found file kinds
  have explicit_read := readWorksheet_rows tab avoids (ascend_explicitRows ascend) explicit_writable explicit_found file kinds
  rw [storedCells_explicitRows] at explicit_read
  refine ⟨read.trans explicit_read.symm, ?_⟩
  rw [read]
  cases stored : storedCells kinds rows with
  | error => rfl
  | ok cells =>
    have distinct : (cells.map Cell.position).Nodup := (nodup_positions ascend).sublist (position_of_storedCells stored)
    have listed : (cells.foldl Sheet.push (.empty file tab.name)).cells.toList = cells := by
      have empty : (Sheet.empty file tab.name).cells.toList = [] := OrderedBy.toList_empty
      rw [foldl_push, OrderedBy.toList_foldl_insert, empty, List.nil_append]
      rwa [empty, List.nil_append]
    exact congrArg Except.ok listed

end stored

theorem bounded_of_fin (number : Fin 5) : number.val < positionBound :=
  number.isLt.trans (by decide)

theorem others_none : ∀ item ∈ ([] : List Attribute) ++ [], item.name ≠ name "r" ∧ item.Fits := by simp

theorem others_type : ∀ item ∈ [(⟨name "t", name "inlineStr"⟩ : Attribute)] ++ [], item.name ≠ name "r" ∧ item.Fits := by
  decide +kernel

theorem avoids_none : ∀ marked ∈ ({} : Tail).marks, marked.mark.Avoids cellNames := by simp

theorem avoids_end : ∀ marked ∈ [(⟨.finish (name "sheetData"), []⟩ : Marked)], marked.mark.Avoids cellNames := by
  decide +kernel

/-- A place with nothing but its number to say. -/
def plainPlace (number : Fin 5) (isWritten : Bool) (short : Bool := false) : Place :=
  ⟨number, isWritten, [], [], short, bounded_of_fin number, others_none⟩

/-- Nothing. -/
def noGap : Gap cellNames :=
  ⟨{}, avoids_none⟩

/-- Rows 1, 2 and 4, of which only the last has its number. The cells of the first row stand in A, C and D; only the
second has its position, and it has no value. The second row is empty. -/
def sampleRows : List (WrittenRow × Gap cellNames) :=
  [(⟨plainPlace 1 false, noGap,
      [(⟨plainPlace 1 false, noGap, [(.value {} ⟨['5'], []⟩, noGap)]⟩, noGap),
        (⟨plainPlace 3 true true, noGap, []⟩, noGap),
        (⟨⟨4, false, [⟨name "t", name "inlineStr"⟩], [], false, bounded_of_fin 4, others_type⟩, noGap,
          [(.inline (guidedItem (name "is")), noGap)]⟩, noGap)]⟩, noGap),
    (⟨plainPlace 2 false true, noGap, []⟩, ⟨{ text := name "\n" }, avoids_none⟩),
    (⟨plainPlace 4 true, noGap, [(⟨plainPlace 2 true, noGap, [(.value {} ⟨['7'], []⟩, noGap)]⟩, noGap)]⟩,
      ⟨{ marks := [⟨.finish (name "sheetData"), []⟩] }, avoids_end⟩)]

theorem ascend_sampleRows : Ascend sampleRows := by
  refine ⟨by simp [sampleRows, plainPlace, Place.Ascends], ?_⟩
  simp [sampleRows, plainPlace, WrittenRow.Ascends, Place.Ascends]

/-- The bytes of these rows in a worksheet. -/
def sampleBytes (rows : List (WrittenRow × Gap cellNames)) : List UInt8 :=
  markedBytes (rowMarks [⟨.start (name "sheetData") [], []⟩] rows)

theorem readWorksheet_sampleRows :
    ∃ package other, Zip.Archive.ofBytes (Zip.store [⟨name worksheetPart, sampleBytes sampleRows⟩]) = .ok package ∧
      Zip.Archive.ofBytes (Zip.store [⟨name worksheetPart, sampleBytes (explicitRows sampleRows)⟩]) = .ok other ∧
      readWorksheet package "Data.xlsx" #[] ⟨"Sheet", worksheetPart⟩ =
        readWorksheet other "Data.xlsx" #[] ⟨"Sheet", worksheetPart⟩ ∧
      (readWorksheet package "Data.xlsx" #[] ⟨"Sheet", worksheetPart⟩).map (·.cells.toList) =
        .ok [⟨0, 0, .number, "5"⟩, ⟨0, 3, .inlineText, "a&b"⟩, ⟨3, 1, .number, "7"⟩] := by
  have same : sameAscii (Zip.sought worksheetPart) (Zip.memberName 0 (name worksheetPart)) = true := by decide +kernel
  have small : Zip.Fits [⟨name worksheetPart, sampleBytes sampleRows⟩] :=
    ⟨by decide, List.forall_mem_singleton.mpr (by decide +kernel), by decide +kernel⟩
  have explicit_small : Zip.Fits [⟨name worksheetPart, sampleBytes (explicitRows sampleRows)⟩] :=
    ⟨by decide, List.forall_mem_singleton.mpr (by decide +kernel), by decide +kernel⟩
  obtain ⟨package, opened, found⟩ := part?_store_singleton same small
  obtain ⟨other, other_opened, other_found⟩ := part?_store_singleton same explicit_small
  have read := readWorksheet_explicitRows ⟨"Sheet", worksheetPart⟩ (by decide +kernel) ascend_sampleRows
    (by decide +kernel) (by decide +kernel) (needPart_ok found) (needPart_ok other_found) "Data.xlsx" #[]
  exact ⟨package, other, opened, other_opened, read.1, read.2.trans (by decide +kernel)⟩

end Tablesmith.Ooxml
