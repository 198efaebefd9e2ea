import Mathlib
import Tablesmith.Proofs.Schema.Discovery
import Tablesmith.Proofs.Schema.Headers

/-!
# Sheets that show a table

A table is described by a name, columns and rows of texts, and its sheet shows it: the
markers are the outermost cells of the first row and stand in front of every row of
data, so that markers in the texts do no harm. Discovery reads the description off
every such sheet (`discover_laidOut`).
-/

namespace Tablesmith

open Grid Text Discovery

/-- A column: its header with the name and the role that it declares, its type with the alias that is
written for it, and its description. -/
structure ColumnDescription where
  raw : String
  name : String
  role : ColumnRole
  written : String
  type : PropertyType
  description : String

/-- A table: its name, its columns and the texts of its rows. -/
structure TableDescription where
  name : String
  columns : List ColumnDescription
  rows : List (List String)

/-- Nothing is wrong with a column of a sheet. -/
structure ColumnDescription.IsProper (aliases : TypeAliases) (sheetName : String) (column : ColumnDescription) : Prop where
  declared : Header.Declares column.raw ⟨column.name, column.role⟩
  filled : isAllBlank column.raw = false
  unspaced : ∀ c ∈ column.raw.toList, isBlank c = false
  unlike : column.raw ≠ sheetName ∧ column.name ≠ sheetName
  resolved : aliases.resolve column.written = some column.type

namespace TableDescription

/-- The text at a position of the sheet. -/
def text? (described : TableDescription) : Nat → Nat → Option String
  | 0, 0 => some "@"
  | 0, column + 1 =>
    if column = described.columns.length then some "@" else if column = 0 then some described.name else none
  | 1, column + 1 => described.columns[column]?.map ColumnDescription.description
  | 2, column + 1 => described.columns[column]?.map ColumnDescription.raw
  | 3, column + 1 => described.columns[column]?.map ColumnDescription.written
  | row + 4, 0 => if row ≤ described.rows.length then some "@" else none
  | row + 4, column + 1 => described.rows[row]?.bind (·[column]?)
  | _, _ => none

/-- The cells of a sheet are the texts of a table. -/
def IsLaidOut (described : TableDescription) (sheet : Sheet) : Prop :=
  ∀ row column, sheet.cell? row column = (described.text? row column).map fun text => ⟨row, column, .inlineText, text⟩

/-- Nothing is wrong with a table: it has columns, and every row has a text of each of their types. -/
structure IsProper (aliases : TypeAliases) (described : TableDescription) : Prop where
  named : isAllBlank described.name = false
  some_columns : described.columns ≠ []
  columns : ∀ column ∈ described.columns, column.IsProper aliases described.name
  distinct : (described.columns.map ColumnDescription.name).Nodup
  rows : ∀ row ∈ described.rows,
    List.Forall₂ (fun (column : ColumnDescription) text => text ≠ "" ∧ column.type.accepts text = true) described.columns row

/-- The columns that refer to other tables, and the tables. -/
def references (described : TableDescription) : List (Nat × String) :=
  described.columns.zipIdx.filterMap fun (column, place) =>
    match column.role with
    | .reference table => some (place, table)
    | _ => none

/-- The first column that is marked as the primary key. -/
def keyColumn? (described : TableDescription) : Option Nat :=
  described.columns.findIdx? (·.role = .primaryKey)

/-- A schema says of its sheet what the description of a table says. -/
structure IsReadAs (described : TableDescription) (schema : Schema) : Prop where
  name : schema.name = described.name
  rowCount : schema.rowCount = described.rows.length
  columnCount : schema.columnCount = described.columns.length
  properties : schema.properties.toList = described.columns.map fun column => ⟨column.name, column.type, column.description⟩
  primaryKey : schema.primaryKey.map Fin.val = described.keyColumn?
  foreignKeys : schema.foreignKeys.map (fun key => (key.column.val, key.table)) = described.references

variable {aliases : TypeAliases} {described : TableDescription} {sheet : Sheet} {place : Location} {row column : Nat}

/-- The sheet with the texts of a table and nothing else. -/
def toSheet (described : TableDescription) (file tab : String) : Sheet :=
  Sheet.ofTexts file tab ((List.range (described.rows.length + 5)).flatMap fun row =>
    (List.range (described.columns.length + 2)).filterMap fun column =>
      (described.text? row column).map fun text => (row, column, text))

theorem bounds_of_text? (proper : described.IsProper aliases) {text : String} (shown : described.text? row column = some text) :
    row < described.rows.length + 5 ∧ column < described.columns.length + 2 := by
  match row, column with
  | 0, 0 => omega
  | 0, column + 1 =>
    by_cases closing : column = described.columns.length
    · omega
    · by_cases first : column = 0
      · omega
      · simp [text?, closing, first] at shown
  | 1, 0 | 2, 0 | 3, 0 => simp [text?] at shown
  | 1, column + 1 | 2, column + 1 | 3, column + 1 =>
    simp only [text?, Option.map_eq_some_iff] at shown
    obtain ⟨header, here, -⟩ := shown
    have inside := (List.getElem?_eq_some_iff.mp here).1
    omega
  | row + 4, 0 =>
    by_cases at_most : row ≤ described.rows.length
    · omega
    · simp [text?, at_most] at shown
  | row + 4, column + 1 =>
    simp only [text?, Option.bind_eq_some_iff] at shown
    obtain ⟨texts, here, there⟩ := shown
    have row_inside := (List.getElem?_eq_some_iff.mp here).1
    have column_inside := (List.getElem?_eq_some_iff.mp there).1
    have same_length := (proper.rows texts (List.mem_of_getElem? here)).length_eq
    omega

theorem isLaidOut_toSheet (proper : described.IsProper aliases) (file tab : String) :
    described.IsLaidOut (described.toSheet file tab) := by
  intro row column
  rw [toSheet, Sheet.cell?_ofTexts]
  generalize entries_are : ((List.range (described.rows.length + 5)).flatMap fun row =>
    (List.range (described.columns.length + 2)).filterMap fun column =>
      (described.text? row column).map fun text => (row, column, text)) = entries
  have shown_of_member : ∀ entry ∈ entries, described.text? entry.1 entry.2.1 = some entry.2.2 := by
    intro entry member
    rw [← entries_are] at member
    simp only [List.mem_flatMap, List.mem_filterMap, Option.map_eq_some_iff] at member
    obtain ⟨_, _, _, _, text, shown, rfl⟩ := member
    exact shown
  cases found : entries.reverse.find? fun entry => (entry.1, entry.2.1) == (row, column) with
  | some entry =>
    have here := List.find?_some found
    have shown := shown_of_member entry (List.mem_reverse.mp (List.mem_of_find?_eq_some found))
    obtain ⟨rfl, rfl⟩ := Prod.mk.inj (beq_iff_eq.mp here)
    rw [shown]
    rfl
  | none =>
    cases shown : described.text? row column with
    | none => rfl
    | some text =>
      obtain ⟨row_inside, column_inside⟩ := bounds_of_text? proper shown
      have member : (row, column, text) ∈ entries := by
        rw [← entries_are]
        simp only [List.mem_flatMap, List.mem_filterMap, List.mem_range, Option.map_eq_some_iff]
        exact ⟨row, row_inside, column, column_inside, text, shown, rfl⟩
      have absent := List.find?_eq_none.mp found (row, column, text) (List.mem_reverse.mpr member)
      simp at absent

theorem IsLaidOut.text (laid : described.IsLaidOut sheet) (row column : Nat) :
    sheet.text row column = (described.text? row column).getD "" := by
  rw [Sheet.text, laid row column, Option.map_map]
  cases described.text? row column <;> rfl

theorem IsLaidOut.isText (laid : described.IsLaidOut sheet) (row column : Nat) :
    sheet.isText row column = (described.text? row column).isSome := by
  rw [Sheet.isText, laid row column, Option.map_map]
  cases described.text? row column <;> rfl

theorem IsProper.sheetName (proper : described.IsProper aliases) (laid : described.IsLaidOut sheet) :
    Discovery.sheetName sheet place = .ok described.name := by
  have no_marker : 0 ≠ described.columns.length := (List.length_pos_of_ne_nil proper.some_columns).ne
  have name : described.text? 0 1 = some described.name := by simp [text?, no_marker]
  simp [Discovery.sheetName, Schema.nameRow, Schema.nameColumn, laid.text, laid.isText, name, proper.named]

theorem head?_of_least {columns : List Nat} (ascending : columns.Pairwise (· ≤ ·)) {least : Nat} (member : least ∈ columns)
    (lower : ∀ other ∈ columns, least ≤ other) : columns.head? = some least := by
  cases columns with
  | nil => cases member
  | cons first columns =>
    rcases List.mem_cons.mp member with rfl | later
    · rfl
    · have above := (List.pairwise_cons.mp ascending).1 least later
      have below := lower first List.mem_cons_self
      rw [List.head?_cons, Nat.le_antisymm above below]

theorem getLast?_of_greatest {columns : List Nat} (ascending : columns.Pairwise (· ≤ ·)) {greatest : Nat}
    (member : greatest ∈ columns) (upper : ∀ other ∈ columns, other ≤ greatest) : columns.getLast? = some greatest := by
  rcases List.eq_nil_or_concat columns with rfl | ⟨before, last, rfl⟩
  · cases member
  · rw [List.concat_eq_append] at ascending member upper ⊢
    rw [List.getLast?_concat]
    rcases List.mem_append.mp member with earlier | is_last
    · have below := (List.pairwise_append.mp ascending).2.2 greatest earlier last List.mem_cons_self
      have above := upper last (List.mem_append_right _ List.mem_cons_self)
      rw [Nat.le_antisymm above below]
    · rw [List.mem_singleton.mp is_last]

theorem mem_markedColumns_iff :
    column ∈ markedColumns sheet ↔ ∃ cell, sheet.cell? 0 column = some cell ∧ isMarked cell.text = true := by
  simp only [markedColumns, Sheet.row, Schema.nameRow, List.mem_map, List.mem_filter, List.mem_mergeSort]
  constructor
  · rintro ⟨cell, ⟨⟨member, in_row⟩, is_marked⟩, rfl⟩
    refine ⟨cell, OrderedBy.find?_eq_some_iff.mpr ⟨member, ?_⟩, is_marked⟩
    rw [Cell.position, of_decide_eq_true in_row]
  · rintro ⟨cell, found, is_marked⟩
    obtain ⟨member, at_position⟩ := OrderedBy.find?_eq_some_iff.mp found
    obtain ⟨in_row, in_column⟩ := Prod.mk.inj at_position
    exact ⟨cell, ⟨⟨member, decide_eq_true in_row⟩, is_marked⟩, in_column⟩

theorem ascending_markedColumns (sheet : Sheet) : (markedColumns sheet).Pairwise (· ≤ ·) := by
  have sorted : (sheet.row Schema.nameRow).Pairwise fun left right => decide (left.column ≤ right.column) = true := by
    apply List.pairwise_mergeSort
    · intro left middle right first second
      exact decide_eq_true (Nat.le_trans (of_decide_eq_true first) (of_decide_eq_true second))
    · intro left right
      rw [Bool.or_eq_true]
      exact (Nat.le_total left.column right.column).imp decide_eq_true decide_eq_true
  rw [markedColumns, List.pairwise_map]
  apply List.Pairwise.filter
  exact sorted.imp of_decide_eq_true

/-- The markers are the outermost cells of the first row, whatever the name is. -/
theorem range_laidOut (laid : described.IsLaidOut sheet) :
    Discovery.range sheet place = .ok ⟨0, described.columns.length + 1⟩ := by
  have at_marker : isMarked "@" = true := by decide
  have within : ∀ column ∈ markedColumns sheet, column ≤ described.columns.length + 1 := by
    intro column member
    obtain ⟨cell, found, -⟩ := mem_markedColumns_iff.mp member
    rw [laid] at found
    cases column with
    | zero => omega
    | succ column =>
      by_cases closing : column = described.columns.length
      · omega
      · by_cases first : column = 0
        · omega
        · simp [text?, closing, first] at found
  have opens : 0 ∈ markedColumns sheet := by
    rw [mem_markedColumns_iff, laid]
    exact ⟨_, rfl, at_marker⟩
  have closes : described.columns.length + 1 ∈ markedColumns sheet := by
    rw [mem_markedColumns_iff, laid]
    refine ⟨⟨0, described.columns.length + 1, .inlineText, "@"⟩, ?_, at_marker⟩
    simp [text?]
  have head := head?_of_least (ascending_markedColumns sheet) opens fun other _ => Nat.zero_le other
  have last := getLast?_of_greatest (ascending_markedColumns sheet) closes within
  simp [Discovery.range, head, last]

theorem length_takeWhile_range {p : Nat → Bool} {count size : Nat} (enough : count ≤ size) (holds : ∀ row < count, p row = true)
    (ends : p count = false) : ((List.range size).takeWhile p).length = count := by
  obtain ⟨more, rfl⟩ := Nat.exists_eq_add_of_le enough
  have front : ∀ row ∈ List.range count, p row = true := by
    intro row member
    exact holds row (List.mem_range.mp member)
  rw [List.range_add, List.takeWhile_append_of_pos front]
  cases more with
  | zero => simp
  | succ more => simp [List.range_succ_eq_map, ends]

/-- A sheet has at least as many cells as markers of rows. -/
theorem rows_le_size (laid : described.IsLaidOut sheet) : described.rows.length + 1 ≤ sheet.cells.size := by
  have keys_distinct := sheet.cells.nodup_keys
  have marked_rows : ((List.range (described.rows.length + 1)).map fun row => (row + 4, 0)).Nodup := by
    apply List.Nodup.map _ List.nodup_range
    intro row other same
    simpa using same
  have inside : ((List.range (described.rows.length + 1)).map fun row => (row + 4, 0)) ⊆ sheet.cells.toList.map Cell.position := by
    intro position member
    obtain ⟨row, in_range, rfl⟩ := List.mem_map.mp member
    have before := List.mem_range.mp in_range
    have at_most : row ≤ described.rows.length := by omega
    have found := laid (row + 4) 0
    rw [text?, if_pos at_most] at found
    obtain ⟨cell_member, at_position⟩ := OrderedBy.find?_eq_some_iff.mp found
    exact List.mem_map.mpr ⟨_, cell_member, at_position⟩
  have fewer := (marked_rows.subperm inside).length_le
  simpa [OrderedBy.toList, OrderedBy.size] using fewer

theorem rowCount_laidOut (laid : described.IsLaidOut sheet) (closing : Nat) :
    Discovery.rowCount sheet ⟨0, closing⟩ = described.rows.length := by
  have markers : markedRows sheet 0 = described.rows.length + 1 := by
    apply length_takeWhile_range (rows_le_size laid)
    · intro row before
      have at_most : row ≤ described.rows.length := by omega
      rw [laid.text, Schema.gridRow, Schema.dataRow, Nat.add_comm, text?, if_pos at_most]
      decide
    · have beyond : ¬ described.rows.length + 1 ≤ described.rows.length := by omega
      rw [laid.text, Schema.gridRow, Schema.dataRow, Nat.add_comm, text?, if_neg beyond]
      decide
  rw [Discovery.rowCount, markers]
  rfl

variable {header : ColumnDescription}

theorem rawName_laidOut (laid : described.IsLaidOut sheet) (here : described.columns[column]? = some header) :
    rawName sheet column = header.raw := by
  simp [rawName, Schema.propertyRow, Schema.gridColumn, Schema.nameColumn, laid.text, text?, here]

theorem description_laidOut (laid : described.IsLaidOut sheet) (here : described.columns[column]? = some header) :
    Discovery.description sheet column = header.description := by
  simp [Discovery.description, Schema.descriptionRow, Schema.gridColumn, Schema.nameColumn, laid.text, text?, here]

theorem IsProper.at_column (proper : described.IsProper aliases) (here : described.columns[column]? = some header) :
    header.IsProper aliases described.name :=
  proper.columns header (List.mem_of_getElem? here)

theorem IsProper.read (proper : described.IsProper aliases) (laid : described.IsLaidOut sheet)
    (here : described.columns[column]? = some header) : Header.read (rawName sheet column) = ⟨header.name, header.role⟩ := by
  rw [rawName_laidOut laid here, Header.read_eq_iff]
  exact (proper.at_column here).declared

theorem IsProper.headerFault? (proper : described.IsProper aliases) (laid : described.IsLaidOut sheet)
    (here : described.columns[column]? = some header) : Discovery.headerFault? sheet described.name place column = none := by
  have column_proper := proper.at_column here
  rw [headerFault?_eq_none_iff, rawName_laidOut laid here]
  exact ⟨column_proper.filled, column_proper.unspaced, column_proper.unlike.1⟩

theorem IsProper.propertyType (proper : described.IsProper aliases) (laid : described.IsLaidOut sheet)
    (here : described.columns[column]? = some header) :
    Discovery.propertyType sheet aliases place column = .ok header.type := by
  have written : described.text? 3 (column + 1) = some header.written := by simp [text?, here]
  simp [Discovery.propertyType, Schema.typeRow, Schema.gridColumn, Schema.nameColumn, laid.text, laid.isText, written,
    (proper.at_column here).resolved]

theorem IsProper.keyFault? (proper : described.IsProper aliases) (laid : described.IsLaidOut sheet)
    (here : described.columns[column]? = some header) : Discovery.keyFault? sheet described.name place column = none := by
  rw [keyFault?_eq_none_iff, propertyName, proper.read laid here]
  refine ⟨(proper.at_column here).unlike.2, ?_⟩
  intro earlier before same
  have inside := (List.getElem?_eq_some_iff.mp here).1
  have there : described.columns[earlier]? = some described.columns[earlier] := List.getElem?_eq_getElem (by omega)
  rw [propertyName, proper.read laid there] at same
  have names : (described.columns.map ColumnDescription.name)[earlier]? = (described.columns.map ColumnDescription.name)[column]? := by
    rw [List.getElem?_map, List.getElem?_map, there, here]
    exact congrArg some same
  have equal := (List.getElem?_inj (by simpa using Nat.lt_trans before inside) proper.distinct).mp names
  omega

private theorem zipIdx_eq_map_finRange {α : Type} (items : List α) :
    items.zipIdx = (List.finRange items.length).map fun place => (items[place], place.val) := by
  apply List.ext_getElem
  · simp
  · intro place inside _
    simp

theorem IsProper.role (proper : described.IsProper aliases) (laid : described.IsLaidOut sheet)
    (column : Fin described.columns.length) :
    (Header.read (rawName sheet column.val)).role = described.columns[column].role := by
  rw [proper.read laid (List.getElem?_eq_getElem column.isLt)]
  rfl

theorem IsProper.primaryKey (proper : described.IsProper aliases) (laid : described.IsLaidOut sheet) :
    (Discovery.primaryKey? sheet described.columns.length).map Fin.val = described.keyColumn? := by
  rw [keyColumn?, List.findIdx?_eq_fst_find?_zipIdx, zipIdx_eq_map_finRange, List.find?_map, Option.map_map, primaryKey?]
  congr 2
  funext column
  rw [proper.role laid]
  rfl

theorem IsProper.foreignKeys (proper : described.IsProper aliases) (laid : described.IsLaidOut sheet) :
    (Discovery.foreignKeys sheet described.columns.length).map (fun key => (key.column.val, key.table)) =
      described.references := by
  rw [references, zipIdx_eq_map_finRange, List.filterMap_map, Discovery.foreignKeys, List.map_filterMap]
  congr 1
  funext column
  simp only [proper.role laid, Function.comp_apply]
  cases described.columns[column].role <;> rfl

/-- The types of the columns. -/
def types (described : TableDescription) : Vector PropertyType described.columns.length :=
  Vector.ofFn fun column => described.columns[column].type

theorem get_types (column : Fin described.columns.length) : described.types.get column = described.columns[column].type := by
  rw [types, Vector.get_eq_getElem, Vector.getElem_ofFn]

/-- The schema of a sheet that shows a table. -/
def schemaOn (described : TableDescription) (table : String) (sheet : Sheet) : Schema :=
  schemaOf table sheet described.name ⟨0, described.columns.length + 1⟩ described.types

theorem discover_laidOut (proper : described.IsProper aliases) (laid : described.IsLaidOut sheet) (table : String) :
    Schema.discover table sheet aliases = .ok (described.schemaOn table sheet) := by
  have at_column (column : Nat) (inside : column < described.columns.length) :
      described.columns[column]? = some described.columns[column] := List.getElem?_eq_getElem inside
  rw [Schema.discover_ok_iff]
  refine ⟨described.name, ⟨0, described.columns.length + 1⟩, described.types, proper.sheetName laid, range_laidOut laid, ?_, ?_, ?_, rfl⟩
  · intro column inside
    exact proper.headerFault? laid (at_column column inside)
  · intro column
    rw [proper.propertyType laid (at_column column.val column.isLt)]
    exact congrArg Except.ok (get_types column).symm
  · intro column inside
    exact proper.keyFault? laid (at_column column inside)

theorem propertyAt_schemaOn (proper : described.IsProper aliases) (laid : described.IsLaidOut sheet) (table : String)
    (column : Fin described.columns.length) :
    (described.schemaOn table sheet).propertyAt column =
      ⟨described.columns[column].name, described.columns[column].type, described.columns[column].description⟩ := by
  have here := List.getElem?_eq_getElem column.isLt
  have read := propertyAt_schemaOf table sheet described.name ⟨0, described.columns.length + 1⟩ described.types column
  apply read.trans
  show Property.mk (propertyName sheet column.val) (described.types.get column) (Discovery.description sheet column.val) = _
  rw [get_types, propertyName, proper.read laid here, description_laidOut laid here]
  rfl

theorem isReadAs_schemaOn (proper : described.IsProper aliases) (laid : described.IsLaidOut sheet) (table : String) :
    described.IsReadAs (described.schemaOn table sheet) := by
  refine ⟨rfl, rowCount_laidOut laid _, rfl, ?_, proper.primaryKey laid, proper.foreignKeys laid⟩
  apply List.ext_getElem
  · rw [Vector.length_toList, List.length_map]
    rfl
  · intro column _ inside
    have column_inside : column < described.columns.length := by simpa using inside
    have read := propertyAt_schemaOn proper laid table ⟨column, column_inside⟩
    rw [Vector.getElem_toList, List.getElem_map]
    exact read

theorem text_schemaOn (laid : described.IsLaidOut sheet) {table : String} (row : Nat) (column : Fin described.columns.length) :
    (described.schemaOn table sheet).text row column = (described.rows[row]?.bind (·[column.val]?)).getD "" := by
  show sheet.text (Schema.gridRow row) (Schema.gridColumn column.val) = _
  rw [laid.text, Schema.gridRow, Schema.dataRow, Schema.gridColumn, Schema.nameColumn, Nat.add_comm 4, text?]

end TableDescription

end Tablesmith
