import Mathlib
import Tablesmith.Proofs.Extract.Cursor
import Tablesmith.Proofs.Grid.Reference
import Tablesmith.Proofs.Scan
import Tablesmith.Proofs.Schema.Invariant

/-!
# Where extraction stops

Extraction visits the keys of all sheets, then their references, then all their cells,
and stops at the first visit that finds something wrong (`reports_extract`). What is
wrong is said of the sheets alone: a text that is empty or that the type of its column
does not accept, a key that an earlier row under the name of the sheet has, a table that
there is no sheet of, or a text that no row of the table has as its key. The fault is at
the place of the visit, and the reference of its cell is read back as the position of
the cell (`extract_stops_at_first_offence`).
-/

namespace Tablesmith

open Grid Steps Outcome

theorem Fault.mk_eq_iff {place : Location} {problem : Problem} {fault : Fault} :
    Fault.mk place problem = fault ↔ fault.location = place ∧ fault.problem = problem := by
  obtain ⟨location, other⟩ := fault
  simp [eq_comm]

namespace Schema

variable {schema : Schema} {row : Nat}

/-- The text of a cell is not a value: it is empty, or the type of its column does not accept it. -/
def Refuses (schema : Schema) (row : Nat) (property : Fin schema.columnCount) (problem : Problem) : Prop :=
  (schema.text row property = "" ∧ problem = .valueEmpty) ∨
    (schema.text row property ≠ "" ∧ (schema.propertyAt property).type.accepts (schema.text row property) = false ∧
      problem = .valueRejected (schema.text row property) (schema.propertyAt property).type)

theorem value_error_iff {property : Fin schema.columnCount} {fault : Fault} : schema.value row property = .error fault ↔
    fault.location = schema.locate row property ∧ schema.Refuses row property fault.problem := by
  obtain ⟨location, problem⟩ := fault
  unfold value checkValue Refuses
  by_cases empty : schema.text row property = ""
  · simp [empty, eq_comm (a := location), eq_comm (a := problem)]
  · by_cases accepted : (schema.propertyAt property).type.accepts (schema.text row property) = true
    · simp [empty, accepted]
    · simp [empty, accepted, eq_comm (a := location), eq_comm (a := problem)]

theorem fault_iff_of_value {property : Fin schema.columnCount} {found fault : Fault}
    (valued : schema.value row property = .error found) :
    found = fault ↔ fault.location = schema.locate row property ∧ schema.Refuses row property fault.problem := by
  rw [← value_error_iff, valued, Except.error.injEq]

theorem HasValue.not_refuses {property : Fin schema.columnCount} (held : schema.HasValue row property) (problem : Problem) :
    ¬ schema.Refuses row property problem := by
  rintro (⟨empty, -⟩ | ⟨-, rejected, -⟩)
  · exact held.1 empty
  · rw [held.2] at rejected
    cases rejected

/-- The key of a row is the key of an earlier row of the sheet, or of a row of an earlier sheet of its name. -/
def KeyIsTaken (schema : Schema) (earlier : List Schema) (row : Nat) : Prop :=
  (∃ before < row, schema.keyText before = schema.keyText row) ∨
    ∃ other ∈ earlier, other.name = schema.name ∧ ∃ before < other.rowCount, other.keyText before = schema.keyText row

end Schema

/-- A row of a sheet with the name has the key. -/
def Tables.IsKey (schemas : List Schema) (name key : String) : Prop :=
  ∃ schema ∈ schemas, schema.name = name ∧ ∃ row < schema.rowCount, schema.keyText row = key

/-- What extraction looks at: the key of a row, with the sheets that were seen before; the table of a reference, and
the reference of a row to it; the cell of a row. -/
inductive Visit
  | atKey (earlier : List Schema) (schema : Schema) (column : Fin schema.columnCount) (row : Nat)
  | atTable (schema : Schema) (reference : ForeignKey schema.columnCount)
  | atReference (schema : Schema) (reference : ForeignKey schema.columnCount) (row : Nat)
  | atCell (schema : Schema) (row : Nat) (column : Fin schema.columnCount)

namespace Visit

/-- The sheet that is visited. -/
def schema : Visit → Schema
  | atKey _ schema _ _ | atTable schema _ | atReference schema _ _ | atCell schema _ _ => schema

/-- The column that is visited. -/
def column : (visit : Visit) → Fin visit.schema.columnCount
  | atKey _ _ column _ | atCell _ _ column => column
  | atTable _ reference | atReference _ reference _ => reference.column

/-- The row that is visited, unless it is a whole column. -/
def row? : Visit → Option Nat
  | atKey _ _ _ row | atReference _ _ row | atCell _ row _ => some row
  | atTable _ _ => none

/-- The visit finds the problem. An empty key is passed over when keys are visited. -/
def Finds (schemas : List Schema) : Visit → Problem → Prop
  | atKey earlier schema column row, problem =>
    (schema.text row column ≠ "" ∧ schema.Refuses row column problem) ∨
      (schema.HasValue row column ∧ schema.KeyIsTaken earlier row ∧ problem = .keyRepeated (schema.text row column))
  | atTable _ reference, problem =>
    (∀ other ∈ schemas, other.name ≠ reference.table) ∧ problem = .tableUnknown reference.table
  | atReference schema reference row, problem =>
    schema.Refuses row reference.column problem ∨
      (schema.HasValue row reference.column ∧
        ¬ Tables.IsKey schemas reference.table (schema.text row reference.column) ∧
          problem = .referenceDangling (schema.text row reference.column) reference.table)
  | atCell schema row column, problem => schema.Refuses row column problem

/-- The place of the visit. -/
def location (visit : Visit) : Location :=
  match visit.row? with
  | some row => visit.schema.locate row visit.column
  | none => ⟨visit.schema.table, visit.schema.name, (visit.schema.propertyAt visit.column).name, ""⟩

/-- The fault is the problem that the visit finds, at its place. -/
def Offends (schemas : List Schema) (visit : Visit) (fault : Fault) : Prop :=
  fault.location = visit.location ∧ visit.Finds schemas fault.problem

end Visit

namespace Schema

/-- The keys of a sheet are visited row by row. -/
def keyVisits (schema : Schema) (earlier : List Schema) : List Visit :=
  match schema.primaryKey with
  | some key => (List.range schema.rowCount).map (.atKey earlier schema key)
  | none => []

/-- The references of a sheet are visited column by column, the table first and then the rows. -/
def referenceVisits (schema : Schema) : List Visit :=
  schema.foreignKeys.flatMap fun reference =>
    .atTable schema reference :: (List.range schema.rowCount).map (.atReference schema reference)

/-- The cells of a sheet are visited row by row, the key first and then the values. -/
def cellVisits (schema : Schema) : List Visit :=
  (List.range schema.rowCount).flatMap fun row =>
    (schema.primaryKey.toList ++ schema.valueProperties).map (.atCell schema row)

end Schema

namespace Tables

/-- The keys of all sheets, each with the sheets before it. -/
def keyVisits : List Schema → List Schema → List Visit
  | _, [] => []
  | earlier, schema :: later => schema.keyVisits earlier ++ keyVisits (earlier ++ [schema]) later

/-- All visits, in order: keys, then references, then cells. -/
def visits (schemas : List Schema) : List Visit :=
  keyVisits [] schemas ++ schemas.flatMap Schema.referenceVisits ++ schemas.flatMap Schema.cellVisits

end Tables

namespace KeyCatalog

variable {catalog left : KeyCatalog} {earlier : List Schema} {schema : Schema}

/-- The catalog knows the names of the sheets and the keys of their rows, but for empty ones. -/
structure Knows (catalog : KeyCatalog) (schemas : List Schema) : Prop where
  tables : ∀ name, catalog.containsTable name = true ↔ ∃ schema ∈ schemas, schema.name = name
  keys : ∀ name key, key ≠ "" → (catalog.contains name key = true ↔ Tables.IsKey schemas name key)

/-- The catalog knows the sheets before, and of one more sheet the name and the keys of the first rows. -/
structure KnowsRows (catalog : KeyCatalog) (earlier : List Schema) (schema : Schema) (count : Nat) : Prop where
  tables : ∀ name, catalog.containsTable name = true ↔ (∃ other ∈ earlier, other.name = name) ∨ schema.name = name
  keys : ∀ name key, key ≠ "" → (catalog.contains name key = true ↔
    Tables.IsKey earlier name key ∨ schema.name = name ∧ ∃ row < count, schema.keyText row = key)

theorem knows_empty : empty.Knows [] :=
  ⟨fun _ => by simp, fun _ _ _ => by simp [Tables.IsKey]⟩

theorem Knows.register (knows : catalog.Knows earlier) (schema : Schema) :
    (catalog.register schema.name).KnowsRows earlier schema 0 := by
  refine ⟨fun name => ?_, fun name key filled => ?_⟩
  · rw [containsTable_register, knows.tables, or_comm, eq_comm (a := name)]
  · rw [contains_register, knows.keys name key filled]
    simp

theorem KnowsRows.knows (knows : catalog.KnowsRows earlier schema schema.rowCount) :
    catalog.Knows (earlier ++ [schema]) := by
  refine ⟨fun name => ?_, fun name key filled => ?_⟩
  · rw [knows.tables]
    simp [or_and_right, exists_or]
  · rw [knows.keys name key filled]
    simp [Tables.IsKey, or_and_right, exists_or]

theorem KnowsRows.insert {count : Nat} (knows : catalog.KnowsRows earlier schema count) :
    (catalog.insert schema.name (schema.keyText count)).KnowsRows earlier schema (count + 1) := by
  refine ⟨fun name => ?_, fun name key filled => ?_⟩
  · rw [containsTable_insert, knows.tables, eq_comm (a := name), or_iff_right_iff_imp]
    exact .inr
  · rw [contains_insert, knows.keys name key filled]
    constructor
    · rintro (⟨rfl, rfl⟩ | earlier_key | ⟨named, row, before, is_key⟩)
      · exact .inr ⟨rfl, count, Nat.lt_succ_self count, rfl⟩
      · exact .inl earlier_key
      · exact .inr ⟨named, row, Nat.lt_succ_of_lt before, is_key⟩
    · rintro (earlier_key | ⟨named, row, before, is_key⟩)
      · exact .inr (.inl earlier_key)
      · rcases Nat.lt_succ_iff_lt_or_eq.mp before with first | rfl
        · exact .inr (.inr ⟨named, row, first, is_key⟩)
        · exact .inl ⟨named.symm, is_key.symm⟩

/-- An empty key is no key. -/
theorem KnowsRows.pass {count : Nat} (knows : catalog.KnowsRows earlier schema count) (empty : schema.keyText count = "") :
    catalog.KnowsRows earlier schema (count + 1) := by
  refine ⟨knows.tables, fun name key filled => ?_⟩
  rw [knows.keys name key filled]
  refine or_congr_right (and_congr_right fun _ => ?_)
  constructor
  · rintro ⟨row, before, is_key⟩
    exact ⟨row, Nat.lt_succ_of_lt before, is_key⟩
  · rintro ⟨row, before, is_key⟩
    rcases Nat.lt_succ_iff_lt_or_eq.mp before with first | rfl
    · exact ⟨row, first, is_key⟩
    · exact absurd (is_key.symm.trans empty) filled

theorem KnowsRows.contains_iff_taken {row : Nat} (knows : catalog.KnowsRows earlier schema row)
    (filled : schema.keyText row ≠ "") :
    catalog.contains schema.name (schema.keyText row) = true ↔ schema.KeyIsTaken earlier row := by
  rw [knows.keys _ _ filled, Schema.KeyIsTaken, or_comm]
  simp [Tables.IsKey]

end KeyCatalog

namespace Schema

variable {schemas earlier : List Schema} {schema : Schema} {catalog : KeyCatalog}

theorem scans_catalogKey {key : Fin schema.columnCount} (is_key : schema.primaryKey = some key) {row : Nat}
    (knows : catalog.KnowsRows earlier schema row) :
    Scans (Visit.Offends schemas) ((schema.catalogKey key row).run.run catalog) [.atKey earlier schema key row]
      (·.KnowsRows earlier schema (row + 1)) := by
  have text_is : schema.keyText row = schema.text row key := by rw [keyText, is_key]
  by_cases empty : schema.text row key = ""
  · rw [run_catalogKey, if_pos empty]
    refine ⟨reports_place fun fault => ⟨fun done => (by cases done), ?_⟩, fun _ _ => knows.pass (text_is.trans empty)⟩
    rintro ⟨-, ⟨filled, -⟩ | ⟨held, -⟩⟩
    · exact absurd empty filled
    · exact absurd empty held.1
  · cases valued : schema.value row key with
    | error found =>
      have ran : (schema.catalogKey key row).run.run catalog = (.error found, catalog) := by
        rw [run_catalogKey, if_neg empty, valued]
      have refused := ((fault_iff_of_value valued).mp rfl).2
      rw [ran]
      refine ⟨reports_place fun fault => ?_, fun _ done => (by cases done)⟩
      rw [Except.error.injEq, fault_iff_of_value valued]
      refine and_congr_right fun _ => ⟨fun wrong => .inl ⟨empty, wrong⟩, ?_⟩
      rintro (⟨-, wrong⟩ | ⟨held, -⟩)
      · exact wrong
      · exact absurd refused (held.not_refuses _)
    | ok value =>
      obtain ⟨held, rfl⟩ := value_ok_iff.mp valued
      have ran : (schema.catalogKey key row).run.run catalog =
          (if catalog.contains schema.name (schema.text row key) then
            .error ⟨schema.locate row key, .keyRepeated (schema.text row key)⟩ else .ok (),
            catalog.insert schema.name (schema.text row key)) := by
        rw [run_catalogKey, if_neg empty, valued]
      have taken := knows.contains_iff_taken (by rwa [text_is])
      rw [text_is] at taken
      rw [ran]
      refine ⟨reports_place fun fault => ?_, fun _ _ => text_is ▸ knows.insert⟩
      have found_iff : Visit.Finds schemas (.atKey earlier schema key row) fault.problem ↔
          schema.KeyIsTaken earlier row ∧ fault.problem = .keyRepeated (schema.text row key) :=
        ⟨fun found => (found.resolve_left fun refused => held.not_refuses _ refused.2).2, fun found => .inr ⟨held, found⟩⟩
      rw [Visit.Offends, found_iff, ← taken]
      by_cases known : catalog.contains schema.name (schema.text row key) = true
      · rw [if_pos known, and_iff_right known, Except.error.injEq]
        exact Fault.mk_eq_iff
      · rw [if_neg known]
        exact ⟨fun done => (by cases done), fun wrong => absurd wrong.2.1 known⟩

theorem scans_keyRows {key : Fin schema.columnCount} (is_key : schema.primaryKey = some key)
    (knows : catalog.KnowsRows earlier schema 0) (count : Nat) :
    Scans (Visit.Offends schemas) (((List.range count).forM (schema.catalogKey key)).run.run catalog)
      ((List.range count).map (.atKey earlier schema key)) (·.KnowsRows earlier schema count) := by
  induction count with
  | zero => exact ⟨reports_ok (), fun _ _ => knows⟩
  | succ count ih =>
    rw [List.range_succ, forM_concat, List.map_append]
    exact ih.bind fun _ _ knows_rows => scans_catalogKey is_key knows_rows

theorem knowsRows_addRows (knows : catalog.KnowsRows earlier schema 0) (count : Nat) :
    (catalog.addRows schema count).KnowsRows earlier schema count := by
  induction count with
  | zero => exact knows
  | succ count ih =>
    rw [KeyCatalog.addRows_succ]
    exact ih.insert

theorem scans_catalogKeys (knows : catalog.Knows earlier) :
    Scans (Visit.Offends schemas) (schema.catalogKeys.run.run catalog) (schema.keyVisits earlier)
      (·.Knows (earlier ++ [schema])) := by
  have registered := knows.register schema
  unfold catalogKeys keyVisits
  rw [run_bind_ok (run_modify _ _)]
  cases is_key : schema.primaryKey with
  | none =>
    simp only [run_numberRows is_key schema.rowCount]
    exact ⟨reports_ok (), fun _ _ => (knowsRows_addRows registered schema.rowCount).knows⟩
  | some key =>
    have rows : Scans (Visit.Offends schemas) _ _ _ := scans_keyRows is_key registered schema.rowCount
    exact ⟨rows.reports, fun result done => (rows.arrives result done).knows⟩

end Schema

namespace Tables

variable {schemas : List Schema} {catalog : KeyCatalog}

theorem scans_keys (later earlier : List Schema) (knows : catalog.Knows earlier) :
    Scans (Visit.Offends schemas) ((catalogKeys later).run.run catalog) (keyVisits earlier later)
      (·.Knows (earlier ++ later)) := by
  unfold catalogKeys
  rw [List.forM_eq_forM]
  induction later generalizing earlier catalog with
  | nil => exact ⟨reports_ok (), fun _ _ => by rwa [List.append_nil]⟩
  | cons schema later ih =>
    rw [List.forM_cons, keyVisits]
    refine (Schema.scans_catalogKeys knows).bind fun _ left knows_sheet => ?_
    have rest := ih (earlier ++ [schema]) knows_sheet
    rwa [List.append_assoc, List.singleton_append] at rest

end Tables

namespace Schema

variable {schemas : List Schema} {schema : Schema} {catalog : KeyCatalog}

theorem reports_checkReference (knows : catalog.Knows schemas) (reference : ForeignKey schema.columnCount) (row : Nat) :
    Reports (Visit.Offends schemas) (schema.checkReference catalog reference row) [.atReference schema reference row] := by
  refine reports_place fun fault => ?_
  unfold checkReference
  cases valued : schema.value row reference.column with
  | error found =>
    have refused := ((fault_iff_of_value valued).mp rfl).2
    rw [error_bind, Except.error.injEq, fault_iff_of_value valued]
    refine and_congr_right fun _ => ⟨.inl, ?_⟩
    rintro (wrong | ⟨held, -⟩)
    · exact wrong
    · exact absurd refused (held.not_refuses _)
  | ok value =>
    obtain ⟨held, rfl⟩ := value_ok_iff.mp valued
    have found_iff : Visit.Finds schemas (.atReference schema reference row) fault.problem ↔
        ¬ catalog.contains reference.table (schema.text row reference.column) = true ∧
          fault.problem = .referenceDangling (schema.text row reference.column) reference.table := by
      rw [knows.keys _ _ held.1]
      exact ⟨fun found => (found.resolve_left (held.not_refuses _)).2, fun found => .inr ⟨held, found⟩⟩
    rw [ok_bind, Visit.Offends, found_iff]
    by_cases known : catalog.contains reference.table (schema.text row reference.column) = true
    · rw [if_pos known]
      exact ⟨nofun, fun wrong => absurd known wrong.2.1⟩
    · rw [if_neg known, and_iff_right known]
      exact (Except.error.injEq _ _).to_iff.trans Fault.mk_eq_iff

theorem reports_checkForeignKey (knows : catalog.Knows schemas) (reference : ForeignKey schema.columnCount) :
    Reports (Visit.Offends schemas) (schema.checkForeignKey catalog reference)
      (.atTable schema reference :: (List.range schema.rowCount).map (.atReference schema reference)) := by
  have known := knows.tables reference.table
  unfold checkForeignKey
  intro fault
  rw [firstOffence_cons_iff]
  cases found : catalog.containsTable reference.table with
  | true =>
    obtain ⟨other, member, named⟩ := known.mp found
    have no_offence (fault : Fault) : ¬ Visit.Offends schemas (.atTable schema reference) fault :=
      fun wrong => wrong.2.1 other member named
    have rows := Reports.forM (reports_checkReference knows reference) (List.range schema.rowCount)
    rw [or_iff_right (no_offence fault), and_iff_right no_offence, if_pos rfl, rows fault, ← List.map_eq_flatMap]
  | false =>
    have absent : ∀ other ∈ schemas, other.name ≠ reference.table := by
      intro other member named
      rw [known.mpr ⟨other, member, named⟩] at found
      cases found
    have offends_iff : Visit.Offends schemas (.atTable schema reference) fault ↔
        fault.location = ⟨schema.table, schema.name, (schema.propertyAt reference.column).name, ""⟩ ∧
          fault.problem = .tableUnknown reference.table :=
      and_congr_right fun _ => and_iff_right absent
    have not_clear : ¬ ∀ other, ¬ Visit.Offends schemas (.atTable schema reference) other :=
      fun clear => clear ⟨_, _⟩ ⟨rfl, absent, rfl⟩
    rw [or_iff_left (not_clear ·.1), offends_iff, if_neg Bool.false_ne_true, Except.error.injEq]
    exact Fault.mk_eq_iff

theorem reports_checkForeignKeys (knows : catalog.Knows schemas) :
    Reports (Visit.Offends schemas) (schema.checkForeignKeys catalog) schema.referenceVisits :=
  Reports.forM (reports_checkForeignKey knows) schema.foreignKeys

end Schema

namespace Schema

variable {schemas : List Schema} {schema : Schema}

theorem reports_value (row : Nat) (column : Fin schema.columnCount) :
    Reports (Visit.Offends schemas) (schema.value row column) [.atCell schema row column] :=
  reports_place fun _ => value_error_iff

theorem reports_key (row : Nat) :
    Reports (Visit.Offends schemas) (schema.key row) (schema.primaryKey.toList.map (.atCell schema row)) := by
  unfold key
  cases schema.primaryKey with
  | none => exact reports_ok _
  | some key => exact reports_value row key

theorem reports_record (row : Nat) :
    Reports (Visit.Offends schemas) (schema.record row) (schema.valueProperties.map (.atCell schema row)) := by
  rw [List.map_eq_flatMap]
  exact Reports.foldlM (fun record property => (reports_value row property).map _) _ _

theorem reports_rows (schema : Schema) : Reports (Visit.Offends schemas) schema.rows schema.cellVisits := by
  refine Reports.foldlM (fun rows row => ?_) _ _
  rw [List.map_append]
  exact (reports_key row).bind fun key _ => (reports_record row).map _

end Schema

namespace Tables

variable {schemas : List Schema}

theorem reports_checkForeignKeys {catalog : KeyCatalog} (knows : catalog.Knows schemas) :
    Reports (Visit.Offends schemas) (checkForeignKeys schemas catalog) (schemas.flatMap Schema.referenceVisits) :=
  Reports.forM (fun _ => Schema.reports_checkForeignKeys knows) schemas

theorem reports_read : Reports (Visit.Offends schemas) (read schemas) (schemas.flatMap Schema.cellVisits) :=
  Reports.foldlM (fun _ schema => (Schema.reports_rows schema).map _) schemas _

/-- Extraction stops at the first visit that finds something wrong, and nowhere else. -/
theorem reports_extract (schemas : List Schema) :
    Reports (Visit.Offends schemas) ((TableExtractor.extract schemas).run.run TableExtractor.fresh).1 (visits schemas) := by
  have keys : Scans (Visit.Offends schemas) _ _ _ := scans_keys schemas [] KeyCatalog.knows_empty
  have nothing_kept : TableExtractor.fresh.kept = KeyCatalog.empty := rfl
  rw [TableExtractor.outcome_extract, nothing_kept, visits, List.append_assoc]
  rcases collected : (catalogKeys schemas).run.run KeyCatalog.empty with ⟨fault | _, left⟩ <;> rw [collected] at keys
  · rw [run_extract_stopped (congrArg Prod.fst collected)]
    exact keys.reports.stopped _
  · have knows : left.Knows schemas := keys.arrives () rfl
    rw [run_extract_collected collected]
    exact ((reports_checkForeignKeys knows).bind fun _ _ => reports_read).following keys.reports

end Tables

theorem Location.text_eq {place : Location} (sheet_filled : place.sheet ≠ "") (column_filled : place.column ≠ "") :
    place.text = "[" ++ (if place.table = "" then "" else place.table ++ "/") ++ place.sheet ++ "/" ++ place.column ++
      (if place.cell = "" then "" else "/" ++ place.cell) ++ "]" := by
  unfold Location.text
  by_cases no_table : place.table = "" <;> by_cases no_cell : place.cell = "" <;>
    simp [no_table, no_cell, sheet_filled, column_filled, String.intercalate_cons_cons, String.append_assoc]

/-- The positions of all cells have 64 bits. -/
def Grid.Sheet.IsBounded (sheet : Sheet) : Prop :=
  ∀ cell ∈ sheet.cells.toList, cell.row < positionBound ∧ cell.column < positionBound

theorem Grid.Sheet.IsBounded.of_isMarked {sheet : Sheet} (bounded : sheet.IsBounded) {row column : Nat}
    (is_marked : Discovery.isMarked (sheet.text row column) = true) : row < positionBound ∧ column < positionBound := by
  obtain ⟨cell, found, -⟩ := Discovery.cell?_of_isMarked is_marked
  obtain ⟨member, at_position⟩ := OrderedBy.find?_eq_some_iff.mp found
  obtain ⟨rfl, rfl⟩ := Prod.mk.inj at_position
  exact bounded cell member

namespace Discovery

theorem closes_of_range {sheet : Sheet} {place : Location} {range : Range}
    (ranged : Discovery.range sheet place = .ok range) : isMarked (sheet.text Schema.nameRow range.closing) = true := by
  rw [Discovery.range] at ranged
  split at ranged
  · next opening closing head last =>
    by_cases single : closing ≤ opening
    · rw [if_pos single] at ranged
      cases ranged
    · rw [if_neg single] at ranged
      cases ranged
      exact mem_markedColumns_iff_text.mp (List.mem_of_getLast? last)
  · cases ranged

end Discovery

namespace Schema.IsDiscovered

variable {schema : Schema}

theorem name_ne_empty (discovered : schema.IsDiscovered) : schema.name ≠ "" := by
  obtain ⟨table, sheet, aliases, done⟩ := discovered
  obtain ⟨name, range, types, named, -, -, -, -, rfl⟩ := discover_ok_iff.mp done
  intro empty
  rw [Discovery.sheetName] at named
  by_cases filled : sheet.isText nameRow nameColumn ∧ ¬ Text.isAllBlank (sheet.text nameRow nameColumn)
  · rw [if_pos filled] at named
    rw [Except.ok.inj named, show name = "" from empty] at filled
    exact absurd filled.2 (by decide)
  · rw [if_neg filled] at named
    cases named

theorem propertyName_ne_empty (discovered : schema.IsDiscovered) (property : Fin schema.columnCount) :
    (schema.propertyAt property).name ≠ "" := by
  obtain ⟨table, sheet, aliases, done⟩ := discovered
  refine (isIndexed_of_discover done).names_filled _ ?_
  rw [propertyAt, Vector.get_eq_getElem, Vector.mem_toList_iff]
  exact Vector.getElem_mem property.isLt

/-- The markers around the data are cells too, so that positions within have room for the numbers of a reference. -/
theorem position?_cellReference (discovered : schema.IsDiscovered) (bounded : schema.grid.IsBounded) {row : Nat}
    (inside : row < schema.rowCount) (property : Fin schema.columnCount) :
    position? (cellReference row property) = some (row + 4, property.val + 1) := by
  obtain ⟨table, sheet, aliases, done⟩ := discovered
  obtain ⟨name, range, types, -, ranged, -, -, -, rfl⟩ := discover_ok_iff.mp done
  have rows := Discovery.rows_of_opening (Discovery.opens_of_range ranged) range.closing
  have in_rows : row < Discovery.rowCount sheet range := inside
  have opened : Discovery.IsMarkedRow sheet range.opening 0 := by
    by_contra unopened
    have no_rows : Discovery.rowCount sheet range = 0 := rows.unopened unopened
    omega
  have last_marked := rows.marked ⟨0, Nat.zero_le _, opened⟩ _ (Nat.le_refl _)
  have row_bound := (bounded.of_isMarked last_marked).1
  have column_bound := (bounded.of_isMarked (Discovery.closes_of_range ranged)).2
  have in_range : property.val < range.closing - range.opening - 1 := property.isLt
  have row_is : gridRow row = row + 4 := Nat.add_comm ..
  have last_row_is : gridRow (Discovery.rowCount sheet range) = Discovery.rowCount sheet range + 4 := Nat.add_comm ..
  have column_is : gridColumn property = property.val + 1 := rfl
  rw [last_row_is] at row_bound
  rw [cellReference, row_is, column_is]
  exact position?_reference (by omega) (by omega)

end Schema.IsDiscovered

namespace Visit

/-- The visit is to a sheet, and within its rows. -/
def IsIn (visit : Visit) (schema : Schema) : Prop :=
  visit.schema = schema ∧ ∀ row, visit.row? = some row → row < visit.schema.rowCount

/-- The place is that of the visit: it names the table, the sheet and the column, and the cell unless the visit is to
the whole column. It is written with slashes between the names in brackets, and the name of its cell is read back as
the position of the cell in the sheet. -/
structure IsAt (visit : Visit) (place : Location) : Prop where
  table : place.table = visit.schema.table
  sheet : place.sheet = visit.schema.name
  column : place.column = (visit.schema.propertyAt visit.column).name
  cell : ∀ row, visit.row? = some row → place.cell = reference (row + 4) (visit.column.val + 1) ∧
    position? place.cell = some (row + 4, visit.column.val + 1)
  no_cell : visit.row? = none → place.cell = ""
  text : place.text = "[" ++ (if place.table = "" then "" else place.table ++ "/") ++ place.sheet ++ "/" ++ place.column ++
    (if place.cell = "" then "" else "/" ++ place.cell) ++ "]"

theorem isAt_location {visit : Visit} (discovered : visit.schema.IsDiscovered) (bounded : visit.schema.grid.IsBounded)
    (inside : ∀ row, visit.row? = some row → row < visit.schema.rowCount) : visit.IsAt visit.location := by
  have sheet_filled := discovered.name_ne_empty
  have column_filled := discovered.propertyName_ne_empty visit.column
  unfold location
  cases visited : visit.row? with
  | none =>
    exact ⟨rfl, rfl, rfl, fun row of_row => (nomatch visited.symm.trans of_row), fun _ => rfl,
      Location.text_eq sheet_filled column_filled⟩
  | some row =>
    refine ⟨rfl, rfl, rfl, fun other of_row => ?_, fun of_column => (nomatch visited.symm.trans of_column),
      Location.text_eq sheet_filled column_filled⟩
    obtain rfl := Option.some.inj (visited.symm.trans of_row)
    refine ⟨?_, discovered.position?_cellReference bounded (inside row visited) visit.column⟩
    exact congrArg (reference · _) (Nat.add_comm ..)

end Visit

namespace Tables

variable {schemas : List Schema} {visit : Visit}

theorem isIn_of_mem_keyVisits {later earlier : List Schema} (member : visit ∈ keyVisits earlier later) :
    ∃ schema ∈ later, visit.IsIn schema := by
  induction later generalizing earlier with
  | nil => cases member
  | cons schema later ih =>
    rw [keyVisits, List.mem_append] at member
    rcases member with here | there
    · refine ⟨schema, List.mem_cons_self, ?_⟩
      unfold Schema.keyVisits at here
      split at here
      · obtain ⟨row, inside, rfl⟩ := List.mem_map.mp here
        exact ⟨rfl, by rintro _ ⟨⟩; exact List.mem_range.mp inside⟩
      · cases here
    · obtain ⟨other, other_member, is_in⟩ := ih there
      exact ⟨other, List.mem_cons_of_mem _ other_member, is_in⟩

theorem isIn_of_mem_visits (member : visit ∈ visits schemas) : ∃ schema ∈ schemas, visit.IsIn schema := by
  rw [visits, List.mem_append, List.mem_append] at member
  rcases member with (keys | references) | cells
  · exact isIn_of_mem_keyVisits keys
  · obtain ⟨schema, schema_member, here⟩ := List.mem_flatMap.mp references
    obtain ⟨reference, -, here⟩ := List.mem_flatMap.mp here
    refine ⟨schema, schema_member, ?_⟩
    rcases List.mem_cons.mp here with rfl | of_row
    · exact ⟨rfl, nofun⟩
    · obtain ⟨row, inside, rfl⟩ := List.mem_map.mp of_row
      exact ⟨rfl, by rintro _ ⟨⟩; exact List.mem_range.mp inside⟩
  · obtain ⟨schema, schema_member, here⟩ := List.mem_flatMap.mp cells
    obtain ⟨row, inside, here⟩ := List.mem_flatMap.mp here
    obtain ⟨property, -, rfl⟩ := List.mem_map.mp here
    exact ⟨schema, schema_member, rfl, by rintro _ ⟨⟩; exact List.mem_range.mp inside⟩

/-- Where extraction of discovered sheets stops, it stops at a visit that finds the problem it tells of, at the place
    of the visit; and no visit before that one, whether to a key, to a reference or to a cell, finds anything wrong. -/
theorem extract_stops_at_first_offence (discovered : ∀ schema ∈ schemas, schema.IsDiscovered)
    (bounded : ∀ schema ∈ schemas, schema.grid.IsBounded) {fault : Fault}
    (stopped : ((TableExtractor.extract schemas).run.run TableExtractor.fresh).1 = .error fault) :
    ∃ before visit after, visits schemas = before ++ visit :: after ∧
      (∀ earlier ∈ before, ∀ problem, ¬ earlier.Finds schemas problem) ∧ visit.Finds schemas fault.problem ∧
        visit.IsAt fault.location := by
  obtain ⟨before, visit, after, split, clear, at_visit, finds⟩ := (reports_extract schemas fault).mp stopped
  have member : visit ∈ visits schemas := by
    rw [split]
    exact List.mem_append_right _ List.mem_cons_self
  obtain ⟨schema, schema_member, rfl, inside⟩ := isIn_of_mem_visits member
  refine ⟨before, visit, after, split, fun earlier passed problem wrong => ?_, finds, ?_⟩
  · exact clear earlier passed ⟨earlier.location, problem⟩ ⟨rfl, wrong⟩
  · rw [at_visit]
    exact Visit.isAt_location (discovered _ schema_member) (bounded _ schema_member) inside

theorem isBounded_sword : Item.sword.sheet.IsBounded := by
  rw [Item.sheet, Sheet.IsBounded, Sheet.toList_cells_ofTexts (by decide)]
  decide +kernel

theorem keyVisits_sword (earlier : List Schema) :
    Item.sword.schema.keyVisits earlier = [.atKey earlier Item.sword.schema (0 : Fin 2) 0] := by
  rw [Schema.keyVisits, Item.primaryKey_schema, Item.rowCount_schema]
  rfl

theorem locate_sword : Item.sword.schema.locate 0 (0 : Fin 2) = ⟨"Items", "Item", "Id", "B5"⟩ := by
  have column : (Item.sword.schema.propertyAt (0 : Fin 2)).name = "Id" := by
    rw [Item.propertyAt_schema]
    simp only [Discovery.propertyName, Fin.val_zero, Item.rawName_zero, Item.read_keyHeader]
  have cell : Schema.cellReference 0 0 = "B5" := by decide +kernel
  unfold Schema.locate
  rw [column]
  exact congrArg (Location.mk "Items" "Item" "Id") cell

/-- The key of an item that two sheets hold is found repeated in the second. -/
theorem extract_stops_at_second_sword :
    (∀ schema ∈ [Item.sword.schema, Item.sword.schema], schema.IsDiscovered) ∧
    (∀ schema ∈ [Item.sword.schema, Item.sword.schema], schema.grid.IsBounded) ∧
    ((TableExtractor.extract [Item.sword.schema, Item.sword.schema]).run.run TableExtractor.fresh).1 =
      .error ⟨⟨"Items", "Item", "Id", "B5"⟩, .keyRepeated "a"⟩ ∧
    ∃ before visit after, visits [Item.sword.schema, Item.sword.schema] = before ++ visit :: after ∧
      (∀ earlier ∈ before, ∀ problem, ¬ earlier.Finds [Item.sword.schema, Item.sword.schema] problem) ∧
      visit.Finds [Item.sword.schema, Item.sword.schema] (.keyRepeated "a") ∧
      visit.IsAt ⟨"Items", "Item", "Id", "B5"⟩ := by
  have discovered : ∀ schema ∈ [Item.sword.schema, Item.sword.schema], schema.IsDiscovered := by
    simp [Item.sword_isProper.discovered]
  have bounded : ∀ schema ∈ [Item.sword.schema, Item.sword.schema], schema.grid.IsBounded :=
    List.forall_mem_cons.mpr ⟨isBounded_sword, List.forall_mem_singleton.mpr isBounded_sword⟩
  have held : Item.sword.schema.HasValue 0 (0 : Fin 2) :=
    Item.sword_isProper.isFilled 0 (by simp [Item.rowCount_schema]) (0 : Fin 2)
  have in_order : visits [Item.sword.schema, Item.sword.schema] = [.atKey [] Item.sword.schema (0 : Fin 2) 0] ++
      .atKey [Item.sword.schema] Item.sword.schema (0 : Fin 2) 0 ::
        ([Item.sword.schema, Item.sword.schema].flatMap Schema.referenceVisits ++
          [Item.sword.schema, Item.sword.schema].flatMap Schema.cellVisits) := by
    simp only [visits, keyVisits, keyVisits_sword, List.cons_append, List.nil_append]
  have stopped : ((TableExtractor.extract [Item.sword.schema, Item.sword.schema]).run.run TableExtractor.fresh).1 =
      .error ⟨⟨"Items", "Item", "Id", "B5"⟩, .keyRepeated "a"⟩ := by
    refine (reports_extract _ _).mpr ⟨_, _, _, in_order, ?_, ?_⟩
    · intro earlier first other
      rw [List.mem_singleton.mp first]
      rintro ⟨-, ⟨-, refused⟩ | ⟨-, ⟨_, before, -⟩ | ⟨_, member, -⟩, -⟩⟩
      · exact held.not_refuses _ refused
      · exact absurd before (Nat.not_lt_zero _)
      · cases member
    · refine ⟨locate_sword.symm, .inr ⟨held, .inr ⟨_, List.mem_singleton_self _, rfl, 0, ?_, rfl⟩, ?_⟩⟩
      · simp [Item.rowCount_schema]
      · rw [Item.text_zero]
        rfl
  exact ⟨discovered, bounded, stopped, extract_stops_at_first_offence discovered bounded stopped⟩

end Tables

end Tablesmith
