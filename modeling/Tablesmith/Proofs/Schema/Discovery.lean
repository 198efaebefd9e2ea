import Mathlib
import Tablesmith.Proofs.Extract.Rows
import Tablesmith.Proofs.Grid.Resolution
import Tablesmith.Schema.Discovery

/-!
# Discovered sheets

The checks of discovery hold of every sheet that it lets through, and nothing
else stops it (`discover_ok_iff`). Of the names of the properties two facts are
needed by everything that reads a sheet later: they are distinct
(`IsDiscovered.name_injective`), and no white space is in them
(`IsDiscovered.not_blank`).
-/

namespace Tablesmith

open Outcome
open Tablesmith.Grid
open Tablesmith.Text

theorem firstFault_ok_iff {check : Nat → Option Fault} {start count : Nat} :
    firstFault check start count = .ok () ↔
      ∀ property, start ≤ property → property < start + count → check property = none := by
  induction count generalizing start with
  | zero =>
    simp only [firstFault, Nat.add_zero, true_iff]
    intro property from_start before
    exact absurd before (Nat.not_lt.mpr from_start)
  | succ count ih =>
    rw [firstFault]
    cases checked : check start with
    | some fault =>
      simp only [reduceCtorEq, false_iff, not_forall]
      exact ⟨start, Nat.le_refl start, by omega, by simp [checked]⟩
    | none =>
      simp only [ih]
      constructor
      · intro rest property from_start before
        rcases Nat.eq_or_lt_of_le from_start with rfl | later
        · exact checked
        · exact rest property later (by omega)
      · intro all property later before
        exact all property (by omega) (by omega)

theorem tabulate?_ok_iff {ε α : Type} {n : Nat} {f : Fin n → Except ε α} {values : Vector α n} :
    tabulate? n f = .ok values ↔ ∀ i, f i = .ok (values.get i) := by
  induction n with
  | zero =>
    have only : values = #v[] := Vector.eq_empty
    simp [tabulate?, only]
  | succ n ih =>
    obtain ⟨earlier, last, rfl⟩ : ∃ earlier last, values = Vector.push earlier last := Vector.exists_push
    rw [Fin.forall_fin_succ', tabulate?, bind_ok_iff]
    simp only [Vector.get_push_castSucc, Vector.get_push_last]
    constructor
    · rintro ⟨_, earlier_is, rest⟩
      obtain ⟨_, last_is, pushed⟩ := bind_ok_iff.mp rest
      obtain ⟨rfl, rfl⟩ := Vector.push_eq_push.mp (Except.ok.inj pushed)
      exact ⟨ih.mp earlier_is, last_is⟩
    · rintro ⟨earlier_are, last_is⟩
      exact ⟨earlier, ih.mpr earlier_are, bind_ok_iff.mpr ⟨last, last_is, rfl⟩⟩

namespace Header

theorem name_sublist (raw : String) : (read raw).name.toList.Sublist raw.toList := by
  unfold read
  split
  · exact List.Sublist.refl _
  · split
    · next name target marked =>
      have part : name.toList = raw.toList.takeWhile isWordChar := by
        simp only [splitMark?] at marked
        split at marked
        · split at marked
          · cases marked
            rw [String.toList_ofList]
          · cases marked
        · cases marked
      have inside : name.toList.Sublist raw.toList := part ▸ List.takeWhile_sublist _
      split
      · exact inside
      · exact inside
    · exact List.Sublist.refl _

end Header

namespace Discovery

variable {sheet : Sheet} {name : String} {place : Location} {property : Nat}

/-- The schema of a sheet with the given name, range and types. -/
def schemaOf (table : String) (sheet : Sheet) (name : String) (range : Range)
    (types : Vector PropertyType range.columnCount) : Schema where
  table := table
  name := name
  rowCount := rowCount sheet range
  columnCount := range.columnCount
  properties := Vector.ofFn fun i => ⟨propertyName sheet i, types.get i, description sheet i⟩
  primaryKey := primaryKey? sheet range.columnCount
  foreignKeys := foreignKeys sheet range.columnCount
  grid := sheet

theorem propertyAt_schemaOf (table : String) (sheet : Sheet) (name : String) (range : Range)
    (types : Vector PropertyType range.columnCount) (property : Fin (schemaOf table sheet name range types).columnCount) :
    (schemaOf table sheet name range types).propertyAt property =
      ⟨propertyName sheet property, types.get property, description sheet property⟩ := by
  rw [Schema.propertyAt, Vector.get_eq_getElem]
  exact Vector.getElem_ofFn property.isLt

theorem headerFault?_eq_none_iff : headerFault? sheet name place property = none ↔
    isAllBlank (rawName sheet property) = false ∧ (∀ c ∈ (rawName sheet property).toList, isBlank c = false) ∧
      rawName sheet property ≠ name := by
  rw [headerFault?, Option.map_eq_none_iff, headerProblem?]
  by_cases empty : isAllBlank (rawName sheet property) = true
  · simp [empty]
  · by_cases spaced : (rawName sheet property).toList.any isBlank = true
    · rw [if_neg empty, if_pos spaced]
      simp only [List.any_eq_true] at spaced
      obtain ⟨c, inside, blank⟩ := spaced
      simp only [reduceCtorEq, false_iff]
      rintro ⟨_, clear, _⟩
      simp [clear c inside] at blank
    · rw [if_neg empty, if_neg spaced]
      have clear : ∀ c ∈ (rawName sheet property).toList, isBlank c = false := by simpa using spaced
      simpa [empty] using fun _ => clear

theorem keyFault?_eq_none_iff : keyFault? sheet name place property = none ↔
    propertyName sheet property ≠ name ∧
      ∀ earlier < property, propertyName sheet earlier ≠ propertyName sheet property := by
  rw [keyFault?, Option.map_eq_none_iff, nameProblem?]
  by_cases as_sheet : propertyName sheet property = name
  · simp [as_sheet]
  · simp [as_sheet]

/-- Of two properties the later may not have the name of the earlier. -/
theorem propertyName_injective {count : Nat} (faultless : ∀ property < count, keyFault? sheet name place property = none)
    {left right : Nat} (left_in : left < count) (right_in : right < count)
    (same : propertyName sheet left = propertyName sheet right) : left = right := by
  rcases Nat.lt_trichotomy left right with before | equal | after
  · exact absurd same ((keyFault?_eq_none_iff.mp (faultless right right_in)).2 left before)
  · exact equal
  · exact absurd same.symm ((keyFault?_eq_none_iff.mp (faultless left left_in)).2 right after)

end Discovery

namespace Schema

open Discovery

variable {table : String} {sheet : Sheet} {aliases : TypeAliases} {schema : Schema}

/-- Discovery succeeds exactly where every check passes, and gives what the sheet says. -/
theorem discover_ok_iff : Schema.discover table sheet aliases = .ok schema ↔
    ∃ name range types, sheetName sheet (Location.ofSheet table sheet.name) = .ok name ∧
      Discovery.range sheet (Location.ofSheet table sheet.name) = .ok range ∧
      (∀ property < range.columnCount, headerFault? sheet name (Location.ofSheet table sheet.name) property = none) ∧
      (∀ property, propertyType sheet aliases (Location.ofSheet table sheet.name) property.val =
        .ok (types.get property)) ∧
      (∀ property < range.columnCount, keyFault? sheet name (Location.ofSheet table sheet.name) property = none) ∧
      schema = schemaOf table sheet name range types := by
  have from_start {check : Nat → Option Fault} {count : Nat} :
      firstFault check 0 count = .ok () ↔ ∀ property < count, check property = none := by
    simp [firstFault_ok_iff]
  simp only [discover]
  constructor
  · intro done
    obtain ⟨name, named, done⟩ := bind_ok_iff.mp done
    obtain ⟨range, ranged, done⟩ := bind_ok_iff.mp done
    obtain ⟨_, headed, done⟩ := bind_ok_iff.mp done
    obtain ⟨types, typed, done⟩ := bind_ok_iff.mp done
    obtain ⟨_, keyed, done⟩ := bind_ok_iff.mp done
    exact ⟨name, range, types, named, ranged, from_start.mp headed, tabulate?_ok_iff.mp typed, from_start.mp keyed,
      (Except.ok.inj done).symm⟩
  · rintro ⟨name, range, types, named, ranged, headed, typed, keyed, rfl⟩
    refine bind_ok_iff.mpr ⟨name, named, bind_ok_iff.mpr ⟨range, ranged, ?_⟩⟩
    refine bind_ok_iff.mpr ⟨(), from_start.mpr headed, bind_ok_iff.mpr ⟨types, tabulate?_ok_iff.mpr typed, ?_⟩⟩
    exact bind_ok_iff.mpr ⟨(), from_start.mpr keyed, rfl⟩

/-- The schema of some sheet. -/
def IsDiscovered (schema : Schema) : Prop :=
  ∃ table sheet aliases, Schema.discover table sheet aliases = .ok schema

namespace IsDiscovered

theorem name_injective (discovered : schema.IsDiscovered) {left right : Fin schema.columnCount}
    (same : (schema.propertyAt left).name = (schema.propertyAt right).name) : left = right := by
  obtain ⟨table, sheet, aliases, done⟩ := discovered
  obtain ⟨name, range, types, _, _, _, _, keyed, rfl⟩ := discover_ok_iff.mp done
  rw [propertyAt_schemaOf, propertyAt_schemaOf] at same
  exact Fin.ext (propertyName_injective keyed left.isLt right.isLt same)

theorem not_blank (discovered : schema.IsDiscovered) (property : Fin schema.columnCount) :
    ∀ c ∈ (schema.propertyAt property).name.toList, isBlank c = false := by
  obtain ⟨table, sheet, aliases, done⟩ := discovered
  obtain ⟨name, range, types, _, _, headed, _, _, rfl⟩ := discover_ok_iff.mp done
  rw [propertyAt_schemaOf]
  intro c inside
  have clear := (headerFault?_eq_none_iff.mp (headed property property.isLt)).2.1
  exact clear c ((Header.name_sublist (rawName sheet property)).subset inside)

/-- No two values of a row have one name. -/
theorem nodup_names (discovered : schema.IsDiscovered) (row : Nat) :
    ((schema.entries row).map Prod.fst).Nodup := by
  rw [entries, List.map_map]
  refine List.Nodup.map ?_ ((List.nodup_finRange _).filter _)
  intro left right same
  exact discovered.name_injective same

/-- The record of a row holds its values in the order of their columns. -/
theorem toList_recordOf (discovered : schema.IsDiscovered) (row : Nat) :
    (schema.recordOf row).toList = schema.entries row := by
  have distinct := discovered.nodup_names row
  rw [recordOf, OrderedBy.toList_foldl_insert _ _ (by simpa using distinct), OrderedBy.toList_empty, List.nil_append]

end IsDiscovered

end Schema

namespace Grid.Sheet

variable {file name : String} {texts : List (Nat × Nat × String)}

/-- A cell that was entered as text. -/
def textCell (entry : Nat × Nat × String) : Cell :=
  ⟨entry.1, entry.2.1, .inlineText, entry.2.2⟩

/-- A sheet of texts, each with its row and its column. -/
def ofTexts (file name : String) (texts : List (Nat × Nat × String)) : Sheet :=
  (texts.map textCell).foldl push (.empty file name)

theorem ofTexts_eq (file name : String) (texts : List (Nat × Nat × String)) :
    ofTexts file name texts = ⟨file, name, (texts.map textCell).foldl OrderedBy.insert OrderedBy.empty⟩ :=
  foldl_push _ _

theorem cell?_ofTexts {row column : Nat} : (ofTexts file name texts).cell? row column =
    (texts.reverse.find? fun entry => (entry.1, entry.2.1) == (row, column)).map textCell := by
  rw [cell?, ofTexts_eq, OrderedBy.find?_foldl_insert, OrderedBy.find?_empty, Option.or_none, ← List.map_reverse,
    List.find?_map]
  rfl

theorem text_ofTexts {row column : Nat} : (ofTexts file name texts).text row column =
    ((texts.reverse.find? fun entry => (entry.1, entry.2.1) == (row, column)).map (·.2.2)).getD "" := by
  rw [Sheet.text, cell?_ofTexts, Option.map_map]
  rfl

theorem isText_ofTexts {row column : Nat} : (ofTexts file name texts).isText row column =
    (texts.reverse.find? fun entry => (entry.1, entry.2.1) == (row, column)).isSome := by
  rw [isText, cell?_ofTexts]
  cases texts.reverse.find? fun entry => (entry.1, entry.2.1) == (row, column) <;> rfl

theorem toList_cells_ofTexts (distinct : (texts.map fun entry => (entry.1, entry.2.1)).Nodup) :
    (ofTexts file name texts).cells.toList = texts.map textCell := by
  rw [ofTexts_eq, OrderedBy.toList_foldl_insert, OrderedBy.toList_empty, List.nil_append]
  rw [OrderedBy.toList_empty, List.nil_append, List.map_map]
  exact distinct

/-- Texts of their own are not looked up among shared ones. -/
theorem resolveShared_ofTexts (shared : Array String) (distinct : (texts.map fun entry => (entry.1, entry.2.1)).Nodup) :
    (ofTexts file name texts).resolveShared shared = .ok (ofTexts file name texts) := by
  have resolved (entries : List (Nat × Nat × String)) (sheet : Sheet) :
      (entries.map textCell).foldlM (fun resolved cell => (resolveCell shared cell).map resolved.push) sheet =
        .ok ((entries.map textCell).foldl Sheet.push sheet) := by
    induction entries generalizing sheet with
    | nil => rfl
    | cons entry entries ih => exact ih (sheet.push (textCell entry))
  have named : Sheet.empty (ofTexts file name texts).file (ofTexts file name texts).name = .empty file name := by
    rw [ofTexts_eq]
  rw [resolveShared, toList_cells_ofTexts distinct, resolved, named, ofTexts]

end Grid.Sheet

open Discovery

theorem builtin_entries : TypeAliases.builtin.entries =
    [("bool", .bool), ("datetime", .dateTime), ("double", .double), ("float", .float), ("int", .int), ("long", .long),
      ("string", .string), ("timespan", .timeSpan)] := by
  decide +kernel

theorem resolve_builtin (type : PropertyType) : TypeAliases.builtin.resolve type.name = some type := by
  rw [TypeAliases.resolve, builtin_entries]
  cases type <;> decide +kernel

/-- An item has a key and one more value, which stands in a column of its own. -/
structure Item where
  column : String
  type : PropertyType
  key : String
  value : String

namespace Item

/-- The texts of the sheet of an item. -/
def texts (item : Item) : List (Nat × Nat × String) :=
  [(0, 0, "@"), (0, 1, "Item"), (0, 3, "@"), (2, 1, "Id[pkey]"), (2, 2, item.column), (3, 1, "string"),
    (3, 2, item.type.name), (4, 0, "@"), (4, 1, item.key), (4, 2, item.value), (5, 0, "@")]

/-- The sheet of an item. -/
def sheet (item : Item) : Sheet :=
  Sheet.ofTexts "tables/Items.xlsx" "Item" item.texts

/-- The schema of the sheet of an item. -/
def schema (item : Item) : Schema :=
  schemaOf "Items" item.sheet "Item" ⟨0, 3⟩ #v[.string, item.type]

/-- Nothing is wrong with the column of an item, and its key and its value are values. -/
structure IsProper (item : Item) : Prop where
  plain : Header.read item.column = ⟨item.column, .value⟩
  faultless : headerProblem? item.column "Item" = none
  unlike : item.column ≠ "Item" ∧ item.column ≠ "Id"
  keyed : item.key ≠ ""
  valued : item.value ≠ ""
  accepted : item.type.accepts item.value = true

variable {item : Item} {place : Location}

theorem toList_cells (item : Item) : item.sheet.cells.toList = item.texts.map Sheet.textCell :=
  Sheet.toList_cells_ofTexts (by simp [texts])

theorem range_sheet : Discovery.range item.sheet place = .ok ⟨0, 3⟩ := by
  have first : (item.texts.map Sheet.textCell).filter (·.row = Schema.nameRow) =
      [⟨0, 0, .inlineText, "@"⟩, ⟨0, 1, .inlineText, "Item"⟩, ⟨0, 3, .inlineText, "@"⟩] := rfl
  have first_row : item.sheet.row Schema.nameRow =
      [⟨0, 0, .inlineText, "@"⟩, ⟨0, 1, .inlineText, "Item"⟩, ⟨0, 3, .inlineText, "@"⟩] := by
    rw [Sheet.row, toList_cells, first]
    exact List.mergeSort_of_pairwise (by simp)
  rw [Discovery.range, markedColumns, first_row]
  rfl

theorem sheetName_sheet : sheetName item.sheet place = .ok "Item" := by
  have text : item.sheet.text Schema.nameRow Schema.nameColumn = "Item" := by
    rw [sheet, Sheet.text_ofTexts]
    rfl
  have is_text : item.sheet.isText Schema.nameRow Schema.nameColumn = true := by
    rw [sheet, Sheet.isText_ofTexts]
    rfl
  have not_blank : isAllBlank "Item" = false := by decide +kernel
  simp [sheetName, text, is_text, not_blank]

theorem rowCount_sheet : Discovery.rowCount item.sheet ⟨0, 3⟩ = 1 := by
  have size_is : item.sheet.cells.items.size = 11 := by
    simpa [OrderedBy.toList, texts] using congrArg List.length (toList_cells item)
  rw [rowCount, markedRows, OrderedBy.size, size_is]
  simp [sheet, Sheet.text_ofTexts, texts, isMarked, Schema.gridRow, Schema.dataRow, Schema.marker, List.range_succ]

theorem rawName_zero : rawName item.sheet 0 = "Id[pkey]" := by
  rw [rawName, sheet, Sheet.text_ofTexts]
  rfl

theorem rawName_one : rawName item.sheet 1 = item.column := by
  rw [rawName, sheet, Sheet.text_ofTexts]
  rfl

theorem read_keyHeader : Header.read "Id[pkey]" = ⟨"Id", .primaryKey⟩ := by decide +kernel

theorem type_zero : propertyType item.sheet .builtin place 0 = .ok .string := by
  have text : item.sheet.text Schema.typeRow (Schema.gridColumn 0) = "string" := by
    rw [sheet, Sheet.text_ofTexts]
    rfl
  have is_text : item.sheet.isText Schema.typeRow (Schema.gridColumn 0) = true := by
    rw [sheet, Sheet.isText_ofTexts]
    rfl
  simp [propertyType, text, is_text, resolve_builtin .string, ← PropertyType.name.eq_1]

theorem type_one : propertyType item.sheet .builtin place 1 = .ok item.type := by
  have text : item.sheet.text Schema.typeRow (Schema.gridColumn 1) = item.type.name := by
    rw [sheet, Sheet.text_ofTexts]
    rfl
  have is_text : item.sheet.isText Schema.typeRow (Schema.gridColumn 1) = true := by
    rw [sheet, Sheet.isText_ofTexts]
    rfl
  simp [propertyType, text, is_text, resolve_builtin]

/-- Discovery lets the sheet of a proper item through. -/
theorem IsProper.discover (proper : item.IsProper) : Schema.discover "Items" item.sheet .builtin = .ok item.schema := by
  refine Schema.discover_ok_iff.mpr
    ⟨"Item", ⟨0, 3⟩, #v[.string, item.type], sheetName_sheet, range_sheet, ?_, ?_, ?_, rfl⟩
  · intro property inside
    rcases property with _ | _ | property
    · rw [headerFault?, rawName_zero]
      rfl
    · rw [headerFault?, rawName_one, proper.faultless]
      rfl
    · exact absurd inside (by simp [Range.columnCount])
  · intro property
    rcases property with ⟨_ | _ | property, inside⟩
    · exact type_zero
    · exact type_one
    · exact absurd inside (by simp [Range.columnCount])
  · intro property inside
    rw [keyFault?_eq_none_iff]
    rcases property with _ | _ | property
    · simp [propertyName, rawName_zero, read_keyHeader]
    · simp [propertyName, rawName_zero, rawName_one, read_keyHeader, proper.plain, proper.unlike.1,
        Ne.symm proper.unlike.2]
    · exact absurd inside (by simp [Range.columnCount])

theorem IsProper.discovered (proper : item.IsProper) : item.schema.IsDiscovered :=
  ⟨"Items", item.sheet, .builtin, proper.discover⟩

variable (item)

theorem rowCount_schema : item.schema.rowCount = 1 := rowCount_sheet

theorem primaryKey_schema : item.schema.primaryKey = some (0 : Fin 2) := by
  have columns : List.finRange 2 = [0, 1] := rfl
  simp [schema, schemaOf, primaryKey?, Range.columnCount, columns, rawName_zero, read_keyHeader]

theorem valueProperties_schema : item.schema.valueProperties = [(1 : Fin 2)] := by
  have columns : List.finRange 2 = [0, 1] := rfl
  rw [Schema.valueProperties, primaryKey_schema]
  exact columns ▸ rfl

theorem text_zero : item.schema.text 0 (0 : Fin 2) = item.key := by
  have text : item.sheet.text (Schema.gridRow 0) (Schema.gridColumn 0) = item.key := by
    rw [sheet, Sheet.text_ofTexts]
    rfl
  exact text

theorem text_one : item.schema.text 0 (1 : Fin 2) = item.value := by
  have text : item.sheet.text (Schema.gridRow 0) (Schema.gridColumn 1) = item.value := by
    rw [sheet, Sheet.text_ofTexts]
    rfl
  exact text

theorem propertyAt_schema (property : Fin 2) : item.schema.propertyAt property =
    ⟨propertyName item.sheet property, #v[.string, item.type].get property, description item.sheet property⟩ :=
  propertyAt_schemaOf "Items" item.sheet "Item" ⟨0, 3⟩ #v[.string, item.type] property

theorem keyText_schema : item.schema.keyText 0 = item.key := by
  rw [Schema.keyText, primaryKey_schema]
  exact text_zero item

variable {item}

theorem IsProper.foreignKeys (proper : item.IsProper) : item.schema.foreignKeys = [] := by
  have columns : List.finRange 2 = [0, 1] := rfl
  simp [schema, schemaOf, Discovery.foreignKeys, Range.columnCount, columns, rawName_zero, rawName_one,
    read_keyHeader, proper.plain]

theorem IsProper.name_one (proper : item.IsProper) :
    (item.schema.propertyAt (1 : Fin 2)).name = item.column := by
  rw [propertyAt_schema]
  simp only [propertyName, Fin.val_one, rawName_one, proper.plain]

theorem IsProper.entries (proper : item.IsProper) : item.schema.entries 0 = [(item.column, item.value)] := by
  have single : item.schema.entries 0 =
      [((item.schema.propertyAt (1 : Fin 2)).name, item.schema.text 0 (1 : Fin 2))] := by
    rw [Schema.entries, valueProperties_schema]
    rfl
  rw [single, proper.name_one, text_one]

theorem IsProper.isFilled (proper : item.IsProper) : item.schema.IsFilled := by
  have held_zero : item.schema.HasValue 0 (0 : Fin 2) := by
    refine ⟨ne_of_eq_of_ne (text_zero item) proper.keyed, ?_⟩
    rw [propertyAt_schema]
    rfl
  have held_one : item.schema.HasValue 0 (1 : Fin 2) := by
    refine ⟨ne_of_eq_of_ne (text_one item) proper.valued, ?_⟩
    rw [propertyAt_schema, text_one]
    exact proper.accepted
  intro row before
  obtain rfl : row = 0 := by
    rw [rowCount_schema] at before
    omega
  exact Fin.forall_fin_two.mpr ⟨held_zero, held_one⟩

/-- An item whose column holds its name. -/
def sword : Item := ⟨"Name", .string, "a", "Sword"⟩

theorem sword_isProper : sword.IsProper where
  plain := by decide +kernel
  faultless := by decide +kernel
  unlike := by decide
  keyed := by decide
  valued := by decide
  accepted := rfl

end Item

end Tablesmith
