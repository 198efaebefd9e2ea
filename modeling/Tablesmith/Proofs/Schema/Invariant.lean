import Mathlib
import Tablesmith.Proofs.Schema.Layout

/-!
# What a schema may be indexed by

A schema that discovery gives names as many properties as it has columns, and the
keys that it lists are among them. Names are checked as they are written and are
shortened later, so that every fact on them is found again behind the mark. The rows
of data end with the last marker below the one that opens the sheet
(`rows_of_opening`).
-/

namespace Tablesmith

open Grid Text Discovery

namespace Header

variable {raw : String}

/-- The header marks the primary key, by itself or behind a name. -/
def MarksKey (raw : String) : Prop :=
  sameAscii raw keyMark = true ∨ ∃ name mark, IsWord name ∧ IsWord mark ∧ sameAscii mark keyMark = true ∧ raw = marked name mark

theorem role_eq_primaryKey_iff : (read raw).role = .primaryKey ↔ MarksKey raw := by
  constructor
  · intro is_key
    generalize read_as : read raw = header at is_key
    cases read_eq_iff.mp read_as with
    | key same => exact .inl same
    | markedKey name_word mark_word same => exact .inr ⟨_, _, name_word, mark_word, same, rfl⟩
    | reference => cases is_key
    | plain => cases is_key
  · rintro (same | ⟨name, mark, name_word, mark_word, same, rfl⟩)
    · rw [read_eq_iff.mpr (.key same)]
    · rw [read_eq_iff.mpr (.markedKey name_word mark_word same)]

theorem reference_ne_keyMark {table : String} (refers : (read raw).role = .reference table) :
    sameAscii table keyMark = false := by
  generalize read_as : read raw = header at refers
  cases read_eq_iff.mp read_as with
  | key => cases refers
  | markedKey => cases refers
  | reference _ _ no_key_mark =>
    cases refers
    exact no_key_mark
  | plain => cases refers

theorem name_ne_empty (filled : raw ≠ "") : (read raw).name ≠ "" := by
  generalize read_as : read raw = header
  cases read_eq_iff.mp read_as with
  | key => exact filled
  | markedKey name_word => exact name_word.1
  | reference name_word => exact name_word.1
  | plain => exact filled

end Header

namespace Discovery

variable {sheet : Sheet} {opening columnCount : Nat}

/-- A row of data has a marker in the column. -/
def IsMarkedRow (sheet : Sheet) (column row : Nat) : Prop :=
  isMarked (sheet.text (Schema.gridRow row) column) = true

/-- The leftmost marker of the first row is in the column. -/
def Opens (sheet : Sheet) (column : Nat) : Prop :=
  isMarked (sheet.text Schema.nameRow column) = true ∧
    ∀ before < column, isMarked (sheet.text Schema.nameRow before) = false

theorem cell?_of_isMarked {row column : Nat} (is_marked : isMarked (sheet.text row column) = true) :
    ∃ cell, sheet.cell? row column = some cell ∧ isMarked cell.text = true := by
  cases found : sheet.cell? row column with
  | none =>
    rw [Sheet.text, found] at is_marked
    exact absurd is_marked (by decide)
  | some cell =>
    rw [Sheet.text, found] at is_marked
    exact ⟨cell, rfl, is_marked⟩

theorem mem_markedColumns_iff_text {column : Nat} :
    column ∈ markedColumns sheet ↔ isMarked (sheet.text Schema.nameRow column) = true := by
  rw [TableDescription.mem_markedColumns_iff]
  constructor
  · rintro ⟨cell, found, is_marked⟩
    rw [Sheet.text, Schema.nameRow, found]
    exact is_marked
  · exact cell?_of_isMarked

theorem opens_of_head? (head : (markedColumns sheet).head? = some opening) : Opens sheet opening := by
  have ascending := TableDescription.ascending_markedColumns sheet
  refine ⟨mem_markedColumns_iff_text.mp (List.mem_of_head? head), ?_⟩
  intro before left
  rw [Bool.eq_false_iff]
  intro is_marked
  have member := mem_markedColumns_iff_text.mpr is_marked
  obtain ⟨rest, columns_are⟩ := List.head?_eq_some_iff.mp head
  rw [columns_are] at ascending member
  rcases List.mem_cons.mp member with rfl | later
  · omega
  · have above := (List.pairwise_cons.mp ascending).1 before later
    omega

/-- The marker that opens a sheet is a cell of its own, so that the search among as many rows as there
are cells comes to an end before them. -/
theorem exists_unmarked_row (opens : Opens sheet opening) : ∃ row < sheet.cells.size, ¬ IsMarkedRow sheet opening row := by
  by_contra all_marked
  push Not at all_marked
  have positions_distinct : ((0, opening) :: (List.range sheet.cells.size).map fun row => (row + 4, opening)).Nodup := by
    apply List.nodup_cons.mpr
    refine ⟨by simp, ?_⟩
    apply List.Nodup.map _ List.nodup_range
    intro row other same
    simpa using same
  have inside : ((0, opening) :: (List.range sheet.cells.size).map fun row => (row + 4, opening)) ⊆
      sheet.cells.toList.map Cell.position := by
    have position_of_marked {row : Nat} (is_marked : isMarked (sheet.text row opening) = true) :
        (row, opening) ∈ sheet.cells.toList.map Cell.position := by
      obtain ⟨cell, found, -⟩ := cell?_of_isMarked is_marked
      obtain ⟨member, at_position⟩ := OrderedBy.find?_eq_some_iff.mp found
      exact List.mem_map.mpr ⟨cell, member, at_position⟩
    intro position member
    rcases List.mem_cons.mp member with rfl | below
    · exact position_of_marked opens.1
    · obtain ⟨row, in_range, rfl⟩ := List.mem_map.mp below
      have is_marked := all_marked row (List.mem_range.mp in_range)
      rw [IsMarkedRow, Schema.gridRow, Schema.dataRow, Nat.add_comm] at is_marked
      exact position_of_marked is_marked
  have fewer := (positions_distinct.subperm inside).length_le
  simp [OrderedBy.toList, OrderedBy.size] at fewer

/-- The rows of data have a marker each up to the one that the search stops at. -/
theorem markedRows_spec (opens : Opens sheet opening) :
    (∀ row < markedRows sheet opening, IsMarkedRow sheet opening row) ∧
      ¬ IsMarkedRow sheet opening (markedRows sheet opening) := by
  classical
  obtain ⟨row, before, unmarked⟩ := exists_unmarked_row opens
  have some_unmarked : ∃ row, ¬ IsMarkedRow sheet opening row := ⟨row, unmarked⟩
  have marked_before (row : Nat) (earlier : row < Nat.find some_unmarked) : IsMarkedRow sheet opening row :=
    not_not.mp (Nat.find_min some_unmarked earlier)
  have stops := Nat.find_spec some_unmarked
  have found_at : markedRows sheet opening = Nat.find some_unmarked := by
    refine TableDescription.length_takeWhile_range ?_ marked_before (by simpa [IsMarkedRow] using stops)
    exact Nat.le_trans (Nat.find_min' some_unmarked unmarked) before.le
  rw [found_at]
  exact ⟨marked_before, stops⟩

/-- The rows of data of a sheet: all of them and one more have a marker if one of them has, and the next has none. -/
structure HasRows (sheet : Sheet) (opening rowCount : Nat) : Prop where
  marked : (∃ row ≤ rowCount, IsMarkedRow sheet opening row) → ∀ row ≤ rowCount, IsMarkedRow sheet opening row
  closed : (∃ row ≤ rowCount, IsMarkedRow sheet opening row) → ¬ IsMarkedRow sheet opening (rowCount + 1)
  empty : (∀ row other, IsMarkedRow sheet opening row → IsMarkedRow sheet opening other → row = other) → rowCount = 0
  unopened : ¬ IsMarkedRow sheet opening 0 → rowCount = 0

theorem rows_of_opening (opens : Opens sheet opening) (closing : Nat) :
    HasRows sheet opening (Discovery.rowCount sheet ⟨opening, closing⟩) := by
  obtain ⟨marked, stops⟩ := markedRows_spec opens
  rw [Discovery.rowCount]
  generalize markedRows sheet opening = count at marked stops
  -- Without a marker in the first row of data nothing is counted, and with one the last is not.
  cases count with
  | zero =>
    have none_marked : ¬ ∃ row ≤ 0 - 1, IsMarkedRow sheet opening row := by
      rintro ⟨row, at_most, is_marked⟩
      obtain rfl : row = 0 := by omega
      exact stops is_marked
    exact ⟨fun some_marked => absurd some_marked none_marked, fun some_marked => absurd some_marked none_marked,
      fun _ => rfl, fun _ => rfl⟩
  | succ count =>
    refine ⟨fun _ row at_most => marked row (by omega), fun _ => stops, ?_, ?_⟩
    · intro at_most_one
      have same := at_most_one 0 count (marked 0 (by omega)) (marked count (by omega))
      omega
    · intro unopened
      exact absurd (marked 0 (by omega)) unopened

theorem primaryKey?_eq_some_iff {key : Fin columnCount} : primaryKey? sheet columnCount = some key ↔
    Header.MarksKey (rawName sheet key) ∧ ∀ earlier < key, ¬ Header.MarksKey (rawName sheet earlier) := by
  rw [primaryKey?, List.find?_eq_some_iff_getElem]
  simp only [decide_eq_true_eq, Header.role_eq_primaryKey_iff, List.getElem_finRange, Bool.not_eq_true', decide_eq_false_iff_not]
  refine and_congr_right fun _ => ?_
  constructor
  · rintro ⟨place, inside, here, unmarked⟩ earlier before
    obtain rfl : place = key.val := congrArg Fin.val here
    exact unmarked earlier.val before
  · intro unmarked
    exact ⟨key.val, by simp, rfl, fun earlier before => unmarked ⟨earlier, before.trans key.isLt⟩ before⟩

private theorem referring_column {role : ColumnRole} {property : Fin columnCount} {key : ForeignKey columnCount} :
    (match role with | .reference table => some (ForeignKey.mk property table) | _ => none) = some key →
      role = .reference key.table ∧ key.column = property := by
  cases role with
  | reference table =>
    rintro ⟨⟩
    exact ⟨rfl, rfl⟩
  | value | primaryKey => rintro ⟨⟩

theorem role_of_mem_foreignKeys {key : ForeignKey columnCount} (member : key ∈ foreignKeys sheet columnCount) :
    (Header.read (rawName sheet key.column)).role = .reference key.table := by
  obtain ⟨property, -, taken⟩ := List.mem_filterMap.mp member
  obtain ⟨role, rfl⟩ := referring_column taken
  exact role

theorem ascending_foreignKeys (sheet : Sheet) (columnCount : Nat) :
    ((foreignKeys sheet columnCount).map fun key => key.column.val).Pairwise (· < ·) := by
  rw [List.pairwise_map, foreignKeys, List.pairwise_filterMap]
  refine (List.pairwise_lt_finRange columnCount).imp ?_
  intro left right before first taken second also_taken
  rw [(referring_column taken).2, (referring_column also_taken).2]
  exact before

/-- A column is not a key of its own table and of another. -/
theorem primaryKey?_ne_of_mem_foreignKeys {key : ForeignKey columnCount} (member : key ∈ foreignKeys sheet columnCount) :
    primaryKey? sheet columnCount ≠ some key.column := by
  intro is_key
  have role := Header.role_eq_primaryKey_iff.mpr (primaryKey?_eq_some_iff.mp is_key).1
  rw [role_of_mem_foreignKeys member] at role
  cases role

theorem nodup_propertyNames {name : String} {place : Location}
    (faultless : ∀ property < columnCount, keyFault? sheet name place property = none) :
    ((List.finRange columnCount).map fun property => propertyName sheet property.val).Nodup := by
  refine List.Nodup.map ?_ (List.nodup_finRange columnCount)
  intro left right same
  exact Fin.ext (propertyName_injective faultless left.isLt right.isLt same)

theorem toList_properties_schemaOf (table : String) (name : String) (range : Range)
    (types : Vector PropertyType range.columnCount) : (schemaOf table sheet name range types).properties.toList =
      (List.finRange range.columnCount).map fun property =>
        ⟨propertyName sheet property.val, types.get property, description sheet property.val⟩ := by
  rw [schemaOf, Vector.toList_ofFn, List.ofFn_eq_map]

theorem opens_of_range {place : Location} {range : Range} (ranged : Discovery.range sheet place = .ok range) :
    Opens sheet range.opening := by
  rw [Discovery.range] at ranged
  split at ranged
  · next opening closing head last =>
    by_cases single : closing ≤ opening
    · rw [if_pos single] at ranged
      cases ranged
    · rw [if_neg single] at ranged
      cases ranged
      exact opens_of_head? head
  · cases ranged

end Discovery

namespace Schema

variable {table : String} {sheet : Sheet} {aliases : TypeAliases} {schema : Schema}

/-- The facts on the schema of a sheet that everything after discovery relies on. -/
structure IsIndexed (schema : Schema) (sheet : Sheet) : Prop where
  names_length : (schema.properties.toList.map Property.name).length = schema.columnCount
  types_length : (schema.properties.toList.map Property.type).length = schema.columnCount
  descriptions_length : (schema.properties.toList.map Property.description).length = schema.columnCount
  names_filled : ∀ property ∈ schema.properties.toList, property.name ≠ ""
  names_unspaced : ∀ property ∈ schema.properties.toList, ∀ c ∈ property.name.toList, isBlank c = false
  names_unlike : ∀ property ∈ schema.properties.toList, property.name ≠ schema.name
  names_distinct : (schema.properties.toList.map Property.name).Nodup
  primaryKey : ∀ key, schema.primaryKey = some key ↔
    Header.MarksKey (rawName sheet key) ∧ ∀ earlier < key, ¬ Header.MarksKey (rawName sheet earlier)
  foreignKeys_ascending : (schema.foreignKeys.map fun key => key.column.val).Pairwise (· < ·)
  foreignKeys_inside : ∀ key ∈ schema.foreignKeys, key.column.val < schema.columnCount
  foreignKeys_apart : ∀ key ∈ schema.foreignKeys, schema.primaryKey ≠ some key.column
  foreignKeys_unmarked : ∀ key ∈ schema.foreignKeys, sameAscii key.table Header.keyMark = false
  rows : ∃ opening, Opens sheet opening ∧ HasRows sheet opening schema.rowCount

/-- Discovery establishes what the schema is indexed by. -/
theorem isIndexed_of_discover (discovered : Schema.discover table sheet aliases = .ok schema) : schema.IsIndexed sheet := by
  obtain ⟨name, range, types, -, ranged, headed, -, keyed, rfl⟩ := discover_ok_iff.mp discovered
  have of_columns {fact : Property → Prop} (holds : ∀ property : Fin range.columnCount,
      fact ⟨propertyName sheet property.val, types.get property, description sheet property.val⟩) :
      ∀ property ∈ (schemaOf table sheet name range types).properties.toList, fact property := by
    intro property member
    rw [toList_properties_schemaOf] at member
    obtain ⟨column, -, rfl⟩ := List.mem_map.mp member
    exact holds column
  have header (property : Fin range.columnCount) := headerFault?_eq_none_iff.mp (headed property property.isLt)
  exact {
    names_length := by simp
    types_length := by simp
    descriptions_length := by simp
    names_filled := of_columns fun property => by
      apply Header.name_ne_empty
      intro empty
      have filled := (header property).1
      rw [empty] at filled
      exact absurd filled (by decide)
    names_unspaced := of_columns fun property c inside =>
      (header property).2.1 c ((Header.name_sublist _).subset inside)
    names_unlike := of_columns fun property => (keyFault?_eq_none_iff.mp (keyed property property.isLt)).1
    names_distinct := by
      rw [toList_properties_schemaOf, List.map_map]
      exact nodup_propertyNames keyed
    primaryKey := fun key => primaryKey?_eq_some_iff
    foreignKeys_ascending := ascending_foreignKeys sheet range.columnCount
    foreignKeys_inside := fun key _ => key.column.isLt
    foreignKeys_apart := fun key member => primaryKey?_ne_of_mem_foreignKeys member
    foreignKeys_unmarked := fun key member => Header.reference_ne_keyMark (role_of_mem_foreignKeys member)
    rows := ⟨range.opening, opens_of_range ranged, rows_of_opening (opens_of_range ranged) range.closing⟩ }

theorem isIndexed_sword : Schema.discover "Items" Item.sword.sheet .builtin = .ok Item.sword.schema ∧
    Item.sword.schema.IsIndexed Item.sword.sheet :=
  ⟨Item.sword_isProper.discover, isIndexed_of_discover Item.sword_isProper.discover⟩

end Schema

end Tablesmith
