import Mathlib
import Tablesmith.Proofs.Schema.Range

/-!
# The marked block

The first row and the markers of a sheet decide which of its positions are in the block
that discovery reads (`InBlock`). Two sheets with one tab name that are the same there are
discovered alike: with the same fault, or with schemas that differ in their sheet alone
(`Schema.discover_of_sameBlock`). A note to the right of the block or below it leaves the
block as it is (`sameBlock_push`).
-/

namespace Tablesmith

open Grid Discovery

/-- Both sheets show the same text at the position, and a text cell in both or in none. -/
def SameAt (left right : Sheet) (row column : Nat) : Prop :=
  left.text row column = right.text row column ∧ left.isText row column = right.isText row column

/-- The positions that are read: the first row, the opening column from the first row of data on, the header of
every column of the range, and the rows of data that the markers enclose. -/
inductive InBlock (sheet : Sheet) : Nat → Nat → Prop
  | name (column : Nat) : InBlock sheet Schema.nameRow column
  | marker {opening : Nat} (row : Nat) : Opens sheet opening → InBlock sheet (Schema.gridRow row) opening
  | header {opening count row column : Nat} : Spans sheet opening count → column < count →
      row ∈ [Schema.descriptionRow, Schema.propertyRow, Schema.typeRow] → InBlock sheet row (Schema.gridColumn column)
  | data {opening count row column : Nat} : Spans sheet opening count → column < count →
      (∀ earlier ≤ row + 1, IsMarkedRow sheet opening earlier) → InBlock sheet (Schema.gridRow row) (Schema.gridColumn column)

/-- Two sheets with one tab name that are the same in the block of the first. -/
structure SameBlock (left right : Sheet) : Prop where
  name : left.name = right.name
  inside : ∀ row column, InBlock left row column → SameAt left right row column

section
variable {sheet : Sheet} {opening count row column stop : Nat}

theorem Grid.Sheet.cell?_push (sheet : Sheet) (cell : Cell) (row column : Nat) :
    (sheet.push cell).cell? row column = if cell.position == (row, column) then some cell else sheet.cell? row column :=
  OrderedBy.find?_insert _ _ _

/-- A cell that is stored outside of the block leaves it as it is. -/
theorem sameBlock_push {cell : Cell} (outside : ¬ InBlock sheet cell.row cell.column) :
    SameBlock sheet (sheet.push cell) := by
  refine ⟨rfl, fun row column inside => ?_⟩
  have elsewhere : (cell.position == (row, column)) = false := by
    rw [beq_eq_false_iff_ne]
    rintro ⟨⟩
    exact outside inside
  rw [SameAt, Sheet.text, Sheet.text, Sheet.isText, Sheet.isText, Sheet.cell?_push, elsewhere]
  exact ⟨rfl, rfl⟩

theorem not_inBlock_of_right (spans : Spans sheet opening count) (below_first : row ≠ Schema.nameRow)
    (right : opening + count < column) : ¬ InBlock sheet row column := by
  intro inside
  cases inside with
  | name => exact below_first rfl
  | marker _ opens =>
    rw [opens.unique spans.1] at right
    omega
  | header also_spans inside =>
    have same_opening := also_spans.1.unique spans.1
    have same_closing := also_spans.2.unique spans.2
    rw [Schema.gridColumn, Schema.nameColumn] at right
    omega
  | data also_spans inside =>
    have same_opening := also_spans.1.unique spans.1
    have same_closing := also_spans.2.unique spans.2
    rw [Schema.gridColumn, Schema.nameColumn] at right
    omega

theorem not_inBlock_of_below (spans : Spans sheet opening count) (stops : ¬ IsMarkedRow sheet opening stop)
    (below : stop ≤ row + 1) (apart : column ≠ opening) : ¬ InBlock sheet (Schema.gridRow row) column := by
  intro inside
  generalize at_row : Schema.gridRow row = grid_row at inside
  rw [Schema.gridRow, Schema.dataRow] at at_row
  cases inside with
  | name => simp [Schema.nameRow] at at_row
  | marker _ opens => exact apart (opens.unique spans.1)
  | header _ _ in_header =>
    simp only [Schema.descriptionRow, Schema.propertyRow, Schema.typeRow, List.mem_cons, List.not_mem_nil, or_false]
      at in_header
    omega
  | data also_spans _ marked =>
    rw [Schema.gridRow, Schema.dataRow] at at_row
    rw [also_spans.1.unique spans.1] at marked
    exact stops (marked stop (by omega))

end

theorem firstFault_congr {check other : Nat → Option Fault} {start count : Nat}
    (same : ∀ property, start ≤ property → property < start + count → check property = other property) :
    firstFault check start count = firstFault other start count := by
  induction count generalizing start with
  | zero => rfl
  | succ count ih =>
    rw [firstFault, firstFault, same start (Nat.le_refl start) (by omega)]
    rw [ih fun property from_start before => same property (by omega) (by omega)]

namespace SameBlock

variable {left right : Sheet} {place : Location} {opening count property : Nat}

theorem isMarked_eq (same : SameBlock left right) (column : Nat) :
    isMarked (right.text Schema.nameRow column) = isMarked (left.text Schema.nameRow column) :=
  congrArg isMarked (same.inside _ _ (.name column)).1.symm

theorem opens_iff (same : SameBlock left right) {column : Nat} : Opens right column ↔ Opens left column := by
  simp only [Opens, same.isMarked_eq]

theorem closes_iff (same : SameBlock left right) {column : Nat} : Closes right column ↔ Closes left column := by
  simp only [Closes, same.isMarked_eq]

theorem isUnmarked_iff (same : SameBlock left right) : IsUnmarked right ↔ IsUnmarked left := by
  simp only [IsUnmarked, same.isMarked_eq]

theorem range_eq (same : SameBlock left right) : Discovery.range right place = Discovery.range left place := by
  cases ranged : Discovery.range left place with
  | ok range =>
    rw [range_ok_iff] at ranged ⊢
    rwa [same.opens_iff, same.closes_iff]
  | error fault =>
    rw [range_error_iff] at ranged ⊢
    simpa only [same.opens_iff, same.closes_iff, same.isUnmarked_iff] using ranged

theorem isMarkedRow_iff (same : SameBlock left right) (opens : Opens left opening) (row : Nat) :
    IsMarkedRow right opening row ↔ IsMarkedRow left opening row := by
  rw [IsMarkedRow, IsMarkedRow, (same.inside _ _ (.marker row opens)).1]

theorem spans_iff (same : SameBlock left right) : Spans right opening count ↔ Spans left opening count :=
  and_congr same.opens_iff same.closes_iff

theorem inBlock_iff (same : SameBlock left right) {row column : Nat} :
    InBlock right row column ↔ InBlock left row column := by
  constructor
  · intro inside
    cases inside with
    | name => exact .name column
    | marker row opens => exact .marker row (same.opens_iff.mp opens)
    | header spans inside in_header => exact .header (same.spans_iff.mp spans) inside in_header
    | data spans inside marked =>
      have left_spans := same.spans_iff.mp spans
      exact .data left_spans inside fun earlier at_most =>
        (same.isMarkedRow_iff left_spans.1 earlier).mp (marked earlier at_most)
  · intro inside
    cases inside with
    | name => exact .name column
    | marker row opens => exact .marker row (same.opens_iff.mpr opens)
    | header spans inside in_header => exact .header (same.spans_iff.mpr spans) inside in_header
    | data spans inside marked =>
      refine .data (same.spans_iff.mpr spans) inside fun earlier at_most => ?_
      exact (same.isMarkedRow_iff spans.1 earlier).mpr (marked earlier at_most)

/-- It does not matter whose block it is. -/
theorem symm (same : SameBlock left right) : SameBlock right left := by
  refine ⟨same.name.symm, fun row column inside => ?_⟩
  obtain ⟨text, is_text⟩ := same.inside row column (same.inBlock_iff.mp inside)
  exact ⟨text.symm, is_text.symm⟩

theorem trans {middle : Sheet} (first : SameBlock left middle) (second : SameBlock middle right) : SameBlock left right := by
  refine ⟨first.name.trans second.name, fun row column inside => ?_⟩
  obtain ⟨text, is_text⟩ := first.inside row column inside
  obtain ⟨next_text, next_is_text⟩ := second.inside row column (first.inBlock_iff.mpr inside)
  exact ⟨text.trans next_text, is_text.trans next_is_text⟩

/-- Discovery looks at as many rows as there are cells, and these may be more in one sheet. -/
theorem markedRows_eq (same : SameBlock left right) (opens : Opens left opening) :
    markedRows right opening = markedRows left opening := by
  rw [markedRows_eq_iff (same.opens_iff.mpr opens)]
  simp only [same.isMarkedRow_iff opens]
  exact markedRows_spec opens

theorem sheetName_eq (same : SameBlock left right) : Discovery.sheetName right place = Discovery.sheetName left place := by
  obtain ⟨text, is_text⟩ := same.inside _ _ (.name Schema.nameColumn)
  rw [Discovery.sheetName, Discovery.sheetName, text, is_text]

theorem rawName_eq (same : SameBlock left right) (spans : Spans left opening count) (inside : property < count) :
    rawName right property = rawName left property :=
  (same.inside _ _ (.header spans inside (by simp))).1.symm

theorem description_eq (same : SameBlock left right) (spans : Spans left opening count) (inside : property < count) :
    Discovery.description right property = Discovery.description left property :=
  (same.inside _ _ (.header spans inside (by simp))).1.symm

theorem propertyName_eq (same : SameBlock left right) (spans : Spans left opening count) (inside : property < count) :
    propertyName right property = propertyName left property :=
  congrArg (fun raw => (Header.read raw).name) (same.rawName_eq spans inside)

theorem headerFault?_eq (same : SameBlock left right) (spans : Spans left opening count) (name : String)
    (inside : property < count) : headerFault? right name place property = headerFault? left name place property := by
  rw [headerFault?, headerFault?, same.rawName_eq spans inside]

theorem propertyType_eq (same : SameBlock left right) (spans : Spans left opening count) (aliases : TypeAliases)
    (inside : property < count) : propertyType right aliases place property = propertyType left aliases place property := by
  obtain ⟨text, is_text⟩ := same.inside Schema.typeRow _ (.header spans inside (by simp))
  rw [propertyType, propertyType, same.rawName_eq spans inside, text, is_text]

theorem keyFault?_eq (same : SameBlock left right) (spans : Spans left opening count) (name : String)
    (inside : property < count) : keyFault? right name place property = keyFault? left name place property := by
  have earlier_names (found : String) : (List.range property).any (fun earlier => propertyName right earlier = found) =
      (List.range property).any fun earlier => propertyName left earlier = found := by
    rw [Bool.eq_iff_iff, List.any_eq_true, List.any_eq_true]
    refine exists_congr fun earlier => and_congr_right fun member => ?_
    rw [same.propertyName_eq spans ((List.mem_range.mp member).trans inside)]
  rw [keyFault?, keyFault?, nameProblem?, nameProblem?, same.propertyName_eq spans inside, same.rawName_eq spans inside]
  simp only [earlier_names]

theorem primaryKey?_eq (same : SameBlock left right) (spans : Spans left opening count) :
    primaryKey? right count = primaryKey? left count := by
  have same_role : (fun property : Fin count => decide ((Header.read (rawName right property.val)).role = .primaryKey)) =
      fun property => decide ((Header.read (rawName left property.val)).role = .primaryKey) :=
    funext fun property => by rw [same.rawName_eq spans property.isLt]
  rw [primaryKey?, primaryKey?, same_role]

theorem foreignKeys_eq (same : SameBlock left right) (spans : Spans left opening count) :
    Discovery.foreignKeys right count = Discovery.foreignKeys left count := by
  refine List.filterMap_congr fun property _ => ?_
  rw [same.rawName_eq spans property.isLt]

end SameBlock

namespace Schema

variable {left right : Sheet} {schema other : Schema} {table : String} {aliases : TypeAliases}

/-- The schema with another sheet below its header. -/
abbrev withGrid (schema : Schema) (grid : Sheet) : Schema :=
  { schema with grid := grid }

theorem schemaOf_of_sameBlock (same : SameBlock left right) {name : String} {range : Range}
    {types : Vector PropertyType range.columnCount} (opens : Opens left range.opening)
    (spans : Spans left range.opening range.columnCount) :
    schemaOf table right name range types = (schemaOf table left name range types).withGrid right := by
  have same_properties : (fun property : Fin range.columnCount =>
        Property.mk (propertyName right property) (types.get property) (Discovery.description right property)) =
      fun property => ⟨propertyName left property, types.get property, Discovery.description left property⟩ :=
    funext fun property => by rw [same.propertyName_eq spans property.isLt, same.description_eq spans property.isLt]
  rw [schemaOf, schemaOf, same_properties, same.primaryKey?_eq spans, same.foreignKeys_eq spans, Discovery.rowCount,
    same.markedRows_eq opens]
  rfl

/-- Sheets with the same block are discovered alike. -/
theorem discover_of_sameBlock (same : SameBlock left right) :
    Schema.discover table right aliases = (Schema.discover table left aliases).map (·.withGrid right) := by
  rw [discover, discover, ← same.name, same.sheetName_eq, same.range_eq]
  cases Discovery.sheetName left (Location.ofSheet table left.name) with
  | error fault => rfl
  | ok name =>
  cases ranged : Discovery.range left (Location.ofSheet table left.name) with
  | error fault => rfl
  | ok range =>
  have spans := spans_of_range ranged
  have same_types : (fun property : Fin range.columnCount =>
      propertyType right aliases (Location.ofSheet table left.name) property.val) =
        fun property => propertyType left aliases (Location.ofSheet table left.name) property.val :=
    funext fun property => same.propertyType_eq spans aliases property.isLt
  simp only [Outcome.ok_bind, same_types]
  rw [firstFault_congr fun property _ inside => same.headerFault?_eq spans name (by simpa using inside),
    firstFault_congr fun property _ inside => same.keyFault?_eq spans name (by simpa using inside)]
  cases firstFault (headerFault? left name (Location.ofSheet table left.name)) 0 range.columnCount with
  | error fault => rfl
  | ok =>
  cases tabulate? range.columnCount fun property => propertyType left aliases (Location.ofSheet table left.name) property.val with
  | error fault => rfl
  | ok types =>
  cases firstFault (keyFault? left name (Location.ofSheet table left.name)) 0 range.columnCount with
  | error fault => rfl
  | ok => exact congrArg Except.ok (schemaOf_of_sameBlock same spans.1 spans)

end Schema

end Tablesmith
