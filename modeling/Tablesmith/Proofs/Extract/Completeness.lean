import Mathlib
import Tablesmith.Proofs.Extract.Validity
import Tablesmith.Proofs.Schema.Discovery

/-!
# What becomes of rows

The scan collects the keys of all sheets of a name, while the rows of a later
sheet take the place of those of an earlier one. So the tables of valid sheets
hold the rows of the last sheet of every name (`get?_ofSchemas`,
`get?_rowsOf`), and the keys that references were checked against are those of
all its sheets. Nothing is lost exactly if the last sheet of every name repeats
the rows of the others.
-/

namespace Tablesmith

open Discovery Item Steps

namespace Schema

variable {schema : Schema}

theorem rowKey_injective {row other : Nat} (same : rowKey row = rowKey other) : row = other := by
  have digits := String.ofList_inj.mp same
  have value := congrArg (Nat.ofDigitChars 10 · 0) digits
  simpa [Nat.ofDigitChars_toDigits] using value

/-- The rows of a sheet that the scan gets past have distinct keys. -/
theorem keyText_injective {earlier : List Schema} (new : schema.IsNewAfter earlier) {row other : Nat}
    (row_in : row < schema.rowCount) (other_in : other < schema.rowCount)
    (same : schema.keyText row = schema.keyText other) : row = other := by
  cases keyed : schema.primaryKey with
  | none =>
    simp only [keyText, keyed] at same
    exact rowKey_injective same
  | some key =>
    have distinct := new (by simp [keyed])
    rcases Nat.lt_trichotomy row other with before | equal | after
    · exact absurd same ((distinct other other_in).1 row before)
    · exact equal
    · exact absurd same.symm ((distinct row row_in).1 other after)

theorem toList_rowsOf {earlier : List Schema} (new : schema.IsNewAfter earlier) :
    schema.rowsOf.toList = (List.range schema.rowCount).map fun row => (schema.keyText row, schema.recordOf row) := by
  rw [rowsOf, OrderedBy.toList_foldl_insert, OrderedBy.toList_empty, List.nil_append]
  rw [OrderedBy.toList_empty, List.nil_append, List.map_map]
  refine List.Nodup.map_on ?_ List.nodup_range
  intro row row_in other other_in same
  exact keyText_injective new (List.mem_range.mp row_in) (List.mem_range.mp other_in) same

theorem get?_rowsOf {earlier : List Schema} (new : schema.IsNewAfter earlier) {key : String} {record : Record} :
    schema.rowsOf.get? key = some record ↔
      ∃ row < schema.rowCount, schema.keyText row = key ∧ schema.recordOf row = record := by
  rw [TextMap.get?_eq_some_iff, toList_rowsOf new]
  simp [Prod.ext_iff]

theorem mem_keys_rowsOf {earlier : List Schema} (new : schema.IsNewAfter earlier) {key : String} :
    key ∈ schema.rowsOf.keys ↔ ∃ row < schema.rowCount, schema.keyText row = key := by
  rw [TextMap.mem_keys_iff]
  simp only [get?_rowsOf new]
  constructor
  · rintro ⟨_, row, before, is_key, _⟩
    exact ⟨row, before, is_key⟩
  · rintro ⟨row, before, is_key⟩
    exact ⟨_, row, before, is_key, rfl⟩

theorem IsDiscovered.get?_recordOf (discovered : schema.IsDiscovered) {row : Nat} {name value : String} :
    (schema.recordOf row).get? name = some value ↔ (name, value) ∈ schema.entries row := by
  rw [TextMap.get?_eq_some_iff, discovered.toList_recordOf]

/-- The sheet is the last of its name. -/
def IsLastOf (last : Schema) (schemas : List Schema) : Prop :=
  ∃ before after, schemas = before ++ last :: after ∧ ∀ other ∈ after, other.name ≠ last.name

end Schema

namespace Tables

variable {schemas : List Schema} {name : String}

theorem get?_ofSchemas {rows : Rows} :
    (Tables.ofSchemas schemas).get? name = some rows ↔
      ∃ last : Schema, last.IsLastOf schemas ∧ last.name = name ∧ last.rowsOf = rows := by
  rw [ofSchemas, TextMap.get?_foldl_insert, ← List.map_reverse, List.find?_map, Option.map_map,
    Option.map_eq_some_iff]
  refine exists_congr (fun last => ?_)
  rw [← and_assoc]
  refine and_congr_left (fun _ => ?_)
  rw [List.find?_eq_some_iff_append]
  simp only [Function.comp_apply, beq_iff_eq, Bool.not_eq_true', beq_eq_false_iff_ne]
  constructor
  · rintro ⟨rfl, after, before, split, away⟩
    refine ⟨⟨before.reverse, after.reverse, ?_, ?_⟩, rfl⟩
    · have turned := congrArg List.reverse split
      simpa using turned
    · intro other member
      exact away other (List.mem_reverse.mp member)
  · rintro ⟨⟨before, after, rfl, away⟩, rfl⟩
    refine ⟨rfl, after.reverse, before.reverse, by simp, ?_⟩
    intro other member
    exact away other (List.mem_reverse.mp member)

theorem exists_last {schema : Schema} (member : schema ∈ schemas) :
    ∃ last : Schema, last.IsLastOf schemas ∧ last.name = schema.name := by
  cases held : (Tables.ofSchemas schemas).get? schema.name with
  | some rows =>
    obtain ⟨last, is_last, named, _⟩ := get?_ofSchemas.mp held
    exact ⟨last, is_last, named⟩
  | none =>
    rw [ofSchemas, TextMap.get?_foldl_insert, Option.map_eq_none_iff, List.find?_eq_none] at held
    have away := held (schema.name, schema.rowsOf)
      (List.mem_reverse.mpr (List.mem_map_of_mem (f := fun schema => (schema.name, schema.rowsOf)) member))
    simp at away

theorem Valid.last_isNew (valid : Valid schemas) {last : Schema} (is_last : last.IsLastOf schemas) :
    ∃ before, last.IsNewAfter before := by
  obtain ⟨before, after, split, _⟩ := is_last
  exact ⟨before, valid.keysNew before last after split⟩

theorem mem_of_isLastOf {last : Schema} (is_last : last.IsLastOf schemas) : last ∈ schemas := by
  obtain ⟨before, after, rfl, _⟩ := is_last
  simp

theorem itemSheets_discovered {items : List Item} (proper : ∀ item ∈ items, item.IsProper) :
    ∀ schema ∈ items.map Item.schema, schema.IsDiscovered := by
  intro schema member
  obtain ⟨item, inside, rfl⟩ := List.mem_map.mp member
  exact (proper item inside).discovered

/-- Sheets of one proper item each are valid where the items have different keys. -/
theorem itemSheets_valid {items : List Item} (proper : ∀ item ∈ items, item.IsProper)
    (distinct : (items.map Item.key).Nodup) : Valid (items.map Item.schema) := by
  have only_row {item : Item} {row : Nat} (before : row < item.schema.rowCount) : row = 0 := by
    rw [Item.rowCount_schema] at before
    omega
  refine ⟨?_, ?_, ?_⟩
  · intro schema member
    obtain ⟨item, inside, rfl⟩ := List.mem_map.mp member
    exact (proper item inside).isFilled
  · intro earlier schema later split _ row before
    obtain ⟨first, rest, rfl, rfl, rest_is⟩ := List.map_eq_append_iff.mp split
    obtain ⟨item, others, rfl, rfl, rfl⟩ := List.map_eq_cons_iff.mp rest_is
    obtain rfl := only_row before
    refine ⟨fun _ none_before => absurd none_before (Nat.not_lt_zero _), ?_⟩
    intro other member _ other_row other_before same
    obtain ⟨other_item, inside, rfl⟩ := List.mem_map.mp member
    obtain rfl := only_row other_before
    rw [Item.keyText_schema, Item.keyText_schema] at same
    rw [List.map_append, List.map_cons, List.nodup_append] at distinct
    exact distinct.2.2 other_item.key (List.mem_map_of_mem inside) item.key List.mem_cons_self same
  · intro schema member reference refers
    obtain ⟨item, inside, rfl⟩ := List.mem_map.mp member
    rw [(proper item inside).foreignKeys] at refers
    cases refers

/-- Another item, with the same columns. -/
def shield : Item := ⟨"Name", .string, "b", "Shield"⟩

theorem shield_isProper : shield.IsProper where
  plain := by decide +kernel
  faultless := by decide +kernel
  unlike := by decide
  keyed := by decide
  valued := by decide
  accepted := rfl

/-- Every row of every sheet is held under its key, with its values and no others. -/
def HoldsRows (tables : Tables) (schemas : List Schema) : Prop :=
  ∀ schema ∈ schemas, ∀ row < schema.rowCount, ∃ rows record,
    tables.get? schema.name = some rows ∧ rows.get? (schema.keyText row) = some record ∧
      ∀ name value, record.get? name = some value ↔ (name, value) ∈ schema.entries row

/-- The tables have the names of a catalog, and under each name the same keys. -/
structure HoldsKeysOf (tables : Tables) (catalog : KeyCatalog) : Prop where
  named : ∀ name, (∃ rows, tables.get? name = some rows) ↔ ∃ keys, catalog.keys? name = some keys
  keyed : ∀ name rows keys, tables.get? name = some rows → catalog.keys? name = some keys →
    ∀ key, key ∈ rows.keys ↔ key ∈ keys

/-- The last sheet of every name has the rows of the earlier ones too, under the same keys. -/
def RepeatsEarlier (schemas : List Schema) : Prop :=
  ∀ last : Schema, last.IsLastOf schemas → ∀ schema ∈ schemas, schema.name = last.name →
    ∀ row < schema.rowCount, ∃ other < last.rowCount, last.keyText other = schema.keyText row ∧
      ∀ entry, entry ∈ last.entries other ↔ entry ∈ schema.entries row

theorem holdsRows_iff (discovered : ∀ schema ∈ schemas, schema.IsDiscovered) (valid : Valid schemas) :
    HoldsRows (Tables.ofSchemas schemas) schemas ↔ RepeatsEarlier schemas := by
  constructor
  · intro holds last is_last schema member named row before
    obtain ⟨rows, record, known, found, values⟩ := holds schema member row before
    obtain ⟨_, new⟩ := valid.last_isNew is_last
    have known_last := get?_ofSchemas.mpr ⟨last, is_last, rfl, rfl⟩
    rw [← named, known] at known_last
    cases known_last
    obtain ⟨other, inside, is_key, rfl⟩ := (Schema.get?_rowsOf new).mp found
    refine ⟨other, inside, is_key, ?_⟩
    rintro ⟨name, value⟩
    rw [← values, (discovered last (mem_of_isLastOf is_last)).get?_recordOf]
  · intro repeats schema member row before
    obtain ⟨last, is_last, named⟩ := exists_last member
    obtain ⟨_, new⟩ := valid.last_isNew is_last
    obtain ⟨other, inside, is_key, same⟩ := repeats last is_last schema member named.symm row before
    refine ⟨last.rowsOf, last.recordOf other, get?_ofSchemas.mpr ⟨last, is_last, named, rfl⟩,
      (Schema.get?_rowsOf new).mpr ⟨other, inside, is_key, rfl⟩, ?_⟩
    intro name value
    rw [(discovered last (mem_of_isLastOf is_last)).get?_recordOf, same]

theorem holdsKeysOf_ofSchemas (valid : Valid schemas) (repeats : RepeatsEarlier schemas) :
    HoldsKeysOf (Tables.ofSchemas schemas) (KeyCatalog.ofSchemas schemas) := by
  constructor
  · intro name
    rw [← KeyCatalog.containsTable_iff, KeyCatalog.containsTable_ofSchemas]
    constructor
    · rintro ⟨rows, known⟩
      obtain ⟨last, is_last, named, _⟩ := get?_ofSchemas.mp known
      exact ⟨last, mem_of_isLastOf is_last, named⟩
    · rintro ⟨schema, member, rfl⟩
      obtain ⟨last, is_last, named⟩ := exists_last member
      exact ⟨last.rowsOf, get?_ofSchemas.mpr ⟨last, is_last, named, rfl⟩⟩
  · intro name rows keys known catalogued key
    obtain ⟨last, is_last, named, rfl⟩ := get?_ofSchemas.mp known
    obtain ⟨_, new⟩ := valid.last_isNew is_last
    have in_catalog : key ∈ keys ↔ (KeyCatalog.ofSchemas schemas).contains name key = true := by
      rw [KeyCatalog.contains_iff]
      simp [catalogued]
    rw [in_catalog, KeyCatalog.contains_ofSchemas, Schema.mem_keys_rowsOf new]
    constructor
    · rintro ⟨row, before, is_key⟩
      exact ⟨last, mem_of_isLastOf is_last, named, row, before, is_key⟩
    · rintro ⟨schema, member, same_name, row, before, rfl⟩
      obtain ⟨other, inside, is_key, _⟩ := repeats last is_last schema member (same_name.trans named.symm) row before
      exact ⟨other, inside, is_key⟩

/-- A successful extraction loses no row, and has the keys that references were checked against, exactly if the last
    sheet of every name repeats the rows of the earlier ones. -/
theorem extract_keeps_rows_iff {schemas : List Schema} {tables : Tables} {catalog : KeyCatalog}
    (discovered : ∀ schema ∈ schemas, schema.IsDiscovered)
    (extracted : (extract schemas).run.run KeyCatalog.empty = (.ok tables, catalog)) :
    HoldsRows tables schemas ∧ HoldsKeysOf tables catalog ↔ RepeatsEarlier schemas := by
  obtain ⟨valid, rfl, rfl⟩ := extract_ok_iff.mp extracted
  rw [holdsRows_iff discovered valid, and_iff_left_iff_imp]
  exact holdsKeysOf_ofSchemas valid

/-- One item by itself is not lost. -/
theorem extract_keeps_sword : (∀ schema ∈ [sword].map Item.schema, schema.IsDiscovered) ∧ ∃ tables catalog,
    (extract ([sword].map Item.schema)).run.run KeyCatalog.empty = (.ok tables, catalog) ∧
      HoldsRows tables ([sword].map Item.schema) ∧ HoldsKeysOf tables catalog := by
  have proper : ∀ item ∈ [sword], item.IsProper := by simp [sword_isProper]
  have extracted := extract_ok_iff.mpr ⟨itemSheets_valid proper (by simp), rfl, rfl⟩
  refine ⟨itemSheets_discovered proper, _, _, extracted, ?_⟩
  refine (extract_keeps_rows_iff (itemSheets_discovered proper) extracted).mpr ?_
  intro last is_last schema member _ row before
  have last_is := List.mem_singleton.mp (mem_of_isLastOf is_last)
  have schema_is := List.mem_singleton.mp member
  subst last_is schema_is
  exact ⟨row, before, rfl, fun _ => Iff.rfl⟩

/-- Of two items on sheets of one name only the later is in the tables, though the catalog has both keys. -/
theorem extract_loses_sword : (∀ schema ∈ [sword, shield].map Item.schema, schema.IsDiscovered) ∧ ∃ tables catalog,
    (extract ([sword, shield].map Item.schema)).run.run KeyCatalog.empty = (.ok tables, catalog) ∧
      ¬ HoldsRows tables ([sword, shield].map Item.schema) ∧ ¬ HoldsKeysOf tables catalog := by
  have proper : ∀ item ∈ [sword, shield], item.IsProper := by simp [sword_isProper, shield_isProper]
  have valid : Valid ([sword, shield].map Item.schema) := itemSheets_valid proper (by decide)
  have is_last : shield.schema.IsLastOf ([sword, shield].map Item.schema) := ⟨[sword.schema], [], rfl, by simp⟩
  have not_a : ∀ row < shield.schema.rowCount, shield.schema.keyText row ≠ "a" := by
    simp [Item.rowCount_schema, Item.keyText_schema, shield]
  refine ⟨itemSheets_discovered proper, _, _, extract_ok_iff.mpr ⟨valid, rfl, rfl⟩, ?_, ?_⟩
  · rw [holdsRows_iff (itemSheets_discovered proper) valid]
    intro repeats
    obtain ⟨row, inside, is_key, _⟩ := repeats _ is_last sword.schema (by simp) rfl 0 (by simp [Item.rowCount_schema])
    exact not_a row inside (is_key.trans (Item.keyText_schema sword))
  · intro holds
    have known := get?_ofSchemas.mpr ⟨_, is_last, rfl, rfl⟩
    have both : (KeyCatalog.ofSchemas ([sword, shield].map Item.schema)).contains "Item" "a" = true := by
      rw [KeyCatalog.contains_ofSchemas]
      exact ⟨sword.schema, by simp, rfl, 0, by simp [Item.rowCount_schema], Item.keyText_schema sword⟩
    obtain ⟨keys, catalogued, member⟩ := KeyCatalog.contains_iff.mp both
    obtain ⟨_, new⟩ := valid.last_isNew is_last
    have held := (holds.keyed "Item" _ keys known catalogued "a").mpr member
    obtain ⟨row, inside, is_key⟩ := (Schema.mem_keys_rowsOf new).mp held
    exact not_a row inside is_key

end Tables

end Tablesmith
