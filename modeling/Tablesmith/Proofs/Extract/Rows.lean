import Mathlib
import Tablesmith.Extract.Tables
import Tablesmith.Proofs.OrderedBy
import Tablesmith.Proofs.Steps

/-!
# The rows of sheets and their keys

Reading rows succeeds exactly where every cell of the data holds a value, and
then gives what the cells hold (`read_ok_iff`). The rows that are read are
described without the reader: `Schema.entries` is a record as a list,
`Schema.rowsOf` holds it under the key of its row, and `Tables.ofSchemas` holds
the rows of the last sheet of every name.

Behind any number of sheets the catalog knows their names, and under each name
the keys of the rows of all sheets that bear it (`contains_ofSchemas`). Where
every cell holds a value the scan stops at a sheet exactly when the key of one of
its rows is that of a row that was seen under its name before
(`catalogKeys_ok_iff`); a sheet without a primary key never stops it.
-/

namespace Tablesmith

open Outcome

namespace Schema

/-- The cell of a property in a row holds a value of the property. -/
def HasValue (schema : Schema) (row : Nat) (property : Fin schema.columnCount) : Prop :=
  schema.text row property ≠ "" ∧ (schema.propertyAt property).type.accepts (schema.text row property) = true

/-- Every cell of the data holds a value. -/
def IsFilled (schema : Schema) : Prop :=
  ∀ row < schema.rowCount, ∀ property, schema.HasValue row property

theorem value_ok_iff {schema : Schema} {row : Nat} {property : Fin schema.columnCount} {value : String} :
    schema.value row property = .ok value ↔ schema.HasValue row property ∧ value = schema.text row property := by
  unfold Schema.value checkValue HasValue
  by_cases empty : schema.text row property = ""
  · simp [empty]
  · by_cases accepted : (schema.propertyAt property).type.accepts (schema.text row property) = true
    · simp [empty, accepted, eq_comm]
    · simp [empty, accepted]

/-- The key of a row: its text, or the number of the row where no column is the key. -/
def keyText (schema : Schema) (row : Nat) : String :=
  match schema.primaryKey with
  | some key => schema.text row key
  | none => rowKey row

theorem key_ok_iff {schema : Schema} {row : Nat} {key : String} :
    schema.key row = .ok key ↔
      (∀ property, schema.primaryKey = some property → schema.HasValue row property) ∧ key = schema.keyText row := by
  unfold Schema.key keyText
  cases schema.primaryKey with
  | none => simp [eq_comm]
  | some property => simp [value_ok_iff]

/-- The names and the texts of the values of a row, in the order of their columns. -/
def entries (schema : Schema) (row : Nat) : List (String × String) :=
  schema.valueProperties.map fun property => ((schema.propertyAt property).name, schema.text row property)

/-- The record of a row. -/
def recordOf (schema : Schema) (row : Nat) : Record :=
  (schema.entries row).foldl OrderedBy.insert OrderedBy.empty

theorem mem_valueProperties {schema : Schema} {property : Fin schema.columnCount} :
    property ∈ schema.valueProperties ↔ schema.primaryKey ≠ some property := by
  simp [valueProperties]

theorem record_ok_iff {schema : Schema} {row : Nat} {record : Record} :
    schema.record row = .ok record ↔
      (∀ property ∈ schema.valueProperties, schema.HasValue row property) ∧ record = schema.recordOf row := by
  unfold Schema.record recordOf entries
  rw [foldlM_ok_iff (schema.HasValue row)
    (fun record property => record.insert ((schema.propertyAt property).name, schema.text row property))]
  · rw [List.foldl_map]
  · intro record property next
    rw [map_ok_iff]
    constructor
    · rintro ⟨value, valued, rfl⟩
      obtain ⟨holds, rfl⟩ := value_ok_iff.mp valued
      exact ⟨holds, rfl⟩
    · rintro ⟨holds, rfl⟩
      exact ⟨_, value_ok_iff.mpr ⟨holds, rfl⟩, rfl⟩

/-- The rows of a sheet by their keys. -/
def rowsOf (schema : Schema) : Rows :=
  ((List.range schema.rowCount).map fun row => (schema.keyText row, schema.recordOf row)).foldl
    OrderedBy.insert OrderedBy.empty

/-- A row holds values where its key and its record do. -/
theorem row_filled_iff {schema : Schema} {row : Nat} :
    (∀ property, schema.HasValue row property) ↔
      (∀ property, schema.primaryKey = some property → schema.HasValue row property) ∧
        ∀ property ∈ schema.valueProperties, schema.HasValue row property := by
  constructor
  · intro filled
    exact ⟨fun property _ => filled property, fun property _ => filled property⟩
  · rintro ⟨keyed, valued⟩ property
    by_cases is_key : schema.primaryKey = some property
    · exact keyed property is_key
    · exact valued property (mem_valueProperties.mpr is_key)

theorem rows_ok_iff {schema : Schema} {rows : Rows} :
    schema.rows = .ok rows ↔ schema.IsFilled ∧ rows = schema.rowsOf := by
  unfold Schema.rows rowsOf IsFilled
  rw [foldlM_ok_iff (fun row => ∀ property, schema.HasValue row property)
    (fun rows row => rows.insert (schema.keyText row, schema.recordOf row))]
  · rw [List.foldl_map]
    simp only [List.mem_range]
  · intro rows row next
    rw [row_filled_iff]
    constructor
    · intro stepped
      obtain ⟨key, keyed, stepped⟩ := bind_ok_iff.mp stepped
      obtain ⟨record, recorded, stepped⟩ := bind_ok_iff.mp stepped
      obtain ⟨key_holds, rfl⟩ := key_ok_iff.mp keyed
      obtain ⟨record_holds, rfl⟩ := record_ok_iff.mp recorded
      cases stepped
      exact ⟨⟨key_holds, record_holds⟩, rfl⟩
    · rintro ⟨⟨key_holds, record_holds⟩, rfl⟩
      refine bind_ok_iff.mpr ⟨_, key_ok_iff.mpr ⟨key_holds, rfl⟩, ?_⟩
      exact bind_ok_iff.mpr ⟨_, record_ok_iff.mpr ⟨record_holds, rfl⟩, rfl⟩

end Schema

/-- The rows of all sheets, of which a later one replaces an earlier one of its name. -/
def Tables.ofSchemas (schemas : List Schema) : Tables :=
  (schemas.map fun schema => (schema.name, schema.rowsOf)).foldl OrderedBy.insert OrderedBy.empty

theorem Tables.read_ok_iff {schemas : List Schema} {tables : Tables} :
    Tables.read schemas = .ok tables ↔ (∀ schema ∈ schemas, schema.IsFilled) ∧ tables = Tables.ofSchemas schemas := by
  unfold Tables.read ofSchemas
  rw [foldlM_ok_iff Schema.IsFilled (fun tables schema => tables.insert (schema.name, schema.rowsOf))]
  · rw [List.foldl_map]
  · intro tables schema next
    rw [map_ok_iff]
    constructor
    · rintro ⟨rows, read, rfl⟩
      obtain ⟨filled, rfl⟩ := Schema.rows_ok_iff.mp read
      exact ⟨filled, rfl⟩
    · rintro ⟨filled, rfl⟩
      exact ⟨_, Schema.rows_ok_iff.mpr ⟨filled, rfl⟩, rfl⟩

end Tablesmith

namespace Tablesmith

open Steps

namespace KeyCatalog

variable {catalog : KeyCatalog} {table name key other : String}

@[simp] theorem containsTable_empty : empty.containsTable name = false := by
  simp [empty, containsTable]

theorem containsTable_iff : catalog.containsTable name = true ↔ ∃ keys, catalog.keys? name = some keys := by
  rw [containsTable, keys?, Std.HashMap.contains_eq_isSome_getElem?, Option.isSome_iff_exists]

theorem contains_iff : catalog.contains name key = true ↔ ∃ keys, catalog.keys? name = some keys ∧ key ∈ keys := by
  unfold contains
  cases catalog.keys? name with
  | none => simp
  | some keys => simp [Std.HashSet.contains_iff_mem]

@[simp] theorem contains_empty : empty.contains name key = false := by
  simp [empty, contains, keys?]

theorem containsTable_register :
    (catalog.register table).containsTable name = true ↔ name = table ∨ catalog.containsTable name = true := by
  rw [register, containsTable, Std.HashMap.contains_insertIfNew, Bool.or_eq_true, beq_iff_eq, containsTable,
    eq_comm (a := table)]

/-- A table that becomes known has no key yet, and one that is known keeps its keys. -/
theorem contains_register : (catalog.register table).contains name key = catalog.contains name key := by
  unfold register contains keys?
  rw [Std.HashMap.getElem?_insertIfNew]
  by_cases fresh : table = name ∧ name ∉ catalog.tables
  · obtain ⟨rfl, absent⟩ := fresh
    simp [absent]
  · by_cases same : table = name
    · subst same
      have present : table ∈ catalog.tables := by simpa using fresh
      simp [present]
    · simp [same]

theorem containsTable_insert :
    (catalog.insert table key).containsTable name = true ↔ name = table ∨ catalog.containsTable name = true := by
  rw [insert, containsTable, Std.HashMap.contains_alter, containsTable]
  by_cases same : table = name
  · simp [same]
  · simp [same, Ne.symm same]

theorem contains_insert : (catalog.insert table other).contains name key = true ↔
    (name = table ∧ key = other) ∨ catalog.contains name key = true := by
  unfold insert contains keys?
  rw [Std.HashMap.getElem?_alter]
  by_cases same : table = name
  · subst same
    cases catalog.tables[table]? with
    | none => simp [Std.HashSet.contains_insert, eq_comm (a := other)]
    | some keys => simp [Std.HashSet.contains_insert, eq_comm (a := other)]
  · simp [same, Ne.symm same]

/-- The catalog with the keys of the first rows of a sheet. -/
def addRows (catalog : KeyCatalog) (schema : Schema) (count : Nat) : KeyCatalog :=
  (List.range count).foldl (fun catalog row => catalog.insert schema.name (schema.keyText row)) catalog

/-- The catalog with a sheet and its keys. -/
def addSheet (catalog : KeyCatalog) (schema : Schema) : KeyCatalog :=
  (catalog.register schema.name).addRows schema schema.rowCount

/-- The catalog of some sheets. -/
def ofSchemas (schemas : List Schema) : KeyCatalog :=
  schemas.foldl addSheet empty

theorem addRows_succ (catalog : KeyCatalog) (schema : Schema) (count : Nat) :
    catalog.addRows schema (count + 1) =
      (catalog.addRows schema count).insert schema.name (schema.keyText count) := by
  rw [addRows, List.range_succ, List.foldl_append]
  rfl

theorem contains_addRows {schema : Schema} {count : Nat} :
    (catalog.addRows schema count).contains name key = true ↔
      (name = schema.name ∧ ∃ row < count, schema.keyText row = key) ∨ catalog.contains name key = true := by
  induction count with
  | zero => simp [addRows]
  | succ count ih =>
    rw [addRows_succ, contains_insert, ih]
    constructor
    · rintro (⟨same, rfl⟩ | ⟨same, row, before, rfl⟩ | known)
      · exact Or.inl ⟨same, count, Nat.lt_succ_self count, rfl⟩
      · exact Or.inl ⟨same, row, Nat.lt_succ_of_lt before, rfl⟩
      · exact Or.inr known
    · rintro (⟨same, row, before, rfl⟩ | known)
      · rcases Nat.lt_succ_iff_lt_or_eq.mp before with earlier | rfl
        · exact Or.inr (Or.inl ⟨same, row, earlier, rfl⟩)
        · exact Or.inl ⟨same, rfl⟩
      · exact Or.inr (Or.inr known)

theorem containsTable_addRows {schema : Schema} {count : Nat} (known : catalog.containsTable schema.name = true) :
    (catalog.addRows schema count).containsTable name = catalog.containsTable name := by
  induction count with
  | zero => rfl
  | succ count ih =>
    rw [Bool.eq_iff_iff, addRows_succ, containsTable_insert, ih]
    constructor
    · rintro (rfl | found)
      · exact known
      · exact found
    · exact Or.inr

theorem contains_addSheet {schema : Schema} :
    (catalog.addSheet schema).contains name key = true ↔
      (name = schema.name ∧ ∃ row < schema.rowCount, schema.keyText row = key) ∨
        catalog.contains name key = true := by
  rw [addSheet, contains_addRows, contains_register]

theorem containsTable_addSheet {schema : Schema} :
    (catalog.addSheet schema).containsTable name = true ↔
      name = schema.name ∨ catalog.containsTable name = true := by
  rw [addSheet, containsTable_addRows (containsTable_register.mpr (Or.inl rfl)), containsTable_register]

theorem ofSchemas_concat (schemas : List Schema) (schema : Schema) :
    ofSchemas (schemas ++ [schema]) = (ofSchemas schemas).addSheet schema := by
  rw [ofSchemas, List.foldl_append]
  rfl

/-- The keys under a name are those of the rows of all sheets with that name. -/
theorem contains_ofSchemas {schemas : List Schema} : (ofSchemas schemas).contains name key = true ↔
    ∃ schema ∈ schemas, schema.name = name ∧ ∃ row < schema.rowCount, schema.keyText row = key := by
  have added := Outcome.foldl_iff (contains · name key = true) _
    (fun catalog schema => @contains_addSheet catalog name key schema) schemas empty
  simpa [ofSchemas, eq_comm (a := name)] using added

theorem containsTable_ofSchemas {schemas : List Schema} :
    (ofSchemas schemas).containsTable name = true ↔ ∃ schema ∈ schemas, schema.name = name := by
  have added := Outcome.foldl_iff (containsTable · name = true) _
    (fun catalog schema => @containsTable_addSheet catalog name schema) schemas empty
  simpa [ofSchemas, eq_comm (a := name)] using added

end KeyCatalog

namespace Schema

variable {schema : Schema} {catalog left : KeyCatalog}

/-- What the scan does with the key of a row: an empty one is passed over, and any other that
    is a value is added, but stops the scan if it was there before. -/
theorem run_catalogKey (key : Fin schema.columnCount) (row : Nat) :
    (schema.catalogKey key row).run.run catalog =
      if schema.text row key = "" then (.ok (), catalog)
      else
        match schema.value row key with
        | .error fault => (.error fault, catalog)
        | .ok text =>
          (if catalog.contains schema.name text then .error ⟨schema.locate row key, .keyRepeated text⟩ else .ok (),
            catalog.insert schema.name text) := by
  unfold catalogKey
  by_cases empty : schema.text row key = ""
  · simp only [empty, ne_eq, not_true_eq_false, ↓reduceIte]
    rfl
  · simp only [empty, ne_eq, not_false_eq_true, ↓reduceIte]
    rw [run_bind, run_lift]
    cases schema.value row key with
    | error fault => rfl
    | ok text =>
      cases known : catalog.contains schema.name text with
      | true => simp only [run_bind, run_get, run_modify, known, ↓reduceIte, run_throw]
      | false => simp only [run_bind, run_get, run_modify, known, Bool.false_eq_true, ↓reduceIte, run_pure]

/-- Where the key of a row is a value, the scan goes on behind it exactly if it is new. -/
theorem catalogKey_ok_iff {key : Fin schema.columnCount} {row : Nat} (held : schema.HasValue row key) :
    (schema.catalogKey key row).run.run catalog = (.ok (), left) ↔
      catalog.contains schema.name (schema.text row key) = false ∧
        left = catalog.insert schema.name (schema.text row key) := by
  rw [run_catalogKey, if_neg held.1, value_ok_iff.mpr ⟨held, rfl⟩]
  simp only [outcome_eq_iff]
  cases catalog.contains schema.name (schema.text row key) with
  | true => simp
  | false => simp [eq_comm (a := left)]

private theorem catalogRows_ok_iff {key : Fin schema.columnCount} (is_key : schema.primaryKey = some key) (count : Nat)
    (held : ∀ row < count, schema.HasValue row key) :
    ((List.range count).forM (schema.catalogKey key)).run.run catalog = (.ok (), left) ↔
      (∀ row < count, (∀ earlier < row, schema.keyText earlier ≠ schema.keyText row) ∧
        catalog.contains schema.name (schema.keyText row) = false) ∧ left = catalog.addRows schema count := by
  have text_is (row : Nat) : schema.text row key = schema.keyText row := by rw [keyText, is_key]
  induction count generalizing left with
  | zero =>
    rw [List.range_zero, forM_nil_ok_iff]
    simp [KeyCatalog.addRows]
  | succ count ih =>
    have rest_held : ∀ row < count, schema.HasValue row key := fun row before => held row (Nat.lt_succ_of_lt before)
    have last_new : (catalog.addRows schema count).contains schema.name (schema.keyText count) = false ↔
        (∀ earlier < count, schema.keyText earlier ≠ schema.keyText count) ∧
          catalog.contains schema.name (schema.keyText count) = false := by
      rw [← Bool.not_eq_true, KeyCatalog.contains_addRows, ← Bool.not_eq_true]
      push Not
      simp
    rw [List.range_succ, forM_concat, bind_ok_iff]
    simp only [ih rest_held, catalogKey_ok_iff (held count (Nat.lt_succ_self count)), text_is]
    constructor
    · rintro ⟨_, middle, ⟨rest_new, rfl⟩, new, rfl⟩
      refine ⟨?_, (KeyCatalog.addRows_succ catalog schema count).symm⟩
      intro row before
      rcases Nat.lt_succ_iff_lt_or_eq.mp before with earlier | rfl
      · exact rest_new row earlier
      · exact last_new.mp new
    · rintro ⟨new, rfl⟩
      exact ⟨(), _, ⟨fun row before => new row (Nat.lt_succ_of_lt before), rfl⟩,
        last_new.mpr (new count (Nat.lt_succ_self count)), KeyCatalog.addRows_succ catalog schema count⟩

/-- Rows without a key of their own are numbered, and never stop the scan. -/
theorem run_numberRows (no_key : schema.primaryKey = none) (count : Nat) :
    ((List.range count).forM fun row =>
      (modify (·.insert schema.name (rowKey row)) : Cataloguing Unit)).run.run catalog =
      (.ok (), catalog.addRows schema count) := by
  induction count with
  | zero => rfl
  | succ count ih =>
    have text_is : schema.keyText count = rowKey count := by rw [keyText, no_key]
    rw [List.range_succ, forM_concat, run_bind, ih, KeyCatalog.addRows_succ, text_is]
    rfl

/-- The scan gets past a filled sheet exactly if the keys of its rows are new among each other and in the catalog, or
    if they are numbers that it gives them. -/
theorem catalogKeys_ok_iff (filled : schema.IsFilled) :
    schema.catalogKeys.run.run catalog = (.ok (), left) ↔
      (schema.primaryKey.isSome = true → ∀ row < schema.rowCount,
        (∀ earlier < row, schema.keyText earlier ≠ schema.keyText row) ∧
          catalog.contains schema.name (schema.keyText row) = false) ∧ left = catalog.addSheet schema := by
  unfold catalogKeys
  rw [run_bind, run_modify]
  cases is_key : schema.primaryKey with
  | none =>
    simp only [run_numberRows is_key, Option.isSome_none, Bool.false_eq_true, false_implies, true_and, outcome_eq_iff,
      KeyCatalog.addSheet]
    exact eq_comm
  | some key =>
    simp only [catalogRows_ok_iff is_key schema.rowCount (fun row before => filled row before key),
      KeyCatalog.contains_register, Option.isSome_some, true_implies, KeyCatalog.addSheet]

/-- The keys of a sheet are those of no earlier row under its name, unless they are the numbers of its rows. -/
def IsNewAfter (schema : Schema) (earlier : List Schema) : Prop :=
  schema.primaryKey.isSome = true → ∀ row < schema.rowCount,
    (∀ before < row, schema.keyText before ≠ schema.keyText row) ∧
      ∀ other ∈ earlier, other.name = schema.name →
        ∀ before < other.rowCount, other.keyText before ≠ schema.keyText row

end Schema

namespace Tables

/-- Every sheet has new keys where the scan comes to it. -/
def KeysAreNew (schemas : List Schema) : Prop :=
  ∀ earlier schema later, schemas = earlier ++ schema :: later → schema.IsNewAfter earlier

theorem keysAreNew_concat {schemas : List Schema} {schema : Schema} :
    KeysAreNew (schemas ++ [schema]) ↔ KeysAreNew schemas ∧ schema.IsNewAfter schemas := by
  constructor
  · intro new
    refine ⟨?_, new schemas schema [] rfl⟩
    rintro earlier other later rfl
    exact new earlier other (later ++ [schema]) (by simp)
  · rintro ⟨rest_new, last_new⟩ earlier other later same
    rcases List.eq_nil_or_concat later with rfl | ⟨rest, last, rfl⟩
    · obtain ⟨rfl, equal⟩ := List.append_inj' same rfl
      cases equal
      exact last_new
    · have shifted : schemas ++ [schema] = (earlier ++ other :: rest) ++ [last] := by simpa using same
      obtain ⟨rfl, _⟩ := List.append_inj' shifted rfl
      exact rest_new earlier other rest rfl

/-- The scan gets through filled sheets exactly if all of them have new keys, and leaves the catalog of the sheets. -/
theorem catalogKeys_ok_iff {schemas : List Schema} {left : KeyCatalog}
    (filled : ∀ schema ∈ schemas, schema.IsFilled) :
    (catalogKeys schemas).run.run KeyCatalog.empty = (.ok (), left) ↔
      KeysAreNew schemas ∧ left = KeyCatalog.ofSchemas schemas := by
  induction schemas using List.reverseRecOn generalizing left with
  | nil =>
    rw [catalogKeys, forM_nil_ok_iff]
    simp [KeysAreNew, KeyCatalog.ofSchemas]
  | append_singleton schemas schema ih =>
    have rest_filled : ∀ other ∈ schemas, other.IsFilled := fun other member => filled other (by simp [member])
    have new_iff : schema.IsNewAfter schemas ↔ (schema.primaryKey.isSome = true → ∀ row < schema.rowCount,
        (∀ earlier < row, schema.keyText earlier ≠ schema.keyText row) ∧
          (KeyCatalog.ofSchemas schemas).contains schema.name (schema.keyText row) = false) := by
      simp only [Schema.IsNewAfter, ← Bool.not_eq_true, KeyCatalog.contains_ofSchemas]
      push Not
      rfl
    rw [keysAreNew_concat, new_iff, catalogKeys, forM_concat, bind_ok_iff, KeyCatalog.ofSchemas_concat]
    constructor
    · rintro ⟨_, middle, rest, last⟩
      obtain ⟨rest_new, rfl⟩ := (ih rest_filled).mp rest
      obtain ⟨new, rfl⟩ := (Schema.catalogKeys_ok_iff (filled schema (by simp))).mp last
      exact ⟨⟨rest_new, new⟩, rfl⟩
    · rintro ⟨⟨rest_new, new⟩, rfl⟩
      exact ⟨(), _, (ih rest_filled).mpr ⟨rest_new, rfl⟩,
        (Schema.catalogKeys_ok_iff (filled schema (by simp))).mpr ⟨new, rfl⟩⟩

variable {schemas : List Schema} {catalog left : KeyCatalog}

theorem run_extract_stopped {fault : Fault} (stopped : ((catalogKeys schemas).run.run catalog).1 = .error fault) :
    ((extract schemas).run.run catalog).1 = .error fault := by
  rw [extract, run_bind_error (Prod.ext stopped rfl)]

theorem run_extract_collected (collected : (catalogKeys schemas).run.run catalog = (.ok (), left)) :
    (extract schemas).run.run catalog = (checkForeignKeys schemas left >>= fun _ => read schemas, left) := by
  rw [extract, run_bind_ok collected, run_bind_ok (run_get left)]
  simp only [run_bind, run_lift]
  cases checkForeignKeys schemas left <;> rfl

end Tables

end Tablesmith
