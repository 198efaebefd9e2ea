import Mathlib
import Tablesmith.Proofs.Extract.Completeness
import Tablesmith.Proofs.Extract.Cursor

/-!
# Extractors that are called again

The cursor of an extractor has no influence on a later call, but the keys that an
extractor of tables has collected have: the first key that is written in any sheet is
found to be repeated once a call has collected it. So an extractor that has collected
keys extracts as a fresh one does only where no sheet writes a key, or where the fresh
one gets no further than the first of them (`extract_after_iff`). An extractor of texts
keeps nothing.
-/

namespace Tablesmith

open Extractor Steps

/-- What an extractor of tables can be called for. -/
inductive TableCall
  | collectKeys
  | checkReferences
  | read
  | extract

/-- What an extractor of texts can be called for. -/
inductive StringCall
  | names
  | read
  | extract

namespace TableCall

/-- The call collects keys, maybe among other things. -/
def Collects (call : TableCall) : Prop :=
  call = collectKeys ∨ call = extract

/-- The extractor as the call leaves it, whether the call succeeds or stops. -/
def perform (schemas : List Schema) (call : TableCall) (extractor : TableExtractor) : TableExtractor :=
  match call with
  | collectKeys => ((TableExtractor.collectKeys schemas).run.run extractor).2
  | checkReferences => ((TableExtractor.checkReferences schemas).run.run extractor).2
  | read => ((TableExtractor.read schemas).run.run extractor).2
  | extract => ((TableExtractor.extract schemas).run.run extractor).2

end TableCall

/-- The extractor as the call leaves it, whether the call succeeds or stops. -/
def StringCall.perform (schemas : List Schema) (call : StringCall) (extractor : StringExtractor) : StringExtractor :=
  match call with
  | names => ((StringExtractor.names schemas).run.run extractor).2
  | read => ((StringExtractor.read schemas).run.run extractor).2
  | extract => ((StringExtractor.extract schemas).run.run extractor).2

/-- An extractor of tables behind some calls. -/
def TableExtractor.after (schemas : List Schema) (calls : List TableCall) : TableExtractor :=
  calls.foldl (fun extractor call => call.perform schemas extractor) fresh

/-- An extractor of texts behind some calls. -/
def StringExtractor.after (schemas : List Schema) (calls : List StringCall) : StringExtractor :=
  calls.foldl (fun extractor call => call.perform schemas extractor) fresh

/-- Every key that is in the catalog before the step is there behind it, also where the step stops. -/
def Retains {α : Type} (step : Cataloguing α) : Prop :=
  ∀ catalog name key, catalog.contains name key = true → (step.run.run catalog).2.contains name key = true

section retains
variable {α β : Type}

theorem retains_modify {change : KeyCatalog → KeyCatalog}
    (grows : ∀ catalog name key, catalog.contains name key = true → (change catalog).contains name key = true) :
    Retains (modify change : Cataloguing PUnit) :=
  grows

theorem contains_bind {step : Cataloguing α} {next : α → Cataloguing β} (retains : ∀ result, Retains (next result))
    {catalog : KeyCatalog} {name key : String} (held : (step.run.run catalog).2.contains name key = true) :
    ((step >>= next).run.run catalog).2.contains name key = true := by
  rw [run_bind]
  rcases stepped : step.run.run catalog with ⟨fault | result, left⟩ <;> rw [stepped] at held
  · exact held
  · exact retains result left name key held

theorem Retains.bind {step : Cataloguing α} {next : α → Cataloguing β} (first : Retains step)
    (second : ∀ result, Retains (next result)) : Retains (step >>= next) :=
  fun catalog name key known => contains_bind second (first catalog name key known)

theorem Retains.forM {step : α → Cataloguing Unit} (retains : ∀ item, Retains (step item)) (items : List α) :
    Retains (items.forM step) := by
  rw [List.forM_eq_forM]
  induction items with
  | nil => exact fun _ _ _ known => known
  | cons item items ih =>
    rw [List.forM_cons]
    exact (retains item).bind fun _ => ih

theorem retains_insert (table key : String) : Retains (modify (·.insert table key) : Cataloguing PUnit) :=
  retains_modify fun _ _ _ known => KeyCatalog.contains_insert.mpr (.inr known)

theorem retains_catalogKey (schema : Schema) (key : Fin schema.columnCount) (row : Nat) :
    Retains (schema.catalogKey key row) := by
  intro catalog name other known
  rw [Schema.run_catalogKey]
  by_cases empty : schema.text row key = ""
  · rwa [if_pos empty]
  · rw [if_neg empty]
    cases schema.value row key with
    | error fault => exact known
    | ok text => exact KeyCatalog.contains_insert.mpr (.inr known)

theorem retains_catalogKeys (schemas : List Schema) : Retains (Tables.catalogKeys schemas) := by
  refine Retains.forM (fun schema => Retains.bind (retains_modify ?_) fun _ => ?_) schemas
  · intro catalog name key known
    rwa [KeyCatalog.contains_register]
  · cases schema.primaryKey with
    | none => exact Retains.forM (fun row => retains_insert _ _) _
    | some key => exact Retains.forM (retains_catalogKey schema key) _

end retains

namespace Schema

variable {schema : Schema} {catalog : KeyCatalog}

/-- The column of the primary key is empty in all rows, or there is none. -/
def WritesNoKey (schema : Schema) : Prop :=
  ∀ key, schema.primaryKey = some key → ∀ row < schema.rowCount, schema.text row key = ""

end Schema

/-- The catalog with a sheet and the numbers that its rows have in place of keys. -/
def KeyCatalog.addNumbers (catalog : KeyCatalog) (schema : Schema) : KeyCatalog :=
  match schema.primaryKey with
  | some _ => catalog.register schema.name
  | none => catalog.addSheet schema

/-- The catalog with some sheets and the numbers that their rows have in place of keys. -/
def KeyCatalog.addAllNumbers (catalog : KeyCatalog) (schemas : List Schema) : KeyCatalog :=
  schemas.foldl addNumbers catalog

namespace Schema

variable {schema : Schema} {catalog : KeyCatalog}

theorem run_catalogKey_empty {key : Fin schema.columnCount} {row : Nat} (empty : schema.text row key = "") :
    (schema.catalogKey key row).run.run catalog = (.ok (), catalog) := by
  rw [run_catalogKey, if_pos empty]

theorem run_emptyRows {key : Fin schema.columnCount} (count : Nat) (empty : ∀ row < count, schema.text row key = "") :
    ((List.range count).forM (schema.catalogKey key)).run.run catalog = (.ok (), catalog) := by
  induction count with
  | zero => rfl
  | succ count ih =>
    have rest := ih fun row before => empty row (Nat.lt_succ_of_lt before)
    rw [List.range_succ, forM_concat, run_bind, rest]
    exact run_catalogKey_empty (empty count (Nat.lt_succ_self count))

theorem WritesNoKey.run_catalogKeys (unwritten : schema.WritesNoKey) :
    schema.catalogKeys.run.run catalog = (.ok (), catalog.addNumbers schema) := by
  unfold catalogKeys KeyCatalog.addNumbers
  rw [run_bind, run_modify]
  cases is_key : schema.primaryKey with
  | none => exact run_numberRows is_key schema.rowCount
  | some key => exact run_emptyRows schema.rowCount (unwritten key is_key)

end Schema

namespace Tables

variable {schemas : List Schema} {catalog : KeyCatalog}

theorem run_catalogKeys_append {before rest : List Schema} (unwritten : ∀ schema ∈ before, schema.WritesNoKey) :
    (catalogKeys (before ++ rest)).run.run catalog =
      (catalogKeys rest).run.run (catalog.addAllNumbers before) := by
  induction before generalizing catalog with
  | nil => rfl
  | cons schema before ih =>
    have first : schema.catalogKeys.run.run catalog = (.ok (), catalog.addNumbers schema) :=
      (unwritten schema List.mem_cons_self).run_catalogKeys
    have others : (catalogKeys (before ++ rest)).run.run (catalog.addNumbers schema) =
        (catalogKeys rest).run.run ((catalog.addNumbers schema).addAllNumbers before) :=
      ih fun other member => unwritten other (List.mem_cons_of_mem _ member)
    unfold catalogKeys at others ⊢
    rw [List.forM_eq_forM, List.cons_append, List.forM_cons, run_bind, first]
    exact others

/-- The cell is the first that the scan comes to of those that write a key. -/
structure WritesFirst (schemas : List Schema) (schema : Schema) (key : Fin schema.columnCount) (row : Nat) : Prop where
  placed : ∃ before after, schemas = before ++ schema :: after ∧ ∀ other ∈ before, other.WritesNoKey
  is_key : schema.primaryKey = some key
  row_in : row < schema.rowCount
  written : schema.text row key ≠ ""
  unwritten : ∀ earlier < row, schema.text earlier key = ""

theorem exists_writesFirst (some_written : ∃ schema ∈ schemas, ¬ schema.WritesNoKey) :
    ∃ schema key row, WritesFirst schemas schema key row := by
  classical
  induction schemas with
  | nil => simp at some_written
  | cons schema schemas ih =>
    by_cases unwritten : schema.WritesNoKey
    · have later : ∃ other ∈ schemas, ¬ other.WritesNoKey := by
        obtain ⟨other, member, writes⟩ := some_written
        rcases List.mem_cons.mp member with rfl | member
        · exact absurd unwritten writes
        · exact ⟨other, member, writes⟩
      obtain ⟨found, key, row, first⟩ := ih later
      obtain ⟨before, after, rfl, all_unwritten⟩ := first.placed
      refine ⟨found, key, row, { first with placed := ⟨schema :: before, after, rfl, ?_⟩ }⟩
      exact List.forall_mem_cons.mpr ⟨unwritten, all_unwritten⟩
    · unfold Schema.WritesNoKey at unwritten
      push Not at unwritten
      obtain ⟨key, is_key, written⟩ := unwritten
      obtain ⟨row_in, is_written⟩ := Nat.find_spec written
      refine ⟨schema, key, Nat.find written, ⟨[], schemas, rfl, by simp⟩, is_key, row_in, is_written, ?_⟩
      intro earlier before
      by_contra also_written
      exact Nat.find_min written before ⟨before.trans row_in, also_written⟩

variable {schema : Schema} {key : Fin schema.columnCount} {row : Nat}

theorem range_eq_split {row count : Nat} (row_in : row < count) :
    ∃ later, List.range count = List.range row ++ row :: later := by
  obtain ⟨rest, rfl⟩ := Nat.exists_eq_add_of_lt row_in
  refine ⟨(List.range rest).map (row + Nat.succ ·), ?_⟩
  rw [Nat.add_assoc, List.range_add, List.range_succ_eq_map, List.map_cons, List.map_map]
  rfl

theorem run_unwritten {before : List Schema} (unwritten : ∀ schema ∈ before, schema.WritesNoKey) :
    (catalogKeys before).run.run catalog = (.ok (), catalog.addAllNumbers before) := by
  have all : (catalogKeys (before ++ [])).run.run catalog = (.ok (), catalog.addAllNumbers before) :=
    run_catalogKeys_append unwritten
  rwa [List.append_nil] at all

/-- Up to the first key the scan does nothing but number rows. -/
theorem WritesFirst.run_catalogKeys (first : WritesFirst schemas schema key row) (catalog : KeyCatalog) :
    ∃ reached rest, Retains rest ∧
      (∀ name other, catalog.contains name other = true → reached.contains name other = true) ∧
      (catalogKeys schemas).run.run catalog = (schema.catalogKey key row >>= fun _ => rest).run.run reached := by
  obtain ⟨before, after, rfl, unwritten⟩ := first.placed
  obtain ⟨later, rows_are⟩ := range_eq_split first.row_in
  refine ⟨(catalog.addAllNumbers before).register schema.name,
    later.forM (schema.catalogKey key) >>= fun _ => catalogKeys after, ?_, ?_, ?_⟩
  · exact (Retains.forM (retains_catalogKey schema key) later).bind fun _ => retains_catalogKeys after
  · intro name other known
    have numbered := retains_catalogKeys before catalog name other known
    rw [run_unwritten unwritten] at numbered
    rwa [KeyCatalog.contains_register]
  · have sheet_is : schema.catalogKeys = (modify (·.register schema.name) >>= fun _ =>
        (List.range row).forM (schema.catalogKey key) >>= fun _ =>
          schema.catalogKey key row >>= fun _ => later.forM (schema.catalogKey key) : Cataloguing Unit) := by
      unfold Schema.catalogKeys
      simp only [first.is_key, rows_are, List.forM_eq_forM, List.forM_append, List.forM_cons]
    rw [run_catalogKeys_append unwritten]
    unfold catalogKeys
    rw [List.forM_eq_forM, List.forM_cons, sheet_is]
    simp only [bind_assoc]
    rw [run_bind_ok (run_modify _ _), run_bind_ok (Schema.run_emptyRows row first.unwritten), List.forM_eq_forM]

theorem WritesFirst.run_stopped (first : WritesFirst schemas schema key row) {fault : Fault}
    (refused : schema.value row key = .error fault) (catalog : KeyCatalog) :
    ((catalogKeys schemas).run.run catalog).1 = .error fault := by
  obtain ⟨reached, rest, -, -, scan⟩ := first.run_catalogKeys catalog
  rw [scan, run_bind, Schema.run_catalogKey, if_neg first.written, refused]

theorem WritesFirst.run_repeated (first : WritesFirst schemas schema key row) (held : schema.HasValue row key)
    (known : catalog.contains schema.name (schema.text row key) = true) :
    ((catalogKeys schemas).run.run catalog).1 =
      .error ⟨schema.locate row key, .keyRepeated (schema.text row key)⟩ := by
  obtain ⟨reached, rest, -, grown, scan⟩ := first.run_catalogKeys catalog
  rw [scan, run_bind, Schema.run_catalogKey, if_neg first.written, Schema.value_ok_iff.mpr ⟨held, rfl⟩]
  simp only [grown _ _ known, ↓reduceIte]

/-- Whether the scan stops or not, the first key is in the catalog behind it. -/
theorem WritesFirst.contains_key (first : WritesFirst schemas schema key row) (held : schema.HasValue row key)
    (catalog : KeyCatalog) :
    ((catalogKeys schemas).run.run catalog).2.contains schema.name (schema.text row key) = true := by
  obtain ⟨reached, rest, retains, -, scan⟩ := first.run_catalogKeys catalog
  rw [scan]
  refine contains_bind (fun _ => retains) ?_
  rw [Schema.run_catalogKey, if_neg first.written, Schema.value_ok_iff.mpr ⟨held, rfl⟩]
  exact KeyCatalog.contains_insert.mpr (.inl ⟨rfl, rfl⟩)

end Tables

namespace KeyCatalog

variable {catalog other : KeyCatalog} {schema : Schema} {name key : String}

/-- The catalogs know the same tables with the same keys. -/
structure SameView (catalog other : KeyCatalog) : Prop where
  tables : ∀ name, catalog.containsTable name = other.containsTable name
  keys : ∀ name key, catalog.contains name key = other.contains name key

theorem containsTable_addNumbers :
    (catalog.addNumbers schema).containsTable name = true ↔ name = schema.name ∨ catalog.containsTable name = true := by
  unfold addNumbers
  cases schema.primaryKey with
  | some _ => exact containsTable_register
  | none => exact containsTable_addSheet

theorem contains_addNumbers : (catalog.addNumbers schema).contains name key = true ↔
    (schema.primaryKey = none ∧ name = schema.name ∧ ∃ row < schema.rowCount, schema.keyText row = key) ∨
      catalog.contains name key = true := by
  unfold addNumbers
  cases schema.primaryKey with
  | some _ => simp [contains_register]
  | none => simp [contains_addSheet]

/-- What the catalog knows the other knows. -/
structure Within (catalog other : KeyCatalog) : Prop where
  tables : ∀ name, catalog.containsTable name = true → other.containsTable name = true
  keys : ∀ name key, catalog.contains name key = true → other.contains name key = true

variable {schemas : List Schema}

theorem containsTable_addAllNumbers : (catalog.addAllNumbers schemas).containsTable name = true ↔
    (∃ schema ∈ schemas, name = schema.name) ∨ catalog.containsTable name = true :=
  Outcome.foldl_iff (containsTable · name = true) _
    (fun catalog schema => @containsTable_addNumbers catalog schema name) schemas catalog

theorem contains_addAllNumbers : (catalog.addAllNumbers schemas).contains name key = true ↔
    (∃ schema ∈ schemas, schema.primaryKey = none ∧ name = schema.name ∧
      ∃ row < schema.rowCount, schema.keyText row = key) ∨ catalog.contains name key = true :=
  Outcome.foldl_iff (contains · name key = true) _
    (fun catalog schema => @contains_addNumbers catalog schema name key) schemas catalog

/-- A catalog that knows nothing else makes no difference. -/
theorem Within.sameView (within : catalog.Within (empty.addAllNumbers schemas)) :
    (catalog.addAllNumbers schemas).SameView (empty.addAllNumbers schemas) := by
  refine ⟨fun name => ?_, fun name key => ?_⟩
  · have known := within.tables name
    rw [Bool.eq_iff_iff, containsTable_addAllNumbers]
    rw [containsTable_addAllNumbers] at known ⊢
    simp only [containsTable_empty, Bool.false_eq_true, or_false] at known ⊢
    exact or_iff_left_of_imp known
  · have known := within.keys name key
    rw [Bool.eq_iff_iff, contains_addAllNumbers]
    rw [contains_addAllNumbers] at known ⊢
    simp only [contains_empty, Bool.false_eq_true, or_false] at known ⊢
    exact or_iff_left_of_imp known

theorem within_empty : empty.Within catalog :=
  ⟨fun _ known => by simp at known, fun _ _ known => by simp at known⟩

theorem SameView.within (same : catalog.SameView other) : catalog.Within other :=
  ⟨fun name => (same.tables name ▸ id), fun name key => (same.keys name key ▸ id)⟩

end KeyCatalog

namespace Tables

variable {schemas : List Schema} {catalog other left : KeyCatalog}

theorem checkForeignKeys_congr (same : catalog.SameView other) :
    checkForeignKeys schemas catalog = checkForeignKeys schemas other := by
  have reference (schema : Schema) : schema.checkReference catalog = schema.checkReference other := by
    funext reference row
    simp only [Schema.checkReference, same.keys]
  have foreignKey (schema : Schema) : schema.checkForeignKey catalog = schema.checkForeignKey other := by
    funext foreignKey
    simp only [Schema.checkForeignKey, same.tables, reference]
  have sheet : (fun schema : Schema => schema.checkForeignKeys catalog) = (·.checkForeignKeys other) := by
    funext schema
    simp only [Schema.checkForeignKeys, foreignKey]
  exact congrArg schemas.forM sheet

/-- What comes behind the scan does not change the catalog. -/
theorem catalog_extract (schemas : List Schema) (catalog : KeyCatalog) :
    ((extract schemas).run.run catalog).2 = ((catalogKeys schemas).run.run catalog).2 := by
  rcases collected : (catalogKeys schemas).run.run catalog with ⟨fault | _, left⟩
  · rw [extract, run_bind_error collected]
  · rw [run_extract_collected collected]

end Tables

namespace TableCall

variable {schemas : List Schema} {call : TableCall}

theorem kept_collecting (collects : call.Collects) (extractor : TableExtractor) :
    (call.perform schemas extractor).kept = ((Tables.catalogKeys schemas).run.run extractor.kept).2 := by
  rcases collects with rfl | rfl
  · exact ((TableExtractor.follows_collectKeys schemas).run extractor).2
  · exact ((TableExtractor.follows_extract schemas).run extractor).2.trans (Tables.catalog_extract schemas _)

theorem kept_reading (reads : ¬ call.Collects) (extractor : TableExtractor) :
    (call.perform schemas extractor).kept = extractor.kept := by
  cases call with
  | collectKeys => exact absurd (.inl rfl) reads
  | extract => exact absurd (.inr rfl) reads
  | checkReferences => exact ((TableExtractor.reads_checkReferences schemas).run extractor).2
  | read => exact ((TableExtractor.reads_read schemas).run extractor).2

end TableCall

namespace TableExtractor

open Tables

variable {schemas : List Schema}

theorem after_concat (schemas : List Schema) (calls : List TableCall) (call : TableCall) :
    after schemas (calls ++ [call]) = call.perform schemas (after schemas calls) :=
  List.foldl_concat _ _ _ _

theorem kept_after_reading {calls : List TableCall} (reading : ∀ call ∈ calls, ¬ call.Collects) :
    (after schemas calls).kept = KeyCatalog.empty := by
  induction calls using List.reverseRecOn with
  | nil => rfl
  | append_singleton calls call ih =>
    rw [after_concat, TableCall.kept_reading (reading call (by simp))]
    exact ih fun earlier member => reading earlier (List.mem_append_left _ member)

/-- Once a call has collected keys the extractor has the first key, whatever is called later. -/
theorem contains_after_collecting {schema : Schema} {key : Fin schema.columnCount} {row : Nat} {calls : List TableCall}
    (first : WritesFirst schemas schema key row) (held : schema.HasValue row key)
    (collecting : ∃ call ∈ calls, call.Collects) :
    (after schemas calls).kept.contains schema.name (schema.text row key) = true := by
  induction calls using List.reverseRecOn with
  | nil => simp at collecting
  | append_singleton calls call ih =>
    rw [after_concat]
    by_cases collects : call.Collects
    · rw [TableCall.kept_collecting collects]
      exact first.contains_key held _
    · rw [TableCall.kept_reading collects]
      refine ih ?_
      obtain ⟨other, member, other_collects⟩ := collecting
      rcases List.mem_append.mp member with earlier | last
      · exact ⟨other, earlier, other_collects⟩
      · rw [List.mem_singleton.mp last] at other_collects
        exact absurd other_collects collects

/-- Where no sheet writes a key the extractor never has more than numbers. -/
theorem within_after (unwritten : ∀ schema ∈ schemas, schema.WritesNoKey) (calls : List TableCall) :
    (after schemas calls).kept.Within (KeyCatalog.empty.addAllNumbers schemas) := by
  induction calls using List.reverseRecOn with
  | nil => exact KeyCatalog.within_empty
  | append_singleton calls call ih =>
    rw [after_concat]
    by_cases collects : call.Collects
    · rw [TableCall.kept_collecting collects, run_unwritten unwritten]
      exact ih.sameView.within
    · rwa [TableCall.kept_reading collects]

/-- The first key that is written, if it is a value, is where a fresh extractor stops, finding it repeated. -/
def FirstKeyRefused (schemas : List Schema) : Prop :=
  ∀ (schema : Schema) (key : Fin schema.columnCount) (row : Nat), WritesFirst schemas schema key row →
    schema.HasValue row key →
      ((extract schemas).run.run fresh).1 =
        .error ⟨schema.locate row key, .keyRepeated (schema.text row key)⟩

theorem outcome_after_collecting {schema : Schema} {key : Fin schema.columnCount} {row : Nat} {calls : List TableCall}
    (first : WritesFirst schemas schema key row) (held : schema.HasValue row key)
    (collecting : ∃ call ∈ calls, call.Collects) :
    ((extract schemas).run.run (after schemas calls)).1 =
      .error ⟨schema.locate row key, .keyRepeated (schema.text row key)⟩ := by
  rw [outcome_extract]
  exact run_extract_stopped (first.run_repeated held (contains_after_collecting first held collecting))

theorem outcome_unwritten (unwritten : ∀ schema ∈ schemas, schema.WritesNoKey) (calls : List TableCall) :
    ((extract schemas).run.run (after schemas calls)).1 = ((extract schemas).run.run fresh).1 := by
  have same := (within_after unwritten calls).sameView
  rw [outcome_extract, outcome_extract, run_extract_collected (run_unwritten unwritten),
    run_extract_collected (run_unwritten unwritten), checkForeignKeys_congr same]
  rfl

theorem outcome_after_reading {calls : List TableCall} (reading : ∀ call ∈ calls, ¬ call.Collects) :
    ((extract schemas).run.run (after schemas calls)).1 = ((extract schemas).run.run fresh).1 := by
  rw [outcome_extract, outcome_extract, kept_after_reading reading]
  rfl

/-- The first key stops the fresh extractor too: as a text that is no value, or because it is found repeated. -/
theorem outcome_after_refused {calls : List TableCall} (collecting : ∃ call ∈ calls, call.Collects)
    (refused : FirstKeyRefused schemas) :
    ((extract schemas).run.run (after schemas calls)).1 = ((extract schemas).run.run fresh).1 := by
  by_cases some_written : ∃ schema ∈ schemas, ¬ schema.WritesNoKey
  · obtain ⟨schema, key, row, first⟩ := exists_writesFirst some_written
    cases valued : schema.value row key with
    | error fault =>
      rw [outcome_extract, outcome_extract, run_extract_stopped (first.run_stopped valued _),
        run_extract_stopped (first.run_stopped valued _)]
    | ok value =>
      have held := (Schema.value_ok_iff.mp valued).1
      rw [outcome_after_collecting first held collecting, refused schema key row first held]
  · push Not at some_written
    exact outcome_unwritten some_written calls

theorem outcome_after_iff (schemas : List Schema) (calls : List TableCall) :
    ((extract schemas).run.run (after schemas calls)).1 = ((extract schemas).run.run fresh).1 ↔
      (∀ call ∈ calls, ¬ call.Collects) ∨ FirstKeyRefused schemas := by
  by_cases collecting : ∃ call ∈ calls, call.Collects
  · have not_reading : ¬ ∀ call ∈ calls, ¬ call.Collects := by simpa using collecting
    rw [or_iff_right not_reading]
    refine ⟨fun same schema key row first held => ?_, outcome_after_refused collecting⟩
    rw [← same]
    exact outcome_after_collecting first held collecting
  · have reading : ∀ call ∈ calls, ¬ call.Collects := by simpa using collecting
    exact iff_of_true (outcome_after_reading reading) (.inl reading)

end TableExtractor

/-- An extractor of tables that has collected keys extracts as a fresh one does exactly where the fresh one stops at
    the first key that is written in any sheet and finds it repeated, or no such key is a value; one that has not
    collected keys, and an extractor of texts, always do. -/
theorem extract_after_iff (schemas : List Schema) (calls : List TableCall) (stringCalls : List StringCall) :
    (((TableExtractor.extract schemas).run.run (TableExtractor.after schemas calls)).1 =
        ((TableExtractor.extract schemas).run.run TableExtractor.fresh).1 ↔
      (∀ call ∈ calls, ¬ call.Collects) ∨ TableExtractor.FirstKeyRefused schemas) ∧
    ((StringExtractor.extract schemas).run.run (StringExtractor.after schemas stringCalls)).1 =
      ((StringExtractor.extract schemas).run.run StringExtractor.fresh).1 := by
  refine ⟨TableExtractor.outcome_after_iff schemas calls, ?_⟩
  rw [((StringExtractor.reads_extract schemas).run _).1, ((StringExtractor.reads_extract schemas).run _).1]

/-- A sheet with one item is read once, but when it is read again its key is found repeated. -/
theorem extract_again_refuses_sword :
    Item.sword.schema.IsDiscovered ∧
    (∃ tables, ((TableExtractor.extract [Item.sword.schema]).run.run TableExtractor.fresh).1 = .ok tables) ∧
    ((TableExtractor.extract [Item.sword.schema]).run.run (TableExtractor.after [Item.sword.schema] [.extract])).1 =
      .error ⟨Item.sword.schema.locate 0 (0 : Fin 2), .keyRepeated "a"⟩ := by
  have proper : ∀ item ∈ [Item.sword], item.IsProper := by simp [Item.sword_isProper]
  have valid := Tables.itemSheets_valid proper (by simp)
  have first : Tables.WritesFirst [Item.sword.schema] Item.sword.schema (0 : Fin 2) 0 :=
    ⟨⟨[], [], rfl, by simp⟩, Item.primaryKey_schema _, by simp [Item.rowCount_schema],
      ne_of_eq_of_ne (Item.text_zero _) (by decide), by simp⟩
  have held : Item.sword.schema.HasValue 0 (0 : Fin 2) :=
    Item.sword_isProper.isFilled 0 (by simp [Item.rowCount_schema]) (0 : Fin 2)
  have text_is : Item.sword.schema.text 0 (0 : Fin 2) = "a" := Item.text_zero _
  refine ⟨Item.sword_isProper.discovered, ⟨Tables.ofSchemas [Item.sword.schema], ?_⟩, ?_⟩
  · rw [TableExtractor.outcome_extract]
    exact congrArg Prod.fst (Tables.extract_ok_iff.mpr ⟨valid, rfl, rfl⟩)
  · have collecting : ∃ call ∈ [TableCall.extract], call.Collects := ⟨_, List.mem_singleton_self _, .inr rfl⟩
    have again := TableExtractor.outcome_after_collecting first held collecting
    rwa [text_is] at again

end Tablesmith
