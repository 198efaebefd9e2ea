import Mathlib
import Tablesmith.Extract.Extractor
import Tablesmith.Proofs.Extract.Rows

/-!
# The cursor

A fault found with a cursor is at the place that the extraction without one computes
for it (`TableExtractor.follows_extract`, `StringExtractor.reads_extract`): within a
sheet the cursor always has the names of the sheet, and a check moves it to its own
column and cell first. So what a call does depends on what the extractor keeps, and not
on where the calls before have left the cursor.
-/

namespace Tablesmith

namespace Extractor

open Steps

variable {κ α β : Type} {before middle behind : Location → Prop}

/-- From a place that `before` holds of the call ends with an outcome that what is kept determines, keeps the same,
    and unless it stops is at a place that `behind` holds of. -/
def Reads (before behind : Location → Prop) (call : Extracting κ α) (outcome : κ → Except Fault α) : Prop :=
  ∀ kept place, before place → ∃ last, call.run.run ⟨kept, place⟩ = (outcome kept, ⟨kept, last⟩) ∧
    ((∃ result, outcome kept = .ok result) → behind last)

/-- From a place that `before` holds of the call does what a step does that has no place, and unless it stops is at
    a place that `behind` holds of. -/
def Follows (before behind : Location → Prop) (call : Extracting κ α) (step : ExceptT Fault (StateM κ) α) : Prop :=
  ∀ kept place, before place → ∃ last,
    call.run.run ⟨kept, place⟩ = ((step.run.run kept).1, ⟨(step.run.run kept).2, last⟩) ∧
      ((∃ result, (step.run.run kept).1 = .ok result) → behind last)

theorem reads_pure (result : α) : Reads before before (pure result : Extracting κ α) fun _ => .ok result :=
  fun _ place here => ⟨place, rfl, fun _ => here⟩

theorem reads_move {change : Location → Location} (moves : ∀ place, before place → behind (change place)) :
    Reads before behind (move change : Extracting κ Unit) fun _ => .ok () :=
  fun _ place here => ⟨change place, rfl, fun _ => moves place here⟩

/-- Where only one place is possible, a fault is there. -/
theorem reads_fail {place : Location} (problem : Problem) :
    Reads (· = place) behind (fail problem : Extracting κ α) fun _ => .error ⟨place, problem⟩ := by
  rintro kept here rfl
  refine ⟨here, rfl, ?_⟩
  rintro ⟨_, stopped⟩
  cases stopped

theorem run_check (text : String) (type : PropertyType) (extractor : Extractor κ) :
    (check text type).run.run extractor = (checkValue text type extractor.place, extractor) := by
  rw [check, run_bind, run_get]
  exact run_lift _ _

theorem reads_check {place : Location} (text : String) (type : PropertyType) :
    Reads (· = place) (· = place) (check text type : Extracting κ String) fun _ => checkValue text type place := by
  rintro kept here rfl
  exact ⟨here, run_check text type ⟨kept, here⟩, fun _ => rfl⟩

theorem Reads.bind {call : Extracting κ α} {outcome : κ → Except Fault α} {next : α → Extracting κ β}
    {following : κ → α → Except Fault β} (first : Reads before middle call outcome)
    (second : ∀ result, Reads middle behind (next result) fun kept => following kept result) :
    Reads before behind (call >>= next) fun kept => outcome kept >>= following kept := by
  intro kept place here
  obtain ⟨last, called, arrived⟩ := first kept place here
  rw [run_bind, called]
  beta_reduce
  cases result : outcome kept with
  | error fault =>
    refine ⟨last, rfl, ?_⟩
    rintro ⟨_, stopped⟩
    cases stopped
  | ok value => exact second value kept last (arrived ⟨value, result⟩)

/-- A call that only moves the cursor adds nothing to the outcome. -/
theorem Reads.following {call : Extracting κ Unit} {next : Extracting κ α} {outcome : κ → Except Fault α}
    (second : Reads middle behind next outcome) (first : Reads before middle call fun _ => .ok ()) :
    Reads before behind (call >>= fun _ => next) outcome :=
  first.bind fun _ => second

theorem Reads.weaken {call : Extracting κ α} {outcome : κ → Except Fault α} {earlier later : Location → Prop}
    (reads : Reads before behind call outcome) (sooner : ∀ place, earlier place → before place)
    (further : ∀ place, behind place → later place) : Reads earlier later call outcome := by
  intro kept place here
  obtain ⟨last, called, arrived⟩ := reads kept place (sooner place here)
  exact ⟨last, called, fun done => further last (arrived done)⟩

theorem Reads.foldlM {step : β → α → Extracting κ β} {plain : κ → β → α → Except Fault β}
    (reads : ∀ state item, Reads before before (step state item) fun kept => plain kept state item)
    (items : List α) (state : β) :
    Reads before before (items.foldlM step state) fun kept => items.foldlM (plain kept) state := by
  induction items generalizing state with
  | nil => exact reads_pure state
  | cons item items ih => exact (reads state item).bind ih

theorem Reads.forM {step : α → Extracting κ Unit} {plain : κ → α → Except Fault Unit}
    (reads : ∀ item, Reads before before (step item) fun kept => plain kept item) (items : List α) :
    Reads before before (items.forM step) fun kept => items.forM (plain kept) := by
  simp only [List.forM_eq_forM]
  induction items with
  | nil => exact reads_pure ()
  | cons item items ih =>
    simp only [List.forM_cons]
    exact (reads item).bind fun _ => ih

theorem Reads.follows {call : Extracting κ α} {outcome : κ → Except Fault α} {step : ExceptT Fault (StateM κ) α}
    (reads : Reads before behind call outcome) (stepped : ∀ kept, step.run.run kept = (outcome kept, kept)) :
    Follows before behind call step := by
  intro kept place here
  rw [stepped kept]
  exact reads kept place here

theorem Follows.bind {call : Extracting κ α} {step : ExceptT Fault (StateM κ) α} {next : α → Extracting κ β}
    {following : α → ExceptT Fault (StateM κ) β} (first : Follows before middle call step)
    (second : ∀ result, Follows middle behind (next result) (following result)) :
    Follows before behind (call >>= next) (step >>= following) := by
  intro kept place here
  obtain ⟨last, called, arrived⟩ := first kept place here
  rw [run_bind, called, run_bind]
  rcases stepped : step.run.run kept with ⟨fault | result, left⟩
  · refine ⟨last, rfl, ?_⟩
    rintro ⟨_, stopped⟩
    cases stopped
  · rw [stepped] at arrived
    exact second result left last (arrived ⟨result, rfl⟩)

theorem Follows.following {call : Extracting κ Unit} {next : Extracting κ α} {step : ExceptT Fault (StateM κ) α}
    (second : Follows middle behind next step) (first : Reads before middle call fun _ => .ok ()) :
    Follows before behind (call >>= fun _ => next) step := by
  intro kept place here
  obtain ⟨last, called, arrived⟩ := first kept place here
  rw [run_bind, called]
  exact second kept last (arrived ⟨(), rfl⟩)

theorem Follows.weaken {call : Extracting κ α} {step : ExceptT Fault (StateM κ) α} {later : Location → Prop}
    (follows : Follows before behind call step) (further : ∀ place, behind place → later place) :
    Follows before later call step := by
  intro kept place here
  obtain ⟨last, called, arrived⟩ := follows kept place here
  exact ⟨last, called, fun done => further last (arrived done)⟩

theorem Follows.forM {call : α → Extracting κ Unit} {step : α → ExceptT Fault (StateM κ) Unit}
    (follows : ∀ item, Follows before before (call item) (step item)) (items : List α) :
    Follows before before (items.forM call) (items.forM step) := by
  simp only [List.forM_eq_forM]
  induction items with
  | nil => exact fun _ place here => ⟨place, rfl, fun _ => here⟩
  | cons item items ih =>
    simp only [List.forM_cons]
    exact (follows item).bind fun _ => ih

theorem Reads.run {call : Extracting κ α} {outcome : κ → Except Fault α}
    (reads : Reads (fun _ => True) behind call outcome) (extractor : Extractor κ) :
    (call.run.run extractor).1 = outcome extractor.kept ∧ (call.run.run extractor).2.kept = extractor.kept := by
  obtain ⟨last, called, -⟩ := reads extractor.kept extractor.place trivial
  rw [called]
  exact ⟨rfl, rfl⟩

theorem Follows.run {call : Extracting κ α} {step : ExceptT Fault (StateM κ) α}
    (follows : Follows (fun _ => True) behind call step) (extractor : Extractor κ) :
    (call.run.run extractor).1 = (step.run.run extractor.kept).1 ∧
      (call.run.run extractor).2.kept = (step.run.run extractor.kept).2 := by
  obtain ⟨last, called, -⟩ := follows extractor.kept extractor.place trivial
  rw [called]
  exact ⟨rfl, rfl⟩

/-- The place is in the sheet. -/
def IsIn (schema : Schema) (place : Location) : Prop :=
  place.table = schema.table ∧ place.sheet = schema.name

theorem isIn_ofSheet (schema : Schema) : IsIn schema (Location.ofSheet schema.table schema.name) :=
  ⟨rfl, rfl⟩

theorem isIn_locate (schema : Schema) (row : Nat) (property : Fin schema.columnCount) :
    IsIn schema (schema.locate row property) :=
  ⟨rfl, rfl⟩

theorem reads_enterSheet (schema : Schema) : Reads (fun _ => True) (· = Location.ofSheet schema.table schema.name)
    (enterSheet schema : Extracting κ Unit) fun _ => .ok () :=
  reads_move fun _ _ => rfl

theorem reads_leave : Reads before (fun _ => True) (leave : Extracting κ Unit) fun _ => .ok () :=
  reads_move fun _ _ => trivial

theorem Reads.leaving {call : Extracting κ α} {outcome : κ → Except Fault α}
    (reads : Reads before (fun _ => True) call outcome) :
    Reads before (fun _ => True)
      (do
        let result ← call
        leave
        return result)
      outcome := by
  have returned (found : Except Fault α) : found >>= .ok = found := by cases found <;> rfl
  have left := reads.bind fun result => (reads_pure result).following reads_leave
  simpa only [returned] using left

variable {schema : Schema} {row : Nat} {property : Fin schema.columnCount}

theorem run_enterCell {kept : κ} {place : Location} (here : IsIn schema place) :
    (enterCell schema row property).run.run ⟨kept, place⟩ = (.ok (), ⟨kept, schema.locate row property⟩) := by
  obtain ⟨table, sheet, column, cell⟩ := place
  obtain ⟨rfl, rfl⟩ := here
  rfl

theorem reads_enterCell : Reads (IsIn schema) (· = schema.locate row property)
    (enterCell schema row property : Extracting κ Unit) fun _ => .ok () :=
  fun _ _ here => ⟨_, run_enterCell here, fun _ => rfl⟩

theorem reads_readValue : Reads (IsIn schema) (· = schema.locate row property)
    (readValue schema row property : Extracting κ String) fun _ => schema.value row property :=
  (reads_check _ _).following reads_enterCell

theorem reads_value : Reads (IsIn schema) (IsIn schema) (readValue schema row property : Extracting κ String)
    fun _ => schema.value row property :=
  reads_readValue.weaken (fun _ here => here) fun _ here => here ▸ isIn_locate schema row property

/-- Where a choice depends on what is kept, both calls that it is between count. -/
theorem reads_choice (condition : κ → Bool) {yes no : Extracting κ α} {whenYes whenNo : κ → Except Fault α}
    (yes_reads : Reads before behind yes whenYes) (no_reads : Reads before behind no whenNo) :
    Reads before behind (get >>= fun extractor => if condition extractor.kept then yes else no)
      fun kept => if condition kept then whenYes kept else whenNo kept := by
  intro kept place here
  rw [run_bind, run_get]
  cases chosen : condition kept with
  | true => simpa [chosen] using yes_reads kept place here
  | false => simpa [chosen] using no_reads kept place here

end Extractor

open Extractor

namespace TableExtractor

open Steps

variable {schema : Schema} {before : Location → Prop}

theorem reads_checkReference (reference : ForeignKey schema.columnCount) (row : Nat) :
    Reads (IsIn schema) (IsIn schema) (checkReference schema reference row)
      fun catalog => schema.checkReference catalog reference row := by
  refine reads_readValue.bind fun value => reads_choice (KeyCatalog.contains · reference.table value) ?_ (reads_fail _)
  exact (reads_pure ()).weaken (fun _ here => here) fun _ here => here ▸ isIn_locate schema row reference.column

theorem reads_unknownTable (reference : ForeignKey schema.columnCount) :
    Reads (IsIn schema) (IsIn schema)
      (do
        enterColumn (schema.propertyAt reference.column).name
        enterReference ""
        fail (.tableUnknown reference.table) : Extracting KeyCatalog Unit)
      fun _ => .error
        ⟨⟨schema.table, schema.name, (schema.propertyAt reference.column).name, ""⟩, .tableUnknown reference.table⟩ := by
  have in_column : Reads (IsIn schema)
      (fun place => place = ⟨schema.table, schema.name, (schema.propertyAt reference.column).name, place.cell⟩)
      (enterColumn (schema.propertyAt reference.column).name : Extracting KeyCatalog Unit) fun _ => .ok () := by
    refine reads_move ?_
    rintro ⟨table, sheet, column, cell⟩ ⟨rfl, rfl⟩
    rfl
  -- The cursor may still have the cell of another column.
  refine Reads.following (Reads.following (reads_fail _) (reads_move ?_)) in_column
  intro place here
  rw [here]

theorem reads_checkForeignKey (reference : ForeignKey schema.columnCount) :
    Reads (IsIn schema) (IsIn schema) (checkForeignKey schema reference)
      fun catalog => schema.checkForeignKey catalog reference :=
  reads_choice (KeyCatalog.containsTable · reference.table) (Reads.forM (reads_checkReference reference) _)
    (reads_unknownTable reference)

theorem reads_checkReferences (schemas : List Schema) :
    Reads (fun _ => True) (fun _ => True) (checkReferences schemas) (Tables.checkForeignKeys schemas) := by
  refine Reads.forM (fun schema => ?_) schemas
  refine Reads.following ?_ (reads_enterSheet schema)
  exact (Reads.forM reads_checkForeignKey _).weaken (fun _ here => here ▸ isIn_ofSheet schema) fun _ _ => trivial

theorem reads_readKey (row : Nat) :
    Reads (IsIn schema) (IsIn schema) (readKey schema row) fun _ => schema.key row := by
  unfold readKey Schema.key
  cases schema.primaryKey with
  | none => exact reads_pure _
  | some key => exact reads_value

theorem reads_addRow (rows : Rows) (row : Nat) : Reads (IsIn schema) (IsIn schema) (addRow schema rows row)
    fun _ => do
      let key ← schema.key row
      let record ← schema.record row
      return rows.insert (key, record) := by
  refine (reads_readKey row).bind fun key => Reads.bind (Reads.foldlM ?_ _ _) fun record => reads_pure _
  intro record property
  exact reads_value.bind fun value => reads_pure _

theorem reads_read (schemas : List Schema) :
    Reads (fun _ => True) (fun _ => True) (read schemas) fun _ => Tables.read schemas := by
  have added (tables : Tables) (schema : Schema) : Reads (fun _ => True) (fun _ => True) (addSheet tables schema)
      fun _ => schema.rows.map fun rows => tables.insert (schema.name, rows) := by
    have rows_read : Reads (· = Location.ofSheet schema.table schema.name) (IsIn schema)
        ((List.range schema.rowCount).foldlM (addRow schema) OrderedBy.empty) fun _ => schema.rows :=
      (Reads.foldlM reads_addRow _ _).weaken (fun _ here => here ▸ isIn_ofSheet schema) fun _ here => here
    refine Reads.following (rows_read.bind fun rows => ?_) (reads_enterSheet schema)
    exact (reads_pure _).weaken (fun _ here => here) fun _ _ => trivial
  exact (Reads.foldlM added _ _).leaving

theorem run_addKey (table key : String) (catalog : KeyCatalog) (place : Location) :
    (addKey table key).run.run ⟨catalog, place⟩ =
      (.ok (catalog.contains table key), ⟨catalog.insert table key, place⟩) := rfl

theorem follows_collectKey (key : Fin schema.columnCount) (row : Nat) :
    Follows (IsIn schema) (IsIn schema) (collectKey schema key row) (schema.catalogKey key row) := by
  intro catalog place here
  refine ⟨schema.locate row key, ?_, fun _ => isIn_locate schema row key⟩
  rw [collectKey, run_bind, run_enterCell here, Schema.run_catalogKey]
  by_cases empty : schema.text row key = ""
  · simp only [empty, ne_eq, not_true_eq_false, ↓reduceIte]
    rfl
  · simp only [empty, ne_eq, not_false_eq_true, ↓reduceIte]
    have checked : (check (schema.text row key) (schema.propertyAt key).type).run.run
        (⟨catalog, schema.locate row key⟩ : TableExtractor) =
          (schema.value row key, ⟨catalog, schema.locate row key⟩) := run_check _ _ _
    rw [run_bind, checked]
    cases schema.value row key with
    | error fault => rfl
    | ok value =>
      simp only [run_bind, run_addKey]
      cases catalog.contains schema.name value with
      | true => rfl
      | false => rfl

theorem follows_catalogue (change : KeyCatalog → KeyCatalog) :
    Follows before before (catalogue change) (modify change) :=
  fun _ place here => ⟨place, rfl, fun _ => here⟩

theorem follows_collectSheetKeys (schema : Schema) :
    Follows (fun _ => True) (fun _ => True) (collectSheetKeys schema) schema.catalogKeys := by
  have registered : Follows (· = Location.ofSheet schema.table schema.name) (IsIn schema)
      (catalogue (·.register schema.name)) (modify (·.register schema.name)) := by
    rintro catalog place rfl
    exact ⟨_, rfl, fun _ => isIn_ofSheet schema⟩
  unfold collectSheetKeys Schema.catalogKeys
  refine (registered.bind fun _ => ?_).following (reads_enterSheet schema)
  cases schema.primaryKey with
  | none => exact (Follows.forM (fun row => follows_catalogue _) _).weaken fun _ _ => trivial
  | some key => exact (Follows.forM (follows_collectKey key) _).weaken fun _ _ => trivial

theorem follows_collectKeys (schemas : List Schema) :
    Follows (fun _ => True) (fun _ => True) (collectKeys schemas) (Tables.catalogKeys schemas) :=
  Follows.forM follows_collectSheetKeys schemas

/-- Extraction with a cursor has the outcome of extraction without one, and leaves the same catalog. -/
theorem follows_extract (schemas : List Schema) :
    Follows (fun _ => True) (fun _ => True) (extract schemas) (Tables.extract schemas) := by
  have checked : Follows (fun _ => True) (fun _ => True)
      (checkReferences schemas >>= fun _ => read schemas)
      (get >>= fun catalog => liftM (Tables.checkForeignKeys schemas catalog) >>= fun _ => liftM (Tables.read schemas)) := by
    refine Reads.follows ((reads_checkReferences schemas).bind fun _ => reads_read schemas) ?_
    intro catalog
    rw [run_bind, run_get]
    simp only [run_bind, run_lift]
    cases Tables.checkForeignKeys schemas catalog <;> rfl
  exact (follows_collectKeys schemas).bind fun _ => checked

theorem outcome_extract (schemas : List Schema) (extractor : TableExtractor) :
    ((extract schemas).run.run extractor).1 = ((Tables.extract schemas).run.run extractor.kept).1 :=
  ((follows_extract schemas).run extractor).1

end TableExtractor

namespace StringExtractor

open Outcome (ok_bind)

variable {schema : Schema}

theorem reads_stringKey : Reads (· = Location.ofSheet schema.table schema.name)
    (· = Location.ofSheet schema.table schema.name) (stringKey schema) fun _ => schema.stringKey := by
  unfold stringKey Schema.stringKey
  cases schema.primaryKey with
  | none => exact reads_fail _
  | some key => exact reads_pure key

theorem reads_addName (known : List String) (property : Fin schema.columnCount) :
    Reads (· = Location.ofSheet schema.table schema.name) (· = Location.ofSheet schema.table schema.name)
      (addName schema known property)
      fun _ => (schema.language property).map fun language =>
        if known.contains language then known else known ++ [language] := by
  unfold addName Schema.language
  by_cases is_string : (schema.propertyAt property).type = .string
  · simp only [is_string, ↓reduceIte]
    exact reads_pure _
  · simp only [is_string, ↓reduceIte]
    refine Reads.following (reads_fail _) (reads_move ?_)
    rintro _ rfl
    rfl

theorem reads_names (schemas : List Schema) :
    Reads (fun _ => True) (fun _ => True) (names schemas) fun _ => Languages.names schemas := by
  have added (known : List String) (schema : Schema) :
      Reads (fun _ => True) (fun _ => True) (addNames known schema) fun _ => Languages.addNames known schema := by
    have named := reads_stringKey.bind fun _ => Reads.foldlM reads_addName schema.valueProperties known
    exact (named.weaken (fun _ here => here) fun _ _ => trivial).following (reads_enterSheet schema)
  exact (Reads.foldlM added _ _).leaving

theorem reads_addCell (row : Nat) (key : String) (languages : Languages) (property : Fin schema.columnCount) :
    Reads (IsIn schema) (IsIn schema) (addCell schema row key languages property)
      fun _ => StringTable.addCell schema row key languages property := by
  refine Reads.following ?_ reads_enterCell
  unfold StringTable.addCell Schema.stringText
  by_cases empty : schema.text row property = ""
  · simp only [empty, ↓reduceIte]
    exact reads_fail _
  · simp only [empty, ↓reduceIte]
    exact (reads_pure _).weaken (fun _ here => here) fun _ here => here ▸ isIn_locate schema row property

theorem reads_addRow (key : Fin schema.columnCount) (table : StringTable) (row : Nat) :
    Reads (IsIn schema) (IsIn schema) (addRow schema key table row) fun _ => StringTable.addRow schema key table row := by
  refine Reads.following ?_ reads_enterCell
  unfold StringTable.addRow Schema.stringKeyText
  by_cases empty : schema.text row key = ""
  · simp only [empty, ↓reduceIte]
    exact reads_fail _
  · simp only [empty, ↓reduceIte, ok_bind]
    cases known : table.keys.contains (schema.text row key) with
    | true => exact reads_fail _
    | false =>
      have cells := Reads.foldlM (reads_addCell row (schema.text row key)) schema.valueProperties table.languages
      have row_added := cells.bind fun languages =>
        reads_pure (⟨languages, table.keys.insert (schema.text row key)⟩ : StringTable)
      exact row_added.weaken (fun _ here => here ▸ isIn_locate schema row key) fun _ here => here

theorem reads_read (schemas : List Schema) :
    Reads (fun _ => True) (fun _ => True) (read schemas) fun _ => Languages.read schemas := by
  have added (table : StringTable) (schema : Schema) :
      Reads (fun _ => True) (fun _ => True) (addSheet table schema) fun _ => table.addSheet schema := by
    refine Reads.following (reads_stringKey.bind fun key => ?_) (reads_enterSheet schema)
    exact (Reads.foldlM (reads_addRow key) _ _).weaken (fun _ here => here ▸ isIn_ofSheet schema) fun _ _ => trivial
  exact (Reads.foldlM added schemas StringTable.empty).bind fun table => (reads_pure _).following reads_leave

/-- Extraction of texts with a cursor has the outcome of extraction without one. -/
theorem reads_extract (schemas : List Schema) :
    Reads (fun _ => True) (fun _ => True) (extract schemas) fun _ => Languages.extract schemas :=
  (reads_names schemas).bind fun _ => reads_read schemas

end StringExtractor

end Tablesmith
