import Mathlib
import Tablesmith.Proofs.Extract.Completeness
import Tablesmith.Proofs.Extract.Cursor
import Tablesmith.Proofs.Schema.Invariant

/-!
# Rows into languages

Extraction of texts succeeds exactly where every sheet has a key and string columns, no
cell is empty and no key is repeated, whether in one sheet or in two (`extract_ok_iff`).
Then the languages are the columns in the order in which they are first seen, and each
language has the texts of its columns under the keys of their rows, in the order of the
sheets and their rows (`extract_transposes`).
-/

namespace Tablesmith

open Outcome

namespace Schema

variable {schema : Schema}

/-- The names of the columns that are not the key, in order. -/
def languages (schema : Schema) : List String :=
  schema.valueProperties.map fun property => (schema.propertyAt property).name

/-- The keys of the rows, in order. -/
def keyTexts (schema : Schema) : List String :=
  (List.range schema.rowCount).map schema.keyText

/-- The texts of a language in the rows of the sheet, each with its key. -/
def textsIn (schema : Schema) (language : String) : List (String × String) :=
  (List.range schema.rowCount).flatMap fun row =>
    ((schema.entries row).filter (·.1 = language)).map fun entry => (schema.keyText row, entry.2)

theorem map_fst_entries (schema : Schema) (row : Nat) : (schema.entries row).map Prod.fst = schema.languages := by
  rw [entries, List.map_map]
  rfl

theorem nodup_languages (distinct : (schema.properties.toList.map Property.name).Nodup) : schema.languages.Nodup := by
  have names : (List.finRange schema.columnCount).map (fun property => (schema.propertyAt property).name) =
      schema.properties.toList.map Property.name := by
    apply List.ext_getElem
    · simp
    · intro place inside _
      simp [propertyAt, Vector.get_eq_getElem]
  rw [← names] at distinct
  exact (List.filter_sublist.map _).nodup distinct

theorem map_fst_textsIn (distinct : (schema.properties.toList.map Property.name).Nodup) (language : String) :
    (schema.textsIn language).map Prod.fst = if language ∈ schema.languages then schema.keyTexts else [] := by
  have in_row (row : Nat) : ((schema.entries row).filter (·.1 = language)).map (fun _ => schema.keyText row) =
      if language ∈ schema.languages then [schema.keyText row] else [] := by
    have count : ((schema.entries row).filter (·.1 = language)).length = schema.languages.count language := by
      rw [← map_fst_entries schema row, List.count, List.countP_map, List.countP_eq_length_filter]
      rfl
    rw [List.map_const', count]
    by_cases member : language ∈ schema.languages
    · rw [if_pos member, List.count_eq_one_of_mem (nodup_languages distinct) member, List.replicate_one]
    · rw [if_neg member, List.count_eq_zero_of_not_mem member, List.replicate_zero]
  rw [textsIn, List.map_flatMap]
  simp only [List.map_map, Function.comp_def, in_row]
  by_cases member : language ∈ schema.languages
  · simp only [if_pos member]
    exact List.map_eq_flatMap.symm
  · simp [member]

theorem mem_textsIn {language key text : String} : (key, text) ∈ schema.textsIn language ↔
    ∃ row < schema.rowCount, schema.keyText row = key ∧ (language, text) ∈ schema.entries row := by
  simp only [textsIn, List.mem_flatMap, List.mem_range, List.mem_map, List.mem_filter, decide_eq_true_eq, Prod.mk.injEq]
  constructor
  · rintro ⟨row, before, ⟨named, found⟩, ⟨member, rfl⟩, is_key, rfl⟩
    exact ⟨row, before, is_key, member⟩
  · rintro ⟨row, before, is_key, member⟩
    exact ⟨row, before, (language, text), ⟨member, rfl⟩, is_key, rfl⟩

end Schema

namespace Languages

/-- Adds a name to those known, if it is new. -/
def addNew (known : List String) (name : String) : List String :=
  if name ∈ known then known else known ++ [name]

theorem mem_addNew {known : List String} {name other : String} :
    other ∈ addNew known name ↔ other = name ∨ other ∈ known := by
  unfold addNew
  by_cases member : name ∈ known
  · rw [if_pos member, iff_or_self]
    rintro rfl
    exact member
  · rw [if_neg member, List.mem_append, List.mem_singleton, or_comm]

theorem mem_foldl_addNew {names known : List String} {other : String} :
    other ∈ names.foldl addNew known ↔ other ∈ names ∨ other ∈ known := by
  have added := foldl_iff (other ∈ ·) (other = ·) (fun _ _ => mem_addNew) names known
  simpa using added

theorem foldl_addNew (names : List String) : names.foldl addNew [] = names.eraseDups := by
  induction names using List.reverseRecOn with
  | nil => rfl
  | append_singleton names name ih =>
    rw [List.foldl_concat, ih, List.eraseDups_append, addNew]
    by_cases member : name ∈ names <;> simp [member, List.removeAll, List.eraseDups_cons]

end Languages

namespace Schema

variable {schema : Schema} {known next : List String}

/-- The columns of the sheet are a key and languages. -/
def IsTextSheet (schema : Schema) : Prop :=
  schema.primaryKey.isSome = true ∧ ∀ property ∈ schema.valueProperties, (schema.propertyAt property).type = .string

/-- No cell of the data is empty. -/
def HasTexts (schema : Schema) : Prop :=
  ∀ row < schema.rowCount, ∀ property, schema.text row property ≠ ""

theorem stringKey_ok_iff {key : Fin schema.columnCount} :
    schema.stringKey = .ok key ↔ schema.primaryKey = some key := by
  unfold stringKey
  cases schema.primaryKey <;> simp

theorem language_ok_iff {property : Fin schema.columnCount} {language : String} :
    schema.language property = .ok language ↔
      (schema.propertyAt property).type = .string ∧ language = (schema.propertyAt property).name := by
  unfold Schema.language
  by_cases is_string : (schema.propertyAt property).type = .string
  · simp [is_string, eq_comm]
  · simp [is_string]

end Schema

namespace Languages

variable {schemas : List Schema} {schema : Schema} {known next : List String}

theorem addNames_ok_iff : addNames known schema = .ok next ↔
    schema.IsTextSheet ∧ next = schema.languages.foldl addNew known := by
  have step_ok (known : List String) (property : Fin schema.columnCount) (next : List String) :
      ((schema.language property).map fun language => if known.contains language then known else known ++ [language]) =
          .ok next ↔
        (schema.propertyAt property).type = .string ∧ next = addNew known (schema.propertyAt property).name := by
    rw [map_ok_iff]
    simp only [Schema.language_ok_iff, List.contains_eq_mem, decide_eq_true_eq, addNew]
    constructor
    · rintro ⟨_, ⟨is_string, rfl⟩, rfl⟩
      exact ⟨is_string, rfl⟩
    · rintro ⟨is_string, rfl⟩
      exact ⟨_, ⟨is_string, rfl⟩, rfl⟩
  unfold addNames Schema.IsTextSheet Schema.languages
  simp only [bind_ok_iff, Schema.stringKey_ok_iff, Option.isSome_iff_exists, List.foldl_map,
    foldlM_ok_iff (fun property => (schema.propertyAt property).type = .string) _ step_ok]
  constructor
  · rintro ⟨key, is_key, strings, rfl⟩
    exact ⟨⟨⟨key, is_key⟩, strings⟩, rfl⟩
  · rintro ⟨⟨⟨key, is_key⟩, strings⟩, rfl⟩
    exact ⟨key, is_key, strings, rfl⟩

/-- The names of the languages can be read where all sheets are text sheets, and are their columns in the order in
    which they are first seen. -/
theorem names_ok_iff : names schemas = .ok known ↔
    (∀ schema ∈ schemas, schema.IsTextSheet) ∧ known = (schemas.flatMap Schema.languages).eraseDups := by
  unfold names
  rw [foldlM_ok_iff Schema.IsTextSheet _ (fun _ _ _ => addNames_ok_iff), ← foldl_addNew, List.foldl_flatMap]

end Languages

namespace Languages

/-- Adds the texts of a row under its key. -/
def addTexts (languages : Languages) (key : String) (entries : List (String × String)) : Languages :=
  entries.foldl (fun languages entry => languages.addText entry.1 key entry.2) languages

end Languages

namespace StringTable

/-- The table with a row of a sheet. -/
def withRow (schema : Schema) (table : StringTable) (row : Nat) : StringTable :=
  ⟨table.languages.addTexts (schema.keyText row) (schema.entries row), table.keys.insert (schema.keyText row)⟩

/-- The table with the languages of a sheet and its rows. -/
def withSheet (table : StringTable) (schema : Schema) : StringTable :=
  (List.range schema.rowCount).foldl (withRow schema)
    ⟨schema.languages.foldl Languages.declare table.languages, table.keys⟩

variable {schema : Schema} {table next : StringTable}

theorem mem_keys_withRow {row : Nat} {key : String} :
    key ∈ (table.withRow schema row).keys ↔ schema.keyText row = key ∨ key ∈ table.keys := by
  simp [withRow, Std.HashSet.mem_insert]

theorem mem_keys_foldl_withRow {rows : List Nat} {key : String} :
    key ∈ (rows.foldl (withRow schema) table).keys ↔ key ∈ rows.map schema.keyText ∨ key ∈ table.keys := by
  have added := foldl_iff (key ∈ ·.keys) (fun row => schema.keyText row = key) (fun _ _ => mem_keys_withRow) rows table
  simpa using added

theorem mem_keys_withSheet {key : String} :
    key ∈ (table.withSheet schema).keys ↔ key ∈ schema.keyTexts ∨ key ∈ table.keys :=
  mem_keys_foldl_withRow

theorem addCell_ok_iff {row : Nat} {key : String} {languages next : Languages} {property : Fin schema.columnCount} :
    addCell schema row key languages property = .ok next ↔ schema.text row property ≠ "" ∧
      next = languages.addText (schema.propertyAt property).name key (schema.text row property) := by
  unfold addCell Schema.stringText
  by_cases empty : schema.text row property = ""
  · simp [empty, Except.map]
  · simp [empty, Except.map, eq_comm]

theorem cells_ok_iff {row : Nat} {key : String} {languages next : Languages} :
    schema.valueProperties.foldlM (addCell schema row key) languages = .ok next ↔
      (∀ property ∈ schema.valueProperties, schema.text row property ≠ "") ∧
        next = languages.addTexts key (schema.entries row) := by
  rw [foldlM_ok_iff (fun property => schema.text row property ≠ "") _ (fun _ _ _ => addCell_ok_iff)]
  rw [Languages.addTexts, Schema.entries, List.foldl_map]

/-- A row is read where none of its cells is empty and its key is new. -/
theorem addRow_ok_iff {key : Fin schema.columnCount} (is_key : schema.primaryKey = some key) {row : Nat} :
    addRow schema key table row = .ok next ↔
      (∀ property, schema.text row property ≠ "") ∧ schema.keyText row ∉ table.keys ∧
        next = table.withRow schema row := by
  have text_is : schema.keyText row = schema.text row key := by rw [Schema.keyText, is_key]
  have all_filled : (∀ property, schema.text row property ≠ "") ↔
      schema.text row key ≠ "" ∧ ∀ property ∈ schema.valueProperties, schema.text row property ≠ "" := by
    constructor
    · exact fun filled => ⟨filled key, fun property _ => filled property⟩
    · rintro ⟨key_filled, values_filled⟩ property
      by_cases same : key = property
      · exact same ▸ key_filled
      · exact values_filled property (Schema.mem_valueProperties.mpr (by simpa [is_key] using same))
  unfold addRow Schema.stringKeyText
  rw [all_filled, withRow, text_is]
  by_cases empty : schema.text row key = ""
  · simp [empty, error_bind]
  · simp only [empty, ↓reduceIte, ok_bind]
    by_cases known : schema.text row key ∈ table.keys
    · simp [known, Std.HashSet.contains_iff_mem, throw, throwThe, MonadExceptOf.throw]
    · simp only [Std.HashSet.contains_iff_mem, known, ↓reduceIte, bind_ok_iff, cells_ok_iff, not_false_eq_true,
        true_and, ne_eq, empty]
      constructor
      · rintro ⟨_, ⟨filled, rfl⟩, done⟩
        exact ⟨filled, (Except.ok.inj done).symm⟩
      · rintro ⟨filled, rfl⟩
        exact ⟨_, ⟨filled, rfl⟩, rfl⟩

theorem rows_ok_iff {key : Fin schema.columnCount} (is_key : schema.primaryKey = some key) (rows : List Nat) :
    rows.foldlM (addRow schema key) table = .ok next ↔
      (∀ row ∈ rows, ∀ property, schema.text row property ≠ "") ∧ (rows.map schema.keyText).Nodup ∧
        (∀ other ∈ rows.map schema.keyText, other ∉ table.keys) ∧ next = rows.foldl (withRow schema) table := by
  induction rows generalizing table with
  | nil => simp [pure, Except.pure, eq_comm (a := table)]
  | cons row rows ih =>
    simp only [List.foldlM_cons, bind_ok_iff, addRow_ok_iff is_key, ih, List.map_cons, List.nodup_cons,
      List.forall_mem_cons, List.foldl_cons]
    constructor
    · rintro ⟨_, ⟨filled, new, rfl⟩, rest_filled, rest_distinct, rest_new, rfl⟩
      simp only [mem_keys_withRow, not_or] at rest_new
      exact ⟨⟨filled, rest_filled⟩, ⟨fun again => (rest_new _ again).1 rfl, rest_distinct⟩,
        ⟨new, fun other member => (rest_new other member).2⟩, rfl⟩
    · rintro ⟨⟨filled, rest_filled⟩, ⟨alone, rest_distinct⟩, ⟨new, rest_new⟩, rfl⟩
      refine ⟨_, ⟨filled, new, rfl⟩, rest_filled, rest_distinct, fun other member => ?_, rfl⟩
      rw [mem_keys_withRow, not_or]
      exact ⟨fun same => alone (same ▸ member), rest_new other member⟩

theorem addSheet_ok_iff : table.addSheet schema = .ok next ↔
    schema.primaryKey.isSome = true ∧ schema.HasTexts ∧ schema.keyTexts.Nodup ∧
      (∀ other ∈ schema.keyTexts, other ∉ table.keys) ∧ next = table.withSheet schema := by
  have declared : schema.valueProperties.foldl
      (fun languages property => languages.declare (schema.propertyAt property).name) table.languages =
        schema.languages.foldl Languages.declare table.languages := by
    rw [Schema.languages, List.foldl_map]
  unfold addSheet Schema.HasTexts Schema.keyTexts withSheet
  simp only [bind_ok_iff, Schema.stringKey_ok_iff, Option.isSome_iff_exists, declared]
  constructor
  · rintro ⟨key, is_key, read⟩
    obtain ⟨filled, distinct, new, rfl⟩ := (rows_ok_iff is_key _).mp read
    exact ⟨⟨key, is_key⟩, fun row before => filled row (List.mem_range.mpr before), distinct, new, rfl⟩
  · rintro ⟨⟨key, is_key⟩, filled, distinct, new, rfl⟩
    refine ⟨key, is_key, (rows_ok_iff is_key _).mpr ⟨?_, distinct, new, rfl⟩⟩
    exact fun row member => filled row (List.mem_range.mp member)

theorem sheets_ok_iff {schemas : List Schema} : schemas.foldlM addSheet table = .ok next ↔
    (∀ schema ∈ schemas, schema.primaryKey.isSome = true ∧ schema.HasTexts) ∧ (schemas.flatMap Schema.keyTexts).Nodup ∧
      (∀ other ∈ schemas.flatMap Schema.keyTexts, other ∉ table.keys) ∧ next = schemas.foldl withSheet table := by
  induction schemas generalizing table with
  | nil => simp [pure, Except.pure, eq_comm (a := table)]
  | cons schema schemas ih =>
    simp only [List.foldlM_cons, bind_ok_iff, addSheet_ok_iff, ih, List.flatMap_cons, List.nodup_append,
      List.forall_mem_cons, List.forall_mem_append, List.foldl_cons]
    constructor
    · rintro ⟨_, ⟨keyed, filled, distinct, new, rfl⟩, rest_read, rest_distinct, rest_new, rfl⟩
      simp only [mem_keys_withSheet, not_or] at rest_new
      refine ⟨⟨⟨keyed, filled⟩, rest_read⟩, ⟨distinct, rest_distinct, ?_⟩,
        ⟨new, fun other member => (rest_new other member).2⟩, rfl⟩
      intro other member _ again same
      exact (rest_new _ again).1 (same ▸ member)
    · rintro ⟨⟨⟨keyed, filled⟩, rest_read⟩, ⟨distinct, rest_distinct, apart⟩, ⟨new, rest_new⟩, rfl⟩
      refine ⟨_, ⟨keyed, filled, distinct, new, rfl⟩, rest_read, rest_distinct, fun other member => ?_, rfl⟩
      rw [mem_keys_withSheet, not_or]
      exact ⟨fun here => apart other here other member rfl, rest_new other member⟩

end StringTable

namespace Languages

variable {schemas : List Schema} {languages : Languages}

/-- Sheets whose texts can be put under languages: each has a key and otherwise columns of strings, no cell is empty,
    and no two rows of all the sheets together have one key. -/
structure Transposable (schemas : List Schema) : Prop where
  keyed : ∀ schema ∈ schemas, schema.primaryKey.isSome = true
  strings : ∀ schema ∈ schemas, ∀ property ∈ schema.valueProperties, (schema.propertyAt property).type = .string
  filled : ∀ schema ∈ schemas, ∀ row < schema.rowCount, ∀ property, schema.text row property ≠ ""
  distinct : (schemas.flatMap Schema.keyTexts).Nodup

/-- The languages of sheets that can be read. -/
def ofSchemas (schemas : List Schema) : Languages :=
  (schemas.foldl StringTable.withSheet StringTable.empty).languages

theorem read_ok_iff : read schemas = .ok languages ↔
    (∀ schema ∈ schemas, schema.primaryKey.isSome = true ∧ schema.HasTexts) ∧ (schemas.flatMap Schema.keyTexts).Nodup ∧
      languages = ofSchemas schemas := by
  have nothing_known : ∀ other ∈ schemas.flatMap Schema.keyTexts, other ∉ StringTable.empty.keys :=
    fun _ _ => Std.HashSet.not_mem_empty
  unfold read ofSchemas
  simp only [map_ok_iff, StringTable.sheets_ok_iff]
  constructor
  · rintro ⟨_, ⟨each, distinct, -, rfl⟩, rfl⟩
    exact ⟨each, distinct, rfl⟩
  · rintro ⟨each, distinct, rfl⟩
    exact ⟨_, ⟨each, distinct, nothing_known, rfl⟩, rfl⟩

/-- Extraction succeeds exactly for sheets that can be transposed, and gives their languages. -/
theorem extract_ok_iff : extract schemas = .ok languages ↔ Transposable schemas ∧ languages = ofSchemas schemas := by
  unfold extract
  simp only [bind_ok_iff, names_ok_iff, read_ok_iff]
  constructor
  · rintro ⟨_, ⟨sheets, -⟩, each, distinct, rfl⟩
    exact ⟨⟨fun schema member => (sheets schema member).1, fun schema member => (sheets schema member).2,
      fun schema member => (each schema member).2, distinct⟩, rfl⟩
  · rintro ⟨able, rfl⟩
    exact ⟨_, ⟨fun schema member => ⟨able.keyed schema member, able.strings schema member⟩, rfl⟩,
      fun schema member => ⟨able.keyed schema member, able.filled schema member⟩, able.distinct, rfl⟩

variable {language other key text : String}

theorem get?_eq_some_iff_texts {texts : Texts} :
    languages.get? language = some texts ↔ language ∈ languages.keys ∧ texts = languages.texts language := by
  rw [TextMap.mem_keys_iff, Languages.texts]
  constructor
  · intro known
    exact ⟨⟨texts, known⟩, by rw [known]; rfl⟩
  · rintro ⟨⟨found, known⟩, rfl⟩
    rw [known]
    rfl

theorem keys_declare : (languages.declare language).keys = addNew languages.keys language :=
  TextMap.keys_insert ..

theorem texts_declare : (languages.declare language).texts other = languages.texts other := by
  unfold declare
  rw [texts, TextMap.get?_insert]
  by_cases same : language = other
  · rw [if_pos same, ← same]
    rfl
  · rw [if_neg same]
    rfl

theorem texts_foldl_declare (languages : Languages) (names : List String) :
    (names.foldl declare languages).texts other = languages.texts other := by
  induction names generalizing languages with
  | nil => rfl
  | cons name names ih => rw [List.foldl_cons, ih, texts_declare]

theorem keys_addText : (languages.addText language key text).keys = addNew languages.keys language :=
  TextMap.keys_insert ..

theorem texts_addText : (languages.addText language key text).texts other =
    if language = other then (languages.texts other).insert (key, text) else languages.texts other := by
  unfold addText
  rw [texts, TextMap.get?_insert]
  by_cases same : language = other
  · rw [if_pos same, if_pos same, same]
    rfl
  · rw [if_neg same, if_neg same]
    rfl

theorem keys_addTexts {entries : List (String × String)} (known : ∀ entry ∈ entries, entry.1 ∈ languages.keys) :
    (languages.addTexts key entries).keys = languages.keys := by
  unfold addTexts
  induction entries generalizing languages with
  | nil => rfl
  | cons entry entries ih =>
    obtain ⟨first_known, rest_known⟩ := List.forall_mem_cons.mp known
    have same_keys : (languages.addText entry.1 key entry.2).keys = languages.keys := by
      rw [keys_addText, addNew, if_pos first_known]
    rw [List.foldl_cons, ih (by rwa [same_keys]), same_keys]

theorem texts_addTexts (entries : List (String × String)) :
    (languages.addTexts key entries).texts language =
      ((entries.filter (·.1 = language)).map fun entry => (key, entry.2)).foldl OrderedBy.insert
        (languages.texts language) := by
  unfold addTexts
  induction entries generalizing languages with
  | nil => rfl
  | cons entry entries ih =>
    rw [List.foldl_cons, ih, texts_addText]
    by_cases same : entry.1 = language <;> simp [same]

end Languages

namespace StringTable

variable {schema : Schema} {table : StringTable} {language : String}

theorem languages_foldl_withRow (rows : List Nat) : (rows.foldl (withRow schema) table).languages =
    rows.foldl (fun languages row => languages.addTexts (schema.keyText row) (schema.entries row)) table.languages := by
  induction rows generalizing table with
  | nil => rfl
  | cons row rows ih => exact ih

theorem keys_languages_withSheet :
    (table.withSheet schema).languages.keys = schema.languages.foldl Languages.addNew table.languages.keys := by
  have declared : (schema.languages.foldl Languages.declare table.languages).keys =
      schema.languages.foldl Languages.addNew table.languages.keys :=
    (List.foldl_hom TextMap.keys fun _ _ => Languages.keys_declare.symm).symm
  rw [withSheet, languages_foldl_withRow, ← declared]
  have all_declared : ∀ name ∈ schema.languages,
      name ∈ (schema.languages.foldl Languages.declare table.languages).keys := by
    intro name member
    rw [declared, Languages.mem_foldl_addNew]
    exact .inl member
  generalize schema.languages.foldl Languages.declare table.languages = languages at all_declared
  induction List.range schema.rowCount generalizing languages with
  | nil => rfl
  | cons row rows ih =>
    have same_keys : (languages.addTexts (schema.keyText row) (schema.entries row)).keys = languages.keys := by
      refine Languages.keys_addTexts fun entry member => all_declared _ ?_
      rw [← schema.map_fst_entries row]
      exact List.mem_map_of_mem member
    rw [List.foldl_cons, ih _ (by rwa [same_keys]), same_keys]

theorem texts_withSheet : (table.withSheet schema).languages.texts language =
    (schema.textsIn language).foldl OrderedBy.insert (table.languages.texts language) := by
  rw [withSheet, languages_foldl_withRow, Schema.textsIn, List.foldl_flatMap,
    ← Languages.texts_foldl_declare table.languages schema.languages]
  exact (List.foldl_hom (Languages.texts · language) fun _ _ => (Languages.texts_addTexts _).symm).symm

end StringTable

namespace Languages

variable {schemas : List Schema} {language key text : String}

theorem keys_ofSchemas (schemas : List Schema) :
    (ofSchemas schemas).keys = (schemas.flatMap Schema.languages).eraseDups := by
  rw [← foldl_addNew, List.foldl_flatMap, ofSchemas]
  exact (List.foldl_hom (fun table : StringTable => table.languages.keys) fun _ _ =>
    StringTable.keys_languages_withSheet.symm).symm

theorem texts_ofSchemas (schemas : List Schema) (language : String) : (ofSchemas schemas).texts language =
    (schemas.flatMap (·.textsIn language)).foldl OrderedBy.insert OrderedBy.empty := by
  have no_texts : StringTable.empty.languages.texts language = OrderedBy.empty := by
    rw [texts, TextMap.get?, StringTable.empty, OrderedBy.find?_empty]
    rfl
  rw [List.foldl_flatMap, ofSchemas, ← no_texts]
  exact (List.foldl_hom (fun table : StringTable => table.languages.texts language) fun _ _ =>
    StringTable.texts_withSheet.symm).symm

theorem map_fst_textsIn (named : ∀ schema ∈ schemas, (schema.properties.toList.map Property.name).Nodup)
    (language : String) : (schemas.flatMap (·.textsIn language)).map Prod.fst =
      (schemas.filter (language ∈ ·.languages)).flatMap Schema.keyTexts := by
  induction schemas with
  | nil => rfl
  | cons schema schemas ih =>
    obtain ⟨first_named, rest_named⟩ := List.forall_mem_cons.mp named
    rw [List.flatMap_cons, List.map_append, ih rest_named, Schema.map_fst_textsIn first_named]
    by_cases member : language ∈ schema.languages <;> simp [member]

/-- Where no key is repeated the texts of a language stand as they are read. -/
theorem toList_texts_ofSchemas (named : ∀ schema ∈ schemas, (schema.properties.toList.map Property.name).Nodup)
    (distinct : (schemas.flatMap Schema.keyTexts).Nodup) (language : String) :
    ((ofSchemas schemas).texts language).toList = schemas.flatMap (·.textsIn language) := by
  have keys_distinct : ((schemas.filter (language ∈ ·.languages)).flatMap Schema.keyTexts).Nodup :=
    (List.filter_sublist.flatMap _).nodup distinct
  rw [← map_fst_textsIn named] at keys_distinct
  rw [texts_ofSchemas, OrderedBy.toList_foldl_insert, OrderedBy.toList_empty, List.nil_append]
  rwa [OrderedBy.toList_empty, List.nil_append]

/-- The languages are the columns of the sheets, each once and in the order in which they are first seen. A language
    has a text under a key exactly if a row with the key has the text in a column of the language, and its keys are
    those of the rows of the sheets with such a column, in order. -/
structure Transposes (languages : Languages) (schemas : List Schema) : Prop where
  named : languages.keys = (schemas.flatMap Schema.languages).eraseDups
  found : ∀ language key text,
    (∃ texts, languages.get? language = some texts ∧ texts.get? key = some text) ↔
      ∃ schema ∈ schemas, ∃ row < schema.rowCount, schema.keyText row = key ∧ (language, text) ∈ schema.entries row
  ordered : ∀ language texts, languages.get? language = some texts →
    texts.keys = (schemas.filter (language ∈ ·.languages)).flatMap Schema.keyTexts

theorem transposes_ofSchemas (named : ∀ schema ∈ schemas, (schema.properties.toList.map Property.name).Nodup)
    (distinct : (schemas.flatMap Schema.keyTexts).Nodup) : (ofSchemas schemas).Transposes schemas := by
  have listed := toList_texts_ofSchemas named distinct
  refine ⟨keys_ofSchemas schemas, fun language key text => ?_, fun language texts known => ?_⟩
  · have text_iff : ((ofSchemas schemas).texts language).get? key = some text ↔
        ∃ schema ∈ schemas, ∃ row < schema.rowCount,
          schema.keyText row = key ∧ (language, text) ∈ schema.entries row := by
      rw [TextMap.get?_eq_some_iff, listed, List.mem_flatMap]
      simp only [Schema.mem_textsIn]
    rw [← text_iff]
    simp only [get?_eq_some_iff_texts]
    constructor
    · rintro ⟨_, ⟨-, rfl⟩, found⟩
      exact found
    · intro found
      refine ⟨_, ⟨?_, rfl⟩, found⟩
      obtain ⟨schema, member, row, -, -, entry⟩ := text_iff.mp found
      rw [keys_ofSchemas, List.mem_eraseDups, List.mem_flatMap]
      exact ⟨schema, member, schema.map_fst_entries row ▸ List.mem_map_of_mem entry⟩
  · obtain ⟨-, rfl⟩ := get?_eq_some_iff_texts.mp known
    rw [TextMap.keys, listed, map_fst_textsIn named]

end Languages

/-- Texts are extracted from exactly the sheets that can be transposed, and what is extracted transposes them: no text
    is lost or replaced, and the languages are those that are collected by themselves. -/
theorem StringExtractor.extract_transposes {schemas : List Schema}
    (named : ∀ schema ∈ schemas, (schema.properties.toList.map Property.name).Nodup) :
    ((∃ languages, ((extract schemas).run.run fresh).1 = .ok languages) ↔ Languages.Transposable schemas) ∧
      ∀ languages, ((extract schemas).run.run fresh).1 = .ok languages →
        ((names schemas).run.run fresh).1 = .ok languages.keys ∧ languages.Transposes schemas := by
  rw [((reads_extract schemas).run fresh).1, ((reads_names schemas).run fresh).1]
  simp only [Languages.extract_ok_iff]
  refine ⟨⟨fun ⟨_, able, _⟩ => able, fun able => ⟨_, able, rfl⟩⟩, ?_⟩
  rintro _ ⟨able, rfl⟩
  refine ⟨Languages.names_ok_iff.mpr ⟨?_, Languages.keys_ofSchemas schemas⟩,
    Languages.transposes_ofSchemas named able.distinct⟩
  exact fun schema member => ⟨able.keyed schema member, able.strings schema member⟩

namespace Item

/-- A text in English. -/
def confirm : Item := ⟨"en", .string, "confirm", "OK"⟩

/-- A text in Korean. -/
def cancel : Item := ⟨"ko", .string, "cancel", "취소"⟩

/-- Another text in English. -/
def retry : Item := ⟨"en", .string, "retry", "Again"⟩

theorem texts_proper : ∀ item ∈ [confirm, cancel, retry], item.IsProper := by
  simp only [List.forall_mem_cons, List.not_mem_nil, false_implies, implies_true, and_true]
  refine ⟨?_, ?_, ?_⟩ <;>
    exact ⟨by decide +kernel, by decide +kernel, by decide, by decide, by decide, rfl⟩

variable {item : Item}

theorem keyTexts_schema (item : Item) : item.schema.keyTexts = [item.key] := by
  rw [Schema.keyTexts, rowCount_schema, List.range_one, List.map_singleton, keyText_schema]

theorem IsProper.languages (proper : item.IsProper) : item.schema.languages = [item.column] := by
  rw [← Schema.map_fst_entries item.schema 0, proper.entries]
  rfl

theorem IsProper.names_distinct (proper : item.IsProper) : (item.schema.properties.toList.map Property.name).Nodup :=
  (Schema.isIndexed_of_discover proper.discover).names_distinct

end Item

theorem Languages.transposable_items {items : List Item} (proper : ∀ item ∈ items, item.IsProper)
    (strings : ∀ item ∈ items, item.type = .string) (distinct : (items.map Item.key).Nodup) :
    Transposable (items.map Item.schema) := by
  have of_item {fact : Schema → Prop} (holds : ∀ item ∈ items, fact item.schema) :
      ∀ schema ∈ items.map Item.schema, fact schema := List.forall_mem_map.mpr holds
  refine ⟨of_item fun item _ => ?_, of_item fun item member => ?_, of_item fun item member => ?_, ?_⟩
  · rw [item.primaryKey_schema]
    rfl
  · intro property is_value
    rw [item.valueProperties_schema] at is_value
    obtain rfl := List.mem_singleton.mp is_value
    rw [item.propertyAt_schema]
    exact strings item member
  · intro row before property
    exact ((proper item member).isFilled row before property).1
  · rw [List.flatMap_map]
    simp only [Item.keyTexts_schema]
    rwa [← List.map_eq_flatMap]

/-- Texts in one language are put together though another comes between them. -/
theorem StringExtractor.extract_transposes_three :
    (∀ schema ∈ [Item.confirm, Item.cancel, Item.retry].map Item.schema,
      (schema.properties.toList.map Property.name).Nodup) ∧
    Languages.Transposable ([Item.confirm, Item.cancel, Item.retry].map Item.schema) ∧
    ∃ languages,
      ((extract ([Item.confirm, Item.cancel, Item.retry].map Item.schema)).run.run fresh).1 = .ok languages ∧
      ((names ([Item.confirm, Item.cancel, Item.retry].map Item.schema)).run.run fresh).1 = .ok ["en", "ko"] ∧
      languages.keys = ["en", "ko"] ∧
      ∃ texts, languages.get? "en" = some texts ∧ texts.keys = ["confirm", "retry"] ∧
        texts.get? "retry" = some "Again" := by
  have named : ∀ schema ∈ [Item.confirm, Item.cancel, Item.retry].map Item.schema,
      (schema.properties.toList.map Property.name).Nodup :=
    List.forall_mem_map.mpr fun item member => (Item.texts_proper item member).names_distinct
  have able := Languages.transposable_items Item.texts_proper (by decide) (by decide)
  obtain ⟨succeeds, transposes⟩ := extract_transposes named
  obtain ⟨languages, extracted⟩ := succeeds.mpr able
  obtain ⟨collected, transposed⟩ := transposes languages extracted
  have first : Item.confirm.schema.languages = ["en"] := (Item.texts_proper _ (by simp)).languages
  have second : Item.cancel.schema.languages = ["ko"] := (Item.texts_proper _ (by simp)).languages
  have third : Item.retry.schema.languages = ["en"] := (Item.texts_proper _ (by simp)).languages
  have in_order : languages.keys = ["en", "ko"] := by
    rw [transposed.named, List.flatMap_map]
    simp only [List.flatMap_cons, List.flatMap_nil, first, second, third]
    decide
  refine ⟨named, able, languages, extracted, in_order ▸ collected, in_order, ?_⟩
  have retried : ("en", "Again") ∈ Item.retry.schema.entries 0 := by
    rw [(Item.texts_proper Item.retry (by simp)).entries]
    exact List.mem_singleton_self _
  obtain ⟨texts, known, found⟩ := (transposed.found "en" "retry" "Again").mpr
    ⟨Item.retry.schema, by simp, 0, by simp [Item.rowCount_schema], Item.keyText_schema _, retried⟩
  refine ⟨texts, known, ?_, found⟩
  have kept : ([Item.confirm, Item.cancel, Item.retry].map Item.schema).filter ("en" ∈ ·.languages) =
      [Item.confirm.schema, Item.retry.schema] := by
    simp [first, second, third]
  rw [transposed.ordered "en" texts known, kept]
  simp only [List.flatMap_cons, List.flatMap_nil, Item.keyTexts_schema]
  rfl

end Tablesmith
