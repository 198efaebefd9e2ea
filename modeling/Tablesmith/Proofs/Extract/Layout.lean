import Mathlib
import Tablesmith.Proofs.Extract.Completeness
import Tablesmith.Proofs.Schema.Layout

/-!
# The records of described tables

Extraction reads the rows of a described table off its sheet again: one record for every
row, in the order of the rows, under the key of the row and with its other texts in the
order of the columns (`extract_laidOut`). The tables are extracted together, since a
column may refer to the keys of another table.
-/

namespace Tablesmith

open Grid Text Number

namespace TableDescription

/-- The key of a row, which is its number where no column is the primary key. -/
def key (described : TableDescription) (place : Nat) (row : List String) : String :=
  match described.keyColumn? with
  | some column => row.getD column ""
  | none => showNat place

/-- The texts of a row by the names of their columns, but for the one of the primary key. -/
def values (described : TableDescription) (row : List String) : List (String × String) :=
  let named := (described.columns.map ColumnDescription.name).zip row
  match described.keyColumn? with
  | some column => named.eraseIdx column
  | none => named

/-- The keys of the rows. -/
def keys (described : TableDescription) : List String :=
  described.rows.mapIdx described.key

/-- The records of the rows. -/
def records (described : TableDescription) : List (String × List (String × String)) :=
  described.rows.mapIdx fun place row => (described.key place row, described.values row)

/-- Tables that can be extracted together: their names are distinct, and so are the keys of each of them, and every
text of a column that refers to a table is one of its keys. -/
structure FitTogether (tables : List TableDescription) : Prop where
  named : (tables.map TableDescription.name).Nodup
  keyed : ∀ described ∈ tables, described.keys.Nodup
  referred : ∀ described ∈ tables, ∀ reference ∈ described.references,
    ∃ other ∈ tables, other.name = reference.2 ∧ ∀ row ∈ described.rows, row.getD reference.1 "" ∈ other.keys

section schema

variable {aliases : TypeAliases} {described : TableDescription} {sheet : Sheet} {row : Nat} {texts : List String}

theorem IsProper.length_row (proper : described.IsProper aliases) (here : described.rows[row]? = some texts) :
    described.columns.length = texts.length :=
  (proper.rows texts (List.mem_of_getElem? here)).length_eq

theorem text_at_row (laid : described.IsLaidOut sheet) (table : String) (here : described.rows[row]? = some texts)
    (column : Fin described.columns.length) : (described.schemaOn table sheet).text row column = texts.getD column.val "" := by
  rw [text_schemaOn laid row column, here, List.getD_eq_getElem?_getD]
  rfl

theorem hasValue_at_row (proper : described.IsProper aliases) (laid : described.IsLaidOut sheet) (table : String)
    (here : described.rows[row]? = some texts) (column : Fin described.columns.length) :
    (described.schemaOn table sheet).HasValue row column := by
  have row_proper := proper.rows texts (List.mem_of_getElem? here)
  have inside : column.val < texts.length := by
    rw [← proper.length_row here]
    exact column.isLt
  have accepted := (List.forall₂_iff_get.mp row_proper).2 column.val column.isLt inside
  have text : texts.getD column.val "" = texts.get ⟨column.val, inside⟩ := List.getD_eq_getElem _ _ inside
  unfold Schema.HasValue
  rw [text_at_row laid table here, propertyAt_schemaOn proper laid, text]
  exact accepted

theorem rows_at {table : String} (laid : described.IsLaidOut sheet) (before : row < (described.schemaOn table sheet).rowCount) :
    ∃ texts, described.rows[row]? = some texts := by
  have count : (described.schemaOn table sheet).rowCount = described.rows.length := rowCount_laidOut laid _
  rw [count] at before
  exact ⟨_, List.getElem?_eq_getElem before⟩

theorem isFilled_schemaOn (proper : described.IsProper aliases) (laid : described.IsLaidOut sheet) (table : String) :
    (described.schemaOn table sheet).IsFilled := by
  intro row before column
  obtain ⟨texts, here⟩ := rows_at laid before
  exact hasValue_at_row proper laid table here column

theorem keyText_at_row (proper : described.IsProper aliases) (laid : described.IsLaidOut sheet) (table : String)
    (here : described.rows[row]? = some texts) : (described.schemaOn table sheet).keyText row = described.key row texts := by
  have same := (isReadAs_schemaOn proper laid table).primaryKey
  cases found : (described.schemaOn table sheet).primaryKey with
  | none =>
    rw [found] at same
    rw [Schema.keyText, found, key, ← same]
    rfl
  | some column =>
    rw [found] at same
    rw [Schema.keyText, found, key, ← same]
    exact text_at_row laid table here column

/-- What is left without one of them. -/
private theorem map_filter_finRange {α : Type} {n : Nat} (f : Fin n → α) (left_out : Option (Fin n)) :
    ((List.finRange n).filter fun place => left_out ≠ some place).map f =
      match left_out.map Fin.val with
      | some place => ((List.finRange n).map f).eraseIdx place
      | none => (List.finRange n).map f := by
  cases left_out with
  | none => simp
  | some left_out =>
    have apart : (fun place => decide (some left_out ≠ some place)) = fun place => place != left_out := by
      funext place
      by_cases same : place = left_out
      · simp [same]
      · simp [same, Ne.symm same]
    rw [apart, ← (List.nodup_finRange n).erase_eq_filter, List.erase_eq_eraseIdx_of_idxOf (List.idxOf_finRange left_out)]
    exact (List.eraseIdx_map f _ _).symm

theorem entries_at_row (proper : described.IsProper aliases) (laid : described.IsLaidOut sheet) (table : String)
    (here : described.rows[row]? = some texts) : (described.schemaOn table sheet).entries row = described.values texts := by
  have same_length := proper.length_row here
  have named : (List.finRange described.columns.length).map
      (fun column => (described.columns[column].name, texts.getD column.val "")) =
        (described.columns.map ColumnDescription.name).zip texts := by
    apply List.ext_getElem
    · simp [same_length]
    · intro place inside _
      simp at inside
      simp [List.getElem?_eq_getElem (same_length ▸ inside)]
  have entry (column : Fin described.columns.length) :
      (((described.schemaOn table sheet).propertyAt column).name, (described.schemaOn table sheet).text row column) =
        (described.columns[column].name, texts.getD column.val "") := by
    rw [propertyAt_schemaOn proper laid, text_at_row laid table here]
  have entries : (described.schemaOn table sheet).entries row =
      ((List.finRange described.columns.length).filter fun column =>
        Discovery.primaryKey? sheet described.columns.length ≠ some column).map
          fun column => (described.columns[column].name, texts.getD column.val "") :=
    List.map_congr_left fun column _ => entry column
  rw [entries, map_filter_finRange, proper.primaryKey laid, named]
  rfl

end schema

variable {aliases : TypeAliases} {described : TableDescription} {sheet : Sheet}

theorem map_rows {α : Type} (laid : described.IsLaidOut sheet) (table : String) {read : Nat → α} {write : Nat → List String → α}
    (same : ∀ row texts, described.rows[row]? = some texts → read row = write row texts) :
    (List.range (described.schemaOn table sheet).rowCount).map read = described.rows.mapIdx write := by
  have count : (described.schemaOn table sheet).rowCount = described.rows.length := rowCount_laidOut laid _
  apply List.ext_getElem
  · simp [count]
  · intro row _ inside
    have row_inside : row < described.rows.length := by simpa using inside
    simpa using same row _ (List.getElem?_eq_getElem row_inside)

theorem map_keyText (proper : described.IsProper aliases) (laid : described.IsLaidOut sheet) (table : String) :
    (List.range (described.schemaOn table sheet).rowCount).map (described.schemaOn table sheet).keyText = described.keys := by
  apply map_rows laid table
  intro row texts here
  exact keyText_at_row proper laid table here

theorem exists_keyText (proper : described.IsProper aliases) (laid : described.IsLaidOut sheet) (table : String) {key : String}
    (member : key ∈ described.keys) :
    ∃ row < (described.schemaOn table sheet).rowCount, (described.schemaOn table sheet).keyText row = key := by
  rw [← map_keyText proper laid table] at member
  simpa using member

theorem isNewAfter_schemaOn (proper : described.IsProper aliases) (laid : described.IsLaidOut sheet) (table : String)
    (distinct : described.keys.Nodup) {earlier : List Schema} (apart : ∀ other ∈ earlier, other.name ≠ described.name) :
    (described.schemaOn table sheet).IsNewAfter earlier := by
  rw [← map_keyText proper laid table] at distinct
  intro _ row row_in
  constructor
  · intro before before_row same
    have before_in := Nat.lt_trans before_row row_in
    have equal := List.inj_on_of_nodup_map distinct (List.mem_range.mpr before_in) (List.mem_range.mpr row_in) same
    omega
  · intro other member named
    exact absurd named (apart other member)

theorem toList_rowsOf_schemaOn (proper : described.IsProper aliases) (laid : described.IsLaidOut sheet) (table : String)
    (distinct : described.keys.Nodup) :
    (described.schemaOn table sheet).rowsOf.toList.map (fun record => (record.1, record.2.toList)) = described.records := by
  have discovered : (described.schemaOn table sheet).IsDiscovered := ⟨table, sheet, aliases, discover_laidOut proper laid table⟩
  have new : (described.schemaOn table sheet).IsNewAfter [] :=
    isNewAfter_schemaOn proper laid table distinct (List.forall_mem_nil _)
  rw [Schema.toList_rowsOf new, List.map_map]
  apply map_rows laid table
  intro row texts here
  simp only [Function.comp_apply]
  rw [keyText_at_row proper laid table here, discovered.toList_recordOf, entries_at_row proper laid table here]

section tables

variable {tables : List TableDescription} {schema : TableDescription → Schema}

theorem FitTogether.keysAreNew (fit : FitTogether tables)
    (new : ∀ described ∈ tables, ∀ earlier : List Schema, (∀ other ∈ earlier, other.name ≠ described.name) →
      (schema described).IsNewAfter earlier)
    (named : ∀ described ∈ tables, (schema described).name = described.name) : Tables.KeysAreNew (tables.map schema) := by
  intro earlier found later split
  obtain ⟨before, rest, rfl, rfl, rest_split⟩ := List.map_eq_append_iff.mp split
  obtain ⟨described, after, rfl, rfl, rfl⟩ := List.map_eq_cons_iff.mp rest_split
  have member : described ∈ before ++ described :: after := by simp
  apply new described member
  intro other other_member same
  obtain ⟨earlier_table, before_member, rfl⟩ := List.mem_map.mp other_member
  have names := fit.named
  rw [List.map_append, List.map_cons] at names
  rw [named earlier_table (List.mem_append_left _ before_member)] at same
  exact (List.nodup_append.mp names).2.2 _ (List.mem_map_of_mem before_member) _ List.mem_cons_self same

theorem toList_ofSchemas (distinct : (tables.map TableDescription.name).Nodup)
    (named : ∀ described ∈ tables, (schema described).name = described.name) :
    (Tables.ofSchemas (tables.map schema)).toList = tables.map fun described => (described.name, (schema described).rowsOf) := by
  have entries : (tables.map schema).map (fun schema => (schema.name, schema.rowsOf)) =
      tables.map fun described => (described.name, (schema described).rowsOf) := by
    rw [List.map_map]
    apply List.map_congr_left
    intro described member
    simp [named described member]
  rw [Tables.ofSchemas, entries, OrderedBy.toList_foldl_insert, OrderedBy.toList_empty, List.nil_append]
  rw [OrderedBy.toList_empty, List.nil_append, List.map_map]
  exact distinct

variable {sheetOf : TableDescription → Sheet}

theorem FitTogether.refersTo (fit : FitTogether tables) (proper : ∀ described ∈ tables, described.IsProper aliases)
    (laid : ∀ described ∈ tables, described.IsLaidOut (sheetOf described)) (tableOf : TableDescription → String)
    (member : described ∈ tables) : (described.schemaOn (tableOf described) (sheetOf described)).RefersTo
      (tables.map fun described => described.schemaOn (tableOf described) (sheetOf described)) := by
  intro reference reference_member
  have listed : (reference.column.val, reference.table) ∈ described.references := by
    rw [← (isReadAs_schemaOn (proper described member) (laid described member) _).foreignKeys]
    exact List.mem_map.mpr ⟨reference, reference_member, rfl⟩
  obtain ⟨other, other_inside, named, keyed⟩ := fit.referred described member _ listed
  have other_member : other.schemaOn (tableOf other) (sheetOf other) ∈
      tables.map fun described => described.schemaOn (tableOf described) (sheetOf described) :=
    List.mem_map.mpr ⟨other, other_inside, rfl⟩
  refine ⟨⟨_, other_member, named⟩, ?_⟩
  intro row before
  obtain ⟨texts, here⟩ := rows_at (laid described member) before
  obtain ⟨target, target_in, target_key⟩ := exists_keyText (proper other other_inside) (laid other other_inside)
    (tableOf other) (keyed texts (List.mem_of_getElem? here))
  refine ⟨_, other_member, named, target, target_in, ?_⟩
  rw [target_key]
  exact (text_at_row (laid described member) (tableOf described) here reference.column).symm

theorem FitTogether.valid (fit : FitTogether tables) (proper : ∀ described ∈ tables, described.IsProper aliases)
    (laid : ∀ described ∈ tables, described.IsLaidOut (sheetOf described)) (tableOf : TableDescription → String) :
    Tables.Valid (tables.map fun described => described.schemaOn (tableOf described) (sheetOf described)) := by
  refine ⟨?_, fit.keysAreNew ?_ fun _ _ => rfl, ?_⟩
  · intro schema member
    obtain ⟨described, inside, rfl⟩ := List.mem_map.mp member
    exact isFilled_schemaOn (proper described inside) (laid described inside) _
  · intro described member earlier apart
    exact isNewAfter_schemaOn (proper described member) (laid described member) _ (fit.keyed described member) apart
  · intro schema member
    obtain ⟨described, inside, rfl⟩ := List.mem_map.mp member
    exact fit.refersTo proper laid tableOf inside

end tables

/-- Described tables that fit together are read off any sheets that show them: discovery reads each description, and
extraction gives exactly the records of its rows. -/
theorem extract_laidOut {tables : List TableDescription} {sheetOf : TableDescription → Sheet}
    (proper : ∀ described ∈ tables, described.IsProper aliases) (fit : FitTogether tables)
    (laid : ∀ described ∈ tables, described.IsLaidOut (sheetOf described)) (tableOf : TableDescription → String) :
    ∃ schema : TableDescription → Schema,
      (∀ described ∈ tables,
        Schema.discover (tableOf described) (sheetOf described) aliases = .ok (schema described) ∧
          described.IsReadAs (schema described)) ∧
      ∃ found catalog, (Tables.extract (tables.map schema)).run.run KeyCatalog.empty = (.ok found, catalog) ∧
        found.toList.map (fun table => (table.1, table.2.toList.map fun record => (record.1, record.2.toList))) =
          tables.map fun described => (described.name, described.records) := by
  refine ⟨fun described => described.schemaOn (tableOf described) (sheetOf described), ?_, ?_⟩
  · intro described member
    exact ⟨discover_laidOut (proper described member) (laid described member) _,
      isReadAs_schemaOn (proper described member) (laid described member) _⟩
  · refine ⟨_, _, Tables.extract_ok_iff.mpr ⟨fit.valid proper laid tableOf, rfl, rfl⟩, ?_⟩
    rw [toList_ofSchemas fit.named fun _ _ => rfl, List.map_map]
    apply List.map_congr_left
    intro described member
    rw [Function.comp_apply,
      toList_rowsOf_schemaOn (proper described member) (laid described member) _ (fit.keyed described member)]

/-- Keys and texts with the marker in them. -/
def rarities : TableDescription where
  name := "Rarity"
  columns := [⟨"Id[PKEY]", "Id", .primaryKey, "string", .string, "what @ stands for"⟩, ⟨"Label@", "Label@", .value, "string", .string, ""⟩]
  rows := [["@", "common"], ["r@re", "@"]]

/-- A table with two columns that are marked as the key, and a reference. -/
def swords : TableDescription where
  name := "Sw@rd"
  columns := [⟨"Rarity[Rarity]", "Rarity", .reference "Rarity", "string", .string, "@"⟩, ⟨"pKey", "pKey", .primaryKey, "int", .int, ""⟩,
    ⟨"Old[pkey]", "Old", .primaryKey, "long", .long, ""⟩]
  rows := [["r@re", "7", "7"], ["@", "12", "7"]]

/-- A table that has no key and no rows. -/
def remarks : TableDescription where
  name := "@"
  columns := [⟨"Text", "Text", .value, "string", .string, "@"⟩]
  rows := []

theorem column_isProper {column : ColumnDescription} {sheetName : String}
    (declared : Header.read column.raw = ⟨column.name, column.role⟩)
    (filled : isAllBlank column.raw = false ∧ column.raw.toList.any isBlank = false)
    (unlike : column.raw ≠ sheetName ∧ column.name ≠ sheetName) (resolved : aliases.resolve column.written = some column.type) :
    column.IsProper aliases sheetName := by
  refine ⟨Header.read_eq_iff.mp declared, filled.1, ?_, unlike, resolved⟩
  simpa using filled.2

theorem three_proper : ∀ described ∈ [rarities, swords, remarks], described.IsProper .builtin := by
  have string : TypeAliases.builtin.resolve "string" = some .string := resolve_builtin .string
  have int : TypeAliases.builtin.resolve "int" = some .int := resolve_builtin .int
  have long : TypeAliases.builtin.resolve "long" = some .long := resolve_builtin .long
  simp only [List.forall_mem_cons, List.not_mem_nil, false_implies, implies_true, and_true]
  refine ⟨⟨by decide +kernel, List.cons_ne_nil _ _, ?_, by decide, by decide +kernel⟩,
    ⟨by decide +kernel, List.cons_ne_nil _ _, ?_, by decide, by decide +kernel⟩,
    ⟨by decide +kernel, List.cons_ne_nil _ _, ?_, by decide, by decide +kernel⟩⟩
  · simp only [rarities, List.forall_mem_cons, List.not_mem_nil, false_implies, implies_true, and_true]
    exact ⟨column_isProper (by decide +kernel) (by decide +kernel) (by decide) string,
      column_isProper (by decide +kernel) (by decide +kernel) (by decide) string⟩
  · simp only [swords, List.forall_mem_cons, List.not_mem_nil, false_implies, implies_true, and_true]
    exact ⟨column_isProper (by decide +kernel) (by decide +kernel) (by decide) string,
      column_isProper (by decide +kernel) (by decide +kernel) (by decide) int,
      column_isProper (by decide +kernel) (by decide +kernel) (by decide) long⟩
  · simp only [remarks, List.forall_mem_cons, List.not_mem_nil, false_implies, implies_true, and_true]
    exact column_isProper (by decide +kernel) (by decide +kernel) (by decide) string

theorem three_fitTogether : FitTogether [rarities, swords, remarks] := by
  refine ⟨by decide, by decide +kernel, by decide +kernel⟩

theorem extract_laidOut_three :
    (∀ described ∈ [rarities, swords, remarks],
      described.IsProper .builtin ∧ described.IsLaidOut (described.toSheet "Three.xlsx" described.name)) ∧
    FitTogether [rarities, swords, remarks] ∧
    ∃ schema : TableDescription → Schema,
      (∀ described ∈ [rarities, swords, remarks],
        Schema.discover "Three" (described.toSheet "Three.xlsx" described.name) .builtin = .ok (schema described) ∧
          described.IsReadAs (schema described)) ∧
      ∃ found catalog,
        (Tables.extract ([rarities, swords, remarks].map schema)).run.run KeyCatalog.empty = (.ok found, catalog) ∧
          found.toList.map (fun table => (table.1, table.2.toList.map fun record => (record.1, record.2.toList))) =
            [("Rarity", [("@", [("Label@", "common")]), ("r@re", [("Label@", "@")])]),
              ("Sw@rd", [("7", [("Rarity", "r@re"), ("Old", "7")]), ("12", [("Rarity", "@"), ("Old", "7")])]), ("@", [])] := by
  have laid : ∀ described ∈ [rarities, swords, remarks], described.IsLaidOut (described.toSheet "Three.xlsx" described.name) := by
    intro described member
    exact isLaidOut_toSheet (three_proper described member) _ _
  refine ⟨fun described member => ⟨three_proper described member, laid described member⟩, three_fitTogether, ?_⟩
  exact extract_laidOut three_proper three_fitTogether laid fun _ => "Three"

end TableDescription

end Tablesmith
