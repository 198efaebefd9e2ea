import Mathlib
import Tablesmith.Proofs.Extract.Layout
import Tablesmith.Proofs.Extract.Reuse
import Tablesmith.Proofs.Schema.Invariant

/-!
# References in headers

A header can have a name in front of brackets and the name of a table in them. It is
read as a reference only if both are words, while the name of a table need not be one.
Otherwise the header as a whole is the name of a column that refers to nothing, and
extraction lets every text of the column through (`refers_iff`).
-/

namespace Tablesmith

open Discovery Text

namespace Header

variable {name target : String}

/-- A text that brackets can stand around or behind. -/
def IsPart (text : String) : Prop :=
  text ≠ "" ∧ ∀ c ∈ text.toList, isBlank c = false ∧ c ≠ '[' ∧ c ≠ ']'

theorem isPart_of_all {text : String} (filled : text ≠ "")
    (clear : text.toList.all (fun c => !isBlank c && c != '[' && c != ']') = true) : IsPart text :=
  ⟨filled, by simpa [and_assoc] using clear⟩

theorem isWord_of_all {text : String} (filled : text ≠ "") (word_chars : text.toList.all isWordChar = true) : IsWord text :=
  ⟨filled, by simpa using word_chars⟩

/-- The header names a column and puts the name of a table in brackets behind it. -/
structure Points (raw name target : String) : Prop where
  split : raw = marked name target
  named : IsPart name
  targeted : IsPart target
  no_key : sameAscii target keyMark = false

theorem bracket_not_mem {word : String} (is_word : IsWord word) : '[' ∉ word.toList := by
  intro inside
  have word_char := is_word.2 '[' inside
  rw [bracket_no_word.1] at word_char
  cases word_char

theorem takeWhile_to_bracket {front rest : List Char} (outside : '[' ∉ front) :
    (front ++ '[' :: rest).takeWhile (· ≠ '[') = front := by
  have kept : ∀ c ∈ front, decide (c ≠ '[') = true := by
    intro c member
    exact decide_eq_true (ne_of_mem_of_not_mem member outside)
  rw [List.takeWhile_append_of_pos kept]
  simp

/-- The first opening bracket ends the name. -/
theorem marked_injective {other mark : String} (outside : '[' ∉ name.toList) (other_outside : '[' ∉ other.toList)
    (same : marked name target = marked other mark) : name = other ∧ target = mark := by
  have chars := congrArg String.toList same
  rw [toList_marked, toList_marked] at chars
  have fronts := congrArg (List.takeWhile (· ≠ '[')) chars
  rw [takeWhile_to_bracket outside, takeWhile_to_bracket other_outside] at fronts
  rw [fronts] at chars
  have marks := List.cons.inj (List.append_cancel_left chars)
  exact ⟨String.toList_inj.mp fronts, String.toList_inj.mp (List.append_cancel_right marks.2)⟩

/-- Between words the mark is read, and otherwise it is part of the name. -/
theorem Points.read {raw : String} (points : Points raw name target) :
    (IsWord name ∧ IsWord target → Header.read raw = ⟨name, .reference target⟩) ∧
      (¬ (IsWord name ∧ IsWord target) → Header.read raw = ⟨raw, .value⟩) := by
  obtain ⟨rfl, named, -, no_key⟩ := points
  constructor
  · rintro ⟨name_word, target_word⟩
    exact read_eq_iff.mpr (.reference name_word target_word no_key)
  · intro no_words
    refine read_eq_iff.mpr (.plain marked_ne_keyMark ?_)
    intro other mark other_word mark_word same
    have outside : '[' ∉ name.toList := fun inside => (named.2 '[' inside).2.1 rfl
    obtain ⟨rfl, rfl⟩ := marked_injective outside (bracket_not_mem other_word) same
    exact no_words ⟨other_word, mark_word⟩

end Header

namespace Discovery

theorem mem_foreignKeys_iff {sheet : Grid.Sheet} {columnCount : Nat} {key : ForeignKey columnCount} :
    key ∈ foreignKeys sheet columnCount ↔ (Header.read (rawName sheet key.column)).role = .reference key.table := by
  refine ⟨role_of_mem_foreignKeys, fun role => ?_⟩
  refine List.mem_filterMap.mpr ⟨key.column, List.mem_finRange _, ?_⟩
  rw [role]

end Discovery

namespace Schema

/-- The text is the key of a row of some sheet of the name. -/
def IsKeyOf (text table : String) (schemas : List Schema) : Prop :=
  ∃ other ∈ schemas, other.name = table ∧ ∃ target < other.rowCount, other.keyText target = text

/-- The column has its name and refers to a table, and no extraction among any sheets and after any calls gets past a
text of the column that is no key of the table. -/
structure Refers (schema : Schema) (column : Fin schema.columnCount) (name table : String) : Prop where
  named : (schema.propertyAt column).name = name
  listed : ⟨column, table⟩ ∈ schema.foreignKeys
  checked : ∀ schemas calls tables, schema ∈ schemas →
    ((TableExtractor.extract schemas).run.run (TableExtractor.after schemas calls)).1 = .ok tables →
      ∀ row < schema.rowCount, IsKeyOf (schema.text row column) table schemas

end Schema

namespace TableExtractor

/-- What an extractor extracts that was called before, a fresh one extracts too. -/
theorem extract_fresh_of_after {schemas : List Schema} {calls : List TableCall} {tables : Tables}
    (extracted : ((extract schemas).run.run (after schemas calls)).1 = .ok tables) :
    ((extract schemas).run.run fresh).1 = .ok tables := by
  by_cases collecting : ∃ call ∈ calls, call.Collects
  · by_cases some_written : ∃ schema ∈ schemas, ¬ schema.WritesNoKey
    · obtain ⟨schema, key, row, first⟩ := Tables.exists_writesFirst some_written
      cases valued : schema.value row key with
      | error fault =>
        rw [outcome_extract, Tables.run_extract_stopped (first.run_stopped valued _)] at extracted
        cases extracted
      | ok value =>
        rw [outcome_after_collecting first (Schema.value_ok_iff.mp valued).1 collecting] at extracted
        cases extracted
    · push Not at some_written
      rwa [outcome_unwritten some_written calls] at extracted
  · have reading : ∀ call ∈ calls, ¬ call.Collects := by simpa using collecting
    rwa [outcome_after_reading reading] at extracted

theorem valid_of_extract {schemas : List Schema} {calls : List TableCall} {tables : Tables}
    (extracted : ((extract schemas).run.run (after schemas calls)).1 = .ok tables) : Tables.Valid schemas := by
  have fresh_extracted := extract_fresh_of_after extracted
  rw [outcome_extract] at fresh_extracted
  exact (Tables.extract_ok_iff.mp (Prod.ext fresh_extracted rfl)).1

end TableExtractor

namespace Schema

variable {table : String} {sheet : Grid.Sheet} {aliases : TypeAliases} {schema : Schema} {name target : String}

theorem isKeyOf_of_listed {column : Fin schema.columnCount} (listed : ⟨column, target⟩ ∈ schema.foreignKeys)
    {schemas : List Schema} {calls : List TableCall} {tables : Tables} (member : schema ∈ schemas)
    (extracted : ((TableExtractor.extract schemas).run.run (TableExtractor.after schemas calls)).1 = .ok tables)
    {row : Nat} (row_in : row < schema.rowCount) : IsKeyOf (schema.text row column) target schemas :=
  ((TableExtractor.valid_of_extract extracted).referred schema member _ listed).2 row row_in

/-- A column whose header points to a table refers to it exactly if name and table are words. Otherwise the column is
named by the whole header, and refers to nothing. -/
theorem refers_iff (discovered : Schema.discover table sheet aliases = .ok schema) (column : Fin schema.columnCount)
    (points : Header.Points (rawName sheet column) name target) :
    (schema.Refers column name target ↔ Header.IsWord name ∧ Header.IsWord target) ∧
      (¬ (Header.IsWord name ∧ Header.IsWord target) →
        (schema.propertyAt column).name = rawName sheet column ∧ ∀ key ∈ schema.foreignKeys, key.column ≠ column) := by
  obtain ⟨sheet_name, range, types, -, -, -, -, -, rfl⟩ := discover_ok_iff.mp discovered
  obtain ⟨read_words, read_others⟩ := points.read
  have no_reference (no_words : ¬ (Header.IsWord name ∧ Header.IsWord target)) :
      ∀ key ∈ Discovery.foreignKeys sheet range.columnCount, key.column ≠ column := by
    rintro ⟨_, other⟩ member rfl
    have role := mem_foreignKeys_iff.mp member
    rw [read_others no_words] at role
    cases role
  refine ⟨⟨fun refers => ?_, fun words => ?_⟩, fun no_words => ⟨?_, no_reference no_words⟩⟩
  · by_contra no_words
    exact no_reference no_words _ refers.listed rfl
  · have listed : ⟨column, target⟩ ∈ Discovery.foreignKeys sheet range.columnCount := by
      rw [mem_foreignKeys_iff, read_words words]
    refine ⟨?_, listed, fun schemas calls tables member extracted row row_in => ?_⟩
    · rw [propertyAt_schemaOf, propertyName, read_words words]
    · exact isKeyOf_of_listed listed member extracted row_in
  · rw [propertyAt_schemaOf, propertyName, read_others no_words]

end Schema

namespace TableDescription

theorem swords_laidOut : swords.IsLaidOut (swords.toSheet "Three.xlsx" "Swords") :=
  isLaidOut_toSheet (three_proper swords (by simp)) _ _

theorem refers_swords : ∃ (schema : Schema) (column : Fin schema.columnCount),
    Schema.discover "Three" (swords.toSheet "Three.xlsx" "Swords") .builtin = .ok schema ∧
      Header.Points (rawName (swords.toSheet "Three.xlsx" "Swords") column) "Rarity" "Rarity" ∧
      schema.Refers column "Rarity" "Rarity" := by
  have discovered := discover_laidOut (three_proper swords (by simp)) swords_laidOut "Three"
  have here : swords.columns[0]? = some swords.columns[0] := rfl
  have header : rawName (swords.toSheet "Three.xlsx" "Swords") 0 = "Rarity[Rarity]" := rawName_laidOut swords_laidOut here
  have part : Header.IsPart "Rarity" := Header.isPart_of_all (by decide) (by decide +kernel)
  have word : Header.IsWord "Rarity" := Header.isWord_of_all (by decide) (by decide +kernel)
  have points : Header.Points (rawName (swords.toSheet "Three.xlsx" "Swords") 0) "Rarity" "Rarity" :=
    ⟨header, part, part, by decide⟩
  exact ⟨_, (0 : Fin 3), discovered, points, (Schema.refers_iff discovered (0 : Fin 3) points).1.mpr ⟨word, word⟩⟩

/-- The kinds of tools. -/
def kinds : TableDescription where
  name := "Item-Type"
  columns := [⟨"Id[pkey]", "Id", .primaryKey, "string", .string, ""⟩]
  rows := [["blade"]]

/-- A tool of a kind that there is not. -/
def tools : TableDescription where
  name := "Item"
  columns := [⟨"Id[pkey]", "Id", .primaryKey, "string", .string, ""⟩,
    ⟨"Kind[Item-Type]", "Kind[Item-Type]", .value, "string", .string, ""⟩]
  rows := [["saw", "hammer"]]

theorem tools_proper : ∀ described ∈ [kinds, tools], described.IsProper .builtin := by
  have string : TypeAliases.builtin.resolve "string" = some .string := resolve_builtin .string
  simp only [List.forall_mem_cons, List.not_mem_nil, false_implies, implies_true, and_true]
  refine ⟨⟨by decide +kernel, List.cons_ne_nil _ _, ?_, by decide, by decide +kernel⟩,
    ⟨by decide +kernel, List.cons_ne_nil _ _, ?_, by decide, by decide +kernel⟩⟩
  · simp only [kinds, List.forall_mem_cons, List.not_mem_nil, false_implies, implies_true, and_true]
    exact column_isProper (by decide +kernel) (by decide +kernel) (by decide) string
  · simp only [tools, List.forall_mem_cons, List.not_mem_nil, false_implies, implies_true, and_true]
    exact ⟨column_isProper (by decide +kernel) (by decide +kernel) (by decide) string,
      column_isProper (by decide +kernel) (by decide +kernel) (by decide) string⟩

theorem tools_fitTogether : FitTogether [kinds, tools] :=
  ⟨by decide, by decide +kernel, by decide +kernel⟩

/-- The sheet of a table of tools. -/
def toolSheet (described : TableDescription) : Grid.Sheet :=
  described.toSheet "Items.xlsx" described.name

theorem tools_laidOut : ∀ described ∈ [kinds, tools], described.IsLaidOut described.toolSheet :=
  fun described member => isLaidOut_toSheet (tools_proper described member) _ _

/-- The schema of a table of tools. -/
def toolSchema (described : TableDescription) : Schema :=
  described.schemaOn "Items" described.toolSheet

theorem keyText_kinds {row : Nat} (row_in : row < kinds.toolSchema.rowCount) : kinds.toolSchema.keyText row = "blade" := by
  have member : kinds ∈ [kinds, tools] := by simp
  have count : kinds.toolSchema.rowCount = 1 := rowCount_laidOut (tools_laidOut kinds member) _
  obtain rfl : row = 0 := by omega
  rw [toolSchema, keyText_at_row (tools_proper kinds member) (tools_laidOut kinds member) "Items" rfl]
  decide +kernel

/-- A header that points to a table whose name has a hyphen is not read as a reference: extraction lets a text
through that is no key of the table. -/
theorem extract_ignores_kind :
    (∀ described ∈ [kinds, tools], Schema.discover "Items" described.toolSheet .builtin = .ok described.toolSchema) ∧
      kinds.toolSchema.name = "Item-Type" ∧
      Header.Points (rawName tools.toolSheet 1) "Kind" "Item-Type" ∧
      (∃ tables catalog, (Tables.extract [kinds.toolSchema, tools.toolSchema]).run.run KeyCatalog.empty =
        (.ok tables, catalog)) ∧
      0 < tools.toolSchema.rowCount ∧
      ¬ Schema.IsKeyOf (tools.toolSchema.text 0 (1 : Fin 2)) "Item-Type" [kinds.toolSchema, tools.toolSchema] := by
  have tools_member : tools ∈ [kinds, tools] := by simp
  have laid := tools_laidOut tools tools_member
  have here : tools.columns[1]? = some tools.columns[1] := rfl
  have header : rawName tools.toolSheet 1 = "Kind[Item-Type]" := rawName_laidOut laid here
  have kind_part : Header.IsPart "Kind" := Header.isPart_of_all (by decide) (by decide +kernel)
  have type_part : Header.IsPart "Item-Type" := Header.isPart_of_all (by decide) (by decide +kernel)
  have first_row : tools.rows[0]? = some ["saw", "hammer"] := rfl
  have text : tools.toolSchema.text 0 (1 : Fin 2) = "hammer" := text_at_row laid "Items" first_row (1 : Fin 2)
  have valid : Tables.Valid [kinds.toolSchema, tools.toolSchema] :=
    tools_fitTogether.valid tools_proper tools_laidOut fun _ => "Items"
  refine ⟨fun described member => discover_laidOut (tools_proper described member) (tools_laidOut described member) _, rfl,
    ⟨header, kind_part, type_part, by decide⟩, ⟨_, _, Tables.extract_ok_iff.mpr ⟨valid, rfl, rfl⟩⟩, ?_, ?_⟩
  · have count : tools.toolSchema.rowCount = 1 := rowCount_laidOut laid _
    omega
  · rw [text]
    rintro ⟨other, member, named, target, target_in, is_key⟩
    simp only [List.mem_cons, List.not_mem_nil, or_false] at member
    rcases member with rfl | rfl
    · rw [keyText_kinds target_in] at is_key
      exact absurd is_key (by decide)
    · exact absurd named (by decide)

end TableDescription

end Tablesmith
