import Mathlib
import Tablesmith.Accessor.Code
import Tablesmith.Extract.Extractor
import Tablesmith.Proofs.Schema.Block

/-!
# Sheets in place of one another

What is made of schemas depends on their sheets through the texts of the rows of data
alone (`ReadsAlike`). A sheet may therefore take the place of one with the same block:
tables, texts and code are made of it in the same way, with the same faults
(`block_decides_all`).
-/

namespace Tablesmith

open Grid Discovery
open Outcome (map_eq_of_forall₂)

section
variable {m : Type → Type} [Monad m] {α β γ : Type} {items : List α} {others : List β}

theorem forM_eq_of_map_eq {step : α → m PUnit} {other : β → m PUnit} (same : others.map other = items.map step) :
    others.forM other = items.forM step := by
  have through_id {ι : Type} (items : List ι) (step : ι → m PUnit) : (items.map step).forM id = items.forM step := by
    induction items with
    | nil => rfl
    | cons item items ih => exact congrArg (step item >>= fun _ => ·) ih
  rw [← through_id, same, through_id]

theorem foldlM_eq_of_map_eq {step : γ → α → m γ} {other : γ → β → m γ}
    (same : (others.map fun item state => other state item) = items.map fun item state => step state item) (state : γ) :
    others.foldlM other state = items.foldlM step state := by
  have through_apply {ι : Type} (items : List ι) (step : γ → ι → m γ) :
      (items.map fun item state => step state item).foldlM (fun state step => step state) state = items.foldlM step state :=
    List.foldlM_map
  rw [← through_apply, same, through_apply]

end

namespace Schema

variable {schema other : Schema} {grid : Sheet}

/-- The schemas differ in their sheets alone, and the sheets do not in the texts of the rows of data. -/
def ReadsAlike (schema other : Schema) : Prop :=
  ∃ grid, other = schema.withGrid grid ∧
    ∀ row < schema.rowCount, ∀ column : Fin schema.columnCount,
      (schema.withGrid grid).text row column = schema.text row column

theorem ReadsAlike.refl (schema : Schema) : schema.ReadsAlike schema :=
  ⟨schema.grid, rfl, fun _ _ _ => rfl⟩

theorem ReadsAlike.symm (alike : schema.ReadsAlike other) : other.ReadsAlike schema := by
  obtain ⟨grid, rfl, same⟩ := alike
  exact ⟨schema.grid, rfl, fun row inside column => (same row inside column).symm⟩

end Schema

open Schema Extractor

variable {schema other : Schema} {grid : Sheet} {row : Nat} {schemas others : List Schema}

namespace TableExtractor

theorem readValue_withGrid {κ : Type} {column : Fin schema.columnCount}
    (same : (schema.withGrid grid).text row column = schema.text row column) :
    (readValue (schema.withGrid grid) row column : Extracting κ String) = readValue schema row column := by
  unfold readValue
  rw [same]
  rfl

theorem collectKey_withGrid {key : Fin schema.columnCount}
    (same : (schema.withGrid grid).text row key = schema.text row key) :
    collectKey (schema.withGrid grid) key row = collectKey schema key row := by
  unfold collectKey
  rw [same]
  rfl

theorem collectSheetKeys_of_readsAlike (alike : schema.ReadsAlike other) :
    collectSheetKeys other = collectSheetKeys schema := by
  obtain ⟨grid, rfl, same⟩ := alike
  unfold collectSheetKeys
  cases schema.primaryKey with
  | none => rfl
  | some key =>
    have same_rows : (List.range schema.rowCount).forM (collectKey (schema.withGrid grid) key) =
        (List.range schema.rowCount).forM (collectKey schema key) :=
      forM_eq_of_map_eq (List.map_congr_left fun row member => collectKey_withGrid (same row (List.mem_range.mp member) key))
    simp only [same_rows]
    rfl

theorem checkReference_withGrid {reference : ForeignKey schema.columnCount}
    (same : (schema.withGrid grid).text row reference.column = schema.text row reference.column) :
    checkReference (schema.withGrid grid) reference row = checkReference schema reference row := by
  unfold checkReference
  rw [readValue_withGrid same]

theorem checkForeignKey_withGrid {reference : ForeignKey schema.columnCount}
    (same : ∀ row < schema.rowCount, (schema.withGrid grid).text row reference.column = schema.text row reference.column) :
    checkForeignKey (schema.withGrid grid) reference = checkForeignKey schema reference := by
  have same_rows : (List.range schema.rowCount).forM (checkReference (schema.withGrid grid) reference) =
      (List.range schema.rowCount).forM (checkReference schema reference) :=
    forM_eq_of_map_eq (List.map_congr_left fun row member => checkReference_withGrid (same row (List.mem_range.mp member)))
  unfold checkForeignKey
  simp only [same_rows]
  rfl

theorem checkSheetReferences_of_readsAlike (alike : schema.ReadsAlike other) :
    checkSheetReferences other = checkSheetReferences schema := by
  obtain ⟨grid, rfl, same⟩ := alike
  have same_references : schema.foreignKeys.forM (checkForeignKey (schema.withGrid grid)) =
      schema.foreignKeys.forM (checkForeignKey schema) :=
    forM_eq_of_map_eq (List.map_congr_left fun reference _ =>
      checkForeignKey_withGrid fun row inside => same row inside reference.column)
  exact congrArg (enterSheet schema >>= fun _ => ·) same_references

theorem readKey_withGrid
    (same : ∀ column : Fin schema.columnCount, (schema.withGrid grid).text row column = schema.text row column) :
    readKey (schema.withGrid grid) row = readKey schema row := by
  unfold readKey
  cases schema.primaryKey with
  | none => rfl
  | some key => exact readValue_withGrid (same key)

theorem addRow_withGrid
    (same : ∀ column : Fin schema.columnCount, (schema.withGrid grid).text row column = schema.text row column)
    (rows : Rows) : addRow (schema.withGrid grid) rows row = addRow schema rows row := by
  have same_values : schema.valueProperties.foldlM (addValue (schema.withGrid grid) row) OrderedBy.empty =
      schema.valueProperties.foldlM (addValue schema row) OrderedBy.empty := by
    refine foldlM_eq_of_map_eq (List.map_congr_left fun column _ => funext fun record => ?_) _
    unfold addValue
    rw [readValue_withGrid (same column)]
    rfl
  unfold addRow
  rw [readKey_withGrid same]
  exact congrArg (fun record => readKey schema row >>= fun key => record >>= fun record => pure (rows.insert (key, record)))
    same_values

theorem addSheet_of_readsAlike (alike : schema.ReadsAlike other) (tables : Tables) :
    addSheet tables other = addSheet tables schema := by
  obtain ⟨grid, rfl, same⟩ := alike
  have same_rows : (List.range schema.rowCount).foldlM (addRow (schema.withGrid grid)) OrderedBy.empty =
      (List.range schema.rowCount).foldlM (addRow schema) OrderedBy.empty :=
    foldlM_eq_of_map_eq (List.map_congr_left fun row member =>
      funext fun rows => addRow_withGrid (same row (List.mem_range.mp member)) rows) _
  unfold addSheet
  simp only [same_rows]
  rfl

/-- Tables are extracted from sheets that read alike by the same steps. -/
theorem extract_of_readsAlike (alike : List.Forall₂ ReadsAlike schemas others) : extract others = extract schemas := by
  have same_keys : collectKeys others = collectKeys schemas :=
    forM_eq_of_map_eq (map_eq_of_forall₂ (fun _ _ => collectSheetKeys_of_readsAlike) alike)
  have same_references : checkReferences others = checkReferences schemas :=
    forM_eq_of_map_eq (map_eq_of_forall₂ (fun _ _ => checkSheetReferences_of_readsAlike) alike)
  have same_tables : others.foldlM addSheet OrderedBy.empty = schemas.foldlM addSheet OrderedBy.empty :=
    foldlM_eq_of_map_eq (map_eq_of_forall₂ (fun _ _ alike => funext (addSheet_of_readsAlike alike)) alike) _
  unfold extract read
  rw [same_keys, same_references, same_tables]

end TableExtractor

namespace StringExtractor

theorem stringKey_withGrid (schema : Schema) (grid : Sheet) : stringKey (schema.withGrid grid) = stringKey schema := by
  unfold stringKey
  cases schema.primaryKey <;> rfl

theorem addNames_of_readsAlike (alike : schema.ReadsAlike other) (known : List String) :
    addNames known other = addNames known schema := by
  obtain ⟨grid, rfl, -⟩ := alike
  unfold addNames
  rw [stringKey_withGrid]
  rfl

theorem addRow_withGrid
    (same : ∀ column : Fin schema.columnCount, (schema.withGrid grid).text row column = schema.text row column)
    (key : Fin schema.columnCount) (table : StringTable) :
    addRow (schema.withGrid grid) key table row = addRow schema key table row := by
  have same_texts (text : String) :
      (schema.withGrid grid).valueProperties.foldlM (addCell (schema.withGrid grid) row text) table.languages =
        schema.valueProperties.foldlM (addCell schema row text) table.languages := by
    refine foldlM_eq_of_map_eq (List.map_congr_left fun column _ => funext fun languages => ?_) _
    unfold addCell
    rw [same column]
    rfl
  unfold addRow
  rw [same key]
  simp only [same_texts]
  rfl

theorem addSheet_of_readsAlike (alike : schema.ReadsAlike other) (table : StringTable) :
    addSheet table other = addSheet table schema := by
  obtain ⟨grid, rfl, same⟩ := alike
  have same_rows (key : Fin schema.columnCount) (table : StringTable) :
      (List.range schema.rowCount).foldlM (addRow (schema.withGrid grid) key) table =
        (List.range schema.rowCount).foldlM (addRow schema key) table :=
    foldlM_eq_of_map_eq (List.map_congr_left fun row member =>
      funext fun table => addRow_withGrid (same row (List.mem_range.mp member)) key table) _
  unfold addSheet
  rw [stringKey_withGrid]
  simp only [same_rows]
  rfl

/-- Texts are extracted from sheets that read alike by the same steps. -/
theorem extract_of_readsAlike (alike : List.Forall₂ ReadsAlike schemas others) : extract others = extract schemas := by
  have same_names : others.foldlM addNames [] = schemas.foldlM addNames [] :=
    foldlM_eq_of_map_eq (map_eq_of_forall₂ (fun _ _ alike => funext (addNames_of_readsAlike alike)) alike) _
  have same_texts : others.foldlM addSheet StringTable.empty = schemas.foldlM addSheet StringTable.empty :=
    foldlM_eq_of_map_eq (map_eq_of_forall₂ (fun _ _ alike => funext (addSheet_of_readsAlike alike)) alike) _
  unfold extract names read
  rw [same_names, same_texts]

end StringExtractor

namespace Accessor

theorem firstOfName_of_readsAlike (alike : List.Forall₂ ReadsAlike schemas others) (seen : List String) :
    List.Forall₂ ReadsAlike (firstOfName seen schemas) (firstOfName seen others) := by
  induction alike generalizing seen with
  | nil => exact .nil
  | @cons schema other _ _ first _ ih =>
    have same_name : other.name = schema.name := by
      obtain ⟨grid, rfl, -⟩ := first
      rfl
    rw [firstOfName, firstOfName, same_name]
    by_cases known : seen.contains schema.name = true
    · rw [if_pos known, if_pos known]
      exact ih seen
    · rw [if_neg known, if_neg known]
      exact .cons first (ih _)

/-- The code does not depend on sheets at all. -/
theorem generate_of_readsAlike (alike : List.Forall₂ ReadsAlike schemas others) : generate others = generate schemas := by
  have sheets_alike := firstOfName_of_readsAlike alike []
  have same_classes : (firstOfName [] others).map tableClass = (firstOfName [] schemas).map tableClass := by
    refine map_eq_of_forall₂ ?_ sheets_alike
    rintro schema _ ⟨grid, rfl, -⟩
    rfl
  have same_cases : (firstOfName [] others).map managerCase = (firstOfName [] schemas).map managerCase := by
    refine map_eq_of_forall₂ ?_ sheets_alike
    rintro schema _ ⟨grid, rfl, -⟩
    rfl
  unfold generate managerClass
  simp only [same_classes, same_cases]

end Accessor

section
variable {left right : Sheet} {table : String} {aliases : TypeAliases}

/-- The schemas are the same, or they are those of the two sheets, one of each. -/
def Schema.Exchanges (table : String) (aliases : TypeAliases) (left right : Sheet) (schema other : Schema) : Prop :=
  other = schema ∨
    (Schema.discover table left aliases = .ok schema ∧ Schema.discover table right aliases = .ok other) ∨
    (Schema.discover table right aliases = .ok schema ∧ Schema.discover table left aliases = .ok other)

/-- The texts of the rows of data are in the block. -/
theorem readsAlike_of_sameBlock (same : SameBlock left right) (from_left : Schema.discover table left aliases = .ok schema)
    (from_right : Schema.discover table right aliases = .ok other) : schema.ReadsAlike other := by
  rw [discover_of_sameBlock same, from_left] at from_right
  obtain rfl := Except.ok.inj from_right
  obtain ⟨name, range, types, -, ranged, -, -, -, rfl⟩ := discover_ok_iff.mp from_left
  have spans := spans_of_range ranged
  refine ⟨right, rfl, fun row inside column => ?_⟩
  exact (same.inside _ _ (.data spans column.isLt ((lt_rowCount_iff spans.1).mp inside))).1.symm

theorem Schema.Exchanges.readsAlike (same : SameBlock left right)
    (exchanges : Exchanges table aliases left right schema other) : schema.ReadsAlike other := by
  rcases exchanges with rfl | ⟨from_left, from_right⟩ | ⟨from_right, from_left⟩
  · exact .refl other
  · exact readsAlike_of_sameBlock same from_left from_right
  · exact (readsAlike_of_sameBlock same from_left from_right).symm

/-- Only the marked block of a sheet counts: a sheet with the same block is discovered in the same way, and lists of schemas
in which one takes the place of the other are extracted by the same steps and give the same code. -/
theorem block_decides_all (same : SameBlock left right) (table : String) (aliases : TypeAliases) :
    Schema.discover table right aliases = (Schema.discover table left aliases).map (·.withGrid right) ∧
    ∀ schemas others, List.Forall₂ (Exchanges table aliases left right) schemas others →
      TableExtractor.extract others = TableExtractor.extract schemas ∧
      StringExtractor.extract others = StringExtractor.extract schemas ∧
      Accessor.generate others = Accessor.generate schemas := by
  refine ⟨discover_of_sameBlock same, fun schemas others exchanged => ?_⟩
  have alike : List.Forall₂ ReadsAlike schemas others := exchanged.imp fun _ _ exchanges => exchanges.readsAlike same
  exact ⟨TableExtractor.extract_of_readsAlike alike, StringExtractor.extract_of_readsAlike alike,
    Accessor.generate_of_readsAlike alike⟩

end

namespace Item

/-- The sheet of a sword with a note to the right of its data. -/
def notedRight : Sheet :=
  sword.sheet.setText 4 9 "a sharp one"

/-- The sheet of a sword with a note below its data. -/
def notedBelow : Sheet :=
  sword.sheet.setText 8 1 "ask the smith"

theorem spans_sheet (item : Item) : Spans item.sheet 0 2 := by
  have ranged : Discovery.range item.sheet .unknown = .ok ⟨0, 3⟩ := range_sheet
  obtain ⟨opens, closes, -⟩ := range_ok_iff.mp ranged
  exact ⟨opens, closes⟩

theorem sameBlock_notedRight : SameBlock sword.sheet notedRight := by
  have outside : ¬ InBlock sword.sheet 4 9 := not_inBlock_of_right (spans_sheet sword) (by decide) (by decide)
  exact sameBlock_push outside

theorem sameBlock_notedBelow : SameBlock sword.sheet notedBelow := by
  have unmarked : ¬ IsMarkedRow sword.sheet 0 2 := by
    rw [IsMarkedRow, sheet, Sheet.text_ofTexts]
    decide
  have outside : ¬ InBlock sword.sheet (Schema.gridRow 4) 1 :=
    not_inBlock_of_below (spans_sheet sword) unmarked (by decide) (by decide)
  exact sameBlock_push outside

/-- A sword is the same with either note. -/
theorem block_decides_sword : SameBlock notedRight notedBelow ∧ ∃ noted,
    Schema.discover "Items" notedRight .builtin = .ok noted ∧
    Schema.discover "Items" notedBelow .builtin = .ok (noted.withGrid notedBelow) ∧
    TableExtractor.extract [noted.withGrid notedBelow] = TableExtractor.extract [noted] := by
  have same := sameBlock_notedRight.symm.trans sameBlock_notedBelow
  have discovered : Schema.discover "Items" notedRight .builtin = .ok (sword.schema.withGrid notedRight) := by
    rw [discover_of_sameBlock sameBlock_notedRight, sword_isProper.discover]
    rfl
  obtain ⟨alike, exchange⟩ := block_decides_all same "Items" .builtin
  have also_discovered := alike.trans (congrArg (Except.map (·.withGrid notedBelow)) discovered)
  have exchanges : Exchanges "Items" .builtin notedRight notedBelow (sword.schema.withGrid notedRight)
      ((sword.schema.withGrid notedRight).withGrid notedBelow) := .inr (.inl ⟨discovered, also_discovered⟩)
  exact ⟨same, _, discovered, also_discovered, (exchange _ _ (.cons exchanges .nil)).1⟩

end Item

end Tablesmith
