import Mathlib
import Tablesmith.Extract.Document
import Tablesmith.Proofs.Json.Printing

/-!
# Documents are read back

The text of a document is a JSON text, and what it says is what the document was made of: the same
keys and the same texts in the same order (`renderDocument_readsAs_iff`). So documents that differ
have different texts.
-/

namespace Tablesmith

open Json

/-- The value is a string that says the text. -/
def Json.IsString (text : String) (value : Json) : Prop :=
  ∃ written, value = .string written ∧ Spells text.toList written

/-- The value is an object of these entries, in order: its names say their keys, and its values hold theirs. -/
def Json.IsObject {ν : Type} (holds : ν → Json → Prop) (entries : List (String × ν)) (value : Json) : Prop :=
  ∃ members, value = .object members ∧
    List.Forall₂ (fun entry member => Spells entry.1.toList member.1 ∧ holds entry.2 member.2) entries members

/-- The value is an object from texts to texts. -/
def Json.IsTexts (texts : List (String × String)) (value : Json) : Prop :=
  IsObject IsString texts value

/-- The value is an object from texts to such objects. -/
def Json.IsRecords (records : List (String × List (String × String))) (value : Json) : Prop :=
  IsObject IsTexts records value

variable {value : Json}

theorem Json.isString_unique : Relator.LeftUnique IsString := by
  rintro text _ other ⟨written, rfl, spells⟩ ⟨_, same, spells_other⟩
  cases same
  exact String.toList_inj.mp (spells.unique spells_other)

/-- If a value holds one thing at most, an object has one list of entries at most. -/
theorem Json.isObject_unique {ν : Type} {holds : ν → Json → Prop} (holds_unique : Relator.LeftUnique holds) :
    Relator.LeftUnique (IsObject holds) := by
  rintro entries _ others ⟨members, rfl, agree⟩ ⟨_, same, agree_other⟩
  cases same
  have entry_unique : Relator.LeftUnique fun (entry : String × ν) (member : List Char × Json) =>
      Spells entry.1.toList member.1 ∧ holds entry.2 member.2 := by
    intro entry member other held held_other
    have same_key := String.toList_inj.mp (held.1.unique held_other.1)
    exact Prod.ext same_key (holds_unique held.2 held_other.2)
  exact Relator.LeftUnique.forall₂ entry_unique agree agree_other

theorem Json.isTexts_unique : Relator.LeftUnique IsTexts :=
  isObject_unique isString_unique

theorem Json.isRecords_unique : Relator.LeftUnique IsRecords :=
  isObject_unique isTexts_unique

/-- No string is an object, so an object of both kinds is empty. -/
theorem Json.IsTexts.eq_nil_of_isRecords {texts : List (String × String)} {records : List (String × List (String × String))}
    (is_texts : IsTexts texts value) (is_records : IsRecords records value) : texts = [] ∧ records = [] := by
  obtain ⟨members, rfl, agree⟩ := is_texts
  obtain ⟨_, same, agree_records⟩ := is_records
  cases same
  cases agree with
  | nil =>
    cases agree_records
    exact ⟨rfl, rfl⟩
  | cons first _ =>
    obtain ⟨_, _, string, _⟩ := first
    cases agree_records with
    | cons record _ =>
      obtain ⟨_, _, object, _⟩ := record
      rw [string] at object
      cases object

theorem Json.isString_ofText (text : String) : IsString text (ofText text) :=
  ⟨_, rfl, spells_escape _⟩

/-- An object that is made of values which hold their parts holds the parts. -/
theorem Json.isObject_ofMembers {α ν : Type} {holds : ν → Json → Prop} {view : α → ν} {build : α → Json}
    (built : ∀ part, holds (view part) (build part)) (parts : List (String × α)) :
    IsObject holds (parts.map fun part => (part.1, view part.2)) (ofMembers (parts.map fun part => (part.1, build part.2))) := by
  refine ⟨_, rfl, ?_⟩
  rw [List.map_map, List.forall₂_map_left_iff, List.forall₂_map_right_iff, List.forall₂_same]
  exact fun part _ => ⟨spells_escape _, built part.2⟩

/-- The texts of the records, without the maps that they come from. -/
def Rows.records (rows : Rows) : List (String × List (String × String)) :=
  rows.toList.map fun row => (row.1, row.2.toList)

/-- The text is JSON for an object from texts to texts. -/
def ReadsAsTexts (text : String) (texts : List (String × String)) : Prop :=
  ∃ value, IsText text value ∧ IsTexts texts value

/-- The text is JSON for an object from texts to objects from texts to texts. -/
def ReadsAsRecords (text : String) (records : List (String × List (String × String))) : Prop :=
  ∃ value, IsText text value ∧ IsRecords records value

theorem isTexts_textsDocument (texts : TextMap String) : IsTexts texts.toList (textsDocument texts) := by
  have made : IsObject IsString (texts.toList.map fun entry => (entry.1, id entry.2)) (textsDocument texts) :=
    isObject_ofMembers isString_ofText texts.toList
  rwa [show (fun entry : String × String => (entry.1, id entry.2)) = id from rfl, List.map_id] at made

theorem isRecords_rowsDocument (rows : Rows) : IsRecords rows.records (rowsDocument rows) :=
  isObject_ofMembers isTexts_textsDocument rows.toList

theorem isProper_textsDocument (texts : TextMap String) : IsProper (textsDocument texts) := by
  refine isProper_ofMembers fun member listed => ?_
  obtain ⟨entry, _, rfl⟩ := List.mem_map.mp listed
  exact isProper_ofText entry.2

theorem isProper_rowsDocument (rows : Rows) : IsProper (rowsDocument rows) := by
  refine isProper_ofMembers fun member listed => ?_
  obtain ⟨entry, _, rfl⟩ := List.mem_map.mp listed
  exact isProper_textsDocument entry.2

theorem readsAsTexts_iff {texts : TextMap String} {entries : List (String × String)} :
    ReadsAsTexts (renderDocument (textsDocument texts) none) entries ↔ entries = texts.toList := by
  have is_text : IsText (renderDocument (textsDocument texts) none) (textsDocument texts) :=
    (isProper_textsDocument texts).isText_write
  constructor
  · rintro ⟨value, is_value, is_texts⟩
    rw [is_value.unique is_text] at is_texts
    exact isTexts_unique is_texts (isTexts_textsDocument texts)
  · rintro rfl
    exact ⟨_, is_text, isTexts_textsDocument texts⟩

theorem readsAsRecords_iff {rows : Rows} {records : List (String × List (String × String))} :
    ReadsAsRecords (renderDocument (rowsDocument rows) none) records ↔ records = rows.records := by
  have is_text : IsText (renderDocument (rowsDocument rows) none) (rowsDocument rows) :=
    (isProper_rowsDocument rows).isText_write
  constructor
  · rintro ⟨value, is_value, is_records⟩
    rw [is_value.unique is_text] at is_records
    exact isRecords_unique is_records (isRecords_rowsDocument rows)
  · rintro rfl
    exact ⟨_, is_text, isRecords_rowsDocument rows⟩

theorem rowsDocument_congr {rows others : Rows} (same : rows.records = others.records) :
    rowsDocument rows = rowsDocument others := by
  have made : ∀ rows : Rows, rowsDocument rows = .ofMembers (rows.records.map fun record =>
      (record.1, .ofMembers (record.2.map fun entry => (entry.1, .ofText entry.2)))) := by
    intro rows
    rw [Rows.records, List.map_map]
    rfl
  rw [made, made, same]

theorem renderDocument_texts_inj {texts others : TextMap String} :
    renderDocument (textsDocument texts) none = renderDocument (textsDocument others) none ↔ texts.toList = others.toList := by
  constructor
  · intro same
    have back : ReadsAsTexts (renderDocument (textsDocument texts) none) texts.toList := readsAsTexts_iff.mpr rfl
    rw [same] at back
    exact readsAsTexts_iff.mp back
  · intro same
    rw [textsDocument, textsDocument, same]

theorem renderDocument_rows_inj {rows others : Rows} :
    renderDocument (rowsDocument rows) none = renderDocument (rowsDocument others) none ↔ rows.records = others.records := by
  constructor
  · intro same
    have back : ReadsAsRecords (renderDocument (rowsDocument rows) none) rows.records := readsAsRecords_iff.mpr rfl
    rw [same] at back
    exact readsAsRecords_iff.mp back
  · intro same
    rw [rowsDocument_congr same]

theorem renderDocument_texts_eq_rows_iff {texts : TextMap String} {rows : Rows} :
    renderDocument (textsDocument texts) none = renderDocument (rowsDocument rows) none ↔
      texts.toList = [] ∧ rows.records = [] := by
  constructor
  · intro same
    obtain ⟨value, is_text, is_texts⟩ : ReadsAsTexts (renderDocument (textsDocument texts) none) texts.toList :=
      readsAsTexts_iff.mpr rfl
    obtain ⟨other, is_other_text, is_records⟩ : ReadsAsRecords (renderDocument (rowsDocument rows) none) rows.records :=
      readsAsRecords_iff.mpr rfl
    rw [same] at is_text
    rw [is_other_text.unique is_text] at is_records
    exact is_texts.eq_nil_of_isRecords is_records
  · rintro ⟨no_texts, no_records⟩
    have no_rows : rows.toList = [] := List.map_eq_nil_iff.mp no_records
    rw [textsDocument, rowsDocument, no_texts, no_rows]
    rfl

/-- Every document is read back as the keys and the texts that it was made of, in their order, and as nothing else. So
documents of one kind with one text are the same, and documents of the two kinds with one text are empty. -/
theorem renderDocument_readsAs_iff :
    (∀ (texts : TextMap String) (entries : List (String × String)),
      ReadsAsTexts (renderDocument (textsDocument texts) none) entries ↔ entries = texts.toList) ∧
    (∀ (rows : Rows) (records : List (String × List (String × String))),
      ReadsAsRecords (renderDocument (rowsDocument rows) none) records ↔ records = rows.records) ∧
    (∀ texts others : TextMap String,
      renderDocument (textsDocument texts) none = renderDocument (textsDocument others) none ↔ texts.toList = others.toList) ∧
    (∀ rows others : Rows,
      renderDocument (rowsDocument rows) none = renderDocument (rowsDocument others) none ↔ rows.records = others.records) ∧
    (∀ (texts : TextMap String) (rows : Rows),
      renderDocument (textsDocument texts) none = renderDocument (rowsDocument rows) none ↔
        texts.toList = [] ∧ rows.records = []) := by
  refine ⟨fun texts entries => ?_, fun rows records => ?_, fun texts others => ?_, fun rows others => ?_, fun texts rows => ?_⟩
  · exact readsAsTexts_iff
  · exact readsAsRecords_iff
  · exact renderDocument_texts_inj
  · exact renderDocument_rows_inj
  · exact renderDocument_texts_eq_rows_iff

end Tablesmith
