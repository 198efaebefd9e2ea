import Mathlib
import Tablesmith.Proofs.Extract.Rows

/-!
# Valid sheets

Extraction works in three passes: the scan for keys, the check of references
and the reading of rows. Together they come to one condition on the sheets, which
mentions no pass and no catalog (`Valid`). What a successful extraction gives is
then a function of the sheets alone (`extract_ok_iff`).
-/

namespace Tablesmith

open Outcome (forM_ok_iff)
open Steps

namespace Schema

variable {schema : Schema} {catalog : KeyCatalog}

theorem checkReference_ok_iff {reference : ForeignKey schema.columnCount} {row : Nat} :
    schema.checkReference catalog reference row = .ok () ↔
      schema.HasValue row reference.column ∧
        catalog.contains reference.table (schema.text row reference.column) = true := by
  unfold checkReference
  cases valued : schema.value row reference.column with
  | error fault =>
    have no_value : ¬ schema.HasValue row reference.column := by
      intro held
      rw [value_ok_iff.mpr ⟨held, rfl⟩] at valued
      cases valued
    simp [bind, Except.bind, no_value]
  | ok value =>
    obtain ⟨held, rfl⟩ := value_ok_iff.mp valued
    cases known : catalog.contains reference.table (schema.text row reference.column) with
    | true => simp [bind, Except.bind, known, held, pure, Except.pure]
    | false => simp [bind, Except.bind, known, throw, throwThe, MonadExceptOf.throw]

theorem checkForeignKey_ok_iff {reference : ForeignKey schema.columnCount} :
    schema.checkForeignKey catalog reference = .ok () ↔
      catalog.containsTable reference.table = true ∧ ∀ row < schema.rowCount,
        schema.HasValue row reference.column ∧
          catalog.contains reference.table (schema.text row reference.column) = true := by
  unfold checkForeignKey
  cases catalog.containsTable reference.table with
  | true =>
    rw [if_pos rfl, forM_ok_iff]
    simp [checkReference_ok_iff]
  | false => simp

/-- The references of a sheet are to sheets that there are, and in every row to a key of such a sheet. -/
def RefersTo (schema : Schema) (schemas : List Schema) : Prop :=
  ∀ reference ∈ schema.foreignKeys,
    (∃ other ∈ schemas, other.name = reference.table) ∧
      ∀ row < schema.rowCount, ∃ other ∈ schemas, other.name = reference.table ∧
        ∃ target < other.rowCount, other.keyText target = schema.text row reference.column

theorem checkForeignKeys_ok_iff {schemas : List Schema} (filled : schema.IsFilled) :
    schema.checkForeignKeys (KeyCatalog.ofSchemas schemas) = .ok () ↔ schema.RefersTo schemas := by
  unfold checkForeignKeys RefersTo
  rw [forM_ok_iff]
  refine forall_congr' (fun reference => imp_congr_right (fun _ => ?_))
  rw [checkForeignKey_ok_iff, KeyCatalog.containsTable_ofSchemas]
  simp only [KeyCatalog.contains_ofSchemas]
  refine and_congr_right (fun _ => forall_congr' (fun row => imp_congr_right (fun before => ?_)))
  exact and_iff_right (filled row before reference.column)

end Schema

namespace Tables

/-- Sheets whose cells all hold values, whose rows all have new keys and whose references all hold. -/
structure Valid (schemas : List Schema) : Prop where
  filled : ∀ schema ∈ schemas, schema.IsFilled
  keysNew : KeysAreNew schemas
  referred : ∀ schema ∈ schemas, schema.RefersTo schemas

theorem checkForeignKeys_ok_iff {schemas : List Schema} (filled : ∀ schema ∈ schemas, schema.IsFilled) :
    checkForeignKeys schemas (KeyCatalog.ofSchemas schemas) = .ok () ↔
      ∀ schema ∈ schemas, schema.RefersTo schemas := by
  unfold checkForeignKeys
  rw [forM_ok_iff]
  exact forall_congr' (fun schema => imp_congr_right (fun member =>
    Schema.checkForeignKeys_ok_iff (filled schema member)))

/-- Extraction succeeds exactly for valid sheets, and gives their rows and their catalog. -/
theorem extract_ok_iff {schemas : List Schema} {tables : Tables} {catalog : KeyCatalog} :
    (extract schemas).run.run KeyCatalog.empty = (.ok tables, catalog) ↔
      Valid schemas ∧ tables = Tables.ofSchemas schemas ∧ catalog = KeyCatalog.ofSchemas schemas := by
  unfold extract
  constructor
  · intro done
    obtain ⟨_, scanned, keys_ok, done⟩ := bind_ok_iff.mp done
    obtain ⟨found, _, got, done⟩ := bind_ok_iff.mp done
    rw [run_get, outcome_eq_iff] at got
    obtain ⟨same, rfl⟩ := got
    cases same
    obtain ⟨_, _, checked, done⟩ := bind_ok_iff.mp done
    rw [run_lift, outcome_eq_iff] at checked done
    obtain ⟨references_ok, rfl⟩ := checked
    obtain ⟨rows_ok, rfl⟩ := done
    obtain ⟨filled, rfl⟩ := read_ok_iff.mp rows_ok
    obtain ⟨new, rfl⟩ := (catalogKeys_ok_iff filled).mp keys_ok
    exact ⟨⟨filled, new, (checkForeignKeys_ok_iff filled).mp references_ok⟩, rfl, rfl⟩
  · rintro ⟨valid, rfl, rfl⟩
    have keys_ok := (catalogKeys_ok_iff valid.filled).mpr ⟨valid.keysNew, rfl⟩
    have references_ok := (checkForeignKeys_ok_iff valid.filled).mpr valid.referred
    have rows_ok := read_ok_iff.mpr ⟨valid.filled, rfl⟩
    refine bind_ok_iff.mpr ⟨(), _, keys_ok, ?_⟩
    refine bind_ok_iff.mpr ⟨_, _, run_get _, ?_⟩
    refine bind_ok_iff.mpr ⟨(), KeyCatalog.ofSchemas schemas, ?_, ?_⟩
    · rw [run_lift, references_ok]
    · rw [run_lift, rows_ok]

/-- Whether extraction from an empty catalog succeeds depends on three conditions on the sheets: all cells hold values,
    all rows of sheets with a primary key have new keys, and all references are to keys that there are. -/
theorem extract_succeeds_iff_valid (schemas : List Schema) :
    (∃ tables, ((extract schemas).run.run KeyCatalog.empty).1 = .ok tables) ↔ Valid schemas := by
  constructor
  · rintro ⟨tables, done⟩
    exact (extract_ok_iff.mp (Prod.ext done rfl)).1
  · intro valid
    refine ⟨Tables.ofSchemas schemas, ?_⟩
    rw [extract_ok_iff.mpr ⟨valid, rfl, rfl⟩]

end Tables

end Tablesmith
