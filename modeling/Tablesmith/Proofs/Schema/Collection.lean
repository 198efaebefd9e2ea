import Mathlib
import Tablesmith.Schema.Discovery

/-!
# The schemas of a workbook

A workbook has one schema for each of its sheets, in the order of the tabs, and no two
of one name (`ofWorkbook_eq_ok_iff`). What is told about them warns of every schema
without a primary key, once, and of nothing else (`warnings_flatMap_reports`).
-/

namespace Tablesmith

open Grid

/-- The messages that warn. -/
def Report.warnings (reports : List Report) : List Report :=
  reports.filter (·.level = .warning)

@[simp] theorem Report.warnings_append (reports others : List Report) :
    Report.warnings (reports ++ others) = Report.warnings reports ++ Report.warnings others :=
  List.filter_append reports others

namespace Schema

variable {stem : String} {aliases : TypeAliases} {sheets : List Sheet} {earlier schemas : List Schema} {told : List Report}

/-- The schemas are those of the sheets, one by one, and no two have the same name. -/
structure AreOf (stem : String) (aliases : TypeAliases) (sheets : List Sheet) (schemas : List Schema) : Prop where
  discovered : List.Forall₂ (fun sheet schema => discover stem sheet aliases = .ok schema) sheets schemas
  distinct : (schemas.map (·.name)).Nodup

/-- Schemas are added to earlier ones as long as their names are new. -/
theorem discoverAll_eq_ok_iff (distinct : (earlier.map (·.name)).Nodup) :
    discoverAll stem aliases earlier sheets = (told, .ok schemas) ↔ ∃ found, schemas = earlier ++ found ∧
      told = found.flatMap reports ∧
      List.Forall₂ (fun sheet schema => discover stem sheet aliases = .ok schema) sheets found ∧ (schemas.map (·.name)).Nodup := by
  induction sheets generalizing earlier told with
  | nil =>
    rw [discoverAll, Prod.mk_inj, Except.ok.injEq]
    constructor
    · rintro ⟨rfl, rfl⟩
      exact ⟨[], by simp, rfl, .nil, distinct⟩
    · rintro ⟨_, rfl, rfl, ⟨⟩, _⟩
      simp
  | cons sheet sheets ih =>
    simp only [List.forall₂_cons_left_iff]
    rw [discoverAll]
    cases discovered : discover stem sheet aliases with
    | error fault =>
      refine iff_of_false (by simp) ?_
      rintro ⟨_, _, _, ⟨schema, _, found_is, _⟩, _⟩
      cases found_is
    | ok schema =>
      dsimp only
      by_cases repeated : schema.name ∈ earlier.map (·.name)
      · rw [if_pos (by simpa using repeated)]
        refine iff_of_false (by simp) ?_
        rintro ⟨_, rfl, _, ⟨_, rest, same, _, rfl⟩, all_distinct⟩
        cases same
        rw [List.map_append, List.map_cons, List.nodup_append] at all_distinct
        exact all_distinct.2.2 _ repeated _ List.mem_cons_self rfl
      · have next_distinct : ((earlier ++ [schema]).map (·.name)).Nodup := by
          rw [List.map_append, List.map_singleton]
          exact List.concat_eq_append ▸ distinct.concat repeated
        -- The new schema is one of the earlier ones for the sheets that follow.
        rw [if_neg (by simpa using repeated), Prod.mk_inj]
        constructor
        · rintro ⟨rfl, rest_ok⟩
          obtain ⟨found, rfl, told_is, rest, all_distinct⟩ := (ih next_distinct).mp (Prod.ext rfl rest_ok)
          refine ⟨schema :: found, by simp, ?_, ⟨schema, found, rfl, rest, rfl⟩, by simpa using all_distinct⟩
          rw [List.flatMap_cons, ← told_is]
        · rintro ⟨_, rfl, rfl, ⟨_, found, same, rest, rfl⟩, all_distinct⟩
          cases same
          have following := (ih next_distinct).mpr ⟨found, by simp, rfl, rest, all_distinct⟩
          rw [following, List.flatMap_cons]
          exact ⟨rfl, rfl⟩

theorem ofWorkbook_eq_ok_iff {workbook : Workbook} : ofWorkbook workbook aliases = (told, .ok schemas) ↔
    AreOf workbook.stem aliases workbook.sheets schemas ∧ told = schemas.flatMap reports := by
  have none_earlier : (([] : List Schema).map (·.name)).Nodup := List.nodup_nil
  rw [ofWorkbook, discoverAll_eq_ok_iff none_earlier]
  constructor
  · rintro ⟨_, rfl, rfl, discovered, distinct⟩
    exact ⟨⟨discovered, distinct⟩, rfl⟩
  · rintro ⟨⟨discovered, distinct⟩, rfl⟩
    exact ⟨schemas, rfl, rfl, discovered, distinct⟩

/-- One warning for each schema without a primary key. -/
def keyWarnings (schemas : List Schema) : List Report :=
  (schemas.filter (·.primaryKey = none)).map primaryKeyReport

theorem keyWarnings_append (schemas others : List Schema) :
    keyWarnings (schemas ++ others) = keyWarnings schemas ++ keyWarnings others := by
  simp [keyWarnings]

theorem warnings_reports (schema : Schema) :
    Report.warnings schema.reports = if schema.primaryKey = none then [schema.primaryKeyReport] else [] := by
  have properties : Report.warnings (schema.properties.toList.map propertyReport) = [] := by
    simp [Report.warnings, propertyReport, Report.info]
  have foreign_keys : Report.warnings schema.foreignKeyReports = [] := by
    unfold foreignKeyReports
    split <;> simp [Report.warnings, foreignKeyReport, Report.info]
  rw [reports, Report.warnings_append, Report.warnings_append, Report.warnings_append, properties, foreign_keys]
  cases keyed : schema.primaryKey <;>
    simp [Report.warnings, primaryKeyReport, keyed, sizeReport, Report.info, Report.warning]

theorem warnings_flatMap_reports (schemas : List Schema) : Report.warnings (schemas.flatMap reports) = keyWarnings schemas := by
  induction schemas with
  | nil => rfl
  | cons schema schemas ih =>
    rw [List.flatMap_cons, Report.warnings_append, warnings_reports, ih]
    by_cases keyless : schema.primaryKey = none <;> simp [keyWarnings, keyless]

end Schema

end Tablesmith
