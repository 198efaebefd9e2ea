import Mathlib
import Tablesmith.Proofs.Accessor.ClassText
import Tablesmith.Proofs.Extract.Completeness

/-!
# Code and tables

The class of a sheet name is written for its first sheet (`mem_firstOfName`),
while the tables hold the rows of its last (`Tables.get?_ofSchemas`). So the code
can read the records of a name exactly if its last sheet has the values of the
first, in texts that the types of the first accept.
-/

namespace Tablesmith.Accessor

open Tablesmith.Text

theorem mem_firstOfName {schema : Schema} {seen : List String} {schemas : List Schema} :
    schema ∈ firstOfName seen schemas ↔ schema.name ∉ seen ∧
      ∃ before after, schemas = before ++ schema :: after ∧ ∀ other ∈ before, other.name ≠ schema.name := by
  induction schemas generalizing seen with
  | nil => simp [firstOfName]
  | cons first rest ih =>
    rw [firstOfName]
    by_cases known : first.name ∈ seen
    · rw [if_pos (by simpa using known), ih]
      refine and_congr_right (fun fresh => ?_)
      constructor
      · rintro ⟨before, after, rfl, away⟩
        refine ⟨first :: before, after, rfl, List.forall_mem_cons.mpr ⟨?_, away⟩⟩
        rintro same
        exact fresh (same ▸ known)
      · rintro ⟨before, after, split, away⟩
        rcases List.cons_eq_append_iff.mp split with ⟨rfl, same⟩ | ⟨before, rfl, rfl⟩
        · cases same
          exact absurd known fresh
        · exact ⟨before, after, rfl, fun other member => away other (List.mem_cons_of_mem first member)⟩
    · rw [if_neg (by simpa using known), List.mem_cons, ih]
      constructor
      · rintro (rfl | ⟨fresh, before, after, rfl, away⟩)
        · exact ⟨known, [], rest, rfl, by simp⟩
        · obtain ⟨other_name, not_seen⟩ := not_or.mp (mt List.mem_cons.mpr fresh)
          exact ⟨not_seen, first :: before, after, rfl, List.forall_mem_cons.mpr ⟨Ne.symm other_name, away⟩⟩
      · rintro ⟨not_seen, before, after, split, away⟩
        rcases List.cons_eq_append_iff.mp split with ⟨rfl, same⟩ | ⟨before, rfl, rfl⟩
        · cases same
          exact Or.inl rfl
        · obtain ⟨first_away, rest_away⟩ := List.forall_mem_cons.mp away
          refine Or.inr ⟨?_, before, after, rfl, rest_away⟩
          exact mt List.mem_cons.mp (not_or.mpr ⟨Ne.symm first_away, not_seen⟩)

end Tablesmith.Accessor

namespace Tablesmith.Schema

/-- The sheet is the first of its name. -/
def IsFirstOf (first : Schema) (schemas : List Schema) : Prop :=
  ∃ before after, schemas = before ++ first :: after ∧ ∀ other ∈ before, other.name ≠ first.name

end Tablesmith.Schema

namespace Tablesmith.Accessor

/-- The names of sheets with the texts of their classes, in the order of the code. -/
def classes (schemas : List Schema) : List (String × String) :=
  (firstOfName [] schemas).map fun schema => (schema.name, tableClass schema)

theorem generate_eq (schemas : List Schema) : generate schemas =
    String.intercalate "\n\n"
      [header, baseClass, String.intercalate "\n\n" ((classes schemas).map Prod.snd),
        managerClass (firstOfName [] schemas)] := by
  rw [generate, classes, List.map_map]
  rfl

theorem mem_classes {name code : String} {schemas : List Schema} : (name, code) ∈ classes schemas ↔
    ∃ first : Schema, first.IsFirstOf schemas ∧ first.name = name ∧ tableClass first = code := by
  simp [classes, mem_firstOfName, Schema.IsFirstOf]

/-- The last method of a class looks up the names of a record and no others, by expressions of types
    that accept their values. -/
structure Agrees (code : String) (record : Record) : Prop where
  looksUp : ∀ name, (∃ line ∈ bodyLines code, ∃ type, Reads line name type) ↔ ∃ value, record.get? name = some value
  accepts : ∀ line ∈ bodyLines code, ∀ name type, Reads line name type →
    ∀ value, record.get? name = some value → type.accepts value = true

/-- A row of the last sheet of a name has the values of the first, in texts that its types accept. -/
structure Suits (first last : Schema) (row : Nat) : Prop where
  named : ∀ name, (∃ property ∈ first.valueProperties, (first.propertyAt property).name = name) ↔
    ∃ property ∈ last.valueProperties, (last.propertyAt property).name = name
  accepted : ∀ property ∈ first.valueProperties, ∀ other ∈ last.valueProperties,
    (first.propertyAt property).name = (last.propertyAt other).name →
      (first.propertyAt property).type.accepts (last.text row other) = true

/-- The code of a sheet looks up the names of its values. -/
theorem exists_reads_iff {schema : Schema} (discovered : schema.IsDiscovered) (name : String) :
    (∃ line ∈ bodyLines (tableClass schema), ∃ type, Reads line name type) ↔
      ∃ property ∈ schema.valueProperties, (schema.propertyAt property).name = name := by
  constructor
  · rintro ⟨line, inside, type, reads⟩
    obtain ⟨property, member, named, _⟩ := (reads_tableClass_iff discovered.not_blank).mp ⟨line, inside, reads⟩
    exact ⟨property, member, named⟩
  · rintro ⟨property, member, named⟩
    obtain ⟨line, inside, reads⟩ := (reads_tableClass_iff discovered.not_blank).mpr ⟨property, member, named, rfl⟩
    exact ⟨line, inside, _, reads⟩

theorem get?_recordOf_iff {schema : Schema} (discovered : schema.IsDiscovered) {row : Nat} {name value : String} :
    (schema.recordOf row).get? name = some value ↔
      ∃ property ∈ schema.valueProperties, (schema.propertyAt property).name = name ∧ schema.text row property = value := by
  rw [discovered.get?_recordOf, Schema.entries]
  simp

theorem exists_get?_recordOf_iff {schema : Schema} (discovered : schema.IsDiscovered) {row : Nat} (name : String) :
    (∃ value, (schema.recordOf row).get? name = some value) ↔
      ∃ property ∈ schema.valueProperties, (schema.propertyAt property).name = name := by
  simp only [get?_recordOf_iff discovered]
  constructor
  · rintro ⟨_, property, member, named, _⟩
    exact ⟨property, member, named⟩
  · rintro ⟨property, member, named⟩
    exact ⟨_, property, member, named, rfl⟩

theorem agrees_iff {first last : Schema} (first_discovered : first.IsDiscovered) (last_discovered : last.IsDiscovered)
    {row : Nat} : Agrees (tableClass first) (last.recordOf row) ↔ Suits first last row := by
  constructor
  · rintro ⟨looksUp, accepts⟩
    refine ⟨?_, ?_⟩
    · intro name
      rw [← exists_reads_iff first_discovered, looksUp, exists_get?_recordOf_iff last_discovered]
    · intro property member other other_member same
      obtain ⟨line, inside, reads⟩ :=
        (reads_tableClass_iff first_discovered.not_blank).mpr ⟨property, member, rfl, rfl⟩
      have value_is : (last.recordOf row).get? (first.propertyAt property).name = some (last.text row other) :=
        (get?_recordOf_iff last_discovered).mpr ⟨other, other_member, same.symm, rfl⟩
      exact accepts line inside _ _ reads _ value_is
  · rintro ⟨named, accepted⟩
    refine ⟨?_, ?_⟩
    · intro name
      rw [exists_reads_iff first_discovered, named, exists_get?_recordOf_iff last_discovered]
    · intro line inside name type reads value value_is
      obtain ⟨property, member, rfl, rfl⟩ :=
        (reads_tableClass_iff first_discovered.not_blank).mp ⟨line, inside, reads⟩
      obtain ⟨other, other_member, same, rfl⟩ := (get?_recordOf_iff last_discovered).mp value_is
      exact accepted property member other other_member same.symm

/-- The class of every name agrees with every record of the name. -/
def ReadsAll (schemas : List Schema) (tables : Tables) : Prop :=
  ∀ name code, (name, code) ∈ classes schemas → ∀ rows, tables.get? name = some rows →
    ∀ key record, rows.get? key = some record → Agrees code record

theorem readsAll_ofSchemas_iff {schemas : List Schema} (discovered : ∀ schema ∈ schemas, schema.IsDiscovered)
    (valid : Tables.Valid schemas) : ReadsAll schemas (Tables.ofSchemas schemas) ↔
      ∀ first last : Schema, first.IsFirstOf schemas → last.IsLastOf schemas → first.name = last.name →
        ∀ row < last.rowCount, Suits first last row := by
  have first_discovered {first : Schema} (is_first : first.IsFirstOf schemas) : first.IsDiscovered := by
    obtain ⟨before, after, rfl, _⟩ := is_first
    exact discovered first (by simp)
  have last_discovered {last : Schema} (is_last : last.IsLastOf schemas) : last.IsDiscovered :=
    discovered last (Tables.mem_of_isLastOf is_last)
  constructor
  · intro reads first last is_first is_last same row before
    obtain ⟨_, new⟩ := valid.last_isNew is_last
    rw [← agrees_iff (first_discovered is_first) (last_discovered is_last)]
    exact reads first.name _ (mem_classes.mpr ⟨first, is_first, rfl, rfl⟩) last.rowsOf
      (Tables.get?_ofSchemas.mpr ⟨last, is_last, same.symm, rfl⟩) _ _
      ((Schema.get?_rowsOf new).mpr ⟨row, before, rfl, rfl⟩)
  · intro suits name code member rows known key record found
    obtain ⟨first, is_first, rfl, rfl⟩ := mem_classes.mp member
    obtain ⟨last, is_last, same, rfl⟩ := Tables.get?_ofSchemas.mp known
    obtain ⟨_, new⟩ := valid.last_isNew is_last
    obtain ⟨row, before, _, rfl⟩ := (Schema.get?_rowsOf new).mp found
    rw [agrees_iff (first_discovered is_first) (last_discovered is_last)]
    exact suits first last is_first is_last same.symm row before

/-- The code agrees with the tables of a successful extraction exactly if every row of the last sheet of a name suits
    the first sheet of the name. -/
theorem code_reads_tables_iff {schemas : List Schema} {tables : Tables} {catalog : KeyCatalog}
    (discovered : ∀ schema ∈ schemas, schema.IsDiscovered)
    (extracted : (Tables.extract schemas).run.run KeyCatalog.empty = (.ok tables, catalog)) :
    ReadsAll schemas tables ↔ ∀ first last : Schema, first.IsFirstOf schemas → last.IsLastOf schemas →
      first.name = last.name → ∀ row < last.rowCount, Suits first last row := by
  obtain ⟨valid, rfl, rfl⟩ := Tables.extract_ok_iff.mp extracted
  exact readsAll_ofSchemas_iff discovered valid

/-- The code of a single sheet reads its rows. -/
theorem code_reads_sword : (∀ schema ∈ [Item.sword].map Item.schema, schema.IsDiscovered) ∧ ∃ tables catalog,
    (Tables.extract ([Item.sword].map Item.schema)).run.run KeyCatalog.empty = (.ok tables, catalog) ∧
      ReadsAll ([Item.sword].map Item.schema) tables := by
  have proper : ∀ item ∈ [Item.sword], item.IsProper := by simp [Item.sword_isProper]
  have discovered := Tables.itemSheets_discovered proper
  have extracted := Tables.extract_ok_iff.mpr ⟨Tables.itemSheets_valid proper (by simp), rfl, rfl⟩
  refine ⟨discovered, _, _, extracted, (code_reads_tables_iff discovered extracted).mpr ?_⟩
  rintro first last ⟨before, after, split, _⟩ is_last _ row inside
  have first_in : first ∈ [Item.sword].map Item.schema := by simp [split]
  have first_is := List.mem_singleton.mp first_in
  have last_is := List.mem_singleton.mp (Tables.mem_of_isLastOf is_last)
  subst first_is last_is
  refine ⟨fun _ => Iff.rfl, ?_⟩
  intro property _ other _ same
  obtain rfl := Item.sword_isProper.discovered.name_injective same
  exact (Item.sword_isProper.isFilled row inside property).2

/-- An item whose column holds a number. -/
def quiver : Item := ⟨"Count", .int, "b", "20"⟩

theorem quiver_isProper : quiver.IsProper where
  plain := by decide +kernel
  faultless := by decide +kernel
  unlike := by decide
  keyed := by decide
  valued := by decide
  accepted := by decide +kernel

/-- Where the later sheet of a name has another column, the code looks up a name that its rows do not have. -/
theorem code_misreads_quiver : (∀ schema ∈ [Item.sword, quiver].map Item.schema, schema.IsDiscovered) ∧
    ∃ tables catalog,
      (Tables.extract ([Item.sword, quiver].map Item.schema)).run.run KeyCatalog.empty = (.ok tables, catalog) ∧
        ¬ ReadsAll ([Item.sword, quiver].map Item.schema) tables := by
  have proper : ∀ item ∈ [Item.sword, quiver], item.IsProper := by simp [Item.sword_isProper, quiver_isProper]
  have valid := Tables.itemSheets_valid proper (by decide)
  have discovered := Tables.itemSheets_discovered proper
  refine ⟨discovered, _, _, Tables.extract_ok_iff.mpr ⟨valid, rfl, rfl⟩, ?_⟩
  rw [readsAll_ofSchemas_iff discovered valid]
  intro suits
  have is_first : Item.sword.schema.IsFirstOf ([Item.sword, quiver].map Item.schema) :=
    ⟨[], [quiver.schema], rfl, by simp⟩
  have is_last : quiver.schema.IsLastOf ([Item.sword, quiver].map Item.schema) :=
    ⟨[Item.sword.schema], [], rfl, by simp⟩
  obtain ⟨named, _⟩ := suits _ _ is_first is_last rfl 0 (by simp [Item.rowCount_schema])
  obtain ⟨property, member, name_is⟩ := (named "Name").mp
    ⟨(1 : Fin 2), by rw [Item.valueProperties_schema]; exact List.mem_singleton.mpr rfl, Item.sword_isProper.name_one⟩
  rw [Item.valueProperties_schema] at member
  obtain rfl := List.mem_singleton.mp member
  rw [quiver_isProper.name_one] at name_is
  exact absurd name_is (by decide)

end Tablesmith.Accessor
