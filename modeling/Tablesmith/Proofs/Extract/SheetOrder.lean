import Mathlib
import Tablesmith.Proofs.Extract.Layout

/-!
# The order of sheets

Of what makes sheets valid only one thing depends on their order: the scan finds the key
of a row under the number that a sheet without a primary key gave to one of its rows,
but does not look for a key when it gives the number (`valid_iff`). So some order gets
through exactly if the sheets are consistent, and all orders do exactly if no key is
such a number (`extracts_perm_iff`).
-/

namespace Tablesmith

open Grid

namespace Schema

variable {schema other keyed numbered : Schema}

/-- Two sheets of one name have rows with the same key. -/
def Meets (schema other : Schema) : Prop :=
  schema.name = other.name ∧
    ∃ row < schema.rowCount, ∃ place < other.rowCount, schema.keyText row = other.keyText place

/-- A sheet with a primary key has the number of a row of a sheet without one as a key. -/
structure TakesNumberOf (keyed numbered : Schema) : Prop where
  has_key : keyed.primaryKey.isSome = true
  no_key : numbered.primaryKey = none
  meets : keyed.Meets numbered

/-- The rows of a sheet with a primary key have distinct keys. -/
def HasDistinctKeys (schema : Schema) : Prop :=
  schema.primaryKey.isSome = true → ∀ row < schema.rowCount, ∀ before < row, schema.keyText before ≠ schema.keyText row

theorem Meets.symm (meets : schema.Meets other) : other.Meets schema := by
  obtain ⟨same_name, row, row_in, place, place_in, same_key⟩ := meets
  exact ⟨same_name.symm, place, place_in, row, row_in, same_key.symm⟩

theorem isNewAfter_iff {earlier : List Schema} : schema.IsNewAfter earlier ↔
    schema.HasDistinctKeys ∧ ∀ other ∈ earlier, schema.primaryKey.isSome = true → ¬ schema.Meets other := by
  constructor
  · intro new
    refine ⟨fun keyed row row_in => (new keyed row row_in).1, ?_⟩
    rintro other member keyed ⟨same_name, row, row_in, place, place_in, same_key⟩
    exact (new keyed row row_in).2 other member same_name.symm place place_in same_key.symm
  · rintro ⟨distinct, apart⟩ keyed row row_in
    refine ⟨distinct keyed row row_in, ?_⟩
    intro other member same_name place place_in same_key
    exact apart other member keyed ⟨same_name.symm, row, row_in, place, place_in, same_key.symm⟩

end Schema

namespace Tables

variable {schemas others : List Schema}

/-- Extraction with an empty catalog gives tables. -/
def Extracts (schemas : List Schema) : Prop :=
  ∃ tables, ((extract schemas).run.run KeyCatalog.empty).1 = .ok tables

theorem extracts_iff : Extracts schemas ↔ Valid schemas := by
  constructor
  · rintro ⟨tables, done⟩
    exact (extract_ok_iff.mp (Prod.ext done rfl)).1
  · intro valid
    exact ⟨Tables.ofSchemas schemas, congrArg Prod.fst (extract_ok_iff.mpr ⟨valid, rfl, rfl⟩)⟩

/-- The part of validity that does not depend on the order of the sheets. -/
structure IsConsistent (schemas : List Schema) : Prop where
  filled : ∀ schema ∈ schemas, schema.IsFilled
  distinct : ∀ schema ∈ schemas, schema.HasDistinctKeys
  apart : schemas.Pairwise fun left right =>
    left.primaryKey.isSome = true → right.primaryKey.isSome = true → ¬ left.Meets right
  referred : ∀ schema ∈ schemas, schema.RefersTo schemas

theorem IsConsistent.perm (same : others.Perm schemas) (consistent : IsConsistent schemas) : IsConsistent others := by
  have member_iff (schema : Schema) : schema ∈ others ↔ schema ∈ schemas := same.mem_iff
  refine ⟨?_, ?_, ?_, ?_⟩
  · intro schema member
    exact consistent.filled schema (same.subset member)
  · intro schema member
    exact consistent.distinct schema (same.subset member)
  · refine (same.pairwise_iff ?_).mpr consistent.apart
    intro left right apart right_keyed left_keyed meets
    exact apart left_keyed right_keyed meets.symm
  · intro schema member
    have refers := consistent.referred schema (same.subset member)
    simpa only [Schema.RefersTo, member_iff] using refers

theorem keysAreNew_iff : KeysAreNew schemas ↔ (∀ schema ∈ schemas, schema.HasDistinctKeys) ∧
    schemas.Pairwise fun earlier later => later.primaryKey.isSome = true → ¬ later.Meets earlier := by
  induction schemas using List.reverseRecOn with
  | nil => simp [KeysAreNew]
  | append_singleton schemas schema ih =>
    rw [keysAreNew_concat, ih, Schema.isNewAfter_iff, List.pairwise_append]
    simp only [List.forall_mem_append, List.forall_mem_singleton, List.pairwise_singleton, true_and]
    exact and_and_and_comm

/-- Valid sheets are consistent, and no number is given before the same key is found. -/
theorem valid_iff : Valid schemas ↔
    IsConsistent schemas ∧ schemas.Pairwise fun earlier later => ¬ later.TakesNumberOf earlier := by
  constructor
  · rintro ⟨filled, new, referred⟩
    obtain ⟨distinct, apart⟩ := keysAreNew_iff.mp new
    refine ⟨⟨filled, distinct, ?_, referred⟩, ?_⟩
    · refine apart.imp ?_
      intro earlier later apart _ keyed meets
      exact apart keyed meets.symm
    · refine apart.imp ?_
      intro earlier later apart taken
      exact apart taken.has_key taken.meets
  · rintro ⟨consistent, not_taken⟩
    refine ⟨consistent.filled, keysAreNew_iff.mpr ⟨consistent.distinct, ?_⟩, consistent.referred⟩
    refine consistent.apart.imp₂ ?_ not_taken
    intro earlier later apart not_taken later_keyed meets
    -- The scan of the later sheet finds the keys of the earlier, whether they were written or given.
    by_cases earlier_keyed : earlier.primaryKey.isSome = true
    · exact apart earlier_keyed later_keyed meets.symm
    · exact not_taken ⟨later_keyed, by simpa using earlier_keyed, meets⟩

/-- The sheets with a primary key, and then the others. -/
def keyedFirst (schemas : List Schema) : List Schema :=
  schemas.filter (·.primaryKey.isSome) ++ schemas.filter (! ·.primaryKey.isSome)

/-- The sheets without a primary key, and then the others. -/
def numberedFirst (schemas : List Schema) : List Schema :=
  schemas.filter (! ·.primaryKey.isSome) ++ schemas.filter (·.primaryKey.isSome)

theorem keyedFirst_perm (schemas : List Schema) : (keyedFirst schemas).Perm schemas :=
  List.filter_append_perm _ schemas

theorem numberedFirst_perm (schemas : List Schema) : (numberedFirst schemas).Perm schemas :=
  List.perm_append_comm.trans (keyedFirst_perm schemas)

theorem pairwise_not_takes (not_taken : ∀ later ∈ schemas, ∀ earlier ∈ schemas, ¬ later.TakesNumberOf earlier) :
    schemas.Pairwise fun earlier later => ¬ later.TakesNumberOf earlier := by
  apply List.pairwise_of_forall_sublist
  intro earlier later both
  exact not_taken later (both.subset (by simp)) earlier (both.subset (by simp))

theorem valid_keyedFirst (consistent : IsConsistent schemas) : Valid (keyedFirst schemas) := by
  have not_keyed {schema : Schema} (member : schema ∈ schemas.filter (! ·.primaryKey.isSome)) :
      ¬ schema.primaryKey.isSome = true := by
    simpa using (List.mem_filter.mp member).2
  refine valid_iff.mpr ⟨consistent.perm (keyedFirst_perm schemas), List.pairwise_append.mpr ⟨?_, ?_, ?_⟩⟩
  · apply pairwise_not_takes
    intro later _ earlier earlier_in taken
    simp [taken.no_key] at earlier_in
  · apply pairwise_not_takes
    intro later later_in earlier _ taken
    exact not_keyed later_in taken.has_key
  · intro earlier _ later later_in taken
    exact not_keyed later_in taken.has_key

theorem not_takes_of_numberedFirst (valid : Valid (numberedFirst schemas)) :
    ∀ keyed ∈ schemas, ∀ numbered ∈ schemas, ¬ keyed.TakesNumberOf numbered := by
  intro keyed keyed_in numbered numbered_in taken
  have across := (List.pairwise_append.mp (valid_iff.mp valid).2).2.2
  have keyed_last : keyed ∈ schemas.filter (·.primaryKey.isSome) := List.mem_filter.mpr ⟨keyed_in, taken.has_key⟩
  have numbered_first : numbered ∈ schemas.filter (! ·.primaryKey.isSome) :=
    List.mem_filter.mpr ⟨numbered_in, by simp [taken.no_key]⟩
  exact across numbered numbered_first keyed keyed_last taken

/-- If sheets can be extracted in some order, then they can be extracted in every order exactly if no key of one is the
number of a row of another. -/
theorem extracts_perm_iff (schemas : List Schema) :
    (∀ others, others.Perm schemas → (Extracts others ↔ Extracts schemas)) ↔
      ((∃ others, others.Perm schemas ∧ Extracts others) →
        ∀ keyed ∈ schemas, ∀ numbered ∈ schemas, ¬ keyed.TakesNumberOf numbered) := by
  simp only [extracts_iff]
  constructor
  · rintro order_free ⟨others, same, valid⟩
    have consistent := (valid_iff.mp valid).1.perm same.symm
    have in_order := (order_free _ (keyedFirst_perm schemas)).mp (valid_keyedFirst consistent)
    exact not_takes_of_numberedFirst ((order_free _ (numberedFirst_perm schemas)).mpr in_order)
  · intro none_taken others same
    have carried {left right : List Schema} (left_perm : left.Perm schemas) (right_perm : right.Perm schemas)
        (valid : Valid left) : Valid right := by
      have not_taken := none_taken ⟨left, left_perm, valid⟩
      refine valid_iff.mpr ⟨(valid_iff.mp valid).1.perm (right_perm.trans left_perm.symm), ?_⟩
      apply pairwise_not_takes
      intro later later_in earlier earlier_in
      exact not_taken later (right_perm.subset later_in) earlier (right_perm.subset earlier_in)
    exact ⟨carried same (.refl _), carried (.refl _) same⟩

/-- An item whose key is the number of a first row. -/
def zeroth : Item := ⟨"Name", .string, "0", "Sword"⟩

/-- Items without keys. -/
def unkeyed : TableDescription where
  name := "Item"
  columns := [⟨"Name", "Name", .value, "string", .string, ""⟩]
  rows := [["Shield"]]

/-- The schema of the sheet of the items without keys. -/
def unkeyedSchema : Schema :=
  unkeyed.schemaOn "Items" (unkeyed.toSheet "tables/Items.xlsx" "Item")

theorem zeroth_isProper : zeroth.IsProper where
  plain := by decide +kernel
  faultless := by decide +kernel
  unlike := by decide
  keyed := by decide
  valued := by decide
  accepted := rfl

theorem unkeyed_isProper : unkeyed.IsProper .builtin := by
  have string : TypeAliases.builtin.resolve "string" = some .string := resolve_builtin .string
  refine ⟨by decide +kernel, List.cons_ne_nil _ _, ?_, by decide, by decide +kernel⟩
  simp only [unkeyed, List.forall_mem_singleton]
  exact TableDescription.column_isProper (by decide +kernel) (by decide +kernel) (by decide) string

theorem unkeyed_laidOut : unkeyed.IsLaidOut (unkeyed.toSheet "tables/Items.xlsx" "Item") :=
  TableDescription.isLaidOut_toSheet unkeyed_isProper _ _

theorem primaryKey_unkeyed : unkeyedSchema.primaryKey = none := by
  have read := (TableDescription.isReadAs_schemaOn unkeyed_isProper unkeyed_laidOut "Items").primaryKey
  exact Option.map_eq_none_iff.mp read

theorem foreignKeys_unkeyed : unkeyedSchema.foreignKeys = [] := by
  have read := (TableDescription.isReadAs_schemaOn unkeyed_isProper unkeyed_laidOut "Items").foreignKeys
  exact List.map_eq_nil_iff.mp read

theorem zeroth_takesNumberOf_unkeyed : zeroth.schema.TakesNumberOf unkeyedSchema where
  has_key := by
    rw [Item.primaryKey_schema]
    rfl
  no_key := primaryKey_unkeyed
  meets := by
    have rows : unkeyedSchema.rowCount = 1 := TableDescription.rowCount_laidOut unkeyed_laidOut _
    have here : unkeyed.rows[0]? = some ["Shield"] := rfl
    have number : unkeyedSchema.keyText 0 = "0" :=
      TableDescription.keyText_at_row unkeyed_isProper unkeyed_laidOut "Items" here
    have item_name : zeroth.schema.name = "Item" := rfl
    have unkeyed_name : unkeyedSchema.name = "Item" := rfl
    refine ⟨item_name.trans unkeyed_name.symm, 0, ?_, 0, ?_, ?_⟩
    · rw [Item.rowCount_schema]
      omega
    · omega
    · rw [Item.keyText_schema, number]
      rfl

theorem zeroth_isConsistent : IsConsistent [zeroth.schema, unkeyedSchema] := by
  refine ⟨?_, ?_, ?_, ?_⟩
  · refine List.forall_mem_cons.mpr ⟨zeroth_isProper.isFilled, List.forall_mem_singleton.mpr ?_⟩
    exact TableDescription.isFilled_schemaOn unkeyed_isProper unkeyed_laidOut "Items"
  · refine List.forall_mem_cons.mpr ⟨?_, List.forall_mem_singleton.mpr ?_⟩
    · intro _ row row_in before earlier
      rw [Item.rowCount_schema] at row_in
      omega
    · intro keyed
      simp [primaryKey_unkeyed] at keyed
  · refine List.pairwise_pair.mpr ?_
    intro _ keyed
    simp [primaryKey_unkeyed] at keyed
  · refine List.forall_mem_cons.mpr ⟨?_, List.forall_mem_singleton.mpr ?_⟩
    · intro reference member
      simp [zeroth_isProper.foreignKeys] at member
    · intro reference member
      simp [foreignKeys_unkeyed] at member

/-- Behind the sheet with the key the number is given again, and before it the key is refused. -/
theorem extract_refuses_zeroth : zeroth.schema.IsDiscovered ∧ unkeyedSchema.IsDiscovered ∧
    Extracts [zeroth.schema, unkeyedSchema] ∧ ¬ Extracts [unkeyedSchema, zeroth.schema] := by
  have read := TableDescription.discover_laidOut unkeyed_isProper unkeyed_laidOut "Items"
  refine ⟨zeroth_isProper.discovered, ⟨_, _, _, read⟩, ?_, ?_⟩
  · refine extracts_iff.mpr (valid_iff.mpr ⟨zeroth_isConsistent, List.pairwise_pair.mpr ?_⟩)
    intro taken
    simpa [primaryKey_unkeyed] using taken.has_key
  · rw [extracts_iff, valid_iff]
    rintro ⟨-, not_taken⟩
    exact List.pairwise_pair.mp not_taken zeroth_takesNumberOf_unkeyed

end Tables

end Tablesmith
