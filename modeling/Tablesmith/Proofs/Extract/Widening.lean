import Mathlib
import Tablesmith.Proofs.Extract.Cursor
import Tablesmith.Proofs.Extract.Layout
import Tablesmith.Proofs.Extract.SheetOrder
import Tablesmith.Proofs.Number.Digits

/-!
# Wider types

A wider type accepts every text that a narrower one accepts (`WidensTo.accepts`): a
written integer is a numeral, and what a format can hold a larger format can hold too.
Types decide which texts are values and nothing else, so that sheets that can be
extracted can be extracted with wider types for any of their columns, and give the same
tables (`extract_widened`).
-/

namespace Tablesmith

open Number Text
open Outcome (exists_mem_of_forall₂ map_eq_of_forall₂)

namespace PropertyType

variable {type wider : PropertyType} {text : String}

/-- The steps by which types become wider. -/
inductive IsWidening : PropertyType → PropertyType → Prop
  | intLong : IsWidening int long
  | longFloat : IsWidening long float
  | floatDouble : IsWidening float double
  | doubleString : IsWidening double string
  | boolString : IsWidening bool string
  | dateTimeString : IsWidening dateTime string
  | timeSpanString : IsWidening timeSpan string

/-- Any number of steps lead from a type to a wider one. -/
def WidensTo : PropertyType → PropertyType → Prop :=
  Relation.ReflTransGen IsWidening

/-- An integer of 64 bits is far from what a float cannot hold. -/
theorem isFiniteNumeral_of_isSigned (signed : IsSigned 64 text.toList) : isFiniteNumeral singleOverflow text = true := by
  obtain ⟨numeral, read, whole, bounded⟩ := read?_eq_some_of_isSigned signed
  have small : numeral.coefficient < singleOverflow := bounded.trans_lt (by decide)
  have short : numeral.coefficient < 10 ^ 400 := bounded.trans_lt (by decide +kernel)
  rw [isFiniteNumeral, read]
  exact Numeral.below_of_lt whole small short

theorem isFiniteNumeral_mono {bound larger : Nat} (at_most : bound ≤ larger) (finite : isFiniteNumeral bound text = true) :
    isFiniteNumeral larger text = true := by
  unfold isFiniteNumeral at finite ⊢
  cases read : Numeral.read? text with
  | none => rw [read] at finite; cases finite
  | some numeral =>
    rw [read] at finite
    exact Numeral.below_mono at_most finite

theorem IsWidening.accepts (step : IsWidening type wider) (accepted : type.accepts text = true) :
    wider.accepts text = true := by
  cases step with
  | intLong => exact isSome_readSigned?_iff.mpr ((isSome_readSigned?_iff.mp accepted).mono (by decide))
  | longFloat => exact Bool.or_eq_true_iff.mpr (.inr (isFiniteNumeral_of_isSigned (isSome_readSigned?_iff.mp accepted)))
  | floatDouble =>
    have larger : singleOverflow ≤ doubleOverflow := by decide +kernel
    exact Bool.or_eq_true_iff.mpr ((Bool.or_eq_true_iff.mp accepted).imp id (isFiniteNumeral_mono larger))
  | doubleString | boolString | dateTimeString | timeSpanString => rfl

theorem WidensTo.accepts (widens : type.WidensTo wider) (accepted : type.accepts text = true) : wider.accepts text = true := by
  induction widens with
  | refl => exact accepted
  | tail _ step ih => exact step.accepts ih

end PropertyType

namespace Schema

variable {schema wider : Schema}

/-- The schema with other types for its columns. -/
def withTypes (schema : Schema) (types : Vector PropertyType schema.columnCount) : Schema :=
  { schema with properties := Vector.ofFn fun column => { schema.propertyAt column with type := types.get column } }

/-- The other schema has a type that is as wide or wider for every column, and is the same in all else. -/
def WidensTo (schema wider : Schema) : Prop :=
  ∃ types : Vector PropertyType schema.columnCount,
    (∀ column, (schema.propertyAt column).type.WidensTo (types.get column)) ∧ wider = schema.withTypes types

section
variable (schema) (types : Vector PropertyType schema.columnCount)

theorem propertyAt_withTypes (column : Fin (schema.withTypes types).columnCount) :
    (schema.withTypes types).propertyAt column = { schema.propertyAt column with type := types.get column } := by
  rw [propertyAt, Vector.get_eq_getElem]
  exact Vector.getElem_ofFn column.isLt

theorem keyText_withTypes (row : Nat) : (schema.withTypes types).keyText row = schema.keyText row := by
  obtain ⟨_, _, _, _, _, key, _, _⟩ := schema
  cases key <;> rfl

theorem entries_withTypes (row : Nat) : (schema.withTypes types).entries row = schema.entries row := by
  refine List.map_congr_left fun column _ => ?_
  rw [propertyAt_withTypes]
  rfl

theorem rowsOf_withTypes : (schema.withTypes types).rowsOf = schema.rowsOf := by
  simp only [rowsOf, recordOf, keyText_withTypes, entries_withTypes]
  rfl

end

/-- A type is as wide as itself. -/
theorem WidensTo.refl (schema : Schema) : schema.WidensTo schema := by
  refine ⟨Vector.ofFn fun column => (schema.propertyAt column).type, fun column => ?_, ?_⟩
  · rw [Vector.get_ofFn]
    exact .refl
  · have same_properties : schema.properties = Vector.ofFn fun column =>
        { schema.propertyAt column with
          type := (Vector.ofFn fun column => (schema.propertyAt column).type).get column } := by
      refine Vector.ext fun place inside => ?_
      rw [Vector.getElem_ofFn, Vector.get_ofFn]
      show schema.properties[place] = schema.propertyAt ⟨place, inside⟩
      rw [propertyAt, Vector.get_eq_getElem]
    exact congrArg (fun properties => { schema with properties := properties }) same_properties

/-- The schema with one type for all columns, which says nothing about them. -/
def untyped (schema : Schema) : Schema :=
  schema.withTypes (Vector.replicate _ .string)

theorem untyped_withTypes (types : Vector PropertyType schema.columnCount) : (schema.withTypes types).untyped = schema.untyped := by
  have same_properties : (Vector.ofFn fun column =>
      { (schema.withTypes types).propertyAt column with type := PropertyType.string }) =
        Vector.ofFn fun column => { schema.propertyAt column with type := PropertyType.string } :=
    congrArg Vector.ofFn (funext fun column => by rw [propertyAt_withTypes])
  simp only [untyped, withTypes, Vector.get_replicate]
  exact congrArg (fun properties => { schema with properties := properties }) same_properties

theorem IsFilled.widened (filled : schema.IsFilled) (widens : schema.WidensTo wider) : wider.IsFilled := by
  obtain ⟨types, widens, rfl⟩ := widens
  intro row inside column
  obtain ⟨some_text, accepted⟩ := filled row inside column
  refine ⟨some_text, ?_⟩
  rw [propertyAt_withTypes]
  exact (widens column).accepts accepted

end Schema

namespace Tables

open Schema

variable {schemas wider : List Schema}

theorem keysAreNew_untyped : KeysAreNew (schemas.map untyped) ↔ KeysAreNew schemas := by
  rw [keysAreNew_iff, keysAreNew_iff, List.forall_mem_map, List.pairwise_map]
  simp only [HasDistinctKeys, Meets, untyped, keyText_withTypes]
  rfl

theorem refersTo_untyped (schema : Schema) : schema.untyped.RefersTo (schemas.map untyped) ↔ schema.RefersTo schemas := by
  simp only [RefersTo, List.mem_map, exists_exists_and_eq_and, untyped, keyText_withTypes]
  rfl

theorem valid_untyped_iff (filled : ∀ schema ∈ schemas, schema.IsFilled) : Valid schemas ↔
    KeysAreNew (schemas.map untyped) ∧ ∀ schema ∈ schemas.map untyped, schema.RefersTo (schemas.map untyped) := by
  rw [keysAreNew_untyped, List.forall_mem_map]
  simp only [refersTo_untyped]
  exact ⟨fun valid => ⟨valid.keysNew, valid.referred⟩, fun facts => ⟨filled, facts.1, facts.2⟩⟩

theorem ofSchemas_untyped (schemas : List Schema) : ofSchemas (schemas.map untyped) = ofSchemas schemas := by
  rw [ofSchemas, List.map_map, ofSchemas]
  refine congrArg (List.foldl OrderedBy.insert OrderedBy.empty) (List.map_congr_left fun schema _ => ?_)
  exact congrArg (Prod.mk schema.name) (rowsOf_withTypes schema _)

theorem map_untyped_of_widened (widened : List.Forall₂ WidensTo schemas wider) :
    wider.map untyped = schemas.map untyped := by
  refine map_eq_of_forall₂ ?_ widened
  rintro schema _ ⟨types, -, rfl⟩
  exact untyped_withTypes _

theorem isFilled_of_widened (widened : List.Forall₂ WidensTo schemas wider) (filled : ∀ schema ∈ schemas, schema.IsFilled) :
    ∀ schema ∈ wider, schema.IsFilled := by
  intro schema member
  obtain ⟨narrower, narrower_member, widens⟩ := exists_mem_of_forall₂ widened member
  exact (filled narrower narrower_member).widened widens

/-- Sheets that can be extracted give the same tables with wider types. -/
theorem extract_widened {tables : Tables} (widened : List.Forall₂ WidensTo schemas wider)
    (extracted : ((TableExtractor.extract schemas).run.run TableExtractor.fresh).1 = .ok tables) :
    ((TableExtractor.extract wider).run.run TableExtractor.fresh).1 = .ok tables := by
  rw [TableExtractor.outcome_extract] at extracted ⊢
  obtain ⟨valid, rfl, -⟩ := extract_ok_iff.mp (Prod.ext extracted rfl)
  have same := map_untyped_of_widened widened
  have filled := isFilled_of_widened widened valid.filled
  have still_valid : Valid wider := by
    rw [valid_untyped_iff filled, same, ← valid_untyped_iff valid.filled]
    exact valid
  have same_tables : ofSchemas wider = ofSchemas schemas := by
    rw [← ofSchemas_untyped wider, same, ofSchemas_untyped]
  exact congrArg Prod.fst (extract_ok_iff.mpr ⟨still_valid, same_tables.symm, rfl⟩)

end Tables

namespace TableDescription

open Schema

/-- The sheet of a table in the file with three tables. -/
def sheetOfThree (described : TableDescription) : Schema :=
  described.schemaOn "Three" (described.toSheet "Three.xlsx" described.name)

/-- The key and the old key of a sword may be other numbers too. -/
def wideSwords : Schema :=
  swords.sheetOfThree.withTypes #v[.string, .double, .float]

theorem swords_widensTo : swords.sheetOfThree.WidensTo wideSwords := by
  have laid := isLaidOut_toSheet (three_proper swords (by simp)) "Three.xlsx" swords.name
  have int_double : PropertyType.int.WidensTo .double := .tail (.tail (.tail .refl .intLong) .longFloat) .floatDouble
  have long_float : PropertyType.long.WidensTo .float := .tail .refl .longFloat
  refine ⟨#v[.string, .double, .float], fun column => ?_, rfl⟩
  have read : swords.sheetOfThree.propertyAt column = _ :=
    propertyAt_schemaOn (three_proper swords (by simp)) laid "Three" column
  rw [read]
  match column with
  | ⟨0, _⟩ => exact .refl
  | ⟨1, _⟩ => exact int_double
  | ⟨2, _⟩ => exact long_float

/-- The swords refer to rarities also where their keys have a wider type. -/
theorem extract_widened_swords :
    List.Forall₂ WidensTo ([rarities, swords, remarks].map sheetOfThree)
      [rarities.sheetOfThree, wideSwords, remarks.sheetOfThree] ∧
    ∃ tables, ((TableExtractor.extract ([rarities, swords, remarks].map sheetOfThree)).run.run TableExtractor.fresh).1 = .ok tables ∧
      ((TableExtractor.extract [rarities.sheetOfThree, wideSwords, remarks.sheetOfThree]).run.run TableExtractor.fresh).1 =
        .ok tables := by
  have widened : List.Forall₂ WidensTo ([rarities, swords, remarks].map sheetOfThree)
      [rarities.sheetOfThree, wideSwords, remarks.sheetOfThree] :=
    .cons (.refl _) (.cons swords_widensTo (.cons (.refl _) .nil))
  have laid : ∀ described ∈ [rarities, swords, remarks], described.IsLaidOut (described.toSheet "Three.xlsx" described.name) :=
    fun described member => isLaidOut_toSheet (three_proper described member) _ _
  have valid := three_fitTogether.valid three_proper laid fun _ => "Three"
  have extracted : ((TableExtractor.extract ([rarities, swords, remarks].map sheetOfThree)).run.run TableExtractor.fresh).1 =
      .ok (Tables.ofSchemas ([rarities, swords, remarks].map sheetOfThree)) := by
    rw [TableExtractor.outcome_extract]
    exact congrArg Prod.fst (Tables.extract_ok_iff.mpr ⟨valid, rfl, rfl⟩)
  exact ⟨widened, _, extracted, Tables.extract_widened widened extracted⟩

end TableDescription

end Tablesmith
