import Mathlib
import Tablesmith.Proofs.Extract.FirstFault
import Tablesmith.Proofs.Schema.Inspector
import Tablesmith.Proofs.Schema.Range

/-!
# Where discovery stops

Discovery checks the name of a sheet, its markers, its headers, its types and the marks
of its headers, in this order and from left to right, and stops at the first check that
finds something wrong (`reports_discover`). What each check finds is said of the sheet
alone. The checks find nothing exactly if the sheet has the header that a schema is made
of, and otherwise the fault is at the place of the check (`inspect_names_first_offence`).
-/

namespace Tablesmith

open Outcome Grid Text Discovery

namespace Header

variable {raw name : String}

/-- The name is what is left of the header without its mark: the word in front of a word in brackets, or all of a
header of another form. -/
def Strips (raw name : String) : Prop :=
  (∃ mark, IsWord name ∧ IsWord mark ∧ raw = marked name mark) ∨
    ((∀ word mark, IsWord word → IsWord mark → raw ≠ marked word mark) ∧ name = raw)

theorem name_read_marked {mark : String} (name_word : IsWord name) (mark_word : IsWord mark) :
    (read (marked name mark)).name = name := by
  by_cases is_key : sameAscii mark keyMark = true
  · rw [read_eq_iff.mpr (.markedKey name_word mark_word is_key)]
  · rw [read_eq_iff.mpr (.reference name_word mark_word (by simpa using is_key))]

theorem name_read_iff : (read raw).name = name ↔ Strips raw name := by
  constructor
  · rintro rfl
    by_cases is_marked : ∃ word mark, IsWord word ∧ IsWord mark ∧ raw = marked word mark
    · obtain ⟨word, mark, word_word, mark_word, rfl⟩ := is_marked
      rw [name_read_marked word_word mark_word]
      exact .inl ⟨mark, word_word, mark_word, rfl⟩
    · have unmarked (word mark : String) (word_word : IsWord word) (mark_word : IsWord mark) : raw ≠ marked word mark :=
        fun same => is_marked ⟨word, mark, word_word, mark_word, same⟩
      refine .inr ⟨unmarked, ?_⟩
      generalize read_as : read raw = header
      cases read_eq_iff.mp read_as with
      | key | plain => rfl
      | markedKey name_word mark_word | reference name_word mark_word => exact absurd rfl (unmarked _ _ name_word mark_word)
  · rintro (⟨mark, name_word, mark_word, rfl⟩ | ⟨unmarked, rfl⟩)
    · exact name_read_marked name_word mark_word
    · generalize read_as : read name = header
      cases read_eq_iff.mp read_as with
      | key | plain => rfl
      | markedKey name_word mark_word | reference name_word mark_word => exact absurd rfl (unmarked _ _ name_word mark_word)

end Header

namespace Discovery

/-- What discovery checks. -/
inductive Check
  | name
  | markers
  | header (property : Nat)
  | type (property : Nat)
  | mark (property : Nat)

namespace Check

/-- The checks of a sheet with so many columns, in their order. -/
def all (count : Nat) : List Check :=
  .name :: .markers :: ((List.range count).map .header ++ ((List.range count).map .type ++ (List.range count).map .mark))

/-- The check finds the problem in the sheet. -/
def Finds (aliases : TypeAliases) (sheet : Sheet) : Check → Problem → Prop
  | name, problem =>
    (sheet.isText 0 1 = false ∨ isAllBlank (sheet.text 0 1) = true) ∧ problem = .sheetNameMissing
  | markers, problem =>
    (IsUnmarked sheet ∧ problem = .markerMissing) ∨
      ((∃ column, Opens sheet column ∧ Closes sheet column) ∧ problem = .markerSingle)
  | header property, problem =>
    let raw := sheet.text 2 (property + 1)
    (isAllBlank raw = true ∧ problem = .propertyNameEmpty) ∨
      (isAllBlank raw = false ∧ (∃ c ∈ raw.toList, isBlank c = true) ∧ problem = .propertyNameSpaced raw) ∨
      (isAllBlank raw = false ∧ (∀ c ∈ raw.toList, isBlank c = false) ∧ raw = sheet.text 0 1 ∧
        problem = .propertyNamedAsSheet raw)
  | type property, problem =>
    let written := sheet.text 3 (property + 1)
    (sheet.isText 3 (property + 1) = false ∧ problem = .typeNotText) ∨
      (sheet.isText 3 (property + 1) = true ∧ aliases.resolve written = none ∧ problem = .typeUnknown written)
  | mark property, problem => ∃ name, Header.Strips (sheet.text 2 (property + 1)) name ∧
    ((name = sheet.text 0 1 ∧ problem = .propertyNamedAsSheet name) ∨
      (name ≠ sheet.text 0 1 ∧ (∃ earlier < property, Header.Strips (sheet.text 2 (earlier + 1)) name) ∧
        problem = .propertyRepeated name))

/-- The place of the check: the sheet, with the cell that is looked at and, once the headers are known to be good, with
that of the column. A sheet without markers is at fault as a whole. -/
def IsAt (table : String) (sheet : Sheet) : Check → Location → Prop
  | name, place => place = ⟨table, sheet.name, "", "B1"⟩
  | markers, place =>
    (IsUnmarked sheet ∧ place = ⟨table, sheet.name, "", ""⟩) ∨
      ∃ column, Opens sheet column ∧ place = ⟨table, sheet.name, "", String.ofList (columnLetters column) ++ "1"⟩
  | header property, place => place = ⟨table, sheet.name, "", String.ofList (columnLetters (property + 1)) ++ "3"⟩
  | type property, place =>
    place = ⟨table, sheet.name, sheet.text 2 (property + 1), String.ofList (columnLetters (property + 1)) ++ "4"⟩
  | mark property, place =>
    place = ⟨table, sheet.name, sheet.text 2 (property + 1), String.ofList (columnLetters (property + 1)) ++ "3"⟩

/-- The fault is the problem that the check finds, at its place. -/
def Offends (table : String) (aliases : TypeAliases) (sheet : Sheet) (check : Check) (fault : Fault) : Prop :=
  check.IsAt table sheet fault.location ∧ check.Finds aliases sheet fault.problem

end Check

variable {sheet : Sheet} {aliases : TypeAliases} {table name : String} {property : Nat} {fault : Fault}

theorem reference_eq {row : Nat} {digits : String} (written : Number.showNat (row + 1) = digits) (column : Nat) :
    reference row column = String.ofList (columnLetters column) ++ digits :=
  congrArg _ written

theorem reference_nameRow : ∀ column, reference Schema.nameRow column = String.ofList (columnLetters column) ++ "1" :=
  reference_eq (by decide)

theorem reference_propertyRow :
    ∀ column, reference Schema.propertyRow column = String.ofList (columnLetters column) ++ "3" :=
  reference_eq (by decide)

theorem reference_typeRow : ∀ column, reference Schema.typeRow column = String.ofList (columnLetters column) ++ "4" :=
  reference_eq (by decide)

theorem reference_name : reference Schema.nameRow Schema.nameColumn = "B1" := by decide +kernel

theorem typeRow_eq : Schema.typeRow = 3 := rfl

theorem gridColumn_eq : Schema.gridColumn property = property + 1 := rfl

theorem sheetName_ok_iff {place : Location} : sheetName sheet place = .ok name ↔
    (sheet.isText 0 1 = true ∧ isAllBlank (sheet.text 0 1) = false) ∧ name = sheet.text 0 1 := by
  unfold sheetName
  show (if sheet.isText 0 1 = true ∧ ¬isAllBlank (sheet.text 0 1) = true then Except.ok (sheet.text 0 1) else _) = _ ↔ _
  simp only [Bool.not_eq_true]
  by_cases named : sheet.isText 0 1 = true ∧ isAllBlank (sheet.text 0 1) = false
  · rw [if_pos named, and_iff_right named, Except.ok.injEq]
    exact eq_comm
  · rw [if_neg named]
    exact iff_of_false nofun fun found => named found.1

theorem propertyType_ok_iff {place : Location} {type : PropertyType} : propertyType sheet aliases place property = .ok type ↔
    sheet.isText 3 (property + 1) = true ∧ aliases.resolve (sheet.text 3 (property + 1)) = some type := by
  unfold propertyType
  rw [typeRow_eq, gridColumn_eq]
  dsimp only
  cases sheet.isText 3 (property + 1) with
  | false => exact iff_of_false nofun nofun
  | true => cases aliases.resolve (sheet.text 3 (property + 1)) <;> simp

theorem sheetName_error_iff : sheetName sheet (Location.ofSheet table sheet.name) = .error fault ↔
    Check.name.Offends table aliases sheet fault := by
  have unnamed_iff : ¬(sheet.isText 0 1 = true ∧ ¬isAllBlank (sheet.text 0 1) = true) ↔
      sheet.isText 0 1 = false ∨ isAllBlank (sheet.text 0 1) = true := by
    rw [not_and_or, not_not, Bool.not_eq_true]
  unfold sheetName
  rw [reference_name]
  show (if sheet.isText 0 1 = true ∧ ¬isAllBlank (sheet.text 0 1) = true then _ else _) = _ ↔ _
  by_cases named : sheet.isText 0 1 = true ∧ ¬isAllBlank (sheet.text 0 1) = true
  · rw [if_pos named]
    exact iff_of_false nofun fun offends => unnamed_iff.mpr offends.2.1 named
  · rw [if_neg named, Except.error.injEq, Fault.mk_eq_iff]
    exact and_congr_right fun _ => (and_iff_right (unnamed_iff.mp named)).symm

theorem range_error_iff_offends : Discovery.range sheet (Location.ofSheet table sheet.name) = .error fault ↔
    Check.markers.Offends table aliases sheet fault := by
  rw [range_error_iff]
  constructor
  · rintro (⟨unmarked, rfl⟩ | ⟨column, ⟨opens, closes⟩, rfl⟩)
    · exact ⟨.inl ⟨unmarked, rfl⟩, .inl ⟨unmarked, rfl⟩⟩
    · exact ⟨.inr ⟨column, opens, by rw [reference_nameRow]; rfl⟩, .inr ⟨⟨column, opens, closes⟩, rfl⟩⟩
  · obtain ⟨place, problem⟩ := fault
    rintro ⟨⟨unmarked, rfl⟩ | ⟨column, opens, rfl⟩, ⟨also_unmarked, rfl⟩ | ⟨⟨single, also_opens, closes⟩, rfl⟩⟩
    · exact .inl ⟨unmarked, rfl⟩
    · exact absurd unmarked also_opens.not_isUnmarked
    · exact absurd also_unmarked opens.not_isUnmarked
    · refine .inr ⟨single, ⟨also_opens, closes⟩, ?_⟩
      rw [opens.unique also_opens, reference_nameRow]
      rfl

theorem headerProblem?_eq_some_iff {raw : String} {problem : Problem} : headerProblem? raw name = some problem ↔
    (isAllBlank raw = true ∧ problem = .propertyNameEmpty) ∨
      (isAllBlank raw = false ∧ (∃ c ∈ raw.toList, isBlank c = true) ∧ problem = .propertyNameSpaced raw) ∨
      (isAllBlank raw = false ∧ (∀ c ∈ raw.toList, isBlank c = false) ∧ raw = name ∧
        problem = .propertyNamedAsSheet raw) := by
  unfold headerProblem?
  cases blank : isAllBlank raw with
  | true =>
    simp only [↓reduceIte, true_and, Bool.true_eq_false, false_and, or_false, Option.some.injEq]
    exact eq_comm
  | false =>
    by_cases spaced : raw.toList.any isBlank = true
    · have some_blank : ∃ c ∈ raw.toList, isBlank c = true := List.any_eq_true.mp spaced
      have not_clear : ¬ ∀ c ∈ raw.toList, isBlank c = false := by simpa using some_blank
      rw [if_neg Bool.false_ne_true, if_pos spaced, Option.some.injEq]
      simp only [Bool.false_eq_true, false_and, false_or, some_blank, true_and, not_clear, and_false, or_false]
      exact eq_comm
    · have clear : ∀ c ∈ raw.toList, isBlank c = false := by simpa using spaced
      have none_blank : ¬ ∃ c ∈ raw.toList, isBlank c = true := by simpa using clear
      rw [if_neg Bool.false_ne_true, if_neg spaced]
      simp only [Bool.false_eq_true, false_and, false_or, none_blank, true_and, and_false]
      by_cases as_sheet : raw = name
      · rw [if_pos as_sheet, and_iff_right clear, and_iff_right as_sheet, Option.some.injEq]
        exact eq_comm
      · rw [if_neg as_sheet]
        exact iff_of_false nofun fun found => as_sheet found.2.1

theorem headerFault?_eq_some_iff :
    headerFault? sheet (sheet.text 0 1) (Location.ofSheet table sheet.name) property = some fault ↔
      (Check.header property).Offends table aliases sheet fault := by
  rw [headerFault?, Option.map_eq_some_iff, reference_propertyRow]
  simp only [headerProblem?_eq_some_iff, Fault.mk_eq_iff]
  constructor
  · rintro ⟨problem, found, place, rfl⟩
    exact ⟨place, found⟩
  · rintro ⟨place, found⟩
    exact ⟨fault.problem, found, place, rfl⟩

theorem propertyType_error_iff : propertyType sheet aliases (Location.ofSheet table sheet.name) property = .error fault ↔
    (Check.type property).Offends table aliases sheet fault := by
  have at_place (problem : Problem) : Fault.mk ⟨table, sheet.name, sheet.text 2 (property + 1),
      reference Schema.typeRow (property + 1)⟩ problem = fault ↔
        (Check.type property).IsAt table sheet fault.location ∧ fault.problem = problem := by
    rw [Fault.mk_eq_iff, reference_typeRow]
    exact and_congr_right fun _ => Iff.rfl
  unfold propertyType
  show _ ↔ _ ∧ (_ ∨ _)
  rw [typeRow_eq, gridColumn_eq]
  dsimp only
  cases is_text : sheet.isText 3 (property + 1) with
  | false =>
    rw [if_neg Bool.false_ne_true, Except.error.injEq]
    simp only [true_and, Bool.false_eq_true, false_and, or_false]
    exact at_place _
  | true =>
    rw [if_pos rfl]
    cases resolved : aliases.resolve (sheet.text 3 (property + 1)) with
    | some type => exact iff_of_false nofun (by rintro ⟨-, ⟨⟨⟩, -⟩ | ⟨-, ⟨⟩, -⟩⟩)
    | none =>
      simp only [Except.error.injEq, true_and, Bool.true_eq_false, false_and, false_or]
      exact at_place _

theorem nameProblem?_eq_some_iff {problem : Problem} : nameProblem? sheet (sheet.text 0 1) property = some problem ↔
    (Check.mark property).Finds aliases sheet problem := by
  have name_is {found : String} : Header.Strips (sheet.text 2 (property + 1)) found ↔ propertyName sheet property = found :=
    Header.name_read_iff.symm
  have earlier_is {found : String} : (∃ earlier < property, Header.Strips (sheet.text 2 (earlier + 1)) found) ↔
      (List.range property).any (fun earlier => propertyName sheet earlier = found) = true := by
    simp only [List.any_eq_true, List.mem_range, decide_eq_true_eq]
    exact exists_congr fun earlier => and_congr_right fun _ => Header.name_read_iff.symm
  unfold nameProblem? Check.Finds
  simp only [name_is, earlier_is, exists_eq_left']
  by_cases as_sheet : propertyName sheet property = sheet.text 0 1
  · rw [if_pos as_sheet]
    simp only [as_sheet, true_and, ne_eq, not_true_eq_false, false_and, or_false, Option.some.injEq]
    exact eq_comm
  · rw [if_neg as_sheet]
    simp only [as_sheet, false_and, ne_eq, not_false_eq_true, true_and, false_or]
    split
    · next repeated =>
      rw [and_iff_right repeated, Option.some.injEq]
      exact eq_comm
    · next new => exact iff_of_false nofun fun found => new found.1

theorem keyFault?_eq_some_iff :
    keyFault? sheet (sheet.text 0 1) (Location.ofSheet table sheet.name) property = some fault ↔
      (Check.mark property).Offends table aliases sheet fault := by
  rw [keyFault?, Option.map_eq_some_iff, reference_propertyRow]
  simp only [Fault.mk_eq_iff]
  constructor
  · rintro ⟨problem, found, place, rfl⟩
    exact ⟨place, nameProblem?_eq_some_iff.mp found⟩
  · rintro ⟨place, found⟩
    exact ⟨fault.problem, nameProblem?_eq_some_iff.mpr found, place, rfl⟩

theorem refuse_error_iff {fault? : Option Fault} : refuse fault? = .error fault ↔ fault? = some fault := by
  cases fault? <;> simp [refuse]

theorem reports_firstFault {ι : Type} {offends : ι → Fault → Prop} {check : Nat → Option Fault} {visit : Nat → ι}
    (finds : ∀ property fault, check property = some fault ↔ offends (visit property) fault) (count : Nat) :
    Reports offends (firstFault check 0 count) ((List.range count).map visit) := by
  induction count with
  | zero => exact reports_ok ()
  | succ count ih =>
    rw [firstFault_succ, Nat.zero_add, List.range_succ, List.map_append, List.map_singleton]
    exact ih.bind fun _ _ => reports_place fun fault => refuse_error_iff.trans (finds count fault)

theorem reports_tabulate? {ι α : Type} {offends : ι → Fault → Prop} {count : Nat} {read : Fin count → Except Fault α}
    {visit : Nat → ι} (finds : ∀ place fault, read place = .error fault ↔ offends (visit place) fault) :
    Reports offends (tabulate? count read) ((List.range count).map visit) := by
  induction count with
  | zero => exact reports_ok _
  | succ count ih =>
    rw [tabulate?, List.range_succ, List.map_append, List.map_singleton]
    have last : Reports offends (read (Fin.last count)) [visit count] := reports_place (finds (Fin.last count))
    exact (ih fun place => finds place.castSucc).bind fun earlier _ => last.bind fun _ _ => reports_ok _

/-- Discovery stops at the first check that finds something. -/
theorem reports_discover {count : Nat} (width : ∀ opening between, Spans sheet opening between → between = count) :
    Reports (Check.Offends table aliases sheet) (Schema.discover table sheet aliases) (Check.all count) := by
  unfold Schema.discover
  refine Reports.bind (reports_place fun _ => sheetName_error_iff) fun name named => ?_
  obtain ⟨-, rfl⟩ := sheetName_ok_iff.mp named
  refine Reports.bind (reports_place fun _ => range_error_iff_offends) fun range ranged => ?_
  obtain rfl := width _ _ (spans_of_range ranged)
  refine (reports_firstFault (fun _ _ => headerFault?_eq_some_iff) _).bind fun _ _ => ?_
  refine (reports_tabulate? fun _ _ => propertyType_error_iff).bind fun types _ => ?_
  rw [← List.append_nil (List.map Check.mark _)]
  exact (reports_firstFault (fun _ _ => keyFault?_eq_some_iff) _).bind fun _ _ => reports_ok _

end Discovery

section
variable {sheet : Sheet} {aliases : TypeAliases} {table : String}

/-- There is a property in the column of the range. -/
def Discovery.HasProperty (sheet : Sheet) (property : Nat) : Prop :=
  ∃ opening count, Spans sheet opening count ∧ property < count

/-- A sheet has the header that a schema is made of. -/
structure HasHeader (aliases : TypeAliases) (sheet : Sheet) : Prop where
  named : sheet.isText 0 1 = true ∧ isAllBlank (sheet.text 0 1) = false
  marked : ∃ left right, left < right ∧ isMarked (sheet.text 0 left) = true ∧ isMarked (sheet.text 0 right) = true
  headers : ∀ property, HasProperty sheet property → isAllBlank (sheet.text 2 (property + 1)) = false ∧
    (∀ c ∈ (sheet.text 2 (property + 1)).toList, isBlank c = false) ∧ sheet.text 2 (property + 1) ≠ sheet.text 0 1
  types : ∀ property, HasProperty sheet property → sheet.isText 3 (property + 1) = true ∧
    ∃ type, aliases.resolve (sheet.text 3 (property + 1)) = some type
  names : ∀ property name, HasProperty sheet property → Header.Strips (sheet.text 2 (property + 1)) name →
    name ≠ sheet.text 0 1 ∧ ∀ earlier < property, ¬ Header.Strips (sheet.text 2 (earlier + 1)) name

theorem Discovery.Spans.unique {opening other count between : Nat} (spans : Spans sheet opening count)
    (also_spans : Spans sheet other between) : between = count := by
  have same_opening := spans.1.unique also_spans.1
  have same_closing := spans.2.unique also_spans.2
  omega

/-- A sheet has so many columns at most if it has any. -/
theorem exists_width (sheet : Sheet) : ∃ count, ∀ opening between, Spans sheet opening between → between = count := by
  by_cases spanned : ∃ opening count, Spans sheet opening count
  · obtain ⟨opening, count, spans⟩ := spanned
    exact ⟨count, fun _ _ also_spans => spans.unique also_spans⟩
  · exact ⟨0, fun opening between spans => absurd ⟨opening, between, spans⟩ spanned⟩

theorem HasHeader.of_discover {schema : Schema} (discovered : Schema.discover table sheet aliases = .ok schema) :
    HasHeader aliases sheet := by
  obtain ⟨name, range, types, named, ranged, headed, typed, keyed, -⟩ := Schema.discover_ok_iff.mp discovered
  obtain ⟨filled, rfl⟩ := sheetName_ok_iff.mp named
  have spans := spans_of_range ranged
  have inside {property : Nat} (has : HasProperty sheet property) : property < range.columnCount := by
    obtain ⟨opening, count, also_spans, before⟩ := has
    rwa [← spans.unique also_spans]
  refine ⟨filled, exists_spans_iff.mp ⟨_, _, spans⟩, fun property has => ?_, fun property has => ?_,
    fun property name has strips => ?_⟩
  · exact headerFault?_eq_none_iff.mp (headed property (inside has))
  · obtain ⟨is_text, resolved⟩ := propertyType_ok_iff.mp (typed ⟨property, inside has⟩)
    exact ⟨is_text, _, resolved⟩
  · obtain ⟨unlike, new⟩ := keyFault?_eq_none_iff.mp (keyed property (inside has))
    have name_is : propertyName sheet property = name := Header.name_read_iff.mpr strips
    rw [name_is] at unlike new
    exact ⟨unlike, fun earlier before also_strips => new earlier before (Header.name_read_iff.mpr also_strips)⟩

theorem HasHeader.discover (header : HasHeader aliases sheet) (table : String) :
    ∃ schema, Schema.discover table sheet aliases = .ok schema := by
  obtain ⟨opening, count, spans⟩ := exists_spans_iff.mpr header.marked
  have ranged : Discovery.range sheet (Location.ofSheet table sheet.name) = .ok ⟨opening, opening + count + 1⟩ :=
    range_of_spans spans
  have width : Range.columnCount ⟨opening, opening + count + 1⟩ = count := (spans.unique (spans_of_range ranged))
  have has (property : Fin (Range.columnCount ⟨opening, opening + count + 1⟩)) : HasProperty sheet property :=
    ⟨opening, count, spans, property.isLt.trans_eq width⟩
  choose is_text types resolved using fun property => header.types _ (has property)
  refine ⟨_, Schema.discover_ok_iff.mpr ⟨sheet.text 0 1, _, Vector.ofFn types, sheetName_ok_iff.mpr ⟨header.named, rfl⟩,
    ranged, fun property inside => ?_, fun property => ?_, fun property inside => ?_, rfl⟩⟩
  · exact headerFault?_eq_none_iff.mpr (header.headers property (has ⟨property, inside⟩))
  · rw [Vector.get_ofFn]
    exact propertyType_ok_iff.mpr ⟨is_text property, resolved property⟩
  · obtain ⟨unlike, new⟩ := header.names property _ (has ⟨property, inside⟩) (Header.name_read_iff.mp rfl)
    exact keyFault?_eq_none_iff.mpr ⟨unlike, fun earlier before same => new earlier before (Header.name_read_iff.mp same)⟩

theorem Discovery.Check.Finds.kind {check : Check} {problem : Problem} (finds : check.Finds aliases sheet problem) :
    problem.kind = .schema := by
  cases check with
  | name =>
    obtain ⟨-, rfl⟩ := finds
    rfl
  | markers =>
    obtain ⟨-, rfl⟩ | ⟨-, rfl⟩ := finds
    · rfl
    · rfl
  | header =>
    obtain ⟨-, rfl⟩ | ⟨-, -, rfl⟩ | ⟨-, -, -, rfl⟩ := finds
    · rfl
    · rfl
    · rfl
  | type =>
    obtain ⟨-, rfl⟩ | ⟨-, -, rfl⟩ := finds
    · rfl
    · rfl
  | mark =>
    obtain ⟨name, -, ⟨-, rfl⟩ | ⟨-, -, rfl⟩⟩ := finds
    · rfl
    · rfl

/-- Whatever a check finds has a place. -/
theorem Discovery.Check.Finds.exists_isAt {check : Check} {problem : Problem} (finds : check.Finds aliases sheet problem)
    (table : String) : ∃ place, check.IsAt table sheet place := by
  cases check with
  | name | header | type | mark => exact ⟨_, rfl⟩
  | markers =>
    obtain ⟨unmarked, -⟩ | ⟨⟨column, opens, -⟩, -⟩ := finds
    · exact ⟨_, .inl ⟨unmarked, rfl⟩⟩
    · exact ⟨_, .inr ⟨column, opens, rfl⟩⟩

theorem Discovery.Check.IsAt.of_sheet {check : Check} {place : Location} (is_at : check.IsAt table sheet place) :
    place.table = table ∧ place.sheet = sheet.name := by
  cases check with
  | name | header | type | mark =>
    obtain rfl := is_at
    exact ⟨rfl, rfl⟩
  | markers =>
    obtain ⟨-, rfl⟩ | ⟨column, -, rfl⟩ := is_at
    · exact ⟨rfl, rfl⟩
    · exact ⟨rfl, rfl⟩

/-- What stands behind the table and the sheet of a place. -/
def Location.extension (place : Location) : String :=
  (if place.column = "" then "" else "/" ++ place.column) ++ (if place.cell = "" then "" else "/" ++ place.cell)

theorem Location.text_of_sheet {place : Location} (table_filled : place.table ≠ "") (sheet_filled : place.sheet ≠ "") :
    place.text = "[" ++ place.table ++ "/" ++ place.sheet ++ place.extension ++ "]" := by
  unfold Location.text Location.extension
  by_cases no_column : place.column = "" <;> by_cases no_cell : place.cell = "" <;>
    simp [no_column, no_cell, table_filled, sheet_filled, String.intercalate_cons_cons, String.append_assoc]

/-- Discovery lets a sheet through exactly if it has a header. Otherwise it tells of the first check that finds something,
at the place of this check on the sheet. -/
theorem Inspector.inspect_names_first_offence (table : String) (sheet : Sheet) (aliases : TypeAliases) (inspector : Inspector) :
    ((∃ schema, ((inspect table sheet aliases).run.run inspector).1 = .ok schema) ↔ HasHeader aliases sheet) ∧
    ∀ fault, ((inspect table sheet aliases).run.run inspector).1 = .error fault →
      fault.problem.kind = .schema ∧
      (∃ count before check after, (∀ opening between, Spans sheet opening between → between = count) ∧
        Check.all count = before ++ check :: after ∧ (∀ earlier ∈ before, ∀ problem, ¬ earlier.Finds aliases sheet problem) ∧
        check.Finds aliases sheet fault.problem ∧ check.IsAt table sheet fault.location) ∧
      (table ≠ "" → sheet.name ≠ "" →
        fault.location.text = "[" ++ table ++ "/" ++ sheet.name ++ fault.location.extension ++ "]") := by
  rw [((reads_inspect table sheet aliases).run inspector).1]
  refine ⟨⟨fun ⟨_, discovered⟩ => .of_discover discovered, fun header => header.discover table⟩, fun fault stopped => ?_⟩
  obtain ⟨count, width⟩ := exists_width sheet
  obtain ⟨before, check, after, split, clear, is_at, finds⟩ := (reports_discover width fault).mp stopped
  obtain ⟨of_table, of_sheet⟩ := is_at.of_sheet
  refine ⟨finds.kind, ⟨count, before, check, after, width, split, fun earlier passed problem wrong => ?_, finds, is_at⟩,
    fun table_filled sheet_filled => ?_⟩
  · obtain ⟨place, also_at⟩ := wrong.exists_isAt table
    exact clear earlier passed ⟨place, problem⟩ ⟨also_at, wrong⟩
  · rw [Location.text_of_sheet (of_table.trans_ne table_filled) (of_sheet.trans_ne sheet_filled), of_table, of_sheet]

end

end Tablesmith
