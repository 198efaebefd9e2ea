import Mathlib
import Tablesmith.Proofs.Extract.Cursor
import Tablesmith.Proofs.Schema.Discovery
import Tablesmith.Proofs.Schema.Headers
import Tablesmith.Schema.Inspector

/-!
# Inspectors discover

The cursor of an inspector is moved by column and by cell apart, and the last pass takes
the marks off the headers as it goes. Still the outcome is that of discovery, place and
all, wherever the inspector stood before, and unless it stops it stands on the sheet and
on no column or cell of it (`reads_inspect`).
-/

namespace Tablesmith

open Outcome Grid Text Discovery Extractor

section
variable {check : Nat → Option Fault}

/-- A fault stops, and without one there is nothing to tell. -/
def refuse : Option Fault → Except Fault Unit
  | some fault => .error fault
  | none => .ok ()

theorem firstFault_cons (start count : Nat) :
    firstFault check start (count + 1) = refuse (check start) >>= fun _ => firstFault check (start + 1) count := by
  rw [firstFault]
  cases check start <;> rfl

theorem firstFault_succ (start count : Nat) :
    firstFault check start (count + 1) = firstFault check start count >>= fun _ => refuse (check (start + count)) := by
  induction count generalizing start with
  | zero =>
    rw [firstFault_cons]
    cases check start <;> rfl
  | succ count ih =>
    have next : start + 1 + count = start + (count + 1) := by omega
    rw [firstFault_cons, ih, firstFault_cons, next]
    cases check start <;> rfl

/-- Values that are checked one by one are all there if no check finds a fault. -/
theorem tabulate?_of_checks {α : Type} (value : Nat → α) (count : Nat) :
    (tabulate? count fun place => (refuse (check place)).map fun _ => value place) =
      (firstFault check 0 count).map fun _ => Vector.ofFn fun place => value place := by
  induction count with
  | zero => rfl
  | succ count ih =>
    have earlier : (tabulate? count fun place => (refuse (check place.castSucc)).map fun _ => value place.castSucc) =
      (firstFault check 0 count).map fun _ => Vector.ofFn fun place => value place := ih
    rw [tabulate?, earlier, firstFault_succ, Nat.zero_add, Vector.ofFn_succ]
    cases firstFault check 0 count with
    | error fault => rfl
    | ok =>
      show ((refuse (check count)).map fun _ => value count) >>= _ = (refuse (check count)).map _
      cases check count <;> rfl

end

namespace Marks

variable {sheet : Sheet} {home : Location} {name : String} {count : Nat}

/-- The marks of a sheet when so many of its columns were passed. -/
def after (sheet : Sheet) (count passed : Nat) : Marks count where
  names := Vector.ofFn fun property => if property.val < passed then propertyName sheet property else rawName sheet property
  used := (List.range passed).map (propertyName sheet)
  primaryKey := ((List.finRange count).take passed).find? fun (property : Fin count) =>
    (Header.read (rawName sheet property)).role = .primaryKey
  foreignKeys := ((List.finRange count).take passed).filterMap fun (property : Fin count) =>
    match (Header.read (rawName sheet property)).role with
    | .reference table => some ⟨property, table⟩
    | _ => none

theorem start_eq : Marks.start (Vector.ofFn fun property : Fin count => rawName sheet property) = after sheet count 0 := rfl

/-- A column that was not passed yet has its header. -/
theorem get_after (property : Fin count) : (after sheet count property).names.get property = rawName sheet property := by
  rw [after, Vector.get_ofFn, if_neg (Nat.lt_irrefl _)]

theorem take_succ (property : Fin count) :
    (List.finRange count).take (property + 1) = (List.finRange count).take property ++ [property] := by
  rw [List.take_succ_eq_append_getElem (by simp), List.getElem_finRange]
  rfl

theorem add_after (property : Fin count) :
    (after sheet count property).add property (Header.read (rawName sheet property)) = after sheet count (property + 1) := by
  have names : (after sheet count property).names.set property (propertyName sheet property) =
      (after sheet count (property + 1)).names := by
    refine Vector.ext fun place inside => ?_
    rw [Vector.getElem_set, after, after, Vector.getElem_ofFn, Vector.getElem_ofFn]
    rcases Nat.lt_trichotomy property.val place with before | rfl | behind
    · rw [if_neg (by omega), if_neg (by simp only; omega), if_neg (by simp only; omega)]
    · rw [if_pos rfl, if_pos (by simp only; omega)]
    · rw [if_neg (by omega), if_pos (by simp only; omega), if_pos (by simp only; omega)]
  have used : (List.range property).map (propertyName sheet) ++ [propertyName sheet property] =
      (List.range (property + 1)).map (propertyName sheet) := by
    rw [List.range_succ, List.map_append, List.map_singleton]
  unfold add
  rw [Marks.mk.injEq]
  refine ⟨names, used, ?_, ?_⟩
  · simp only [after, take_succ, List.find?_append, List.find?_singleton]
    cases (Header.read (rawName sheet property)).role <;> simp
  · simp only [after, take_succ, List.filterMap_append]
    cases role : (Header.read (rawName sheet property)).role <;> simp [role]

/-- Passes a column if nothing is wrong with its mark. -/
def pass (home : Location) (name : String) (marks : Marks count) (property : Fin count) : Except Fault (Marks count) :=
  let raw := marks.names.get property
  let here := { home with column := raw, cell := reference Schema.propertyRow (Schema.gridColumn property) }
  let header := Header.read raw
  if (Header.splitMark? raw).isSome ∧ header.name = name then .error ⟨here, .propertyNamedAsSheet header.name⟩
  else if marks.used.contains header.name then .error ⟨here, .propertyRepeated header.name⟩
  else .ok (marks.add property header)

theorem name_eq_of_unmarked {raw : String} (unmarked : Header.splitMark? raw = none) : (Header.read raw).name = raw := by
  unfold Header.read
  split
  · rfl
  · rw [unmarked]

/-- A header is compared with the name of the sheet before, and so is a name without a mark. -/
theorem pass_after (property : Fin count) (unlike : rawName sheet property ≠ name) :
    pass home name (after sheet count property) property =
      (refuse (keyFault? sheet name home property)).map fun _ => after sheet count (property + 1) := by
  have as_sheet : (Header.splitMark? (rawName sheet property)).isSome ∧ propertyName sheet property = name ↔
      propertyName sheet property = name := by
    refine and_iff_right_of_imp fun same => ?_
    rw [Option.isSome_iff_ne_none]
    intro unmarked
    exact unlike ((name_eq_of_unmarked unmarked).symm.trans same)
  have used : (after sheet count property).used.contains (propertyName sheet property) =
      (List.range property).any fun earlier => propertyName sheet earlier = propertyName sheet property := by
    rw [Bool.eq_iff_iff, List.contains_iff_mem, List.any_eq_true, after, List.mem_map]
    simp only [decide_eq_true_eq]
  unfold pass keyFault? nameProblem?
  rw [get_after, ← add_after]
  change (if (Header.splitMark? (rawName sheet property)).isSome ∧ propertyName sheet property = name then _
    else if (after sheet count property).used.contains (propertyName sheet property) then _ else _) = _
  simp only [as_sheet, used]
  split
  · rfl
  · split
    · rfl
    · rfl

theorem foldlM_pass {passed : Nat} (inside : passed ≤ count) (unlike : ∀ property < count, rawName sheet property ≠ name) :
    ((List.finRange count).take passed).foldlM (pass home name) (after sheet count 0) =
      (firstFault (keyFault? sheet name home) 0 passed).map fun _ => after sheet count passed := by
  induction passed with
  | zero => rfl
  | succ passed ih =>
    rw [take_succ ⟨passed, inside⟩, List.foldlM_append, ih (by omega), firstFault_succ, Nat.zero_add]
    cases firstFault (keyFault? sheet name home) 0 passed with
    | error fault => rfl
    | ok =>
      have passes : pass home name (after sheet count passed) ⟨passed, inside⟩ =
          (refuse (keyFault? sheet name home passed)).map fun _ => after sheet count (passed + 1) :=
        pass_after ⟨passed, inside⟩ (unlike passed inside)
      show pass home name (after sheet count passed) ⟨passed, inside⟩ >>= .ok =
        (refuse (keyFault? sheet name home passed)).map _
      rw [passes]
      cases keyFault? sheet name home passed <;> rfl

/-- Behind the last column the marks say what the sheet says. -/
theorem after_all (sheet : Sheet) (count : Nat) :
    (after sheet count count).names = Vector.ofFn (fun property => propertyName sheet property) ∧
      (after sheet count count).primaryKey = primaryKey? sheet count ∧
      (after sheet count count).foreignKeys = Discovery.foreignKeys sheet count := by
  have all_columns : (List.finRange count).take count = List.finRange count := List.take_of_length_le (by simp)
  refine ⟨Vector.ext fun place inside => ?_, ?_, ?_⟩
  · rw [after, Vector.getElem_ofFn, Vector.getElem_ofFn, if_pos inside]
  · rw [after, all_columns]
    rfl
  · rw [after, all_columns]
    rfl

end Marks

namespace Inspector

variable {sheet : Sheet} {aliases : TypeAliases} {home : Location} {name : String}

/-- The place is on the sheet, and on no column of it. -/
def IsAcross (home place : Location) : Prop :=
  place = { home with cell := place.cell }

/-- The place is on the sheet. -/
def IsWithin (home place : Location) : Prop :=
  place = { home with column := place.column, cell := place.cell }

theorem IsAcross.isWithin {place : Location} (across : IsAcross home place) : IsWithin home place := by
  rw [across]
  rfl

theorem reads_return {α : Type} {behind : Location → Prop} {place : Location} (result : α) (arrives : behind place) :
    Reads (· = place) behind (pure result : Extracting Unit α) fun _ => .ok result :=
  (reads_pure result).weaken (fun _ here => here) fun _ here => here ▸ arrives

theorem reads_enterReference (cell : String) : Reads (IsAcross home) (· = { home with cell := cell })
    (enterReference cell : Extracting Unit Unit) fun _ => .ok () := by
  refine reads_move fun place here => ?_
  rw [here]

theorem reads_enterBoth {α : Type} {behind : Location → Prop} {call : Extracting Unit α} {outcome : Unit → Except Fault α}
    (column cell : String) (reads : Reads (· = { home with column := column, cell := cell }) behind call outcome) :
    Reads (IsWithin home) behind
      (do
        enterColumn column
        enterReference cell
        call)
      outcome := by
  have in_column : Reads (IsWithin home) (fun place => place = { home with column := column, cell := place.cell })
      (enterColumn column : Extracting Unit Unit) fun _ => .ok () := by
    refine reads_move fun place here => ?_
    rw [here]
  refine (reads.following (reads_move ?_)).following in_column
  intro place here
  rw [here]

theorem reads_tabulate {α : Type} {before : Location → Prop} {n : Nat} {call : Fin n → Extracting Unit α}
    {outcome : Fin n → Except Fault α} (reads : ∀ place, Reads before before (call place) fun _ => outcome place) :
    Reads before before (tabulate n call) fun _ => tabulate? n outcome := by
  induction n with
  | zero => exact reads_pure _
  | succ n ih =>
    refine (ih fun place => reads place.castSucc).bind fun earlier => ?_
    exact (reads (Fin.last n)).bind fun last => reads_pure _

theorem reads_readName : Reads (IsAcross home) (IsAcross home) (readName sheet) fun _ => sheetName sheet home := by
  refine Reads.following ?_ (reads_enterReference _)
  unfold sheetName
  by_cases named : sheet.isText Schema.nameRow Schema.nameColumn ∧ ¬isAllBlank (sheet.text Schema.nameRow Schema.nameColumn)
  · simp only [named]
    exact reads_return _ rfl
  · simp only [named]
    exact reads_fail _

theorem reads_readRange (no_cell : home.cell = "") :
    Reads (IsAcross home) (IsAcross home) (readRange sheet) fun _ => Discovery.range sheet home := by
  have nowhere : Reads (IsAcross home) (· = home) (enterReference "" : Extracting Unit Unit) fun _ => .ok () :=
    (reads_enterReference "").weaken (fun _ here => here) fun place here => by rw [here, ← no_cell]
  have missing : Reads (IsAcross home) (IsAcross home) (enterReference "" >>= fun _ => fail .markerMissing)
      fun _ => (.error ⟨home, .markerMissing⟩ : Except Fault Discovery.Range) := (reads_fail _).following nowhere
  unfold readRange Discovery.range
  rcases (markedColumns sheet).head? with _ | opening
  · exact missing
  rcases (markedColumns sheet).getLast? with _ | closing
  · exact missing
  by_cases single : closing ≤ opening
  · simp only [single, ↓reduceIte]
    exact (reads_fail _).following (reads_enterReference _)
  · simp only [single, ↓reduceIte]
    exact reads_pure _

theorem reads_readHeader (property : Nat) : Reads (IsAcross home) (IsAcross home) (readHeader sheet name property)
    fun _ => (refuse (headerFault? sheet name home property)).map fun _ => rawName sheet property := by
  refine Reads.following ?_ (reads_enterReference _)
  unfold headerFault?
  dsimp only
  cases headerProblem? (rawName sheet property) name with
  | some problem => exact reads_fail problem
  | none => exact reads_return _ rfl

theorem reads_readType (property : Nat) : Reads (IsWithin home) (IsWithin home)
    (readType sheet aliases (rawName sheet property) property) fun _ => propertyType sheet aliases home property := by
  refine reads_enterBoth _ _ ?_
  unfold propertyType
  by_cases is_text : sheet.isText Schema.typeRow (Schema.gridColumn property) = true
  · simp only [is_text, ↓reduceIte]
    cases aliases.resolve (sheet.text Schema.typeRow (Schema.gridColumn property)) with
    | some type => exact reads_return _ rfl
    | none => exact reads_fail _
  · simp only [is_text]
    exact reads_fail _

theorem reads_readMark {count : Nat} (marks : Marks count) (property : Fin count) :
    Reads (IsWithin home) (IsWithin home) (readMark name marks property) fun _ => marks.pass home name property := by
  refine reads_enterBoth _ _ ?_
  unfold Marks.pass
  dsimp only
  split
  · exact reads_fail _
  · split
    · exact reads_fail _
    · exact reads_return _ rfl

/-- What a pass finds is known once its checks are passed. -/
theorem reads_bind_checked {α β : Type} {before middle behind : Location → Prop} {call : Extracting Unit α}
    {checked : Except Fault Unit} {value : α} {next : α → Extracting Unit β} {following : Except Fault β}
    (first : Reads before middle call fun _ => checked.map fun _ => value)
    (second : checked = .ok () → Reads middle behind (next value) fun _ => following) :
    Reads before behind (call >>= next) fun _ => checked >>= fun _ => following := by
  intro kept place here
  obtain ⟨last, called, arrived⟩ := first kept place here
  cases done : checked with
  | error fault =>
    rw [done] at called
    exact ⟨last, Steps.run_bind_error called, nofun⟩
  | ok =>
    rw [done] at called arrived
    rw [Steps.run_bind_ok called]
    exact second done kept last (arrived ⟨value, rfl⟩)

/-- Headers are all there if nothing is wrong with any of them, -/
theorem reads_headers (count : Nat) : Reads (IsAcross home) (IsAcross home)
    (tabulate count fun property => readHeader sheet name property)
    fun _ => (firstFault (headerFault? sheet name home) 0 count).map fun _ =>
      Vector.ofFn fun property => rawName sheet property := by
  rw [← tabulate?_of_checks]
  exact reads_tabulate fun property => reads_readHeader property.val

/-- and so are the names that they leave. -/
theorem reads_marks {count : Nat} (unlike : ∀ property < count, rawName sheet property ≠ name) :
    Reads (IsWithin home) (IsWithin home)
      ((List.finRange count).foldlM (readMark name) (.start (Vector.ofFn fun property => rawName sheet property)))
      fun _ => (firstFault (keyFault? sheet name home) 0 count).map fun _ => Marks.after sheet count count := by
  have all_columns : (List.finRange count).take count = List.finRange count := List.take_of_length_le (by simp)
  rw [← Marks.foldlM_pass (Nat.le_refl count) unlike, all_columns, Marks.start_eq]
  exact Reads.foldlM reads_readMark _ _

theorem schemaOf_marks (table : String) (range : Range) (types : Vector PropertyType range.columnCount) :
    (⟨table, name, rowCount sheet range, range.columnCount,
      Vector.ofFn fun property =>
        ⟨(Marks.after sheet range.columnCount range.columnCount).names.get property, types.get property,
          description sheet property⟩,
      (Marks.after sheet range.columnCount range.columnCount).primaryKey,
      (Marks.after sheet range.columnCount range.columnCount).foreignKeys, sheet⟩ : Schema) =
      schemaOf table sheet name range types := by
  obtain ⟨names, primary_key, foreign_keys⟩ := Marks.after_all sheet range.columnCount
  rw [names, primary_key, foreign_keys]
  simp only [Vector.get_ofFn]
  rfl

/-- An inspector finds what discovery finds, wherever it stood before, and without a fault it stands on the sheet. -/
theorem reads_inspect (table : String) (sheet : Sheet) (aliases : TypeAliases) :
    Reads (fun _ => True) (· = Location.ofSheet table sheet.name) (inspect table sheet aliases)
      fun _ => Schema.discover table sheet aliases := by
  have entered : Reads (fun _ => True) (IsAcross (Location.ofSheet table sheet.name))
      (move fun _ => Location.ofSheet table sheet.name : Extracting Unit Unit) fun _ => .ok () :=
    reads_move fun _ _ => rfl
  have left (schema : Schema) : Reads (IsWithin (Location.ofSheet table sheet.name)) (· = Location.ofSheet table sheet.name)
      (do
        enterColumn ""
        enterReference ""
        return schema) fun _ => .ok schema :=
    reads_enterBoth _ _ (reads_return _ rfl)
  refine Reads.following (reads_readName.bind fun name => (reads_readRange rfl).bind fun range => ?_) entered
  refine reads_bind_checked ((reads_headers range.columnCount).weaken (fun _ here => here) fun _ => IsAcross.isWithin)
    fun headed => ?_
  have unlike (property : Nat) (inside : property < range.columnCount) : rawName sheet property ≠ name :=
    (headerFault?_eq_none_iff.mp (firstFault_ok_iff.mp headed property (Nat.zero_le _) (by simpa using inside))).2.2
  simp only [Vector.get_ofFn]
  refine (reads_tabulate fun property => reads_readType property.val).bind fun types => ?_
  refine reads_bind_checked (reads_marks unlike) fun _ => ?_
  rw [schemaOf_marks]
  exact left _

end Inspector

end Tablesmith
