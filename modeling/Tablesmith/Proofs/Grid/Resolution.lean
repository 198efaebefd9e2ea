import Mathlib
import Tablesmith.Grid.Sheet
import Tablesmith.Proofs.Number.Digits
import Tablesmith.Proofs.OrderedBy
import Tablesmith.Proofs.Scan

/-!
# Sheets built cell by cell

A cell that is stored takes the place of the one at its position. So a sheet into which
cells are stored one after the other holds the last cell of every position, in the order
in which the positions were first used (`toList_foldl_push`). A cell of a shared text holds
an index into the table of shared texts. A sheet gets its texts cell by cell, and every cell
stays where it is: cells that stood at different positions still do, and a position finds the
cell that stands there (`Sheet.isGrid_of_resolves`). The first cell whose index names no text
stops it (`reports_resolveShared`).
-/

namespace Tablesmith.Grid

open Number Outcome Sheet

theorem foldl_push (cells : List Cell) (sheet : Sheet) :
    cells.foldl push sheet = ⟨sheet.file, sheet.name, cells.foldl OrderedBy.insert sheet.cells⟩ := by
  induction cells generalizing sheet with
  | nil => rfl
  | cons cell cells ih => exact ih (sheet.push cell)

/-- The last of some cells at a position. -/
def lastAt? (cells : List Cell) (position : Nat × Nat) : Option Cell :=
  cells.reverse.find? (·.position == position)

/-- The last cell of every position, in the order of the first ones. -/
def settled (cells : List Cell) : List Cell :=
  (cells.map Cell.position).eraseDups.filterMap (lastAt? cells)

theorem toList_foldl_push (cells : List Cell) (file name : String) :
    (cells.foldl push (.empty file name)).cells.toList = settled cells := by
  rw [foldl_push]
  exact OrderedBy.toList_foldl_insert_empty cells

theorem cell?_foldl_push (cells : List Cell) (file name : String) (row column : Nat) :
    (cells.foldl push (.empty file name)).cell? row column = lastAt? cells (row, column) := by
  rw [foldl_push, cell?, OrderedBy.find?_foldl_insert]
  exact (congrArg _ (OrderedBy.find?_empty _)).trans Option.or_none

variable {shared : List String} {sheet resolved : Sheet} {cell own : Cell} {text : String}

/-- The value of the cell is written as the index of the text in the table. -/
def Cell.Names (shared : List String) (cell : Cell) (text : String) : Prop :=
  ∃ index, WritesIndex cell.value index ∧ shared[index]? = some text

/-- The cell of a shared text names none. -/
def Cell.Dangles (shared : List String) (cell : Cell) : Prop :=
  cell.kind = .sharedText ∧ ∀ text, ¬ cell.Names shared text

/-- What becomes of a cell: a shared text is the cell's own text then, and every other cell is as it was. -/
inductive Cell.Resolves (shared : List String) (cell : Cell) : Cell → Prop
  | kept : cell.kind ≠ .sharedText → Resolves shared cell cell
  | named {text : String} : cell.kind = .sharedText → cell.Names shared text →
      Resolves shared cell { cell with kind := .inlineText, value := text }

theorem sharedText?_eq_some_iff :
    ((readIndex? cell.value).bind fun i => shared.toArray[i]?) = some text ↔ cell.Names shared text := by
  simp only [Option.bind_eq_some_iff, List.getElem?_toArray, readIndex?_eq_some_iff]
  rfl

theorem resolveCell_of_plain (plain : cell.kind ≠ .sharedText) : resolveCell shared.toArray cell = .ok cell := by
  unfold resolveCell
  split
  · next kind => exact absurd kind plain
  · rfl

theorem resolveCell_of_names (kind : cell.kind = .sharedText) (names : cell.Names shared text) :
    resolveCell shared.toArray cell = .ok { cell with kind := .inlineText, value := text } := by
  rw [resolveCell, kind, sharedText?_eq_some_iff.mpr names]

theorem resolveCell_of_dangles (dangles : cell.Dangles shared) :
    resolveCell shared.toArray cell = .error ⟨cell.reference, cell.value⟩ := by
  have missing : ((readIndex? cell.value).bind fun i => shared.toArray[i]?) = none :=
    Option.eq_none_iff_forall_ne_some.mpr fun text found => dangles.2 text (sharedText?_eq_some_iff.mp found)
  rw [resolveCell, dangles.1, missing]

/-- A cell is no shared text, or it names one, or it names none. -/
theorem Cell.resolves_or_dangles (shared : List String) (cell : Cell) :
    (∃ own, cell.Resolves shared own ∧ resolveCell shared.toArray cell = .ok own) ∨ cell.Dangles shared := by
  by_cases kind : cell.kind = .sharedText
  · by_cases names : ∃ text, cell.Names shared text
    · obtain ⟨text, names⟩ := names
      exact .inl ⟨_, .named kind names, resolveCell_of_names kind names⟩
    · exact .inr ⟨kind, not_exists.mp names⟩
  · exact .inl ⟨cell, .kept kind, resolveCell_of_plain kind⟩

theorem resolves_of_resolveCell (done : resolveCell shared.toArray cell = .ok own) : cell.Resolves shared own := by
  obtain ⟨other, resolves, given⟩ | dangles := cell.resolves_or_dangles shared
  · cases given.symm.trans done
    exact resolves
  · cases (resolveCell_of_dangles dangles).symm.trans done

/-- A cell becomes one thing at most. -/
theorem Cell.Resolves.unique (resolves : cell.Resolves shared own) {other : Cell} (also : cell.Resolves shared other) :
    other = own := by
  have done : ∀ {own : Cell}, cell.Resolves shared own → resolveCell shared.toArray cell = .ok own := by
    rintro _ (plain | ⟨kind, names⟩)
    · exact resolveCell_of_plain plain
    · exact resolveCell_of_names kind names
  exact Except.ok.inj ((done also).symm.trans (done resolves))

theorem resolveCell_error_iff {bad : BadSharedIndex} :
    resolveCell shared.toArray cell = .error bad ↔ cell.Dangles shared ∧ bad = ⟨cell.reference, cell.value⟩ := by
  constructor
  · intro failed
    obtain ⟨_, _, given⟩ | dangles := cell.resolves_or_dangles shared
    · cases given.symm.trans failed
    · cases (resolveCell_of_dangles dangles).symm.trans failed
      exact ⟨dangles, rfl⟩
  · rintro ⟨dangles, rfl⟩
    exact resolveCell_of_dangles dangles

theorem Cell.Resolves.position_eq (resolves : cell.Resolves shared own) : own.position = cell.position := by
  cases resolves <;> rfl

theorem Cell.Resolves.kind_ne (resolves : cell.Resolves shared own) (stored : cell.kind ≠ .empty) :
    own.kind ≠ .empty ∧ own.kind ≠ .sharedText := by
  cases resolves with
  | kept plain => exact ⟨stored, plain⟩
  | named => exact ⟨nofun, nofun⟩

/-- The sheet has the same cells but for their shared texts, in the same order. -/
structure Sheet.Resolves (shared : List String) (sheet resolved : Sheet) : Prop where
  file : resolved.file = sheet.file
  name : resolved.name = sheet.name
  cells : List.Forall₂ (Cell.Resolves shared) sheet.cells.toList resolved.cells.toList

/-- A sheet of cells that can be shown: no two stand at one position, every position finds the cell that stands there
and no other, and none is empty or names a shared text. -/
structure Sheet.IsGrid (sheet : Sheet) : Prop where
  distinct : (sheet.cells.toList.map Cell.position).Nodup
  found : ∀ row column cell, sheet.cell? row column = some cell ↔
    cell ∈ sheet.cells.toList ∧ cell.row = row ∧ cell.column = column
  missing : ∀ row column, sheet.cell? row column = none ↔
    ∀ cell ∈ sheet.cells.toList, ¬ (cell.row = row ∧ cell.column = column)
  kinds : ∀ cell ∈ sheet.cells.toList, cell.kind ≠ .empty ∧ cell.kind ≠ .sharedText

theorem position_eq_iff {row column : Nat} : cell.position = (row, column) ↔ cell.row = row ∧ cell.column = column :=
  Prod.mk_inj

theorem resolves_of_resolveShared (done : sheet.resolveShared shared.toArray = .ok resolved) :
    sheet.Resolves shared resolved := by
  obtain ⟨owns, converted, rfl⟩ := foldlM_map_ok_iff.mp done
  have cells : List.Forall₂ (Cell.Resolves shared) sheet.cells.toList owns :=
    converted.imp fun _ _ => resolves_of_resolveCell
  -- No two cells had one position, so each is stored behind the ones before it.
  have positions : owns.map Cell.position = sheet.cells.toList.map Cell.position :=
    map_eq_of_forall₂ (fun _ _ resolves => resolves.position_eq) cells
  have distinct : (owns.map Cell.position).Nodup := by
    rw [positions]
    exact sheet.cells.nodup_keys
  rw [foldl_push]
  refine ⟨rfl, rfl, ?_⟩
  have stored := OrderedBy.toList_foldl_insert owns (OrderedBy.empty : OrderedBy Cell.position) distinct
  exact stored ▸ cells

/-- The first cell that names no text is reported. -/
theorem reports_resolveShared (shared : List String) (sheet : Sheet) :
    Reports (fun cell bad => cell.Dangles shared ∧ bad = ⟨cell.reference, cell.value⟩) (sheet.resolveShared shared.toArray)
      sheet.cells.toList := by
  have reports (resolved : Sheet) (cell : Cell) :
      Reports (fun cell bad => cell.Dangles shared ∧ bad = ⟨cell.reference, cell.value⟩)
        ((resolveCell shared.toArray cell).map resolved.push) [cell] :=
    (reports_place fun _ => resolveCell_error_iff).map _
  have scanned := Reports.foldlM reports sheet.cells.toList (empty sheet.file sheet.name)
  rwa [List.flatMap_singleton'] at scanned

theorem isGrid_of_resolves (resolves : sheet.Resolves shared resolved)
    (stored : ∀ cell ∈ sheet.cells.toList, cell.kind ≠ .empty) : resolved.IsGrid where
  distinct := resolved.cells.nodup_keys
  found row column cell := by rw [cell?, OrderedBy.find?_eq_some_iff, position_eq_iff]
  missing row column := by simp only [cell?, OrderedBy.find?_eq_none_iff, ne_eq, position_eq_iff]
  kinds own member := by
    obtain ⟨cell, cell_member, becomes⟩ := exists_mem_of_forall₂ resolves.cells member
    exact becomes.kind_ne (stored cell cell_member)

end Tablesmith.Grid
