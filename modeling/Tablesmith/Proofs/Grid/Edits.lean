import Mathlib
import Tablesmith.Proofs.Grid.Resolution

/-!
# Sheets that are edited

A sheet is filled by storing cells, texts and numbers, and each of these edits stores one
cell. Whatever the edits were, a position finds the last cell that was stored there, the
cells are listed in the order in which their positions were first used, and a row is read from
left to right (`reflects_edited`).
-/

namespace Tablesmith.Grid

open Sheet

/-- What can be done to a sheet. -/
inductive Edit
  | push (cell : Cell)
  | setText (row column : Nat) (value : String)
  | setNumber (row column : Nat) (value : String)

/-- The cell that an edit stores. -/
def Edit.cell : Edit → Cell
  | push cell => cell
  | setText row column value => ⟨row, column, .inlineText, value⟩
  | setNumber row column value => ⟨row, column, .number, value⟩

/-- The sheet after an edit. -/
def Edit.apply (sheet : Sheet) : Edit → Sheet
  | push cell => sheet.push cell
  | setText row column value => sheet.setText row column value
  | setNumber row column value => sheet.setNumber row column value

/-- A new sheet after some edits. -/
def edited (file name : String) (edits : List Edit) : Sheet :=
  edits.foldl Edit.apply (Sheet.empty file name)

theorem Edit.apply_eq (sheet : Sheet) (edit : Edit) : edit.apply sheet = sheet.push edit.cell := by
  cases edit <;> rfl

theorem edited_eq (file name : String) (edits : List Edit) :
    edited file name edits = (edits.map Edit.cell).foldl push (.empty file name) := by
  rw [edited, List.foldl_map]
  exact congrArg (fun step => edits.foldl step _) (funext₂ Edit.apply_eq)

/-- None of the cells that are stored behind the cell is stored in its place. -/
def IsLast (cells : List Cell) (cell : Cell) : Prop :=
  ∃ before after, cells = before ++ cell :: after ∧ ∀ later ∈ after, later.position ≠ cell.position

/-- How many cells are stored before the first one at the position of a cell. -/
def firstUse (cells : List Cell) (cell : Cell) : Nat :=
  (cells.map Cell.position).idxOf cell.position

variable {cells : List Cell} {cell : Cell} {position : Nat × Nat}

theorem lastAt?_eq_some_iff : lastAt? cells position = some cell ↔ IsLast cells cell ∧ cell.position = position := by
  rw [lastAt?, List.find?_eq_some_iff_append]
  constructor
  · rintro ⟨same, behind, before, reversed, apart⟩
    have here : cell.position = position := beq_iff_eq.mp same
    subst here
    refine ⟨⟨before.reverse, behind.reverse, ?_, ?_⟩, rfl⟩
    · simpa using congrArg List.reverse reversed
    · intro later member
      simpa using apart later (List.mem_reverse.mp member)
  · rintro ⟨⟨before, after, rfl, apart⟩, rfl⟩
    refine ⟨beq_self_eq_true _, after.reverse, before.reverse, by simp, ?_⟩
    intro later member
    simpa using apart later (List.mem_reverse.mp member)

theorem lastAt?_eq_none_iff : lastAt? cells position = none ↔ ∀ cell ∈ cells, cell.position ≠ position := by
  simp [lastAt?]

theorem IsLast.mem (last : IsLast cells cell) : cell ∈ cells := by
  obtain ⟨before, after, rfl, -⟩ := last
  simp

theorem mem_settled_iff : cell ∈ settled cells ↔ IsLast cells cell := by
  rw [settled, List.mem_filterMap]
  constructor
  · rintro ⟨position, -, found⟩
    exact (lastAt?_eq_some_iff.mp found).1
  · intro last
    exact ⟨cell.position, List.mem_eraseDups.mpr (List.mem_map_of_mem last.mem), lastAt?_eq_some_iff.mpr ⟨last, rfl⟩⟩

/-- What is left of a list without repetitions stands in the order of its first places. -/
theorem pairwise_idxOf_eraseDups (positions : List (Nat × Nat)) :
    positions.eraseDups.Pairwise fun one other => positions.idxOf one < positions.idxOf other := by
  induction positions using List.reverseRecOn with
  | nil => simp
  | append_singleton positions last ih =>
    have kept : positions.eraseDups.Pairwise fun one other =>
        (positions ++ [last]).idxOf one < (positions ++ [last]).idxOf other := by
      refine ih.imp_of_mem fun {one other} one_member other_member before => ?_
      rw [List.mem_eraseDups] at one_member other_member
      rwa [List.idxOf_append_of_mem one_member, List.idxOf_append_of_mem other_member]
    rw [List.eraseDups_append]
    by_cases known : last ∈ positions
    · simpa [known, List.removeAll] using kept
    · have first_use : (positions ++ [last]).idxOf last = positions.length := by
        rw [List.idxOf_append_of_notMem known, List.idxOf_cons_self, Nat.add_zero]
      have alone : ([last].removeAll positions).eraseDups = [last] := by
        simp [known, List.removeAll, List.eraseDups_cons]
      rw [alone, List.pairwise_append]
      refine ⟨kept, List.pairwise_singleton _ _, fun one member other is_last => ?_⟩
      rw [List.mem_eraseDups] at member
      rw [List.mem_singleton.mp is_last, first_use, List.idxOf_append_of_mem member]
      exact List.idxOf_lt_length_of_mem member

theorem pairwise_settled (cells : List Cell) :
    (settled cells).Pairwise fun one other => firstUse cells one < firstUse cells other := by
  rw [settled, List.pairwise_filterMap]
  refine (pairwise_idxOf_eraseDups (cells.map Cell.position)).imp fun before one one_found other other_found => ?_
  obtain ⟨-, rfl⟩ := lastAt?_eq_some_iff.mp one_found
  obtain ⟨-, rfl⟩ := lastAt?_eq_some_iff.mp other_found
  exact before

-- The cell that replaces another takes its place in the order.
example : settled [⟨0, 1, .number, "1"⟩, ⟨0, 0, .number, "2"⟩, ⟨0, 1, .number, "3"⟩] =
    [⟨0, 1, .number, "3"⟩, ⟨0, 0, .number, "2"⟩] := by cbv

variable {sheet : Sheet}

theorem mem_row_iff {row : Nat} : cell ∈ sheet.row row ↔ cell ∈ sheet.cells.toList ∧ cell.row = row := by
  rw [Sheet.row, List.mem_mergeSort, List.mem_filter, decide_eq_true_eq]

/-- Of the cells of a row no two are in one column, so each is left of the next. -/
theorem pairwise_row (sheet : Sheet) (row : Nat) : (sheet.row row).Pairwise (·.column < ·.column) := by
  have sorted : (sheet.row row).Pairwise fun left right => decide (left.column ≤ right.column) = true := by
    apply List.pairwise_mergeSort
    · intro left middle right
      simp only [decide_eq_true_eq]
      exact Nat.le_trans
    · intro left right
      simpa using Nat.le_total left.column right.column
  have apart : (sheet.row row).Pairwise fun left right => left.position ≠ right.position := by
    have stored : sheet.cells.toList.Pairwise fun left right => left.position ≠ right.position :=
      List.pairwise_map.mp sheet.cells.nodup_keys
    exact (List.mergeSort_perm _ _).symm.pairwise (stored.filter _) (fun different => different.symm)
  refine (sorted.and apart).imp_of_mem fun {left right} left_member right_member ⟨below, different⟩ => ?_
  have same_row : left.row = right.row := (mem_row_iff.mp left_member).2.trans (mem_row_iff.mp right_member).2.symm
  have other_column : left.column ≠ right.column := fun same => different (Prod.ext same_row same)
  exact Nat.lt_of_le_of_ne (of_decide_eq_true below) other_column

/-- The sheet is the map that stores the last cell of every position, and keeps the order in which the positions were
first used. -/
structure Reflects (cells : List Cell) (sheet : Sheet) : Prop where
  found : ∀ row column cell, sheet.cell? row column = some cell ↔
    IsLast cells cell ∧ cell.row = row ∧ cell.column = column
  missing : ∀ row column, sheet.cell? row column = none ↔ ∀ cell ∈ cells, ¬ (cell.row = row ∧ cell.column = column)
  listed : ∀ cell, cell ∈ sheet.cells.toList ↔ IsLast cells cell
  used : ∀ position, position ∈ sheet.cells.toList.map Cell.position ↔ position ∈ cells.map Cell.position
  distinct : (sheet.cells.toList.map Cell.position).Nodup
  in_order : sheet.cells.toList.Pairwise fun one other => firstUse cells one < firstUse cells other
  row_listed : ∀ row cell, cell ∈ sheet.row row ↔ cell ∈ sheet.cells.toList ∧ cell.row = row
  row_rises : ∀ row, (sheet.row row).Pairwise (·.column < ·.column)

/-- Whatever is done to a new sheet, it reflects the cells that were stored, in their order. -/
theorem reflects_edited (file name : String) (edits : List Edit) :
    Reflects (edits.map Edit.cell) (edited file name edits) := by
  have listed := toList_foldl_push (edits.map Edit.cell) file name
  have found := cell?_foldl_push (edits.map Edit.cell) file name
  rw [edited_eq]
  refine ⟨?_, ?_, ?_, ?_, OrderedBy.nodup_keys _, ?_, fun row cell => mem_row_iff, pairwise_row _⟩
  · intro row column cell
    rw [found, lastAt?_eq_some_iff, position_eq_iff]
  · intro row column
    simp only [found, lastAt?_eq_none_iff, ne_eq, position_eq_iff]
  · intro cell
    rw [listed, mem_settled_iff]
  · intro position
    rw [foldl_push]
    show position ∈ ((edits.map Edit.cell).foldl OrderedBy.insert OrderedBy.empty).toList.map Cell.position ↔ _
    rw [OrderedBy.map_key_foldl_insert, List.mem_eraseDups]
  · rw [listed]
    exact pairwise_settled _

end Tablesmith.Grid
