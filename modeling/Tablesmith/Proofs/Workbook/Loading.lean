import Mathlib
import Tablesmith.Proofs.Biff.Book
import Tablesmith.Proofs.Ooxml.Package
import Tablesmith.Proofs.Workbook.Kinds

/-!
# Loaded workbooks

The bytes of a workbook hold sheets and a table of shared texts (`Contains`). What is
loaded are these sheets with their texts, each of them a grid of cells that can be shown,
and a cell that names no text of the table keeps the workbook from being loaded
(`ofBytes_loads_grids`).
-/

namespace Tablesmith.Workbook

open Grid Outcome

variable {path : String} {bytes : List UInt8} {sheets : List Sheet} {shared : List String} {workbook : Workbook}

/-- The bytes hold the sheets and the shared texts, in the format that the path tells. -/
def Contains (path : String) (bytes : List UInt8) (sheets : List Sheet) (shared : List String) : Prop :=
  ∃ format, (Path.extension? path).bind WorkbookFormat.ofExtension? = some format ∧
    format.read path bytes = .ok (sheets, shared)

/-- The cells of all sheets, in order. -/
def cellsOf (sheets : List Sheet) : List (Sheet × Cell) :=
  sheets.flatMap fun sheet => sheet.cells.toList.map fun cell => (sheet, cell)

/-- Of all cells that name no shared text the cell of the sheet comes first. -/
def FirstDangling (shared : List String) (sheets : List Sheet) (sheet : Sheet) (cell : Cell) : Prop :=
  ∃ before after, cellsOf sheets = before ++ (sheet, cell) :: after ∧
    (∀ earlier ∈ before, ¬ earlier.2.Dangles shared) ∧ cell.Dangles shared

/-- The fault of a cell that names no shared text. -/
def danglingFault (path : String) (sheet : Sheet) (cell : Cell) : WorkbookFault :=
  .sharedIndex path sheet.name ⟨cell.reference, cell.value⟩

theorem mem_cellsOf_iff {sheet : Sheet} {cell : Cell} :
    (sheet, cell) ∈ cellsOf sheets ↔ sheet ∈ sheets ∧ cell ∈ sheet.cells.toList := by
  simp only [cellsOf, List.mem_flatMap, List.mem_map, Prod.mk.injEq]
  constructor
  · rintro ⟨_, member, _, stored, rfl, rfl⟩
    exact ⟨member, stored⟩
  · rintro ⟨member, stored⟩
    exact ⟨sheet, member, cell, stored, rfl, rfl⟩

theorem Contains.isTyped (contains : Contains path bytes sheets shared) :
    sheets ≠ [] ∧ ∀ sheet ∈ sheets, sheet.IsTyped := by
  obtain ⟨format, _, read⟩ := contains
  exact WorkbookFormat.read_isTyped read

theorem resolves_of_resolveSheet {sheet resolved : Sheet} (done : resolveSheet path shared.toArray sheet = .ok resolved) :
    sheet.Resolves shared resolved :=
  resolves_of_resolveShared (mapError_ok_iff.mp done)

/-- The first cell that names no text is reported, whatever sheet it is in. -/
theorem reports_resolveSheets (path : String) (shared : List String) (sheets : List Sheet) :
    Reports (fun place fault => place.2.Dangles shared ∧ fault = danglingFault path place.1 place.2)
      (sheets.mapM (resolveSheet path shared.toArray)) (cellsOf sheets) := by
  refine Reports.mapM (fun sheet fault => ?_) sheets
  have reports := (reports_resolveShared shared sheet).mapError (WorkbookFault.sharedIndex path sheet.name) fault
  simpa only [resolveSheet, firstOffence_map_iff, danglingFault, and_assoc, exists_and_left, exists_eq_left] using reports

theorem ofBytes_of_contains (contains : Contains path bytes sheets shared) :
    ofBytes path bytes = (sheets.mapM (resolveSheet path shared.toArray)).map (Workbook.mk path) := by
  obtain ⟨format, known, read⟩ := contains
  exact ofBytes_of_read known read

theorem contains_of_ofBytes (loaded : ofBytes path bytes = .ok workbook) :
    ∃ sheets shared, Contains path bytes sheets shared ∧
      sheets.mapM (resolveSheet path shared.toArray) = .ok workbook.sheets := by
  unfold ofBytes at loaded
  split at loaded
  · cases loaded
  · next format known =>
    obtain ⟨⟨sheets, shared⟩, read, loaded⟩ := bind_ok_iff.mp loaded
    obtain ⟨resolved, done, given⟩ := bind_ok_iff.mp loaded
    cases given
    exact ⟨sheets, shared, ⟨format, known, read⟩, done⟩

theorem path_of_ofBytes (loaded : ofBytes path bytes = .ok workbook) : workbook.path = path := by
  unfold ofBytes at loaded
  split at loaded
  · cases loaded
  · obtain ⟨_, _, loaded⟩ := bind_ok_iff.mp loaded
    obtain ⟨_, _, given⟩ := bind_ok_iff.mp loaded
    cases given
    rfl

/-- Nothing but a cell that names no text keeps sheets that were read from being loaded, and the first such cell does. -/
theorem ofBytes_error_iff (contains : Contains path bytes sheets shared) {fault : WorkbookFault} :
    ofBytes path bytes = .error fault ↔
      ∃ sheet cell, FirstDangling shared sheets sheet cell ∧ fault = danglingFault path sheet cell := by
  rw [ofBytes_of_contains contains, (reports_resolveSheets path shared sheets).map (Workbook.mk path) fault]
  constructor
  · rintro ⟨before, ⟨sheet, cell⟩, after, split, clear, dangles, rfl⟩
    refine ⟨sheet, cell, ⟨before, after, split, ?_, dangles⟩, rfl⟩
    intro earlier passed earlier_dangles
    exact clear earlier passed _ ⟨earlier_dangles, rfl⟩
  · rintro ⟨sheet, cell, ⟨before, after, split, clear, dangles⟩, rfl⟩
    refine ⟨before, (sheet, cell), after, split, ?_, dangles, rfl⟩
    rintro earlier passed _ ⟨earlier_dangles, -⟩
    exact clear earlier passed earlier_dangles

theorem exists_firstDangling_iff : (∃ sheet cell, FirstDangling shared sheets sheet cell) ↔
    ∃ sheet ∈ sheets, ∃ cell ∈ sheet.cells.toList, cell.Dangles shared := by
  constructor
  · rintro ⟨sheet, cell, before, after, split, -, dangles⟩
    obtain ⟨member, stored⟩ := mem_cellsOf_iff.mp (split ▸ List.mem_append_right before List.mem_cons_self)
    exact ⟨sheet, member, cell, stored, dangles⟩
  · rintro ⟨sheet, member, cell, stored, dangles⟩
    have offending : ∃ place ∈ cellsOf sheets, ∃ _ : Unit, place.2.Dangles shared :=
      ⟨(sheet, cell), mem_cellsOf_iff.mpr ⟨member, stored⟩, (), dangles⟩
    obtain ⟨_, before, ⟨first_sheet, first⟩, after, split, clear, first_dangles⟩ := exists_firstOffence offending
    exact ⟨first_sheet, first, before, after, split, fun earlier passed => clear earlier passed (), first_dangles⟩

/-- What sheets become that were read is a grid each, and there are as many. -/
theorem Contains.grids {resolved : List Sheet} (contains : Contains path bytes sheets shared)
    (resolves : List.Forall₂ (Sheet.Resolves shared) sheets resolved) :
    resolved ≠ [] ∧ ∀ sheet ∈ resolved, sheet.IsGrid := by
  obtain ⟨some_sheet, typed⟩ := contains.isTyped
  constructor
  · rintro rfl
    exact some_sheet (List.forall₂_nil_right_iff.mp resolves)
  · intro sheet member
    obtain ⟨read, read_member, becomes⟩ := exists_mem_of_forall₂ resolves member
    exact isGrid_of_resolves becomes (typed read read_member)

/-- A workbook that is loaded has at least one sheet, and every sheet of it is a grid of the cells that the bytes
hold with their own texts. Where a cell names no shared text nothing is loaded, and the first such cell is named;
where every cell names one the workbook is loaded. -/
theorem ofBytes_loads_grids (path : String) (bytes : List UInt8) :
    (∀ workbook, ofBytes path bytes = .ok workbook →
      workbook.sheets ≠ [] ∧ (∀ sheet ∈ workbook.sheets, sheet.IsGrid) ∧
      ∃ sheets shared, Contains path bytes sheets shared ∧
        List.Forall₂ (Sheet.Resolves shared) sheets workbook.sheets) ∧
    ∀ sheets shared, Contains path bytes sheets shared →
      ((∃ sheet ∈ sheets, ∃ cell ∈ sheet.cells.toList, cell.Dangles shared) →
        ∃ sheet cell, FirstDangling shared sheets sheet cell ∧
          ofBytes path bytes = .error (danglingFault path sheet cell)) ∧
      ((∀ sheet ∈ sheets, ∀ cell ∈ sheet.cells.toList, ¬ cell.Dangles shared) →
        ∃ workbook, ofBytes path bytes = .ok workbook) := by
  constructor
  · intro workbook loaded
    obtain ⟨sheets, shared, contains, done⟩ := contains_of_ofBytes loaded
    have resolves : List.Forall₂ (Sheet.Resolves shared) sheets workbook.sheets :=
      (mapM_ok_iff.mp done).imp fun _ _ => resolves_of_resolveSheet
    obtain ⟨some_sheet, grids⟩ := contains.grids resolves
    exact ⟨some_sheet, grids, sheets, shared, contains, resolves⟩
  · intro sheets shared contains
    constructor
    · intro dangling
      obtain ⟨sheet, cell, first⟩ := exists_firstDangling_iff.mpr dangling
      exact ⟨sheet, cell, first, (ofBytes_error_iff contains).mpr ⟨sheet, cell, first, rfl⟩⟩
    · intro clear
      cases outcome : ofBytes path bytes with
      | ok workbook => exact ⟨workbook, rfl⟩
      | error fault =>
        obtain ⟨sheet, cell, first, -⟩ := (ofBytes_error_iff contains).mp outcome
        obtain ⟨sheet, member, cell, stored, dangles⟩ := exists_firstDangling_iff.mp ⟨sheet, cell, first⟩
        exact absurd dangles (clear sheet member cell stored)

theorem Contains.unique (contains : Contains path bytes sheets shared) {others : List Sheet} {texts : List String}
    (also : Contains path bytes others texts) : others = sheets ∧ texts = shared := by
  obtain ⟨format, known, read⟩ := contains
  obtain ⟨other, known_other, read_other⟩ := also
  cases known.symm.trans known_other
  cases read.symm.trans read_other
  exact ⟨rfl, rfl⟩

/-- The workbook has one sheet, and in it there is this cell alone. -/
def Shows (workbook : Workbook) (cell : Cell) : Prop :=
  ∃ sheet, workbook.sheets = [sheet] ∧ sheet.IsGrid ∧ sheet.cells.toList = [cell]

theorem shows_of_resolves {sheet : Sheet} {cell own : Cell} (alone : sheet.cells.toList = [cell])
    (becomes : cell.Resolves shared own) (grids : ∀ sheet ∈ workbook.sheets, sheet.IsGrid)
    (resolves : List.Forall₂ (Sheet.Resolves shared) [sheet] workbook.sheets) : Shows workbook own := by
  obtain ⟨resolved, _, resolved_sheet, nothing, is_sheets⟩ := List.forall₂_cons_left_iff.mp resolves
  cases nothing
  refine ⟨resolved, is_sheets, grids resolved (is_sheets ▸ List.mem_singleton_self _), ?_⟩
  have cells := resolved_sheet.cells
  rw [alone] at cells
  obtain ⟨other, _, other_becomes, nothing, is_cells⟩ := List.forall₂_cons_left_iff.mp cells
  cases nothing
  rw [is_cells, becomes.unique other_becomes]

section
open Biff Ooxml Xml Zip

/-- The relationships of a workbook with one sheet, its tab, and a worksheet with 7 in B2 as a value of some type. -/
def sampleRelations : List UInt8 :=
  name "<r><Relationship Id=\"a\" Target=\"worksheets/sheet1.xml\"/></r>"

def sampleTabs : List UInt8 :=
  name "<w><sheet name=\"Item\" r:id=\"a\"/></w>"

def sampleWorksheet (type : String) : List UInt8 :=
  name ("<w><c r=\"B2\" t=\"" ++ type ++ "\"><v>7</v></c></w>")

def samplePackage (type : String) : List UInt8 :=
  store (filesOf sampleRelations sampleTabs (sampleWorksheet type))

/-- The sheet of a sample, with one cell. -/
def sampleSheet (file : String) (cell : Cell) : Sheet :=
  (Sheet.empty file "Item").push cell

theorem cells_sampleSheet (file : String) (cell : Cell) : (sampleSheet file cell).cells.toList = [cell] :=
  OrderedBy.toList_insert_of_new (OrderedBy.find?_empty _)

theorem contains_samplePackage {type : String} {cell : Cell} (short : (sampleWorksheet type).length < 256 ^ 2)
    (whole : (Document.ofBytes (sampleWorksheet type) false).isWhole = true)
    (stored : Worksheet.stored #[] (Worksheet.start (.empty "Items.xlsx" "Item"))
      (Document.ofBytes (sampleWorksheet type) false).events = .ok [cell]) :
    Contains "Items.xlsx" (samplePackage type) [sampleSheet "Items.xlsx" cell] [] := by
  have lengths : sampleRelations.length < 256 ∧ sampleTabs.length < 256 := by decide +kernel
  have relations_read : readPart Relationships.step [] (.ofBytes sampleRelations false) = .ok [("a", worksheetPart)] := by
    decide +kernel
  have tabs_read : readPart (Tabs.step [("a", worksheetPart)]) Tabs.start (.ofBytes sampleTabs false) =
      .ok ⟨.from1900, [⟨"Item", worksheetPart⟩]⟩ := by
    decide +kernel
  have read : readPackage "Items.xlsx" (samplePackage type) = .ok ([sampleSheet "Items.xlsx" cell], []) :=
    readPackage_filesOf (by omega) relations_read tabs_read whole stored
  exact ⟨.package, rfl, read⟩

theorem contains_sampleBook :
    Contains "Items.xls" sampleBookPieces.flatten [sampleSheet "Items.xls" ⟨1, 1, .sharedText, "0"⟩] ["ok"] :=
  ⟨.book, rfl, readBook_sampleBook "Items.xls"⟩

/-- Of two packages without shared texts the one is loaded in which the cell has a text of its own; in the other the cell
keeps the workbook from being loaded. A book is loaded with its shared text in place of the index. -/
theorem ofBytes_three_workbooks :
    ofBytes "Items.xlsx" (samplePackage "s") = .error (.sharedIndex "Items.xlsx" "Item" ⟨"B2", "7"⟩) ∧
      (∃ workbook, ofBytes "Items.xlsx" (samplePackage "str") = .ok workbook ∧ Shows workbook ⟨1, 1, .inlineText, "7"⟩) ∧
      ∃ workbook, ofBytes "Items.xls" sampleBookPieces.flatten = .ok workbook ∧
        Shows workbook ⟨1, 1, .inlineText, "ok"⟩ := by
  refine ⟨?dangling, ?plain, ?shared⟩
  case dangling =>
    have contains : Contains "Items.xlsx" (samplePackage "s") [sampleSheet "Items.xlsx" ⟨1, 1, .sharedText, "7"⟩] [] :=
      contains_samplePackage (by decide +kernel) (by decide +kernel) (by decide +kernel)
    have alone := cells_sampleSheet "Items.xlsx" ⟨1, 1, .sharedText, "7"⟩
    have dangles : Cell.Dangles [] ⟨1, 1, .sharedText, "7"⟩ := by
      refine ⟨rfl, ?_⟩
      rintro text ⟨index, _, ⟨⟩⟩
    obtain ⟨sheet, cell, ⟨before, after, split, _⟩, failed⟩ := ((ofBytes_loads_grids _ _).2 _ _ contains).1
      ⟨_, List.mem_singleton_self _, _, alone ▸ List.mem_singleton_self _, dangles⟩
    have place : (sheet, cell) ∈ cellsOf [sampleSheet "Items.xlsx" ⟨1, 1, .sharedText, "7"⟩] :=
      split ▸ List.mem_append_right before List.mem_cons_self
    obtain ⟨sheet_is, cell_is⟩ := mem_cellsOf_iff.mp place
    cases List.mem_singleton.mp sheet_is
    cases List.mem_singleton.mp (alone ▸ cell_is)
    have reference : Grid.reference 1 1 = "B2" := by decide +kernel
    have fault : danglingFault "Items.xlsx" (sampleSheet "Items.xlsx" ⟨1, 1, .sharedText, "7"⟩) ⟨1, 1, .sharedText, "7"⟩ =
        .sharedIndex "Items.xlsx" "Item" ⟨Grid.reference 1 1, "7"⟩ := rfl
    rw [failed, fault, reference]
  case plain =>
    have contains : Contains "Items.xlsx" (samplePackage "str") [sampleSheet "Items.xlsx" ⟨1, 1, .inlineText, "7"⟩] [] :=
      contains_samplePackage (by decide +kernel) (by decide +kernel) (by decide +kernel)
    obtain ⟨workbook, loaded⟩ := ((ofBytes_loads_grids _ _).2 _ _ contains).2 <| by
      simp [cells_sampleSheet, Cell.Dangles]
    obtain ⟨-, grids, _, _, held, resolves⟩ := (ofBytes_loads_grids _ _).1 workbook loaded
    obtain ⟨rfl, rfl⟩ := contains.unique held
    exact ⟨workbook, loaded, shows_of_resolves (cells_sampleSheet _ _) (.kept (by decide)) grids resolves⟩
  case shared =>
    have names : Cell.Names ["ok"] ⟨1, 1, .sharedText, "0"⟩ "ok" :=
      ⟨0, Number.readIndex?_eq_some_iff.mp (by decide +kernel), rfl⟩
    obtain ⟨workbook, loaded⟩ := ((ofBytes_loads_grids _ _).2 _ _ contains_sampleBook).2 <| by
      simpa [cells_sampleSheet, Cell.Dangles] using ⟨_, names⟩
    obtain ⟨-, grids, _, _, held, resolves⟩ := (ofBytes_loads_grids _ _).1 workbook loaded
    obtain ⟨rfl, rfl⟩ := contains_sampleBook.unique held
    exact ⟨workbook, loaded, shows_of_resolves (cells_sampleSheet _ _) (.named rfl names) grids resolves⟩

end

end Tablesmith.Workbook
