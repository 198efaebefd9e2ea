import Mathlib
import Tablesmith.Ooxml.Package
import Tablesmith.Proofs.Ooxml.Worksheet
import Tablesmith.Proofs.Zip.Stored
import Tablesmith.Workbook.Format

/-!
# Stored packages

A package whose parts are stored in an archive is read part by part. Where it has
a single worksheet, and neither styles nor shared texts, it gives the cells that the
worksheet stores (`readPackage_filesOf`).
-/

namespace Tablesmith.Ooxml

open Grid Outcome Text Xml Zip

variable {files : List StoredFile}

/-- An archive is no compound file. -/
theorem isEncrypted_store (filled : files ≠ []) : isEncrypted (store files) = false := by
  have unsigned : Binary.field 0 8 (store files) ≠ Compound.signatureNumber := by
    cases files with
    | nil => exact absurd rfl filled
    | cons file files =>
      obtain ⟨rest, first⟩ : ∃ rest, Binary.slice 0 8 (store (file :: files)) = 0x50 :: rest := ⟨_, rfl⟩
      rw [Binary.field, first, Binary.number, Compound.signatureNumber]
      simp
      omega
  have refused : ∃ error, CompoundFile.ofBytes (store files) = .error error := by
    unfold CompoundFile.ofBytes Compound.Header.read
    by_cases short : (store files).length < Compound.headerSize
    · rw [if_pos short]
      exact ⟨_, rfl⟩
    · rw [if_neg short, if_pos unsigned]
      exact ⟨_, rfl⟩
  obtain ⟨error, refused⟩ := refused
  rw [isEncrypted, refused]

/-- The document of a part that is among the files. -/
def documentOf? (files : List StoredFile) (path : String) : Option Document :=
  (files.find? fun file => sameAscii (sought path) (memberName 0 file.name)).map fun file =>
    Document.ofBytes file.content false

theorem part?_store (fits : Fits files) (filled : files ≠ [])
    (distinct : (files.map fun file => memberName 0 file.name).Nodup) :
    ∃ package, Archive.ofBytes (store files) = .ok package ∧ ∀ path, part? package path = .ok (documentOf? files path) := by
  obtain ⟨package, opened, contents⟩ := content?_store fits filled distinct
  refine ⟨package, opened, fun path => ?_⟩
  rw [part?, contents, documentOf?]
  cases files.find? fun file => sameAscii (sought path) (memberName 0 file.name) <;> rfl

theorem needPart_ok {package : Archive} {path : String} {document : Document}
    (found : part? package path = .ok (some document)) : needPart package path = .ok document := by
  rw [needPart, found]
  rfl

/-- A package with a single part has that part. -/
theorem part?_store_singleton {path : String} {content : List UInt8}
    (same : sameAscii (sought path) (memberName 0 (name path)) = true) (fits : Fits [⟨name path, content⟩]) :
    ∃ package, Archive.ofBytes (store [⟨name path, content⟩]) = .ok package ∧
      part? package path = .ok (some (.ofBytes content false)) := by
  obtain ⟨package, opened, parts⟩ := part?_store fits (List.cons_ne_nil _ _) (List.nodup_singleton _)
  refine ⟨package, opened, ?_⟩
  rw [parts, documentOf?, List.find?_cons_of_pos (by exact same), Option.map_some]

/-- The worksheet of a whole document has the cells that the document stores. -/
theorem readPart_worksheet {document : Document} {kinds : Array CellKind} {sheet : Sheet} {cells : List Cell}
    (whole : document.isWhole = true) (read : Worksheet.stored kinds (Worksheet.start sheet) document.events = .ok cells) :
    ∃ last, readPart (Worksheet.step kinds) (Worksheet.start sheet) document = .ok last ∧
      last.sheet = cells.foldl Sheet.push sheet := by
  obtain ⟨last, ran, stored⟩ := Worksheet.foldlM_step_ok cells read
  refine ⟨last, ?_, stored⟩
  rw [readPart, readDocument, ran]
  simp only [bind, Except.bind, whole, ↓reduceIte]
  rfl

/-- The part with the worksheet. -/
def worksheetPart : String := "xl/worksheets/sheet1.xml"

/-- The files of a package with a worksheet and what leads to it. -/
def filesOf (relations main worksheet : List UInt8) : List StoredFile :=
  [⟨name relationshipsPart, relations⟩, ⟨name workbookPart, main⟩, ⟨name worksheetPart, worksheet⟩]

section
variable {relations main worksheet : List UInt8}

theorem memberName_parts : [relationshipsPart, workbookPart, worksheetPart].map (fun part => memberName 0 (name part)) =
    [relationshipsPart, workbookPart, worksheetPart] := by
  decide +kernel

/-- Which of the parts are found under the paths that are looked for. -/
theorem sameAscii_parts : [relationshipsPart, workbookPart, worksheetPart, stylesPart, sharedStringsPart].map
    (fun path => [relationshipsPart, workbookPart, worksheetPart].map (sameAscii (sought path))) =
    [[true, false, false], [false, true, false], [false, false, true], [false, false, false], [false, false, false]] := by
  decide +kernel

theorem distinct_filesOf : ((filesOf relations main worksheet).map fun file => memberName 0 file.name).Nodup := by
  have names : (filesOf relations main worksheet).map (fun file => memberName 0 file.name) = _ := memberName_parts
  rw [names]
  decide +kernel

theorem fits_filesOf (small : relations.length + main.length + worksheet.length < 256 ^ 3) :
    Fits (filesOf relations main worksheet) := by
  have names : ∀ part ∈ [relationshipsPart, workbookPart, worksheetPart], (name part).length < 256 := by decide +kernel
  simp only [List.forall_mem_cons] at names
  obtain ⟨first, second, third, _⟩ := names
  refine ⟨?_, ?_, ?_⟩
  · simp [filesOf]
  · simp only [filesOf, List.forall_mem_cons]
    exact ⟨by omega, by omega, by omega, by simp⟩
  · simp only [filesOf, members, List.flatMap_cons, List.flatMap_nil, List.length_append, List.length_nil, length_member,
      Archive.memberLength]
    omega

theorem documentOf?_filesOf (relations main worksheet : List UInt8) :
    documentOf? (filesOf relations main worksheet) relationshipsPart = some (.ofBytes relations false) ∧
    documentOf? (filesOf relations main worksheet) workbookPart = some (.ofBytes main false) ∧
    documentOf? (filesOf relations main worksheet) worksheetPart = some (.ofBytes worksheet false) ∧
    documentOf? (filesOf relations main worksheet) stylesPart = none ∧
    documentOf? (filesOf relations main worksheet) sharedStringsPart = none := by
  have names := memberName_parts
  have found := sameAscii_parts
  simp only [List.map_cons, List.map_nil, List.cons.injEq, and_true] at names found
  simp [documentOf?, filesOf, names, found]

/-- A package with a worksheet is read. -/
theorem readPackage_filesOf {file title : String} {relationships : Relationships} {system : DateSystem} {cells : List Cell}
    (small : relations.length + main.length + worksheet.length < 256 ^ 3)
    (relations_read : readPart Relationships.step [] (.ofBytes relations false) = .ok relationships)
    (main_read : readPart (Tabs.step relationships) Tabs.start (.ofBytes main false) =
      .ok ⟨system, [⟨title, worksheetPart⟩]⟩)
    (whole : (Document.ofBytes worksheet false).isWhole = true)
    (read : Worksheet.stored #[] (Worksheet.start (.empty file title)) (Document.ofBytes worksheet false).events =
      .ok cells) :
    readPackage file (store (filesOf relations main worksheet)) =
      .ok ([cells.foldl Sheet.push (.empty file title)], []) := by
  have filled : filesOf relations main worksheet ≠ [] := List.cons_ne_nil _ _
  obtain ⟨package, opened, parts⟩ := part?_store (fits_filesOf small) filled distinct_filesOf
  obtain ⟨relations_at, main_at, worksheet_at, no_styles, no_shared⟩ :=
    documentOf?_filesOf relations main worksheet
  have tabs : readTabs package = .ok ⟨system, [⟨title, worksheetPart⟩]⟩ := by
    rw [readTabs, needPart_ok (by rw [parts, relations_at])]
    simp only [bind, Except.bind, relations_read, needPart_ok (by rw [parts, main_at]), main_read]
  have styles : readStyles package system = .ok [] := by
    rw [readStyles, parts, no_styles]
    rfl
  have shared : readSharedStrings package = .ok [] := by
    rw [readSharedStrings, parts, no_shared]
    rfl
  obtain ⟨last, ran, sheet⟩ := readPart_worksheet whole read
  have sheet_read : readWorksheet package file #[] ⟨title, worksheetPart⟩ =
      .ok (cells.foldl Sheet.push (.empty file title)) := by
    rw [readWorksheet, needPart_ok (by rw [parts, worksheet_at]), ← sheet]
    simp only [bind, Except.bind, ran]
    rfl
  unfold readPackage
  rw [isEncrypted_store filled, opened]
  simp only [Except.mapError, bind, Except.bind, tabs, styles, shared, List.isEmpty_cons, Bool.false_eq_true, ↓reduceIte,
    List.reverse_singleton, List.mapM_cons, List.mapM_nil, sheet_read]
  rfl

end

end Tablesmith.Ooxml

namespace Tablesmith.Workbook

open Grid

theorem ofBytes_of_read {path : String} {bytes : List UInt8} {format : WorkbookFormat} {sheets : List Sheet}
    {shared : List String} (known : (Path.extension? path).bind WorkbookFormat.ofExtension? = some format)
    (read : format.read path bytes = .ok (sheets, shared)) :
    ofBytes path bytes = (sheets.mapM (resolveSheet path shared.toArray)).map (Workbook.mk path) := by
  rw [ofBytes, known]
  simp only [read, bind, Except.bind]
  cases sheets.mapM (resolveSheet path shared.toArray) <;> rfl

/-- A workbook is read if its format is known and its shared texts are there. -/
theorem ofBytes_ok {path : String} {bytes : List UInt8} {format : WorkbookFormat} {sheets resolved : List Sheet}
    {shared : List String} (known : (Path.extension? path).bind WorkbookFormat.ofExtension? = some format)
    (read : format.read path bytes = .ok (sheets, shared))
    (own : sheets.mapM (resolveSheet path shared.toArray) = .ok resolved) : ofBytes path bytes = .ok ⟨path, resolved⟩ := by
  rw [ofBytes_of_read known read, own]
  rfl

end Tablesmith.Workbook
