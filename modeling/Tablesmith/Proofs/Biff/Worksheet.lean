import Mathlib
import Tablesmith.Biff.Worksheet
import Tablesmith.Proofs.Biff.CellRecords
import Tablesmith.Proofs.Grid.Resolution

/-!
# The cells of a worksheet

What `readCells` does with the first of its records, by the kind of it; from this, what
is read of the entries of a worksheet one after the other (`readCells_entries`). A
worksheet is read up to its end record, whatever follows (`readWorksheet_entries`).
-/

namespace Tablesmith.Biff

open Grid Number

variable {context : Context} {sheet : Sheet} {record : Record} {rest : List Record}

theorem readCells_taken : readCells context sheet true (record :: rest) = readCells context sheet false rest := by
  rw [readCells, if_pos rfl]

theorem readCells_end (ends : record.kind = beginRecord ∨ record.kind = endRecord) :
    readCells context sheet false (record :: rest) = .ok sheet := by
  rw [readCells, if_neg Bool.false_ne_true, if_pos ends]

theorem readCells_row (row : record.kind = packedRow) : readCells context sheet false (record :: rest) =
    match rowCells context record with
    | .ok cells => readCells context (cells.foldl Sheet.push sheet) false rest
    | .error reason => .error reason := by
  have not_end : ¬ (record.kind = beginRecord ∨ record.kind = endRecord) := by
    rw [row]
    decide
  rw [readCells, if_neg Bool.false_ne_true, if_neg not_end]
  exact if_pos row

/-- A record of one cell neither begins nor ends a worksheet, nor does it hold several cells or a text. -/
theorem ne_of_cellRecord {number : Nat} {kind : CellRecord} (known : CellRecord.ofKind? number = some kind) :
    ¬ (number = beginRecord ∨ number = endRecord) ∧ number ≠ packedRow ∧ number ≠ formulaText := by
  refine ⟨?_, ?_, ?_⟩
  · rintro (rfl | rfl) <;> cases known
  · rintro rfl
    cases known
  · rintro rfl
    cases known

theorem readCells_cell {kind : CellRecord} (known : CellRecord.ofKind? record.kind = some kind) :
    readCells context sheet false (record :: rest) =
      match storeCell context sheet kind record rest.head? with
      | .ok (sheet, taken) => readCells context sheet taken rest
      | .error reason => .error reason := by
  obtain ⟨not_end, not_row, -⟩ := ne_of_cellRecord known
  rw [readCells, if_neg Bool.false_ne_true, if_neg not_end, known]
  exact if_neg not_row

/-- The cells of entries that have a value. -/
def valued (context : Context) (entries : List Entry) : List Cell :=
  (entries.flatMap (Entry.cells context)).filter (·.value ≠ "")

theorem store_eq (sheet : Sheet) (place : Place) (content : Content) :
    store sheet (place.row.toNat, place.column.toNat) content =
      ([place.cell content.kind content.value].filter (·.value ≠ "")).foldl Sheet.push sheet := by
  by_cases empty : content.value = ""
  · simp [store, Place.cell, empty]
  · simp [store, Place.cell, empty]

theorem readCells_content {entry : Entry} {kind : CellRecord} {piece : Nat} {place : Place} {field : List UInt8}
    {content : Content} (written : entry.pieces = [(piece, place.bytes ++ field)])
    (cell : entry.cells context = [place.cell content.kind content.value])
    (known : CellRecord.ofKind? piece = some kind)
    (reads : Reads (readCellRecord context kind) (place.bytes ++ field)
      ((place.row.toNat, place.column.toNat), .inl content)) :
    readCells context sheet false (entry.pieces.map unbroken ++ rest) =
      readCells context ((valued context [entry]).foldl Sheet.push sheet) false rest := by
  have record_read := reads.read (by simp [Place.bytes, Zip.two]) piece []
  rw [List.append_nil] at record_read
  have stored : storeCell context sheet kind (unbroken (piece, place.bytes ++ field)) rest.head? =
      .ok (store sheet (place.row.toNat, place.column.toNat) content, false) := by
    rw [storeCell, record_read]
    rfl
  rw [written, List.map_singleton, List.singleton_append, readCells_cell known, stored, store_eq, valued,
    List.flatMap_singleton, cell]

/-- A formula is stored with its result, which the record behind it may hold. -/
theorem readCells_formula (encoded : context.narrow = .utf16 .little) (place : Place) (result : StoredResult)
    (filling : Filling) (expression : List UInt8) :
    readCells context sheet false ((Entry.formula place result filling expression).pieces.map unbroken ++ rest) =
      readCells context ((valued context [.formula place result filling expression]).foldl Sheet.push sheet) false rest := by
  have reads : Reads (readCellRecord context .formula) (place.bytes ++ result.bytes filling)
      ((place.row.toNat, place.column.toNat), .inr (place.style.toNat, Binary.number (result.bytes filling))) :=
    reads_cell rfl (reads_formula result)
  have record_read := reads.read (by simp [Place.bytes, Zip.two]) 6 expression
  rw [List.append_assoc] at record_read
  have follows : ∀ piece ∈ result.following, (result.following.map unbroken ++ rest).head? = some (unbroken piece) := by
    cases result <;> simp [StoredResult.following]
  have content := formulaContent_result encoded place result filling follows
  have known : CellRecord.ofKind? (unbroken (6, place.bytes ++ (result.bytes filling ++ expression))).kind = some .formula := rfl
  have stored : storeCell context sheet .formula (unbroken (6, place.bytes ++ (result.bytes filling ++ expression)))
        (result.following.map unbroken ++ rest).head? =
      .ok (([result.cell context place].filter (·.value ≠ "")).foldl Sheet.push sheet, !result.following.isEmpty) := by
    have cell : place.cell (result.cell context place).kind (result.cell context place).value =
        result.cell context place := by cases result <;> rfl
    have kept := store_eq sheet place ⟨(result.cell context place).kind, (result.cell context place).value⟩
    rw [cell] at kept
    rw [storeCell, record_read]
    simp only [Outcome.ok_bind, content, kept]
    rfl
  rw [Entry.pieces, List.map_cons, List.cons_append, readCells_cell known, stored, valued, List.flatMap_singleton,
    Entry.cells]
  cases result with
  | text stored => exact readCells_taken
  | _ => rfl

/-- The cells of an entry are stored, and reading goes on behind the records of the entry. -/
theorem readCells_entry (encoded : context.narrow = .utf16 .little) {entry : Entry} (fits : entry.Fits) :
    readCells context sheet false (entry.pieces.map unbroken ++ rest) =
      readCells context ((valued context [entry]).foldl Sheet.push sheet) false rest := by
  cases entry with
  | number place bits =>
    exact readCells_content rfl rfl rfl (reads_cell rfl (reads_number_content Binary64.text (reads_double bits)))
  | packed place value =>
    exact readCells_content rfl rfl rfl (reads_cell rfl (reads_number_content id (reads_packed value)))
  | packedCells row column first further =>
    have cells : rowCells context _ = .ok _ :=
      rowCells_packedCells row first (fits.columns row column first further rfl) packedRow
    have all_valued : valued context [.packedCells row column first further] =
        (Entry.packedCells row column first further).cells context := by
      rw [valued, List.flatMap_singleton, List.filter_eq_self]
      exact fun cell member => decide_eq_true (value_packedCells_ne member)
    rw [Entry.pieces, List.map_singleton, List.singleton_append, readCells_row rfl, cells, all_valued]
  | shared place index => exact readCells_content rfl rfl rfl (reads_cell rfl (reads_shared_index index))
  | label place stored => exact readCells_content rfl rfl rfl (reads_cell rfl (reads_label encoded stored))
  | flag place value isError =>
    have zero : isError.toNat = (0 : UInt8).toNat ↔ isError = 0 := UInt8.toNat_inj
    rw [UInt8.toNat_zero] at zero
    have cell : (Entry.flag place value isError).cells context = [place.cell
        (flagContent (isError.toNat ≠ 0) value.toNat).kind (flagContent (isError.toNat ≠ 0) value.toNat).value] := by
      by_cases boolean : isError = 0 <;> simp [Entry.cells, flagContent, boolean, zero, Place.cell]
    exact readCells_content rfl cell rfl (reads_cell rfl (reads_flag value isError))
  | formula place result filling expression => exact readCells_formula encoded place result filling expression

variable {entries : List Entry}

theorem readCells_entries (encoded : context.narrow = .utf16 .little) (fits : ∀ entry ∈ entries, entry.Fits) (sheet : Sheet)
    (rest : List Record) :
    readCells context sheet false ((entries.flatMap Entry.pieces).map unbroken ++ rest) =
      readCells context ((valued context entries).foldl Sheet.push sheet) false rest := by
  induction entries generalizing sheet with
  | nil => rfl
  | cons entry entries ih =>
    obtain ⟨entry_fits, rest_fit⟩ := List.forall_mem_cons.mp fits
    have split : valued context (entry :: entries) = valued context [entry] ++ valued context entries := by
      simp only [valued, List.flatMap_cons, List.flatMap_nil, List.append_nil, List.filter_append]
    rw [List.flatMap_cons, List.map_append, List.append_assoc, readCells_entry encoded entry_fits, ih rest_fit, split,
      List.foldl_append]

/-- A worksheet in bytes: its entries between a record that begins it and one that ends it. -/
def worksheetBytes (opening closing : List UInt8) (entries : List Entry) : List UInt8 :=
  framedAll ((beginRecord, opening) :: entries.flatMap Entry.pieces ++ [(endRecord, closing)])

/-- No record of an entry begins or goes on what another one is part of. -/
theorem new_of_mem_pieces {entry : Entry} {piece : Piece} (member : piece ∈ entry.pieces) : piece.1 ≠ continuation := by
  have kinds : ∀ piece ∈ entry.pieces, piece.1 ∈ [515, 638, packedRow, 253, 516, 517, 6, formulaText] := by
    cases entry with
    | formula place result filling expression => cases result <;> simp [Entry.pieces, StoredResult.following]
    | _ => simp [Entry.pieces]
  have listed := kinds piece member
  intro goes_on
  rw [goes_on] at listed
  exact absurd listed (by decide)

theorem records_worksheetBytes (fits : ∀ entry ∈ entries, entry.Fits) {opening closing : List UInt8}
    (short : opening.length < 256 ^ 2 ∧ closing.length < 256 ^ 2) (after : List UInt8) :
    ∃ payload later, records (worksheetBytes opening closing entries ++ after) =
      unbroken (beginRecord, opening) :: ((entries.flatMap Entry.pieces).map unbroken ++ ⟨endRecord, payload⟩ :: later) := by
  have framable : ∀ piece ∈ (beginRecord, opening) :: entries.flatMap Entry.pieces ++ [(endRecord, closing)],
      Framable piece := by
    simp only [List.mem_append, List.mem_cons, List.mem_flatMap, List.not_mem_nil, or_false]
    rintro piece ((rfl | ⟨entry, member, written⟩) | rfl)
    · exact ⟨(by decide : beginRecord < 256 ^ 2), short.1⟩
    · exact (fits entry member).framable piece written
    · exact ⟨(by decide : endRecord < 256 ^ 2), short.2⟩
  have new : ∀ piece ∈ (beginRecord, opening) :: entries.flatMap Entry.pieces ++ [(endRecord, closing)],
      piece.1 ≠ continuation := by
    simp only [List.mem_append, List.mem_cons, List.mem_flatMap, List.not_mem_nil, or_false]
    rintro piece ((rfl | ⟨entry, _, written⟩) | rfl)
    · exact (by decide : beginRecord ≠ continuation)
    · exact new_of_mem_pieces written
    · exact (by decide : endRecord ≠ continuation)
  exact records_framedAll_append framable new after

/-- A worksheet is read from the place where it begins up to its end record: its entries are stored one after the
other. -/
theorem readWorksheet_worksheetBytes (encoded : context.narrow = .utf16 .little) (fits : ∀ entry ∈ entries, entry.Fits)
    {opening closing : List UInt8} (short : opening.length < 256 ^ 2 ∧ closing.length < 256 ^ 2) (file name : String)
    (before after : List UInt8) :
    readWorksheet context file (before ++ (worksheetBytes opening closing entries ++ after)) ⟨name, before.length⟩ =
      .ok ((valued context entries).foldl Sheet.push (.empty file name)) := by
  obtain ⟨payload, later, found⟩ := records_worksheetBytes fits short after
  rw [readWorksheet, List.drop_left, found, List.drop_one, List.tail_cons, readCells_entries encoded fits,
    readCells_end (Or.inr rfl)]

/-- What is read of a worksheet is what its entries say, whatever stands in front of it and whatever follows its end:
at every position the last cell with a value, in the order of the first such cells. -/
theorem readWorksheet_entries (encoded : context.narrow = .utf16 .little) (fits : ∀ entry ∈ entries, entry.Fits)
    (opening closing : List UInt8) (short : opening.length < 256 ^ 2 ∧ closing.length < 256 ^ 2) (file name : String)
    (before after : List UInt8) :
    ∃ sheet, readWorksheet context file (before ++ (worksheetBytes opening closing entries ++ after))
          ⟨name, before.length⟩ = .ok sheet ∧
      sheet.file = file ∧ sheet.name = name ∧
      sheet.cells.toList = settled (valued context entries) ∧
      ∀ row column, sheet.cell? row column = lastAt? (valued context entries) (row, column) := by
  refine ⟨(valued context entries).foldl Sheet.push (.empty file name),
    readWorksheet_worksheetBytes encoded fits short file name before after, ?_, ?_, ?_, ?_⟩
  · rw [foldl_push]
    rfl
  · rw [foldl_push]
    rfl
  · exact toList_foldl_push _ file name
  · exact cell?_foldl_push _ file name

theorem short_ok : (Text.Encoding.textUnits "ok".toList).length < 256 ^ 2 := by decide

/-- A label, a row of two numbers, of which the second has a style that does not exist, a formula with a text, a
formula without a value, and a number in place of the label. -/
def sampleEntries : List Entry :=
  [.label ⟨0, 0, 0⟩ ⟨"é", 0, by decide, by decide⟩,
    .packedCells 1 2 (0, ⟨.integer 7, false⟩) [(9, ⟨.integer (-1), false⟩)],
    .formula ⟨3, 0, 0⟩ (.text ⟨"ok", 1, short_ok, by decide⟩) ⟨0, 0, 0, 0⟩ [0x17, 0x01],
    .formula ⟨4, 0, 0⟩ .empty ⟨0, 0, 0, 0⟩ [],
    .packed ⟨0, 0, 0⟩ ⟨.integer 5, false⟩]

/-- One style, which makes a date of a number. -/
def sampleContext : Context :=
  ⟨.utf16 .little, #[.serial .day .from1900]⟩

theorem fits_sampleEntries : ∀ entry ∈ sampleEntries, entry.Fits := by
  simp only [sampleEntries, List.forall_mem_cons, List.not_mem_nil, false_imp_iff, implies_true, and_true]
  refine ⟨⟨by decide, nofun⟩, ⟨by decide, ?_⟩, ⟨by decide, nofun⟩, ⟨by decide, nofun⟩, ⟨by decide, nofun⟩⟩
  rintro _ _ _ _ ⟨⟩
  decide

theorem readWorksheet_sampleEntries :
    (∀ entry ∈ sampleEntries, entry.Fits) ∧
      ∃ sheet, readWorksheet sampleContext "Data.xls"
          ([1, 2, 3] ++ (worksheetBytes [0, 6, 0x10, 0] [] sampleEntries ++ [60, 0, 1])) ⟨"Sheet", 3⟩ = .ok sheet ∧
        sheet.cells.toList =
          [⟨0, 0, .serial .day .from1900, "5"⟩, ⟨1, 2, .serial .day .from1900, "7"⟩, ⟨1, 3, .number, "-1"⟩,
            ⟨3, 0, .inlineText, "ok"⟩] := by
  refine ⟨fits_sampleEntries, ?_⟩
  have encoded : sampleContext.narrow = .utf16 .little := rfl
  obtain ⟨sheet, read, -, -, cells, -⟩ := readWorksheet_entries encoded fits_sampleEntries [0, 6, 0x10, 0] [] (by decide)
    "Data.xls" "Sheet" [1, 2, 3] [60, 0, 1]
  refine ⟨sheet, read, cells.trans ?_⟩
  decide +kernel

end Tablesmith.Biff
