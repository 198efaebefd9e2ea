import Mathlib
import Tablesmith.Proofs.Biff.Worksheet
import Tablesmith.Proofs.Compound.Streams

/-!
# Books

The stream of a book begins with the records that describe it, up to their end record
(`ofRecords_framedAll`). In a compound file of any layout it gives the worksheets that
these records list, and their shared texts (`readBook_eq_ok`).
-/

namespace Tablesmith.Biff

open Binary Compound Grid

variable {described : List Piece} {closing stream bytes : List UInt8} {layout : Layout} {extent : Extent} {file : String}
  {globals : Globals} {sheets : List Sheet}

/-- The records in front of the first end record describe the book, whatever follows it. -/
theorem ofRecords_framedAll (framable : ∀ piece ∈ described ++ [(endRecord, closing)], Framable piece)
    (new : ∀ piece ∈ described ++ [(endRecord, closing)], piece.1 ≠ continuation)
    (before_end : ∀ piece ∈ described, piece.1 ≠ endRecord) (rest : List UInt8) :
    Globals.ofRecords (records (framedAll (described ++ [(endRecord, closing)]) ++ rest)) =
      (described.map unbroken).foldlM Globals.absorb .start := by
  obtain ⟨payload, later, found⟩ := records_framedAll_append framable new rest
  have described_taken : ∀ record ∈ described.map unbroken, decide (record.kind ≠ endRecord) = true := by
    simp only [List.forall_mem_map]
    exact fun piece member => decide_eq_true (before_end piece member)
  rw [Globals.ofRecords, found, List.takeWhile_append_of_pos described_taken, List.takeWhile_cons_of_neg (by simp),
    List.append_nil]

theorem absorb_sheet {record : Record} {place? : Option SheetPlace} (kind : GlobalRecord.ofKind? record.kind = some .sheet)
    (read : record.read (readSheetPlace globals.narrow) = .ok place?) :
    globals.absorb record = .ok { globals with sheets := globals.sheets ++ place?.toList } := by
  rw [Globals.absorb, kind]
  simp only [read]
  rfl

theorem absorb_sharedTexts {record : Record} {texts : List String}
    (kind : GlobalRecord.ofKind? record.kind = some .sharedTexts)
    (read : record.read (readSharedTable globals.narrow) = .ok texts) :
    globals.absorb record = .ok { globals with sharedTexts := texts } := by
  rw [Globals.absorb, kind]
  simp only [read]
  rfl

/-- The worksheets of a book are read from its stream, wherever the file keeps that. -/
theorem readBook_eq_ok (legal : IsLaidOut layout bytes) (listed : ("Workbook", extent) ∈ layout.entries)
    (stored : layout.Stores bytes extent stream) (describes : Globals.ofRecords (records stream) = .ok globals)
    (some_sheet : globals.sheets ≠ [])
    (read : globals.sheets.mapM (readWorksheet ⟨globals.narrow, globals.cellKinds.toArray⟩ file stream) = .ok sheets) :
    readBook file bytes = .ok (sheets, globals.sharedTexts) := by
  have found : bookStream (layout.file bytes) = .ok (some stream) := by
    rw [bookStream, stream?_eq_ok legal (by decide) listed stored]
    rfl
  have filled : globals.sheets.isEmpty = false := by simpa using some_sheet
  rw [readBook, ofBytes_eq_ok legal]
  simp only [Except.mapError, bind, Except.bind, found, describes, filled, Bool.false_eq_true, ↓reduceIte, read]
  rfl

section
open Zip (two four)

/-- The sheet of the sample, which begins behind what describes the book. -/
def sampleTab : Piece :=
  (133, four 45 ++ (two 0 ++ (4 :: 0 :: "Item".toUTF8.data.toList)))

/-- The shared text of the sample. -/
def sampleTexts : Piece :=
  (252, four 1 ++ (four 1 ++ (two 2 ++ (0 :: "ok".toUTF8.data.toList))))

/-- What describes the book of the sample. -/
def sampleDescription : List UInt8 :=
  framedAll ([(beginRecord, [0, 6, 5, 0]), sampleTab, sampleTexts] ++ [(endRecord, [])])

/-- The worksheet of the sample has the shared text in B2. -/
def sampleCells : List Entry :=
  [.shared ⟨1, 1, 0⟩ 0]

/-- The stream of the sample. -/
def sampleStream : List UInt8 :=
  sampleDescription ++ (worksheetBytes [0, 6, 16, 0] [] sampleCells ++ [])

theorem ofRecords_sampleStream :
    Globals.ofRecords (records sampleStream) = .ok ⟨.utf16 .little, .from1900, ["ok"], [], [], [⟨"Item", 45⟩]⟩ := by
  have begins : Globals.start.absorb (unbroken (beginRecord, [0, 6, 5, 0])) = .ok .start := rfl
  have tab_read : (unbroken sampleTab).read (readSheetPlace Globals.start.narrow) = .ok (some ⟨"Item", 45⟩) := by
    decide +kernel
  have texts_read : (unbroken sampleTexts).read (readSharedTable Globals.start.narrow) = .ok ["ok"] := by decide +kernel
  have tab : Globals.start.absorb (unbroken sampleTab) = .ok { Globals.start with sheets := [⟨"Item", 45⟩] } :=
    (absorb_sheet rfl tab_read :)
  have texts : Globals.absorb { Globals.start with sheets := [⟨"Item", 45⟩] } (unbroken sampleTexts) =
      .ok { Globals.start with sheets := [⟨"Item", 45⟩], sharedTexts := ["ok"] } :=
    absorb_sharedTexts rfl texts_read
  rw [sampleStream, sampleDescription, ofRecords_framedAll (by decide +kernel) (by decide +kernel) (by decide +kernel)]
  simp only [List.map_cons, List.map_nil, List.foldlM_cons, List.foldlM_nil, bind, Except.bind, begins, tab, texts]
  rfl

/-- A layout in which the stream of a book is kept in small sectors. -/
def sampleBookLayout : Layout where
  size := 512
  indirectPlaces := []
  tablePlaces := [0]
  directoryPlaces := [1]
  miniTablePlaces := [2]
  miniStreamPlaces := [3]
  root := ⟨3, 128⟩
  entries := [("Root Entry", ⟨3, 128⟩), ("Workbook", ⟨0, 71⟩), ("Note", ⟨0xfffffffe, 0⟩), ("Blank", ⟨0xfffffffe, 0⟩)]
  streams := []

def sampleBookTable : List UInt8 :=
  filled 0xff ([0xfffffffd, 0xfffffffe, 0xfffffffe, 0xfffffffe].flatMap four)

def sampleBookMiniTable : List UInt8 :=
  filled 0xff ([1, 0xfffffffe].flatMap four)

/-- The header and the sectors of the file. -/
def sampleBookPieces : List (List UInt8) :=
  [ filled 0xff ([0xd0, 0xcf, 0x11, 0xe0, 0xa1, 0xb1, 0x1a, 0xe1] ++ List.replicate 18 0 ++ two 3 ++ two 0xfffe ++
      two 9 ++ List.replicate 12 0 ++ four 1 ++ four 1 ++ List.replicate 8 0 ++ four 2 ++ four 1 ++ four 0xfffffffe ++
      four 0 ++ four 0),
    sampleBookTable,
    (sampleBookLayout.entries.map entryBytes).flatten,
    sampleBookMiniTable,
    filled 0 sampleStream ]

theorem sampleBook_written :
    List.Forall₂ WritesEntry (sampleBookLayout.entries.map entryBytes) sampleBookLayout.entries := by
  refine written_entryBytes ?_ (by decide)
  simp only [sampleBookLayout, List.forall_mem_cons]
  exact ⟨⟨by decide, by simp⟩, ⟨by decide, by simp⟩, ⟨by decide, by simp⟩, ⟨by decide, by simp⟩, List.forall_mem_nil _⟩

theorem sampleBookPieces_even : ∀ piece ∈ sampleBookPieces, piece.length = sampleBookLayout.size := by
  simp only [sampleBookPieces, List.forall_mem_cons]
  refine ⟨length_filled _ (by decide), length_filled _ (by decide), ?_, length_filled _ (by decide),
    length_filled _ (by decide +kernel), List.forall_mem_nil _⟩
  rw [List.length_flatten, List.map_congr_left (length_of_written sampleBook_written)]
  rfl

theorem sampleBook_isLinked {start : Nat} {places : List Nat} (chained : IsChain ((words sampleBookTable)[·]?) start places)
    (inside : ∀ place ∈ places, place < 4) : sampleBookLayout.IsLinked sampleBookPieces.flatten start places :=
  isLinked_flatten (by decide) sampleBookPieces_even rfl rfl chained fun place member =>
    Nat.succ_lt_succ (inside place member)

theorem sampleBook_stores : sampleBookLayout.Stores sampleBookPieces.flatten ⟨0, 71⟩ sampleStream := by
  have mini_table : sampleBookLayout.miniTable sampleBookPieces.flatten = words sampleBookMiniTable :=
    miniTable_flatten (by decide) sampleBookPieces_even rfl rfl
  have mini_stream : sampleBookLayout.miniStream sampleBookPieces.flatten = (filled 0 sampleStream).take 128 :=
    miniStream_flatten (by decide) sampleBookPieces_even rfl rfl
  have length : sampleStream.length = 71 := by decide +kernel
  refine ⟨length.symm, ?_⟩
  rw [length, if_pos (by decide)]
  refine ⟨[0, 1], ⟨?_, ?_⟩, ?_⟩
  · rw [mini_table]
    decide +kernel
  · simp only [Layout.HasMiniSector, mini_stream]
    decide +kernel
  · simp only [List.flatMap_cons, List.flatMap_nil, Layout.miniSector, mini_stream]
    decide +kernel

theorem sampleBook_isLaidOut : IsLaidOut sampleBookLayout sampleBookPieces.flatten where
  complete := by decide +kernel
  signature := by decide +kernel
  version := .inl ⟨by decide +kernel, by decide +kernel, rfl⟩
  table_count := by decide +kernel
  mini_table_count := by decide +kernel
  indirect_count := by decide +kernel
  indirect_linked := by decide +kernel
  indirect_there := List.forall_mem_nil _
  table_listed := by decide +kernel
  table_there := List.forall_mem_singleton.mpr (hasSector_flatten (by decide) sampleBookPieces_even (by decide))
  directory_linked := sampleBook_isLinked (by decide +kernel) (by decide)
  directory_written := ⟨_, directory_flatten (by decide) sampleBookPieces_even rfl rfl, sampleBook_written⟩
  distinct := by
    rw [DistinctNames, sampleBookLayout]
    decide
  mini_table_linked := sampleBook_isLinked (by decide +kernel) (by decide)
  root_listed := List.mem_cons_self
  root_linked := sampleBook_isLinked (by decide +kernel) (by decide)
  streams_stored := List.forall_mem_nil _

/-- The sample is read. -/
theorem readBook_sampleBook (file : String) : readBook file sampleBookPieces.flatten =
    .ok ([(Sheet.empty file "Item").push ⟨1, 1, .sharedText, "0"⟩], ["ok"]) := by
  have place : sampleDescription.length = 45 := by decide +kernel
  have fits : ∀ entry ∈ sampleCells, entry.Fits := List.forall_mem_singleton.mpr ⟨by decide, nofun⟩
  have kinds : (Globals.mk (.utf16 .little) .from1900 ["ok"] [] [] [⟨"Item", 45⟩]).cellKinds = [] := rfl
  have cells : valued ⟨.utf16 .little, #[]⟩ sampleCells = [⟨1, 1, .sharedText, "0"⟩] := by decide +kernel
  have sheet : readWorksheet ⟨.utf16 .little, #[]⟩ file sampleStream ⟨"Item", 45⟩ =
      .ok ((Sheet.empty file "Item").push ⟨1, 1, .sharedText, "0"⟩) := by
    rw [← place, sampleStream, readWorksheet_worksheetBytes rfl fits (by decide), cells]
    rfl
  refine readBook_eq_ok sampleBook_isLaidOut (by simp [sampleBookLayout]) sampleBook_stores ofRecords_sampleStream
    (List.cons_ne_nil _ _) ?_
  rw [kinds]
  simp only [List.mapM_cons, List.mapM_nil, bind, Except.bind, sheet]
  rfl

end

end Tablesmith.Biff
