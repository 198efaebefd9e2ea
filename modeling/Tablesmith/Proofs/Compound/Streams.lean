import Mathlib
import Tablesmith.Proofs.Compound.Layout
import Tablesmith.Proofs.Zip.Stored

/-!
# The streams of a laid out file

A compound file of any layout is read by it (`ofBytes_eq_ok`), and its streams are given back
(`stream?_of_isLaidOut`): short ones from small sectors, others from sectors of the file, and both
without what follows them in their last sector.
-/

namespace Tablesmith.Compound

open Binary Zip

variable {layout : Layout} {bytes : List UInt8} {name : String} {content : List UInt8} {extent : Extent}

/-- What reading a file with a layout gives. -/
def Layout.file (layout : Layout) (bytes : List UInt8) : CompoundFile where
  directory := layout.entries
  sectors := (chunks layout.size bytes).toArray
  table := (layout.table bytes).toArray
  miniSectors := (chunks CompoundFile.miniSectorSize (layout.miniStream bytes)).toArray
  miniTable := (layout.miniTable bytes).toArray

theorem read_eq_ok (legal : IsLaidOut layout bytes) :
    Header.read bytes = .ok
      { version := field 26 2 bytes
        sectorShift := field 30 2 bytes
        tableCount := layout.tablePlaces.length
        directoryStart := field 48 4 bytes
        miniTableStart := field 60 4 bytes
        miniTableCount := layout.miniTablePlaces.length
        indirectStart := field 68 4 bytes
        indirectCount := layout.indirectPlaces.length } := by
  rw [Header.read, if_neg (Nat.not_lt.mpr legal.complete), if_neg (not_not.mpr legal.signature), legal.table_count,
    legal.mini_table_count, legal.indirect_count]

theorem sectorSize_eq_ok (legal : IsLaidOut layout bytes) {header : Header}
    (version : header.version = field 26 2 bytes) (shift : header.sectorShift = field 30 2 bytes) :
    header.sectorSize = .ok layout.size := by
  rw [Header.sectorSize, version, shift]
  rcases legal.version with ⟨number, shift, size⟩ | ⟨number, shift, size⟩
  · simp [number, shift, size]
  · simp [number, shift, size]

theorem readDirectory_eq (legal : IsLaidOut layout bytes) :
    readDirectory (layout.directory bytes) = layout.entries := by
  obtain ⟨pieces, written, entries⟩ := legal.directory_written
  rw [written, readDirectory_flatten entries]

/-- A file is read by its layout. -/
theorem ofBytes_eq_ok (legal : IsLaidOut layout bytes) : CompoundFile.ofBytes bytes = .ok (layout.file bytes) := by
  have filled : layout.entries.isEmpty = false := List.isEmpty_eq_false_iff_exists_mem.mpr ⟨_, legal.root_listed⟩
  have root : extent? layout.entries rootName = some layout.root :=
    extent?_eq_some legal.distinct (by decide) legal.root_listed
  have mini_stream := needChain_eq_ok legal.some_size legal.root_linked
  have mini_table := needChain_eq_ok legal.some_size legal.mini_table_linked
  have directory := needChain_eq_ok legal.some_size legal.directory_linked
  rw [← Layout.directory] at directory
  rw [CompoundFile.ofBytes, read_eq_ok legal]
  simp only [bind, Except.bind, pure, Except.pure, sectorSize_eq_ok legal, allocationTable_eq_ok legal, directory,
    readDirectory_eq legal, filled, root, mini_stream, mini_table, Except.map]
  rw [if_neg Bool.false_ne_true]
  split
  · rfl
  · next none_counted =>
    have no_places : layout.miniTablePlaces = [] := List.eq_nil_of_length_eq_zero (by omega)
    rw [Layout.file, Layout.miniTable, Layout.miniStream, no_places]
    rfl

theorem stream?_eq_ok (legal : IsLaidOut layout bytes) (used : name ≠ "") (member : (name, extent) ∈ layout.entries)
    (stored : layout.Stores bytes extent content) : (layout.file bytes).stream? name = .ok (some content) := by
  have found : extent? layout.entries name = some extent := extent?_eq_some legal.distinct used member
  obtain ⟨size, placed⟩ := stored
  rw [CompoundFile.stream?, Layout.file]
  simp only [found, size]
  split at placed
  · next below =>
    obtain ⟨places, linked, begins⟩ := placed
    rw [if_pos below, needChain_mini_eq_ok linked, Except.map, ← List.prefix_iff_eq_take.mp begins]
  · next above =>
    obtain ⟨places, linked, begins⟩ := placed
    rw [if_neg above, needChain_eq_ok legal.some_size linked, Except.map, ← List.prefix_iff_eq_take.mp begins]

theorem stream?_eq_none (absent : ∀ entry ∈ layout.entries, entry.1 ≠ name) :
    (layout.file bytes).stream? name = .ok none := by
  rw [CompoundFile.stream?, Layout.file]
  simp only [extent?_eq_none absent]

/-- A compound file of any layout is read. Each of its streams is given back as it was stored, and nothing for a name
that no entry of the directory has. -/
theorem stream?_of_isLaidOut (legal : IsLaidOut layout bytes) :
    ∃ file, CompoundFile.ofBytes bytes = .ok file ∧
      (∀ stream ∈ layout.streams, file.stream? stream.1 = .ok (some stream.2)) ∧
      ∀ name, (∀ entry ∈ layout.entries, entry.1 ≠ name) → file.stream? name = .ok none := by
  refine ⟨layout.file bytes, ofBytes_eq_ok legal, ?_, fun name => stream?_eq_none⟩
  intro stream member
  obtain ⟨used, extent, listed, stored⟩ := legal.streams_stored stream member
  exact stream?_eq_ok legal used listed stored

/-- The field of a name in an entry. -/
def nameField (name : String) : List UInt8 :=
  nameBytes name ++ List.replicate (64 - (nameBytes name).length) 0

/-- The bytes of an entry of a directory. -/
def entryBytes (entry : String × Extent) : List UInt8 :=
  nameField entry.1 ++ (two (nameBytes entry.1).length ++ (List.replicate 50 0 ++
    (four entry.2.start ++ (four entry.2.size ++ four 0))))

theorem length_nameBytes (name : String) : (nameBytes name).length = 2 * (name.length + 1) := by
  rw [nameBytes, length_wideBytes, List.length_append, String.length_toList, List.length_singleton]

theorem length_nameField (is_name : IsName name) : (nameField name).length = 64 := by
  have length := length_nameBytes name
  have short := is_name.short
  rw [nameField, List.length_append, List.length_replicate]
  omega

theorem length_two (value : Nat) : (two value).length = 2 := rfl

theorem length_four (value : Nat) : (four value).length = 4 := rfl

theorem number_four_append_zero {value : Nat} (small : value < 256 ^ 4) : number (four value ++ four 0) = value := by
  simp [four, number, byteAt]
  omega

/-- The bytes of an entry write it. -/
theorem writesEntry_entryBytes {entry : String × Extent} (is_name : IsName entry.1)
    (start : entry.2.start < 256 ^ 4) (size : entry.2.size < 256 ^ 4) : WritesEntry (entryBytes entry) entry := by
  have name_length := length_nameField is_name
  have gap_length : (List.replicate 50 (0 : UInt8)).length = 50 := List.length_replicate
  refine ⟨?_, .inr ⟨is_name, ?_, ?_⟩, ?_, ?_⟩
  · simp only [entryBytes, List.length_append, name_length, gap_length, length_two, length_four, entrySize]
  · have length := length_nameBytes entry.1
    have short := is_name.short
    rw [entryBytes, show 64 = 64 + 0 from rfl, field_append name_length, field_front (length_two _),
      number_two (by omega)]
  · rw [entryBytes, nameField, List.append_assoc]
    exact List.prefix_append ..
  · rw [entryBytes, show 116 = 64 + (2 + (50 + 0)) from rfl, field_append name_length, field_append (length_two _),
      field_append gap_length, field_front (length_four _), number_four start]
  · rw [entryBytes, show 120 = 64 + (2 + (50 + (4 + 0))) from rfl, field_append name_length,
      field_append (length_two _), field_append gap_length, field_append (length_four _)]
    exact number_four_append_zero size

/-- The entries of a directory are written one after the other. -/
theorem written_entryBytes {entries : List (String × Extent)} (names : ∀ entry ∈ entries, IsName entry.1)
    (small : ∀ entry ∈ entries, entry.2.start < 256 ^ 4 ∧ entry.2.size < 256 ^ 4) :
    List.Forall₂ WritesEntry (entries.map entryBytes) entries := by
  rw [List.forall₂_map_left_iff, List.forall₂_same]
  exact fun entry member => writesEntry_entryBytes (names entry member) (small entry member).1 (small entry member).2

section
variable {pieces : List (List UInt8)} {piece : List UInt8} {place start : Nat} {places : List Nat} (some_size : 0 < layout.size)
  (even : ∀ piece ∈ pieces, piece.length = layout.size)
include some_size even

/-- A header and sectors that are put one behind the other are the sectors of the file. -/
theorem sector_flatten (here : pieces[place + 1]? = some piece) : layout.sector pieces.flatten place = piece :=
  slice_flatten some_size even here

theorem hasSector_flatten (inside : place + 1 < pieces.length) : layout.HasSector pieces.flatten place := by
  rw [Layout.HasSector, List.length_flatten, List.map_congr_left even, List.map_const', List.sum_replicate, smul_eq_mul]
  exact Nat.mul_lt_mul_of_pos_right inside some_size

theorem directory_flatten (only : layout.directoryPlaces = [place]) (here : pieces[place + 1]? = some piece) :
    layout.directory pieces.flatten = piece := by
  rw [Layout.directory, only, List.flatMap_singleton, sector_flatten some_size even here]

theorem miniTable_flatten (only : layout.miniTablePlaces = [place]) (here : pieces[place + 1]? = some piece) :
    layout.miniTable pieces.flatten = words piece := by
  rw [Layout.miniTable, only, List.flatMap_singleton, sector_flatten some_size even here]

theorem miniStream_flatten (only : layout.miniStreamPlaces = [place]) (here : pieces[place + 1]? = some piece) :
    layout.miniStream pieces.flatten = piece.take layout.root.size := by
  rw [Layout.miniStream, only, List.flatMap_singleton, sector_flatten some_size even here]

/-- A chain of the only sector of the allocation table leads through sectors of the file. -/
theorem isLinked_flatten (only : layout.tablePlaces = [place]) (here : pieces[place + 1]? = some piece)
    (chained : IsChain ((words piece)[·]?) start places) (inside : ∀ place ∈ places, place + 1 < pieces.length) :
    layout.IsLinked pieces.flatten start places := by
  have table : layout.table pieces.flatten = words piece := by
    rw [Layout.table, only, List.flatMap_singleton, sector_flatten some_size even here]
  refine ⟨?_, fun place member => hasSector_flatten some_size even (inside place member)⟩
  rw [table]
  exact chained

end

/-- A sector of the shorter size that goes on with one byte after its first ones. -/
def filled (byte : UInt8) (first : List UInt8) : List UInt8 :=
  first ++ List.replicate (512 - first.length) byte

theorem length_filled (byte : UInt8) {first : List UInt8} (short : first.length ≤ 512) :
    (filled byte first).length = 512 := by
  rw [filled, List.length_append, List.length_replicate]
  omega

/-- A stream that is not short. -/
def longContent : List UInt8 :=
  [12, 11, 10, 9, 8, 7, 6, 5].flatMap fun place => List.replicate 512 (UInt8.ofNat place)

/-- A layout in which a sector lists the only sector of the allocation table and the sectors of a longer stream come
from behind. -/
def sampleLayout : Layout where
  size := 512
  indirectPlaces := [0]
  tablePlaces := [1]
  directoryPlaces := [2]
  miniTablePlaces := [3]
  miniStreamPlaces := [4]
  root := ⟨4, 64⟩
  entries := [("Root Entry", ⟨4, 64⟩), ("Workbook", ⟨12, 4096⟩), ("Note", ⟨0, 3⟩), ("Blank", ⟨0xfffffffe, 0⟩)]
  streams := [("Workbook", longContent), ("Note", [1, 2, 3]), ("Blank", [])]

/-- The sector of the allocation table. -/
def sampleTable : List UInt8 :=
  filled 0xff ([0xfffffffc, 0xfffffffd, 0xfffffffe, 0xfffffffe, 0xfffffffe, 0xfffffffe, 5, 6, 7, 8, 9, 10,
    11].flatMap four)

/-- The header and the sectors of a file with the layout. -/
def samplePieces : List (List UInt8) :=
  [ filled 0xff ([0xd0, 0xcf, 0x11, 0xe0, 0xa1, 0xb1, 0x1a, 0xe1] ++ List.replicate 18 0 ++ two 3 ++ two 0xfffe ++
      two 9 ++ List.replicate 12 0 ++ four 1 ++ four 2 ++ List.replicate 8 0 ++ four 3 ++ four 1 ++ four 0 ++ four 1),
    four 1 ++ List.replicate 504 0xff ++ four 0xfffffffe,
    sampleTable,
    (sampleLayout.entries.map entryBytes).flatten,
    filled 0xff (four 0xfffffffe),
    filled 0 [1, 2, 3],
    List.replicate 512 5, List.replicate 512 6, List.replicate 512 7, List.replicate 512 8, List.replicate 512 9,
    List.replicate 512 10, List.replicate 512 11, List.replicate 512 12 ]

theorem sample_written : List.Forall₂ WritesEntry (sampleLayout.entries.map entryBytes) sampleLayout.entries := by
  refine written_entryBytes ?_ (by decide)
  simp only [sampleLayout, List.forall_mem_cons]
  exact ⟨⟨by decide, by simp⟩, ⟨by decide, by simp⟩, ⟨by decide, by simp⟩, ⟨by decide, by simp⟩, List.forall_mem_nil _⟩

theorem length_longContent : longContent.length = 4096 := by
  simp only [longContent, List.flatMap_cons, List.flatMap_nil, List.length_append, List.length_replicate,
    List.length_nil]

theorem samplePieces_even : ∀ piece ∈ samplePieces, piece.length = 512 := by
  simp only [samplePieces, List.forall_mem_cons]
  refine ⟨length_filled _ (by decide), ?_, length_filled _ (by decide), ?_, length_filled _ (by decide),
    length_filled _ (by decide), ?_⟩
  · rw [List.length_append, List.length_append, List.length_replicate, length_four, length_four]
  · rw [List.length_flatten, List.map_congr_left (length_of_written sample_written)]
    rfl
  · simp only [List.length_replicate, true_and]
    exact List.forall_mem_nil _

theorem length_samplePieces : samplePieces.flatten.length = 14 * 512 := by
  rw [List.length_flatten, List.map_congr_left samplePieces_even, List.map_const', List.sum_replicate, smul_eq_mul]
  rfl

theorem sample_hasSector {place : Nat} (inside : place < 13) : sampleLayout.HasSector samplePieces.flatten place :=
  hasSector_flatten (by decide) samplePieces_even (Nat.succ_lt_succ inside)

theorem sample_sector {place : Nat} {piece : List UInt8} (here : samplePieces[place + 1]? = some piece) :
    sampleLayout.sector samplePieces.flatten place = piece :=
  sector_flatten (by decide) samplePieces_even here

theorem sample_isLinked {start : Nat} {places : List Nat} (chained : IsChain ((words sampleTable)[·]?) start places)
    (inside : ∀ place ∈ places, place < 13) : sampleLayout.IsLinked samplePieces.flatten start places :=
  isLinked_flatten (by decide) samplePieces_even rfl rfl chained fun place member => Nat.succ_lt_succ (inside place member)

theorem sample_miniTable : sampleLayout.miniTable samplePieces.flatten = words (filled 0xff (four 0xfffffffe)) :=
  miniTable_flatten (by decide) samplePieces_even rfl rfl

theorem sample_miniStream : sampleLayout.miniStream samplePieces.flatten = (filled 0 [1, 2, 3]).take 64 :=
  miniStream_flatten (by decide) samplePieces_even rfl rfl

theorem sample_stores_long : sampleLayout.Stores samplePieces.flatten ⟨12, 4096⟩ longContent := by
  have held : ∀ place ∈ [12, 11, 10, 9, 8, 7, 6, 5],
      sampleLayout.sector samplePieces.flatten place = List.replicate 512 (UInt8.ofNat place) := by
    simp only [List.forall_mem_cons]
    exact ⟨sample_sector rfl, sample_sector rfl, sample_sector rfl, sample_sector rfl, sample_sector rfl,
      sample_sector rfl, sample_sector rfl, sample_sector rfl, List.forall_mem_nil _⟩
  refine ⟨length_longContent.symm, ?_⟩
  rw [length_longContent, if_neg (by decide)]
  refine ⟨[12, 11, 10, 9, 8, 7, 6, 5], sample_isLinked (by decide +kernel) (by decide), ?_⟩
  rw [List.flatMap_congr held]
  exact List.prefix_rfl

theorem sample_stores_short : sampleLayout.Stores samplePieces.flatten ⟨0, 3⟩ [1, 2, 3] := by
  refine ⟨rfl, ?_⟩
  rw [if_pos (by decide)]
  refine ⟨[0], ⟨?_, List.forall_mem_singleton.mpr ?_⟩, ?_⟩
  · rw [sample_miniTable]
    decide +kernel
  · rw [Layout.HasMiniSector, sample_miniStream]
    decide +kernel
  · rw [List.flatMap_singleton, Layout.miniSector, sample_miniStream]
    decide +kernel

theorem sample_stores_nil : sampleLayout.Stores samplePieces.flatten ⟨0xfffffffe, 0⟩ [] := by
  have past : sectorLimit ≤ 0xfffffffe := by decide
  refine ⟨rfl, ?_⟩
  rw [if_pos (by decide)]
  exact ⟨[], ⟨past, List.forall_mem_nil _⟩, List.nil_prefix⟩

theorem sample_isLaidOut : IsLaidOut sampleLayout samplePieces.flatten where
  complete := by
    rw [length_samplePieces]
    decide
  signature := by decide +kernel
  version := .inl ⟨by decide +kernel, by decide +kernel, rfl⟩
  table_count := by decide +kernel
  mini_table_count := by decide +kernel
  indirect_count := by decide +kernel
  indirect_linked := by
    have leads : sampleLayout.following? samplePieces.flatten 0 = some 0xfffffffe := by
      rw [Layout.following?, sample_sector rfl]
      decide +kernel
    exact ⟨by decide +kernel, by decide, _, leads, by decide⟩
  indirect_there := List.forall_mem_singleton.mpr (sample_hasSector (by decide))
  table_listed := by
    rw [sampleLayout, List.flatMap_singleton, Layout.listed, ← sampleLayout, sample_sector rfl]
    decide +kernel
  table_there := List.forall_mem_singleton.mpr (sample_hasSector (by decide))
  directory_linked := sample_isLinked (by decide +kernel) (by decide)
  directory_written := ⟨_, directory_flatten (by decide) samplePieces_even rfl rfl, sample_written⟩
  distinct := by
    rw [DistinctNames, sampleLayout]
    decide
  mini_table_linked := sample_isLinked (by decide +kernel) (by decide)
  root_listed := List.mem_cons_self
  root_linked := sample_isLinked (by decide +kernel) (by decide)
  streams_stored := by
    refine List.forall_mem_cons.mpr ⟨⟨by decide, ⟨12, 4096⟩, by simp [sampleLayout], sample_stores_long⟩, ?_⟩
    refine List.forall_mem_cons.mpr ⟨⟨by decide, ⟨0, 3⟩, by simp [sampleLayout], sample_stores_short⟩, ?_⟩
    exact List.forall_mem_singleton.mpr ⟨by decide, ⟨0xfffffffe, 0⟩, by simp [sampleLayout], sample_stores_nil⟩

/-- A stream that is not short, one that is, and an empty one are given back, and nothing for another name. -/
theorem sample_streams : ∃ file, CompoundFile.ofBytes samplePieces.flatten = .ok file ∧
    (∀ stream ∈ sampleLayout.streams, file.stream? stream.1 = .ok (some stream.2)) ∧
    ∀ name, (∀ entry ∈ sampleLayout.entries, entry.1 ≠ name) → file.stream? name = .ok none :=
  stream?_of_isLaidOut sample_isLaidOut

end Tablesmith.Compound
