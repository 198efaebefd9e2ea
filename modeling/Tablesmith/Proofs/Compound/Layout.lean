import Mathlib
import Tablesmith.Proofs.Compound.Directory

/-!
# Layouts of compound files

A layout tells in which sectors a compound file keeps its tables, its directory and its streams.
These can be anywhere in the file and in any order; only their chains have to lead from one to the
next. Of a file that is laid out, the sectors that a chain needs are found, and the allocation table
is put together from the sectors that are listed for it (`allocationTable_eq_ok`).
-/

namespace Tablesmith.Compound

open Binary

/-- Where a compound file keeps what: the sectors that list sectors of the allocation table beyond
those in the header, the sectors of the table, of the directory, of the table of small sectors and of
the stream that small sectors are in, with the extent of this stream; the entries of the directory,
used or not; and the streams with their names. -/
structure Layout where
  size : Nat
  indirectPlaces : List Nat
  tablePlaces : List Nat
  directoryPlaces : List Nat
  miniTablePlaces : List Nat
  miniStreamPlaces : List Nat
  root : Extent
  entries : List (String × Extent)
  streams : List (String × List UInt8)

namespace Layout

variable (layout : Layout) (bytes : List UInt8)

/-- There is a sector: it begins before the end of the file. The header fills the place of one. -/
def HasSector (place : Nat) : Prop :=
  (place + 1) * layout.size < bytes.length

/-- The bytes of a sector. -/
def sector (place : Nat) : List UInt8 :=
  slice ((place + 1) * layout.size) layout.size bytes

/-- The sectors of the allocation table that a sector lists. -/
def listed (place : Nat) : List Nat :=
  (words (layout.sector bytes place)).dropLast

/-- Where a sector that lists sectors of the table leads: the number after those that it lists. -/
def following? (place : Nat) : Option Nat :=
  (words (layout.sector bytes place)).getLast?

/-- The allocation table. -/
def table : List Nat :=
  layout.tablePlaces.flatMap fun place => words (layout.sector bytes place)

/-- The bytes of the directory. -/
def directory : List UInt8 :=
  layout.directoryPlaces.flatMap (layout.sector bytes)

/-- The allocation table of small sectors. -/
def miniTable : List Nat :=
  words (layout.miniTablePlaces.flatMap (layout.sector bytes))

/-- The stream that small sectors are in. -/
def miniStream : List UInt8 :=
  (layout.miniStreamPlaces.flatMap (layout.sector bytes)).take layout.root.size

/-- There is a small sector. They are counted from the beginning of their stream. -/
def HasMiniSector (place : Nat) : Prop :=
  place * CompoundFile.miniSectorSize < (layout.miniStream bytes).length

/-- The bytes of a small sector. -/
def miniSector (place : Nat) : List UInt8 :=
  slice (place * CompoundFile.miniSectorSize) CompoundFile.miniSectorSize (layout.miniStream bytes)

/-- Some places, from a start on, are sectors that the allocation table links. -/
def IsLinked (start : Nat) (places : List Nat) : Prop :=
  IsChain ((layout.table bytes)[·]?) start places ∧ ∀ place ∈ places, layout.HasSector bytes place

/-- Some places, from a start on, are small sectors that their table links. -/
def IsMiniLinked (start : Nat) (places : List Nat) : Prop :=
  IsChain ((layout.miniTable bytes)[·]?) start places ∧ ∀ place ∈ places, layout.HasMiniSector bytes place

/-- A content is stored in an extent: the sectors of its chain begin with it, and they are small ones if it is below
the limit. -/
def Stores (extent : Extent) (content : List UInt8) : Prop :=
  extent.size = content.length ∧
    if content.length < CompoundFile.miniStreamLimit then
      ∃ places, layout.IsMiniLinked bytes extent.start places ∧ content <+: places.flatMap (layout.miniSector bytes)
    else
      ∃ places, layout.IsLinked bytes extent.start places ∧ content <+: places.flatMap (layout.sector bytes)

end Layout

/-- Bytes are a compound file with a layout, in one of the two versions. What is not said here can be anything: where
the sectors are, what is in sectors that belong to nothing, and what follows the end of a stream. That a chain comes to
no sector twice follows from its end. -/
structure IsLaidOut (layout : Layout) (bytes : List UInt8) : Prop where
  complete : headerSize ≤ bytes.length
  signature : field 0 8 bytes = signatureNumber
  version : field 26 2 bytes = 3 ∧ field 30 2 bytes = 9 ∧ layout.size = 512 ∨
    field 26 2 bytes = 4 ∧ field 30 2 bytes = 12 ∧ layout.size = 4096
  table_count : field 44 4 bytes = layout.tablePlaces.length
  mini_table_count : field 64 4 bytes = layout.miniTablePlaces.length
  indirect_count : field 72 4 bytes = layout.indirectPlaces.length
  indirect_linked : IsChain (layout.following? bytes) (field 68 4 bytes) layout.indirectPlaces
  indirect_there : ∀ place ∈ layout.indirectPlaces, layout.HasSector bytes place
  table_listed : (words (slice 76 (headerSize - 76) bytes) ++
    layout.indirectPlaces.flatMap (layout.listed bytes)).filter (· < sectorLimit) = layout.tablePlaces
  table_there : ∀ place ∈ layout.tablePlaces, layout.HasSector bytes place
  directory_linked : layout.IsLinked bytes (field 48 4 bytes) layout.directoryPlaces
  directory_written : ∃ pieces, layout.directory bytes = pieces.flatten ∧
    List.Forall₂ WritesEntry pieces layout.entries
  distinct : DistinctNames layout.entries
  mini_table_linked : layout.IsLinked bytes (field 60 4 bytes) layout.miniTablePlaces
  root_listed : (rootName, layout.root) ∈ layout.entries
  root_linked : layout.IsLinked bytes layout.root.start layout.miniStreamPlaces
  streams_stored : ∀ stream ∈ layout.streams, stream.1 ≠ "" ∧
    ∃ extent, (stream.1, extent) ∈ layout.entries ∧ layout.Stores bytes extent stream.2

section reading

variable {layout : Layout} {bytes : List UInt8} {start : Nat} {places : List Nat}

theorem IsLaidOut.some_size (legal : IsLaidOut layout bytes) : 0 < layout.size := by
  rcases legal.version with ⟨-, -, size⟩ | ⟨-, -, size⟩ <;> rw [size] <;> decide

theorem sector?_eq_some (some_size : 0 < layout.size) {place : Nat} (there : layout.HasSector bytes place) :
    sector? (chunks layout.size bytes).toArray place = some (layout.sector bytes place) := by
  rw [sector?, List.getElem?_toArray, getElem?_chunks some_size there]
  rfl

theorem miniSector?_eq_some {place : Nat} (there : layout.HasMiniSector bytes place) :
    miniSector? (chunks CompoundFile.miniSectorSize (layout.miniStream bytes)).toArray place =
      some (layout.miniSector bytes place) := by
  rw [miniSector?, List.getElem?_toArray, getElem?_chunks (by decide) there]
  rfl

theorem needSector_eq_ok (some_size : 0 < layout.size) {place : Nat} (there : layout.HasSector bytes place) :
    needSector (chunks layout.size bytes).toArray place = .ok (layout.sector bytes place) := by
  rw [needSector, sector?_eq_some some_size there]

theorem needChain_eq_ok (some_size : 0 < layout.size) (linked : layout.IsLinked bytes start places) :
    needChain (sector? (chunks layout.size bytes).toArray) (layout.table bytes).toArray start =
      .ok (places.flatMap (layout.sector bytes)) := by
  have chained : IsChain ((layout.table bytes).toArray[·]?) start places := by simpa using linked.1
  rw [needChain, chain?_eq_some chained fun place member => sector?_eq_some some_size (linked.2 place member)]

theorem needChain_mini_eq_ok (linked : layout.IsMiniLinked bytes start places) :
    needChain (miniSector? (chunks CompoundFile.miniSectorSize (layout.miniStream bytes)).toArray)
      (layout.miniTable bytes).toArray start = .ok (places.flatMap (layout.miniSector bytes)) := by
  have chained : IsChain ((layout.miniTable bytes).toArray[·]?) start places := by simpa using linked.1
  rw [needChain, chain?_eq_some chained fun place member => miniSector?_eq_some (linked.2 place member)]

/-- Sectors that list sectors of the table add what they list, but not the number that leads to the next of them. -/
theorem indirect_eq_ok (some_size : 0 < layout.size) {expected count : Nat} (earlier : List Nat)
    (linked : IsChain (layout.following? bytes) start places)
    (there : ∀ place ∈ places, layout.HasSector bytes place) (counted : count + places.length = expected) :
    indirect (chunks layout.size bytes).toArray expected earlier start count =
      .ok (earlier ++ places.flatMap (layout.listed bytes), expected) := by
  induction places generalizing start count earlier with
  | nil =>
    obtain rfl : count = expected := counted
    rw [indirect, if_pos (.inl linked), List.flatMap_nil, List.append_nil]
  | cons place rest ih =>
    obtain ⟨rfl, is_sector, following, leads, rest_linked⟩ := linked
    obtain ⟨here, rest_there⟩ := List.forall_mem_cons.mp there
    rw [List.length_cons] at counted
    have more : ¬ (sectorLimit ≤ start ∨ expected < count) := by omega
    rw [Layout.following?] at leads
    have filled : words (layout.sector bytes start) ≠ [] := by
      intro empty
      rw [empty] at leads
      cases leads
    have last : (earlier ++ words (layout.sector bytes start)).getLast? = some following := by
      rw [List.getLast?_append_of_ne_nil _ filled, leads]
    rw [indirect, if_neg more, needSector_eq_ok some_size here]
    simp only [last]
    rw [ih _ rest_linked rest_there (by omega), List.dropLast_append_of_ne_nil filled, List.flatMap_cons,
      List.append_assoc, Layout.listed]

theorem mapM_needSector_eq_ok (some_size : 0 < layout.size) (there : ∀ place ∈ places, layout.HasSector bytes place) :
    places.mapM (needSector (chunks layout.size bytes).toArray) = .ok (places.map (layout.sector bytes)) := by
  induction places with
  | nil => rfl
  | cons place rest ih =>
    obtain ⟨here, rest_there⟩ := List.forall_mem_cons.mp there
    rw [List.mapM_cons, needSector_eq_ok some_size here, ih rest_there]
    rfl

theorem allocationTable_eq_ok (legal : IsLaidOut layout bytes) {header : Header}
    (table_count : header.tableCount = layout.tablePlaces.length)
    (indirect_start : header.indirectStart = field 68 4 bytes)
    (indirect_count : header.indirectCount = layout.indirectPlaces.length) :
    allocationTable (chunks layout.size bytes).toArray header (words (slice 76 (headerSize - 76) bytes)) =
      .ok (layout.table bytes).toArray := by
  have listed := indirect_eq_ok legal.some_size (words (slice 76 (headerSize - 76) bytes)) legal.indirect_linked
    legal.indirect_there (Nat.zero_add _)
  have contents := mapM_needSector_eq_ok legal.some_size legal.table_there
  rw [allocationTable, indirect_start, indirect_count, listed]
  simp [legal.table_listed, contents, table_count, Layout.table, List.flatMap_map, bind, Except.bind, pure,
    Except.pure]

end reading

end Tablesmith.Compound
