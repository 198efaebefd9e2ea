import Mathlib
import Tablesmith.Proofs.OrderedBy
import Tablesmith.Zip.Archive

/-!
# Stored archives

An archive of members that are not compressed reads back: the members of what
`store` writes are the files, with their contents (`content?_store`). Nothing
depends on what the contents are. Marks inside of them are passed over, because the
last end record counts, and the checksums are never evaluated.
-/

namespace Tablesmith.Zip

open Binary Text

/-- A byte of a number, the lowest being at place 0. -/
def byteAt (place value : Nat) : UInt8 :=
  UInt8.ofNat (value / 256 ^ place)

/-- A number in two bytes. -/
def two (value : Nat) : List UInt8 :=
  [byteAt 0 value, byteAt 1 value]

/-- A number in four bytes. -/
def four (value : Nat) : List UInt8 :=
  [byteAt 0 value, byteAt 1 value, byteAt 2 value, byteAt 3 value]

theorem number_two {value : Nat} (small : value < 256 ^ 2) : number (two value) = value := by
  simp [two, number, byteAt]
  omega

theorem number_four {value : Nat} (small : value < 256 ^ 4) : number (four value) = value := by
  simp [four, number, byteAt]
  omega

/-- A file that is stored in an archive. -/
structure StoredFile where
  name : List UInt8
  content : List UInt8

namespace StoredFile

/-- What a member and its entry in the directory both say about a file. -/
def header (file : StoredFile) : List UInt8 :=
  two 20 ++ two 0 ++ two 0 ++ four 0 ++ four (crc32 file.content).toNat ++ four file.content.length ++
    four file.content.length ++ two file.name.length ++ two 0

/-- A file as a member of an archive. -/
def member (file : StoredFile) : List UInt8 :=
  memberMark ++ (file.header ++ (file.name ++ file.content))

/-- The entry of a file in the directory. -/
def entry (offset : Nat) (file : StoredFile) : List UInt8 :=
  directoryMark ++ (two 20 ++ (file.header ++ (two 0 ++ two 0 ++ two 0 ++ four 0 ++ four offset ++ file.name)))

/-- What the directory says about a file. -/
def listed (offset : Nat) (file : StoredFile) : String × Member :=
  (memberName 0 file.name, ⟨0, 0, (crc32 file.content).toNat, file.content.length, offset⟩)

end StoredFile

/-- Files with the offsets of their members, the first of which is at an offset. -/
def placed (offset : Nat) : List StoredFile → List (Nat × StoredFile)
  | [] => []
  | file :: files => (offset, file) :: placed (offset + file.member.length) files

/-- The members of an archive. -/
def members (files : List StoredFile) : List UInt8 :=
  files.flatMap StoredFile.member

/-- The directory of an archive. -/
def directory (files : List StoredFile) : List UInt8 :=
  (placed 0 files).flatMap fun file => file.2.entry file.1

/-- The end record of an archive. -/
def endRecord (files : List StoredFile) : List UInt8 :=
  endMark ++ (two 0 ++ two 0 ++ two files.length ++ two files.length ++ four (directory files).length ++
    four (members files).length ++ two 0)

/-- The archive of some files. -/
def store (files : List StoredFile) : List UInt8 :=
  members files ++ (directory files ++ endRecord files)

/-- All numbers in the archive of some files fit into their fields. -/
structure Fits (files : List StoredFile) : Prop where
  count : files.length < 256 ^ 2
  names : ∀ file ∈ files, file.name.length < 256 ^ 2
  size : (members files).length < 256 ^ 4

variable {files : List StoredFile} {file : StoredFile} {offset : Nat}

theorem placesFrom_eq (mark bytes : List UInt8) (start : Nat) : placesFrom mark start bytes =
    ((List.range bytes.length).filter fun place => mark.isPrefixOf (bytes.drop place)).map (start + ·) := by
  induction bytes generalizing start with
  | nil => rfl
  | cons byte bytes ih =>
    have shifted : ((fun place => start + place) ∘ Nat.succ) = fun place => start + 1 + place := by
      funext place
      simp only [Function.comp_apply]
      omega
    rw [placesFrom, List.length_cons, List.range_succ_eq_map, List.filter_cons, List.filter_map, ih]
    split
    · next here => simp [here, shifted, Function.comp_def]
    · next here => simp [here, shifted, Function.comp_def]

theorem places_eq (mark bytes : List UInt8) :
    places mark bytes = (List.range bytes.length).filter fun place => mark.isPrefixOf (bytes.drop place) := by
  rw [places, placesFrom_eq]
  simp

/-- The last of ascending places at which something is found is the first one from behind. -/
theorem findSome?_reverse_eq_some {α : Type} {places : List Nat} {find : Nat → Option α} {last : Nat} {found : α}
    (ascending : places.Pairwise (· < ·)) (member : last ∈ places) (at_last : find last = some found)
    (behind : ∀ place, last < place → find place = none) : places.reverse.findSome? find = some found := by
  obtain ⟨before, after, rfl⟩ := List.append_of_mem member
  have later : ∀ place ∈ after, last < place := (List.pairwise_cons.mp (List.pairwise_append.mp ascending).2.1).1
  refine List.findSome?_eq_some_iff.mpr ⟨after.reverse, last, before.reverse, by simp, at_last, ?_⟩
  intro place place_after
  exact behind place (later place (List.mem_reverse.mp place_after))

theorem length_entry (offset : Nat) (file : StoredFile) :
    (file.entry offset).length = entryLength + file.name.length := by
  simp [StoredFile.entry, StoredFile.header, directoryMark, two, four, entryLength]
  omega

theorem length_endRecord (files : List StoredFile) : (endRecord files).length = endLength := rfl

theorem drop_members (files : List StoredFile) :
    (store files).drop (members files).length = directory files ++ endRecord files :=
  List.drop_left

theorem drop_directory (files : List StoredFile) :
    (store files).drop ((members files).length + (directory files).length) = endRecord files := by
  rw [← List.drop_drop, drop_members, List.drop_left]

theorem read_endRecord (fits : Fits files) :
    EndRecord.read? (store files) ((members files).length + (directory files).length) =
      some ⟨(members files).length + (directory files).length, 0, 0, files.length, (members files).length⟩ := by
  have comment : field 20 2 (endRecord files) = 0 := rfl
  have count : field 10 2 (endRecord files) = files.length := number_two fits.count
  have offset : field 16 4 (endRecord files) = (members files).length := number_four fits.size
  have disk : field 4 2 (endRecord files) = 0 := rfl
  have directory_disk : field 6 2 (endRecord files) = 0 := rfl
  rw [EndRecord.read?, drop_directory]
  simp only [comment, count, offset, disk, directory_disk, length_endRecord]
  rw [if_neg (by omega)]

theorem mem_places_iff {mark bytes : List UInt8} {place : Nat} :
    place ∈ places mark bytes ↔ place < bytes.length ∧ mark.isPrefixOf (bytes.drop place) = true := by
  rw [places_eq, List.mem_filter, List.mem_range]

theorem ascending_places (mark bytes : List UInt8) : (places mark bytes).Pairwise (· < ·) := by
  rw [places_eq]
  exact List.pairwise_lt_range.filter _

theorem length_store (files : List StoredFile) :
    (store files).length = (members files).length + (directory files).length + endLength := by
  simp [store, length_endRecord, Nat.add_assoc]

/-- A directory that is not empty begins with the mark of its first entry. -/
theorem directory_isPrefixOf (filled : files ≠ []) (rest : List UInt8) :
    directoryMark.isPrefixOf (directory files ++ rest) = true := by
  cases files with
  | nil => exact absurd rfl filled
  | cons file files => rfl

theorem directoryPlace_store (filled : files ≠ []) : EndRecord.directoryPlace?
    ⟨(members files).length + (directory files).length, 0, 0, files.length, (members files).length⟩
      (places directoryMark (store files)) = some (members files).length := by
  have some_files : files.length ≠ 0 := by simpa using filled
  have marked := directory_isPrefixOf filled (endRecord files)
  have some_entries : 0 < (directory files).length := by
    cases files with
    | nil => exact absurd rfl filled
    | cons file files => simp [directory, placed, length_entry, entryLength]
  rw [EndRecord.directoryPlace?, if_neg some_files, places_eq, List.find?_filter, List.find?_range_eq_some]
  refine ⟨?_, ?_, ?_⟩
  · simp [drop_members, marked, some_entries]
  · rw [List.mem_range, length_store]
    omega
  · intro place before
    have outside : ¬ ((members files).length ≤ place ∧ place < (members files).length + (directory files).length) := by
      omega
    simp [outside]

/-- The end record is found, and in front of it the directory. -/
theorem findEnd_store (fits : Fits files) (filled : files ≠ []) : findEnd? (store files) =
    some (⟨(members files).length + (directory files).length, 0, 0, files.length, (members files).length⟩,
      (members files).length) := by
  have member : (members files).length + (directory files).length ∈ places endMark (store files) := by
    refine mem_places_iff.mpr ⟨?_, ?_⟩
    · simp [length_store, endLength]
    · rw [drop_directory]
      rfl
  refine findSome?_reverse_eq_some (ascending_places endMark (store files)) member ?_ ?_
  · rw [read_endRecord fits, Option.bind_some, directoryPlace_store filled]
    rfl
  · intro place behind
    have short : ((store files).drop place).length < endLength := by
      rw [List.length_drop, length_store, endLength]
      omega
    rw [EndRecord.read?, if_pos (by omega)]
    rfl

theorem readEntry_entry (named : file.name.length < 256 ^ 2) (small : file.content.length < 256 ^ 4)
    (near : offset < 256 ^ 4) (rest : List UInt8) :
    readEntry? (file.entry offset ++ rest) = some (file.listed offset, rest) := by
  have name_length : field 28 2 (file.entry offset ++ rest) = file.name.length := number_two named
  have extra : field 30 2 (file.entry offset ++ rest) = 0 := rfl
  have comment : field 32 2 (file.entry offset ++ rest) = 0 := rfl
  have flags : field 8 2 (file.entry offset ++ rest) = 0 := rfl
  have method : field 10 2 (file.entry offset ++ rest) = 0 := rfl
  have checksum : field 16 4 (file.entry offset ++ rest) = (crc32 file.content).toNat :=
    number_four (crc32 file.content).toNat_lt
  have size : field 20 4 (file.entry offset ++ rest) = file.content.length := number_four small
  have place : field 42 4 (file.entry offset ++ rest) = offset := number_four near
  have marked : directoryMark.isPrefixOf (file.entry offset ++ rest) = true := rfl
  have name : slice entryLength file.name.length (file.entry offset ++ rest) = file.name := by
    have behind : (file.entry offset ++ rest).drop entryLength = file.name ++ rest := rfl
    rw [slice, behind, List.take_left]
  have whole : (file.entry offset ++ rest).drop (entryLength + file.name.length) = rest := by
    rw [← length_entry offset file, List.drop_left]
  simp only [ readEntry?, name_length, extra, comment, flags, method, checksum, size, place, marked, name, Nat.add_zero,
    whole, List.length_append, length_entry]
  rw [if_neg (by simp)]
  rfl

theorem length_member (file : StoredFile) :
    file.member.length = Archive.memberLength + file.name.length + file.content.length := by
  simp [StoredFile.member, StoredFile.header, memberMark, two, four, Archive.memberLength]
  omega

/-- The member of a file that is placed somewhere stands at its offset. -/
theorem drop_placed {start : Nat} (is_placed : (offset, file) ∈ placed start files) : start ≤ offset ∧
    ∃ rest, (members files).drop (offset - start) = file.member ++ rest := by
  induction files generalizing start with
  | nil => cases is_placed
  | cons first files ih =>
    rw [members, List.flatMap_cons, ← members]
    rcases List.mem_cons.mp is_placed with same | later
    · cases same
      exact ⟨Nat.le_refl _, members files, by simp⟩
    · obtain ⟨behind, rest, found⟩ := ih later
      refine ⟨by omega, rest, ?_⟩
      have further : offset - start = first.member.length + (offset - (start + first.member.length)) := by omega
      rw [further, ← List.drop_drop, List.drop_left, found]

theorem map_placed (start : Nat) (files : List StoredFile) : (placed start files).map Prod.snd = files := by
  induction files generalizing start with
  | nil => rfl
  | cons file files ih => rw [placed, List.map_cons, ih]

/-- What the directory says about all files. -/
def listing (files : List StoredFile) : List (String × Member) :=
  (placed 0 files).map fun file => file.2.listed file.1

theorem readEntries_entries {entries : List (Nat × StoredFile)} {known : TextMap Member} {rest : List UInt8}
    (fits : ∀ entry ∈ entries, entry.2.name.length < 256 ^ 2 ∧ entry.2.content.length < 256 ^ 4 ∧ entry.1 < 256 ^ 4) :
    readEntries known (entries.flatMap (fun entry => entry.2.entry entry.1) ++ rest) entries.length =
      .ok ((entries.map fun entry => entry.2.listed entry.1).foldl OrderedBy.insert known) := by
  induction entries generalizing known with
  | nil => rfl
  | cons entry entries ih =>
    obtain ⟨⟨named, small, near⟩, rest_fit⟩ := List.forall_mem_cons.mp fits
    rw [List.length_cons, readEntries, List.flatMap_cons, List.append_assoc, readEntry_entry named small near]
    exact ih rest_fit

/-- The archive of some files opens, and lists them. -/
theorem ofBytes_store (fits : Fits files) (filled : files ≠ []) : Archive.ofBytes (store files) =
    .ok ⟨store files, 0, (listing files).foldl OrderedBy.insert OrderedBy.empty⟩ := by
  have entries_fit : ∀ entry ∈ placed 0 files,
      entry.2.name.length < 256 ^ 2 ∧ entry.2.content.length < 256 ^ 4 ∧ entry.1 < 256 ^ 4 := by
    rintro ⟨offset, file⟩ is_placed
    have member : file ∈ files := by
      rw [← map_placed 0 files]
      exact List.mem_map_of_mem is_placed
    obtain ⟨_, rest, found⟩ := drop_placed is_placed
    have lengths := congrArg List.length found
    rw [List.length_drop, List.length_append, length_member, Archive.memberLength] at lengths
    have size := fits.size
    dsimp only
    exact ⟨fits.names file member, by omega, by omega⟩
  have count : (placed 0 files).length = files.length := by
    rw [← List.length_map Prod.snd, map_placed]
  rw [Archive.ofBytes, findEnd_store fits filled]
  dsimp only
  rw [if_neg (by simp), drop_members, ← count, directory, readEntries_entries entries_fit]
  simp [listing, Except.map]

/-- The member of a file is in the archive at its offset. -/
theorem drop_store (is_placed : (offset, file) ∈ placed 0 files) :
    ∃ rest, (store files).drop offset = file.member ++ rest := by
  obtain ⟨_, rest, found⟩ := drop_placed is_placed
  have inside : offset ≤ (members files).length := by
    have lengths := congrArg List.length found
    rw [List.length_drop, List.length_append, length_member, Archive.memberLength] at lengths
    omega
  refine ⟨rest ++ (directory files ++ endRecord files), ?_⟩
  rw [Nat.sub_zero] at found
  rw [store, List.drop_append_of_le_length inside, found, List.append_assoc]

/-- Every member can be opened, and holds the content of its file, undamaged. -/
theorem openMember_store {known : TextMap Member} (named : file.name.length < 256 ^ 2)
    (is_placed : (offset, file) ∈ placed 0 files) :
    Archive.openMember ⟨store files, 0, known⟩ (file.listed offset).2 = .ok ⟨file.content, false⟩ := by
  obtain ⟨rest, found⟩ := drop_store is_placed
  have name_length : field 26 2 (file.member ++ rest) = file.name.length := number_two named
  have extra : field 28 2 (file.member ++ rest) = 0 := rfl
  have marked : memberMark.isPrefixOf (file.member ++ rest) = true := rfl
  have long : ¬ (file.member ++ rest).length < Archive.memberLength := by
    rw [List.length_append, length_member]
    omega
  have content : slice (Archive.memberLength + file.name.length) file.content.length (file.member ++ rest) =
      file.content := by
    have behind : (file.member ++ rest).drop Archive.memberLength = file.name ++ file.content ++ rest := by
      rw [StoredFile.member, List.append_assoc, List.append_assoc]
      rfl
    rw [slice, ← List.drop_drop, behind, List.append_assoc, List.drop_left, List.take_left]
  have data : Archive.data ⟨store files, 0, known⟩ (file.listed offset).2 = .ok file.content := by
    simp only [Archive.data, StoredFile.listed, Nat.zero_add, found, marked, name_length, extra, Nat.add_zero, content]
    rw [if_neg (not_or.mpr ⟨by simp, long⟩)]
  have checked : storedContent file.content (crc32 file.content).toNat = ⟨file.content, false⟩ := by
    simp [storedContent]
  unfold Archive.openMember
  rw [data]
  simp only [StoredFile.listed, Nat.zero_testBit, Bool.false_eq_true, ↓reduceIte]
  exact congrArg Except.ok checked

/-- A name that is looked for, with slashes for its backslashes. -/
def sought (name : String) : String :=
  String.ofList (name.toList.map fun c => if c = '\\' then '/' else c)

/-- An archive of files with different names has the content of each of them. -/
theorem content?_store (fits : Fits files) (filled : files ≠ [])
    (distinct : (files.map fun file => memberName 0 file.name).Nodup) :
    ∃ archive, Archive.ofBytes (store files) = .ok archive ∧ ∀ name, archive.content? name =
      .ok ((files.find? fun file => sameAscii (sought name) (memberName 0 file.name)).map
        fun file => ⟨file.content, false⟩) := by
  have names : (listing files).map Prod.fst = files.map fun file => memberName 0 file.name := by
    rw [listing, List.map_map, ← map_placed 0 files, List.map_map, map_placed]
    rfl
  have listed : OrderedBy.toList ((listing files).foldl OrderedBy.insert (OrderedBy.empty : TextMap Member)) =
      listing files := by
    rw [OrderedBy.toList_foldl_insert, OrderedBy.toList_empty, List.nil_append]
    rw [OrderedBy.toList_empty, List.nil_append, names]
    exact distinct
  refine ⟨_, ofBytes_store fits filled, fun name => ?_⟩
  rw [← map_placed 0 files, List.find?_map, map_placed, Option.map_map]
  unfold Archive.content?
  dsimp only
  rw [listed, listing, List.find?_map]
  -- The directory is searched by the same names as the files.
  have searched : (fun entry : String × Member => sameAscii (sought name) entry.1) ∘
      (fun file : Nat × StoredFile => file.2.listed file.1) =
        (fun file => sameAscii (sought name) (memberName 0 file.name)) ∘ Prod.snd := rfl
  rw [← sought, searched]
  cases found : (placed 0 files).find? _ with
  | none => rfl
  | some place =>
    have is_placed := List.mem_of_find?_eq_some found
    have member : place.2 ∈ files := by
      rw [← map_placed 0 files]
      exact List.mem_map_of_mem is_placed
    simp only [Option.map_some]
    rw [openMember_store (fits.names place.2 member) is_placed]
    rfl

end Tablesmith.Zip
