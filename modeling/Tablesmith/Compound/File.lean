import Tablesmith.Binary.LittleEndian
import Tablesmith.Number.Numeral
import Tablesmith.Text.Encoding.Basic

/-!
# Compound files

A compound file holds named streams in sectors. Its header tells where the allocation table and the
directory begin; short streams are kept in smaller sectors, which are together a stream of their own.
The allocation table links the sectors of a stream into a chain. A chain that is longer than its table
has come back to a sector that it had left.
-/

namespace Tablesmith.Compound

/-- From this number on an entry of an allocation table is a mark and not a sector. -/
def sectorLimit : Nat := 0xfffffffb

/-- The content of the sectors of a chain from `sector` on, at most `fuel` of them. A sector must be
in the file and in the table. -/
def follow? (content? : Nat → Option (List UInt8)) (table : Array Nat) :
    Nat → Nat → Option (List UInt8)
  | fuel, sector =>
    if sectorLimit ≤ sector then some []
    else
      match fuel, content? sector, table[sector]? with
      | fuel + 1, some content, some next =>
        (follow? content? table fuel next).map (content ++ ·)
      | _, _, _ => none

/-- The content of a whole chain, which can have as many sectors as its table has entries. -/
def chain? (content? : Nat → Option (List UInt8)) (table : Array Nat) (start : Nat) :
    Option (List UInt8) :=
  follow? content? table table.size start

end Tablesmith.Compound

namespace Tablesmith

open Tablesmith.Binary
open Tablesmith.Compound
open Tablesmith.Number
open Tablesmith.Text

/-- Why a file is no compound file. -/
inductive CompoundError
  | damaged
  | signature
  | sectorSize (version shift : Nat)
  | indirectCount (expected actual : Nat)
  | tableCount (expected actual : Nat)
  | noRoot
deriving DecidableEq

namespace CompoundError

def message : CompoundError → String
  | damaged => "The file is corrupted or has an invalid CFB structure"
  | signature => "Invalid OLE signature (not an office document?)"
  | sectorSize version shift =>
    "Invalid Sector size '2 ^ " ++ showNat shift ++ "' for major version '" ++ showNat version ++ "'"
  | indirectCount expected actual =>
    "The number of double indirect file allocation table error: expect '" ++ showNat expected
      ++ "', actual '" ++ showNat actual ++ "'"
  | tableCount expected actual =>
    "The number of file allocation table error: expect '" ++ showNat expected ++ "', actual '"
      ++ showNat actual ++ "'"
  | noRoot => "Empty Root directory"

end CompoundError

namespace Compound

/-- The first sector and the length of a stream. -/
structure Extent where
  start : Nat
  size : Nat

/-- The fields of a header that tell where everything is. -/
structure Header where
  version : Nat
  sectorShift : Nat
  tableCount : Nat
  directoryStart : Nat
  miniTableStart : Nat
  miniTableCount : Nat
  indirectStart : Nat
  indirectCount : Nat

def headerSize : Nat := 512

/-- The number in the first eight bytes. -/
def signatureNumber : Nat := 0xe11ab1a1e011cfd0

def Header.read (bytes : List UInt8) : Except CompoundError Header :=
  if bytes.length < headerSize then .error .damaged
  else if field 0 8 bytes ≠ signatureNumber then .error .signature
  else
    .ok
      { version := field 26 2 bytes
        sectorShift := field 30 2 bytes
        tableCount := field 44 4 bytes
        directoryStart := field 48 4 bytes
        miniTableStart := field 60 4 bytes
        miniTableCount := field 64 4 bytes
        indirectStart := field 68 4 bytes
        indirectCount := field 72 4 bytes }

/-- The size of a sector, of which each version has one. -/
def Header.sectorSize (header : Header) : Except CompoundError Nat :=
  if header.version = 3 ∧ header.sectorShift = 9 then .ok 512
  else if header.version = 4 ∧ header.sectorShift = 12 then .ok 4096
  else .error (.sectorSize header.version header.sectorShift)

/-- The content of a sector; sectors are counted from the end of the header, which fills one. -/
def sector? (pieces : Array (List UInt8)) (sector : Nat) : Option (List UInt8) :=
  pieces[sector + 1]?

/-- The content of a small sector. -/
def miniSector? (pieces : Array (List UInt8)) (sector : Nat) : Option (List UInt8) :=
  pieces[sector]?

/-- The content of a sector that must be there. -/
def needSector (pieces : Array (List UInt8)) (sector : Nat) :
    Except CompoundError (List UInt8) :=
  match sector? pieces sector with
  | some content => .ok content
  | none => .error .damaged

/-- The content of a chain of sectors that must be sound. -/
def needChain (content? : Nat → Option (List UInt8)) (table : Array Nat) (start : Nat) :
    Except CompoundError (List UInt8) :=
  match chain? content? table start with
  | some content => .ok content
  | none => .error .damaged

/-- The entries that the header and the sectors linked from it give for the sectors of the allocation
table; `count` sectors were read, and at most one more than `expected` are. -/
def indirect (pieces : Array (List UInt8)) (expected : Nat) (entries : List Nat) (next : Nat)
    (count : Nat) : Except CompoundError (List Nat × Nat) :=
  if sectorLimit ≤ next ∨ expected < count then .ok (entries, count)
  else
    match needSector pieces next with
    | .error reason => .error reason
    | .ok content =>
      let longer := entries ++ words content
      match longer.getLast? with
      | none => .error .damaged
      | some following => indirect pieces expected longer.dropLast following (count + 1)
termination_by expected + 1 - count

def allocationTable (pieces : Array (List UInt8)) (header : Header) (inHeader : List Nat) :
    Except CompoundError (Array Nat) := do
  let (entries, count) ←
    indirect pieces header.indirectCount inHeader header.indirectStart 0
  if count ≠ header.indirectCount then throw (.indirectCount header.indirectCount count)
  let sectors := entries.filter (· < sectorLimit)
  let contents ← sectors.mapM (needSector pieces)
  if sectors.length ≠ header.tableCount then throw (.tableCount header.tableCount sectors.length)
  return (contents.flatMap words).toArray

/-- The length of an entry of the directory. -/
def entrySize : Nat := 128

/-- The name of a directory entry, up to the first zero. -/
def entryName (entry : List UInt8) : String :=
  let written := Encoding.decodeMarked (entry.take (min (field 64 2 entry) 64))
  String.ofList (written.takeWhile (· ≠ '\x00'))

def readEntry (entry : List UInt8) : String × Extent :=
  (entryName entry, ⟨field 116 4 entry, field 120 8 entry⟩)

/-- The entries of a directory; a shorter piece at the end is none. -/
def readDirectory (bytes : List UInt8) : List (String × Extent) :=
  ((chunks entrySize bytes).filter (·.length = entrySize)).map readEntry

/-- The name of the entry that holds the small sectors. -/
def rootName : String := "Root Entry"

/-- The extent of a stream; of two streams with one name the later counts. -/
def extent? (directory : List (String × Extent)) (name : String) : Option Extent :=
  directory.reverse.lookup name

end Compound

/-- A compound file: its directory, and its sectors of both sizes with their allocation tables. -/
structure CompoundFile where
  directory : List (String × Extent)
  sectors : Array (List UInt8)
  table : Array Nat
  miniSectors : Array (List UInt8)
  miniTable : Array Nat

namespace CompoundFile

def miniSectorSize : Nat := 64

/-- Streams below this length are kept in small sectors. -/
def miniStreamLimit : Nat := 4096

def ofBytes (bytes : List UInt8) : Except CompoundError CompoundFile := do
  let header ← Header.read bytes
  let size ← header.sectorSize
  let sectors := (chunks size bytes).toArray
  let table ← allocationTable sectors header (words (slice 76 (headerSize - 76) bytes))
  let directory := readDirectory (← needChain (sector? sectors) table header.directoryStart)
  if directory.isEmpty then throw .noRoot
  let miniTable ←
    if 0 < header.miniTableCount then needChain (sector? sectors) table header.miniTableStart
    else pure []
  let miniStream ←
    match extent? directory rootName with
    | some root => (needChain (sector? sectors) table root.start).map (·.take root.size)
    | none => pure []
  return {
    directory := directory
    sectors := sectors
    table := table
    miniSectors := (chunks miniSectorSize miniStream).toArray
    miniTable := (words miniTable).toArray }

/-- There is a stream with the name. -/
def contains (file : CompoundFile) (name : String) : Bool :=
  (extent? file.directory name).isSome

def stream? (file : CompoundFile) (name : String) : Except CompoundError (Option (List UInt8)) :=
  match extent? file.directory name with
  | none => .ok none
  | some extent =>
    let content :=
      if extent.size < miniStreamLimit then
        needChain (miniSector? file.miniSectors) file.miniTable extent.start
      else needChain (sector? file.sectors) file.table extent.start
    content.map fun bytes => some (bytes.take extent.size)

end CompoundFile

end Tablesmith
