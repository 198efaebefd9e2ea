import Tablesmith.Binary.LittleEndian
import Tablesmith.OrderedBy
import Tablesmith.Text.Characters
import Tablesmith.Text.Encoding.CodePage
import Tablesmith.Zip.Inflate

/-!
# Archives

An archive holds members behind one another; a directory at its end lists them, and an end record
behind that tells where the directory begins. Bytes in front of the archive shift everything. A member
goes with a checksum of its content.

Of the many ways to keep a member, the two are read that workbooks are written with: stored (0) and deflated (8). All
others are refused (deflate64, bzip2, LZMA, Zstandard, XZ), and so are encrypted members. The 64-bit forms of sizes, of
offsets and of the end record are not known either.
-/

namespace Tablesmith.Zip

open Tablesmith.Binary
open Tablesmith.Text

/-- Why an archive or a member of it cannot be opened. -/
inductive ArchiveError
  | noArchive
  | badDirectory
  | severalDisks
  | badMember
  | encrypted
  | unknownMethod
deriving DecidableEq

namespace ArchiveError

def message : ArchiveError → String
  | noArchive => "invalid Zip archive: Could not find EOCD"
  | badDirectory => "invalid Zip archive: Invalid Central Directory header"
  | severalDisks => "unsupported Zip archive: Support for multi-disk files is not implemented"
  | badMember => "invalid Zip archive: Invalid local file header"
  | encrypted => "unsupported Zip archive: Password required to decrypt file"
  | unknownMethod => "unsupported Zip archive: Compression method not supported"

end ArchiveError

/-- What the directory says about a member. -/
structure Member where
  flags : Nat
  method : Nat
  checksum : Nat
  size : Nat
  offset : Nat

/-- The bytes of an archive, the shift of its offsets, and its members by name. A later member of the
same name takes the place of an earlier one. -/
structure Archive where
  bytes : List UInt8
  shift : Nat
  members : TextMap Member

/-- The first bytes of the end record. -/
def endMark : List UInt8 := [0x50, 0x4b, 5, 6]

/-- The first bytes of an entry of the directory. -/
def directoryMark : List UInt8 := [0x50, 0x4b, 1, 2]

/-- The first bytes of a member. -/
def memberMark : List UInt8 := [0x50, 0x4b, 3, 4]

/-- The places of a mark, counted from `place`. -/
def placesFrom (mark : List UInt8) (place : Nat) : List UInt8 → List Nat
  | [] => []
  | byte :: rest =>
    if mark.isPrefixOf (byte :: rest) then place :: placesFrom mark (place + 1) rest
    else placesFrom mark (place + 1) rest

def places (mark bytes : List UInt8) : List Nat :=
  placesFrom mark 0 bytes

structure EndRecord where
  place : Nat
  disk : Nat
  directoryDisk : Nat
  count : Nat
  directoryOffset : Nat

/-- The length of an end record without its comment. -/
def endLength : Nat := 22

/-- Reads the end record at a place, if it is whole. -/
def EndRecord.read? (bytes : List UInt8) (place : Nat) : Option EndRecord :=
  let record := bytes.drop place
  if record.length < endLength + field 20 2 record then none
  else
    some
      { place := place
        disk := field 4 2 record
        directoryDisk := field 6 2 record
        count := field 10 2 record
        directoryOffset := field 16 4 record }

/-- The place of the first entry of the directory, which is not before the offset that the end record
gives for it. -/
def EndRecord.directoryPlace? (record : EndRecord) (entries : List Nat) : Option Nat :=
  if record.count = 0 then some record.place
  else entries.find? fun place => record.directoryOffset ≤ place ∧ place < record.place

/-- The last end record whose directory can be found, and the place of the directory. -/
def findEnd? (bytes : List UInt8) : Option (EndRecord × Nat) :=
  let entries := places directoryMark bytes
  (places endMark bytes).reverse.findSome? fun place =>
    (EndRecord.read? bytes place).bind fun record =>
      (record.directoryPlace? entries).map fun directory => (record, directory)

/-- The name of a member, in UTF-8 if its flags say so. -/
def memberName (flags : Nat) (written : List UInt8) : String :=
  String.ofList
    (if flags.testBit 11 then Encoding.decodeUtf8 written
      else Encoding.decodeSingle Encoding.dos437 written)

/-- The length of an entry of the directory without its variable parts. -/
def entryLength : Nat := 46

/-- Reads the entry at the beginning of some bytes, and gives what follows it. -/
def readEntry? (bytes : List UInt8) : Option ((String × Member) × List UInt8) :=
  let nameLength := field 28 2 bytes
  let length := entryLength + nameLength + field 30 2 bytes + field 32 2 bytes
  if directoryMark.isPrefixOf bytes = false ∨ bytes.length < length then none
  else
    let flags := field 8 2 bytes
    let member : Member :=
      { flags := flags
        method := field 10 2 bytes
        checksum := field 16 4 bytes
        size := field 20 4 bytes
        offset := field 42 4 bytes }
    some ((memberName flags (slice entryLength nameLength bytes), member), bytes.drop length)

def readEntries (members : TextMap Member) (bytes : List UInt8) :
    Nat → Except ArchiveError (TextMap Member)
  | 0 => .ok members
  | count + 1 =>
    match readEntry? bytes with
    | some (entry, rest) => readEntries (members.insert entry) rest count
    | none => .error .badDirectory

/-- The divisor of the cyclic redundancy check, with its bits in reverse order. -/
def crcDivisor : UInt32 := 0xedb88320

/-- Divides out one bit. -/
def crcBit (remainder : UInt32) : UInt32 :=
  if remainder &&& 1 = 1 then (remainder >>> 1) ^^^ crcDivisor else remainder >>> 1

/-- Takes in a byte. -/
def crcByte (remainder : UInt32) (byte : UInt8) : UInt32 :=
  crcBit (crcBit (crcBit (crcBit (crcBit (crcBit (crcBit (crcBit
    (remainder ^^^ byte.toUInt32))))))))

/-- The cyclic redundancy check of bytes, taken bit by bit from the lowest. -/
def crc32 (bytes : List UInt8) : UInt32 :=
  bytes.foldl crcByte 0xffffffff ^^^ 0xffffffff

/-- What can be read of a member; `damaged` says that reading fails behind it. -/
structure Content where
  bytes : List UInt8
  damaged : Bool

/-- Decompressed bytes come out in portions of this length; corrupt data spoils a whole portion. -/
def portion : Nat := 8192

/-- The content of compressed data. -/
def inflateContent (bytes : List UInt8) (checksum : Nat) : Content :=
  let (output, stop) := inflate bytes
  match stop with
  | some .corrupt => ⟨output.toList.take (output.size / portion * portion), true⟩
  | _ => ⟨output.toList, (crc32 output.toList).toNat ≠ checksum⟩

/-- The content of data that is not compressed. -/
def storedContent (bytes : List UInt8) (checksum : Nat) : Content :=
  ⟨bytes, (crc32 bytes).toNat ≠ checksum⟩

namespace Archive

def ofBytes (bytes : List UInt8) : Except ArchiveError Archive :=
  match findEnd? bytes with
  | none => .error .noArchive
  | some (record, directory) =>
    if record.disk ≠ record.directoryDisk then .error .severalDisks
    else
      (readEntries OrderedBy.empty (bytes.drop directory) record.count).map fun members =>
        ⟨bytes, directory - record.directoryOffset, members⟩

/-- The length of a member without its variable parts. -/
def memberLength : Nat := 30

def data (archive : Archive) (member : Member) : Except ArchiveError (List UInt8) :=
  let header := archive.bytes.drop (archive.shift + member.offset)
  if memberMark.isPrefixOf header = false ∨ header.length < memberLength then .error .badMember
  else
    .ok (slice (memberLength + field 26 2 header + field 28 2 header) member.size header)

/-- Opens a member that is stored or deflated, and refuses every other one. -/
def openMember (archive : Archive) (member : Member) : Except ArchiveError Content := do
  if member.flags.testBit 0 then throw .encrypted
  let data ← archive.data member
  match member.method with
  | 0 => return storedContent data member.checksum
  | 8 => return inflateContent data member.checksum
  | _ => throw .unknownMethod

/-- Opens the member with a name; the case of letters means nothing, and backslashes in the name that
is looked for are slashes. -/
def content? (archive : Archive) (name : String) : Except ArchiveError (Option Content) :=
  let pattern := String.ofList (name.toList.map fun c => if c = '\\' then '/' else c)
  match (archive.members.toList.find? fun entry => sameAscii pattern entry.1) with
  | some entry => (archive.openMember entry.2).map some
  | none => .ok none

end Archive

end Tablesmith.Zip
