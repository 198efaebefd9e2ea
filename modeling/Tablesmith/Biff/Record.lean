import Tablesmith.Binary.LittleEndian
import Tablesmith.Number.Binary64

/-!
# Records and their fields

A workbook stream is a sequence of records: a kind, a length and a payload. A payload that is too
long for one record goes on in continuation records, which count as part of the record before them.
Fields are read off a payload from its beginning. A field lies within one piece of the payload; a
piece without bytes is never left.
-/

namespace Tablesmith.Biff

open Tablesmith.Binary

/-- The payload of a record and of its continuations. -/
abbrev Payload : Type :=
  List (List UInt8)

/-- A record with its continuations. -/
structure Record where
  kind : Nat
  payload : Payload
deriving DecidableEq

/-- The kind of a continuation record. -/
def continuation : Nat := 60

/-- The first record of a stream, without its continuations, and what follows it. A payload may be
cut short by the end of the stream. -/
def takePiece? (bytes : List UInt8) : Option ((Nat × List UInt8) × List UInt8) :=
  match bytes with
  | k₀ :: k₁ :: l₀ :: l₁ :: rest =>
    let length := number [l₀, l₁]
    some ((number [k₀, k₁], rest.take length), rest.drop length)
  | _ => none

theorem length_of_takePiece? {bytes rest : List UInt8} {piece : Nat × List UInt8}
    (taken : takePiece? bytes = some (piece, rest)) : rest.length + 4 ≤ bytes.length := by
  unfold takePiece? at taken
  split at taken
  · cases taken
    simp only [List.length_drop, List.length_cons]
    omega
  · cases taken

/-- All records of a stream, without putting continuations to what they continue. -/
def pieces (bytes : List UInt8) : List (Nat × List UInt8) :=
  match _taken : takePiece? bytes with
  | some (piece, rest) => piece :: pieces rest
  | none => []
termination_by bytes.length
decreasing_by
  have := length_of_takePiece? _taken
  omega

/-- The continuations at the beginning of a list of records. -/
def continuations (pieces : List (Nat × List UInt8)) : Payload :=
  (pieces.takeWhile (·.1 = continuation)).map Prod.snd

/-- Puts continuations to what they continue; a continuation that comes first is a record. -/
def assemble : List (Nat × List UInt8) → List Record
  | [] => []
  | (kind, payload) :: rest =>
    ⟨kind, payload :: continuations rest⟩ :: assemble (rest.dropWhile (·.1 = continuation))
termination_by pieces => pieces.length
decreasing_by
  have := (List.dropWhile_sublist (fun piece : Nat × List UInt8 =>
    decide (piece.1 = continuation)) (l := rest)).length_le
  simp only [List.length_cons]
  omega

def records (bytes : List UInt8) : List Record :=
  assemble (pieces bytes)

open Tablesmith.Number

/-- Fewer bytes are left than a field needs. -/
structure ShortRecord where
  needed : Nat
deriving DecidableEq

/-- What is said about a record that is too short. -/
def ShortRecord.message (short : ShortRecord) : String :=
  "Fewer than " ++ showNat short.needed ++ " bytes remaining"

/-- A step that reads off a payload. -/
abbrev Reading : Type → Type :=
  StateT Payload (Except ShortRecord)

/-- Reads as many bytes as there are in the current piece, but no more than `length`. -/
def takeBytes (length : Nat) : Payload → List UInt8 × Payload
  | [] => ([], [])
  | [] :: rest => ([], [] :: rest)
  | (byte :: bytes) :: rest =>
    match (byte :: bytes).drop length with
    | [] => (byte :: bytes, rest)
    | left => ((byte :: bytes).take length, left :: rest)

def readUpTo (length : Nat) : Reading (List UInt8) :=
  fun payload => .ok (takeBytes length payload)

def readBytes (length : Nat) : Reading (List UInt8) := do
  let bytes ← readUpTo length
  if bytes.length = length then return bytes else throw ⟨length⟩

/-- Passes over `length` bytes. -/
def skip (length : Nat) : Reading Unit := do
  let _ ← readBytes length

def readNumber (length : Nat) : Reading Nat := do
  return number (← readBytes length)

def readDouble : Reading Binary64 := do
  return Binary64.ofBits (UInt64.ofNat (← readNumber 8))

/-- The first byte of a continuation record, which follows a payload that goes on. -/
def continuationByte : UInt8 := UInt8.ofNat continuation

/-- The last number of two bytes among pieces in reverse order, the last `missing` bytes of which are
looked for. Where one byte is in an earlier piece, it is taken together with the byte behind it in
the stream. -/
def lastPair? : Payload → Option Nat
  | [] => none
  | piece :: earlier =>
    match piece.reverse with
    | high :: low :: _ => some (number [low, high])
    | [] => lastPair? earlier
    | [_] =>
      (earlier.findSome? fun piece => piece.getLast?).map fun low =>
        number [low, continuationByte]

/-- The number in the last two bytes of a payload. -/
def lastNumber (payload : Payload) : Except ShortRecord Nat :=
  match lastPair? payload.reverse with
  | some number => .ok number
  | none => .error ⟨2⟩

/-- A compressed number as a signed integer of 30 bits. -/
def packedInteger (bits : Nat) : Int :=
  let value := bits / 4
  if Nat.pow 2 29 ≤ value then (value : Int) - (Nat.pow 2 30 : Nat) else value

/-- The text of a compressed number: an integer of 30 bits or the upper 30 bits of a double, divided
by a hundred if its lowest bit is set. -/
def packedText (bits : Nat) : String :=
  let isHundredfold := bits % 2 = 1
  if bits / 2 % 2 = 1 then
    if isHundredfold then (Binary64.ofInt (packedInteger bits)).hundredth.text
    else showInt (packedInteger bits)
  else
    let value := Binary64.ofBits (UInt64.ofNat (bits / 4 * Nat.pow 2 34))
    if isHundredfold then value.hundredth.text else value.text

/-- Reads a compressed number. -/
def readPacked : Reading String := do
  return packedText (← readNumber 4)

end Tablesmith.Biff
