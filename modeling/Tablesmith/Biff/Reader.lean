import Tablesmith.Biff.Record

/-!
# Readers of records

A reader goes through a stream from record to record. It stands in front of a record, and it knows
where the payload of the record that it has read lies in the stream, piece by piece. A reader of
payloads also stands at an offset in one of these pieces, and reads bytes from there.
-/

namespace Tablesmith.Biff

open Tablesmith.Binary

/-- The places of a stream from one up to another, which is not among them. -/
structure Span where
  lower : Nat
  upper : Nat
deriving DecidableEq

/-- A reader in front of a record. -/
structure Reader where
  stream : List UInt8
  place : Nat
  spans : List Span
deriving DecidableEq

namespace Reader

/-- A reader in front of the first record of a stream. -/
def ofStream (stream : List UInt8) : Reader :=
  ⟨stream, 0, []⟩

def goTo (reader : Reader) (place : Nat) : Reader :=
  { reader with place := place }

/-- What the payload of the record that was read holds. -/
def payload (reader : Reader) : Payload :=
  reader.spans.map fun span => slice span.lower (span.upper - span.lower) reader.stream

/-- The number in the two bytes at a place. -/
def numberAt (reader : Reader) (place : Nat) : Except ShortRecord Nat :=
  if place + 2 ≤ reader.stream.length then .ok (field place 2 reader.stream) else .error ⟨2⟩

/-- Passes over the record in front of the reader, the payload of which becomes a piece. The piece
ends with the stream, but the reader goes as far as the length of the record says. -/
def takeSpan (reader : Reader) : Except ShortRecord Reader := do
  let length ← reader.numberAt (reader.place + 2)
  let lower := reader.place + 4
  let span := ⟨lower, min (lower + length) reader.stream.length⟩
  return { reader with place := lower + length, spans := reader.spans ++ [span] }

theorem place_lt_of_takeSpan {reader after : Reader} (taken : reader.takeSpan = .ok after) :
    after.stream = reader.stream ∧ reader.place < after.place := by
  unfold takeSpan at taken
  cases found : reader.numberAt (reader.place + 2) with
  | error short =>
    rw [found] at taken
    cases taken
  | ok length =>
    rw [found] at taken
    cases taken
    refine ⟨rfl, ?_⟩
    show reader.place < reader.place + 4 + length
    omega

/-- Passes over all continuations in front of the reader. -/
def takeContinuations (reader : Reader) : Except ShortRecord Reader :=
  if reader.place + 4 ≤ reader.stream.length then
    match reader.numberAt reader.place with
    | .error short => .error short
    | .ok kind =>
      if kind = continuation then
        match _taken : reader.takeSpan with
        | .error short => .error short
        | .ok after => takeContinuations after
      else .ok reader
  else .ok reader
termination_by reader.stream.length - reader.place
decreasing_by
  obtain ⟨same, further⟩ := place_lt_of_takeSpan _taken
  rw [same]
  omega

/-- Reads the record in front of the reader together with its continuations, and gives its kind. At
the end of the stream there is none, and the reader stays where it is. -/
def next (reader : Reader) : Except ShortRecord (Option Nat × Reader) :=
  if reader.stream.length < reader.place + 4 then .ok (none, reader)
  else do
    let kind ← reader.numberAt reader.place
    let first ← { reader with spans := [] }.takeSpan
    let after ← first.takeContinuations
    return (some kind, after)

end Reader

/-- A reader that stands at an offset in a piece of the payload that it has read. -/
structure PayloadReader extends Reader where
  piece : Nat
  offset : Nat
deriving DecidableEq

namespace PayloadReader

/-- A reader in front of the first record of a stream. -/
def ofStream (stream : List UInt8) : PayloadReader :=
  ⟨.ofStream stream, 0, 0⟩

/-- Reads the record in front of the reader, and goes to the beginning of its payload. At the end of
the stream the reader stays where it is, in the payload of the last record. -/
def next (reader : PayloadReader) : Except ShortRecord (Option Nat × PayloadReader) := do
  match ← reader.toReader.next with
  | (some kind, after) => return (some kind, ⟨after, 0, 0⟩)
  | (none, _) => return (none, reader)

/-- Reads as many bytes as there are in the current piece, but no more than `length`. The piece is
left with its last byte. -/
def take (reader : PayloadReader) (length : Nat) : List UInt8 × PayloadReader :=
  match reader.spans[reader.piece]? with
  | none => ([], reader)
  | some span =>
    let source := min span.upper (span.lower + reader.offset)
    let target := min span.upper (source + length)
    if source < span.upper then
      (slice source (target - source) reader.stream,
        if target = span.upper then { reader with piece := reader.piece + 1, offset := 0 }
        else { reader with offset := reader.offset + (target - source) })
    else ([], reader)

/-- Reads exactly `length` bytes. The reader goes on even if there are fewer in the piece. -/
def readBytes (reader : PayloadReader) (length : Nat) :
    Except ShortRecord (List UInt8) × PayloadReader :=
  let (bytes, after) := reader.take length
  (if bytes.length = length then .ok bytes else .error ⟨length⟩, after)

def readByte (reader : PayloadReader) : Except ShortRecord UInt8 × PayloadReader :=
  let (read, after) := reader.readBytes 1
  (read.map fun bytes => bytes.headD 0, after)

def left (reader : PayloadReader) : Payload :=
  (reader.payload.drop reader.piece).modifyHead (·.drop reader.offset)

end PayloadReader

end Tablesmith.Biff
