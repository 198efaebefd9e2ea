import Mathlib
import Tablesmith.Biff.Reader
import Tablesmith.Proofs.Biff.Framing

/-!
# Reading record by record

Behind its place a reader has the rest of the stream, and what it reads next is the first of
the records of this rest (`next_reads`). So calling a reader again and again gives the records
of the stream one after the other, and nothing from then on (`calls_eq`). A stream into which
records were written with their continuations has these records and no others, also if fewer
bytes follow than a record begins with (`records_writtenAll`).
-/

namespace Tablesmith.Biff

open Binary

variable {bytes : List UInt8} {place : Nat}

theorem slice_drop (place offset length : Nat) (bytes : List UInt8) :
    slice offset length (bytes.drop place) = slice (place + offset) length bytes := by
  rw [slice, slice, List.drop_drop]

theorem field_drop (place offset length : Nat) (bytes : List UInt8) :
    field offset length (bytes.drop place) = field (place + offset) length bytes := by
  rw [field, field, slice_drop]

/-- A piece that is cut short by the end of the bytes has all that are left. -/
theorem slice_cut (lower length : Nat) (bytes : List UInt8) :
    slice lower (min (lower + length) bytes.length - lower) bytes = slice lower length bytes := by
  by_cases fits : lower + length ≤ bytes.length
  · rw [Nat.min_eq_left fits, Nat.add_sub_cancel_left]
  · have left : (bytes.drop lower).length = bytes.length - lower := List.length_drop
    rw [slice, slice, Nat.min_eq_right (by omega), List.take_of_length_le (by omega), List.take_of_length_le (by omega)]

theorem takePiece?_eq_some (room : 4 ≤ bytes.length) : takePiece? bytes =
    some ((field 0 2 bytes, slice 4 (field 2 2 bytes) bytes), bytes.drop (4 + field 2 2 bytes)) := by
  match bytes, room with
  | k₀ :: k₁ :: l₀ :: l₁ :: rest, _ =>
    have kind : field 0 2 (k₀ :: k₁ :: l₀ :: l₁ :: rest) = number [k₀, k₁] := rfl
    have length : field 2 2 (k₀ :: k₁ :: l₀ :: l₁ :: rest) = number [l₀, l₁] := rfl
    rw [kind, length, takePiece?, slice, ← List.drop_drop]
    rfl

theorem takePiece?_eq_none (short : bytes.length < 4) : takePiece? bytes = none := by
  match bytes, short with
  | [], _ => rfl
  | [_], _ => rfl
  | [_, _], _ => rfl
  | [_, _, _], _ => rfl
  | _ :: _ :: _ :: _ :: _, short => simp at short; omega

theorem pieces_of_short (short : bytes.length < 4) : pieces bytes = [] := by
  rw [pieces]
  split
  · next found same => cases same.symm.trans (takePiece?_eq_none short)
  · rfl

namespace Reader

variable {reader after : Reader} {kind : Nat}

/-- The stream from the place of the reader on. -/
def rest (reader : Reader) : List UInt8 :=
  reader.stream.drop reader.place

/-- The places lie in the stream behind the place of the reader. -/
def Ahead (reader : Reader) (span : Span) : Prop :=
  reader.place < span.lower ∧ span.lower ≤ span.upper ∧ span.upper ≤ reader.stream.length

/-- The reader has gone on and taken some pieces of payload from the stream. -/
structure GoesOn (reader : Reader) (taken : Payload) (after : Reader) : Prop where
  stream : after.stream = reader.stream
  place : reader.place ≤ after.place
  payload : after.payload = reader.payload ++ taken
  spans : ∀ span ∈ after.spans, span ∈ reader.spans ∨ reader.Ahead span

theorem GoesOn.refl (reader : Reader) : GoesOn reader [] reader :=
  ⟨rfl, Nat.le_refl _, (List.append_nil _).symm, fun _ => .inl⟩

theorem GoesOn.trans {later : Reader} {taken more : Payload} (first : GoesOn reader taken after)
    (second : GoesOn after more later) : GoesOn reader (taken ++ more) later where
  stream := second.stream.trans first.stream
  place := first.place.trans second.place
  payload := by rw [second.payload, first.payload, List.append_assoc]
  spans span member := by
    rcases second.spans span member with earlier | ahead
    · exact first.spans span earlier
    · obtain ⟨behind, rises, inside⟩ := ahead
      exact .inr ⟨first.place.trans_lt behind, rises, inside.trans_eq (congrArg _ first.stream)⟩

theorem numberAt_eq (inside : place + 2 ≤ reader.stream.length) :
    reader.numberAt place = .ok (field place 2 reader.stream) := by
  rw [numberAt, if_pos inside]

theorem length_rest (reader : Reader) : reader.rest.length = reader.stream.length - reader.place :=
  List.length_drop

/-- The record in front of the reader, its continuations apart. -/
theorem takeSpan_reads (room : reader.place + 4 ≤ reader.stream.length) : ∃ piece after,
    reader.numberAt reader.place = .ok piece.1 ∧ reader.takeSpan = .ok after ∧ reader.place < after.place ∧
      pieces reader.rest = piece :: pieces after.rest ∧ GoesOn reader [piece.2] after := by
  have long : 4 ≤ reader.rest.length := by
    rw [length_rest]
    omega
  have kind_read : reader.numberAt reader.place = .ok (field reader.place 2 reader.stream) := numberAt_eq (by omega)
  have length_read : reader.numberAt (reader.place + 2) = .ok (field (reader.place + 2) 2 reader.stream) :=
    numberAt_eq (by omega)
  have first := pieces_of_some (takePiece?_eq_some long)
  rw [rest, field_drop, field_drop, slice_drop, List.drop_drop, ← Nat.add_assoc, Nat.add_zero] at first
  generalize field (reader.place + 2) 2 reader.stream = length at length_read first
  refine ⟨_, ⟨reader.stream, reader.place + 4 + length,
    reader.spans ++ [⟨reader.place + 4, min (reader.place + 4 + length) reader.stream.length⟩]⟩, kind_read, ?_, ?_, first, ?_⟩
  · rw [takeSpan, length_read]
    rfl
  · show reader.place < reader.place + 4 + length
    omega
  · refine ⟨rfl, ?_, ?_, ?_⟩
    · show reader.place ≤ reader.place + 4 + length
      omega
    · rw [payload, payload, List.map_append, List.map_singleton, slice_cut]
    · intro span member
      rcases List.mem_append.mp member with earlier | new
      · exact .inl earlier
      · obtain rfl := List.mem_singleton.mp new
        refine .inr ⟨?_, ?_, Nat.min_le_right _ _⟩
        · show reader.place < reader.place + 4
          omega
        · show reader.place + 4 ≤ min (reader.place + 4 + length) reader.stream.length
          omega

theorem takeContinuations_of_end (short : reader.stream.length < reader.place + 4) :
    reader.takeContinuations = .ok reader := by
  rw [takeContinuations, if_neg (Nat.not_le.mpr short)]

theorem pieces_of_end (short : reader.stream.length < reader.place + 4) : pieces reader.rest = [] :=
  pieces_of_short (by rw [length_rest]; omega)

/-- The continuations in front of the reader are taken, and the first record that is none stands behind them. The
induction is on what is left of the stream. -/
theorem takeContinuations_reads (reader : Reader) : ∃ after, reader.takeContinuations = .ok after ∧
    pieces after.rest = (pieces reader.rest).dropWhile (·.1 = continuation) ∧
      GoesOn reader (continuations (pieces reader.rest)) after := by
  induction left : reader.stream.length - reader.place using Nat.strong_induction_on generalizing reader with
  | _ size ih =>
    by_cases room : reader.place + 4 ≤ reader.stream.length
    · obtain ⟨piece, first, kind_read, taken, further, pieces_eq, goes_on⟩ := takeSpan_reads room
      rw [takeContinuations, if_pos room, kind_read, pieces_eq]
      by_cases continues : piece.1 = continuation
      · have less : first.stream.length - first.place < size := by
          rw [goes_on.stream]
          omega
        obtain ⟨after, later, rest_eq, later_on⟩ := ih _ less first rfl
        refine ⟨after, ?_, ?_, ?_⟩
        · simp only [continues, if_true]
          split
          · next short failed => cases failed.symm.trans taken
          · next same found =>
            cases found.symm.trans taken
            exact later
        · simp [continues, rest_eq]
        · have both := goes_on.trans later_on
          simpa [continuations, continues] using both
      · refine ⟨reader, by simp [continues], ?_, ?_⟩
        · simp [continues, pieces_eq]
        · simpa [continuations, continues] using GoesOn.refl reader
    · have short := Nat.not_le.mp room
      refine ⟨reader, takeContinuations_of_end short, ?_, ?_⟩
      · simp [pieces_of_end short]
      · simpa [continuations, pieces_of_end short] using GoesOn.refl reader

/-- A record was read: the reader has moved forward, the record is the first one in front of which it was, and the pieces
of the payload lie in the stream. -/
structure Reads (reader : Reader) (kind : Nat) (after : Reader) : Prop where
  stream : after.stream = reader.stream
  forward : reader.place < after.place
  first : records reader.rest = ⟨kind, after.payload⟩ :: records after.rest
  spans : ∀ span ∈ after.spans, reader.Ahead span

/-- A call either finds the end of the stream or reads a record. It never fails. -/
theorem next_reads (reader : Reader) : (reader.next = .ok (none, reader) ∧ records reader.rest = []) ∨
    ∃ kind after, reader.next = .ok (some kind, after) ∧ Reads reader kind after := by
  by_cases short : reader.stream.length < reader.place + 4
  · refine .inl ⟨by rw [next, if_pos short], ?_⟩
    rw [records, pieces_of_end short, assemble]
  · -- The payload of the record before is forgotten first.
    generalize fresh_eq : { reader with spans := [] } = fresh
    have same_rest : fresh.rest = reader.rest := by rw [← fresh_eq]; rfl
    have same_stream : fresh.stream = reader.stream := by rw [← fresh_eq]
    have same_place : fresh.place = reader.place := by rw [← fresh_eq]
    have no_payload : fresh.payload = [] := by rw [← fresh_eq]; rfl
    have no_spans : fresh.spans = [] := by rw [← fresh_eq]
    have room : fresh.place + 4 ≤ fresh.stream.length := by
      rw [same_stream, same_place]
      omega
    obtain ⟨piece, first, kind_read, taken, further, pieces_eq, goes_on⟩ := takeSpan_reads room
    obtain ⟨after, later, rest_eq, later_on⟩ := takeContinuations_reads first
    have both := goes_on.trans later_on
    refine .inr ⟨piece.1, after, ?_, ?_, ?_, ?_, ?_⟩
    · have same_number : reader.numberAt reader.place = .ok piece.1 := by
        rw [← kind_read, numberAt, numberAt, same_stream, same_place]
      rw [next, if_neg short, same_number, fresh_eq, taken]
      show (first.takeContinuations >>= fun after => pure (some piece.1, after)) = _
      rw [later]
      rfl
    · rw [both.stream, same_stream]
    · rw [← same_place]
      exact further.trans_le later_on.place
    · rw [records, ← same_rest, pieces_eq, assemble, ← rest_eq, both.payload, no_payload]
      rfl
    · intro span member
      rcases both.spans span member with earlier | ahead
      · simp [no_spans] at earlier
      · rwa [Ahead, same_place, same_stream] at ahead

/-- What so many calls give one after the other, each record with its payload. -/
def calls : Nat → Reader → Except ShortRecord (List (Option Record))
  | 0, _ => .ok []
  | count + 1, reader => do
    let (kind?, after) ← reader.next
    let later ← calls count after
    return kind?.map (⟨·, after.payload⟩) :: later

theorem calls_of_end (ends : reader.next = .ok (none, reader)) (count : Nat) :
    calls count reader = .ok (List.replicate count none) := by
  induction count with
  | zero => rfl
  | succ count ih =>
    rw [calls, ends]
    show (calls count reader >>= fun later => pure (none :: later)) = _
    rw [ih]
    rfl

/-- Calls give the records of the rest of the stream, and nothing from then on. -/
theorem calls_eq (reader : Reader) (count : Nat) : calls ((records reader.rest).length + count) reader =
    .ok ((records reader.rest).map some ++ List.replicate count none) := by
  induction left : records reader.rest generalizing reader with
  | nil =>
    rcases next_reads reader with ⟨ends, -⟩ | ⟨kind, after, -, reads⟩
    · simpa using calls_of_end ends count
    · cases left.symm.trans reads.first
  | cons record later ih =>
    rcases next_reads reader with ⟨-, none_left⟩ | ⟨kind, after, read, reads⟩
    · cases left.symm.trans none_left
    · obtain ⟨rfl, same⟩ := List.cons.inj (left.symm.trans reads.first)
      rw [List.length_cons, Nat.add_right_comm, calls, read]
      show (calls (later.length + count) after >>= fun rest => pure (some (Record.mk kind after.payload) :: rest)) = _
      rw [ih after same.symm]
      rfl

end Reader

/-- The pieces of a record: the beginning of its payload is its own, and the others are continuations. -/
def piecesOf (record : Record) : List Piece :=
  match record.payload with
  | [] => []
  | first :: others => (record.kind, first) :: others.map (continuation, ·)

/-- Records in bytes, with their continuations. -/
def writtenAll (written : List Record) : List UInt8 :=
  framedAll (written.flatMap piecesOf)

/-- The record is none that continues another, and kind and lengths fit into their fields. -/
structure IsWritable (record : Record) : Prop where
  new : record.kind ≠ continuation
  kind : record.kind < 2 ^ 16
  filled : record.payload ≠ []
  pieces : ∀ piece ∈ record.payload, piece.length < 2 ^ 16

variable {record : Record} {written : List Record}

theorem IsWritable.piecesOf_eq (writable : IsWritable record) : ∃ first others, record.payload = first :: others ∧
    piecesOf record = (record.kind, first) :: others.map (continuation, ·) := by
  obtain ⟨first, others, payload⟩ := List.exists_cons_of_ne_nil writable.filled
  exact ⟨first, others, payload, by rw [piecesOf, payload]⟩

theorem continuation_small : continuation < 256 ^ 2 := by decide

theorem IsWritable.framable (writable : IsWritable record) : ∀ piece ∈ piecesOf record, Framable piece := by
  obtain ⟨first, others, payload, pieces_eq⟩ := writable.piecesOf_eq
  have short := writable.pieces
  rw [payload, List.forall_mem_cons] at short
  rw [pieces_eq, List.forall_mem_cons, List.forall_mem_map]
  exact ⟨⟨writable.kind, short.1⟩, fun other member => ⟨continuation_small, short.2 other member⟩⟩

theorem IsWritable.beginsNew (writable : IsWritable record) (after : List Piece) : BeginsNew (piecesOf record ++ after) := by
  obtain ⟨first, others, -, pieces_eq⟩ := writable.piecesOf_eq
  rw [pieces_eq]
  intro head member
  obtain rfl : (record.kind, first) = head := by simpa using member
  exact writable.new

theorem beginsNew_written (writable : ∀ record ∈ written, IsWritable record) : BeginsNew (written.flatMap piecesOf) := by
  cases written with
  | nil => exact fun first member => nomatch member
  | cons record others =>
    rw [List.flatMap_cons]
    exact (writable record List.mem_cons_self).beginsNew _

theorem assemble_piecesOf (writable : IsWritable record) : assemble (piecesOf record) = [record] := by
  obtain ⟨first, others, payload, pieces_eq⟩ := writable.piecesOf_eq
  rw [pieces_eq, assemble]
  have all : continuations (others.map (continuation, ·)) = others := by
    simp [continuations, List.takeWhile_map, Function.comp_def]
  have none_left : (others.map (continuation, ·)).dropWhile (·.1 = continuation) = [] := by
    simp [List.dropWhile_map, Function.comp_def]
  rw [all, none_left, assemble, ← payload]

theorem assemble_written (writable : ∀ record ∈ written, IsWritable record) :
    assemble (written.flatMap piecesOf) = written := by
  induction written with
  | nil => rw [List.flatMap_nil, assemble]
  | cons record others ih =>
    obtain ⟨here, rest_writable⟩ := List.forall_mem_cons.mp writable
    rw [List.flatMap_cons, assemble_append (beginsNew_written rest_writable), assemble_piecesOf here, ih rest_writable,
      List.singleton_append]

/-- The records of a stream are those that were written, even if a few bytes follow. -/
theorem records_writtenAll (writable : ∀ record ∈ written, IsWritable record) {trailing : List UInt8}
    (few : trailing.length < 4) : records (writtenAll written ++ trailing) = written := by
  have framable : ∀ piece ∈ written.flatMap piecesOf, Framable piece := by
    intro piece member
    obtain ⟨record, record_member, here⟩ := List.mem_flatMap.mp member
    exact (writable record record_member).framable piece here
  rw [records, writtenAll, pieces_framedAll_append framable, pieces_of_short few, List.append_nil,
    assemble_written writable]

/-- Calling a reader reads what was written. Records with their continuations are read one after the other, each with the
pieces of its payload, and nothing from then on. From whatever place a reader starts, it reads the records of the stream
from there. In any stream a call comes to the end or moves the reader forward, to pieces of payload that lie in the
stream. -/
theorem reader_inverts_writing :
    (∀ written trailing count, (∀ record ∈ written, IsWritable record) → trailing.length < 4 →
      Reader.calls (written.length + count) (.ofStream (writtenAll written ++ trailing)) =
        .ok (written.map some ++ List.replicate count none)) ∧
      (∀ stream place count, Reader.calls ((records (stream.drop place)).length + count)
        ((Reader.ofStream stream).goTo place) =
          .ok ((records (stream.drop place)).map some ++ List.replicate count none)) ∧
      ∀ reader : Reader, (reader.next = .ok (none, reader) ∧ records reader.rest = []) ∨
        ∃ kind after, reader.next = .ok (some kind, after) ∧ reader.Reads kind after := by
  refine ⟨fun written trailing count writable few => ?_, fun stream place count => ?_, Reader.next_reads⟩
  · have read := Reader.calls_eq (.ofStream (writtenAll written ++ trailing)) count
    have whole : (Reader.ofStream (writtenAll written ++ trailing)).rest = writtenAll written ++ trailing := List.drop_zero
    rwa [whole, records_writtenAll writable few] at read
  · exact Reader.calls_eq ((Reader.ofStream stream).goTo place) count

/-- A record with continuations, one of which is empty, and an empty record. -/
def sampleRecords : List Record :=
  [⟨252, [[5, 0], [], [7, 8, 9]]⟩, ⟨10, [[]]⟩]

theorem isWritable_sampleRecords : ∀ record ∈ sampleRecords, IsWritable record := by
  rw [sampleRecords, List.forall_mem_cons, List.forall_mem_singleton]
  exact ⟨⟨by decide, by decide, by decide, by decide⟩, ⟨by decide, by decide, by decide, by decide⟩⟩

/-- Behind the records stand three bytes with which a continuation could begin. -/
theorem reader_inverts_writing_sample :
    Reader.calls 4 (.ofStream (writtenAll sampleRecords ++ [60, 0, 0])) =
      .ok [some ⟨252, [[5, 0], [], [7, 8, 9]]⟩, some ⟨10, [[]]⟩, none, none] :=
  reader_inverts_writing.1 sampleRecords [60, 0, 0] 2 isWritable_sampleRecords (by decide)

end Tablesmith.Biff
