import Mathlib
import Tablesmith.Biff.Reader
import Tablesmith.Proofs.Biff.Reader
import Tablesmith.Proofs.Biff.SharedText

/-!
# The bytes of a payload

A reader at an offset in a piece reads what is taken off the payload that it has left
(`Faces.take`), and bytes within a piece are the same whether they are read all at once or
one by one (`Faces.reads_alike`). Single reads go from piece to piece up to the first that
is empty, and fail from there on (`Faces.singles_beforeGap`). So a record is read to its end
exactly if no empty piece stands in front of bytes (`next_delivers_iff`).
-/

namespace Tablesmith.Biff

open Binary

variable {payload rest front : Payload} {piece bytes more : List UInt8} {length : Nat}

/-- An empty piece stands in front of bytes. -/
def HasGap (payload : Payload) : Prop :=
  ∃ before after, payload = before ++ [] :: after ∧ after.flatten ≠ []

/-- The pieces in front of the first empty one. -/
def beforeGap (payload : Payload) : Payload :=
  payload.takeWhile (· ≠ [])

theorem hasGap_nil_cons : HasGap ([] :: rest) ↔ rest.flatten ≠ [] := by
  constructor
  · rintro ⟨_ | ⟨first, before⟩, after, same, filled⟩
    · obtain rfl := (List.cons.inj same).2
      exact filled
    · obtain rfl := (List.cons.inj same).2
      simp [filled]
  · intro filled
    exact ⟨[], rest, rfl, filled⟩

theorem hasGap_cons (filled : piece ≠ []) : HasGap (piece :: rest) ↔ HasGap rest := by
  constructor
  · rintro ⟨_ | ⟨first, before⟩, after, same, behind⟩
    · exact absurd (List.cons.inj same).1 filled
    · exact ⟨before, after, (List.cons.inj same).2, behind⟩
  · rintro ⟨before, after, rfl, behind⟩
    exact ⟨piece :: before, after, rfl, behind⟩

/-- All bytes are in front of the first empty piece unless there is a gap. -/
theorem flatten_beforeGap_eq_iff : (beforeGap payload).flatten = payload.flatten ↔ ¬ HasGap payload := by
  induction payload with
  | nil => simp [beforeGap, HasGap]
  | cons piece rest ih =>
    by_cases empty : piece = []
    · subst empty
      simp [beforeGap, hasGap_nil_cons, eq_comm]
    · rw [hasGap_cons empty, ← ih]
      simp [beforeGap, empty]

theorem filled_of_mem_beforeGap (member : piece ∈ beforeGap payload) : piece ≠ [] := by
  simpa using List.mem_takeWhile_imp member

/-- Where the pieces in front of the first empty one end, there are no pieces or an empty one follows. -/
theorem beforeGap_append (payload : Payload) :
    ∃ rest, payload = beforeGap payload ++ rest ∧ (rest = [] ∨ ∃ later, rest = [] :: later) := by
  induction payload with
  | nil => exact ⟨[], rfl, .inl rfl⟩
  | cons piece rest ih =>
    by_cases empty : piece = []
    · subst empty
      exact ⟨[] :: rest, by simp [beforeGap], .inr ⟨rest, rfl⟩⟩
    · obtain ⟨behind, same, ends⟩ := ih
      refine ⟨behind, ?_, ends⟩
      have kept : beforeGap (piece :: rest) = piece :: beforeGap rest := by simp [beforeGap, empty]
      rw [kept, List.cons_append, ← same]

theorem behind_of_filled (filled : piece ≠ []) (rest : Payload) : behind piece rest = piece :: rest :=
  if_neg filled

theorem takeBytes_nil_cons (length : Nat) (rest : Payload) : takeBytes length ([] :: rest) = ([], [] :: rest) :=
  rfl

/-- Taking bytes off a piece with bytes leaves the rest of the piece, if there is any. -/
theorem takeBytes_cons (filled : piece ≠ []) (length : Nat) (rest : Payload) :
    takeBytes length (piece :: rest) = (piece.take length, behind (piece.drop length) rest) := by
  rw [← behind_of_filled filled]
  by_cases few : piece.length ≤ length
  · rw [takeBytes_short filled few, List.take_of_length_le few, List.drop_of_length_le few]
    rfl
  · have taken : takeBytes (piece.take length).length (behind (piece.take length ++ piece.drop length) rest) =
        (piece.take length, behind (piece.drop length) rest) := takeBytes_behind
    rwa [List.take_append_drop, List.length_take, Nat.min_eq_left (by omega)] at taken

/-- As many bytes as the first piece has can be split off, be it empty or not. -/
theorem exists_behind (few : length ≤ (payload.headD []).length) :
    ∃ bytes more rest, bytes.length = length ∧ payload = behind (bytes ++ more) rest := by
  rcases payload with _ | ⟨piece, rest⟩
  · exact ⟨[], [], [], (Nat.le_zero.mp few).symm, rfl⟩
  · by_cases empty : piece = []
    · subst empty
      exact ⟨[], [], [] :: rest, (Nat.le_zero.mp few).symm, rfl⟩
    · refine ⟨piece.take length, piece.drop length, rest, List.length_take_of_le few, ?_⟩
      rw [List.take_append_drop, behind_of_filled empty]

namespace PayloadReader

variable {reader start : PayloadReader} {span : Span}

section Take

variable (here : reader.spans[reader.piece]? = some span)

include here

theorem take_within (less : span.lower + reader.offset + length < span.upper) : reader.take length =
    (slice (span.lower + reader.offset) length reader.stream, { reader with offset := reader.offset + length }) := by
  have source : min span.upper (span.lower + reader.offset) = span.lower + reader.offset := by omega
  have target : min span.upper (span.lower + reader.offset + length) = span.lower + reader.offset + length := by omega
  simp only [take, here, source, target, Nat.add_sub_cancel_left]
  rw [if_pos (by omega), if_neg (by omega)]

theorem take_through (some_left : span.lower + reader.offset < span.upper)
    (all : span.upper ≤ span.lower + reader.offset + length) : reader.take length =
      (slice (span.lower + reader.offset) (span.upper - (span.lower + reader.offset)) reader.stream,
        { reader with piece := reader.piece + 1, offset := 0 }) := by
  have source : min span.upper (span.lower + reader.offset) = span.lower + reader.offset := by omega
  have target : min span.upper (span.lower + reader.offset + length) = span.upper := by omega
  simp only [take, here, source, target]
  rw [if_pos some_left, if_pos trivial]

theorem take_of_end (none_left : span.upper ≤ span.lower + reader.offset) : reader.take length = ([], reader) := by
  have source : min span.upper (span.lower + reader.offset) = span.upper := by omega
  simp only [take, here, source]
  rw [if_neg (Nat.lt_irrefl _)]

/-- In a piece the rest of the piece is left, and all later ones. -/
theorem left_of_some : reader.left =
    slice (span.lower + reader.offset) (span.upper - (span.lower + reader.offset)) reader.stream ::
      reader.payload.drop (reader.piece + 1) := by
  obtain ⟨inside, same⟩ := List.getElem?_eq_some_iff.mp here
  have within : reader.piece < reader.payload.length := by simpa [Reader.payload] using inside
  have found : reader.payload[reader.piece] = slice span.lower (span.upper - span.lower) reader.stream := by
    simp [Reader.payload, same]
  rw [left, List.drop_eq_getElem_cons within, found, List.modifyHead_cons, slice, slice, List.drop_take, List.drop_drop,
    Nat.sub_add_eq]

end Take

theorem left_beginning (reader : Reader) (piece : Nat) :
    left ⟨reader, piece, 0⟩ = reader.payload.drop piece := by
  rw [left]
  cases reader.payload.drop piece <;> rfl

theorem left_of_none (none_here : reader.spans[reader.piece]? = none) : reader.left = [] := by
  have passed : reader.payload.length ≤ reader.piece := by
    simpa [Reader.payload] using List.getElem?_eq_none_iff.mp none_here
  rw [left, List.drop_of_length_le passed, List.modifyHead_nil]

theorem take_of_none (none_here : reader.spans[reader.piece]? = none) : reader.take length = ([], reader) := by
  simp only [take, none_here]

/-- The pieces of the payload that was read lie in the stream, and this is left of them. -/
structure Faces (reader : PayloadReader) (payload : Payload) : Prop where
  inStream : ∀ span ∈ reader.spans, span.lower ≤ span.upper ∧ span.upper ≤ reader.stream.length
  left : reader.left = payload

/-- A read gives what is taken off the payload that is left. -/
theorem Faces.take (faces : reader.Faces payload) (length : Nat) :
    (reader.take length).1 = (takeBytes length payload).1 ∧
      (reader.take length).2.Faces (takeBytes length payload).2 := by
  obtain ⟨inStream, rfl⟩ := faces
  cases here : reader.spans[reader.piece]? with
  | none =>
    rw [take_of_none here, left_of_none here]
    exact ⟨rfl, inStream, left_of_none here⟩
  | some span =>
    obtain ⟨rises, inside⟩ := inStream span (List.mem_of_getElem? here)
    generalize piece_eq : slice (span.lower + reader.offset) (span.upper - (span.lower + reader.offset)) reader.stream = piece
    have size : piece.length = span.upper - (span.lower + reader.offset) := by
      rw [← piece_eq, slice, List.length_take, List.length_drop]
      omega
    have left_eq : reader.left = piece :: reader.payload.drop (reader.piece + 1) := by rw [left_of_some here, piece_eq]
    -- The read takes nothing, or all that is left of the piece, or a part of that.
    by_cases none_left : span.upper ≤ span.lower + reader.offset
    · have empty : piece = [] := List.length_eq_zero_iff.mp (by omega)
      rw [take_of_end here none_left, left_eq, empty, takeBytes_nil_cons]
      exact ⟨rfl, inStream, by rw [left_eq, empty]⟩
    · have filled : piece ≠ [] := List.length_pos_iff.mp (by omega)
      rw [left_eq, takeBytes_cons filled]
      by_cases all : span.upper ≤ span.lower + reader.offset + length
      · rw [take_through here (by omega) all, List.take_of_length_le (by omega), List.drop_of_length_le (by omega)]
        exact ⟨piece_eq, inStream, left_beginning _ _⟩
      · have some_left : piece.drop length ≠ [] := List.length_pos_iff.mp (by rw [List.length_drop]; omega)
        rw [take_within here (by omega), behind_of_filled some_left, ← piece_eq]
        refine ⟨?_, inStream, ?_⟩
        · rw [slice, slice, List.take_take, Nat.min_eq_left (by omega)]
        · have here' : ({ reader with offset := reader.offset + length } : PayloadReader).spans[reader.piece]? = some span := here
          rw [left_of_some here', slice, slice, List.drop_take, List.drop_drop, ← Nat.add_assoc, Nat.sub_add_eq]

theorem Faces.readBytes (faces : reader.Faces payload) (length : Nat) :
    (reader.readBytes length).1 =
        (if (takeBytes length payload).1.length = length then .ok (takeBytes length payload).1 else .error ⟨length⟩) ∧
      (reader.readBytes length).2.Faces (takeBytes length payload).2 := by
  obtain ⟨same, rest_faced⟩ := faces.take length
  rw [← same]
  exact ⟨rfl, rest_faced⟩

/-- What fields read off the payload that is left is what the reader reads, and the same is left behind. -/
theorem Faces.run_readBytes (faces : reader.Faces payload) (length : Nat) : (Biff.readBytes length).run payload =
    (reader.readBytes length).1.map fun bytes => (bytes, (reader.readBytes length).2.left) := by
  obtain ⟨read, rest_faced⟩ := faces.readBytes length
  have taken : (readUpTo length).run payload = .ok (takeBytes length payload) := rfl
  rw [read, rest_faced.left]
  generalize takeBytes length payload = result at taken
  obtain ⟨bytes, left⟩ := result
  rw [Biff.readBytes, run_bind_of_ok taken]
  by_cases enough : bytes.length = length
  · rw [if_pos enough, if_pos enough]
    rfl
  · rw [if_neg enough, if_neg enough]
    rfl

/-- Where reads of such lengths, one after the other, leave the reader, whether there are enough bytes or not. -/
def past (reader : PayloadReader) (lengths : List Nat) : PayloadReader :=
  lengths.foldl (fun reader length => (reader.readBytes length).2) reader

/-- What so many reads of one byte give one after the other. -/
def singles : Nat → PayloadReader → List (Except ShortRecord UInt8)
  | 0, _ => []
  | count + 1, reader => reader.readByte.1 :: singles count reader.readByte.2

theorem past_append (reader : PayloadReader) (first second : List Nat) :
    reader.past (first ++ second) = (reader.past first).past second :=
  List.foldl_append

theorem past_replicate_add (reader : PayloadReader) (first second : Nat) :
    reader.past (List.replicate (first + second) 1) =
      (reader.past (List.replicate first 1)).past (List.replicate second 1) := by
  rw [← past_append, List.replicate_append_replicate]

/-- Whatever lengths are read, something of the payload is left. -/
theorem Faces.past (faces : reader.Faces payload) (lengths : List Nat) : ∃ rest, (reader.past lengths).Faces rest := by
  induction lengths generalizing reader payload with
  | nil => exact ⟨payload, faces⟩
  | cons length lengths ih => exact ih (faces.readBytes length).2

/-- Bytes in front of the reader are read all at once. -/
theorem Faces.readBytes_behind (faces : reader.Faces (behind (bytes ++ more) rest)) :
    (reader.readBytes bytes.length).1 = .ok bytes ∧ (reader.readBytes bytes.length).2.Faces (behind more rest) := by
  have read := faces.readBytes bytes.length
  rwa [takeBytes_behind, if_pos rfl] at read

/-- Bytes in front of the reader are read one by one. The induction is on the bytes. -/
theorem Faces.singles_behind (faces : reader.Faces (behind (bytes ++ more) rest)) :
    (∀ count, reader.singles (bytes.length + count) =
        bytes.map .ok ++ (reader.past (List.replicate bytes.length 1)).singles count) ∧
      (reader.past (List.replicate bytes.length 1)).Faces (behind more rest) := by
  induction bytes generalizing reader with
  | nil => exact ⟨fun count => by rw [List.length_nil, Nat.zero_add]; rfl, faces⟩
  | cons byte bytes ih =>
    have first : reader.Faces (behind ([byte] ++ (bytes ++ more)) rest) := faces
    obtain ⟨byte_read, bytes_faced⟩ := first.readBytes_behind
    obtain ⟨bytes_read, more_faced⟩ := ih bytes_faced
    refine ⟨fun count => ?_, more_faced⟩
    have byte_given : reader.readByte.1 = .ok byte := congrArg (Except.map _) byte_read
    rw [List.length_cons, Nat.add_right_comm, singles, byte_given]
    exact congrArg (_ :: ·) (bytes_read count)

/-- Pieces in front of the reader are read byte by byte, one after the other, if none of them is empty. -/
theorem Faces.singles_pieces (faces : reader.Faces (front ++ rest)) (filled : ∀ piece ∈ front, piece ≠ []) :
    (∀ count, reader.singles (front.flatten.length + count) =
        front.flatten.map .ok ++ (reader.past (List.replicate front.flatten.length 1)).singles count) ∧
      (reader.past (List.replicate front.flatten.length 1)).Faces rest := by
  induction front generalizing reader with
  | nil => exact ⟨fun count => by rw [List.flatten_nil, List.length_nil, Nat.zero_add]; rfl, faces⟩
  | cons piece front ih =>
    obtain ⟨piece_filled, front_filled⟩ := List.forall_mem_cons.mp filled
    have first : reader.Faces (behind (piece ++ []) (front ++ rest)) := by
      rw [List.append_nil, behind_of_filled piece_filled]
      exact faces
    obtain ⟨piece_read, front_faced⟩ := first.singles_behind
    obtain ⟨front_read, rest_faced⟩ := ih front_faced front_filled
    rw [List.flatten_cons, List.length_append, past_replicate_add]
    refine ⟨fun count => ?_, rest_faced⟩
    rw [Nat.add_assoc, piece_read, front_read, List.map_append, List.append_assoc]

/-- Where nothing can be taken off, single reads fail and do not move the reader. -/
theorem Faces.singles_stuck (faces : reader.Faces payload) (stuck : payload = [] ∨ ∃ later, payload = [] :: later)
    (count : Nat) : reader.singles count = List.replicate count (.error ⟨1⟩) := by
  have nothing : takeBytes 1 payload = ([], payload) := by
    rcases stuck with rfl | ⟨later, rfl⟩ <;> rfl
  induction count generalizing reader with
  | zero => rfl
  | succ count ih =>
    obtain ⟨failed, same_faced⟩ := faces.readBytes 1
    rw [nothing] at failed same_faced
    have nothing_given : reader.readByte.1 = .error ⟨1⟩ := congrArg (Except.map _) failed
    rw [singles, nothing_given, List.replicate_succ]
    exact congrArg (_ :: ·) (ih same_faced)

/-- Single reads give the bytes in front of the first empty piece, and fail from then on. -/
theorem Faces.singles_beforeGap (faces : reader.Faces payload) (count : Nat) :
    reader.singles ((beforeGap payload).flatten.length + count) =
      (beforeGap payload).flatten.map .ok ++ List.replicate count (.error ⟨1⟩) := by
  obtain ⟨rest, same, stuck⟩ := beforeGap_append payload
  have split : reader.Faces (beforeGap payload ++ rest) := same ▸ faces
  obtain ⟨read, rest_faced⟩ := split.singles_pieces fun _ => filled_of_mem_beforeGap
  rw [read, rest_faced.singles_stuck stuck]

/-- How many bytes are left of the current piece. -/
def room (reader : PayloadReader) : Nat :=
  (reader.left.headD []).length

/-- Bytes that lie within the current piece are the same whether they are read all at once or one by one, and the same is
left behind them. What fields read off the payload is what the reader reads. -/
structure ReadsPieces (reader : PayloadReader) : Prop where
  within : ∀ length ≤ reader.room, ∃ bytes, bytes.length = length ∧ (reader.readBytes length).1 = .ok bytes ∧
    reader.singles length = bytes.map .ok ∧
      (reader.readBytes length).2.left = (reader.past (List.replicate length 1)).left
  fields : ∀ length, (Biff.readBytes length).run reader.left =
    (reader.readBytes length).1.map fun bytes => (bytes, (reader.readBytes length).2.left)

theorem Faces.reads_alike (faces : reader.Faces (behind (bytes ++ more) rest)) :
    (reader.readBytes bytes.length).1 = .ok bytes ∧ reader.singles bytes.length = bytes.map .ok ∧
      (reader.readBytes bytes.length).2.left = (reader.past (List.replicate bytes.length 1)).left := by
  obtain ⟨read, more_faced⟩ := faces.readBytes_behind
  obtain ⟨read_singly, more_faced_singly⟩ := faces.singles_behind
  have all := read_singly 0
  rw [Nat.add_zero, singles, List.append_nil] at all
  exact ⟨read, all, more_faced.left.trans more_faced_singly.left.symm⟩

theorem Faces.readsPieces (faces : reader.Faces payload) : reader.ReadsPieces where
  within length inside := by
    rw [room, faces.left] at inside
    obtain ⟨bytes, more, rest, rfl, same⟩ := exists_behind inside
    rw [same] at faces
    exact ⟨bytes, rfl, faces.reads_alike⟩
  fields length := by rw [faces.left, faces.run_readBytes]

/-- Single reads give all bytes of the payload and fail from then on. Bytes that lie within one piece are read where single
reads of all bytes in front of them have led, be it all at once or one by one. -/
structure Delivers (start : PayloadReader) (payload : Payload) : Prop where
  singly : ∀ count, start.singles (payload.flatten.length + count) =
    payload.flatten.map .ok ++ List.replicate count (.error ⟨1⟩)
  within : ∀ before piece after offset length, payload = before ++ piece :: after → offset + length ≤ piece.length →
    ((start.past (List.replicate (before.flatten.length + offset) 1)).readBytes length).1 =
        .ok (slice offset length piece) ∧
      (start.past (List.replicate (before.flatten.length + offset) 1)).singles length =
        (slice offset length piece).map .ok

/-- If single reads give all bytes, none of these stands behind an empty piece. -/
theorem Faces.not_hasGap (faces : start.Faces payload)
    (all_read : start.singles payload.flatten.length = payload.flatten.map .ok) : ¬ HasGap payload := by
  obtain ⟨rest, same, -⟩ := beforeGap_append payload
  have size : payload.flatten.length = (beforeGap payload).flatten.length + rest.flatten.length := by
    conv_lhs => rw [same]
    rw [List.flatten_append, List.length_append]
  have some_read := faces.singles_beforeGap rest.flatten.length
  rw [← size, all_read] at some_read
  have none_failed : rest.flatten.length = 0 := by
    by_contra missing
    have failed : (.error ⟨1⟩ : Except ShortRecord UInt8) ∈ payload.flatten.map .ok := by
      rw [some_read]
      exact List.mem_append_right _ (List.mem_replicate.mpr ⟨missing, rfl⟩)
    obtain ⟨byte, -, impossible⟩ := List.mem_map.mp failed
    cases impossible
  rw [none_failed, List.replicate_zero, List.append_nil] at some_read
  refine flatten_beforeGap_eq_iff.mp ((List.map_injective_iff.mpr ?_) some_read.symm)
  exact fun first second both => Except.ok.inj both

/-- Single reads lead over pieces with bytes to a piece, and to an offset in it. -/
theorem Faces.past_into {before after : Payload} {offset : Nat} (faces : start.Faces (before ++ piece :: after))
    (before_filled : ∀ earlier ∈ before, earlier ≠ []) (filled : piece ≠ []) (inside : offset ≤ piece.length) :
    (start.past (List.replicate (before.flatten.length + offset) 1)).Faces (behind (piece.drop offset) after) := by
  have piece_faced := (faces.singles_pieces before_filled).2
  rw [← behind_of_filled filled, ← List.take_append_drop offset piece] at piece_faced
  have offset_faced := piece_faced.singles_behind.2
  rwa [List.length_take_of_le inside, ← past_replicate_add] at offset_faced

theorem Faces.delivers (faces : start.Faces payload) (no_gap : ¬ HasGap payload) : start.Delivers payload where
  singly count := by
    rw [← flatten_beforeGap_eq_iff.mpr no_gap]
    exact faces.singles_beforeGap count
  within before piece after offset length same inside := by
    subst same
    rcases Nat.eq_zero_or_pos length with rfl | some_bytes
    · -- Without bytes it does not matter whether the piece can be reached.
      obtain ⟨rest, rest_faced⟩ := faces.past (List.replicate (before.flatten.length + offset) 1)
      have nothing_read := (rest_faced.readBytes 0).1
      rw [takeBytes_zero] at nothing_read
      exact ⟨nothing_read, rfl⟩
    · have filled : piece ≠ [] := List.length_pos_iff.mp (by omega)
      have before_filled : ∀ earlier ∈ before, earlier ≠ [] := by
        rintro earlier member rfl
        obtain ⟨front, back, rfl⟩ := List.append_of_mem member
        exact no_gap ⟨front, back ++ piece :: after, by simp, by simp [filled]⟩
      have offset_faced : Faces _ (behind (piece.drop offset) after) := faces.past_into before_filled filled (by omega)
      rw [← List.take_append_drop length (piece.drop offset)] at offset_faced
      have size : (slice offset length piece).length = length := by
        rw [slice, List.length_take, List.length_drop]
        omega
      obtain ⟨read, read_singly, -⟩ := offset_faced.reads_alike
      rw [← slice, size] at read read_singly
      exact ⟨read, read_singly⟩

theorem Faces.delivers_iff (faces : start.Faces payload) : start.Delivers payload ↔ ¬ HasGap payload := by
  refine ⟨fun delivers => faces.not_hasGap ?_, faces.delivers⟩
  have all := delivers.singly 0
  rwa [Nat.add_zero, List.replicate_zero, List.append_nil] at all

/-- The record in front of the reader is read, and its payload is in front of the reader then. -/
theorem next_faces {record : Record} {later : List Record} (ahead : records reader.rest = record :: later) :
    ∃ start, reader.next = .ok (some record.kind, start) ∧ start.Faces record.payload := by
  rcases Reader.next_reads reader.toReader with ⟨-, none_left⟩ | ⟨kind, after, read, reads⟩
  · cases ahead.symm.trans none_left
  · obtain ⟨rfl, -⟩ := List.cons.inj (ahead.symm.trans reads.first)
    refine ⟨⟨after, 0, 0⟩, ?_, ?_, left_beginning _ _⟩
    · rw [next, read]
      rfl
    · intro span member
      obtain ⟨-, rises, inside⟩ := reads.spans span member
      exact ⟨rises, inside.trans_eq (congrArg _ reads.stream.symm)⟩

end PayloadReader

theorem beginsNew_pieces_of_short (short : bytes.length < 4) : BeginsNew (pieces bytes) := by
  rw [pieces_of_short short]
  exact fun first member => nomatch member

/-- A written record is the first of a stream if it does not go on with what follows. -/
theorem records_writtenAll_append {record : Record} (writable : IsWritable record) (ends : BeginsNew (pieces bytes)) :
    records (writtenAll [record] ++ bytes) = record :: records bytes := by
  rw [records, writtenAll, List.flatMap_singleton, pieces_framedAll_append writable.framable, assemble_append ends,
    assemble_piecesOf writable]
  rfl

/-- A reader in front of a written record reads its kind. It then reads all bytes of the record, piece after piece, exactly
if no empty piece stands in front of bytes; in any case it reads those in front of the first empty piece, and fails from
then on. Wherever reads of any lengths have led it, bytes within the current piece are the same whether they are read all
at once or one by one, and what it reads is what fields read off the payload. -/
theorem next_delivers_iff {record : Record} {reader : PayloadReader} (writable : IsWritable record)
    (ends : BeginsNew (pieces bytes)) (ahead : reader.rest = writtenAll [record] ++ bytes) :
    ∃ start, reader.next = .ok (some record.kind, start) ∧ start.left = record.payload ∧
      (start.Delivers record.payload ↔ ¬ HasGap record.payload) ∧
      (∀ count, start.singles ((beforeGap record.payload).flatten.length + count) =
        (beforeGap record.payload).flatten.map .ok ++ List.replicate count (.error ⟨1⟩)) ∧
      ∀ lengths, (start.past lengths).ReadsPieces := by
  have first := records_writtenAll_append writable ends
  rw [← ahead] at first
  obtain ⟨start, read, faces⟩ := PayloadReader.next_faces first
  refine ⟨start, read, faces.left, faces.delivers_iff, faces.singles_beforeGap, fun lengths => ?_⟩
  obtain ⟨rest, rest_faced⟩ := faces.past lengths
  exact rest_faced.readsPieces

/-- A record with two continuations, the last of which is empty. -/
def continuedRecord : Record :=
  ⟨252, [[5, 0], [7, 8, 9], []]⟩

/-- Behind the record stand three bytes with which another continuation could begin. -/
theorem next_delivers_continued : ∃ start,
    (PayloadReader.ofStream (writtenAll [continuedRecord] ++ [60, 0, 0])).next = .ok (some 252, start) ∧
      start.Delivers continuedRecord.payload ∧
      start.singles 7 = [.ok 5, .ok 0, .ok 7, .ok 8, .ok 9, .error ⟨1⟩, .error ⟨1⟩] := by
  have writable : IsWritable continuedRecord := ⟨by decide, by decide, by decide, by decide⟩
  have ahead : (PayloadReader.ofStream (writtenAll [continuedRecord] ++ [60, 0, 0])).rest =
      writtenAll [continuedRecord] ++ [60, 0, 0] := List.drop_zero
  obtain ⟨start, read, -, delivers, -, -⟩ := next_delivers_iff writable (beginsNew_pieces_of_short (by decide)) ahead
  have no_gap : ¬ HasGap continuedRecord.payload := flatten_beforeGap_eq_iff.mp (by decide)
  have delivered := delivers.mpr no_gap
  exact ⟨start, read, delivered, delivered.singly 2⟩

/-- The table of one shared text, which stands in the second continuation. The first is empty. -/
def gappedTable : Record :=
  ⟨252, [[1, 0, 0, 0, 1, 0, 0, 0], [], [2, 0, 0, 111, 107]]⟩

/-- The text behind the empty continuation is not read. -/
theorem next_misses_gapped : IsWritable gappedTable ∧ ∃ start,
    (PayloadReader.ofStream (writtenAll [gappedTable])).next = .ok (some 252, start) ∧
      start.singles 13 = [.ok 1, .ok 0, .ok 0, .ok 0, .ok 1, .ok 0, .ok 0, .ok 0] ++ List.replicate 5 (.error ⟨1⟩) ∧
      ¬ start.Delivers gappedTable.payload := by
  have writable : IsWritable gappedTable := ⟨by decide, by decide, by decide, by decide⟩
  have first : records (PayloadReader.ofStream (writtenAll [gappedTable])).rest = gappedTable :: records [] := by
    rw [← records_writtenAll_append writable (beginsNew_pieces_of_short (by decide)), List.append_nil]
    exact congrArg records List.drop_zero
  obtain ⟨start, read, faces⟩ := PayloadReader.next_faces first
  refine ⟨writable, start, read, faces.singles_beforeGap 5, fun delivers => ?_⟩
  have gap : HasGap gappedTable.payload := ⟨[[1, 0, 0, 0, 1, 0, 0, 0]], [[2, 0, 0, 111, 107]], rfl, by decide⟩
  exact faces.delivers_iff.mp delivers gap

end Tablesmith.Biff
