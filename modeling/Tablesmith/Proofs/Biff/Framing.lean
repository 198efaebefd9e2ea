import Mathlib
import Tablesmith.Biff.Record
import Tablesmith.Proofs.Zip.Stored

/-!
# Records one after the other

Records that are written one after the other are found again, whatever follows them
(`pieces_framedAll_append`). Continuations belong to the record before them, so a
stream can be cut in front of everything else: the records of both parts are the records
of the whole (`assemble_append`).
-/

namespace Tablesmith.Biff

open Zip

/-- A record without its continuations: its kind and its payload. -/
abbrev Piece : Type :=
  Nat × List UInt8

variable {piece : Piece} {before after : List Piece} {rest : List UInt8}

/-- A record in bytes. -/
def framed (piece : Piece) : List UInt8 :=
  two piece.1 ++ (two piece.2.length ++ piece.2)

/-- Records in bytes. -/
def framedAll (pieces : List Piece) : List UInt8 :=
  pieces.flatMap framed

/-- Kind and length of a record fit into their fields. -/
def Framable (piece : Piece) : Prop :=
  piece.1 < 256 ^ 2 ∧ piece.2.length < 256 ^ 2

instance (piece : Piece) : Decidable (Framable piece) :=
  inferInstanceAs (Decidable (_ ∧ _))

/-- A record that no continuation follows. -/
def unbroken (piece : Piece) : Record :=
  ⟨piece.1, [piece.2]⟩

/-- Records do not begin with a continuation. -/
def BeginsNew (pieces : List Piece) : Prop :=
  ∀ first ∈ pieces.head?, first.1 ≠ continuation

theorem takePiece?_framed (framable : Framable piece) (rest : List UInt8) :
    takePiece? (framed piece ++ rest) = some (piece, rest) := by
  obtain ⟨kind, payload⟩ := piece
  obtain ⟨kind_small, length_small⟩ := framable
  have kind_read : Binary.number [byteAt 0 kind, byteAt 1 kind] = kind := number_two kind_small
  have length_read : Binary.number [byteAt 0 payload.length, byteAt 1 payload.length] = payload.length :=
    number_two length_small
  simp only [framed, two, List.cons_append, List.nil_append, takePiece?, kind_read, length_read, List.take_left,
    List.drop_left]

theorem pieces_of_some {bytes : List UInt8} (taken : takePiece? bytes = some (piece, rest)) :
    pieces bytes = piece :: pieces rest := by
  rw [pieces]
  split
  · next found same =>
    cases same.symm.trans taken
    rfl
  · next none_taken => cases none_taken.symm.trans taken

theorem pieces_framed_append (framable : Framable piece) (rest : List UInt8) :
    pieces (framed piece ++ rest) = piece :: pieces rest :=
  pieces_of_some (takePiece?_framed framable rest)

/-- Records that are written are found again. -/
theorem pieces_framedAll_append (framable : ∀ piece ∈ before, Framable piece) (rest : List UInt8) :
    pieces (framedAll before ++ rest) = before ++ pieces rest := by
  induction before with
  | nil => rfl
  | cons piece before ih =>
    obtain ⟨piece_framable, rest_framable⟩ := List.forall_mem_cons.mp framable
    rw [framedAll, List.flatMap_cons, List.append_assoc, pieces_framed_append piece_framable, ← framedAll,
      ih rest_framable, List.cons_append]

theorem continuations_append (starts : BeginsNew after) (before : List Piece) :
    continuations (before ++ after) = continuations before ∧
      (before ++ after).dropWhile (·.1 = continuation) = before.dropWhile (·.1 = continuation) ++ after := by
  unfold continuations
  induction before with
  | nil =>
    cases after with
    | nil => exact ⟨rfl, rfl⟩
    | cons first after =>
      have new : first.1 ≠ continuation := starts first rfl
      simp [new]
  | cons piece before ih =>
    obtain ⟨same_payload, same_rest⟩ := ih
    by_cases goes_on : piece.1 = continuation
    · simpa [goes_on] using ⟨same_payload, same_rest⟩
    · simp [goes_on]

/-- A list of records can be cut in front of everything but continuations. -/
theorem assemble_append (starts : BeginsNew after) : assemble (before ++ after) = assemble before ++ assemble after := by
  induction before using assemble.induct with
  | case1 => simp [assemble]
  | case2 kind payload rest ih =>
    obtain ⟨same_payload, same_rest⟩ := continuations_append starts rest
    rw [List.cons_append, assemble, assemble, same_payload, same_rest, ih, List.cons_append]

/-- A record that is followed by no continuation has a payload in one part. -/
theorem assemble_cons (starts : BeginsNew after) (piece : Piece) :
    assemble (piece :: after) = unbroken piece :: assemble after := by
  have alone : assemble [piece] = [unbroken piece] := by
    rw [assemble]
    simp [continuations, assemble, unbroken]
  rw [← List.singleton_append, assemble_append starts, alone, List.singleton_append]

/-- Without continuations every record has a payload in one part. -/
theorem assemble_map (new : ∀ piece ∈ before, piece.1 ≠ continuation) :
    assemble before = before.map unbroken := by
  induction before with
  | nil => rw [assemble, List.map_nil]
  | cons piece before ih =>
    obtain ⟨_, rest_new⟩ := List.forall_mem_cons.mp new
    have starts : BeginsNew before := fun first member => rest_new first (List.mem_of_mem_head? member)
    rw [assemble_cons starts, ih rest_new, List.map_cons]

/-- The last of the records that are written may go on in what follows, but nothing of that belongs to those before it. -/
theorem records_framedAll_append {last : Piece} (framable : ∀ piece ∈ before ++ [last], Framable piece)
    (new : ∀ piece ∈ before ++ [last], piece.1 ≠ continuation) (rest : List UInt8) :
    ∃ payload later, records (framedAll (before ++ [last]) ++ rest) =
      before.map unbroken ++ ⟨last.1, payload⟩ :: later := by
  obtain ⟨before_new, last_new⟩ := List.forall_mem_append.mp new
  have starts : BeginsNew (last :: pieces rest) := by
    rintro _ ⟨⟩
    exact last_new last (List.mem_singleton_self last)
  refine ⟨last.2 :: continuations (pieces rest), assemble ((pieces rest).dropWhile (·.1 = continuation)), ?_⟩
  rw [records, pieces_framedAll_append framable, List.append_assoc, List.singleton_append, assemble_append starts,
    assemble_map before_new, assemble]

/-- A stream of records without continuations. -/
theorem records_framedAll (framable : ∀ piece ∈ before, Framable piece) (new : ∀ piece ∈ before, piece.1 ≠ continuation) :
    pieces (framedAll before) = before ∧ records (framedAll before) = before.map unbroken := by
  have nothing : pieces [] = [] := by
    rw [pieces]
    rfl
  have found := pieces_framedAll_append framable []
  rw [List.append_nil, nothing, List.append_nil] at found
  exact ⟨found, by rw [records, found, assemble_map new]⟩

end Tablesmith.Biff
