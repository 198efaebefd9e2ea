import Mathlib
import Tablesmith.Biff.Text
import Tablesmith.Proofs.Text.Unicode
import Tablesmith.Proofs.Zip.Stored

/-!
# Shared texts that are split

A shared text that is too long for its record goes on in continuations, each of
which stores its characters in one byte or two. However the text is split, the
fragments are read one by one up to the end of the last (`run_readSharedText`), and
what is read is the text unless a pair of surrogates is cut
(`readSharedText_eq_iff`).
-/

namespace Tablesmith.Biff

open Text Text.Encoding Zip

variable {α β : Type} {narrow : Encoding} {count : Nat} {payload rest : Payload}
  {bytes more left : List UInt8}

/-- Code units of a shared text that stand behind one option byte. -/
structure Fragment where
  options : UInt8
  units : List Nat

namespace Fragment

/-- Whether the units have two bytes. -/
def wide (fragment : Fragment) : Bool :=
  isWide fragment.options.toNat

/-- The bytes of the units: both bytes of each, or the lower ones alone. -/
def characters (fragment : Fragment) : List UInt8 :=
  fragment.units.flatMap fun unit => if fragment.wide then two unit else [byteAt 0 unit]

/-- A fragment in bytes. -/
def stored (fragment : Fragment) : List UInt8 :=
  fragment.options :: fragment.characters

/-- Only units below 256 have one byte, and only if these are the lower bytes of UTF-16. -/
structure Fits (narrow : Encoding) (fragment : Fragment) : Prop where
  units : ∀ unit ∈ fragment.units, unit < 256 ^ 2
  lower : fragment.wide = false → narrow = .utf16 .little
  small : fragment.wide = false → ∀ unit ∈ fragment.units, unit < 256

end Fragment

/-- A payload from somewhere within a piece on. A piece of which nothing is left is passed. -/
def behind (left : List UInt8) (rest : Payload) : Payload :=
  if left = [] then rest else left :: rest

/-- A payload of some bytes and fragments, each of which begins a piece. The last piece goes on with
`left`, and the payload with `rest`. -/
def spread (left : List UInt8) (rest : Payload) (bytes : List UInt8) : List Fragment → Payload
  | [] => behind (bytes ++ left) rest
  | fragment :: further => behind bytes (spread left rest fragment.stored further)

/-- Fragments that make up a shared text which carries nothing else. Only a text without characters
may have a fragment without characters. -/
structure Splits (narrow : Encoding) (text : String) (first : Fragment) (further : List Fragment) : Prop where
  plain : hasRuns first.options.toNat = false ∧ hasGuide first.options.toNat = false
  whole : ((first :: further).map Fragment.units).flatten = textUnits text.toList
  short : (textUnits text.toList).length < 256 ^ 2
  fits : ∀ fragment ∈ first :: further, fragment.Fits narrow
  filled : further ≠ [] → ∀ fragment ∈ first :: further, fragment.units ≠ []

theorem takeBytes_zero (payload : Payload) : takeBytes 0 payload = ([], payload) := by
  rcases payload with _ | ⟨_ | ⟨byte, bytes⟩, rest⟩ <;> rfl

theorem takeBytes_behind : takeBytes bytes.length (behind (bytes ++ more) rest) = (bytes, behind more rest) := by
  cases bytes with
  | nil => exact takeBytes_zero _
  | cons byte bytes =>
    have dropped : (byte :: (bytes ++ more)).drop (byte :: bytes).length = more := List.drop_left
    have taken : (byte :: (bytes ++ more)).take (byte :: bytes).length = byte :: bytes := List.take_left
    cases more with
    | nil => simp [behind, takeBytes]
    | cons next more => simp only [behind, List.cons_append, takeBytes, dropped, taken, reduceCtorEq, ↓reduceIte]

/-- Bytes are taken up to the end of a piece if there are not enough of them. -/
theorem takeBytes_short (filled : bytes ≠ []) (few : bytes.length ≤ count) :
    takeBytes count (behind bytes rest) = (bytes, rest) := by
  cases bytes with
  | nil => exact absurd rfl filled
  | cons byte bytes =>
    have dropped : (byte :: bytes).drop count = [] := List.drop_eq_nil_of_le few
    simp only [behind, takeBytes, dropped, reduceCtorEq, ↓reduceIte]

theorem takeBytes_spread (further : List Fragment) :
    takeBytes bytes.length (spread left rest (bytes ++ more) further) = (bytes, spread left rest more further) := by
  cases further with
  | nil => rw [spread, spread, List.append_assoc, takeBytes_behind]
  | cons fragment further => rw [spread, spread, takeBytes_behind]

/-- The bytes of a piece are taken if they are all that is sought or if another piece follows. -/
theorem takeBytes_spread_piece {further : List Fragment}
    (ends : bytes.length = count ∨ further ≠ [] ∧ bytes ≠ [] ∧ bytes.length ≤ count) :
    takeBytes count (spread left rest bytes further) = (bytes, spread left rest [] further) := by
  rcases ends with rfl | ⟨goes_on, filled, few⟩
  · have taken : takeBytes bytes.length (spread left rest (bytes ++ []) further) = (bytes, spread left rest [] further) :=
      takeBytes_spread further
    rwa [List.append_nil] at taken
  · cases further with
    | nil => exact absurd rfl goes_on
    | cons fragment further => rw [spread, takeBytes_short filled few]; rfl

theorem spread_nil_cons (left : List UInt8) (rest : Payload) (fragment : Fragment) (further : List Fragment) :
    spread left rest [] (fragment :: further) = spread left rest fragment.stored further := rfl

theorem run_bind_of_ok {step : Reading α} {next : α → Reading β} {result : α} {middle : Payload}
    (done : step.run payload = .ok (result, middle)) : (step >>= next).run payload = (next result).run middle := by
  rw [StateT.run_bind, done]
  rfl

theorem run_readNumber_spread (bytes : List UInt8) (further : List Fragment) (sized : bytes.length = count) :
    (readNumber count).run (spread left rest (bytes ++ more) further) =
      .ok (Binary.number bytes, spread left rest more further) := by
  have taken : (readUpTo count).run (spread left rest (bytes ++ more) further) =
      .ok (bytes, spread left rest more further) := by
    rw [← sized]
    exact congrArg Except.ok (takeBytes_spread further)
  have exact_length : (readBytes count).run (spread left rest (bytes ++ more) further) =
      .ok (bytes, spread left rest more further) := by
    rw [readBytes, run_bind_of_ok taken, if_pos sized]
    rfl
  rw [readNumber, run_bind_of_ok exact_length]
  rfl

theorem run_readOptions (options : UInt8) (further : List Fragment) :
    (readNumber 1).run (spread left rest (options :: more) further) =
      .ok (options.toNat, spread left rest more further) :=
  run_readNumber_spread [options] further rfl

theorem run_skip_zero (payload : Payload) : (skip 0).run payload = .ok ((), payload) := by
  have none_read : (readUpTo 0).run payload = .ok ([], payload) := congrArg Except.ok (takeBytes_zero payload)
  have none_missing : (readBytes 0).run payload = .ok ([], payload) := by
    rw [readBytes, run_bind_of_ok none_read]
    rfl
  rw [skip, run_bind_of_ok none_missing]
  rfl

variable {fragment first : Fragment} {further : List Fragment} {text : String}

theorem units_two {units : List Nat} (small : ∀ unit ∈ units, unit < 256 ^ 2) :
    Encoding.units .little (units.flatMap two) = units := by
  induction units with
  | nil => rfl
  | cons unit units ih =>
    obtain ⟨unit_small, rest_small⟩ := List.forall_mem_cons.mp small
    have read : ByteOrder.little.unit (byteAt 0 unit) (byteAt 1 unit) = unit := by
      simp [ByteOrder.unit, byteAt]
      omega
    rw [List.flatMap_cons, two, List.cons_append, List.cons_append, List.nil_append]
    cases units with
    | nil => simp [Encoding.units, read]
    | cons next units =>
      have rest_read := ih rest_small
      rw [List.flatMap_cons, two, List.cons_append, List.cons_append, List.nil_append] at rest_read ⊢
      rw [Encoding.units, read, rest_read]
      simp

theorem length_characters (fragment : Fragment) :
    fragment.characters.length = fragment.units.length * if fragment.wide then 2 else 1 := by
  unfold Fragment.characters
  rw [List.length_flatMap]
  cases fragment.wide <;> simp [two]

theorem decodeCharacters_characters (fits : fragment.Fits narrow) :
    decodeCharacters narrow fragment.wide fragment.characters = decodeUnits fragment.units := by
  cases wide : fragment.wide with
  | true => simp only [decodeCharacters, Fragment.characters, wide, ↓reduceIte, decodeUtf16, units_two fits.units]
  | false =>
    obtain rfl := fits.lower wide
    have small := fits.small wide
    have below : ∀ unit ∈ fragment.units, unit < 0xd800 := by
      intro unit member
      have := small unit member
      omega
    have lower : ∀ unit ∈ fragment.units, Char.ofNat (byteAt 0 unit).toNat = Char.ofNat unit := by
      intro unit member
      have := small unit member
      have same : (byteAt 0 unit).toNat = unit := by
        simp [byteAt]
        omega
      rw [same]
    rw [decodeUnits_of_small below]
    simp only [decodeCharacters, Fragment.characters, wide, Bool.false_eq_true, ↓reduceIte, decodeLatin1, List.map_flatMap,
      List.map_cons, List.map_nil]
    rw [← List.map_eq_flatMap]
    exact List.map_congr_left lower

/-- Characters are read up to the end of the piece where others follow in the next. -/
theorem run_readCharacters (fits : fragment.Fits narrow)
    (ends : fragment.units.length = count ∨ further ≠ [] ∧ fragment.units ≠ [] ∧ fragment.units.length ≤ count) :
    (readCharacters narrow fragment.wide count).run (spread left rest fragment.characters further) =
      .ok ((decodeUnits fragment.units, fragment.units.length), spread left rest [] further) := by
  have size := length_characters fragment
  have width_pos : 0 < if fragment.wide then 2 else 1 := by split <;> decide
  have bytes_end : fragment.characters.length = count * (if fragment.wide then 2 else 1) ∨
      further ≠ [] ∧ fragment.characters ≠ [] ∧ fragment.characters.length ≤ count * if fragment.wide then 2 else 1 := by
    rcases ends with rfl | ⟨goes_on, filled, few⟩
    · exact Or.inl size
    · refine Or.inr ⟨goes_on, ?_, ?_⟩
      · rw [← List.length_pos_iff_ne_nil, size]
        exact Nat.mul_pos (List.length_pos_of_ne_nil filled) width_pos
      · rw [size]
        exact Nat.mul_le_mul_right _ few
  have taken : (readUpTo (count * if fragment.wide then 2 else 1)).run (spread left rest fragment.characters further) =
      .ok (fragment.characters, spread left rest [] further) := congrArg Except.ok (takeBytes_spread_piece bytes_end)
  have characters_read : fragment.characters.length / (if fragment.wide then 2 else 1) = fragment.units.length := by
    rw [size, Nat.mul_div_cancel _ width_pos]
  rw [readCharacters, run_bind_of_ok taken, decodeCharacters_characters fits, characters_read]
  rfl

theorem run_readPlainFragment (fits : fragment.Fits narrow)
    (ends : fragment.units.length = count ∨ further ≠ [] ∧ fragment.units ≠ [] ∧ fragment.units.length ≤ count) :
    (readPlainFragment narrow count).run (spread left rest fragment.stored further) =
      .ok ((decodeUnits fragment.units, fragment.units.length), spread left rest [] further) := by
  rw [readPlainFragment, Fragment.stored, run_bind_of_ok (run_readOptions _ further)]
  exact run_readCharacters fits ends

theorem run_readRichFragment (plain : hasRuns fragment.options.toNat = false ∧ hasGuide fragment.options.toNat = false)
    (fits : fragment.Fits narrow)
    (ends : fragment.units.length = count ∨ further ≠ [] ∧ fragment.units ≠ [] ∧ fragment.units.length ≤ count) :
    (readRichFragment narrow count).run (spread left rest fragment.stored further) =
      .ok ((decodeUnits fragment.units, fragment.units.length), spread left rest [] further) := by
  have none_carried (length : Nat) (payload : Payload) :
      (readOptional false length).run payload = .ok (0, payload) := rfl
  rw [readRichFragment, Fragment.stored, run_bind_of_ok (run_readOptions _ further), plain.1, plain.2,
    run_bind_of_ok (none_carried 2 _), run_bind_of_ok (none_carried 4 _), ← Fragment.wide,
    run_bind_of_ok (run_readCharacters fits ends), Nat.mul_zero, run_bind_of_ok (run_skip_zero _),
    run_bind_of_ok (run_skip_zero _)]
  rfl

/-- All further fragments are read if none is without characters. -/
theorem run_readFurther (fits : ∀ fragment ∈ further, fragment.Fits narrow)
    (filled : ∀ fragment ∈ further, fragment.units ≠ [])
    (missing : (further.map Fragment.units).flatten.length = count) (left : List UInt8) (rest : Payload) :
    (readFurther narrow count).run (spread left rest [] further) =
      .ok ((further.map Fragment.units).flatMap decodeUnits, behind left rest) := by
  induction further generalizing count with
  | nil =>
    have none_missing : count = 0 := missing.symm
    rw [readFurther, dif_pos none_missing]
    rfl
  | cons fragment further ih =>
    obtain ⟨fragment_fits, further_fits⟩ := List.forall_mem_cons.mp fits
    obtain ⟨fragment_filled, further_filled⟩ := List.forall_mem_cons.mp filled
    rw [List.map_cons, List.flatten_cons, List.length_append] at missing
    have some_read := List.length_pos_of_ne_nil fragment_filled
    have ends : fragment.units.length = count ∨
        further ≠ [] ∧ fragment.units ≠ [] ∧ fragment.units.length ≤ count := by
      cases further with
      | nil => exact Or.inl (by simpa using missing)
      | cons => exact Or.inr ⟨by simp, fragment_filled, by omega⟩
    have further_missing : (further.map Fragment.units).flatten.length = count - fragment.units.length := by omega
    have rest_read := ih further_fits further_filled further_missing
    rw [readFurther, dif_neg (by omega), spread_nil_cons, run_bind_of_ok (run_readPlainFragment fragment_fits ends),
      dif_neg (by omega), run_bind_of_ok rest_read]
    rfl

/-- The fragments of a text are decoded one by one, and nothing behind them is read. -/
theorem run_readSharedText (splits : Splits narrow text first further) (left : List UInt8) (rest : Payload) :
    (readSharedText narrow).run
        (spread left rest (two (textUnits text.toList).length ++ first.stored) further) =
      .ok (String.ofList (((first :: further).map Fragment.units).flatMap decodeUnits), behind left rest) := by
  obtain ⟨first_fits, further_fits⟩ := List.forall_mem_cons.mp splits.fits
  have size : first.units.length + (further.map Fragment.units).flatten.length = (textUnits text.toList).length := by
    rw [← splits.whole, List.map_cons, List.flatten_cons, List.length_append]
  have ends : first.units.length = (textUnits text.toList).length ∨
      further ≠ [] ∧ first.units ≠ [] ∧ first.units.length ≤ (textUnits text.toList).length := by
    by_cases goes_on : further = []
    · subst goes_on
      exact Or.inl (by simpa using size)
    · exact Or.inr ⟨goes_on, splits.filled goes_on first List.mem_cons_self, by omega⟩
  have further_filled : ∀ fragment ∈ further, fragment.units ≠ [] := by
    intro fragment member
    exact splits.filled (List.ne_nil_of_mem member) fragment (List.mem_cons_of_mem _ member)
  have counted : (readNumber 2).run (spread left rest (two (textUnits text.toList).length ++ first.stored) further) =
      .ok (Binary.number (two (textUnits text.toList).length), spread left rest first.stored further) :=
    run_readNumber_spread _ further rfl
  have further_missing : (further.map Fragment.units).flatten.length =
      (textUnits text.toList).length - first.units.length := by omega
  have rest_read := run_readFurther further_fits further_filled further_missing left rest
  rw [readSharedText, run_bind_of_ok counted, number_two splits.short,
    run_bind_of_ok (run_readRichFragment splits.plain first_fits ends), run_bind_of_ok rest_read]
  rfl

/-- However a text is split, it is read up to the end of its last fragment, and is the same exactly
if no pair of surrogates is cut. -/
theorem readSharedText_eq_iff (splits : Splits narrow text first further) (left : List UInt8) (rest : Payload) :
    ∃ read, (readSharedText narrow).run
        (spread left rest (two (textUnits text.toList).length ++ first.stored) further) = .ok (read, behind left rest) ∧
      (read = text ↔ ¬ CutsPair ((first :: further).map Fragment.units)) := by
  refine ⟨_, run_readSharedText splits left rest, ?_⟩
  have decoded : decodeUnits ((first :: further).map Fragment.units).flatten = text.toList := by
    rw [splits.whole, decodeUnits_textUnits]
  rw [← flatMap_decodeUnits_iff, decoded]
  constructor
  · rintro rfl
    rw [String.toList_ofList]
  · intro same
    rw [same, String.ofList_toList]

/-- One byte and two bytes for a unit alternate; the pair of surrogates is in one fragment. -/
theorem splits_mixed : Splits (.utf16 .little) "Ab😀é" ⟨0, [0x41]⟩ [⟨1, [0x62, 0xd83d, 0xde00]⟩, ⟨0, [0xe9]⟩] := by
  refine ⟨by decide, by decide, by decide, ?_, ?_⟩
  · simp only [List.forall_mem_cons]
    exact ⟨⟨by decide, fun _ => rfl, by decide⟩, ⟨by decide, fun _ => rfl, by decide⟩, ⟨by decide, fun _ => rfl, by decide⟩, by simp⟩
  · simp

theorem readSharedText_mixed :
    (readSharedText (.utf16 .little)).run
        (spread [7] [] (two 5 ++ [0, 0x41]) [⟨1, [0x62, 0xd83d, 0xde00]⟩, ⟨0, [0xe9]⟩]) =
      .ok ("Ab😀é", [[7]]) := by
  obtain ⟨read, run, same⟩ := readSharedText_eq_iff splits_mixed [7] []
  have uncut : ¬ CutsPair [[0x41], [0x62, 0xd83d, 0xde00], [0xe9]] := flatMap_decodeUnits_iff.mp (by decide)
  obtain rfl : read = "Ab😀é" := same.mpr uncut
  exact run

theorem splits_within_pair : Splits (.utf16 .little) "😀" ⟨1, [0xd83d]⟩ [⟨1, [0xde00]⟩] := by
  refine ⟨by decide, by decide, by decide, ?_, ?_⟩
  · simp only [List.forall_mem_cons]
    exact ⟨⟨by decide, fun _ => rfl, by decide⟩, ⟨by decide, fun _ => rfl, by decide⟩, by simp⟩
  · simp

/-- A text whose only pair is cut is read as two replacement characters. -/
theorem readSharedText_within_pair :
    Splits (.utf16 .little) "😀" ⟨1, [0xd83d]⟩ [⟨1, [0xde00]⟩] ∧
      (readSharedText (.utf16 .little)).run (spread [] [] (two 2 ++ [1, 0x3d, 0xd8]) [⟨1, [0xde00]⟩]) =
        .ok ("\ufffd\ufffd", []) ∧
      "\ufffd\ufffd" ≠ "😀" := by
  refine ⟨splits_within_pair, ?_, by decide⟩
  exact run_readSharedText splits_within_pair [] []

end Tablesmith.Biff
