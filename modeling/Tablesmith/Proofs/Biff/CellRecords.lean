import Mathlib
import Tablesmith.Biff.Globals
import Tablesmith.Biff.Worksheet
import Tablesmith.Proofs.Biff.Framing
import Tablesmith.Proofs.Biff.SharedText
import Tablesmith.Proofs.Steps

/-!
# Cell records

Two judgements on a reading: what holds of everything that it gives (`Gives`), and
which bytes it takes off a payload to give a certain value (`Reads`). Both go through a
sequence of readings step by step.

The records that hold cells, as they are written: an `Entry` is one record, or a formula
together with the record of its text result. Every field that is written is read back with
nothing but its own bytes taken off the payload, so the cells of an entry are read from its
records whatever follows them (`rowCells_packedRow`, `storeCell_entry`).
-/

namespace Tablesmith.Biff

open Outcome Zip

variable {α β : Type} {before : α → Prop} {fact : β → Prop} {reading : Reading α} {next : α → Reading β}
  {bytes more : List UInt8}

/-- Whatever is read off a payload is as the fact says. -/
def Gives (fact : α → Prop) (reading : Reading α) : Prop :=
  ∀ payload result left, reading.run payload = .ok (result, left) → fact result

theorem gives_pure {result : β} (given : fact result) : Gives fact (pure result : Reading β) := by
  rintro payload _ _ ⟨⟩
  exact given

theorem Gives.bind (first : Gives before reading) (second : ∀ result, before result → Gives fact (next result)) :
    Gives fact (reading >>= next) := by
  intro payload result left done
  rw [StateT.run_bind] at done
  obtain ⟨⟨found, middle⟩, stepped, done⟩ := bind_ok_iff.mp done
  exact second found (first payload found middle stepped) middle result left done

theorem gives_bind (second : ∀ result, Gives fact (next result)) : Gives fact (reading >>= next) := by
  have anything : Gives (fun _ => True) reading := fun _ _ _ _ => trivial
  exact anything.bind fun result _ => second result

theorem Gives.read {record : Record} {reading : Reading β} {result : β} (gives : Gives fact reading)
    (read : record.read reading = .ok result) : fact result := by
  unfold Record.read at read
  split at read
  · next found done =>
    cases read
    exact gives _ _ _ done
  · cases read

/-- Reading takes these bytes off whatever they begin, and gives this value. -/
def Reads (reading : Reading α) (bytes : List UInt8) (value : α) : Prop :=
  ∀ more rest, reading.run (behind (bytes ++ more) rest) = .ok (value, behind more rest)

namespace Reads

variable {value : α} {result : β}

theorem bind (first : Reads reading bytes value) (second : Reads (next value) more result) :
    Reads (reading >>= next) (bytes ++ more) result := by
  intro further rest
  rw [List.append_assoc, run_bind_of_ok (first (more ++ further) rest), second]

theorem pure (value : α) : Reads (Pure.pure value) [] value :=
  fun _ _ => rfl

theorem map (reads : Reads reading bytes value) (change : α → β) :
    Reads (do return change (← reading)) bytes (change value) := by
  have done : Reads (reading >>= fun value => Pure.pure (change value)) (bytes ++ []) (change value) :=
    reads.bind (pure (change value))
  rwa [List.append_nil] at done

/-- What is behind the bytes in the payload of a record does not matter. -/
theorem read (reads : Reads reading bytes value) (filled : bytes ≠ []) (kind : Nat) (further : List UInt8) :
    (unbroken (kind, bytes ++ further)).read reading = .ok value := by
  have some_bytes : bytes ++ further ≠ [] := by simp [filled]
  have whole : behind (bytes ++ further) [] = [bytes ++ further] := if_neg some_bytes
  rw [Record.read, unbroken, ← whole, reads]

end Reads

theorem reads_number (bytes : List UInt8) : Reads (readNumber bytes.length) bytes (Binary.number bytes) := by
  intro more rest
  have read : (readNumber bytes.length).run (spread more rest (bytes ++ []) []) =
      .ok (Binary.number bytes, spread more rest [] []) := run_readNumber_spread bytes [] rfl
  rwa [List.append_nil] at read

theorem reads_two (n : UInt16) : Reads (readNumber 2) (two n.toNat) n.toNat := by
  have read := reads_number (two n.toNat)
  rwa [number_two (by simpa using n.toNat_lt)] at read

theorem reads_four {n : Nat} (small : n < 256 ^ 4) : Reads (readNumber 4) (four n) n := by
  have read := reads_number (four n)
  rwa [number_four small] at read

theorem reads_byte (byte : UInt8) : Reads (readNumber 1) [byte] byte.toNat := by
  have read := reads_number [byte]
  rwa [show Binary.number [byte] = byte.toNat by simp [Binary.number]] at read

theorem reads_skip (bytes : List UInt8) : Reads (skip bytes.length) bytes () := by
  intro more rest
  have taken : (readUpTo bytes.length).run (behind (bytes ++ more) rest) = .ok (bytes, behind more rest) :=
    congrArg Except.ok takeBytes_behind
  have all_read : (readBytes bytes.length).run (behind (bytes ++ more) rest) = .ok (bytes, behind more rest) := by
    rw [readBytes, run_bind_of_ok taken, if_pos rfl]
    rfl
  rw [skip, run_bind_of_ok all_read]
  rfl

end Tablesmith.Biff

namespace Tablesmith.Number

theorem showNat_ne_empty (n : Nat) : showNat n ≠ "" := by
  rw [showNat, ne_eq, String.ofList_eq_empty_iff]
  exact Nat.toDigits_ne_nil

theorem showInt_ne_empty (value : Int) : showInt value ≠ "" := by
  cases value with
  | ofNat n => exact showNat_ne_empty n
  | negSucc n => simp [showInt]

theorem Decimal.text_ne_empty (decimal : Decimal) : decimal.text ≠ "" := by
  have digits := @Nat.toDigits_ne_nil
  unfold Decimal.text
  dsimp only
  split_ifs <;> simp [digits]

theorem signed_ne_empty {text : String} (filled : text ≠ "") (negative : Bool) : signed negative text ≠ "" := by
  cases negative with
  | false => exact filled
  | true => simp [signed]

theorem Binary64.text_ne_empty (value : Binary64) : value.text ≠ "" := by
  unfold Binary64.text
  split
  · decide
  · exact signed_ne_empty (by decide) _
  · exact signed_ne_empty (by decide) _
  · exact signed_ne_empty (Decimal.text_ne_empty _) _

end Tablesmith.Number

namespace Tablesmith.Biff

open Grid Number Text Text.Encoding Zip

/-- The value that four bytes hold: an integer of 30 bits, or the upper 30 bits of a double. -/
inductive PackedValue
  | integer (value : BitVec 30)
  | double (upper : BitVec 30)

/-- A compressed number: a value and whether it is divided by a hundred. -/
structure Packed where
  value : PackedValue
  hundredth : Bool

namespace Packed

/-- The bits of a compressed number: the two lowest say what the others are. -/
def bits (packed : Packed) : Nat :=
  match packed.value with
  | .integer value => value.toNat * 4 + 2 + packed.hundredth.toNat
  | .double upper => upper.toNat * 4 + packed.hundredth.toNat

/-- What a compressed number is as a text. -/
def text (packed : Packed) : String :=
  match packed.value, packed.hundredth with
  | .integer value, false => showInt value.toInt
  | .integer value, true => (Binary64.ofInt value.toInt).hundredth.text
  | .double upper, false => (Binary64.ofBits (UInt64.ofNat (upper.toNat * 2 ^ 34))).text
  | .double upper, true => (Binary64.ofBits (UInt64.ofNat (upper.toNat * 2 ^ 34))).hundredth.text

end Packed

/-- A text of less than 65536 code units behind an option byte, which tells whether they have one
byte or two. -/
structure StoredText where
  text : String
  options : UInt8
  short : (textUnits text.toList).length < 256 ^ 2
  small : isWide options.toNat = false → ∀ unit ∈ textUnits text.toList, unit < 256

namespace StoredText

/-- The code units of a text with their option byte. -/
def fragment (stored : StoredText) : Fragment :=
  ⟨stored.options, textUnits stored.text.toList⟩

/-- A text in bytes. -/
def bytes (stored : StoredText) : List UInt8 :=
  two (textUnits stored.text.toList).length ++ stored.fragment.stored

end StoredText

/-- What a cell record begins with. -/
structure Place where
  row : UInt16
  column : UInt16
  style : UInt16

namespace Place

/-- Row, column and style in bytes. -/
def bytes (place : Place) : List UInt8 :=
  two place.row.toNat ++ (two place.column.toNat ++ two place.style.toNat)

/-- A cell that stands here. -/
def cell (place : Place) (kind : CellKind) (value : String) : Cell :=
  ⟨place.row.toNat, place.column.toNat, kind, value⟩

end Place

/-- A double in bytes. -/
def eight (bits : UInt64) : List UInt8 :=
  [byteAt 0 bits.toNat, byteAt 1 bits.toNat, byteAt 2 bits.toNat, byteAt 3 bits.toNat, byteAt 4 bits.toNat,
    byteAt 5 bits.toNat, byteAt 6 bits.toNat, byteAt 7 bits.toNat]

/-- The result of a formula. A double is none of those whose two upper bytes mark another result. -/
inductive StoredResult
  | number (bits : UInt64) (unmarked : bits.toNat / 2 ^ 48 ≠ 0xffff)
  | text (stored : StoredText)
  | boolean (value : UInt8)
  | error (code : UInt8)
  | empty

/-- The bytes of a marked result that say nothing. -/
structure Filling where
  second : UInt8
  fourth : UInt8
  fifth : UInt8
  sixth : UInt8

namespace StoredResult

/-- A marked result: what it is and its detail. -/
def marked (tag detail : UInt8) (filling : Filling) : List UInt8 :=
  [tag, filling.second, detail, filling.fourth, filling.fifth, filling.sixth, 0xff, 0xff]

/-- The eight bytes of a result. -/
def bytes (filling : Filling) : StoredResult → List UInt8
  | number bits _ => eight bits
  | text _ => marked 0 0 filling
  | boolean value => marked 1 value filling
  | error code => marked 2 code filling
  | empty => marked 3 0 filling

/-- The record behind the formula. -/
def following : StoredResult → List Piece
  | text stored => [(formulaText, stored.bytes)]
  | _ => []

/-- The cell of a formula. -/
def cell (context : Context) (place : Place) : StoredResult → Cell
  | number bits _ => place.cell (.ofStyle context.kinds place.style.toNat) (Binary64.ofBits bits).text
  | text stored => place.cell .inlineText stored.text
  | boolean value => place.cell .boolean (if value.toNat = 0 then "0" else "1")
  | error code => place.cell .error (errorText code.toNat)
  | empty => place.cell .inlineText ""

end StoredResult

/-- What a worksheet says of one cell or of several cells of a row. -/
inductive Entry
  | number (place : Place) (bits : UInt64)
  | packed (place : Place) (value : Packed)
  | packedCells (row column : UInt16) (first : UInt16 × Packed) (further : List (UInt16 × Packed))
  | shared (place : Place) (index : UInt32)
  | label (place : Place) (stored : StoredText)
  | flag (place : Place) (value isError : UInt8)
  | formula (place : Place) (result : StoredResult) (filling : Filling) (expression : List UInt8)

namespace Entry

/-- A style and a compressed number. -/
def styled (value : UInt16 × Packed) : List UInt8 :=
  two value.1.toNat ++ four value.2.bits

/-- The records of an entry. -/
def pieces : Entry → List Piece
  | number place bits => [(515, place.bytes ++ eight bits)]
  | packed place value => [(638, place.bytes ++ four value.bits)]
  | packedCells row column first further =>
    [(packedRow, two row.toNat ++ (two column.toNat ++
      ((first :: further).flatMap styled ++ two (column.toNat + further.length))))]
  | shared place index => [(253, place.bytes ++ four index.toNat)]
  | label place stored => [(516, place.bytes ++ stored.bytes)]
  | flag place value isError => [(517, place.bytes ++ [value, isError])]
  | formula place result filling expression =>
    (6, place.bytes ++ (result.bytes filling ++ expression)) :: result.following

/-- The cells of an entry, whether they have a value or not. -/
def cells (context : Context) : Entry → List Cell
  | number place bits => [place.cell (.ofStyle context.kinds place.style.toNat) (Binary64.ofBits bits).text]
  | packed place value => [place.cell (.ofStyle context.kinds place.style.toNat) value.text]
  | packedCells row column first further => (first :: further).mapIdx fun i value =>
    ⟨row.toNat, column.toNat + i, .ofStyle context.kinds value.1.toNat, value.2.text⟩
  | shared place index => [place.cell .sharedText (showNat index.toNat)]
  | label place stored => [place.cell .inlineText stored.text]
  | flag place value isError =>
    [if isError = 0 then place.cell .boolean (showNat value.toNat) else place.cell .error (errorText value.toNat)]
  | formula place result _ _ => [result.cell context place]

/-- No record is longer than its length can say, and the last of several columns is a number of 16 bits. -/
structure Fits (entry : Entry) : Prop where
  framable : ∀ piece ∈ entry.pieces, Framable piece
  columns : ∀ row column first further, entry = packedCells row column first further →
    column.toNat + further.length < 256 ^ 2

end Entry

variable {α β : Type} {context : Context}

theorem reads_style_passed (style : UInt16) : Reads (skip 2) (two style.toNat) () :=
  reads_skip (two style.toNat)

theorem number_eight (bits : UInt64) : Binary.number (eight bits) = bits.toNat := by
  have small := bits.toNat_lt
  simp [eight, Binary.number, byteAt]
  omega

theorem reads_eight (bits : UInt64) : Reads (readNumber 8) (eight bits) bits.toNat := by
  have read := reads_number (eight bits)
  rwa [number_eight] at read

theorem reads_double (bits : UInt64) : Reads readDouble (eight bits) (Binary64.ofBits bits) := by
  have read := (reads_eight bits).map fun bits => Binary64.ofBits (UInt64.ofNat bits)
  rwa [UInt64.ofNat_toNat] at read

namespace Packed

theorem bits_lt (packed : Packed) : packed.bits < 256 ^ 4 := by
  obtain ⟨value, hundredth⟩ := packed
  have flag : hundredth.toNat ≤ 1 := Bool.toNat_le hundredth
  cases value with
  | integer value => have := value.isLt; simp only [bits]; omega
  | double upper => have := upper.isLt; simp only [bits]; omega

/-- The lowest bits of a compressed number say what the others are. -/
theorem packedText_bits (packed : Packed) : packedText packed.bits = packed.text := by
  obtain ⟨value, hundredth⟩ := packed
  have flag : hundredth.toNat ≤ 1 := Bool.toNat_le hundredth
  cases value with
  | integer value =>
    have divided : (value.toNat * 4 + 2 + hundredth.toNat) % 2 = hundredth.toNat := by omega
    have integral : (value.toNat * 4 + 2 + hundredth.toNat) / 2 % 2 = 1 := by omega
    have upper : (value.toNat * 4 + 2 + hundredth.toNat) / 4 = value.toNat := by omega
    have signed : packedInteger (value.toNat * 4 + 2 + hundredth.toNat) = value.toInt := by
      have := value.isLt
      simp only [packedInteger, upper, BitVec.toInt_eq_toNat_cond]
      split <;> split <;> simp_all <;> omega
    cases hundredth <;> simp_all [packedText, bits, text]
  | double upper =>
    have divided : (upper.toNat * 4 + hundredth.toNat) % 2 = hundredth.toNat := by omega
    have not_integral : (upper.toNat * 4 + hundredth.toNat) / 2 % 2 = 0 := by omega
    have upper_read : (upper.toNat * 4 + hundredth.toNat) / 4 = upper.toNat := by omega
    cases hundredth <;> simp_all [packedText, bits, text]

theorem text_ne_empty (packed : Packed) : packed.text ≠ "" := by
  unfold text
  split
  · exact showInt_ne_empty _
  all_goals exact Binary64.text_ne_empty _

end Packed

theorem reads_packed (packed : Packed) : Reads readPacked (four packed.bits) packed.text := by
  have read := (reads_four packed.bits_lt).map packedText
  rwa [Packed.packedText_bits] at read

theorem reads_stored (encoded : context.narrow = .utf16 .little) (stored : StoredText) :
    Reads (readText context.narrow 2) stored.bytes stored.text := by
  have fits : stored.fragment.Fits context.narrow :=
    ⟨fun unit => textUnits_lt, fun _ => encoded, stored.small⟩
  have counted : Reads (readNumber 2) (two (textUnits stored.text.toList).length) (textUnits stored.text.toList).length := by
    have read := reads_number (two (textUnits stored.text.toList).length)
    rwa [number_two stored.short] at read
  have fragment_read : Reads (readPlainFragment context.narrow (textUnits stored.text.toList).length)
      stored.fragment.stored (stored.text.toList, (textUnits stored.text.toList).length) := by
    intro more rest
    have read : (readPlainFragment context.narrow (textUnits stored.text.toList).length).run
        (spread more rest stored.fragment.stored []) = .ok ((decodeUnits stored.fragment.units, _), spread more rest [] []) :=
      run_readPlainFragment fits (Or.inl rfl)
    rwa [StoredText.fragment, decodeUnits_textUnits] at read
  have text_read := fragment_read.map fun fragment => String.ofList fragment.1
  rw [String.ofList_toList] at text_read
  exact counted.bind text_read

theorem reads_position (row column : UInt16) :
    Reads readPosition (two row.toNat ++ two column.toNat) (row.toNat, column.toNat) :=
  (reads_two row).bind ((reads_two column).map fun column => (row.toNat, column))

section cells

variable {record : CellRecord} {place : Place} {field : List UInt8}

/-- Row and column stand in front of what a cell record holds. -/
theorem reads_cell {content : Reading α} {found : α} {wrap : α → Content ⊕ Nat × Nat}
    (shape : readCellRecord context record = readPosition >>= fun position => do return (position, wrap (← content)))
    (reads : Reads content (two place.style.toNat ++ field) found) :
    Reads (readCellRecord context record) (place.bytes ++ field) ((place.row.toNat, place.column.toNat), wrap found) := by
  have position_read := reads_position place.row place.column
  have content_read := reads.map fun found => ((place.row.toNat, place.column.toNat), wrap found)
  have whole : Reads (readPosition >>= fun position => do return (position, wrap (← content)))
      ((two place.row.toNat ++ two place.column.toNat) ++ (two place.style.toNat ++ field))
      ((place.row.toNat, place.column.toNat), wrap found) := position_read.bind content_read
  rw [shape]
  simpa only [Place.bytes, List.append_assoc] using whole

/-- A number has a style, of which the kind of its cell is. -/
theorem reads_number_content {content : Reading α} {found : α} (text : α → String) (reads : Reads content field found) :
    Reads (do let style ← readNumber 2; return context.number style (text (← content)))
      (two place.style.toNat ++ field) (context.number place.style.toNat (text found)) :=
  (reads_two place.style).bind (reads.map fun found => context.number place.style.toNat (text found))

theorem reads_flag (value isError : UInt8) : Reads readFlag (two place.style.toNat ++ [value, isError])
    (flagContent (isError.toNat ≠ 0) value.toNat) := by
  have error_read := (reads_byte isError).map fun isError => flagContent (decide (isError ≠ 0)) value.toNat
  have both : Reads (do let value ← readNumber 1; return flagContent (decide ((← readNumber 1) ≠ 0)) value)
      ([value] ++ [isError]) (flagContent (isError.toNat ≠ 0) value.toNat) := (reads_byte value).bind error_read
  exact (reads_style_passed place.style).bind both

theorem reads_shared_index (index : UInt32) : Reads readSharedIndex (two place.style.toNat ++ four index.toNat)
    ⟨.sharedText, showNat index.toNat⟩ :=
  (reads_style_passed place.style).bind
    ((reads_four (by simpa using index.toNat_lt)).map fun index => Content.mk .sharedText (showNat index))

theorem reads_label (encoded : context.narrow = .utf16 .little) (stored : StoredText) :
    Reads (readLabel context) (two place.style.toNat ++ stored.bytes) ⟨.inlineText, stored.text⟩ :=
  (reads_style_passed place.style).bind ((reads_stored encoded stored).map fun text => Content.mk .inlineText text)

/-- The eight bytes of a result are read as one number. -/
theorem reads_formula {filling : Filling} (result : StoredResult) :
    Reads readFormula (two place.style.toNat ++ result.bytes filling)
      (place.style.toNat, Binary.number (result.bytes filling)) := by
  have eight_bytes : (result.bytes filling).length = 8 := by cases result <;> rfl
  have bits_read := reads_number (result.bytes filling)
  rw [eight_bytes] at bits_read
  exact (reads_two place.style).bind (bits_read.map fun bits => (place.style.toNat, bits))

end cells

/-- As many numbers are read as there are columns, each a column further to the right. -/
theorem reads_row (values : List (UInt16 × Packed)) (row column : Nat) :
    Reads (readRow context row column values.length) (values.flatMap Entry.styled)
      (values.mapIdx fun i value => ⟨row, column + i, .ofStyle context.kinds value.1.toNat, value.2.text⟩) := by
  induction values generalizing column with
  | nil => exact Reads.pure []
  | cons value values ih =>
    have first_read : Reads (readPackedContent context) (Entry.styled value)
        (context.number value.1.toNat value.2.text) :=
      (reads_two value.1).bind ((reads_packed value.2).map fun text => context.number value.1.toNat text)
    have rest_read := (ih (column + 1)).map fun rest =>
      ⟨row, column, .ofStyle context.kinds value.1.toNat, value.2.text⟩ :: rest
    simp only [Nat.add_assoc, Nat.add_comm 1] at rest_read
    rw [List.flatMap_cons, List.mapIdx_cons, List.length_cons, readRow]
    exact first_read.bind rest_read

theorem lastNumber_two {last : Nat} (small : last < 256 ^ 2) (bytes : List UInt8) :
    lastNumber [bytes ++ two last] = .ok last := by
  have value : Binary.number [byteAt 0 last, byteAt 1 last] = last := number_two small
  simp [lastNumber, lastPair?, two, value]

/-- The last column tells how many numbers there are. -/
theorem rowCells_packedCells (row : UInt16) {column : UInt16} (first : UInt16 × Packed) {further : List (UInt16 × Packed)}
    (small : column.toNat + further.length < 256 ^ 2) (kind : Nat) :
    rowCells context (unbroken (kind, two row.toNat ++ (two column.toNat ++ ((first :: further).flatMap Entry.styled ++
        two (column.toNat + further.length))))) =
      .ok ((Entry.packedCells row column first further).cells context) := by
  have columns : column.toNat + further.length + 1 - column.toNat = (first :: further).length := by
    rw [List.length_cons]
    omega
  have values_read : Reads (readRow context row.toNat column.toNat (column.toNat + further.length + 1 - column.toNat))
      ((first :: further).flatMap Entry.styled) ((Entry.packedCells row column first further).cells context) := by
    rw [columns]
    exact reads_row (first :: further) row.toNat column.toNat
  have row_read : Reads (readPosition >>= fun position =>
        readRow context position.1 position.2 (column.toNat + further.length + 1 - position.2))
      ((two row.toNat ++ two column.toNat) ++ (first :: further).flatMap Entry.styled)
      ((Entry.packedCells row column first further).cells context) :=
    (reads_position row column).bind values_read
  have position_filled : two row.toNat ++ two column.toNat ≠ [] := by simp [two]
  have row_filled := List.append_ne_nil_of_left_ne_nil position_filled ((first :: further).flatMap Entry.styled)
  rw [← List.append_assoc, rowCells, (reads_position row column).read position_filled kind, Outcome.ok_bind]
  simp only [unbroken, ← List.append_assoc, lastNumber_two small]
  exact row_read.read row_filled kind _

theorem value_packedCells_ne {row column : UInt16} {first : UInt16 × Packed} {further : List (UInt16 × Packed)} {cell : Cell}
    (member : cell ∈ (Entry.packedCells row column first further).cells context) : cell.value ≠ "" := by
  obtain ⟨i, inside, rfl⟩ := List.mem_mapIdx.mp member
  exact Packed.text_ne_empty _

theorem number_marked (tag detail : UInt8) (filling : Filling) :
    Binary.number (StoredResult.marked tag detail filling) / 2 ^ 48 = 0xffff ∧
      Binary.number (StoredResult.marked tag detail filling) / 2 ^ 16 % 256 = detail.toNat ∧
      Binary.number (StoredResult.marked tag detail filling) % 256 = tag.toNat := by
  have tag_lt := tag.toNat_lt
  have detail_lt := detail.toNat_lt
  have second_lt := filling.second.toNat_lt
  have fourth_lt := filling.fourth.toNat_lt
  have fifth_lt := filling.fifth.toNat_lt
  have sixth_lt := filling.sixth.toNat_lt
  simp [StoredResult.marked, Binary.number]
  omega

/-- A marked result is told by its lowest byte. -/
theorem formulaResult_marked (tag detail : UInt8) (filling : Filling) (style : Nat) :
    formulaResult context style (Binary.number (StoredResult.marked tag detail filling)) =
      match tag.toNat with
      | 0 => .textFollows
      | 1 => .content ⟨.boolean, if detail.toNat = 0 then "0" else "1"⟩
      | 2 => .content (flagContent true detail.toNat)
      | 3 => .content ⟨.inlineText, ""⟩
      | _ => .unknown := by
  obtain ⟨mark, detail_read, tag_read⟩ := number_marked tag detail filling
  simp only [formulaResult, Nat.pow_eq, detail_read, tag_read]
  exact if_neg (not_not_intro mark)

theorem formulaResult_number {bits : UInt64} (unmarked : bits.toNat / 2 ^ 48 ≠ 0xffff) (style : Nat) :
    formulaResult context style (Binary.number (eight bits)) = .content (context.number style (Binary64.ofBits bits).text) := by
  rw [formulaResult, number_eight, Nat.pow_eq, if_pos unmarked, UInt64.ofNat_toNat]

theorem formulaContent_of_content {style bits : Nat} {content : Content}
    (found : formulaResult context style bits = .content content) (next? : Option Record) :
    formulaContent context style bits next? = .ok (content, false) := by
  simp only [formulaContent, found]

theorem formulaContent_of_text {style bits : Nat} {next : Record} {text : String}
    (found : formulaResult context style bits = .textFollows) (kind : next.kind = formulaText)
    (read : next.read (readText context.narrow 2) = .ok text) :
    formulaContent context style bits (some next) = .ok (⟨.inlineText, text⟩, true) := by
  simp only [formulaContent, found, kind, if_true, read, Outcome.ok_bind]
  rfl

/-- The record behind a formula is read where it holds the result, and not otherwise. -/
theorem formulaContent_result (encoded : context.narrow = .utf16 .little) (place : Place) (result : StoredResult)
    (filling : Filling) {next? : Option Record}
    (follows : ∀ piece ∈ result.following, next? = some (unbroken piece)) :
    formulaContent context place.style.toNat (Binary.number (result.bytes filling)) next? =
      .ok (⟨(result.cell context place).kind, (result.cell context place).value⟩, !result.following.isEmpty) := by
  cases result with
  | number bits unmarked => exact formulaContent_of_content (formulaResult_number unmarked place.style.toNat) next?
  | text stored =>
    rw [follows (formulaText, stored.bytes) List.mem_cons_self]
    have text_read := (reads_stored encoded stored).read (by simp [StoredText.bytes, two]) formulaText []
    rw [List.append_nil] at text_read
    exact formulaContent_of_text (formulaResult_marked 0 0 filling _) rfl text_read
  | boolean value => exact formulaContent_of_content (formulaResult_marked 1 value filling _) next?
  | error code => exact formulaContent_of_content (formulaResult_marked 2 code filling _) next?
  | empty => exact formulaContent_of_content (formulaResult_marked 3 0 filling _) next?

end Tablesmith.Biff
