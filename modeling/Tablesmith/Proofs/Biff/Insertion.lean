import Mathlib
import Tablesmith.Biff.Worksheet
import Tablesmith.Proofs.Biff.Worksheet

/-!
# Records that nothing is known of

A record of a kind that worksheets do not use is passed, so it may be put between any two
others (`readCells_insert`), with one exception: behind a formula whose text stands in the
next record, it is taken for that record, and the worksheet is not read any more
(`readCells_insert_of_awaits`).
-/

namespace Tablesmith.Biff

open Grid Outcome

variable {context : Context} {sheet result : Sheet} {taken : Bool} {record inserted : Record} {next? : Option Record}
  {rest later before : List Record} {bits : Nat}

/-- A record that is of none of the kinds that worksheets use. -/
structure Unlisted (kind : Nat) : Prop where
  no_begin : kind ≠ beginRecord
  no_end : kind ≠ endRecord
  no_continuation : kind ≠ continuation
  no_text : kind ≠ formulaText
  no_row : kind ≠ packedRow
  no_cell : CellRecord.ofKind? kind = none

/-- What the first record of some makes of a sheet, with the record behind it: a sheet and whether the record behind was
read too, or nothing where the worksheet ends. -/
def turn (context : Context) (sheet : Sheet) (taken : Bool) (record : Record) (next? : Option Record) :
    Except BiffError (Option (Sheet × Bool)) :=
  if taken then .ok (some (sheet, false))
  else if record.kind = beginRecord ∨ record.kind = endRecord then .ok none
  else if record.kind = packedRow then
    (rowCells context record).map fun cells => some (cells.foldl Sheet.push sheet, false)
  else
    match CellRecord.ofKind? record.kind with
    | none => .ok (some (sheet, false))
    | some kind => (storeCell context sheet kind record next?).map some

/-- Records are read one turn after the other. -/
theorem readCells_cons : readCells context sheet taken (record :: rest) =
    match turn context sheet taken record rest.head? with
    | .ok (some (sheet, taken)) => readCells context sheet taken rest
    | .ok none => .ok sheet
    | .error reason => .error reason := by
  rw [readCells]
  unfold turn
  split_ifs
  · rfl
  · rfl
  · cases rowCells context record <;> rfl
  · cases CellRecord.ofKind? record.kind with
    | none => rfl
    | some kind =>
      dsimp only
      cases storeCell context sheet kind record rest.head? <;> rfl

/-- A formula whose text stands in the next record. -/
def ExpectsText (context : Context) (record : Record) (bits : Nat) : Prop :=
  CellRecord.ofKind? record.kind = some .formula ∧ ∃ position style,
    record.read (readCellRecord context .formula) = .ok (position, .inr (style, bits)) ∧
      formulaResult context style bits = .textFollows

theorem formulaContent_taken {style : Nat} {content : Content}
    (found : formulaContent context style bits next? = .ok (content, true)) :
    ∃ next, next? = some next ∧ next.kind = formulaText := by
  unfold formulaContent at found
  split at found
  · cases found
  · cases found
  · split at found
    · next next =>
      split at found
      · next text => exact ⟨next, rfl, text⟩
      · cases found
    · cases found

/-- Only formulas have a result that may stand in another record. -/
theorem eq_formula_of_read {kind : CellRecord} {position : Nat × Nat} {formula : Nat × Nat}
    (read : record.read (readCellRecord context kind) = .ok (position, .inr formula)) : kind = .formula := by
  have content {reading : Reading Content} (position : Nat × Nat) :
      Gives (fun found : (Nat × Nat) × (Content ⊕ Nat × Nat) => ∀ formula, found.2 ≠ .inr formula)
        (do return (position, .inl (← reading))) := gives_bind fun _ => gives_pure nofun
  by_contra other
  have gives : Gives (fun found : (Nat × Nat) × (Content ⊕ Nat × Nat) => ∀ formula, found.2 ≠ .inr formula)
      (readCellRecord context kind) := by
    refine gives_bind fun position => ?_
    cases kind with
    | formula => exact absurd rfl other
    | _ => exact content position
  exact gives.read read formula rfl

/-- A record is read with the one behind it only where that holds the text of a formula. -/
theorem turn_taken {next : Sheet} (turned : turn context sheet taken record next? = .ok (some (next, true))) :
    ∃ behind, next? = some behind ∧ behind.kind = formulaText := by
  unfold turn at turned
  split_ifs at turned
  · cases turned
  · cases turned
  · obtain ⟨_, _, same⟩ := map_ok_iff.mp turned
    cases same
  · split at turned
    · cases turned
    · obtain ⟨_, stored, same⟩ := map_ok_iff.mp turned
      cases same
      obtain ⟨⟨position, found⟩, _, stored⟩ := bind_ok_iff.mp stored
      cases found with
      | inl content => cases stored
      | inr formula =>
        obtain ⟨⟨content, _⟩, result, same⟩ := bind_ok_iff.mp stored
        cases same
        exact formulaContent_taken result

/-- What is behind a record that expects no text there does not matter. -/
theorem turn_congr (expects_none : ∀ bits, ¬ ExpectsText context record bits) (other? : Option Record) :
    turn context sheet taken record next? = turn context sheet taken record other? := by
  unfold turn
  split_ifs
  · rfl
  · rfl
  · rfl
  · cases known : CellRecord.ofKind? record.kind with
    | none => rfl
    | some kind =>
      have same : storeCell context sheet kind record next? = storeCell context sheet kind record other? := by
        unfold storeCell
        cases read : record.read (readCellRecord context kind) with
        | error => rfl
        | ok found =>
          obtain ⟨position, content | ⟨style, bits⟩⟩ := found
          · rfl
          · obtain rfl := eq_formula_of_read read
            have no_text : formulaResult context style bits ≠ .textFollows := fun text =>
              expects_none bits ⟨known, position, style, read, text⟩
            have result : formulaContent context style bits next? = formulaContent context style bits other? := by
              unfold formulaContent
              split
              · rfl
              · rfl
              · next text => exact absurd text no_text
            simp only [ok_bind, result]
      exact congrArg (Except.map some) same

/-- Where a formula expects a text, a record of another kind is an error. -/
theorem turn_of_expects (expects : ExpectsText context record bits) (no_text : ∀ next ∈ next?, next.kind ≠ formulaText) :
    turn context sheet false record next? = .error (.formulaResult bits) := by
  obtain ⟨known, position, style, read, text⟩ := expects
  obtain ⟨not_end, not_row, -⟩ := ne_of_cellRecord known
  have refused : formulaContent context style bits next? = .error (.formulaResult bits) := by
    simp only [formulaContent, text]
    cases next? with
    | none => rfl
    | some next => exact if_neg (no_text next rfl)
  have stored : storeCell context sheet .formula record next? = .error (.formulaResult bits) := by
    simp only [storeCell, read, ok_bind, refused, error_bind]
  rw [turn, if_neg Bool.false_ne_true, if_neg not_end, if_neg not_row, known]
  exact congrArg (Except.map some) stored

/-- The record that is taken is the text of a formula. -/
def HoldsTaken (taken : Bool) (records : List Record) : Prop :=
  taken = true → ∃ first ∈ records.head?, first.kind = formulaText

/-- Within a worksheet reading goes on, and only there. -/
theorem turn_goes_on_iff {next? : Option Record} {after? : Option (Sheet × Bool)} (holds : HoldsTaken taken (record :: rest))
    (turned : turn context sheet taken record next? = .ok after?) :
    after?.isSome = true ↔ record.kind ≠ beginRecord ∧ record.kind ≠ endRecord := by
  unfold turn at turned
  split_ifs at turned with is_taken ends
  · obtain ⟨_, ⟨⟩, text⟩ := holds is_taken
    cases turned
    simp [text, formulaText, beginRecord, endRecord]
  · cases turned
    exact iff_of_false Bool.false_ne_true fun inside => ends.elim inside.1 inside.2
  · obtain ⟨_, _, rfl⟩ := map_ok_iff.mp turned
    simpa using ends
  · have goes_on : after?.isSome = true := by
      split at turned
      · cases turned
        rfl
      · obtain ⟨_, _, rfl⟩ := map_ok_iff.mp turned
        rfl
    simpa [goes_on] using ends

/-- Records of a worksheet, the last of which is a formula that expects its text in the next one. -/
def AwaitsText (context : Context) (records : List Record) (bits : Nat) : Prop :=
  ∃ inner last, records = inner ++ [last] ∧ (∀ record ∈ inner, record.kind ≠ beginRecord ∧ record.kind ≠ endRecord) ∧
    ExpectsText context last bits

theorem AwaitsText.cons (inside : record.kind ≠ beginRecord ∧ record.kind ≠ endRecord)
    (awaits : AwaitsText context rest bits) : AwaitsText context (record :: rest) bits := by
  obtain ⟨inner, last, rfl, inner_inside, expects⟩ := awaits
  exact ⟨record :: inner, last, rfl, List.forall_mem_cons.mpr ⟨inside, inner_inside⟩, expects⟩

theorem awaitsText_singleton (expects : ExpectsText context record bits) : AwaitsText context [record] bits :=
  ⟨[], record, rfl, List.forall_mem_nil _, expects⟩

theorem turn_unlisted (unlisted : Unlisted record.kind) (sheet : Sheet) :
    turn context sheet false record next? = .ok (some (sheet, false)) := by
  rw [turn, if_neg Bool.false_ne_true, if_neg (not_or.mpr ⟨unlisted.no_begin, unlisted.no_end⟩), if_neg unlisted.no_row,
    unlisted.no_cell]

/-- Where no formula expects its text, an unlisted record changes nothing. A record that is taken is the text of the
formula in front of it, so the unlisted one is none. -/
theorem readCells_insert (unlisted : Unlisted inserted.kind) (awaits_none : ∀ bits, ¬ AwaitsText context before bits)
    (holds : HoldsTaken taken before) :
    readCells context sheet taken (before ++ inserted :: later) = readCells context sheet taken (before ++ later) := by
  induction before generalizing sheet taken with
  | nil =>
    cases taken with
    | true =>
      obtain ⟨_, none_there, _⟩ := holds rfl
      cases none_there
    | false => rw [List.nil_append, List.nil_append, readCells_cons, turn_unlisted unlisted]
  | cons record rest ih =>
    -- At the end the unlisted record is behind this one, but no formula stands here that would read it.
    have same : turn context sheet taken record (rest ++ inserted :: later).head? =
          turn context sheet taken record rest.head? ∧
        turn context sheet taken record (rest ++ later).head? = turn context sheet taken record rest.head? := by
      cases rest with
      | nil =>
        have expects_none := fun bits expects => awaits_none bits (awaitsText_singleton expects)
        exact ⟨turn_congr expects_none _, turn_congr expects_none _⟩
      | cons next rest => exact ⟨rfl, rfl⟩
    rw [List.cons_append, List.cons_append, readCells_cons, readCells_cons, same.1, same.2]
    cases turned : turn context sheet taken record rest.head? with
    | error reason => rfl
    | ok after? =>
      cases after? with
      | none => rfl
      | some after =>
        have inside := (turn_goes_on_iff holds turned).mp rfl
        refine ih (fun bits awaits => awaits_none bits (awaits.cons inside)) fun is_taken => ?_
        obtain ⟨next, now_taken⟩ := after
        obtain rfl : now_taken = true := is_taken
        exact turn_taken turned

/-- Behind a formula that expects its text, an unlisted record makes a worksheet fail that was read without it. -/
theorem readCells_insert_of_awaits (unlisted : Unlisted inserted.kind) (awaits : AwaitsText context before bits)
    (holds : HoldsTaken taken before) (read : readCells context sheet taken (before ++ later) = .ok result) :
    readCells context sheet taken (before ++ inserted :: later) = .error (.formulaResult bits) := by
  obtain ⟨inner, last, rfl, inside, expects⟩ := awaits
  induction inner generalizing sheet taken with
  | nil =>
    cases taken with
    | true =>
      obtain ⟨_, ⟨⟩, text⟩ := holds rfl
      exact absurd text (ne_of_cellRecord expects.1).2.2
    | false =>
      have refused : turn context sheet false last (some inserted) = .error (.formulaResult bits) := by
        refine turn_of_expects expects ?_
        rintro _ ⟨⟩
        exact unlisted.no_text
      rw [List.nil_append, List.singleton_append, readCells_cons, List.head?_cons, refused]
  | cons record inner ih =>
    obtain ⟨record_inside, inner_inside⟩ := List.forall_mem_cons.mp inside
    have same (others : List Record) : (inner ++ [last] ++ others).head? = (inner ++ [last]).head? := by
      cases inner <;> rfl
    rw [List.cons_append, List.cons_append, readCells_cons, same] at read ⊢
    cases turned : turn context sheet taken record (inner ++ [last]).head? with
    | error reason =>
      rw [turned] at read
      cases read
    | ok after? =>
      rw [turned] at read
      obtain ⟨after, rfl⟩ := Option.isSome_iff_exists.mp ((turn_goes_on_iff holds turned).mpr record_inside)
      refine ih (fun is_taken => ?_) read inner_inside
      obtain ⟨next, now_taken⟩ := after
      obtain rfl : now_taken = true := is_taken
      exact turn_taken turned

section stream

variable {earlier : List Piece} {piece : Piece} {after : List UInt8}

/-- Where records that are written are followed by no continuation, a worksheet that begins with them is read from them
and from what follows. -/
theorem readWorksheet_framedAll (filled : earlier ≠ []) (framable : ∀ piece ∈ earlier, Framable piece)
    (boundary : BeginsNew (pieces after)) (context : Context) (file name : String) (front : List UInt8) :
    readWorksheet context file (front ++ (framedAll earlier ++ after)) ⟨name, front.length⟩ =
      readCells context (.empty file name) false ((assemble earlier).drop 1 ++ records after) := by
  have some_record : 1 ≤ (assemble earlier).length := by
    obtain ⟨⟨kind, payload⟩, others, rfl⟩ := List.exists_cons_of_ne_nil filled
    rw [assemble, List.length_cons]
    omega
  rw [readWorksheet, List.drop_left, records, pieces_framedAll_append framable, assemble_append boundary,
    List.drop_append_of_le_length some_record, records]

theorem readWorksheet_framedAll_framed (filled : earlier ≠ []) (framable : ∀ piece ∈ earlier, Framable piece)
    (boundary : BeginsNew (pieces after)) (fits : Framable piece) (new : piece.1 ≠ continuation) (context : Context)
    (file name : String) (front : List UInt8) :
    readWorksheet context file (front ++ (framedAll earlier ++ (framed piece ++ after))) ⟨name, front.length⟩ =
      readCells context (.empty file name) false
        ((assemble earlier).drop 1 ++ unbroken piece :: records after) := by
  have starts : BeginsNew (pieces (framed piece ++ after)) := by
    rw [pieces_framed_append fits]
    rintro _ ⟨⟩
    exact new
  rw [readWorksheet_framedAll filled framable starts, records, pieces_framed_append fits, assemble_cons boundary, records]

/-- Between two records of a worksheet that is read, an unlisted record changes nothing, exactly if it does not stand
behind a formula whose text is to follow. -/
theorem readWorksheet_insert_iff (filled : earlier ≠ []) (framable : ∀ piece ∈ earlier, Framable piece)
    (boundary : BeginsNew (pieces after)) (fits : Framable piece) (unlisted : Unlisted piece.1) {file name : String}
    {front : List UInt8}
    (read : readWorksheet context file (front ++ (framedAll earlier ++ after)) ⟨name, front.length⟩ = .ok result) :
    readWorksheet context file (front ++ (framedAll earlier ++ (framed piece ++ after))) ⟨name, front.length⟩ = .ok result ↔
      ∀ bits, ¬ AwaitsText context ((assemble earlier).drop 1) bits := by
  rw [readWorksheet_framedAll filled framable boundary] at read
  rw [readWorksheet_framedAll_framed filled framable boundary fits unlisted.no_continuation]
  have unknown : Unlisted (unbroken piece).kind := unlisted
  have none_taken : HoldsTaken false ((assemble earlier).drop 1) := fun taken => absurd taken Bool.false_ne_true
  constructor
  · intro same bits awaits
    rw [readCells_insert_of_awaits unknown awaits none_taken read] at same
    cases same
  · intro awaits_none
    rw [readCells_insert unknown awaits_none none_taken, read]

/-- A formula whose text stands in the next record. -/
def textFormula : Entry :=
  .formula ⟨0, 0, 0⟩ (.text ⟨"ok", 0, short_ok, by decide⟩) ⟨0, 0, 0, 0⟩ []

/-- The record of a formula that several cells share. It stands behind the first of these cells. -/
def sharedFormula : Piece :=
  (1212, [0, 0, 0, 0, 0, 1])

theorem fits_sharedFormula : Framable sharedFormula ∧ Unlisted sharedFormula.1 :=
  ⟨by decide, ⟨by decide, by decide, by decide, by decide, by decide, rfl⟩⟩

/-- However the records of the formula are written, its text is read. -/
theorem exists_readWorksheet_textFormula {earlier : List Piece} (filled : earlier ≠ []) (later : List Piece)
    (whole : earlier ++ later = (beginRecord, []) :: (textFormula.pieces ++ [(endRecord, [])])) :
    BeginsNew (pieces (framedAll later)) ∧ (∀ piece ∈ earlier, Framable piece) ∧
      (assemble earlier).drop 1 = (earlier.drop 1).map unbroken ∧ ∃ sheet,
      readWorksheet sampleContext "Data.xls" ([] ++ (framedAll earlier ++ framedAll later)) ⟨"Sheet", 0⟩ = .ok sheet ∧
        sheet.cells.toList = [⟨0, 0, .inlineText, "ok"⟩] := by
  have all_framable : ∀ piece ∈ earlier ++ later, Framable piece := by
    rw [whole]
    decide
  have all_new : ∀ piece ∈ earlier ++ later, piece.1 ≠ continuation := by
    rw [whole]
    decide
  obtain ⟨earlier_framable, later_framable⟩ := List.forall_mem_append.mp all_framable
  obtain ⟨earlier_new, later_new⟩ := List.forall_mem_append.mp all_new
  obtain ⟨later_pieces, later_records⟩ := records_framedAll later_framable later_new
  have boundary : BeginsNew (pieces (framedAll later)) := by
    rw [later_pieces]
    exact fun first member => later_new first (List.mem_of_mem_head? member)
  have earlier_records : (assemble earlier).drop 1 = (earlier.drop 1).map unbroken := by
    rw [assemble_map earlier_new, List.map_drop]
  refine ⟨boundary, earlier_framable, earlier_records, _, ?_,
    toList_foldl_push (valued sampleContext [textFormula]) "Data.xls" "Sheet"⟩
  have some_record : 1 ≤ earlier.length := List.length_pos_of_ne_nil filled
  have rest : earlier.drop 1 ++ later = textFormula.pieces ++ [(endRecord, [])] := by
    rw [← List.drop_append_of_le_length some_record, whole, List.drop_one, List.tail_cons]
  have fits : textFormula.Fits := ⟨by decide, nofun⟩
  have read := readWorksheet_framedAll filled earlier_framable boundary sampleContext "Data.xls" "Sheet" []
  rw [earlier_records, later_records, ← List.map_append, rest, List.map_append, readCells_entry rfl fits] at read
  exact read.trans (readCells_end (Or.inr rfl))

/-- The record of a shared formula behind the text of the formula. -/
theorem readWorksheet_sharedFormula : ∃ sheet,
    readWorksheet sampleContext "Data.xls"
        ([] ++ (framedAll ((beginRecord, []) :: textFormula.pieces) ++ framedAll [(endRecord, [])])) ⟨"Sheet", 0⟩ = .ok sheet ∧
      readWorksheet sampleContext "Data.xls"
        ([] ++ (framedAll ((beginRecord, []) :: textFormula.pieces) ++ (framed sharedFormula ++ framedAll [(endRecord, [])])))
        ⟨"Sheet", 0⟩ = .ok sheet := by
  have filled : (beginRecord, []) :: textFormula.pieces ≠ [] := List.cons_ne_nil _ _
  obtain ⟨boundary, framable, inner, sheet, read, -⟩ :=
    exists_readWorksheet_textFormula filled [(endRecord, [])] rfl
  refine ⟨sheet, read, (readWorksheet_insert_iff filled framable boundary fits_sharedFormula.1 fits_sharedFormula.2 read).mpr ?_⟩
  -- The last record is the text, which is no formula.
  rw [inner]
  rintro bits ⟨front, last, whole, -, known, -⟩
  have last_record := congrArg List.getLast? whole
  rw [List.getLast?_concat] at last_record
  cases last_record
  cases known

/-- The record of a shared formula behind the formula itself: the worksheet is read without it, and not with it. -/
theorem readWorksheet_sharedFormula_fails :
    Unlisted sharedFormula.1 ∧ BeginsNew (pieces (framedAll (textFormula.pieces.drop 1 ++ [(endRecord, [])]))) ∧
      (∃ sheet, readWorksheet sampleContext "Data.xls"
          ([] ++ (framedAll ((beginRecord, []) :: textFormula.pieces.take 1) ++
            framedAll (textFormula.pieces.drop 1 ++ [(endRecord, [])]))) ⟨"Sheet", 0⟩ = .ok sheet ∧
        sheet.cells.toList = [⟨0, 0, .inlineText, "ok"⟩]) ∧
      readWorksheet sampleContext "Data.xls"
          ([] ++ (framedAll ((beginRecord, []) :: textFormula.pieces.take 1) ++
            (framed sharedFormula ++ framedAll (textFormula.pieces.drop 1 ++ [(endRecord, [])])))) ⟨"Sheet", 0⟩ =
        .error (.formulaResult 0xffff000000000000) := by
  have filled : (beginRecord, []) :: textFormula.pieces.take 1 ≠ [] := List.cons_ne_nil _ _
  obtain ⟨boundary, framable, inner, sheet, read, cells⟩ :=
    exists_readWorksheet_textFormula filled (textFormula.pieces.drop 1 ++ [(endRecord, [])]) rfl
  have awaits : AwaitsText sampleContext ((assemble ((beginRecord, []) :: textFormula.pieces.take 1)).drop 1)
      0xffff000000000000 := by
    rw [inner]
    exact awaitsText_singleton ⟨rfl, (0, 0), 0, by decide +kernel, by decide +kernel⟩
  have unknown : Unlisted (unbroken sharedFormula).kind := fits_sharedFormula.2
  refine ⟨fits_sharedFormula.2, boundary, ⟨sheet, read, cells⟩, ?_⟩
  have cells_read := (readWorksheet_framedAll filled framable boundary sampleContext "Data.xls" "Sheet" []).symm.trans read
  refine (readWorksheet_framedAll_framed filled framable boundary fits_sharedFormula.1 fits_sharedFormula.2.no_continuation
    sampleContext "Data.xls" "Sheet" []).trans ?_
  exact readCells_insert_of_awaits unknown awaits (fun taken => absurd taken Bool.false_ne_true) cells_read

end stream

end Tablesmith.Biff
