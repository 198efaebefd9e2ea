import Mathlib
import Tablesmith.Ooxml.Worksheet
import Tablesmith.Proofs.Steps

/-!
# The cells of a worksheet

While a worksheet is read cells are stored, and nothing else happens to its sheet.
Which cells these are does not depend on what is stored already, so they can be told
without the sheet (`foldlM_step_ok_iff`).
-/

namespace Tablesmith.Ooxml.Worksheet

open Grid Xml Outcome

variable {kinds : Array CellKind} {worksheet next last : Worksheet} {event : Event} {events : List Event}

/-- The cell that an event stores: the end tag of a cell with a value. -/
def storedBy? (worksheet : Worksheet) (event : Event) : Option Cell :=
  if worksheet.open? = none ∧ event = .finish (name "c") ∧ worksheet.kind ≠ .empty ∧ worksheet.value ≠ "" then
    some ⟨worksheet.row, worksheet.column, worksheet.kind, worksheet.value⟩
  else none

/-- The cells that events store, in order. -/
def stored (kinds : Array CellKind) (worksheet : Worksheet) : List Event → Except XmlFault (List Cell)
  | [] => .ok []
  | event :: events => do
    let next ← worksheet.step kinds event
    let cells ← stored kinds next events
    return (worksheet.storedBy? event).toList ++ cells

theorem sheet_leaveCell (worksheet : Worksheet) (outside : worksheet.open? = none) : worksheet.leaveCell.sheet =
    (worksheet.storedBy? (.finish (name "c"))).toList.foldl Sheet.push worksheet.sheet := by
  unfold leaveCell storedBy?
  by_cases valued : worksheet.kind = .empty ∨ worksheet.value = ""
  · rw [if_pos valued, if_neg (by tauto)]
    rfl
  · obtain ⟨typed, filled⟩ := not_or.mp valued
    rw [if_neg valued, if_pos ⟨outside, rfl, typed, filled⟩]
    rfl

theorem sheet_enterRow {tag : Tag} (entered : worksheet.enterRow tag = .ok next) : next.sheet = worksheet.sheet := by
  obtain ⟨_, _, given⟩ := bind_ok_iff.mp entered
  cases given
  rfl

theorem sheet_enterCell {tag : Tag} (entered : worksheet.enterCell kinds tag = .ok next) :
    next.sheet = worksheet.sheet := by
  obtain ⟨_, _, entered⟩ := bind_ok_iff.mp entered
  obtain ⟨_, _, entered⟩ := bind_ok_iff.mp entered
  obtain ⟨_, _, entered⟩ := bind_ok_iff.mp entered
  obtain ⟨_, _, given⟩ := bind_ok_iff.mp entered
  cases given
  rfl

theorem sheet_stepOutside (outside : worksheet.open? = none) (stepped : worksheet.stepOutside kinds event = .ok next) :
    next.sheet = (worksheet.storedBy? event).toList.foldl Sheet.push worksheet.sheet := by
  unfold stepOutside at stepped
  split at stepped
  · next tag =>
    have nothing : worksheet.storedBy? (.start tag) = none := by simp [storedBy?]
    rw [nothing]
    split_ifs at stepped
    · exact sheet_enterRow stepped
    · exact sheet_enterCell stepped
    all_goals
      cases stepped
      rfl
  · next element =>
    split_ifs at stepped with row cell
    · have row_c : element ≠ name "c" := by
        rw [row]
        decide +kernel
      have nothing : worksheet.storedBy? (.finish element) = none := by simp [storedBy?, row_c]
      cases stepped
      rw [nothing]
      rfl
    · cases stepped
      rw [cell]
      exact sheet_leaveCell worksheet outside
    · have nothing : worksheet.storedBy? (.finish element) = none := by simp [storedBy?, cell]
      cases stepped
      rw [nothing]
      rfl
  · next not_start not_finish =>
    have nothing : worksheet.storedBy? event = none := by
      unfold storedBy?
      rw [if_neg]
      rintro ⟨_, finished, _⟩
      exact not_finish _ finished
    cases stepped
    rw [nothing]
    rfl

theorem sheet_step (stepped : worksheet.step kinds event = .ok next) :
    next.sheet = (worksheet.storedBy? event).toList.foldl Sheet.push worksheet.sheet := by
  unfold step at stepped
  split at stepped
  · next item inside =>
    have nothing : worksheet.storedBy? event = none := by simp [storedBy?, inside]
    rw [nothing]
    split at stepped
    · cases stepped
      rfl
    · obtain ⟨_, _, rfl⟩ := map_ok_iff.mp stepped
      rfl
  · next outside => exact sheet_stepOutside outside stepped

/-- What is read of a worksheet is what was there and the stored cells. -/
theorem foldlM_step_ok (cells : List Cell) (read : stored kinds worksheet events = .ok cells) :
    ∃ last, events.foldlM (step kinds) worksheet = .ok last ∧ last.sheet = cells.foldl Sheet.push worksheet.sheet := by
  induction events generalizing worksheet cells with
  | nil =>
    cases read
    exact ⟨worksheet, rfl, rfl⟩
  | cons event events ih =>
    obtain ⟨next, stepped, rest⟩ := bind_ok_iff.mp read
    obtain ⟨later, rest_read, given⟩ := bind_ok_iff.mp rest
    cases given
    obtain ⟨last, ran, sheet⟩ := ih later rest_read
    refine ⟨last, bind_ok_iff.mpr ⟨next, stepped, ran⟩, ?_⟩
    rw [sheet, sheet_step stepped, List.foldl_append]

end Tablesmith.Ooxml.Worksheet
