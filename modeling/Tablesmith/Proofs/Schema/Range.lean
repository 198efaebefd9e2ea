import Mathlib
import Tablesmith.Proofs.Schema.Invariant

/-!
# The marked range

The range of a sheet goes from the leftmost marker of its first row to the rightmost. What
discovery makes of the markers depends on these two columns alone (`range_ok_iff`,
`range_error_iff`), and the rows of data on the markers of the opening column
(`markedRows_eq_iff`).
-/

namespace Tablesmith.Discovery

open Grid

variable {sheet : Sheet} {place : Location} {range : Range} {fault : Fault} {column opening other count : Nat}

/-- The rightmost marker of the first row is in the column. -/
def Closes (sheet : Sheet) (column : Nat) : Prop :=
  isMarked (sheet.text Schema.nameRow column) = true ∧
    ∀ beyond, column < beyond → isMarked (sheet.text Schema.nameRow beyond) = false

/-- The first row has markers in more than one column, and `count` columns are between the outermost. -/
def Spans (sheet : Sheet) (opening count : Nat) : Prop :=
  Opens sheet opening ∧ Closes sheet (opening + count + 1)

/-- There is no marker in the first row. -/
def IsUnmarked (sheet : Sheet) : Prop :=
  ∀ column, isMarked (sheet.text Schema.nameRow column) = false

theorem Opens.le (opens : Opens sheet opening) (is_marked : isMarked (sheet.text Schema.nameRow column) = true) :
    opening ≤ column := by
  by_contra outside
  rw [opens.2 column (by omega)] at is_marked
  cases is_marked

theorem Closes.le (closes : Closes sheet column) (is_marked : isMarked (sheet.text Schema.nameRow other) = true) :
    other ≤ column := by
  by_contra outside
  rw [closes.2 other (by omega)] at is_marked
  cases is_marked

theorem Opens.unique (opens : Opens sheet opening) (also_opens : Opens sheet other) : opening = other :=
  Nat.le_antisymm (opens.le also_opens.1) (also_opens.le opens.1)

theorem Closes.unique (closes : Closes sheet column) (also_closes : Closes sheet other) : column = other :=
  Nat.le_antisymm (also_closes.le closes.1) (closes.le also_closes.1)

theorem Opens.not_isUnmarked (opens : Opens sheet opening) : ¬ IsUnmarked sheet :=
  fun unmarked => absurd opens.1 (Bool.eq_false_iff.mp (unmarked opening))

theorem head?_eq_some_iff : (markedColumns sheet).head? = some column ↔ Opens sheet column := by
  refine ⟨opens_of_head?, fun opens => ?_⟩
  refine TableDescription.head?_of_least (TableDescription.ascending_markedColumns sheet)
    (mem_markedColumns_iff_text.mpr opens.1) fun other member => ?_
  exact opens.le (mem_markedColumns_iff_text.mp member)

theorem getLast?_eq_some_iff : (markedColumns sheet).getLast? = some column ↔ Closes sheet column := by
  have ascending := TableDescription.ascending_markedColumns sheet
  constructor
  · intro last
    obtain ⟨front, split⟩ := List.getLast?_eq_some_iff.mp last
    refine ⟨mem_markedColumns_iff_text.mp (List.mem_of_getLast? last), fun beyond right => ?_⟩
    rw [Bool.eq_false_iff]
    intro is_marked
    have member := mem_markedColumns_iff_text.mpr is_marked
    rw [split] at ascending member
    rcases List.mem_append.mp member with earlier | is_last
    · have below := (List.pairwise_append.mp ascending).2.2 beyond earlier column List.mem_cons_self
      omega
    · have same := List.mem_singleton.mp is_last
      omega
  · intro closes
    refine TableDescription.getLast?_of_greatest ascending (mem_markedColumns_iff_text.mpr closes.1) fun other member => ?_
    exact closes.le (mem_markedColumns_iff_text.mp member)

theorem markedColumns_eq_nil_iff : markedColumns sheet = [] ↔ IsUnmarked sheet := by
  rw [List.eq_nil_iff_forall_not_mem, IsUnmarked]
  simp only [mem_markedColumns_iff_text, Bool.not_eq_true]

/-- A row with a marker has a leftmost and a rightmost one. -/
theorem isUnmarked_or_outermost (sheet : Sheet) :
    IsUnmarked sheet ∨ ∃ opening closing, Opens sheet opening ∧ Closes sheet closing := by
  by_cases empty : markedColumns sheet = []
  · exact .inl (markedColumns_eq_nil_iff.mp empty)
  · refine .inr ⟨(markedColumns sheet).head empty, (markedColumns sheet).getLast empty, ?_, ?_⟩
    · exact head?_eq_some_iff.mp (List.head?_eq_some_head empty)
    · exact getLast?_eq_some_iff.mp (List.getLast?_eq_some_getLast empty)

/-- The outermost markers have columns between them, or are next to one another, if there are two at all. -/
theorem exists_spans_iff : (∃ opening count, Spans sheet opening count) ↔ ∃ left right, left < right ∧
    isMarked (sheet.text Schema.nameRow left) = true ∧ isMarked (sheet.text Schema.nameRow right) = true := by
  constructor
  · rintro ⟨opening, count, opens, closes⟩
    exact ⟨opening, opening + count + 1, by omega, opens.1, closes.1⟩
  · rintro ⟨left, right, before, left_marked, right_marked⟩
    obtain unmarked | ⟨opening, closing, opens, closes⟩ := isUnmarked_or_outermost sheet
    · rw [unmarked left] at left_marked
      cases left_marked
    · have from_left := opens.le left_marked
      have to_right := closes.le right_marked
      obtain ⟨count, rfl⟩ : ∃ count, closing = opening + count + 1 := ⟨closing - opening - 1, by omega⟩
      exact ⟨opening, count, opens, closes⟩

theorem range_of_outermost {closing : Nat} (opens : Opens sheet opening) (closes : Closes sheet closing) :
    Discovery.range sheet place = if closing ≤ opening then
      .error ⟨{ place with cell := reference Schema.nameRow opening }, .markerSingle⟩ else .ok ⟨opening, closing⟩ := by
  rw [Discovery.range, head?_eq_some_iff.mpr opens, getLast?_eq_some_iff.mpr closes]

theorem range_of_unmarked (unmarked : IsUnmarked sheet) : Discovery.range sheet place = .error ⟨place, .markerMissing⟩ := by
  rw [Discovery.range, markedColumns_eq_nil_iff.mpr unmarked]
  rfl

theorem range_ok_iff : Discovery.range sheet place = .ok range ↔
    Opens sheet range.opening ∧ Closes sheet range.closing ∧ range.opening < range.closing := by
  obtain unmarked | ⟨opening, closing, opens, closes⟩ := isUnmarked_or_outermost sheet
  · rw [range_of_unmarked unmarked]
    exact ⟨nofun, fun spanned => absurd unmarked spanned.1.not_isUnmarked⟩
  · rw [range_of_outermost opens closes]
    by_cases single : closing ≤ opening
    · rw [if_pos single]
      refine ⟨nofun, fun ⟨also_opens, also_closes, apart⟩ => ?_⟩
      rw [← opens.unique also_opens, ← closes.unique also_closes] at apart
      omega
    · rw [if_neg single]
      constructor
      · rintro ⟨⟩
        exact ⟨opens, closes, Nat.lt_of_not_le single⟩
      · rintro ⟨also_opens, also_closes, -⟩
        rw [opens.unique also_opens, closes.unique also_closes]

/-- A range cannot be read from no marker, and not from one alone. -/
theorem range_error_iff : Discovery.range sheet place = .error fault ↔
    (IsUnmarked sheet ∧ fault = ⟨place, .markerMissing⟩) ∨
      ∃ column, (Opens sheet column ∧ Closes sheet column) ∧
        fault = ⟨{ place with cell := reference Schema.nameRow column }, .markerSingle⟩ := by
  obtain unmarked | ⟨opening, closing, opens, closes⟩ := isUnmarked_or_outermost sheet
  · have no_column : ¬ ∃ column, (Opens sheet column ∧ Closes sheet column) ∧
        fault = ⟨{ place with cell := reference Schema.nameRow column }, .markerSingle⟩ :=
      fun ⟨_, ⟨opens, _⟩, _⟩ => opens.not_isUnmarked unmarked
    rw [range_of_unmarked unmarked, or_iff_left no_column, and_iff_right unmarked, Except.error.injEq, eq_comm]
  · rw [range_of_outermost opens closes, or_iff_right fun unmarked => opens.not_isUnmarked unmarked.1]
    by_cases single : closing ≤ opening
    · obtain rfl := Nat.le_antisymm (opens.le closes.1) single
      rw [if_pos single, Except.error.injEq, eq_comm]
      refine ⟨fun same => ⟨opening, ⟨opens, closes⟩, same⟩, ?_⟩
      rintro ⟨column, ⟨also_opens, -⟩, same⟩
      rw [same, opens.unique also_opens]
    · rw [if_neg single]
      refine ⟨nofun, ?_⟩
      rintro ⟨column, ⟨also_opens, also_closes⟩, -⟩
      have left := opens.unique also_opens
      have right := closes.unique also_closes
      omega

theorem spans_of_range (ranged : Discovery.range sheet place = .ok range) : Spans sheet range.opening range.columnCount := by
  obtain ⟨opens, closes, apart⟩ := range_ok_iff.mp ranged
  have closing_is : range.opening + range.columnCount + 1 = range.closing := by
    rw [Range.columnCount]
    omega
  exact ⟨opens, closing_is ▸ closes⟩

theorem range_of_spans (spans : Spans sheet opening count) :
    Discovery.range sheet place = .ok ⟨opening, opening + count + 1⟩ :=
  range_ok_iff.mpr ⟨spans.1, spans.2, by simp only; omega⟩

theorem markedRows_eq_iff (opens : Opens sheet opening) : markedRows sheet opening = count ↔
    (∀ row < count, IsMarkedRow sheet opening row) ∧ ¬ IsMarkedRow sheet opening count := by
  obtain ⟨marked, stops⟩ := markedRows_spec opens
  constructor
  · rintro rfl
    exact ⟨marked, stops⟩
  · rintro ⟨also_marked, also_stops⟩
    rcases Nat.lt_trichotomy (markedRows sheet opening) count with before | same | after
    · exact absurd (also_marked _ before) stops
    · exact same
    · exact absurd (marked _ after) also_stops

/-- A row of data has a marker, and so have all rows before it and the next. -/
theorem lt_rowCount_iff {closing row : Nat} (opens : Opens sheet opening) :
    row < Discovery.rowCount sheet ⟨opening, closing⟩ ↔ ∀ earlier ≤ row + 1, IsMarkedRow sheet opening earlier := by
  obtain ⟨marked, stops⟩ := markedRows_spec opens
  rw [Discovery.rowCount]
  constructor
  · intro inside earlier at_most
    exact marked earlier (by simp only at inside; omega)
  · intro all_marked
    have beyond : row + 1 < markedRows sheet opening := by
      by_contra before
      exact stops (all_marked _ (by omega))
    simp only
    omega

end Tablesmith.Discovery
