import Mathlib
import Tablesmith.Grid.CellKind
import Tablesmith.Text.Characters

/-!
# What of a format code counts

A format code is characters that count and hidden parts: what stands in quotes, what stands
in brackets, and single characters behind an underscore or a backslash. The scan of a code
that leaves nothing open has seen exactly the letters that count (`ofFormatCode_of_shows`).

Underscores and backslashes are marks within quotes and brackets too. So the delimiter at
the end of such a part is its end only if the marks in front of it are even in number, and
only then the part can be put into a code without a change (`ofFormatCode_ignores_iff`).
-/

namespace Tablesmith.Grid

variable {code shown content rest : List Char} {c : Char} {hasDay hasTime : Bool}

/-- The character takes the one behind it out of consideration. -/
def IsMark (c : Char) : Prop :=
  c = '_' ∨ c = '\\'

instance : DecidablePred IsMark := fun c => inferInstanceAs (Decidable (c = '_' ∨ c = '\\'))

/-- The two ways to put a part of a format code between delimiters. -/
inductive Enclosure
  | quotes
  | brackets

/-- The delimiter in front. -/
def Enclosure.opening : Enclosure → Char
  | quotes => '"'
  | brackets => '['

/-- The delimiter behind. -/
def Enclosure.closing : Enclosure → Char
  | quotes => '"'
  | brackets => ']'

/-- What can stand between delimiters: the closing one stands there behind a mark alone, and no mark is left without
a character behind it. -/
inductive Enclosure.Holds (enclosure : Enclosure) : List Char → Prop
  | nil : enclosure.Holds []
  | other {c : Char} {content : List Char} : ¬IsMark c → c ≠ enclosure.closing → enclosure.Holds content →
      enclosure.Holds (c :: content)
  | marked {mark c : Char} {content : List Char} : IsMark mark → enclosure.Holds content →
      enclosure.Holds (mark :: c :: content)

/-- The character counts where it stands outside of delimiters and behind no mark. -/
def IsVisible (c : Char) : Prop :=
  ¬IsMark c ∧ ∀ enclosure : Enclosure, c ≠ enclosure.opening

/-- The code leaves nothing open, and these are the characters of it that count. -/
inductive Shows : List Char → List Char → Prop
  | nil : Shows [] []
  | visible {c : Char} {code shown : List Char} : IsVisible c → Shows code shown → Shows (c :: code) (c :: shown)
  | marked {mark c : Char} {code shown : List Char} : IsMark mark → Shows code shown → Shows (mark :: c :: code) shown
  | enclosed {enclosure : Enclosure} {content code shown : List Char} : enclosure.Holds content → Shows code shown →
      Shows (enclosure.opening :: (content ++ enclosure.closing :: code)) shown

/-- Nothing is open. -/
def outside (hasDay hasTime : Bool) : FormatScan :=
  ⟨false, false, false, hasDay, hasTime⟩

/-- A delimiter waits for its counterpart. -/
def inside (hasDay hasTime : Bool) : Enclosure → FormatScan
  | .quotes => ⟨false, true, false, hasDay, hasTime⟩
  | .brackets => ⟨false, false, true, hasDay, hasTime⟩

/-- A letter of dates. -/
def IsDayLetter (c : Char) : Prop :=
  c ∈ ['y', 'Y', 'd', 'D']

/-- A letter of times. -/
def IsTimeLetter (c : Char) : Prop :=
  c ∈ ['h', 'H', 's', 'S']

instance : DecidablePred IsDayLetter := fun c => inferInstanceAs (Decidable (c ∈ ['y', 'Y', 'd', 'D']))

instance : DecidablePred IsTimeLetter := fun c => inferInstanceAs (Decidable (c ∈ ['h', 'H', 's', 'S']))

theorem step_mark {scan : FormatScan} (ready : scan.escaped = false) (mark : IsMark c) :
    scan.step c = { scan with escaped := true } := by
  unfold IsMark at mark
  rw [FormatScan.step, ready, if_neg Bool.false_ne_true, if_pos mark]

theorem step_escaped (scan : FormatScan) (c : Char) :
    ({ scan with escaped := true } : FormatScan).step c = { scan with escaped := false } := rfl

/-- A mark and the character behind it leave the scan as it was. -/
theorem step_marked {scan : FormatScan} {mark : Char} (ready : scan.escaped = false) (is_mark : IsMark mark) :
    (scan.step mark).step c = scan := by
  rw [step_mark ready is_mark, step_escaped]
  cases scan
  cases ready
  rfl

theorem step_opening (enclosure : Enclosure) : (outside hasDay hasTime).step enclosure.opening = inside hasDay hasTime enclosure := by
  cases enclosure <;> rfl

theorem step_closing (enclosure : Enclosure) : (inside hasDay hasTime enclosure).step enclosure.closing = outside hasDay hasTime := by
  cases enclosure <;> rfl

theorem step_inside {enclosure : Enclosure} (unmarked : ¬IsMark c) (open_still : c ≠ enclosure.closing) :
    (inside hasDay hasTime enclosure).step c = inside hasDay hasTime enclosure := by
  unfold IsMark at unmarked
  cases enclosure <;> simp_all [FormatScan.step, inside, Enclosure.closing]

theorem isDayLetter_iff : IsDayLetter c ↔ c.toLower = 'y' ∨ c.toLower = 'd' := by
  simp only [IsDayLetter, List.mem_cons, List.not_mem_nil, or_false, ← Char.toNat_inj, Text.toNat_toLower]
  have : 'y'.toNat = 121 ∧ 'Y'.toNat = 89 ∧ 'd'.toNat = 100 ∧ 'D'.toNat = 68 := ⟨rfl, rfl, rfl, rfl⟩
  split <;> omega

theorem isTimeLetter_iff : IsTimeLetter c ↔ c.toLower = 'h' ∨ c.toLower = 's' := by
  simp only [IsTimeLetter, List.mem_cons, List.not_mem_nil, or_false, ← Char.toNat_inj, Text.toNat_toLower]
  have : 'h'.toNat = 104 ∧ 'H'.toNat = 72 ∧ 's'.toNat = 115 ∧ 'S'.toNat = 83 := ⟨rfl, rfl, rfl, rfl⟩
  split <;> omega

theorem step_visible (visible : IsVisible c) : (outside hasDay hasTime).step c =
    outside (hasDay || decide (IsDayLetter c)) (hasTime || decide (IsTimeLetter c)) := by
  obtain ⟨unmarked, no_opening⟩ := visible
  have no_quote : c ≠ '"' := no_opening .quotes
  have no_bracket : c ≠ '[' := no_opening .brackets
  unfold IsMark at unmarked
  by_cases day : c.toLower = 'y' ∨ c.toLower = 'd'
  · have no_time : ¬(c.toLower = 'h' ∨ c.toLower = 's') := by
      rcases day with day | day <;> rw [day] <;> decide
    simp [FormatScan.step, outside, unmarked, no_quote, no_bracket, isDayLetter_iff, isTimeLetter_iff, day, no_time]
  · by_cases time : c.toLower = 'h' ∨ c.toLower = 's'
    · simp [FormatScan.step, outside, unmarked, no_quote, no_bracket, isDayLetter_iff, isTimeLetter_iff, day, time]
    · simp [FormatScan.step, outside, unmarked, no_quote, no_bracket, isDayLetter_iff, isTimeLetter_iff, day, time]

theorem foldl_holds {enclosure : Enclosure} (holds : enclosure.Holds content) :
    content.foldl FormatScan.step (inside hasDay hasTime enclosure) = inside hasDay hasTime enclosure := by
  have ready : (inside hasDay hasTime enclosure).escaped = false := by cases enclosure <;> rfl
  induction holds with
  | nil => rfl
  | other unmarked open_still _ ih => rw [List.foldl_cons, step_inside unmarked open_still, ih]
  | marked mark _ ih => rw [List.foldl_cons, List.foldl_cons, step_marked ready mark, ih]

/-- Between its delimiters a part changes nothing. -/
theorem foldl_enclosed {enclosure : Enclosure} (holds : enclosure.Holds content) :
    (enclosure.opening :: (content ++ enclosure.closing :: rest)).foldl FormatScan.step (outside hasDay hasTime) =
      rest.foldl FormatScan.step (outside hasDay hasTime) := by
  rw [List.foldl_cons, step_opening, List.foldl_append, foldl_holds holds, List.foldl_cons, step_closing]

/-- The letters that count, and nothing else, are noted. -/
theorem foldl_shows (shows_them : Shows code shown) :
    code.foldl FormatScan.step (outside hasDay hasTime) =
      outside (hasDay || decide (∃ c ∈ shown, IsDayLetter c)) (hasTime || decide (∃ c ∈ shown, IsTimeLetter c)) := by
  induction shows_them generalizing hasDay hasTime with
  | nil => simp
  | visible visible _ ih =>
    rw [List.foldl_cons, step_visible visible, ih]
    simp [Bool.or_assoc]
  | marked mark _ ih => rw [List.foldl_cons, List.foldl_cons, step_marked rfl mark, ih]
  | enclosed holds _ ih => rw [foldl_enclosed holds, ih]

/-- No delimiter and no mark waits for more. -/
def FormatScan.IsOutside (scan : FormatScan) : Prop :=
  scan.escaped = false ∧ scan.quoted = false ∧ scan.bracketed = false

/-- Behind the code nothing is open. -/
def LeavesNothingOpen (code : List Char) : Prop :=
  (code.foldl FormatScan.step FormatScan.start).IsOutside

theorem isOutside_outside (hasDay hasTime : Bool) : (outside hasDay hasTime).IsOutside :=
  ⟨rfl, rfl, rfl⟩

theorem not_isOutside_inside (enclosure : Enclosure) : ¬(inside hasDay hasTime enclosure).IsOutside := by
  cases enclosure <;> simp [FormatScan.IsOutside, inside]

theorem not_isOutside_mark {scan : FormatScan} (ready : scan.escaped = false) (mark : IsMark c) : ¬(scan.step c).IsOutside := by
  rw [step_mark ready mark]
  exact fun ended => Bool.true_eq_false_eq_False ended.1

/-- A delimiter that is not open at the end was closed. -/
theorem exists_holds {enclosure : Enclosure} {chars : List Char}
    (ended : (chars.foldl FormatScan.step (inside hasDay hasTime enclosure)).IsOutside) :
    ∃ content rest, chars = content ++ enclosure.closing :: rest ∧ enclosure.Holds content := by
  have ready : (inside hasDay hasTime enclosure).escaped = false := by cases enclosure <;> rfl
  induction chars using List.twoStepInduction with
  | nil => exact absurd ended (not_isOutside_inside enclosure)
  | singleton c =>
    by_cases mark : IsMark c
    · exact absurd ended (not_isOutside_mark ready mark)
    · by_cases closed : c = enclosure.closing
      · exact ⟨[], [], by rw [closed]; rfl, .nil⟩
      · rw [List.foldl_cons, step_inside mark closed] at ended
        exact absurd ended (not_isOutside_inside enclosure)
  | cons_cons c d chars ih ih_cons =>
    by_cases mark : IsMark c
    · rw [List.foldl_cons, List.foldl_cons, step_marked ready mark] at ended
      obtain ⟨content, rest, rfl, holds⟩ := ih ended
      exact ⟨c :: d :: content, rest, rfl, .marked mark holds⟩
    · by_cases closed : c = enclosure.closing
      · exact ⟨[], d :: chars, by rw [closed]; rfl, .nil⟩
      · rw [List.foldl_cons, step_inside mark closed] at ended
        obtain ⟨content, rest, parts, holds⟩ := ih_cons d ended
        exact ⟨c :: content, rest, by rw [parts]; rfl, .other mark closed holds⟩

theorem exists_shows (ended : (code.foldl FormatScan.step (outside hasDay hasTime)).IsOutside) : ∃ shown, Shows code shown := by
  induction h : code.length using Nat.strong_induction_on generalizing code hasDay hasTime with
  | _ length ih =>
    subst h
    cases code with
    | nil => exact ⟨[], .nil⟩
    | cons c code =>
      by_cases mark : IsMark c
      · cases code with
        | nil => exact absurd ended (not_isOutside_mark (isOutside_outside hasDay hasTime).1 mark)
        | cons d code =>
          rw [List.foldl_cons, List.foldl_cons, step_marked rfl mark] at ended
          obtain ⟨shown, shows_them⟩ := ih _ (by simp) ended rfl
          exact ⟨shown, .marked mark shows_them⟩
      · by_cases opened : ∃ enclosure : Enclosure, c = enclosure.opening
        · obtain ⟨enclosure, rfl⟩ := opened
          have enclosed := ended
          rw [List.foldl_cons, step_opening] at enclosed
          obtain ⟨content, rest, rfl, holds⟩ := exists_holds enclosed
          rw [foldl_enclosed holds] at ended
          obtain ⟨shown, shows_them⟩ := ih _ (by simp; omega) ended rfl
          exact ⟨shown, .enclosed holds shows_them⟩
        · have visible : IsVisible c := ⟨mark, not_exists.mp opened⟩
          rw [List.foldl_cons, step_visible visible] at ended
          obtain ⟨shown, shows_them⟩ := ih _ (by simp) ended rfl
          exact ⟨c :: shown, .visible visible shows_them⟩

theorem leavesNothingOpen_iff : LeavesNothingOpen code ↔ ∃ shown, Shows code shown := by
  constructor
  · exact exists_shows
  · rintro ⟨shown, shows_them⟩
    rw [LeavesNothingOpen, show FormatScan.start = outside false false from rfl, foldl_shows shows_them]
    exact isOutside_outside _ _

/-- A part of a format code that is meant not to count. -/
inductive HiddenPart
  | enclosed (enclosure : Enclosure) (content : List Char)
  | marked (mark c : Char)

/-- How many marks there are at the end. -/
def trailingMarks (content : List Char) : Nat :=
  (content.reverse.takeWhile fun c => decide (IsMark c)).length

namespace HiddenPart

/-- The characters of the part. -/
def chars : HiddenPart → List Char
  | enclosed enclosure content => enclosure.opening :: (content ++ [enclosure.closing])
  | marked mark c => [mark, c]

/-- What is enclosed has no such delimiters in it, and what stands in front of a character is a mark. -/
def IsWritten : HiddenPart → Prop
  | enclosed enclosure content => enclosure.opening ∉ content ∧ enclosure.closing ∉ content
  | marked mark _ => IsMark mark

/-- The closing delimiter is not taken out of consideration by a mark in front of it: of two marks, the first takes out
the second. -/
def Closes : HiddenPart → Prop
  | enclosed _ content => Even (trailingMarks content)
  | marked _ _ => True

end HiddenPart

theorem trailingMarks_concat (content : List Char) (c : Char) :
    trailingMarks (content ++ [c]) = if IsMark c then trailingMarks content + 1 else 0 := by
  by_cases mark : IsMark c <;> simp [trailingMarks, mark]

/-- What is enclosed has an effect on the delimiter behind it alone. -/
theorem foldl_content {enclosure : Enclosure} (unclosed : enclosure.closing ∉ content) :
    content.foldl FormatScan.step (inside hasDay hasTime enclosure) =
      { inside hasDay hasTime enclosure with escaped := decide (Odd (trailingMarks content)) } := by
  have ready : (inside hasDay hasTime enclosure).escaped = false := by cases enclosure <;> rfl
  have settled : ({ inside hasDay hasTime enclosure with escaped := false } : FormatScan) = inside hasDay hasTime enclosure := by
    cases enclosure <;> rfl
  induction content using List.reverseRecOn with
  | nil => exact settled.symm
  | append_singleton content c ih =>
    obtain ⟨before, last⟩ := not_or.mp (mt List.mem_append.mpr unclosed)
    have open_still : c ≠ enclosure.closing := fun same => last (List.mem_singleton.mpr same.symm)
    rw [List.foldl_append, ih before, List.foldl_cons, List.foldl_nil, trailingMarks_concat]
    by_cases odd : Odd (trailingMarks content)
    · have even_now : ¬Odd (if IsMark c then trailingMarks content + 1 else 0) := by
        split
        · exact Nat.not_odd_iff_even.mpr odd.add_one
        · exact Nat.not_odd_zero
      rw [decide_eq_true odd, decide_eq_false even_now, step_escaped]
    · rw [decide_eq_false odd, settled]
      by_cases mark : IsMark c
      · have odd_now : Odd (trailingMarks content + 1) := (Nat.not_odd_iff_even.mp odd).add_one
        rw [if_pos mark, decide_eq_true odd_now, step_mark ready mark]
      · rw [if_neg mark, decide_eq_false Nat.not_odd_zero, settled, step_inside mark open_still]

namespace HiddenPart

variable {part : HiddenPart}

/-- A part that closes leaves the scan as it was. -/
theorem foldl_of_closes (written : part.IsWritten) (closes : part.Closes) :
    part.chars.foldl FormatScan.step (outside hasDay hasTime) = outside hasDay hasTime := by
  cases part with
  | enclosed enclosure content =>
    have even : ¬Odd (trailingMarks content) := Nat.not_odd_iff_even.mpr closes
    have settled : ({ inside hasDay hasTime enclosure with escaped := false } : FormatScan) = inside hasDay hasTime enclosure := by
      cases enclosure <;> rfl
    rw [chars, List.foldl_cons, step_opening, List.foldl_append, foldl_content written.2, decide_eq_false even, settled,
      List.foldl_cons, step_closing, List.foldl_nil]
  | marked mark c => exact step_marked rfl written

/-- A part that does not close leaves its delimiter open. -/
theorem exists_foldl_of_not_closes (hasDay hasTime : Bool) (written : part.IsWritten) (open_still : ¬part.Closes) :
    ∃ enclosure, part.chars.foldl FormatScan.step (outside hasDay hasTime) = inside hasDay hasTime enclosure := by
  cases part with
  | enclosed enclosure content =>
    have odd : Odd (trailingMarks content) := Nat.not_even_iff_odd.mp open_still
    refine ⟨enclosure, ?_⟩
    rw [chars, List.foldl_cons, step_opening, List.foldl_append, foldl_content written.2, decide_eq_true odd,
      List.foldl_cons, step_escaped, List.foldl_nil]
    cases enclosure <;> rfl
  | marked mark c => exact absurd trivial open_still

end HiddenPart

/-- The kind that the letters among the characters make of a number. -/
def letterKind (letters : List Char) (system : DateSystem) : CellKind :=
  if ∃ c ∈ letters, IsDayLetter c then
    if ∃ c ∈ letters, IsTimeLetter c then .serial .moment system else .serial .day system
  else if ∃ c ∈ letters, IsTimeLetter c then .serial .time system else .number

theorem ofFormatCode_of_shows (shows_them : Shows code shown) (system : DateSystem) :
    CellKind.ofFormatCode (String.ofList code) system = letterKind shown system := by
  rw [CellKind.ofFormatCode, String.toList_ofList, show FormatScan.start = outside false false from rfl,
    foldl_shows shows_them, Bool.false_or, Bool.false_or]
  by_cases day : ∃ c ∈ shown, IsDayLetter c
  · by_cases time : ∃ c ∈ shown, IsTimeLetter c
    · rw [decide_eq_true day, decide_eq_true time, letterKind, if_pos day, if_pos time]
      rfl
    · rw [decide_eq_true day, decide_eq_false time, letterKind, if_pos day, if_neg time]
      rfl
  · by_cases time : ∃ c ∈ shown, IsTimeLetter c
    · rw [decide_eq_false day, decide_eq_true time, letterKind, if_neg day, if_pos time]
      rfl
    · rw [decide_eq_false day, decide_eq_false time, letterKind, if_neg day, if_neg time]
      rfl

/-- A code without delimiters and marks is all that counts. -/
theorem shows_self (visible : ∀ c ∈ code, IsVisible c) : Shows code code := by
  induction code with
  | nil => exact .nil
  | cons c code ih =>
    obtain ⟨first, others⟩ := List.forall_mem_cons.mp visible
    exact .visible first (ih others)

/-- A hidden part can be put anywhere outside of the others exactly if it closes. The codes in front of it are those that
consist of whole parts, and of these the letters that count decide; without any hidden part these are all letters. -/
theorem ofFormatCode_ignores_iff {part : HiddenPart} (written : part.IsWritten) :
    ((∀ before after system, LeavesNothingOpen before →
        CellKind.ofFormatCode (String.ofList (before ++ (part.chars ++ after))) system =
          CellKind.ofFormatCode (String.ofList (before ++ after)) system) ↔ part.Closes) ∧
      (∀ code, LeavesNothingOpen code ↔ ∃ shown, Shows code shown) ∧
      (∀ code shown system, Shows code shown → CellKind.ofFormatCode (String.ofList code) system = letterKind shown system) ∧
      ∀ code system, (∀ c ∈ code, IsVisible c) → CellKind.ofFormatCode (String.ofList code) system = letterKind code system := by
  refine ⟨⟨fun ignored => ?_, ?_⟩, fun code => leavesNothingOpen_iff, fun code shown system shows_them =>
    ofFormatCode_of_shows shows_them system, fun code system visible => ofFormatCode_of_shows (shows_self visible) system⟩
  · by_contra open_still
    -- A letter behind the part is taken to stand in it.
    obtain ⟨enclosure, left_open⟩ := HiddenPart.exists_foldl_of_not_closes false false written open_still
    have same := ignored [] ['y'] .from1900 ⟨rfl, rfl, rfl⟩
    rw [CellKind.ofFormatCode, CellKind.ofFormatCode, String.toList_ofList, String.toList_ofList, List.nil_append,
      List.nil_append, List.foldl_append, show FormatScan.start = outside false false from rfl, left_open] at same
    cases enclosure <;> cases same
  · rintro closes before after system nothing_open
    obtain ⟨shown, shows_them⟩ := leavesNothingOpen_iff.mp nothing_open
    rw [CellKind.ofFormatCode, CellKind.ofFormatCode, String.toList_ofList, String.toList_ofList, List.foldl_append,
      List.foldl_append, List.foldl_append, show FormatScan.start = outside false false from rfl, foldl_shows shows_them,
      HiddenPart.foldl_of_closes written closes]

/-- A literal of a bracket, a letter behind an underscore, and two backslashes, in front of a date. -/
theorem ofFormatCode_ignores_bracket :
    (HiddenPart.enclosed .quotes ['[', '_', 'h', '\\', '\\']).IsWritten ∧
      CellKind.ofFormatCode "[h]\"[_h\\\\\"yyyy" .from1900 = CellKind.ofFormatCode "[h]yyyy" .from1900 ∧
      CellKind.ofFormatCode "[h]yyyy" .from1900 = .serial .day .from1900 := by
  have written : (HiddenPart.enclosed .quotes ['[', '_', 'h', '\\', '\\']).IsWritten := ⟨by decide, by decide⟩
  have ignores := (ofFormatCode_ignores_iff written).1.mpr ⟨1, rfl⟩
  exact ⟨written, ignores "[h]".toList "yyyy".toList .from1900 ⟨rfl, rfl, rfl⟩, rfl⟩

/-- A literal of one backslash is not closed: the date behind it does not count. -/
theorem ofFormatCode_misses_date :
    (HiddenPart.enclosed .quotes ['\\']).IsWritten ∧ LeavesNothingOpen [] ∧
      CellKind.ofFormatCode (String.ofList ([] ++ ((HiddenPart.enclosed .quotes ['\\']).chars ++ "yyyy-mm-dd".toList))) .from1900 =
        .number ∧
      CellKind.ofFormatCode (String.ofList ([] ++ "yyyy-mm-dd".toList)) .from1900 = .serial .day .from1900 :=
  ⟨⟨by decide, by decide⟩, ⟨rfl, rfl, rfl⟩, rfl, rfl⟩

end Tablesmith.Grid
