import Mathlib
import Tablesmith.Proofs.Accessor.ClassText
import Tablesmith.Proofs.Calendar.Reading
import Tablesmith.Proofs.Text.Trim

/-!
# Values that the accessor code parses

The accessor code parses integers, truth values, dates and times with calls of its
platform. What these succeed on is assumed (`InvariantParsing`); then a call succeeds
on a text exactly if the type of the property accepts it and the text is portable
(`succeeds_parseExpression_iff`): white space around an integer is ASCII, and dates
are within the years 1 to 9999.
-/

namespace Tablesmith.Accessor

open Calendar Number Text

variable {type : PropertyType} {text : String} {bits : Nat} {succeeds : String → String → Prop}

/-- The white space that may stand around an integer. -/
def IsAsciiBlank (c : Char) : Prop :=
  (0x9 ≤ c.toNat ∧ c.toNat ≤ 0xd) ∨ c.toNat = 0x20

/-- Characters that write an integer of so many bits. -/
def IsInteger (bits : Nat) (chars : List Char) : Prop :=
  Surrounded IsAsciiBlank (IsSigned bits) chars

/-- The two truth values, in small letters or capitals. -/
def IsTruth (word : List Char) : Prop :=
  word.map Char.toLower = "true".toList ∨ word.map Char.toLower = "false".toList

/-- Two digits each for the hour, the minute and the second. -/
def IsTimeOfDay (text : String) : Prop :=
  ∃ hour minute second, hour < 24 ∧ minute < 60 ∧ second < 60 ∧
    text = showPadded 2 hour ++ ":" ++ showPadded 2 minute ++ ":" ++ showPadded 2 second

/-- Four digits for a year and two each for a month and a day that exist, and a time of day. -/
def IsDateTime (text : String) : Prop :=
  ∃ (year month day : Nat) (time : String), (1 ≤ year ∧ year ≤ 9999) ∧ (1 ≤ month ∧ month ≤ 12) ∧
    (1 ≤ day ∧ day ≤ daysInMonth year month) ∧ IsTimeOfDay time ∧
    text = showPadded 4 year ++ "-" ++ showPadded 2 month ++ "-" ++ showPadded 2 day ++ " " ++ time

/-- The value of a property in the row. -/
def lookup (name : String) : String :=
  "data[\"" ++ name ++ "\"]"

/-- What is relied on of the platform: the texts in the row that each call succeeds on. -/
structure InvariantParsing (succeeds : String → String → Prop) : Prop where
  int : ∀ name text, succeeds ("int.Parse(" ++ lookup name ++ ", CultureInfo.InvariantCulture)") text ↔
    IsInteger 32 text.toList
  long : ∀ name text, succeeds ("long.Parse(" ++ lookup name ++ ", CultureInfo.InvariantCulture)") text ↔
    IsInteger 64 text.toList
  bool : ∀ name text, succeeds ("bool.Parse(" ++ lookup name ++ ")") text ↔
    Surrounded (isBlank · = true) IsTruth text.toList
  dateTime : ∀ name text, succeeds ("DateTime.ParseExact(" ++ lookup name ++
    ", \"yyyy-MM-dd HH:mm:ss\", CultureInfo.InvariantCulture)") text ↔ IsDateTime text
  timeSpan : ∀ name text, succeeds ("TimeSpan.ParseExact(" ++ lookup name ++
    ", @\"hh\\:mm\\:ss\", CultureInfo.InvariantCulture)") text ↔ IsTimeOfDay text

/-- The types whose values are parsed other than as they are or as floating-point numbers. -/
def parsedTypes : List PropertyType :=
  [.int, .long, .bool, .dateTime, .timeSpan]

/-- The texts that the platform parses as a value of a type. -/
def Parses (type : PropertyType) (text : String) : Prop :=
  match type with
  | .int => IsInteger 32 text.toList
  | .long => IsInteger 64 text.toList
  | .bool => Surrounded (isBlank · = true) IsTruth text.toList
  | .dateTime => IsDateTime text
  | .timeSpan => IsTimeOfDay text
  | .string | .float | .double => True

theorem InvariantParsing.succeeds_iff (platform : InvariantParsing succeeds) (parsed : type ∈ parsedTypes) (name text : String) :
    succeeds (parseExpression name type) text ↔ Parses type text := by
  simp only [parsedTypes, List.mem_cons, List.not_mem_nil, or_false] at parsed
  rcases parsed with rfl | rfl | rfl | rfl | rfl
  · exact platform.int name text
  · exact platform.long name text
  · exact platform.bool name text
  · exact platform.dateTime name text
  · exact platform.timeSpan name text

theorem isBlank_iff {c : Char} : isBlank c = true ↔ ∃ range ∈ blankRanges, range.1 ≤ c.toNat ∧ c.toNat ≤ range.2 := by
  simp [isBlank, CharRanges.contains]

theorem isBlank_of_isAsciiBlank {c : Char} (blank : IsAsciiBlank c) : isBlank c = true := by
  rw [isBlank_iff]
  rcases blank with control | space
  · exact ⟨(0x9, 0xd), by decide, control⟩
  · exact ⟨(0x20, 0x20), by decide, by omega, by omega⟩

theorem not_blank_of_isDigit {c : Char} (digit : c.isDigit = true) : isBlank c = false := by
  simp only [Char.isDigit, Bool.and_eq_true, decide_eq_true_eq, ge_iff_le, UInt32.le_iff_toNat_le] at digit
  have low : 48 ≤ c.toNat := digit.1
  have high : c.toNat ≤ 57 := digit.2
  rw [Bool.eq_false_iff, ne_eq, isBlank_iff]
  simp only [blankRanges, List.mem_cons, List.not_mem_nil, or_false, exists_eq_or_imp, exists_eq_left]
  omega

theorem not_blank_of_isSigned {chars : List Char} (signed : IsSigned bits chars) : ∀ c ∈ chars, isBlank c = false := by
  obtain ⟨sign, digits, rfl, _, all_digits, range⟩ := signed
  intro c member
  rcases List.mem_append.mp member with in_sign | in_digits
  · have kinds : c = '+' ∨ c = '-' := by
      rcases range with ⟨rfl | rfl, _⟩ | ⟨rfl, _⟩
      · cases in_sign
      · exact Or.inl (List.mem_singleton.mp in_sign)
      · exact Or.inr (List.mem_singleton.mp in_sign)
    rcases kinds with rfl | rfl <;> decide
  · exact not_blank_of_isDigit (all_digits c in_digits)

theorem isInteger_iff : IsInteger bits text.toList ↔
    (readSigned? bits (trim text)).isSome = true ∧ ∀ c ∈ text.toList, isBlank c = true → IsAsciiBlank c := by
  have clear : ∀ core, IsSigned bits core → ∀ c ∈ core, isBlank c = false := fun core => not_blank_of_isSigned
  rw [IsInteger, surrounded_iff_of_blank (fun c => isBlank_of_isAsciiBlank) clear, surrounded_blank_iff clear,
    isSome_readSigned?_iff]

theorem toLower_of_isBlank {c : Char} (blank : isBlank c = true) : c.toLower = c := by
  refine toLower_of_not_capital ?_
  rw [isBlank_iff] at blank
  simp only [blankRanges, List.mem_cons, List.not_mem_nil, or_false, exists_eq_or_imp, exists_eq_left] at blank
  omega

theorem not_blank_of_isTruth {word : List Char} (truth : IsTruth word) : ∀ c ∈ word, isBlank c = false := by
  intro c member
  have small : c.toLower ∈ "truefalse".toList := by
    have lowered : c.toLower ∈ word.map Char.toLower := List.mem_map_of_mem member
    rcases truth with same | same
    · rw [same] at lowered
      exact List.mem_append_left "false".toList lowered
    · rw [same] at lowered
      exact List.mem_append_right "true".toList lowered
  rw [Bool.eq_false_iff]
  intro blank
  rw [toLower_of_isBlank blank] at small
  have letters : "truefalse".toList.all (fun letter => !isBlank letter) = true := by decide
  have letter := List.all_eq_true.mp letters c small
  rw [blank] at letter
  cases letter

theorem isTruth_iff : IsTruth text.toList ↔ (sameAscii text "true" || sameAscii text "false") = true := by
  have true_small : "true".toList.map Char.toLower = "true".toList := by decide
  have false_small : "false".toList.map Char.toLower = "false".toList := by decide
  rw [IsTruth, sameAscii, sameAscii, true_small, false_small, Bool.or_eq_true, beq_iff_eq, beq_iff_eq]

theorem isTimeOfDay_iff : IsTimeOfDay text ↔ ∃ clock : Clock, clock.isValid = true ∧ text = clock.text := by
  constructor
  · rintro ⟨hour, minute, second, hours, minutes, seconds, rfl⟩
    exact ⟨⟨hour, minute, second⟩, Clock.isValid_iff.mpr ⟨hours, minutes, seconds⟩, rfl⟩
  · rintro ⟨clock, valid, rfl⟩
    obtain ⟨hours, minutes, seconds⟩ := Clock.isValid_iff.mp valid
    exact ⟨clock.hour, clock.minute, clock.second, hours, minutes, seconds, rfl⟩

/-- Only the years that have four digits and are not 0 are parsed. -/
theorem isDateTime_iff : IsDateTime text ↔
    ∃ moment, Moment.read? text = some moment ∧ 1 ≤ moment.date.year ∧ moment.date.year ≤ 9999 := by
  constructor
  · rintro ⟨year, month, day, time, years, months, days, of_day, rfl⟩
    obtain ⟨clock, clock_valid, rfl⟩ := isTimeOfDay_iff.mp of_day
    have date_valid : (Date.mk year month day).isValid = true := by
      rw [Date.isValid_iff]
      refine ⟨⟨?_, ?_⟩, months, days⟩
      · exact le_trans (by decide) (Int.natCast_nonneg year)
      · exact le_trans (Int.ofNat_le.mpr years.2) (by decide)
    have four : Date.yearText year = showPadded 4 year := by
      rw [Date.yearText, if_pos ⟨Int.natCast_nonneg year, by exact_mod_cast years.2⟩, Int.toNat_natCast]
    refine ⟨⟨⟨year, month, day⟩, clock⟩, Moment.read?_eq_some_iff.mpr ⟨⟨date_valid, clock_valid⟩, ?_⟩, ?_⟩
    · rw [Moment.text, Date.text, four]
    · show 1 ≤ (year : Int) ∧ (year : Int) ≤ 9999
      exact_mod_cast years
  · rintro ⟨⟨⟨year, month, day⟩, clock⟩, read, first, last⟩
    obtain ⟨⟨date_valid, clock_valid⟩, rfl⟩ := Moment.read?_eq_some_iff.mp read
    obtain ⟨_, months, days⟩ := Date.isValid_iff.mp date_valid
    change 1 ≤ year at first
    change year ≤ 9999 at last
    obtain ⟨count, rfl⟩ := Int.eq_ofNat_of_zero_le (show 0 ≤ year by omega)
    have four : Date.yearText count = showPadded 4 count := by
      rw [Date.yearText, if_pos ⟨Int.natCast_nonneg count, last⟩, Int.toNat_natCast]
    refine ⟨count, month, day, clock.text, ?_, months, days, isTimeOfDay_iff.mpr ⟨clock, clock_valid, rfl⟩, ?_⟩
    · exact_mod_cast And.intro first last
    · rw [Moment.text, Date.text, four]

/-- The platform parses a text that the type accepts: white space around integers is ASCII, and the
year of a moment is one that the platform has. -/
def IsPortable (type : PropertyType) (text : String) : Prop :=
  match type with
  | .int | .long => ∀ c ∈ text.toList, isBlank c = true → IsAsciiBlank c
  | .dateTime => ∀ moment, Moment.read? text = some moment → 1 ≤ moment.date.year ∧ moment.date.year ≤ 9999
  | .string | .float | .double | .bool | .timeSpan => True

theorem parses_iff (parsed : type ∈ parsedTypes) : Parses type text ↔ type.accepts text = true ∧ IsPortable type text := by
  simp only [parsedTypes, List.mem_cons, List.not_mem_nil, or_false] at parsed
  rcases parsed with rfl | rfl | rfl | rfl | rfl
  · exact isInteger_iff
  · exact isInteger_iff
  · rw [Parses, surrounded_blank_iff (fun core => not_blank_of_isTruth), isTruth_iff, IsPortable, and_true]
    rfl
  · rw [Parses, isDateTime_iff, PropertyType.accepts, IsPortable, Option.isSome_iff_exists]
    constructor
    · rintro ⟨moment, read, years⟩
      refine ⟨⟨moment, read⟩, ?_⟩
      rintro other other_read
      obtain rfl : moment = other := Option.some_inj.mp (read.symm.trans other_read)
      exact years
    · rintro ⟨⟨moment, read⟩, years⟩
      exact ⟨moment, read, years moment read⟩
  · rw [Parses, isTimeOfDay_iff, PropertyType.accepts, IsPortable, Option.isSome_iff_exists, and_true]
    simp only [Clock.read?_eq_some_iff]

/-- A call of the accessor code succeeds on exactly the portable ones of the texts that the type of
the property accepts. -/
theorem succeeds_parseExpression_iff (platform : InvariantParsing succeeds) (parsed : type ∈ parsedTypes) (name text : String) :
    succeeds (parseExpression name type) text ↔ type.accepts text = true ∧ IsPortable type text := by
  rw [platform.succeeds_iff parsed, parses_iff parsed]

/-- The calls that succeed on a platform with no other calls. -/
def Succeeds (call text : String) : Prop :=
  ∃ name type, type ∈ parsedTypes ∧ call = parseExpression name type ∧ Parses type text

theorem succeeds_call_iff (parsed : type ∈ parsedTypes) (name text : String) :
    Succeeds (parseExpression name type) text ↔ Parses type text := by
  constructor
  · rintro ⟨other, kind, _, same, parses⟩
    obtain ⟨_, rfl⟩ := parseExpression_injective same
    exact parses
  · intro parses
    exact ⟨name, type, parsed, rfl, parses⟩

theorem invariantParsing_succeeds : InvariantParsing Succeeds where
  int := succeeds_call_iff (by decide : .int ∈ parsedTypes)
  long := succeeds_call_iff (by decide : .long ∈ parsedTypes)
  bool := succeeds_call_iff (by decide : .bool ∈ parsedTypes)
  dateTime := succeeds_call_iff (by decide : .dateTime ∈ parsedTypes)
  timeSpan := succeeds_call_iff (by decide : .timeSpan ∈ parsedTypes)

theorem succeeds_within_blanks : Succeeds (parseExpression "Count" .int) " -5\t" := by
  have parsed : .int ∈ parsedTypes := by decide
  refine (succeeds_parseExpression_iff invariantParsing_succeeds parsed "Count" " -5\t").mpr ⟨by decide +kernel, ?_⟩
  intro c member blank
  have chars : " -5\t".toList = [' ', '-', '5', '\t'] := by decide
  simp only [chars, List.mem_cons, List.not_mem_nil, or_false] at member
  rcases member with rfl | rfl | rfl | rfl
  · exact Or.inr rfl
  · exact absurd blank (by decide)
  · exact absurd blank (by decide)
  · exact Or.inl (by decide)

/-- A no-break space in front of an integer and the year 0 are accepted and not parsed. -/
theorem accepted_not_parsed : InvariantParsing Succeeds ∧
    (PropertyType.int.accepts "\u00a05" = true ∧ ¬ Succeeds (parseExpression "Count" .int) "\u00a05") ∧
    PropertyType.dateTime.accepts "0000-01-01 00:00:00" = true ∧
      ¬ Succeeds (parseExpression "Since" .dateTime) "0000-01-01 00:00:00" := by
  refine ⟨invariantParsing_succeeds, ⟨by decide +kernel, ?_⟩, by decide +kernel, ?_⟩
  · rw [succeeds_call_iff (by decide), parses_iff (by decide)]
    rintro ⟨_, portable⟩
    have space : IsAsciiBlank '\u00a0' := portable '\u00a0' (by decide) (by decide)
    unfold IsAsciiBlank at space
    revert space
    decide
  · rw [succeeds_call_iff (by decide), parses_iff (by decide)]
    rintro ⟨_, portable⟩
    have read : Moment.read? "0000-01-01 00:00:00" = some ⟨⟨0, 1, 1⟩, ⟨0, 0, 0⟩⟩ := by decide +kernel
    exact absurd (portable _ read).1 (by decide)

end Tablesmith.Accessor
