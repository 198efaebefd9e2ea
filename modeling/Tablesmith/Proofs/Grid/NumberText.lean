import Mathlib
import Tablesmith.Biff.Record
import Tablesmith.Grid.Cell
import Tablesmith.Proofs.Accessor.Parsing
import Tablesmith.Proofs.Calendar.Values
import Tablesmith.Proofs.Number.Printing

/-!
# The text of a number

Which types accept a numeral depends on its number, and for the integers on whether it has
only digits behind its sign (`PropertyType.accepts_iff`).

A cell shows a number as it is stored. Two cells with one number have one text, the
shortest, if both store the reduced spelling, as the binary format does except for the
negative zero; and one of them may be an integer where the other is not
(`Cell.text_of_same_number`).
-/

namespace Tablesmith.Number

open Text Accessor

variable {text : String} {number : ℚ} {numeral : Numeral} {bits bound : Nat}

/-- There is neither a point nor an exponent in the numeral. -/
def IsWhole (text : String) : Prop :=
  ∃ spelling : Spelling, spelling.fraction = none ∧ spelling.text = text

/-- The characters that occur in numerals. -/
def IsNumeralChar (c : Char) : Prop :=
  c.isDigit = true ∨ c ∈ ['+', '-', '.', 'e', 'E']

theorem isNumeralChar_of_takeWhile {chars : List Char} (rest : ∀ c ∈ chars.dropWhile isAsciiDigit, IsNumeralChar c) :
    ∀ c ∈ chars, IsNumeralChar c := by
  intro c member
  rw [← List.takeWhile_append_dropWhile (p := isAsciiDigit) (l := chars)] at member
  rcases List.mem_append.mp member with digit | other
  · exact Or.inl ((isAsciiDigit_eq c).symm.trans (List.mem_takeWhile_imp digit))
  · exact rest c other

theorem isNumeralChar_of_takeSign {chars : List Char} (rest : ∀ c ∈ (takeSign chars).2, IsNumeralChar c) :
    ∀ c ∈ chars, IsNumeralChar c := by
  unfold takeSign at rest
  split at rest
  · exact List.forall_mem_cons.mpr ⟨Or.inr (by simp), rest⟩
  · exact List.forall_mem_cons.mpr ⟨Or.inr (by simp), rest⟩
  · exact rest

theorem isNumeralChar_of_takeFraction {chars : List Char} (rest : ∀ c ∈ (takeFraction chars).2, IsNumeralChar c) :
    ∀ c ∈ chars, IsNumeralChar c := by
  unfold takeFraction at rest
  split at rest
  · exact List.forall_mem_cons.mpr ⟨Or.inr (by simp), isNumeralChar_of_takeWhile rest⟩
  · exact rest

theorem isNumeralChar_of_readExponent? {chars : List Char} {exponent : Int} (read : readExponent? chars = some exponent) :
    ∀ c ∈ chars, IsNumeralChar c := by
  unfold readExponent? at read
  split at read
  · exact List.forall_mem_nil _
  · next mark rest =>
    split_ifs at read with letter
    · obtain ⟨_, found, -⟩ := Option.map_eq_some_iff.mp read
      obtain ⟨n, digits, -⟩ := Option.bind_eq_some_iff.mp found
      obtain ⟨-, all_digits, -⟩ := readDigits?_eq_some_iff.mp digits
      refine List.forall_mem_cons.mpr ⟨Or.inr ?_, isNumeralChar_of_takeSign fun c member => Or.inl (all_digits c member)⟩
      rcases letter with rfl | rfl <;> simp

theorem Denotes.isNumeralChar (denotes : Denotes text number) : ∀ c ∈ text.toList, IsNumeralChar c := by
  obtain ⟨numeral, read, -⟩ := denotes
  unfold Numeral.read? at read
  dsimp only at read
  split_ifs at read
  obtain ⟨exponent, found, -⟩ := Option.map_eq_some_iff.mp read
  have behind_digits := isNumeralChar_of_takeFraction (isNumeralChar_of_readExponent? found)
  exact isNumeralChar_of_takeSign (isNumeralChar_of_takeWhile behind_digits)

theorem isNumeralChar_toLower {c : Char} (numeral : IsNumeralChar c) : IsNumeralChar c.toLower := by
  rcases numeral with digit | mark
  · have small := digit_lt digit
    have zero : '0'.toNat = 48 := rfl
    rw [toLower_of_not_capital (by omega)]
    exact Or.inl digit
  · simp only [List.mem_cons, List.not_mem_nil, or_false] at mark
    rcases mark with rfl | rfl | rfl | rfl | rfl <;> exact Or.inr (by decide)

theorem Denotes.not_mem (denotes : Denotes text number) {c : Char} (no_digit : c.isDigit = false)
    (other : c ∉ ['+', '-', '.', 'e', 'E']) : c ∉ text.toList := by
  intro member
  rcases denotes.isNumeralChar c member with digit | mark
  · rw [digit] at no_digit
    cases no_digit
  · exact other mark

theorem Denotes.trim_eq (denotes : Denotes text number) : trim text = text := by
  have clear : ∀ c ∈ text.toList, isBlank c = false := by
    intro c member
    rcases denotes.isNumeralChar c member with digit | mark
    · exact not_blank_of_isDigit digit
    · simp only [List.mem_cons, List.not_mem_nil, or_false] at mark
      rcases mark with rfl | rfl | rfl | rfl | rfl <;> decide
  have parts : text.toList = [] ++ (text.toList ++ []) := by simp
  exact String.toList_injective (toList_trim_of_parts parts (List.forall_mem_nil _) (List.forall_mem_nil _) clear)

theorem tenfold_eq (n : Nat) (power : Int) : (n * 10 ^ power : ℚ) = (tenfold n power).1 / (tenfold n power).2 := by
  cases power with
  | ofNat power => simp [tenfold]
  | negSucc power => simp [tenfold, zpow_negSucc, div_eq_mul_inv]

theorem pow_le_digits {n : Nat} (nonzero : n ≠ 0) : 10 ^ (digitCount n - 1) ≤ n := by
  by_contra small
  have some_digits : 0 < digitCount n := List.length_pos_iff.mpr Nat.toDigits_ne_nil
  rcases Nat.eq_zero_or_pos (digitCount n - 1) with single | more
  · rw [single] at small
    omega
  · have short := digitCount_le more (not_le.mp small)
    omega

theorem digits_bounds {n : Nat} (nonzero : n ≠ 0) (power : Int) :
    (10 : ℚ) ^ (digitCount n + power - 1) ≤ n * 10 ^ power ∧ (n * 10 ^ power : ℚ) < 10 ^ (digitCount n + power) := by
  have some_digits : 0 < digitCount n := List.length_pos_iff.mpr Nat.toDigits_ne_nil
  have least : (10 : ℚ) ^ (digitCount n - 1) ≤ n := by exact_mod_cast pow_le_digits nonzero
  have most : (n : ℚ) < 10 ^ digitCount n := by exact_mod_cast Decimal.lt_digitCount n
  have unit : (0 : ℚ) < 10 ^ power := by positivity
  constructor
  · calc (10 : ℚ) ^ (digitCount n + power - 1) = 10 ^ (digitCount n - 1) * 10 ^ power := by
          rw [← zpow_natCast, ← zpow_add₀ (by norm_num)]
          congr 1
          omega
      _ ≤ n * 10 ^ power := mul_le_mul_of_nonneg_right least unit.le
  · calc (n * 10 ^ power : ℚ) < 10 ^ digitCount n * 10 ^ power := mul_lt_mul_of_pos_right most unit
      _ = 10 ^ (digitCount n + power) := by rw [← zpow_natCast, ← zpow_add₀ (by norm_num)]

/-- The bound is met by the number, also where the numeral is so large or small that it is not compared. -/
theorem Numeral.below_iff (some_bound : 0 < bound) (small_bound : bound ≤ 10 ^ 400) :
    numeral.below bound = true ↔ |numeral.value| < bound := by
  have positive : (1 : ℚ) ≤ bound := by exact_mod_cast some_bound
  rw [Numeral.abs_value]
  unfold Numeral.below magnitudeLimit
  dsimp only
  split_ifs with zero small large
  · simp [zero, some_bound]
  · obtain ⟨-, most⟩ := digits_bounds zero numeral.exponent
    have least_unit : (10 : ℚ) ^ ((digitCount numeral.coefficient : Int) + numeral.exponent) ≤ 1 :=
      zpow_le_one_of_nonpos₀ (by norm_num) small.le
    simp only [some_bound, decide_true, true_iff]
    exact (most.trans_le least_unit).trans_le positive
  · obtain ⟨least, -⟩ := digits_bounds zero numeral.exponent
    have limit : (bound : ℚ) ≤ 10 ^ ((digitCount numeral.coefficient : Int) + numeral.exponent - 1) := by
      calc (bound : ℚ) ≤ 10 ^ 400 := by exact_mod_cast small_bound
        _ = 10 ^ (400 : Int) := by norm_num
        _ ≤ _ := zpow_le_zpow_right₀ (by norm_num) (by omega)
    simp only [false_iff, not_lt]
    exact limit.trans least
  · have denominator : (0 : ℚ) < (tenfold numeral.coefficient numeral.exponent).2 := by
      exact_mod_cast tenfold_pos _ _
    rw [tenfold_eq, div_lt_iff₀ denominator, decide_eq_true_eq]
    norm_cast

theorem value_of_whole {spelling : Spelling} (whole : spelling.fraction = none) : spelling.numeral.value =
    (if spelling.sign = .minus then -1 else 1) * Nat.ofDigitChars 10 spelling.whole 0 := by
  rw [Spelling.value_eq, Spelling.coefficient, Spelling.decimals, whole]
  simp

/-- A numeral of digits alone is an integer of so many bits if its number is within their range. -/
theorem isSigned_text_iff {spelling : Spelling} (whole : spelling.fraction = none) : IsSigned bits spelling.text.toList ↔
    -2 ^ (bits - 1) ≤ spelling.numeral.value ∧ spelling.numeral.value < 2 ^ (bits - 1) := by
  have value := value_of_whole whole
  have digits := spelling.whole_digits
  have filled := spelling.filled
  have written : spelling.text.toList = spelling.sign.chars ++ spelling.whole := by
    rw [Spelling.text, String.toList_ofList, Spelling.tail, whole, List.append_nil]
  have positive : (0 : ℚ) ≤ Nat.ofDigitChars 10 spelling.whole 0 := Nat.cast_nonneg _
  have power : (0 : ℚ) < 2 ^ (bits - 1) := by positivity
  -- Without a minus only the upper end of the range matters.
  have unsigned : (spelling.whole ≠ [] ∧ (∀ c ∈ spelling.whole, c.isDigit = true) ∧
      Nat.ofDigitChars 10 spelling.whole 0 < 2 ^ (bits - 1)) ↔
        -2 ^ (bits - 1) ≤ (Nat.ofDigitChars 10 spelling.whole 0 : ℚ) ∧
          (Nat.ofDigitChars 10 spelling.whole 0 : ℚ) < 2 ^ (bits - 1) := by
    constructor
    · rintro ⟨-, -, small⟩
      exact ⟨by linarith, by exact_mod_cast small⟩
    · rintro ⟨-, small⟩
      exact ⟨filled, digits, by exact_mod_cast small⟩
  rw [value, written]
  cases spelling.sign with
  | minus =>
    rw [show Sign.minus.chars ++ spelling.whole = '-' :: spelling.whole from rfl, isSigned_minus_iff, if_pos rfl, neg_one_mul,
      neg_le_neg_iff]
    constructor
    · rintro ⟨-, -, small⟩
      exact ⟨by exact_mod_cast small, by linarith⟩
    · rintro ⟨small, -⟩
      exact ⟨filled, digits, by exact_mod_cast small⟩
  | plus =>
    rw [isSigned_dropPlus_iff (by simp [Sign.chars]), show dropPlus (Sign.plus.chars ++ spelling.whole) = spelling.whole from rfl,
      if_neg (by decide), one_mul, unsigned]
  | none =>
    have no_minus : spelling.whole.head? ≠ some '-' := by
      intro minus
      exact absurd (digits '-' (List.mem_of_mem_head? minus)) (by decide)
    rw [show Sign.none.chars ++ spelling.whole = spelling.whole from rfl, isSigned_dropPlus_iff no_minus,
      (dropPlus_eq_iff digits).mpr (Or.inl rfl), if_neg (by decide), one_mul, unsigned]

theorem IsSigned.isWhole (signed : IsSigned bits text.toList) : IsWhole text := by
  obtain ⟨sign, digits, parts, filled, all_digits, range⟩ := signed
  have signs : ∃ found : Sign, found.chars = sign := by
    rcases range with ⟨rfl | rfl, -⟩ | ⟨rfl, -⟩
    · exact ⟨.none, rfl⟩
    · exact ⟨.plus, rfl⟩
    · exact ⟨.minus, rfl⟩
  obtain ⟨found, rfl⟩ := signs
  refine ⟨⟨found, digits, none, filled, all_digits, List.forall_mem_nil _⟩, rfl, String.toList_injective ?_⟩
  rw [Spelling.text, String.toList_ofList, parts]
  exact congrArg (found.chars ++ ·) (List.append_nil digits)

theorem Denotes.isSigned_iff (denotes : Denotes text number) : IsSigned bits text.toList ↔
    IsWhole text ∧ -2 ^ (bits - 1) ≤ number ∧ number < 2 ^ (bits - 1) := by
  constructor
  · intro signed
    obtain ⟨spelling, whole, rfl⟩ := signed.isWhole
    rw [isSigned_text_iff whole, Spelling.denotes_text_iff.mp denotes] at signed
    exact ⟨⟨spelling, whole, rfl⟩, signed⟩
  · rintro ⟨⟨spelling, whole, rfl⟩, range⟩
    rwa [isSigned_text_iff whole, Spelling.denotes_text_iff.mp denotes]

end Tablesmith.Number

namespace Tablesmith.PropertyType

open Number Text Accessor

variable {type : PropertyType} {text : String} {number : ℚ} {bound : Nat}

/-- The numbers that are values of a type; an integer has to be written as one. -/
def Holds (type : PropertyType) (number : ℚ) (whole : Prop) : Prop :=
  match type with
  | string => True
  | int => whole ∧ -2 ^ 31 ≤ number ∧ number < 2 ^ 31
  | long => whole ∧ -2 ^ 63 ≤ number ∧ number < 2 ^ 63
  | float => |number| < singleOverflow
  | double => |number| < doubleOverflow
  | bool | dateTime | timeSpan => False

theorem isNonFinite_of_denotes (denotes : Denotes text number) : isNonFinite text = false := by
  obtain ⟨numeral, read, -⟩ := denotes
  have infinity : Numeral.read? "Infinity" = none := by rfl
  have minus_infinity : Numeral.read? "-Infinity" = none := by rfl
  have none_at_all : Numeral.read? "NaN" = none := by rfl
  simp only [isNonFinite, Bool.or_eq_false_iff, beq_eq_false_iff_ne]
  refine ⟨⟨?_, ?_⟩, ?_⟩
  all_goals
    rintro rfl
    simp_all

theorem isFiniteNumeral_iff (denotes : Denotes text number) (some_bound : 0 < bound) (small_bound : bound ≤ 10 ^ 400) :
    isFiniteNumeral bound text = true ↔ |number| < bound := by
  obtain ⟨numeral, read, rfl⟩ := denotes
  rw [isFiniteNumeral, read]
  exact Numeral.below_iff some_bound small_bound

/-- Neither truth value is a numeral. -/
theorem not_isTruth (denotes : Denotes text number) : ¬ IsTruth text.toList := by
  have no_letter (letter : Char) (none : ¬ IsNumeralChar letter) (word : List Char) (member : letter ∈ word) :
      text.toList.map Char.toLower ≠ word := by
    rintro rfl
    obtain ⟨c, inside, rfl⟩ := List.mem_map.mp member
    exact none (isNumeralChar_toLower (denotes.isNumeralChar c inside))
  rintro (same | same)
  · exact no_letter 't' (by unfold IsNumeralChar; decide) _ (by decide) same
  · exact no_letter 'f' (by unfold IsNumeralChar; decide) _ (by decide) same

/-- A numeral is a value of a type if its number is. -/
theorem accepts_iff (denotes : Denotes text number) : type.accepts text = true ↔ type.Holds number (IsWhole text) := by
  cases type with
  | string => exact iff_of_true rfl trivial
  | int =>
    rw [accepts, denotes.trim_eq, isSome_readSigned?_iff, denotes.isSigned_iff]
    rfl
  | long =>
    rw [accepts, denotes.trim_eq, isSome_readSigned?_iff, denotes.isSigned_iff]
    rfl
  | float =>
    rw [accepts, denotes.trim_eq, isNonFinite_of_denotes denotes, Bool.false_or]
    exact isFiniteNumeral_iff denotes (by decide +kernel) (by decide +kernel)
  | double =>
    rw [accepts, denotes.trim_eq, isNonFinite_of_denotes denotes, Bool.false_or]
    exact isFiniteNumeral_iff denotes (by decide +kernel) (by decide +kernel)
  | bool =>
    rw [accepts, denotes.trim_eq, ← isTruth_iff]
    exact iff_of_false (not_isTruth denotes) id
  | dateTime =>
    refine iff_of_false (fun accepted => ?_) id
    obtain ⟨moment, -, rfl⟩ := accepts_dateTime_iff.mp accepted
    exact denotes.not_mem (c := ' ') (by decide) (by decide) (by simp [Calendar.Moment.text])
  | timeSpan =>
    refine iff_of_false (fun accepted => ?_) id
    obtain ⟨clock, -, rfl⟩ := accepts_timeSpan_iff.mp accepted
    exact denotes.not_mem (c := ':') (by decide) (by decide) (by simp [Calendar.Clock.text])

end Tablesmith.PropertyType

namespace Tablesmith.Biff

open Number

variable {value : String} {number : ℚ}

/-- What is stored for a number record: the text of a double or that of a compressed number. -/
def IsNumberText (value : String) : Prop :=
  (∃ double : Binary64, value = double.text) ∨ ∃ bits, value = packedText bits

theorem isReduced_of_isNumberText (stored : IsNumberText value) (denotes : Denotes value number) (no_minus_zero : value ≠ "-0") :
    IsReduced value := by
  rcases stored with ⟨double, rfl⟩ | ⟨bits, rfl⟩
  · exact Binary64.isReduced_text denotes no_minus_zero
  · unfold packedText at denotes no_minus_zero ⊢
    dsimp only at denotes no_minus_zero ⊢
    split_ifs at denotes no_minus_zero ⊢
    · exact Binary64.isReduced_text denotes no_minus_zero
    · exact isReduced_showInt _
    · exact Binary64.isReduced_text denotes no_minus_zero
    · exact Binary64.isReduced_text denotes no_minus_zero

end Tablesmith.Biff

namespace Tablesmith.Grid.Cell

open Number

variable {first second : Cell} {number : ℚ}

/-- The cell stores a numeral of the number. -/
def Denotes (cell : Cell) (number : ℚ) : Prop :=
  cell.kind = .number ∧ Number.Denotes cell.value number

theorem Denotes.text_eq {cell : Cell} (denotes : cell.Denotes number) : cell.text = cell.value := by
  rw [text, denotes.1]

theorem Denotes.isShortest_text_iff {cell : Cell} (denotes : cell.Denotes number) :
    IsShortest number cell.text ↔ IsReduced cell.value := by
  rw [isShortest_iff, denotes.text_eq, and_iff_right denotes.2]

theorem accepts_alike_iff (one : first.Denotes number) (other : second.Denotes number) :
    (∀ type : PropertyType, type.accepts first.text = type.accepts second.text) ↔
      (-2 ^ 63 ≤ number → number < 2 ^ 63 → (IsWhole first.value ↔ IsWhole second.value)) := by
  have alike (type : PropertyType) : type.accepts first.text = type.accepts second.text ↔
      (type.Holds number (IsWhole first.value) ↔ type.Holds number (IsWhole second.value)) := by
    rw [Bool.eq_iff_iff, one.text_eq, other.text_eq, PropertyType.accepts_iff one.2, PropertyType.accepts_iff other.2]
  simp only [alike]
  constructor
  · intro all low high
    have long := all .long
    simp only [PropertyType.Holds, low, high, and_true] at long
    exact long
  · intro whole type
    cases type with
    | int =>
      refine and_congr_left fun range => whole ?_ ?_
      · linarith [range.1]
      · linarith [range.2]
    | long => exact and_congr_left fun range => whole range.1 range.2
    | string | float | double | bool | dateTime | timeSpan => exact Iff.rfl

/-- Two cells with one number show its shortest numeral if that is what they store. Other spellings of it are shown as they
are; then one cell may be an integer and the other not. The binary format stores no other spelling but that of a negative
zero. -/
theorem text_of_same_number (one : first.Denotes number) (other : second.Denotes number) :
    (∃ shortest, (∀ text, IsShortest number text ↔ text = shortest) ∧
      (first.text = shortest ∧ second.text = shortest ↔ IsReduced first.value ∧ IsReduced second.value) ∧
      ∀ cell ∈ [first, second], Biff.IsNumberText cell.value → cell.value ≠ "-0" → cell.text = shortest) ∧
    ((∀ type : PropertyType, type.accepts first.text = type.accepts second.text) ↔
      (-2 ^ 63 ≤ number → number < 2 ^ 63 → (IsWhole first.value ↔ IsWhole second.value))) := by
  obtain ⟨numeral, -, rfl⟩ := one.2
  obtain ⟨shortest, is_shortest⟩ := exists_isShortest numeral
  have only (text : String) : IsShortest numeral.value text ↔ text = shortest :=
    ⟨fun also => also.text_eq is_shortest, fun same => same ▸ is_shortest⟩
  refine ⟨⟨shortest, only, ?_, ?_⟩, accepts_alike_iff one other⟩
  · rw [← only, ← only, one.isShortest_text_iff, other.isShortest_text_iff]
  · have stored_shortest (cell : Cell) (denotes : cell.Denotes numeral.value) (stored : Biff.IsNumberText cell.value)
        (no_minus_zero : cell.value ≠ "-0") : cell.text = shortest := by
      rw [← only, denotes.isShortest_text_iff]
      exact Biff.isReduced_of_isNumberText stored denotes.2 no_minus_zero
    simp only [List.forall_mem_cons, List.not_mem_nil, false_implies, implies_true, and_true]
    exact ⟨stored_shortest first one, stored_shortest second other⟩

/-- One and a half, as the binary format stores it and with an exponent. -/
theorem text_of_three_halves :
    let first : Cell := ⟨0, 0, .number, "1.5"⟩
    let second : Cell := ⟨0, 1, .number, "15e-1"⟩
    first.Denotes (3 / 2) ∧ second.Denotes (3 / 2) ∧ Biff.IsNumberText first.value ∧ IsShortest (3 / 2) first.text ∧
      ¬ IsShortest (3 / 2) second.text ∧ ∀ type : PropertyType, type.accepts first.text = type.accepts second.text := by
  intro first second
  have one_read : Numeral.read? "1.5" = some ⟨false, 15, -1⟩ := by rfl
  have other_read : Numeral.read? "15e-1" = some ⟨false, 15, -1⟩ := by rfl
  have one : first.Denotes (3 / 2) := ⟨rfl, _, one_read, by norm_num [Numeral.value]⟩
  have other : second.Denotes (3 / 2) := ⟨rfl, _, other_read, by norm_num [Numeral.value]⟩
  have stored : Biff.IsNumberText first.value := .inl ⟨.finite false 3 (-1), by decide +kernel⟩
  obtain ⟨⟨shortest, only, -, shown⟩, alike⟩ := text_of_same_number one other
  have first_shown : first.text = shortest := shown first List.mem_cons_self stored (by decide)
  have not_whole (cell : Cell) (denotes : cell.Denotes (3 / 2)) (rejected : PropertyType.long.accepts cell.value = false) :
      ¬ IsWhole cell.value := by
    intro whole
    have holds : PropertyType.long.Holds (3 / 2) (IsWhole cell.value) := ⟨whole, by norm_num, by norm_num⟩
    rw [← PropertyType.accepts_iff denotes.2, rejected] at holds
    cases holds
  refine ⟨one, other, stored, (only _).mpr first_shown, fun also => ?_, alike.mpr fun _ _ => ?_⟩
  · exact absurd (((only _).mp also).trans first_shown.symm) (by decide)
  · exact iff_of_false (not_whole first one (by decide)) (not_whole second other (by decide))

/-- One number is shown in two ways, and only one of them is an integer. -/
theorem text_of_one_fails :
    let first : Cell := ⟨0, 0, .number, "1.0"⟩
    let second : Cell := ⟨0, 1, .number, "1"⟩
    first.Denotes 1 ∧ second.Denotes 1 ∧ first.text ≠ second.text ∧ ¬ IsShortest 1 first.text ∧
      PropertyType.int.accepts first.text = false ∧ PropertyType.int.accepts second.text = true := by
  intro first second
  have one_read : Numeral.read? "1.0" = some ⟨false, 10, -1⟩ := by rfl
  have other_read : Numeral.read? "1" = some ⟨false, 1, 0⟩ := by rfl
  have one : first.Denotes 1 := ⟨rfl, _, one_read, by norm_num [Numeral.value]⟩
  have other : second.Denotes 1 := ⟨rfl, _, other_read, by norm_num [Numeral.value]⟩
  have positional : IsPositional second.text := ⟨⟨.none, ['1'], none, List.cons_ne_nil _ _, by simp, by simp⟩, rfl⟩
  refine ⟨one, other, by decide, fun shortest => ?_, by decide, by decide⟩
  exact absurd (shortest.least second.text other.2 positional) (by decide)

end Tablesmith.Grid.Cell
