import Mathlib
import Tablesmith.Proofs.Number.Digits

/-!
# Spellings of a number

A number has many numerals: with a plus sign, with zeros in front or at the end, with
a bare point, with an exponent. Among those without an exponent and with a digit in
front of the point one has none of the rest (`IsReduced`). It is the only one of its
number (`Spelling.IsReduced.text_eq_of_value_eq`), and the shortest (`isShortest_iff`).
-/

namespace Tablesmith.Number

open Text

/-- The number that a numeral denotes. -/
def Numeral.value (numeral : Numeral) : ℚ :=
  (if numeral.negative then -1 else 1) * (numeral.coefficient * 10 ^ numeral.exponent)

theorem Numeral.abs_value (numeral : Numeral) : |numeral.value| = numeral.coefficient * 10 ^ numeral.exponent := by
  have positive : (0 : ℚ) ≤ numeral.coefficient * 10 ^ numeral.exponent := by positivity
  unfold Numeral.value
  split_ifs
  · rw [neg_one_mul, abs_neg, abs_of_nonneg positive]
  · rw [one_mul, abs_of_nonneg positive]

/-- The text is a numeral of the number. -/
def Denotes (text : String) (number : ℚ) : Prop :=
  ∃ numeral, Numeral.read? text = some numeral ∧ numeral.value = number

/-- What may stand in front of the digits of a numeral. -/
inductive Sign
  | none
  | plus
  | minus
deriving DecidableEq

/-- How a sign is written. -/
def Sign.chars : Sign → List Char
  | none => []
  | plus => ['+']
  | minus => ['-']

/-- The parts of a numeral without an exponent and with a digit in front of the point: its sign, the
digits in front of the point and, if there is a point, those behind it. -/
structure Spelling where
  sign : Sign
  whole : List Char
  fraction : Option (List Char)
  filled : whole ≠ []
  whole_digits : ∀ c ∈ whole, c.isDigit = true
  fraction_digits : ∀ c ∈ fraction.getD [], c.isDigit = true

namespace Spelling

/-- The digits behind the point. -/
def decimals (spelling : Spelling) : List Char :=
  spelling.fraction.getD []

/-- The point with the digits behind it. -/
def tail (spelling : Spelling) : List Char :=
  match spelling.fraction with
  | none => []
  | some digits => '.' :: digits

/-- The parts behind each other. -/
def text (spelling : Spelling) : String :=
  String.ofList (spelling.sign.chars ++ (spelling.whole ++ spelling.tail))

/-- All digits as one number. -/
def coefficient (spelling : Spelling) : Nat :=
  Nat.ofDigitChars 10 (spelling.whole ++ spelling.decimals) 0

/-- What a spelling is read as. -/
def numeral (spelling : Spelling) : Numeral :=
  ⟨spelling.sign = .minus, spelling.coefficient, -(spelling.decimals.length : Int)⟩

/-- Nothing can be left out: no plus sign, no minus sign of a zero, no zero in front of other digits,
no bare point and no zero at the end of a fraction. -/
structure IsReduced (spelling : Spelling) : Prop where
  no_plus : spelling.sign ≠ .plus
  no_minus_zero : spelling.sign = .minus → spelling.coefficient ≠ 0
  no_leading_zero : spelling.whole.head? = some '0' → spelling.whole = ['0']
  no_bare_point : spelling.fraction ≠ some []
  no_trailing_zero : spelling.decimals.getLast? ≠ some '0'

end Spelling

/-- The text is a numeral without an exponent and with a digit in front of the point. -/
def IsPositional (text : String) : Prop :=
  ∃ spelling : Spelling, spelling.text = text

/-- The text is a reduced spelling. -/
def IsReduced (text : String) : Prop :=
  ∃ spelling : Spelling, spelling.IsReduced ∧ spelling.text = text

/-- No positional numeral of the number is shorter. -/
structure IsShortest (number : ℚ) (text : String) : Prop where
  denotes : Denotes text number
  positional : IsPositional text
  least : ∀ other, Denotes other number → IsPositional other → text.length ≤ other.length

theorem takeWhile_whole {whole rest : List Char} (digits : ∀ c ∈ whole, c.isDigit = true)
    (ends : ∀ c ∈ rest.head?, c.isDigit = false) :
    (whole ++ rest).takeWhile isAsciiDigit = whole ∧ (whole ++ rest).dropWhile isAsciiDigit = rest := by
  have ascii : ∀ c ∈ whole, isAsciiDigit c = true := fun c member => (isAsciiDigit_eq c).trans (digits c member)
  have stops : rest.takeWhile isAsciiDigit = [] ∧ rest.dropWhile isAsciiDigit = rest := by
    cases rest with
    | nil => exact ⟨rfl, rfl⟩
    | cons c rest =>
      have no_digit : isAsciiDigit c = false := (isAsciiDigit_eq c).trans (ends c rfl)
      simp [no_digit]
  rw [List.takeWhile_append_of_pos ascii, List.dropWhile_append_of_pos ascii, stops.1, stops.2, List.append_nil]
  exact ⟨rfl, rfl⟩

namespace Spelling

variable {spelling other : Spelling} {number : ℚ}

theorem takeSign_chars (spelling : Spelling) (rest : List Char) : takeSign (spelling.sign.chars ++ (spelling.whole ++ rest)) =
    (decide (spelling.sign = .minus), spelling.whole ++ rest) := by
  cases spelling.sign with
  | none =>
    obtain ⟨c, digits, whole⟩ := List.exists_cons_of_ne_nil spelling.filled
    have digit : c.isDigit = true := spelling.whole_digits c (whole ▸ List.mem_cons_self)
    obtain ⟨no_plus, no_minus⟩ := not_sign_of_isDigit digit
    simp [Sign.chars, takeSign, whole, no_plus, no_minus]
  | plus => rfl
  | minus => rfl

theorem decimals_digits (spelling : Spelling) : ∀ c ∈ spelling.decimals, c.isDigit = true :=
  spelling.fraction_digits

theorem takeFraction_tail (spelling : Spelling) : takeFraction spelling.tail = (spelling.decimals, []) := by
  have digits := spelling.fraction_digits
  unfold tail decimals
  cases fraction : spelling.fraction with
  | none => rfl
  | some decimals =>
    rw [fraction] at digits
    obtain ⟨taken, dropped⟩ := takeWhile_digits digits
    exact Prod.ext taken dropped

/-- A spelling is read as what it says. -/
theorem read?_text (spelling : Spelling) : Numeral.read? spelling.text = some spelling.numeral := by
  have ends : ∀ c ∈ spelling.tail.head?, c.isDigit = false := by
    unfold tail
    cases spelling.fraction with
    | none => nofun
    | some _ =>
      rintro c ⟨⟩
      rfl
  obtain ⟨taken, dropped⟩ := takeWhile_whole spelling.whole_digits ends
  simp only [Numeral.read?, text, String.toList_ofList, takeSign_chars, taken, dropped, takeFraction_tail]
  rw [if_neg fun empty => spelling.filled empty.1, readExponent?.eq_1, Option.map_some, Int.zero_sub]
  rfl

theorem denotes_text_iff : Denotes spelling.text number ↔ spelling.numeral.value = number := by
  simp [Denotes, read?_text]

theorem value_eq (spelling : Spelling) : spelling.numeral.value =
    (if spelling.sign = .minus then -1 else 1) * (spelling.coefficient / 10 ^ spelling.decimals.length) := by
  simp [Numeral.value, numeral, div_eq_mul_inv]

theorem value_of_ne_minus (unsigned : spelling.sign ≠ .minus) :
    spelling.numeral.value = spelling.coefficient / 10 ^ spelling.decimals.length := by
  rw [value_eq, if_neg unsigned, one_mul]

theorem abs_value (spelling : Spelling) : |spelling.numeral.value| = spelling.coefficient / 10 ^ spelling.decimals.length := by
  rw [Numeral.abs_value]
  simp [numeral, div_eq_mul_inv]

theorem coefficient_eq (spelling : Spelling) : spelling.coefficient =
    10 ^ spelling.decimals.length * Nat.ofDigitChars 10 spelling.whole 0 + Nat.ofDigitChars 10 spelling.decimals 0 := by
  rw [coefficient, Nat.ofDigitChars_append, Nat.ofDigitChars_eq_ofDigitChars_zero]

theorem length_text (spelling : Spelling) :
    spelling.text.length = spelling.sign.chars.length + (spelling.whole.length + spelling.tail.length) := by
  rw [text, String.length_ofList, List.length_append, List.length_append]

theorem coefficient_append_zero (whole digits : List Char) :
    Nat.ofDigitChars 10 (whole ++ (digits ++ ['0'])) 0 = 10 * Nat.ofDigitChars 10 (whole ++ digits) 0 := by
  rw [← List.append_assoc, Nat.ofDigitChars_append]
  rfl

/-- A numeral that is not reduced has a part that can be left out. -/
theorem exists_shorter (superfluous : ¬ spelling.IsReduced) :
    ∃ shorter : Spelling, shorter.numeral.value = spelling.numeral.value ∧ shorter.text.length < spelling.text.length := by
  obtain ⟨sign, whole, fraction, filled, whole_digits, fraction_digits⟩ := spelling
  by_contra none_shorter
  push Not at none_shorter
  refine superfluous ⟨?no_plus, ?no_minus_zero, ?no_leading_zero, ?no_bare_point, ?no_trailing_zero⟩
  case no_plus =>
    rintro rfl
    have longer := none_shorter ⟨.none, whole, fraction, filled, whole_digits, fraction_digits⟩ rfl
    simp [length_text, Sign.chars, tail] at longer
  case no_minus_zero =>
    rintro rfl zero
    have value : Numeral.value (numeral ⟨.none, whole, fraction, filled, whole_digits, fraction_digits⟩) =
        Numeral.value (numeral ⟨.minus, whole, fraction, filled, whole_digits, fraction_digits⟩) := by
      have zero_unsigned : coefficient ⟨.none, whole, fraction, filled, whole_digits, fraction_digits⟩ = 0 := zero
      rw [value_eq, value_eq, zero, zero_unsigned]
      simp
    have longer := none_shorter _ value
    simp [length_text, Sign.chars, tail] at longer
  case no_leading_zero =>
    intro leading
    obtain ⟨rest, rfl⟩ := List.head?_eq_some_iff.mp leading
    by_contra more
    have rest_filled : rest ≠ [] := by
      rintro rfl
      exact more rfl
    have rest_digits := (List.forall_mem_cons.mp whole_digits).2
    have longer := none_shorter ⟨sign, rest, fraction, rest_filled, rest_digits, fraction_digits⟩ rfl
    simp [length_text, tail] at longer
  case no_bare_point =>
    rintro rfl
    have longer := none_shorter ⟨sign, whole, none, filled, whole_digits, fraction_digits⟩ rfl
    simp [length_text, tail] at longer
  case no_trailing_zero =>
    intro trailing
    obtain ⟨digits, ends⟩ := List.getLast?_eq_some_iff.mp trailing
    obtain _ | decimals := fraction
    · cases trailing
    · have ends : decimals = digits ++ ['0'] := ends
      subst ends
      have kept : ∀ c ∈ digits, c.isDigit = true := fun c member => fraction_digits c (List.mem_append_left _ member)
      have value : Numeral.value (numeral ⟨sign, whole, some digits, filled, whole_digits, kept⟩) =
          Numeral.value (numeral ⟨sign, whole, some (digits ++ ['0']), filled, whole_digits, fraction_digits⟩) := by
        have tenfold : coefficient ⟨sign, whole, some (digits ++ ['0']), filled, whole_digits, fraction_digits⟩ =
            10 * coefficient ⟨sign, whole, some digits, filled, whole_digits, kept⟩ := coefficient_append_zero whole digits
        rw [value_eq, value_eq, tenfold]
        simp only [Spelling.decimals, Option.getD_some, List.length_append, List.length_singleton]
        field_simp
        push_cast
        ring
      have longer := none_shorter _ value
      simp [length_text, tail] at longer

theorem eq_zero_of_digit {c : Char} (digit : c.isDigit = true) (zero : c.toNat - '0'.toNat = 0) : c = '0' :=
  digit_inj digit (by decide) (by simpa using zero)

theorem le_ofDigitChars {c : Char} {rest : List Char} (digit : c.isDigit = true) (nonzero : c ≠ '0') :
    10 ^ rest.length ≤ Nat.ofDigitChars 10 (c :: rest) 0 := by
  have positive : c.toNat - '0'.toNat ≠ 0 := fun zero => nonzero (eq_zero_of_digit digit zero)
  rw [ofDigitChars_cons_zero]
  exact Nat.le_add_right_of_le (Nat.le_mul_of_pos_right _ (Nat.pos_of_ne_zero positive))

/-- Of two runs of digits with one value the longer one begins with a zero. -/
theorem length_le_of_no_leading_zero {left right : List Char} (left_digits : ∀ c ∈ left, c.isDigit = true)
    (right_digits : ∀ c ∈ right, c.isDigit = true) (left_filled : left ≠ [])
    (no_zero : right.head? = some '0' → right = ['0']) (same : Nat.ofDigitChars 10 left 0 = Nat.ofDigitChars 10 right 0) : right.length ≤ left.length := by
  have some_left : 0 < left.length := List.length_pos_iff.mpr left_filled
  obtain _ | ⟨c, rest⟩ := right
  · exact Nat.zero_le _
  · by_cases zero : c = '0'
    · have single := no_zero (congrArg some zero)
      rw [single]
      exact some_left
    · by_contra longer
      have shorter : left.length ≤ rest.length := by
        rw [List.length_cons] at longer
        omega
      have large := @le_ofDigitChars c rest (right_digits c List.mem_cons_self) zero
      have small := ofDigitChars_lt left_digits
      have powers : 10 ^ left.length ≤ 10 ^ rest.length := Nat.pow_le_pow_right (by decide) shorter
      omega

theorem IsReduced.value_lt_iff (reduced : spelling.IsReduced) : spelling.numeral.value < 0 ↔ spelling.sign = .minus := by
  have positive : (0 : ℚ) ≤ spelling.coefficient / 10 ^ spelling.decimals.length := by positivity
  constructor
  · intro negative
    by_contra unsigned
    rw [value_of_ne_minus unsigned] at negative
    exact absurd negative positive.not_gt
  · intro minus
    have nonzero := Nat.pos_of_ne_zero (reduced.no_minus_zero minus)
    have quotient : (0 : ℚ) < spelling.coefficient / 10 ^ spelling.decimals.length := by positivity
    rw [value_eq, if_pos minus, neg_one_mul]
    exact neg_neg_of_pos quotient

theorem IsReduced.sign_eq (reduced : spelling.IsReduced) (other_reduced : other.IsReduced)
    (same : spelling.numeral.value = other.numeral.value) : spelling.sign = other.sign := by
  have minus : spelling.sign = .minus ↔ other.sign = .minus := by
    rw [← reduced.value_lt_iff, ← other_reduced.value_lt_iff, same]
  have no_plus := reduced.no_plus
  have other_no_plus := other_reduced.no_plus
  cases left : spelling.sign <;> cases right : other.sign <;> simp_all

theorem coefficients_of_value_eq (same : spelling.numeral.value = other.numeral.value) :
    spelling.coefficient * 10 ^ other.decimals.length = other.coefficient * 10 ^ spelling.decimals.length := by
  have magnitudes := congrArg abs same
  rw [abs_value, abs_value, div_eq_div_iff (by positivity) (by positivity)] at magnitudes
  exact_mod_cast magnitudes

/-- A fraction that does not end with a zero is no longer than it has to be. -/
theorem IsReduced.length_decimals_le (reduced : spelling.IsReduced) (same : spelling.numeral.value = other.numeral.value) :
    spelling.decimals.length ≤ other.decimals.length := by
  by_contra longer
  obtain ⟨more, length⟩ := Nat.exists_eq_add_of_lt (not_le.mp longer)
  have digits := spelling.decimals_digits
  have no_zero := reduced.no_trailing_zero
  have coefficients := coefficients_of_value_eq same
  rw [length, Nat.add_assoc, Nat.pow_add, Nat.mul_left_comm, Nat.mul_comm, Nat.mul_right_inj (by positivity)] at coefficients
  have divided : spelling.coefficient % 10 = 0 := by
    rw [coefficients, Nat.pow_succ, ← Nat.mul_assoc, Nat.mul_mod_left]
  rcases List.eq_nil_or_concat' spelling.decimals with empty | ⟨front, last, ends⟩
  · rw [empty] at length
    simp at length
  · rw [ends] at digits no_zero
    have digit : last.isDigit = true := digits last (by simp)
    rw [coefficient, ends, ← List.append_assoc, Nat.ofDigitChars_append, Nat.ofDigitChars_cons, Nat.ofDigitChars_nil,
      Nat.mul_add_mod, Nat.mod_eq_of_lt (digit_lt digit)] at divided
    exact no_zero (by simp [eq_zero_of_digit digit divided])

theorem IsReduced.tail_eq (reduced : spelling.IsReduced) :
    spelling.tail = if spelling.decimals = [] then [] else '.' :: spelling.decimals := by
  have bare := reduced.no_bare_point
  unfold tail decimals
  cases fraction : spelling.fraction with
  | none => rfl
  | some digits =>
    have filled : digits ≠ [] := by
      rintro rfl
      exact bare fraction
    exact (if_neg filled).symm

/-- Reduced spellings of one number are the same. -/
theorem IsReduced.text_eq_of_value_eq (reduced : spelling.IsReduced) (other_reduced : other.IsReduced)
    (same : spelling.numeral.value = other.numeral.value) : spelling.text = other.text := by
  have lengths : spelling.decimals.length = other.decimals.length :=
    Nat.le_antisymm (reduced.length_decimals_le same) (other_reduced.length_decimals_le same.symm)
  have coefficients := coefficients_of_value_eq same
  rw [lengths, Nat.mul_left_inj (by positivity), coefficient_eq, coefficient_eq, lengths] at coefficients
  have small := ofDigitChars_lt spelling.decimals_digits
  have other_small := ofDigitChars_lt other.decimals_digits
  rw [lengths] at small
  have wholes : Nat.ofDigitChars 10 spelling.whole 0 = Nat.ofDigitChars 10 other.whole 0 := by
    have quotient := congrArg (· / 10 ^ other.decimals.length) coefficients
    simpa [Nat.mul_add_div, Nat.div_eq_of_lt small, Nat.div_eq_of_lt other_small] using quotient
  have fractions : Nat.ofDigitChars 10 spelling.decimals 0 = Nat.ofDigitChars 10 other.decimals 0 := by
    rw [wholes] at coefficients
    exact Nat.add_left_cancel coefficients
  have whole_length : spelling.whole.length = other.whole.length := Nat.le_antisymm
    (length_le_of_no_leading_zero other.whole_digits spelling.whole_digits other.filled reduced.no_leading_zero wholes.symm)
    (length_le_of_no_leading_zero spelling.whole_digits other.whole_digits spelling.filled other_reduced.no_leading_zero wholes)
  have whole : spelling.whole = other.whole := ofDigitChars_inj spelling.whole_digits other.whole_digits whole_length wholes
  have decimals : spelling.decimals = other.decimals :=
    ofDigitChars_inj spelling.decimals_digits other.decimals_digits lengths fractions
  rw [text, text, reduced.tail_eq, other_reduced.tail_eq, reduced.sign_eq other_reduced same, whole, decimals]

end Spelling

variable {text : String} {number : ℚ}

/-- The positional numerals of a number that are as short as possible are its reduced spelling. -/
theorem isShortest_iff : IsShortest number text ↔ Denotes text number ∧ IsReduced text := by
  constructor
  · rintro ⟨denotes, ⟨spelling, rfl⟩, least⟩
    refine ⟨denotes, spelling, ?_, rfl⟩
    by_contra superfluous
    obtain ⟨shorter, value, length⟩ := Spelling.exists_shorter superfluous
    have denoted : Denotes shorter.text number :=
      Spelling.denotes_text_iff.mpr (value.trans (Spelling.denotes_text_iff.mp denotes))
    exact absurd (least _ denoted ⟨shorter, rfl⟩) (not_le.mpr length)
  · rintro ⟨denotes, spelling, reduced, rfl⟩
    refine ⟨denotes, ⟨spelling, rfl⟩, ?_⟩
    rintro _ other_denotes ⟨other, rfl⟩
    -- Leaving out what is superfluous ends at a reduced spelling, and there is only one.
    induction size : other.text.length using Nat.strong_induction_on generalizing other with
    | _ size ends =>
      subst size
      rw [Spelling.denotes_text_iff] at other_denotes
      by_cases other_reduced : other.IsReduced
      · rw [reduced.text_eq_of_value_eq other_reduced ((Spelling.denotes_text_iff.mp denotes).trans other_denotes.symm)]
      · obtain ⟨shorter, value, length⟩ := Spelling.exists_shorter other_reduced
        have denoted := Spelling.denotes_text_iff.mpr (value.trans other_denotes)
        exact (ends _ length shorter denoted rfl).trans length.le

theorem IsShortest.text_eq {other : String} (shortest : IsShortest number text) (other_shortest : IsShortest number other) :
    text = other := by
  obtain ⟨denotes, spelling, reduced, rfl⟩ := isShortest_iff.mp shortest
  obtain ⟨other_denotes, other, other_reduced, rfl⟩ := isShortest_iff.mp other_shortest
  rw [Spelling.denotes_text_iff] at denotes other_denotes
  exact reduced.text_eq_of_value_eq other_reduced (denotes.trans other_denotes.symm)

end Tablesmith.Number
