import Mathlib
import Tablesmith.Number.Numeral

/-!
# Decimal digits

What a run of digits says, and that it is the only one of its length that says so:
a field of fixed width holds a number exactly if it is the number, padded with
zeros (`readDigits?_field`). Digits with or without a sign are a numeral without a point
and without an exponent (`read?_eq_some_of_isSigned`). A numeral below a bound is below
every larger one (`Numeral.below_mono`), and a whole number that is smaller than the bound
is below it however many zeros it is written with (`Numeral.below_of_lt`).
-/

namespace Tablesmith.Number

open Text

variable {chars left right rest : List Char} {n width bits : Nat}

theorem digitsValue_eq (digits : List Char) : digitsValue digits = Nat.ofDigitChars 10 digits 0 := rfl

theorem isAsciiDigit_eq (c : Char) : isAsciiDigit c = c.isDigit := by
  simp only [isAsciiDigit, Char.isDigit, Char.le_def, ge_iff_le]

theorem readDigits?_eq_some_iff : readDigits? chars = some n ↔
    chars ≠ [] ∧ (∀ c ∈ chars, c.isDigit = true) ∧ Nat.ofDigitChars 10 chars 0 = n := by
  simp only [readDigits?, Option.ite_none_right_eq_some, List.all_eq_true, isAsciiDigit_eq, digitsValue_eq, Option.some.injEq,
    and_assoc]

theorem digit_lt {c : Char} (digit : c.isDigit = true) : c.toNat - '0'.toNat < 10 := by
  simp only [Char.isDigit, Bool.and_eq_true, decide_eq_true_eq, UInt32.le_iff_toNat_le] at digit
  have high : c.toNat ≤ 57 := digit.2
  have zero : '0'.toNat = 48 := rfl
  omega

theorem digit_inj {c d : Char} (digit : c.isDigit = true) (other : d.isDigit = true)
    (same : c.toNat - '0'.toNat = d.toNat - '0'.toNat) : c = d := by
  simp only [Char.isDigit, Bool.and_eq_true, decide_eq_true_eq, ge_iff_le, UInt32.le_iff_toNat_le] at digit other
  have low : 48 ≤ c.toNat := digit.1
  have other_low : 48 ≤ d.toNat := other.1
  have zero : '0'.toNat = 48 := rfl
  rw [← Char.toNat_inj]
  omega

theorem ofDigitChars_cons_zero (c : Char) (rest : List Char) :
    Nat.ofDigitChars 10 (c :: rest) 0 = 10 ^ rest.length * (c.toNat - '0'.toNat) + Nat.ofDigitChars 10 rest 0 := by
  rw [Nat.ofDigitChars_cons, Nat.ofDigitChars_eq_ofDigitChars_zero, Nat.mul_zero, Nat.zero_add]

theorem ofDigitChars_lt (digits : ∀ c ∈ chars, c.isDigit = true) : Nat.ofDigitChars 10 chars 0 < 10 ^ chars.length := by
  induction chars with
  | nil => simp
  | cons c rest ih =>
    obtain ⟨digit, rest_digits⟩ := List.forall_mem_cons.mp digits
    have rest_lt := ih rest_digits
    have first_lt := digit_lt digit
    have first_le : 10 ^ rest.length * (c.toNat - '0'.toNat) ≤ 10 ^ rest.length * 9 := Nat.mul_le_mul_left _ (by omega)
    rw [ofDigitChars_cons_zero, List.length_cons, Nat.pow_succ]
    omega

/-- Runs of digits of one length that say the same are the same. -/
theorem ofDigitChars_inj (left_digits : ∀ c ∈ left, c.isDigit = true) (right_digits : ∀ c ∈ right, c.isDigit = true)
    (same_length : left.length = right.length) (same : Nat.ofDigitChars 10 left 0 = Nat.ofDigitChars 10 right 0) :
    left = right := by
  induction left generalizing right with
  | nil => exact (List.length_eq_zero_iff.mp same_length.symm).symm
  | cons c left ih =>
    obtain _ | ⟨d, right⟩ := right
    · cases same_length
    · obtain ⟨digit, left_rest⟩ := List.forall_mem_cons.mp left_digits
      obtain ⟨other, right_rest⟩ := List.forall_mem_cons.mp right_digits
      have lengths : left.length = right.length := by simpa using same_length
      rw [ofDigitChars_cons_zero, ofDigitChars_cons_zero, lengths] at same
      have left_lt := ofDigitChars_lt left_rest
      rw [lengths] at left_lt
      have right_lt := ofDigitChars_lt right_rest
      have first : c.toNat - '0'.toNat = d.toNat - '0'.toNat := by
        have quotient := congrArg (· / 10 ^ right.length) same
        simpa [Nat.mul_add_div, Nat.div_eq_of_lt left_lt, Nat.div_eq_of_lt right_lt] using quotient
      have others : Nat.ofDigitChars 10 left 0 = Nat.ofDigitChars 10 right 0 := by
        rw [first] at same
        exact Nat.add_left_cancel same
      rw [digit_inj digit other first, ih left_rest right_rest lengths others]

theorem toList_showPadded (width n : Nat) : (showPadded width n).toList =
    List.replicate (width - (Nat.toDigits 10 n).length) '0' ++ Nat.toDigits 10 n :=
  String.toList_ofList

theorem isDigit_of_mem_showPadded {c : Char} (member : c ∈ (showPadded width n).toList) : c.isDigit = true := by
  rw [toList_showPadded, List.mem_append] at member
  rcases member with padding | digit
  · rw [List.eq_of_mem_replicate padding]
    rfl
  · exact Nat.isDigit_of_mem_toDigits (by decide) (by decide) digit

theorem readDigits?_showPadded (width n : Nat) : readDigits? (showPadded width n).toList = some n := by
  rw [readDigits?_eq_some_iff]
  refine ⟨?_, fun c => isDigit_of_mem_showPadded, ?_⟩
  · simp [toList_showPadded, Nat.toDigits_ne_nil]
  · rw [toList_showPadded, Nat.ofDigitChars_append, Nat.ofDigitChars_replicate_zero, Nat.mul_zero, Nat.ofDigitChars_ten_toDigits]

theorem length_showPadded (some_width : 0 < width) (small : n < 10 ^ width) : (showPadded width n).toList.length = width := by
  have fits := (Nat.length_toDigits_le_iff (b := 10) (by decide) some_width).mpr small
  rw [toList_showPadded, List.length_append, List.length_replicate]
  omega

/-- A field of fixed width holds a number exactly if it is that number with zeros in front. -/
theorem readDigits?_field (some_width : 0 < width) (wide : chars.length = width) :
    readDigits? chars = some n ↔ n < 10 ^ width ∧ chars = (showPadded width n).toList := by
  constructor
  · intro read
    obtain ⟨_, digits, rfl⟩ := readDigits?_eq_some_iff.mp read
    have small := ofDigitChars_lt digits
    rw [wide] at small
    obtain ⟨_, _, padded⟩ := readDigits?_eq_some_iff.mp (readDigits?_showPadded width (Nat.ofDigitChars 10 chars 0))
    refine ⟨small, ofDigitChars_inj digits (fun c => isDigit_of_mem_showPadded) ?_ padded.symm⟩
    rw [wide, length_showPadded some_width small]
  · rintro ⟨_, rfl⟩
    exact readDigits?_showPadded width n

theorem showPadded_two (small : n < 100) : ∃ tens ones, (showPadded 2 n).toList = [tens, ones] :=
  List.length_eq_two.mp (length_showPadded (by decide) small)

/-- Digits with or without a sign that write a number of so many bits. -/
def IsSigned (bits : Nat) (chars : List Char) : Prop :=
  ∃ sign digits, chars = sign ++ digits ∧ digits ≠ [] ∧ (∀ c ∈ digits, c.isDigit = true) ∧
    ((sign = [] ∨ sign = ['+']) ∧ Nat.ofDigitChars 10 digits 0 < 2 ^ (bits - 1) ∨
      sign = ['-'] ∧ Nat.ofDigitChars 10 digits 0 ≤ 2 ^ (bits - 1))

theorem isSome_filter_readDigits?_iff {keep : Nat → Bool} : ((readDigits? chars).filter keep).isSome = true ↔
    chars ≠ [] ∧ (∀ c ∈ chars, c.isDigit = true) ∧ keep (Nat.ofDigitChars 10 chars 0) = true := by
  rw [Option.isSome_iff_exists]
  constructor
  · rintro ⟨n, kept⟩
    obtain ⟨read, keeps⟩ := Option.filter_eq_some_iff.mp kept
    obtain ⟨filled, digits, rfl⟩ := readDigits?_eq_some_iff.mp read
    exact ⟨filled, digits, keeps⟩
  · rintro ⟨filled, digits, keeps⟩
    exact ⟨_, Option.filter_eq_some_iff.mpr ⟨readDigits?_eq_some_iff.mpr ⟨filled, digits, rfl⟩, keeps⟩⟩

theorem not_sign_of_isDigit {c : Char} (digit : c.isDigit = true) : c ≠ '+' ∧ c ≠ '-' := by
  constructor
  · rintro rfl
    exact absurd digit (by decide)
  · rintro rfl
    exact absurd digit (by decide)

/-- Behind a sign there are only digits, so the first character tells which sign there is. -/
theorem isSigned_minus_iff : IsSigned bits ('-' :: rest) ↔
    rest ≠ [] ∧ (∀ c ∈ rest, c.isDigit = true) ∧ Nat.ofDigitChars 10 rest 0 ≤ 2 ^ (bits - 1) := by
  constructor
  · rintro ⟨sign, digits, parts, filled, all_digits, ⟨rfl | rfl, _⟩ | ⟨rfl, bound⟩⟩
    · subst parts
      exact absurd rfl (not_sign_of_isDigit (all_digits _ List.mem_cons_self)).2
    · cases parts
    · cases parts
      exact ⟨filled, all_digits, bound⟩
  · rintro ⟨filled, all_digits, bound⟩
    exact ⟨['-'], rest, rfl, filled, all_digits, Or.inr ⟨rfl, bound⟩⟩

theorem dropPlus_eq_iff {digits : List Char} (all_digits : ∀ c ∈ digits, c.isDigit = true) :
    dropPlus chars = digits ↔ chars = digits ∨ chars = '+' :: digits := by
  unfold dropPlus
  split
  · next rest =>
    have not_digits : '+' :: rest ≠ digits := by
      rintro rfl
      exact absurd (all_digits '+' List.mem_cons_self) (by decide)
    simp [not_digits]
  · next no_plus => exact ⟨Or.inl, fun parts => parts.resolve_right (no_plus digits)⟩

theorem isSigned_dropPlus_iff (no_minus : chars.head? ≠ some '-') : IsSigned bits chars ↔
    dropPlus chars ≠ [] ∧ (∀ c ∈ dropPlus chars, c.isDigit = true) ∧
      Nat.ofDigitChars 10 (dropPlus chars) 0 < 2 ^ (bits - 1) := by
  constructor
  · rintro ⟨sign, digits, rfl, filled, all_digits, ⟨rfl | rfl, bound⟩ | ⟨rfl, _⟩⟩
    · rw [List.nil_append, (dropPlus_eq_iff all_digits).mpr (Or.inl rfl)]
      exact ⟨filled, all_digits, bound⟩
    · exact ⟨filled, all_digits, bound⟩
    · exact absurd rfl no_minus
  · rintro ⟨filled, all_digits, bound⟩
    obtain unsigned | plus := (dropPlus_eq_iff all_digits).mp rfl
    · exact ⟨[], _, unsigned, filled, all_digits, Or.inl ⟨Or.inl rfl, bound⟩⟩
    · exact ⟨['+'], _, plus, filled, all_digits, Or.inl ⟨Or.inr rfl, bound⟩⟩

theorem isSome_toInt (read : Option Nat) : (do let value ← read; pure (value : Int)).isSome = read.isSome := by
  cases read <;> rfl

theorem isSome_readSigned?_iff {text : String} : (readSigned? bits text).isSome = true ↔ IsSigned bits text.toList := by
  unfold readSigned?
  split
  · next rest starts =>
    rw [starts, isSigned_minus_iff, Option.isSome_map, isSome_toInt, isSome_filter_readDigits?_iff, decide_eq_true_eq, Nat.pow_eq]
  · next no_minus =>
    have head : text.toList.head? ≠ some '-' := by
      intro minus
      obtain ⟨rest, starts⟩ := List.head?_eq_some_iff.mp minus
      exact no_minus rest starts
    rw [isSigned_dropPlus_iff head, Option.isSome_map, isSome_toInt, isSome_filter_readDigits?_iff, decide_eq_true_eq, Nat.pow_eq]

/-- Digits behind a plus or behind nothing that write a number of 64 bits. -/
def WritesIndex (text : String) (index : Nat) : Prop :=
  ∃ digits, (text.toList = digits ∨ text.toList = '+' :: digits) ∧ digits ≠ [] ∧ (∀ c ∈ digits, c.isDigit = true) ∧
    Nat.ofDigitChars 10 digits 0 = index ∧ index < 2 ^ 64

theorem readIndex?_eq_some_iff {text : String} : readIndex? text = some n ↔ WritesIndex text n := by
  rw [readIndex?, readNatural?, Option.filter_eq_some_iff, readDigits?_eq_some_iff, decide_eq_true_eq, Nat.pow_eq]
  constructor
  · rintro ⟨⟨filled, all_digits, value⟩, bound⟩
    exact ⟨_, (dropPlus_eq_iff all_digits).mp rfl, filled, all_digits, value, bound⟩
  · rintro ⟨digits, written, filled, all_digits, value, bound⟩
    rw [(dropPlus_eq_iff all_digits).mpr written]
    exact ⟨⟨filled, all_digits, value⟩, bound⟩

variable {digits : List Char} {bound wider : Nat} {numeral : Numeral}

theorem takeWhile_digits (all_digits : ∀ c ∈ digits, c.isDigit = true) :
    digits.takeWhile isAsciiDigit = digits ∧ digits.dropWhile isAsciiDigit = [] := by
  constructor
  · exact List.takeWhile_eq_self_iff.mpr fun c member => (isAsciiDigit_eq c).trans (all_digits c member)
  · exact List.dropWhile_eq_nil_iff.mpr fun c member => (isAsciiDigit_eq c).trans (all_digits c member)

theorem IsSigned.mono {more : Nat} (fewer : bits ≤ more) (signed : IsSigned bits chars) : IsSigned more chars := by
  obtain ⟨sign, digits, parts, filled, all_digits, bounded⟩ := signed
  have powers : 2 ^ (bits - 1) ≤ 2 ^ (more - 1) := Nat.pow_le_pow_right (by decide) (by omega)
  refine ⟨sign, digits, parts, filled, all_digits, bounded.imp ?_ ?_⟩
  · exact fun unsigned => ⟨unsigned.1, unsigned.2.trans_le powers⟩
  · exact fun negative => ⟨negative.1, negative.2.trans powers⟩

/-- The sign is all that stands in front of the digits. -/
theorem takeSign_of_digits {sign : List Char} (signs : sign = [] ∨ sign = ['+'] ∨ sign = ['-']) (filled : digits ≠ [])
    (all_digits : ∀ c ∈ digits, c.isDigit = true) : (takeSign (sign ++ digits)).2 = digits := by
  rcases signs with rfl | rfl | rfl
  · cases digits with
    | nil => exact absurd rfl filled
    | cons c digits =>
      obtain ⟨no_plus, no_minus⟩ := not_sign_of_isDigit (all_digits c List.mem_cons_self)
      simp [takeSign, no_plus, no_minus]
  · rfl
  · rfl

theorem read?_eq_some_of_isSigned {text : String} (signed : IsSigned bits text.toList) :
    ∃ numeral, Numeral.read? text = some numeral ∧ numeral.exponent = 0 ∧ numeral.coefficient ≤ 2 ^ (bits - 1) := by
  obtain ⟨sign, digits, parts, filled, all_digits, bounded⟩ := signed
  have behind_sign : (takeSign text.toList).2 = digits := by
    rw [parts]
    refine takeSign_of_digits ?_ filled all_digits
    tauto
  have value_le : digitsValue digits ≤ 2 ^ (bits - 1) := by
    rw [digitsValue_eq]
    exact bounded.elim (fun unsigned => unsigned.2.le) (·.2)
  refine ⟨⟨(takeSign text.toList).1, digitsValue digits, 0⟩, ?_, rfl, value_le⟩
  obtain ⟨whole, rest⟩ := takeWhile_digits all_digits
  simp [Numeral.read?, behind_sign, whole, rest, takeFraction, readExponent?, filled]

theorem Numeral.below_mono (larger : bound ≤ wider) (below : numeral.below bound = true) : numeral.below wider = true := by
  simp only [Numeral.below] at below ⊢
  have positive (first : decide (0 < bound) = true) : decide (0 < wider) = true :=
    decide_eq_true ((of_decide_eq_true first).trans_le larger)
  by_cases zero : numeral.coefficient = 0
  · rw [if_pos zero] at below ⊢
    exact positive below
  · rw [if_neg zero] at below ⊢
    by_cases small : (digitCount numeral.coefficient : Int) + numeral.exponent < 0
    · rw [if_pos small] at below ⊢
      exact positive below
    · rw [if_neg small] at below ⊢
      by_cases large : magnitudeLimit < (digitCount numeral.coefficient : Int) + numeral.exponent
      · rw [if_pos large] at below
        cases below
      · rw [if_neg large] at below ⊢
        exact decide_eq_true ((of_decide_eq_true below).trans_le (Nat.mul_le_mul_right _ larger))

theorem digitCount_le {n count : Nat} (some_digits : 0 < count) (small : n < 10 ^ count) : digitCount n ≤ count :=
  (Nat.length_toDigits_le_iff (by decide) some_digits).mpr small

/-- A whole number below a bound is not too large to be compared. -/
theorem Numeral.below_of_lt (whole : numeral.exponent = 0) (small : numeral.coefficient < bound)
    (short : numeral.coefficient < 10 ^ 400) : numeral.below bound = true := by
  have some_bound : decide (0 < bound) = true := decide_eq_true (Nat.zero_lt_of_lt small)
  have digits : (digitCount numeral.coefficient : Int) ≤ magnitudeLimit := by
    rw [magnitudeLimit]
    exact_mod_cast digitCount_le (by decide) short
  unfold Numeral.below
  simp only [whole, add_zero]
  split_ifs
  · exact some_bound
  · exact some_bound
  · omega
  · refine decide_eq_true ?_
    show numeral.coefficient * Nat.pow 10 0 < bound * 1
    simpa using small

end Tablesmith.Number
