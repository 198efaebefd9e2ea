import Mathlib
import Tablesmith.Number.Binary64
import Tablesmith.Proofs.Number.Spelling

/-!
# Printed numbers are reduced

Every number with finitely many decimals has a reduced spelling, the text of its decimal
(`Decimal.exists_spelling`). So the texts of doubles and integers are reduced, except that
a zero may keep a minus sign (`Binary64.isReduced_text`, `isReduced_showInt`).
-/

namespace Tablesmith.Number

variable {n fuel : Nat} {decimal : Decimal} {negative : Bool}

/-- The number that a decimal is. -/
def Decimal.value (decimal : Decimal) : ℚ :=
  decimal.coefficient * 10 ^ decimal.power

/-- The sign of a number. -/
def Sign.ofNegative (negative : Bool) : Sign :=
  if negative then .minus else .none

theorem toList_signed (negative : Bool) (text : String) :
    (signed negative text).toList = (Sign.ofNegative negative).chars ++ text.toList := by
  cases negative with
  | false => rfl
  | true => exact String.toList_append

theorem isDigit_of_mem_digits {c : Char} (member : c ∈ Nat.toDigits 10 n) : c.isDigit = true :=
  Nat.isDigit_of_mem_toDigits (by decide) (by decide) member

theorem head?_digits (nonzero : n ≠ 0) : (Nat.toDigits 10 n).head? ≠ some '0' := by
  intro leading
  obtain ⟨rest, digits⟩ := List.head?_eq_some_iff.mp leading
  have value := Nat.ofDigitChars_ten_toDigits (n := n)
  have rest_digits : ∀ c ∈ rest, c.isDigit = true := fun c member =>
    isDigit_of_mem_digits (digits ▸ List.mem_cons_of_mem '0' member)
  have small : n < 10 ^ rest.length := by
    have rest_lt := ofDigitChars_lt rest_digits
    rwa [← value, digits, ofDigitChars_cons_zero, Nat.sub_self, Nat.mul_zero, Nat.zero_add]
  have some_rest : 0 < rest.length := by
    by_contra none
    rw [Nat.eq_zero_of_not_pos none] at small
    omega
  have short := digitCount_le some_rest small
  rw [digitCount, digits, List.length_cons] at short
  omega

theorem getLast?_digits (reduced : n % 10 ≠ 0) : (Nat.toDigits 10 n).getLast? ≠ some '0' := by
  intro trailing
  obtain ⟨front, digits⟩ := List.getLast?_eq_some_iff.mp trailing
  have value := Nat.ofDigitChars_ten_toDigits (n := n)
  rw [digits, Nat.ofDigitChars_append] at value
  have tens : 10 * Nat.ofDigitChars 10 front 0 = n := value
  omega

namespace Decimal

theorem dropZeros_value (fuel : Nat) (decimal : Decimal) : (decimal.dropZeros fuel).value = decimal.value := by
  induction fuel generalizing decimal with
  | zero => rfl
  | succ fuel ih =>
    unfold dropZeros
    split_ifs with trailing
    · have tens : (decimal.coefficient : ℚ) = 10 * (decimal.coefficient / 10 : Nat) := by
        exact_mod_cast (Nat.mul_div_cancel' (Nat.dvd_of_mod_eq_zero trailing.1)).symm
      rw [ih, value, value, tens, zpow_add_one₀ (by norm_num)]
      ring
    · rfl

/-- The fuel suffices if it is as large as the number of digits. -/
theorem dropZeros_mod (nonzero : decimal.coefficient ≠ 0) (enough : decimal.coefficient < 10 ^ fuel) :
    (decimal.dropZeros fuel).coefficient % 10 ≠ 0 := by
  induction fuel generalizing decimal with
  | zero => omega
  | succ fuel ih =>
    unfold dropZeros
    split_ifs with trailing
    · refine ih ?_ ?_
      · show decimal.coefficient / 10 ≠ 0
        omega
      · show decimal.coefficient / 10 < 10 ^ fuel
        rw [Nat.pow_succ] at enough
        omega
    · exact fun zero => trailing ⟨zero, nonzero⟩

theorem lt_digitCount (n : Nat) : n < 10 ^ digitCount n :=
  (Nat.length_toDigits_le_iff (by decide) (List.length_pos_iff.mpr Nat.toDigits_ne_nil)).mp le_rfl

/-- With or without a minus in front, the text is a reduced spelling. -/
def IsSpelledBy (decimal : Decimal) (text : String) : Prop :=
  ∀ negative, ∃ spelling : Spelling, spelling.IsReduced ∧ spelling.text = signed negative text ∧
    spelling.numeral.value = (if negative then -1 else 1) * decimal.value

theorem IsSpelledBy.of_value_eq {other : Decimal} {text : String} (spelled : other.IsSpelledBy text)
    (same : other.value = decimal.value) : decimal.IsSpelledBy text := by
  intro negative
  rw [← same]
  exact spelled negative

theorem isSpelledBy_of_parts (nonzero : decimal.coefficient ≠ 0) (parts : Spelling) (unsigned : parts.sign = .none)
    (leading : parts.whole.head? = some '0' → parts.whole = ['0']) (bare : parts.fraction ≠ some [])
    (trailing : parts.decimals.getLast? ≠ some '0') (value : parts.coefficient = decimal.value * 10 ^ parts.decimals.length) :
    decimal.IsSpelledBy parts.text := by
  intro negative
  have some_coefficient : parts.coefficient ≠ 0 := by
    intro zero
    rw [zero, Nat.cast_zero, zero_eq_mul, Decimal.value, mul_eq_zero] at value
    rcases value with (zero | power) | power
    · exact nonzero (by exact_mod_cast zero)
    · exact absurd power (by positivity)
    · exact absurd power (by positivity)
  refine ⟨{ parts with sign := Sign.ofNegative negative }, ⟨?_, fun _ => some_coefficient, leading, bare, trailing⟩, ?_, ?_⟩
  · cases negative <;> exact Sign.noConfusion
  · apply String.toList_injective
    rw [toList_signed, Spelling.text, Spelling.text, String.toList_ofList, String.toList_ofList, unsigned]
    rfl
  · have quotient : (parts.coefficient : ℚ) / 10 ^ parts.decimals.length = decimal.value := by
      rw [value, mul_div_assoc, div_self (by positivity), mul_one]
    rw [Spelling.value_eq]
    cases negative
    · exact congrArg (1 * ·) quotient
    · exact congrArg (-1 * ·) quotient

theorem isDigit_of_mem_zeros {c : Char} (member : c ∈ List.replicate n '0') : c.isDigit = true := by
  rw [List.eq_of_mem_replicate member]
  rfl

theorem isSpelledBy_whole (power : Nat) (nonzero : n ≠ 0) :
    IsSpelledBy ⟨n, power⟩ (String.ofList (Nat.toDigits 10 n ++ List.replicate power '0')) := by
  have digits : ∀ c ∈ Nat.toDigits 10 n ++ List.replicate power '0', c.isDigit = true := by
    intro c member
    exact (List.mem_append.mp member).elim isDigit_of_mem_digits isDigit_of_mem_zeros
  have filled : Nat.toDigits 10 n ++ List.replicate power '0' ≠ [] := List.append_ne_nil_of_left_ne_nil Nat.toDigits_ne_nil _
  let parts : Spelling := ⟨.none, Nat.toDigits 10 n ++ List.replicate power '0', none, filled, digits, nofun⟩
  have text : parts.text = String.ofList (Nat.toDigits 10 n ++ List.replicate power '0') :=
    congrArg String.ofList (List.append_nil _)
  rw [← text]
  refine isSpelledBy_of_parts nonzero parts rfl ?_ nofun nofun ?_
  · intro leading
    rw [List.head?_append_of_ne_nil _ Nat.toDigits_ne_nil] at leading
    exact absurd leading (head?_digits nonzero)
  · have coefficient : parts.coefficient = 10 ^ power * n := by
      rw [Spelling.coefficient, show parts.whole ++ parts.decimals = _ from List.append_nil _, Nat.ofDigitChars_append,
        Nat.ofDigitChars_ten_toDigits, Nat.ofDigitChars_replicate_zero]
    rw [coefficient, value]
    simp [parts, Spelling.decimals, mul_comm]

theorem isSpelledBy_fraction {front digits : List Char} {power : Nat} (front_filled : front ≠ [])
    (front_digits : ∀ c ∈ front, c.isDigit = true) (all_digits : ∀ c ∈ digits, c.isDigit = true)
    (leading : front.head? = some '0' → front = ['0']) (trailing : digits.getLast? ≠ some '0')
    (length : digits.length = power + 1) (written : Nat.ofDigitChars 10 (front ++ digits) 0 = n) (nonzero : n ≠ 0) :
    IsSpelledBy ⟨n, Int.negSucc power⟩ (String.ofList (front ++ '.' :: digits)) := by
  have filled : digits ≠ [] := List.ne_nil_of_length_eq_add_one length
  refine isSpelledBy_of_parts nonzero ⟨.none, front, some digits, front_filled, front_digits, all_digits⟩ rfl leading ?_ trailing
    ?_
  · rintro ⟨⟩
    exact filled rfl
  · simp only [Spelling.coefficient, Spelling.decimals, Option.getD_some, written, length, value, zpow_negSucc]
    field_simp

theorem isSpelledBy_small (zeros : Nat) (no_zero : n % 10 ≠ 0) {power : Nat}
    (length : zeros + (Nat.toDigits 10 n).length = power + 1) : IsSpelledBy ⟨n, Int.negSucc power⟩
      (String.ofList ('0' :: '.' :: (List.replicate zeros '0' ++ Nat.toDigits 10 n))) := by
  have some_digits : n ≠ 0 := by
    rintro rfl
    exact no_zero rfl
  have front_digits : ∀ c ∈ ['0'], c.isDigit = true := List.forall_mem_cons.mpr ⟨by decide, List.forall_mem_nil _⟩
  have all_digits : ∀ c ∈ List.replicate zeros '0' ++ Nat.toDigits 10 n, c.isDigit = true := by
    intro c member
    exact (List.mem_append.mp member).elim isDigit_of_mem_zeros isDigit_of_mem_digits
  have trailing : (List.replicate zeros '0' ++ Nat.toDigits 10 n).getLast? ≠ some '0' := by
    rw [List.getLast?_append_of_ne_nil _ Nat.toDigits_ne_nil]
    exact getLast?_digits no_zero
  have written : Nat.ofDigitChars 10 (['0'] ++ (List.replicate zeros '0' ++ Nat.toDigits 10 n)) 0 = n := by
    rw [List.singleton_append, ← List.cons_append, ← List.replicate_succ, Nat.ofDigitChars_append,
      Nat.ofDigitChars_replicate_zero, Nat.mul_zero, Nat.ofDigitChars_ten_toDigits]
  refine isSpelledBy_fraction (List.cons_ne_nil _ _) front_digits all_digits (fun _ => rfl) trailing ?_ written some_digits
  rw [List.length_append, List.length_replicate, length]

theorem isSpelledBy_mixed (point : Nat) (no_zero : n % 10 ≠ 0) {power : Nat} (some_whole : 0 < point)
    (length : (Nat.toDigits 10 n).length = point + (power + 1)) : IsSpelledBy ⟨n, Int.negSucc power⟩
      (String.ofList ((Nat.toDigits 10 n).take point ++ '.' :: (Nat.toDigits 10 n).drop point)) := by
  have some_digits : n ≠ 0 := by
    rintro rfl
    exact no_zero rfl
  have front_filled : (Nat.toDigits 10 n).take point ≠ [] := by
    rw [Ne, List.take_eq_nil_iff]
    exact not_or.mpr ⟨some_whole.ne', Nat.toDigits_ne_nil⟩
  have leading : ((Nat.toDigits 10 n).take point).head? = some '0' → (Nat.toDigits 10 n).take point = ['0'] := by
    intro zero
    rw [List.head?_take, if_neg some_whole.ne'] at zero
    exact absurd zero (head?_digits some_digits)
  have trailing : ((Nat.toDigits 10 n).drop point).getLast? ≠ some '0' := by
    rw [List.getLast?_drop, if_neg (by omega)]
    exact getLast?_digits no_zero
  have written : Nat.ofDigitChars 10 ((Nat.toDigits 10 n).take point ++ (Nat.toDigits 10 n).drop point) 0 = n := by
    rw [List.take_append_drop, Nat.ofDigitChars_ten_toDigits]
  refine isSpelledBy_fraction front_filled (fun c member => isDigit_of_mem_digits (List.mem_of_mem_take member))
    (fun c member => isDigit_of_mem_digits (List.mem_of_mem_drop member)) leading trailing ?_ written some_digits
  rw [List.length_drop, length, Nat.add_sub_cancel_left]

/-- The text of a decimal other than zero is a reduced spelling of it. -/
theorem isSpelledBy_text (nonzero : decimal.coefficient ≠ 0) : decimal.IsSpelledBy decimal.text := by
  have no_zero := dropZeros_mod nonzero (lt_digitCount decimal.coefficient)
  refine IsSpelledBy.of_value_eq ?_ (dropZeros_value (digitCount decimal.coefficient) decimal)
  unfold text
  generalize decimal.dropZeros (digitCount decimal.coefficient) = reduced at no_zero
  obtain ⟨n, power⟩ := reduced
  dsimp only at no_zero ⊢
  cases power with
  | ofNat power =>
    have whole : 0 ≤ Int.ofNat power := Int.natCast_nonneg power
    rw [if_pos whole]
    refine isSpelledBy_whole power ?_
    rintro rfl
    exact no_zero rfl
  | negSucc power =>
    rw [if_neg (by omega)]
    by_cases small : ((Nat.toDigits 10 n).length : Int) + Int.negSucc power ≤ 0
    · rw [if_pos small]
      exact isSpelledBy_small _ no_zero (by omega)
    · rw [if_neg small]
      exact isSpelledBy_mixed _ no_zero (by omega) (by omega)

end Decimal

theorem isReduced_zero : IsReduced "0" :=
  ⟨⟨.none, ['0'], none, List.cons_ne_nil _ _, by simp, List.forall_mem_nil _⟩, ⟨nofun, nofun, fun _ => rfl, nofun, nofun⟩, rfl⟩

theorem tenfold_pos (n : Nat) (power : Int) : 0 < (tenfold n power).2 := by
  cases power with
  | ofNat power => exact Nat.one_pos
  | negSucc power => exact Nat.pow_pos (by decide)

theorem ratio_one_pos (exponent : Int) : 0 < (Binary64.ratio 1 exponent).1 := by
  unfold Binary64.ratio
  cases -exponent with
  | ofNat power => exact Nat.one_pos
  | negSucc power => exact Nat.mul_pos Nat.one_pos (Nat.pow_pos Nat.two_pos)

/-- Zero is not among the numbers that round to a positive double. -/
theorem contains_ne_zero {mantissa : Nat} {exponent : Int} (positive : mantissa ≠ 0)
    (contained : (RoundingInterval.of mantissa exponent).contains decimal = true) : decimal.coefficient ≠ 0 := by
  intro zero
  have some_low : 0 < (RoundingInterval.of mantissa exponent).low * (tenfold decimal.coefficient decimal.power).2 := by
    refine Nat.mul_pos (Nat.mul_pos ?_ (ratio_one_pos _)) (tenfold_pos _ _)
    split_ifs <;> omega
  have no_place : (tenfold decimal.coefficient decimal.power).1 = 0 := by
    rw [zero]
    cases decimal.power with
    | ofNat power => exact Nat.zero_mul _
    | negSucc power => rfl
  simp only [RoundingInterval.contains, no_place, Nat.zero_mul, Nat.le_zero, some_low.ne', Nat.not_lt_zero, decide_false,
    Bool.false_and, ite_self, Bool.false_eq_true] at contained

theorem contains_of_nearest? {interval : RoundingInterval} {power : Int} (taken : interval.nearest? power = some decimal) :
    interval.contains decimal = true := by
  unfold RoundingInterval.nearest? at taken
  dsimp only at taken
  split at taken
  · next lower upper =>
    obtain rfl := Option.some_inj.mp taken
    split_ifs
    · exact lower
    · exact upper
  · next lower _ =>
    obtain rfl := Option.some_inj.mp taken
    exact lower
  · next _ upper =>
    obtain rfl := Option.some_inj.mp taken
    exact upper
  · cases taken

theorem shortestDecimal_ne_zero {mantissa : Nat} (positive : mantissa ≠ 0) (exponent : Int) :
    (shortestDecimal mantissa exponent).coefficient ≠ 0 := by
  unfold shortestDecimal
  dsimp only
  generalize found : List.findSome? _ _ = nearest
  cases nearest with
  | none => exact positive
  | some nearest =>
    obtain ⟨count, -, taken⟩ := List.exists_of_findSome?_eq_some found
    exact contains_ne_zero positive (contains_of_nearest? taken)

theorem isReduced_signed {text : String} (spelled : decimal.IsSpelledBy text) (negative : Bool) :
    IsReduced (signed negative text) := by
  obtain ⟨spelling, reduced, written, -⟩ := spelled negative
  exact ⟨spelling, reduced, written⟩

/-- The text of a double is reduced, if it is a numeral and not that of the negative zero. -/
theorem Binary64.isReduced_text {double : Binary64} {number : ℚ} (denotes : Denotes double.text number)
    (no_minus_zero : double.text ≠ "-0") : IsReduced double.text := by
  unfold Binary64.text at denotes no_minus_zero ⊢
  split at denotes
  · obtain ⟨numeral, read, -⟩ := denotes
    cases read
  · next negative =>
    obtain ⟨numeral, read, -⟩ := denotes
    cases negative <;> cases read
  · next negative _ =>
    cases negative with
    | false => exact isReduced_zero
    | true => exact absurd rfl no_minus_zero
  · next negative mantissa exponent positive =>
    exact isReduced_signed (Decimal.isSpelledBy_text (shortestDecimal_ne_zero positive exponent)) negative

theorem showNat_isSpelledBy (nonzero : n ≠ 0) : Decimal.IsSpelledBy ⟨n, 0⟩ (showNat n) := by
  have spelled := Decimal.isSpelledBy_whole 0 nonzero
  rwa [List.replicate_zero, List.append_nil] at spelled

theorem isReduced_showInt (value : Int) : IsReduced (showInt value) := by
  cases value with
  | ofNat n =>
    rcases Nat.eq_zero_or_pos n with rfl | positive
    · exact isReduced_zero
    · exact isReduced_signed (showNat_isSpelledBy positive.ne') false
  | negSucc n => exact isReduced_signed (showNat_isSpelledBy n.succ_ne_zero) true

/-- Every number that a numeral denotes has a shortest positional numeral. -/
theorem exists_isShortest (numeral : Numeral) : ∃ text, IsShortest numeral.value text := by
  by_cases zero : numeral.coefficient = 0
  · refine ⟨"0", isShortest_iff.mpr ⟨⟨⟨false, 0, 0⟩, rfl, ?_⟩, isReduced_zero⟩⟩
    simp [Numeral.value, zero]
  · have nonzero : (Decimal.mk numeral.coefficient numeral.exponent).coefficient ≠ 0 := zero
    obtain ⟨spelling, reduced, -, value⟩ := Decimal.isSpelledBy_text nonzero numeral.negative
    exact ⟨spelling.text, isShortest_iff.mpr ⟨Spelling.denotes_text_iff.mpr value, spelling, reduced, rfl⟩⟩

end Tablesmith.Number
