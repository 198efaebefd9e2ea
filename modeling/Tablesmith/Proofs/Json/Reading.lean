import Mathlib
import Tablesmith.Json.Reader
import Tablesmith.Proofs.Json.Grammar
import Tablesmith.Proofs.Number.Digits

/-!
# What is read

What is taken off a text as a string or as a number is written as the grammar asks, and what
is written so is taken; a string says the text that it is decoded to (`unescape?_eq_some_iff`).
So a text is read as a value exactly if it is a JSON text of that value (`read?_eq_some_iff`),
and no text is a text of two values.
-/

namespace Tablesmith.Json

open Number Text

variable {a b c d : Char} {n unit : Nat} {chars written rest : List Char}

instance (c : Char) (n : Nat) : Decidable (IsHexDigit c n) := inferInstanceAs (Decidable (_ ∨ _))

theorem toNat_lt_of_hexDigit? (digit : hexDigit? c = some n) : c.toNat < 128 := by
  by_contra high
  have above : ∀ last : Char, last.toNat < 128 → ¬ c ≤ last := by
    intro last small le
    have le_last : c.toNat ≤ last.toNat := le
    omega
  simp [hexDigit?, isAsciiDigit, above] at digit

/-- Among the characters that can be digits, looked at one by one. -/
theorem isHexDigit_of_lt_128 : ∀ code : Fin 128, ∀ n ∈ hexDigit? (Char.ofNat code), IsHexDigit (Char.ofNat code) n := by
  decide +kernel

theorem hexDigit?_of_isHexDigit (digit : IsHexDigit c n) : hexDigit? c = some n := by
  have small : ∀ pair ∈ "0123456789abcdef".toList.zipIdx, hexDigit? pair.1 = some pair.2 := by
    decide +kernel
  have capital : ∀ pair ∈ "0123456789ABCDEF".toList.zipIdx, hexDigit? pair.1 = some pair.2 := by
    decide +kernel
  rcases digit with digit | digit
  · exact small (c, n) (List.mk_mem_zipIdx_iff_getElem?.mpr digit)
  · exact capital (c, n) (List.mk_mem_zipIdx_iff_getElem?.mpr digit)

theorem hexDigit?_eq_some_iff : hexDigit? c = some n ↔ IsHexDigit c n := by
  refine ⟨fun digit => ?_, hexDigit?_of_isHexDigit⟩
  have known := isHexDigit_of_lt_128 ⟨c.toNat, toNat_lt_of_hexDigit? digit⟩ n
  rw [Char.ofNat_toNat] at known
  exact known digit

theorem codeUnit?_eq_some_iff : codeUnit? a b c d = some unit ↔ IsUnit a b c d unit := by
  simp only [codeUnit?, readHexDigits?, reduceCtorEq, if_false, List.foldlM_cons, List.foldlM_nil, Option.bind_eq_bind,
    Option.bind_eq_some_iff, Option.map_eq_some_iff, hexDigit?_eq_some_iff, IsUnit]
  grind

theorem shortEscape?_eq_some_iff : shortEscape? a = some c ↔ (a, c) ∈ shortEscapes := by
  have listed : ∀ pair ∈ shortEscapes, shortEscape? pair.1 = some pair.2 := by
    decide
  refine ⟨fun known => ?_, listed (a, c)⟩
  simp only [shortEscape?] at known
  simp only [shortEscapes, List.mem_cons, Prod.mk.injEq]
  split_ifs at known <;> grind

/-- What is taken behind a quote is the inside of a string. -/
theorem isBody_of_takeString? (taken : takeString? chars = some (written, rest)) :
    chars = written ++ '"' :: rest ∧ IsBody written := by
  fun_induction takeString? chars generalizing written with
  | case1 => cases taken
  | case2 rest' =>
    cases taken
    exact ⟨rfl, .nil⟩
  | case3 a b c d rest' known ih =>
    obtain ⟨⟨inner, after⟩, inner_taken, same⟩ := Option.map_eq_some_iff.mp taken
    cases same
    obtain ⟨rfl, body⟩ := ih inner_taken
    obtain ⟨unit, digits⟩ := Option.isSome_iff_exists.mp known
    exact ⟨rfl, .unit (codeUnit?_eq_some_iff.mp digits) body⟩
  | case4 => cases taken
  | case5 letter rest' _ known ih =>
    obtain ⟨⟨inner, after⟩, inner_taken, same⟩ := Option.map_eq_some_iff.mp taken
    cases same
    obtain ⟨rfl, body⟩ := ih inner_taken
    obtain ⟨c, escape⟩ := Option.isSome_iff_exists.mp known
    exact ⟨rfl, .short (shortEscape?_eq_some_iff.mp escape) body⟩
  | case6 => cases taken
  | case7 => cases taken
  | case8 c rest' no_quote _ _ plain ih =>
    obtain ⟨⟨inner, after⟩, inner_taken, same⟩ := Option.map_eq_some_iff.mp taken
    cases same
    obtain ⟨rfl, body⟩ := ih inner_taken
    have is_plain : IsPlain c := by
      unfold IsPlain
      grind
    exact ⟨rfl, .plain is_plain body⟩

theorem takeString?_of_isBody (body : IsBody written) (rest : List Char) :
    takeString? (written ++ '"' :: rest) = some (written, rest) := by
  induction body with
  | nil => rfl
  | plain is_plain _ ih =>
    obtain ⟨high, no_quote, no_escape⟩ := is_plain
    rw [List.cons_append, takeString?, if_neg (by grind), ih]
    · rfl
    · exact no_quote
    · rintro a b c d rest rfl
      contradiction
    · rintro letter rest rfl
      contradiction
  | short known _ ih =>
    have is_short := shortEscape?_eq_some_iff.mpr known
    rw [List.cons_append, List.cons_append, takeString?, is_short, ih]
    · rfl
    · rintro a b c d rest rfl
      simp [shortEscapes] at known
  | unit digits _ ih =>
    simp only [List.cons_append, takeString?, codeUnit?_eq_some_iff.mpr digits, ih]
    rfl

theorem plainUnit?_eq_some_iff : plainUnit? unit = some c ↔ (unit < 0xd800 ∨ 0xe000 ≤ unit) ∧ Char.ofNat unit = c := by
  grind [plainUnit?]

theorem plainUnit?_eq_none_iff : plainUnit? unit = none ↔ 0xd800 ≤ unit ∧ unit < 0xe000 := by
  grind [plainUnit?]

theorem pairedUnits?_eq_some_iff {leading trailing : Nat} : pairedUnits? leading trailing = some c ↔
    (0xd800 ≤ leading ∧ leading < 0xdc00) ∧ (0xdc00 ≤ trailing ∧ trailing < 0xe000) ∧
      Char.ofNat (0x10000 + (leading - 0xd800) * 0x400 + (trailing - 0xdc00)) = c := by
  grind [pairedUnits?]

theorem spells_of_unescape? {text : List Char} (read : unescape? written = some text) : Spells text written := by
  fun_induction unescape? written generalizing text with
  | case1 =>
    cases read
    exact .nil
  | case2 => cases read
  | case3 a b c d rest unit units character alone ih =>
    obtain ⟨others, read_others, rfl⟩ := Option.map_eq_some_iff.mp read
    obtain ⟨whole, rfl⟩ := plainUnit?_eq_some_iff.mp alone
    exact .unit (codeUnit?_eq_some_iff.mp units) whole (ih read_others)
  | case4 a b c d unit units _ e f g h rest character paired ih =>
    obtain ⟨others, read_others, rfl⟩ := Option.map_eq_some_iff.mp read
    obtain ⟨trailing, others_units, pair⟩ := Option.bind_eq_some_iff.mp paired
    obtain ⟨first, second, rfl⟩ := pairedUnits?_eq_some_iff.mp pair
    exact .pair (codeUnit?_eq_some_iff.mp units) first (codeUnit?_eq_some_iff.mp others_units) second (ih read_others)
  | case5 => cases read
  | case6 => cases read
  | case7 letter rest _ character known ih =>
    obtain ⟨others, read_others, rfl⟩ := Option.map_eq_some_iff.mp read
    exact .short (shortEscape?_eq_some_iff.mp known) (ih read_others)
  | case8 => cases read
  | case9 => cases read
  | case10 c rest _ _ plain ih =>
    obtain ⟨others, read_others, rfl⟩ := Option.map_eq_some_iff.mp read
    have is_plain : IsPlain c := by
      unfold IsPlain
      grind
    exact .plain is_plain (ih read_others)

theorem unescape?_of_spells {text : List Char} (spells : Spells text written) : unescape? written = some text := by
  induction spells with
  | nil => rfl
  | plain is_plain _ ih =>
    obtain ⟨high, no_quote, no_escape⟩ := is_plain
    rw [unescape?, if_neg (by grind), ih]
    · rfl
    · rintro a b c d rest rfl
      contradiction
    · rintro letter rest rfl
      contradiction
  | short known _ ih =>
    rw [unescape?, shortEscape?_eq_some_iff.mpr known, ih]
    · rfl
    · rintro a b c d rest rfl
      simp [shortEscapes] at known
  | unit digits whole _ ih =>
    simp only [unescape?, codeUnit?_eq_some_iff.mpr digits, plainUnit?_eq_some_iff.mpr ⟨whole, rfl⟩, ih, Option.map_some]
  | pair digits first others second _ ih =>
    have split := plainUnit?_eq_none_iff.mpr ⟨first.1, Nat.lt_trans first.2 (by decide)⟩
    simp only [unescape?, codeUnit?_eq_some_iff.mpr digits, split, codeUnit?_eq_some_iff.mpr others, Option.bind_some,
      pairedUnits?_eq_some_iff.mpr ⟨first, second, rfl⟩, ih, Option.map_some]

/-- A string has the text that it says, if it says one. -/
theorem unescape?_eq_some_iff {text : List Char} : unescape? written = some text ↔ Spells text written :=
  ⟨spells_of_unescape?, unescape?_of_spells⟩

/-! ## Numbers -/

/-- What may follow a number or a value. -/
def EndsToken (rest : List Char) : Prop :=
  ∀ c ∈ rest.head?, c ∈ [' ', '\t', '\n', '\r', ',', ']', '\x7d']

theorem EndsToken.not_numeral (ends : EndsToken rest) :
    ∀ c ∈ rest.head?, c.isDigit = false ∧ c ≠ '.' ∧ c ≠ 'e' ∧ c ≠ 'E' := by
  intro c first
  have known := ends c first
  simp only [List.mem_cons, List.not_mem_nil, or_false] at known
  rcases known with rfl | rfl | rfl | rfl | rfl | rfl | rfl <;> decide

theorem isAsciiDigit_funext : isAsciiDigit = Char.isDigit :=
  funext isAsciiDigit_eq

theorem isDigits_of_takeDigits? (taken : takeDigits? chars = some (written, rest)) :
    chars = written ++ rest ∧ IsDigits written := by
  obtain ⟨filled, same⟩ := Option.ite_none_left_eq_some.mp taken
  cases same
  refine ⟨List.takeWhile_append_dropWhile.symm, filled, fun c member => ?_⟩
  rw [← isAsciiDigit_eq]
  exact List.mem_takeWhile_imp member

theorem takeDigits?_of_isDigits (digits : IsDigits written) (ends : ∀ c ∈ rest.head?, c.isDigit = false) :
    takeDigits? (written ++ rest) = some (written, rest) := by
  have taken : (written ++ rest).takeWhile Char.isDigit = written := by
    rw [List.takeWhile_append_of_pos digits.2]
    cases rest with
    | nil => simp
    | cons c rest => simp [ends c rfl]
  have dropped : (written ++ rest).dropWhile Char.isDigit = rest := by
    rw [List.dropWhile_append_of_pos digits.2]
    cases rest with
    | nil => simp
    | cons c rest => simp [ends c rfl]
  rw [takeDigits?, isAsciiDigit_funext, taken, dropped]
  exact if_neg digits.1

theorem isWhole_of_takeWhole? (taken : takeWhole? chars = some (written, rest)) : chars = written ++ rest ∧ IsWhole written := by
  unfold takeWhole? at taken
  split at taken
  · obtain ⟨_, same⟩ := Option.ite_none_left_eq_some.mp taken
    cases same
    exact ⟨rfl, .inl rfl⟩
  · next no_zero =>
    obtain ⟨rfl, digits⟩ := isDigits_of_takeDigits? taken
    refine ⟨rfl, .inr ⟨digits, fun zero => ?_⟩⟩
    obtain ⟨others, rfl⟩ := List.head?_eq_some_iff.mp zero
    exact no_zero _ rfl

theorem takeWhole?_of_isWhole (whole : IsWhole written) (ends : ∀ c ∈ rest.head?, c.isDigit = false) :
    takeWhole? (written ++ rest) = some (written, rest) := by
  obtain rfl | ⟨digits, no_zero⟩ := whole
  · rw [List.cons_append, List.nil_append, takeWhole?, if_neg]
    cases rest with
    | nil => simp
    | cons c rest => simp [isAsciiDigit_eq, ends c rfl]
  · have no_zero' : ∀ others, written ++ rest ≠ '0' :: others := by
      intro others same
      cases written with
      | nil => exact digits.1 rfl
      | cons c written =>
        obtain ⟨rfl, _⟩ := List.cons_eq_cons.mp same
        exact no_zero rfl
    rw [takeWhole?, takeDigits?_of_isDigits digits ends]
    exact no_zero'

theorem isFraction_of_takeFraction? (taken : takeFraction? chars = some (written, rest)) :
    chars = written ++ rest ∧ IsFraction written := by
  unfold takeFraction? at taken
  split at taken
  · obtain ⟨⟨digits, after⟩, digits_taken, same⟩ := Option.map_eq_some_iff.mp taken
    cases same
    obtain ⟨rfl, are_digits⟩ := isDigits_of_takeDigits? digits_taken
    exact ⟨rfl, .inr ⟨digits, rfl, are_digits⟩⟩
  · cases taken
    exact ⟨rfl, .inl rfl⟩

theorem takeFraction?_of_isFraction (fraction : IsFraction written) (ends : ∀ c ∈ rest.head?, c.isDigit = false ∧ c ≠ '.') :
    takeFraction? (written ++ rest) = some (written, rest) := by
  obtain rfl | ⟨digits, rfl, are_digits⟩ := fraction
  · rw [List.nil_append, takeFraction?]
    rintro others rfl
    exact (ends '.' rfl).2 rfl
  · rw [List.cons_append, takeFraction?, takeDigits?_of_isDigits are_digits fun c first => (ends c first).1]
    rfl

theorem takeExponentSign_split (chars : List Char) : chars = (takeExponentSign chars).1 ++ (takeExponentSign chars).2 ∧
    ((takeExponentSign chars).1 = [] ∨ (takeExponentSign chars).1 = ['+'] ∨ (takeExponentSign chars).1 = ['-']) := by
  unfold takeExponentSign
  split <;> simp

theorem isExponent_of_takeExponent? (taken : takeExponent? chars = some (written, rest)) :
    chars = written ++ rest ∧ IsExponent written := by
  unfold takeExponent? at taken
  split at taken
  · cases taken
    exact ⟨rfl, .inl rfl⟩
  · next mark others =>
    split_ifs at taken with marked
    · obtain ⟨⟨digits, after⟩, digits_taken, same⟩ := Option.map_eq_some_iff.mp taken
      cases same
      obtain ⟨others_eq, are_digits⟩ := isDigits_of_takeDigits? digits_taken
      obtain ⟨split_eq, known⟩ := takeExponentSign_split others
      rw [others_eq, ← List.append_assoc] at split_eq
      exact ⟨congrArg (mark :: ·) split_eq, .inr ⟨mark, _, digits, rfl, marked, known, are_digits⟩⟩
    · cases taken
      exact ⟨rfl, .inl rfl⟩

theorem takeExponentSign_append {sign : List Char} (known : sign = [] ∨ sign = ['+'] ∨ sign = ['-']) (digits : IsDigits chars) :
    takeExponentSign (sign ++ (chars ++ rest)) = (sign, chars ++ rest) := by
  obtain rfl | rfl | rfl := known
  · cases chars with
    | nil => exact absurd rfl digits.1
    | cons c chars =>
      obtain ⟨no_plus, no_minus⟩ := not_sign_of_isDigit (digits.2 c List.mem_cons_self)
      rw [List.nil_append, List.cons_append, takeExponentSign]
      · rintro others same
        exact no_plus (List.cons_eq_cons.mp same).1
      · rintro others same
        exact no_minus (List.cons_eq_cons.mp same).1
  · rfl
  · rfl

theorem takeExponent?_of_isExponent (exponent : IsExponent written)
    (ends : ∀ c ∈ rest.head?, c.isDigit = false ∧ c ≠ 'e' ∧ c ≠ 'E') :
    takeExponent? (written ++ rest) = some (written, rest) := by
  obtain rfl | ⟨mark, sign, digits, rfl, marked, known, are_digits⟩ := exponent
  · cases rest with
    | nil => rfl
    | cons c rest =>
      obtain ⟨_, no_small, no_capital⟩ := ends c rfl
      rw [List.nil_append, takeExponent?, if_neg (not_or.mpr ⟨no_small, no_capital⟩)]
  · rw [List.cons_append, List.append_assoc, takeExponent?, if_pos marked]
    simp only [takeExponentSign_append known are_digits, takeDigits?_of_isDigits are_digits fun c first => (ends c first).1]
    rfl

theorem isUnsigned_of_takeNumber? (taken : takeNumber? chars = some (written, rest)) :
    chars = written ++ rest ∧ IsUnsigned written := by
  simp only [takeNumber?, Option.bind_eq_bind, Option.bind_eq_some_iff, Option.pure_def, Option.some.injEq, Prod.mk.injEq,
    Prod.exists] at taken
  obtain ⟨whole, others, whole_taken, fraction, others', fraction_taken, exponent, after, exponent_taken, rfl, rfl⟩ := taken
  obtain ⟨rfl, is_whole⟩ := isWhole_of_takeWhole? whole_taken
  obtain ⟨rfl, is_fraction⟩ := isFraction_of_takeFraction? fraction_taken
  obtain ⟨rfl, is_exponent⟩ := isExponent_of_takeExponent? exponent_taken
  exact ⟨by simp, whole, fraction, exponent, List.append_assoc .., is_whole, is_fraction, is_exponent⟩

theorem takeNumber?_of_isUnsigned (unsigned : IsUnsigned written) (ends : EndsToken rest) :
    takeNumber? (written ++ rest) = some (written, rest) := by
  obtain ⟨whole, fraction, exponent, rfl, is_whole, is_fraction, is_exponent⟩ := unsigned
  have after_exponent := ends.not_numeral
  have after_fraction : ∀ c ∈ (exponent ++ rest).head?, c.isDigit = false ∧ c ≠ '.' := by
    obtain rfl | ⟨mark, sign, digits, rfl, rfl | rfl, _⟩ := is_exponent
    · exact fun c first => ⟨(after_exponent c first).1, (after_exponent c first).2.1⟩
    all_goals simp
  have after_whole : ∀ c ∈ (fraction ++ (exponent ++ rest)).head?, c.isDigit = false := by
    obtain rfl | ⟨digits, rfl, _⟩ := is_fraction
    · exact fun c first => (after_fraction c first).1
    · simp
  simp only [takeNumber?, List.append_assoc, takeWhole?_of_isWhole is_whole after_whole, Option.bind_eq_bind, Option.bind_some,
    takeFraction?_of_isFraction is_fraction after_fraction,
    takeExponent?_of_isExponent is_exponent fun c first => ⟨(after_exponent c first).1, (after_exponent c first).2.2⟩]
  rfl

variable {fuel : Nat} {gap : List Char} {value : Json}

theorem isSpace_iff : isSpace c = true ↔ c ∈ [' ', '\t', '\n', '\r'] := by
  simp only [isSpace, Bool.or_eq_true, beq_iff_eq, List.mem_cons, List.not_mem_nil, or_false]
  grind

theorem skipSpace_append (is_gap : IsGap gap) : skipSpace (gap ++ rest) = skipSpace rest :=
  List.dropWhile_append_of_pos fun c member => isSpace_iff.mpr (is_gap c member)

theorem skipSpace_cons (no_space : isSpace c = false) : skipSpace (c :: rest) = c :: rest :=
  List.dropWhile_cons_of_neg (by simp [no_space])

theorem skipSpace_skipSpace (chars : List Char) : skipSpace (skipSpace chars) = skipSpace chars :=
  List.dropWhile_idempotent isSpace chars

theorem exists_gap (chars : List Char) : ∃ gap, IsGap gap ∧ chars = gap ++ skipSpace chars :=
  ⟨chars.takeWhile isSpace, fun _ member => isSpace_iff.mp (List.mem_takeWhile_imp member), List.takeWhile_append_dropWhile.symm⟩

theorem EndsToken.append (ends : EndsToken rest) (is_gap : IsGap gap) : EndsToken (gap ++ rest) := by
  intro c first
  cases gap with
  | nil => exact ends c first
  | cons space gap =>
    obtain rfl : space = c := by simpa using first
    have blank := is_gap space List.mem_cons_self
    grind

theorem expect?_eq_some_iff {word : List Char} : expect? word chars = some rest ↔ chars = word ++ rest := by
  rw [expect?, Option.ite_none_right_eq_some, List.isPrefixOf_iff_prefix]
  constructor
  · rintro ⟨⟨others, rfl⟩, same⟩
    simpa using same
  · rintro rfl
    exact ⟨List.prefix_append .., by simp⟩

/-! ## Values are read as they are written -/

/-- Reading with so many steps takes values off the text. -/
def ReadsValues (fuel : Nat) : Prop :=
  ∀ {chars value rest}, takeValue? fuel chars = some (value, rest) →
    ∃ gap written, chars = gap ++ (written ++ rest) ∧ IsGap gap ∧ IsValue value written

/-- Reading with so many steps takes elements off the text, up to the end of their array. -/
def ReadsElements (fuel : Nat) : Prop :=
  ∀ {chars elements rest}, takeElements? fuel chars = some (elements, rest) →
    ∃ written, chars = written ++ ']' :: rest ∧ IsElements elements written

/-- Reading with so many steps takes members off the text, up to the end of their object. -/
def ReadsMembers (fuel : Nat) : Prop :=
  ∀ {chars members rest}, takeMembers? fuel chars = some (members, rest) →
    ∃ written, chars = written ++ '\x7d' :: rest ∧ IsMembers members written

theorem ReadsElements.readsValues_array (elements : ReadsElements fuel)
    (taken : takeValue? (fuel + 1) ('[' :: chars) = some (value, rest)) :
    ∃ written, '[' :: chars = written ++ rest ∧ IsValue value written := by
  obtain ⟨gap, is_gap, chars_eq⟩ := exists_gap chars
  rw [takeValue?, skipSpace_cons rfl] at taken
  simp only at taken
  split at taken
  · next others closed =>
    cases taken
    rw [chars_eq, closed]
    exact ⟨_, by simp, .noElements is_gap⟩
  · obtain ⟨⟨found, after⟩, elements_taken, same⟩ := Option.map_eq_some_iff.mp taken
    cases same
    obtain ⟨written, skipped, are_elements⟩ := elements elements_taken
    rw [chars_eq, skipped]
    exact ⟨_, by simp, .array (are_elements.append_left is_gap)⟩

theorem ReadsMembers.readsValues_object (members : ReadsMembers fuel)
    (taken : takeValue? (fuel + 1) ('\x7b' :: chars) = some (value, rest)) :
    ∃ written, '\x7b' :: chars = written ++ rest ∧ IsValue value written := by
  obtain ⟨gap, is_gap, chars_eq⟩ := exists_gap chars
  rw [takeValue?, skipSpace_cons rfl] at taken
  simp only at taken
  split at taken
  · next others closed =>
    cases taken
    rw [chars_eq, closed]
    exact ⟨_, by simp, .noMembers is_gap⟩
  · obtain ⟨⟨found, after⟩, members_taken, same⟩ := Option.map_eq_some_iff.mp taken
    cases same
    obtain ⟨written, skipped, are_members⟩ := members members_taken
    rw [chars_eq, skipped]
    exact ⟨_, by simp, .object (are_members.append_left is_gap)⟩

theorem takeValue?_skipSpace (fuel : Nat) (chars : List Char) : takeValue? fuel (skipSpace chars) = takeValue? fuel chars := by
  cases fuel with
  | zero => rfl
  | succ fuel => rw [takeValue?, takeValue?, skipSpace_skipSpace]

theorem takeElements?_skipSpace (fuel : Nat) (chars : List Char) :
    takeElements? fuel (skipSpace chars) = takeElements? fuel chars := by
  cases fuel with
  | zero => rfl
  | succ fuel => rw [takeElements?, takeElements?, takeValue?_skipSpace]

theorem takeMembers?_skipSpace (fuel : Nat) (chars : List Char) :
    takeMembers? fuel (skipSpace chars) = takeMembers? fuel chars := by
  cases fuel with
  | zero => rfl
  | succ fuel => rw [takeMembers?, takeMembers?, skipSpace_skipSpace]

theorem readsValues_succ (elements : ReadsElements fuel) (members : ReadsMembers fuel) : ReadsValues (fuel + 1) := by
  intro chars value rest taken
  obtain ⟨gap, is_gap, chars_eq⟩ := exists_gap chars
  rw [← takeValue?_skipSpace] at taken
  have skipped := skipSpace_skipSpace chars
  generalize skipSpace chars = token at taken skipped chars_eq
  suffices written : ∃ written, token = written ++ rest ∧ IsValue value written by
    obtain ⟨written, rfl, is_value⟩ := written
    exact ⟨gap, written, chars_eq, is_gap, is_value⟩
  have opened := taken
  rw [takeValue?, skipped] at taken
  split at taken
  · obtain ⟨after, word, same⟩ := Option.map_eq_some_iff.mp taken
    cases same
    rw [expect?_eq_some_iff.mp word]
    exact ⟨_, rfl, .null⟩
  · obtain ⟨after, word, same⟩ := Option.map_eq_some_iff.mp taken
    cases same
    rw [expect?_eq_some_iff.mp word]
    exact ⟨_, rfl, .isTrue⟩
  · obtain ⟨after, word, same⟩ := Option.map_eq_some_iff.mp taken
    cases same
    rw [expect?_eq_some_iff.mp word]
    exact ⟨_, rfl, .isFalse⟩
  · obtain ⟨⟨inner, after⟩, string_taken, same⟩ := Option.map_eq_some_iff.mp taken
    cases same
    obtain ⟨rfl, body⟩ := isBody_of_takeString? string_taken
    exact ⟨_, by simp, .string body⟩
  · obtain ⟨⟨digits, after⟩, number_taken, same⟩ := Option.map_eq_some_iff.mp taken
    cases same
    obtain ⟨rfl, unsigned⟩ := isUnsigned_of_takeNumber? number_taken
    exact ⟨_, rfl, .number (.inr ⟨digits, rfl, unsigned⟩)⟩
  · exact elements.readsValues_array opened
  · exact members.readsValues_object opened
  · obtain ⟨⟨digits, after⟩, number_taken, same⟩ := Option.map_eq_some_iff.mp taken
    cases same
    obtain ⟨rfl, unsigned⟩ := isUnsigned_of_takeNumber? number_taken
    exact ⟨_, rfl, .number (.inl unsigned)⟩

theorem ReadsValues.isPadded (values : ReadsValues fuel) (taken : takeValue? fuel chars = some (value, rest)) :
    ∃ written, chars = written ++ skipSpace rest ∧ IsPadded value written := by
  obtain ⟨gap, written, rfl, is_gap, is_value⟩ := values taken
  obtain ⟨after, is_after, rest_eq⟩ := exists_gap rest
  refine ⟨gap ++ (written ++ after), ?_, .pad is_gap is_value is_after⟩
  simp only [List.append_assoc, ← rest_eq]

theorem readsElements_succ (values : ReadsValues fuel) (elements : ReadsElements fuel) : ReadsElements (fuel + 1) := by
  intro chars found rest taken
  rw [takeElements?] at taken
  split at taken
  · cases taken
  · next element others element_taken =>
    obtain ⟨written, chars_eq, is_element⟩ := values.isPadded element_taken
    split at taken
    · next following comma =>
      obtain ⟨⟨more, after⟩, more_taken, same⟩ := Option.map_eq_some_iff.mp taken
      cases same
      obtain ⟨written_more, following_eq, are_elements⟩ := elements more_taken
      rw [chars_eq, comma, following_eq]
      exact ⟨_, by simp, .more is_element are_elements⟩
    · next following closed =>
      cases taken
      rw [chars_eq, closed]
      exact ⟨_, rfl, .last is_element⟩
    · cases taken

theorem readsMembers_succ (values : ReadsValues fuel) (members : ReadsMembers fuel) : ReadsMembers (fuel + 1) := by
  intro chars found rest taken
  obtain ⟨before, is_before, chars_eq⟩ := exists_gap chars
  rw [takeMembers?] at taken
  split at taken
  · next behind_quote quoted =>
    split at taken
    · cases taken
    · next name behind_name name_taken =>
      obtain ⟨name_eq, is_name⟩ := isBody_of_takeString? name_taken
      obtain ⟨after, is_after, behind_name_eq⟩ := exists_gap behind_name
      split at taken
      · next behind_colon colon =>
        split at taken
        · cases taken
        · next value behind_value value_taken =>
          obtain ⟨written, value_eq, is_value⟩ := values.isPadded value_taken
          have is_member := IsMember.pad is_before is_name is_after is_value
          rw [quoted, name_eq, behind_name_eq, colon, value_eq] at chars_eq
          split at taken
          · next behind_comma comma =>
            obtain ⟨⟨more, rest⟩, more_taken, same⟩ := Option.map_eq_some_iff.mp taken
            cases same
            obtain ⟨written_more, more_eq, are_members⟩ := members more_taken
            rw [chars_eq, comma, more_eq]
            exact ⟨_, by simp, .more is_member are_members⟩
          · next behind_brace closed =>
            cases taken
            rw [chars_eq, closed]
            exact ⟨_, by simp, .last is_member⟩
          · cases taken
      · cases taken
  · cases taken

/-- What is read is written as the grammar asks, however many steps there are. -/
theorem reads (fuel : Nat) : ReadsValues fuel ∧ ReadsElements fuel ∧ ReadsMembers fuel := by
  induction fuel with
  | zero =>
    refine ⟨?_, ?_, ?_⟩
    all_goals
      intro chars found rest taken
      cases taken
  | succ fuel ih =>
    obtain ⟨values, elements, members⟩ := ih
    exact ⟨readsValues_succ elements members, readsElements_succ values elements, readsMembers_succ values members⟩

/-! ## Values that are written are read -/

/-- So many steps are enough to take off a value with no more than half as many characters. -/
def TakesValues (fuel : Nat) : Prop :=
  ∀ {value written rest}, IsValue value written → EndsToken rest → 2 * written.length ≤ fuel →
    takeValue? fuel (written ++ rest) = some (value, rest)

/-- So many steps are enough to take off elements with less than half as many characters. -/
def TakesElements (fuel : Nat) : Prop :=
  ∀ {elements written rest}, IsElements elements written → 2 * written.length < fuel →
    takeElements? fuel (written ++ ']' :: rest) = some (elements, rest)

/-- So many steps are enough to take off members with less than half as many characters. -/
def TakesMembers (fuel : Nat) : Prop :=
  ∀ {members written rest}, IsMembers members written → 2 * written.length < fuel →
    takeMembers? fuel (written ++ '\x7d' :: rest) = some (members, rest)

theorem takeValue?_digit (digit : c.isDigit = true) :
    takeValue? (fuel + 1) (c :: chars) = (takeNumber? (c :: chars)).map fun taken => (.number taken.1, taken.2) := by
  have known : c ∈ "0123456789".toList := by
    have low : '0'.toNat ≤ c.toNat ∧ c.toNat ≤ '9'.toNat := by
      simpa [Char.isDigit, UInt32.le_iff_toNat_le] using digit
    have listed : ∀ code : Fin 10, Char.ofNat ('0'.toNat + code) ∈ "0123456789".toList := by decide
    have member := listed ⟨c.toNat - '0'.toNat, by have : '9'.toNat = '0'.toNat + 9 := rfl; omega⟩
    rwa [Nat.add_sub_cancel' low.1, Char.ofNat_toNat] at member
  simp only [String.reduceToList, List.mem_cons, List.not_mem_nil, or_false] at known
  rcases known with rfl | rfl | rfl | rfl | rfl | rfl | rfl | rfl | rfl | rfl <;> rfl

theorem IsUnsigned.exists_digit (unsigned : IsUnsigned written) : ∃ c others, written = c :: others ∧ c.isDigit = true := by
  obtain ⟨whole, fraction, exponent, rfl, rfl | ⟨⟨filled, digits⟩, _⟩, _⟩ := unsigned
  · exact ⟨'0', _, rfl, rfl⟩
  · obtain ⟨c, others, rfl⟩ := List.exists_cons_of_ne_nil filled
    exact ⟨c, _, rfl, digits c List.mem_cons_self⟩

theorem takeValue?_isNumber (number : IsNumber written) (ends : EndsToken rest) :
    takeValue? (fuel + 1) (written ++ rest) = some (.number written, rest) := by
  obtain unsigned | ⟨digits, rfl, unsigned⟩ := number
  · have taken := takeNumber?_of_isUnsigned unsigned ends
    obtain ⟨c, others, rfl, digit⟩ := unsigned.exists_digit
    rw [List.cons_append] at taken ⊢
    rw [takeValue?_digit digit, taken]
    rfl
  · have opened : takeValue? (fuel + 1) ('-' :: digits ++ rest) =
        (takeNumber? (digits ++ rest)).map fun taken => (.number ('-' :: taken.1), taken.2) := rfl
    rw [opened, takeNumber?_of_isUnsigned unsigned ends]
    rfl

/-- A value begins with a character that is neither blank nor the end of an array. -/
theorem IsValue.exists_first (is_value : IsValue value written) :
    ∃ c others, written = c :: others ∧ isSpace c = false ∧ c ≠ ']' := by
  have digit_first : ∀ {digits}, IsUnsigned digits → ∃ c others, digits = c :: others ∧ isSpace c = false ∧ c ≠ ']' := by
    intro digits unsigned
    obtain ⟨c, others, rfl, digit⟩ := unsigned.exists_digit
    refine ⟨c, others, rfl, ?_, ?_⟩
    · rw [Bool.eq_false_iff, Ne, isSpace_iff]
      intro blank
      simp only [List.mem_cons, List.not_mem_nil, or_false] at blank
      rcases blank with rfl | rfl | rfl | rfl <;> cases digit
    · rintro rfl
      cases digit
  cases is_value with
  | number is_number =>
    obtain unsigned | ⟨digits, rfl, _⟩ := is_number
    · exact digit_first unsigned
    · exact ⟨'-', digits, rfl, by decide, by decide⟩
  | _ => exact ⟨_, _, rfl, by decide, by decide⟩

theorem TakesValues.padded (values : TakesValues fuel) (padded : IsPadded value written) (ends : EndsToken rest)
    (enough : 2 * written.length ≤ fuel) :
    ∃ after, takeValue? fuel (written ++ rest) = some (value, after) ∧ skipSpace after = skipSpace rest := by
  cases padded with
  | @pad _ before chars after is_before is_value is_after =>
    refine ⟨after ++ rest, ?_, skipSpace_append is_after⟩
    have enough_value : 2 * chars.length ≤ fuel := by
      simp only [List.length_append] at enough
      omega
    rw [← takeValue?_skipSpace, List.append_assoc, List.append_assoc, skipSpace_append is_before, takeValue?_skipSpace]
    exact values is_value (ends.append is_after) enough_value

theorem endsToken_comma (rest : List Char) : EndsToken (',' :: rest) := by
  simp [EndsToken]

theorem endsToken_bracket (rest : List Char) : EndsToken (']' :: rest) := by
  simp [EndsToken]

theorem endsToken_brace (rest : List Char) : EndsToken ('\x7d' :: rest) := by
  simp [EndsToken]

theorem takesElements_succ (values : TakesValues fuel) (elements : TakesElements fuel) : TakesElements (fuel + 1) := by
  intro found written rest are_elements enough
  cases are_elements with
  | last is_element =>
    obtain ⟨after, taken, skipped⟩ := values.padded is_element (endsToken_bracket rest) (by omega)
    have closed : skipSpace (']' :: rest) = ']' :: rest := rfl
    simp only [takeElements?, taken, skipped, closed]
  | @more _ more chars others is_element are_more =>
    rw [List.length_append, List.length_cons] at enough
    obtain ⟨after, taken, skipped⟩ := values.padded is_element (endsToken_comma (others ++ ']' :: rest)) (by omega)
    have comma : skipSpace (',' :: (others ++ ']' :: rest)) = ',' :: (others ++ ']' :: rest) := rfl
    rw [List.append_assoc, List.cons_append]
    simp only [takeElements?, taken, skipped, comma, elements are_more (by omega), Option.map_some]

theorem IsMember.exists_first {member : List Char × Json} (is_member : IsMember member written) :
    ∃ gap others, written = gap ++ '"' :: others ∧ IsGap gap := by
  cases is_member with
  | pad is_before => exact ⟨_, _, rfl, is_before⟩

/-- A member is taken off the text, with the members behind its comma or with the end of the object. -/
theorem TakesValues.takeMembers? (values : TakesValues fuel) {name : List Char} (is_member : IsMember (name, value) written)
    (ends : EndsToken rest) (enough : 2 * written.length ≤ fuel) (others : List Char) :
    (skipSpace rest = ',' :: others → Json.takeMembers? (fuel + 1) (written ++ rest) =
      (Json.takeMembers? fuel others).map fun taken => ((name, value) :: taken.1, taken.2)) ∧
    (skipSpace rest = '\x7d' :: others → Json.takeMembers? (fuel + 1) (written ++ rest) = some ([(name, value)], others)) := by
  cases is_member with
  | @pad _ _ before after chars is_before is_name is_after is_value =>
    have enough_value : 2 * chars.length ≤ fuel := by
      simp only [List.length_append, List.length_cons] at enough
      omega
    obtain ⟨behind, taken, skipped⟩ := values.padded is_value ends enough_value
    have quoted : skipSpace (before ++ '"' :: (name ++ '"' :: (after ++ ':' :: chars)) ++ rest) =
        '"' :: (name ++ '"' :: (after ++ ':' :: (chars ++ rest))) := by
      rw [List.append_assoc, skipSpace_append is_before]
      simp [skipSpace_cons (show isSpace '"' = false from rfl)]
    have colon : skipSpace (after ++ ':' :: (chars ++ rest)) = ':' :: (chars ++ rest) := by
      rw [skipSpace_append is_after]
      rfl
    constructor
    all_goals
      intro follows
      simp only [Json.takeMembers?, quoted, takeString?_of_isBody is_name, colon, taken, skipped, follows]

theorem takesMembers_succ (values : TakesValues fuel) (members : TakesMembers fuel) : TakesMembers (fuel + 1) := by
  intro found written rest are_members enough
  cases are_members with
  | @last member _ is_member =>
    have closed : skipSpace ('\x7d' :: rest) = '\x7d' :: rest := rfl
    exact (values.takeMembers? is_member (endsToken_brace rest) (by omega) rest).2 closed
  | @more member more chars others is_member are_more =>
    rw [List.length_append, List.length_cons] at enough
    have comma : skipSpace (',' :: (others ++ '\x7d' :: rest)) = ',' :: (others ++ '\x7d' :: rest) := rfl
    rw [List.append_assoc, List.cons_append,
      (values.takeMembers? is_member (endsToken_comma (others ++ '\x7d' :: rest)) (by omega) _).1 comma,
      members are_more (by omega), Option.map_some]

theorem IsElements.skipSpace_ne_bracket {elements : List Json} (are_elements : IsElements elements written)
    (others : List Char) : skipSpace (written ++ rest) ≠ ']' :: others := by
  have padded_first : ∀ {element chars} (others : List Char), IsPadded element chars →
      ∀ tail, skipSpace (chars ++ tail) ≠ ']' :: others := by
    intro element chars others padded tail
    cases padded with
    | pad is_before is_value =>
      obtain ⟨c, following, rfl, no_space, no_bracket⟩ := is_value.exists_first
      rw [List.append_assoc, skipSpace_append is_before, List.cons_append, List.cons_append, skipSpace_cons no_space]
      exact fun same => no_bracket (List.cons_eq_cons.mp same).1
  cases are_elements with
  | last is_element => exact padded_first others is_element rest
  | more is_element =>
    rw [List.append_assoc]
    exact padded_first others is_element _

theorem IsMembers.skipSpace_ne_brace {members : List (List Char × Json)} (are_members : IsMembers members written)
    (others : List Char) : skipSpace (written ++ rest) ≠ '\x7d' :: others := by
  have member_first : ∀ {member chars} (others : List Char), IsMember member chars →
      ∀ tail, skipSpace (chars ++ tail) ≠ '\x7d' :: others := by
    intro member chars others is_member tail
    obtain ⟨gap, following, rfl, is_gap⟩ := is_member.exists_first
    rw [List.append_assoc, skipSpace_append is_gap, List.cons_append, skipSpace_cons rfl]
    exact fun same => absurd (List.cons_eq_cons.mp same).1 (by decide)
  cases are_members with
  | last is_member => exact member_first others is_member rest
  | more is_member =>
    rw [List.append_assoc]
    exact member_first others is_member _

theorem takesValues_succ (elements : TakesElements fuel) (members : TakesMembers fuel) : TakesValues (fuel + 1) := by
  intro value written rest is_value ends enough
  cases is_value with
  | null => rfl
  | isTrue => rfl
  | isFalse => rfl
  | number is_number => exact takeValue?_isNumber is_number ends
  | @string inner is_body =>
    have opened : takeValue? (fuel + 1) ('"' :: (inner ++ ['"']) ++ rest) =
        (takeString? (inner ++ '"' :: rest)).map fun taken => (.string taken.1, taken.2) := by
      rw [List.cons_append, List.append_assoc]
      rfl
    rw [opened, takeString?_of_isBody is_body]
    rfl
  | @noElements gap is_gap =>
    rw [List.cons_append, List.append_assoc, takeValue?, skipSpace_cons rfl]
    simp only [skipSpace_append is_gap]
    rfl
  | @array found chars are_elements =>
    rw [List.length_cons, List.length_append, List.length_singleton] at enough
    rw [List.cons_append, List.append_assoc, takeValue?, skipSpace_cons rfl]
    simp only [List.singleton_append]
    split
    · next others closed => exact absurd closed (are_elements.skipSpace_ne_bracket others)
    · rw [takeElements?_skipSpace, elements are_elements (by omega)]
      rfl
  | @noMembers gap is_gap =>
    rw [List.cons_append, List.append_assoc, takeValue?, skipSpace_cons rfl]
    simp only [skipSpace_append is_gap]
    rfl
  | @object found chars are_members =>
    rw [List.length_cons, List.length_append, List.length_singleton] at enough
    rw [List.cons_append, List.append_assoc, takeValue?, skipSpace_cons rfl]
    simp only [List.singleton_append]
    split
    · next others closed => exact absurd closed (are_members.skipSpace_ne_brace others)
    · rw [takeMembers?_skipSpace, members are_members (by omega)]
      rfl

/-- Two steps for each character are enough. -/
theorem takes (fuel : Nat) : TakesValues fuel ∧ TakesElements fuel ∧ TakesMembers fuel := by
  induction fuel with
  | zero =>
    refine ⟨?_, fun _ enough => absurd enough (Nat.not_lt_zero _), fun _ enough => absurd enough (Nat.not_lt_zero _)⟩
    intro value written rest is_value _ enough
    obtain ⟨c, others, rfl, _⟩ := is_value.exists_first
    rw [List.length_cons] at enough
    omega
  | succ fuel ih =>
    obtain ⟨values, elements, members⟩ := ih
    exact ⟨takesValues_succ elements members, takesElements_succ values elements, takesMembers_succ values members⟩

/-- A text is read as a value exactly if the grammar makes it a text of that value. -/
theorem read?_eq_some_iff {text : String} : read? text = some value ↔ IsText text value := by
  constructor
  · intro read
    simp only [read?] at read
    split at read
    · next found rest taken =>
      obtain ⟨blank, same⟩ := Option.ite_none_right_eq_some.mp read
      cases same
      have values : ReadsValues (2 * text.toList.length + 2) := (reads _).1
      obtain ⟨written, chars_eq, padded⟩ := values.isPadded taken
      rw [blank, List.append_nil] at chars_eq
      rw [IsText, chars_eq]
      exact padded
    · cases read
  · intro is_text
    have ends : EndsToken [] := fun c first => nomatch first
    have values : TakesValues (2 * text.toList.length + 2) := (takes _).1
    obtain ⟨after, taken, skipped⟩ := values.padded is_text ends (by omega)
    rw [List.append_nil] at taken
    simp only [read?, taken, skipped]
    rfl

theorem IsText.unique {text : String} {other : Json} (is_text : IsText text value) (other_text : IsText text other) :
    value = other := by
  have read := read?_eq_some_iff.mpr is_text
  rw [read?_eq_some_iff.mpr other_text] at read
  exact (Option.some.inj read).symm

end Tablesmith.Json
