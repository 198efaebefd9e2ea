import Mathlib
import Tablesmith.Grid.Cell
import Tablesmith.Proofs.Number.Printing

/-!
# Cell references

References and positions correspond to each other (`position?_inverts_reference`). The
letters of a column have no zero among them: a column behind the first 26 is written as
the column that its quotient names, less one, and the letter of its remainder. So they are
a number in base 26 with the digits from 1 to 26, and every column is written in one way but
for the case of its letters (`columnLetters_of_columnNumber`). Of the digits of a row only
zeros in front of it say nothing (`dropWhile_zero`).
-/

namespace Tablesmith.Grid

open Number Text

/-- The letters of the alphabet. -/
def alphabet : List Char :=
  ['A', 'B', 'C', 'D', 'E', 'F', 'G', 'H', 'I', 'J', 'K', 'L', 'M', 'N', 'O', 'P', 'Q', 'R', 'S', 'T', 'U', 'V', 'W', 'X',
    'Y', 'Z']

/-- The place of a letter of either case in the alphabet, from 1. -/
def alphabetPlace (letter : Char) : Nat :=
  alphabet.idxOf letter.toUpper + 1

/-- The number that letters denote in base 26, where their places in the alphabet are the digits. -/
def columnNumber (letters : List Char) : Nat :=
  Nat.ofDigits 26 (letters.reverse.map alphabetPlace)

section letter

variable {index : Nat}

theorem letterValue_columnLetter (small : index < 26) : letterValue (columnLetter index) = index + 1 := by
  have all_letters : ∀ place : Fin 26, letterValue (columnLetter place) = place + 1 := by decide
  exact all_letters ⟨index, small⟩

theorem isAsciiLetter_columnLetter (small : index < 26) : isAsciiLetter (columnLetter index) = true := by
  have all_letters : ∀ place : Fin 26, isAsciiLetter (columnLetter place) = true := by decide
  exact all_letters ⟨index, small⟩

end letter

theorem exists_columnLetter {c : Char} (letter : isAsciiLetter c = true) : ∃ index < 26,
    c.toUpper = columnLetter index ∧ letterValue c = index + 1 ∧ alphabetPlace c = index + 1 := by
  have all_letters : ∀ code : Fin 123, isAsciiLetter (Char.ofNat code) = true → ∃ index : Fin 26,
      (Char.ofNat code).toUpper = columnLetter index ∧ letterValue (Char.ofNat code) = index + 1 ∧
        alphabetPlace (Char.ofNat code) = index + 1 := by decide +kernel
  have small : c.toNat < 123 := by
    simp only [isAsciiLetter, Bool.or_eq_true, Bool.and_eq_true, decide_eq_true_eq, Char.le_def, UInt32.le_iff_toNat_le]
      at letter
    have last_small : 'z'.val.toNat = 122 := rfl
    have last_big : 'Z'.val.toNat = 90 := rfl
    have code : c.toNat = c.val.toNat := rfl
    omega
  obtain ⟨index, found⟩ := all_letters ⟨c.toNat, small⟩ (by rwa [Char.ofNat_toNat])
  rw [Char.ofNat_toNat] at found
  exact ⟨index, index.isLt, found⟩

theorem not_isAsciiDigit_of_letter {c : Char} (letter : isAsciiLetter c = true) : isAsciiDigit c = false := by
  simp only [isAsciiLetter, Bool.or_eq_true, Bool.and_eq_true, decide_eq_true_eq, Char.le_def, UInt32.le_iff_toNat_le]
    at letter
  simp only [isAsciiDigit, Bool.and_eq_false_iff, decide_eq_false_iff_not, Char.le_def, UInt32.le_iff_toNat_le]
  have small_a : 'a'.val.toNat = 97 := rfl
  have big_a : 'A'.val.toNat = 65 := rfl
  have nine : '9'.val.toNat = 57 := rfl
  omega

theorem lettersValue_concat (letters : List Char) (letter : Char) :
    lettersValue (letters ++ [letter]) = 26 * lettersValue letters + letterValue letter := by
  rw [lettersValue, List.foldl_concat]
  rfl

theorem columnNumber_concat (letters : List Char) (letter : Char) :
    columnNumber (letters ++ [letter]) = 26 * columnNumber letters + alphabetPlace letter := by
  rw [columnNumber, List.reverse_concat, List.map_cons, Nat.ofDigits_cons, Nat.add_comm, columnNumber]

theorem columnNumber_pos {letters : List Char} (filled : letters ≠ []) : 0 < columnNumber letters := by
  obtain ⟨front, last, rfl⟩ := (List.eq_nil_or_concat' letters).resolve_left filled
  rw [columnNumber_concat, alphabetPlace]
  omega

theorem lettersValue_eq_columnNumber {letters : List Char} (all_letters : ∀ c ∈ letters, isAsciiLetter c = true) :
    lettersValue letters = columnNumber letters := by
  induction letters using List.reverseRecOn with
  | nil => rfl
  | append_singleton front last ih =>
    obtain ⟨index, -, -, value, place⟩ := exists_columnLetter (all_letters last (by simp))
    rw [lettersValue_concat, columnNumber_concat, ih fun c member => all_letters c (by simp [member]), value, place]

theorem columnLetters_ne_nil (column : Nat) : columnLetters column ≠ [] := by
  rw [columnLetters]
  split <;> simp

theorem isAsciiLetter_of_mem_columnLetters {column : Nat} {c : Char} (member : c ∈ columnLetters column) :
    isAsciiLetter c = true := by
  induction column using Nat.strong_induction_on with
  | _ column ih =>
    rw [columnLetters] at member
    by_cases single : column < 26
    · rw [if_pos single, List.mem_singleton] at member
      rw [member]
      exact isAsciiLetter_columnLetter single
    · rw [if_neg single] at member
      rcases List.mem_append.mp member with earlier | last
      · exact ih _ (by omega) earlier
      · rw [List.mem_singleton.mp last]
        exact isAsciiLetter_columnLetter (Nat.mod_lt _ (by decide))

/-- Letters count columns from 1. -/
theorem lettersValue_columnLetters (column : Nat) : lettersValue (columnLetters column) = column + 1 := by
  induction column using Nat.strong_induction_on with
  | _ column ih =>
    rw [columnLetters]
    by_cases single : column < 26
    · have value := letterValue_columnLetter single
      rw [if_pos single, lettersValue, List.foldl_cons, List.foldl_nil, value]
      omega
    · rw [if_neg single, lettersValue_concat, ih _ (by omega), letterValue_columnLetter (Nat.mod_lt _ (by decide))]
      omega

/-- A column is written in one way, but for the case of its letters. -/
theorem columnLetters_of_columnNumber {letters : List Char} {column : Nat} (filled : letters ≠ [])
    (all_letters : ∀ c ∈ letters, isAsciiLetter c = true) (denotes : columnNumber letters = column + 1) :
    columnLetters column = letters.map Char.toUpper := by
  induction letters using List.reverseRecOn generalizing column with
  | nil => exact absurd rfl filled
  | append_singleton front last ih =>
    obtain ⟨index, small, upper, -, place⟩ := exists_columnLetter (all_letters last (by simp))
    rw [columnNumber_concat, place] at denotes
    rw [List.map_append, List.map_singleton, upper, columnLetters]
    by_cases single : front = []
    · subst single
      have same : column = index := by simpa [columnNumber] using denotes.symm
      simp [same, small]
    · have some_front := columnNumber_pos single
      have written := ih single (fun c member => all_letters c (by simp [member]))
        (Nat.succ_pred_eq_of_pos some_front).symm
      have quotient : column / 26 - 1 = columnNumber front - 1 := by omega
      have remainder : column % 26 = index := by omega
      rw [if_neg (by omega), quotient, remainder]
      exact congrArg (· ++ [columnLetter index]) written

theorem readDigits?_toDigits (n : Nat) : readDigits? (Nat.toDigits 10 n) = some n :=
  readDigits?_eq_some_iff.mpr ⟨Nat.toDigits_ne_nil, fun _ => Nat.isDigit_of_mem_toDigits (by decide) (by decide),
    Nat.ofDigitChars_ten_toDigits⟩

/-- Digits are those of their number behind zeros. -/
theorem dropWhile_zero {digits : List Char} {n : Nat} (read : readDigits? digits = some n) (nonzero : n ≠ 0) :
    digits.dropWhile (· = '0') = Nat.toDigits 10 n := by
  obtain ⟨filled, -⟩ := readDigits?_eq_some_iff.mp read
  obtain ⟨-, padded⟩ := (readDigits?_field (List.length_pos_iff.mpr filled) rfl).mp read
  obtain ⟨first, rest, digits_are⟩ := List.exists_cons_of_ne_nil (Nat.toDigits_ne_nil (n := n) (b := 10))
  have no_zero : first ≠ '0' := by
    rintro rfl
    exact head?_digits nonzero (by rw [digits_are, List.head?_cons])
  rw [padded, toList_showPadded, List.dropWhile_append_of_pos (by simp), digits_are,
    List.dropWhile_cons_of_neg (by simp [no_zero])]

/-- The text is, its dollar signs apart, a run of letters and behind it a run of digits. -/
structure IsReference (text : String) (letters digits : List Char) : Prop where
  written : text.toList.filter (· ≠ '$') = letters ++ digits
  some_letters : letters ≠ []
  only_letters : ∀ c ∈ letters, isAsciiLetter c = true
  some_digits : digits ≠ []
  only_digits : ∀ c ∈ digits, isAsciiDigit c = true

/-- The letters denote the column and the digits the row. Both are counted from 1 there, in numbers of 64 bits. -/
structure DenotesPosition (letters digits : List Char) (row column : Nat) : Prop where
  row_number : Nat.ofDigitChars 10 digits 0 = row + 1
  row_fits : row + 1 < 2 ^ 64
  column_number : columnNumber letters = column + 1
  column_fits : column + 1 < 2 ^ 64

variable {text : String} {letters digits : List Char} {row column : Nat}

/-- Letters end where the digits begin. -/
theorem splits_reference (only_letters : ∀ c ∈ letters, isAsciiLetter c = true)
    (only_digits : ∀ c ∈ digits, isAsciiDigit c = true) :
    (letters ++ digits).takeWhile (!isAsciiDigit ·) = letters ∧
      (letters ++ digits).dropWhile (!isAsciiDigit ·) = digits := by
  have before_digits : ∀ c ∈ letters, (!isAsciiDigit c) = true := fun c member => by
    rw [not_isAsciiDigit_of_letter (only_letters c member), Bool.not_false]
  rw [List.takeWhile_append_of_pos before_digits, List.dropWhile_append_of_pos before_digits]
  cases digits with
  | nil => simp
  | cons first rest => simp [only_digits first List.mem_cons_self]

/-- A text is cut into letters and digits in one way. -/
theorem IsReference.unique {other_letters other_digits : List Char} (first : IsReference text letters digits)
    (second : IsReference text other_letters other_digits) : other_letters = letters ∧ other_digits = digits := by
  obtain ⟨front, back⟩ := splits_reference first.only_letters first.only_digits
  obtain ⟨other_front, other_back⟩ := splits_reference second.only_letters second.only_digits
  rw [← second.written, first.written] at other_front other_back
  exact ⟨other_front.symm.trans front, other_back.symm.trans back⟩

theorem IsReference.readDigits? (is_reference : IsReference text letters digits) :
    readDigits? digits = some (Nat.ofDigitChars 10 digits 0) :=
  readDigits?_eq_some_iff.mpr ⟨is_reference.some_digits,
    fun c member => (isAsciiDigit_eq c).symm.trans (is_reference.only_digits c member), rfl⟩

/-- What a text is read as, once it is cut into letters and digits. -/
theorem position?_eq_of_cut {chars : List Char} (written : text.toList.filter (· ≠ '$') = chars)
    (front : chars.takeWhile (!isAsciiDigit ·) = letters) (back : chars.dropWhile (!isAsciiDigit ·) = digits) :
    position? text =
      if letters = [] ∨ letters.all isAsciiLetter = false ∨ positionBound ≤ lettersValue letters then none
      else
        match Number.readDigits? digits with
        | some number => if number = 0 ∨ positionBound ≤ number then none else some (number - 1, lettersValue letters - 1)
        | none => none := by
  subst written front back
  rfl

theorem position?_of_isReference (is_reference : IsReference text letters digits)
    (denotes : DenotesPosition letters digits row column) : position? text = some (row, column) := by
  obtain ⟨front, back⟩ := splits_reference is_reference.only_letters is_reference.only_digits
  have all_letters : letters.all isAsciiLetter = true := List.all_eq_true.mpr is_reference.only_letters
  have value : lettersValue letters = column + 1 :=
    (lettersValue_eq_columnNumber is_reference.only_letters).trans denotes.column_number
  have read := is_reference.readDigits?
  rw [denotes.row_number] at read
  have row_small : ¬ positionBound ≤ row + 1 := Nat.not_le.mpr denotes.row_fits
  have column_small : ¬ positionBound ≤ column + 1 := Nat.not_le.mpr denotes.column_fits
  rw [position?_eq_of_cut is_reference.written front back]
  simp [is_reference.some_letters, all_letters, value, read, row_small, column_small]

theorem exists_isReference_of_position? (found : position? text = some (row, column)) :
    ∃ letters digits, IsReference text letters digits ∧ DenotesPosition letters digits row column := by
  generalize written : text.toList.filter (· ≠ '$') = chars
  generalize front : chars.takeWhile (!isAsciiDigit ·) = letters
  generalize back : chars.dropWhile (!isAsciiDigit ·) = digits
  rw [position?_eq_of_cut written front back] at found
  by_cases refused : letters = [] ∨ letters.all isAsciiLetter = false ∨ positionBound ≤ lettersValue letters
  · rw [if_pos refused] at found
    cases found
  · rw [if_neg refused] at found
    simp only [not_or, Bool.not_eq_false, List.all_eq_true] at refused
    obtain ⟨some_letters, only_letters, column_small⟩ := refused
    cases read : Number.readDigits? digits with
    | none => simp [read] at found
    | some number =>
      obtain ⟨some_digits, only_digits, value⟩ := readDigits?_eq_some_iff.mp read
      by_cases large : number = 0 ∨ positionBound ≤ number
      · simp [read, large] at found
      · obtain ⟨rfl, rfl⟩ : number - 1 = row ∧ lettersValue letters - 1 = column := by simpa [read, large] using found
        obtain ⟨nonzero, row_small⟩ := not_or.mp large
        have some_column := columnNumber_pos some_letters
        rw [lettersValue_eq_columnNumber only_letters] at column_small ⊢
        have row_number : number - 1 + 1 = number := Nat.succ_pred nonzero
        have column_number : columnNumber letters - 1 + 1 = columnNumber letters := Nat.succ_pred_eq_of_pos some_column
        refine ⟨letters, digits, ⟨?_, some_letters, only_letters, some_digits, ?_⟩, ?_, ?_, ?_, ?_⟩
        · rw [written, ← front, ← back, List.takeWhile_append_dropWhile]
        · exact fun c member => (isAsciiDigit_eq c).trans (only_digits c member)
        · rw [row_number, value]
        · rw [row_number]
          exact Nat.not_le.mp row_small
        · rw [column_number]
        · rw [column_number]
          exact Nat.not_le.mp column_small

theorem position?_eq_some_iff : position? text = some (row, column) ↔
    ∃ letters digits, IsReference text letters digits ∧ DenotesPosition letters digits row column :=
  ⟨exists_isReference_of_position?, fun ⟨_, _, is_reference, denotes⟩ => position?_of_isReference is_reference denotes⟩

theorem toList_reference (row column : Nat) :
    (reference row column).toList = columnLetters column ++ Nat.toDigits 10 (row + 1) := by
  rw [reference, showNat, String.toList_append, String.toList_ofList, String.toList_ofList]

theorem isReference_reference (row column : Nat) :
    IsReference (reference row column) (columnLetters column) (Nat.toDigits 10 (row + 1)) where
  written := by
    rw [toList_reference, List.filter_eq_self]
    intro c member
    rw [decide_eq_true_eq]
    rintro rfl
    rcases List.mem_append.mp member with letter | digit
    · exact absurd (isAsciiLetter_of_mem_columnLetters letter) (by decide)
    · exact absurd (Nat.isDigit_of_mem_toDigits (by decide) (by decide) digit) (by decide)
  some_letters := columnLetters_ne_nil column
  only_letters _ := isAsciiLetter_of_mem_columnLetters
  some_digits := Nat.toDigits_ne_nil
  only_digits c member := by
    rw [isAsciiDigit_eq]
    exact Nat.isDigit_of_mem_toDigits (by decide) (by decide) member

theorem columnNumber_columnLetters (column : Nat) : columnNumber (columnLetters column) = column + 1 := by
  rw [← lettersValue_eq_columnNumber fun _ => isAsciiLetter_of_mem_columnLetters, lettersValue_columnLetters]

/-- A reference is read back as the position that it was written for, if the numbers in it have 64 bits. -/
theorem position?_reference (row_fits : row + 1 < positionBound) (column_fits : column + 1 < positionBound) :
    position? (reference row column) = some (row, column) :=
  position?_of_isReference (isReference_reference row column)
    ⟨Nat.ofDigitChars_ten_toDigits, row_fits, columnNumber_columnLetters column, column_fits⟩

theorem reference_of_denotes (is_reference : IsReference text letters digits)
    (denotes : DenotesPosition letters digits row column) :
    reference row column = String.ofList (letters.map Char.toUpper ++ digits.dropWhile (· = '0')) := by
  have read := is_reference.readDigits?
  rw [denotes.row_number] at read
  rw [← String.ofList_toList (s := reference row column), toList_reference, dropWhile_zero read (Nat.succ_ne_zero row),
    columnLetters_of_columnNumber is_reference.some_letters is_reference.only_letters denotes.column_number]

/-- References and the positions whose numbers have 64 bits correspond to each other. A position is found again in the
reference that is written for it. A text is read as a position exactly if it is, its dollar signs apart, letters and
digits that denote the position, and then the reference that is written for the position is the text with capitals and
without the zeros in front of its digits. -/
theorem position?_inverts_reference :
    (∀ row column, row + 1 < 2 ^ 64 → column + 1 < 2 ^ 64 → position? (reference row column) = some (row, column)) ∧
      ∀ text row column,
        (position? text = some (row, column) ↔
          ∃ letters digits, IsReference text letters digits ∧ DenotesPosition letters digits row column) ∧
        ∀ letters digits, IsReference text letters digits → position? text = some (row, column) →
          reference row column = String.ofList (letters.map Char.toUpper ++ digits.dropWhile (· = '0')) := by
  refine ⟨fun row column row_fits column_fits => position?_reference row_fits column_fits, fun text row column => ?_⟩
  refine ⟨position?_eq_some_iff, fun letters digits is_reference found => ?_⟩
  obtain ⟨other_letters, other_digits, other_reference, denotes⟩ := position?_eq_some_iff.mp found
  obtain ⟨rfl, rfl⟩ : letters = other_letters ∧ digits = other_digits := other_reference.unique is_reference
  exact reference_of_denotes is_reference denotes

/-- The last position of all, and a reference with dollar signs, a small letter and zeros. -/
theorem position?_inverts_anchored :
    position? (reference (2 ^ 64 - 2) (2 ^ 64 - 2)) = some (2 ^ 64 - 2, 2 ^ 64 - 2) ∧
      IsReference "$aB$007" ['a', 'B'] ['0', '0', '7'] ∧ position? "$aB$007" = some (6, 27) ∧
      reference 6 27 = "AB7" := by
  have is_reference : IsReference "$aB$007" ['a', 'B'] ['0', '0', '7'] :=
    ⟨by decide, by decide, List.all_eq_true.mp (by decide), by decide, List.all_eq_true.mp (by decide)⟩
  have denotes : DenotesPosition ['a', 'B'] ['0', '0', '7'] 6 27 := ⟨by decide, by decide, by decide, by decide⟩
  have found := ((position?_inverts_reference.2 "$aB$007" 6 27).1).mpr ⟨_, _, is_reference, denotes⟩
  exact ⟨position?_inverts_reference.1 _ _ (by norm_num) (by norm_num), is_reference, found,
    (position?_inverts_reference.2 "$aB$007" 6 27).2 _ _ is_reference found⟩

end Tablesmith.Grid
