import Mathlib
import Tablesmith.Json.Basic

/-!
# The grammar of JSON

Which characters write which value. A value that is written with white space around it
is a JSON text (`IsText`). What a string says is a matter of its own: the grammar allows
half a pair of surrogates, which says nothing (`Spells`).
-/

namespace Tablesmith.Json

/-- White space between tokens. -/
def IsGap (chars : List Char) : Prop :=
  ∀ c ∈ chars, c ∈ [' ', '\t', '\n', '\r']

/-- At least one decimal digit. -/
def IsDigits (chars : List Char) : Prop :=
  chars ≠ [] ∧ ∀ c ∈ chars, c.isDigit = true

/-- The character is the hexadecimal digit of the number, in small or in capital letters. -/
def IsHexDigit (c : Char) (number : Nat) : Prop :=
  "0123456789abcdef".toList[number]? = some c ∨ "0123456789ABCDEF".toList[number]? = some c

/-- Four hexadecimal digits write the number. -/
def IsUnit (a b c d : Char) (unit : Nat) : Prop :=
  ∃ first second third fourth, IsHexDigit a first ∧ IsHexDigit b second ∧ IsHexDigit c third ∧ IsHexDigit d fourth ∧
    unit = ((first * 16 + second) * 16 + third) * 16 + fourth

/-- The letters that stand for a character behind a backslash. -/
def shortEscapes : List (Char × Char) :=
  [('"', '"'), ('\\', '\\'), ('/', '/'), ('b', '\x08'), ('f', '\x0c'), ('n', '\n'), ('r', '\r'), ('t', '\t')]

/-- The character stands for itself between quotes. -/
def IsPlain (c : Char) : Prop :=
  0x20 ≤ c.toNat ∧ c ≠ '"' ∧ c ≠ '\\'

/-- What may stand between quotes. -/
inductive IsBody : List Char → Prop
  | nil : IsBody []
  | plain {c : Char} {written : List Char} (is_plain : IsPlain c) (rest : IsBody written) : IsBody (c :: written)
  | short {letter c : Char} {written : List Char} (known : (letter, c) ∈ shortEscapes) (rest : IsBody written) :
    IsBody ('\\' :: letter :: written)
  | unit {a b c d : Char} {unit : Nat} {written : List Char} (digits : IsUnit a b c d unit) (rest : IsBody written) :
    IsBody ('\\' :: 'u' :: a :: b :: c :: d :: written)

/-- What stands between quotes says the text: an escape may give a character by its number, or by the two halves that it
has in UTF-16. -/
inductive Spells : List Char → List Char → Prop
  | nil : Spells [] []
  | plain {c : Char} {text written : List Char} (is_plain : IsPlain c) (rest : Spells text written) :
    Spells (c :: text) (c :: written)
  | short {letter c : Char} {text written : List Char} (known : (letter, c) ∈ shortEscapes) (rest : Spells text written) :
    Spells (c :: text) ('\\' :: letter :: written)
  | unit {a b c d : Char} {unit : Nat} {text written : List Char} (digits : IsUnit a b c d unit)
    (whole : unit < 0xd800 ∨ 0xe000 ≤ unit) (rest : Spells text written) :
    Spells (Char.ofNat unit :: text) ('\\' :: 'u' :: a :: b :: c :: d :: written)
  | pair {a b c d e f g h : Char} {leading trailing : Nat} {text written : List Char} (digits : IsUnit a b c d leading)
    (first : 0xd800 ≤ leading ∧ leading < 0xdc00) (others : IsUnit e f g h trailing)
    (second : 0xdc00 ≤ trailing ∧ trailing < 0xe000) (rest : Spells text written) :
    Spells (Char.ofNat (0x10000 + (leading - 0xd800) * 0x400 + (trailing - 0xdc00)) :: text)
      ('\\' :: 'u' :: a :: b :: c :: d :: '\\' :: 'u' :: e :: f :: g :: h :: written)

/-- Zero, or digits that do not begin with zero. -/
def IsWhole (chars : List Char) : Prop :=
  chars = ['0'] ∨ IsDigits chars ∧ chars.head? ≠ some '0'

/-- Nothing, or digits behind a point. -/
def IsFraction (chars : List Char) : Prop :=
  chars = [] ∨ ∃ digits, chars = '.' :: digits ∧ IsDigits digits

/-- Nothing, or digits behind a mark and maybe a sign. -/
def IsExponent (chars : List Char) : Prop :=
  chars = [] ∨ ∃ mark sign digits, chars = mark :: (sign ++ digits) ∧ (mark = 'e' ∨ mark = 'E') ∧
    (sign = [] ∨ sign = ['+'] ∨ sign = ['-']) ∧ IsDigits digits

/-- A number without its sign. -/
def IsUnsigned (chars : List Char) : Prop :=
  ∃ whole fraction exponent, chars = whole ++ (fraction ++ exponent) ∧ IsWhole whole ∧ IsFraction fraction ∧ IsExponent exponent

/-- A number, maybe with a minus sign. -/
def IsNumber (chars : List Char) : Prop :=
  IsUnsigned chars ∨ ∃ rest, chars = '-' :: rest ∧ IsUnsigned rest

mutual

/-- The characters write the value. -/
inductive IsValue : Json → List Char → Prop
  | null : IsValue .null ['n', 'u', 'l', 'l']
  | isTrue : IsValue (.bool true) ['t', 'r', 'u', 'e']
  | isFalse : IsValue (.bool false) ['f', 'a', 'l', 's', 'e']
  | number {written : List Char} (is_number : IsNumber written) : IsValue (.number written) written
  | string {written : List Char} (is_body : IsBody written) : IsValue (.string written) ('"' :: (written ++ ['"']))
  | noElements {gap : List Char} (is_gap : IsGap gap) : IsValue (.array []) ('[' :: (gap ++ [']']))
  | array {elements : List Json} {chars : List Char} (are_elements : IsElements elements chars) :
    IsValue (.array elements) ('[' :: (chars ++ [']']))
  | noMembers {gap : List Char} (is_gap : IsGap gap) : IsValue (.object []) ('\x7b' :: (gap ++ ['\x7d']))
  | object {members : List (List Char × Json)} {chars : List Char} (are_members : IsMembers members chars) :
    IsValue (.object members) ('\x7b' :: (chars ++ ['\x7d']))

/-- The characters write the value, with white space around it. -/
inductive IsPadded : Json → List Char → Prop
  | pad {value : Json} {before chars after : List Char} (gap_before : IsGap before) (is_value : IsValue value chars)
    (gap_after : IsGap after) : IsPadded value (before ++ (chars ++ after))

/-- The characters write the elements of an array, of which there is at least one. -/
inductive IsElements : List Json → List Char → Prop
  | last {element : Json} {chars : List Char} (is_element : IsPadded element chars) : IsElements [element] chars
  | more {element : Json} {elements : List Json} {chars others : List Char} (is_element : IsPadded element chars)
    (rest : IsElements elements others) : IsElements (element :: elements) (chars ++ ',' :: others)

/-- The characters write a name and its value. -/
inductive IsMember : List Char × Json → List Char → Prop
  | pad {name : List Char} {value : Json} {before after chars : List Char} (gap_before : IsGap before) (is_name : IsBody name)
    (gap_after : IsGap after) (is_value : IsPadded value chars) :
    IsMember (name, value) (before ++ '"' :: (name ++ '"' :: (after ++ ':' :: chars)))

/-- The characters write the members of an object, of which there is at least one. -/
inductive IsMembers : List (List Char × Json) → List Char → Prop
  | last {member : List Char × Json} {chars : List Char} (is_member : IsMember member chars) : IsMembers [member] chars
  | more {member : List Char × Json} {members : List (List Char × Json)} {chars others : List Char}
    (is_member : IsMember member chars) (rest : IsMembers members others) : IsMembers (member :: members) (chars ++ ',' :: others)

end

/-- The text is a JSON text of the value. -/
def IsText (text : String) (value : Json) : Prop :=
  IsPadded value text.toList

variable {chars gap written : List Char} {value : Json} {text : List Char}

theorem IsGap.append (first : IsGap chars) (second : IsGap gap) : IsGap (chars ++ gap) :=
  List.forall_mem_append.mpr ⟨first, second⟩

theorem isGap_nil : IsGap [] :=
  List.forall_mem_nil _

theorem IsPadded.append_left (padded : IsPadded value chars) (before : IsGap gap) : IsPadded value (gap ++ chars) := by
  cases padded with
  | pad first written after =>
    rw [← List.append_assoc]
    exact .pad (before.append first) written after

theorem IsElements.append_left {elements : List Json} (are_elements : IsElements elements chars) (before : IsGap gap) :
    IsElements elements (gap ++ chars) := by
  cases are_elements with
  | last element => exact .last (element.append_left before)
  | more element rest =>
    rw [← List.append_assoc]
    exact .more (element.append_left before) rest

theorem IsMember.append_left {member : List Char × Json} (is_member : IsMember member chars) (before : IsGap gap) :
    IsMember member (gap ++ chars) := by
  cases is_member with
  | pad first name after written =>
    rw [← List.append_assoc]
    exact .pad (before.append first) name after written

theorem IsMembers.append_left {members : List (List Char × Json)} (are_members : IsMembers members chars) (before : IsGap gap) :
    IsMembers members (gap ++ chars) := by
  cases are_members with
  | last member => exact .last (member.append_left before)
  | more member rest =>
    rw [← List.append_assoc]
    exact .more (member.append_left before) rest

/-- What says a text can stand between quotes. -/
theorem Spells.isBody (spells : Spells text written) : IsBody written := by
  induction spells with
  | nil => exact .nil
  | plain plain _ ih => exact .plain plain ih
  | short known _ ih => exact .short known ih
  | unit digits _ _ ih => exact .unit digits ih
  | pair digits _ others _ _ ih => exact .unit digits (.unit others ih)

end Tablesmith.Json
