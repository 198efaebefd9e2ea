/-!
# Kinds of characters

A property of characters is written down as inclusive ranges of code points in rising order. White
space is what has the Unicode property `White_Space`, and can be stripped off either end of a text. Names of types, file
extensions and key markers are compared without regard to the case of the 26 ASCII letters; no other character has a
second case here.
-/

namespace Tablesmith.Text

/-- Inclusive ranges of code points. -/
abbrev CharRanges := List (Nat × Nat)

def CharRanges.contains (ranges : CharRanges) (c : Char) : Bool :=
  ranges.any fun range => range.1 ≤ c.toNat && c.toNat ≤ range.2

/-- Of the ASCII letters each capital stands 32 code points before its small letter. -/
theorem toNat_toLower (c : Char) : c.toLower.toNat = if 65 ≤ c.toNat ∧ c.toNat ≤ 90 then c.toNat + 32 else c.toNat := by
  unfold Char.toLower
  have range : (c.val ≥ 'A'.val ∧ c.val ≤ 'Z'.val) ↔ 65 ≤ c.toNat ∧ c.toNat ≤ 90 := by
    simp only [ge_iff_le, UInt32.le_iff_toNat_le]
    rfl
  split
  · next capital =>
    have bounds := range.mp capital
    rw [if_pos bounds]
    show (c.val + ('a'.val - 'A'.val)).toNat = c.val.toNat + 32
    have : c.val.toNat = c.toNat := rfl
    rw [UInt32.toNat_add]
    have : ('a'.val - 'A'.val).toNat = 32 := rfl
    omega
  · next other => rw [if_neg (mt range.mpr other)]

theorem toLower_of_not_capital {c : Char} (no_capital : ¬ (65 ≤ c.toNat ∧ c.toNat ≤ 90)) : c.toLower = c := by
  rw [← Char.toNat_inj, toNat_toLower, if_neg no_capital]

/-- Every ASCII capital of the text becomes its small letter, and nothing else changes. -/
def lowerAscii (text : String) : String :=
  String.ofList (text.toList.map Char.toLower)

/-- Equality up to the case of ASCII letters. -/
def sameAscii (left right : String) : Bool :=
  left.toList.map Char.toLower == right.toList.map Char.toLower

theorem sameAscii_iff {left right : String} :
    sameAscii left right = true ↔ left.toList.map Char.toLower = right.toList.map Char.toLower := by
  rw [sameAscii, beq_iff_eq]

def isAsciiLetter (c : Char) : Bool :=
  ('a' ≤ c && c ≤ 'z') || ('A' ≤ c && c ≤ 'Z')

def isAsciiDigit (c : Char) : Bool :=
  '0' ≤ c && c ≤ '9'

/-- The value of an ASCII decimal digit. -/
def digitValue (c : Char) : Nat :=
  c.toNat - '0'.toNat

/-- The code points with the property `White_Space`. -/
def blankRanges : CharRanges :=
  [(0x9, 0xd), (0x20, 0x20), (0x85, 0x85), (0xa0, 0xa0), (0x1680, 0x1680), (0x2000, 0x200a),
    (0x2028, 0x2029), (0x202f, 0x202f), (0x205f, 0x205f), (0x3000, 0x3000)]

/-- White space of any script. -/
def isBlank (c : Char) : Bool :=
  blankRanges.contains c

/-- The characters from the first one that is not white space. -/
def dropBlankStart (chars : List Char) : List Char :=
  chars.dropWhile isBlank

/-- The characters up to the last one that is not white space. -/
def dropBlankEnd (chars : List Char) : List Char :=
  (chars.reverse.dropWhile isBlank).reverse

/-- The text without white space at either end. -/
def trim (text : String) : String :=
  String.ofList (dropBlankEnd (dropBlankStart text.toList))

/-- Nothing but white space, or nothing at all. -/
def isAllBlank (text : String) : Bool :=
  text.toList.all isBlank

end Tablesmith.Text
