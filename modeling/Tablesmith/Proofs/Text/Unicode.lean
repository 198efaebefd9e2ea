import Mathlib
import Tablesmith.Text.Encoding.Basic
import Tablesmith.Xml.Content
import Tablesmith.Xml.Document

/-!
# Texts in bytes and code units

The code units of a text in UTF-16 decode to the text. Code units that are decoded in parts
give other characters than the whole exactly if the end of a part cuts a pair of
surrogates in two (`flatMap_decodeUnits_iff`): each half alone is replaced, and the
parts have more characters together than the whole. A text is read back from its bytes
in UTF-8, and a byte below 128 among them is a character of ASCII that the text has.
-/

namespace Tablesmith.Text.Encoding

variable {unit : Nat} {units rest : List Nat}

/-- No character is a surrogate, and none is beyond 17 planes. -/
theorem toNat_scalar (c : Char) : c.toNat < 0xd800 ∨ 0xdfff < c.toNat ∧ c.toNat < 0x110000 :=
  c.valid

/-- The code units of a character. -/
def charUnits (c : Char) : List Nat :=
  if c.toNat < 0x10000 then [c.toNat]
  else [0xd800 + (c.toNat - 0x10000) / 0x400, 0xdc00 + (c.toNat - 0x10000) % 0x400]

/-- The code units of a text. -/
def textUnits (text : List Char) : List Nat :=
  text.flatMap charUnits

theorem textUnits_lt {text : List Char} {unit : Nat} (member : unit ∈ textUnits text) : unit < 256 ^ 2 := by
  obtain ⟨c, -, member⟩ := List.mem_flatMap.mp member
  have scalar := toNat_scalar c
  unfold charUnits at member
  split at member <;> simp only [List.mem_cons, List.not_mem_nil, or_false] at member <;> omega

theorem decodeUnits_cons (single : isLeading unit = false) (rest : List Nat) :
    decodeUnits (unit :: rest) = unitChar unit :: decodeUnits rest := by
  cases rest with
  | nil => rfl
  | cons next rest => simp [decodeUnits, single]

theorem decodeUnits_pair {leading trailing : Nat} (first : isLeading leading = true) (second : isTrailing trailing = true)
    (rest : List Nat) : decodeUnits (leading :: trailing :: rest) = pairChar leading trailing :: decodeUnits rest := by
  simp [decodeUnits, first, second]

theorem isLeading_iff : isLeading unit = true ↔ 0xd800 ≤ unit ∧ unit < 0xdc00 := by
  simp [isLeading]

theorem isTrailing_iff : isTrailing unit = true ↔ 0xdc00 ≤ unit ∧ unit < 0xe000 := by
  simp [isTrailing]

theorem isLeading_of_isTrailing (second : isTrailing unit = true) : isLeading unit = false := by
  rw [isTrailing_iff] at second
  rw [Bool.eq_false_iff, ne_eq, isLeading_iff]
  omega

/-- No character is half of a pair. -/
theorem toNat_not_half (c : Char) : isLeading c.toNat = false ∧ isTrailing c.toNat = false := by
  have scalar := toNat_scalar c
  constructor
  · rw [Bool.eq_false_iff, ne_eq, isLeading_iff]
    omega
  · rw [Bool.eq_false_iff, ne_eq, isTrailing_iff]
    omega

theorem decodeUnits_charUnits (c : Char) (rest : List Nat) : decodeUnits (charUnits c ++ rest) = c :: decodeUnits rest := by
  unfold charUnits
  split
  · obtain ⟨not_leading, not_trailing⟩ := toNat_not_half c
    rw [List.singleton_append, decodeUnits_cons not_leading]
    simp [unitChar, not_leading, not_trailing]
  · next large =>
    have scalar := toNat_scalar c
    have first : isLeading (0xd800 + (c.toNat - 0x10000) / 0x400) = true := by
      rw [isLeading_iff]
      omega
    have second : isTrailing (0xdc00 + (c.toNat - 0x10000) % 0x400) = true := by
      rw [isTrailing_iff]
      omega
    have number : 0x10000 + (0xd800 + (c.toNat - 0x10000) / 0x400 - 0xd800) * 0x400 +
        (0xdc00 + (c.toNat - 0x10000) % 0x400 - 0xdc00) = c.toNat := by omega
    rw [List.cons_append, List.singleton_append, decodeUnits_pair first second, pairChar, number, Char.ofNat_toNat]

theorem decodeUnits_textUnits (text : List Char) : decodeUnits (textUnits text) = text := by
  induction text with
  | nil => rfl
  | cons c text ih => rw [textUnits, List.flatMap_cons, decodeUnits_charUnits, ← textUnits, ih]

/-- Units that are not beyond the surrogates are characters by themselves. -/
theorem decodeUnits_of_small (small : ∀ unit ∈ units, unit < 0xd800) : decodeUnits units = units.map Char.ofNat := by
  induction units with
  | nil => rfl
  | cons unit units ih =>
    obtain ⟨unit_small, rest_small⟩ := List.forall_mem_cons.mp small
    have not_leading : isLeading unit = false := by
      rw [Bool.eq_false_iff, ne_eq, isLeading_iff]
      omega
    have not_trailing : isTrailing unit = false := by
      rw [Bool.eq_false_iff, ne_eq, isTrailing_iff]
      omega
    rw [decodeUnits_cons not_leading, ih rest_small]
    simp [unitChar, not_leading, not_trailing]

/-- The units end with the first half of a pair. -/
def EndsOpen (units : List Nat) : Prop :=
  ∃ unit, units.getLast? = some unit ∧ isLeading unit = true

/-- The units begin with the second half of a pair. -/
def BeginsClosing (units : List Nat) : Prop :=
  ∃ unit, units.head? = some unit ∧ isTrailing unit = true

theorem endsOpen_cons (filled : units ≠ []) : EndsOpen (unit :: units) ↔ EndsOpen units := by
  simp [EndsOpen, List.getLast?_cons_of_ne_nil filled]

theorem endsOpen_append (filled : rest ≠ []) : EndsOpen (units ++ rest) ↔ EndsOpen rest := by
  simp [EndsOpen, List.getLast?_append_of_ne_nil units filled]

/-- Apart from a pair that is cut, units can be decoded in two parts. -/
theorem decodeUnits_append (uncut : ¬ (EndsOpen units ∧ BeginsClosing rest)) :
    decodeUnits (units ++ rest) = decodeUnits units ++ decodeUnits rest := by
  induction units using decodeUnits.induct with
  | case1 => rfl
  | case2 unit =>
    cases rest with
    | nil => rfl
    | cons next rest =>
      have no_pair : (isLeading unit && isTrailing next) = false := by
        rw [Bool.eq_false_iff]
        intro pair
        rw [Bool.and_eq_true] at pair
        exact uncut ⟨⟨unit, rfl, pair.1⟩, ⟨next, rfl, pair.2⟩⟩
      simp [decodeUnits, no_pair]
  | case3 unit next units pair ih =>
    rw [Bool.and_eq_true] at pair
    have rest_uncut : ¬ (EndsOpen units ∧ BeginsClosing rest) := by
      rintro ⟨opens, closes⟩
      have filled : units ≠ [] := by
        rintro rfl
        obtain ⟨_, last, _⟩ := opens
        cases last
      exact uncut ⟨(endsOpen_cons (by simp)).mpr ((endsOpen_cons filled).mpr opens), closes⟩
    rw [List.cons_append, List.cons_append, decodeUnits_pair pair.1 pair.2, decodeUnits_pair pair.1 pair.2, ih rest_uncut,
      List.cons_append]
  | case4 unit next units no_pair ih =>
    have same_end : EndsOpen (unit :: next :: units) ↔ EndsOpen (next :: units) := endsOpen_cons (by simp)
    have rest_uncut : ¬ (EndsOpen (next :: units) ∧ BeginsClosing rest) := by
      rwa [← same_end]
    have whole := ih rest_uncut
    simp only [List.cons_append] at whole ⊢
    simp [decodeUnits, no_pair, whole]

/-- Of a pair that is cut each half alone is replaced. -/
theorem length_decodeUnits_append_of_cut (opens : EndsOpen units) (closes : BeginsClosing rest) :
    (decodeUnits (units ++ rest)).length + 1 = (decodeUnits units).length + (decodeUnits rest).length := by
  induction units using decodeUnits.induct with
  | case1 =>
    obtain ⟨_, last, _⟩ := opens
    cases last
  | case2 unit =>
    obtain ⟨_, last, leading⟩ := opens
    obtain ⟨next, first, trailing⟩ := closes
    rw [List.getLast?_singleton, Option.some.injEq] at last
    subst last
    obtain ⟨rest, rfl⟩ := List.head?_eq_some_iff.mp first
    rw [List.singleton_append, decodeUnits_pair leading trailing, decodeUnits_cons (isLeading_of_isTrailing trailing)]
    simp [decodeUnits]
    omega
  | case3 unit next units pair ih =>
    rw [Bool.and_eq_true] at pair
    have filled : units ≠ [] := by
      rintro rfl
      obtain ⟨_, last, leading⟩ := opens
      rw [List.getLast?_cons_cons, List.getLast?_singleton, Option.some.injEq] at last
      rw [← last, isLeading_of_isTrailing pair.2] at leading
      cases leading
    have rest_opens : EndsOpen units := (endsOpen_cons filled).mp ((endsOpen_cons (by simp)).mp opens)
    have rest_length := ih rest_opens
    rw [List.cons_append, List.cons_append, decodeUnits_pair pair.1 pair.2, decodeUnits_pair pair.1 pair.2,
      List.length_cons, List.length_cons]
    omega
  | case4 unit next units no_pair ih =>
    have rest_length := ih ((endsOpen_cons (by simp)).mp opens)
    simp only [List.cons_append] at rest_length ⊢
    simp only [decodeUnits, no_pair, Bool.false_eq_true, ↓reduceIte, List.length_cons]
    omega

theorem length_decodeUnits_append_le (units rest : List Nat) :
    (decodeUnits (units ++ rest)).length ≤ (decodeUnits units).length + (decodeUnits rest).length := by
  by_cases cut : EndsOpen units ∧ BeginsClosing rest
  · have := length_decodeUnits_append_of_cut cut.1 cut.2
    omega
  · rw [decodeUnits_append cut, List.length_append]

theorem length_decodeUnits_flatten_le (parts : List (List Nat)) :
    (decodeUnits parts.flatten).length ≤ (parts.flatMap decodeUnits).length := by
  induction parts with
  | nil => simp [decodeUnits]
  | cons part parts ih =>
    have first := length_decodeUnits_append_le part parts.flatten
    rw [List.flatten_cons, List.flatMap_cons, List.length_append]
    omega

/-- The end of some part cuts a pair in two. -/
def CutsPair (parts : List (List Nat)) : Prop :=
  ∃ before after, parts = before ++ after ∧ EndsOpen before.flatten ∧ BeginsClosing after.flatten

/-- Parts that are decoded one by one give the characters of the whole exactly if no pair is cut. -/
theorem flatMap_decodeUnits_iff {parts : List (List Nat)} :
    parts.flatMap decodeUnits = decodeUnits parts.flatten ↔ ¬ CutsPair parts := by
  constructor
  · rintro same ⟨before, after, rfl, opens, closes⟩
    have lost := length_decodeUnits_append_of_cut opens closes
    have before_le := length_decodeUnits_flatten_le before
    have after_le := length_decodeUnits_flatten_le after
    have lengths := congrArg List.length same
    rw [List.flatMap_append, List.length_append, List.flatten_append] at lengths
    omega
  · intro uncut
    induction parts with
    | nil => rfl
    | cons part parts ih =>
      have part_uncut : ¬ (EndsOpen part ∧ BeginsClosing parts.flatten) := by
        rintro ⟨opens, closes⟩
        exact uncut ⟨[part], parts, rfl, by simpa using opens, closes⟩
      have rest_uncut : ¬ CutsPair parts := by
        rintro ⟨before, after, rfl, opens, closes⟩
        have filled : before.flatten ≠ [] := by
          intro empty
          obtain ⟨_, last, _⟩ := opens
          rw [empty] at last
          cases last
        refine uncut ⟨part :: before, after, rfl, ?_, closes⟩
        rw [List.flatten_cons]
        exact (endsOpen_append filled).mpr opens
      rw [List.flatMap_cons, List.flatten_cons, decodeUnits_append part_uncut, ih rest_uncut]

end Tablesmith.Text.Encoding

namespace Tablesmith

theorem fromUTF8?_toUTF8 (text : String) : String.fromUTF8? text.toUTF8 = some text := by
  rw [String.fromUTF8?, String.toUTF8_eq_toByteArray, dif_pos text.isValidUTF8]
  rfl

theorem eq_toUTF8_of_fromUTF8? {bytes : ByteArray} {text : String} (decoded : String.fromUTF8? bytes = some text) :
    bytes = text.toUTF8 := by
  unfold String.fromUTF8? at decoded
  split at decoded
  · cases decoded
    rfl
  · cases decoded

namespace Xml

variable {chars : List Char} {byte : UInt8}

/-- The bytes of characters. -/
def utf8 (chars : List Char) : List UInt8 :=
  name (String.ofList chars)

theorem decode?_utf8 (chars : List Char) : decode? (utf8 chars) = some chars := by
  have bytes : (⟨(utf8 chars).toArray⟩ : ByteArray) = (String.ofList chars).toUTF8 := by
    rw [utf8, name, Array.toArray_toList]
  rw [decode?, bytes, fromUTF8?_toUTF8, Option.map_some, String.toList_ofList]

theorem utf8_eq_flatMap (chars : List Char) : utf8 chars = chars.flatMap String.utf8EncodeChar := by
  rw [utf8, name, String.toUTF8_eq_toByteArray, String.toByteArray_ofList, List.utf8Encode, List.data_toByteArray]

theorem toNat_of_mem_utf8EncodeChar {c : Char} (member : byte ∈ String.utf8EncodeChar c) (ascii : byte.toNat < 128) :
    c.toNat = byte.toNat := by
  have scalar := Text.Encoding.toNat_scalar c
  have value : c.val.toNat = c.toNat := rfl
  simp only [String.utf8EncodeChar, value] at member
  -- Every byte of a character behind the first 128 is at least 128.
  split_ifs at member <;> simp only [List.mem_cons, List.not_mem_nil, or_false] at member
  · rw [member, UInt8.toNat_ofNat']
    omega
  all_goals
    exfalso
    rcases member with rfl | rfl | rfl | rfl <;> simp only [UInt8.toNat_ofNat'] at ascii <;> omega

/-- A byte of ASCII is a character. -/
theorem exists_of_mem_utf8 (member : byte ∈ utf8 chars) (ascii : byte.toNat < 128) : ∃ c ∈ chars, c.toNat = byte.toNat := by
  rw [utf8_eq_flatMap] at member
  obtain ⟨c, c_member, written⟩ := List.mem_flatMap.mp member
  exact ⟨c, c_member, toNat_of_mem_utf8EncodeChar written ascii⟩

end Xml

end Tablesmith
