import Mathlib
import Tablesmith.Json.Basic
import Tablesmith.Proofs.Json.Reading

/-!
# What is printed

A proper value, whose strings and numbers are written as the grammar asks, is read again from the text
that it is printed as (`read?_write`). Every text has a string that says it (`spells_escape`).
-/

namespace Tablesmith.Json

variable {value : Json} {text written : List Char}

/-- The value's strings, names and numbers are written as the grammar asks. -/
inductive IsProper : Json → Prop
  | null : IsProper .null
  | bool (value : Bool) : IsProper (.bool value)
  | number {written : List Char} (is_number : IsNumber written) : IsProper (.number written)
  | string {written : List Char} (is_body : IsBody written) : IsProper (.string written)
  | array {elements : List Json} (proper : ∀ element ∈ elements, IsProper element) : IsProper (.array elements)
  | object {members : List (List Char × Json)} (names : ∀ member ∈ members, IsBody member.1)
    (values : ∀ member ∈ members, IsProper member.2) : IsProper (.object members)

/-- The value is printed as the grammar asks, on whatever line it begins. -/
def IsPrinted (value : Json) : Prop :=
  ∀ level, IsValue value (print level value)

theorem isGap_newline (level : Nat) : IsGap (newline level) := by
  intro c member
  rcases List.mem_cons.mp member with rfl | member
  · decide
  · rw [List.eq_of_mem_replicate member]
    decide

theorem isElements_print (level : Nat) {after : List Char} (is_gap : IsGap after) (rest : List Json) {element : Json}
    (printed : ∀ other ∈ element :: rest, IsPrinted other) :
    IsElements (element :: rest) (newline level ++ (print level element ++ (printElements level rest ++ after))) := by
  induction rest generalizing element with
  | nil => exact .last (.pad (isGap_newline level) (printed element List.mem_cons_self level) is_gap)
  | cons next rest ih =>
    obtain ⟨first, others⟩ := List.forall_mem_cons.mp printed
    have is_element : IsPadded element (newline level ++ (print level element ++ [])) :=
      .pad (isGap_newline level) (first level) isGap_nil
    have more := IsElements.more is_element (ih others)
    simpa [printElements] using more

theorem isMember_print (level : Nat) {name after : List Char} (is_name : IsBody name) (printed : IsPrinted value)
    (is_gap : IsGap after) :
    IsMember (name, value) (newline level ++ (quote name ++ ':' :: ' ' :: (print level value ++ after))) := by
  have is_value : IsPadded value ([' '] ++ (print level value ++ after)) :=
    .pad (by simp [IsGap]) (printed level) is_gap
  have is_member := IsMember.pad (isGap_newline level) is_name isGap_nil is_value
  simpa [quote] using is_member

theorem isMembers_print (level : Nat) {after : List Char} (is_gap : IsGap after) (rest : List (List Char × Json))
    {name : List Char} (names : ∀ member ∈ (name, value) :: rest, IsBody member.1)
    (printed : ∀ member ∈ (name, value) :: rest, IsPrinted member.2) :
    IsMembers ((name, value) :: rest)
      (newline level ++ (quote name ++ ':' :: ' ' :: (print level value ++ (printMembers level rest ++ after)))) := by
  induction rest generalizing name value with
  | nil =>
    obtain ⟨is_name, _⟩ := List.forall_mem_cons.mp names
    obtain ⟨first, _⟩ := List.forall_mem_cons.mp printed
    exact .last (isMember_print level is_name first is_gap)
  | cons next rest ih =>
    obtain ⟨is_name, other_names⟩ := List.forall_mem_cons.mp names
    obtain ⟨first, others⟩ := List.forall_mem_cons.mp printed
    have more := IsMembers.more (isMember_print level is_name first isGap_nil) (ih other_names others)
    simpa [printMembers] using more

theorem IsProper.isPrinted (proper : IsProper value) : IsPrinted value := by
  induction proper with
  | null => exact fun _ => .null
  | bool value =>
    cases value with
    | false => exact fun _ => .isFalse
    | true => exact fun _ => .isTrue
  | number is_number => exact fun _ => .number is_number
  | string is_body => exact fun _ => .string is_body
  | @array elements _ printed =>
    intro level
    cases elements with
    | nil => exact .noElements isGap_nil
    | cons element rest =>
      have elements := isElements_print (level + 1) (isGap_newline level) rest printed
      simpa [print] using IsValue.array elements
  | @object members names _ printed =>
    intro level
    cases members with
    | nil => exact .noMembers isGap_nil
    | cons member rest =>
      obtain ⟨name, value⟩ := member
      have members := isMembers_print (level + 1) (isGap_newline level) rest names printed
      simpa [print] using IsValue.object members

theorem IsProper.isText_write (proper : IsProper value) : IsText value.write value := by
  have padded := IsPadded.pad isGap_nil (proper.isPrinted 0) isGap_nil
  rw [IsText, write, String.toList_ofList]
  simpa using padded

/-- What is printed is read again. -/
theorem read?_write (proper : IsProper value) : read? value.write = some value :=
  read?_eq_some_iff.mpr proper.isText_write

theorem isHexDigit_hexDigit : ∀ n : Fin 16, IsHexDigit (hexDigit n) n := by
  decide

theorem spells_escapeChar (c : Char) (rest : Spells text written) : Spells (c :: text) (escapeChar c ++ written) := by
  unfold escapeChar
  split_ifs with quote escape backspace tab line page carriage control
  · exact .short (by rw [quote]; decide) rest
  · exact .short (by rw [escape]; decide) rest
  · exact .short (by rw [backspace]; decide) rest
  · exact .short (by rw [tab]; decide) rest
  · exact .short (by rw [line]; decide) rest
  · exact .short (by rw [page]; decide) rest
  · exact .short (by rw [carriage]; decide) rest
  · have digits : IsUnit '0' '0' (hexDigit (c.toNat / 16)) (hexDigit (c.toNat % 16)) c.toNat :=
      ⟨0, 0, c.toNat / 16, c.toNat % 16, by decide, by decide, isHexDigit_hexDigit ⟨c.toNat / 16, by omega⟩,
        isHexDigit_hexDigit ⟨c.toNat % 16, by omega⟩, by omega⟩
    have spells := Spells.unit digits (by omega) rest
    rwa [Char.ofNat_toNat] at spells
  · exact .plain ⟨Nat.le_of_not_lt control, quote, escape⟩ rest

/-- A text is said by how it is escaped. -/
theorem spells_escape (text : List Char) : Spells text (escape text) := by
  induction text with
  | nil => exact .nil
  | cons c text ih => exact spells_escapeChar c ih

theorem isBody_escape (text : List Char) : IsBody (escape text) :=
  (spells_escape text).isBody

/-- A string says one text at most. -/
theorem Spells.unique {other : List Char} (spells : Spells text written) (spells_other : Spells other written) :
    text = other := by
  have read := unescape?_eq_some_iff.mpr spells
  rw [unescape?_eq_some_iff.mpr spells_other] at read
  exact (Option.some.inj read).symm

theorem isProper_ofText (text : String) : IsProper (ofText text) :=
  .string (isBody_escape text.toList)

theorem isProper_ofMembers {members : List (String × Json)} (proper : ∀ member ∈ members, IsProper member.2) :
    IsProper (ofMembers members) := by
  refine .object ?_ ?_
  · intro written member
    obtain ⟨named, _, rfl⟩ := List.mem_map.mp member
    exact isBody_escape _
  · intro written member
    obtain ⟨named, listed, rfl⟩ := List.mem_map.mp member
    exact proper named listed

theorem text?_ofText (text : String) : (ofText text).text? = some text := by
  rw [ofText, text?, unescape?_eq_some_iff.mpr (spells_escape _), Option.map_some, String.ofList_toList]

end Tablesmith.Json
