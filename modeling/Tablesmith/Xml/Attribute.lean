import Tablesmith.Xml.Content
import Tablesmith.Xml.Document

/-!
# Attributes

Behind the name of a start tag stand attributes, each a name, an equals sign and a quoted value, with
white space wherever it separates something.
-/

namespace Tablesmith.Xml

/-- An attribute with its value as it is written. -/
structure Attribute where
  name : Name
  value : List UInt8
deriving DecidableEq

/-- The attributes of a tag up to its end or up to one that is malformed. -/
structure Attributes where
  items : List Attribute
  isWhole : Bool
deriving DecidableEq

def endsName (byte : UInt8) : Bool :=
  byte = '='.toUInt8 || isBlank byte

/-- A byte that stands around values. -/
def isQuote (byte : UInt8) : Bool :=
  byte = '"'.toUInt8 || byte = '\''.toUInt8

/-- A quoted value and what follows it. -/
def takeValue? (bytes : List UInt8) : Option (List UInt8 × List UInt8) :=
  match bytes with
  | quote :: rest =>
    if isQuote quote then
      match rest.dropWhile (· ≠ quote) with
      | _ :: after => some (rest.takeWhile (· ≠ quote), after)
      | [] => none
    else none
  | [] => none

/-- The attribute whose name begins with `first`, and what follows it. The first byte belongs to the
name whatever it is. -/
def takeAttribute? (first : UInt8) (bytes : List UInt8) : Option (Attribute × List UInt8) :=
  match (bytes.dropWhile (!endsName ·)).dropWhile isBlank with
  | sign :: rest =>
    if sign = '='.toUInt8 then
      (takeValue? (rest.dropWhile isBlank)).map fun taken =>
        (⟨first :: bytes.takeWhile (!endsName ·), taken.1⟩, taken.2)
    else none
  | [] => none

theorem length_dropWhile_le {α : Type} (p : α → Bool) (l : List α) :
    (l.dropWhile p).length ≤ l.length :=
  (List.dropWhile_sublist p).length_le

theorem length_of_takeValue? {bytes value rest : List UInt8}
    (taken : takeValue? bytes = some (value, rest)) : rest.length ≤ bytes.length := by
  unfold takeValue? at taken
  split at taken
  · next quote more =>
    split at taken
    · have := length_dropWhile_le (· ≠ quote) more
      split at taken
      · next split_off =>
        cases taken
        rw [split_off] at this
        simp only [List.length_cons] at this ⊢
        omega
      · cases taken
    · cases taken
  · cases taken

theorem length_of_takeAttribute? {first : UInt8} {bytes rest : List UInt8} {item : Attribute}
    (taken : takeAttribute? first bytes = some (item, rest)) :
    rest.length ≤ bytes.length := by
  unfold takeAttribute? at taken
  have name_off := length_dropWhile_le (!endsName ·) bytes
  have blank_off := length_dropWhile_le isBlank (bytes.dropWhile (!endsName ·))
  split at taken
  · next sign more split_off =>
    rw [split_off] at blank_off
    have := length_dropWhile_le isBlank more
    split at taken
    · obtain ⟨⟨value, after⟩, found, same⟩ := Option.map_eq_some_iff.1 taken
      have := length_of_takeValue? found
      cases same
      show after.length ≤ bytes.length
      simp only [List.length_cons] at blank_off
      omega
    · cases taken
  · cases taken

/-- The attributes in the bytes behind a name. -/
def attributesOf (bytes : List UInt8) : Attributes :=
  match _next : bytes.dropWhile isBlank with
  | [] => ⟨[], true⟩
  | first :: more =>
    match _taken : takeAttribute? first more with
    | none => ⟨[], false⟩
    | some (item, rest) =>
      let others := attributesOf rest
      ⟨item :: others.items, others.isWhole⟩
termination_by bytes.length
decreasing_by
  have := length_dropWhile_le isBlank bytes
  have := length_of_takeAttribute? _taken
  simp_all only [List.length_cons]
  omega

/-- The value of the first attribute with a name. Whatever stands behind it is not looked at. -/
def Tag.value? (tag : Tag) (name : Name) : Except XmlFault (Option String) :=
  let attributes := attributesOf tag.attributes
  match attributes.items.find? (·.name = name) with
  | some item => (attributeText item.value).map some
  | none => if attributes.isWhole then .ok none else .error .badAttribute

/-- A name without what stands in front of its first colon. -/
def localName (name : Name) : Name :=
  match name.dropWhile (· ≠ ':'.toUInt8) with
  | _ :: rest => rest
  | [] => name

/-- The values of attributes by local name, the later ones first. No two attributes may have the same
full name; `seen` are the names that occurred already. -/
def valuesFrom (names seen : List Name) (values : List (Name × String)) :
    List Attribute → Except XmlFault (List (Name × String))
  | [] => .ok values
  | item :: rest => do
    if item.name ∈ seen then throw .badAttribute
    let key := localName item.name
    if key ∈ names then
      let text ← attributeText item.value
      valuesFrom names (item.name :: seen) ((key, text) :: values) rest
    else valuesFrom names (item.name :: seen) values rest

/-- The values of all attributes with one of the given local names, the later ones first. -/
def Tag.values (tag : Tag) (names : List Name) : Except XmlFault (List (Name × String)) := do
  let attributes := attributesOf tag.attributes
  let values ← valuesFrom names [] [] attributes.items
  if attributes.isWhole then return values else throw .badAttribute

end Tablesmith.Xml
