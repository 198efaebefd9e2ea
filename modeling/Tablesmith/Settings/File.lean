import Tablesmith.Json.Basic
import Tablesmith.Json.Reader
import Tablesmith.Settings.Basic
import Tablesmith.PropertyType

/-!
# Settings files and alias lists

Settings are written as a JSON object with every setting, alias lists as an array of objects. Reading
skips members that it does not know, refuses members that occur twice, and also takes an array in
place of an object, with the values in order.
-/

namespace Tablesmith

/-- A text or nothing. -/
def Json.optionalText? : Json → Option (Option String)
  | .null => some none
  | value => value.text?.map some

def Json.nameText? (written : List Char) : Option String :=
  (unescape? written).map String.ofList

namespace Settings

/-- Reads the members of an object; `seen` are the settings that occurred already. -/
def ofMembers? (settings : Settings) (seen : List Setting) :
    List (List Char × Json) → Option Settings
  | [] => some settings
  | (written, value) :: rest => do
    let name ← Json.nameText? written
    match Setting.ofName? name with
    | none => ofMembers? settings seen rest
    | some setting =>
      if seen.contains setting then none
      else
        let text ← value.optionalText?
        ofMembers? (settings.set setting text) (setting :: seen) rest

/-- Reads the elements of an array as the values of the settings in order; the last ones may be left
out. -/
def ofElements? (settings : Settings) : List Setting → List Json → Option Settings
  | _, [] => some settings
  | [], _ :: _ => none
  | setting :: others, value :: rest => do
    let text ← value.optionalText?
    ofElements? (settings.set setting text) others rest

def ofJson? : Json → Option Settings
  | .object members => ofMembers? empty [] members
  | .array elements => ofElements? empty Setting.all elements
  | _ => none

/-- Reads the text of a settings file. -/
def ofText? (text : String) : Option Settings :=
  (Json.read? text).bind ofJson?

def member (settings : Settings) (setting : Setting) : String × Json :=
  (setting.name, match settings.get? setting with
    | some value => .ofText value
    | none => .null)

def toText (settings : Settings) : String :=
  (Json.ofMembers (Setting.all.map settings.member)).write

end Settings

namespace TypeAliases

def aliasMember : String := "AliasType"

/-- The member that holds the name of the type. -/
def typeMember : String := "OriginalType"

/-- A text for a part of an item that has none yet. -/
def fillOnce? (part : Option String) (value : Json) : Option (Option String) :=
  match part with
  | some _ => none
  | none => value.text?.map some

/-- Reads the members of an object that gives an item; both parts must occur. -/
def itemOfMembers? (name typeName : Option String) : List (List Char × Json) → Option Item
  | [] => do return ⟨← name, ← typeName⟩
  | (written, value) :: rest => do
    let member ← Json.nameText? written
    if member = aliasMember then itemOfMembers? (← fillOnce? name value) typeName rest
    else if member = typeMember then itemOfMembers? name (← fillOnce? typeName value) rest
    else itemOfMembers? name typeName rest

def itemOfJson? : Json → Option Item
  | .object members => itemOfMembers? none none members
  | .array [name, typeName] => do return ⟨← name.text?, ← typeName.text?⟩
  | _ => none

/-- Reads the text of an alias list. -/
def itemsOfText? (text : String) : Option (List Item) :=
  match Json.read? text with
  | some (.array elements) => elements.mapM itemOfJson?
  | _ => none

def itemJson (item : Item) : Json :=
  .ofMembers [(aliasMember, .ofText item.name), (typeMember, .ofText item.typeName)]

/-- The text of the alias list that defines the aliases again. -/
def toText (aliases : TypeAliases) : String :=
  (Json.array (aliases.toItems.map itemJson)).write

end TypeAliases

end Tablesmith
