import Tablesmith.Workbook.Fault
import Tablesmith.Xml.Attribute
import Tablesmith.Xml.Content
import Tablesmith.Xml.Document

/-!
# Parts of a package

A package is an archive whose members are XML documents. A part is read event by event; what its
events say holds only if the document is whole.

A text in a part is given in pieces, each in an element of its own, and may be accompanied by a phonetic guide whose pieces
do not belong to it. The value of a cell is a text in a single piece. Texts that several cells show are kept in a part of
their own, in the order of the indexes by which cells name them.
-/

namespace Tablesmith.Ooxml

open Tablesmith.Xml
open Tablesmith.Zip

/-- The document of a part, if the package has the part. -/
def part? (package : Archive) (path : String) : Except WorkbookFault (Option Document) :=
  match package.content? path with
  | .ok (some content) => .ok (some (Document.ofBytes content.bytes content.damaged))
  | .ok none => .ok none
  | .error reason => .error (.archive reason)

/-- The document of a part that the package must have. -/
def needPart (package : Archive) (path : String) : Except WorkbookFault Document := do
  match ← part? package path with
  | some document => return document
  | none => throw (.partMissing path)

/-- Takes in the events of a document one after the other. -/
def readDocument {σ : Type} (step : σ → Event → Except XmlFault σ) (start : σ)
    (document : Document) : Except XmlFault σ := do
  let result ← document.events.foldlM step start
  if document.isWhole then return result else throw .malformed

def readPart {σ : Type} (step : σ → Event → Except XmlFault σ) (start : σ) (document : Document) :
    Except WorkbookFault σ :=
  (readDocument step start document).mapError .xml

/-- A text that is being read: the element that it stands in, whether a phonetic guide or a piece is
open, and what was read of it. -/
structure StringItem where
  element : Name
  inGuide : Bool
  inPiece : Bool
  content : String
deriving DecidableEq

namespace StringItem

/-- The text of an element that holds pieces. -/
def ofPieces (element : Name) : StringItem :=
  ⟨element, false, false, ""⟩

/-- The text of an element that is itself a piece. -/
def ofValue (element : Name) : StringItem :=
  ⟨element, false, true, ""⟩

def add (item : StringItem) (chars : List Char) : StringItem :=
  { item with content := item.content ++ String.ofList chars }

/-- A start tag opens a guide or, outside of guides, a piece. -/
def enter (item : StringItem) (element : Name) : StringItem :=
  if element = name "rPh" then { item with inGuide := true }
  else if element = name "t" ∧ ¬item.inGuide then { item with inPiece := true }
  else item

/-- An end tag closes a guide or a piece. -/
def leave (item : StringItem) (element : Name) : StringItem :=
  if element = name "rPh" then { item with inGuide := false }
  else if element = name "t" then { item with inPiece := false }
  else item

/-- Takes in an event that does not end the element of the text. -/
def step (item : StringItem) (event : Event) : Except XmlFault StringItem :=
  match event with
  | .start tag => .ok (item.enter tag.name)
  | .finish element => .ok (item.leave element)
  | .text bytes | .cdata bytes =>
    if item.inPiece then (decodeText bytes).map item.add else .ok item
  | .reference bytes =>
    if item.inPiece then (decodeReference bytes).map item.add else .ok item

/-- The event ends the element of the text. -/
def isEndedBy (item : StringItem) (event : Event) : Bool :=
  event = .finish item.element

end StringItem

/-- The texts that were read, the last first, and the one that is being read. -/
structure SharedStrings where
  texts : List String
  open? : Option StringItem
deriving DecidableEq

namespace SharedStrings

/-- No text was read. -/
def start : SharedStrings :=
  ⟨[], none⟩

def step (shared : SharedStrings) (event : Event) : Except XmlFault SharedStrings :=
  match shared.open? with
  | some item =>
    if item.isEndedBy event then .ok ⟨item.content :: shared.texts, none⟩
    else (item.step event).map fun item => ⟨shared.texts, some item⟩
  | none =>
    match event with
    | .start tag =>
      if tag.name = name "si" then .ok ⟨shared.texts, some (.ofPieces tag.name)⟩ else .ok shared
    | _ => .ok shared

/-- All texts; one that is not closed counts too. -/
def toList (shared : SharedStrings) : List String :=
  (match shared.open? with
    | some item => item.content :: shared.texts
    | none => shared.texts).reverse

end SharedStrings

end Tablesmith.Ooxml
