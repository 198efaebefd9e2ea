/-!
# XML documents

A document is a sequence of tags, texts and references, cut out of its bytes without looking into
them. Elements need not be closed at its end, and an end tag closes whatever was opened last, but
there must be something to close.
-/

namespace Tablesmith.Xml

/-- A name, as the bytes that write it. -/
abbrev Name : Type :=
  List UInt8

def name (text : String) : Name :=
  text.toUTF8.data.toList

/-- A start tag: the name of its element and what follows the name. -/
structure Tag where
  name : Name
  attributes : List UInt8
deriving DecidableEq

/-- A part of a document that is looked at. -/
inductive Event
  | start (tag : Tag)
  | finish (name : Name)
  | text (bytes : List UInt8)
  | cdata (bytes : List UInt8)
  | reference (bytes : List UInt8)
deriving DecidableEq

/-- The parts of a document up to its end or up to where it is malformed. -/
structure Document where
  events : List Event
  isWhole : Bool
deriving DecidableEq

/-- What stands between parts of a tag. -/
def isBlank (byte : UInt8) : Bool :=
  byte = 0x20 || byte = 0x0d || byte = 0x0a || byte = 0x09

def Tag.ofContent (content : List UInt8) : Tag where
  name := content.takeWhile (!isBlank ·)
  attributes := content.dropWhile (!isBlank ·)

/-- What the bytes read last belong to. A tag may be inside a quoted value, and a document type has so
many angle brackets open. -/
inductive Mode
  | text
  | reference
  | markup
  | startTag (quote : Option UInt8)
  | endTag (quote : Option UInt8)
  | declaration
  | comment
  | cdata
  | doctype (depth : Nat)
  | instruction
  | malformed
deriving DecidableEq

/-- What is known after some bytes: the bytes of the part that is not finished, the number of open
elements and the finished parts. Bytes and parts are in reverse order. -/
structure Scan where
  mode : Mode
  held : List UInt8
  depth : Nat
  events : List Event
deriving DecidableEq

namespace Scan

/-- Nothing was read. -/
def start : Scan :=
  ⟨.text, [], 0, []⟩

/-- The bytes of the part that is not finished. -/
def content (scan : Scan) : List UInt8 :=
  scan.held.reverse

/-- Keeps a byte. -/
def hold (scan : Scan) (byte : UInt8) : Scan :=
  { scan with held := byte :: scan.held }

/-- Goes on with another part. -/
def enter (scan : Scan) (mode : Mode) (held : List UInt8) : Scan :=
  { scan with mode := mode, held := held }

/-- Nothing more can be read. -/
def spoil (scan : Scan) : Scan :=
  scan.enter .malformed []

/-- Finishes a part that is looked at. -/
def emit (scan : Scan) (event : Event) : Scan :=
  { scan with events := event :: scan.events }

/-- Finishes a text unless it is empty. -/
def flush (scan : Scan) : Scan :=
  if scan.held = [] then scan else scan.emit (.text scan.content)

/-- Goes on with text. -/
def resume (scan : Scan) : Scan :=
  scan.enter .text []

/-- The quote that is open behind a byte of a tag. -/
def quoteAfter (quote : Option UInt8) (byte : UInt8) : Option UInt8 :=
  match quote with
  | some opening => if byte = opening then none else quote
  | none => if byte = '"'.toUInt8 ∨ byte = '\''.toUInt8 then some byte else none

def endsTag (quote : Option UInt8) (byte : UInt8) : Bool :=
  quote = none ∧ byte = '>'.toUInt8

/-- Finishes a start tag. A slash at its end makes it an end tag too. -/
def finishStart (scan : Scan) : Scan :=
  match scan.held with
  | byte :: rest =>
    if byte = '/'.toUInt8 then
      let tag := Tag.ofContent rest.reverse
      ((scan.emit (.start tag)).emit (.finish tag.name)).resume
    else
      { (scan.emit (.start (Tag.ofContent scan.content))).resume with depth := scan.depth + 1 }
  | [] => { (scan.emit (.start (Tag.ofContent []))).resume with depth := scan.depth + 1 }

def finishEnd (scan : Scan) : Scan :=
  match scan.depth with
  | 0 => scan.spoil
  | depth + 1 =>
    { (scan.emit (.finish (scan.held.dropWhile isBlank).reverse)).resume with depth := depth }

def stepStart (scan : Scan) (quote : Option UInt8) (byte : UInt8) : Scan :=
  if endsTag quote byte then scan.finishStart
  else scan.enter (.startTag (quoteAfter quote byte)) (byte :: scan.held)

def stepEnd (scan : Scan) (quote : Option UInt8) (byte : UInt8) : Scan :=
  if endsTag quote byte then scan.finishEnd
  else scan.enter (.endTag (quoteAfter quote byte)) (byte :: scan.held)

/-- The bytes of an ASCII text in reverse order. -/
def backwards (text : String) : List UInt8 :=
  (text.toList.map Char.toUInt8).reverse

/-- An ASCII letter in its small form. -/
def lowerByte (byte : UInt8) : UInt8 :=
  if 'A'.toUInt8 ≤ byte ∧ byte ≤ 'Z'.toUInt8 then byte + 32 else byte

/-- Bytes begin with an ASCII text, whatever the case of letters. -/
def beginsWith (text : String) (bytes : List UInt8) : Bool :=
  ((text.toList.map fun c => lowerByte c.toUInt8).isPrefixOf (bytes.map lowerByte))

/-- The first byte behind `<!` tells what it is. -/
def stepDeclaration (scan : Scan) (byte : UInt8) : Scan :=
  let held := [byte, '!'.toUInt8]
  if byte = '['.toUInt8 then scan.enter .cdata held
  else if byte = '-'.toUInt8 then scan.enter .comment held
  else if lowerByte byte = 'd'.toUInt8 then scan.enter (.doctype 0) held
  else scan.spoil

/-- A byte of a comment, which ends with two dashes of its own. -/
def stepComment (scan : Scan) (byte : UInt8) : Scan :=
  if byte = '>'.toUInt8 ∧ (backwards "--").isPrefixOf scan.held ∧ 4 < scan.held.length then
    if beginsWith "!--" scan.content then scan.resume else scan.spoil
  else scan.hold byte

/-- How a section of plain characters begins, but for the bracket in front. Its letters are capitals, while those of a
document type can be small. -/
def cdataMark : String := "![CDATA["

/-- A byte of a section of plain characters. -/
def stepCdata (scan : Scan) (byte : UInt8) : Scan :=
  if byte = '>'.toUInt8 ∧ (backwards "]]").isPrefixOf scan.held then
    if (name cdataMark).isPrefixOf scan.content then
      (scan.emit (.cdata ((scan.held.drop 2).reverse.drop cdataMark.length))).resume
    else scan.spoil
  else scan.hold byte

/-- How a document type begins, but for the bracket in front. -/
def doctypeMark : String := "!DOCTYPE"

/-- A document type has a name. -/
def isDoctype (content : List UInt8) : Bool :=
  beginsWith doctypeMark content && (content.drop doctypeMark.length).any (!isBlank ·)

/-- A byte of a document type. -/
def stepDoctype (scan : Scan) (depth : Nat) (byte : UInt8) : Scan :=
  if byte = '<'.toUInt8 then scan.enter (.doctype (depth + 1)) (byte :: scan.held)
  else if byte = '>'.toUInt8 then
    match depth with
    | 0 => if isDoctype scan.content then scan.resume else scan.spoil
    | depth + 1 => scan.enter (.doctype depth) (byte :: scan.held)
  else scan.hold byte

/-- A byte of a processing instruction, which is held with its question marks and has two. -/
def stepInstruction (scan : Scan) (byte : UInt8) : Scan :=
  if byte = '>'.toUInt8 ∧ scan.held.head? = some '?'.toUInt8 then
    if scan.held.length = 1 then scan.spoil else scan.resume
  else scan.hold byte

/-- The first byte of markup tells what it is. -/
def stepMarkup (scan : Scan) (byte : UInt8) : Scan :=
  if byte = '/'.toUInt8 then scan.enter (.endTag none) []
  else if byte = '!'.toUInt8 then scan.enter .declaration []
  else if byte = '?'.toUInt8 then scan.enter .instruction [byte]
  else scan.stepStart none byte

def stepText (scan : Scan) (byte : UInt8) : Scan :=
  if byte = '<'.toUInt8 then scan.flush.enter .markup []
  else if byte = '&'.toUInt8 then scan.flush.enter .reference []
  else scan.hold byte

def stepReference (scan : Scan) (byte : UInt8) : Scan :=
  if byte = ';'.toUInt8 then (scan.emit (.reference scan.content)).resume
  else if byte = '&'.toUInt8 ∨ byte = '<'.toUInt8 then scan.spoil
  else scan.hold byte

def step (scan : Scan) (byte : UInt8) : Scan :=
  match scan.mode with
  | .text => scan.stepText byte
  | .reference => scan.stepReference byte
  | .markup => scan.stepMarkup byte
  | .startTag quote => scan.stepStart quote byte
  | .endTag quote => scan.stepEnd quote byte
  | .declaration => scan.stepDeclaration byte
  | .comment => scan.stepComment byte
  | .cdata => scan.stepCdata byte
  | .doctype depth => scan.stepDoctype depth byte
  | .instruction => scan.stepInstruction byte
  | .malformed => scan

/-- The document whose bytes were all read. Text alone can be open at its end, and is lost with bytes
behind it that could not be read. -/
def document (scan : Scan) (isDamaged : Bool) : Document :=
  if scan.mode = .text ∧ isDamaged = false then ⟨scan.flush.events.reverse, true⟩
  else ⟨scan.events.reverse, false⟩

end Scan

/-- Bytes without the mark of UTF-8 in front of them. -/
def dropMark : List UInt8 → List UInt8
  | 0xef :: 0xbb :: 0xbf :: rest => rest
  | bytes => bytes

/-- Reads a document; behind damaged bytes there are others that could not be read. -/
def Document.ofBytes (bytes : List UInt8) (isDamaged : Bool) : Document :=
  ((dropMark bytes).foldl Scan.step Scan.start).document isDamaged

end Tablesmith.Xml
