import Mathlib
import Tablesmith.Proofs.Text.Unicode
import Tablesmith.Xml.Attribute

/-!
# Written documents

A document that is written part by part, each part with the text behind it, is taken
apart into the same parts (`written_eq`). A part may hold everything that does not
look like its end, and end tags need only be as many as there are elements to close.
-/

namespace Tablesmith.Xml

/-! ## Writing -/

/-- A byte that means something in a tag. -/
def isReserved (byte : UInt8) : Bool :=
  isBlank byte || isQuote byte || byte ∈ ['='.toUInt8, '<'.toUInt8, '>'.toUInt8, '/'.toUInt8, '!'.toUInt8, '?'.toUInt8]

/-- Bytes that name an element or an attribute. -/
def IsName (name : Name) : Prop :=
  name ≠ [] ∧ ∀ byte ∈ name, isReserved byte = false

-- The instance for all members of a list is named: where a type is finite, all of it would be gone through.
instance (name : Name) : Decidable (IsName name) :=
  @instDecidableAnd _ _ _ (List.decidableBAll (isReserved · = false) name)

/-- An attribute in bytes, behind a space and with its value in double quotes. -/
def Attribute.bytes (item : Attribute) : List UInt8 :=
  ' '.toUInt8 :: (item.name ++ '='.toUInt8 :: '"'.toUInt8 :: (item.value ++ ['"'.toUInt8]))

/-- The attribute has a name, and its value no double quote. -/
def Attribute.Fits (item : Attribute) : Prop :=
  IsName item.name ∧ '"'.toUInt8 ∉ item.value

instance (item : Attribute) : Decidable item.Fits :=
  inferInstanceAs (Decidable (_ ∧ _))

/-- Attributes in bytes. -/
def attributeBytes (attributes : List Attribute) : List UInt8 :=
  attributes.flatMap Attribute.bytes

/-- A part of a document that is no text. -/
inductive Mark
  | start (name : Name) (attributes : List Attribute)
  | empty (name : Name) (attributes : List Attribute)
  | finish (name : Name)
  | cdata (bytes : List UInt8)
  | reference (bytes : List UInt8)
  | instruction (bytes : List UInt8)

namespace Mark

/-- A part in bytes. -/
def bytes : Mark → List UInt8
  | start name attributes => '<'.toUInt8 :: (name ++ attributeBytes attributes ++ ['>'.toUInt8])
  | empty name attributes => '<'.toUInt8 :: (name ++ attributeBytes attributes ++ ['/'.toUInt8, '>'.toUInt8])
  | finish name => '<'.toUInt8 :: '/'.toUInt8 :: (name ++ ['>'.toUInt8])
  | cdata bytes => '<'.toUInt8 :: (Xml.name Scan.cdataMark ++ bytes ++ [']'.toUInt8, ']'.toUInt8, '>'.toUInt8])
  | reference bytes => '&'.toUInt8 :: (bytes ++ [';'.toUInt8])
  | instruction bytes => '<'.toUInt8 :: '?'.toUInt8 :: (bytes ++ ['?'.toUInt8, '>'.toUInt8])

/-- What is found of a part. An empty element is opened and closed. -/
def events : Mark → List Event
  | start name attributes => [.start ⟨name, attributeBytes attributes⟩]
  | empty name attributes => [.start ⟨name, attributeBytes attributes⟩, .finish name]
  | finish name => [.finish name]
  | cdata bytes => [.cdata bytes]
  | reference bytes => [.reference bytes]
  | instruction _ => []

/-- Nothing in a part looks like its end. -/
def Fits : Mark → Prop
  | start name attributes => IsName name ∧ ∀ item ∈ attributes, item.Fits
  | empty name attributes => IsName name ∧ ∀ item ∈ attributes, item.Fits
  | finish name => IsName name
  | cdata bytes => ¬ [']'.toUInt8, ']'.toUInt8, '>'.toUInt8] <:+: bytes
  | reference bytes => ∀ byte ∈ bytes, byte ≠ ';'.toUInt8 ∧ byte ≠ '&'.toUInt8 ∧ byte ≠ '<'.toUInt8
  | instruction bytes => ¬ ['?'.toUInt8, '>'.toUInt8] <:+: '?'.toUInt8 :: bytes

instance : DecidablePred Fits
  | start name attributes => inferInstanceAs (Decidable (IsName name ∧ ∀ item ∈ attributes, item.Fits))
  | empty name attributes => inferInstanceAs (Decidable (IsName name ∧ ∀ item ∈ attributes, item.Fits))
  | finish name => inferInstanceAs (Decidable (IsName name))
  | cdata bytes => inferInstanceAs (Decidable (¬ [']'.toUInt8, ']'.toUInt8, '>'.toUInt8] <:+: bytes))
  | reference bytes => List.decidableBAll (fun byte => byte ≠ ';'.toUInt8 ∧ byte ≠ '&'.toUInt8 ∧ byte ≠ '<'.toUInt8) bytes
  | instruction bytes => inferInstanceAs (Decidable (¬ ['?'.toUInt8, '>'.toUInt8] <:+: '?'.toUInt8 :: bytes))

/-- The number of open elements behind a part; an end tag needs one to close. -/
def depthAfter? (depth : Nat) : Mark → Option Nat
  | start _ _ => some (depth + 1)
  | finish _ => if depth = 0 then none else some (depth - 1)
  | _ => some depth

end Mark

/-- A part with the text behind it. -/
structure Marked where
  mark : Mark
  tail : List UInt8

/-- A text that is looked at: there is none without bytes. -/
def textEvents (bytes : List UInt8) : List Event :=
  if bytes = [] then [] else [.text bytes]

/-- Bytes of a text: none of them begins a tag or a reference. -/
def IsPlain (bytes : List UInt8) : Prop :=
  ∀ byte ∈ bytes, byte ≠ '<'.toUInt8 ∧ byte ≠ '&'.toUInt8

instance (bytes : List UInt8) : Decidable (IsPlain bytes) :=
  List.decidableBAll (fun byte => byte ≠ '<'.toUInt8 ∧ byte ≠ '&'.toUInt8) bytes

namespace Marked

/-- A part and its text in bytes. -/
def bytes (marked : Marked) : List UInt8 :=
  marked.mark.bytes ++ marked.tail

/-- What is found of a part and its text. -/
def events (marked : Marked) : List Event :=
  marked.mark.events ++ textEvents marked.tail

/-- The part and the text can be told apart from what follows them. -/
def Fits (marked : Marked) : Prop :=
  marked.mark.Fits ∧ IsPlain marked.tail

instance (marked : Marked) : Decidable marked.Fits :=
  inferInstanceAs (Decidable (_ ∧ _))

end Marked

/-- Parts in bytes. -/
def markedBytes (marks : List Marked) : List UInt8 :=
  marks.flatMap Marked.bytes

/-- What is found of parts. -/
def markedEvents (marks : List Marked) : List Event :=
  marks.flatMap Marked.events

/-- The number of open elements behind parts, if every end tag has one to close. -/
def depthAfter? (depth : Nat) (marks : List Marked) : Option Nat :=
  marks.foldlM (fun depth marked => marked.mark.depthAfter? depth) depth

/-- Parts of which a document can be written: each can be told apart from what follows it, and every end tag has an element
to close. -/
structure Writable (marks : List Marked) : Prop where
  fits : ∀ marked ∈ marks, marked.Fits
  nests : (depthAfter? 0 marks).isSome = true

instance (marks : List Marked) : Decidable (Writable marks) :=
  decidable_of_iff (_ ∧ _) ⟨fun both => ⟨both.1, both.2⟩, fun writable => ⟨writable.fits, writable.nests⟩⟩

/-- The document that is written of parts. -/
def written (marks : List Marked) : Document :=
  Document.ofBytes (markedBytes marks) false

section scanning

variable {byte quote : UInt8} {bytes held : List UInt8} {depth : Nat} {events : List Event} {scan : Scan}

theorem isReserved_iff : isReserved byte = false ↔ isBlank byte = false ∧ isQuote byte = false ∧
    byte ≠ '='.toUInt8 ∧ byte ≠ '<'.toUInt8 ∧ byte ≠ '>'.toUInt8 ∧ byte ≠ '/'.toUInt8 ∧ byte ≠ '!'.toUInt8 ∧
    byte ≠ '?'.toUInt8 := by
  simp [isReserved, and_assoc]

/-- A scan within a text that has found some events, the text among them. -/
structure AtText (scan : Scan) (depth : Nat) (events : List Event) : Prop where
  mode : scan.mode = .text
  depth : scan.depth = depth
  events : scan.flush.events = events.reverse

theorem flush_enter (at_text : AtText scan depth events) (mode : Mode) (held : List UInt8) :
    scan.flush.enter mode held = ⟨mode, held, depth, events.reverse⟩ := by
  have same_depth : scan.flush.depth = depth := by
    rw [← at_text.depth, Scan.flush]
    split <;> rfl
  rw [Scan.enter, ← same_depth, ← at_text.events]

/-- Behind a part stands its text. -/
theorem atText_tail (plain : IsPlain bytes) :
    AtText (bytes.foldl Scan.step ⟨.text, [], depth, events.reverse⟩) depth (events ++ textEvents bytes) := by
  have held (held : List UInt8) : bytes.foldl Scan.step ⟨.text, held, depth, events.reverse⟩ =
      ⟨.text, bytes.reverse ++ held, depth, events.reverse⟩ := by
    induction bytes generalizing held with
    | nil => rfl
    | cons byte bytes ih =>
      obtain ⟨⟨no_tag, no_reference⟩, rest⟩ := List.forall_mem_cons.mp plain
      have kept : Scan.step ⟨.text, held, depth, events.reverse⟩ byte = ⟨.text, byte :: held, depth, events.reverse⟩ := by
        simp only [Scan.step, Scan.stepText, no_tag, no_reference, ↓reduceIte, Scan.hold]
      rw [List.foldl_cons, kept, ih rest, List.reverse_cons, List.append_assoc, List.singleton_append]
  rw [held, List.append_nil]
  refine ⟨rfl, rfl, ?_⟩
  by_cases empty : bytes = []
  · simp [Scan.flush, textEvents, empty]
  · simp [Scan.flush, textEvents, empty, Scan.emit, Scan.content]

/-! ### Tags -/

theorem step_startTag {open? : Option UInt8} (inside : Scan.endsTag open? byte = false) (held : List UInt8) :
    Scan.step ⟨.startTag open?, held, depth, events⟩ byte =
      ⟨.startTag (Scan.quoteAfter open? byte), byte :: held, depth, events⟩ := by
  simp only [Scan.step, Scan.stepStart, inside, Bool.false_eq_true, ↓reduceIte, Scan.enter]

/-- A byte that means nothing is in no quotes and ends no tag. -/
theorem quoteAfter_of_free (free : isReserved byte = false) :
    Scan.endsTag none byte = false ∧ Scan.quoteAfter none byte = none := by
  obtain ⟨-, no_quote, -, -, no_end, -⟩ := isReserved_iff.mp free
  constructor
  · simp [Scan.endsTag, no_end]
  · simpa [Scan.quoteAfter, isQuote] using no_quote

theorem foldl_startTag_plain (plain : ∀ byte ∈ bytes, isReserved byte = false) (held : List UInt8) :
    bytes.foldl Scan.step ⟨.startTag none, held, depth, events⟩ =
      ⟨.startTag none, bytes.reverse ++ held, depth, events⟩ := by
  induction bytes generalizing held with
  | nil => rfl
  | cons byte bytes ih =>
    obtain ⟨free, rest⟩ := List.forall_mem_cons.mp plain
    obtain ⟨inside, unquoted⟩ := quoteAfter_of_free free
    rw [List.foldl_cons, step_startTag inside, unquoted, ih rest, List.reverse_cons, List.append_assoc, List.singleton_append]

theorem foldl_startTag_quoted (unquoted : quote ∉ bytes) (held : List UInt8) :
    bytes.foldl Scan.step ⟨.startTag (some quote), held, depth, events⟩ =
      ⟨.startTag (some quote), bytes.reverse ++ held, depth, events⟩ := by
  induction bytes generalizing held with
  | nil => rfl
  | cons byte bytes ih =>
    obtain ⟨other, rest⟩ := not_or.mp (mt List.mem_cons.mpr unquoted)
    have still : Scan.quoteAfter (some quote) byte = some quote := if_neg (Ne.symm other)
    rw [List.foldl_cons, step_startTag (by simp [Scan.endsTag]), still, ih rest, List.reverse_cons, List.append_assoc,
      List.singleton_append]

theorem foldl_startTag_attribute {item : Attribute} (fits : item.Fits) (held : List UInt8) :
    item.bytes.foldl Scan.step ⟨.startTag none, held, depth, events⟩ =
      ⟨.startTag none, item.bytes.reverse ++ held, depth, events⟩ := by
  obtain ⟨⟨-, plain⟩, unquoted⟩ := fits
  have space : Scan.endsTag none ' '.toUInt8 = false ∧ Scan.quoteAfter none ' '.toUInt8 = none := by decide
  have sign : Scan.endsTag none '='.toUInt8 = false ∧ Scan.quoteAfter none '='.toUInt8 = none := by decide
  have opens : Scan.endsTag none '"'.toUInt8 = false ∧ Scan.quoteAfter none '"'.toUInt8 = some '"'.toUInt8 := by decide
  have closes : Scan.endsTag (some '"'.toUInt8) '"'.toUInt8 = false ∧
      Scan.quoteAfter (some '"'.toUInt8) '"'.toUInt8 = none := by decide
  rw [Attribute.bytes, List.foldl_cons, step_startTag space.1, space.2, List.foldl_append, foldl_startTag_plain plain,
    List.foldl_cons, step_startTag sign.1, sign.2, List.foldl_cons, step_startTag opens.1, opens.2, List.foldl_append,
    foldl_startTag_quoted unquoted, List.foldl_cons, step_startTag closes.1, closes.2, List.foldl_nil]
  simp

theorem foldl_startTag_attributes {attributes : List Attribute} (fits : ∀ item ∈ attributes, item.Fits) (held : List UInt8) :
    (attributeBytes attributes).foldl Scan.step ⟨.startTag none, held, depth, events⟩ =
      ⟨.startTag none, (attributeBytes attributes).reverse ++ held, depth, events⟩ := by
  induction attributes generalizing held with
  | nil => rfl
  | cons item attributes ih =>
    obtain ⟨item_fits, rest⟩ := List.forall_mem_cons.mp fits
    have split : attributeBytes (item :: attributes) = item.bytes ++ attributeBytes attributes := rfl
    rw [split, List.foldl_append, foldl_startTag_attribute item_fits, ih rest, List.reverse_append, List.append_assoc]

variable {element : Name} {attributes : List Attribute}

/-- The first byte of a name makes a start tag of markup. -/
theorem foldl_markup (name : IsName element) (fits : ∀ item ∈ attributes, item.Fits) :
    (element ++ attributeBytes attributes).foldl Scan.step ⟨.markup, [], depth, events⟩ =
      ⟨.startTag none, (element ++ attributeBytes attributes).reverse, depth, events⟩ := by
  obtain ⟨filled, plain⟩ := name
  obtain ⟨first, rest, rfl⟩ := List.exists_cons_of_ne_nil filled
  obtain ⟨free, rest_plain⟩ := List.forall_mem_cons.mp plain
  obtain ⟨-, -, -, -, -, no_slash, no_mark, no_instruction⟩ := isReserved_iff.mp free
  obtain ⟨inside, unquoted⟩ := quoteAfter_of_free free
  have begins : Scan.step ⟨.markup, [], depth, events⟩ first = ⟨.startTag none, [first], depth, events⟩ := by
    simp only [Scan.step, Scan.stepMarkup, no_slash, no_mark, no_instruction, ↓reduceIte, Scan.stepStart, inside, unquoted,
      Bool.false_eq_true, Scan.enter]
  rw [List.cons_append, List.foldl_cons, begins, List.foldl_append, foldl_startTag_plain rest_plain,
    foldl_startTag_attributes fits]
  simp

/-- The name of a tag ends where its attributes begin. -/
theorem ofContent_element (name : IsName element) (attributes : List Attribute) :
    Tag.ofContent (element ++ attributeBytes attributes) = ⟨element, attributeBytes attributes⟩ := by
  have no_blank : ∀ byte ∈ element, (!isBlank byte) = true := fun byte member => by
    rw [(isReserved_iff.mp (name.2 byte member)).1, Bool.not_false]
  have stops : (attributeBytes attributes).takeWhile (!isBlank ·) = [] ∧
      (attributeBytes attributes).dropWhile (!isBlank ·) = attributeBytes attributes := by
    cases attributes with
    | nil => exact ⟨rfl, rfl⟩
    | cons item attributes => exact ⟨rfl, rfl⟩
  rw [Tag.ofContent, List.takeWhile_append_of_pos no_blank, List.dropWhile_append_of_pos no_blank, stops.1, stops.2,
    List.append_nil]

/-- No tag without a slash looks as if it had one. -/
theorem exists_last_ne_slash (name : IsName element) (attributes : List Attribute) :
    ∃ last front, (element ++ attributeBytes attributes).reverse = last :: front ∧ last ≠ '/'.toUInt8 := by
  rcases List.eq_nil_or_concat attributes with rfl | ⟨others, item, rfl⟩
  · obtain ⟨front, last, rfl⟩ := List.eq_nil_or_concat element |>.resolve_left name.1
    have free := name.2 last (by simp)
    exact ⟨last, front.reverse, by simp [attributeBytes], (isReserved_iff.mp free).2.2.2.2.2.1⟩
  · exact ⟨'"'.toUInt8, (item.value.reverse ++ '"'.toUInt8 :: '='.toUInt8 :: (item.name.reverse ++ [' '.toUInt8])) ++
      (element ++ attributeBytes others).reverse, by simp [attributeBytes, Attribute.bytes], by decide⟩

theorem foldl_start (at_text : AtText scan depth events) (fits : (Mark.start element attributes).Fits) :
    (Mark.start element attributes).bytes.foldl Scan.step scan =
      ⟨.text, [], depth + 1, (events ++ (Mark.start element attributes).events).reverse⟩ := by
  obtain ⟨last, front, backwards, no_slash⟩ := exists_last_ne_slash fits.1 attributes
  have opened : scan.step '<'.toUInt8 = ⟨.markup, [], depth, events.reverse⟩ := by
    rw [Scan.step, at_text.mode]
    exact flush_enter at_text .markup []
  have whole : front.reverse ++ [last] = element ++ attributeBytes attributes := by
    rw [← List.reverse_cons, ← backwards, List.reverse_reverse]
  have closed : Scan.step ⟨.startTag none, last :: front, depth, events.reverse⟩ '>'.toUInt8 =
      ⟨.text, [], depth + 1, .start (.ofContent (front.reverse ++ [last])) :: events.reverse⟩ := by
    have ends : Scan.endsTag none '>'.toUInt8 = true := by decide
    simp only [Scan.step, Scan.stepStart, ends, ↓reduceIte, Scan.finishStart, no_slash, Scan.emit, Scan.content,
      List.reverse_cons, Scan.resume, Scan.enter]
  rw [Mark.bytes, List.foldl_cons, opened, List.foldl_append, foldl_markup fits.1 fits.2, List.foldl_cons, List.foldl_nil,
    backwards, closed, whole, ofContent_element fits.1]
  simp [Mark.events]

theorem foldl_empty (at_text : AtText scan depth events) (fits : (Mark.empty element attributes).Fits) :
    (Mark.empty element attributes).bytes.foldl Scan.step scan =
      ⟨.text, [], depth, (events ++ (Mark.empty element attributes).events).reverse⟩ := by
  have opened : scan.step '<'.toUInt8 = ⟨.markup, [], depth, events.reverse⟩ := by
    rw [Scan.step, at_text.mode]
    exact flush_enter at_text .markup []
  have slash : Scan.endsTag none '/'.toUInt8 = false ∧ Scan.quoteAfter none '/'.toUInt8 = none := by decide
  have closed (content : List UInt8) :
      Scan.step ⟨.startTag none, '/'.toUInt8 :: content.reverse, depth, events.reverse⟩ '>'.toUInt8 =
      ⟨.text, [], depth, .finish (Tag.ofContent content).name :: .start (.ofContent content) :: events.reverse⟩ := by
    have ends : Scan.endsTag none '>'.toUInt8 = true := by decide
    simp only [Scan.step, Scan.stepStart, ends, ↓reduceIte, Scan.finishStart, Scan.emit, List.reverse_reverse, Scan.resume,
      Scan.enter]
  rw [Mark.bytes, List.foldl_cons, opened, List.foldl_append, foldl_markup fits.1 fits.2, List.foldl_cons,
    step_startTag slash.1, slash.2, List.foldl_cons, List.foldl_nil, closed, ofContent_element fits.1]
  simp [Mark.events]

theorem foldl_endTag_plain (plain : ∀ byte ∈ bytes, isReserved byte = false) (held : List UInt8) :
    bytes.foldl Scan.step ⟨.endTag none, held, depth, events⟩ =
      ⟨.endTag none, bytes.reverse ++ held, depth, events⟩ := by
  induction bytes generalizing held with
  | nil => rfl
  | cons byte bytes ih =>
    obtain ⟨free, rest⟩ := List.forall_mem_cons.mp plain
    obtain ⟨inside, unquoted⟩ := quoteAfter_of_free free
    have kept : Scan.step ⟨.endTag none, held, depth, events⟩ byte = ⟨.endTag none, byte :: held, depth, events⟩ := by
      simp only [Scan.step, Scan.stepEnd, inside, unquoted, Bool.false_eq_true, ↓reduceIte, Scan.enter]
    rw [List.foldl_cons, kept, ih rest, List.reverse_cons, List.append_assoc, List.singleton_append]

theorem foldl_finish (at_text : AtText scan (depth + 1) events) (fits : IsName element) :
    (Mark.finish element).bytes.foldl Scan.step scan =
      ⟨.text, [], depth, (events ++ (Mark.finish element).events).reverse⟩ := by
  have opened : scan.step '<'.toUInt8 = ⟨.markup, [], depth + 1, events.reverse⟩ := by
    rw [Scan.step, at_text.mode]
    exact flush_enter at_text .markup []
  have slash : Scan.step ⟨.markup, [], depth + 1, events.reverse⟩ '/'.toUInt8 =
      ⟨.endTag none, [], depth + 1, events.reverse⟩ := rfl
  have no_blank : element.reverse.dropWhile isBlank = element.reverse := by
    obtain ⟨front, last, rfl⟩ := List.eq_nil_or_concat element |>.resolve_left fits.1
    have free := (isReserved_iff.mp (fits.2 last (by simp))).1
    rw [List.concat_eq_append, List.reverse_append, List.reverse_singleton, List.singleton_append,
      List.dropWhile_cons_of_neg (by simp [free])]
  have closed : Scan.step ⟨.endTag none, element.reverse, depth + 1, events.reverse⟩ '>'.toUInt8 =
      ⟨.text, [], depth, .finish element :: events.reverse⟩ := by
    have ends : Scan.endsTag none '>'.toUInt8 = true := by decide
    simp only [Scan.step, Scan.stepEnd, ends, ↓reduceIte, Scan.finishEnd, Scan.emit, no_blank, List.reverse_reverse,
      Scan.resume, Scan.enter]
  rw [Mark.bytes, List.foldl_cons, opened, List.foldl_cons, slash, List.foldl_append, foldl_endTag_plain fits.2,
    List.append_nil, List.foldl_cons, List.foldl_nil, closed]
  simp [Mark.events]

theorem foldl_reference (at_text : AtText scan depth events) (fits : (Mark.reference bytes).Fits) :
    (Mark.reference bytes).bytes.foldl Scan.step scan =
      ⟨.text, [], depth, (events ++ (Mark.reference bytes).events).reverse⟩ := by
  have opened : scan.step '&'.toUInt8 = ⟨.reference, [], depth, events.reverse⟩ := by
    rw [Scan.step, at_text.mode]
    exact flush_enter at_text .reference []
  have held (held : List UInt8) : bytes.foldl Scan.step ⟨.reference, held, depth, events.reverse⟩ =
      ⟨.reference, bytes.reverse ++ held, depth, events.reverse⟩ := by
    clear opened
    induction bytes generalizing held with
    | nil => rfl
    | cons byte bytes ih =>
      obtain ⟨⟨no_end, no_reference, no_tag⟩, rest⟩ := List.forall_mem_cons.mp fits
      have kept : Scan.step ⟨.reference, held, depth, events.reverse⟩ byte =
          ⟨.reference, byte :: held, depth, events.reverse⟩ := by
        simp only [Scan.step, Scan.stepReference, no_end, no_reference, no_tag, or_self, ↓reduceIte, Scan.hold]
      rw [List.foldl_cons, kept, ih rest, List.reverse_cons, List.append_assoc, List.singleton_append]
  rw [Mark.bytes, List.foldl_cons, opened, List.foldl_append, held, List.foldl_cons, List.foldl_nil]
  simp [Scan.step, Scan.stepReference, Scan.emit, Scan.content, Scan.resume, Scan.enter, Mark.events]

/-- A part that ends with certain bytes in front of a bracket goes on up to the first bracket behind them. -/
theorem foldl_hold {mode : Mode} {ending : List UInt8}
    (holds : ∀ held byte, ¬ (byte = '>'.toUInt8 ∧ ending.reverse <+: held) →
      Scan.step ⟨mode, held, depth, events⟩ byte = ⟨mode, byte :: held, depth, events⟩)
    (goes_on : ¬ ending ++ ['>'.toUInt8] <:+: held.reverse ++ bytes) :
    bytes.foldl Scan.step ⟨mode, held, depth, events⟩ = ⟨mode, bytes.reverse ++ held, depth, events⟩ := by
  induction bytes generalizing held with
  | nil => rfl
  | cons byte bytes ih =>
    have not_yet : ¬ (byte = '>'.toUInt8 ∧ ending.reverse <+: held) := by
      rintro ⟨rfl, front, rfl⟩
      exact goes_on ⟨front.reverse, bytes, by simp⟩
    have rest : ¬ ending ++ ['>'.toUInt8] <:+: (byte :: held).reverse ++ bytes := by
      rwa [List.reverse_cons, List.append_assoc, List.singleton_append]
    rw [List.foldl_cons, holds _ _ not_yet, ih rest, List.reverse_cons, List.append_assoc, List.singleton_append]

/-- An end that begins with a byte which the front does not have is not found any earlier for it. -/
theorem isInfix_of_append {first : UInt8} {ending front : List UInt8} (other : first ∉ front)
    (found : first :: ending <:+: front ++ bytes) : first :: ending <:+: bytes := by
  induction front with
  | nil => exact found
  | cons byte front ih =>
    obtain ⟨different, rest⟩ := not_or.mp (mt List.mem_cons.mpr other)
    rw [List.cons_append, List.infix_cons_iff] at found
    rcases found with here | later
    · exact absurd (List.cons_prefix_cons.mp here).1 different
    · exact ih rest later

theorem foldl_cdata (at_text : AtText scan depth events) (fits : (Mark.cdata bytes).Fits) :
    (Mark.cdata bytes).bytes.foldl Scan.step scan =
      ⟨.text, [], depth, (events ++ (Mark.cdata bytes).events).reverse⟩ := by
  have opened : scan.step '<'.toUInt8 = ⟨.markup, [], depth, events.reverse⟩ := by
    rw [Scan.step, at_text.mode]
    exact flush_enter at_text .markup []
  have mark : name Scan.cdataMark = '!'.toUInt8 :: '['.toUInt8 :: (name Scan.cdataMark).drop 2 ∧
      ']'.toUInt8 ∉ name Scan.cdataMark := by decide
  have begun : Scan.step (Scan.step ⟨.markup, [], depth, events.reverse⟩ '!'.toUInt8) '['.toUInt8 =
      ⟨.cdata, ((name Scan.cdataMark).take 2).reverse, depth, events.reverse⟩ := rfl
  have holds (held : List UInt8) (byte : UInt8)
      (goes_on : ¬ (byte = '>'.toUInt8 ∧ [']'.toUInt8, ']'.toUInt8].reverse <+: held)) :
      Scan.step ⟨.cdata, held, depth, events.reverse⟩ byte = ⟨.cdata, byte :: held, depth, events.reverse⟩ := by
    have same : (Scan.backwards "]]").isPrefixOf held = true ↔ [']'.toUInt8, ']'.toUInt8].reverse <+: held :=
      List.isPrefixOf_iff_prefix
    simp only [Scan.step, Scan.stepCdata, same, goes_on, ↓reduceIte, Scan.hold]
  have content_held : ((name Scan.cdataMark).drop 2 ++ bytes).foldl Scan.step
        ⟨.cdata, ((name Scan.cdataMark).take 2).reverse, depth, events.reverse⟩ =
      ⟨.cdata, (name Scan.cdataMark ++ bytes).reverse, depth, events.reverse⟩ := by
    rw [foldl_hold holds, ← List.reverse_append, ← List.append_assoc, List.take_append_drop]
    intro found
    rw [List.reverse_reverse, ← List.append_assoc, List.take_append_drop] at found
    exact fits (isInfix_of_append mark.2 found)
  have brackets : [']'.toUInt8, ']'.toUInt8].foldl Scan.step
        ⟨.cdata, (name Scan.cdataMark ++ bytes).reverse, depth, events.reverse⟩ =
      ⟨.cdata, ']'.toUInt8 :: ']'.toUInt8 :: (name Scan.cdataMark ++ bytes).reverse, depth, events.reverse⟩ := by
    have no_end (held : List UInt8) : ¬ (']'.toUInt8 = '>'.toUInt8 ∧ [']'.toUInt8, ']'.toUInt8].reverse <+: held) :=
      fun ends => absurd ends.1 (by decide)
    rw [List.foldl_cons, List.foldl_cons, List.foldl_nil, holds _ _ (no_end _), holds _ _ (no_end _)]
  have closed : Scan.step ⟨.cdata, ']'.toUInt8 :: ']'.toUInt8 :: (name Scan.cdataMark ++ bytes).reverse, depth, events.reverse⟩
      '>'.toUInt8 = ⟨.text, [], depth, .cdata bytes :: events.reverse⟩ := by
    have ends : (Scan.backwards "]]").isPrefixOf
        (']'.toUInt8 :: ']'.toUInt8 :: (name Scan.cdataMark ++ bytes).reverse) = true :=
      List.isPrefixOf_iff_prefix.mpr (List.prefix_append [']'.toUInt8, ']'.toUInt8] _)
    have begins : (name Scan.cdataMark).isPrefixOf
        (']'.toUInt8 :: ']'.toUInt8 :: (name Scan.cdataMark ++ bytes).reverse).reverse = true := by
      rw [List.isPrefixOf_iff_prefix, List.reverse_cons, List.reverse_cons, List.reverse_reverse, List.append_assoc,
        List.append_assoc]
      exact List.prefix_append _ _
    have length : Scan.cdataMark.length = (name Scan.cdataMark).length := by decide
    simp only [Scan.step, Scan.stepCdata, ends, and_self, ↓reduceIte, Scan.content, begins, Scan.emit, Scan.resume, Scan.enter,
      List.drop_succ_cons, List.drop_zero, List.reverse_reverse, length, List.drop_left]
  have parts : (Mark.cdata bytes).bytes = '<'.toUInt8 :: '!'.toUInt8 :: '['.toUInt8 ::
      (((name Scan.cdataMark).drop 2 ++ bytes) ++ ([']'.toUInt8, ']'.toUInt8] ++ ['>'.toUInt8])) := by
    rw [Mark.bytes, mark.1]
    simp
  rw [parts, List.foldl_cons, opened, List.foldl_cons, List.foldl_cons, begun, List.foldl_append, content_held,
    List.foldl_append, brackets, List.foldl_cons, List.foldl_nil, closed]
  simp [Mark.events]

theorem foldl_instruction (at_text : AtText scan depth events) (fits : (Mark.instruction bytes).Fits) :
    (Mark.instruction bytes).bytes.foldl Scan.step scan =
      ⟨.text, [], depth, (events ++ (Mark.instruction bytes).events).reverse⟩ := by
  have opened : scan.step '<'.toUInt8 = ⟨.markup, [], depth, events.reverse⟩ := by
    rw [Scan.step, at_text.mode]
    exact flush_enter at_text .markup []
  have begun : Scan.step ⟨.markup, [], depth, events.reverse⟩ '?'.toUInt8 =
      ⟨.instruction, ['?'.toUInt8], depth, events.reverse⟩ := rfl
  have holds (held : List UInt8) (byte : UInt8) (goes_on : ¬ (byte = '>'.toUInt8 ∧ ['?'.toUInt8].reverse <+: held)) :
      Scan.step ⟨.instruction, held, depth, events.reverse⟩ byte = ⟨.instruction, byte :: held, depth, events.reverse⟩ := by
    have same : held.head? = some '?'.toUInt8 ↔ ['?'.toUInt8].reverse <+: held := by
      rw [List.head?_eq_some_iff]
      exact ⟨fun ⟨rest, same⟩ => ⟨rest, same.symm⟩, fun ⟨rest, same⟩ => ⟨rest, same.symm⟩⟩
    simp only [Scan.step, Scan.stepInstruction, same, goes_on, ↓reduceIte, Scan.hold]
  have no_end : ¬ ('?'.toUInt8 = '>'.toUInt8 ∧ ['?'.toUInt8].reverse <+: bytes.reverse ++ ['?'.toUInt8]) :=
    fun ends => absurd ends.1 (by decide)
  have closed : Scan.step ⟨.instruction, '?'.toUInt8 :: (bytes.reverse ++ ['?'.toUInt8]), depth, events.reverse⟩
      '>'.toUInt8 = ⟨.text, [], depth, events.reverse⟩ := by
    simp [Scan.step, Scan.stepInstruction, Scan.resume, Scan.enter]
  have goes_on : ¬ ['?'.toUInt8] ++ ['>'.toUInt8] <:+: ['?'.toUInt8].reverse ++ bytes := fits
  rw [Mark.bytes, List.foldl_cons, opened, List.foldl_cons, begun, List.foldl_append, foldl_hold holds goes_on, List.foldl_cons,
    holds _ _ no_end, List.foldl_cons, List.foldl_nil, closed]
  simp [Mark.events]

/-- A part is found, whatever it is, and the text behind it. -/
theorem atText_marked {marked : Marked} {next : Nat} (fits : marked.Fits) (nests : marked.mark.depthAfter? depth = some next)
    (at_text : AtText scan depth events) :
    AtText (marked.bytes.foldl Scan.step scan) next (events ++ marked.events) := by
  have scanned : marked.mark.bytes.foldl Scan.step scan = ⟨.text, [], next, (events ++ marked.mark.events).reverse⟩ := by
    obtain ⟨mark, tail⟩ := marked
    cases mark with
    | start name attributes =>
      cases nests
      exact foldl_start at_text fits.1
    | empty name attributes =>
      cases nests
      exact foldl_empty at_text fits.1
    | finish name =>
      obtain ⟨some_open, rfl⟩ : ¬ depth = 0 ∧ depth - 1 = next := by simpa [Mark.depthAfter?] using nests
      obtain ⟨less, rfl⟩ := Nat.exists_eq_succ_of_ne_zero some_open
      exact foldl_finish at_text fits.1
    | cdata bytes =>
      cases nests
      exact foldl_cdata at_text fits.1
    | reference bytes =>
      cases nests
      exact foldl_reference at_text fits.1
    | instruction bytes =>
      cases nests
      exact foldl_instruction at_text fits.1
  rw [Marked.bytes, List.foldl_append, scanned, Marked.events, ← List.append_assoc]
  exact atText_tail fits.2

theorem atText_marks {marks : List Marked} {next : Nat} (fits : ∀ marked ∈ marks, marked.Fits)
    (nests : depthAfter? depth marks = some next) (at_text : AtText scan depth events) :
    AtText ((markedBytes marks).foldl Scan.step scan) next (events ++ markedEvents marks) := by
  induction marks generalizing scan depth events with
  | nil =>
    cases nests
    simpa [markedBytes, markedEvents] using at_text
  | cons marked marks ih =>
    obtain ⟨marked_fits, rest_fit⟩ := List.forall_mem_cons.mp fits
    obtain ⟨middle, first, rest⟩ := Option.bind_eq_some_iff.mp nests
    have scanned := ih rest_fit rest (atText_marked marked_fits first at_text)
    rwa [List.append_assoc, ← List.foldl_append] at scanned

end scanning

/-- A document is taken apart into the parts that it was written of. -/
theorem written_eq {marks : List Marked} (writable : Writable marks) : written marks = ⟨markedEvents marks, true⟩ := by
  obtain ⟨depth, nests⟩ := Option.isSome_iff_exists.mp writable.nests
  have unmarked : dropMark (markedBytes marks) = markedBytes marks := by
    cases marks with
    | nil => rfl
    | cons marked marks =>
      obtain ⟨mark, tail⟩ := marked
      cases mark <;> rfl
  have at_start : AtText Scan.start 0 [] := ⟨rfl, rfl, rfl⟩
  have at_end := atText_marks writable.fits nests at_start
  rw [written, Document.ofBytes, unmarked, Scan.document, if_pos ⟨at_end.mode, rfl⟩, at_end.events, List.reverse_reverse,
    List.nil_append]

section reading

variable {item : Attribute} {attributes : List Attribute} {element : Name}

theorem takeValue?_quoted {value : List UInt8} (unquoted : '"'.toUInt8 ∉ value) (rest : List UInt8) :
    takeValue? ('"'.toUInt8 :: (value ++ '"'.toUInt8 :: rest)) = some (value, rest) := by
  have others : ∀ byte ∈ value, (decide (byte ≠ '"'.toUInt8)) = true := fun byte member =>
    decide_eq_true fun same => unquoted (same ▸ member)
  have stops : ('"'.toUInt8 :: rest).dropWhile (· ≠ '"'.toUInt8) = '"'.toUInt8 :: rest ∧
      ('"'.toUInt8 :: rest).takeWhile (· ≠ '"'.toUInt8) = [] := ⟨rfl, rfl⟩
  have quote : isQuote '"'.toUInt8 = true := by decide
  simp only [takeValue?, quote, ↓reduceIte]
  rw [List.dropWhile_append_of_pos others, List.takeWhile_append_of_pos others, stops.1, stops.2, List.append_nil]

/-- An attribute is taken as a whole, and what follows it is left. -/
theorem takeAttribute?_bytes (fits : item.Fits) (rest : List UInt8) :
    ∃ first more, (item.bytes ++ rest).dropWhile isBlank = first :: more ∧ takeAttribute? first more = some (item, rest) := by
  obtain ⟨⟨filled, plain⟩, unquoted⟩ := fits
  obtain ⟨name, value⟩ := item
  obtain ⟨first, others, rfl⟩ := List.exists_cons_of_ne_nil filled
  obtain ⟨first_free, others_free⟩ := List.forall_mem_cons.mp plain
  have no_blank : isBlank first = false := (isReserved_iff.mp first_free).1
  have named : ∀ byte ∈ others, (!endsName byte) = true := fun byte member => by
    obtain ⟨blank, -, sign, -⟩ := isReserved_iff.mp (others_free byte member)
    simp [endsName, blank, sign]
  have sign_ends (rest : List UInt8) : ('='.toUInt8 :: rest).dropWhile (!endsName ·) = '='.toUInt8 :: rest ∧
      ('='.toUInt8 :: rest).takeWhile (!endsName ·) = [] := ⟨rfl, rfl⟩
  have sign_stands (rest : List UInt8) : ('='.toUInt8 :: rest).dropWhile isBlank = '='.toUInt8 :: rest := rfl
  have quote_stands (rest : List UInt8) : ('"'.toUInt8 :: rest).dropWhile isBlank = '"'.toUInt8 :: rest := rfl
  refine ⟨first, others ++ '='.toUInt8 :: '"'.toUInt8 :: (value ++ '"'.toUInt8 :: rest), ?_, ?_⟩
  · have space : isBlank ' '.toUInt8 = true := by decide
    simp [Attribute.bytes, space, no_blank]
  · rw [takeAttribute?, List.dropWhile_append_of_pos named, List.takeWhile_append_of_pos named,
      (sign_ends _).1, (sign_ends _).2, sign_stands, List.append_nil]
    simp only [↓reduceIte]
    rw [quote_stands, takeValue?_quoted unquoted]
    rfl

theorem attributesOf_attributeBytes (fits : ∀ item ∈ attributes, item.Fits) :
    attributesOf (attributeBytes attributes) = ⟨attributes, true⟩ := by
  induction attributes with
  | nil =>
    rw [attributeBytes, List.flatMap_nil, attributesOf]
    rfl
  | cons item attributes ih =>
    obtain ⟨item_fits, rest_fit⟩ := List.forall_mem_cons.mp fits
    obtain ⟨first, more, begins, taken⟩ := takeAttribute?_bytes item_fits (attributeBytes attributes)
    have split_off : attributeBytes (item :: attributes) = item.bytes ++ attributeBytes attributes := rfl
    rw [split_off, attributesOf]
    split
    · next ended =>
      rw [ended] at begins
      cases begins
    · next first' more' begins' =>
      rw [begins'] at begins
      cases begins
      split
      · next none_taken =>
        rw [none_taken] at taken
        cases taken
      · next found rest taken' =>
        rw [taken'] at taken
        cases taken
        simp [ih rest_fit]

/-- What attributes say under a name is what the first of that name says. -/
def said (attributes : List Attribute) (sought : Name) : Except XmlFault (Option String) :=
  match attributes.find? (·.name = sought) with
  | some item => (attributeText item.value).map some
  | none => .ok none

theorem value?_attributeBytes (fits : ∀ item ∈ attributes, item.Fits) (sought : Name) :
    Tag.value? ⟨element, attributeBytes attributes⟩ sought = said attributes sought := by
  simp only [Tag.value?, attributesOf_attributeBytes fits, ↓reduceIte]
  rfl

theorem unescape?_of_plain {chars : List Char} (plain : '&' ∉ chars) : unescape? none chars = some chars := by
  induction chars with
  | nil => rfl
  | cons c chars ih =>
    obtain ⟨other, rest⟩ := not_or.mp (mt List.mem_cons.mpr plain)
    simp only [unescape?, if_neg (Ne.symm other), ih rest, Option.map_some]

/-- A text without references is written as it is. -/
theorem attributeText_name {text : String} (plain : '&' ∉ text.toList) : attributeText (name text) = .ok text := by
  have decoded : decode? (name text) = some text.toList := by
    rw [← decode?_utf8, utf8, String.ofList_toList]
  simp only [attributeText, decoded, Option.bind_some, unescape?_of_plain plain, String.ofList_toList]

end reading

/-- What follows a part: a text and other parts. -/
structure Tail where
  text : List UInt8 := []
  marks : List Marked := []

/-- What is found behind a part. -/
def Tail.events (tail : Tail) : List Event :=
  textEvents tail.text ++ markedEvents tail.marks

/-- What follows a part, and then other parts. -/
def Tail.before (tail : Tail) (marks : List Marked) : Tail :=
  ⟨tail.text, tail.marks ++ marks⟩

/-- A part and what follows it. -/
def follow (mark : Mark) (tail : Tail) : List Marked :=
  ⟨mark, tail.text⟩ :: tail.marks

/-- The attributes of an element, and whether it is written as one tag where it holds nothing. -/
structure Opening where
  attributes : List Attribute := []
  short : Bool := false

/-- An element with what it holds and what follows it. -/
def wrap (element : Name) (opening : Opening) (inner after : Tail) : List Marked :=
  if opening.short && inner.text.isEmpty && inner.marks.isEmpty then follow (.empty element opening.attributes) after
  else follow (.start element opening.attributes) inner ++ follow (.finish element) after

theorem markedEvents_append (left right : List Marked) :
    markedEvents (left ++ right) = markedEvents left ++ markedEvents right :=
  List.flatMap_append

theorem events_before (tail : Tail) (marks : List Marked) : (tail.before marks).events = tail.events ++ markedEvents marks := by
  rw [Tail.events, Tail.before, markedEvents_append, ← List.append_assoc]
  rfl

theorem markedEvents_follow (mark : Mark) (tail : Tail) : markedEvents (follow mark tail) = mark.events ++ tail.events := by
  rw [follow, markedEvents, List.flatMap_cons, Marked.events, List.append_assoc]
  rfl

/-- However an element is written, what is found is its start, what it holds and its end. -/
theorem markedEvents_wrap (element : Name) (opening : Opening) (inner after : Tail) :
    markedEvents (wrap element opening inner after) =
      .start ⟨element, attributeBytes opening.attributes⟩ :: (inner.events ++ .finish element :: after.events) := by
  unfold wrap
  split
  · next empty =>
    obtain ⟨⟨-, no_text⟩, no_marks⟩ : (opening.short = true ∧ inner.text = []) ∧ inner.marks = [] := by simpa using empty
    have nothing : inner.events = [] := by
      rw [Tail.events, no_text, no_marks]
      rfl
    rw [markedEvents_follow, nothing]
    rfl
  · rw [markedEvents_append, markedEvents_follow, markedEvents_follow]
    simp [Mark.events]

/-- The part is no tag of an element with one of these names. -/
def Mark.Avoids (names : List Name) : Mark → Prop
  | start name _ | empty name _ | finish name => name ∉ names
  | _ => True

instance (names : List Name) : DecidablePred (Mark.Avoids names)
  | .start name _ | .empty name _ | .finish name => inferInstanceAs (Decidable (name ∉ names))
  | .cdata _ | .reference _ | .instruction _ => isTrue trivial

/-- Something between elements, or in front of them or behind them: anything but tags with some names. -/
structure Gap (names : List Name) extends Tail where
  avoids : ∀ marked ∈ marks, marked.mark.Avoids names

/-- What is found is not about an element with one of these names. -/
def Event.Avoids (names : List Name) : Event → Prop
  | .start tag => tag.name ∉ names
  | .finish name => name ∉ names
  | _ => True

section avoiding

variable {names : List Name} {event : Event}

theorem avoids_of_mem_textEvents {bytes : List UInt8} (member : event ∈ textEvents bytes) : event.Avoids names := by
  unfold textEvents at member
  split at member
  · cases member
  · rw [List.mem_singleton.mp member]
    trivial

theorem avoids_of_mem_markedEvents {marks : List Marked} (avoids : ∀ marked ∈ marks, marked.mark.Avoids names)
    (member : event ∈ markedEvents marks) : event.Avoids names := by
  obtain ⟨⟨mark, tail⟩, marked_member, found⟩ := List.mem_flatMap.mp member
  have mark_avoids : mark.Avoids names := avoids _ marked_member
  rcases List.mem_append.mp found with part | text
  · cases mark with
    | start | finish =>
      rw [List.mem_singleton.mp part]
      exact mark_avoids
    | empty => rcases List.mem_pair.mp part with rfl | rfl <;> exact mark_avoids
    | cdata | reference =>
      rw [List.mem_singleton.mp part]
      trivial
    | instruction => cases part
  · exact avoids_of_mem_textEvents text

theorem avoids_of_mem_gap {gap : Gap names} (member : event ∈ gap.events) : event.Avoids names := by
  rcases List.mem_append.mp member with text | marks
  · exact avoids_of_mem_textEvents text
  · exact avoids_of_mem_markedEvents gap.avoids marks

end avoiding

end Tablesmith.Xml
