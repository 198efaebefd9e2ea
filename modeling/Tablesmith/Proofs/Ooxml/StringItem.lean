import Mathlib
import Tablesmith.Proofs.Number.Digits
import Tablesmith.Proofs.Ooxml.Package
import Tablesmith.Proofs.Steps
import Tablesmith.Proofs.Xml.Writing

/-!
# Texts and their phonetic guides

A text is written in pieces, and every piece in chunks: characters as they are, sections
of plain characters and references. What is read of it are the characters of its pieces
(`takes_parts`), neither those of its phonetic guides nor what stands in between,
whether the text is shared, in a cell or the value of a cell.
-/

namespace Tablesmith.Ooxml

open Number Outcome Text.Encoding Xml

/-! ## Writing -/

/-- The characters that can be named. -/
inductive Entity
  | less
  | greater
  | ampersand
  | apostrophe
  | quote

/-- The name of a character. -/
def Entity.name : Entity → List Char
  | less => ['l', 't']
  | greater => ['g', 't']
  | ampersand => ['a', 'm', 'p']
  | apostrophe => ['a', 'p', 'o', 's']
  | quote => ['q', 'u', 'o', 't']

/-- The character of a name. -/
def Entity.char : Entity → Char
  | less => '<'
  | greater => '>'
  | ampersand => '&'
  | apostrophe => '\''
  | quote => '"'

/-- A hexadecimal digit, and whether it is a capital letter. -/
abbrev HexDigit : Type :=
  Fin 16 × Bool

/-- A hexadecimal digit as a character. -/
def hexChar (digit : HexDigit) : Char :=
  if digit.2 then (Nat.digitChar digit.1).toUpper else Nat.digitChar digit.1

/-- The number that hexadecimal digits write. -/
def hexValue (digits : List HexDigit) : Nat :=
  digits.foldl (fun value digit => 16 * value + digit.1) 0

/-- A part of a text that is not written as the characters themselves. -/
inductive Chunk
  | cdata (chars : List Char)
  | entity (named : Entity)
  | decimal (char : Char) (digits : List Char) (filled : digits ≠ []) (decimal : ∀ c ∈ digits, c.isDigit = true)
    (value : Nat.ofDigitChars 10 digits 0 = char.toNat)
  | hexadecimal (char : Char) (digits : List HexDigit) (filled : digits ≠ []) (value : hexValue digits = char.toNat)

namespace Chunk

/-- What is written for a chunk. -/
def mark : Chunk → Mark
  | cdata chars => .cdata (utf8 chars)
  | entity named => .reference (utf8 named.name)
  | decimal _ digits _ _ _ => .reference (utf8 ('#' :: digits))
  | hexadecimal _ digits _ _ => .reference (utf8 ('#' :: 'x' :: digits.map hexChar))

/-- The characters of a chunk. -/
def visible : Chunk → List Char
  | cdata chars => normalizeLines chars
  | entity named => [named.char]
  | decimal char _ _ _ _ => [char]
  | hexadecimal char _ _ _ => [char]

end Chunk

/-- A text in chunks, with the characters in front of them and behind each of them. -/
structure Content where
  first : List Char
  rest : List (Chunk × List Char)

namespace Content

/-- What is written for a text. -/
def tail (content : Content) : Tail :=
  ⟨utf8 content.first, content.rest.map fun part => ⟨part.1.mark, utf8 part.2⟩⟩

/-- The characters of a text. -/
def visible (content : Content) : List Char :=
  normalizeLines content.first ++ content.rest.flatMap fun part => part.1.visible ++ normalizeLines part.2

end Content

/-- The names that mean something in an element that holds a text in pieces. -/
def itemNames (element : Name) : List Name :=
  [name "t", name "rPh", element]

/-- A piece of a text, and a phonetic guide with pieces of its own. -/
inductive ItemPart (element : Name)
  | piece (opening : Opening) (content : Content)
  | guide (opening : Opening) (lead : Gap (itemNames element)) (pieces : List (Opening × Content × Gap (itemNames element)))

namespace ItemPart

variable {element : Name}

/-- A part of a text and what follows it. -/
def marks (part : ItemPart element) (after : Tail) : List Marked :=
  match part with
  | piece opening content => wrap (name "t") opening content.tail after
  | guide opening lead pieces =>
    wrap (name "rPh") opening
      (lead.before (pieces.flatMap fun piece => wrap (name "t") piece.1 piece.2.1.tail piece.2.2.toTail)) after

/-- The characters of a part that belong to the text. -/
def visible : ItemPart element → List Char
  | piece _ content => content.visible
  | guide _ _ _ => []

end ItemPart

/-- An element that holds a text in pieces. Everything else in it, such as runs and their properties, stands between the
pieces and the guides. -/
structure Item (element : Name) where
  opening : Opening
  lead : Gap (itemNames element)
  parts : List (ItemPart element × Gap (itemNames element))

namespace Item

variable {element : Name}

/-- What an element with a text holds. -/
def inner (item : Item element) : Tail :=
  item.lead.before (item.parts.flatMap fun part => part.1.marks part.2.toTail)

/-- An element with a text and what follows it. -/
def marks (item : Item element) (after : Tail) : List Marked :=
  wrap element item.opening item.inner after

/-- The characters of a text. -/
def visible (item : Item element) : List Char :=
  item.parts.flatMap fun part => part.1.visible

end Item

variable {chars : List Char} {item next last : StringItem} {events more : List Event} {element : Name}

theorem decodeText_utf8 (chars : List Char) : decodeText (utf8 chars) = .ok (normalizeLines chars) := by
  rw [decodeText, decode?_utf8]

/-- A character of ASCII that is no control. -/
def IsPrinted (c : Char) : Prop :=
  ' '.toNat ≤ c.toNat ∧ c.toNat < 128

instance : DecidablePred IsPrinted :=
  fun _ => inferInstanceAs (Decidable (_ ∧ _))

theorem IsPrinted.inLine {c : Char} (printed : IsPrinted c) : c ≠ '\r' ∧ c ≠ nextLine ∧ c ≠ lineSeparator := by
  refine ⟨?_, ?_, ?_⟩ <;>
  · rintro rfl
    revert printed
    decide

theorem normalizeLines_of_printed (printed : ∀ c ∈ chars, IsPrinted c) : normalizeLines chars = chars := by
  induction chars with
  | nil => rfl
  | cons c chars ih =>
    obtain ⟨first_printed, rest_printed⟩ := List.forall_mem_cons.mp printed
    obtain ⟨no_return, no_next, no_separator⟩ := first_printed.inLine
    rw [normalizeLines, ih rest_printed]
    · simp [no_return, no_next, no_separator]
    · rintro _ _ rfl
      exact absurd rfl no_return

theorem hexDigit?_hexChar (digit : HexDigit) : hexDigit? (hexChar digit) = some digit.1.val := by
  revert digit
  decide

theorem hexChar_ne_plus (digit : HexDigit) : hexChar digit ≠ '+' := by
  revert digit
  decide

theorem foldlM_hexChar (digits : List HexDigit) (value : Nat) :
    (digits.map hexChar).foldlM (fun value c => (hexDigit? c).map (16 * value + ·)) value =
      some (digits.foldl (fun value digit => 16 * value + digit.1.val) value) := by
  induction digits generalizing value with
  | nil => rfl
  | cons digit digits ih =>
    rw [List.map_cons, List.foldlM_cons, hexDigit?_hexChar]
    exact ih _

/-- Digits of either case are read as the number that they write. -/
theorem readHexDigits?_hexChar {digits : List HexDigit} (filled : digits ≠ []) :
    readHexDigits? (digits.map hexChar) = some (hexValue digits) := by
  unfold readHexDigits?
  rw [if_neg (by simpa using filled), foldlM_hexChar, hexValue]

theorem toNat_lt (char : Char) : char.toNat < 2 ^ 32 := by
  have scalar := toNat_scalar char
  omega

theorem scalar?_toNat (char : Char) : scalar? char.toNat = some char := by
  rw [scalar?, if_pos (toNat_scalar char), Char.ofNat_toNat]

theorem resolve_decimal {char : Char} {digits : List Char} (filled : digits ≠ []) (decimal : ∀ c ∈ digits, c.isDigit = true)
    (value : Nat.ofDigitChars 10 digits 0 = char.toNat) : resolve ('#' :: digits) = .ok [char] := by
  have unsigned : dropPlus digits = digits := (dropPlus_eq_iff decimal).mpr (Or.inl rfl)
  have read : readNatural? (Nat.pow 2 32) (String.ofList digits) = some char.toNat := by
    rw [readNatural?, String.toList_ofList, unsigned, readDigits?_eq_some_iff.mpr ⟨filled, decimal, value⟩,
      Option.filter_some, if_pos (by simpa using toNat_lt char)]
  have code : referenceCode? digits = some char.toNat := by
    unfold referenceCode?
    split
    · exact absurd (decimal 'x' List.mem_cons_self) (by decide)
    · exact read
  simp only [resolve, code, scalar?_toNat, Option.toList_some]

theorem resolve_hexadecimal {char : Char} {digits : List HexDigit} (filled : digits ≠ [])
    (value : hexValue digits = char.toNat) : resolve ('#' :: 'x' :: digits.map hexChar) = .ok [char] := by
  have unsigned : dropPlus (digits.map hexChar) = digits.map hexChar := by
    obtain ⟨digit, others, rfl⟩ := List.exists_cons_of_ne_nil filled
    unfold dropPlus
    split
    · next same => exact absurd (List.cons.inj same).1 (hexChar_ne_plus digit)
    · rfl
  have code : referenceCode? ('x' :: digits.map hexChar) = some char.toNat := by
    rw [referenceCode?, readHex?, String.toList_ofList, unsigned, readHexDigits?_hexChar filled, value, Option.filter_some,
      if_pos (by simpa using toNat_lt char)]
  simp only [resolve, code, scalar?_toNat, Option.toList_some]

theorem decodeReference_utf8 (printed : ∀ c ∈ chars, IsPrinted c) :
    decodeReference (utf8 chars) = resolve chars := by
  rw [decodeReference, decodeText_utf8, normalizeLines_of_printed printed]
  rfl

theorem resolve_name (named : Entity) : resolve named.name = .ok [named.char] := by
  cases named <;> rfl

/-- What is heard of characters: only those within a piece count. -/
def StringItem.hear (item : StringItem) (chars : List Char) : StringItem :=
  if item.inPiece then item.add chars else item

/-- Events that do not end the element of a text, and what is read of the text behind them. -/
structure Takes (element : Name) (item : StringItem) (events : List Event) (next : StringItem) : Prop where
  within : ∀ event ∈ events, event ≠ .finish element
  taken : events.foldlM StringItem.step item = .ok next

namespace Takes

theorem nil : Takes element item [] item :=
  ⟨nofun, rfl⟩

theorem cons {event : Event} (other : event ≠ .finish element) (stepped : item.step event = .ok next)
    (rest : Takes element next events last) : Takes element item (event :: events) last :=
  ⟨List.forall_mem_cons.mpr ⟨other, rest.within⟩, bind_ok_iff.mpr ⟨next, stepped, rest.taken⟩⟩

theorem append (first : Takes element item events next) (second : Takes element next more last) :
    Takes element item (events ++ more) last := by
  refine ⟨List.forall_mem_append.mpr ⟨first.within, second.within⟩, ?_⟩
  rw [List.foldlM_append, first.taken]
  exact second.taken

end Takes

namespace StringItem

theorem add_nil (item : StringItem) : item.add [] = item := by
  rw [add, String.ofList_nil, String.append_empty]

theorem add_add (item : StringItem) (first second : List Char) : (item.add first).add second = item.add (first ++ second) := by
  simp only [add, String.ofList_append, String.append_assoc]

theorem hear_nil (item : StringItem) : item.hear [] = item := by
  rw [hear, add_nil, ite_self]

theorem hear_hear (item : StringItem) (first second : List Char) :
    (item.hear first).hear second = item.hear (first ++ second) := by
  unfold hear
  split
  · next inside => rw [← add_add, if_pos (by exact inside)]
  · rfl

/-- Characters are heard wherever they are decoded. -/
theorem hear_eq {decoded : Except XmlFault (List Char)} (decodes : decoded = .ok chars) :
    (if item.inPiece then decoded.map item.add else .ok item) = .ok (item.hear chars) := by
  rw [decodes, hear]
  split <;> rfl

end StringItem

open StringItem

theorem takes_text (element : Name) (item : StringItem) (chars : List Char) :
    Takes element item (textEvents (utf8 chars)) (item.hear (normalizeLines chars)) := by
  unfold textEvents
  split
  · next nothing =>
    have empty : chars = [] := by
      have decoded := decode?_utf8 chars
      rw [nothing, ← show utf8 [] = [] from rfl, decode?_utf8] at decoded
      exact (Option.some.inj decoded).symm
    rw [empty, normalizeLines, hear_nil]
    exact .nil
  · exact .cons nofun (hear_eq (decodeText_utf8 chars)) .nil

theorem takes_reference (element : Name) (item : StringItem) {written : List Char}
    (printed : ∀ c ∈ written, IsPrinted c) (resolved : resolve written = .ok chars) :
    Takes element item (Mark.reference (utf8 written)).events (item.hear chars) :=
  .cons nofun (hear_eq ((decodeReference_utf8 printed).trans resolved)) .nil

theorem takes_chunk (element : Name) (item : StringItem) (chunk : Chunk) :
    Takes element item chunk.mark.events (item.hear chunk.visible) := by
  cases chunk with
  | cdata chars => exact .cons nofun (hear_eq (decodeText_utf8 chars)) .nil
  | entity named =>
    have printed : ∀ c ∈ named.name, IsPrinted c := by
      cases named <;> simp [Entity.name, IsPrinted]
    exact takes_reference element item printed (resolve_name named)
  | decimal char digits filled decimal value =>
    refine takes_reference element item ?_ (resolve_decimal filled decimal value)
    refine List.forall_mem_cons.mpr ⟨by decide, fun c member => ?_⟩
    obtain ⟨low, high⟩ : '0'.toNat ≤ c.toNat ∧ c.toNat ≤ '9'.toNat := by
      simpa [Char.isDigit, UInt32.le_iff_toNat_le] using decimal c member
    exact ⟨le_trans (by decide) low, lt_of_le_of_lt high (by decide)⟩
  | hexadecimal char digits filled value =>
    have printed : ∀ digit : HexDigit, IsPrinted (hexChar digit) := by decide
    refine takes_reference element item ?_ (resolve_hexadecimal filled value)
    refine List.forall_mem_cons.mpr ⟨by decide, List.forall_mem_cons.mpr ⟨by decide, ?_⟩⟩
    exact List.forall_mem_map.mpr fun digit _ => printed digit

/-- All that is written of a text is heard, in whatever chunks. -/
theorem takes_content (element : Name) (item : StringItem) (content : Content) :
    Takes element item content.tail.events (item.hear content.visible) := by
  obtain ⟨first, rest⟩ := content
  have chunks (item : StringItem) : Takes element item
      (markedEvents (rest.map fun part => ⟨part.1.mark, utf8 part.2⟩))
      (item.hear (rest.flatMap fun part => part.1.visible ++ normalizeLines part.2)) := by
    induction rest generalizing item with
    | nil =>
      rw [List.flatMap_nil, hear_nil]
      exact .nil
    | cons part rest ih =>
      rw [List.flatMap_cons, ← hear_hear, ← hear_hear]
      exact ((takes_chunk element item part.1).append (takes_text element _ part.2)).append (ih _)
  have whole := (takes_text element item first).append (chunks _)
  rwa [hear_hear] at whole

variable {text : List UInt8}

/-- Outside of pieces nothing is read but tags of pieces and guides. -/
theorem step_of_avoids {event : Event} (outside : item.inPiece = false) (avoids : event.Avoids (itemNames element)) :
    item.step event = .ok item := by
  cases event with
  | start tag =>
    obtain ⟨no_piece, no_guide, -⟩ : tag.name ≠ name "t" ∧ tag.name ≠ name "rPh" ∧ tag.name ≠ element := by
      simpa [Event.Avoids, itemNames] using avoids
    rw [StringItem.step, enter, if_neg no_guide, if_neg (fun piece => no_piece piece.1)]
  | finish finished =>
    obtain ⟨no_piece, no_guide, -⟩ : finished ≠ name "t" ∧ finished ≠ name "rPh" ∧ finished ≠ element := by
      simpa [Event.Avoids, itemNames] using avoids
    rw [StringItem.step, leave, if_neg no_guide, if_neg no_piece]
  | text bytes =>
    rw [StringItem.step, outside]
    rfl
  | cdata bytes =>
    rw [StringItem.step, outside]
    rfl
  | reference bytes =>
    rw [StringItem.step, outside]
    rfl

theorem takes_of_avoids (outside : item.inPiece = false) (avoids : ∀ event ∈ events, event.Avoids (itemNames element)) :
    Takes element item events item := by
  refine ⟨fun event member ends => ?_, foldlM_stays fun event member => step_of_avoids outside (avoids event member)⟩
  subst ends
  exact avoids _ member (by simp [itemNames])

theorem takes_gap (outside : item.inPiece = false) (gap : Gap (itemNames element)) :
    Takes element item gap.events item :=
  takes_of_avoids outside fun _ => avoids_of_mem_gap

/-- A piece is read, but not within a guide. -/
theorem takes_piece (outside : item.inPiece = false) (other : element ≠ name "t") (opening : Opening) (content : Content)
    (after : Gap (itemNames element)) :
    Takes element item (markedEvents (wrap (name "t") opening content.tail after.toTail))
      (if item.inGuide then item else item.add content.visible) := by
  have within : Takes element { item with inPiece := !item.inGuide } content.tail.events
      { (if item.inGuide then item else item.add content.visible) with inPiece := !item.inGuide } := by
    have heard := takes_content element { item with inPiece := !item.inGuide } content
    cases guided : item.inGuide <;> simpa [hear, guided, add] using heard
  have entered (attributes : List UInt8) :
      item.step (.start ⟨name "t", attributes⟩) = .ok { item with inPiece := !item.inGuide } := by
    have no_guide : name "t" ≠ name "rPh" := by decide +kernel
    obtain ⟨_, inGuide, _, _⟩ := item
    cases outside
    cases inGuide <;> simp [StringItem.step, enter, no_guide]
  have left : StringItem.step { (if item.inGuide then item else item.add content.visible) with inPiece := !item.inGuide }
      (.finish (name "t")) = .ok (if item.inGuide then item else item.add content.visible) := by
    have no_guide : name "t" ≠ name "rPh" := by decide +kernel
    obtain ⟨_, inGuide, _, _⟩ := item
    cases outside
    cases inGuide <;> simp [StringItem.step, leave, no_guide, add]
  have outside_still : (if item.inGuide then item else item.add content.visible).inPiece = false := by
    split <;> exact outside
  rw [markedEvents_wrap]
  refine .cons nofun (entered _) (within.append (.cons ?_ left (takes_gap outside_still after)))
  simpa using Ne.symm other

theorem takes_guide (outside : item.inPiece = false) (unguided : item.inGuide = false)
    (other : element ≠ name "t" ∧ element ≠ name "rPh") (opening : Opening) (lead : Gap (itemNames element))
    (pieces : List (Opening × Content × Gap (itemNames element))) (after : Gap (itemNames element)) :
    Takes element item (markedEvents ((ItemPart.guide opening lead pieces).marks after.toTail)) item := by
  have silent : Takes element { item with inGuide := true }
      (markedEvents (pieces.flatMap fun piece => wrap (name "t") piece.1 piece.2.1.tail piece.2.2.toTail))
      { item with inGuide := true } := by
    induction pieces with
    | nil => exact .nil
    | cons piece pieces ih =>
      rw [List.flatMap_cons, markedEvents_append]
      exact (takes_piece (by exact outside) other.1 piece.1 piece.2.1 piece.2.2).append ih
  have inside := (takes_gap (by exact outside) lead).append silent
  have entered (attributes : List UInt8) :
      item.step (.start ⟨name "rPh", attributes⟩) = .ok { item with inGuide := true } := by
    rw [StringItem.step, enter, if_pos rfl]
  have left : StringItem.step { item with inGuide := true } (.finish (name "rPh")) = .ok item := by
    obtain ⟨_, _, _, _⟩ := item
    cases unguided
    rw [StringItem.step, leave, if_pos rfl]
  rw [ItemPart.marks, markedEvents_wrap, events_before]
  refine .cons nofun (entered _) (inside.append (.cons ?_ left (takes_gap outside after)))
  simpa using Ne.symm other.2

/-- A part is read, and what follows it is the text outside of guides again. -/
theorem takes_part (outside : item.inPiece = false) (unguided : item.inGuide = false)
    (other : element ≠ name "t" ∧ element ≠ name "rPh") (part : ItemPart element) (after : Gap (itemNames element)) :
    Takes element item (markedEvents (part.marks after.toTail)) (item.add part.visible) := by
  cases part with
  | piece opening content =>
    have taken := takes_piece outside other.1 opening content after
    rwa [unguided, if_neg (by decide)] at taken
  | guide opening lead pieces =>
    rw [ItemPart.visible, add_nil]
    exact takes_guide outside unguided other opening lead pieces after

theorem takes_parts (outside : item.inPiece = false) (unguided : item.inGuide = false)
    (other : element ≠ name "t" ∧ element ≠ name "rPh") (parts : List (ItemPart element × Gap (itemNames element))) :
    Takes element item (markedEvents (parts.flatMap fun part => part.1.marks part.2.toTail))
      (item.add (parts.flatMap fun part => part.1.visible)) := by
  induction parts generalizing item with
  | nil =>
    rw [List.flatMap_nil, List.flatMap_nil, add_nil]
    exact .nil
  | cons part parts ih =>
    rw [List.flatMap_cons, List.flatMap_cons, markedEvents_append, ← add_add]
    exact (takes_part outside unguided other part.1 part.2).append (ih outside unguided)

theorem takes_inner (other : element ≠ name "t" ∧ element ≠ name "rPh") (item : Item element) :
    Takes element (ofPieces element) item.inner.events ((ofPieces element).add item.visible) := by
  have parts : Takes element (ofPieces element) _ ((ofPieces element).add item.visible) :=
    takes_parts rfl rfl other item.parts
  rw [Item.inner, events_before]
  exact (takes_gap rfl item.lead).append parts

namespace StringItem

theorem element_step {event : Event} (stepped : item.step event = .ok next) : next.element = item.element := by
  have heard {decoded : Except XmlFault (List Char)}
      (given : (if item.inPiece then decoded.map item.add else .ok item) = .ok next) : next.element = item.element := by
    split at given
    · obtain ⟨_, _, rfl⟩ := map_ok_iff.mp given
      rfl
    · cases given
      rfl
  cases event with
  | start tag =>
    cases stepped
    unfold enter
    split_ifs <;> rfl
  | finish element =>
    cases stepped
    unfold leave
    split_ifs <;> rfl
  | text | cdata | reference => exact heard stepped

/-- What holds a text that is being read takes in what the text takes in, until its element ends. -/
theorem foldlM_hold {σ : Type} {step : σ → Event → Except XmlFault σ} (hold : StringItem → σ)
    (steps : ∀ item event, event ≠ .finish item.element → step (hold item) event = (item.step event).map hold)
    (taken : Takes element item events next) (named : item.element = element) :
    events.foldlM step (hold item) = .ok (hold next) ∧ next.element = element := by
  obtain ⟨within, taken⟩ := taken
  induction events generalizing item with
  | nil =>
    cases taken
    exact ⟨rfl, named⟩
  | cons event events ih =>
    obtain ⟨other, rest_within⟩ := List.forall_mem_cons.mp within
    obtain ⟨middle, stepped, rest⟩ := bind_ok_iff.mp taken
    obtain ⟨ran, last_named⟩ := ih ((element_step stepped).trans named) rest_within rest
    refine ⟨?_, last_named⟩
    rw [List.foldlM_cons, steps _ _ (named ▸ other), stepped]
    exact ran

end StringItem

namespace SharedStrings

variable {texts : List String}

theorem step_open {event : Event} (other : event ≠ .finish item.element) :
    step ⟨texts, some item⟩ event = (item.step event).map fun item => ⟨texts, some item⟩ := by
  have goes_on : item.isEndedBy event = false := by simpa [isEndedBy] using other
  simp only [step, goes_on, Bool.false_eq_true, ↓reduceIte]

theorem foldlM_of_avoids (avoids : ∀ event ∈ events, event.Avoids [name "si"]) :
    events.foldlM step ⟨texts, none⟩ = .ok ⟨texts, none⟩ := by
  refine foldlM_stays fun event member => ?_
  cases event with
  | start tag =>
    have other : tag.name ≠ name "si" := by simpa [Event.Avoids] using avoids _ member
    exact if_neg other
  | _ => rfl

/-- An element with a text adds the text. -/
theorem foldlM_item (shared : Item (name "si")) (after : Gap [name "si"]) :
    (markedEvents (shared.marks after.toTail)).foldlM step ⟨texts, none⟩ =
      .ok ⟨String.ofList shared.visible :: texts, none⟩ := by
  have other : name "si" ≠ name "t" ∧ name "si" ≠ name "rPh" := by decide +kernel
  obtain ⟨ran, -⟩ := foldlM_hold (fun item => SharedStrings.mk texts (some item)) (fun _ _ => step_open)
    (takes_inner other shared) rfl
  have ended : step ⟨texts, some ((ofPieces (name "si")).add shared.visible)⟩ (.finish (name "si")) =
      .ok ⟨String.ofList shared.visible :: texts, none⟩ := by
    have ends : isEndedBy ((ofPieces (name "si")).add shared.visible) (.finish (name "si")) = true := decide_eq_true rfl
    have content : ((ofPieces (name "si")).add shared.visible).content = String.ofList shared.visible := String.empty_append
    simp only [step, ends, ↓reduceIte, content]
  have opened (attributes : List UInt8) : step ⟨texts, none⟩ (.start ⟨name "si", attributes⟩) =
      .ok ⟨texts, some (ofPieces (name "si"))⟩ := by
    simp only [step, ↓reduceIte]
  rw [Item.marks, markedEvents_wrap, List.foldlM_cons, opened, ok_bind, List.foldlM_append, ran, ok_bind, List.foldlM_cons,
    ended]
  exact foldlM_of_avoids fun _ => avoids_of_mem_gap

theorem foldlM_items (items : List (Item (name "si") × Gap [name "si"])) :
    (markedEvents (items.flatMap fun item => item.1.marks item.2.toTail)).foldlM step ⟨texts, none⟩ =
      .ok ⟨(items.map fun item => String.ofList item.1.visible).reverse ++ texts, none⟩ := by
  induction items generalizing texts with
  | nil => rfl
  | cons item items ih =>
    rw [List.flatMap_cons, markedEvents_append, List.foldlM_append, foldlM_item, ok_bind, ih, List.map_cons, List.reverse_cons,
      List.append_assoc]
    rfl

end SharedStrings

namespace Worksheet

open Grid

variable {kinds : Array CellKind} {worksheet : Worksheet}

theorem step_open {event : Event} (other : event ≠ .finish item.element) :
    step kinds { worksheet with open? := some item } event =
      (item.step event).map fun item => { worksheet with open? := some item } := by
  have goes_on : item.isEndedBy event = false := by simpa [isEndedBy] using other
  simp only [step, goes_on, Bool.false_eq_true, ↓reduceIte]

/-- Where a text has been read its element ends, and the text is the value. -/
theorem foldlM_text (kinds : Array CellKind) (outside : worksheet.open? = none)
    (taken : Takes element item events next) (named : item.element = element) :
    (events ++ [Event.finish element]).foldlM (step kinds) { worksheet with open? := some item } =
      .ok { worksheet with value := next.content } := by
  obtain ⟨ran, same⟩ := foldlM_hold (fun item => { worksheet with open? := some item }) (fun _ _ => step_open) taken named
  have ended : step kinds { worksheet with open? := some next } (.finish element) =
      .ok { worksheet with value := next.content } := by
    have ends : isEndedBy next (.finish element) = true := decide_eq_true (by rw [same])
    simp only [step, ends, ↓reduceIte]
    rw [← outside]
  rw [List.foldlM_append, ran, ok_bind, List.foldlM_cons, ended]
  rfl

/-- An element with a text in a cell gives the cell the text as its value. -/
theorem foldlM_inline (outside : worksheet.open? = none) (inline : Item (name "is")) (after : Tail) :
    (markedEvents (inline.marks after)).foldlM (step kinds) worksheet =
      after.events.foldlM (step kinds) { worksheet with value := String.ofList inline.visible } := by
  have other : name "is" ≠ name "t" ∧ name "is" ≠ name "rPh" := by decide +kernel
  have ran := foldlM_text kinds outside (takes_inner other inline) rfl
  have opened (attributes : List UInt8) : step kinds worksheet (.start ⟨name "is", attributes⟩) =
      .ok { worksheet with open? := some (ofPieces (name "is")) } := by
    have no_row : name "is" ≠ name "row" := by decide +kernel
    have no_cell : name "is" ≠ name "c" := by decide +kernel
    simp only [step, outside, stepOutside, no_row, no_cell, ↓reduceIte]
  have content : ((ofPieces (name "is")).add inline.visible).content = String.ofList inline.visible := String.empty_append
  rw [content] at ran
  rw [Item.marks, markedEvents_wrap, List.foldlM_cons, opened, ok_bind, List.append_cons, List.foldlM_append]
  exact congrArg (· >>= _) ran

/-- The value of a cell is read as it is written, all of it. -/
theorem foldlM_value (outside : worksheet.open? = none) (opening : Opening) (content : Content) (after : Tail) :
    (markedEvents (wrap (name "v") opening content.tail after)).foldlM (step kinds) worksheet =
      after.events.foldlM (step kinds) { worksheet with value := String.ofList content.visible } := by
  have ran := foldlM_text kinds outside (takes_content (name "v") (ofValue (name "v")) content) rfl
  have opened (attributes : List UInt8) : step kinds worksheet (.start ⟨name "v", attributes⟩) =
      .ok { worksheet with open? := some (ofValue (name "v")) } := by
    have no_row : name "v" ≠ name "row" := by decide +kernel
    have no_cell : name "v" ≠ name "c" := by decide +kernel
    have no_inline : name "v" ≠ name "is" := by decide +kernel
    simp only [step, outside, stepOutside, no_row, no_cell, no_inline, ↓reduceIte]
  have heard : ((ofValue (name "v")).hear content.visible).content = String.ofList content.visible := String.empty_append
  rw [heard] at ran
  rw [markedEvents_wrap, List.foldlM_cons, opened, ok_bind, List.append_cons, List.foldlM_append]
  exact congrArg (· >>= _) ran

end Worksheet

/-- A part that can be written gives what its events lead to. -/
theorem readPart_written {σ : Type} {marks : List Marked} (writable : Writable marks)
    (step : σ → Event → Except XmlFault σ) (start : σ) :
    readPart step start (written marks) = ((markedEvents marks).foldlM step start).mapError .xml := by
  rw [readPart, readDocument, written_eq writable]
  cases (markedEvents marks).foldlM step start <;> rfl

/-- A part with shared texts, each of them followed by something else. -/
def textTable (before : List Marked) (items : List (Item (name "si") × Gap [name "si"])) : List Marked :=
  before ++ items.flatMap fun item => item.1.marks item.2.toTail

/-- What is read of texts are their visible characters: of the shared texts, one for each, and of the value of a cell or
of the text in it, wherever in a worksheet the cell stands. -/
theorem read_visible (package : Zip.Archive) (kinds : Array Grid.CellKind) (sheet : Grid.Sheet) :
    (∀ (before : List Marked) (items : List (Item (name "si") × Gap [name "si"])),
      (∀ marked ∈ before, marked.mark.Avoids [name "si"]) → Writable (textTable before items) →
      part? package sharedStringsPart = .ok (some (written (textTable before items))) →
      readSharedStrings package = .ok (items.map fun item => String.ofList item.1.visible)) ∧
    ∀ (before : List Marked) (worksheet : Worksheet) (after : Tail),
      (markedEvents before).foldlM (Worksheet.step kinds) (Worksheet.start sheet) = .ok worksheet →
      worksheet.open? = none →
      (∀ inline : Item (name "is"), Writable (before ++ inline.marks after) →
        readPart (Worksheet.step kinds) (Worksheet.start sheet) (written (before ++ inline.marks after)) =
          (after.events.foldlM (Worksheet.step kinds)
            { worksheet with value := String.ofList inline.visible }).mapError .xml) ∧
      ∀ (opening : Opening) (content : Content), Writable (before ++ wrap (name "v") opening content.tail after) →
        readPart (Worksheet.step kinds) (Worksheet.start sheet)
            (written (before ++ wrap (name "v") opening content.tail after)) =
          (after.events.foldlM (Worksheet.step kinds)
            { worksheet with value := String.ofList content.visible }).mapError .xml := by
  refine ⟨fun before items avoids writable found => ?_, fun before worksheet after led outside =>
    ⟨fun inline writable => ?_, fun opening content writable => ?_⟩⟩
  · have before_ran : (markedEvents before).foldlM SharedStrings.step SharedStrings.start = .ok SharedStrings.start :=
      SharedStrings.foldlM_of_avoids fun _ => avoids_of_mem_markedEvents avoids
    have read : readPart SharedStrings.step SharedStrings.start (written (textTable before items)) =
        .ok ⟨(items.map fun item => String.ofList item.1.visible).reverse ++ [], none⟩ := by
      rw [readPart_written writable, textTable, markedEvents_append, List.foldlM_append, before_ran, ok_bind,
        SharedStrings.start, SharedStrings.foldlM_items]
      rfl
    rw [readSharedStrings, found, ok_bind]
    simp only [read, ok_bind, SharedStrings.toList, List.append_nil, List.reverse_reverse]
    rfl
  · rw [readPart_written writable, markedEvents_append, List.foldlM_append, led, ok_bind, Worksheet.foldlM_inline outside]
  · rw [readPart_written writable, markedEvents_append, List.foldlM_append, led, ok_bind, Worksheet.foldlM_value outside]

/-- `a&amp;b` with a phonetic guide, `x`. -/
def guidedItem (element : Name) : Item element where
  opening := {}
  lead := ⟨{}, nofun⟩
  parts := [
    (.piece { attributes := [⟨name "xml:space", name "preserve"⟩] } ⟨['a'], [(.entity .ampersand, ['b'])]⟩, ⟨{}, nofun⟩),
    (.guide { attributes := [⟨name "sb", name "0"⟩] } ⟨{}, nofun⟩ [({}, ⟨['x'], []⟩, ⟨{}, nofun⟩)], ⟨{}, nofun⟩)]

/-- Two runs: `c<![CDATA[<d]]>&#xE9;`, and `&#065;` behind a line feed. -/
def runsItem : Item (name "si") where
  opening := {}
  lead := ⟨{ marks := [⟨.start (name "r") [], []⟩] }, by decide +kernel⟩
  parts := [
    (.piece {} ⟨['c'], [(.cdata ['<', 'd'], []),
        (.hexadecimal 'é' [(14, true), (9, false)] (by decide) (by decide), [])]⟩,
      ⟨{ marks := [⟨.finish (name "r"), utf8 ['\n']⟩, ⟨.start (name "r") [], []⟩] }, by decide +kernel⟩),
    (.piece {} ⟨[], [(.decimal 'A' ['0', '6', '5'] (by decide) (by simp) (by decide), [])]⟩,
      ⟨{ marks := [⟨.finish (name "r"), []⟩] }, by decide +kernel⟩)]

/-- What stands in front of shared texts. -/
def sampleHead : List Marked :=
  [⟨.instruction (name "xml version=1.0"), []⟩, ⟨.start (name "sst") [], []⟩]

/-- Both of them, the second at the end. -/
def sampleItems : List (Item (name "si") × Gap [name "si"]) :=
  [(guidedItem (name "si"), ⟨{}, nofun⟩),
    (runsItem, ⟨{ marks := [⟨.finish (name "sst"), []⟩] }, by decide +kernel⟩)]

/-- What stands in front of the value of a cell. -/
def sampleFront : List Marked :=
  [⟨.start (name "sheetData") [], []⟩, ⟨.start (name "row") [], []⟩,
    ⟨.start (name "c") [⟨name "t", name "inlineStr"⟩], []⟩]

/-- What stands behind it. -/
def sampleBack : Tail :=
  { marks := [⟨.finish (name "c"), []⟩, ⟨.finish (name "row"), []⟩, ⟨.finish (name "sheetData"), []⟩] }

theorem read_visible_sample :
    (∃ package, Zip.Archive.ofBytes (Zip.store
        [⟨name sharedStringsPart, markedBytes (textTable sampleHead sampleItems)⟩]) = .ok package ∧
      readSharedStrings package = .ok ["a&b", "c<déA"]) ∧
    (readPart (Worksheet.step #[]) (Worksheet.start (.empty "Data.xlsx" "Sheet"))
        (written (sampleFront ++ (guidedItem (name "is")).marks sampleBack))).map (·.sheet) =
      .ok (Grid.Sheet.push (.empty "Data.xlsx" "Sheet") ⟨0, 0, .inlineText, "a&b"⟩) ∧
    (readPart (Worksheet.step #[]) (Worksheet.start (.empty "Data.xlsx" "Sheet"))
        (written (sampleFront ++ wrap (name "v") {} (Content.tail ⟨['1'], [(.cdata ['2'], [])]⟩) sampleBack))).map (·.sheet) =
      .ok (Grid.Sheet.push (.empty "Data.xlsx" "Sheet") ⟨0, 0, .inlineText, "12"⟩) := by
  have same : Text.sameAscii (Zip.sought sharedStringsPart) (Zip.memberName 0 (name sharedStringsPart)) = true := by
    decide +kernel
  have small : Zip.Fits [⟨name sharedStringsPart, markedBytes (textTable sampleHead sampleItems)⟩] :=
    ⟨by decide, List.forall_mem_singleton.mpr (by decide +kernel), by decide +kernel⟩
  obtain ⟨package, opened, found⟩ := part?_store_singleton same small
  have led : (markedEvents sampleFront).foldlM (Worksheet.step #[]) (Worksheet.start (.empty "Data.xlsx" "Sheet")) =
      .ok { Worksheet.start (.empty "Data.xlsx" "Sheet") with nextColumn := 1, kind := .inlineText } := by
    with_unfolding_all rfl
  have in_cells := (read_visible package #[] (.empty "Data.xlsx" "Sheet")).2 sampleFront _ sampleBack led rfl
  refine ⟨⟨package, opened, ?_⟩, ?_, ?_⟩
  · exact (read_visible package #[] (.empty "Data.xlsx" "Sheet")).1 sampleHead sampleItems (by decide +kernel)
      (by decide +kernel) found
  · rw [in_cells.1 _ (by decide +kernel)]
    with_unfolding_all rfl
  · rw [in_cells.2 _ _ (by decide +kernel)]
    with_unfolding_all rfl

end Tablesmith.Ooxml
