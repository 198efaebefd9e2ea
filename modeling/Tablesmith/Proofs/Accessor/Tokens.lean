import Mathlib
import Tablesmith.Number.Numeral
import Tablesmith.Proofs.Accessor.Comments
import Tablesmith.Proofs.Text.Unicode

/-!
# Reading code

What a compiler makes of the accessor code begins with the words, literals and symbols
that it reads in it. The reader takes one character at a time and has a mode for each
kind of place in the code. It reads the part of the language that the accessor code is
written in, and has nothing to say about other code: numbers, block comments and names
with escapes in them are not read. Which characters beyond ASCII may stand in names is
left open.

Every name that is read is an identifier (`namesIdentify_of_tokens?`), and what is read of
parts of the code, one after the other, is what is read of the whole (`Runs.append`).
-/

namespace Tablesmith.Accessor

open Number Text Text.Encoding

/-- The characters beyond ASCII that names begin with, and those that may follow. -/
structure Alphabet where
  first : Char → Bool
  later : Char → Bool

namespace Alphabet

variable (alphabet : Alphabet)

/-- A name can begin with the character. -/
def isFirst (c : Char) : Bool :=
  if c.toNat < 128 then isAsciiLetter c || c == '_' else !isBlank c && alphabet.first c

/-- The character can stand in a name behind the first. -/
def isLater (c : Char) : Bool :=
  if c.toNat < 128 then isAsciiLetter c || isAsciiDigit c || c == '_'
  else !isBlank c && (alphabet.first c || alphabet.later c)

/-- The characters are those of a name. -/
def IsWord (text : List Char) : Prop :=
  ∃ c rest, text = c :: rest ∧ alphabet.isFirst c = true ∧ ∀ d ∈ rest, alphabet.isLater d = true

instance (text : List Char) : Decidable (alphabet.IsWord text) :=
  match text with
  | [] => isFalse (by rintro ⟨_, _, empty, -⟩; cases empty)
  | c :: rest =>
    decidable_of_iff (alphabet.isFirst c = true ∧ rest.all alphabet.isLater = true) (by simp [IsWord])

/-- The alphabet without characters beyond ASCII. -/
def ascii : Alphabet :=
  ⟨fun _ => false, fun _ => false⟩

end Alphabet

/-- The words that are no names. -/
def keywords : List String :=
  ["abstract", "as", "base", "bool", "break", "byte", "case", "catch", "char", "checked", "class", "const", "continue",
    "decimal", "default", "delegate", "do", "double", "else", "enum", "event", "explicit", "extern", "false", "finally",
    "fixed", "float", "for", "foreach", "goto", "if", "implicit", "in", "int", "interface", "internal", "is", "lock", "long",
    "namespace", "new", "null", "object", "operator", "out", "override", "params", "private", "protected", "public",
    "readonly", "ref", "return", "sbyte", "sealed", "short", "sizeof", "stackalloc", "static", "string", "struct", "switch",
    "this", "throw", "true", "try", "typeof", "uint", "ulong", "unchecked", "unsafe", "ushort", "using", "virtual", "void",
    "volatile", "while"]

/-- The characters are those of a keyword. -/
def isKeyword (text : List Char) : Bool :=
  keywords.any fun word => word.toList == text

theorem isKeyword_at (word : List Char) : isKeyword ('@' :: word) = false := by
  have heads : keywords.all (fun keyword => keyword.toList.head? != some '@') = true := by decide +kernel
  rw [isKeyword, List.any_eq_false]
  intro keyword member same
  have head := List.all_eq_true.mp heads keyword member
  rw [eq_of_beq same] at head
  cases head

/-- The text names something: it is a word but no keyword, or a word behind an at sign. -/
def Alphabet.IsIdentifier (alphabet : Alphabet) (text : List Char) : Prop :=
  (alphabet.IsWord text ∧ isKeyword text = false) ∨ ∃ word, text = '@' :: word ∧ alphabet.IsWord word

instance (alphabet : Alphabet) (text : List Char) : Decidable (alphabet.IsIdentifier text) :=
  decidable_of_iff
    ((alphabet.IsWord text ∧ isKeyword text = false) ∨ text.head? = some '@' ∧ alphabet.IsWord text.tail) <| by
      refine or_congr Iff.rfl ?_
      cases text <;> simp [eq_comm]

/-! ## The reader -/

/-- The symbols, one character each. -/
def symbols : String :=
  "\x7b\x7d[]().,:;+-*%&|^!~=<>?"

/-- What is read in code. Literals have the UTF-16 code units of the texts that they denote. -/
inductive Token
  | name (text : List Char)
  | keyword (text : List Char)
  | literal (units : List Nat)
  | verbatim (units : List Nat)
  | interpolated (text : List Char)
  | symbol (c : Char)
deriving DecidableEq

/-- Where in the code the reader is, with what it has read of a token. -/
inductive Mode
  | between
  | slash
  | comment
  | atSign
  | dollar
  | word (text : List Char)
  | literal (units : List Nat)
  | escape (units : List Nat)
  | number (units : List Nat) (needed allowed value : Nat)
  | verbatim (units : List Nat)
  | verbatimQuote (units : List Nat)
  | interpolated (text : List Char)

/-- What a word is read as. -/
def wordToken (text : List Char) : Token :=
  if isKeyword text then .keyword text else .name text

/-- The code unit that a character stands for behind a backslash. -/
def escapedUnit? (c : Char) : Option Nat :=
  match c with
  | '\'' | '"' | '\\' => some c.toNat
  | '0' => some 0
  | 'a' => some 7
  | 'b' => some 8
  | 't' => some 9
  | 'n' => some 10
  | 'v' => some 11
  | 'f' => some 12
  | 'r' => some 13
  | _ => none

/-- How many hexadecimal digits a character behind a backslash needs and allows for. -/
def escapedDigits? (c : Char) : Option (Nat × Nat) :=
  match c with
  | 'x' => some (1, 4)
  | 'u' => some (4, 4)
  | 'U' => some (8, 8)
  | _ => none

/-- The code units of a number: one, or a pair, or none if the number is too large. -/
def numberUnits? (value : Nat) : Option (List Nat) :=
  if value < 0x10000 then some [value]
  else if value < 0x110000 then some [0xd800 + (value - 0x10000) / 0x400, 0xdc00 + (value - 0x10000) % 0x400]
  else none

section reader
variable (alphabet : Alphabet)

/-- Reads a character between two tokens. -/
def readBetween (c : Char) : Option (List Token × Mode) :=
  if alphabet.isFirst c then some ([], .word [c])
  else if isBlank c then some ([], .between)
  else if c = '/' then some ([], .slash)
  else if c = '@' then some ([], .atSign)
  else if c = '$' then some ([], .dollar)
  else if c = '"' then some ([], .literal [])
  else if c ∈ symbols.toList then some ([.symbol c], .between)
  else none

/-- Reads a character behind the end of a token. -/
def readBehind (token : Token) (c : Char) : Option (List Token × Mode) :=
  (readBetween alphabet c).map fun read => (token :: read.1, read.2)

/-- Reads a character of a literal. -/
def readLiteral (units : List Nat) (c : Char) : Option (List Token × Mode) :=
  if c = '"' then some ([.literal units], .between)
  else if c = '\\' then some ([], .escape units)
  else if isLineEnd c then none
  else some ([], .literal (units ++ charUnits c))

/-- Reads a character behind a backslash. -/
def readEscape (units : List Nat) (c : Char) : Option (List Token × Mode) :=
  match escapedUnit? c with
  | some unit => some ([], .literal (units ++ [unit]))
  | none => (escapedDigits? c).map fun (needed, allowed) => ([], .number units needed allowed 0)

/-- Reads a character where a hexadecimal digit may stand. -/
def readNumber (units : List Nat) (needed allowed value : Nat) (c : Char) : Option (List Token × Mode) :=
  match hexDigit? c with
  | some digit =>
    if 1 < allowed then some ([], .number units (needed - 1) (allowed - 1) (16 * value + digit))
    else (numberUnits? (16 * value + digit)).map fun more => ([], .literal (units ++ more))
  | none =>
    if needed = 0 then (numberUnits? value).bind fun more => readLiteral (units ++ more) c
    else none

/-- Reads a character. -/
def step : Mode → Char → Option (List Token × Mode)
  | .between, c => readBetween alphabet c
  | .slash, c => if c = '/' then some ([], .comment) else none
  | .comment, c => some ([], if isLineEnd c then .between else .comment)
  | .atSign, c =>
    if c = '"' then some ([], .verbatim [])
    else if alphabet.isFirst c then some ([], .word ['@', c])
    else none
  | .dollar, c => if c = '"' then some ([], .interpolated []) else none
  | .word text, c => if alphabet.isLater c then some ([], .word (text ++ [c])) else readBehind alphabet (wordToken text) c
  | .literal units, c => readLiteral units c
  | .escape units, c => readEscape units c
  | .number units needed allowed value, c => readNumber units needed allowed value c
  | .verbatim units, c => some ([], if c = '"' then .verbatimQuote units else .verbatim (units ++ charUnits c))
  | .verbatimQuote units, c =>
    if c = '"' then some ([], .verbatim (units ++ charUnits c)) else readBehind alphabet (.verbatim units) c
  | .interpolated text, c =>
    if c = '"' then some ([.interpolated text], .between)
    else if c = '\\' || isLineEnd c then none
    else some ([], .interpolated (text ++ [c]))

/-- Reads all characters, and says where it is then. -/
def run : Mode → List Char → Option (List Token × Mode)
  | mode, [] => some ([], mode)
  | mode, c :: rest =>
    (step alphabet mode c).bind fun first => (run first.2 rest).map fun others => (first.1 ++ others.1, others.2)

/-- What code is read as; the end of the code ends its last line. -/
def tokens? (code : String) : Option (List Token) :=
  match run alphabet .between (code.toList ++ ['\n']) with
  | some (tokens, .between) => some tokens
  | _ => none

end reader

variable {alphabet : Alphabet} {mode next last : Mode} {tokens others : List Token} {text rest : List Char}

/-- The reader gets from one mode to another along the text, and reads the tokens. -/
def Runs (alphabet : Alphabet) (mode : Mode) (text : List Char) (tokens : List Token) (last : Mode) : Prop :=
  run alphabet mode text = some (tokens, last)

theorem tokens?_eq_some_iff {code : String} :
    tokens? alphabet code = some tokens ↔ Runs alphabet .between (code.toList ++ ['\n']) tokens .between := by
  unfold tokens? Runs
  split
  · next found read => rw [read]; simp
  · next other =>
    constructor
    · rintro ⟨⟩
    · intro read
      exact absurd read (other tokens)

namespace Runs

theorem nil : Runs alphabet mode [] [] mode :=
  rfl

theorem cons {c : Char} (stepped : step alphabet mode c = some (tokens, next)) (runs : Runs alphabet next rest others last) :
    Runs alphabet mode (c :: rest) (tokens ++ others) last := by
  unfold Runs at *
  rw [run, stepped, Option.bind_some, runs]
  rfl

/-- A character that no token ends with. -/
theorem skip {c : Char} (next : Mode) (stepped : step alphabet mode c = some ([], next)) (runs : Runs alphabet next rest others last) :
    Runs alphabet mode (c :: rest) others last :=
  cons stepped runs

theorem cons_iff {c : Char} : Runs alphabet mode (c :: rest) tokens last ↔ ∃ found next others,
    step alphabet mode c = some (found, next) ∧ Runs alphabet next rest others last ∧ tokens = found ++ others := by
  unfold Runs
  rw [run]
  constructor
  · intro whole
    obtain ⟨⟨found, next⟩, stepped, behind⟩ := Option.bind_eq_some_iff.mp whole
    obtain ⟨⟨others, _⟩, read, same⟩ := Option.map_eq_some_iff.mp behind
    obtain ⟨rfl, rfl⟩ := Prod.mk.inj same
    exact ⟨found, next, others, stepped, read, rfl⟩
  · rintro ⟨found, next, others, stepped, read, rfl⟩
    rw [stepped, Option.bind_some, read]
    rfl

/-- What is read of two parts of the code, one after the other, is what is read of both. -/
theorem append (first : Runs alphabet mode text tokens next) (second : Runs alphabet next rest others last) :
    Runs alphabet mode (text ++ rest) (tokens ++ others) last := by
  induction text generalizing mode tokens with
  | nil =>
    obtain ⟨rfl, rfl⟩ := Prod.mk.inj (Option.some.inj first)
    exact second
  | cons c text ih =>
    obtain ⟨found, middle, more, stepped, read, rfl⟩ := cons_iff.mp first
    rw [List.append_assoc]
    exact cons stepped (ih read)

end Runs

/-! ## Names -/

theorem Alphabet.isLater_of_isFirst {c : Char} (first : alphabet.isFirst c = true) : alphabet.isLater c = true := by
  unfold isFirst at first
  unfold isLater
  split
  · next ascii =>
    rw [if_pos ascii] at first
    simp only [Bool.or_eq_true] at first ⊢
    tauto
  · next beyond =>
    rw [if_neg beyond] at first
    simp only [Bool.and_eq_true, Bool.or_eq_true] at first ⊢
    exact ⟨first.1, .inl first.2⟩

theorem Alphabet.IsWord.concat {c : Char} (word : alphabet.IsWord text) (later : alphabet.isLater c = true) :
    alphabet.IsWord (text ++ [c]) := by
  obtain ⟨d, rest, rfl, first, rest_later⟩ := word
  refine ⟨d, rest ++ [c], rfl, first, ?_⟩
  simpa [or_imp, forall_and] using ⟨rest_later, later⟩

/-- No character of a name ends a literal or is changed in one. -/
theorem Alphabet.plain_of_isLater {c : Char} (later : alphabet.isLater c = true) :
    c ≠ '"' ∧ c ≠ '\\' ∧ isLineEnd c = false := by
  refine ⟨?_, ?_, ?_⟩
  · rintro rfl
    exact Bool.false_ne_true later
  · rintro rfl
    exact Bool.false_ne_true later
  · rw [Bool.eq_false_iff]
    intro is_end
    simp only [isLineEnd, Bool.or_eq_true, decide_eq_true_eq] at is_end
    rcases is_end with (((rfl | rfl) | rfl) | rfl) | rfl
    all_goals exact Bool.false_ne_true later

theorem Alphabet.IsIdentifier.plain (identifier : alphabet.IsIdentifier text) :
    ∀ c ∈ text, c ≠ '"' ∧ c ≠ '\\' ∧ isLineEnd c = false := by
  have of_word {word : List Char} (is_word : alphabet.IsWord word) : ∀ c ∈ word, alphabet.isLater c = true := by
    obtain ⟨c, rest, rfl, first, later⟩ := is_word
    exact List.forall_mem_cons.mpr ⟨isLater_of_isFirst first, later⟩
  rcases identifier with ⟨is_word, -⟩ | ⟨word, rfl, is_word⟩
  · exact fun c member => plain_of_isLater (of_word is_word c member)
  · exact List.forall_mem_cons.mpr ⟨by decide, fun c member => plain_of_isLater (of_word is_word c member)⟩

/-- What has been read of a word is a word, or one behind an at sign. -/
def Mode.IsSound (alphabet : Alphabet) : Mode → Prop
  | .word text => alphabet.IsWord text ∨ ∃ word, text = '@' :: word ∧ alphabet.IsWord word
  | _ => True

/-- All names are identifiers. -/
def NamesIdentify (alphabet : Alphabet) (tokens : List Token) : Prop :=
  ∀ text, .name text ∈ tokens → alphabet.IsIdentifier text

theorem namesIdentify_nil : NamesIdentify alphabet [] := by
  simp [NamesIdentify]

theorem readBetween_sound {c : Char} (read : readBetween alphabet c = some (tokens, next)) :
    next.IsSound alphabet ∧ NamesIdentify alphabet tokens := by
  unfold readBetween at read
  split at read
  · next first =>
    cases read
    exact ⟨.inl ⟨c, [], rfl, first, by simp⟩, namesIdentify_nil⟩
  repeat' split at read
  all_goals cases read
  all_goals exact ⟨trivial, by simp [NamesIdentify]⟩

theorem readBehind_sound {c : Char} {token : Token} (read : readBehind alphabet token c = some (tokens, next))
    (sound : NamesIdentify alphabet [token]) : next.IsSound alphabet ∧ NamesIdentify alphabet tokens := by
  obtain ⟨⟨others, mode⟩, behind, same⟩ := Option.map_eq_some_iff.mp read
  obtain ⟨rfl, rfl⟩ := Prod.mk.inj same
  obtain ⟨mode_sound, others_sound⟩ := readBetween_sound behind
  refine ⟨mode_sound, fun text member => ?_⟩
  rcases List.mem_cons.mp member with same | member
  · exact sound text (by simp [same])
  · exact others_sound text member

theorem wordToken_sound (sound : (Mode.word text).IsSound alphabet) : NamesIdentify alphabet [wordToken text] := by
  intro other member
  rw [List.mem_singleton, wordToken] at member
  split at member
  · cases member
  · next no_keyword =>
    cases member
    rcases sound with word | behind_at
    · exact .inl ⟨word, by simpa using no_keyword⟩
    · exact .inr behind_at

theorem isSound_concat {c : Char} (sound : (Mode.word text).IsSound alphabet) (later : alphabet.isLater c = true) :
    (Mode.word (text ++ [c])).IsSound alphabet := by
  rcases sound with word | ⟨word, rfl, is_word⟩
  · exact .inl (word.concat later)
  · exact .inr ⟨word ++ [c], rfl, is_word.concat later⟩

theorem readLiteral_sound {c : Char} {units : List Nat} (read : readLiteral units c = some (tokens, next)) :
    next.IsSound alphabet ∧ NamesIdentify alphabet tokens := by
  unfold readLiteral at read
  repeat' split at read
  all_goals cases read
  all_goals exact ⟨trivial, by simp [NamesIdentify]⟩

theorem readEscape_sound {c : Char} {units : List Nat} (read : readEscape units c = some (tokens, next)) :
    next.IsSound alphabet ∧ NamesIdentify alphabet tokens := by
  unfold readEscape at read
  split at read
  · cases read
    exact ⟨trivial, namesIdentify_nil⟩
  · obtain ⟨digits, -, same⟩ := Option.map_eq_some_iff.mp read
    cases same
    exact ⟨trivial, namesIdentify_nil⟩

theorem readNumber_sound {c : Char} {units : List Nat} {needed allowed value : Nat}
    (read : readNumber units needed allowed value c = some (tokens, next)) :
    next.IsSound alphabet ∧ NamesIdentify alphabet tokens := by
  unfold readNumber at read
  split at read
  · split at read
    · cases read
      exact ⟨trivial, namesIdentify_nil⟩
    · obtain ⟨more, -, same⟩ := Option.map_eq_some_iff.mp read
      cases same
      exact ⟨trivial, namesIdentify_nil⟩
  · split at read
    · obtain ⟨more, -, behind⟩ := Option.bind_eq_some_iff.mp read
      exact readLiteral_sound behind
    · cases read

/-- A step keeps what has been read of a word sound, and every name that it reads is an identifier. -/
theorem step_sound {c : Char} (stepped : step alphabet mode c = some (tokens, next)) (sound : mode.IsSound alphabet) :
    next.IsSound alphabet ∧ NamesIdentify alphabet tokens := by
  cases mode with
  | between => exact readBetween_sound stepped
  | literal units => exact readLiteral_sound stepped
  | escape units => exact readEscape_sound stepped
  | number units needed allowed value => exact readNumber_sound stepped
  | slash | dollar | interpolated =>
    simp only [step] at stepped
    repeat' split at stepped
    all_goals cases stepped
    all_goals exact ⟨trivial, by simp [NamesIdentify]⟩
  | comment | verbatim =>
    simp only [step] at stepped
    cases stepped
    refine ⟨?_, namesIdentify_nil⟩
    split <;> trivial
  | atSign =>
    simp only [step] at stepped
    repeat' split at stepped
    · cases stepped
      exact ⟨trivial, namesIdentify_nil⟩
    · next first =>
      cases stepped
      exact ⟨.inr ⟨[c], rfl, c, [], rfl, first, by simp⟩, namesIdentify_nil⟩
    · cases stepped
  | word text =>
    simp only [step] at stepped
    split at stepped
    · next later =>
      cases stepped
      exact ⟨isSound_concat sound later, namesIdentify_nil⟩
    · exact readBehind_sound stepped (wordToken_sound sound)
  | verbatimQuote units =>
    simp only [step] at stepped
    split at stepped
    · cases stepped
      exact ⟨trivial, namesIdentify_nil⟩
    · exact readBehind_sound stepped (by simp [NamesIdentify])

/-- Every name that is read along the way is an identifier. -/
theorem Runs.namesIdentify (runs : Runs alphabet mode text tokens last) (sound : mode.IsSound alphabet) :
    NamesIdentify alphabet tokens := by
  induction text generalizing mode tokens with
  | nil =>
    cases runs
    exact namesIdentify_nil
  | cons c text ih =>
    obtain ⟨found, next, others, stepped, behind, rfl⟩ := cons_iff.mp runs
    obtain ⟨next_sound, found_sound⟩ := step_sound stepped sound
    intro name member
    rcases List.mem_append.mp member with member | member
    · exact found_sound name member
    · exact ih behind next_sound name member

/-- Every name that is read in code is an identifier. -/
theorem namesIdentify_of_tokens? {code : String} (read : tokens? alphabet code = some tokens) :
    NamesIdentify alphabet tokens :=
  (tokens?_eq_some_iff.mp read).namesIdentify trivial

namespace Runs

theorem word {front : List Char} (later : ∀ c ∈ text, alphabet.isLater c = true)
    (behind : Runs alphabet (.word (front ++ text)) rest others last) :
    Runs alphabet (.word front) (text ++ rest) others last := by
  induction text generalizing front with
  | nil => simpa using behind
  | cons c text ih =>
    obtain ⟨c_later, text_later⟩ := List.forall_mem_cons.mp later
    refine skip (.word (front ++ [c])) (by simp [step, c_later]) (ih text_later ?_)
    simpa using behind

/-- A character that cannot stand in a name ends a word. -/
theorem wordEnd {c : Char} (apart : alphabet.isLater c = false) (behind : Runs alphabet .between (c :: rest) others last) :
    Runs alphabet (.word text) (c :: rest) (wordToken text :: others) last := by
  obtain ⟨found, next, more, stepped, read, rfl⟩ := cons_iff.mp behind
  have between : readBetween alphabet c = some (found, next) := stepped
  exact cons_iff.mpr ⟨wordToken text :: found, next, more, by simp [step, apart, readBehind, between], read, rfl⟩

theorem firstWord (is_word : alphabet.IsWord text) (behind : Runs alphabet (.word text) rest others last) :
    Runs alphabet .between (text ++ rest) others last := by
  obtain ⟨c, text, rfl, first, later⟩ := is_word
  exact skip (.word [c]) (by simp [step, readBetween, first]) (word later behind)

/-- An identifier is read as a name. -/
theorem name {c : Char} (identifier : alphabet.IsIdentifier text) (apart : alphabet.isLater c = false)
    (behind : Runs alphabet .between (c :: rest) others last) :
    Runs alphabet .between (text ++ c :: rest) (.name text :: others) last := by
  have ended : Runs alphabet (.word text) (c :: rest) (wordToken text :: others) last := wordEnd apart behind
  rcases identifier with ⟨is_word, no_keyword⟩ | ⟨word, rfl, is_word⟩
  · rw [wordToken, no_keyword, if_neg Bool.false_ne_true] at ended
    exact firstWord is_word ended
  · rw [wordToken, isKeyword_at, if_neg Bool.false_ne_true] at ended
    obtain ⟨c, rest, rfl, first, later⟩ := is_word
    have no_quote : c ≠ '"' := by
      rintro rfl
      have not_first : alphabet.isFirst '"' = false := rfl
      rw [not_first] at first
      cases first
    refine skip .atSign rfl (skip (.word ['@', c]) ?_ (Runs.word later ended))
    simp [step, first, no_quote]

/-- Text without quotes, backslashes and line ends is read as it is between quotes. -/
theorem quoted (plain : ∀ c ∈ text, c ≠ '"' ∧ c ≠ '\\' ∧ isLineEnd c = false)
    (behind : Runs alphabet .between rest others last) :
    Runs alphabet .between ('"' :: (text ++ '"' :: rest)) (.literal (textUnits text) :: others) last := by
  have inside (units : List Nat) : Runs alphabet (.literal units) (text ++ '"' :: rest)
      (.literal (units ++ textUnits text) :: others) last := by
    induction text generalizing units with
    | nil =>
      have stepped : step alphabet (.literal units) '"' = some ([.literal units], .between) := rfl
      simpa [textUnits] using cons stepped behind
    | cons c text ih =>
      obtain ⟨⟨no_quote, no_backslash, inside⟩, text_plain⟩ := List.forall_mem_cons.mp plain
      have more := ih text_plain (units ++ charUnits c)
      rw [List.append_assoc] at more
      exact skip (.literal (units ++ charUnits c)) (by simp [step, readLiteral, no_quote, no_backslash, inside]) more
  exact skip (.literal []) rfl (inside [])

theorem comment (whole : IsWhole text) (behind : Runs alphabet .between rest others last) :
    Runs alphabet .comment (text ++ '\n' :: rest) others last := by
  induction text with
  | nil => exact skip .between rfl behind
  | cons c text ih =>
    obtain ⟨inside, text_whole⟩ := List.forall_mem_cons.mp whole
    exact skip .comment (by simp [step, inside]) (ih text_whole)

end Runs

section fixedText
variable {c : Char}

theorem Alphabet.isFirst_of_ascii (alphabet : Alphabet) (low : c.toNat < 128) : alphabet.isFirst c = ascii.isFirst c := by
  simp only [isFirst, if_pos low]

theorem Alphabet.isLater_of_ascii (alphabet : Alphabet) (low : c.toNat < 128) : alphabet.isLater c = ascii.isLater c := by
  simp only [isLater, if_pos low]

theorem step_of_ascii (alphabet : Alphabet) (low : c.toNat < 128) : step alphabet mode c = step .ascii mode c := by
  have between : readBetween alphabet c = readBetween .ascii c := by
    simp only [readBetween, alphabet.isFirst_of_ascii low]
  cases mode <;> simp only [step, readBehind, between, alphabet.isFirst_of_ascii low,
    alphabet.isLater_of_ascii low]

/-- Text without characters beyond ASCII is read in one way, whichever of these may stand in names. -/
theorem run_of_ascii (low : ∀ c ∈ text, c.toNat < 128) : run alphabet mode text = run .ascii mode text := by
  induction text generalizing mode with
  | nil => rfl
  | cons c text ih =>
    obtain ⟨c_low, text_low⟩ := List.forall_mem_cons.mp low
    simp only [run, step_of_ascii alphabet c_low, ih text_low]

/-- The reader gets through the text, and is between two tokens again. -/
def isPiece (text : List Char) : Bool :=
  text.all (·.toNat < 128) &&
    match run .ascii .between text with
    | some (_, .between) => true
    | _ => false

/-- What a text without characters beyond ASCII is read as. -/
def fixed (text : String) : List Token :=
  (tokens? .ascii text).getD []

/-- A word ends where the text begins. -/
def endsWord (text : List Char) : Bool :=
  text.head?.any fun c => c.toNat < 128 && !Alphabet.ascii.isLater c

/-- The reader gets through the text from the end of a word, and is between two tokens then. -/
def isSeparator (text : List Char) : Bool :=
  isPiece text && endsWord text

theorem isPiece_iff : isPiece text = true ↔
    (∀ c ∈ text, c.toNat < 128) ∧ ∃ tokens, Runs .ascii .between text tokens .between := by
  rw [isPiece, Bool.and_eq_true, List.all_eq_true]
  refine and_congr (by simp) ?_
  unfold Runs
  split
  · next found read => simp [read]
  · next other => simpa using other

theorem runs_feed : Runs alphabet .between ['\n'] [] .between :=
  rfl

/-- A piece of fixed text in front of other code. -/
theorem Runs.piece {code : String} (is_piece : isPiece code.toList = true)
    (behind : Runs alphabet .between rest others last) :
    Runs alphabet .between (code.toList ++ rest) (fixed code ++ others) last := by
  obtain ⟨low, tokens, runs⟩ := isPiece_iff.mp is_piece
  have read : tokens? .ascii code = some tokens := by
    rw [tokens?_eq_some_iff, ← List.append_nil tokens]
    exact runs.append runs_feed
  have anywhere : Runs alphabet .between code.toList tokens .between := by
    unfold Runs
    rw [run_of_ascii low]
    exact runs
  rw [fixed, read]
  exact anywhere.append behind

/-- A name in front of fixed text that ends it. -/
theorem Runs.named {code : String} (identifier : alphabet.IsIdentifier text) (separates : isSeparator code.toList = true)
    (behind : Runs alphabet .between rest others last) :
    Runs alphabet .between (text ++ (code.toList ++ rest)) (.name text :: (fixed code ++ others)) last := by
  obtain ⟨is_piece, ends⟩ := Bool.and_eq_true_iff.mp separates
  have pieces := Runs.piece is_piece behind
  unfold endsWord at ends
  cases chars : code.toList with
  | nil => simp [chars] at ends
  | cons c more =>
    rw [chars] at pieces ends
    obtain ⟨low, apart⟩ : c.toNat < 128 ∧ Alphabet.ascii.isLater c = false := by simpa using ends
    rw [← alphabet.isLater_of_ascii low] at apart
    exact Runs.name identifier apart pieces

/-- The text is read as one and the same, whichever characters beyond ASCII may stand in names. -/
def IsFixed (text : String) : Prop :=
  ∀ alphabet, tokens? alphabet text = some (fixed text)

theorem isFixed_of_line {code : String} (is_line : isPiece (code.toList ++ ['\n']) = true) : IsFixed code := by
  obtain ⟨low, tokens, runs⟩ := isPiece_iff.mp is_line
  have read (alphabet : Alphabet) : tokens? alphabet code = some tokens := by
    rw [tokens?_eq_some_iff, Runs, run_of_ascii low]
    exact runs
  intro alphabet
  rw [fixed, read, read]
  rfl

end fixedText

section lines
variable {code more : String}

theorem tokens?_feed (first : tokens? alphabet code = some tokens) (second : tokens? alphabet more = some others) :
    tokens? alphabet (code ++ "\n" ++ more) = some (tokens ++ others) := by
  rw [tokens?_eq_some_iff] at first second ⊢
  have split : (code ++ "\n" ++ more).toList ++ ['\n'] = (code.toList ++ ['\n']) ++ (more.toList ++ ['\n']) := by
    simp
  rw [split]
  exact first.append second

theorem tokens?_blankLine (first : tokens? alphabet code = some tokens) (second : tokens? alphabet more = some others) :
    tokens? alphabet (code ++ "\n\n" ++ more) = some (tokens ++ others) := by
  have empty : tokens? alphabet "" = some [] := rfl
  have split : code ++ "\n\n" ++ more = code ++ "\n" ++ ("" ++ "\n" ++ more) := by
    rw [← String.toList_inj]
    simp
  rw [split]
  exact tokens?_feed first (tokens?_feed empty second)

/-- What stands between parts of the code keeps their tokens apart. -/
def Parts (alphabet : Alphabet) (separator : String) : Prop :=
  ∀ code more tokens others, tokens? alphabet code = some tokens → tokens? alphabet more = some others →
    tokens? alphabet (code ++ separator ++ more) = some (tokens ++ others)

theorem tokens?_intercalate {α : Type} {separator : String} (parts : Parts alphabet separator) {items : List α}
    (part : α → String) (found : α → List Token) (read : ∀ item ∈ items, tokens? alphabet (part item) = some (found item)) :
    tokens? alphabet (String.intercalate separator (items.map part)) = some (items.flatMap found) := by
  induction items with
  | nil => rfl
  | cons item items ih =>
    obtain ⟨item_read, items_read⟩ := List.forall_mem_cons.mp read
    by_cases last : items = []
    · subst last
      simpa using item_read
    · have joined : String.intercalate separator ((item :: items).map part) =
          part item ++ separator ++ String.intercalate separator (items.map part) :=
        String.intercalate_cons_of_ne_nil (by simpa using last)
      rw [joined, List.flatMap_cons]
      exact parts _ _ _ _ item_read (ih items_read)

theorem parts_feed : Parts alphabet "\n" :=
  fun _ _ _ _ => tokens?_feed

theorem parts_blankLine : Parts alphabet "\n\n" :=
  fun _ _ _ _ => tokens?_blankLine

theorem isFixed_unlines {lines : List String} (pieces : ∀ line ∈ lines, isPiece (line.toList ++ ['\n']) = true) :
    IsFixed (unlines lines) := by
  have read (alphabet : Alphabet) : tokens? alphabet (unlines lines) = some (lines.flatMap fixed) := by
    have parts := tokens?_intercalate parts_feed id fixed fun line member =>
      isFixed_of_line (pieces line member) alphabet
    rwa [List.map_id] at parts
  intro alphabet
  rw [fixed, read, read]
  rfl

end lines

end Tablesmith.Accessor
