import Mathlib
import Tablesmith.Proofs.Accessor.ClassText

/-!
# Descriptions in comments

A description is written as a comment with a line for each of its lines. The code
has more line ends than the line feed that a description is split at, so a description
with one of the others inside a line leaves its comment. All other descriptions stay
in it and can be read back (`summary_says_iff`).
-/

namespace Tablesmith.Accessor

open Text

/-- The characters that end a line of code. -/
def isLineEnd (c : Char) : Bool :=
  c = '\r' || c = '\n' || c = '\u0085' || c = '\u2028' || c = '\u2029'

/-- The lines of code; a carriage return and a line feed behind it end one line. -/
def codeLines : List Char → List (List Char)
  | [] => [[]]
  | '\r' :: '\n' :: rest => [] :: codeLines rest
  | c :: rest => if isLineEnd c then [] :: codeLines rest else (codeLines rest).modifyHead (c :: ·)

example : codeLines "a\r\nb\rc".toList = ["a".toList, "b".toList, "c".toList] := by cbv

/-- The line has no line end in it. -/
def IsWhole (line : List Char) : Prop :=
  ∀ c ∈ line, isLineEnd c = false

instance (line : List Char) : Decidable (IsWhole line) :=
  List.decidableBAll (fun c => isLineEnd c = false) line

variable {line text rest : List Char} {c : Char}

theorem codeLines_cons_of_end (is_end : isLineEnd c = true) (apart : c = '\r' → rest.head? ≠ some '\n') :
    codeLines (c :: rest) = [] :: codeLines rest := by
  rw [codeLines]
  · rw [if_pos is_end]
  · rintro after rfl rfl
    exact apart rfl rfl

theorem codeLines_cons_of_inside (inside : isLineEnd c = false) :
    codeLines (c :: rest) = (codeLines rest).modifyHead (c :: ·) := by
  rw [codeLines]
  · rw [inside, if_neg Bool.false_ne_true]
  · rintro after rfl rfl
    exact absurd inside (by decide)

theorem codeLines_of_isWhole (whole : IsWhole text) : codeLines text = [text] := by
  induction text with
  | nil => rfl
  | cons c text ih =>
    obtain ⟨inside, rest_whole⟩ := List.forall_mem_cons.mp whole
    rw [codeLines_cons_of_inside inside, ih rest_whole]
    rfl

theorem codeLines_ne_nil (text : List Char) : codeLines text ≠ [] := by
  induction text using codeLines.induct with
  | case1 => simp [codeLines]
  | case2 rest ih => simp [codeLines]
  | case3 c rest apart is_end ih => simp [codeLines, is_end]
  | case4 c rest apart inside ih =>
    rw [codeLines_cons_of_inside (by simpa using inside)]
    simpa using ih

theorem getLast?_tail {other : Char} (apart : (c :: rest).getLast? ≠ some other) : rest.getLast? ≠ some other := by
  intro last
  rw [List.getLast?_cons, last] at apart
  exact apart rfl

/-- A line feed ends a line, unless it belongs to the carriage return before it. -/
theorem codeLines_append_feed (text rest : List Char) (apart : text.getLast? ≠ some '\r') :
    codeLines (text ++ '\n' :: rest) = codeLines text ++ codeLines rest := by
  have feed : isLineEnd '\n' = true := by decide
  induction text using codeLines.induct with
  | case1 => exact codeLines_cons_of_end feed fun same => absurd same (by decide)
  | case2 text ih =>
    have both := ih (getLast?_tail (getLast?_tail apart))
    simp only [List.cons_append, codeLines, both]
  | case3 c text no_pair is_end ih =>
    have no_feed : c = '\r' → (text ++ '\n' :: rest).head? ≠ some '\n' := by
      rintro rfl
      cases text with
      | nil => exact absurd rfl apart
      | cons d text =>
        intro same
        obtain rfl := Option.some_inj.mp same
        exact no_pair text rfl rfl
    have alone : c = '\r' → text.head? ≠ some '\n' := by
      rintro rfl same
      obtain ⟨after, rfl⟩ := List.head?_eq_some_iff.mp same
      exact no_pair after rfl rfl
    rw [List.cons_append, codeLines_cons_of_end is_end no_feed, codeLines_cons_of_end is_end alone,
      ih (getLast?_tail apart), List.cons_append]
  | case4 c text no_pair inside ih =>
    have inside_false : isLineEnd c = false := by simpa using inside
    rw [List.cons_append, codeLines_cons_of_inside inside_false, codeLines_cons_of_inside inside_false,
      ih (getLast?_tail apart)]
    obtain ⟨first, lines, lines_are⟩ := List.exists_cons_of_ne_nil (codeLines_ne_nil text)
    rw [lines_are]
    rfl

theorem length_codeLines_pos (text : List Char) : 0 < (codeLines text).length :=
  List.length_pos_of_ne_nil (codeLines_ne_nil text)

theorem length_codeLines_eq_one_iff : (codeLines text).length = 1 ↔ IsWhole text := by
  refine ⟨fun single => ?_, fun whole => by rw [codeLines_of_isWhole whole]; rfl⟩
  induction text using codeLines.induct with
  | case1 => simp [IsWhole]
  | case2 rest ih =>
    have further := length_codeLines_pos rest
    simp only [codeLines, List.length_cons] at single
    omega
  | case3 c rest no_pair is_end ih =>
    have further := length_codeLines_pos rest
    simp only [codeLines, is_end, ↓reduceIte, List.length_cons] at single
    omega
  | case4 c rest no_pair inside ih =>
    have inside_false : isLineEnd c = false := by simpa using inside
    rw [codeLines_cons_of_inside inside_false, List.length_modifyHead] at single
    exact List.forall_mem_cons.mpr ⟨inside_false, ih single⟩

theorem codeLines_unlines {lines : List String} (filled : lines ≠ [])
    (apart : ∀ line ∈ lines, line.toList.getLast? ≠ some '\r') :
    codeLines (unlines lines).toList = lines.flatMap fun line => codeLines line.toList := by
  induction lines with
  | nil => exact absurd rfl filled
  | cons line lines ih =>
    obtain ⟨line_apart, rest_apart⟩ := List.forall_mem_cons.mp apart
    by_cases last : lines = []
    · subst last
      simp [unlines]
    · have chars : (unlines (line :: lines)).toList = line.toList ++ '\n' :: (unlines lines).toList := by
        rw [unlines_cons last]
        simp
      rw [chars, codeLines_append_feed _ _ line_apart, ih last rest_apart, List.flatMap_cons]

/-- The lines of a description; a line feed at its end begins no further line. -/
def textLines (description : String) : List (List Char) :=
  let lines := description.toList.splitOn '\n'
  if lines.getLast? = some [] then lines.dropLast else lines

/-- What a comment is to say: the lines without white space at their ends, or an empty line if there are none. -/
def contentLines (description : String) : List (List Char) :=
  if textLines description = [] then [[]] else (textLines description).map (List.rdropWhile isBlank)

theorem splitOn_cons (c : Char) (text : List Char) : (c :: text).splitOn '\n' =
    if c = '\n' then [] :: text.splitOn '\n' else (text.splitOn '\n').modifyHead (c :: ·) := by
  rw [List.splitOn, List.splitOnP_cons_eq_if_modifyHead]
  simp only [beq_iff_eq]
  rfl

theorem splitLines_eq (text : List Char) : splitLines text =
    if (text.splitOn '\n').getLast? = some [] then (text.splitOn '\n').dropLast else text.splitOn '\n' := by
  induction text with
  | nil => rfl
  | cons c text ih =>
    obtain ⟨first, lines, lines_are⟩ := List.exists_cons_of_ne_nil (List.splitOnP_ne_nil (· == '\n') text)
    have split_is : text.splitOn '\n' = first :: lines := lines_are
    rw [splitLines, splitOn_cons, ih, split_is]
    by_cases feed : c = '\n'
    · simp only [feed, ↓reduceIte, List.getLast?_cons_cons, List.dropLast_cons_cons]
      split <;> rfl
    · simp only [feed, ↓reduceIte, List.modifyHead_cons]
      cases lines with
      | nil => cases first <;> simp
      | cons second lines =>
        simp only [List.getLast?_cons_cons, List.dropLast_cons_cons]
        by_cases last : (second :: lines).getLast? = some []
        · simp only [last, ↓reduceIte]
        · simp only [last, ↓reduceIte]

theorem descriptionLines_eq (description : String) : descriptionLines description = contentLines description := by
  unfold descriptionLines contentLines textLines
  rw [splitLines_eq]
  dsimp only
  generalize (if (description.toList.splitOn '\n').getLast? = some [] then (description.toList.splitOn '\n').dropLast
    else description.toList.splitOn '\n') = lines
  cases lines <;> rfl

/-- The text with the three markup characters in place of what they are spelled as. -/
def unescape : List Char → List Char
  | '&' :: 'a' :: 'm' :: 'p' :: ';' :: rest => '&' :: unescape rest
  | '&' :: 'l' :: 't' :: ';' :: rest => '<' :: unescape rest
  | '&' :: 'g' :: 't' :: ';' :: rest => '>' :: unescape rest
  | c :: rest => c :: unescape rest
  | [] => []

/-- What every line of a comment begins with. -/
def commentMark : String := "    ///"

/-- What a line of a comment says behind the mark and one space. -/
def commentContent (line : List Char) : List Char :=
  let behind := line.drop commentMark.toList.length
  unescape (if behind.head? = some ' ' then behind.tail else behind)

theorem unescape_cons (no_amp : c ≠ '&') (rest : List Char) : unescape (c :: rest) = c :: unescape rest := by
  rw [unescape]
  all_goals
    intro _ amp
    exact absurd amp no_amp

theorem unescape_escape (line : List Char) : unescape (line.flatMap fun c => (escapeMarkup c).toList) = line := by
  induction line with
  | nil => rfl
  | cons c line ih =>
    rw [List.flatMap_cons, escapeMarkup]
    split
    · next same => simp [same, unescape, ih]
    · split
      · next same => simp [same, unescape, ih]
      · split
        · next same => simp [same, unescape, ih]
        · next no_amp _ _ => rw [Char.toString_eq_singleton, String.toList_singleton, List.singleton_append, unescape_cons no_amp, ih]

theorem toList_commentLine (line : List Char) : (commentLine line).toList =
    commentMark.toList ++ if line = [] then [] else ' ' :: line.flatMap fun c => (escapeMarkup c).toList := by
  rw [commentLine]
  by_cases empty : line = []
  · simp [empty, commentMark]
  · simp [empty, commentMark, String.toList_join, List.flatMap_map]

/-- A line of a comment says the line that it was written for. -/
theorem commentContent_commentLine (line : List Char) : commentContent (commentLine line).toList = line := by
  rw [commentContent, toList_commentLine, List.drop_left]
  by_cases empty : line = []
  · simp [empty, unescape]
  · simpa [empty] using unescape_escape line

theorem toList_escapeMarkup (c : Char) : (escapeMarkup c).toList = [c] ∨
    isLineEnd c = false ∧ ∃ spelled, (escapeMarkup c).toList = spelled ++ [';'] ∧ IsWhole (spelled ++ [';']) := by
  unfold escapeMarkup
  by_cases amp : c = '&'
  · exact Or.inr ⟨by rw [amp]; decide, "&amp".toList, by simp [amp], by decide +kernel⟩
  by_cases less : c = '<'
  · exact Or.inr ⟨by rw [less]; decide, "&lt".toList, by simp [less], by decide +kernel⟩
  by_cases greater : c = '>'
  · exact Or.inr ⟨by rw [greater]; decide, "&gt".toList, by simp [greater], by decide +kernel⟩
  · exact Or.inl (by simp [amp, less, greater])

theorem isWhole_escapeMarkup_iff (c : Char) : IsWhole (escapeMarkup c).toList ↔ isLineEnd c = false := by
  rcases toList_escapeMarkup c with same | ⟨inside, spelled, spelled_is, whole⟩
  · simp [same, IsWhole]
  · rw [spelled_is]
    exact iff_of_true whole inside

theorem isWhole_append_iff {before after : List Char} : IsWhole (before ++ after) ↔ IsWhole before ∧ IsWhole after := by
  simp only [IsWhole, List.forall_mem_append]

theorem isWhole_commentLine_iff (line : List Char) : IsWhole (commentLine line).toList ↔ IsWhole line := by
  have mark_whole : IsWhole commentMark.toList := by decide +kernel
  have space_inside : isLineEnd ' ' = false := by decide
  rw [toList_commentLine, isWhole_append_iff, and_iff_right mark_whole]
  split
  · next empty => simp [empty, IsWhole]
  · have each : IsWhole (line.flatMap fun c => (escapeMarkup c).toList) ↔ ∀ c ∈ line, IsWhole (escapeMarkup c).toList := by
      simp only [IsWhole, List.mem_flatMap]
      exact ⟨fun all c member d inside => all d ⟨c, member, inside⟩, fun all d ⟨c, member, inside⟩ => all c member d inside⟩
    simp only [isWhole_escapeMarkup_iff] at each
    rw [IsWhole, List.forall_mem_cons, and_iff_right space_inside]
    exact each

theorem getLast?_commentLine {line : List Char} (clear : line.getLast? ≠ some '\r') :
    (commentLine line).toList.getLast? ≠ some '\r' := by
  rw [toList_commentLine]
  rcases line.eq_nil_or_concat' with rfl | ⟨front, c, rfl⟩
  · decide
  · have not_return : c ≠ '\r' := by simpa using clear
    have last : (escapeMarkup c).toList.getLast? = some c ∨ (escapeMarkup c).toList.getLast? = some ';' := by
      rcases toList_escapeMarkup c with same | ⟨-, spelled, spelled_is, -⟩
      · simp [same]
      · simp [spelled_is]
    have filled : (escapeMarkup c).toList ≠ [] := by
      intro empty
      simp [empty] at last
    have split : commentMark.toList ++ ' ' :: (front ++ [c]).flatMap (fun d => (escapeMarkup d).toList) =
        commentMark.toList ++ ' ' :: front.flatMap (fun d => (escapeMarkup d).toList) ++ (escapeMarkup c).toList := by
      simp
    rw [if_neg (by simp), split, List.getLast?_append_of_ne_nil _ filled]
    rcases last with last | last
    · simpa [last] using not_return
    · simp [last]

theorem getLast?_contentLines {description : String} {line : List Char} (member : line ∈ contentLines description) :
    line.getLast? ≠ some '\r' := by
  unfold contentLines at member
  split at member
  · rw [List.mem_singleton.mp member]
    decide
  · obtain ⟨text, -, rfl⟩ := List.mem_map.mp member
    intro last
    obtain ⟨front, split⟩ := List.getLast?_eq_some_iff.mp last
    have filled : text.rdropWhile isBlank ≠ [] := by simp [split]
    have stopped := List.rdropWhile_last_not isBlank text filled
    have last_is : (text.rdropWhile isBlank).getLast filled = '\r' := by simp [split]
    rw [last_is] at stopped
    exact stopped (by decide)

theorem codeLines_summary (description : String) : codeLines (summary description).toList =
    "    /// <summary>".toList :: (contentLines description).flatMap (fun line => codeLines (commentLine line).toList) ++
      ["    /// </summary>".toList] := by
  have opening_whole : IsWhole "    /// <summary>".toList := by decide +kernel
  have closing_whole : IsWhole "    /// </summary>".toList := by decide +kernel
  rw [summary, descriptionLines_eq, codeLines_unlines (by simp)]
  · simp only [List.flatMap_append, List.flatMap_cons, List.flatMap_map, List.flatMap_nil, List.append_nil,
      codeLines_of_isWhole opening_whole, codeLines_of_isWhole closing_whole, List.singleton_append]
  · simp only [List.forall_mem_append, List.forall_mem_cons, List.forall_mem_map, List.not_mem_nil, false_implies,
      implies_true, and_true]
    exact ⟨⟨by decide, fun line member => getLast?_commentLine (getLast?_contentLines member)⟩, by decide⟩

theorem length_le_length_flatMap (lines : List (List Char)) : lines.length ≤ (lines.flatMap codeLines).length := by
  induction lines with
  | nil => exact Nat.le_refl 0
  | cons line lines ih =>
    have one := length_codeLines_pos line
    rw [List.flatMap_cons, List.length_append, List.length_cons]
    omega

/-- If there are no more lines of code than lines, no line has a line end in it. -/
theorem isWhole_of_length_flatMap {lines : List (List Char)} (same : (lines.flatMap codeLines).length = lines.length) :
    ∀ line ∈ lines, IsWhole line := by
  induction lines with
  | nil => exact List.forall_mem_nil _
  | cons line lines ih =>
    have one := length_codeLines_pos line
    have others := length_le_length_flatMap lines
    rw [List.flatMap_cons, List.length_append, List.length_cons] at same
    exact List.forall_mem_cons.mpr ⟨length_codeLines_eq_one_iff.mp (by omega), ih (by omega)⟩

theorem flatMap_codeLines_of_isWhole {lines : List (List Char)} (whole : ∀ line ∈ lines, IsWhole line) :
    lines.flatMap codeLines = lines := by
  induction lines with
  | nil => rfl
  | cons line lines ih =>
    obtain ⟨line_whole, rest_whole⟩ := List.forall_mem_cons.mp whole
    rw [List.flatMap_cons, codeLines_of_isWhole line_whole, ih rest_whole, List.singleton_append]

/-- The text is a comment, and says the lines between its first and its last. -/
structure Says (code : List Char) (lines : List (List Char)) : Prop where
  marked : ∀ line ∈ codeLines code, commentMark.toList <+: line
  content : (codeLines code).tail.dropLast.map commentContent = lines

/-- The comment of a description says the lines of the description exactly if none of these has a line end in it. -/
theorem summary_says_iff (description : String) : Says (summary description).toList (contentLines description) ↔
    ∀ line ∈ contentLines description, IsWhole line := by
  have lines_are : codeLines (summary description).toList = "    /// <summary>".toList ::
      (((contentLines description).map fun line => (commentLine line).toList).flatMap codeLines ++
        ["    /// </summary>".toList]) := by
    rw [codeLines_summary, List.flatMap_map, List.cons_append]
  constructor
  · rintro ⟨-, content⟩
    rw [lines_are, List.tail_cons, List.dropLast_concat] at content
    have lengths := congrArg List.length content
    rw [List.length_map] at lengths
    have whole := isWhole_of_length_flatMap (lengths.trans (List.length_map _).symm)
    intro line member
    exact (isWhole_commentLine_iff line).mp (whole _ (List.mem_map_of_mem member))
  · intro whole
    have comments_whole : ∀ comment ∈ (contentLines description).map fun line => (commentLine line).toList,
        IsWhole comment := by
      simpa [isWhole_commentLine_iff] using whole
    rw [flatMap_codeLines_of_isWhole comments_whole] at lines_are
    refine ⟨?_, ?_⟩
    · rw [lines_are]
      simp only [List.forall_mem_cons, List.forall_mem_append, List.forall_mem_map, List.not_mem_nil, false_implies,
        implies_true, and_true]
      refine ⟨by decide, fun line _ => ?_, by decide⟩
      rw [toList_commentLine]
      exact List.prefix_append _ _
    · rw [lines_are, List.tail_cons, List.dropLast_concat, List.map_map]
      simp [Function.comp_def, commentContent_commentLine]

/-- Behind a carriage return, a description leaves its comment. -/
theorem summary_leaves_comment : ¬ Says (summary "a\rb").toList (contentLines "a\rb") := by
  rintro ⟨marked, -⟩
  have outside : "b".toList ∈ codeLines (summary "a\rb").toList := by decide +kernel
  exact absurd (marked _ outside) (by decide)

end Tablesmith.Accessor
