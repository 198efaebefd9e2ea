import Mathlib
import Tablesmith.Accessor.Code

/-!
# What a class looks up

The class of a sheet is a text. Its last method sets each property from the value
that it looks up under a name, by the expression of a type. `bodyLines` finds
the lines of that method in the text, and `Reads` says what a line looks up. Where
no name has white space in it, the lines read back exactly the properties that
the class was written for (`reads_tableClass_iff`).
-/

namespace Tablesmith.Accessor

open Tablesmith.Text

theorem splitLines_ne_nil {text : List Char} (filled : text ≠ []) : splitLines text ≠ [] := by
  cases text with
  | nil => exact absurd rfl filled
  | cons c rest =>
    rw [splitLines]
    split
    · simp
    · split <;> simp

/-- A line feed ends the lines before it, whatever follows. -/
theorem splitLines_append_feed (text rest : List Char) :
    splitLines (text ++ '\n' :: rest) = splitLines (text ++ ['\n']) ++ splitLines rest := by
  induction text with
  | nil => simp [splitLines]
  | cons c text ih =>
    rw [List.cons_append, splitLines, ih, List.cons_append, splitLines]
    by_cases feed : c = '\n'
    · simp [feed]
    · rw [if_neg feed, if_neg feed]
      cases lines : splitLines (text ++ ['\n']) with
      | nil => exact absurd lines (splitLines_ne_nil (by simp))
      | cons line lines => rfl

theorem splitLines_feed {line : List Char} (whole : '\n' ∉ line) : splitLines (line ++ ['\n']) = [line] := by
  induction line with
  | nil => rfl
  | cons c line ih =>
    obtain ⟨not_feed, rest_whole⟩ := not_or.mp (mt List.mem_cons.mpr whole)
    rw [List.cons_append, splitLines, if_neg (Ne.symm not_feed), ih rest_whole]

theorem splitLines_line {line : List Char} (whole : '\n' ∉ line) (filled : line ≠ []) : splitLines line = [line] := by
  induction line with
  | nil => exact absurd rfl filled
  | cons c line ih =>
    obtain ⟨not_feed, rest_whole⟩ := not_or.mp (mt List.mem_cons.mpr whole)
    rw [splitLines, if_neg (Ne.symm not_feed)]
    cases line with
    | nil => rfl
    | cons d line => rw [ih rest_whole (by simp)]

theorem unlines_append (before after : List String) (before_filled : before ≠ []) (after_filled : after ≠ []) :
    unlines (before ++ after) = unlines before ++ "\n" ++ unlines after :=
  String.intercalate_append_of_ne_nil before_filled after_filled

theorem unlines_singleton (line : String) : unlines [line] = line :=
  String.intercalate_singleton

theorem unlines_cons {line : String} {lines : List String} (filled : lines ≠ []) :
    unlines (line :: lines) = line ++ "\n" ++ unlines lines :=
  String.intercalate_cons_of_ne_nil filled

/-- The lines of joined lines are those lines. -/
theorem splitLines_unlines {lines : List String} (whole : ∀ line ∈ lines, '\n' ∉ line.toList) :
    splitLines ((unlines lines).toList ++ ['\n']) = if lines = [] then [[]] else lines.map String.toList := by
  induction lines with
  | nil => rfl
  | cons line lines ih =>
    obtain ⟨line_whole, rest_whole⟩ := List.forall_mem_cons.mp whole
    by_cases last : lines = []
    · subst last
      simpa [unlines] using splitLines_feed line_whole
    · rw [unlines_cons last, String.toList_append, String.toList_append, List.append_assoc, List.append_assoc]
      have split := splitLines_append_feed line.toList ((unlines lines).toList ++ ['\n'])
      rw [splitLines_feed line_whole, ih rest_whole, if_neg last] at split
      simpa using split

/-- What an expression of a type has in front of the name. -/
def beforeName (type : PropertyType) : String :=
  match type with
  | .string => "data[\""
  | .bool => "bool.Parse(" ++ "data[\""
  | .dateTime => "DateTime.ParseExact(" ++ "data[\""
  | .timeSpan => "TimeSpan.ParseExact(" ++ "data[\""
  | .int | .long | .float | .double => type.name ++ ".Parse(" ++ "data[\""

/-- What an expression of a type has behind the name. -/
def afterName (type : PropertyType) : String :=
  match type with
  | .string => "\"]"
  | .bool => "\"]" ++ ")"
  | .dateTime => "\"]" ++ ", \"yyyy-MM-dd HH:mm:ss\", CultureInfo.InvariantCulture)"
  | .timeSpan => "\"]" ++ ", @\"hh\\:mm\\:ss\", CultureInfo.InvariantCulture)"
  | .int | .long | .float | .double => "\"]" ++ ", CultureInfo.InvariantCulture)"

theorem parseExpression_eq (name : String) (type : PropertyType) :
    parseExpression name type = beforeName type ++ (name ++ afterName type) := by
  unfold parseExpression beforeName afterName
  cases type <;> simp only [String.append_assoc]

/-- The first characters of the expressions of a type. -/
def opening : PropertyType → List Char
  | .string => ['d', 'a', 't']
  | .int => ['i', 'n', 't']
  | .long => ['l', 'o', 'n']
  | .float => ['f', 'l', 'o']
  | .double => ['d', 'o', 'u']
  | .bool => ['b', 'o', 'o']
  | .dateTime => ['D', 'a', 't']
  | .timeSpan => ['T', 'i', 'm']

theorem opening_injective {type kind : PropertyType} (same : opening type = opening kind) : type = kind := by
  revert same
  cases type <;> cases kind <;> decide

theorem take_beforeName (type : PropertyType) (rest : List Char) :
    ((beforeName type).toList ++ rest).take 3 = opening type := by
  have long_enough : 3 ≤ (beforeName type).toList.length := by cases type <;> decide +kernel
  rw [List.take_append_of_le_length long_enough]
  cases type <;> decide +kernel

/-- An expression tells its type, and the name between the quotes. -/
theorem parseExpression_injective {name other : String} {type kind : PropertyType}
    (same : parseExpression name type = parseExpression other kind) : name = other ∧ type = kind := by
  have lists := congrArg String.toList same
  simp only [parseExpression_eq, String.toList_append] at lists
  have openings := congrArg (List.take 3) lists
  rw [take_beforeName, take_beforeName] at openings
  obtain rfl := opening_injective openings
  exact ⟨String.toList_inj.mp (List.append_cancel_right (List.append_cancel_left lists)), rfl⟩

/-- The line sets a property, whatever its name, from the value that it looks up under the given
    name, by the expression of the given type. -/
def Reads (line : List Char) (name : String) (type : PropertyType) : Prop :=
  ∃ target : String, (∀ c ∈ target.toList, isBlank c = false) ∧
    line = ("        " ++ target ++ " = " ++ parseExpression name type ++ ";").toList

theorem takeWhile_not_blank {target rest : List Char} (clear : ∀ c ∈ target, isBlank c = false) :
    (target ++ ' ' :: rest).takeWhile (fun c => !isBlank c) = target := by
  rw [List.takeWhile_append_of_pos (by simpa using clear)]
  have blank : isBlank ' ' = true := by decide +kernel
  simp [blank]

theorem reads_assignment_iff {property : Property} (clear : ∀ c ∈ property.name.toList, isBlank c = false)
    {name : String} {type : PropertyType} :
    Reads (assignment property).toList name type ↔ property.name = name ∧ property.type = type := by
  constructor
  · rintro ⟨target, target_clear, same⟩
    have tail : property.name.toList ++ ' ' :: ("= " ++ parseExpression property.name property.type ++ ";").toList =
        target.toList ++ ' ' :: ("= " ++ parseExpression name type ++ ";").toList := by
      simpa [assignment] using same
    have targets := congrArg (List.takeWhile fun c => !isBlank c) tail
    rw [takeWhile_not_blank clear, takeWhile_not_blank target_clear] at targets
    rw [targets] at tail
    refine parseExpression_injective (String.toList_inj.mp ?_)
    simpa using tail
  · rintro ⟨rfl, rfl⟩
    exact ⟨property.name, clear, rfl⟩

/-- The lines of the last method of a class, from the last to the first: those before the two
    closing brackets, back to the opening bracket of a method. -/
def bodyLines (code : String) : List (List Char) :=
  ((splitLines code.toList).reverse.drop 2).takeWhile (· ≠ "    \x7b".toList)

theorem feed_not_mem_assignment {property : Property} (clear : ∀ c ∈ property.name.toList, isBlank c = false) :
    '\n' ∉ (assignment property).toList := by
  have feed_blank : isBlank '\n' = true := by decide +kernel
  have not_in_name : '\n' ∉ property.name.toList := by
    intro inside
    rw [clear _ inside] at feed_blank
    cases feed_blank
  have not_before : '\n' ∉ (beforeName property.type).toList := by cases property.type <;> decide +kernel
  have not_after : '\n' ∉ (afterName property.type).toList := by cases property.type <;> decide +kernel
  simp only [assignment, parseExpression_eq, String.toList_append, List.mem_append, not_or]
  exact ⟨⟨⟨⟨by decide, not_in_name⟩, by decide⟩, not_before, not_in_name, not_after⟩, by decide⟩

theorem assignment_ne_bracket (property : Property) : (assignment property).toList ≠ "    \x7b".toList := by
  intro same
  have lengths := congrArg List.length same
  simp [assignment] at lengths

/-- The line of a property behind its comment. -/
def propertyLine (property : Property) : String :=
  "    public " ++ property.type.name ++ " " ++ property.name ++ " \x7b get; private set; \x7d"

theorem declaration_eq (property : Property) :
    declaration property = summary property.description ++ "\n" ++ propertyLine property := by
  have feed : "\n    public " = "\n" ++ "    public " := by simp
  delta propertyLine
  rw [declaration, feed]
  simp only [String.append_assoc]

/-- The lines of a class before the body of its last method. -/
def classHead (schema : Schema) : List String :=
  ["public class " ++ schema.name ++ " : GameTable<" ++ schema.name ++ ">",
    "\x7b",
    String.intercalate "\n\n" ((schema.valueProperties.map schema.propertyAt).map declaration),
    "",
    "    protected override void Parse(Dictionary<string, string> data)"]

theorem tableClass_eq (schema : Schema) : (tableClass schema).toList =
    (unlines (classHead schema)).toList ++ '\n' :: ("    \x7b".toList ++ '\n' ::
      ((unlines ((schema.valueProperties.map schema.propertyAt).map assignment)).toList ++ '\n' ::
        ("    \x7d".toList ++ '\n' :: "\x7d".toList))) := by
  have lines : tableClass schema = unlines (classHead schema ++
      ["    \x7b", unlines ((schema.valueProperties.map schema.propertyAt).map assignment), "    \x7d", "\x7d"]) := by
    rw [tableClass, classHead]
    simp only [List.cons_append, List.nil_append]
  have head_filled : classHead schema ≠ [] := List.cons_ne_nil _ _
  rw [lines, unlines_append _ _ head_filled (List.cons_ne_nil _ _)]
  generalize unlines (classHead schema) = head
  generalize unlines ((schema.valueProperties.map schema.propertyAt).map assignment) = body
  simp [unlines]

/-- The lines of the body of the last method, at least one. -/
def body (schema : Schema) : List (List Char) :=
  if schema.valueProperties = [] then [[]]
  else schema.valueProperties.map fun property => (assignment (schema.propertyAt property)).toList

theorem bodyLines_tableClass {schema : Schema}
    (clear : ∀ property, ∀ c ∈ (schema.propertyAt property).name.toList, isBlank c = false) :
    bodyLines (tableClass schema) = (body schema).reverse := by
  have whole : ∀ line ∈ (schema.valueProperties.map schema.propertyAt).map assignment, '\n' ∉ line.toList := by
    intro line member
    simp only [List.map_map, List.mem_map] at member
    obtain ⟨property, _, rfl⟩ := member
    exact feed_not_mem_assignment (clear property)
  have no_bracket : ∀ line ∈ (body schema).reverse, decide (line ≠ "    \x7b".toList) = true := by
    intro line member
    unfold body at member
    rw [List.mem_reverse] at member
    split at member
    · rw [List.mem_singleton.mp member]
      decide
    · obtain ⟨property, _, rfl⟩ := List.mem_map.mp member
      exact decide_eq_true (assignment_ne_bracket _)
  have body_split : splitLines ((unlines ((schema.valueProperties.map schema.propertyAt).map assignment)).toList ++
      ['\n']) = body schema := by
    rw [splitLines_unlines whole, body]
    simp [Function.comp_def]
  have split : splitLines (tableClass schema).toList = splitLines ((unlines (classHead schema)).toList ++ ['\n']) ++
      (["    \x7b".toList] ++ (body schema ++ ["    \x7d".toList, "\x7d".toList])) := by
    rw [tableClass_eq, splitLines_append_feed, splitLines_append_feed "    \x7b".toList,
      splitLines_append_feed (unlines ((schema.valueProperties.map schema.propertyAt).map assignment)).toList,
      splitLines_append_feed "    \x7d".toList, body_split]
    have opened : splitLines ("    \x7b".toList ++ ['\n']) = ["    \x7b".toList] := splitLines_feed (by decide)
    have closed : splitLines ("    \x7d".toList ++ ['\n']) = ["    \x7d".toList] := splitLines_feed (by decide)
    have last : splitLines "\x7d".toList = ["\x7d".toList] := splitLines_line (by decide) (by decide)
    rw [opened, closed, last]
    rfl
  rw [bodyLines, split]
  simp only [List.reverse_append, List.reverse_cons, List.reverse_nil, List.nil_append, List.append_assoc,
    List.cons_append, List.drop_succ_cons, List.drop_zero]
  have bracket_ends : ¬ decide ("    \x7b".toList ≠ "    \x7b".toList) = true := fun differs => of_decide_eq_true differs rfl
  rw [List.takeWhile_append_of_pos no_bracket,
    List.takeWhile_cons_of_neg (p := fun line => decide (line ≠ "    \x7b".toList)) bracket_ends, List.append_nil]

/-- The last method of a class looks up the properties of the sheet, by the expressions of their types. -/
theorem reads_tableClass_iff {schema : Schema}
    (clear : ∀ property, ∀ c ∈ (schema.propertyAt property).name.toList, isBlank c = false)
    {name : String} {type : PropertyType} :
    (∃ line ∈ bodyLines (tableClass schema), Reads line name type) ↔
      ∃ property ∈ schema.valueProperties,
        (schema.propertyAt property).name = name ∧ (schema.propertyAt property).type = type := by
  rw [bodyLines_tableClass clear, body]
  by_cases no_values : schema.valueProperties = []
  · have reads_nothing : ¬ Reads [] name type := by
      rintro ⟨target, _, same⟩
      simp at same
    simp [no_values, reads_nothing]
  · simp only [if_neg no_values, List.mem_reverse, List.mem_map]
    constructor
    · rintro ⟨_, ⟨property, member, rfl⟩, reads⟩
      exact ⟨property, member, (reads_assignment_iff (clear property)).mp reads⟩
    · rintro ⟨property, member, same⟩
      exact ⟨_, ⟨property, member, rfl⟩, (reads_assignment_iff (clear property)).mpr same⟩

end Tablesmith.Accessor
