import Mathlib
import Tablesmith.Proofs.Accessor.Agreement
import Tablesmith.Proofs.Accessor.Tokens

/-!
# Names in code

The names of sheets and properties are written into the code as they are: as the names of
classes and properties, and between the quotes of literals. They are read there as what
they are exactly if they are identifiers (`generate_names_iff`). Discovery lets other
names through, and a name with an escape in it gives a literal that denotes another name
(`code_misnames_letter`).
-/

namespace Tablesmith.Accessor

open Text.Encoding

/-- What an expression of a type begins with, up to the name. -/
def lookupStart : PropertyType → String
  | .string => "data["
  | .int => "int.Parse(data["
  | .long => "long.Parse(data["
  | .float => "float.Parse(data["
  | .double => "double.Parse(data["
  | .bool => "bool.Parse(data["
  | .dateTime => "DateTime.ParseExact(data["
  | .timeSpan => "TimeSpan.ParseExact(data["

/-- What an expression of a type ends with, behind the name. -/
def lookupEnd : PropertyType → String
  | .string => "]"
  | .int | .long | .float | .double => "], CultureInfo.InvariantCulture)"
  | .bool => "])"
  | .dateTime => "], \"yyyy-MM-dd HH:mm:ss\", CultureInfo.InvariantCulture)"
  | .timeSpan => "], @\"hh\\:mm\\:ss\", CultureInfo.InvariantCulture)"

/-- The literal that denotes a name. -/
def nameLiteral (name : String) : Token :=
  .literal (textUnits name.toList)

/-- The declaration of a property by its name. -/
def declarationTokens (property : Property) : List Token :=
  fixed ("    public " ++ property.type.name ++ " ") ++ .name property.name.toList :: fixed " \x7b get; private set; \x7d"

/-- The property of a name is set from the value that is looked up under the same name. -/
def assignmentTokens (property : Property) : List Token :=
  .name property.name.toList ::
    (fixed " = " ++ fixed (lookupStart property.type) ++ nameLiteral property.name ::
      (fixed (lookupEnd property.type) ++ fixed ";"))

/-- The class of a sheet by its name, with the properties of the sheet. -/
def classTokens (schema : Schema) : List Token :=
  fixed "public class " ++ .name schema.name.toList ::
    (fixed " : GameTable<" ++ .name schema.name.toList :: (fixed ">" ++ fixed "\x7b" ++
      (schema.valueProperties.map schema.propertyAt).flatMap declarationTokens ++
      fixed "    protected override void Parse(Dictionary<string, string> data)" ++ fixed "    \x7b" ++
      (schema.valueProperties.map schema.propertyAt).flatMap assignmentTokens ++ fixed "    \x7d" ++ fixed "\x7d"))

/-- The document of a name goes to the class of the same name. -/
def caseTokens (schema : Schema) : List Token :=
  fixed "                case " ++ nameLiteral schema.name ::
    (fixed ": " ++ .name schema.name.toList :: fixed ".LoadData(jsonData); break;")

/-- The code of a list of sheets, with their names and those of their properties. -/
def codeTokens (schemas : List Schema) : List Token :=
  fixed header ++ fixed baseClass ++ (firstOfName [] schemas).flatMap classTokens ++
    (managerOpening.flatMap fixed ++ (firstOfName [] schemas).flatMap caseTokens ++ managerClosing.flatMap fixed)

variable {alphabet : Alphabet} {name : String} {property : Property} {schema : Schema}

/-- The text around the name in an expression, from quote to quote. -/
theorem lookup_parts (type : PropertyType) :
    (isPiece (lookupStart type).toList = true ∧ isPiece (lookupEnd type).toList = true) ∧
      (beforeName type).toList = (lookupStart type).toList ++ ['"'] ∧
        (afterName type).toList = '"' :: (lookupEnd type).toList := by
  cases type <;> decide +kernel

/-- Fixed text in front of names and literals, and at the end of statements. -/
theorem isPiece_fixed : ∀ code ∈ ["        ", ";", ": ", "public class ", "                case "],
    isPiece code.toList = true := by
  simp only [List.forall_mem_cons, List.not_mem_nil, false_implies, implies_true, and_true]
  repeat rw [String.toList_ofList]
  decide

/-- Fixed text behind names. -/
theorem isSeparator_fixed : ∀ code ∈ [" = ", ">", " : GameTable<", " \x7b get; private set; \x7d", ".LoadData(jsonData); break;"],
    isSeparator code.toList = true := by
  simp only [List.forall_mem_cons, List.not_mem_nil, false_implies, implies_true, and_true]
  repeat rw [String.toList_ofList]
  decide

theorem isPiece_propertyStart (type : PropertyType) : isPiece ("    public " ++ type.name ++ " ").toList = true := by
  cases type <;> simp only [-String.reduceToList, PropertyType.name, String.toList_append]
  all_goals
    repeat rw [String.toList_ofList]
    decide

theorem fixed_indent : fixed "        " = [] := by
  rw [fixed, tokens?, String.toList_ofList]
  decide

theorem toList_parseExpression (name : String) (type : PropertyType) : (parseExpression name type).toList =
    (lookupStart type).toList ++ '"' :: (name.toList ++ '"' :: (lookupEnd type).toList) := by
  obtain ⟨-, before, after⟩ := lookup_parts type
  simp only [parseExpression_eq, String.toList_append, before, after, List.append_assoc, List.cons_append, List.nil_append]

theorem Runs.literal {rest : List Char} {others : List Token} {last : Mode} (identifier : alphabet.IsIdentifier name.toList)
    (behind : Runs alphabet .between rest others last) :
    Runs alphabet .between ('"' :: (name.toList ++ '"' :: rest)) (nameLiteral name :: others) last :=
  Runs.quoted identifier.plain behind

theorem tokens?_assignment (identifier : alphabet.IsIdentifier property.name.toList) :
    tokens? alphabet (assignment property) = some (assignmentTokens property) := by
  have split : (assignment property).toList ++ ['\n'] = "        ".toList ++ (property.name.toList ++ (" = ".toList ++
      ((lookupStart property.type).toList ++ '"' :: (property.name.toList ++ '"' ::
        ((lookupEnd property.type).toList ++ (";".toList ++ ['\n'])))))) := by
    simp only [-String.reduceToList, assignment, String.toList_append, toList_parseExpression, List.append_assoc, List.cons_append]
  obtain ⟨starts, ends⟩ := (lookup_parts property.type).1
  have expression := Runs.piece starts (Runs.literal identifier
    (Runs.piece ends (Runs.piece (isPiece_fixed ";" (by simp)) runs_feed)))
  have line := Runs.piece (isPiece_fixed "        " (by simp))
    (Runs.named identifier (isSeparator_fixed " = " (by simp)) expression)
  rw [tokens?_eq_some_iff, split, assignmentTokens]
  simpa only [fixed_indent, List.nil_append, List.append_nil, List.append_assoc, List.cons_append] using line

theorem tokens?_comment {code : String} (marked : commentMark.toList <+: code.toList) (whole : IsWhole code.toList) :
    tokens? alphabet code = some [] := by
  obtain ⟨text, split⟩ := marked
  have text_whole : IsWhole text := (isWhole_append_iff.mp (split ▸ whole)).2
  have mark : Runs alphabet .between commentMark.toList [] .comment := rfl
  rw [tokens?_eq_some_iff, ← split, List.append_assoc]
  exact mark.append (Runs.comment text_whole Runs.nil)

/-- The comment of a description that has no other line ends than line feeds has nothing to read in it. -/
theorem tokens?_summary {description : String} (contained : ∀ line ∈ contentLines description, IsWhole line) :
    tokens? alphabet (summary description) = some [] := by
  have lines : ∀ line ∈ "    /// <summary>" :: (contentLines description).map commentLine ++ ["    /// </summary>"],
      tokens? alphabet line = some [] := by
    simp only [List.forall_mem_append, List.forall_mem_cons, List.forall_mem_map, List.not_mem_nil, false_implies,
      implies_true, and_true]
    refine ⟨⟨rfl, fun line member => ?_⟩, rfl⟩
    refine tokens?_comment ?_ ((isWhole_commentLine_iff line).mpr (contained line member))
    rw [toList_commentLine]
    exact List.prefix_append _ _
  have read := tokens?_intercalate parts_feed id (fun _ => []) lines
  have nothing (lines : List String) : lines.flatMap (fun _ => ([] : List Token)) = [] := by simp
  rw [summary, descriptionLines_eq, unlines]
  rwa [List.map_id, nothing] at read

theorem tokens?_propertyLine (identifier : alphabet.IsIdentifier property.name.toList) :
    tokens? alphabet (propertyLine property) = some (declarationTokens property) := by
  have split : (propertyLine property).toList ++ ['\n'] = ("    public " ++ property.type.name ++ " ").toList ++
      (property.name.toList ++ (" \x7b get; private set; \x7d".toList ++ ['\n'])) := by
    delta propertyLine
    simp only [-String.reduceToList, String.toList_append, List.append_assoc]
  have line := Runs.piece (isPiece_propertyStart property.type)
    (Runs.named identifier (isSeparator_fixed " \x7b get; private set; \x7d" (by simp)) runs_feed)
  rw [tokens?_eq_some_iff, split, declarationTokens]
  simpa only [List.append_nil] using line

theorem tokens?_declaration (contained : ∀ line ∈ contentLines property.description, IsWhole line)
    (identifier : alphabet.IsIdentifier property.name.toList) :
    tokens? alphabet (declaration property) = some (declarationTokens property) := by
  rw [declaration_eq, ← List.nil_append (declarationTokens property)]
  exact tokens?_feed (tokens?_summary contained) (tokens?_propertyLine identifier)

/-- The names of a sheet and of its properties are identifiers. -/
def HasIdentifiers (alphabet : Alphabet) (schema : Schema) : Prop :=
  alphabet.IsIdentifier schema.name.toList ∧
    ∀ property ∈ schema.valueProperties, alphabet.IsIdentifier (schema.propertyAt property).name.toList

theorem tokens?_classLine (identifier : alphabet.IsIdentifier name.toList) :
    tokens? alphabet ("public class " ++ name ++ " : GameTable<" ++ name ++ ">") =
      some (fixed "public class " ++ .name name.toList ::
        (fixed " : GameTable<" ++ .name name.toList :: fixed ">")) := by
  have split : ("public class " ++ name ++ " : GameTable<" ++ name ++ ">").toList ++ ['\n'] = "public class ".toList ++
      (name.toList ++ (" : GameTable<".toList ++ (name.toList ++ (">".toList ++ ['\n'])))) := by
    simp only [-String.reduceToList, String.toList_append, List.append_assoc]
  have line := Runs.piece (isPiece_fixed "public class " (by simp))
    (Runs.named identifier (isSeparator_fixed " : GameTable<" (by simp))
      (Runs.named identifier (isSeparator_fixed ">" (by simp)) runs_feed))
  rw [tokens?_eq_some_iff, split]
  simpa only [List.append_nil] using line

theorem managerCase_eq (schema : Schema) : managerCase schema =
    "                case " ++ "\"" ++ schema.name ++ "\"" ++ ": " ++ schema.name ++ ".LoadData(jsonData); break;" := by
  have opened : "                case \"" = "                case " ++ "\"" := by simp
  have closed : "\": " = "\"" ++ ": " := by simp
  have line : managerCase schema =
      "                case \"" ++ schema.name ++ "\": " ++ schema.name ++ ".LoadData(jsonData); break;" := rfl
  rw [line, opened, closed]
  simp only [String.append_assoc]

theorem tokens?_managerCase (identifier : alphabet.IsIdentifier schema.name.toList) :
    tokens? alphabet (managerCase schema) = some (caseTokens schema) := by
  have quote : "\"".toList = ['"'] := rfl
  have split : (managerCase schema).toList ++ ['\n'] = "                case ".toList ++ '"' :: (schema.name.toList ++
      '"' :: (": ".toList ++ (schema.name.toList ++ (".LoadData(jsonData); break;".toList ++ ['\n'])))) := by
    simp only [-String.reduceToList, managerCase_eq, String.toList_append, quote, List.append_assoc, List.cons_append,
      List.nil_append]
  have line := Runs.piece (isPiece_fixed "                case " (by simp)) (Runs.literal identifier
    (Runs.piece (isPiece_fixed ": " (by simp))
      (Runs.named identifier (isSeparator_fixed ".LoadData(jsonData); break;" (by simp)) runs_feed)))
  rw [List.append_nil] at line
  rw [tokens?_eq_some_iff, split]
  exact line

/-- Descriptions have no line ends but line feeds, so that their comments hold them. -/
def IsContained (schema : Schema) : Prop :=
  ∀ property ∈ schema.valueProperties, ∀ line ∈ contentLines (schema.propertyAt property).description, IsWhole line

theorem tokens?_tableClass (contained : IsContained schema) (identifiers : HasIdentifiers alphabet schema) :
    tokens? alphabet (tableClass schema) = some (classTokens schema) := by
  obtain ⟨named, properties_named⟩ := identifiers
  have declarations : tokens? alphabet
      (String.intercalate "\n\n" ((schema.valueProperties.map schema.propertyAt).map declaration)) =
        some ((schema.valueProperties.map schema.propertyAt).flatMap declarationTokens) := by
    refine tokens?_intercalate parts_blankLine declaration declarationTokens fun property member => ?_
    obtain ⟨place, inside, rfl⟩ := List.mem_map.mp member
    exact tokens?_declaration (contained place inside) (properties_named place inside)
  have assignments : tokens? alphabet (unlines ((schema.valueProperties.map schema.propertyAt).map assignment)) =
      some ((schema.valueProperties.map schema.propertyAt).flatMap assignmentTokens) := by
    refine tokens?_intercalate parts_feed assignment assignmentTokens fun property member => ?_
    obtain ⟨place, inside, rfl⟩ := List.mem_map.mp member
    exact tokens?_assignment (properties_named place inside)
  have fixed_lines : ∀ line ∈ ["\x7b", "    protected override void Parse(Dictionary<string, string> data)", "    \x7b",
      "    \x7d", "\x7d"], isPiece (line.toList ++ ['\n']) = true := by
    simp only [List.forall_mem_cons, List.not_mem_nil, false_implies, implies_true, and_true]
    repeat rw [String.toList_ofList]
    decide
  simp only [List.forall_mem_cons, List.not_mem_nil, false_implies, implies_true, and_true] at fixed_lines
  obtain ⟨opened, method, body_opened, body_closed, closed⟩ := fixed_lines
  have blank : tokens? alphabet "" = some [] := rfl
  have lines := tokens?_feed (tokens?_classLine named) (tokens?_feed (isFixed_of_line opened alphabet)
    (tokens?_feed declarations (tokens?_feed blank (tokens?_feed (isFixed_of_line method alphabet)
      (tokens?_feed (isFixed_of_line body_opened alphabet) (tokens?_feed assignments
        (tokens?_feed (isFixed_of_line body_closed alphabet) (isFixed_of_line closed alphabet))))))))
  simp only [List.append_assoc, List.cons_append, List.nil_append] at lines
  simp only [tableClass, unlines_cons, ne_eq, reduceCtorEq, not_false_eq_true, unlines_singleton, classTokens,
    List.append_assoc]
  exact lines

theorem isFixed_header : IsFixed header := by
  delta header
  refine isFixed_unlines ?_
  simp only [List.forall_mem_cons, List.not_mem_nil, false_implies, implies_true, and_true]
  repeat rw [String.toList_ofList]
  decide

set_option maxRecDepth 4000 in
theorem isFixed_baseClass : IsFixed baseClass := by
  delta baseClass
  refine isFixed_unlines ?_
  simp only [List.forall_mem_cons, List.not_mem_nil, false_implies, implies_true, and_true]
  repeat rw [String.toList_ofList]
  decide

set_option maxRecDepth 4000 in
theorem isPiece_manager : ∀ line ∈ managerOpening ++ managerClosing, isPiece (line.toList ++ ['\n']) = true := by
  delta managerOpening managerClosing
  simp only [List.forall_mem_append, List.forall_mem_cons, List.not_mem_nil, false_implies, implies_true, and_true]
  repeat rw [String.toList_ofList]
  decide

theorem tokens?_managerClass {sheets : List Schema} (identifiers : ∀ sheet ∈ sheets, HasIdentifiers alphabet sheet) :
    tokens? alphabet (managerClass sheets) =
      some (managerOpening.flatMap fixed ++ sheets.flatMap caseTokens ++ managerClosing.flatMap fixed) := by
  have read (line : String) (member : line ∈ managerOpening ++ managerClosing) :
      tokens? alphabet line = some (fixed line) :=
    isFixed_of_line (isPiece_manager line member) alphabet
  have lines : ∀ line ∈ managerOpening.map (fun line => (line, fixed line)) ++
      sheets.map (fun sheet => (managerCase sheet, caseTokens sheet)) ++
        managerClosing.map fun line => (line, fixed line), tokens? alphabet line.1 = some line.2 := by
    simp only [List.forall_mem_append, List.forall_mem_map]
    exact ⟨⟨fun line member => read line (List.mem_append_left _ member),
      fun sheet member => tokens?_managerCase (identifiers sheet member).1⟩,
      fun line member => read line (List.mem_append_right _ member)⟩
  simpa [managerClass, unlines, Function.comp_def, List.flatMap_map] using
    tokens?_intercalate parts_feed Prod.fst Prod.snd lines

theorem tokens?_generate {schemas : List Schema} (contained : ∀ sheet ∈ firstOfName [] schemas, IsContained sheet)
    (identifiers : ∀ sheet ∈ firstOfName [] schemas, HasIdentifiers alphabet sheet) :
    tokens? alphabet (generate schemas) = some (codeTokens schemas) := by
  have classes : tokens? alphabet (String.intercalate "\n\n" ((firstOfName [] schemas).map tableClass)) =
      some ((firstOfName [] schemas).flatMap classTokens) :=
    tokens?_intercalate parts_blankLine tableClass classTokens fun sheet member =>
      tokens?_tableClass (contained sheet member) (identifiers sheet member)
  have joined : generate schemas = header ++ "\n\n" ++ (baseClass ++ "\n\n" ++
      (String.intercalate "\n\n" ((firstOfName [] schemas).map tableClass) ++ "\n\n" ++
        managerClass (firstOfName [] schemas))) := by
    rw [generate]
    simp only [String.intercalate_cons_of_ne_nil, ne_eq, reduceCtorEq, not_false_eq_true, String.intercalate_singleton]
  rw [joined, codeTokens, List.append_assoc, List.append_assoc]
  exact tokens?_blankLine (isFixed_header alphabet) (tokens?_blankLine (isFixed_baseClass alphabet)
    (tokens?_blankLine classes (tokens?_managerClass identifiers)))

theorem hasIdentifiers_of_tokens? {schemas : List Schema} (read : tokens? alphabet (generate schemas) = some (codeTokens schemas)) :
    ∀ sheet ∈ firstOfName [] schemas, HasIdentifiers alphabet sheet := by
  intro sheet member
  have identify := namesIdentify_of_tokens? read
  have inside : ∀ token ∈ classTokens sheet, token ∈ codeTokens schemas := by
    intro token token_in
    have listed : token ∈ (firstOfName [] schemas).flatMap classTokens := List.mem_flatMap.mpr ⟨sheet, member, token_in⟩
    exact List.mem_append_left _ (List.mem_append_right _ listed)
  refine ⟨identify _ (inside _ (by simp [classTokens])), fun property property_in => identify _ (inside _ ?_)⟩
  have declared : .name (sheet.propertyAt property).name.toList ∈
      (sheet.valueProperties.map sheet.propertyAt).flatMap declarationTokens :=
    List.mem_flatMap.mpr ⟨_, List.mem_map_of_mem property_in, by simp [declarationTokens]⟩
  simp only [classTokens, List.mem_append, List.mem_cons, declared, true_or, or_true]

/-- Where descriptions have no line ends but line feeds, the code is read as its classes and properties with their names,
and its literals denote these names, exactly if all of the names are identifiers. -/
theorem generate_names_iff (alphabet : Alphabet) {schemas : List Schema}
    (contained : ∀ first : Schema, first.IsFirstOf schemas → IsContained first) :
    tokens? alphabet (generate schemas) = some (codeTokens schemas) ↔
      ∀ first : Schema, first.IsFirstOf schemas → HasIdentifiers alphabet first := by
  have firsts (first : Schema) : first ∈ firstOfName [] schemas ↔ first.IsFirstOf schemas := by
    rw [mem_firstOfName]
    simp [Schema.IsFirstOf]
  simp only [← firsts] at contained ⊢
  exact ⟨hasIdentifiers_of_tokens?, tokens?_generate contained⟩

end Tablesmith.Accessor

namespace Tablesmith.Item

theorem description_one (item : Item) : (item.schema.propertyAt (1 : Fin 2)).description = "" := by
  have text : Discovery.description item.sheet 1 = "" := by
    rw [Discovery.description, sheet, Grid.Sheet.text_ofTexts]
    rfl
  rw [propertyAt_schema]
  simp only [Fin.val_one, text]

theorem isContained (item : Item) : Accessor.IsContained item.schema := by
  have empty : Accessor.contentLines "" = [[]] := rfl
  intro property member line inside
  rw [valueProperties_schema] at member
  obtain rfl := List.mem_singleton.mp member
  rw [description_one, empty] at inside
  rw [List.mem_singleton.mp inside]
  exact List.forall_mem_nil _

end Tablesmith.Item

namespace Tablesmith.Accessor

/-- The code of a sheet whose names are words is read with these names. -/
theorem generate_names_sword : (∀ first : Schema, first.IsFirstOf [Item.sword.schema] → IsContained first) ∧
    tokens? .ascii (generate [Item.sword.schema]) = some (codeTokens [Item.sword.schema]) := by
  have only {first : Schema} (is_first : first.IsFirstOf [Item.sword.schema]) : first = Item.sword.schema := by
    obtain ⟨before, after, split, -⟩ := is_first
    have inside : first ∈ [Item.sword.schema] := by simp [split]
    exact List.mem_singleton.mp inside
  have contained (first : Schema) (is_first : first.IsFirstOf [Item.sword.schema]) : IsContained first := by
    rw [only is_first]
    exact Item.sword.isContained
  refine ⟨contained, (generate_names_iff .ascii contained).mpr fun first is_first => ?_⟩
  rw [only is_first]
  refine ⟨(by decide : Alphabet.ascii.IsIdentifier "Item".toList), fun property member => ?_⟩
  rw [Item.valueProperties_schema] at member
  obtain rfl := List.mem_singleton.mp member
  rw [Item.sword_isProper.name_one]
  exact (by decide : Alphabet.ascii.IsIdentifier "Name".toList)

/-- An item with an escape in the name of its column. -/
def letter : Item := ⟨"\\u0041b", .string, "a", "Sword"⟩

theorem letter_isProper : letter.IsProper where
  plain := by decide +kernel
  faultless := by decide +kernel
  unlike := by decide
  keyed := by decide
  valued := by decide
  accepted := by decide

/-- Discovery lets the name through, and extraction keys the record by it, but the literal that the code looks the value
up by denotes another name. -/
theorem code_misnames_letter : letter.schema.IsDiscovered ∧
    (∃ tables catalog, (Tables.extract [letter.schema]).run.run KeyCatalog.empty = (.ok tables, catalog) ∧
      ∃ rows record, tables.get? "Item" = some rows ∧ rows.get? "a" = some record ∧
        record.get? "\\u0041b" = some "Sword" ∧ record.get? "Ab" = none) ∧
    nameLiteral "Ab" ≠ nameLiteral "\\u0041b" ∧
    ∀ alphabet, tokens? alphabet (generate [letter.schema]) ≠ some (codeTokens [letter.schema]) ∧
      tokens? alphabet (parseExpression "\\u0041b" .string) = some (fixed "data[" ++ nameLiteral "Ab" :: fixed "]") := by
  refine ⟨letter_isProper.discovered, ?_, by decide +kernel, fun alphabet => ⟨fun read => ?_, ?_⟩⟩
  · have proper : ∀ item ∈ [letter], item.IsProper := by simp [letter_isProper]
    have valid := Tables.itemSheets_valid proper (by simp)
    have is_last : letter.schema.IsLastOf [letter.schema] := ⟨[], [], rfl, by simp⟩
    obtain ⟨_, new⟩ := valid.last_isNew is_last
    have found := (Schema.get?_rowsOf new).mpr ⟨0, by simp [Item.rowCount_schema], Item.keyText_schema letter, rfl⟩
    have value (name value : String) : (letter.schema.recordOf 0).get? name = some value ↔
        name = "\\u0041b" ∧ value = "Sword" := by
      rw [letter_isProper.discovered.get?_recordOf, letter_isProper.entries, List.mem_singleton, Prod.mk.injEq]
      rfl
    refine ⟨_, _, Tables.extract_ok_iff.mpr ⟨valid, rfl, rfl⟩, letter.schema.rowsOf, letter.schema.recordOf 0,
      Tables.get?_ofSchemas.mpr ⟨_, is_last, rfl, rfl⟩, found, (value _ _).mpr ⟨rfl, rfl⟩, ?_⟩
    rw [Option.eq_none_iff_forall_ne_some]
    intro other held
    exact absurd ((value _ _).mp held).1 (by decide)
  · have first : letter.schema ∈ firstOfName [] [letter.schema] := by simp [firstOfName]
    have value : (1 : Fin 2) ∈ letter.schema.valueProperties := by
      rw [Item.valueProperties_schema]
      exact List.mem_singleton.mpr rfl
    have identifier := (hasIdentifiers_of_tokens? read _ first).2 _ value
    rw [letter_isProper.name_one] at identifier
    exact (identifier.plain '\\' (by decide +kernel)).2.1 rfl
  · have is_fixed : IsFixed (parseExpression "\\u0041b" .string) := isFixed_of_line (by decide +kernel)
    rw [is_fixed alphabet]
    decide +kernel

end Tablesmith.Accessor
