import Mathlib
import Tablesmith.Proofs.Accessor.Agreement
import Tablesmith.Proofs.Accessor.Comments
import Tablesmith.Proofs.Extract.Transposition

/-!
# Classes, cases and tables

The generator keeps the first sheet of every name, and passes over names that it has
seen. The tables put a name at the end when it is new, and replace its rows when it
is not. Both give every name once, in the order in which the names are first seen, so
that every table has one class and one case (`generate_covers_tables`).

A class and a case say their name in one line of the code, and no other line of it looks
like theirs (`Frame.IsOutside.names_generate`). So the names can be read off the lines, if
none of them goes on behind a line feed.
-/

namespace Tablesmith

theorem Tables.keys_ofSchemas (schemas : List Schema) :
    (Tables.ofSchemas schemas).keys = (schemas.map Schema.name).eraseDups := by
  rw [Tables.ofSchemas, TextMap.keys, OrderedBy.map_key_foldl_insert, List.map_map]
  rfl

namespace Accessor

open Text

/-- The names of the sheets that classes are written for are the names that are not yet seen, each once, in the order in
which they come first. -/
theorem map_name_firstOfName (seen : List String) (schemas : List Schema) : (firstOfName seen schemas).map Schema.name =
    ((schemas.map Schema.name).filter fun name => !seen.contains name).eraseDups := by
  induction schemas generalizing seen with
  | nil => rfl
  | cons schema rest ih =>
    rw [firstOfName, List.map_cons]
    by_cases known : seen.contains schema.name = true
    · rw [if_pos known, ih, List.filter_cons_of_neg (by simpa using known)]
    · rw [if_neg known, List.map_cons, ih, List.filter_cons_of_pos (by simpa using known), List.eraseDups_cons,
        List.filter_filter]
      simp only [List.contains_cons, Bool.not_or]

/-- A line that says a name twice, with fixed text around it. -/
structure Frame where
  before : String
  between : String
  after : String
  filled : before.toList ≠ []
  whole : '\n' ∉ before.toList ++ between.toList ++ after.toList

namespace Frame

/-- The line that says a name. -/
def line (frame : Frame) (name : String) : String :=
  frame.before ++ name ++ frame.between ++ name ++ frame.after

/-- The name that a line says, if it is one of the frame. -/
def name? (frame : Frame) (line : List Char) : Option String :=
  let length := (line.length - (frame.before.length + frame.between.length + frame.after.length)) / 2
  let name := String.ofList ((line.drop frame.before.length).take length)
  if line = (frame.line name).toList then some name else none

/-- The names that the lines of a text say, from the first to the last. -/
def names (frame : Frame) (code : String) : List String :=
  (code.toList.splitOn '\n').filterMap frame.name?

variable {frame : Frame} {name : String} {chars : List Char}

theorem name?_eq_some_iff : frame.name? chars = some name ↔ chars = (frame.line name).toList := by
  constructor
  · intro said
    unfold name? at said
    dsimp only at said
    split at said
    · next same =>
      rw [← Option.some_inj.mp said]
      exact same
    · cases said
  · rintro rfl
    have length : ((frame.line name).toList.length - (frame.before.length + frame.between.length + frame.after.length)) / 2 =
        name.toList.length := by
      simp only [Frame.line, String.toList_append, List.length_append, String.length_toList]
      omega
    have recovered : String.ofList (((frame.line name).toList.drop frame.before.length).take name.toList.length) = name := by
      have before_length : frame.before.length = frame.before.toList.length := String.length_toList.symm
      simp only [Frame.line, String.toList_append, List.append_assoc, before_length, List.drop_left, List.take_left,
        String.ofList_toList]
    simp only [name?, length, recovered, ↓reduceIte]

theorem before_prefix_line (name : String) : frame.before.toList <+: (frame.line name).toList := by
  simp [line]

theorem name?_eq_none (apart : ¬ frame.before.toList <+: chars) : frame.name? chars = none := by
  refine Option.eq_none_iff_forall_ne_some.mpr fun name said => apart ?_
  rw [name?_eq_some_iff.mp said]
  exact before_prefix_line name

theorem names_of_whole {text : String} (whole : '\n' ∉ text.toList) : frame.names text = (frame.name? text.toList).toList := by
  have single : text.toList.splitOn '\n' = [text.toList] :=
    List.splitOnP_eq_singleton fun c member => beq_eq_false_iff_ne.mpr fun same => whole (same ▸ member)
  rw [names, single, List.filterMap_cons]
  cases frame.name? text.toList <;> rfl

theorem feed_not_mem_line (name_whole : '\n' ∉ name.toList) : '\n' ∉ (frame.line name).toList := by
  have whole := frame.whole
  simp only [List.mem_append, not_or] at whole
  simp only [line, String.toList_append, List.mem_append, not_or]
  exact ⟨⟨⟨⟨whole.1.1, name_whole⟩, whole.1.2⟩, name_whole⟩, whole.2⟩

theorem names_line (name_whole : '\n' ∉ name.toList) : frame.names (frame.line name) = [name] := by
  rw [names_of_whole (feed_not_mem_line name_whole), name?_eq_some_iff.mpr rfl]
  rfl

theorem names_eq_nil {text : String} (whole : '\n' ∉ text.toList) (apart : ¬ frame.before.toList <+: text.toList) :
    frame.names text = [] := by
  rw [names_of_whole whole, name?_eq_none apart]
  rfl

@[simp] theorem names_empty : frame.names "" = [] := by
  refine names_eq_nil (by simp) ?_
  simpa using frame.filled

theorem names_feed (before after : String) :
    frame.names (before ++ "\n" ++ after) = frame.names before ++ frame.names after := by
  have chars : (before ++ "\n" ++ after).toList = before.toList ++ '\n' :: after.toList := by simp
  have split : (before.toList ++ '\n' :: after.toList).splitOn '\n' =
      before.toList.splitOn '\n' ++ after.toList.splitOn '\n' :=
    List.splitOnP_append_cons _ _ (beq_self_eq_true '\n')
  rw [names, chars, split, List.filterMap_append, names, names]

theorem names_unlines (lines : List String) : frame.names (unlines lines) = lines.flatMap frame.names := by
  induction lines with
  | nil => exact names_empty
  | cons line lines ih =>
    by_cases last : lines = []
    · subst last
      simp [unlines_singleton]
    · rw [unlines_cons last, names_feed, ih, List.flatMap_cons]

/-- Empty lines between blocks say nothing. -/
theorem names_blocks (blocks : List String) : frame.names (String.intercalate "\n\n" blocks) = blocks.flatMap frame.names := by
  induction blocks with
  | nil => exact names_empty
  | cons block blocks ih =>
    by_cases last : blocks = []
    · subst last
      simp
    · have parts : block ++ "\n\n" ++ String.intercalate "\n\n" blocks =
          block ++ "\n" ++ "" ++ "\n" ++ String.intercalate "\n\n" blocks := by
        have feeds : "\n\n" = "\n" ++ "" ++ "\n" := by simp
        rw [feeds]
        simp only [String.append_assoc]
      rw [String.intercalate_cons_of_ne_nil last, parts, names_feed, names_feed, ih, names_empty, List.append_nil,
        List.flatMap_cons]

/-- The text is a whole line of another kind. -/
def isForeign (frame : Frame) (text : String) : Bool :=
  !text.toList.contains '\n' && !frame.before.toList.isPrefixOf text.toList

theorem names_of_isForeign {text : String} (foreign : frame.isForeign text = true) : frame.names text = [] := by
  simp only [isForeign, Bool.and_eq_true, Bool.not_eq_true', List.contains_eq_mem, decide_eq_false_iff_not] at foreign
  refine names_eq_nil foreign.1 fun starts => ?_
  rw [List.isPrefixOf_iff_prefix.mpr starts] at foreign
  cases foreign.2

theorem names_unlines_of_isForeign {lines : List String} (foreign : lines.all frame.isForeign = true) :
    frame.names (unlines lines) = [] := by
  rw [names_unlines, List.flatMap_eq_nil_iff]
  exact fun line member => names_of_isForeign (List.all_eq_true.mp foreign line member)

end Frame

/-- The first line of a class. -/
def classFrame : Frame :=
  ⟨"public class ", " : GameTable<", ">", by decide, by decide +kernel⟩

/-- The line that hands the document of a name to the class of the name. -/
def caseFrame : Frame :=
  ⟨"                case \"", "\": ", ".LoadData(jsonData); break;", by decide, by decide +kernel⟩

/-- The text is a class of the name. -/
def Declares (name code : String) : Prop :=
  ∃ body : List String, code = unlines (classFrame.line name :: "\x7b" :: (body ++ ["\x7d"]))

variable {frame : Frame}

/-- A line with a mark at its beginning that the frame does not begin with is a line of another kind. -/
theorem Frame.names_of_mark {mark text : String} (whole : '\n' ∉ text.toList) (marked : mark.toList <+: text.toList)
    (differs : ¬ mark.toList <+: frame.before.toList) (short : mark.toList.length ≤ frame.before.toList.length) :
    frame.names text = [] :=
  names_eq_nil whole fun starts => differs (List.prefix_of_prefix_length_le marked starts short)

theorem feed_not_mem_splitLines {text line : List Char} (member : line ∈ splitLines text) : '\n' ∉ line := by
  induction text generalizing line with
  | nil => cases member
  | cons c text ih =>
    rw [splitLines] at member
    split at member
    · rcases List.mem_cons.mp member with rfl | later
      · exact List.not_mem_nil
      · exact ih later
    · next inside =>
      split at member
      · rw [List.mem_singleton.mp member]
        simpa using Ne.symm inside
      · next first lines split_is =>
        rcases List.mem_cons.mp member with rfl | later
        · exact List.not_mem_cons_of_ne_of_not_mem (Ne.symm inside) (ih (split_is ▸ List.mem_cons_self))
        · exact ih (split_is ▸ List.mem_cons_of_mem _ later)

theorem feed_not_mem_descriptionLines {description : String} {line : List Char}
    (member : line ∈ descriptionLines description) : '\n' ∉ line := by
  unfold descriptionLines at member
  split at member
  · rw [List.mem_singleton.mp member]
    exact List.not_mem_nil
  · obtain ⟨text, inside, rfl⟩ := List.mem_map.mp member
    intro feed
    have kept := (List.dropWhile_sublist isBlank).subset (List.mem_reverse.mp feed)
    exact feed_not_mem_splitLines inside (List.mem_reverse.mp kept)

theorem feed_not_mem_commentLine {line : List Char} (whole : '\n' ∉ line) : '\n' ∉ (commentLine line).toList := by
  have mark_whole : '\n' ∉ commentMark.toList := by decide
  rw [toList_commentLine, List.mem_append, not_or]
  refine ⟨mark_whole, ?_⟩
  split
  · exact List.not_mem_nil
  · refine List.not_mem_cons_of_ne_of_not_mem (by decide) fun inside => ?_
    obtain ⟨c, member, feed⟩ := List.mem_flatMap.mp inside
    rcases toList_escapeMarkup c with same | ⟨-, spelled, spelled_is, spelled_whole⟩
    · rw [same, List.mem_singleton] at feed
      exact whole (feed ▸ member)
    · rw [spelled_is] at feed
      exact absurd (spelled_whole _ feed) (by decide)

/-- No line begins like the frame that is the same in every code, or stands between the brackets of a class. -/
structure Frame.IsOutside (frame : Frame) : Prop where
  header : frame.names header = []
  baseClass : frame.names baseClass = []
  manager : (managerOpening ++ managerClosing).all frame.isForeign = true
  brackets : ["\x7b", "", "    protected override void Parse(Dictionary<string, string> data)", "    \x7b", "    \x7d",
    "\x7d"].all frame.isForeign = true
  long : 11 ≤ frame.before.toList.length
  comment : ¬ commentMark.toList <+: frame.before.toList
  property : ¬ "    public ".toList <+: frame.before.toList
  named : ∀ c, isBlank c = false → ¬ "        ".toList ++ [c] <+: frame.before.toList
  unnamed : ¬ "         =".toList <+: frame.before.toList

theorem classFrame_isOutside : classFrame.IsOutside where
  header := Frame.names_unlines_of_isForeign (by decide +kernel)
  baseClass := by
    refine Frame.names_unlines_of_isForeign ?_
    simp only [List.all_cons, List.all_nil, Frame.isForeign, classFrame]
    repeat rw [String.toList_ofList]
    decide +kernel
  manager := by
    simp only [managerOpening, managerClosing, List.cons_append, List.nil_append, List.all_cons, List.all_nil, Frame.isForeign,
      classFrame]
    repeat rw [String.toList_ofList]
    decide +kernel
  brackets := by decide +kernel
  long := by decide +kernel
  comment := by decide +kernel
  property := by decide +kernel
  named c _ starts := absurd ((List.prefix_append "        ".toList [c]).trans starts) (by decide +kernel)
  unnamed := by decide +kernel

theorem caseFrame_isOutside : caseFrame.IsOutside where
  header := Frame.names_unlines_of_isForeign (by decide +kernel)
  baseClass := by
    refine Frame.names_unlines_of_isForeign ?_
    simp only [List.all_cons, List.all_nil, Frame.isForeign, caseFrame]
    repeat rw [String.toList_ofList]
    decide +kernel
  manager := by
    simp only [managerOpening, managerClosing, List.cons_append, List.nil_append, List.all_cons, List.all_nil, Frame.isForeign,
      caseFrame]
    repeat rw [String.toList_ofList]
    decide +kernel
  brackets := by decide +kernel
  long := by decide +kernel
  comment := by decide +kernel
  property := by decide +kernel
  named c visible starts := by
    have blank : isBlank ' ' = true := by decide +kernel
    obtain ⟨rest, split⟩ := starts
    have behind : caseFrame.before.toList = "        ".toList ++ ' ' :: caseFrame.before.toList.drop 9 := by decide +kernel
    rw [behind, List.append_assoc] at split
    have same : c = ' ' := (List.cons.inj (List.append_cancel_left split)).1
    rw [same, blank] at visible
    cases visible
  unnamed := by decide +kernel

namespace Frame.IsOutside

variable {property : Property} {schema : Schema}

theorem names_summary (outside : frame.IsOutside) (description : String) : frame.names (summary description) = [] := by
  have of_comment {text : String} (whole : '\n' ∉ text.toList) (marked : commentMark.toList <+: text.toList) :
      frame.names text = [] :=
    names_of_mark whole marked outside.comment (Nat.le_trans (by decide) outside.long)
  rw [summary, names_unlines, List.flatMap_eq_nil_iff]
  simp only [List.forall_mem_append, List.forall_mem_cons, List.forall_mem_map, List.not_mem_nil, false_implies,
    implies_true, and_true]
  refine ⟨⟨of_comment (by decide) (by decide +kernel), fun line member => ?_⟩, of_comment (by decide) (by decide +kernel)⟩
  refine of_comment (feed_not_mem_commentLine (feed_not_mem_descriptionLines member)) ?_
  rw [toList_commentLine]
  exact List.prefix_append _ _

theorem names_declaration (outside : frame.IsOutside) (clear : '\n' ∉ property.name.toList) :
    frame.names (declaration property) = [] := by
  have whole : '\n' ∉ (propertyLine property).toList := by
    have type_whole : '\n' ∉ property.type.name.toList := by cases property.type <;> decide +kernel
    simp only [propertyLine, String.toList_append, List.mem_append, not_or]
    exact ⟨⟨⟨⟨by decide, type_whole⟩, by decide⟩, clear⟩, by decide⟩
  have marked : "    public ".toList <+: (propertyLine property).toList := by
    simp only [propertyLine, String.toList_append, List.append_assoc]
    exact List.prefix_append _ _
  rw [declaration_eq, names_feed, outside.names_summary,
    names_of_mark whole marked outside.property (Nat.le_trans (by decide) outside.long), List.append_nil]

theorem names_assignment (outside : frame.IsOutside) (clear : ∀ c ∈ property.name.toList, isBlank c = false) :
    frame.names (assignment property) = [] := by
  refine names_eq_nil (feed_not_mem_assignment clear) fun starts => ?_
  have long := outside.long
  cases name : property.name.toList with
  | nil =>
    refine outside.unnamed (List.prefix_of_prefix_length_le ?_ starts (Nat.le_trans (by decide) long))
    simp [assignment, name]
  | cons c rest =>
    have visible : isBlank c = false := clear c (by simp [name])
    refine outside.named c visible (List.prefix_of_prefix_length_le ?_ starts (Nat.le_trans (by simp) long))
    simp [assignment, name]

/-- Of the lines of a class only the first can be one of the frame. -/
theorem names_tableClass (outside : frame.IsOutside)
    (clear : ∀ property, ∀ c ∈ (schema.propertyAt property).name.toList, isBlank c = false) :
    frame.names (tableClass schema) = frame.names (classFrame.line schema.name) := by
  have brackets : ∀ text ∈ ["\x7b", "", "    protected override void Parse(Dictionary<string, string> data)", "    \x7b",
      "    \x7d", "\x7d"], frame.names text = [] :=
    fun text member => names_of_isForeign (List.all_eq_true.mp outside.brackets text member)
  simp only [List.forall_mem_cons, List.not_mem_nil, false_implies, implies_true, and_true] at brackets
  have feed_clear (property : Fin schema.columnCount) : '\n' ∉ (schema.propertyAt property).name.toList := fun inside =>
    absurd (clear property _ inside) (by decide +kernel)
  have declarations : frame.names (String.intercalate "\n\n" ((schema.valueProperties.map schema.propertyAt).map declaration)) =
      [] := by
    rw [names_blocks, List.flatMap_eq_nil_iff]
    simp only [List.forall_mem_map]
    exact fun property _ => outside.names_declaration (feed_clear property)
  have assignments : frame.names (unlines ((schema.valueProperties.map schema.propertyAt).map assignment)) = [] := by
    rw [names_unlines, List.flatMap_eq_nil_iff]
    simp only [List.forall_mem_map]
    exact fun property _ => outside.names_assignment (clear property)
  have first : "public class " ++ schema.name ++ " : GameTable<" ++ schema.name ++ ">" = classFrame.line schema.name := rfl
  rw [tableClass, first, names_unlines]
  simp only [List.flatMap_cons, List.flatMap_nil, brackets, declarations, assignments, List.append_nil]

/-- The lines of the code that can be of the frame are the first lines of classes, and the lines of cases. -/
theorem names_generate (outside : frame.IsOutside) {schemas sheets : List Schema} (kept : firstOfName [] schemas = sheets)
    (clear : ∀ sheet ∈ sheets, ∀ property, ∀ c ∈ (sheet.propertyAt property).name.toList, isBlank c = false) :
    frame.names (generate schemas) = sheets.flatMap (fun sheet => frame.names (classFrame.line sheet.name)) ++
      sheets.flatMap (fun sheet => frame.names (caseFrame.line sheet.name)) := by
  have lines_clear : ∀ line ∈ managerOpening ++ managerClosing, frame.names line = [] := fun line member =>
    names_of_isForeign (List.all_eq_true.mp outside.manager line member)
  obtain ⟨opening, closing⟩ := List.forall_mem_append.mp lines_clear
  have classes : frame.names (String.intercalate "\n\n" (sheets.map tableClass)) =
      sheets.flatMap fun sheet => frame.names (classFrame.line sheet.name) := by
    rw [names_blocks, List.flatMap_map]
    exact List.flatMap_congr fun sheet member => outside.names_tableClass (clear sheet member)
  have manager : frame.names (managerClass sheets) = sheets.flatMap fun sheet => frame.names (caseFrame.line sheet.name) := by
    rw [managerClass, names_unlines, List.flatMap_append, List.flatMap_append, List.flatMap_eq_nil_iff.mpr opening,
      List.flatMap_eq_nil_iff.mpr closing, List.flatMap_map, List.nil_append, List.append_nil]
    rfl
  rw [generate, kept, names_blocks]
  simp only [List.flatMap_cons, List.flatMap_nil, outside.header, outside.baseClass, classes, manager, List.append_nil,
    List.nil_append]

end Frame.IsOutside

/-- The code has a class for every name and nothing else in the lines of classes, and the same in the lines of cases. -/
theorem names_of_sheets {schemas sheets : List Schema} (kept : firstOfName [] schemas = sheets)
    (clear : ∀ sheet ∈ sheets, ∀ property, ∀ c ∈ (sheet.propertyAt property).name.toList, isBlank c = false)
    (whole : ∀ sheet ∈ sheets, '\n' ∉ sheet.name.toList) :
    classFrame.names (generate schemas) = sheets.map Schema.name ∧
      caseFrame.names (generate schemas) = sheets.map Schema.name := by
  have case_in_class : ∀ sheet ∈ sheets, caseFrame.names (classFrame.line sheet.name) = [] := fun sheet member =>
    Frame.names_of_mark (Frame.feed_not_mem_line (whole sheet member)) (Frame.before_prefix_line sheet.name)
      (by decide +kernel) (by decide +kernel)
  have class_in_case : ∀ sheet ∈ sheets, classFrame.names (caseFrame.line sheet.name) = [] := fun sheet member => by
    have blank : " ".toList <+: caseFrame.before.toList := by decide +kernel
    exact Frame.names_of_mark (Frame.feed_not_mem_line (whole sheet member))
      (blank.trans (Frame.before_prefix_line sheet.name)) (by decide +kernel) (by decide +kernel)
  have said (frame : Frame) : sheets.flatMap (fun sheet => frame.names (frame.line sheet.name)) = sheets.map Schema.name := by
    rw [List.flatMap_congr fun sheet member => Frame.names_line (whole sheet member), List.map_eq_flatMap]
  rw [classFrame_isOutside.names_generate kept clear, caseFrame_isOutside.names_generate kept clear,
    List.flatMap_eq_nil_iff.mpr case_in_class, List.flatMap_eq_nil_iff.mpr class_in_case, said, said, List.append_nil,
    List.nil_append]
  exact ⟨rfl, rfl⟩

theorem generate_of_sheets {schemas sheets : List Schema} (kept : firstOfName [] schemas = sheets) : generate schemas =
    String.intercalate "\n\n" [header, baseClass, String.intercalate "\n\n" (sheets.map tableClass),
      unlines (managerOpening ++ (sheets.map Schema.name).map caseFrame.line ++ managerClosing)] := by
  rw [generate, kept, List.map_map]
  rfl

theorem declares_tableClass (schema : Schema) : Declares schema.name (tableClass schema) := by
  have first : "public class " ++ schema.name ++ " : GameTable<" ++ schema.name ++ ">" = classFrame.line schema.name := rfl
  refine ⟨[String.intercalate "\n\n" ((schema.valueProperties.map schema.propertyAt).map declaration), "",
    "    protected override void Parse(Dictionary<string, string> data)", "    \x7b",
    unlines ((schema.valueProperties.map schema.propertyAt).map assignment), "    \x7d"], ?_⟩
  rw [tableClass, first]
  simp only [List.cons_append, List.nil_append]

/-- After a successful extraction, the code has a class and a case for every table, in the order of the tables. These are
the names of the sheets, each once, in the order in which they come first, and the class of a name is that of the first sheet
of the name. Where no name goes on behind a line feed, the names of the classes and those of the cases can be read off the
lines of the code. -/
theorem generate_covers_tables {schemas : List Schema} {tables : Tables} {catalog : KeyCatalog}
    (extracted : (Tables.extract schemas).run.run KeyCatalog.empty = (.ok tables, catalog)) :
    ∃ sheets : List Schema, (∀ sheet ∈ sheets, sheet.IsFirstOf schemas ∧ Declares sheet.name (tableClass sheet)) ∧
      sheets.map Schema.name = tables.keys ∧
      generate schemas = String.intercalate "\n\n" [header, baseClass, String.intercalate "\n\n" (sheets.map tableClass),
        unlines (managerOpening ++ tables.keys.map caseFrame.line ++ managerClosing)] ∧
      tables.keys = (schemas.map Schema.name).eraseDups ∧ tables.keys.Nodup ∧
      ((∀ schema ∈ schemas, schema.IsDiscovered) → (∀ name ∈ tables.keys, '\n' ∉ name.toList) →
        classFrame.names (generate schemas) = tables.keys ∧ caseFrame.names (generate schemas) = tables.keys) := by
  obtain ⟨-, rfl, rfl⟩ := Tables.extract_ok_iff.mp extracted
  have named : (firstOfName [] schemas).map Schema.name = (Tables.ofSchemas schemas).keys := by
    rw [map_name_firstOfName, Tables.keys_ofSchemas]
    simp
  refine ⟨firstOfName [] schemas, ?_, named, ?_, Tables.keys_ofSchemas schemas, OrderedBy.nodup_keys _, ?_⟩
  · intro sheet member
    exact ⟨(mem_firstOfName.mp member).2, declares_tableClass sheet⟩
  · rw [← named]
    exact generate_of_sheets rfl
  · intro discovered whole
    rw [← named] at whole ⊢
    refine names_of_sheets rfl (fun sheet member => ?_) fun sheet member => whole _ (List.mem_map_of_mem member)
    obtain ⟨before, after, split, -⟩ := (mem_firstOfName.mp member).2
    exact (discovered sheet (by simp [split])).not_blank

/-- Two sheets of one name have one class, that of the first, and one case. -/
theorem generate_covers_items : ∃ tables catalog,
    (Tables.extract [Item.sword.schema, Tables.shield.schema]).run.run KeyCatalog.empty = (.ok tables, catalog) ∧
      tables.keys = ["Item"] ∧ Declares "Item" (tableClass Item.sword.schema) ∧
      generate [Item.sword.schema, Tables.shield.schema] = String.intercalate "\n\n" [header, baseClass,
        tableClass Item.sword.schema, unlines (managerOpening ++ caseFrame.line "Item" :: managerClosing)] ∧
      classFrame.names (generate [Item.sword.schema, Tables.shield.schema]) = ["Item"] ∧
      caseFrame.names (generate [Item.sword.schema, Tables.shield.schema]) = ["Item"] := by
  have proper : ∀ item ∈ [Item.sword, Tables.shield], item.IsProper := by
    simp [Item.sword_isProper, Tables.shield_isProper]
  have discovered := Tables.itemSheets_discovered proper
  have extracted := Tables.extract_ok_iff.mpr ⟨Tables.itemSheets_valid proper (by decide), rfl, rfl⟩
  obtain ⟨sheets, firsts, named, code, keys, -, read⟩ := generate_covers_tables extracted
  have one_key : (Tables.ofSchemas ([Item.sword, Tables.shield].map Item.schema)).keys = ["Item"] := keys
  rw [one_key] at named code read
  obtain ⟨sheet, rfl, sheet_name⟩ := List.map_eq_singleton_iff.mp named
  obtain ⟨⟨before, after, split, apart⟩, declares⟩ := firsts sheet (by simp)
  have first : sheet = Item.sword.schema := by
    rcases List.cons_eq_append_iff.mp split with ⟨rfl, same⟩ | ⟨before, rfl, -⟩
    · exact (List.cons.inj same).1
    · exact absurd sheet_name.symm (apart Item.sword.schema List.mem_cons_self)
  subst first
  rw [sheet_name] at declares
  exact ⟨_, _, extracted, one_key, declares, code, read discovered (by decide)⟩

end Accessor

end Tablesmith
