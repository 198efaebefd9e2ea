import Mathlib
import Tablesmith.Proofs.Run.Documents

/-!
# Refused runs

A run is refused if its settings, its key or what the workbooks say do not pass a
check. Whatever is checked is checked before documents are written: no part that
writes ever refuses (`NeverRefuses`), and the checks only look and tell (`OnlyReads`).
So a refused run leaves every document as it was; at most it has written the accessor
code (`run_refused`).
-/

namespace Tablesmith

open Files Running Steps

variable {α β : Type} {settings : Settings} {policy : OrphanPolicy} {order : WriteOrder} {product : Product}
  {cipher : Option DocumentCipher} {collection : Collection} {session last : Session} {reason : Failure}

/-- The part stops for a reason and leaves a session. -/
abbrev Running.Stops (part : Running (StateM Session) α) (session : Session) (reason : Failure) (last : Session) : Prop :=
  part.run.run session = (.error reason, last)

/-- A check failed: of the settings, of the key, of the table directory or of what the workbooks say. -/
def Failure.IsRefusal : Failure → Prop
  | .fault _ | .missingSetting _ | .unknownType _ | .cipher _ | .tablesMissing _ | .noWorkbooks _ => True
  | .outputMissing _ | .workbook _ | .file _ | .notJson | .inFile _ _ => False

/-- The part may stop, but not because of a check. -/
def NeverRefuses (part : Running (StateM Session) α) : Prop :=
  ∀ session last reason, Stops part session reason last → ¬ reason.IsRefusal

namespace NeverRefuses

theorem pure (value : α) : NeverRefuses (pure value : Running (StateM Session) α) := by
  intro session last reason failed
  cases failed

theorem throw {reason : Failure} (no_refusal : ¬ reason.IsRefusal) :
    NeverRefuses (throw reason : Running (StateM Session) α) := by
  intro session last other failed
  cases failed
  exact no_refusal

theorem lift (step : StateM Session α) : NeverRefuses (liftM step : Running (StateM Session) α) := by
  intro session last reason failed
  cases failed

theorem tell (report : Report) : NeverRefuses (Running.tell report : Running (StateM Session) Unit) := by
  intro session last reason failed
  cases failed

theorem ofFile (operation : StateM Session (Except FileError α)) :
    NeverRefuses (Running.ofFile operation : Running (StateM Session) α) := by
  intro session last reason failed
  rw [Stops, run_ofFile] at failed
  cases outcome : (operation.run session).1 with
  | error error =>
    rw [outcome] at failed
    cases failed
    exact not_false
  | ok value =>
    rw [outcome] at failed
    cases failed

theorem ofResult {ε : Type} {reason : ε → Failure} {result : Except ε α} {value : α} (passed : result = .ok value) :
    NeverRefuses (Running.ofResult reason result : Running (StateM Session) α) := by
  intro session last other failed
  rw [Stops, run_ofResult, passed] at failed
  cases failed

theorem bind {part : Running (StateM Session) α} {next : α → Running (StateM Session) β} (first : NeverRefuses part)
    (rest : ∀ value, NeverRefuses (next value)) : NeverRefuses (part >>= next) := by
  intro session last reason failed
  rcases bind_error_iff.mp failed with stopped | ⟨value, middle, _, stopped⟩
  · exact first session last reason stopped
  · exact rest value middle last reason stopped

theorem forM {step : α → Running (StateM Session) Unit} (items : List α) (never : ∀ item, NeverRefuses (step item)) :
    NeverRefuses (items.forM step) := by
  induction items with
  | nil => exact pure ()
  | cons item items ih => exact (never item).bind fun _ => ih

theorem filterM {step : α → Running (StateM Session) Bool} (items : List α) (never : ∀ item, NeverRefuses (step item)) :
    NeverRefuses (items.filterM step) := by
  have loop (kept : List α) : NeverRefuses (items.filterAuxM step kept) := by
    induction items generalizing kept with
    | nil => exact pure kept
    | cons item items ih => exact (never item).bind fun _ => ih _
  exact (loop []).bind fun _ => pure _

/-- The first reason counts, and neither of them is a refusal. -/
theorem both {main other : Running (StateM Session) Unit} (main_never : NeverRefuses main)
    (other_never : NeverRefuses other) : NeverRefuses (both order main other) := by
  have either {start ready : Session} {reason : Failure}
      (failed : (main.run.run start).1.bind (fun _ => (other.run.run ready).1) = .error reason) : ¬ reason.IsRefusal := by
    rcases first : main.run.run start with ⟨found | ⟨⟩, middle⟩
    · rw [first] at failed
      cases failed
      exact main_never start middle reason first
    · rw [first] at failed
      exact other_never ready _ reason (Prod.ext failed rfl)
  intro session last reason failed
  cases order with
  | tablesFirst =>
    have outcome : (main.run.run session).1.bind (fun _ => (other.run.run (main.run.run session).2).1) = .error reason :=
      congrArg Prod.fst failed
    exact either outcome
  | languagesFirst =>
    have outcome : (main.run.run (other.run.run session).2).1.bind (fun _ => (other.run.run session).1) = .error reason :=
      congrArg Prod.fst failed
    exact either outcome

end NeverRefuses

theorem neverRefuses_needDirectory (directory : String) :
    NeverRefuses (needDirectory directory : Running (StateM Session) Unit) := by
  refine (NeverRefuses.lift _).bind fun present => ?_
  split
  · exact NeverRefuses.pure _
  · exact NeverRefuses.throw not_false

theorem neverRefuses_saveOutputs (directory : String) (cipher : Option DocumentCipher) (policy : OrphanPolicy)
    (outputs : List Output) : NeverRefuses (saveOutputs directory cipher policy outputs : Running (StateM Session) Unit) := by
  have finds : NeverRefuses (findOrphans directory (outputs.map (·.stem)) : Running (StateM Session) (List String)) := by
    unfold findOrphans
    split
    · exact NeverRefuses.pure _
    · refine (NeverRefuses.lift _).bind fun present => ?_
      split
      · exact (NeverRefuses.ofFile _).bind fun names => NeverRefuses.pure _
      · exact NeverRefuses.pure _
  have resolves (path : String) : NeverRefuses (resolveOrphan policy path : Running (StateM Session) Bool) := by
    refine (NeverRefuses.lift _).bind fun deletes => ?_
    split
    · exact (NeverRefuses.ofFile _).bind fun _ => (NeverRefuses.tell _).bind fun _ => NeverRefuses.pure _
    · exact (NeverRefuses.tell _).bind fun _ => NeverRefuses.pure _
  have saves (output : Output) : NeverRefuses (output.save directory cipher : Running (StateM Session) Unit) :=
    (NeverRefuses.ofFile _).bind fun _ => NeverRefuses.tell _
  have sweeps : NeverRefuses (resolveOrphans directory (outputs.map (·.stem)) policy :
      Running (StateM Session) (List String)) := finds.bind fun paths => NeverRefuses.filterM paths resolves
  exact sweeps.bind fun _ => NeverRefuses.forM outputs saves

/-- A setting that a run needs is there once the settings were checked. -/
theorem Settings.exists_require {setting : Setting} (checked : settings.check product = .ok ())
    (needed : setting ∈ product.required) : ∃ value, settings.require setting = .ok value := by
  have passed := Outcome.forM_ok_iff.mp checked setting needed
  obtain ⟨value, found, _⟩ := Outcome.bind_ok_iff.mp passed
  exact ⟨value, found⟩

/-- There are only results of the kinds that the product has. -/
structure Extracted.Fits (product : Product) (extracted : Extracted) : Prop where
  tables : extracted.tables.isSome = true → product.hasTables = true
  languages : extracted.languages.isSome = true → product.hasStrings = true

theorem neverRefuses_saveExtracted {extracted : Extracted} (checked : settings.check product = .ok ())
    (fits : extracted.Fits product) :
    NeverRefuses (saveExtracted settings cipher policy order extracted : Running (StateM Session) Unit) := by
  obtain ⟨tables, languages⟩ := extracted
  refine NeverRefuses.both ?_ ?_
  · cases tables with
    | none => exact NeverRefuses.pure ()
    | some tables =>
      have needed : Setting.tableOutputPath ∈ product.required := by simp [Product.required, fits.tables rfl]
      obtain ⟨directory, required⟩ := Settings.exists_require checked needed
      refine (NeverRefuses.ofResult required).bind fun directory => (NeverRefuses.tell _).bind fun _ => ?_
      exact (neverRefuses_needDirectory directory).bind fun _ => neverRefuses_saveOutputs directory cipher policy _
  · cases languages with
    | none => exact NeverRefuses.pure ()
    | some languages =>
      have needed : Setting.stringOutputPath ∈ product.required := by simp [Product.required, fits.languages rfl]
      obtain ⟨directory, required⟩ := Settings.exists_require checked needed
      refine (NeverRefuses.ofResult required).bind fun directory => (NeverRefuses.tell _).bind fun _ => ?_
      exact (NeverRefuses.ofFile _).bind fun _ => neverRefuses_saveOutputs directory cipher policy _

theorem neverRefuses_runScript (checked : settings.check product = .ok ()) (has_script : product.hasScript = true)
    (collection : Collection) : NeverRefuses (runScript settings collection : Running (StateM Session) Unit) := by
  have needed : Setting.scriptOutputPath ∈ product.required := by simp [Product.required, has_script]
  obtain ⟨directory, required⟩ := Settings.exists_require checked needed
  have saves (directory : String) :
      NeverRefuses (saveCode collection.tables directory : Running (StateM Session) String) :=
    (neverRefuses_needDirectory directory).bind fun _ => (NeverRefuses.ofFile _).bind fun _ => NeverRefuses.pure _
  exact (NeverRefuses.ofResult required).bind fun directory => (saves directory).bind fun _ => NeverRefuses.tell _

theorem extract_fits {extracted : Extracted} (ran : Ends (extract product collection) session extracted last) :
    extracted.Fits product := by
  obtain ⟨_, tables, languages⟩ := extract_steps ran
  constructor
  · intro some_tables
    by_contra no_tables
    rw [if_neg no_tables] at tables
    rw [tables] at some_tables
    cases some_tables
  · intro some_languages
    by_contra no_strings
    rw [if_neg no_strings] at languages
    rw [languages] at some_languages
    cases some_languages

/-- A refused run has changed nothing, or it was for everything and has written the accessor code. -/
theorem run_refused_tree (ran : Stops (run settings policy order product) session reason last)
    (refusal : reason.IsRefusal) : last.tree = session.tree ∨ product = .all ∧ ∃ directory route code,
      settings.require .scriptOutputPath = .ok directory ∧
      session.tree.locate (Path.join directory Accessor.fileName) = .ok route ∧
      session.tree.hasDirectory route = false ∧ last.tree = session.tree.put route (.file code) := by
  rw [run_eq] at ran
  rcases bind_error_iff.mp ran with stopped | ⟨⟨⟩, started, told, after_start⟩
  · cases stopped
  have started_tree : started.tree = session.tree := (OnlyReads.tell _).tree_eq told
  rcases bind_error_iff.mp after_start with stopped | ⟨⟨⟩, ready, checks, after_checks⟩
  · exact Or.inl (((OnlyReads.ofResult _ _).tree_eq stopped).trans started_tree)
  obtain ⟨checked, rfl⟩ := ofResult_ok_iff.mp checks
  rcases bind_error_iff.mp after_checks with stopped | ⟨cipher, keyed, ciphers, after_key⟩
  · exact Or.inl (((OnlyReads.ofResult _ _).tree_eq stopped).trans started_tree)
  obtain ⟨_, rfl⟩ := ofResult_ok_iff.mp ciphers
  rcases bind_error_iff.mp after_key with stopped | ⟨collection, collected, collects, after_collecting⟩
  · exact Or.inl (((OnlyReads.collect settings).tree_eq stopped).trans started_tree)
  have collected_tree : collected.tree = session.tree :=
    ((OnlyReads.collect settings).tree_eq collects).trans started_tree
  rcases bind_error_iff.mp after_collecting with stopped | ⟨⟨⟩, scripted, scripts, after_script⟩
  · -- The accessor code cannot be written, but that is no refusal.
    split at stopped
    · next has_script => exact absurd refusal (neverRefuses_runScript checked has_script collection _ _ _ stopped)
    · cases stopped
  rcases bind_error_iff.mp after_script with stopped | ⟨extracted, ended, extracts, after_extracting⟩
  · have last_tree : last.tree = scripted.tree := (OnlyReads.extract product collection).tree_eq stopped
    split at scripts
    · next has_script =>
      obtain ⟨directory, route, required, located, free, tree⟩ := runScript_ok scripts
      have everything : product = .all := by
        cases product with
        | all => rfl
        | script => cases stopped
        | table => cases has_script
        | string => cases has_script
      rw [collected_tree] at located free tree
      exact Or.inr ⟨everything, directory, route, _, required, located, free, last_tree.trans tree⟩
    · obtain ⟨_, rfl⟩ := pure_ok_iff.mp scripts
      exact Or.inl (last_tree.trans collected_tree)
  -- Everything was checked.
  rcases bind_error_iff.mp after_extracting with stopped | ⟨⟨⟩, saved, _, completes⟩
  · exact absurd refusal (neverRefuses_saveExtracted checked (extract_fits extracts) _ _ _ stopped)
  · cases completes

/-- A refused run makes no directory and leaves every document as it was. It changes nothing at all, unless it was for
everything; then the accessor code may be written. -/
theorem run_refused (ran : Stops (run settings policy order product) session reason last)
    (refusal : reason.IsRefusal) :
    FileTree.SameDirectories session.tree last.tree ∧
      (∀ parent name, documentEnding.toList <:+ name.toList →
        last.tree.entry? (parent ++ [name]) = session.tree.entry? (parent ++ [name])) ∧
      (product ≠ .all → last.tree = session.tree) ∧
      ∀ place, last.tree.entry? place ≠ session.tree.entry? place → ∃ directory,
        settings.require .scriptOutputPath = .ok directory ∧
        session.tree.locate (Path.join directory Accessor.fileName) = .ok place := by
  rcases run_refused_tree ran refusal with same | ⟨rfl, directory, route, code, required, located, free, tree⟩
  · rw [same]
    exact ⟨FileTree.SameDirectories.refl _, fun _ _ _ => rfl, fun _ => rfl, fun _ changed => absurd rfl changed⟩
  · have below : route ≠ [] := FileTree.ne_root_of_not_directory free
    have proper : Path.IsName Accessor.fileName := by decide
    obtain ⟨parent, _, _, _, _, rfl⟩ := (FileTree.locate_join_ok_iff proper).mp located
    rw [tree]
    refine ⟨FileTree.sameDirectories_put free, ?_, fun other => absurd rfl other, ?_⟩
    · intro folder name ending
      have elsewhere : folder ++ [name] ≠ parent ++ [Accessor.fileName] := by
        intro same
        obtain ⟨_, same_name⟩ := List.append_inj' same rfl
        cases same_name
        exact absurd ending (by decide)
      rw [FileTree.entry?_put below, if_neg elsewhere]
    · intro place changed
      rw [FileTree.entry?_put below] at changed
      split at changed
      · next here => exact ⟨directory, required, here ▸ located⟩
      · exact absurd rfl changed

theorem extractLanguages_stops (collection : Collection) {fault : Fault}
    (failed : Languages.extract collection.strings = .error fault) (session : Session) :
    ∃ last, Stops (extractLanguages collection) session (.fault fault) last := by
  have stops (start : Session) :
      Stops (ofResult .fault (Languages.extract collection.strings)) start (.fault fault) start := by
    rw [Stops, run_ofResult, failed]
    rfl
  unfold extractLanguages
  dsimp only
  split
  · exact ⟨_, bind_error_iff.mpr (Or.inr ⟨(), _, rfl, bind_error_iff.mpr (Or.inl (stops _))⟩)⟩
  · exact ⟨session, bind_error_iff.mpr (Or.inl (stops session))⟩

namespace BareRun

open Discovery Grid Ooxml Xml Zip

/-- The texts of a sheet that has a name and no columns. The name holds the second marker. -/
def texts : List (Nat × Nat × String) :=
  [(0, 0, "@"), (0, 1, "../@")]

def sheet : Sheet :=
  Sheet.ofTexts "tables/Items.xlsx" "Item" texts

def schema : Schema :=
  schemaOf "Items" sheet "../@" ⟨0, 1⟩ #v[]

def worksheet : List UInt8 :=
  name "<worksheet><sheetData>" ++ SwordRun.cell "A1" "@" ++ SwordRun.cell "B1" "../@" ++
    name "</sheetData></worksheet>"

def workbook : ByteArray :=
  ⟨(store (filesOf SwordRun.relationship SwordRun.tab worksheet)).toArray⟩

/-- The workbook and an empty directory for output. -/
def tree : FileTree where
  entries := [(["tables"], .directory), (["tables", "Items.xlsx"], .file workbook), (["out"], .directory)]
  home := []
  distinct := by decide

def start : Session :=
  Session.start tree fun _ => false

theorem discover_sheet : Schema.discover "Items" sheet .builtin = .ok schema := by
  have first : (texts.map Sheet.textCell).filter (·.row = Schema.nameRow) = texts.map Sheet.textCell := rfl
  have first_row : sheet.row Schema.nameRow = texts.map Sheet.textCell := by
    rw [Sheet.row, sheet, Sheet.toList_cells_ofTexts (by decide), first]
    exact List.mergeSort_of_pairwise (by simp [texts, Sheet.textCell])
  have ranged {place : Location} : range sheet place = .ok ⟨0, 1⟩ := by
    rw [range, markedColumns, first_row]
    rfl
  have named {place : Location} : sheetName sheet place = .ok "../@" := by
    have text : sheet.text Schema.nameRow Schema.nameColumn = "../@" := by
      rw [sheet, Sheet.text_ofTexts]
      rfl
    have is_text : sheet.isText Schema.nameRow Schema.nameColumn = true := by
      rw [sheet, Sheet.isText_ofTexts]
      rfl
    have not_blank : Text.isAllBlank "../@" = false := by decide +kernel
    simp [sheetName, text, is_text, not_blank]
  refine Schema.discover_ok_iff.mpr ⟨"../@", ⟨0, 1⟩, #v[], named, ranged, ?_, ?_, ?_, rfl⟩
  · intro property inside
    exact absurd inside (by simp [Range.columnCount])
  · intro property
    exact absurd property.isLt (by simp [Range.columnCount])
  · intro property inside
    exact absurd inside (by simp [Range.columnCount])

theorem ofBytes_workbook : Workbook.ofBytes "tables/Items.xlsx" workbook.data.toList =
    .ok ⟨"tables/Items.xlsx", [sheet]⟩ := by
  have short : worksheet.length < 256 ^ 2 := by decide +kernel
  have whole : (Document.ofBytes worksheet false).isWhole = true := by decide +kernel
  have stored : Worksheet.stored #[] (Worksheet.start (.empty "tables/Items.xlsx" "Item"))
      (Document.ofBytes worksheet false).events = .ok (texts.map Sheet.textCell) := by
    decide +kernel
  exact SwordRun.ofBytes_texts short whole stored (by decide)

/-- The sheet is collected, for tables or for strings as the settings say. -/
theorem ofSettings_ends {session : Session} (same : session.tree = tree) (tables : settings.tablePath = some "tables")
    (builtin : settings.typeAliasPath = none) (no_enums : settings.enumFileName = none) :
    ∃ last, Ends (Collection.ofSettings settings) session
      (Collection.empty.add (settings.stringFileName = some "Items") [schema]) last ∧ last.tree = tree := by
  have required : settings.require .tablePath = .ok "tables" := by simp [Settings.require, Settings.get?, tables]
  have there : session.tree.isDirectory "tables" = true := same ▸ rfl
  have listing : Path.listing? "tables" = some "tables" := rfl
  have listed : session.tree.filesUnder "tables" = .ok [["Items.xlsx"]] := same ▸ rfl
  have found : (workbookRoutes [["Items.xlsx"]]).map (Path.listed "tables") = ["tables/Items.xlsx"] := by decide +kernel
  have read : session.tree.read "tables/Items.xlsx" = .ok workbook := same ▸ rfl
  have no_enum : settings.enumFileName ≠ some (Path.stem "tables/Items.xlsx") := by simp [no_enums]
  have stem : Path.stem "tables/Items.xlsx" = "Items" := by decide
  have discovered : (Schema.ofWorkbook ⟨"tables/Items.xlsx", [sheet]⟩ .builtin).2 = .ok [schema] := by
    have workbook_stem : Workbook.stem ⟨"tables/Items.xlsx", [sheet]⟩ = "Items" := rfl
    rw [Schema.ofWorkbook, workbook_stem, Schema.discoverAll, discover_sheet]
    rfl
  obtain ⟨last, ran⟩ := Collection.ofSettings_ends required builtin there listing listed found no_enum read
    ofBytes_workbook discovered
  rw [stem] at ran
  exact ⟨last, ran, ((OnlyReads.collect settings).tree_eq ran).trans same⟩

/-- The workbook is for strings, and all output goes to one directory. -/
def setup : Settings where
  tablePath := some "tables"
  stringFileName := some "Items"
  enumFileName := none
  scriptOutputPath := some "out"
  tableOutputPath := some "out"
  stringOutputPath := some "out"
  encryptionKey := none
  typeAliasPath := none

/-- The sheet has no primary key, which a sheet of strings needs. -/
def keyMissing : Fault :=
  ⟨Location.ofSheet "Items" "../@", .stringKeyMissing⟩

theorem extract_stops (session : Session) :
    ∃ last, Stops (extract .all ⟨[], [schema]⟩) session (.fault keyMissing) last := by
  have tables : ((Tables.extract (Collection.mk [] [schema]).tables).run.run KeyCatalog.empty).1 = .ok OrderedBy.empty := rfl
  have languages : Languages.extract [schema] = .error keyMissing := by
    have no_columns (key : Fin schema.columnCount) : False := Fin.elim0 (show Fin 0 from key)
    have key_missing : schema.stringKey = .error keyMissing := by
      rw [Schema.stringKey]
      split
      · next key _ => exact (no_columns key).elim
      · rfl
    have named : Languages.names [schema] = .error keyMissing := by
      rw [Languages.names, List.foldlM_cons, Languages.addNames, key_missing]
      rfl
    rw [Languages.extract, named]
    rfl
  obtain ⟨middle, extracted, _⟩ : ∃ last, Ends (extractTables ⟨[], [schema]⟩) session OrderedBy.empty last ∧ _ :=
    extractTables_ends tables session
  obtain ⟨last, stopped⟩ := extractLanguages_stops ⟨[], [schema]⟩ languages middle
  refine ⟨last, ?_⟩
  rw [Stops, extract_eq]
  refine bind_error_iff.mpr (Or.inr ⟨some OrderedBy.empty, middle, bind_ok_iff.mpr ⟨_, middle, extracted, rfl⟩, ?_⟩)
  exact bind_error_iff.mpr (Or.inl (bind_error_iff.mpr (Or.inl stopped)))

/-- The run writes the accessor code before it is refused. -/
theorem stops (policy : OrphanPolicy) :
    ∃ last, Stops (run setup policy .tablesFirst .all) start (.fault keyMissing) last ∧
      last.tree = tree.put ["out", "GameTables.cs"] (.file (Accessor.generate []).toUTF8) := by
  have told : Ends (Running.tell (.info "Starting all extraction")) start ()
      { start with reports := [.info "Starting all extraction"] } := rfl
  obtain ⟨collected, collects, same⟩ : ∃ collected, Ends (Collection.ofSettings setup)
      { start with reports := [.info "Starting all extraction"] } ⟨[], [schema]⟩ collected ∧ collected.tree = tree :=
    ofSettings_ends rfl rfl rfl rfl
  have there : collected.tree.isDirectory "out" = true := same ▸ rfl
  have located : collected.tree.locate (Path.join "out" Accessor.fileName) = .ok ["out", "GameTables.cs"] := same ▸ rfl
  have free : collected.tree.hasDirectory ["out", "GameTables.cs"] = false := same ▸ rfl
  obtain ⟨scripted, scripts, scripted_tree⟩ : ∃ last, Ends (runScript setup ⟨[], [schema]⟩) collected () last ∧ _ :=
    runScript_ends rfl there located free
  obtain ⟨last, stopped⟩ := extract_stops scripted
  refine ⟨last, ?_, ?_⟩
  · rw [Stops, run_eq]
    refine bind_error_iff.mpr (Or.inr ⟨(), _, told, bind_error_iff.mpr (Or.inr ⟨(), _, rfl, ?_⟩)⟩)
    refine bind_error_iff.mpr (Or.inr ⟨none, _, rfl, bind_error_iff.mpr (Or.inr ⟨_, collected, collects, ?_⟩)⟩)
    exact bind_error_iff.mpr (Or.inr ⟨(), scripted, scripts, bind_error_iff.mpr (Or.inl stopped)⟩)
  · rw [(OnlyReads.extract .all ⟨[], [schema]⟩).tree_eq stopped, scripted_tree, same]

end BareRun

/-- The run for everything is refused when the accessor code is there, and that is all that has changed. -/
theorem run_refused_bare : ∃ last,
    Stops (run BareRun.setup .delete .tablesFirst .all) BareRun.start (.fault BareRun.keyMissing) last ∧
      last.tree.hasFile ["out", "GameTables.cs"] = true ∧ FileTree.SameDirectories BareRun.start.tree last.tree ∧
      ∀ place, last.tree.entry? place ≠ BareRun.start.tree.entry? place → place = ["out", "GameTables.cs"] := by
  obtain ⟨last, stopped, tree⟩ := BareRun.stops .delete
  obtain ⟨same, _, _, changes⟩ := run_refused stopped trivial
  refine ⟨last, stopped, tree ▸ rfl, same, fun place changed => ?_⟩
  obtain ⟨directory, required, located⟩ := changes place changed
  cases required
  cases located
  rfl

end Tablesmith
