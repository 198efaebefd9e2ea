import Mathlib
import Tablesmith.Proofs.Extract.Completeness
import Tablesmith.Proofs.Ooxml.Package
import Tablesmith.Proofs.Run.Ends
import Tablesmith.Proofs.Run.Lockstep

/-!
# The documents of a run

A run of everything has two writers, one for the tables and one for the languages,
and they may go to the same directory. Each takes for orphans what it does not write
itself. So the documents of the writer that comes first are all there at the end of
the run exactly if the writer that comes second spares each of them
(`run_keeps_documents_iff`).
-/

namespace Tablesmith

open Files Running Steps
open Outcome (mapError_ok_iff)

variable {settings : Settings} {policy : OrphanPolicy} {order : WriteOrder} {cipher : Option DocumentCipher}
  {session middle last : Session}

/-- What a run of everything has to write. -/
structure Plan where
  cipher : Option DocumentCipher
  tables : Writing
  languages : Writing

namespace Plan

/-- The writer that comes first. -/
def first (plan : Plan) : WriteOrder → Writing
  | .tablesFirst => plan.tables
  | .languagesFirst => plan.languages

/-- The writer that comes second. -/
def second (plan : Plan) : WriteOrder → Writing
  | .tablesFirst => plan.languages
  | .languagesFirst => plan.tables

def paths (plan : Plan) : List String :=
  plan.tables.outputs.map (·.path plan.tables.directory) ++ plan.languages.outputs.map (·.path plan.languages.directory)

/-- No name of a document has a slash in it. -/
def IsWhole (plan : Plan) : Prop :=
  ∀ output ∈ plan.tables.outputs ++ plan.languages.outputs, '/' ∉ output.stem.toList

/-- All documents are in their files. -/
def IsSaved (plan : Plan) (tree : FileTree) : Prop :=
  plan.tables.IsSaved plan.cipher tree ∧ plan.languages.IsSaved plan.cipher tree

end Plan

/-- The plan that the settings and the workbooks give. -/
def Settings.plan (settings : Settings) (session : Session) : Except Failure Plan := do
  let cipher ← settings.cipher.mapError .cipher
  let collection ← ((Collection.ofSettings settings : Running (StateM Session) Collection).run.run session).1
  let tables ← ((Tables.extract collection.tables).run.run KeyCatalog.empty).1.mapError .fault
  let languages ← (Languages.extract collection.strings).mapError .fault
  let tableDirectory ← (settings.require .tableOutputPath).mapError .missingSetting
  let languageDirectory ← (settings.require .stringOutputPath).mapError .missingSetting
  return ⟨cipher, ⟨tableDirectory, tables.outputs⟩, ⟨languageDirectory, languages.outputs⟩⟩

theorem Tables.nodup_stems (tables : Tables) : (tables.outputs.map (·.stem)).Nodup := by
  have stems : tables.outputs.map (·.stem) = tables.toList.map Prod.fst := by
    simp [Tables.outputs]
  rw [stems]
  exact OrderedBy.nodup_keys tables

theorem Languages.nodup_stems (languages : Languages) : (languages.outputs.map (·.stem)).Nodup := by
  have stems : languages.outputs.map (·.stem) = (languages.toList.map Prod.fst).map Languages.fileStem := by
    simp [Languages.outputs]
  have injective : Function.Injective Languages.fileStem := by
    intro language other same
    have chars := congrArg String.toList same
    exact String.toList_inj.mp (by simpa [Languages.fileStem] using chars)
  rw [stems]
  exact (OrderedBy.nodup_keys languages).map injective

def Schema.output (schema : Schema) : Output :=
  ⟨schema.name, rowsDocument schema.rowsOf, Number.showNat schema.rowsOf.size ++ " rows"⟩

theorem Tables.outputs_singleton (schema : Schema) : (Tables.ofSchemas [schema]).outputs = [schema.output] := by
  have entries : (Tables.ofSchemas [schema]).toList = [(schema.name, schema.rowsOf)] := by
    rw [Tables.ofSchemas, OrderedBy.toList_foldl_insert _ _ (by simp)]
    rfl
  rw [Tables.outputs, entries]
  rfl

/-- A writer makes sure of its directory and then writes. -/
def Writing.Runs (writing : Writing) (policy : OrphanPolicy) (cipher : Option DocumentCipher)
    (session last : Session) : Prop :=
  ∃ ready : Session, FileTree.Grows session.tree ready.tree ∧
    Ends (saveOutputs writing.directory cipher policy writing.outputs) ready () last

/-- After two writers all documents are there exactly if the second spares those of the first. -/
theorem both_saved_iff {first second : Writing} (first_proper : first.IsProper) (second_proper : second.IsProper)
    (names : session.tree.HasNames) (first_runs : first.Runs policy cipher session middle)
    (second_runs : second.Runs policy cipher middle last) :
    first.IsSaved cipher last.tree ∧ second.IsSaved cipher last.tree ↔ ∀ output place,
      first.Puts last.tree output place → second.Spares policy cipher last output.stem place (output.bytes cipher) := by
  obtain ⟨ready, grows, ran⟩ := first_runs
  have first_saves := saveOutputs_ok first_proper (grows.names names) ran
  obtain ⟨again, grows_again, ran_again⟩ := second_runs
  have again_names := grows_again.names (first_saves.edits.names (grows.names names))
  have second_saves := saveOutputs_ok second_proper again_names ran_again
  have second_saved : second.IsSaved cipher last.tree := by
    intro output member
    obtain ⟨place, located⟩ := second_saves.led output member
    exact FileTree.read_ok_iff.mpr
      ⟨place, second_saves.edits.directories.locate_ok_iff.mpr located, second_saves.put output place ⟨member, located⟩⟩
  have extends_last : FileTree.Extends ready.tree last.tree :=
    (first_saves.edits.directories.toExtends.trans grows_again.toExtends).trans second_saves.edits.directories.toExtends
  have spared_iff {output : Output} {place : Route} (puts : first.Puts ready.tree output place) :
      last.tree.entry? place = some (.file (output.bytes cipher)) ↔
        second.Spares policy cipher last output.stem place (output.bytes cipher) := by
    obtain ⟨parent, _, _, _, _, rfl⟩ :=
      (FileTree.locate_join_ok_iff (documentName_isName (first_proper.whole output puts.1))).mp puts.2
    exact second_saves.keeps_iff _ _ _ ((grows_again.files _ _).mpr (first_saves.put output _ puts))
  have led {output : Output} (member : output ∈ first.outputs) : ∃ place, first.Puts ready.tree output place ∧
      last.tree.locate (output.path first.directory) = .ok place := by
    obtain ⟨place, located⟩ := first_saves.led output member
    exact ⟨place, ⟨member, located⟩, extends_last.locate located⟩
  constructor
  · rintro ⟨saved, _⟩ output place ⟨member, located⟩
    obtain ⟨_, puts, same⟩ := led member
    cases same.symm.trans located
    obtain ⟨_, also, found⟩ := FileTree.read_ok_iff.mp (saved output member)
    cases also.symm.trans located
    exact (spared_iff puts).mp found
  · intro spared
    refine ⟨fun output member => ?_, second_saved⟩
    obtain ⟨place, puts, located⟩ := led member
    exact FileTree.read_ok_iff.mpr ⟨place, located, (spared_iff puts).mpr (spared output place ⟨member, located⟩)⟩

/-! ## A run -/

theorem needDirectory_ok {directory : String} (ran : Ends (needDirectory directory) session () last) :
    session.tree.isDirectory directory = true ∧ last = session := by
  obtain ⟨present, middle, looked, ran⟩ := bind_ok_iff.mp ran
  cases looked
  split at ran
  · next there => exact ⟨there, (pure_ok_iff.mp ran).2⟩
  · cases ran

/-- The directory for tables must be there before their documents are written. -/
theorem saveTables_steps {tables : Tables}
    (ran : Ends (saveTables settings cipher policy (some tables)) session () last) :
    ∃ directory ready, settings.require .tableOutputPath = .ok directory ∧
      session.tree.isDirectory directory = true ∧ ready.tree = session.tree ∧
      Ends (saveOutputs directory cipher policy tables.outputs) ready () last := by
  obtain ⟨directory, start, required, steps⟩ := bind_ok_iff.mp ran
  obtain ⟨value, rfl⟩ := ofResult_ok_iff.mp required
  obtain ⟨⟨⟩, told, tells, steps⟩ := bind_ok_iff.mp steps
  cases tells
  obtain ⟨⟨⟩, ready, needed, saves⟩ := bind_ok_iff.mp steps
  obtain ⟨there, rfl⟩ := needDirectory_ok needed
  refine ⟨directory, _, value, there, ?_, saves⟩
  rfl

/-- The directory for languages is made before their documents are written. -/
theorem saveLanguages_steps {languages : Languages}
    (ran : Ends (saveLanguages settings cipher policy (some languages)) session () last) :
    ∃ directory ready, settings.require .stringOutputPath = .ok directory ∧
      session.tree.makeDirectories directory = (ready.tree, .ok ()) ∧
      Ends (saveOutputs directory cipher policy languages.outputs) ready () last := by
  obtain ⟨directory, start, required, steps⟩ := bind_ok_iff.mp ran
  obtain ⟨value, rfl⟩ := ofResult_ok_iff.mp required
  obtain ⟨⟨⟩, told, tells, steps⟩ := bind_ok_iff.mp steps
  cases tells
  obtain ⟨⟨⟩, ready, made, saves⟩ := bind_ok_iff.mp steps
  obtain ⟨done, tree⟩ := outcome_eq_iff.mp made
  refine ⟨directory, ready, value, Prod.ext (congrArg Session.tree tree) ?_, saves⟩
  exact mapError_ok_iff.mp done

theorem saveTables_ok {tables : Tables}
    (ran : Ends (saveTables settings cipher policy (some tables)) session () last) :
    ∃ directory, settings.require .tableOutputPath = .ok directory ∧
      Writing.Runs ⟨directory, tables.outputs⟩ policy cipher session last := by
  obtain ⟨directory, ready, value, _, tree, saves⟩ := saveTables_steps ran
  exact ⟨directory, value, ready, tree ▸ FileTree.Grows.refl session.tree, saves⟩

theorem saveLanguages_ok {languages : Languages}
    (ran : Ends (saveLanguages settings cipher policy (some languages)) session () last) :
    ∃ directory, settings.require .stringOutputPath = .ok directory ∧
      Writing.Runs ⟨directory, languages.outputs⟩ policy cipher session last := by
  obtain ⟨directory, ready, value, made, saves⟩ := saveLanguages_steps ran
  refine ⟨directory, value, ready, ?_, saves⟩
  have grows := FileTree.grows_makeDirectories session.tree directory
  rw [made] at grows
  exact grows

private theorem ok_of_bind {first second : Except Failure Unit} (done : first.bind (fun _ => second) = .ok ()) :
    first = .ok () ∧ second = .ok () := by
  obtain ⟨_, first_done, second_done⟩ := Outcome.bind_ok_iff.mp done
  exact ⟨first_done, second_done⟩

/-- Both of two things come to their end, one after the other. -/
theorem both_ok_iff {main other : Running (StateM Session) Unit} : Ends (both order main other) session () last ↔
    ∃ middle, match order with
      | .tablesFirst => Ends main session () middle ∧ Ends other middle () last
      | .languagesFirst => Ends other session () middle ∧ Ends main middle () last := by
  constructor
  · intro ran
    cases order with
    | tablesFirst =>
      obtain ⟨done, ended⟩ := outcome_eq_iff.mp ran
      obtain ⟨main_done, other_done⟩ := ok_of_bind done
      exact ⟨(main.run.run session).2, Prod.ext main_done rfl, Prod.ext other_done ended⟩
    | languagesFirst =>
      obtain ⟨done, ended⟩ := outcome_eq_iff.mp ran
      obtain ⟨main_done, other_done⟩ := ok_of_bind done
      exact ⟨(other.run.run session).2, Prod.ext other_done rfl, Prod.ext main_done ended⟩
  · rintro ⟨middle, in_order⟩
    cases order with
    | tablesFirst =>
      have runs : (both .tablesFirst main other).run.run session =
          ((main.run.run session).1.bind fun _ => (other.run.run (main.run.run session).2).1,
            (other.run.run (main.run.run session).2).2) := rfl
      rw [Ends, runs, in_order.1]
      dsimp only
      rw [in_order.2]
      rfl
    | languagesFirst =>
      have runs : (both .languagesFirst main other).run.run session =
          ((main.run.run (other.run.run session).2).1.bind fun _ => (other.run.run session).1,
            (main.run.run (other.run.run session).2).2) := rfl
      rw [Ends, runs, in_order.1]
      dsimp only
      rw [in_order.2]
      rfl

/-- A thing to which nothing is added comes to its end by itself. -/
theorem both_pure_iff {main : Running (StateM Session) Unit} :
    Ends (both order main (pure ())) session () last ↔ Ends main session () last := by
  rw [both_ok_iff]
  constructor
  · rintro ⟨middle, in_order⟩
    cases order with
    | tablesFirst =>
      obtain ⟨_, rfl⟩ := pure_ok_iff.mp in_order.2
      exact in_order.1
    | languagesFirst =>
      obtain ⟨_, rfl⟩ := pure_ok_iff.mp in_order.1
      exact in_order.2
  · intro ran
    cases order with
    | tablesFirst => exact ⟨last, ran, rfl⟩
    | languagesFirst => exact ⟨session, rfl, ran⟩

theorem pure_both_iff {other : Running (StateM Session) Unit} :
    Ends (both order (pure ()) other) session () last ↔ Ends other session () last := by
  rw [both_ok_iff]
  constructor
  · rintro ⟨middle, in_order⟩
    cases order with
    | tablesFirst =>
      obtain ⟨_, rfl⟩ := pure_ok_iff.mp in_order.1
      exact in_order.2
    | languagesFirst =>
      obtain ⟨_, rfl⟩ := pure_ok_iff.mp in_order.2
      exact in_order.1
  · intro ran
    cases order with
    | tablesFirst => exact ⟨session, rfl, ran⟩
    | languagesFirst => exact ⟨last, ran, rfl⟩

theorem saveExtracted_tables_iff {tables : Tables} :
    Ends (saveExtracted settings cipher policy order ⟨some tables, none⟩) session () last ↔
      Ends (saveTables settings cipher policy (some tables)) session () last :=
  both_pure_iff

theorem saveExtracted_languages_iff {languages : Languages} :
    Ends (saveExtracted settings cipher policy order ⟨none, some languages⟩) session () last ↔
      Ends (saveLanguages settings cipher policy (some languages)) session () last :=
  pure_both_iff

/-- The accessor code is written into its file, and nothing else changes. -/
theorem runScript_ok {collection : Collection} (ran : Ends (runScript settings collection) session () last) :
    ∃ directory route, settings.require .scriptOutputPath = .ok directory ∧
      session.tree.locate (Path.join directory Accessor.fileName) = .ok route ∧
      session.tree.hasDirectory route = false ∧
      last.tree = session.tree.put route (.file (Accessor.generate collection.tables).toUTF8) := by
  obtain ⟨directory, start, required, steps⟩ := bind_ok_iff.mp ran
  obtain ⟨value, rfl⟩ := ofResult_ok_iff.mp required
  obtain ⟨path, saved, saves, tells⟩ := bind_ok_iff.mp steps
  cases tells
  obtain ⟨⟨⟩, ready, needed, writes⟩ := bind_ok_iff.mp saves
  obtain ⟨_, rfl⟩ := needDirectory_ok needed
  obtain ⟨⟨⟩, wrote, changed, gives⟩ := bind_ok_iff.mp writes
  obtain ⟨_, rfl⟩ := pure_ok_iff.mp gives
  obtain ⟨tree, written, rfl⟩ := ofFile_change_ok_iff.mp changed
  obtain ⟨route, located, free, rfl⟩ := FileTree.write_ok_iff.mp written
  exact ⟨directory, route, value, located, free, rfl⟩

theorem names_runScript {collection : Collection} (ran : Ends (runScript settings collection) session () last) :
    session.tree.HasNames → last.tree.HasNames := by
  intro names
  obtain ⟨_, _, _, located, _, tree⟩ := runScript_ok ran
  rw [tree]
  exact names.put (names.locate located)

theorem extractTables_ok {collection : Collection} {tables : Tables}
    (ran : Ends (extractTables collection) session tables last) :
    ((Tables.extract collection.tables).run.run KeyCatalog.empty).1 = .ok tables := by
  obtain ⟨found, middle, extracted, steps⟩ := bind_ok_iff.mp ran
  obtain ⟨value, rfl⟩ := ofResult_ok_iff.mp extracted
  obtain ⟨⟨⟩, told, _, gives⟩ := bind_ok_iff.mp steps
  obtain ⟨rfl, rfl⟩ := pure_ok_iff.mp gives
  exact value

theorem extractLanguages_ok {collection : Collection} {languages : Languages}
    (ran : Ends (extractLanguages collection) session languages last) :
    Languages.extract collection.strings = .ok languages := by
  rw [Ends, extractLanguages_eq] at ran
  obtain ⟨⟨⟩, warned, _, extracts⟩ := bind_ok_iff.mp ran
  obtain ⟨found, middle, extracted, steps⟩ := bind_ok_iff.mp extracts
  obtain ⟨value, rfl⟩ := ofResult_ok_iff.mp extracted
  obtain ⟨⟨⟩, told, _, gives⟩ := bind_ok_iff.mp steps
  obtain ⟨rfl, rfl⟩ := pure_ok_iff.mp gives
  exact value

/-- There are results of just the kinds that the product has. -/
theorem extract_steps {product : Product} {collection : Collection} {extracted : Extracted}
    (ran : Ends (extract product collection) session extracted last) : last.tree = session.tree ∧
      (if product.hasTables then ∃ tables, extracted.tables = some tables ∧
        ((Tables.extract collection.tables).run.run KeyCatalog.empty).1 = .ok tables else extracted.tables = none) ∧
      (if product.hasStrings then ∃ languages, extracted.languages = some languages ∧
        Languages.extract collection.strings = .ok languages else extracted.languages = none) := by
  refine ⟨(OnlyReads.extract product collection).tree_eq ran, ?_⟩
  rw [Ends, extract_eq] at ran
  obtain ⟨tables, middle, tables_ran, steps⟩ := bind_ok_iff.mp ran
  obtain ⟨languages, ended, languages_ran, gives⟩ := bind_ok_iff.mp steps
  obtain ⟨rfl, rfl⟩ := pure_ok_iff.mp gives
  constructor
  · by_cases has : product.hasTables = true
    · rw [if_pos has] at tables_ran ⊢
      obtain ⟨found, found_end, extracts, gives⟩ := bind_ok_iff.mp tables_ran
      obtain ⟨rfl, rfl⟩ := pure_ok_iff.mp gives
      exact ⟨found, rfl, extractTables_ok extracts⟩
    · rw [if_neg has] at tables_ran ⊢
      exact (pure_ok_iff.mp tables_ran).1
  · by_cases has : product.hasStrings = true
    · rw [if_pos has] at languages_ran ⊢
      obtain ⟨found, found_end, extracts, gives⟩ := bind_ok_iff.mp languages_ran
      obtain ⟨rfl, rfl⟩ := pure_ok_iff.mp gives
      exact ⟨found, rfl, extractLanguages_ok extracts⟩
    · rw [if_neg has] at languages_ran ⊢
      exact (pure_ok_iff.mp languages_ran).1

/-- The parts of a run that comes to its end, one after the other. -/
theorem run_steps {product : Product} (ran : Ends (run settings policy order product) session () last) :
    ∃ cipher collection collected scripted extracted start saved, settings.cipher = .ok cipher ∧
      ((Collection.ofSettings settings : Running (StateM Session) Collection).run.run session).1 = .ok collection ∧
      collected.tree = session.tree ∧
      Ends (if product.hasScript then runScript settings collection else pure ()) collected () scripted ∧
      Ends (extract product collection) scripted extracted start ∧
      Ends (saveExtracted settings cipher policy order extracted) start () saved ∧
      last = { saved with reports := last.reports } := by
  rw [run_eq] at ran
  obtain ⟨⟨⟩, told, tells, steps⟩ := bind_ok_iff.mp ran
  cases tells
  obtain ⟨⟨⟩, checked, checks, steps⟩ := bind_ok_iff.mp steps
  obtain ⟨_, rfl⟩ := ofResult_ok_iff.mp checks
  obtain ⟨cipher, keyed, ciphers, steps⟩ := bind_ok_iff.mp steps
  obtain ⟨cipher_ok, rfl⟩ := ofResult_ok_iff.mp ciphers
  obtain ⟨collection, collected, collects, steps⟩ := bind_ok_iff.mp steps
  obtain ⟨collected_tree, _, _, collection_ok⟩ := (OnlyReads.collect settings).unchanged collects
  obtain ⟨⟨⟩, scripted, scripts, steps⟩ := bind_ok_iff.mp steps
  obtain ⟨extracted, start, extracts, steps⟩ := bind_ok_iff.mp steps
  obtain ⟨⟨⟩, saved, saves, completes⟩ := bind_ok_iff.mp steps
  cases completes
  exact ⟨cipher, collection, collected, scripted, extracted, start, saved, cipher_ok, collection_ok session rfl,
    collected_tree, scripts, extracts, saves, rfl⟩

/-- A run of everything is the first writer and then the second of its plan, on proper names if there were
    proper names before. -/
theorem run_ok (ran : Ends (run settings policy order .all) session () last) :
    ∃ plan start middle saved, settings.plan session = .ok plan ∧ plan.tables.stems.Nodup ∧
      plan.languages.stems.Nodup ∧ (session.tree.HasNames → start.tree.HasNames) ∧
      (plan.first order).Runs policy plan.cipher start middle ∧
      (plan.second order).Runs policy plan.cipher middle saved ∧
      last = { saved with reports := last.reports } := by
  obtain ⟨cipher, collection, collected, scripted, extracted, start, saved, cipher_ok, collection_ok, collected_tree,
    scripts, extracts, saves, ended⟩ := run_steps ran
  obtain ⟨extracted_tree, ⟨tables, some_tables, tables_ok⟩, ⟨languages, some_languages, languages_ok⟩⟩ :=
    extract_steps extracts
  obtain rfl : extracted = ⟨some tables, some languages⟩ := by rw [← some_tables, ← some_languages]
  have start_names (names : session.tree.HasNames) : start.tree.HasNames :=
    extracted_tree ▸ names_runScript scripts (collected_tree ▸ names)
  have planned {table_directory language_directory : String}
      (table_required : settings.require .tableOutputPath = .ok table_directory)
      (language_required : settings.require .stringOutputPath = .ok language_directory) : settings.plan session =
        .ok ⟨cipher, ⟨table_directory, tables.outputs⟩, ⟨language_directory, languages.outputs⟩⟩ := by
    unfold Settings.plan
    rw [cipher_ok, collection_ok]
    simp only [Except.mapError, bind, Except.bind, tables_ok, languages_ok, table_required, language_required]
    rfl
  obtain ⟨middle, in_order⟩ := both_ok_iff.mp saves
  cases order with
  | tablesFirst =>
    obtain ⟨table_directory, table_required, tables_run⟩ := saveTables_ok in_order.1
    obtain ⟨language_directory, language_required, languages_run⟩ := saveLanguages_ok in_order.2
    exact ⟨_, start, middle, saved, planned table_required language_required, tables.nodup_stems, languages.nodup_stems,
      start_names, tables_run, languages_run, ended⟩
  | languagesFirst =>
    obtain ⟨language_directory, language_required, languages_run⟩ := saveLanguages_ok in_order.1
    obtain ⟨table_directory, table_required, tables_run⟩ := saveTables_ok in_order.2
    exact ⟨_, start, middle, saved, planned table_required language_required, tables.nodup_stems, languages.nodup_stems,
      start_names, languages_run, tables_run, ended⟩

/-- A run of everything that comes to its end has written all documents of its plan, and they are all there exactly
    if the writer that came second spared every document of the writer that came first: none of its own documents
    took the place of the document with another content, and where none took its place, it did not delete the
    document as an orphan. -/
theorem run_keeps_documents_iff (names : session.tree.HasNames)
    (ran : Ends (run settings policy order .all) session () last) :
    ∃ plan, settings.plan session = .ok plan ∧ (plan.IsWhole →
      (plan.IsSaved last.tree ↔ ∀ output place, (plan.first order).Puts last.tree output place →
        (plan.second order).Spares policy plan.cipher last output.stem place (output.bytes plan.cipher))) := by
  obtain ⟨plan, start, middle, saved, planned, tables_distinct, languages_distinct, start_names, first_runs, second_runs,
    ended⟩ := run_ok ran
  refine ⟨plan, planned, fun whole => ?_⟩
  obtain ⟨tables_whole, languages_whole⟩ := List.forall_mem_append.mp whole
  have tables_proper : plan.tables.IsProper := ⟨tables_distinct, tables_whole⟩
  have languages_proper : plan.languages.IsProper := ⟨languages_distinct, languages_whole⟩
  -- The session at the end differs from the one that the second writer leaves in what was told alone.
  rw [ended]
  cases order with
  | tablesFirst =>
    have saved_iff := both_saved_iff tables_proper languages_proper (start_names names) first_runs second_runs
    exact saved_iff
  | languagesFirst =>
    have saved_iff := both_saved_iff languages_proper tables_proper (start_names names) first_runs second_runs
    rw [Plan.IsSaved, and_comm]
    exact saved_iff

namespace SwordRun

open FileTree Grid Item Ooxml Xml Zip

/-- A cell of a worksheet: its place and its text. -/
def cell (place text : String) : List UInt8 :=
  name "<c r=\"" ++ name place ++ name "\" t=\"str\"><v>" ++ name text ++ name "</v></c>"

/-- The worksheet of the sword. -/
def worksheet : List UInt8 :=
  name "<worksheet><sheetData>" ++ cell "A1" "@" ++ cell "B1" "Item" ++ cell "D1" "@" ++ cell "B3" "Id[pkey]" ++
    cell "C3" "Name" ++ cell "B4" "string" ++ cell "C4" "string" ++ cell "A5" "@" ++ cell "B5" "a" ++
    cell "C5" "Sword" ++ cell "A6" "@" ++ name "</sheetData></worksheet>"

def tab : List UInt8 :=
  name "<workbook><sheets>" ++ name "<sheet name=\"Item\" r:id=\"rId1\"/>" ++ name "</sheets></workbook>"

/-- Where the worksheet is in the package. -/
def relationship : List UInt8 :=
  name "<Relationships>" ++ name "<Relationship Id=\"rId1\" Target=\"worksheets/sheet1.xml\"/>" ++
    name "</Relationships>"

/-- The workbook with the sheet of the sword. -/
def workbook : ByteArray :=
  ⟨(store (filesOf relationship tab worksheet)).toArray⟩

/-- Code and the documents of tables go to one directory, and the documents of languages to a directory of their own, or
    to the same. -/
def setupFor (languages : String) (key : Option String) : Settings where
  tablePath := some "tables"
  stringFileName := some "Strings"
  enumFileName := none
  scriptOutputPath := some "out"
  tableOutputPath := some "out"
  stringOutputPath := some languages
  encryptionKey := key
  typeAliasPath := none

/-- All output goes to one directory. -/
def setup : Settings :=
  setupFor "out" none

/-- No output of one kind is in the way of another. -/
def apart : Settings :=
  setupFor "texts" none

/-- The workbook and empty directories for output. -/
def tree : FileTree where
  entries := [(["tables"], .directory), (["tables", "Items.xlsx"], .file workbook), (["out"], .directory),
    (["texts"], .directory)]
  home := []
  distinct := by decide

def start : Session :=
  Session.start tree fun _ => false

def output : Output :=
  ⟨"Item", rowsDocument sword.schema.rowsOf, Number.showNat sword.schema.rowsOf.size ++ " rows"⟩

/-- There is a document for the sheet, and none for any language. -/
def plan : Plan :=
  ⟨none, ⟨"out", [output]⟩, ⟨"out", []⟩⟩

variable {script document : ByteArray} {scripted saved : FileTree} {texts : String} {key : Option String}

theorem sameDirectories_scripted (scripted_is : scripted = tree.put ["out", "GameTables.cs"] (.file script)) :
    SameDirectories tree scripted :=
  scripted_is ▸ sameDirectories_put rfl

theorem sameDirectories_saved (scripted_is : scripted = tree.put ["out", "GameTables.cs"] (.file script))
    (saved_is : saved = scripted.put ["out", "Item.json"] (.file document)) : SameDirectories tree saved := by
  have same := sameDirectories_scripted scripted_is
  have free : scripted.hasDirectory ["out", "Item.json"] = false := (same.directory _).trans rfl
  exact same.trans (saved_is ▸ sameDirectories_put free)

theorem locate_out : tree.locate "out" = .ok ["out"] := rfl

theorem hasDirectory_out : tree.hasDirectory ["out"] = true := rfl

theorem locate_document : tree.locate "out/Item.json" = .ok ["out", "Item.json"] := rfl

theorem listing_out : Path.listing? "out" = some "out" := rfl

theorem outputs_sword : (Tables.ofSchemas [sword.schema]).outputs = [output] :=
  Tables.outputs_singleton sword.schema

/-- The document is written, where only the code is. -/
theorem saveTables_sword (scripted_is : session.tree = tree.put ["out", "GameTables.cs"] (.file script)) :
    ∃ last, Ends (saveTables (setupFor texts key) cipher policy (some (Tables.ofSchemas [sword.schema]))) session () last ∧
      last.tree = session.tree.put ["out", "Item.json"] (.file (output.bytes cipher)) := by
  have same := sameDirectories_scripted scripted_is
  have out_at := same.locate_ok_iff.mpr locate_out
  have out_there := (same.directory _).trans hasDirectory_out
  have listed : session.tree.filesIn "out" = .ok ["GameTables.cs"] := by
    refine filesIn_ok_iff.mpr ⟨["out"], out_at, out_there, ?_⟩
    simp [scripted_is, filesBelow, put, others, below?, singleName?, tree]
  have no_orphans : (orphanNames ([output].map (·.stem)) ["GameTables.cs"]).map (fun name => Path.listed "out" [name]) =
      [] := by
    decide +kernel
  have free : session.tree.hasDirectory ["out", "Item.json"] = false := (same.directory _).trans rfl
  refine saveTables_ends rfl (isDirectory_iff.mpr ⟨["out"], out_at, out_there⟩) fun ready ready_tree => ?_
  obtain ⟨last, saved, tree⟩ : ∃ last, Ends (output.save "out" cipher) ready () last ∧ _ :=
    save_output_ends (ready_tree ▸ same.locate_ok_iff.mpr locate_document) (ready_tree ▸ free)
  rw [outputs_sword]
  have none_deleted : Ends (([] : List String).filterM (resolveOrphan policy)) ready [] ready := rfl
  have written : Ends ([output].forM (Output.save "out" cipher)) ready () last := bind_ok_iff.mpr ⟨(), last, saved, rfl⟩
  exact ⟨last, saveOutputs_ends listing_out (ready_tree ▸ listed) no_orphans none_deleted written, ready_tree ▸ tree⟩

/-- There are no documents of languages, and the one of the sheet is an orphan for their writer. -/
theorem saveLanguages_sword (scripted_is : scripted = tree.put ["out", "GameTables.cs"] (.file script))
    (saved_is : session.tree = scripted.put ["out", "Item.json"] (.file document)) :
    ∃ last, Ends (saveLanguages setup cipher policy (some OrderedBy.empty)) session () last ∧ True := by
  have same := sameDirectories_saved scripted_is saved_is
  have out_at := same.locate_ok_iff.mpr locate_out
  have out_there := (same.directory _).trans hasDirectory_out
  have listed : session.tree.filesIn "out" = .ok ["Item.json", "GameTables.cs"] := by
    refine filesIn_ok_iff.mpr ⟨["out"], out_at, out_there, ?_⟩
    simp [saved_is, scripted_is, filesBelow, put, others, below?, singleName?, tree]
  have orphans : (orphanNames ((Languages.outputs OrderedBy.empty).map (·.stem)) ["Item.json", "GameTables.cs"]).map
      (fun name => Path.listed "out" [name]) = ["out/Item.json"] := by
    decide +kernel
  refine saveLanguages_ends rfl out_at out_there fun ready ready_tree => ?_
  obtain ⟨deleted, last, resolved⟩ : ∃ deleted last, Ends (["out/Item.json"].filterM (resolveOrphan policy)) ready
      deleted last := by
    refine filterM_resolveOrphan_ends (by simp) fun path member => ?_
    rw [List.mem_singleton.mp member, ready_tree, saved_is]
    refine ⟨["out", "Item.json"], document, saved_is ▸ same.locate_ok_iff.mpr locate_document, ?_⟩
    rw [entry?_put (by simp), if_pos rfl]
  exact ⟨last, saveOutputs_ends listing_out (ready_tree ▸ listed) orphans resolved rfl, trivial⟩

/-- In a directory of its own, the writer for languages has nothing to do. -/
theorem saveLanguages_apart (scripted_is : scripted = tree.put ["out", "GameTables.cs"] (.file script))
    (saved_is : session.tree = scripted.put ["out", "Item.json"] (.file document)) :
    ∃ last, Ends (saveLanguages (setupFor "texts" key) cipher policy (some OrderedBy.empty)) session () last ∧
      last.tree = session.tree := by
  have same := sameDirectories_saved scripted_is saved_is
  have located : tree.locate "texts" = .ok ["texts"] := rfl
  have texts_at := same.locate_ok_iff.mpr located
  have texts_there : session.tree.hasDirectory ["texts"] = true := (same.directory _).trans rfl
  have listed : session.tree.filesIn "texts" = .ok [] := by
    refine filesIn_ok_iff.mpr ⟨["texts"], texts_at, texts_there, ?_⟩
    simp [saved_is, scripted_is, filesBelow, put, others, below?, singleName?, tree]
  refine saveLanguages_ends rfl texts_at texts_there fun ready ready_tree => ⟨ready, ?_, ready_tree⟩
  have listing : Path.listing? "texts" = some "texts" := rfl
  have no_orphans : (orphanNames ((Languages.outputs OrderedBy.empty).map (·.stem)) []).map
      (fun name => Path.listed "texts" [name]) = [] := by
    decide +kernel
  exact saveOutputs_ends listing (ready_tree ▸ listed) no_orphans rfl rfl

def code : ByteArray :=
  (Accessor.generate [sword.schema]).toUTF8

theorem runScript_sword (same : session.tree = tree) :
    ∃ last, Ends (runScript (setupFor texts key) ⟨[sword.schema], []⟩) session () last ∧
      last.tree = tree.put ["out", "GameTables.cs"] (.file code) := by
  have there : session.tree.isDirectory "out" = true := same ▸ rfl
  have located : session.tree.locate (Path.join "out" Accessor.fileName) = .ok ["out", "GameTables.cs"] :=
    same ▸ rfl
  have free : session.tree.hasDirectory ["out", "GameTables.cs"] = false := same ▸ rfl
  obtain ⟨last, ran, last_is⟩ : ∃ last, Ends (runScript (setupFor texts key) ⟨[sword.schema], []⟩) session () last ∧ _ :=
    runScript_ends rfl there located free
  exact ⟨last, ran, same ▸ last_is⟩

/-- A workbook is read whose only worksheet holds texts. -/
theorem ofBytes_texts {worksheet : List UInt8} {texts : List (Nat × Nat × String)} (short : worksheet.length < 256 ^ 2)
    (whole : (Document.ofBytes worksheet false).isWhole = true)
    (stored : Worksheet.stored #[] (Worksheet.start (.empty "tables/Items.xlsx" "Item"))
      (Document.ofBytes worksheet false).events = .ok (texts.map Sheet.textCell))
    (distinct : (texts.map fun entry => (entry.1, entry.2.1)).Nodup) :
    Workbook.ofBytes "tables/Items.xlsx" (store (filesOf relationship tab worksheet)) =
      .ok ⟨"tables/Items.xlsx", [Sheet.ofTexts "tables/Items.xlsx" "Item" texts]⟩ := by
  have relations_small : relationship.length < 256 ^ 2 := by decide +kernel
  have tab_small : tab.length < 256 ^ 2 := by decide +kernel
  have small : relationship.length + tab.length + worksheet.length < 256 ^ 3 := by omega
  have relations_read : readPart Relationships.step [] (.ofBytes relationship false) = .ok [("rId1", worksheetPart)] := by
    decide +kernel
  have main_read : readPart (Tabs.step [("rId1", worksheetPart)]) Tabs.start (.ofBytes tab false) =
      .ok ⟨.from1900, [⟨"Item", worksheetPart⟩]⟩ := by
    decide +kernel
  have package_read : readPackage "tables/Items.xlsx" (store (filesOf relationship tab worksheet)) =
      .ok ([Sheet.ofTexts "tables/Items.xlsx" "Item" texts], []) :=
    readPackage_filesOf small relations_read main_read whole stored
  have format : (Path.extension? "tables/Items.xlsx").bind WorkbookFormat.ofExtension? = some .package := rfl
  have own : Workbook.resolveSheet "tables/Items.xlsx" ([] : List String).toArray
      (Sheet.ofTexts "tables/Items.xlsx" "Item" texts) = .ok (Sheet.ofTexts "tables/Items.xlsx" "Item" texts) := by
    rw [Workbook.resolveSheet, Sheet.resolveShared_ofTexts _ distinct]
    rfl
  have all_own : [Sheet.ofTexts "tables/Items.xlsx" "Item" texts].mapM
      (Workbook.resolveSheet "tables/Items.xlsx" ([] : List String).toArray) =
        .ok [Sheet.ofTexts "tables/Items.xlsx" "Item" texts] := by
    rw [List.mapM_cons, List.mapM_nil, own]
    rfl
  exact Workbook.ofBytes_ok format package_read all_own

theorem ofBytes_workbook : Workbook.ofBytes "tables/Items.xlsx" workbook.data.toList =
    .ok ⟨"tables/Items.xlsx", [sword.sheet]⟩ := by
  have short : worksheet.length < 256 ^ 2 := by decide +kernel
  have whole : (Document.ofBytes worksheet false).isWhole = true := by decide +kernel
  have stored : Worksheet.stored #[] (Worksheet.start (.empty "tables/Items.xlsx" "Item"))
      (Document.ofBytes worksheet false).events = .ok (sword.texts.map Sheet.textCell) := by
    decide +kernel
  exact ofBytes_texts short whole stored (by decide)

theorem ofWorkbook_sword :
    (Schema.ofWorkbook ⟨"tables/Items.xlsx", [sword.sheet]⟩ .builtin).2 = .ok [sword.schema] := by
  have stem : Workbook.stem ⟨"tables/Items.xlsx", [sword.sheet]⟩ = "Items" := rfl
  rw [Schema.ofWorkbook, stem, Schema.discoverAll, sword_isProper.discover]
  rfl

/-- The sheet is collected wherever the workbook is the only file below the directory of tables. -/
theorem ofSettings_ends_of_read (there : session.tree.isDirectory "tables" = true)
    (listed : session.tree.filesUnder "tables" = .ok [["Items.xlsx"]])
    (read : session.tree.read "tables/Items.xlsx" = .ok workbook) :
    ∃ last, Ends (Collection.ofSettings (setupFor texts key)) session ⟨[sword.schema], []⟩ last ∧
      last.tree = session.tree := by
  have required : (setupFor texts key).require .tablePath = .ok "tables" := rfl
  have listing : Path.listing? "tables" = some "tables" := rfl
  have found : (workbookRoutes [["Items.xlsx"]]).map (Path.listed "tables") = ["tables/Items.xlsx"] := by decide +kernel
  obtain ⟨last, ran⟩ := Collection.ofSettings_ends required rfl there listing listed found nofun read
    ofBytes_workbook ofWorkbook_sword
  exact ⟨last, ran, (OnlyReads.collect _).tree_eq ran⟩

theorem ofSettings_ends (same : session.tree = tree) :
    ∃ last, Ends (Collection.ofSettings (setupFor texts key)) session ⟨[sword.schema], []⟩ last ∧ last.tree = tree := by
  obtain ⟨last, ran, last_is⟩ : ∃ last, Ends (Collection.ofSettings (setupFor texts key)) session _ last ∧ _ :=
    ofSettings_ends_of_read (same ▸ rfl) (same ▸ rfl) (same ▸ rfl)
  exact ⟨last, ran, last_is.trans same⟩

theorem extract_sword :
    ((Tables.extract [sword.schema]).run.run KeyCatalog.empty).1 = .ok (Tables.ofSchemas [sword.schema]) := by
  have valid : Tables.Valid ([sword].map Item.schema) := Tables.itemSheets_valid (by simp [sword_isProper]) (by simp)
  exact congrArg Prod.fst (Tables.extract_ok_iff.mpr ⟨valid, rfl, rfl⟩)

theorem plan_setup : setup.plan start = .ok plan := by
  have same : start.tree = tree := rfl
  obtain ⟨_, ran, _⟩ : ∃ last, Ends (Collection.ofSettings setup) start _ last ∧ _ := ofSettings_ends same
  have collected : ((Collection.ofSettings setup : Running (StateM Session) Collection).run.run start).1 =
      .ok ⟨[sword.schema], []⟩ := congrArg Prod.fst ran
  have cipher : setup.cipher = .ok none := rfl
  have languages : Languages.extract [] = .ok OrderedBy.empty := rfl
  have directory : setup.require .tableOutputPath = .ok "out" := rfl
  have language_directory : setup.require .stringOutputPath = .ok "out" := rfl
  unfold Settings.plan
  rw [cipher, collected]
  simp only [Except.mapError, bind, Except.bind, extract_sword, languages, directory, language_directory, outputs_sword]
  rfl

theorem extract_collection (session : Session) : ∃ last, Ends (extract .all ⟨[sword.schema], []⟩) session
    ⟨some (Tables.ofSchemas [sword.schema]), some OrderedBy.empty⟩ last ∧ last.tree = session.tree := by
  have tables : ((Tables.extract (Collection.mk [sword.schema] []).tables).run.run KeyCatalog.empty).1 =
      .ok (Tables.ofSchemas [sword.schema]) := extract_sword
  have languages : Languages.extract (Collection.mk [sword.schema] []).strings = .ok OrderedBy.empty := rfl
  exact extract_ends tables languages session

/-- The run comes to its end if the documents of languages can be written behind that of the sheet. -/
theorem ends_of_saves (reached : FileTree → Prop) (ciphered : (setupFor texts key).cipher = .ok cipher)
    (saves : ∀ saved : Session,
      saved.tree = (tree.put ["out", "GameTables.cs"] (.file code)).put ["out", "Item.json"] (.file (output.bytes cipher)) →
        ∃ last, Ends (saveLanguages (setupFor texts key) cipher policy (some OrderedBy.empty)) saved () last ∧
          reached last.tree) :
    ∃ last, Ends (run (setupFor texts key) policy .tablesFirst .all) start () last ∧ reached last.tree := by
  refine run_ends ⟨some (Tables.ofSchemas [sword.schema]), some OrderedBy.empty⟩ reached rfl ciphered
    (fun _ => ofSettings_ends) (fun _ => runScript_sword) ?_ ?_
  · intro scripted same
    obtain ⟨ready, ended, ready_tree⟩ := extract_collection scripted
    exact ⟨ready, ended, ready_tree.trans same⟩
  · intro ready same
    obtain ⟨saved, tables_saved, saved_is⟩ : ∃ last, Ends (saveTables (setupFor texts key) cipher policy _) ready () last ∧ _ :=
      saveTables_sword same
    obtain ⟨last, languages_saved, at_last⟩ := saves saved (saved_is.trans (same ▸ rfl))
    exact ⟨last, both_ok_iff.mpr ⟨saved, tables_saved, languages_saved⟩, at_last⟩

/-- The run comes to its end, whatever happens to orphans. -/
theorem ends (policy : OrphanPolicy) : ∃ last, Ends (run setup policy .tablesFirst .all) start () last := by
  obtain ⟨last, ran, _⟩ : ∃ last, Ends (run setup policy .tablesFirst .all) start () last ∧ True :=
    ends_of_saves (fun _ => True) rfl fun _ => saveLanguages_sword rfl
  exact ⟨last, ran⟩

/-- With a directory for each kind of output, the document of the sheet is there after the run. -/
theorem ends_apart (policy : OrphanPolicy) (ciphered : (setupFor "texts" key).cipher = .ok cipher) :
    ∃ last, Ends (run (setupFor "texts" key) policy .tablesFirst .all) start () last ∧
      last.tree.read "out/Item.json" = .ok (output.bytes cipher) := by
  refine ends_of_saves (fun tree => tree.read "out/Item.json" = .ok (output.bytes cipher)) ciphered fun saved saved_is => ?_
  obtain ⟨last, ended, last_is⟩ : ∃ last, Ends (saveLanguages (setupFor "texts" key) cipher policy _) saved () last ∧ _ :=
    saveLanguages_apart rfl saved_is
  refine ⟨last, ended, read_ok_iff.mpr ⟨["out", "Item.json"], ?_, ?_⟩⟩
  · rw [last_is]
    exact (sameDirectories_saved rfl saved_is).locate_ok_iff.mpr locate_document
  · rw [last_is, saved_is, entry?_put (by simp), if_pos rfl]

theorem hasNames_tree : start.tree.HasNames :=
  .of_routes (by decide) (by decide)

theorem isWhole_plan : plan.IsWhole := by
  intro output member
  cases List.mem_singleton.mp member
  decide

end SwordRun

/-- Where the policy is to keep orphans, the document of the sword is there after the run. -/
theorem run_keeps_sword : SwordRun.start.tree.HasNames ∧ ∃ last,
    Ends (run SwordRun.setup .keep .tablesFirst .all) SwordRun.start () last ∧
      ∃ plan, SwordRun.setup.plan SwordRun.start = .ok plan ∧ plan.IsWhole ∧ plan.IsSaved last.tree := by
  obtain ⟨last, ran⟩ := SwordRun.ends .keep
  refine ⟨SwordRun.hasNames_tree, last, ran, SwordRun.plan, SwordRun.plan_setup, SwordRun.isWhole_plan, ?_⟩
  obtain ⟨plan, planned, saved_iff⟩ := run_keeps_documents_iff SwordRun.hasNames_tree ran
  cases planned.symm.trans SwordRun.plan_setup
  refine (saved_iff SwordRun.isWhole_plan).mpr fun output place _ =>
    ⟨fun other puts => absurd puts.1 List.not_mem_nil, ?_⟩
  rintro _ ⟨_, _, _, _, allows⟩
  cases allows

/-- Where the policy is to delete orphans, the writer for languages deletes the document of the sword, although no
    two documents have the same path and no name has a slash in it. -/
theorem run_deletes_sword : SwordRun.start.tree.HasNames ∧ ∃ last plan,
    Ends (run SwordRun.setup .delete .tablesFirst .all) SwordRun.start () last ∧
      SwordRun.setup.plan SwordRun.start = .ok plan ∧ plan.paths.Nodup ∧ plan.IsWhole ∧ ¬ plan.IsSaved last.tree := by
  obtain ⟨last, ran⟩ := SwordRun.ends .delete
  refine ⟨SwordRun.hasNames_tree, last, SwordRun.plan, ran, SwordRun.plan_setup, List.nodup_singleton _,
    SwordRun.isWhole_plan, fun is_saved => ?_⟩
  obtain ⟨plan, started, middle, saved, planned, tables_distinct, languages_distinct, start_names, first_runs,
    second_runs, ended⟩ := run_ok ran
  cases planned.symm.trans SwordRun.plan_setup
  have tables_proper : SwordRun.plan.tables.IsProper := ⟨tables_distinct, fun output member =>
    SwordRun.isWhole_plan output (List.mem_append_left _ member)⟩
  have languages_proper : SwordRun.plan.languages.IsProper := ⟨languages_distinct, by simp [SwordRun.plan]⟩
  have saved_iff := both_saved_iff tables_proper languages_proper (start_names SwordRun.hasNames_tree) first_runs
    second_runs
  rw [ended] at is_saved
  have spared := saved_iff.mp is_saved
  have read : saved.tree.read "out/Item.json" = .ok (SwordRun.output.bytes none) :=
    is_saved.1 SwordRun.output (List.mem_singleton_self _)
  obtain ⟨place, located, _⟩ := FileTree.read_ok_iff.mp read
  have puts : SwordRun.plan.tables.Puts saved.tree SwordRun.output place := ⟨List.mem_singleton_self _, located⟩
  have orphan : isOrphanName [] "Item.json" = true := by decide +kernel
  -- No document of a language takes the place of the document of the sword.
  exact (spared SwordRun.output place puts).2 (fun _ other_puts => List.not_mem_nil other_puts.1)
    ⟨"out", SwordRun.listing_out, orphan, located, rfl⟩

end Tablesmith
