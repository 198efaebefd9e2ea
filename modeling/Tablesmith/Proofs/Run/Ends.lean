import Mathlib
import Tablesmith.Proofs.Run.Output
import Tablesmith.Proofs.Text.Unicode
import Tablesmith.Run.Basic

/-!
# Parts that come to their end

What the parts of a run need to come to their end: the settings that they ask for,
directories that are there, and paths that lead to files or to nothing.
-/

namespace Tablesmith

open Files Running Steps
open Outcome (mapError_ok_iff)

variable {settings : Settings} {policy : OrphanPolicy} {cipher : Option DocumentCipher}
  {session last : Session}

theorem run_forM_tell {α : Type} (report : α → Report) (items : List α) (session : Session) :
    (items.forM fun item => tell (report item) : Running (StateM Session) Unit).run.run session =
      (.ok (), { session with reports := session.reports ++ items.map report }) := by
  induction items generalizing session with
  | nil =>
    rw [List.map_nil, List.append_nil]
    rfl
  | cons item items ih =>
    refine (run_bind_ok (run_tell (report item) session)).trans ((ih _).trans ?_)
    rw [List.map_cons, List.append_assoc, List.singleton_append]

theorem forM_tell_ends {α : Type} (report : α → Report) (items : List α) (session : Session) :
    ∃ last, Ends (items.forM fun item => tell (report item)) session () last ∧ last.tree = session.tree :=
  ⟨_, run_forM_tell report items session, rfl⟩

theorem ofFile_look_ends_iff {α : Type} {query : FileTree → Except FileError α} {value : α} :
    Ends (ofFile (Session.look query)) session value last ↔ query session.tree = .ok value ∧ last = session := by
  rw [Ends, run_ofFile, outcome_eq_iff, mapError_ok_iff, eq_comm (a := last)]
  exact Iff.rfl

theorem ofFile_look_ends {α : Type} {query : FileTree → Except FileError α} {value : α}
    (looked : query session.tree = .ok value) : Ends (ofFile (Session.look query)) session value session :=
  ofFile_look_ends_iff.mpr ⟨looked, rfl⟩

/-- A file is read if its bytes are those of a text. -/
theorem readText_ends_iff {path text : String} :
    Ends (readText path) session text last ↔ session.tree.read path = .ok text.toUTF8 ∧ last = session := by
  constructor
  · intro ran
    obtain ⟨bytes, middle, looked, decoded⟩ := bind_ok_iff.mp ran
    obtain ⟨read, rfl⟩ := ofFile_look_ends_iff.mp looked
    split at decoded
    · next found known =>
      obtain ⟨rfl, rfl⟩ := pure_ok_iff.mp decoded
      exact ⟨eq_toUTF8_of_fromUTF8? known ▸ read, rfl⟩
    · cases decoded
  · rintro ⟨read, rfl⟩
    refine bind_ok_iff.mpr ⟨text.toUTF8, last, ofFile_look_ends read, ?_⟩
    rw [fromUTF8?_toUTF8]
    rfl

theorem withFile_ends_iff {α : Type} {path : String} {part : Running (StateM Session) α} {value : α} :
    Ends (withFile path part) session value last ↔ Ends part session value last := by
  rw [Ends, run_withFile, outcome_eq_iff, mapError_ok_iff, ← outcome_eq_iff]
  exact Iff.rfl

theorem isDirectory_ends {directory : String} (there : session.tree.isDirectory directory = true) :
    Ends (liftM (Workspace.isDirectory directory : StateM Session Bool)) session true session := by
  rw [Ends, run_liftState]
  exact congrArg (fun present => (Except.ok present, session)) there

theorem workbooksBelow_ends {directory base : String} {routes : List Route} (listing : Path.listing? directory = some base)
    (files : session.tree.filesUnder base = .ok routes) :
    Ends (workbooksBelow directory) session ((workbookRoutes routes).map (Path.listed base)) session := by
  rw [workbooksBelow, listing]
  exact bind_ok_iff.mpr ⟨routes, session, ofFile_look_ends files, rfl⟩

/-- A directory is searched in which there is a workbook. -/
theorem findWorkbooks_ends {directory base : String} {routes : List Route} (there : session.tree.isDirectory directory = true)
    (listing : Path.listing? directory = some base) (files : session.tree.filesUnder base = .ok routes)
    (filled : (workbookRoutes routes).map (Path.listed base) ≠ []) :
    Ends (findWorkbooks directory) session ((workbookRoutes routes).map (Path.listed base)) session := by
  have below := workbooksBelow_ends listing files
  refine bind_ok_iff.mpr ⟨true, session, isDirectory_ends there, bind_ok_iff.mpr ⟨_, session, below, ?_⟩⟩
  rw [if_neg (by simpa using filled)]
  rfl

namespace Collection

theorem openWorkbook_ends_iff {path : String} {workbook : Workbook} : Ends (openWorkbook path) session workbook last ↔
    (∃ content, session.tree.read path = .ok content ∧ Workbook.ofBytes path content.data.toList = .ok workbook) ∧
      last = session := by
  rw [openWorkbook, withFile_ends_iff]
  refine bind_ok_iff.trans ?_
  constructor
  · rintro ⟨content, middle, looked, opened⟩
    obtain ⟨read, rfl⟩ := ofFile_look_ends_iff.mp looked
    obtain ⟨loaded, rfl⟩ := ofResult_ok_iff.mp opened
    exact ⟨⟨content, read, loaded⟩, rfl⟩
  · rintro ⟨⟨content, read, opened⟩, rfl⟩
    exact ⟨content, last, ofFile_look_ends read, ofResult_ok_iff.mpr ⟨opened, rfl⟩⟩

theorem readWorkbook_ends {path : String} {content : ByteArray} {workbook : Workbook} {schemas : List Schema}
    (read : session.tree.read path = .ok content) (opened : Workbook.ofBytes path content.data.toList = .ok workbook)
    (discovered : (Schema.ofWorkbook workbook .builtin).2 = .ok schemas) :
    ∃ last, Ends (readWorkbook .builtin path) session schemas last := by
  obtain ⟨last, tells, _⟩ := forM_tell_ends id (Schema.ofWorkbook workbook .builtin).1 session
  have opens : Ends (openWorkbook path) session workbook session := openWorkbook_ends_iff.mpr ⟨⟨content, read, opened⟩, rfl⟩
  exact ⟨last, bind_ok_iff.mpr ⟨workbook, session, opens, bind_ok_iff.mpr ⟨(), last, tells,
    ofResult_ok_iff.mpr ⟨discovered, rfl⟩⟩⟩⟩

/-- The only workbook of a directory is not for enumerations. -/
theorem ofSettings_ends {directory base path : String} {routes : List Route} {content : ByteArray} {workbook : Workbook}
    {schemas : List Schema} (required : settings.require .tablePath = .ok directory)
    (builtin : settings.typeAliasPath = none) (there : session.tree.isDirectory directory = true)
    (listing : Path.listing? directory = some base) (files : session.tree.filesUnder base = .ok routes)
    (found : (workbookRoutes routes).map (Path.listed base) = [path])
    (no_enums : settings.enumFileName ≠ some (Path.stem path))
    (read : session.tree.read path = .ok content) (opened : Workbook.ofBytes path content.data.toList = .ok workbook)
    (discovered : (Schema.ofWorkbook workbook .builtin).2 = .ok schemas) :
    ∃ last, Ends (ofSettings settings) session (empty.add (settings.stringFileName = some (Path.stem path)) schemas) last := by
  have searched : Ends (findWorkbooks directory) session [path] session :=
    found ▸ findWorkbooks_ends there listing files (found ▸ List.cons_ne_nil path [])
  have aliases : Ends settings.aliases session .builtin session := by
    rw [Settings.aliases, builtin]
    rfl
  have named_path : ∃ told, Ends (tellPaths [path]) session () told ∧ told.tree = session.tree := ⟨_, rfl, rfl⟩
  obtain ⟨named, names, named_tree⟩ := named_path
  obtain ⟨told, discovered_read⟩ := readWorkbook_ends (named_tree ▸ read) opened discovered
  have added : Ends (addPath settings .builtin empty path) named
      (empty.add (settings.stringFileName = some (Path.stem path)) schemas) told := by
    rw [addPath, if_neg no_enums]
    exact bind_ok_iff.mpr ⟨schemas, told, discovered_read, rfl⟩
  have all_added : Ends ([path].foldlM (addPath settings .builtin) empty) named
      (empty.add (settings.stringFileName = some (Path.stem path)) schemas) told :=
    bind_ok_iff.mpr ⟨_, told, added, rfl⟩
  exact ⟨told, bind_ok_iff.mpr ⟨directory, session, ofResult_ok_iff.mpr ⟨required, rfl⟩,
    bind_ok_iff.mpr ⟨.builtin, session, aliases, bind_ok_iff.mpr ⟨[path], session, searched,
      bind_ok_iff.mpr ⟨(), named, names, all_added⟩⟩⟩⟩⟩

end Collection

theorem needDirectory_ends {directory : String} (there : session.tree.isDirectory directory = true) :
    Ends (needDirectory directory) session () session :=
  bind_ok_iff.mpr ⟨true, session, isDirectory_ends there, rfl⟩

/-- A file is written where no directory is. -/
theorem writeText_ends {path text : String} {route : Route} (located : session.tree.locate path = .ok route)
    (free : session.tree.hasDirectory route = false) : Ends (ofFile (Workspace.writeText path text)) session ()
      { session with tree := session.tree.put route (.file text.toUTF8) } :=
  ofFile_change_ok_iff.mpr ⟨_, FileTree.write_ok_iff.mpr ⟨route, located, free, rfl⟩, rfl⟩

theorem removeFile_ends {path : String} {route : Route} {content : ByteArray}
    (located : session.tree.locate path = .ok route) (found : session.tree.entry? route = some (.file content)) :
    Ends (ofFile (Workspace.removeFile path)) session () { session with tree := session.tree.erase route } :=
  ofFile_change_ok_iff.mpr ⟨_, FileTree.remove_ok_iff.mpr ⟨route, content, located, found, rfl⟩, rfl⟩

theorem makeDirectories_ends {path : String} {route : Route} (located : session.tree.locate path = .ok route)
    (there : session.tree.hasDirectory route = true) :
    Ends (ofFile (Workspace.makeDirectories path)) session () session := by
  have made : (Session.makeDirectories path).run session = (.ok (), session) := by
    have unchanged := FileTree.makeDirectories_of_hasDirectory located there
    exact congrArg (fun made => (made.2, { session with tree := made.1 })) unchanged
  rw [Ends, run_ofFile]
  exact congrArg (fun outcome => (outcome.1.mapError Failure.file, outcome.2)) made

theorem runScript_ends {directory : String} {collection : Collection} {route : Route}
    (required : settings.require .scriptOutputPath = .ok directory) (there : session.tree.isDirectory directory = true)
    (located : session.tree.locate (Path.join directory Accessor.fileName) = .ok route)
    (free : session.tree.hasDirectory route = false) : ∃ last, Ends (runScript settings collection) session () last ∧
      last.tree = session.tree.put route (.file (Accessor.generate collection.tables).toUTF8) := by
  have saved : Ends (saveCode collection.tables directory) session (Path.join directory Accessor.fileName)
      { session with tree := session.tree.put route (.file (Accessor.generate collection.tables).toUTF8) } :=
    bind_ok_iff.mpr ⟨(), session, needDirectory_ends there, bind_ok_iff.mpr ⟨(), _, writeText_ends located free, rfl⟩⟩
  exact ⟨_, bind_ok_iff.mpr ⟨directory, session, ofResult_ok_iff.mpr ⟨required, rfl⟩,
    bind_ok_iff.mpr ⟨_, _, saved, rfl⟩⟩, rfl⟩

theorem extractTables_ends {collection : Collection} {tables : Tables}
    (extracted : ((Tables.extract collection.tables).run.run KeyCatalog.empty).1 = .ok tables) (session : Session) :
    ∃ last, Ends (extractTables collection) session tables last ∧ last.tree = session.tree :=
  ⟨_, bind_ok_iff.mpr ⟨tables, session, ofResult_ok_iff.mpr ⟨extracted, rfl⟩, rfl⟩, rfl⟩

theorem extractLanguages_ends {collection : Collection} {languages : Languages}
    (extracted : Languages.extract collection.strings = .ok languages) (session : Session) :
    ∃ last, Ends (extractLanguages collection) session languages last ∧ last.tree = session.tree := by
  unfold extractLanguages
  dsimp only
  split
  · exact ⟨_, bind_ok_iff.mpr ⟨(), _, rfl, bind_ok_iff.mpr ⟨languages, _, ofResult_ok_iff.mpr ⟨extracted, rfl⟩, rfl⟩⟩, rfl⟩
  · exact ⟨_, bind_ok_iff.mpr ⟨languages, session, ofResult_ok_iff.mpr ⟨extracted, rfl⟩, rfl⟩, rfl⟩

theorem extract_ends {collection : Collection} {tables : Tables} {languages : Languages}
    (tables_ok : ((Tables.extract collection.tables).run.run KeyCatalog.empty).1 = .ok tables)
    (languages_ok : Languages.extract collection.strings = .ok languages) (session : Session) :
    ∃ last, Ends (extract .all collection) session ⟨some tables, some languages⟩ last ∧ last.tree = session.tree := by
  obtain ⟨middle, tables_end, tables_tree⟩ := extractTables_ends tables_ok session
  obtain ⟨last, languages_end, languages_tree⟩ := extractLanguages_ends languages_ok middle
  refine ⟨last, bind_ok_iff.mpr ⟨some tables, middle, ?_, bind_ok_iff.mpr ⟨some languages, last, ?_, rfl⟩⟩,
    languages_tree.trans tables_tree⟩
  · exact bind_ok_iff.mpr ⟨tables, middle, tables_end, rfl⟩
  · exact bind_ok_iff.mpr ⟨languages, last, languages_end, rfl⟩

theorem save_output_ends {directory : String} {output : Output} {route : Route}
    (located : session.tree.locate (output.path directory) = .ok route)
    (free : session.tree.hasDirectory route = false) : ∃ last, Ends (output.save directory cipher) session () last ∧
      last.tree = session.tree.put route (.file (output.bytes cipher)) :=
  ⟨_, bind_ok_iff.mpr ⟨(), _, writeText_ends located free, rfl⟩, rfl⟩

theorem findOrphans_ends {directory base : String} {active names : List String} (listing : Path.listing? directory = some base)
    (files : session.tree.filesIn base = .ok names) : Ends (findOrphans directory active) session
      ((orphanNames active names).map fun name => Path.listed base [name]) session := by
  obtain ⟨route, located, there, _⟩ := FileTree.filesIn_ok_iff.mp files
  rw [findOrphans, listing]
  refine bind_ok_iff.mpr ⟨true, session, isDirectory_ends (isDirectory_iff.mpr ⟨route, located, there⟩), ?_⟩
  exact bind_ok_iff.mpr ⟨names, session, ofFile_look_ends files, rfl⟩

/-- An orphan that is a file can be dealt with. -/
theorem resolveOrphan_ends {path : String} {route : Route} {content : ByteArray}
    (located : session.tree.locate path = .ok route) (found : session.tree.entry? route = some (.file content)) :
    ∃ deleted last, Ends (resolveOrphan policy path) session deleted last := by
  have decided := OrphanPolicy.run_deletes policy path session
  cases allowed : policy.allows { session with asked := policy.questions [path] ++ session.asked } path with
  | true =>
    rw [allowed] at decided
    have removed : Ends (ofFile (Workspace.removeFile path))
        { session with asked := policy.questions [path] ++ session.asked } () _ := removeFile_ends located found
    exact ⟨true, _, bind_ok_iff.mpr ⟨true, _, decided, bind_ok_iff.mpr ⟨(), _, removed, rfl⟩⟩⟩
  | false =>
    rw [allowed] at decided
    exact ⟨false, _, bind_ok_iff.mpr ⟨false, _, decided, rfl⟩⟩

private theorem filterAuxM_resolveOrphan_ends {paths : List String} (deleted : List String)
    (apart : paths.Pairwise fun path other => ∀ route, session.tree.locate path = .ok route →
      session.tree.locate other ≠ .ok route)
    (files : ∀ path ∈ paths, ∃ route content, session.tree.locate path = .ok route ∧
      session.tree.entry? route = some (.file content)) :
    ∃ found last, Ends (paths.filterAuxM (resolveOrphan policy) deleted) session found last := by
  induction paths generalizing session deleted with
  | nil => exact ⟨deleted, session, rfl⟩
  | cons path paths ih =>
    obtain ⟨away, apart⟩ := List.pairwise_cons.mp apart
    obtain ⟨route, content, located, found⟩ := files path List.mem_cons_self
    obtain ⟨gone, middle, first⟩ : ∃ gone middle, Ends (resolveOrphan policy path) session gone middle :=
      resolveOrphan_ends located found
    have swept := resolveOrphan_ok first
    have same_places {other : String} {place : Route} :
        middle.tree.locate other = .ok place ↔ session.tree.locate other = .ok place :=
      swept.edits.directories.locate_ok_iff
    have rest_apart : paths.Pairwise fun path other => ∀ route, middle.tree.locate path = .ok route →
        middle.tree.locate other ≠ .ok route :=
      apart.imp fun differ place here there => differ place (same_places.mp here) (same_places.mp there)
    have rest_files : ∀ other ∈ paths, ∃ route content, middle.tree.locate other = .ok route ∧
        middle.tree.entry? route = some (.file content) := by
      intro other member
      obtain ⟨place, held, led, there⟩ := files other (List.mem_cons_of_mem path member)
      refine ⟨place, held, same_places.mpr led, ?_⟩
      rw [swept.kept place, there]
      intro orphan is_path _ here
      rw [List.mem_singleton.mp is_path] at here
      exact away other member place here led
    obtain ⟨rest, last, ran⟩ := ih (if gone then path :: deleted else deleted) rest_apart rest_files
    refine ⟨rest, last, bind_ok_iff.mpr ⟨gone, middle, first, ?_⟩⟩
    cases gone <;> exact ran

/-- Orphans that are files can all be dealt with, if no two paths lead to the same file. -/
theorem filterM_resolveOrphan_ends {paths : List String}
    (apart : paths.Pairwise fun path other => ∀ route, session.tree.locate path = .ok route →
      session.tree.locate other ≠ .ok route)
    (files : ∀ path ∈ paths, ∃ route content, session.tree.locate path = .ok route ∧
      session.tree.entry? route = some (.file content)) :
    ∃ deleted last, Ends (paths.filterM (resolveOrphan policy)) session deleted last := by
  obtain ⟨found, last, ran⟩ := filterAuxM_resolveOrphan_ends [] apart files
  exact ⟨found.reverse, last, bind_ok_iff.mpr ⟨found, last, ran, rfl⟩⟩

/-- Documents are written once the orphans of their directory were dealt with. -/
theorem saveOutputs_ends {directory base : String} {outputs : List Output} {names paths deleted : List String}
    {middle last : Session} (listing : Path.listing? directory = some base) (files : session.tree.filesIn base = .ok names)
    (orphans : (orphanNames (outputs.map (·.stem)) names).map (fun name => Path.listed base [name]) = paths)
    (resolved : Ends (paths.filterM (resolveOrphan policy)) session deleted middle)
    (written : Ends (outputs.forM (Output.save directory cipher)) middle () last) :
    Ends (saveOutputs directory cipher policy outputs) session () last := by
  have found : Ends (findOrphans directory (outputs.map (·.stem))) session paths session :=
    orphans ▸ findOrphans_ends listing files
  exact bind_ok_iff.mpr ⟨deleted, middle, bind_ok_iff.mpr ⟨paths, session, found, resolved⟩, written⟩

theorem saveTables_ends {directory : String} {tables : Tables} {reached : Session → Prop}
    (required : settings.require .tableOutputPath = .ok directory)
    (there : session.tree.isDirectory directory = true) (saves : ∀ ready : Session, ready.tree = session.tree →
      ∃ last, Ends (saveOutputs directory cipher policy tables.outputs) ready () last ∧ reached last) :
    ∃ last, Ends (saveTables settings cipher policy (some tables)) session () last ∧ reached last := by
  obtain ⟨last, saved, at_last⟩ := saves { session with reports := session.reports ++ [Report.info "[Tables]"] } rfl
  refine ⟨last, bind_ok_iff.mpr ⟨directory, session, ofResult_ok_iff.mpr ⟨required, rfl⟩, ?_⟩, at_last⟩
  exact bind_ok_iff.mpr ⟨(), _, rfl, bind_ok_iff.mpr ⟨(), _, needDirectory_ends there, saved⟩⟩

theorem saveLanguages_ends {directory : String} {languages : Languages} {route : Route} {reached : Session → Prop}
    (required : settings.require .stringOutputPath = .ok directory) (located : session.tree.locate directory = .ok route)
    (there : session.tree.hasDirectory route = true) (saves : ∀ ready : Session, ready.tree = session.tree →
      ∃ last, Ends (saveOutputs directory cipher policy languages.outputs) ready () last ∧ reached last) :
    ∃ last, Ends (saveLanguages settings cipher policy (some languages)) session () last ∧ reached last := by
  obtain ⟨last, saved, at_last⟩ := saves { session with reports := session.reports ++ [Report.info "[Strings]"] } rfl
  refine ⟨last, bind_ok_iff.mpr ⟨directory, session, ofResult_ok_iff.mpr ⟨required, rfl⟩, ?_⟩, at_last⟩
  exact bind_ok_iff.mpr ⟨(), _, rfl, bind_ok_iff.mpr ⟨(), _, makeDirectories_ends located there, saved⟩⟩

/-- A run comes to its end if its parts do, each on the tree that the one before leaves. -/
theorem run_ends {product : Product} {order : WriteOrder} {collection : Collection} {tree : FileTree}
    (extracted : Extracted) (reached : FileTree → Prop) (checked : settings.check product = .ok ())
    (ciphered : settings.cipher = .ok cipher)
    (collects : ∀ told : Session, told.tree = session.tree →
      ∃ collected, Ends (Collection.ofSettings settings) told collection collected ∧ collected.tree = session.tree)
    (scripts : ∀ collected : Session, collected.tree = session.tree → ∃ scripted, Ends
      (if product.hasScript then runScript settings collection else pure ()) collected () scripted ∧ scripted.tree = tree)
    (extracts : ∀ scripted : Session, scripted.tree = tree →
      ∃ ready, Ends (extract product collection) scripted extracted ready ∧ ready.tree = tree)
    (saves : ∀ ready : Session, ready.tree = tree →
      ∃ saved, Ends (saveExtracted settings cipher policy order extracted) ready () saved ∧ reached saved.tree) :
    ∃ last, Ends (run settings policy order product) session () last ∧ reached last.tree := by
  obtain ⟨collected, collected_end, collected_tree⟩ := collects
    { session with reports := session.reports ++ [Report.info ("Starting " ++ product.name ++ " extraction")] } rfl
  obtain ⟨scripted, scripted_end, scripted_tree⟩ := scripts collected collected_tree
  obtain ⟨ready, ready_end, ready_tree⟩ := extracts scripted scripted_tree
  obtain ⟨saved, saved_end, at_saved⟩ := saves ready ready_tree
  refine ⟨{ saved with reports := saved.reports ++ [Report.success ("Completed " ++ product.name ++ " extraction")] },
    ?_, at_saved⟩
  rw [run_eq]
  exact bind_ok_iff.mpr ⟨(), _, rfl, bind_ok_iff.mpr ⟨(), _, ofResult_ok_iff.mpr ⟨checked, rfl⟩,
    bind_ok_iff.mpr ⟨cipher, _, ofResult_ok_iff.mpr ⟨ciphered, rfl⟩, bind_ok_iff.mpr ⟨collection, _, collected_end,
      bind_ok_iff.mpr ⟨(), _, scripted_end, bind_ok_iff.mpr ⟨extracted, _, ready_end,
        bind_ok_iff.mpr ⟨(), _, saved_end, rfl⟩⟩⟩⟩⟩⟩⟩

end Tablesmith
