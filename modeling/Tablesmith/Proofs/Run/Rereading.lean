import Mathlib
import Tablesmith.Proofs.Run.Amendments
import Tablesmith.Proofs.Run.Effects
import Tablesmith.Proofs.Run.Search

/-!
# Workbooks that are read again

A run reads the workbooks below a directory and nothing else. None of them is at a
place of output, so that a tree which follows the one they were collected from has the
same workbooks, in the same order and with the same content
(`Follows.collects`).
-/

namespace Tablesmith

open Files Running Steps

variable {α : Type} {answer : String → Bool} {before after : FileTree} {place parent : Route} {path : String}

namespace Turns

theorem forM_tell_iff {item : Type} {report : item → Report} {items : List item} {done : Unit} :
    Turns answer (items.forM fun item => tell (report item)) before done after ↔ after = before := by
  obtain ⟨last, tells, same⟩ := forM_tell_ends report items (Session.start before answer)
  have turns : Turns answer (items.forM fun item => tell (report item)) before () before := ⟨last, tells, same⟩
  constructor
  · intro told
    exact (told.deterministic turns).2
  · rintro rfl
    exact turns

end Turns

/-- A directory is searched that is there, and in which there is a workbook. -/
theorem findWorkbooks_turns_iff {directory : String} {paths : List String} :
    Turns answer (findWorkbooks directory) before paths after ↔ before.isDirectory directory = true ∧ paths ≠ [] ∧
      (∃ base routes, Path.listing? directory = some base ∧ before.filesUnder base = .ok routes ∧
        paths = (workbookRoutes routes).map (Path.listed base)) ∧ after = before := by
  constructor
  · rintro ⟨last, ran, rfl⟩
    obtain ⟨found, rfl⟩ := Prod.mk_inj.mp ((run_findWorkbooks directory _).symm.trans ran)
    obtain ⟨there, paths_are, filled⟩ := searched_ok_iff.mp found
    refine ⟨there, filled, ?_, rfl⟩
    obtain ⟨parent, located, parent_there⟩ := isDirectory_iff.mp there
    cases listing : Path.listing? directory with
    | none =>
      rw [workbookPaths_of_isDotted _ (Path.listing?_eq_none_iff.mp listing)] at paths_are
      exact absurd paths_are filled
    | some base =>
      rw [workbookPaths_of_located listing located parent_there] at paths_are
      exact ⟨base, _, rfl, (filesUnder_listing listing located parent_there).2, paths_are⟩
  · rintro ⟨there, filled, ⟨base, routes, listing, files, rfl⟩, rfl⟩
    exact ⟨Session.start after answer, findWorkbooks_ends there listing files filled, rfl⟩

namespace Collection

variable {settings : Settings} {aliases : TypeAliases} {collection next : Collection}

private theorem plain_openWorkbook (path : String) : IsPlain answer (openWorkbook path) :=
  InStep.withFile path ((InStep.ofFile ((runsAlike_alike answer).toReadsAlike.readBytes path)).bind fun _ => InStep.ofResult _ _)

theorem openWorkbook_turns_iff {workbook : Workbook} : Turns answer (openWorkbook path) before workbook after ↔
    (∃ content, before.read path = .ok content ∧ Workbook.ofBytes path content.data.toList = .ok workbook) ∧ after = before := by
  constructor
  · rintro ⟨last, ran, rfl⟩
    obtain ⟨opened, rfl⟩ := openWorkbook_ends_iff.mp ran
    exact ⟨opened, rfl⟩
  · rintro ⟨opened, rfl⟩
    exact ⟨_, openWorkbook_ends_iff.mpr ⟨opened, rfl⟩, rfl⟩

theorem readWorkbook_turns_iff {schemas : List Schema} : Turns answer (readWorkbook aliases path) before schemas after ↔
    (∃ content workbook, before.read path = .ok content ∧ Workbook.ofBytes path content.data.toList = .ok workbook ∧
      (Schema.ofWorkbook workbook aliases).2 = .ok schemas) ∧ after = before := by
  have tells (workbook : Workbook) : IsPlain answer ((Schema.ofWorkbook workbook aliases).1.forM tell) :=
    InStep.forM IsPlain.tell _
  have stepwise : Turns answer (readWorkbook aliases path) before schemas after ↔ _ :=
    Turns.bind_iff (plain_openWorkbook path) fun workbook => (tells workbook).bind fun _ => InStep.ofResult _ _
  have told {workbook : Workbook} {middle last : FileTree} {done : Unit} :
      Turns answer ((Schema.ofWorkbook workbook aliases).1.forM tell) middle done last ↔ last = middle := Turns.forM_tell_iff
  rw [stepwise]
  simp only [openWorkbook_turns_iff, Turns.bind_iff (tells _) fun _ => InStep.ofResult _ _, told, Turns.ofResult_iff]
  constructor
  · rintro ⟨workbook, _, ⟨⟨content, read, opened⟩, rfl⟩, _, _, rfl, discovered, rfl⟩
    exact ⟨⟨content, workbook, read, opened, discovered⟩, rfl⟩
  · rintro ⟨⟨content, workbook, read, opened, discovered⟩, rfl⟩
    exact ⟨workbook, after, ⟨⟨content, read, opened⟩, rfl⟩, (), after, rfl, discovered, rfl⟩

private theorem plain_addPath (collection : Collection) (path : String) :
    IsPlain answer (addPath settings aliases collection path) :=
  (runsAlike_alike answer).toReadsAlike.addPath settings aliases collection path

/-- A workbook that is read again is added again. -/
theorem addPath_reread {also : FileTree} (reread : ∀ content, before.read path = .ok content → also.read path = .ok content)
    (adds : Turns answer (addPath settings aliases collection path) before next after) :
    after = before ∧ Turns answer (addPath settings aliases collection path) also next also := by
  by_cases skipped : settings.enumFileName = some (Path.stem path)
  · have stepwise {tree last : FileTree} : Turns answer (addPath settings aliases collection path) tree next last ↔
        next = collection ∧ last = tree := by
      rw [addPath, if_pos skipped, Turns.tell_bind_iff (InStep.pure collection), Turns.pure_iff]
    obtain ⟨rfl, rfl⟩ := stepwise.mp adds
    exact ⟨rfl, stepwise.mpr ⟨rfl, rfl⟩⟩
  · have reads : IsPlain answer (readWorkbook aliases path) :=
      (plain_openWorkbook path).bind fun _ => (InStep.forM IsPlain.tell _).bind fun _ => InStep.ofResult _ _
    have stepwise {tree last : FileTree} : Turns answer (addPath settings aliases collection path) tree next last ↔
        ∃ schemas middle, Turns answer (readWorkbook aliases path) tree schemas middle ∧
          next = collection.add (settings.stringFileName = some (Path.stem path)) schemas ∧ last = middle := by
      rw [addPath, if_neg skipped, Turns.bind_iff reads fun _ => InStep.pure _]
      simp only [Turns.pure_iff]
    obtain ⟨schemas, middle, read_turns, rfl, rfl⟩ := stepwise.mp adds
    obtain ⟨⟨content, workbook, read, opened, discovered⟩, rfl⟩ := readWorkbook_turns_iff.mp read_turns
    have again : Turns answer (readWorkbook aliases path) also schemas also :=
      readWorkbook_turns_iff.mpr ⟨⟨content, workbook, reread content read, opened, discovered⟩, rfl⟩
    exact ⟨rfl, stepwise.mpr ⟨schemas, also, again, rfl, rfl⟩⟩

theorem foldlM_addPath_reread {also : FileTree} {paths : List String}
    (reread : ∀ path ∈ paths, ∀ content, before.read path = .ok content → also.read path = .ok content)
    (adds : Turns answer (paths.foldlM (addPath settings aliases) collection) before next after) :
    Turns answer (paths.foldlM (addPath settings aliases) collection) also next also := by
  induction paths generalizing collection with
  | nil =>
    obtain ⟨rfl, _⟩ := Turns.pure_iff.mp adds
    exact Turns.pure_iff.mpr ⟨rfl, rfl⟩
  | cons path paths ih =>
    have stepwise {tree last : FileTree} : Turns answer ((path :: paths).foldlM (addPath settings aliases) collection) tree next last ↔
        ∃ added middle, Turns answer (addPath settings aliases collection path) tree added middle ∧
          Turns answer (paths.foldlM (addPath settings aliases) added) middle next last :=
      Turns.bind_iff (plain_addPath collection path) fun added => InStep.foldlM plain_addPath paths added
    obtain ⟨path_reread, paths_reread⟩ := List.forall_mem_cons.mp reread
    obtain ⟨added, middle, first, rest⟩ := stepwise.mp adds
    obtain ⟨rfl, first_again⟩ := addPath_reread path_reread first
    exact stepwise.mpr ⟨added, also, first_again, ih paths_reread rest⟩

private theorem plain_tellPaths (paths : List String) : IsPlain answer (tellPaths paths) :=
  (IsPlain.tell _).bind fun _ => (InStep.forM (fun _ => IsPlain.tell _) paths).bind fun _ => IsPlain.tell _

theorem tellPaths_turns_iff {paths : List String} {done : Unit} :
    Turns answer (tellPaths paths) before done after ↔ after = before := by
  have names : IsPlain answer (paths.forM fun path => tell (.info ("  * " ++ (Path.fileName? path).getD ""))) :=
    InStep.forM (fun _ => IsPlain.tell _) paths
  rw [tellPaths, Turns.tell_bind_iff (names.bind fun _ => IsPlain.tell _), Turns.bind_iff names fun _ => IsPlain.tell _]
  simp only [Turns.forM_tell_iff, Turns.tell_iff]
  constructor
  · rintro ⟨_, _, rfl, rfl⟩
    rfl
  · rintro rfl
    exact ⟨done, after, rfl, rfl⟩

/-- The search for workbooks comes first, and then what is in them. -/
theorem ofDirectory_turns_iff {directory : String} : Turns answer (ofDirectory settings aliases directory) before next after ↔
    ∃ paths middle, Turns answer (findWorkbooks directory) before paths middle ∧
      Turns answer (paths.foldlM (addPath settings aliases) empty) middle next after := by
  have finds : IsPlain answer (findWorkbooks directory) := (runsAlike_alike answer).toReadsAlike.findWorkbooks directory
  have adds (paths : List String) : IsPlain answer (paths.foldlM (addPath settings aliases) empty) :=
    InStep.foldlM plain_addPath paths empty
  refine (Turns.bind_iff finds fun paths => (plain_tellPaths paths).bind fun _ => adds paths).trans ?_
  simp only [Turns.bind_iff (plain_tellPaths _) fun _ => adds _, tellPaths_turns_iff]
  refine exists_congr fun paths => exists_congr fun middle => and_congr_right fun _ => ?_
  constructor
  · rintro ⟨_, _, rfl, added⟩
    exact added
  · intro added
    exact ⟨(), middle, rfl, added⟩

end Collection

/-- No workbook is at a place of output. -/
theorem not_isOutputPlace_of_isWorkbookName {name : String} (workbook : isWorkbookName name = true)
    (named : Path.IsName name) (parent : Route) : ¬ IsOutputPlace (parent ++ [name]) := by
  rw [isOutputPlace_concat]
  intro output
  rw [output.not_isWorkbookName named] at workbook
  cases workbook

namespace Follows

variable {base directory : String} {route : Route} {paths : List String}

theorem entry?_workbook {content : ByteArray} (follows : Follows before after) (names : before.HasNames)
    (workbook : isWorkbookRoute route = true) (parent : Route) :
    after.entry? (parent ++ route) = some (.file content) ↔ before.entry? (parent ++ route) = some (.file content) := by
  obtain ⟨folder, name, rfl, named⟩ := isWorkbookRoute_iff.mp workbook
  have same (proper : Path.IsName name) : after.content? (parent ++ (folder ++ [name])) = before.content? (parent ++ (folder ++ [name])) := by
    rw [← List.append_assoc]
    exact follows.content _ (not_isOutputPlace_of_isWorkbookName named proper _)
  constructor
  · intro found
    rwa [← FileTree.content?_eq_some_iff, ← same ((follows.names names).name found name (by simp)),
      FileTree.content?_eq_some_iff]
  · intro found
    rwa [← FileTree.content?_eq_some_iff, same (names.name found name (by simp)), FileTree.content?_eq_some_iff]

/-- The same workbooks are below a directory. -/
theorem workbookRoutes_filesBelow (follows : Follows before after) (names : before.HasNames) (parent : Route) :
    workbookRoutes (after.filesBelow parent) = workbookRoutes (before.filesBelow parent) := by
  apply workbookRoutes_perm
  rw [List.perm_ext_iff_of_nodup ((after.nodup_filesBelow parent).filter _) ((before.nodup_filesBelow parent).filter _)]
  intro route
  rw [List.mem_filter, List.mem_filter]
  refine and_congr_left fun workbook => ?_
  obtain ⟨folder, name, split, _⟩ := isWorkbookRoute_iff.mp workbook
  have below : parent ++ route ≠ [] := by simp [split]
  rw [FileTree.mem_filesBelow_iff below, FileTree.mem_filesBelow_iff below]
  exact exists_congr fun content => follows.entry?_workbook names workbook parent

/-- A workbook that was read has the same content. -/
theorem read_listed {content : ByteArray} (follows : Follows before after) (workbook : isWorkbookRoute route = true)
    (proper : ∀ name ∈ route, Path.IsName name) (read : before.read (Path.listed base route) = .ok content) :
    after.read (Path.listed base route) = .ok content := by
  obtain ⟨folder, name, rfl, named⟩ := isWorkbookRoute_iff.mp workbook
  have name_proper := proper name (by simp)
  obtain ⟨place, located, found⟩ := FileTree.read_ok_iff.mp read
  obtain ⟨parts, pieces⟩ := Path.pieces_listed base folder name_proper.whole
  obtain ⟨parent, rfl, _⟩ := FileTree.locate_of_pieces name_proper pieces located
  have same := follows.content _ (not_isOutputPlace_of_isWorkbookName named name_proper parent)
  refine FileTree.read_ok_iff.mpr ⟨_, follows.extended.locate located, ?_⟩
  rwa [← FileTree.content?_eq_some_iff, same, FileTree.content?_eq_some_iff]

/-- The same workbooks are found, and they can be read as before. -/
theorem finds (follows : Follows before after) (names : before.HasNames)
    (searched : Turns answer (findWorkbooks directory) before paths before) :
    Turns answer (findWorkbooks directory) after paths after ∧
      ∀ path ∈ paths, ∀ content, before.read path = .ok content → after.read path = .ok content := by
  obtain ⟨there, filled, ⟨base, routes, listing, files, rfl⟩, _⟩ := findWorkbooks_turns_iff.mp searched
  obtain ⟨parent, located, parent_there, rfl⟩ := FileTree.filesUnder_ok_iff.mp files
  constructor
  · have again : after.filesUnder base = .ok (after.filesBelow parent) := FileTree.filesUnder_ok_iff.mpr
      ⟨parent, follows.extended.locate located, follows.extended.directory parent parent_there, rfl⟩
    refine findWorkbooks_turns_iff.mpr ⟨follows.isDirectory there, filled, ⟨base, _, listing, again, ?_⟩, rfl⟩
    rw [follows.workbookRoutes_filesBelow names]
  · intro path member content read
    obtain ⟨route, is_workbook, rfl⟩ := List.mem_map.mp member
    obtain ⟨listed, workbook⟩ := List.mem_filter.mp (List.mem_mergeSort.mp is_workbook)
    obtain ⟨folder, name, split, _⟩ := isWorkbookRoute_iff.mp workbook
    have below : parent ++ route ≠ [] := by simp [split]
    obtain ⟨_, found⟩ := (FileTree.mem_filesBelow_iff below).mp listed
    exact follows.read_listed workbook (fun name inside => names.name found name (List.mem_append_right parent inside)) read

/-- The same schemas are collected from a tree that follows. -/
theorem collects {settings : Settings} {collection : Collection} (builtin : settings.typeAliasPath = none)
    (follows : Follows before after) (names : before.HasNames)
    (collected : Turns answer (Collection.ofSettings settings) before collection before) :
    Turns answer (Collection.ofSettings settings) after collection after := by
  have stepwise {tree last : FileTree} : Turns answer (Collection.ofSettings settings) tree collection last ↔
      ∃ directory, settings.require .tablePath = .ok directory ∧
        Turns answer (Collection.ofDirectory settings .builtin directory) tree collection last := by
    have aliases : (settings.aliases : Running (StateM Session) TypeAliases) = pure .builtin := by
      rw [Settings.aliases, builtin]
    rw [Collection.ofSettings, aliases]
    exact Turns.ofResult_bind_iff
  obtain ⟨directory, required, searched⟩ := stepwise.mp collected
  obtain ⟨paths, middle, found, adds⟩ := Collection.ofDirectory_turns_iff.mp searched
  obtain ⟨_, _, _, rfl⟩ := findWorkbooks_turns_iff.mp found
  obtain ⟨found_again, reread⟩ := follows.finds names found
  have adds_again := Collection.foldlM_addPath_reread reread adds
  exact stepwise.mpr ⟨directory, required, Collection.ofDirectory_turns_iff.mpr ⟨paths, after, found_again, adds_again⟩⟩

end Follows

end Tablesmith
