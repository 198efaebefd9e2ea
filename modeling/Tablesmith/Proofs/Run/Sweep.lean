import Mathlib
import Tablesmith.Proofs.Files.Listing
import Tablesmith.Proofs.Run.Confinement
import Tablesmith.Proofs.Run.Effects
import Tablesmith.Proofs.TypeAlias

/-!
# What a sweep deletes

The orphans of a directory are the files in it with the name of a document whose stem is
not in use. They are found in the order of their names (`lists_orphanPaths`), and of
those the ones that may be deleted are deleted (`Resolved`). Two kinds of paths are
exceptions: in directories whose path begins with dots and an empty piece none is found,
and an empty path is taken for the top directory (`resolveOrphans_exact_iff`).
-/

namespace Tablesmith

open Files Running Steps

variable {tree : FileTree} {session : Session} {directory base name : String} {active : List String} {place : Route}

/-- The name of a document whose stem is not in use; a name that is nothing but the ending is its own stem. -/
def IsStale (active : List String) (name : String) : Prop :=
  ∃ stem, name = documentName stem ∧ (if stem = "" then documentEnding else stem) ∉ active

/-- A file is at the place, directly in the directory that the path leads to, whose name is that of an old document. -/
def StaleAt (tree : FileTree) (directory : String) (active : List String) (place : Route) : Prop :=
  ∃ parent name content, tree.locate directory = .ok parent ∧ place = parent ++ [name] ∧
    tree.entry? place = some (.file content) ∧ IsStale active name

theorem isOrphanName_iff_isStale (proper : Path.IsName name) : isOrphanName active name = true ↔ IsStale active name := by
  constructor
  · intro orphan
    obtain ⟨stem, rfl⟩ := documentEnding_suffix_iff.mp (isOrphanName_iff.mp orphan).1
    exact ⟨stem, rfl, (isOrphanName_documentName_iff proper).mp orphan⟩
  · rintro ⟨stem, rfl, unused⟩
    exact (isOrphanName_documentName_iff proper).mpr unused

/-- What an old document is in is a directory. -/
theorem StaleAt.isDirectory (system : tree.IsFileSystem) (stale : StaleAt tree directory active place) :
    tree.isDirectory directory = true := by
  obtain ⟨parent, name, content, located, rfl, found, _⟩ := stale
  exact isDirectory_iff.mpr ⟨parent, located, system.hasDirectory_above (by simp) found⟩

theorem orphanNames_rises {names : List String} (distinct : names.Nodup) : (orphanNames active names).Pairwise (· < ·) :=
  FileTree.mergeSort_rises TypeAliases.textLe_iff (distinct.filter _)

theorem mem_orphanNames_iff (proper : tree.HasNames) {parent : Route} :
    name ∈ orphanNames active ((tree.filesBelow parent).filterMap FileTree.singleName?) ↔
      (∃ content, tree.entry? (parent ++ [name]) = some (.file content)) ∧ IsStale active name := by
  rw [orphanNames, List.mem_mergeSort, List.mem_filter, FileTree.mem_namesOf_iff]
  refine and_congr_right fun there => isOrphanName_iff_isStale ?_
  obtain ⟨content, found⟩ := there
  exact proper.name found name (by simp)

theorem orphanPaths_of_isDotted (tree : FileTree) (dotted : Path.IsDotted directory) (active : List String) :
    orphanPaths tree directory active = [] := by
  rw [orphanPaths, Path.listing?_eq_none_iff.mpr dotted]

/-- All old documents are listed where the path says that the files of the directory are. -/
theorem lists_orphanPaths (system : tree.IsFileSystem) (listing : Path.listing? directory = some base) :
    tree.Lists (orphanPaths tree directory active) (StaleAt tree base active) := by
  by_cases there : tree.isDirectory base = true
  · obtain ⟨parent, located, parent_there⟩ := isDirectory_iff.mp there
    have files := FileTree.filesIn_ok_iff.mpr ⟨parent, located, parent_there, rfl⟩
    have paths : orphanPaths tree directory active =
        ((orphanNames active ((tree.filesBelow parent).filterMap FileTree.singleName?)).map ([·])).map (Path.listed base) := by
      simp only [orphanPaths, listing, files, List.map_map, Function.comp_def]
    rw [paths]
    refine FileTree.lists_of_routes system (Path.listing_ne_empty listing) located ?_ ?_ ?_
    · refine List.pairwise_map.mpr ((orphanNames_rises (tree.nodup_namesOf parent)).imp fun less => ?_)
      exact List.Lex.rel less
    · rintro _ listed
      obtain ⟨name, orphan, rfl⟩ := List.mem_map.mp listed
      obtain ⟨⟨content, found⟩, _⟩ := (mem_orphanNames_iff system.names).mp orphan
      exact ⟨by simp, _, found⟩
    · intro place
      constructor
      · rintro ⟨_, listed, rfl⟩
        obtain ⟨name, orphan, rfl⟩ := List.mem_map.mp listed
        obtain ⟨⟨content, found⟩, stale⟩ := (mem_orphanNames_iff system.names).mp orphan
        exact ⟨parent, name, content, located, rfl, found, stale⟩
      · rintro ⟨other, name, content, other_located, rfl, found, stale⟩
        cases located.symm.trans other_located
        have orphan := (mem_orphanNames_iff system.names).mpr ⟨⟨content, found⟩, stale⟩
        exact ⟨[name], List.mem_map_of_mem orphan, rfl⟩
  · rw [orphanPaths_of_not_isDirectory listing there, FileTree.Lists.nil_iff]
    exact fun place stale => there (stale.isDirectory system)

theorem staleAt_listing_eq (filled : directory ≠ "") (listing : Path.listing? directory = some base) :
    StaleAt tree base active = StaleAt tree directory active := by
  funext place
  simp only [StaleAt, FileTree.locate_listing_ok_iff filled listing]

/-- No path is empty that leads somewhere. -/
theorem not_staleAt_empty : ¬ StaleAt tree "" active place := by
  rintro ⟨parent, _, _, located, _⟩
  exact (FileTree.locate_ok_iff.mp located).2.1 rfl

/-- Exactly the old documents of a directory are listed, unless the path is empty and the top directory has old documents,
or the path begins with dots and an empty piece and its directory has some. -/
theorem lists_orphanPaths_iff (system : tree.IsFileSystem) (directory : String) (active : List String) :
    tree.Lists (orphanPaths tree directory active) (StaleAt tree directory active) ↔
      (directory = "" → ∀ place, ¬ StaleAt tree "/" active place) ∧
        (Path.IsDotted directory → ∀ place, ¬ StaleAt tree directory active place) := by
  by_cases empty : directory = ""
  · -- Nothing is in front of the slash that is put behind the path, so that the listing begins at the top.
    have listing : Path.listing? "" = some "/" := by decide
    have listable : ¬ Path.IsDotted "" := mt Path.listing?_eq_none_iff.mpr (by simp [listing])
    have none_at_top : orphanPaths tree "" active = [] ↔ ∀ place, ¬ StaleAt tree "/" active place :=
      (lists_orphanPaths system listing).eq_nil_iff
    have nothing : ∀ place, ¬ StaleAt tree "" active place := fun _ => not_staleAt_empty
    subst empty
    rw [and_iff_left fun dotted => absurd dotted listable, imp_iff_right rfl, ← none_at_top]
    constructor
    · exact fun lists => lists.eq_nil_iff.mpr nothing
    · intro none_found
      rw [none_found, FileTree.Lists.nil_iff]
      exact nothing
  · by_cases dotted : Path.IsDotted directory
    · rw [orphanPaths_of_isDotted tree dotted, FileTree.Lists.nil_iff]
      simp [empty, dotted]
    · obtain ⟨base, listing⟩ := Option.ne_none_iff_exists'.mp (mt Path.listing?_eq_none_iff.mp dotted)
      have lists : tree.Lists (orphanPaths tree directory active) (StaleAt tree base active) := lists_orphanPaths system listing
      rw [staleAt_listing_eq empty listing] at lists
      simp [lists, empty, dotted]

/-- What is listed can be dealt with, file by file. -/
theorem resolves_lists {policy : OrphanPolicy} {paths : List String}
    (lists : session.tree.Lists paths (StaleAt session.tree base active)) :
    ∃ deleted last, Ends (paths.filterM (resolveOrphan policy)) session deleted last ∧ Resolved policy paths session deleted last := by
  obtain ⟨deleted, last, ran⟩ : ∃ deleted last, Ends (paths.filterM (resolveOrphan policy)) session deleted last := by
    refine filterM_resolveOrphan_ends lists.apart fun path listed => ?_
    obtain ⟨place, ⟨_, _, content, _, _, found, _⟩, located⟩ := lists.leads_to listed
    exact ⟨place, content, located, found⟩
  exact ⟨deleted, last, ran, filterM_resolveOrphan_ok lists.nodup ran⟩

/-- A sweep lists orphans and deals with each of them, and with nothing else. It lists exactly the old documents of the
directory, unless the path is empty or begins with dots and an empty piece. -/
theorem resolveOrphans_exact_iff (system : session.tree.IsFileSystem) (directory : String) (active : List String)
    (policy : OrphanPolicy) : ∃ paths deleted last, Ends (findOrphans directory active) session paths session ∧
      Ends (resolveOrphans directory active policy) session deleted last ∧ Resolved policy paths session deleted last ∧
      (session.tree.Lists paths (StaleAt session.tree directory active) ↔
        (directory = "" → ∀ place, ¬ StaleAt session.tree "/" active place) ∧
          (Path.IsDotted directory → ∀ place, ¬ StaleAt session.tree directory active place)) := by
  have found : Ends (findOrphans directory active) session (orphanPaths session.tree directory active) session :=
    findOrphans_ends_orphanPaths session
  have resolves : ∃ deleted last, Ends ((orphanPaths session.tree directory active).filterM (resolveOrphan policy)) session
      deleted last ∧ Resolved policy (orphanPaths session.tree directory active) session deleted last := by
    cases listing : Path.listing? directory with
    | none =>
      rw [orphanPaths_of_isDotted _ (Path.listing?_eq_none_iff.mp listing)]
      exact ⟨[], session, rfl, swept_nil session, rfl, by simp, by simp⟩
    | some base => exact resolves_lists (lists_orphanPaths system listing)
  obtain ⟨deleted, last, ran, resolved⟩ := resolves
  exact ⟨_, deleted, last, found, bind_ok_iff.mpr ⟨_, session, found, ran⟩, resolved,
    lists_orphanPaths_iff system directory active⟩

namespace SweepRun

/-- A document in use, two old ones, another file, a directory that is named as a document, and a file in it. -/
def folder : FileTree where
  entries := [(["out"], .directory), (["out", "Old.json"], .file .empty), (["out", "Item.json"], .file .empty),
    (["out", ".json"], .file .empty), (["out", "Old.txt"], .file .empty), (["out", "Sub.json"], .directory),
    (["out", "Sub.json", "Deep.json"], .file .empty)]
  home := []
  distinct := by decide

/-- The user agrees to the end of one of the old documents. -/
def start : Session :=
  Session.start folder (· == "out/Old.json")

theorem isFileSystem_folder : folder.IsFileSystem :=
  .of_routes (by decide) (by decide) (by decide) rfl

/-- An old document in the directory from which relative paths start. -/
def bareFolder : FileTree where
  entries := [(["Old.json"], .file .empty)]
  home := []
  distinct := by decide

def bareStart : Session :=
  Session.start bareFolder fun _ => true

theorem isFileSystem_bareFolder : bareFolder.IsFileSystem :=
  .of_routes (by decide) (by decide) (by decide) rfl

theorem orphanPaths_folder : orphanPaths folder "out" ["Item"] = ["out/.json", "out/Old.json"] := by
  have files : folder.filesIn "out" = .ok ["Old.json", "Item.json", ".json", "Old.txt"] := rfl
  have stale : ["Old.json", "Item.json", ".json", "Old.txt"].filter (isOrphanName ["Item"]) = ["Old.json", ".json"] := by
    decide +kernel
  have swapped : ["Old.json", ".json"].mergeSort textLe = [".json", "Old.json"] := FileTree.mergeSort_swapped (by decide +kernel)
  have listing : Path.listing? "out" = some "out" := by decide
  rw [orphanPaths, listing]
  dsimp only
  rw [files]
  dsimp only
  rw [orphanNames, stale, swapped]
  rfl

end SweepRun

theorem resolveOrphans_exact_folder : SweepRun.folder.IsFileSystem ∧ ∃ last,
    Ends (findOrphans "out" ["Item"]) SweepRun.start ["out/.json", "out/Old.json"] SweepRun.start ∧
    Ends (resolveOrphans "out" ["Item"] .ask) SweepRun.start ["out/Old.json"] last ∧
    Resolved .ask ["out/.json", "out/Old.json"] SweepRun.start ["out/Old.json"] last ∧
    SweepRun.folder.Lists ["out/.json", "out/Old.json"] (StaleAt SweepRun.folder "out" ["Item"]) := by
  obtain ⟨paths, deleted, last, found, ran, resolved, exact_iff⟩ : ∃ paths deleted last,
      Ends (findOrphans "out" ["Item"]) SweepRun.start paths SweepRun.start ∧ _ :=
    resolveOrphans_exact_iff SweepRun.isFileSystem_folder "out" ["Item"] .ask
  have listable : ¬ Path.IsDotted "out" := mt Path.listing?_eq_none_iff.mpr (by decide)
  have same_paths : paths = ["out/.json", "out/Old.json"] := by
    have again : Ends (findOrphans "out" ["Item"]) SweepRun.start ["out/.json", "out/Old.json"] SweepRun.start :=
      SweepRun.orphanPaths_folder ▸ findOrphans_ends_orphanPaths SweepRun.start
    exact Except.ok.inj (congrArg Prod.fst (found.symm.trans again))
  subst same_paths
  have same_deleted : deleted = ["out/Old.json"] := by
    have said (path : String) : OrphanPolicy.allows .ask last path =
        Session.agreed (fun _ => (· == "out/Old.json")) path ["out/Old.json", "out/.json"] := by
      rw [OrphanPolicy.allows, resolved.edits.answer, resolved.asked]
      rfl
    rw [resolved.deletes, List.filter_congr fun path _ => said path]
    decide
  subst same_deleted
  have lists := exact_iff.mpr ⟨fun empty => absurd empty (by decide), fun dotted => absurd dotted listable⟩
  exact ⟨SweepRun.isFileSystem_folder, last, found, ran, resolved, lists⟩

/-- The old document in the directory that the path leads to is not found. -/
theorem findOrphans_misses_home : SweepRun.bareFolder.IsFileSystem ∧
    StaleAt SweepRun.bareFolder "./" ["Item"] ["Old.json"] ∧
    ¬ SweepRun.bareFolder.Lists [] (StaleAt SweepRun.bareFolder "./" ["Item"]) ∧
    Ends (findOrphans "./" ["Item"]) SweepRun.bareStart [] SweepRun.bareStart ∧
    Ends (resolveOrphans "./" ["Item"] .delete) SweepRun.bareStart [] SweepRun.bareStart := by
  have stale : IsStale ["Item"] "Old.json" := ⟨"Old", rfl, by decide⟩
  have there : StaleAt SweepRun.bareFolder "./" ["Item"] ["Old.json"] := ⟨[], "Old.json", .empty, rfl, rfl, rfl, stale⟩
  exact ⟨SweepRun.isFileSystem_bareFolder, there, fun lists => FileTree.Lists.nil_iff.mp lists _ there, rfl, rfl⟩

end Tablesmith
