import Mathlib
import Tablesmith.Proofs.Files.Listing
import Tablesmith.Proofs.Run.Refusals

/-!
# What a search for workbooks finds

A search gives the path of every workbook below a directory once, in the order of the
names on the way (`lists_workbookPaths`), whatever else is there and in whatever order
the entries of directories are given. The one exception are paths of directories that
begin with dots and an empty piece, such as `./`: below them nothing is found
(`findWorkbooks_exact_iff`).
-/

namespace Tablesmith

open Files Running Steps Text

variable {tree : FileTree} {session : Session} {directory name : String} {parent place : Route} {routes others : List Route}

/-- The extension of workbooks of either format, in any case. -/
def IsWorkbookExtension (ending : String) : Prop :=
  sameAscii ending "xlsx" = true ∨ sameAscii ending "xls" = true

/-- The name of a workbook: there is something in front of its extension, and it does not begin as the name of a lock file
does. -/
structure IsWorkbookFile (name : String) : Prop where
  extension : ∃ stem ending, stem ≠ "" ∧ name = stem ++ "." ++ ending ∧ IsWorkbookExtension ending
  unlocked : ¬ "~$".toList <+: name.toList

theorem isWorkbookExtension_iff {ending : String} :
    IsWorkbookExtension ending ↔ workbookExtensions.contains (lowerAscii ending) = true := by
  have small : "xlsx".toList.map Char.toLower = "xlsx".toList ∧ "xls".toList.map Char.toLower = "xls".toList := by decide
  rw [IsWorkbookExtension, sameAscii_iff, sameAscii_iff, small.1, small.2]
  simp [workbookExtensions, lowerAscii, ← String.toList_inj]

theorem IsWorkbookExtension.no_dot {ending : String} (known : IsWorkbookExtension ending) : '.' ∉ ending.toList := by
  intro dot
  have lowered : '.' ∈ ending.toList.map Char.toLower := List.mem_map_of_mem (f := Char.toLower) dot
  rcases known with same | same
  · rw [sameAscii_iff.mp same] at lowered
    exact absurd lowered (by decide)
  · rw [sameAscii_iff.mp same] at lowered
    exact absurd lowered (by decide)

theorem isWorkbookName_iff (proper : Path.IsName name) : isWorkbookName name = true ↔ IsWorkbookFile name := by
  have looked : isWorkbookName name = true ↔
      (∃ ending, Path.extension? name = some ending ∧ IsWorkbookExtension ending) ∧ ¬ "~$".toList <+: name.toList := by
    unfold isWorkbookName
    cases Path.extension? name with
    | none => simp
    | some ending => simp [isWorkbookExtension_iff, lockMark, ← List.isPrefixOf_iff_prefix]
  simp only [looked, Path.extension?_eq_some_iff proper]
  constructor
  · rintro ⟨⟨ending, ⟨stem, filled, _, split⟩, known⟩, unlocked⟩
    exact ⟨⟨stem, ending, filled, split, known⟩, unlocked⟩
  · rintro ⟨⟨stem, ending, filled, split, known⟩, unlocked⟩
    exact ⟨⟨ending, ⟨stem, filled, known.no_dot, split⟩, known⟩, unlocked⟩

theorem routeLe_iff {left right : Route} : routeLe left right = true ↔ left ≤ right := by
  rw [routeLe, Bool.not_eq_true', decide_eq_false_iff_not]
  exact not_lt

theorem mem_workbookRoutes_iff {route : Route} :
    route ∈ workbookRoutes routes ↔ route ∈ routes ∧ isWorkbookRoute route = true := by
  rw [workbookRoutes, List.mem_mergeSort, List.mem_filter]

/-- Workbooks are taken in the same order wherever they are the same. -/
theorem workbookRoutes_perm (same : (routes.filter isWorkbookRoute).Perm (others.filter isWorkbookRoute)) :
    workbookRoutes routes = workbookRoutes others := by
  have sorted (routes : List Route) : (workbookRoutes routes).Pairwise (· ≤ ·) := FileTree.mergeSort_sorted routeLe_iff
  refine List.Perm.eq_of_pairwise (fun _ _ _ _ => le_antisymm) (sorted routes) (sorted others) ?_
  exact ((List.mergeSort_perm _ _).trans same).trans (List.mergeSort_perm _ _).symm

theorem workbookRoutes_rises (distinct : routes.Nodup) : (workbookRoutes routes).Pairwise (· < ·) :=
  FileTree.mergeSort_rises routeLe_iff (distinct.filter _)

theorem isWorkbookRoute_iff {route : Route} :
    isWorkbookRoute route = true ↔ ∃ parent name, route = parent ++ [name] ∧ isWorkbookName name = true := by
  rw [isWorkbookRoute]
  rcases List.eq_nil_or_concat route with rfl | ⟨parent, name, rfl⟩
  · simp
  · simp

/-- A workbook is at the place, at any depth below the directory that the path leads to. -/
def IsWorkbookBelow (tree : FileTree) (directory : String) (place : Route) : Prop :=
  ∃ parent folder name content, tree.locate directory = .ok parent ∧ place = parent ++ (folder ++ [name]) ∧
    tree.entry? place = some (.file content) ∧ IsWorkbookFile name

/-- The paths of the workbooks below a directory. -/
def workbookPaths (tree : FileTree) (directory : String) : List String :=
  match Path.listing? directory with
  | none => []
  | some base =>
    match tree.filesUnder base with
    | .ok routes => (workbookRoutes routes).map (Path.listed base)
    | .error _ => []

theorem workbookPaths_of_isDotted (tree : FileTree) (dotted : Path.IsDotted directory) : workbookPaths tree directory = [] := by
  rw [workbookPaths, Path.listing?_eq_none_iff.mpr dotted]

/-- Where files can be listed, all files below the directory are looked at. -/
theorem filesUnder_listing {base : String} (listing : Path.listing? directory = some base)
    (located : tree.locate directory = .ok parent) (there : tree.hasDirectory parent = true) :
    tree.locate base = .ok parent ∧ tree.filesUnder base = .ok (tree.filesBelow parent) := by
  have filled : directory ≠ "" := (FileTree.locate_ok_iff.mp located).2.1
  have base_located := (FileTree.locate_listing_ok_iff filled listing).mpr located
  exact ⟨base_located, FileTree.filesUnder_ok_iff.mpr ⟨parent, base_located, there, rfl⟩⟩

theorem workbookPaths_of_located {base : String} (listing : Path.listing? directory = some base)
    (located : tree.locate directory = .ok parent) (there : tree.hasDirectory parent = true) :
    workbookPaths tree directory = (workbookRoutes (tree.filesBelow parent)).map (Path.listed base) := by
  simp only [workbookPaths, listing, (filesUnder_listing listing located there).2]

theorem exists_workbookRoute_iff (names : tree.HasNames) (located : tree.locate directory = .ok parent) :
    (∃ route ∈ workbookRoutes (tree.filesBelow parent), parent ++ route = place) ↔ IsWorkbookBelow tree directory place := by
  constructor
  · rintro ⟨route, listed, rfl⟩
    obtain ⟨below, workbook⟩ := mem_workbookRoutes_iff.mp listed
    obtain ⟨folder, name, rfl, named⟩ := isWorkbookRoute_iff.mp workbook
    obtain ⟨content, found⟩ := (FileTree.mem_filesBelow_iff (by simp)).mp below
    have proper : Path.IsName name := names.name found name (by simp)
    exact ⟨parent, folder, name, content, located, rfl, found, (isWorkbookName_iff proper).mp named⟩
  · rintro ⟨other, folder, name, content, other_located, rfl, found, workbook⟩
    cases located.symm.trans other_located
    have proper : Path.IsName name := names.name found name (by simp)
    refine ⟨folder ++ [name], mem_workbookRoutes_iff.mpr ⟨?_, ?_⟩, rfl⟩
    · exact (FileTree.mem_filesBelow_iff (by simp)).mpr ⟨content, found⟩
    · exact isWorkbookRoute_iff.mpr ⟨folder, name, rfl, (isWorkbookName_iff proper).mpr workbook⟩

/-- What a workbook is below is a directory. -/
theorem IsWorkbookBelow.isDirectory (system : tree.IsFileSystem) (below : IsWorkbookBelow tree directory place) :
    tree.isDirectory directory = true := by
  obtain ⟨parent, folder, name, content, located, rfl, found, _⟩ := below
  exact isDirectory_iff.mpr ⟨parent, located, system.hasDirectory_above (by simp) found⟩

/-- All workbooks are listed, if files can be listed below the path at all. -/
theorem lists_workbookPaths (system : tree.IsFileSystem) (there : tree.isDirectory directory = true)
    (listable : ¬ Path.IsDotted directory) : tree.Lists (workbookPaths tree directory) (IsWorkbookBelow tree directory) := by
  obtain ⟨parent, located, parent_there⟩ := isDirectory_iff.mp there
  obtain ⟨base, listing⟩ := Option.ne_none_iff_exists'.mp (mt Path.listing?_eq_none_iff.mp listable)
  have base_located := (filesUnder_listing listing located parent_there).1
  rw [workbookPaths_of_located listing located parent_there]
  refine FileTree.lists_of_routes system (Path.listing_ne_empty listing) base_located
    (workbookRoutes_rises (tree.nodup_filesBelow parent)) ?_ fun place => exists_workbookRoute_iff system.names located
  intro route listed
  obtain ⟨below, workbook⟩ := mem_workbookRoutes_iff.mp listed
  obtain ⟨folder, name, rfl, _⟩ := isWorkbookRoute_iff.mp workbook
  obtain ⟨content, found⟩ := (FileTree.mem_filesBelow_iff (by simp)).mp below
  exact ⟨by simp, _, found⟩

/-- A path of a workbook ends in its name. -/
theorem pieces_of_mem_workbookPaths {path : String} (names : tree.HasNames) (listed : path ∈ workbookPaths tree directory) :
    ∃ parts name, Path.IsName name ∧ Path.pieces path = parts ++ [name] := by
  unfold workbookPaths at listed
  split at listed
  · cases listed
  · next base _ =>
    split at listed
    · next routes files =>
      obtain ⟨parent, _, _, rfl⟩ := FileTree.filesUnder_ok_iff.mp files
      obtain ⟨route, member, rfl⟩ := List.mem_map.mp listed
      obtain ⟨below, workbook⟩ := mem_workbookRoutes_iff.mp member
      obtain ⟨folder, name, rfl, _⟩ := isWorkbookRoute_iff.mp workbook
      obtain ⟨content, found⟩ := (FileTree.mem_filesBelow_iff (by simp)).mp below
      have proper : Path.IsName name := names.name found name (by simp)
      obtain ⟨parts, pieces⟩ := Path.pieces_listed base folder proper.whole
      exact ⟨parts, name, proper, pieces⟩
    · cases listed

/-- How the search of a directory ends. -/
def searched (tree : FileTree) (directory : String) : Except Failure (List String) :=
  if tree.isDirectory directory = true then
    if workbookPaths tree directory = [] then .error (.noWorkbooks directory) else .ok (workbookPaths tree directory)
  else .error (.tablesMissing directory)

theorem searched_ok_iff {paths : List String} : searched tree directory = .ok paths ↔
    tree.isDirectory directory = true ∧ paths = workbookPaths tree directory ∧ paths ≠ [] := by
  unfold searched
  split_ifs with there empty
  · simp only [false_iff, not_and]
    rintro _ rfl
    exact not_not_intro empty
  · rw [Except.ok.injEq, eq_comm, and_iff_right there]
    exact ⟨fun same => ⟨same, same ▸ empty⟩, And.left⟩
  · simp [there]

/-- What a search finds are all workbooks. -/
theorem lists_of_searched (system : tree.IsFileSystem) {paths : List String} (found : searched tree directory = .ok paths) :
    tree.Lists paths (IsWorkbookBelow tree directory) := by
  obtain ⟨there, rfl, filled⟩ := searched_ok_iff.mp found
  exact lists_workbookPaths system there fun dotted => filled (workbookPaths_of_isDotted tree dotted)

/-- A search looks at the tree and changes nothing. -/
theorem run_findWorkbooks (directory : String) (session : Session) :
    (findWorkbooks directory : Running (StateM Session) (List String)).run.run session =
      (searched session.tree directory, session) := by
  have looked : (liftM (Workspace.isDirectory directory : StateM Session Bool) : Running (StateM Session) Bool).run.run session =
      (.ok (session.tree.isDirectory directory), session) := rfl
  rw [findWorkbooks, run_bind_ok looked, searched]
  by_cases there : session.tree.isDirectory directory = true
  · have below : Ends (workbooksBelow directory) session (workbookPaths session.tree directory) session := by
      cases listing : Path.listing? directory with
      | none =>
        rw [workbooksBelow, workbookPaths, listing]
        rfl
      | some base =>
        obtain ⟨parent, located, parent_there⟩ := isDirectory_iff.mp there
        rw [workbookPaths_of_located listing located parent_there]
        exact workbooksBelow_ends listing (filesUnder_listing listing located parent_there).2
    rw [if_pos there, if_pos there, run_bind_ok below]
    by_cases none_found : workbookPaths session.tree directory = []
    · rw [if_pos none_found, none_found]
      rfl
    · rw [if_neg none_found, if_neg (by simpa using none_found)]
      rfl
  · rw [if_neg there, if_neg there]
    rfl

/-- The order in which the entries of directories are given plays no part. -/
theorem searched_of_perm {other : FileTree} (home : other.home = tree.home) (entries : other.entries.Perm tree.entries) :
    searched other directory = searched tree directory := by
  have same_entry (route : Route) : other.entry? route = tree.entry? route := by
    by_cases top : route = []
    · simp [top]
    · ext entry
      rw [← FileTree.mem_entries_iff top, ← FileTree.mem_entries_iff top]
      exact entries.mem_iff
  have same : FileTree.SameDirectories tree other := ⟨home, fun route => by simp only [FileTree.hasDirectory, same_entry]⟩
  have there_too : other.isDirectory directory = tree.isDirectory directory := by
    rw [Bool.eq_iff_iff, isDirectory_iff, isDirectory_iff]
    exact exists_congr fun route => and_congr same.locate_ok_iff (by rw [same.directory])
  rw [searched, searched, there_too]
  by_cases there : tree.isDirectory directory = true
  · have paths : workbookPaths other directory = workbookPaths tree directory := by
      obtain ⟨parent, located, parent_there⟩ := isDirectory_iff.mp there
      cases listing : Path.listing? directory with
      | none =>
        have dotted := Path.listing?_eq_none_iff.mp listing
        rw [workbookPaths_of_isDotted other dotted, workbookPaths_of_isDotted tree dotted]
      | some base =>
        rw [workbookPaths_of_located listing located parent_there, workbookPaths_of_located listing
          (same.locate_ok_iff.mpr located) ((same.directory parent).trans parent_there)]
        exact congrArg (List.map _) (workbookRoutes_perm ((entries.filterMap _).filter _))
    rw [if_pos there, if_pos there, paths]
  · rw [if_neg there, if_neg there]

/-- The search of a directory is exact: it fails for what is no directory, it fails for a directory below which there is
no workbook, and otherwise it lists all workbooks; and it answers the same if the entries are given in another order. -/
structure SearchIsExact (session : Session) (directory : String) : Prop where
  missing : Stops (findWorkbooks directory) session (.tablesMissing directory) session ↔
    session.tree.isDirectory directory = false
  empty : Stops (findWorkbooks directory) session (.noWorkbooks directory) session ↔
    session.tree.isDirectory directory = true ∧ ∀ place, ¬ IsWorkbookBelow session.tree directory place
  found : (∃ place, IsWorkbookBelow session.tree directory place) → ∃ paths,
    Ends (findWorkbooks directory) session paths session ∧ session.tree.Lists paths (IsWorkbookBelow session.tree directory)
  unordered : ∀ other : FileTree, other.home = session.tree.home → other.entries.Perm session.tree.entries →
    ((findWorkbooks directory : Running (StateM Session) (List String)).run.run { session with tree := other }).1 =
      ((findWorkbooks directory : Running (StateM Session) (List String)).run.run session).1

theorem stops_findWorkbooks_iff {reason : Failure} :
    Stops (findWorkbooks directory) session reason session ↔ searched session.tree directory = .error reason := by
  rw [Stops, run_findWorkbooks, Prod.mk_inj, and_iff_left rfl]

/-- A search is exact if the paths that it goes by are. -/
theorem searchIsExact_of_lists (system : session.tree.IsFileSystem) (lists : session.tree.isDirectory directory = true →
    session.tree.Lists (workbookPaths session.tree directory) (IsWorkbookBelow session.tree directory)) :
    SearchIsExact session directory := by
  refine ⟨?_, ?_, ?_, ?_⟩
  · rw [stops_findWorkbooks_iff, searched]
    by_cases there : session.tree.isDirectory directory = true
    · rw [if_pos there]
      split <;> simp [there]
    · simp [there]
  · rw [stops_findWorkbooks_iff, searched]
    by_cases there : session.tree.isDirectory directory = true
    · simp [there, ← (lists there).eq_nil_iff]
    · simp [there]
  · rintro ⟨place, below⟩
    have there := below.isDirectory system
    obtain ⟨path, listed, _⟩ := (lists there).mem_iff.mp below
    refine ⟨workbookPaths session.tree directory, ?_, lists there⟩
    rw [Ends, run_findWorkbooks, searched, if_pos there, if_neg (List.ne_nil_of_mem listed)]
  · intro other home entries
    rw [run_findWorkbooks, run_findWorkbooks, searched_of_perm home entries]

/-- The search of a directory is exact, unless its path begins with dots and an empty piece and there are workbooks below
it: then the search fails as if there were none. -/
theorem findWorkbooks_exact_iff (system : session.tree.IsFileSystem) (directory : String) :
    (SearchIsExact session directory ↔
      ¬ (Path.IsDotted directory ∧ ∃ place, IsWorkbookBelow session.tree directory place)) ∧
    (Path.IsDotted directory → session.tree.isDirectory directory = true →
      Stops (findWorkbooks directory) session (.noWorkbooks directory) session) := by
  have fails (dotted : Path.IsDotted directory) (there : session.tree.isDirectory directory = true) :
      Stops (findWorkbooks directory) session (.noWorkbooks directory) session := by
    rw [stops_findWorkbooks_iff, searched, if_pos there, if_pos (workbookPaths_of_isDotted _ dotted)]
  refine ⟨⟨?_, ?_⟩, fails⟩
  · rintro exact_search ⟨dotted, place, below⟩
    have none_below := (exact_search.empty.mp (fails dotted (below.isDirectory system))).2
    exact none_below place below
  · intro reachable
    refine searchIsExact_of_lists system fun there => ?_
    by_cases dotted : Path.IsDotted directory
    · rw [workbookPaths_of_isDotted _ dotted, FileTree.Lists.nil_iff]
      exact fun place below => reachable ⟨dotted, place, below⟩
    · exact lists_workbookPaths system there dotted

namespace SearchRun

/-- Two workbooks, of which the deeper one comes first, a lock file, a file with nothing in front of its extension, a
directory that is named as a workbook, and another file. -/
def folder : FileTree where
  entries := [(["t"], .directory), (["t", "a.XLSX"], .file .empty), (["t", "a"], .directory), (["t", "a", "x.xlsx"], .file .empty),
    (["t", "~$a.xlsx"], .file .empty), (["t", ".xlsx"], .file .empty), (["t", "d.xlsx"], .directory), (["t", "c.csv"], .file .empty)]
  home := []
  distinct := by decide

def start : Session :=
  Session.start folder fun _ => false

theorem isFileSystem_folder : folder.IsFileSystem :=
  .of_routes (by decide) (by decide) (by decide) rfl

/-- A workbook in the directory from which relative paths start. -/
def bareFolder : FileTree where
  entries := [(["Items.xlsx"], .file .empty)]
  home := []
  distinct := by decide

def bareStart : Session :=
  Session.start bareFolder fun _ => false

theorem isFileSystem_bareFolder : bareFolder.IsFileSystem :=
  .of_routes (by decide) (by decide) (by decide) rfl

end SearchRun

theorem findWorkbooks_exact_folder : SearchRun.folder.IsFileSystem ∧ SearchIsExact SearchRun.start "t" ∧
    Ends (findWorkbooks "t") SearchRun.start ["t/a/x.xlsx", "t/a.XLSX"] SearchRun.start := by
  have listing : Path.listing? "t" = some "t" := by decide
  have listable : ¬ Path.IsDotted "t" := mt Path.listing?_eq_none_iff.mpr (by simp [listing])
  have exact_iff : SearchIsExact SearchRun.start "t" ↔ _ := (findWorkbooks_exact_iff SearchRun.isFileSystem_folder "t").1
  have workbooks : (SearchRun.folder.filesBelow ["t"]).filter isWorkbookRoute = [["a.XLSX"], ["a", "x.xlsx"]] := by decide +kernel
  have routes : workbookRoutes (SearchRun.folder.filesBelow ["t"]) = [["a", "x.xlsx"], ["a.XLSX"]] := by
    rw [workbookRoutes, workbooks]
    exact FileTree.mergeSort_swapped (by decide +kernel)
  have paths : workbookPaths SearchRun.folder "t" = ["t/a/x.xlsx", "t/a.XLSX"] := by
    have located : SearchRun.folder.locate "t" = .ok ["t"] := rfl
    rw [workbookPaths_of_located listing located rfl, routes]
    rfl
  have found : searched SearchRun.folder "t" = .ok ["t/a/x.xlsx", "t/a.XLSX"] := by
    rw [searched, paths]
    rfl
  exact ⟨SearchRun.isFileSystem_folder, exact_iff.mpr fun missed => listable missed.1,
    (run_findWorkbooks "t" SearchRun.start).trans (congrArg (·, SearchRun.start) found)⟩

/-- The workbook in the directory that the path leads to is not found. -/
theorem findWorkbooks_misses_home : SearchRun.bareFolder.IsFileSystem ∧ SearchRun.bareFolder.isDirectory "./" = true ∧
    IsWorkbookBelow SearchRun.bareFolder "./" ["Items.xlsx"] ∧
    Stops (findWorkbooks "./") SearchRun.bareStart (.noWorkbooks "./") SearchRun.bareStart ∧
    ¬ SearchIsExact SearchRun.bareStart "./" := by
  have workbook : IsWorkbookFile "Items.xlsx" := (isWorkbookName_iff (by decide)).mp (by decide)
  have below : IsWorkbookBelow SearchRun.bareFolder "./" ["Items.xlsx"] :=
    ⟨[], [], "Items.xlsx", .empty, rfl, rfl, rfl, workbook⟩
  have stops : Stops (findWorkbooks "./") SearchRun.bareStart (.noWorkbooks "./") SearchRun.bareStart :=
    stops_findWorkbooks_iff.mpr rfl
  exact ⟨SearchRun.isFileSystem_bareFolder, rfl, below, stops, fun exact_search => (exact_search.empty.mp stops).2 _ below⟩

end Tablesmith
