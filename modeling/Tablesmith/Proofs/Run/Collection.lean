import Mathlib
import Tablesmith.Proofs.Files.Contents
import Tablesmith.Proofs.Run.Documents
import Tablesmith.Proofs.Run.Search
import Tablesmith.Proofs.Schema.Collection
import Tablesmith.Proofs.Workbook.Loading

/-!
# What is collected from a directory

Every workbook that a search finds is read, except the one for enumerations, and the
schemas of its sheets go to those for strings or to those for tables
(`ofDirectory_ends_iff`). The content of a workbook for enumerations plays no part
(`ofDirectory_collects`).
-/

namespace Tablesmith

open Files Running Steps

variable {settings : Settings} {aliases : TypeAliases} {session last : Session} {tree : FileTree} {directory path : String}
  {collection next : Collection} {schemas : List Schema}

/-- The session after some messages. -/
def Session.told (session : Session) (reports : List Report) : Session :=
  { session with reports := session.reports ++ reports }

@[simp] theorem Session.told_tree (session : Session) (reports : List Report) : (session.told reports).tree = session.tree := rfl

@[simp] theorem Session.told_told (session : Session) (reports others : List Report) :
    (session.told reports).told others = session.told (reports ++ others) := by
  simp [Session.told]

/-- A workbook that was found, and the schemas that were made of it. -/
structure Book where
  path : String
  schemas : List Schema

namespace Settings

/-- The workbook is not opened. -/
def skips (settings : Settings) (book : Book) : Prop :=
  settings.enumFileName = some (Path.stem book.path)

instance (settings : Settings) : DecidablePred settings.skips :=
  fun _ => inferInstanceAs (Decidable (_ = _))

/-- The workbook holds strings. -/
def holdsStrings (settings : Settings) (book : Book) : Prop :=
  ¬ settings.skips book ∧ settings.stringFileName = some (Path.stem book.path)

instance (settings : Settings) : DecidablePred settings.holdsStrings :=
  fun _ => inferInstanceAs (Decidable (_ ∧ _))

/-- The workbook holds tables. -/
def holdsTables (settings : Settings) (book : Book) : Prop :=
  ¬ settings.skips book ∧ settings.stringFileName ≠ some (Path.stem book.path)

instance (settings : Settings) : DecidablePred settings.holdsTables :=
  fun _ => inferInstanceAs (Decidable (_ ∧ _))

end Settings

namespace Book

/-- The workbook can be read, and these are the schemas of its sheets. -/
def IsRead (book : Book) (aliases : TypeAliases) (tree : FileTree) : Prop :=
  ∃ content sheets, tree.read book.path = .ok content ∧
    Workbook.ofBytes book.path content.data.toList = .ok ⟨book.path, sheets⟩ ∧
    Schema.AreOf (Path.stem book.path) aliases sheets book.schemas

/-- What is made of a workbook: nothing if it is not opened, and otherwise the schemas of its sheets. -/
structure IsOf (book : Book) (settings : Settings) (aliases : TypeAliases) (tree : FileTree) : Prop where
  skipped : settings.skips book → book.schemas = []
  read : ¬ settings.skips book → book.IsRead aliases tree

/-- What is told about a workbook. -/
def reports (book : Book) (settings : Settings) : List Report :=
  if settings.skips book then [.info ("Skipping enum workbook '" ++ Path.stem book.path ++ "'")]
  else book.schemas.flatMap Schema.reports

end Book

namespace Collection

theorem run_forM_told (reports : List Report) (session : Session) :
    (reports.forM Running.tell : Running (StateM Session) Unit).run.run session = (.ok (), session.told reports) := by
  have all := run_forM_tell id reports session
  rwa [List.map_id] at all

theorem readWorkbook_ends_iff : Ends (readWorkbook aliases path) session schemas last ↔
    Book.IsRead ⟨path, schemas⟩ aliases session.tree ∧ last = session.told (schemas.flatMap Schema.reports) := by
  refine bind_ok_iff.trans ?_
  constructor
  · rintro ⟨workbook, middle, opened, steps⟩
    obtain ⟨⟨content, read, loaded⟩, rfl⟩ := openWorkbook_ends_iff.mp opened
    obtain ⟨⟨⟩, told, tells, discovered⟩ := bind_ok_iff.mp steps
    cases tells.symm.trans (run_forM_told _ _)
    obtain ⟨schemas_ok, rfl⟩ := ofResult_ok_iff.mp discovered
    obtain ⟨are_of, reports⟩ := Schema.ofWorkbook_eq_ok_iff.mp (Prod.ext rfl schemas_ok)
    obtain ⟨opened_path, sheets⟩ := workbook
    have same : opened_path = path := Workbook.path_of_ofBytes loaded
    subst same
    exact ⟨⟨content, sheets, read, loaded, are_of⟩, congrArg middle.told reports⟩
  · rintro ⟨⟨content, sheets, read, loaded, are_of⟩, rfl⟩
    have discovered : Schema.ofWorkbook ⟨path, sheets⟩ aliases = (_, .ok schemas) :=
      Schema.ofWorkbook_eq_ok_iff.mpr ⟨are_of, rfl⟩
    refine ⟨⟨path, sheets⟩, session, openWorkbook_ends_iff.mpr ⟨⟨content, read, loaded⟩, rfl⟩, ?_⟩
    dsimp only
    rw [discovered]
    exact bind_ok_iff.mpr ⟨(), _, run_forM_told _ _, rfl⟩

/-- The schemas of workbooks are added, of each one to those for strings or to those for tables. -/
def shelve (settings : Settings) (collection : Collection) (books : List Book) : Collection where
  tables := collection.tables ++ (books.filter settings.holdsTables).flatMap (·.schemas)
  strings := collection.strings ++ (books.filter settings.holdsStrings).flatMap (·.schemas)

@[simp] theorem shelve_nil (settings : Settings) (collection : Collection) : collection.shelve settings [] = collection := by
  simp [shelve]

theorem shelve_cons (settings : Settings) (collection : Collection) (book : Book) (books : List Book) :
    collection.shelve settings (book :: books) = (collection.shelve settings [book]).shelve settings books := by
  simp only [shelve, List.filter_cons, List.filter_nil]
  split_ifs <;> simp

theorem shelve_skipped {book : Book} (skipped : settings.skips book) : collection.shelve settings [book] = collection := by
  have no_tables : ¬ settings.holdsTables book := fun holds => holds.1 skipped
  have no_strings : ¬ settings.holdsStrings book := fun holds => holds.1 skipped
  simp [shelve, no_tables, no_strings]

theorem shelve_opened {book : Book} (opened : ¬ settings.skips book) : collection.shelve settings [book] =
    collection.add (settings.stringFileName = some (Path.stem book.path)) book.schemas := by
  by_cases strings : settings.stringFileName = some (Path.stem book.path)
  · have no_tables : ¬ settings.holdsTables book := fun holds => holds.2 strings
    have holds_strings : settings.holdsStrings book := ⟨opened, strings⟩
    simp [shelve, add, no_tables, holds_strings, strings]
  · have no_strings : ¬ settings.holdsStrings book := fun holds => strings holds.2
    have holds_tables : settings.holdsTables book := ⟨opened, strings⟩
    simp [shelve, add, no_strings, holds_tables, strings]

theorem addPath_ends_iff : Ends (addPath settings aliases collection path) session next last ↔
    ∃ schemas, Book.IsOf ⟨path, schemas⟩ settings aliases session.tree ∧ next = collection.shelve settings [⟨path, schemas⟩] ∧
      last = session.told (Book.reports ⟨path, schemas⟩ settings) := by
  by_cases skipped : settings.enumFileName = some (Path.stem path)
  · have is_skipped (schemas : List Schema) : settings.skips ⟨path, schemas⟩ := skipped
    simp only [shelve_skipped (is_skipped _), Book.reports, if_pos (is_skipped _)]
    rw [addPath, if_pos skipped]
    constructor
    · intro ran
      obtain ⟨⟨⟩, middle, told, done⟩ := bind_ok_iff.mp ran
      cases told
      obtain ⟨rfl, rfl⟩ := pure_ok_iff.mp done
      exact ⟨[], ⟨fun _ => rfl, fun opened => absurd skipped opened⟩, rfl, rfl⟩
    · rintro ⟨schemas, _, rfl, rfl⟩
      exact bind_ok_iff.mpr ⟨(), _, rfl, rfl⟩
  · have is_opened (schemas : List Schema) : ¬ settings.skips ⟨path, schemas⟩ := skipped
    simp only [shelve_opened (is_opened _), Book.reports, if_neg (is_opened _)]
    rw [addPath, if_neg skipped]
    refine bind_ok_iff.trans ?_
    simp only [readWorkbook_ends_iff]
    constructor
    · rintro ⟨schemas, middle, ⟨is_read, rfl⟩, done⟩
      obtain ⟨rfl, rfl⟩ := pure_ok_iff.mp done
      exact ⟨schemas, ⟨fun skips => absurd skips skipped, fun _ => is_read⟩, rfl, rfl⟩
    · rintro ⟨schemas, is_of, rfl, rfl⟩
      exact ⟨schemas, _, ⟨is_of.read skipped, rfl⟩, rfl⟩

/-- The workbooks at the paths are added one after the other. -/
theorem foldlM_addPath_ends_iff {paths : List String} :
    Ends (paths.foldlM (addPath settings aliases) collection) session next last ↔ ∃ books : List Book,
      books.map (·.path) = paths ∧ (∀ book ∈ books, book.IsOf settings aliases session.tree) ∧
        next = collection.shelve settings books ∧ last = session.told (books.flatMap (·.reports settings)) := by
  induction paths generalizing collection session with
  | nil =>
    refine pure_ok_iff.trans ?_
    constructor
    · rintro ⟨rfl, rfl⟩
      exact ⟨[], rfl, by simp, by simp, by simp [Session.told]⟩
    · rintro ⟨books, none_found, _, rfl, rfl⟩
      obtain rfl := List.map_eq_nil_iff.mp none_found
      simp [Session.told]
  | cons path paths ih =>
    refine bind_ok_iff.trans ?_
    simp only [addPath_ends_iff]
    constructor
    · rintro ⟨_, _, ⟨schemas, is_of, rfl, rfl⟩, rest⟩
      -- What is told changes no file, so that the other workbooks are read from the same tree.
      obtain ⟨books, rfl, are_of, rfl, rfl⟩ := ih.mp rest
      refine ⟨⟨path, schemas⟩ :: books, rfl, List.forall_mem_cons.mpr ⟨is_of, are_of⟩, ?_, ?_⟩
      · exact (shelve_cons settings collection ⟨path, schemas⟩ books).symm
      · rw [Session.told_told, List.flatMap_cons]
    · rintro ⟨books, all_paths, are_of, rfl, rfl⟩
      obtain ⟨book, books, rfl, rfl, rfl⟩ := List.map_eq_cons_iff.mp all_paths
      obtain ⟨is_of, are_of⟩ := List.forall_mem_cons.mp are_of
      refine ⟨_, _, ⟨book.schemas, is_of, rfl, rfl⟩, ih.mpr ⟨books, rfl, are_of, ?_, ?_⟩⟩
      · exact shelve_cons settings collection book books
      · rw [Session.told_told, List.flatMap_cons]

/-- What is told about the workbooks that were found. -/
def pathReports (paths : List String) : List Report :=
  .info "[Workbooks]" :: paths.map (fun path => .info ("  * " ++ (Path.fileName? path).getD "")) ++
    [.info ("Found " ++ Number.showNat paths.length ++ " workbook(s)")]

theorem run_tellPaths (paths : List String) (session : Session) :
    (tellPaths paths : Running (StateM Session) Unit).run.run session = (.ok (), session.told (pathReports paths)) := by
  rw [tellPaths]
  refine (run_bind_ok (run_tell _ session)).trans ((run_bind_ok (run_forM_tell _ paths _)).trans ?_)
  refine (run_tell _ _).trans ?_
  simp [Session.told, pathReports]

/-- Exactly what is found is added. -/
theorem ofDirectory_ends_iff : Ends (ofDirectory settings aliases directory) session collection last ↔ ∃ books : List Book,
    searched session.tree directory = .ok (books.map (·.path)) ∧ (∀ book ∈ books, book.IsOf settings aliases session.tree) ∧
      collection = empty.shelve settings books ∧
      last = session.told (pathReports (books.map (·.path)) ++ books.flatMap (·.reports settings)) := by
  refine bind_ok_iff.trans ?_
  constructor
  · rintro ⟨paths, middle, searches, steps⟩
    obtain ⟨found, rfl⟩ := Prod.mk_inj.mp ((run_findWorkbooks directory session).symm.trans searches)
    obtain ⟨⟨⟩, told, tells, adds⟩ := bind_ok_iff.mp steps
    cases (run_tellPaths paths session).symm.trans tells
    obtain ⟨books, rfl, are_of, rfl, rfl⟩ := foldlM_addPath_ends_iff.mp adds
    exact ⟨books, found, are_of, rfl, by rw [Session.told_told]⟩
  · rintro ⟨books, found, are_of, rfl, rfl⟩
    refine ⟨_, session, (run_findWorkbooks directory session).trans (congrArg (·, session) found), ?_⟩
    refine bind_ok_iff.mpr ⟨(), _, run_tellPaths _ session, foldlM_addPath_ends_iff.mpr ⟨books, rfl, are_of, rfl, ?_⟩⟩
    rw [Session.told_told]

theorem warnings_pathReports (paths : List String) : Report.warnings (pathReports paths) = [] := by
  simp [Report.warnings, pathReports, Report.info]

/-- Only workbooks that are opened are warned about, and of these the schemas without a primary key. -/
theorem warnings_books (books : List Book) : Report.warnings (books.flatMap (·.reports settings)) =
    Schema.keyWarnings ((books.filter (¬ settings.skips ·)).flatMap (·.schemas)) := by
  have of_one (book : Book) : Report.warnings (book.reports settings) =
      Schema.keyWarnings (([book].filter (¬ settings.skips ·)).flatMap (·.schemas)) := by
    by_cases skipped : settings.skips book
    · simp [Book.reports, skipped, Report.warnings, Report.info, Schema.keyWarnings]
    · simp [Book.reports, skipped, Schema.warnings_flatMap_reports]
  induction books with
  | nil => rfl
  | cons book books ih =>
    rw [List.flatMap_cons, Report.warnings_append, of_one, ih, ← Schema.keyWarnings_append, ← List.flatMap_append,
      ← List.filter_append, List.singleton_append]

theorem searched_mapFiles (change : Route → ByteArray → ByteArray) :
    searched (tree.mapFiles change) directory = searched tree directory := by
  have paths : workbookPaths (tree.mapFiles change) directory = workbookPaths tree directory := by
    simp only [workbookPaths, FileTree.filesUnder_mapFiles]
  rw [searched, searched, FileTree.isDirectory_mapFiles, paths]

/-- What is made of a workbook does not depend on the content of those that are not opened. -/
theorem isOf_mapFiles {change : Route → ByteArray → ByteArray} {book : Book} {parts : List String} {name : String}
    (proper : Path.IsName name) (pieces : Path.pieces book.path = parts ++ [name])
    (unopened : ∀ parent name content, settings.enumFileName ≠ some (Path.stem name) → change (parent ++ [name]) content = content)
    (is_of : book.IsOf settings aliases tree) : book.IsOf settings aliases (tree.mapFiles change) := by
  refine ⟨is_of.skipped, fun opened => ?_⟩
  have same : ∀ parent content, change (parent ++ [name]) content = content := fun parent content =>
    unopened parent name content (Path.stem_of_pieces proper pieces ▸ opened)
  rw [Book.IsRead, FileTree.read_mapFiles proper pieces same]
  exact is_of.read opened

/-- What is collected from a directory are the schemas of all workbooks that are found, in the order of their paths and
tabs, apart from those for enumerations, whose content plays no part. -/
theorem ofDirectory_collects (system : session.tree.IsFileSystem)
    (ran : Ends (ofDirectory settings aliases directory) session collection last) : ∃ books : List Book,
    session.tree.Lists (books.map (·.path)) (IsWorkbookBelow session.tree directory) ∧
    (∀ book ∈ books, ¬ settings.skips book → book.IsRead aliases session.tree) ∧
    collection.strings = (books.filter settings.holdsStrings).flatMap (·.schemas) ∧
    collection.tables = (books.filter settings.holdsTables).flatMap (·.schemas) ∧
    Report.warnings last.reports = Report.warnings session.reports ++
      Schema.keyWarnings ((books.filter (¬ settings.skips ·)).flatMap (·.schemas)) ∧
    last.tree = session.tree ∧
    ∀ change : Route → ByteArray → ByteArray,
      (∀ parent name content, settings.enumFileName ≠ some (Path.stem name) → change (parent ++ [name]) content = content) →
      Ends (ofDirectory settings aliases directory) { session with tree := session.tree.mapFiles change } collection
        { last with tree := session.tree.mapFiles change } := by
  obtain ⟨books, found, are_of, rfl, rfl⟩ := ofDirectory_ends_iff.mp ran
  refine ⟨books, lists_of_searched system found, fun book member => (are_of book member).read, by simp [shelve, empty],
    by simp [shelve, empty], ?_, rfl, fun change unopened => ?_⟩
  · rw [Session.told, Report.warnings_append, Report.warnings_append, warnings_pathReports, List.nil_append, warnings_books]
  · -- How a collection ends mentions no content of a workbook that is not opened, so that it says how this one ends, too.
    refine ofDirectory_ends_iff.mpr ⟨books, (searched_mapFiles change).trans found, fun book member => ?_, rfl, rfl⟩
    have listed : book.path ∈ workbookPaths session.tree directory :=
      (searched_ok_iff.mp found).2.1 ▸ List.mem_map_of_mem member
    obtain ⟨parts, name, proper, pieces⟩ := pieces_of_mem_workbookPaths system.names listed
    exact isOf_mapFiles proper pieces unopened (are_of book member)

end Collection

namespace ShelfRun

open SwordRun Item

/-- The workbook of the sword, and in place of one for enumerations a file that is none. -/
def shelf : FileTree where
  entries := [(["tables"], .directory), (["tables", "Items.xlsx"], .file workbook), (["tables", "Enums.xlsx"], .file .empty)]
  home := []
  distinct := by decide

def start : Session :=
  Session.start shelf fun _ => false

def setup : Settings :=
  { SwordRun.setup with enumFileName := some "Enums" }

theorem isFileSystem_shelf : shelf.IsFileSystem :=
  .of_routes (by decide) (by decide) (by decide) rfl

theorem searched_shelf : searched shelf "tables" = .ok ["tables/Enums.xlsx", "tables/Items.xlsx"] := by
  have listing : Path.listing? "tables" = some "tables" := by decide
  have located : shelf.locate "tables" = .ok ["tables"] := rfl
  have workbooks : (shelf.filesBelow ["tables"]).filter isWorkbookRoute = [["Items.xlsx"], ["Enums.xlsx"]] := by decide +kernel
  have paths : workbookPaths shelf "tables" = ["tables/Enums.xlsx", "tables/Items.xlsx"] := by
    have swapped : [["Items.xlsx"], ["Enums.xlsx"]].mergeSort routeLe = [["Enums.xlsx"], ["Items.xlsx"]] :=
      FileTree.mergeSort_swapped (by decide +kernel)
    rw [workbookPaths_of_located listing located rfl, workbookRoutes, workbooks, swapped]
    rfl
  exact searched_ok_iff.mpr ⟨rfl, paths.symm, by simp⟩

theorem isRead_sword : Book.IsRead ⟨"tables/Items.xlsx", [sword.schema]⟩ .builtin shelf :=
  ⟨workbook, [sword.sheet], rfl, ofBytes_workbook, (Schema.ofWorkbook_eq_ok_iff.mp (Prod.ext rfl ofWorkbook_sword)).1⟩

theorem ends_shelf : ∃ last, Ends (Collection.ofDirectory setup .builtin "tables") start ⟨[sword.schema], []⟩ last := by
  refine ⟨_, Collection.ofDirectory_ends_iff.mpr ⟨[⟨"tables/Enums.xlsx", []⟩, ⟨"tables/Items.xlsx", [sword.schema]⟩],
    searched_shelf, ?_, rfl, rfl⟩⟩
  refine List.forall_mem_cons.mpr ⟨⟨fun _ => rfl, fun opened => absurd rfl opened⟩, List.forall_mem_singleton.mpr ?_⟩
  exact ⟨fun skipped => absurd skipped (by decide), fun _ => isRead_sword⟩

end ShelfRun

/-- The schema of the sword is collected, whatever is in the workbook for enumerations. -/
theorem Collection.ofDirectory_collects_sword : ShelfRun.shelf.IsFileSystem ∧ ∃ last,
    Ends (ofDirectory ShelfRun.setup .builtin "tables") ShelfRun.start ⟨[Item.sword.schema], []⟩ last ∧
    last.tree = ShelfRun.shelf ∧ ∀ content : ByteArray,
      let change := fun (route : Route) old => if route.getLast? = some "Enums.xlsx" then content else old
      Ends (ofDirectory ShelfRun.setup .builtin "tables") { ShelfRun.start with tree := ShelfRun.shelf.mapFiles change }
        ⟨[Item.sword.schema], []⟩ { last with tree := ShelfRun.shelf.mapFiles change } := by
  obtain ⟨last, ran⟩ := ShelfRun.ends_shelf
  obtain ⟨books, _, _, _, _, _, tree, unchanged⟩ := ofDirectory_collects ShelfRun.isFileSystem_shelf ran
  refine ⟨ShelfRun.isFileSystem_shelf, last, ran, tree, fun content => unchanged _ ?_⟩
  intro parent name old other
  have away : name ≠ "Enums.xlsx" := by
    rintro rfl
    exact other rfl
  simp [away]

end Tablesmith
