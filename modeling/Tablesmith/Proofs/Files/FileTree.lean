import Mathlib
import Tablesmith.Files.FileTree
import Tablesmith.Proofs.Files.Path
import Tablesmith.Proofs.Steps

/-!
# What file operations do to a tree

A tree is known by what stands at its routes. Where a path leads depends on the
directories alone: a path that leads somewhere still does so when there are more
directories (`Extends.locate`), and writing or removing a file changes no
directory (`SameDirectories`). The path of an entry leads to its name below
where the path of its directory leads (`locate_join_ok_iff`).
-/

namespace Tablesmith.Files.FileTree

open Outcome

variable {tree other third : FileTree} {route last : Route} {path : String}

theorem lookup_others (entries : List (Route × Entry)) (route place : Route) :
    (others entries route).lookup place = if place = route then none else entries.lookup place := by
  induction entries with
  | nil => simp [others]
  | cons entry entries ih =>
    obtain ⟨spot, held⟩ := entry
    by_cases away : spot = route
    · have same : others ((spot, held) :: entries) route = others entries route := by simp [others, away]
      rw [same, ih, List.lookup_cons]
      by_cases here : place = route
      · simp [here]
      · have apart : (place == spot) = false := beq_false_of_ne (away ▸ here)
        simp [here, apart]
    · have kept : others ((spot, held) :: entries) route = (spot, held) :: others entries route := by simp [others, away]
      rw [kept, List.lookup_cons, List.lookup_cons, ih]
      by_cases here : place = spot
      · simp [here, away]
      · have apart : (place == spot) = false := beq_false_of_ne here
        simp [apart]

@[simp] theorem entry?_root : tree.entry? [] = some .directory := by
  simp [ entry?]

theorem entry?_put {entry : Entry} (below : route ≠ []) (place : Route) :
    FileTree.entry? (tree.put route entry) place = if place = route then some entry else tree.entry? place := by
  unfold entry? put
  by_cases top : place = []
  · simp [top, Ne.symm below]
  · rw [if_neg top, if_neg top, List.lookup_cons, lookup_others]
    by_cases here : place = route
    · simp [here]
    · have apart : (place == route) = false := beq_false_of_ne here
      simp [here, apart]

theorem entry?_erase (place : Route) :
    FileTree.entry? (tree.erase route) place = if place = route ∧ place ≠ [] then none else tree.entry? place := by
  unfold entry? erase
  by_cases top : place = []
  · simp [top]
  · rw [if_neg top, if_neg top, lookup_others]
    simp [top]

theorem hasDirectory_iff : tree.hasDirectory route = true ↔ tree.entry? route = some .directory := by
  unfold hasDirectory
  split <;> simp_all

theorem ne_root_of_not_directory (no_directory : tree.hasDirectory route = false) : route ≠ [] := by
  rintro rfl
  simp [hasDirectory] at no_directory

/-! ## Where paths lead -/

theorem requireDirectory_ok_iff : tree.requireDirectory route = .ok () ↔ tree.hasDirectory route = true := by
  unfold requireDirectory hasDirectory
  split <;> simp_all

theorem follow_nil_ok_iff : tree.follow route [] = .ok last ↔ route = last := by
  rw [follow, Except.ok.injEq]

theorem follow_cons_ok_iff {piece : String} {rest : List String} :
    tree.follow route (piece :: rest) = .ok last ↔ tree.hasDirectory route = true ∧
      piece.utf8ByteSize ≤ nameLimit ∧ tree.follow (step route piece) rest = .ok last := by
  rw [follow, bind_ok_iff]
  constructor
  · rintro ⟨⟨⟩, required, rest_ok⟩
    split at rest_ok
    · cases rest_ok
    · next short => exact ⟨requireDirectory_ok_iff.mp required, Nat.not_lt.mp short, rest_ok⟩
  · rintro ⟨directory, short, rest_ok⟩
    refine ⟨(), requireDirectory_ok_iff.mpr directory, ?_⟩
    rw [if_neg (Nat.not_lt.mpr short)]
    exact rest_ok

theorem follow_append_ok_iff {pieces rest : List String} : tree.follow route (pieces ++ rest) = .ok last ↔
    ∃ middle, tree.follow route pieces = .ok middle ∧ tree.follow middle rest = .ok last := by
  induction pieces generalizing route with
  | nil => simp [follow_nil_ok_iff]
  | cons piece pieces ih =>
    simp only [List.cons_append, follow_cons_ok_iff, ih]
    constructor
    · rintro ⟨directory, short, middle, first_ok, rest_ok⟩
      exact ⟨middle, ⟨directory, short, first_ok⟩, rest_ok⟩
    · rintro ⟨middle, ⟨directory, short, first_ok⟩, rest_ok⟩
      exact ⟨directory, short, middle, first_ok, rest_ok⟩

theorem locate_ok_iff : tree.locate path = .ok route ↔ '\x00' ∉ path.toList ∧ path ≠ "" ∧
    tree.follow (if Path.isAbsolute path then [] else tree.home) (Path.pieces path) = .ok route := by
  unfold locate
  by_cases nul : '\x00' ∈ path.toList
  · simp [nul]
  · by_cases empty : path = "" <;> simp [nul, empty]

/-- Where the files of a directory stand; a path without a directory stands for the home directory. -/
def base (tree : FileTree) (directory : String) : Except FileError Route :=
  if directory = "" then .ok tree.home else tree.locate directory

theorem step_name {name : String} (proper : Path.IsName name) : step route name = route ++ [name] := by
  simp [step, proper.filled, proper.here, proper.up]

theorem follow_name_ok_iff {name : String} (proper : Path.IsName name) : tree.follow route [name] = .ok last ↔
    tree.hasDirectory route = true ∧ name.utf8ByteSize ≤ nameLimit ∧ last = route ++ [name] := by
  rw [follow_cons_ok_iff, follow_nil_ok_iff, step_name proper, eq_comm (a := last)]

theorem follow_ended_iff {pieces : List String} : tree.follow route (pieces ++ [""]) = .ok last ↔
    tree.follow route pieces = .ok last ∧ tree.hasDirectory last = true := by
  rw [follow_append_ok_iff]
  simp only [follow_cons_ok_iff, follow_nil_ok_iff, step, true_or, ↓reduceIte]
  constructor
  · rintro ⟨middle, pieces_ok, directory, _, rfl⟩
    exact ⟨pieces_ok, directory⟩
  · rintro ⟨pieces_ok, directory⟩
    exact ⟨last, pieces_ok, directory, Nat.zero_le _, rfl⟩

/-- A path that ends in a name leads to an entry of that name, which an entry can have. -/
theorem locate_of_pieces {parts : List String} {name : String} (proper : Path.IsName name)
    (pieces : Path.pieces path = parts ++ [name]) (located : tree.locate path = .ok route) :
    ∃ parent, route = parent ++ [name] ∧ name.utf8ByteSize ≤ nameLimit ∧ '\x00' ∉ name.toList := by
  obtain ⟨no_nul, _, followed⟩ := locate_ok_iff.mp located
  rw [pieces, follow_append_ok_iff] at followed
  obtain ⟨parent, _, last_step⟩ := followed
  obtain ⟨_, short, rfl⟩ := (follow_name_ok_iff proper).mp last_step
  have name_no_nul := (Path.forall_pieces_not_mem_iff (by decide)).mpr no_nul name (by simp [pieces])
  exact ⟨parent, rfl, short, name_no_nul⟩

/-- A piece behind the pieces of a directory, or behind its path with a slash. -/
private theorem locate_entry_ok_iff (tree : FileTree) (route : Route) {directory : String} (piece : String)
    {pieces : List String} (filled : directory ≠ "") (ended : Bool)
    (directory_pieces : Path.pieces directory = if ended then pieces ++ [""] else pieces)
    (entry_pieces : Path.pieces (directory ++ (if ended then "" else "/") ++ piece) = pieces ++ [piece]) :
    tree.locate (directory ++ (if ended then "" else "/") ++ piece) = .ok route ↔
      ∃ parent, tree.locate directory = .ok parent ∧ '\x00' ∉ piece.toList ∧ tree.follow parent [piece] = .ok route := by
  have filled_entry : directory ++ (if ended then "" else "/") ++ piece ≠ "" := by
    intro empty
    simp [filled] at empty
  have nul_iff : '\x00' ∉ (directory ++ (if ended then "" else "/") ++ piece).toList ↔
      '\x00' ∉ directory.toList ∧ '\x00' ∉ piece.toList := by
    cases ended <;> simp
  have absolute : Path.isAbsolute (directory ++ (if ended then "" else "/") ++ piece) = Path.isAbsolute directory := by
    rw [String.append_assoc, Path.isAbsolute_append filled]
  rw [locate_ok_iff, entry_pieces, absolute, nul_iff, follow_append_ok_iff]
  simp only [locate_ok_iff, directory_pieces]
  constructor
  · rintro ⟨⟨no_nul, piece_no_nul⟩, _, parent, pieces_ok, piece_ok⟩
    refine ⟨parent, ⟨no_nul, filled, ?_⟩, piece_no_nul, piece_ok⟩
    cases ended
    · exact pieces_ok
    · exact follow_ended_iff.mpr ⟨pieces_ok, (follow_cons_ok_iff.mp piece_ok).1⟩
  · rintro ⟨parent, ⟨no_nul, _, directory_ok⟩, piece_no_nul, piece_ok⟩
    refine ⟨⟨no_nul, piece_no_nul⟩, filled_entry, parent, ?_, piece_ok⟩
    cases ended
    · exact directory_ok
    · exact (follow_ended_iff.mp directory_ok).1

/-- A piece behind the path of a directory is followed from where the directory is. -/
theorem locate_join_piece_ok_iff {directory piece : String} (filled : directory ≠ "") (whole : '/' ∉ piece.toList) :
    tree.locate (Path.join directory piece) = .ok route ↔
      ∃ parent, tree.locate directory = .ok parent ∧ '\x00' ∉ piece.toList ∧ tree.follow parent [piece] = .ok route := by
  have alone := Path.pieces_of_no_slash whole
  rw [Path.join_eq whole, if_neg filled]
  split
  · next slash =>
    obtain ⟨chars, chars_are⟩ := List.getLast?_eq_some_iff.mp slash
    obtain ⟨shorter, rfl⟩ : ∃ shorter, directory = shorter ++ "/" :=
      ⟨String.ofList chars, String.toList_inj.mp (by simp [chars_are])⟩
    have no_piece : Path.pieces "" = [""] := by decide
    have directory_pieces : Path.pieces (shorter ++ "/") = Path.pieces shorter ++ [""] := by
      rw [← no_piece, ← Path.pieces_append_slash, String.append_empty]
    have entry := locate_entry_ok_iff tree route piece filled true directory_pieces
    simp only [↓reduceIte, String.append_empty, Path.pieces_append_slash, alone, true_implies] at entry
    exact entry
  · have entry_pieces : Path.pieces (directory ++ "/" ++ piece) = Path.pieces directory ++ [piece] := by
      rw [Path.pieces_append_slash, alone]
    exact locate_entry_ok_iff tree route piece filled false rfl entry_pieces

/-- The path of an entry leads to its name below where the path of its directory leads. -/
theorem locate_join_ok_iff {directory name : String} (proper : Path.IsName name) :
    tree.locate (Path.join directory name) = .ok route ↔ ∃ parent, tree.base directory = .ok parent ∧
      tree.hasDirectory parent = true ∧ name.utf8ByteSize ≤ nameLimit ∧ '\x00' ∉ name.toList ∧
      route = parent ++ [name] := by
  by_cases empty : directory = ""
  · rw [Path.join_eq proper.whole, base, if_pos empty, if_pos empty, locate_ok_iff, proper.isAbsolute, proper.pieces]
    simp only [Bool.false_eq_true, ↓reduceIte, follow_name_ok_iff proper, proper.filled, ne_eq, not_false_eq_true,
      true_and, Except.ok.injEq]
    constructor
    · rintro ⟨no_nul, directory, short, same⟩
      exact ⟨tree.home, rfl, directory, short, no_nul, same⟩
    · rintro ⟨_, rfl, directory, short, no_nul, same⟩
      exact ⟨no_nul, directory, short, same⟩
  · rw [locate_join_piece_ok_iff empty proper.whole, base, if_neg empty]
    simp only [follow_name_ok_iff proper]
    refine exists_congr fun parent => and_congr_right fun _ => ?_
    constructor
    · rintro ⟨no_nul, directory, short, same⟩
      exact ⟨directory, short, no_nul, same⟩
    · rintro ⟨directory, short, no_nul, same⟩
      exact ⟨no_nul, directory, short, same⟩

theorem locate_here_ok_iff : tree.locate "." = .ok route ↔ tree.hasDirectory tree.home = true ∧ tree.home = route := by
  have pieces : Path.pieces "." = ["."] := by decide
  have relative : Path.isAbsolute "." = false := by decide
  have short : ".".utf8ByteSize ≤ nameLimit := by decide
  rw [locate_ok_iff, pieces, relative, if_neg Bool.false_ne_true, follow_cons_ok_iff, follow_nil_ok_iff]
  simp [step, short]

/-- The path of a listed file leads to its name below where it is listed. -/
theorem locate_listed_ok_iff {base name : String} (proper : Path.IsName name) (filled : base ≠ "") :
    tree.locate (Path.listed base [name]) = .ok route ↔ ∃ parent, tree.locate base = .ok parent ∧
      tree.hasDirectory parent = true ∧ name.utf8ByteSize ≤ nameLimit ∧ '\x00' ∉ name.toList ∧
      route = parent ++ [name] := by
  by_cases here : base = "."
  · subst here
    have listed : Path.listed "." [name] = Path.join "" name := by
      simp [Path.listed, Path.join]
    rw [listed, locate_join_ok_iff proper]
    simp only [base, ↓reduceIte, Except.ok.injEq, locate_here_ok_iff]
    constructor
    · rintro ⟨_, rfl, directory, rest⟩
      exact ⟨tree.home, ⟨directory, rfl⟩, directory, rest⟩
    · rintro ⟨_, ⟨_, rfl⟩, rest⟩
      exact ⟨tree.home, rfl, rest⟩
  · have listed : Path.listed base [name] = Path.join base name := by
      simp [Path.listed, here]
    rw [listed, locate_join_ok_iff proper, FileTree.base, if_neg filled]

/-- The second tree has the directories of the first, and maybe more. -/
structure Extends (tree other : FileTree) : Prop where
  home : other.home = tree.home
  directory : ∀ route, tree.hasDirectory route = true → other.hasDirectory route = true

/-- Both trees have the same directories. -/
structure SameDirectories (tree other : FileTree) : Prop where
  home : other.home = tree.home
  directory : ∀ route, other.hasDirectory route = tree.hasDirectory route

namespace Extends

theorem refl (tree : FileTree) : Extends tree tree :=
  ⟨rfl, fun _ directory => directory⟩

theorem trans (first : Extends tree other) (second : Extends other third) : Extends tree third :=
  ⟨second.home.trans first.home, fun route directory => second.directory route (first.directory route directory)⟩

theorem follow (extended : Extends tree other) {pieces : List String} (followed : tree.follow route pieces = .ok last) :
    other.follow route pieces = .ok last := by
  induction pieces generalizing route with
  | nil => exact followed
  | cons piece pieces ih =>
    obtain ⟨directory, short, rest⟩ := follow_cons_ok_iff.mp followed
    exact follow_cons_ok_iff.mpr ⟨extended.directory route directory, short, ih rest⟩

/-- A path that leads somewhere still leads there when there are more directories. -/
theorem locate (extended : Extends tree other) (located : tree.locate path = .ok route) :
    other.locate path = .ok route := by
  rw [locate_ok_iff] at located ⊢
  obtain ⟨no_nul, filled, followed⟩ := located
  rw [extended.home]
  exact ⟨no_nul, filled, extended.follow followed⟩

end Extends

namespace SameDirectories

theorem refl (tree : FileTree) : SameDirectories tree tree :=
  ⟨rfl, fun _ => rfl⟩

theorem symm (same : SameDirectories tree other) : SameDirectories other tree :=
  ⟨same.home.symm, fun route => (same.directory route).symm⟩

theorem trans (first : SameDirectories tree other) (second : SameDirectories other third) :
    SameDirectories tree third :=
  ⟨second.home.trans first.home, fun route => (second.directory route).trans (first.directory route)⟩

theorem toExtends (same : SameDirectories tree other) : Extends tree other :=
  ⟨same.home, fun route directory => (same.directory route).trans directory⟩

/-- Paths lead to the same places in trees with the same directories. -/
theorem locate_ok_iff (same : SameDirectories tree other) :
    other.locate path = .ok route ↔ tree.locate path = .ok route :=
  ⟨same.symm.toExtends.locate, same.toExtends.locate⟩

theorem base_ok_iff (same : SameDirectories tree other) :
    other.base path = .ok route ↔ tree.base path = .ok route := by
  unfold base
  rw [same.home]
  split
  · rfl
  · exact same.locate_ok_iff

end SameDirectories

theorem write_ok_iff {content : ByteArray} : tree.write path content = .ok other ↔
    ∃ route, tree.locate path = .ok route ∧ tree.hasDirectory route = false ∧
      other = tree.put route (.file content) := by
  rw [write, bind_ok_iff]
  refine exists_congr (fun route => and_congr_right (fun _ => ?_))
  cases tree.hasDirectory route with
  | true => simp [throw, throwThe, MonadExceptOf.throw]
  | false => simp [pure, Except.pure, eq_comm]

theorem remove_ok_iff : tree.remove path = .ok other ↔
    ∃ route content, tree.locate path = .ok route ∧ tree.entry? route = some (.file content) ∧
      other = tree.erase route := by
  rw [remove, bind_ok_iff]
  constructor
  · rintro ⟨route, located, removed⟩
    split at removed
    · next content found =>
      cases removed
      exact ⟨route, content, located, found, rfl⟩
    · cases removed
    · cases removed
  · rintro ⟨route, content, located, found, rfl⟩
    refine ⟨route, located, ?_⟩
    rw [found]
    rfl

theorem read_ok_iff {content : ByteArray} : tree.read path = .ok content ↔
    ∃ route, tree.locate path = .ok route ∧ tree.entry? route = some (.file content) := by
  rw [read, bind_ok_iff]
  refine exists_congr (fun route => and_congr_right (fun _ => ?_))
  split
  · next found => simp [pure, Except.pure, found]
  · next found => simp [throw, throwThe, MonadExceptOf.throw, found]
  · next found => simp [throw, throwThe, MonadExceptOf.throw, found]

/-- A file where no directory is changes no directory. -/
theorem sameDirectories_put {content : ByteArray} (no_directory : tree.hasDirectory route = false) :
    SameDirectories tree (tree.put route (.file content)) := by
  refine ⟨rfl, fun place => ?_⟩
  rw [Bool.eq_iff_iff, hasDirectory_iff, hasDirectory_iff, entry?_put (ne_root_of_not_directory no_directory)]
  by_cases here : place = route
  · have away : ¬ tree.entry? route = some .directory := by
      rw [← hasDirectory_iff, no_directory]
      exact Bool.false_ne_true
    simp [here, away]
  · rw [if_neg here]

theorem sameDirectories_erase {content : ByteArray} (found : tree.entry? route = some (.file content)) :
    SameDirectories tree (tree.erase route) := by
  refine ⟨rfl, fun place => ?_⟩
  rw [Bool.eq_iff_iff, hasDirectory_iff, hasDirectory_iff, entry?_erase]
  by_cases here : place = route
  · subst here
    simp only [found, Option.some.injEq, reduceCtorEq, iff_false]
    split <;> simp
  · rw [if_neg (fun both => here both.1)]

theorem below?_eq_some_iff {full rest : Route} : below? route full = some rest ↔ full = route ++ rest := by
  induction full generalizing route with
  | nil =>
    cases route with
    | nil => simp [below?, eq_comm]
    | cons name route => simp [below?]
  | cons first full ih =>
    cases route with
    | nil => simp [below?]
    | cons name route =>
      rw [below?]
      by_cases same : first = name
      · simp [same, ih]
      · simp [same]

theorem mem_entries_iff {entry : Entry} (below : route ≠ []) :
    (route, entry) ∈ tree.entries ↔ tree.entry? route = some entry := by
  rw [ entry?, if_neg below]
  have distinct := tree.distinct
  generalize tree.entries = entries at distinct ⊢
  induction entries with
  | nil => simp
  | cons first entries ih =>
    obtain ⟨spot, held⟩ := first
    rw [List.map_cons, List.nodup_cons] at distinct
    have rest := ih distinct.2
    rw [List.mem_cons, List.lookup_cons]
    by_cases here : route = spot
    · subst here
      have unique : (route, entry) ∉ entries := by
        intro member
        exact distinct.1 (List.mem_map.mpr ⟨(route, entry), member, rfl⟩)
      simp [unique, eq_comm]
    · have apart : (route == spot) = false := beq_false_of_ne here
      simp [apart, here, rest]

theorem mem_filesBelow_iff {rest : Route} (below : route ++ rest ≠ []) :
    rest ∈ tree.filesBelow route ↔ ∃ content, tree.entry? (route ++ rest) = some (.file content) := by
  unfold filesBelow
  rw [List.mem_filterMap]
  constructor
  · rintro ⟨⟨full, entry⟩, member, found⟩
    cases entry with
    | directory => cases found
    | file content =>
      rw [below?_eq_some_iff] at found
      subst found
      exact ⟨content, (mem_entries_iff below).mp member⟩
  · rintro ⟨content, found⟩
    exact ⟨(route ++ rest, .file content), (mem_entries_iff below).mpr found, below?_eq_some_iff.mpr rfl⟩

theorem filesUnder_ok_iff {routes : List Route} : tree.filesUnder path = .ok routes ↔
    ∃ route, tree.locate path = .ok route ∧ tree.hasDirectory route = true ∧ routes = tree.filesBelow route := by
  constructor
  · intro under
    obtain ⟨route, located, under⟩ := bind_ok_iff.mp under
    obtain ⟨⟨⟩, required, under⟩ := bind_ok_iff.mp under
    cases under
    exact ⟨route, located, requireDirectory_ok_iff.mp required, rfl⟩
  · rintro ⟨route, located, directory, rfl⟩
    exact bind_ok_iff.mpr ⟨route, located, bind_ok_iff.mpr ⟨(), requireDirectory_ok_iff.mpr directory, rfl⟩⟩

theorem filesIn_ok_iff {names : List String} : tree.filesIn path = .ok names ↔
    ∃ route, tree.locate path = .ok route ∧ tree.hasDirectory route = true ∧
      names = (tree.filesBelow route).filterMap singleName? := by
  rw [filesIn, map_ok_iff]
  simp only [filesUnder_ok_iff]
  constructor
  · rintro ⟨_, ⟨route, located, directory, rfl⟩, rfl⟩
    exact ⟨route, located, directory, rfl⟩
  · rintro ⟨route, located, directory, rfl⟩
    exact ⟨tree.filesBelow route, ⟨route, located, directory, rfl⟩, rfl⟩

theorem mem_namesOf_iff {name : String} : name ∈ (tree.filesBelow route).filterMap singleName? ↔
    ∃ content, tree.entry? (route ++ [name]) = some (.file content) := by
  rw [← mem_filesBelow_iff (by simp), List.mem_filterMap]
  constructor
  · rintro ⟨rest, member, single⟩
    unfold singleName? at single
    split at single
    · cases single
      exact member
    · cases single
  · intro member
    exact ⟨[name], member, rfl⟩

theorem nodup_filesBelow (tree : FileTree) (route : Route) : (tree.filesBelow route).Nodup := by
  have distinct := List.pairwise_map.mp tree.distinct
  refine List.Pairwise.filterMap _ ?_ distinct
  rintro ⟨full, entry⟩ ⟨other_full, other_entry⟩ apart rest found other_rest other_found rfl
  cases entry with
  | directory => cases found
  | file _ =>
    cases other_entry with
    | directory => cases other_found
    | file _ => exact apart ((below?_eq_some_iff.mp found).trans (below?_eq_some_iff.mp other_found).symm)

theorem nodup_namesOf (tree : FileTree) (route : Route) : ((tree.filesBelow route).filterMap singleName?).Nodup := by
  refine List.Pairwise.filterMap _ ?_ (tree.nodup_filesBelow route)
  intro rest other_rest apart name single other_name other_single same
  unfold singleName? at single other_single
  split at single
  · split at other_single
    · cases single
      cases other_single
      exact apart (by rw [same])
    · cases other_single
  · cases single

/-- All entries have proper names, and so have the directories down to the home directory. -/
structure HasNames (tree : FileTree) : Prop where
  entries : ∀ entry ∈ tree.entries, ∀ name ∈ entry.1, Path.IsName name
  home : ∀ name ∈ tree.home, Path.IsName name

theorem names_step {piece : String} (proper : ∀ name ∈ route, Path.IsName name) (whole : '/' ∉ piece.toList) :
    ∀ name ∈ step route piece, Path.IsName name := by
  unfold step
  split
  · exact proper
  · next filled =>
    obtain ⟨filled, here⟩ := not_or.mp filled
    split
    · intro name member
      exact proper name (List.mem_of_mem_dropLast member)
    · next up =>
      intro name member
      rcases List.mem_append.mp member with earlier | last
      · exact proper name earlier
      · rw [List.mem_singleton.mp last]
        exact ⟨whole, filled, here, up⟩

theorem names_follow {pieces : List String} (proper : ∀ name ∈ route, Path.IsName name)
    (whole : ∀ piece ∈ pieces, '/' ∉ piece.toList) (followed : tree.follow route pieces = .ok last) :
    ∀ name ∈ last, Path.IsName name := by
  induction pieces generalizing route with
  | nil =>
    cases follow_nil_ok_iff.mp followed
    exact proper
  | cons piece pieces ih =>
    obtain ⟨piece_whole, rest_whole⟩ := List.forall_mem_cons.mp whole
    obtain ⟨_, _, rest⟩ := follow_cons_ok_iff.mp followed
    exact ih (names_step proper piece_whole) rest_whole rest

namespace HasNames

theorem of_routes (routes : ∀ route ∈ tree.entries.map Prod.fst, ∀ name ∈ route, Path.IsName name)
    (home : ∀ name ∈ tree.home, Path.IsName name) : tree.HasNames :=
  ⟨fun entry member => routes entry.1 (List.mem_map_of_mem member), home⟩

theorem locate (proper : tree.HasNames) (located : tree.locate path = .ok route) :
    ∀ name ∈ route, Path.IsName name := by
  refine names_follow ?_ (fun _ => Path.no_slash_of_mem_pieces) (locate_ok_iff.mp located).2.2
  split
  · simp
  · exact proper.home

theorem put (proper : tree.HasNames) {entry : Entry} (named : ∀ name ∈ route, Path.IsName name) :
    (tree.put route entry).HasNames := by
  refine ⟨?_, proper.home⟩
  intro found member
  rcases List.mem_cons.mp member with rfl | kept
  · exact named
  · exact proper.entries found (List.mem_filter.mp kept).1

theorem erase (proper : tree.HasNames) (route : Route) : (tree.erase route).HasNames :=
  ⟨fun entry member => proper.entries entry (List.mem_filter.mp member).1, proper.home⟩

theorem name (proper : tree.HasNames) {entry : Entry} (found : tree.entry? route = some entry) :
    ∀ name ∈ route, Path.IsName name := by
  by_cases top : route = []
  · simp [top]
  · exact proper.entries (route, entry) ((mem_entries_iff top).mpr found)

end HasNames

/-! ## Making directories -/

/-- Nothing but directories was added. -/
structure Grows (tree other : FileTree) : Prop where
  toExtends : Extends tree other
  files : ∀ route content, other.entry? route = some (.file content) ↔ tree.entry? route = some (.file content)
  names : tree.HasNames → other.HasNames

namespace Grows

theorem refl (tree : FileTree) : Grows tree tree :=
  ⟨Extends.refl tree, fun _ _ => Iff.rfl, fun proper => proper⟩

theorem trans (first : Grows tree other) (second : Grows other third) : Grows tree third :=
  ⟨first.toExtends.trans second.toExtends,
    fun route content => (second.files route content).trans (first.files route content),
    fun proper => second.names (first.names proper)⟩

end Grows

theorem grows_put_directory (missing : tree.entry? route = none)
    (named : tree.HasNames → ∀ name ∈ route, Path.IsName name) : Grows tree (tree.put route .directory) := by
  have below : route ≠ [] := by
    rintro rfl
    simp at missing
  refine ⟨⟨rfl, ?_⟩, ?_, fun proper => proper.put (named proper)⟩
  · intro place directory
    rw [hasDirectory_iff, entry?_put below]
    rw [hasDirectory_iff] at directory
    split
    · rfl
    · exact directory
  · intro place content
    rw [entry?_put below]
    split
    · next here => simp [here, missing]
    · rfl

theorem grows_makeWay (begun : Bool) {pieces : List String} (named : tree.HasNames → ∀ name ∈ route, Path.IsName name)
    (whole : ∀ piece ∈ pieces, '/' ∉ piece.toList) : Grows tree (tree.makeWay begun route pieces).1 := by
  induction pieces generalizing tree begun route with
  | nil => exact Grows.refl tree
  | cons piece pieces ih =>
    obtain ⟨piece_whole, rest_whole⟩ := List.forall_mem_cons.mp whole
    have next_named : tree.HasNames → ∀ name ∈ step route piece, Path.IsName name :=
      fun proper => names_step (named proper) piece_whole
    rw [makeWay]
    split
    · exact Grows.refl tree
    · dsimp only
      split
      · exact ih begun next_named rest_whole
      · exact Grows.refl tree
      · next missing =>
        split
        · exact Grows.refl tree
        · have put := grows_put_directory missing next_named
          exact put.trans (ih true (fun proper => proper.entries _ List.mem_cons_self) rest_whole)

theorem grows_makeDirectories (tree : FileTree) (path : String) : Grows tree (tree.makeDirectories path).1 := by
  unfold makeDirectories
  split
  · exact Grows.refl tree
  · split
    · exact Grows.refl tree
    · refine grows_makeWay false (fun proper => ?_) (fun _ => Path.no_slash_of_mem_pieces)
      split
      · simp
      · exact proper.home

/-- Where directories were made on the way, the way leads to a directory. -/
theorem follow_makeWay {begun : Bool} {pieces : List String} (there : tree.hasDirectory route = true)
    (named : tree.HasNames → ∀ name ∈ route, Path.IsName name) (whole : ∀ piece ∈ pieces, '/' ∉ piece.toList)
    (made : (tree.makeWay begun route pieces).2 = .ok ()) : ∃ last, (tree.makeWay begun route pieces).1.follow route pieces = .ok last ∧
      (tree.makeWay begun route pieces).1.hasDirectory last = true := by
  induction pieces generalizing tree begun route with
  | nil => exact ⟨route, follow_nil_ok_iff.mpr rfl, there⟩
  | cons piece pieces ih =>
    have still := (grows_makeWay begun named whole).toExtends.directory route there
    obtain ⟨piece_whole, rest_whole⟩ := List.forall_mem_cons.mp whole
    have next_named : tree.HasNames → ∀ name ∈ step route piece, Path.IsName name :=
      fun proper => names_step (named proper) piece_whole
    rw [makeWay] at made still ⊢
    by_cases long : nameLimit < piece.utf8ByteSize
    · rw [if_pos long] at made
      cases made
    · rw [if_neg long] at made still ⊢
      dsimp only at made still ⊢
      cases entry : tree.entry? (step route piece) with
      | none =>
        rw [entry] at made still
        dsimp only at made still ⊢
        have no_dot : ¬ endsInDot pieces = true := fun dot => by
          rw [if_pos dot] at made
          cases made
        rw [if_neg no_dot] at made still ⊢
        have next_there : (tree.put (step route piece) .directory).hasDirectory (step route piece) = true := by
          have below : step route piece ≠ [] := by
            intro top
            simp [top] at entry
          rw [hasDirectory_iff, entry?_put below, if_pos rfl]
        obtain ⟨last, followed, last_there⟩ := ih next_there (fun proper => proper.entries _ List.mem_cons_self) rest_whole made
        exact ⟨last, follow_cons_ok_iff.mpr ⟨still, Nat.not_lt.mp long, followed⟩, last_there⟩
      | some held =>
        cases held with
        | file content =>
          rw [entry] at made
          cases made
        | directory =>
          rw [entry] at made still
          obtain ⟨last, followed, last_there⟩ := ih (hasDirectory_iff.mpr entry) next_named rest_whole made
          exact ⟨last, follow_cons_ok_iff.mpr ⟨still, Nat.not_lt.mp long, followed⟩, last_there⟩

/-- A directory is there when it was made, if there is a home directory to start from. -/
theorem base_makeDirectories (home : tree.hasDirectory tree.home = true) (made : (tree.makeDirectories path).2 = .ok ()) :
    ∃ parent, (tree.makeDirectories path).1.base path = .ok parent ∧
      (tree.makeDirectories path).1.hasDirectory parent = true := by
  unfold makeDirectories at made ⊢
  by_cases nul : path.toList.contains '\x00' = true
  · rw [if_pos nul] at made
    cases made
  · rw [if_neg nul] at made ⊢
    unfold base
    by_cases empty : path = ""
    · rw [if_pos empty, if_pos empty]
      exact ⟨tree.home, rfl, home⟩
    · rw [if_neg empty] at made ⊢
      rw [if_neg empty]
      have start_there : tree.hasDirectory (if Path.isAbsolute path then [] else tree.home) = true := by
        split
        · exact hasDirectory_iff.mpr entry?_root
        · exact home
      have start_named (proper : tree.HasNames) : ∀ name ∈ (if Path.isAbsolute path then [] else tree.home), Path.IsName name := by
        split
        · simp
        · exact proper.home
      have whole : ∀ piece ∈ Path.pieces path, '/' ∉ piece.toList := fun _ => Path.no_slash_of_mem_pieces
      obtain ⟨last, followed, there⟩ := follow_makeWay start_there start_named whole made
      have same_home := (grows_makeWay false start_named whole).toExtends.home
      refine ⟨last, locate_ok_iff.mpr ⟨by simpa using nul, empty, ?_⟩, there⟩
      rw [same_home]
      exact followed

theorem makeWay_of_hasDirectory {begun : Bool} {pieces : List String} (followed : tree.follow route pieces = .ok last)
    (there : tree.hasDirectory last = true) : tree.makeWay begun route pieces = (tree, .ok ()) := by
  induction pieces generalizing route with
  | nil => rfl
  | cons piece pieces ih =>
    obtain ⟨_, short, rest⟩ := follow_cons_ok_iff.mp followed
    have next_there : tree.hasDirectory (step route piece) = true := by
      cases pieces with
      | nil => exact follow_nil_ok_iff.mp rest ▸ there
      | cons next pieces => exact (follow_cons_ok_iff.mp rest).1
    rw [makeWay, if_neg (Nat.not_lt.mpr short)]
    dsimp only
    rw [hasDirectory_iff.mp next_there]
    exact ih rest

/-- A directory that is there is not made again. -/
theorem makeDirectories_of_hasDirectory (located : tree.locate path = .ok route) (there : tree.hasDirectory route = true) :
    tree.makeDirectories path = (tree, .ok ()) := by
  obtain ⟨no_nul, filled, followed⟩ := locate_ok_iff.mp located
  rw [makeDirectories, if_neg (by simpa using no_nul), if_neg filled]
  exact makeWay_of_hasDirectory followed there

theorem makeWay_again {begun again : Bool} {pieces : List String} (named : tree.HasNames → ∀ name ∈ route, Path.IsName name)
    (whole : ∀ piece ∈ pieces, '/' ∉ piece.toList) (made : tree.makeWay begun route pieces = (other, .ok ()))
    (extended : other.Extends third) : third.makeWay again route pieces = (third, .ok ()) := by
  induction pieces generalizing tree begun route with
  | nil => rfl
  | cons piece pieces ih =>
    obtain ⟨piece_whole, rest_whole⟩ := List.forall_mem_cons.mp whole
    have next_named : tree.HasNames → ∀ name ∈ step route piece, Path.IsName name :=
      fun proper => names_step (named proper) piece_whole
    rw [makeWay] at made ⊢
    by_cases long : nameLimit < piece.utf8ByteSize
    · rw [if_pos long] at made
      cases made
    · rw [if_neg long] at made ⊢
      dsimp only at made ⊢
      -- Whether the next directory was there before or not, it is there afterwards.
      obtain ⟨middle, reached, middle_named, rest_made, next_there⟩ : ∃ (middle : FileTree) (reached : Bool),
          (middle.HasNames → ∀ name ∈ step route piece, Path.IsName name) ∧
          middle.makeWay reached (step route piece) pieces = (other, .ok ()) ∧
          middle.hasDirectory (step route piece) = true := by
        cases entry : tree.entry? (step route piece) with
        | none =>
          rw [entry] at made
          dsimp only at made
          have no_dot : ¬ endsInDot pieces = true := fun dot => by
            rw [if_pos dot] at made
            cases made
          rw [if_neg no_dot] at made
          have below : step route piece ≠ [] := by
            intro top
            simp [top] at entry
          refine ⟨_, _, fun proper => proper.entries _ List.mem_cons_self, made, ?_⟩
          rw [hasDirectory_iff, entry?_put below, if_pos rfl]
        | some held =>
          rw [entry] at made
          cases held with
          | file content => cases made
          | directory => exact ⟨tree, begun, next_named, made, hasDirectory_iff.mpr entry⟩
      have grows : Grows middle other := by
        have grown := grows_makeWay reached middle_named rest_whole
        rwa [rest_made] at grown
      rw [hasDirectory_iff.mp (extended.directory _ (grows.toExtends.directory _ next_there))]
      exact ih middle_named rest_whole rest_made

/-- Where directories were made, none are made again, also if there are more by now. -/
theorem makeDirectories_again (made : tree.makeDirectories path = (other, .ok ())) (extended : other.Extends third) :
    third.makeDirectories path = (third, .ok ()) := by
  have same_home : third.home = tree.home := by
    have grown := (grows_makeDirectories tree path).toExtends
    rw [made] at grown
    exact extended.home.trans grown.home
  unfold makeDirectories at made ⊢
  rw [same_home]
  split at made
  · cases made
  · next no_nul =>
    rw [if_neg no_nul]
    split at made
    · next empty => rw [if_pos empty]
    · next filled =>
      rw [if_neg filled]
      refine makeWay_again (fun proper => ?_) (fun _ => Path.no_slash_of_mem_pieces) made extended
      split
      · simp
      · exact proper.home

end Tablesmith.Files.FileTree
