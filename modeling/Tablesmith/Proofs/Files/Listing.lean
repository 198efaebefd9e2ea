import Mathlib
import Tablesmith.Proofs.Files.FileTree

/-!
# Where files are listed

The files of a directory are listed under a path that is put together from the
pieces of the directory's own path. Both paths lead to the same place, whatever
slashes and dots the directory is written with (`locate_listing_ok_iff`). In a file
system, where every entry has a proper name and stands in a directory, the files that
are listed are found at their paths (`IsFileSystem.locate_listed`), so that a listing
in order names every file that is wanted once (`lists_of_routes`).
-/

namespace Tablesmith.Files.FileTree

variable {tree : FileTree} {route parent place last : Route} {entry : Entry}

/-- One piece further is one step further. -/
private theorem locate_descend_ok_iff {base next piece : String} (filled : base ≠ "") (whole : '/' ∉ piece.toList)
    (descended : Path.descend? base piece = some next) : tree.locate next = .ok last ↔
      ∃ middle, tree.locate base = .ok middle ∧ '\x00' ∉ piece.toList ∧ tree.follow middle [piece] = .ok last := by
  unfold Path.descend? at descended
  split at descended
  · next here =>
    split at descended
    · cases descended
    · next piece_filled =>
      cases descended
      have relative := Path.isAbsolute_of_no_slash whole
      rw [here, locate_ok_iff, relative, Path.pieces_of_no_slash whole, if_neg Bool.false_ne_true]
      simp only [locate_here_ok_iff]
      constructor
      · rintro ⟨no_nul, _, followed⟩
        exact ⟨tree.home, ⟨(follow_cons_ok_iff.mp followed).1, rfl⟩, no_nul, followed⟩
      · rintro ⟨_, ⟨_, rfl⟩, no_nul, followed⟩
        exact ⟨no_nul, piece_filled, followed⟩
  · cases descended
    exact locate_join_piece_ok_iff filled whole

/-- All pieces further, one after the other. -/
private theorem locate_foldlM_descend_ok_iff {parts : List String} {base next : String} (filled : base ≠ "")
    (whole : ∀ piece ∈ parts, '/' ∉ piece.toList) (descended : parts.foldlM Path.descend? base = some next) :
    tree.locate next = .ok last ↔ ∃ middle, tree.locate base = .ok middle ∧ (∀ piece ∈ parts, '\x00' ∉ piece.toList) ∧
      tree.follow middle parts = .ok last := by
  induction parts generalizing base with
  | nil =>
    cases descended
    simp [follow_nil_ok_iff]
  | cons piece parts ih =>
    obtain ⟨piece_whole, parts_whole⟩ := List.forall_mem_cons.mp whole
    obtain ⟨further, first, rest⟩ := Option.bind_eq_some_iff.mp descended
    have further_filled := Path.descend_ne_empty filled first
    have stepwise {start : Route} : tree.follow start (piece :: parts) = .ok last ↔
        ∃ middle, tree.follow start [piece] = .ok middle ∧ tree.follow middle parts = .ok last := by
      rw [← List.singleton_append, follow_append_ok_iff]
    rw [ih further_filled parts_whole rest, List.forall_mem_cons]
    simp only [locate_descend_ok_iff filled piece_whole first, stepwise]
    constructor
    · rintro ⟨middle, ⟨start, located, no_nul, piece_ok⟩, rest_no_nul, rest_ok⟩
      exact ⟨start, located, ⟨no_nul, rest_no_nul⟩, middle, piece_ok, rest_ok⟩
    · rintro ⟨start, located, ⟨no_nul, rest_no_nul⟩, middle, piece_ok, rest_ok⟩
      exact ⟨middle, ⟨start, located, no_nul, piece_ok⟩, rest_no_nul, rest_ok⟩

theorem locate_root_ok_iff : tree.locate "/" = .ok last ↔ last = [] := by
  have pieces : Path.pieces "/" = ["", ""] := by decide
  have absolute : Path.isAbsolute "/" = true := by decide
  rw [locate_ok_iff, pieces, absolute, if_pos rfl, follow_cons_ok_iff, follow_cons_ok_iff, follow_nil_ok_iff,
    eq_comm (a := last)]
  simp [step, hasDirectory_iff]

/-- A directory and the path under which its files are listed lead to the same place. -/
theorem locate_listing_ok_iff {directory base : String} (filled : directory ≠ "")
    (listing : Path.listing? directory = some base) : tree.locate base = .ok last ↔ tree.locate directory = .ok last := by
  have no_nul_iff : (∀ piece ∈ Path.pieces directory, '\x00' ∉ piece.toList) ↔ '\x00' ∉ directory.toList :=
    Path.forall_pieces_not_mem_iff (by decide)
  have whole : ∀ piece ∈ Path.pieces directory, '/' ∉ piece.toList := fun _ => Path.no_slash_of_mem_pieces
  have directory_iff : tree.locate directory = .ok last ↔ _ := locate_ok_iff
  rw [directory_iff, ← no_nul_iff]
  unfold Path.listing? at listing
  split at listing
  · next rest pieces =>
    have absolute : Path.isAbsolute directory = true := (Path.isAbsolute_iff filled).mpr ⟨rest, pieces⟩
    rw [pieces] at whole ⊢
    obtain ⟨_, rest_whole⟩ := List.forall_mem_cons.mp whole
    rw [locate_foldlM_descend_ok_iff (by decide) rest_whole listing, absolute, if_pos rfl, follow_cons_ok_iff]
    simp [locate_root_ok_iff, filled, step, hasDirectory_iff]
  · next relative =>
    have relative : Path.isAbsolute directory = false := by
      rw [← Bool.not_eq_true, Path.isAbsolute_iff filled]
      rintro ⟨rest, pieces⟩
      exact relative rest pieces
    rw [locate_foldlM_descend_ok_iff (by decide) whole listing, relative, if_neg Bool.false_ne_true]
    simp only [locate_here_ok_iff]
    constructor
    · rintro ⟨_, ⟨_, rfl⟩, no_nul, followed⟩
      exact ⟨no_nul, filled, followed⟩
    · rintro ⟨no_nul, _, followed⟩
      -- A path has at least one piece, which is looked for in the home directory.
      obtain ⟨piece, parts, pieces⟩ := List.exists_cons_of_ne_nil (Path.pieces_ne_nil directory)
      have there : tree.hasDirectory tree.home = true := by
        rw [pieces, follow_cons_ok_iff] at followed
        exact followed.1
      exact ⟨tree.home, ⟨there, rfl⟩, no_nul, followed⟩

/-- What every file system sees to: the names of entries are proper and short enough, every entry stands in a directory,
and there is a directory from which relative paths start. -/
structure IsFileSystem (tree : FileTree) : Prop where
  names : tree.HasNames
  fits : ∀ entry ∈ tree.entries, ∀ name ∈ entry.1, name.utf8ByteSize ≤ nameLimit ∧ '\x00' ∉ name.toList
  rooted : ∀ entry ∈ tree.entries, tree.hasDirectory entry.1.dropLast = true
  home : tree.hasDirectory tree.home = true

namespace IsFileSystem

/-- Only the routes of a tree have to be looked at. -/
theorem of_routes (names : ∀ route ∈ tree.entries.map Prod.fst, ∀ name ∈ route,
      Path.IsName name ∧ name.utf8ByteSize ≤ nameLimit ∧ '\x00' ∉ name.toList)
    (rooted : ∀ route ∈ tree.entries.map Prod.fst, tree.hasDirectory route.dropLast = true)
    (home_names : ∀ name ∈ tree.home, Path.IsName name) (home : tree.hasDirectory tree.home = true) :
    tree.IsFileSystem where
  names := .of_routes (fun route listed name member => (names route listed name member).1) home_names
  fits := fun entry listed name member => (names entry.1 (List.mem_map_of_mem listed) name member).2
  rooted := fun entry listed => rooted entry.1 (List.mem_map_of_mem listed)
  home := home

theorem fits_of_entry? (system : tree.IsFileSystem) (found : tree.entry? route = some entry) :
    ∀ name ∈ route, name.utf8ByteSize ≤ nameLimit ∧ '\x00' ∉ name.toList := by
  by_cases top : route = []
  · simp [top]
  · exact system.fits (route, entry) ((mem_entries_iff top).mpr found)

/-- What is above an entry is a directory. -/
theorem hasDirectory_above (system : tree.IsFileSystem) {rest : Route} (below : rest ≠ [])
    (found : tree.entry? (parent ++ rest) = some entry) : tree.hasDirectory parent = true := by
  induction rest using List.reverseRecOn generalizing entry with
  | nil => exact absurd rfl below
  | append_singleton rest name ih =>
    have listed := (mem_entries_iff (by simp)).mpr found
    have above : tree.hasDirectory (parent ++ rest) = true := by
      have rooted := system.rooted _ listed
      simpa [← List.append_assoc] using rooted
    by_cases direct : rest = []
    · simpa [direct] using above
    · exact ih direct (hasDirectory_iff.mp above)

/-- Paths that are put together name by name lead from directory to directory down to an entry. -/
theorem base_foldl_join (system : tree.IsFileSystem) {directory : String} (located : tree.base directory = .ok parent)
    (found : tree.entry? (parent ++ route) = some entry) : tree.base (route.foldl Path.join directory) = .ok (parent ++ route) := by
  induction route generalizing directory parent with
  | nil => simpa using located
  | cons name route ih =>
    have there := system.hasDirectory_above (List.cons_ne_nil name route) found
    have proper : Path.IsName name := system.names.name found name (by simp)
    obtain ⟨short, no_nul⟩ := system.fits_of_entry? found name (by simp)
    have next : tree.base (Path.join directory name) = .ok (parent ++ [name]) := by
      rw [base, if_neg (Path.join_name_ne_empty directory proper)]
      exact (locate_join_ok_iff proper).mpr ⟨parent, located, there, short, no_nul, rfl⟩
    have split : parent ++ name :: route = parent ++ [name] ++ route := by simp
    rw [List.foldl_cons, split]
    exact ih next (split ▸ found)

/-- The path of a file below a directory leads to it. -/
theorem locate_listed (system : tree.IsFileSystem) {base : String} (filled : base ≠ "") (located : tree.locate base = .ok parent)
    (below : route ≠ []) (found : tree.entry? (parent ++ route) = some entry) :
    tree.locate (Path.listed base route) = .ok (parent ++ route) := by
  have proper : ∀ name ∈ route, Path.IsName name := fun name member =>
    system.names.name found name (List.mem_append_right parent member)
  have joined : tree.base (Path.listed base route) = .ok (parent ++ route) := by
    rw [Path.listed]
    split
    · next here =>
      subst here
      obtain ⟨_, rfl⟩ := locate_here_ok_iff.mp located
      rw [Path.intercalate_eq_foldl_join proper]
      exact system.base_foldl_join rfl found
    · refine system.base_foldl_join ?_ found
      rwa [FileTree.base, if_neg filled]
  have named : Path.listed base route ≠ "" := by
    intro empty
    have nowhere : Path.names "" = [] := by decide
    have goes := Path.names_listed proper base
    rw [empty, nowhere, eq_comm, List.append_eq_nil_iff] at goes
    exact below goes.2
  rwa [FileTree.base, if_neg named] at joined

end IsFileSystem

section Order

variable {α : Type} [LinearOrder α] {le : α → α → Bool} {items : List α}

theorem mergeSort_sorted (le_iff : ∀ {item other}, le item other = true ↔ item ≤ other) :
    (items.mergeSort le).Pairwise (· ≤ ·) := by
  have sorted : (items.mergeSort le).Pairwise (le · · = true) := by
    apply List.pairwise_mergeSort
    · simp only [le_iff]
      exact fun _ _ _ => le_trans
    · intro item other
      rw [Bool.or_eq_true, le_iff, le_iff]
      exact le_total item other
  exact sorted.imp le_iff.mp

/-- What is in order and has no repetition rises. -/
theorem mergeSort_rises (le_iff : ∀ {item other}, le item other = true ↔ item ≤ other) (distinct : items.Nodup) :
    (items.mergeSort le).Pairwise (· < ·) := by
  have nodup : (items.mergeSort le).Nodup := (List.mergeSort_perm _ _).nodup_iff.mpr distinct
  exact (mergeSort_sorted le_iff).imp₂ (fun _ _ => lt_of_le_of_ne) nodup

end Order

theorem mergeSort_swapped {α : Type} {le : α → α → Bool} {item other : α} (apart : le item other = false) :
    [item, other].mergeSort le = [other, item] := by
  simp [List.mergeSort, List.MergeSort.Internal.splitInTwo, apart]

/-- The paths lead to the places that are wanted, to each by one path, in the order of the names on the way. -/
structure Lists (tree : FileTree) (paths : List String) (wanted : Route → Prop) : Prop where
  leads : ∃ places, List.Forall₂ (fun path place => tree.locate path = .ok place) paths places ∧
    places.Pairwise (· < ·) ∧ ∀ place, place ∈ places ↔ wanted place
  rises : paths.Pairwise fun path other => Path.names path < Path.names other

namespace Lists

variable {paths : List String} {wanted : Route → Prop}

theorem leads_to {path : String} (lists : tree.Lists paths wanted) (listed : path ∈ paths) :
    ∃ place, wanted place ∧ tree.locate path = .ok place := by
  obtain ⟨places, leads, _, all⟩ := lists.leads
  obtain ⟨place, member, located⟩ := Outcome.exists_mem_of_forall₂ leads.flip listed
  exact ⟨place, (all place).mp member, located⟩

theorem mem_iff (lists : tree.Lists paths wanted) : wanted place ↔ ∃ path ∈ paths, tree.locate path = .ok place := by
  obtain ⟨places, leads, _, all⟩ := lists.leads
  constructor
  · intro is_wanted
    obtain ⟨path, listed, located⟩ := Outcome.exists_mem_of_forall₂ leads ((all place).mpr is_wanted)
    exact ⟨path, listed, located⟩
  · rintro ⟨path, listed, located⟩
    obtain ⟨other, is_wanted, other_located⟩ := lists.leads_to listed
    cases located.symm.trans other_located
    exact is_wanted

/-- Nothing is listed where nothing is wanted. -/
theorem eq_nil_iff (lists : tree.Lists paths wanted) : paths = [] ↔ ∀ place, ¬ wanted place := by
  obtain ⟨places, leads, _, all⟩ := lists.leads
  have none_placed : paths = [] ↔ places = [] := by
    rw [← List.length_eq_zero_iff, leads.length_eq, List.length_eq_zero_iff]
  rw [none_placed, List.eq_nil_iff_forall_not_mem]
  exact forall_congr' fun place => not_congr (all place)

theorem nil_iff : tree.Lists [] wanted ↔ ∀ place, ¬ wanted place := by
  constructor
  · exact fun lists => lists.eq_nil_iff.mp rfl
  · intro none_wanted
    exact ⟨⟨[], .nil, .nil, fun place => iff_of_false List.not_mem_nil (none_wanted place)⟩, .nil⟩

/-- No two paths lead to the same place. -/
theorem apart (lists : tree.Lists paths wanted) :
    paths.Pairwise fun path other => ∀ place, tree.locate path = .ok place → tree.locate other ≠ .ok place := by
  obtain ⟨places, leads, rises, -⟩ := lists.leads
  clear lists
  induction leads with
  | nil => exact .nil
  | cons located leads ih =>
    obtain ⟨before, rises⟩ := List.pairwise_cons.mp rises
    refine List.pairwise_cons.mpr ⟨fun other listed here leads_here other_leads_here => ?_, ih rises⟩
    obtain ⟨there, member, other_located⟩ := Outcome.exists_mem_of_forall₂ leads.flip listed
    cases leads_here.symm.trans located
    cases other_leads_here.symm.trans other_located
    exact lt_irrefl _ (before _ member)

theorem nodup (lists : tree.Lists paths wanted) : paths.Nodup := by
  refine lists.rises.imp ?_
  rintro path _ rises rfl
  exact lt_irrefl _ rises

end Lists

/-- Routes in order are listed in order. -/
theorem lists_of_routes (system : tree.IsFileSystem) {base : String} {routes : List Route} {wanted : Route → Prop}
    (filled : base ≠ "") (located : tree.locate base = .ok parent) (rises : routes.Pairwise (· < ·))
    (files : ∀ route ∈ routes, route ≠ [] ∧ ∃ entry, tree.entry? (parent ++ route) = some entry)
    (all : ∀ place, (∃ route ∈ routes, parent ++ route = place) ↔ wanted place) :
    tree.Lists (routes.map (Path.listed base)) wanted := by
  have led : ∀ route ∈ routes, tree.locate (Path.listed base route) = .ok (parent ++ route) := by
    intro route listed
    obtain ⟨below, entry, found⟩ := files route listed
    exact system.locate_listed filled located below found
  have proper : ∀ route ∈ routes, ∀ name ∈ route, Path.IsName name := by
    intro route listed name member
    obtain ⟨_, entry, found⟩ := files route listed
    exact system.names.name found name (List.mem_append_right parent member)
  refine ⟨⟨routes.map (parent ++ ·), ?_, ?_, ?_⟩, ?_⟩
  · rw [List.forall₂_map_left_iff, List.forall₂_map_right_iff, List.forall₂_same]
    exact led
  · exact List.pairwise_map.mpr (rises.imp fun less => List.append_left_lt less)
  · intro place
    rw [List.mem_map, all]
  · rw [List.pairwise_map]
    refine rises.imp_of_mem fun {route other} listed other_listed less => ?_
    rw [Path.names_listed (proper route listed), Path.names_listed (proper other other_listed)]
    exact List.append_left_lt less

end Tablesmith.Files.FileTree
