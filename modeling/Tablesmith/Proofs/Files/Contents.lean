import Mathlib
import Tablesmith.Proofs.Files.FileTree

/-!
# Trees that differ in contents

If every file of a tree gets another content (`mapFiles`), no path leads elsewhere,
the same directories and files are there, and whatever is done to the files can be
done before or after, as long as their contents do not decide what is done.
-/

namespace Tablesmith.Files

open Outcome

/-- The entry with another content, if it is a file. -/
def Entry.mapContent (change : ByteArray → ByteArray) : Entry → Entry
  | .directory => .directory
  | .file content => .file (change content)

namespace FileTree

variable {tree other : FileTree} {route last : Route} {path : String} {change changed : Route → ByteArray → ByteArray}

theorem eq_of_entries (entries : tree.entries = other.entries) (home : tree.home = other.home) : tree = other := by
  cases tree
  cases other
  cases entries
  cases home
  rfl

/-- The tree in which the content of every file is changed as its route says. -/
def mapFiles (change : Route → ByteArray → ByteArray) (tree : FileTree) : FileTree where
  entries := tree.entries.map fun entry => (entry.1, entry.2.mapContent (change entry.1))
  home := tree.home
  distinct := by
    rw [List.map_map]
    exact tree.distinct

theorem mapFiles_id (same : ∀ route content, change route content = content) : tree.mapFiles change = tree := by
  have kept (entry : Route × Entry) : (entry.1, entry.2.mapContent (change entry.1)) = entry := by
    obtain ⟨route, entry⟩ := entry
    cases entry with
    | directory => rfl
    | file content => simp [Entry.mapContent, same]
  apply eq_of_entries
  · simp [mapFiles, kept]
  · rfl

@[simp] theorem entry?_mapFiles (route : Route) :
    FileTree.entry? (tree.mapFiles change) route = (tree.entry? route).map (Entry.mapContent (change route)) := by
  have looked (entries : List (Route × Entry)) :
      (entries.map fun entry => (entry.1, entry.2.mapContent (change entry.1))).lookup route =
        (entries.lookup route).map (Entry.mapContent (change route)) := by
    induction entries with
    | nil => rfl
    | cons entry entries ih =>
      obtain ⟨place, entry⟩ := entry
      rw [List.map_cons, List.lookup_cons, List.lookup_cons]
      by_cases here : route = place
      · simp [here]
      · have apart : (route == place) = false := beq_false_of_ne here
        simp [apart, ih]
  unfold FileTree.entry?
  by_cases top : route = []
  · simp [top, Entry.mapContent]
  · rw [if_neg top, if_neg top]
    exact looked tree.entries

@[simp] theorem hasDirectory_mapFiles (route : Route) : (tree.mapFiles change).hasDirectory route = tree.hasDirectory route := by
  unfold hasDirectory
  rw [entry?_mapFiles]
  rcases tree.entry? route with _ | _ | _ <;> rfl

@[simp] theorem requireDirectory_mapFiles (route : Route) :
    (tree.mapFiles change).requireDirectory route = tree.requireDirectory route := by
  unfold requireDirectory
  rw [entry?_mapFiles]
  rcases tree.entry? route with _ | _ | _ <;> rfl

@[simp] theorem follow_mapFiles (route : Route) (pieces : List String) :
    (tree.mapFiles change).follow route pieces = tree.follow route pieces := by
  induction pieces generalizing route with
  | nil => rfl
  | cons piece pieces ih => rw [follow, follow, requireDirectory_mapFiles, ih]

@[simp] theorem locate_mapFiles (path : String) : (tree.mapFiles change).locate path = tree.locate path := by
  unfold locate
  rw [follow_mapFiles]
  rfl

@[simp] theorem isDirectory_mapFiles (path : String) : (tree.mapFiles change).isDirectory path = tree.isDirectory path := by
  unfold isDirectory find?
  rw [locate_mapFiles]
  cases tree.locate path with
  | error error => rfl
  | ok route =>
    dsimp only
    rw [entry?_mapFiles]
    rcases tree.entry? route with _ | _ | _ <;> rfl

theorem filesBelow_mapFiles (route : Route) : (tree.mapFiles change).filesBelow route = tree.filesBelow route := by
  unfold filesBelow mapFiles
  rw [List.filterMap_map]
  apply List.filterMap_congr
  intro entry _
  obtain ⟨place, entry⟩ := entry
  cases entry <;> rfl

@[simp] theorem filesUnder_mapFiles (path : String) : (tree.mapFiles change).filesUnder path = tree.filesUnder path := by
  unfold filesUnder
  simp only [locate_mapFiles, requireDirectory_mapFiles, filesBelow_mapFiles]

@[simp] theorem filesIn_mapFiles (path : String) : (tree.mapFiles change).filesIn path = tree.filesIn path := by
  rw [filesIn, filesIn, filesUnder_mapFiles]

/-- A file whose content stays is read as before. -/
theorem read_mapFiles {parts : List String} {name : String} (proper : Path.IsName name) (pieces : Path.pieces path = parts ++ [name])
    (same : ∀ parent content, change (parent ++ [name]) content = content) : (tree.mapFiles change).read path = tree.read path := by
  unfold read
  rw [locate_mapFiles]
  cases located : tree.locate path with
  | error error => rfl
  | ok route =>
    obtain ⟨parent, rfl, _⟩ := locate_of_pieces proper pieces located
    simp only [bind, Except.bind, entry?_mapFiles]
    rcases tree.entry? (parent ++ [name]) with _ | _ | content
    · rfl
    · rfl
    · simp [Entry.mapContent, same]

/-- A file is put into a changed tree with the content that it is to have there. -/
theorem mapFiles_put (elsewhere : ∀ place, place ≠ route → changed place = change place) (entry : Entry) :
    (tree.put route entry).mapFiles changed = (tree.mapFiles change).put route (entry.mapContent (changed route)) := by
  apply eq_of_entries
  · simp only [mapFiles, put, others, List.map_cons, List.filter_map, List.cons.injEq, true_and]
    apply List.map_congr_left
    intro entry kept
    have away : entry.1 ≠ route := by simpa using (List.mem_filter.mp kept).2
    rw [elsewhere entry.1 away]
  · rfl

theorem mapFiles_erase (route : Route) : (tree.erase route).mapFiles change = (tree.mapFiles change).erase route := by
  apply eq_of_entries
  · simp only [mapFiles, erase, others, List.filter_map]
    rfl
  · rfl

theorem write_mapFiles {content written : ByteArray} (path : String)
    (elsewhere : ∀ route, tree.locate path = .ok route → ∀ place, place ≠ route → changed place = change place)
    (here : ∀ route, tree.locate path = .ok route → changed route content = written) :
    (tree.mapFiles change).write path written = (tree.write path content).map (mapFiles changed) := by
  unfold write
  rw [locate_mapFiles]
  cases located : tree.locate path with
  | error error => rfl
  | ok route =>
    simp only [bind, Except.bind, hasDirectory_mapFiles]
    split
    · rfl
    · have put : (tree.put route (.file content)).mapFiles changed = (tree.mapFiles change).put route (.file written) := by
        rw [mapFiles_put (elsewhere route located), Entry.mapContent, here route located]
      exact congrArg Except.ok put.symm

theorem remove_mapFiles (path : String) : (tree.mapFiles change).remove path = (tree.remove path).map (mapFiles change) := by
  unfold remove
  rw [locate_mapFiles]
  cases tree.locate path with
  | error error => rfl
  | ok route =>
    simp only [bind, Except.bind, entry?_mapFiles]
    rcases tree.entry? route with _ | _ | _
    · rfl
    · rfl
    · exact congrArg Except.ok (mapFiles_erase route).symm

theorem makeWay_mapFiles (begun : Bool) (route : Route) (pieces : List String) :
    (tree.mapFiles change).makeWay begun route pieces =
      ((tree.makeWay begun route pieces).1.mapFiles change, (tree.makeWay begun route pieces).2) := by
  induction pieces generalizing tree begun route with
  | nil => rfl
  | cons piece pieces ih =>
    rw [makeWay, makeWay]
    by_cases long : nameLimit < piece.utf8ByteSize
    · simp only [long, ↓reduceIte]
    · simp only [long, ↓reduceIte, entry?_mapFiles]
      rcases tree.entry? (step route piece) with _ | _ | _
      · have put : (tree.put (step route piece) .directory).mapFiles change =
            (tree.mapFiles change).put (step route piece) .directory := mapFiles_put (fun _ _ => rfl) .directory
        simp only [Option.map_none, ← put]
        split
        · rfl
        · exact ih _ _
      · exact ih _ _
      · rfl

theorem makeDirectories_mapFiles (path : String) : (tree.mapFiles change).makeDirectories path =
    ((tree.makeDirectories path).1.mapFiles change, (tree.makeDirectories path).2) := by
  unfold makeDirectories
  split
  · rfl
  · split
    · rfl
    · exact makeWay_mapFiles _ _ _

end FileTree

end Tablesmith.Files
