import Tablesmith.Files.Workspace
import Tablesmith.Files.Path

/-!
# File trees

A tree of directories and files without links. Every entry is known by its route, the names from the
top down to it; a path is followed name by name, and every step of it but the last must lead to a
directory.
-/

namespace Tablesmith.Files

/-- The names on the way from the top of a tree to an entry. -/
abbrev Route : Type :=
  List String

/-- What stands at the end of a route. -/
inductive Entry
  | directory
  | file (content : ByteArray)

/-- Entries by their route, no two at one route, and the directory from which relative paths start. -/
structure FileTree where
  entries : List (Route × Entry)
  home : Route
  distinct : (entries.map Prod.fst).Nodup

namespace FileTree

/-- The tree of which only the top exists. -/
def empty : FileTree :=
  ⟨[], [], List.nodup_nil⟩

/-- The entry at a route; the top is always a directory. -/
def entry? (tree : FileTree) (route : Route) : Option Entry :=
  if route = [] then some .directory else tree.entries.lookup route

def others (entries : List (Route × Entry)) (route : Route) : List (Route × Entry) :=
  entries.filter (·.1 ≠ route)

theorem nodup_others {entries : List (Route × Entry)} (route : Route)
    (distinct : (entries.map Prod.fst).Nodup) : ((others entries route).map Prod.fst).Nodup :=
  distinct.sublist (List.filter_sublist.map Prod.fst)

theorem nodup_cons_others {entries : List (Route × Entry)} (route : Route)
    (distinct : (entries.map Prod.fst).Nodup) :
    (route :: (others entries route).map Prod.fst).Nodup := by
  refine List.nodup_cons.2 ⟨?_, nodup_others route distinct⟩
  intro among
  obtain ⟨entry, kept, same⟩ := List.mem_map.1 among
  have away := (List.mem_filter.1 kept).2
  exact absurd same (by simpa using away)

/-- Puts an entry at a route, in the stead of what was there. -/
def put (tree : FileTree) (route : Route) (entry : Entry) : FileTree where
  entries := (route, entry) :: others tree.entries route
  home := tree.home
  distinct := nodup_cons_others route tree.distinct

/-- Takes away the entry at a route. -/
def erase (tree : FileTree) (route : Route) : FileTree where
  entries := others tree.entries route
  home := tree.home
  distinct := nodup_others route tree.distinct

def hasDirectory (tree : FileTree) (route : Route) : Bool :=
  match tree.entry? route with
  | some .directory => true
  | _ => false

def hasFile (tree : FileTree) (route : Route) : Bool :=
  match tree.entry? route with
  | some (.file _) => true
  | _ => false

/-- The longest name that an entry can have, in bytes. -/
def nameLimit : Nat := 255

/-- One step of a path: nowhere for an empty piece or a dot, up for two dots, down for a name. -/
def step (route : Route) (piece : String) : Route :=
  if piece = "" ∨ piece = "." then route
  else if piece = ".." then route.dropLast
  else route ++ [piece]

/-- The route must lead to a directory before a path can go on. -/
def requireDirectory (tree : FileTree) (route : Route) : Except FileError Unit :=
  match tree.entry? route with
  | some .directory => .ok ()
  | some (.file _) => .error .notDirectory
  | none => .error .notFound

/-- Follows the pieces of a path; the end of the route need not exist. -/
def follow (tree : FileTree) (route : Route) : List String → Except FileError Route
  | [] => .ok route
  | piece :: rest => do
    tree.requireDirectory route
    if nameLimit < piece.utf8ByteSize then throw .nameTooLong
    else tree.follow (step route piece) rest

/-- The route that a path leads to; its last step need not exist. -/
def locate (tree : FileTree) (path : String) : Except FileError Route :=
  if path.toList.contains '\x00' then .error .nulInPath
  else if path = "" then .error .notFound
  else tree.follow (if Path.isAbsolute path then [] else tree.home) (Path.pieces path)

/-- What a path leads to. -/
def find? (tree : FileTree) (path : String) : Option Entry :=
  match tree.locate path with
  | .ok route => tree.entry? route
  | .error _ => none

def isDirectory (tree : FileTree) (path : String) : Bool :=
  match tree.find? path with
  | some .directory => true
  | _ => false

/-- The content of the file that a path leads to. -/
def read (tree : FileTree) (path : String) : Except FileError ByteArray := do
  let route ← tree.locate path
  match tree.entry? route with
  | some (.file content) => return content
  | some .directory => throw .isDirectory
  | none => throw .notFound

/-- Writes a file, new or in the stead of the file that was there. -/
def write (tree : FileTree) (path : String) (content : ByteArray) : Except FileError FileTree := do
  let route ← tree.locate path
  if tree.hasDirectory route then throw .isDirectory
  else return tree.put route (.file content)

def remove (tree : FileTree) (path : String) : Except FileError FileTree := do
  let route ← tree.locate path
  match tree.entry? route with
  | some (.file _) => return tree.erase route
  | some .directory => throw .isDirectory
  | none => throw .notFound

/-- The path ends in a dot right behind the piece before, so that this piece must lead to a directory that is there. -/
def endsInDot (rest : List String) : Bool :=
  rest.contains "." && rest.all fun piece => piece = "" || piece = "."

/-- Follows the pieces of a path and makes the directories that are missing on the way. What was made
before a failure stays. -/
def makeWay (tree : FileTree) (begun : Bool) (route : Route) : List String → FileTree × Except FileError Unit
  | [] => (tree, .ok ())
  | piece :: rest =>
    if nameLimit < piece.utf8ByteSize then (tree, .error .nameTooLong)
    else
      let next := step route piece
      match tree.entry? next with
      | some .directory => tree.makeWay begun next rest
      | some (.file _) =>
        -- Once a directory was missing, they are made one by one, and the file is where the next one would be.
        let inPlace := rest.all (· = "") || (begun && !endsInDot rest)
        (tree, .error (if inPlace then .alreadyExists else .notDirectory))
      | none =>
        -- `new/.` is an entry of a directory that is missing, and its parent is the parent of `new`.
        if endsInDot rest then (tree, .error .notFound)
        else (tree.put next .directory).makeWay true next rest

/-- Makes a directory and those on the way to it, unless they exist. -/
def makeDirectories (tree : FileTree) (path : String) : FileTree × Except FileError Unit :=
  if path.toList.contains '\x00' then (tree, .error .nulInPath)
  else if path = "" then (tree, .ok ())
  else tree.makeWay false (if Path.isAbsolute path then [] else tree.home) (Path.pieces path)

/-- The rest of a route behind its beginning. -/
def below? (route : Route) : Route → Option Route
  | [] => if route = [] then some [] else none
  | name :: rest =>
    match route with
    | [] => some (name :: rest)
    | first :: others => if name = first then below? others rest else none

/-- The files below a route at any depth, each by its route from there. -/
def filesBelow (tree : FileTree) (route : Route) : List Route :=
  tree.entries.filterMap fun entry =>
    match entry.2 with
    | .file _ => below? route entry.1
    | .directory => none

/-- The files below the directory that a path leads to, each by its route from there. -/
def filesUnder (tree : FileTree) (path : String) : Except FileError (List Route) := do
  let route ← tree.locate path
  tree.requireDirectory route
  return tree.filesBelow route

def singleName? : Route → Option String
  | [name] => some name
  | _ => none

/-- The names of the files directly in the directory that a path leads to. -/
def filesIn (tree : FileTree) (path : String) : Except FileError (List String) :=
  (tree.filesUnder path).map fun routes => routes.filterMap singleName?

end FileTree

end Tablesmith.Files
