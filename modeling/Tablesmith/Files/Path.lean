/-!
# Paths as texts

A path keeps the text it was given, since messages show it. Its parts are the names between its
slashes; the name of the entry it leads to is its last part, unless that is a step up.
-/

namespace Tablesmith.Path

def splitSlashes : List Char → List (List Char)
  | [] => [[]]
  | c :: rest =>
    if c = '/' then [] :: splitSlashes rest
    else
      match splitSlashes rest with
      | [] => [[c]]
      | part :: parts => (c :: part) :: parts

/-- What stands between the slashes of a path; it may be empty. -/
def pieces (path : String) : List String :=
  (splitSlashes path.toList).map String.ofList

/-- The path begins at the top of the tree. -/
def isAbsolute (path : String) : Bool :=
  path.toList.head? == some '/'

/-- The path of an entry of a directory; an absolute name stands for itself. -/
def join (directory name : String) : String :=
  if isAbsolute name ∨ directory = "" then name
  else if directory.toList.getLast? = some '/' then directory ++ name
  else directory ++ "/" ++ name

/-- The name of the entry that the path leads to, if the path ends in a name. -/
def fileName? (path : String) : Option String :=
  ((pieces path).filter fun piece => piece ≠ "" ∧ piece ≠ ".").getLast?.filter (· ≠ "..")

/-- A name is split at its last dot, unless nothing stands before the dot. -/
def splitName (name : List Char) : List Char × Option (List Char) :=
  let ending := (name.reverse.takeWhile (· ≠ '.')).reverse
  let stem := (name.reverse.dropWhile (· ≠ '.')).reverse.dropLast
  if stem = [] then (name, none) else (stem, some ending)

/-- The name without its extension, empty if the path does not end in a name. -/
def stem (path : String) : String :=
  match fileName? path with
  | some name => String.ofList (splitName name.toList).1
  | none => ""

/-- What follows the last dot of the name. -/
def extension? (path : String) : Option String :=
  (fileName? path).bind fun name => (splitName name.toList).2.map String.ofList

/-- One piece further from a directory under whose path files are listed. The path of the current
directory, a dot, is not kept in front of names; nothing can be listed below it by an empty name. -/
def descend? (base piece : String) : Option String :=
  if base = "." then if piece = "" then none else some piece else some (join base piece)

/-- The path under which the files below a directory are listed: the pieces of its own path, put
together one after the other. -/
def listing? (directory : String) : Option String :=
  match pieces directory with
  | "" :: rest => rest.foldlM descend? "/"
  | parts => parts.foldlM descend? "."

/-- The path of a listed file. -/
def listed (base : String) (route : List String) : String :=
  if base = "." then String.intercalate "/" route else route.foldl join base

end Tablesmith.Path
