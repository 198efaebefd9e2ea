/-!
# Workspaces

Everything that a run needs from its surroundings: the files that it reads and writes, with the reasons why they cannot
be read or written, and the user, who is told about the run in messages of three levels and asked whether files that are
no longer used may be deleted.
-/

namespace Tablesmith

/-- The weight of a message. -/
inductive Level
  | info
  | warning
  | success
deriving DecidableEq

/-- A message to the user. -/
structure Report where
  level : Level
  text : String
deriving DecidableEq

namespace Report

/-- Tells about progress. -/
def info (text : String) : Report :=
  ⟨.info, text⟩

/-- Tells about something that may be wrong. -/
def warning (text : String) : Report :=
  ⟨.warning, text⟩

/-- Tells that a run is complete. -/
def success (text : String) : Report :=
  ⟨.success, text⟩

end Report

end Tablesmith

namespace Tablesmith.Files

/-- The reason why an operation on a file failed. -/
inductive FileError
  | notFound
  | alreadyExists
  | notDirectory
  | isDirectory
  | nameTooLong
  | nulInPath
  | notText
  | other (message : String)
deriving DecidableEq

namespace FileError

def message : FileError → String
  | notFound => "No such file or directory (os error 2)"
  | alreadyExists => "File exists (os error 17)"
  | notDirectory => "Not a directory (os error 20)"
  | isDirectory => "Is a directory (os error 21)"
  | nameTooLong => "File name too long (os error 36)"
  | nulInPath => "file name contained an unexpected NUL byte"
  | notText => "stream did not contain valid UTF-8"
  | other message => message

end FileError

end Tablesmith.Files

namespace Tablesmith

open Tablesmith.Files

/-- Access to files by their paths, and to the user. -/
class Workspace (m : Type → Type) where
  /-- The path leads to a directory. -/
  isDirectory : String → m Bool
  /-- The path leads to a file or a directory. -/
  isPresent : String → m Bool
  /-- The content of a file. -/
  readBytes : String → m (Except FileError ByteArray)
  /-- Writes a text into a file, which is made if need be. -/
  writeText : String → String → m (Except FileError Unit)
  /-- Removes a file. -/
  removeFile : String → m (Except FileError Unit)
  /-- Makes a directory and those on the way to it, unless they exist. -/
  makeDirectories : String → m (Except FileError Unit)
  /-- The names of the files that are directly in a directory. -/
  filesIn : String → m (Except FileError (List String))
  /-- The files below a directory at any depth, each by the names on the way to it. -/
  filesBelow : String → m (Except FileError (List (List String)))
  /-- Tells something. -/
  tell : Report → m Unit
  /-- Asks whether the file at a path may be deleted. -/
  mayDelete : String → m Bool

end Tablesmith
