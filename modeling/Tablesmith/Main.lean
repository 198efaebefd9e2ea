import Tablesmith.CommandLine.Perform

/-!
# The program

The command line on real files.
-/

namespace Tablesmith

open Tablesmith.Files

/-- The reason why an operation on files failed. -/
def fileError : IO.Error → FileError
  | .noFileOrDirectory .. => .notFound
  | .alreadyExists .. => .alreadyExists
  | error => .other (toString error)

def attempt {α : Type} (operation : IO α) : IO (Except FileError α) := do
  try
    return .ok (← operation)
  catch error =>
    return .error (fileError error)

/-- The names of the entries of a directory that lead to a directory, or of those that lead to a file. -/
def entryNames (path : String) (kind : IO.FS.FileType) : IO (List String) := do
  let entries ← (System.mkFilePath [path]).readDir
  let found ← entries.toList.filterM fun entry => do
    match ← (entry.path.metadata).toBaseIO with
    | .ok metadata => return metadata.type == kind
    | .error _ => return false
  return found.map (·.fileName)

/-- The files below a directory at any depth. -/
partial def walk (path : String) : IO (List (List String)) := do
  let files ← entryNames path .file
  let directories ← entryNames path .dir
  let below ← directories.mapM fun name => do
    return (← walk (Path.join path name)).map (name :: ·)
  return files.map ([·]) ++ below.flatten

/-- Asks on the terminal, if there is one. -/
def confirm (path : String) : IO Bool := do
  let input ← IO.getStdin
  if ← input.isTty then
    IO.eprint ("Delete unused file '" ++ path ++ "'? [y/N] ")
    let answer := Text.lowerAscii (Text.trim (← input.getLine))
    return answer = "y" || answer = "yes"
  else return false

/-- The word in front of a message. -/
def Level.label : Level → String
  | .info => "INFO"
  | .warning => "WARN"
  | .success => "INFO"

instance : Workspace IO where
  isDirectory path := (System.mkFilePath [path]).isDir
  isPresent path := (System.mkFilePath [path]).pathExists
  readBytes path := attempt (IO.FS.readBinFile path)
  writeText path text := attempt (IO.FS.writeFile path text)
  removeFile path := attempt (IO.FS.removeFile path)
  makeDirectories path := attempt (if path = "" then return () else IO.FS.createDirAll path)
  filesIn path := attempt (entryNames path .file)
  filesBelow path := attempt (walk path)
  tell report := IO.eprintln (report.level.label ++ " " ++ report.text)
  mayDelete := confirm

end Tablesmith

/-- Performs what the words of the command line ask for. -/
def main (words : List String) : IO UInt32 := do
  let outcome ← Tablesmith.CommandLine.execute words
  IO.print outcome.output
  if outcome.status = 2 then IO.eprint Tablesmith.CommandLine.usageText
  if let some complaint := outcome.complaint then
    IO.eprintln ("Error: " ++ complaint)
  return UInt32.ofNat outcome.status
