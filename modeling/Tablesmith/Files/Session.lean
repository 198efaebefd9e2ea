import Tablesmith.Files.FileTree
import Tablesmith.Files.Workspace

/-!
# Sessions

A workspace as a value: a tree of files, what the user was told and asked, and how the user answers.
-/

namespace Tablesmith

open Tablesmith.Files

/-- The state of a workspace. The user's answer may depend on the questions asked before, of which the
last comes first. -/
structure Session where
  tree : FileTree
  reports : List Report
  asked : List String
  answer : List String → String → Bool

namespace Session

/-- A session on a tree of files with a user who answers by the path alone. -/
def start (tree : FileTree) (answer : String → Bool) : Session :=
  ⟨tree, [], [], fun _ => answer⟩

def look {α : Type} (query : FileTree → α) : StateM Session α :=
  fun session => (query session.tree, session)

/-- Changes the tree, unless that fails. -/
def change (edit : FileTree → Except FileError FileTree) : StateM Session (Except FileError Unit) :=
  fun session =>
    match edit session.tree with
    | .ok tree => (.ok (), { session with tree := tree })
    | .error error => (.error error, session)

/-- Makes a directory; those on the way to it stay if that fails. -/
def makeDirectories (path : String) : StateM Session (Except FileError Unit) :=
  fun session =>
    let (tree, result) := session.tree.makeDirectories path
    (result, { session with tree := tree })

def tell (report : Report) : StateM Session Unit :=
  fun session => ((), { session with reports := session.reports ++ [report] })

/-- Asks whether a file may be deleted. -/
def mayDelete (path : String) : StateM Session Bool :=
  fun session =>
    (session.answer session.asked path, { session with asked := path :: session.asked })

end Session

instance : Workspace (StateM Session) where
  isDirectory path := Session.look (·.isDirectory path)
  isPresent path := Session.look fun tree => (tree.find? path).isSome
  readBytes path := Session.look (·.read path)
  writeText path text := Session.change (·.write path text.toUTF8)
  removeFile path := Session.change (·.remove path)
  makeDirectories := Session.makeDirectories
  filesIn path := Session.look (·.filesIn path)
  filesBelow path := Session.look (·.filesUnder path)
  tell := Session.tell
  mayDelete := Session.mayDelete

end Tablesmith
