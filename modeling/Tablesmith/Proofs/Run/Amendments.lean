import Mathlib
import Tablesmith.Proofs.Files.Batches
import Tablesmith.Proofs.Run.Concealment

/-!
# What a run may change

The files that a run writes or removes have names that no workbook has
(`IsOutputName`). What is done to the contents of a tree at once is an edit; two edits
make another one, and an edit that is made again changes nothing (`Amends.again`). A
tree that follows another one differs from it at most in more directories and at the
places of output (`Follows`).
-/

namespace Tablesmith

open Files

variable {before middle after : FileTree} {place : Route} {name : String}

/-- The name of a document or of the code, if an entry can have it. -/
structure IsOutputName (name : String) : Prop where
  kind : IsDocument name ∨ name = Accessor.fileName
  short : name.utf8ByteSize ≤ FileTree.nameLimit
  no_nul : '\x00' ∉ name.toList

/-- An entry of the name of output is at the place. -/
def IsOutputPlace (place : Route) : Prop :=
  ∃ parent name, place = parent ++ [name] ∧ IsOutputName name

theorem isOutputPlace_concat {parent : Route} : IsOutputPlace (parent ++ [name]) ↔ IsOutputName name := by
  constructor
  · rintro ⟨other_parent, other, same, output⟩
    obtain ⟨_, same_name⟩ := List.append_inj' same rfl
    cases same_name
    exact output
  · intro output
    exact ⟨parent, name, rfl, output⟩

theorem not_isWorkbookName_of_isDocument (proper : Path.IsName name) (document : IsDocument name) :
    isWorkbookName name = false := by
  obtain ⟨stem, rfl⟩ := documentEnding_suffix_iff.mp document
  rw [isWorkbookName, Path.extension?, proper.fileName?, Option.bind_some]
  by_cases empty : stem = ""
  · subst empty
    decide +kernel
  · have chars : (documentName stem).toList = stem.toList ++ '.' :: "json".toList := by
      rw [documentName, String.toList_append]
      rfl
    have filled : stem.toList ≠ [] := by simpa using empty
    have other : workbookExtensions.contains (Text.lowerAscii (String.ofList "json".toList)) = false := by decide +kernel
    rw [chars, Path.splitName_append_dot filled (by decide)]
    dsimp only [Option.map_some]
    rw [other, Bool.false_and]

theorem IsOutputName.not_isWorkbookName (output : IsOutputName name) (proper : Path.IsName name) :
    isWorkbookName name = false := by
  rcases output.kind with document | rfl
  · exact not_isWorkbookName_of_isDocument proper document
  · decide +kernel

/-- What is at a place afterwards, for each place that is changed. -/
abbrev Edit : Type :=
  Route → Option (Option ByteArray)

namespace Edit

/-- One edit and then another. -/
def followedBy (edit later : Edit) : Edit :=
  fun place => (later place).or (edit place)

theorem none_followedBy (later : Edit) : followedBy (fun _ => none) later = later := by
  funext place
  rw [followedBy, Option.or_none]

/-- No directory is where the edit puts a file. -/
def Fits (edit : Edit) (tree : FileTree) : Prop :=
  ∀ place content, edit place = some (some content) → tree.hasDirectory place = false

theorem Fits.of_sameDirectories {edit : Edit} (fits : edit.Fits before) (same : before.SameDirectories after) :
    edit.Fits after :=
  fun place content puts => (same.directory place).trans (fits place content puts)

end Edit

variable {edit later : Edit}

/-- The edit was made, and maybe there are more directories. -/
structure Amends (edit : Edit) (before after : FileTree) : Prop where
  extended : before.Extends after
  names : before.HasNames → after.HasNames
  content : ∀ place, after.content? place = (edit place).getD (before.content? place)

namespace Amends

theorem trans (first : Amends edit before middle) (second : Amends later middle after) :
    Amends (edit.followedBy later) before after := by
  refine ⟨first.extended.trans second.extended, fun names => second.names (first.names names), fun place => ?_⟩
  rw [second.content, first.content, Edit.followedBy]
  cases later place <;> rfl

theorem content_of_some {held : Option ByteArray} (amends : Amends edit before after) (changed : edit place = some held) :
    after.content? place = held := by
  rw [amends.content, changed, Option.getD_some]

theorem content_of_none (amends : Amends edit before after) (unchanged : edit place = none) :
    after.content? place = before.content? place := by
  rw [amends.content, unchanged, Option.getD_none]

/-- An edit that is made again changes no content. -/
theorem again {twice : FileTree} (amends : Amends edit before after) (repeated : Amends edit after twice) (place : Route) :
    twice.content? place = after.content? place := by
  rw [repeated.content, amends.content]
  cases edit place <;> rfl

theorem fits (amends : Amends edit before after) : edit.Fits after := by
  intro place content puts
  apply FileTree.hasDirectory_of_content?
  rw [amends.content_of_some puts]
  exact Option.some_ne_none content

end Amends

theorem amends_of_grows (grows : before.Grows after) : Amends (fun _ => none) before after := by
  refine ⟨grows.toExtends, grows.names, fun place => Option.ext fun content => ?_⟩
  rw [FileTree.content?_eq_some_iff, Option.getD_none, FileTree.content?_eq_some_iff]
  exact grows.files place content

/-- At most directories were added and places of output changed. -/
structure Follows (before after : FileTree) : Prop where
  extended : before.Extends after
  names : before.HasNames → after.HasNames
  content : ∀ place, ¬ IsOutputPlace place → after.content? place = before.content? place

namespace Follows

theorem trans (first : Follows before middle) (second : Follows middle after) : Follows before after :=
  ⟨first.extended.trans second.extended, fun names => second.names (first.names names),
    fun place other => (second.content place other).trans (first.content place other)⟩

theorem of_amends (amends : Amends edit before after) (output : ∀ place, edit place ≠ none → IsOutputPlace place) :
    Follows before after :=
  ⟨amends.extended, amends.names, fun place other => amends.content_of_none (not_not.mp (mt (output place) other))⟩

theorem isDirectory {directory : String} (follows : Follows before after) (there : before.isDirectory directory = true) :
    after.isDirectory directory = true := by
  obtain ⟨route, located, held⟩ := isDirectory_iff.mp there
  exact isDirectory_iff.mpr ⟨route, follows.extended.locate located, follows.extended.directory route held⟩

end Follows

end Tablesmith
