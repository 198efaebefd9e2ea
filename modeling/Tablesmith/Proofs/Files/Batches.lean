import Mathlib
import Tablesmith.Proofs.Files.FileTree

/-!
# Many files at once

Removing or writing files one after the other changes no directory, so that each path
leads where it led at the start. Of several texts that are written to one place the
last one stays there (`Writes`).
-/

namespace Tablesmith.Files.FileTree

open Outcome

variable {tree other after : FileTree} {route place : Route} {path : String} {paths : List String}
  {files : List (String × ByteArray)}

/-- What is in the file at a route. -/
def content? (tree : FileTree) (route : Route) : Option ByteArray :=
  match tree.entry? route with
  | some (.file content) => some content
  | _ => none

theorem content?_eq_some_iff {content : ByteArray} :
    tree.content? route = some content ↔ tree.entry? route = some (.file content) := by
  unfold content?
  split <;> simp_all

theorem content?_of_hasDirectory (there : tree.hasDirectory route = true) : tree.content? route = none := by
  rw [content?, hasDirectory_iff.mp there]

theorem hasDirectory_of_content? (found : tree.content? route ≠ none) : tree.hasDirectory route = false := by
  rw [← Bool.not_eq_true]
  intro there
  exact found (content?_of_hasDirectory there)

/-- An entry is known by whether it is a directory, and by what is in it if it is a file. -/
theorem entry?_eq_of (directory : other.hasDirectory route = tree.hasDirectory route)
    (content : other.content? route = tree.content? route) : other.entry? route = tree.entry? route := by
  unfold hasDirectory content? at *
  cases other_entry : other.entry? route with
  | none =>
    cases entry : tree.entry? route with
    | none => rfl
    | some held => cases held <;> simp_all
  | some other_held =>
    cases entry : tree.entry? route with
    | none => cases other_held <;> simp_all
    | some held => cases other_held <;> cases held <;> simp_all

theorem content?_put {content : ByteArray} (below : route ≠ []) (place : Route) :
    (tree.put route (.file content)).content? place = if place = route then some content else tree.content? place := by
  rw [content?, entry?_put below]
  by_cases here : place = route
  · rw [if_pos here, if_pos here]
  · rw [if_neg here, if_neg here, content?]

theorem content?_erase (below : route ≠ []) (place : Route) :
    (tree.erase route).content? place = if place = route then none else tree.content? place := by
  rw [content?, entry?_erase]
  by_cases here : place = route
  · rw [if_pos here, if_pos ⟨here, here ▸ below⟩]
  · rw [if_neg here, if_neg fun both => here both.1, content?]

/-- Removes files one after the other. -/
def removeAll (tree : FileTree) (paths : List String) : Except FileError FileTree :=
  paths.foldlM remove tree

/-- All files are gone, and no other has changed. -/
structure Removes (paths : List String) (tree after : FileTree) : Prop where
  directories : SameDirectories tree after
  names : tree.HasNames → after.HasNames
  located : ∀ path ∈ paths, ∃ place, tree.locate path = .ok place
  gone : ∀ path ∈ paths, ∀ place, tree.locate path = .ok place → after.content? place = none
  kept : ∀ place, (∀ path ∈ paths, tree.locate path ≠ .ok place) → after.content? place = tree.content? place

theorem removes_of_remove (removed : tree.remove path = .ok after) : Removes [path] tree after := by
  obtain ⟨route, content, located, found, rfl⟩ := remove_ok_iff.mp removed
  have below : route ≠ [] := by
    rintro rfl
    simp at found
  refine ⟨sameDirectories_erase found, fun proper => proper.erase route, ?_, ?_, ?_⟩
  · simpa using ⟨route, located⟩
  · simp only [List.mem_singleton, forall_eq, located]
    rintro place ⟨⟩
    rw [content?_erase below, if_pos rfl]
  · intro place away
    rw [content?_erase below, if_neg]
    rintro rfl
    exact away path List.mem_cons_self located

theorem Removes.cons {middle : FileTree} (first : Removes [path] tree middle) (rest : Removes paths middle after) :
    Removes (path :: paths) tree after := by
  have same_places {other : String} {place : Route} : middle.locate other = .ok place ↔ tree.locate other = .ok place :=
    first.directories.locate_ok_iff
  -- What is gone does not come back.
  have still_gone (place : Route) (missing : middle.content? place = none) : after.content? place = none := by
    by_cases away : ∀ other ∈ paths, middle.locate other ≠ .ok place
    · rw [rest.kept place away, missing]
    · push Not at away
      obtain ⟨other, member, located⟩ := away
      exact rest.gone other member place located
  refine ⟨first.directories.trans rest.directories, fun proper => rest.names (first.names proper), ?_, ?_, ?_⟩
  · refine List.forall_mem_cons.mpr ⟨first.located path List.mem_cons_self, ?_⟩
    intro other member
    obtain ⟨place, located⟩ := rest.located other member
    exact ⟨place, same_places.mp located⟩
  · refine List.forall_mem_cons.mpr ⟨?_, ?_⟩
    · intro place located
      exact still_gone place (first.gone path List.mem_cons_self place located)
    · intro other member place located
      exact rest.gone other member place (same_places.mpr located)
  · intro place away
    obtain ⟨path_away, rest_away⟩ := List.forall_mem_cons.mp away
    rw [rest.kept place, first.kept place]
    · simpa using path_away
    · intro other member located
      exact rest_away other member (same_places.mp located)

theorem removes_of_removeAll (removed : tree.removeAll paths = .ok after) : Removes paths tree after := by
  induction paths generalizing tree with
  | nil =>
    cases removed
    exact ⟨.refl _, id, by simp, by simp, fun _ _ => rfl⟩
  | cons path paths ih =>
    obtain ⟨middle, first, rest⟩ := bind_ok_iff.mp removed
    exact (removes_of_remove first).cons (ih rest)

/-- Files can be removed one after the other if no two paths lead to one of them. -/
theorem exists_removeAll (apart : paths.Pairwise fun path other => ∀ place, tree.locate path = .ok place →
      tree.locate other ≠ .ok place)
    (found : ∀ path ∈ paths, ∃ place content, tree.locate path = .ok place ∧ tree.content? place = some content) :
    ∃ after, tree.removeAll paths = .ok after := by
  induction paths generalizing tree with
  | nil => exact ⟨tree, rfl⟩
  | cons path paths ih =>
    obtain ⟨away, rest_apart⟩ := List.pairwise_cons.mp apart
    obtain ⟨⟨place, content, located, held⟩, rest_found⟩ := List.forall_mem_cons.mp found
    obtain ⟨middle, first⟩ : ∃ middle, tree.remove path = .ok middle :=
      ⟨_, remove_ok_iff.mpr ⟨place, content, located, content?_eq_some_iff.mp held, rfl⟩⟩
    have removes := removes_of_remove first
    have same_places {other : String} {spot : Route} : middle.locate other = .ok spot ↔ tree.locate other = .ok spot :=
      removes.directories.locate_ok_iff
    obtain ⟨after, rest⟩ : ∃ after, middle.removeAll paths = .ok after := by
      refine ih (rest_apart.imp fun differ spot here there => differ spot (same_places.mp here) (same_places.mp there)) ?_
      intro other member
      obtain ⟨spot, other_content, other_located, other_held⟩ := rest_found other member
      refine ⟨spot, other_content, same_places.mpr other_located, ?_⟩
      rw [removes.kept spot, other_held]
      simp only [List.mem_singleton, forall_eq]
      intro here
      exact away other member spot here other_located
    exact ⟨after, bind_ok_iff.mpr ⟨middle, first, rest⟩⟩

/-- Writes files one after the other. -/
def writeAll (tree : FileTree) (files : List (String × ByteArray)) : Except FileError FileTree :=
  files.foldlM (fun tree file => tree.write file.1 file.2) tree

/-- The last content that is written to a place. -/
def lastWritten (tree : FileTree) (files : List (String × ByteArray)) (place : Route) : Option ByteArray :=
  (files.reverse.find? fun file => tree.locate file.1 = .ok place).map Prod.snd

/-- The files are where their paths lead, and no other has changed. -/
structure Writes (files : List (String × ByteArray)) (tree after : FileTree) : Prop where
  directories : SameDirectories tree after
  names : tree.HasNames → after.HasNames
  located : ∀ file ∈ files, ∃ place, tree.locate file.1 = .ok place ∧ tree.hasDirectory place = false
  content : ∀ place, after.content? place = (tree.lastWritten files place).or (tree.content? place)

theorem lastWritten_eq_none_iff : tree.lastWritten files place = none ↔ ∀ file ∈ files, tree.locate file.1 ≠ .ok place := by
  simp [lastWritten]

theorem lastWritten_eq_some {content : ByteArray} (written : tree.lastWritten files place = some content) :
    ∃ file ∈ files, tree.locate file.1 = .ok place := by
  obtain ⟨file, found, -⟩ := Option.map_eq_some_iff.mp written
  have leads := List.find?_some found
  exact ⟨file, List.mem_reverse.mp (List.mem_of_find?_eq_some found), by simpa using leads⟩

theorem lastWritten_cons (file : String × ByteArray) : tree.lastWritten (file :: files) place =
    (tree.lastWritten files place).or (tree.lastWritten [file] place) := by
  simp only [lastWritten, List.reverse_cons, List.find?_append, List.reverse_nil, List.nil_append]
  cases files.reverse.find? fun file => tree.locate file.1 = .ok place <;> rfl

theorem lastWritten_congr
    (same_places : ∀ file ∈ files, ∀ place, other.locate file.1 = .ok place ↔ tree.locate file.1 = .ok place) :
    other.lastWritten files = tree.lastWritten files := by
  funext place
  have alike : ∀ file ∈ files.reverse, decide (other.locate file.1 = .ok place) = decide (tree.locate file.1 = .ok place) :=
    fun file member => decide_eq_decide.mpr (same_places file (List.mem_reverse.mp member) place)
  rw [lastWritten, lastWritten, List.find?_congr alike]

theorem writes_of_write {content : ByteArray} (written : tree.write path content = .ok after) :
    Writes [(path, content)] tree after := by
  obtain ⟨route, located, free, rfl⟩ := write_ok_iff.mp written
  refine ⟨sameDirectories_put free, fun proper => proper.put (proper.locate located), ?_, ?_⟩
  · simpa using ⟨route, located, free⟩
  · intro place
    rw [content?_put (ne_root_of_not_directory free)]
    by_cases here : place = route
    · simp [lastWritten, located, here]
    · simp [lastWritten, located, here, Ne.symm here]

theorem Writes.cons {middle : FileTree} {file : String × ByteArray} (first : Writes [file] tree middle)
    (rest : Writes files middle after) : Writes (file :: files) tree after := by
  refine ⟨first.directories.trans rest.directories, fun proper => rest.names (first.names proper), ?_, ?_⟩
  · refine List.forall_mem_cons.mpr ⟨first.located file List.mem_cons_self, ?_⟩
    intro other member
    obtain ⟨place, located, free⟩ := rest.located other member
    exact ⟨place, first.directories.locate_ok_iff.mp located, (first.directories.directory place).symm.trans free⟩
  · intro place
    have same_places : middle.lastWritten files = tree.lastWritten files :=
      lastWritten_congr fun _ _ _ => first.directories.locate_ok_iff
    have either : tree.lastWritten (file :: files) place = _ := lastWritten_cons file
    rw [rest.content, first.content, same_places, either, Option.or_assoc]

theorem writes_of_writeAll (written : tree.writeAll files = .ok after) : Writes files tree after := by
  induction files generalizing tree with
  | nil =>
    cases written
    exact ⟨.refl _, id, by simp, fun _ => rfl⟩
  | cons file files ih =>
    obtain ⟨middle, first, rest⟩ := bind_ok_iff.mp written
    exact (writes_of_write first).cons (ih rest)

theorem exists_writeAll (located : ∀ file ∈ files, ∃ place, tree.locate file.1 = .ok place ∧
    tree.hasDirectory place = false) : ∃ after, tree.writeAll files = .ok after := by
  induction files generalizing tree with
  | nil => exact ⟨tree, rfl⟩
  | cons file files ih =>
    obtain ⟨⟨place, file_located, free⟩, rest_located⟩ := List.forall_mem_cons.mp located
    have same : SameDirectories tree (tree.put place (.file file.2)) := sameDirectories_put free
    obtain ⟨after, rest⟩ : ∃ after, (tree.put place (.file file.2)).writeAll files = .ok after := by
      apply ih
      intro other member
      obtain ⟨spot, other_located, other_free⟩ := rest_located other member
      exact ⟨spot, same.locate_ok_iff.mpr other_located, (same.directory spot).trans other_free⟩
    exact ⟨after, bind_ok_iff.mpr ⟨_, write_ok_iff.mpr ⟨place, file_located, free, rfl⟩, rest⟩⟩

end Tablesmith.Files.FileTree
