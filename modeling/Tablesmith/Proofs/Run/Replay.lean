import Mathlib
import Tablesmith.Proofs.Run.Amendments
import Tablesmith.Proofs.Files.Listing
import Tablesmith.Proofs.Run.Effects

/-!
# Parts of a run that are done again

Which orphans are deleted depends on their names alone, and not on which of them are
there (`Sweeps`). So a part of a run that saves documents makes an edit that is known
beforehand, and it makes the same edit on every tree that follows the one where it was
done first (`Replays`).
-/

namespace Tablesmith

open Files Running Steps

variable {settings : Settings} {policy : OrphanPolicy} {cipher : Option DocumentCipher} {answer : String → Bool}
  {before after tree : FileTree} {directory path : String} {active : List String} {place : Route}

/-- An orphan at the place is deleted, if there is one. -/
def Sweeps (policy : OrphanPolicy) (answer : String → Bool) (directory : String) (active : List String) (tree : FileTree)
    (place : Route) : Prop :=
  ∃ base name, Path.listing? directory = some base ∧ Path.IsName name ∧ isOrphanName active name = true ∧
    policy.permits answer (Path.listed base [name]) = true ∧ tree.locate (Path.listed base [name]) = .ok place

private theorem mem_permitted_iff (names : tree.HasNames) :
    path ∈ (orphanPaths tree directory active).filter (policy.permits answer) ↔
      IsOrphan tree directory active path ∧ policy.permits answer path = true := by
  rw [List.mem_filter, (orphanPaths_spec names directory active).2 path]

open Classical in
/-- Nothing is left where orphans are deleted, and elsewhere nothing has changed. -/
theorem content?_removeAll_orphans (names : tree.HasNames)
    (swept : tree.removeAll ((orphanPaths tree directory active).filter (policy.permits answer)) = .ok after) (place : Route) :
    after.content? place = if Sweeps policy answer directory active tree place then none else tree.content? place := by
  have removes := FileTree.removes_of_removeAll swept
  by_cases away : ∀ path ∈ (orphanPaths tree directory active).filter (policy.permits answer), tree.locate path ≠ .ok place
  · rw [removes.kept place away]
    split
    · next sweeps =>
      -- A file here would be an orphan, so there is none.
      obtain ⟨base, name, listing, proper, orphan, permitted, located⟩ := sweeps
      obtain ⟨parent, base_located, there, _, _, rfl⟩ :=
        (FileTree.locate_listed_ok_iff proper (Path.listing_ne_empty listing)).mp located
      by_contra found
      obtain ⟨content, held⟩ := Option.ne_none_iff_exists'.mp found
      have is_orphan : IsOrphan tree directory active (Path.listed base [name]) :=
        ⟨base, name, parent, content, listing, orphan, base_located, there, FileTree.content?_eq_some_iff.mp held, rfl⟩
      exact away _ ((mem_permitted_iff names).mpr ⟨is_orphan, permitted⟩) located
    · rfl
  · push Not at away
    obtain ⟨path, member, located⟩ := away
    obtain ⟨⟨base, name, parent, content, listing, orphan, _, _, found, rfl⟩, permitted⟩ := (mem_permitted_iff names).mp member
    have proper : Path.IsName name := names.name found name (by simp)
    rw [removes.gone _ member place located, if_pos ⟨base, name, listing, proper, orphan, permitted, located⟩]

/-- Orphans that can be found by their paths can be deleted. -/
theorem exists_removeAll_orphans (names : tree.HasNames)
    (reachable : ∀ path, IsOrphan tree directory active path → policy.permits answer path = true →
      ∃ place, tree.locate path = .ok place) :
    ∃ after, tree.removeAll ((orphanPaths tree directory active).filter (policy.permits answer)) = .ok after := by
  have orphan_at {path : String} {place : Route} (orphan : IsOrphan tree directory active path)
      (located : tree.locate path = .ok place) : ∃ base name parent content, Path.listing? directory = some base ∧
        Path.IsName name ∧ path = Path.listed base [name] ∧ place = parent ++ [name] ∧ tree.content? place = some content := by
    obtain ⟨base, name, parent, content, listing, _, base_located, _, found, rfl⟩ := orphan
    have proper : Path.IsName name := names.name found name (by simp)
    obtain ⟨other_parent, other_located, _, _, _, rfl⟩ :=
      (FileTree.locate_listed_ok_iff proper (Path.listing_ne_empty listing)).mp located
    cases base_located.symm.trans other_located
    exact ⟨base, name, parent, content, listing, proper, rfl, rfl, FileTree.content?_eq_some_iff.mpr found⟩
  apply FileTree.exists_removeAll
  · have distinct := (orphanPaths_spec names directory active).1.filter (policy.permits answer)
    refine List.Pairwise.imp_of_mem ?_ distinct
    intro path other member other_member apart place located other_located
    obtain ⟨base, name, parent, _, listing, _, rfl, rfl, _⟩ := orphan_at ((mem_permitted_iff names).mp member).1 located
    obtain ⟨_, _, _, _, other_listing, _, rfl, same, _⟩ := orphan_at ((mem_permitted_iff names).mp other_member).1 other_located
    cases listing.symm.trans other_listing
    obtain ⟨_, same_name⟩ := List.append_inj' same rfl
    cases same_name
    exact apart rfl
  · intro path member
    obtain ⟨orphan, permitted⟩ := (mem_permitted_iff names).mp member
    obtain ⟨place, located⟩ := reachable path orphan permitted
    obtain ⟨_, _, _, content, _, _, _, _, held⟩ := orphan_at orphan located
    exact ⟨place, content, located, held⟩

/-- Files are listed in a directory of the one tree where they are listed in the other, if at all. -/
def ListsAlike (directory : String) (before tree : FileTree) : Prop :=
  ∀ base parent, Path.listing? directory = some base → tree.locate base = .ok parent → tree.hasDirectory parent = true →
    before.locate base = .ok parent ∧ before.hasDirectory parent = true

theorem sweeps_iff_of_listsAlike (alike : ListsAlike directory before tree) (extended : before.Extends tree) :
    Sweeps policy answer directory active tree place ↔ Sweeps policy answer directory active before place := by
  unfold Sweeps
  refine exists_congr fun base => exists_congr fun name => and_congr_right fun listing => and_congr_right fun proper =>
    and_congr_right fun _ => and_congr_right fun _ => ⟨?_, extended.locate⟩
  intro located
  have filled := Path.listing_ne_empty listing
  obtain ⟨parent, base_located, there, fits⟩ := (FileTree.locate_listed_ok_iff proper filled).mp located
  obtain ⟨before_located, before_there⟩ := alike base parent listing base_located there
  exact (FileTree.locate_listed_ok_iff proper filled).mpr ⟨parent, before_located, before_there, fits⟩

theorem listsAlike_of_isDirectory (there : before.isDirectory directory = true) (extended : before.Extends tree) :
    ListsAlike directory before tree := by
  obtain ⟨route, located, held⟩ := isDirectory_iff.mp there
  have filled : directory ≠ "" := (FileTree.locate_ok_iff.mp located).2.1
  intro base parent listing base_located _
  have led := (FileTree.locate_listing_ok_iff filled listing).mp base_located
  cases led.symm.trans (extended.locate located)
  exact ⟨(FileTree.locate_listing_ok_iff filled listing).mpr located, held⟩

theorem listsAlike_of_sameDirectories (same : before.SameDirectories tree) : ListsAlike directory before tree :=
  fun _ parent _ located there => ⟨same.locate_ok_iff.mp located, (same.directory parent).symm.trans there⟩

/-- Where orphans were deleted before, new ones are found by their paths, since they have names of output. -/
theorem reachable_of_follows (names : before.HasNames) (follows : Follows before tree)
    (alike : ListsAlike directory before tree)
    (swept : before.removeAll ((orphanPaths before directory active).filter (policy.permits answer)) = .ok after)
    (orphan : IsOrphan tree directory active path) (permitted : policy.permits answer path = true) :
    ∃ place, tree.locate path = .ok place := by
  obtain ⟨base, name, parent, content, listing, orphan, located, there, found, rfl⟩ := orphan
  have proper : Path.IsName name := (follows.names names).name found name (by simp)
  by_cases output : IsOutputPlace (parent ++ [name])
  · have fits := isOutputPlace_concat.mp output
    exact ⟨parent ++ [name], (FileTree.locate_listed_ok_iff proper (Path.listing_ne_empty listing)).mpr
      ⟨parent, located, there, fits.short, fits.no_nul, rfl⟩⟩
  · obtain ⟨before_located, before_there⟩ := alike base parent listing located there
    have held : before.entry? (parent ++ [name]) = some (.file content) := by
      rw [← FileTree.content?_eq_some_iff, ← follows.content _ output, FileTree.content?_eq_some_iff, found]
    have is_orphan : IsOrphan before directory active (Path.listed base [name]) :=
      ⟨base, name, parent, content, listing, orphan, before_located, before_there, held, rfl⟩
    have removes := FileTree.removes_of_removeAll swept
    obtain ⟨place, was_located⟩ := removes.located _ ((mem_permitted_iff names).mpr ⟨is_orphan, permitted⟩)
    exact ⟨place, follows.extended.locate was_located⟩

/-- The part makes the edit and changes no directory. -/
def Makes (answer : String → Bool) (part : Running (StateM Session) Unit) (edit : Edit) (tree : FileTree) : Prop :=
  ∃ after, Turns answer part tree () after ∧ Amends edit tree after ∧ tree.SameDirectories after

/-- The part has made the edit, and makes it on every tree that follows and is ready for it. -/
structure Replays (answer : String → Bool) (part : Running (StateM Session) Unit) (edit : Edit) (before after : FileTree)
    (ready : FileTree → Prop) : Prop where
  amends : Amends edit before after
  output : ∀ place, edit place ≠ none → IsOutputPlace place
  again : ∀ tree, Follows before tree → ready tree → edit.Fits tree → Makes answer part edit tree

namespace Replays

variable {part : Running (StateM Session) Unit} {edit : Edit} {ready : FileTree → Prop}

theorem follows (replays : Replays answer part edit before after ready) : Follows before after :=
  .of_amends replays.amends replays.output

theorem idle (turns : Turns answer (pure ()) before () after) : Replays answer (pure ()) (fun _ => none) before after ready := by
  obtain ⟨-, rfl⟩ := Turns.pure_iff.mp turns
  have unchanged (tree : FileTree) : Amends (fun _ => none) tree tree := amends_of_grows (.refl tree)
  exact ⟨unchanged after, fun _ changed => absurd rfl changed,
    fun tree _ _ _ => ⟨tree, Turns.pure_iff.mpr ⟨rfl, rfl⟩, unchanged tree, .refl tree⟩⟩

end Replays

open Classical in
/-- What saving documents changes: documents are where they were written, and orphans are gone. -/
noncomputable def saveEdit (policy : OrphanPolicy) (answer : String → Bool) (cipher : Option DocumentCipher)
    (directory : String) (outputs : List Output) (tree : FileTree) : Edit :=
  fun place => ((tree.lastWritten (Writing.files ⟨directory, outputs⟩ cipher) place).map some).or
    (if Sweeps policy answer directory (outputs.map (·.stem)) tree place then some none else none)

variable {outputs : List Output}

/-- The names at the places that are changed are those of documents. -/
theorem saveEdit_output (changed : saveEdit policy answer cipher directory outputs tree place ≠ none) :
    ∃ parent name, place = parent ++ [name] ∧ IsDocument name ∧ IsOutputName name := by
  unfold saveEdit at changed
  cases written : tree.lastWritten (Writing.files ⟨directory, outputs⟩ cipher) place with
  | some content =>
    obtain ⟨file, member, located⟩ := FileTree.lastWritten_eq_some written
    obtain ⟨output, _, rfl⟩ := List.mem_map.mp member
    obtain ⟨parts, name, pieces, proper, document⟩ := (isDocument_path directory output).pieces
    obtain ⟨parent, rfl, short, no_nul⟩ := FileTree.locate_of_pieces proper pieces located
    exact ⟨parent, name, rfl, document, Or.inl document, short, no_nul⟩
  | none =>
    rw [written] at changed
    by_cases sweeps : Sweeps policy answer directory (outputs.map (·.stem)) tree place
    · obtain ⟨base, name, listing, proper, orphan, _, located⟩ := sweeps
      obtain ⟨parent, _, _, short, no_nul, rfl⟩ :=
        (FileTree.locate_listed_ok_iff proper (Path.listing_ne_empty listing)).mp located
      have document : IsDocument name := by
        simp only [isOrphanName, Bool.and_eq_true, List.isSuffixOf_iff_suffix] at orphan
        exact orphan.1
      exact ⟨parent, name, rfl, document, Or.inl document, short, no_nul⟩
    · rw [if_neg sweeps] at changed
      exact absurd rfl changed

theorem saveEdit_of_written {content : ByteArray}
    (written : tree.lastWritten (Writing.files ⟨directory, outputs⟩ cipher) place = some content) :
    saveEdit policy answer cipher directory outputs tree place = some (some content) := by
  rw [saveEdit, written]
  rfl

/-- Every document that was saved has its place. -/
theorem located_of_saveOutputs (saves : Turns answer (saveOutputs directory cipher policy outputs) before () after) :
    ∀ file ∈ Writing.files ⟨directory, outputs⟩ cipher, ∃ place, before.locate file.1 = .ok place := by
  obtain ⟨swept, sweeps, written⟩ := saveOutputs_turns_iff.mp saves
  intro file member
  obtain ⟨place, located, _⟩ := (FileTree.writes_of_writeAll written).located file member
  exact ⟨place, (FileTree.removes_of_removeAll sweeps).directories.locate_ok_iff.mp located⟩

theorem sameDirectories_of_saveOutputs (saves : Turns answer (saveOutputs directory cipher policy outputs) before () after) :
    before.SameDirectories after := by
  obtain ⟨swept, sweeps, written⟩ := saveOutputs_turns_iff.mp saves
  exact (FileTree.removes_of_removeAll sweeps).directories.trans (FileTree.writes_of_writeAll written).directories

/-- Orphans are deleted and documents written as the edit has it that was read off an earlier tree. -/
theorem amends_of_saveOutputs (names : tree.HasNames) (extended : before.Extends tree) (alike : ListsAlike directory before tree)
    (located : ∀ file ∈ Writing.files ⟨directory, outputs⟩ cipher, ∃ place, before.locate file.1 = .ok place)
    (saves : Turns answer (saveOutputs directory cipher policy outputs) tree () after) :
    Amends (saveEdit policy answer cipher directory outputs before) tree after := by
  obtain ⟨swept, sweeps, written⟩ := saveOutputs_turns_iff.mp saves
  have removes := FileTree.removes_of_removeAll sweeps
  have writes := FileTree.writes_of_writeAll written
  refine ⟨(sameDirectories_of_saveOutputs saves).toExtends, fun names => writes.names (removes.names names), fun place => ?_⟩
  have same_places : swept.lastWritten (Writing.files ⟨directory, outputs⟩ cipher) =
      before.lastWritten (Writing.files ⟨directory, outputs⟩ cipher) := by
    apply FileTree.lastWritten_congr
    intro file member place
    rw [removes.directories.locate_ok_iff]
    obtain ⟨known, known_located⟩ := located file member
    have led := extended.locate known_located
    rw [led, known_located]
  have same_orphans : Sweeps policy answer directory (outputs.map (·.stem)) tree place ↔
      Sweeps policy answer directory (outputs.map (·.stem)) before place := sweeps_iff_of_listsAlike alike extended
  rw [writes.content, same_places, content?_removeAll_orphans names sweeps, same_orphans]
  unfold saveEdit
  cases before.lastWritten (Writing.files ⟨directory, outputs⟩ cipher) place with
  | some content => rfl
  | none =>
    by_cases sweeps : Sweeps policy answer directory (outputs.map (·.stem)) before place
    · rw [if_pos sweeps, if_pos sweeps]
      rfl
    · rw [if_neg sweeps, if_neg sweeps]
      rfl

/-- Documents that were saved can be saved again. -/
theorem saveOutputs_replays (names : before.HasNames)
    (saves : Turns answer (saveOutputs directory cipher policy outputs) before () after) :
    Replays answer (saveOutputs directory cipher policy outputs) (saveEdit policy answer cipher directory outputs before)
      before after (ListsAlike directory before) := by
  have located := located_of_saveOutputs saves
  refine ⟨?_, ?_, ?_⟩
  · exact amends_of_saveOutputs names (.refl before) (listsAlike_of_sameDirectories (.refl before)) located saves
  · intro place changed
    obtain ⟨parent, name, rfl, _, output⟩ := saveEdit_output changed
    exact ⟨parent, name, rfl, output⟩
  · intro tree follows alike fits
    obtain ⟨swept, sweeps, _⟩ := saveOutputs_turns_iff.mp saves
    obtain ⟨again_swept, again_sweeps⟩ := exists_removeAll_orphans (follows.names names) fun path orphan permitted =>
      reachable_of_follows names follows alike sweeps orphan permitted
    have same := (FileTree.removes_of_removeAll again_sweeps).directories
    obtain ⟨again, again_written⟩ : ∃ again, again_swept.writeAll (Writing.files ⟨directory, outputs⟩ cipher) = .ok again := by
      apply FileTree.exists_writeAll
      intro file member
      obtain ⟨place, led⟩ := located file member
      refine ⟨place, same.locate_ok_iff.mpr (follows.extended.locate led), ?_⟩
      obtain ⟨content, last⟩ : ∃ content, before.lastWritten (Writing.files ⟨directory, outputs⟩ cipher) place = some content := by
        rw [← Option.ne_none_iff_exists', ne_eq, FileTree.lastWritten_eq_none_iff]
        exact fun away => away file member led
      exact (same.directory place).trans (fits place content (saveEdit_of_written last))
    have saves_again : Turns answer (saveOutputs directory cipher policy outputs) tree () again :=
      saveOutputs_turns_iff.mpr ⟨again_swept, again_sweeps, again_written⟩
    exact ⟨again, saves_again, amends_of_saveOutputs (follows.names names) follows.extended alike located saves_again,
      sameDirectories_of_saveOutputs saves_again⟩

variable {collection : Collection} {tables : Option Tables} {languages : Option Languages}

private theorem amends_of_write {content : ByteArray} (located : before.locate path = .ok place)
    (written : before.write path content = .ok after) :
    Amends (fun other => if other = place then some (some content) else none) before after := by
  obtain ⟨route, led, free, rfl⟩ := FileTree.write_ok_iff.mp written
  cases located.symm.trans led
  refine ⟨(FileTree.sameDirectories_put free).toExtends, fun names => names.put (names.locate located), fun other => ?_⟩
  rw [FileTree.content?_put (FileTree.ne_root_of_not_directory free)]
  split <;> rfl

theorem runScript_replays (scripts : Turns answer (runScript settings collection) before () after) :
    ∃ edit, Replays answer (runScript settings collection) edit before after (fun _ => True) ∧
      ∀ place, edit place ≠ none → ∃ parent, place = parent ++ [Accessor.fileName] := by
  obtain ⟨directory, required, there, written⟩ := runScript_turns_iff.mp scripts
  obtain ⟨place, located, free, _⟩ := FileTree.write_ok_iff.mp written
  have proper : Path.IsName Accessor.fileName := by decide
  obtain ⟨parent, _, _, short, no_nul, rfl⟩ := (FileTree.locate_join_ok_iff proper).mp located
  have here {other : Route} (changed : (if other = parent ++ [Accessor.fileName] then
      some (some (Accessor.generate collection.tables).toUTF8) else none) ≠ none) : other = parent ++ [Accessor.fileName] := by
    by_contra elsewhere
    exact changed (if_neg elsewhere)
  refine ⟨_, ⟨amends_of_write located written, ?_, ?_⟩, fun _ changed => ⟨parent, here changed⟩⟩
  · intro other changed
    exact ⟨parent, Accessor.fileName, here changed, Or.inr rfl, short, no_nul⟩
  · intro tree follows _ fits
    have tree_located := follows.extended.locate located
    have tree_free := fits (parent ++ [Accessor.fileName]) _ (if_pos rfl)
    have written_again : tree.write (Path.join directory Accessor.fileName) (Accessor.generate collection.tables).toUTF8 =
        .ok (tree.put (parent ++ [Accessor.fileName]) (.file (Accessor.generate collection.tables).toUTF8)) :=
      FileTree.write_ok_iff.mpr ⟨_, tree_located, tree_free, rfl⟩
    exact ⟨_, runScript_turns_iff.mpr ⟨directory, required, follows.isDirectory there, written_again⟩,
      amends_of_write tree_located written_again, FileTree.sameDirectories_put tree_free⟩

/-- The code is written to the same place. -/
theorem script_replays {product : Product}
    (scripts : Turns answer (if product.hasScript then runScript settings collection else pure ()) before () after) :
    ∃ edit, Replays answer (if product.hasScript then runScript settings collection else pure ()) edit before after
        (fun _ => True) ∧ ∀ place, edit place ≠ none → ∃ parent, place = parent ++ [Accessor.fileName] := by
  generalize product.hasScript = scripted at scripts ⊢
  cases scripted with
  | false => exact ⟨fun _ => none, .idle scripts, fun _ changed => absurd rfl changed⟩
  | true => exact runScript_replays scripts

/-- Documents of tables are saved again without touching the code. -/
theorem saveTables_replays (names : before.HasNames)
    (saves : Turns answer (saveTables settings cipher policy tables) before () after) :
    ∃ edit, Replays answer (saveTables settings cipher policy tables) edit before after (fun _ => True) ∧
      ∀ parent, edit (parent ++ [Accessor.fileName]) = none := by
  cases tables with
  | none => exact ⟨fun _ => none, .idle saves, fun _ => rfl⟩
  | some tables =>
    obtain ⟨directory, required, there, outputs_saved⟩ := saveTables_turns_iff.mp saves
    have replays := saveOutputs_replays names outputs_saved
    refine ⟨_, ⟨replays.amends, replays.output, ?_⟩, ?_⟩
    · intro tree follows _ fits
      have alike := listsAlike_of_isDirectory there follows.extended
      obtain ⟨again, saves_again, made⟩ := replays.again tree follows alike fits
      exact ⟨again, saveTables_turns_iff.mpr ⟨directory, required, follows.isDirectory there, saves_again⟩, made⟩
    · intro parent
      by_contra changed
      obtain ⟨other, name, same, document, _⟩ := saveEdit_output changed
      obtain ⟨_, same_name⟩ := List.append_inj' same rfl
      cases same_name
      revert document
      decide

/-- Documents of languages are saved again where their directory is there already. -/
theorem saveLanguages_replays (names : before.HasNames)
    (saves : Turns answer (saveLanguages settings cipher policy languages) before () after) :
    ∃ edit, Replays answer (saveLanguages settings cipher policy languages) edit before after after.SameDirectories ∧
      ∀ place, before.content? place ≠ none → after.hasDirectory place = false := by
  cases languages with
  | none =>
    obtain ⟨-, rfl⟩ := Turns.pure_iff.mp saves
    exact ⟨fun _ => none, .idle saves, fun _ => FileTree.hasDirectory_of_content?⟩
  | some languages =>
    obtain ⟨directory, made, required, makes, outputs_saved⟩ := saveLanguages_turns_iff.mp saves
    have grows : before.Grows made := by
      have grown := FileTree.grows_makeDirectories before directory
      rwa [makes] at grown
    have growing := amends_of_grows grows
    have replays := saveOutputs_replays (grows.names names) outputs_saved
    have same := sameDirectories_of_saveOutputs outputs_saved
    have amends := growing.trans replays.amends
    rw [Edit.none_followedBy] at amends
    refine ⟨_, ⟨amends, replays.output, ?_⟩, ?_⟩
    · intro tree follows same_tree fits
      have tree_same : made.SameDirectories tree := same.trans same_tree
      have made_follows : Follows made tree := by
        refine ⟨tree_same.toExtends, fun _ => follows.names names, fun place other => ?_⟩
        rw [follows.content place other, growing.content_of_none rfl]
      obtain ⟨again, saves_again, made_again⟩ :=
        replays.again tree made_follows (listsAlike_of_sameDirectories tree_same) fits
      have makes_again : tree.makeDirectories directory = (tree, .ok ()) :=
        FileTree.makeDirectories_again makes tree_same.toExtends
      exact ⟨again, saveLanguages_turns_iff.mpr ⟨directory, tree, required, makes_again, saves_again⟩, made_again⟩
    · intro place held
      rw [same.directory]
      apply FileTree.hasDirectory_of_content?
      rwa [growing.content_of_none rfl]

end Tablesmith
