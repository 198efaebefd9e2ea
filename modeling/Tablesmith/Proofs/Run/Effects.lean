import Mathlib
import Tablesmith.Proofs.Files.Batches
import Tablesmith.Proofs.Run.Turns

/-!
# What the parts of a run do to a tree

The code is one file that is written. Documents are saved by removing the orphans that
may be deleted, all at once, and then writing all documents (`saveOutputs_turns_iff`).
-/

namespace Tablesmith

open Files Running Steps
open Outcome (mapError_ok_iff)

variable {settings : Settings} {policy : OrphanPolicy} {cipher : Option DocumentCipher} {answer : String → Bool}
  {before after : FileTree} {directory path : String} {active : List String} {done : Unit}

namespace Turns

theorem writeText_iff {text : String} :
    Turns answer (ofFile (Workspace.writeText path text)) before done after ↔ before.write path text.toUTF8 = .ok after := by
  constructor
  · rintro ⟨last, ran, rfl⟩
    obtain ⟨tree, written, rfl⟩ := ofFile_change_ok_iff.mp ran
    exact written
  · intro written
    exact ⟨_, ofFile_change_ok_iff.mpr ⟨after, written, rfl⟩, rfl⟩

theorem makeDirectories_iff : Turns answer (ofFile (Workspace.makeDirectories path)) before done after ↔
    before.makeDirectories path = (after, .ok ()) := by
  constructor
  · rintro ⟨last, ran, rfl⟩
    obtain ⟨done, tree⟩ := outcome_eq_iff.mp ran
    exact Prod.ext (congrArg Session.tree tree) (mapError_ok_iff.mp done)
  · intro made
    refine ⟨Session.start after answer, ?_, rfl⟩
    have run_made : (Session.makeDirectories path).run (Session.start before answer) = (.ok (), Session.start after answer) :=
      congrArg (fun made : FileTree × Except FileError Unit => (made.2, Session.start made.1 answer)) made
    rw [Ends, run_ofFile]
    exact congrArg (fun outcome => (outcome.1.mapError Failure.file, outcome.2)) run_made

theorem needDirectory_iff :
    Turns answer (needDirectory directory) before done after ↔ before.isDirectory directory = true ∧ after = before := by
  constructor
  · rintro ⟨last, ran, rfl⟩
    obtain ⟨there, rfl⟩ := needDirectory_ok ran
    exact ⟨there, rfl⟩
  · rintro ⟨there, rfl⟩
    exact ⟨_, needDirectory_ends there, rfl⟩

end Turns

/-- The policy has an orphan deleted, if the user is one who answers by the path alone. -/
def OrphanPolicy.permits (policy : OrphanPolicy) (answer : String → Bool) (path : String) : Bool :=
  match policy with
  | keep => false
  | delete => true
  | ask => answer path

/-- The paths of the orphans in a directory. -/
def orphanPaths (tree : FileTree) (directory : String) (active : List String) : List String :=
  match Path.listing? directory with
  | none => []
  | some base =>
    match tree.filesIn base with
    | .ok names => (orphanNames active names).map fun name => Path.listed base [name]
    | .error _ => []

theorem orphanPaths_of_not_isDirectory {tree : FileTree} {base : String} (listing : Path.listing? directory = some base)
    (missing : ¬ tree.isDirectory base = true) : orphanPaths tree directory active = [] := by
  rw [orphanPaths, listing]
  dsimp only
  cases files : tree.filesIn base with
  | error error => rfl
  | ok names =>
    obtain ⟨parent, located, there, _⟩ := FileTree.filesIn_ok_iff.mp files
    exact absurd (isDirectory_iff.mpr ⟨parent, located, there⟩) missing

theorem findOrphans_ends_orphanPaths (session : Session) :
    Ends (findOrphans directory active) session (orphanPaths session.tree directory active) session := by
  cases listing : Path.listing? directory with
  | none =>
    rw [orphanPaths, findOrphans, listing]
    rfl
  | some base =>
    by_cases there : session.tree.isDirectory base = true
    · obtain ⟨parent, located, parent_there⟩ := isDirectory_iff.mp there
      have files := FileTree.filesIn_ok_iff.mpr ⟨parent, located, parent_there, rfl⟩
      rw [orphanPaths, listing]
      dsimp only
      rw [files]
      exact findOrphans_ends listing files
    · have absent : session.tree.isDirectory base = false := by simpa using there
      have looked : Ends (liftM (Workspace.isDirectory base : StateM Session Bool)) session false session := by
        rw [Ends, run_liftState]
        exact congrArg (fun present => (Except.ok present, session)) absent
      rw [orphanPaths_of_not_isDirectory listing there, findOrphans, listing]
      exact bind_ok_iff.mpr ⟨false, session, looked, rfl⟩

theorem findOrphans_turns_iff {paths : List String} : Turns answer (findOrphans directory active) before paths after ↔
    paths = orphanPaths before directory active ∧ after = before := by
  have turns : Turns answer (findOrphans directory active) before (orphanPaths before directory active) before :=
    ⟨_, findOrphans_ends_orphanPaths (Session.start before answer), rfl⟩
  constructor
  · intro again
    obtain ⟨rfl, rfl⟩ := again.deterministic turns
    exact ⟨rfl, rfl⟩
  · rintro ⟨rfl, rfl⟩
    exact turns

/-- Every orphan has one of the paths, and only one. -/
theorem orphanPaths_spec (names : before.HasNames) (directory : String) (active : List String) :
    (orphanPaths before directory active).Nodup ∧
      ∀ path, path ∈ orphanPaths before directory active ↔ IsOrphan before directory active path := by
  have found : Ends (findOrphans directory active) (Session.start before fun _ => false) _ _ := findOrphans_ends_orphanPaths _
  exact (findOrphans_ok names found).2

theorem deletes_turns_iff {allowed : Bool} : Turns answer (liftM (policy.deletes path : StateM Session Bool)) before allowed after ↔
    allowed = policy.permits answer path ∧ after = before := by
  have turns : Turns answer (liftM (policy.deletes path : StateM Session Bool)) before (policy.permits answer path) before := by
    cases policy with
    | keep => exact ⟨_, rfl, rfl⟩
    | delete => exact ⟨_, rfl, rfl⟩
    | ask => exact ⟨_, rfl, rfl⟩
  constructor
  · intro again
    exact again.deterministic turns
  · rintro ⟨rfl, rfl⟩
    exact turns

theorem resolveOrphan_turns_iff {deleted : Bool} : Turns answer (resolveOrphan policy path) before deleted after ↔
    deleted = policy.permits answer path ∧
      if policy.permits answer path = true then before.remove path = .ok after else after = before := by
  constructor
  · rintro ⟨last, ran, rfl⟩
    obtain ⟨allowed, middle, decided, steps⟩ := bind_ok_iff.mp ran
    obtain ⟨rfl, same⟩ := deletes_turns_iff.mp ⟨middle, decided, rfl⟩
    cases permitted : policy.permits answer path with
    | true =>
      rw [permitted, if_pos rfl] at steps
      obtain ⟨⟨⟩, removed, removes, told⟩ := bind_ok_iff.mp steps
      obtain ⟨tree, removed_ok, rfl⟩ := ofFile_change_ok_iff.mp removes
      cases told
      exact ⟨rfl, by simpa [← same] using removed_ok⟩
    | false =>
      rw [permitted, if_neg Bool.false_ne_true] at steps
      cases steps
      exact ⟨rfl, by simpa using same⟩
  · rintro ⟨rfl, step⟩
    obtain ⟨middle, decided, rfl⟩ : Turns answer (liftM (policy.deletes path : StateM Session Bool)) before _ before :=
      deletes_turns_iff.mpr ⟨rfl, rfl⟩
    cases permitted : policy.permits answer path with
    | true =>
      rw [permitted] at decided step
      have removes : Ends (ofFile (Workspace.removeFile path)) middle () { middle with tree := after } :=
        ofFile_change_ok_iff.mpr ⟨after, by simpa using step, rfl⟩
      exact ⟨_, bind_ok_iff.mpr ⟨true, middle, decided, bind_ok_iff.mpr ⟨(), _, removes, rfl⟩⟩, rfl⟩
    | false =>
      rw [permitted] at decided step
      exact ⟨_, bind_ok_iff.mpr ⟨false, middle, decided, rfl⟩, by simpa using step.symm⟩

theorem plain_resolveOrphan (path : String) : IsPlain answer (resolveOrphan policy path) :=
  (runsAlike_alike answer).resolveOrphan policy path

private theorem filterAuxM_turns_iff {paths : List String} (kept : List String) :
    (∃ found, Turns answer (paths.filterAuxM (resolveOrphan policy) kept) before found after) ↔
      before.removeAll (paths.filter (policy.permits answer)) = .ok after := by
  induction paths generalizing before kept with
  | nil =>
    constructor
    · rintro ⟨found, turns⟩
      obtain ⟨_, rfl⟩ := Turns.pure_iff.mp turns
      rfl
    · rintro ⟨⟩
      exact ⟨kept, Turns.pure_iff.mpr ⟨rfl, rfl⟩⟩
  | cons path paths ih =>
    have stepwise {found : List String} : Turns answer ((path :: paths).filterAuxM (resolveOrphan policy) kept) before found after ↔
        ∃ deleted middle, Turns answer (resolveOrphan policy path) before deleted middle ∧
          Turns answer (paths.filterAuxM (resolveOrphan policy) (cond deleted (path :: kept) kept)) middle found after :=
      Turns.bind_iff (plain_resolveOrphan path) fun deleted => InStep.filterAuxM plain_resolveOrphan paths _
    simp only [stepwise, resolveOrphan_turns_iff]
    cases permitted : policy.permits answer path with
    | true =>
      rw [List.filter_cons_of_pos permitted]
      constructor
      · rintro ⟨found, _, middle, ⟨rfl, removed⟩, rest⟩
        exact Outcome.bind_ok_iff.mpr ⟨middle, by simpa using removed, (ih _).mp ⟨found, rest⟩⟩
      · intro removed
        obtain ⟨middle, first, rest⟩ := Outcome.bind_ok_iff.mp removed
        obtain ⟨found, turns⟩ := (ih _).mpr rest
        exact ⟨found, true, middle, ⟨rfl, by simpa using first⟩, turns⟩
    | false =>
      rw [List.filter_cons_of_neg (by simp [permitted])]
      constructor
      · rintro ⟨found, _, middle, ⟨rfl, same⟩, rest⟩
        obtain rfl : middle = before := by simpa using same
        exact (ih _).mp ⟨found, rest⟩
      · intro removed
        obtain ⟨found, turns⟩ := (ih _).mpr removed
        exact ⟨found, false, before, ⟨rfl, by simp⟩, turns⟩

private theorem filterM_turns_iff {paths : List String} :
    (∃ deleted, Turns answer (paths.filterM (resolveOrphan policy)) before deleted after) ↔
      before.removeAll (paths.filter (policy.permits answer)) = .ok after := by
  have stepwise {deleted : List String} : Turns answer (paths.filterM (resolveOrphan policy)) before deleted after ↔
      ∃ found middle, Turns answer (paths.filterAuxM (resolveOrphan policy) []) before found middle ∧
        Turns answer (pure found.reverse) middle deleted after :=
    Turns.bind_iff (InStep.filterAuxM plain_resolveOrphan paths []) fun found => InStep.pure _
  rw [← filterAuxM_turns_iff []]
  simp only [stepwise, Turns.pure_iff]
  constructor
  · rintro ⟨_, found, _, turns, rfl, rfl⟩
    exact ⟨found, turns⟩
  · rintro ⟨found, turns⟩
    exact ⟨found.reverse, found, after, turns, rfl, rfl⟩

/-- The orphans that may be deleted are removed one after the other. -/
theorem resolveOrphans_turns_iff :
    (∃ deleted, Turns answer (resolveOrphans directory active policy) before deleted after) ↔
      before.removeAll ((orphanPaths before directory active).filter (policy.permits answer)) = .ok after := by
  have found_plain : IsPlain answer (findOrphans directory active) := (runsAlike_alike answer).findOrphans directory active
  have stepwise {deleted : List String} : Turns answer (resolveOrphans directory active policy) before deleted after ↔
      ∃ paths middle, Turns answer (findOrphans directory active) before paths middle ∧
        Turns answer (paths.filterM (resolveOrphan policy)) middle deleted after :=
    Turns.bind_iff found_plain (InStep.filterM plain_resolveOrphan)
  rw [← filterM_turns_iff]
  simp only [stepwise, findOrphans_turns_iff]
  constructor
  · rintro ⟨deleted, _, _, ⟨rfl, rfl⟩, turns⟩
    exact ⟨deleted, turns⟩
  · rintro ⟨deleted, turns⟩
    exact ⟨deleted, _, _, ⟨rfl, rfl⟩, turns⟩

/-- The paths of the documents and what is written there. -/
def Writing.files (writing : Writing) (cipher : Option DocumentCipher) : List (String × ByteArray) :=
  writing.outputs.map fun output => (output.path writing.directory, output.bytes cipher)

theorem save_turns_iff {output : Output} : Turns answer (output.save directory cipher) before done after ↔
    before.write (output.path directory) (output.bytes cipher) = .ok after := by
  have write_plain : IsPlain answer (ofFile (Workspace.writeText (output.path directory) (renderDocument output.content cipher))) :=
    InStep.ofFile (writesAlike_alike answer cipher directory output)
  have stepwise : Turns answer (output.save directory cipher) before done after ↔ _ :=
    Turns.bind_iff write_plain fun _ => IsPlain.tell _
  rw [stepwise]
  simp only [Turns.writeText_iff, Turns.tell_iff]
  constructor
  · rintro ⟨⟨⟩, _, written, rfl⟩
    exact written
  · intro written
    exact ⟨done, after, written, rfl⟩

theorem forM_save_turns_iff {outputs : List Output} :
    Turns answer (outputs.forM (Output.save directory cipher)) before done after ↔
      before.writeAll (Writing.files ⟨directory, outputs⟩ cipher) = .ok after := by
  have save_plain (output : Output) : IsPlain answer (output.save directory cipher) :=
    (runsAlike_alike answer).save (writesAlike_alike answer cipher) directory output
  induction outputs generalizing before with
  | nil =>
    refine Turns.pure_iff.trans ?_
    constructor
    · rintro ⟨-, rfl⟩
      rfl
    · rintro ⟨⟩
      exact ⟨rfl, rfl⟩
  | cons output outputs ih =>
    have stepwise : Turns answer ((output :: outputs).forM (Output.save directory cipher)) before done after ↔
        ∃ value middle, Turns answer (output.save directory cipher) before value middle ∧
          Turns answer (outputs.forM (Output.save directory cipher)) middle done after :=
      Turns.bind_iff (save_plain output) fun _ => InStep.forM save_plain outputs
    rw [stepwise]
    simp only [save_turns_iff, ih]
    constructor
    · rintro ⟨_, middle, written, rest⟩
      exact Outcome.bind_ok_iff.mpr ⟨middle, written, rest⟩
    · intro written
      obtain ⟨middle, first, rest⟩ := Outcome.bind_ok_iff.mp written
      exact ⟨done, middle, first, rest⟩

/-- Orphans are removed and then documents written. -/
theorem saveOutputs_turns_iff {outputs : List Output} :
    Turns answer (saveOutputs directory cipher policy outputs) before done after ↔
      ∃ swept, before.removeAll ((orphanPaths before directory (outputs.map (·.stem))).filter (policy.permits answer)) = .ok swept ∧
        swept.writeAll (Writing.files ⟨directory, outputs⟩ cipher) = .ok after := by
  have saves := runsAlike_alike answer
  have stepwise : Turns answer (saveOutputs directory cipher policy outputs) before done after ↔
      ∃ deleted swept, Turns answer (resolveOrphans directory (outputs.map (·.stem)) policy) before deleted swept ∧
        Turns answer (outputs.forM (Output.save directory cipher)) swept done after :=
    Turns.bind_iff (saves.resolveOrphans directory _ policy) fun _ =>
      InStep.forM (saves.save (writesAlike_alike answer cipher) directory) outputs
  rw [stepwise]
  simp only [← resolveOrphans_turns_iff, forM_save_turns_iff]
  constructor
  · rintro ⟨deleted, swept, sweeps, writes⟩
    exact ⟨swept, ⟨deleted, sweeps⟩, writes⟩
  · rintro ⟨swept, ⟨deleted, sweeps⟩, writes⟩
    exact ⟨deleted, swept, sweeps, writes⟩

variable {collection : Collection} {tables : Tables} {languages : Languages}

private theorem plain_needDirectory (directory : String) : IsPlain answer (needDirectory directory) :=
  (runsAlike_alike answer).needDirectory directory

private theorem plain_saveOutputs (directory : String) (outputs : List Output) :
    IsPlain answer (saveOutputs directory cipher policy outputs) :=
  (runsAlike_alike answer).saveOutputs (writesAlike_alike answer cipher) directory policy outputs

theorem needDirectory_bind_iff {α : Type} {part : Running (StateM Session) α} {value : α} (plain : IsPlain answer part) :
    Turns answer (needDirectory directory >>= fun _ => part) before value after ↔
      before.isDirectory directory = true ∧ Turns answer part before value after := by
  rw [Turns.bind_iff (plain_needDirectory directory) fun _ => plain]
  simp [Turns.needDirectory_iff, and_assoc]

theorem saveCode_turns_iff {schemas : List Schema} : Turns answer (saveCode schemas directory) before path after ↔
    path = Path.join directory Accessor.fileName ∧ before.isDirectory directory = true ∧
      before.write path (Accessor.generate schemas).toUTF8 = .ok after := by
  have write_plain : IsPlain answer (ofFile (Workspace.writeText (Path.join directory Accessor.fileName)
      (Accessor.generate schemas))) := InStep.ofFile ((runsAlike_alike answer).writeCode directory _)
  have stepwise : Turns answer (saveCode schemas directory) before path after ↔ _ :=
    needDirectory_bind_iff (write_plain.bind fun _ => InStep.pure _)
  rw [stepwise]
  simp only [Turns.bind_iff write_plain fun _ => InStep.pure _, Turns.writeText_iff, Turns.pure_iff]
  constructor
  · rintro ⟨there, _, _, written, rfl, rfl⟩
    exact ⟨rfl, there, written⟩
  · rintro ⟨rfl, there, written⟩
    exact ⟨there, (), after, written, rfl, rfl⟩

theorem runScript_turns_iff : Turns answer (runScript settings collection) before done after ↔
    ∃ directory, settings.require .scriptOutputPath = .ok directory ∧ before.isDirectory directory = true ∧
      before.write (Path.join directory Accessor.fileName) (Accessor.generate collection.tables).toUTF8 = .ok after := by
  have save_plain (directory : String) : IsPlain answer (saveCode collection.tables directory) :=
    (plain_needDirectory directory).bind fun _ =>
      (InStep.ofFile ((runsAlike_alike answer).writeCode directory _)).bind fun _ => InStep.pure _
  have stepwise : Turns answer (runScript settings collection) before done after ↔ _ := Turns.ofResult_bind_iff
  rw [stepwise]
  simp only [Turns.bind_iff (save_plain _) fun _ => IsPlain.tell _, saveCode_turns_iff, Turns.tell_iff]
  constructor
  · rintro ⟨directory, required, _, _, ⟨rfl, there, written⟩, rfl⟩
    exact ⟨directory, required, there, written⟩
  · rintro ⟨directory, required, there, written⟩
    exact ⟨directory, required, _, after, ⟨rfl, there, written⟩, rfl⟩

/-- The directory for tables must be there before their documents are written. -/
theorem saveTables_turns_iff : Turns answer (saveTables settings cipher policy (some tables)) before done after ↔
    ∃ directory, settings.require .tableOutputPath = .ok directory ∧ before.isDirectory directory = true ∧
      Turns answer (saveOutputs directory cipher policy tables.outputs) before done after := by
  have stepwise : Turns answer (saveTables settings cipher policy (some tables)) before done after ↔ _ :=
    Turns.ofResult_bind_iff
  rw [stepwise]
  refine exists_congr fun directory => and_congr_right fun _ => ?_
  have saves_plain : IsPlain answer (saveOutputs directory cipher policy tables.outputs) := plain_saveOutputs directory _
  have save_plain : IsPlain answer (tables.save directory cipher policy) :=
    (plain_needDirectory directory).bind fun _ => saves_plain
  rw [Turns.tell_bind_iff save_plain]
  exact needDirectory_bind_iff saves_plain

/-- The directory for languages is made before their documents are written. -/
theorem saveLanguages_turns_iff : Turns answer (saveLanguages settings cipher policy (some languages)) before done after ↔
    ∃ directory made, settings.require .stringOutputPath = .ok directory ∧
      before.makeDirectories directory = (made, .ok ()) ∧
      Turns answer (saveOutputs directory cipher policy languages.outputs) made done after := by
  have stepwise : Turns answer (saveLanguages settings cipher policy (some languages)) before done after ↔ _ :=
    Turns.ofResult_bind_iff
  rw [stepwise]
  refine exists_congr fun directory => ?_
  have saves_plain : IsPlain answer (saveOutputs directory cipher policy languages.outputs) := plain_saveOutputs directory _
  have makes_plain : IsPlain answer (ofFile (Workspace.makeDirectories directory)) :=
    InStep.ofFile ((runsAlike_alike answer).makeDirectories directory)
  have save_plain : IsPlain answer (languages.save directory cipher policy) := makes_plain.bind fun _ => saves_plain
  have save_stepwise : Turns answer (languages.save directory cipher policy) before done after ↔ _ :=
    Turns.bind_iff makes_plain fun _ => saves_plain
  rw [Turns.tell_bind_iff save_plain, save_stepwise]
  simp only [Turns.makeDirectories_iff]
  constructor
  · rintro ⟨required, _, made, made_ok, saves⟩
    exact ⟨made, required, made_ok, saves⟩
  · rintro ⟨made, required, made_ok, saves⟩
    exact ⟨required, done, made, made_ok, saves⟩

end Tablesmith
