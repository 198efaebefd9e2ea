import Mathlib
import Tablesmith.Proofs.Files.Listing
import Tablesmith.Proofs.Run.Refusals

/-!
# Where documents go

A writer that deletes orphans is meant to change nothing outside its directory and to
leave no documents in it but those of the run. It does so exactly if no name of a
document has a slash in it, if every orphan that it deletes is in its directory, and if
it finds every other document there (`confined_exact_iff`). Where the files of the
directory can be listed under its path, a slash in a name is nearly all that can go
wrong (`Writing.isTidy_iff`).
-/

namespace Tablesmith

open Files Running Steps

variable {settings : Settings} {policy : OrphanPolicy} {order : WriteOrder} {cipher : Option DocumentCipher}
  {before after : FileTree} {session middle last : Session} {directory path : String} {active : List String}
  {parent place : Route} {writing : Writing}

/-- An orphan of the directory is at the place. -/
def OrphanAt (tree : FileTree) (directory : String) (active : List String) (place : Route) : Prop :=
  ∃ base parent name content, Path.listing? directory = some base ∧ tree.locate base = .ok parent ∧
    tree.hasDirectory parent = true ∧ isOrphanName active name = true ∧ place = parent ++ [name] ∧
    tree.entry? (parent ++ [name]) = some (.file content)

theorem orphanAt_of_isOrphan {tree : FileTree} (names : tree.HasNames) (orphan : IsOrphan tree directory active path)
    (located : tree.locate path = .ok place) : OrphanAt tree directory active place := by
  obtain ⟨base, name, parent, content, listing, is_orphan, base_located, there, found, rfl⟩ := orphan
  have named : Path.IsName name := names.name found name (by simp)
  obtain ⟨other, other_located, _, _, _, rfl⟩ :=
    (FileTree.locate_listed_ok_iff named (Path.listing_ne_empty listing)).mp located
  cases base_located.symm.trans other_located
  exact ⟨base, parent, name, content, listing, base_located, there, is_orphan, rfl, found⟩

/-- Where orphans are deleted, all of them are gone, and nothing else has changed. -/
theorem resolveOrphans_delete_ok {deleted : List String} (names : session.tree.HasNames)
    (ran : Ends (resolveOrphans directory active .delete) session deleted last) : Session.Edits session last ∧
      ∀ place, (OrphanAt session.tree directory active place → last.tree.entry? place = none) ∧
        (¬ OrphanAt session.tree directory active place → last.tree.entry? place = session.tree.entry? place) := by
  obtain ⟨paths, middle, looked, steps⟩ := bind_ok_iff.mp ran
  obtain ⟨rfl, distinct, orphans⟩ := findOrphans_ok names looked
  have swept := filterM_resolveOrphan_ok distinct steps
  refine ⟨swept.edits, fun place => ⟨?_, ?_⟩⟩
  · rintro ⟨base, parent, name, content, listing, located, there, orphan, rfl, found⟩
    have named : Path.IsName name := names.name found name (by simp)
    have member := (orphans _).mpr ⟨base, name, parent, content, listing, orphan, located, there, found, rfl⟩
    obtain ⟨place, led⟩ := swept.led _ (swept.deletes ▸ List.mem_filter.mpr ⟨member, rfl⟩)
    obtain ⟨other, other_located, _, _, _, rfl⟩ :=
      (FileTree.locate_listed_ok_iff named (Path.listing_ne_empty listing)).mp led
    cases located.symm.trans other_located
    exact swept.gone _ member rfl _ led
  · intro no_orphan
    refine swept.kept place fun path member _ led => no_orphan ?_
    exact orphanAt_of_isOrphan names ((orphans path).mp member) led

/-- All that has changed is below a directory. -/
def Confined (parent : Route) (before after : FileTree) : Prop :=
  ∀ place, after.entry? place ≠ before.entry? place → parent <+: place

namespace Writing

/-- The files of a directory with names of documents are the documents of the writer. -/
def IsExact (writing : Writing) (cipher : Option DocumentCipher) (parent : Route) (tree : FileTree) : Prop :=
  ∀ name, documentEnding.toList <:+ name.toList → ∀ content,
    tree.entry? (parent ++ [name]) = some (.file content) ↔
      ∃ output ∈ writing.outputs, name = documentName output.stem ∧ content = output.bytes cipher

/-- No document leaves its directory, orphans are in the directory, and any other file there with the name of a
    document is an orphan. -/
structure IsTidy (writing : Writing) (tree : FileTree) (parent : Route) : Prop where
  whole : ∀ output ∈ writing.outputs, '/' ∉ output.stem.toList
  within : ∀ place, OrphanAt tree writing.directory writing.stems place → parent <+: place
  found : ∀ name content, documentEnding.toList <:+ name.toList → tree.entry? (parent ++ [name]) = some (.file content) →
    (∃ output ∈ writing.outputs, name = documentName output.stem) ∨
      OrphanAt tree writing.directory writing.stems (parent ++ [name])

/-- A document of the writer goes to the place. -/
def Covers (writing : Writing) (parent place : Route) : Prop :=
  ∃ output ∈ writing.outputs, place = parent ++ [documentName output.stem]

/-- The documents are in a directory, orphans are gone, and nothing else has changed. -/
structure Replaces (writing : Writing) (cipher : Option DocumentCipher) (parent : Route) (before after : FileTree) :
    Prop where
  put : ∀ output ∈ writing.outputs,
    after.entry? (parent ++ [documentName output.stem]) = some (.file (output.bytes cipher))
  gone : ∀ place, ¬ writing.Covers parent place → OrphanAt before writing.directory writing.stems place →
    after.entry? place = none
  kept : ∀ place, ¬ writing.Covers parent place → ¬ OrphanAt before writing.directory writing.stems place →
    after.entry? place = before.entry? place

namespace Replaces

theorem confined_iff (replaces : writing.Replaces cipher parent before after) : Confined parent before after ↔
    ∀ place, OrphanAt before writing.directory writing.stems place → parent <+: place := by
  constructor
  · intro confined place orphan
    by_cases covered : writing.Covers parent place
    · obtain ⟨output, _, rfl⟩ := covered
      exact List.prefix_append parent _
    · have gone := replaces.gone place covered orphan
      obtain ⟨_, _, _, _, _, _, _, _, rfl, found⟩ := orphan
      exact confined _ (by simp [gone, found])
  · intro within place changed
    by_cases covered : writing.Covers parent place
    · obtain ⟨output, _, rfl⟩ := covered
      exact List.prefix_append parent _
    · by_cases orphan : OrphanAt before writing.directory writing.stems place
      · exact within place orphan
      · exact absurd (replaces.kept place covered orphan) changed

theorem isExact_iff (replaces : writing.Replaces cipher parent before after) : writing.IsExact cipher parent after ↔
    ∀ name content, documentEnding.toList <:+ name.toList → before.entry? (parent ++ [name]) = some (.file content) →
      (∃ output ∈ writing.outputs, name = documentName output.stem) ∨
        OrphanAt before writing.directory writing.stems (parent ++ [name]) := by
  have covers_iff {name : String} : writing.Covers parent (parent ++ [name]) ↔
      ∃ output ∈ writing.outputs, name = documentName output.stem := by
    simp [Covers]
  constructor
  · intro exactly name content ending found
    by_contra neither
    obtain ⟨no_document, no_orphan⟩ := not_or.mp neither
    have kept := replaces.kept _ (mt covers_iff.mp no_document) no_orphan
    obtain ⟨output, member, named, _⟩ := (exactly name ending content).mp (kept.trans found)
    exact no_document ⟨output, member, named⟩
  · intro known name ending content
    constructor
    · intro found
      by_cases document : ∃ output ∈ writing.outputs, name = documentName output.stem
      · obtain ⟨output, member, rfl⟩ := document
        have put := replaces.put output member
        rw [put] at found
        cases found
        exact ⟨output, member, rfl, rfl⟩
      · have uncovered := mt covers_iff.mp document
        by_cases orphan : OrphanAt before writing.directory writing.stems (parent ++ [name])
        · rw [replaces.gone _ uncovered orphan] at found
          cases found
        · rw [replaces.kept _ uncovered orphan] at found
          rcases known name content ending found with named | is_orphan
          · exact absurd named document
          · exact absurd is_orphan orphan
    · rintro ⟨output, member, rfl, rfl⟩
      exact replaces.put output member

end Replaces

end Writing

theorem forM_save_edits {outputs : List Output}
    (ran : Ends (outputs.forM (Output.save directory cipher)) session () last) : Session.Edits session last := by
  induction outputs generalizing session with
  | nil =>
    obtain ⟨_, rfl⟩ := pure_ok_iff.mp ran
    exact .of_tree rfl rfl
  | cons output outputs ih =>
    obtain ⟨⟨⟩, middle, first, rest⟩ := bind_ok_iff.mp ran
    exact (save_output_ok first).edits.trans (ih rest)

theorem saveOutputs_replaces (proper : writing.IsProper) (names : session.tree.HasNames)
    (led : session.tree.base writing.directory = .ok parent)
    (ran : Ends (saveOutputs writing.directory cipher .delete writing.outputs) session () last) :
    writing.Replaces cipher parent session.tree last.tree := by
  obtain ⟨deleted, middle, resolved, writes⟩ := bind_ok_iff.mp ran
  obtain ⟨edits, cleared⟩ := resolveOrphans_delete_ok names resolved
  have written : Written writing cipher middle last := forM_save_ok proper writes
  have place_of {output : Output} {place : Route} (puts : writing.Puts middle.tree output place) :
      place = parent ++ [documentName output.stem] := by
    obtain ⟨other, other_led, _, _, _, rfl⟩ :=
      (FileTree.locate_join_ok_iff (documentName_isName (proper.whole output puts.1))).mp puts.2
    rw [edits.directories.base_ok_iff] at other_led
    cases led.symm.trans other_led
    rfl
  have untouched {place : Route} (uncovered : ¬ writing.Covers parent place) :
      last.tree.entry? place = middle.tree.entry? place :=
    written.kept place fun output puts => uncovered ⟨output, puts.1, place_of puts⟩
  refine ⟨?_, ?_, ?_⟩
  · intro output member
    obtain ⟨place, located⟩ := written.led output member
    have put := written.put output place ⟨member, located⟩
    rwa [place_of ⟨member, located⟩] at put
  · intro place uncovered orphan
    rw [untouched uncovered, (cleared place).1 orphan]
  · intro place uncovered no_orphan
    rw [untouched uncovered, (cleared place).2 no_orphan]

/-- A writer that deletes orphans changes nothing outside its directory and leaves no documents there but its own
    exactly if its directory and its documents are tidy. -/
theorem confined_exact_iff (distinct : writing.stems.Nodup) (names : session.tree.HasNames)
    (led : session.tree.base writing.directory = .ok parent)
    (ran : Ends (saveOutputs writing.directory cipher .delete writing.outputs) session () last) :
    Confined parent session.tree last.tree ∧ writing.IsExact cipher parent last.tree ↔
      writing.IsTidy session.tree parent := by
  constructor
  · rintro ⟨confined, exactly⟩
    have last_names : last.tree.HasNames := by
      obtain ⟨deleted, middle, resolved, writes⟩ := bind_ok_iff.mp ran
      exact (forM_save_edits writes).names ((resolveOrphans_delete_ok names resolved).1.names names)
    -- Every document is an entry of the directory, and no entry has a slash in its name.
    have whole : ∀ output ∈ writing.outputs, '/' ∉ output.stem.toList := by
      intro output member slash
      have found := (exactly _ (documentEnding_suffix_iff.mpr ⟨_, rfl⟩) _).mpr ⟨output, member, rfl, rfl⟩
      have named : Path.IsName (documentName output.stem) := last_names.name found _ (by simp)
      refine named.whole ?_
      rw [toList_documentName]
      exact List.mem_append_left _ slash
    have replaces := saveOutputs_replaces ⟨distinct, whole⟩ names led ran
    exact ⟨whole, replaces.confined_iff.mp confined, replaces.isExact_iff.mp exactly⟩
  · intro tidy
    have replaces := saveOutputs_replaces ⟨distinct, tidy.whole⟩ names led ran
    exact ⟨replaces.confined_iff.mpr tidy.within, replaces.isExact_iff.mpr tidy.found⟩

theorem isOrphanName_iff {name : String} :
    isOrphanName active name = true ↔ documentEnding.toList <:+ name.toList ∧ Path.stem name ∉ active := by
  simp [isOrphanName, List.isSuffixOf_iff_suffix]

theorem stem_documentName {stem : String} (named : Path.IsName (documentName stem)) :
    Path.stem (documentName stem) = if stem = "" then documentEnding else stem := by
  unfold Path.stem
  rw [named.fileName?]
  dsimp only
  split
  · next empty =>
    subst empty
    decide
  · next filled =>
    have chars : stem.toList ≠ [] := by simpa using filled
    rw [toList_documentName, Path.splitName_append_dot chars (by decide), String.ofList_toList]

/-- An old document is an orphan if no document of the run has its stem. One that is nothing but the ending is taken
for its own stem. -/
theorem isOrphanName_documentName_iff {stem : String} (named : Path.IsName (documentName stem)) :
    isOrphanName active (documentName stem) = true ↔ (if stem = "" then documentEnding else stem) ∉ active := by
  rw [isOrphanName_iff, stem_documentName named, and_iff_right (documentEnding_suffix_iff.mpr ⟨stem, rfl⟩)]

theorem Writing.exists_documentName_iff {stem : String} :
    (∃ output ∈ writing.outputs, documentName stem = documentName output.stem) ↔ stem ∈ writing.stems := by
  rw [Writing.stems, List.mem_map]
  refine exists_congr fun output => and_congr_right fun _ => ?_
  exact ⟨fun same => (documentName_injective same).symm, fun same => same ▸ rfl⟩

/-- Where the files of a directory can be listed, its orphans are in it. -/
theorem orphanAt_iff {tree : FileTree} (filled : directory ≠ "") (listed : Path.listing? directory ≠ none)
    (led : tree.base directory = .ok parent) (there : tree.hasDirectory parent = true) :
    OrphanAt tree directory active place ↔ ∃ name content, isOrphanName active name = true ∧ place = parent ++ [name] ∧
      tree.entry? (parent ++ [name]) = some (.file content) := by
  obtain ⟨base, listing⟩ := Option.ne_none_iff_exists'.mp listed
  rw [FileTree.base, if_neg filled, ← FileTree.locate_listing_ok_iff filled listing] at led
  constructor
  · rintro ⟨other_base, other, name, content, other_listing, located, _, orphan, rfl, found⟩
    cases listing.symm.trans other_listing
    cases led.symm.trans located
    exact ⟨name, content, orphan, rfl, found⟩
  · rintro ⟨name, content, orphan, rfl, found⟩
    exact ⟨base, parent, name, content, listing, led, there, orphan, rfl, found⟩

/-- Where the files of the directory can be listed, only slashes in names of documents are in the way, and a document
with nothing but its ending for a stem, which keeps a file of that name from being an orphan. -/
theorem Writing.isTidy_iff {tree : FileTree} (names : tree.HasNames) (filled : writing.directory ≠ "")
    (listed : Path.listing? writing.directory ≠ none) (led : tree.base writing.directory = .ok parent)
    (there : tree.hasDirectory parent = true) : writing.IsTidy tree parent ↔
      (∀ output ∈ writing.outputs, '/' ∉ output.stem.toList) ∧ (documentEnding ∈ writing.stems → "" ∉ writing.stems →
        ∀ content, tree.entry? (parent ++ [documentEnding]) ≠ some (.file content)) := by
  have orphan_iff {place : Route} : OrphanAt tree writing.directory writing.stems place ↔ _ :=
    orphanAt_iff filled listed led there
  have bare : documentName "" = documentEnding := by decide
  constructor
  · intro tidy
    refine ⟨tidy.whole, fun shielding unused content found => ?_⟩
    rw [← bare] at found
    have named : Path.IsName (documentName "") := names.name found _ (by simp)
    rcases tidy.found _ content (documentEnding_suffix_iff.mpr ⟨"", rfl⟩) found with document | orphan
    · exact unused (exists_documentName_iff.mp document)
    · obtain ⟨name, _, is_orphan, same, _⟩ := orphan_iff.mp orphan
      obtain ⟨_, same_name⟩ := List.append_inj' same rfl
      cases same_name
      exact (isOrphanName_documentName_iff named).mp is_orphan shielding
  · rintro ⟨whole, unshielded⟩
    refine ⟨whole, ?_, ?_⟩
    · intro place orphan
      obtain ⟨name, _, _, rfl, _⟩ := orphan_iff.mp orphan
      exact List.prefix_append parent _
    · intro name content ending found
      obtain ⟨stem, rfl⟩ := documentEnding_suffix_iff.mp ending
      have named : Path.IsName (documentName stem) := names.name found _ (by simp)
      by_cases in_use : stem ∈ writing.stems
      · exact Or.inl (exists_documentName_iff.mpr in_use)
      · refine Or.inr (orphan_iff.mpr ⟨_, content, (isOrphanName_documentName_iff named).mpr ?_, rfl, found⟩)
        split
        · next empty =>
          subst empty
          intro shielding
          exact unshielded shielding in_use content (bare ▸ found)
        · exact in_use

/-- Which documents a run is for. -/
inductive DocumentKind
  | tables
  | languages
deriving DecidableEq

namespace DocumentKind

/-- What a run for the documents makes. -/
def product : DocumentKind → Product
  | tables => .table
  | languages => .string

def setting : DocumentKind → Setting
  | tables => .tableOutputPath
  | languages => .stringOutputPath

/-- The documents that schemas give. -/
def outputs (kind : DocumentKind) (collection : Collection) : Except Fault (List Output) :=
  match kind with
  | tables => ((Tables.extract collection.tables).run.run KeyCatalog.empty).1.map Tables.outputs
  | languages => (Languages.extract collection.strings).map Languages.outputs

/-- The tree in which the directory is ready: that of languages is made if need be. -/
def ready (kind : DocumentKind) (tree : FileTree) (directory : String) : FileTree :=
  match kind with
  | tables => tree
  | languages => (tree.makeDirectories directory).1

theorem grows_ready (kind : DocumentKind) (tree : FileTree) (directory : String) :
    FileTree.Grows tree (kind.ready tree directory) := by
  cases kind with
  | tables => exact FileTree.Grows.refl tree
  | languages => exact FileTree.grows_makeDirectories tree directory

end DocumentKind

/-- What the settings and the workbooks give to write. -/
def Settings.documents (settings : Settings) (kind : DocumentKind) (session : Session) : Except Failure Writing := do
  let collection ← ((Collection.ofSettings settings : Running (StateM Session) Collection).run.run session).1
  let outputs ← (kind.outputs collection).mapError .fault
  let directory ← (settings.require kind.setting).mapError .missingSetting
  return ⟨directory, outputs⟩

theorem Settings.documents_ok {kind : DocumentKind} {collection : Collection} {outputs : List Output}
    (collected : ((Collection.ofSettings settings : Running (StateM Session) Collection).run.run session).1 = .ok collection)
    (extracted : kind.outputs collection = .ok outputs) (required : settings.require kind.setting = .ok directory) :
    settings.documents kind session = .ok ⟨directory, outputs⟩ := by
  unfold Settings.documents
  rw [collected]
  simp only [bind, Except.bind, extracted, required, Except.mapError]
  rfl

theorem base_of_isDirectory {tree : FileTree} (is_directory : tree.isDirectory directory = true) :
    ∃ parent, tree.base directory = .ok parent ∧ tree.hasDirectory parent = true := by
  obtain ⟨parent, located, there⟩ := isDirectory_iff.mp is_directory
  obtain ⟨_, filled, _⟩ := FileTree.locate_ok_iff.mp located
  rw [FileTree.base, if_neg filled]
  exact ⟨parent, located, there⟩

/-- A run for documents of one kind makes their directory ready and writes them. -/
theorem run_kind_ok {kind : DocumentKind} (home : session.tree.hasDirectory session.tree.home = true)
    (ran : Ends (run settings policy order kind.product) session () last) :
    ∃ (writing : Writing) (cipher : Option DocumentCipher) (parent : Route) (start saved : Session),
      settings.documents kind session = .ok writing ∧ writing.stems.Nodup ∧
      settings.cipher = .ok cipher ∧ start.tree = kind.ready session.tree writing.directory ∧
      start.tree.base writing.directory = .ok parent ∧ start.tree.hasDirectory parent = true ∧
      Ends (saveOutputs writing.directory cipher policy writing.outputs) start () saved ∧ last.tree = saved.tree := by
  obtain ⟨cipher, collection, collected, scripted, extracted, extraction, saved, cipher_ok, collection_ok, collected_tree,
    scripts, extracts, saves, ended⟩ := run_steps ran
  have last_tree : last.tree = saved.tree := by rw [ended]
  cases kind with
  | tables =>
    obtain ⟨_, rfl⟩ := pure_ok_iff.mp scripts
    obtain ⟨extracted_tree, ⟨tables, some_tables, tables_ok⟩, no_languages⟩ := extract_steps extracts
    obtain rfl : extracted = ⟨some tables, none⟩ := by rw [← some_tables, ← no_languages]
    obtain ⟨directory, start, required, is_directory, start_tree, writes⟩ :=
      saveTables_steps (saveExtracted_tables_iff.mp saves)
    have same : start.tree = session.tree := start_tree.trans (extracted_tree.trans collected_tree)
    rw [extracted_tree, collected_tree] at is_directory
    obtain ⟨parent, led, there⟩ := base_of_isDirectory is_directory
    have outputs : DocumentKind.tables.outputs collection = .ok tables.outputs := by
      rw [DocumentKind.outputs, tables_ok]
      rfl
    exact ⟨⟨directory, tables.outputs⟩, cipher, parent, start, saved,
      Settings.documents_ok collection_ok outputs required, tables.nodup_stems, cipher_ok, same, same ▸ led,
      same ▸ there, writes, last_tree⟩
  | languages =>
    obtain ⟨_, rfl⟩ := pure_ok_iff.mp scripts
    obtain ⟨extracted_tree, no_tables, ⟨languages, some_languages, languages_ok⟩⟩ := extract_steps extracts
    obtain rfl : extracted = ⟨none, some languages⟩ := by rw [← no_tables, ← some_languages]
    obtain ⟨directory, start, required, made, writes⟩ := saveLanguages_steps (saveExtracted_languages_iff.mp saves)
    rw [extracted_tree, collected_tree] at made
    have start_tree : start.tree = (session.tree.makeDirectories directory).1 := by rw [made]
    obtain ⟨parent, led, there⟩ := FileTree.base_makeDirectories home (congrArg Prod.snd made)
    have outputs : DocumentKind.languages.outputs collection = .ok languages.outputs := by
      rw [DocumentKind.outputs, languages_ok]
      rfl
    exact ⟨⟨directory, languages.outputs⟩, cipher, parent, start, saved,
      Settings.documents_ok collection_ok outputs required, languages.nodup_stems, cipher_ok, start_tree,
      start_tree ▸ led, start_tree ▸ there, writes, last_tree⟩

/-- A run for tables or for languages that deletes orphans changes nothing outside the directory of its documents, apart
from making that directory, and leaves exactly its documents there, if and only if the directory and the documents are
tidy. Where the files of the directory can be listed, that is if no name of a document has a slash in it, and no document
with the stem `.json` keeps an old file of that name. -/
theorem run_confined_iff (kind : DocumentKind) (names : session.tree.HasNames)
    (home : session.tree.hasDirectory session.tree.home = true)
    (ran : Ends (run settings .delete order kind.product) session () last) :
    ∃ (writing : Writing) (cipher : Option DocumentCipher) (parent : Route) (ready : FileTree),
      settings.documents kind session = .ok writing ∧ settings.cipher = .ok cipher ∧
      ready = kind.ready session.tree writing.directory ∧ FileTree.Grows session.tree ready ∧
      ready.base writing.directory = .ok parent ∧
      (Confined parent ready last.tree ∧ writing.IsExact cipher parent last.tree ↔ writing.IsTidy ready parent) ∧
      (writing.directory ≠ "" → Path.listing? writing.directory ≠ none → (writing.IsTidy ready parent ↔
        (∀ output ∈ writing.outputs, '/' ∉ output.stem.toList) ∧ (documentEnding ∈ writing.stems → "" ∉ writing.stems →
          ∀ content, ready.entry? (parent ++ [documentEnding]) ≠ some (.file content)))) := by
  obtain ⟨writing, cipher, parent, start, saved, gives, distinct, cipher_ok, start_tree, led, there, writes, last_tree⟩ :=
    run_kind_ok home ran
  have grows : FileTree.Grows session.tree start.tree := start_tree ▸ kind.grows_ready session.tree writing.directory
  have start_names : start.tree.HasNames := grows.names names
  refine ⟨writing, cipher, parent, start.tree, gives, cipher_ok, start_tree, grows, led, ?_, ?_⟩
  · rw [last_tree]
    exact confined_exact_iff distinct start_names led writes
  · intro filled listed
    exact Writing.isTidy_iff start_names filled listed led there

/-- A run for tables comes to its end if its parts do. -/
theorem run_table_ends {collection : Collection} {tables : Tables} (reached : FileTree → Prop)
    (checked : settings.check .table = .ok ()) (ciphered : settings.cipher = .ok cipher)
    (collects : ∀ told : Session, told.tree = session.tree →
      ∃ collected, Ends (Collection.ofSettings settings) told collection collected ∧ collected.tree = session.tree)
    (tables_ok : ((Tables.extract collection.tables).run.run KeyCatalog.empty).1 = .ok tables)
    (saves : ∀ ready : Session, ready.tree = session.tree →
      ∃ saved, Ends (saveTables settings cipher policy (some tables)) ready () saved ∧ reached saved.tree) :
    ∃ last, Ends (run settings policy order .table) session () last ∧ reached last.tree := by
  refine run_ends ⟨some tables, none⟩ reached checked ciphered collects (fun collected same => ⟨collected, rfl, same⟩) ?_ ?_
  · intro collected same
    obtain ⟨ready, extracts, tree⟩ : ∃ ready, Ends (extractTables collection) collected tables ready ∧ _ :=
      extractTables_ends tables_ok collected
    have extracted : Ends (extract .table collection) collected ⟨some tables, none⟩ ready :=
      bind_ok_iff.mpr ⟨some tables, ready, bind_ok_iff.mpr ⟨tables, ready, extracts, rfl⟩, rfl⟩
    exact ⟨ready, extracted, tree.trans same⟩
  · intro ready same
    obtain ⟨saved, saved_end, at_saved⟩ := saves ready same
    exact ⟨saved, saveExtracted_tables_iff.mpr saved_end, at_saved⟩

namespace SwordRun

open FileTree Item

/-- The workbook, and a directory for output with a document of no sheet. -/
def staleTree : FileTree where
  entries := [(["tables"], .directory), (["tables", "Items.xlsx"], .file workbook), (["out"], .directory),
    (["out", "Old.json"], .file ByteArray.empty)]
  home := []
  distinct := by decide

def staleStart : Session :=
  Session.start staleTree fun _ => false

theorem hasNames_staleTree : staleTree.HasNames :=
  .of_routes (by decide) (by decide)

/-- The old document is deleted and the one of the sheet is written. -/
theorem saveTables_stale (same : session.tree = staleTree) :
    ∃ last, Ends (saveTables setup none .delete (some (Tables.ofSchemas [sword.schema]))) session () last ∧
      last.tree.entry? ["out", "Old.json"] = none := by
  have old_at : staleTree.locate "out/Old.json" = .ok ["out", "Old.json"] := rfl
  have listed : staleTree.filesIn "out" = .ok ["Old.json"] := by
    refine filesIn_ok_iff.mpr ⟨["out"], rfl, rfl, ?_⟩
    simp [filesBelow, below?, singleName?, staleTree]
  have orphans : (orphanNames ([output].map (·.stem)) ["Old.json"]).map (fun name => Path.listed "out" [name]) =
      ["out/Old.json"] := by
    decide +kernel
  refine saveTables_ends rfl (same ▸ rfl) fun ready ready_tree => ?_
  rw [same] at ready_tree
  obtain ⟨deleted, middle, resolved⟩ : ∃ deleted middle, Ends (["out/Old.json"].filterM (resolveOrphan .delete)) ready
      deleted middle := by
    refine filterM_resolveOrphan_ends (by simp) fun path member => ?_
    rw [List.mem_singleton.mp member, ready_tree]
    exact ⟨_, _, old_at, rfl⟩
  have swept := filterM_resolveOrphan_ok (List.nodup_singleton _) resolved
  have old_gone : middle.tree.entry? ["out", "Old.json"] = none :=
    swept.gone _ List.mem_cons_self rfl _ (ready_tree ▸ old_at)
  have directories := swept.edits.directories
  rw [ready_tree] at directories
  have free : middle.tree.hasDirectory ["out", "Item.json"] = false := (directories.directory _).trans rfl
  have item_at : staleTree.locate "out/Item.json" = .ok ["out", "Item.json"] := rfl
  obtain ⟨last, saved, last_tree⟩ : ∃ last, Ends (output.save "out" none) middle () last ∧ _ :=
    save_output_ends (directories.locate_ok_iff.mpr item_at) free
  have written : Ends ([output].forM (Output.save "out" none)) middle () last := bind_ok_iff.mpr ⟨(), last, saved, rfl⟩
  rw [outputs_sword]
  refine ⟨last, saveOutputs_ends listing_out (ready_tree ▸ listed) orphans resolved written, ?_⟩
  rw [last_tree, entry?_put (by simp), if_neg (by decide), old_gone]

theorem collects_stale (same : session.tree = staleTree) :
    ∃ last, Ends (Collection.ofSettings setup) session ⟨[sword.schema], []⟩ last ∧ last.tree = staleTree := by
  obtain ⟨last, ran, last_is⟩ : ∃ last, Ends (Collection.ofSettings setup) session _ last ∧ _ :=
    ofSettings_ends_of_read (same ▸ rfl) (same ▸ rfl) (same ▸ rfl)
  exact ⟨last, ran, last_is.trans same⟩

theorem documents_stale : setup.documents .tables staleStart = .ok ⟨"out", [output]⟩ := by
  obtain ⟨_, collects, _⟩ : ∃ last, Ends (Collection.ofSettings setup) staleStart _ last ∧ _ := collects_stale rfl
  have outputs : DocumentKind.tables.outputs ⟨[sword.schema], []⟩ = .ok [output] := by
    rw [DocumentKind.outputs, extract_sword, ← outputs_sword]
    rfl
  exact Settings.documents_ok (congrArg Prod.fst collects) outputs rfl

theorem ends_stale : ∃ last, Ends (run setup .delete .tablesFirst .table) staleStart () last ∧
    last.tree.entry? ["out", "Old.json"] = none :=
  run_table_ends (fun tree => tree.entry? ["out", "Old.json"] = none) rfl rfl (fun _ => collects_stale) extract_sword
    fun _ => saveTables_stale

end SwordRun

/-- A run for tables deletes the old document in its directory and writes the one of the sword, and that is all. -/
theorem run_confines_sword : SwordRun.staleTree.HasNames ∧
    SwordRun.staleTree.hasDirectory SwordRun.staleTree.home = true ∧ ∃ last,
      Ends (run SwordRun.setup .delete .tablesFirst .table) SwordRun.staleStart () last ∧
        last.tree.entry? ["out", "Old.json"] = none ∧ Confined ["out"] SwordRun.staleTree last.tree ∧
        Writing.IsExact ⟨"out", [SwordRun.output]⟩ none ["out"] last.tree := by
  obtain ⟨last, ran, old_gone⟩ := SwordRun.ends_stale
  refine ⟨SwordRun.hasNames_staleTree, rfl, last, ran, old_gone, ?_⟩
  obtain ⟨writing, cipher, parent, ready, documents, ciphered, ready_is, _, led, confined_iff, tidy_iff⟩ :=
    run_confined_iff .tables SwordRun.hasNames_staleTree rfl ran
  cases documents.symm.trans SwordRun.documents_stale
  cases ciphered
  subst ready_is
  cases led
  have listed : Path.listing? "out" ≠ none := by simp [SwordRun.listing_out]
  refine confined_iff.mpr ((tidy_iff (by decide) listed).mpr ⟨?_, ?_⟩)
  · intro output member
    rw [List.mem_singleton.mp member]
    decide
  · intro shielding
    exact absurd shielding (by decide)

namespace BareRun

def tableSetup : Settings :=
  { setup with stringFileName := none }

theorem valid_schema : Tables.Valid [schema] := by
  have no_columns (column : Fin schema.columnCount) : False := Fin.elim0 (show Fin 0 from column)
  have only {other : Schema} (member : other ∈ [schema]) : other = schema := List.mem_singleton.mp member
  refine ⟨?_, ?_, ?_⟩
  · intro other member row _ property
    obtain rfl := only member
    exact (no_columns property).elim
  · intro earlier other later split keyed
    obtain rfl : other = schema := only (split ▸ by simp)
    exact (no_columns (schema.primaryKey.get keyed)).elim
  · intro other member reference
    obtain rfl := only member
    exact (no_columns reference.column).elim

theorem extract_schema :
    ((Tables.extract [schema]).run.run KeyCatalog.empty).1 = .ok (Tables.ofSchemas [schema]) :=
  congrArg Prod.fst (Tables.extract_ok_iff.mpr ⟨valid_schema, rfl, rfl⟩)

/-- The document of the sheet is written beside the directory. -/
theorem saveTables_schema (same : session.tree = tree) :
    ∃ last, Ends (saveTables tableSetup none policy (some (Tables.ofSchemas [schema]))) session () last ∧
      last.tree = tree.put ["@.json"] (.file (schema.output.bytes none)) := by
  have listing : Path.listing? "out" = some "out" := rfl
  have listed : tree.filesIn "out" = .ok [] := rfl
  have no_orphans : (orphanNames ([schema.output].map (·.stem)) []).map (fun name => Path.listed "out" [name]) = [] := by
    simp [orphanNames]
  have document_at : tree.locate (schema.output.path "out") = .ok ["@.json"] := by
    have path : schema.output.path "out" = "out/../@.json" := by decide
    rw [path]
    rfl
  refine saveTables_ends rfl (same ▸ rfl) fun ready ready_tree => ?_
  rw [same] at ready_tree
  obtain ⟨last, saved, last_tree⟩ : ∃ last, Ends (schema.output.save "out" none) ready () last ∧ _ :=
    save_output_ends (ready_tree ▸ document_at) (ready_tree ▸ rfl)
  have none_deleted : Ends (([] : List String).filterM (resolveOrphan policy)) ready [] ready := rfl
  have written : Ends ([schema.output].forM (Output.save "out" none)) ready () last :=
    bind_ok_iff.mpr ⟨(), last, saved, rfl⟩
  rw [Tables.outputs_singleton]
  exact ⟨last, saveOutputs_ends listing (ready_tree ▸ listed) no_orphans none_deleted written, ready_tree ▸ last_tree⟩

theorem collects_schema (same : session.tree = tree) :
    ∃ last, Ends (Collection.ofSettings tableSetup) session ⟨[schema], []⟩ last ∧ last.tree = tree :=
  ofSettings_ends same rfl rfl rfl

theorem ends_schema : ∃ last, Ends (run tableSetup .delete .tablesFirst .table) start () last ∧
    last.tree = tree.put ["@.json"] (.file (schema.output.bytes none)) :=
  run_table_ends (· = tree.put ["@.json"] (.file (schema.output.bytes none))) rfl rfl (fun _ => collects_schema)
    extract_schema fun _ => saveTables_schema

theorem hasNames_tree : tree.HasNames :=
  .of_routes (by decide) (by decide)

end BareRun

/-- A run for tables writes the document of a sheet with a step up in its name beside the directory for output. -/
theorem run_escapes_bare : BareRun.tree.HasNames ∧ BareRun.tree.hasDirectory BareRun.tree.home = true ∧
    BareRun.tableSetup.require .tableOutputPath = .ok "out" ∧ BareRun.tree.locate "out" = .ok ["out"] ∧ ∃ last,
      Ends (run BareRun.tableSetup .delete .tablesFirst .table) BareRun.start () last ∧
        ¬ Confined ["out"] BareRun.tree last.tree := by
  obtain ⟨last, ran, last_tree⟩ := BareRun.ends_schema
  refine ⟨BareRun.hasNames_tree, rfl, rfl, rfl, last, ran, fun confined => ?_⟩
  have changed : last.tree.entry? ["@.json"] ≠ BareRun.tree.entry? ["@.json"] := by
    have missing : BareRun.tree.entry? ["@.json"] = none := rfl
    rw [last_tree, FileTree.entry?_put (by simp), if_pos rfl, missing]
    simp
  exact absurd (confined _ changed) (by decide)

end Tablesmith
