import Mathlib
import Tablesmith.Proofs.Files.Contents
import Tablesmith.Proofs.Run.Output
import Tablesmith.Proofs.Run.Lockstep
import Tablesmith.Proofs.Text.Unicode

/-!
# What a key conceals

Two runs, of which one has a key, are in states that differ in the text of the
documents written so far (`Conceals`). Nothing that is done while documents are saved
looks at a text, so it is done alike in both (`savesAlike_conceals`), and writing one
more document makes one more place where they differ (`writesAlike_conceals`).
-/

namespace Tablesmith

open Files Running Steps

variable {cipher : DocumentCipher} {places : List Route} {tree other : FileTree} {changes : List Change} {path : String}
  {route : Route}

/-- The name or the path is that of a document. -/
def IsDocument (path : String) : Prop :=
  documentEnding.toList <:+ path.toList

instance (path : String) : Decidable (IsDocument path) :=
  inferInstanceAs (Decidable (documentEnding.toList <:+ path.toList))

theorem isDocument_path (directory : String) (output : Output) : IsDocument (output.path directory) := by
  have named : IsDocument (documentName output.stem) := documentEnding_suffix_iff.mpr ⟨output.stem, rfl⟩
  exact named.trans (Path.suffix_join directory _)

theorem not_isDocument_code (directory : String) : ¬ IsDocument (Path.join directory Accessor.fileName) := by
  intro document
  have short : documentEnding.toList.length ≤ Accessor.fileName.toList.length := by decide
  have inside := List.suffix_of_suffix_length_le document (Path.suffix_join directory Accessor.fileName) short
  revert inside
  decide

/-- The path of a document ends in the name of a document. -/
theorem IsDocument.pieces (document : IsDocument path) :
    ∃ parts name, Path.pieces path = parts ++ [name] ∧ Path.IsName name ∧ IsDocument name := by
  obtain ⟨stem, rfl⟩ := documentEnding_suffix_iff.mp document
  have ending_whole : '/' ∉ documentEnding.toList := by decide
  obtain ⟨parts, last, whole, pieces⟩ := Path.pieces_append_of_no_slash stem ending_whole
  exact ⟨parts, documentName last, pieces, documentName_isName whole, documentEnding_suffix_iff.mpr ⟨last, rfl⟩⟩

/-- The path of a document leads to an entry with the name of a document. -/
theorem IsDocument.locate (document : IsDocument path) (located : tree.locate path = .ok route) :
    ∃ parent name, route = parent ++ [name] ∧ IsDocument name := by
  obtain ⟨parts, name, pieces, proper, named⟩ := document.pieces
  obtain ⟨parent, rfl, _⟩ := FileTree.locate_of_pieces proper pieces located
  exact ⟨parent, name, rfl, named⟩

/-- What a run with a key has for the content of a file, if documents were written to some places. -/
def DocumentCipher.concealed (cipher : DocumentCipher) (places : List Route) (route : Route) (content : ByteArray) :
    ByteArray :=
  if route ∈ places then
    match String.fromUTF8? content with
    | some text => (cipher.encrypt text).toUTF8
    | none => content
  else content

/-- What a run with a key does to the files instead of a change that a run without does. -/
def Change.concealed (cipher : DocumentCipher) : Change → Change
  | .written path text => .written path (if IsDocument path then cipher.encrypt text else text)
  | .removed path => .removed path
  | .made path => .made path

/-- What a run with a key leaves where a run without leaves a recording. -/
def Recording.concealed (cipher : DocumentCipher) (places : List Route) (recording : Recording) : Recording :=
  ⟨{ recording.session with tree := recording.session.tree.mapFiles (cipher.concealed places) },
    recording.changes.map (Change.concealed cipher)⟩

theorem written_mem_concealed_iff {shown : String} : .written path shown ∈ changes.map (Change.concealed cipher) ↔
    ∃ text, .written path text ∈ changes ∧ shown = if IsDocument path then cipher.encrypt text else text := by
  rw [List.mem_map]
  constructor
  · rintro ⟨change, noted, same⟩
    cases change with
    | written path text =>
      cases same
      exact ⟨text, noted, rfl⟩
    | removed path => cases same
    | made path => cases same
  · rintro ⟨text, noted, rfl⟩
    exact ⟨.written path text, noted, rfl⟩

theorem concealed_of_mem (written : route ∈ places) (text : String) :
    cipher.concealed places route text.toUTF8 = (cipher.encrypt text).toUTF8 := by
  rw [DocumentCipher.concealed, if_pos written, fromUTF8?_toUTF8]

theorem concealed_of_not_mem (unwritten : route ∉ places) : cipher.concealed places route = id := by
  funext content
  exact if_neg unwritten

/-- The places of the documents that were written so far. -/
structure HoldDocuments (places : List Route) (tree : FileTree) (changes : List Change) : Prop where
  named : ∀ route ∈ places, ∃ parent name, route = parent ++ [name] ∧ IsDocument name
  texts : ∀ route ∈ places, ∀ content, tree.entry? route = some (.file content) → ∃ text : String, content = text.toUTF8
  located : ∀ path text, .written path text ∈ changes → IsDocument path → ∃ route ∈ places, tree.locate path = .ok route

namespace HoldDocuments

theorem extend (holds : HoldDocuments places tree changes) (extended : tree.Extends other)
    (files : ∀ route content, other.entry? route = some (.file content) → tree.entry? route = some (.file content)) :
    HoldDocuments places other changes := by
  refine ⟨holds.named, ?_, ?_⟩
  · intro route written content found
    exact holds.texts route written content (files route content found)
  · intro path text member document
    obtain ⟨route, written, located⟩ := holds.located path text member document
    exact ⟨route, written, extended.locate located⟩

theorem note (holds : HoldDocuments places tree changes) {change : Change}
    (no_text : ∀ path text, change ≠ .written path text) : HoldDocuments places tree (changes ++ [change]) := by
  refine ⟨holds.named, holds.texts, ?_⟩
  intro path text member
  rcases List.mem_append.mp member with earlier | last
  · exact holds.located path text earlier
  · exact absurd (List.mem_singleton.mp last).symm (no_text path text)

theorem write (holds : HoldDocuments places tree changes) (document : IsDocument path)
    (located : tree.locate path = .ok route) (free : tree.hasDirectory route = false) (text : String) :
    HoldDocuments (route :: places) (tree.put route (.file text.toUTF8)) (changes ++ [.written path text]) := by
  have extended : tree.Extends (tree.put route (.file text.toUTF8)) := (FileTree.sameDirectories_put free).toExtends
  refine ⟨?_, ?_, ?_⟩
  · exact List.forall_mem_cons.mpr ⟨document.locate located, holds.named⟩
  · intro place written content found
    rw [FileTree.entry?_put (FileTree.ne_root_of_not_directory free)] at found
    split at found
    · -- whatever was at the place of the new document, the document is there now
      cases found
      exact ⟨text, rfl⟩
    · next away =>
      rcases List.mem_cons.mp written with here | earlier
      · exact absurd here away
      · exact holds.texts place earlier content found
  · intro path_written text_written member document_written
    rcases List.mem_append.mp member with earlier | last
    · obtain ⟨place, written, place_located⟩ := holds.located path_written text_written earlier document_written
      exact ⟨place, List.mem_cons_of_mem route written, extended.locate place_located⟩
    · cases List.mem_singleton.mp last
      exact ⟨route, List.mem_cons_self, extended.locate located⟩

/-- Removing a file conceals as much afterwards as before. -/
theorem remove_concealed (holds : HoldDocuments places tree changes) (cipher : DocumentCipher) (path : String) :
    ∃ later, (tree.mapFiles (cipher.concealed places)).remove path =
        (tree.remove path).map (FileTree.mapFiles (cipher.concealed later)) ∧
      ∀ left, tree.remove path = .ok left → HoldDocuments later left (changes ++ [.removed path]) := by
  refine ⟨places, FileTree.remove_mapFiles path, ?_⟩
  intro left removed
  obtain ⟨route, content, located, found, rfl⟩ := FileTree.remove_ok_iff.mp removed
  have kept : HoldDocuments places (tree.erase route) changes := by
    apply holds.extend (FileTree.sameDirectories_erase found).toExtends
    intro place content there
    rw [FileTree.entry?_erase] at there
    split at there
    · cases there
    · exact there
  exact kept.note fun _ _ => Change.noConfusion

/-- Where a document is written, its encrypted form is written instead, and its place is concealed from then on. -/
theorem write_concealed (holds : HoldDocuments places tree changes) (document : IsDocument path) (cipher : DocumentCipher)
    (text : String) :
    ∃ later, (tree.mapFiles (cipher.concealed places)).write path (cipher.encrypt text).toUTF8 =
        (tree.write path text.toUTF8).map (FileTree.mapFiles (cipher.concealed later)) ∧
      ∀ left, tree.write path text.toUTF8 = .ok left → HoldDocuments later left (changes ++ [.written path text]) := by
  cases located : tree.locate path with
  | error error =>
    -- the path leads nowhere, so there is nothing to write under either name
    have nowhere (route : Route) : tree.locate path ≠ .ok route := by
      simp [located]
    refine ⟨places, FileTree.write_mapFiles path ?_ ?_, ?_⟩
    · exact fun route found => absurd found (nowhere route)
    · exact fun route found => absurd found (nowhere route)
    · intro left written
      obtain ⟨route, found, _⟩ := FileTree.write_ok_iff.mp written
      exact absurd found (nowhere route)
  | ok route =>
    have only {found : Route} (found_is : tree.locate path = .ok found) : found = route :=
      Except.ok.inj (found_is.symm.trans located)
    refine ⟨route :: places, FileTree.write_mapFiles path ?_ ?_, ?_⟩
    · intro found found_is place away
      funext content
      simp [DocumentCipher.concealed, only found_is ▸ away]
    · intro found found_is
      rw [only found_is]
      exact concealed_of_mem List.mem_cons_self text
    · intro left written
      obtain ⟨found, found_is, free, rfl⟩ := FileTree.write_ok_iff.mp written
      rw [only found_is] at free ⊢
      exact holds.write document located free text

end HoldDocuments

/-- The second recording is what a run with a key has where one without has the first. -/
def Conceals (cipher : DocumentCipher) (plain coded : Recording) : Prop :=
  ∃ places, HoldDocuments places plain.session.tree plain.changes ∧ coded = plain.concealed cipher places

theorem run_note_change (change : Change) (edit : FileTree → Except FileError FileTree) (recording : Recording) :
    (Recording.note change (Session.change edit)).run recording =
      match edit recording.session.tree with
      | .ok tree => (.ok (), ⟨{ recording.session with tree := tree }, recording.changes ++ [change]⟩)
      | .error error => (.error error, recording) := by
  rw [StateT.run, Recording.note, StateT.run, Session.change]
  cases edit recording.session.tree <;> rfl

/-- Two edits keep the recordings together if the second does on the concealed tree what the first does on the plain one. -/
theorem lockstep_edit {change : Change} {edit edited : FileTree → Except FileError FileTree}
    (edits : ∀ places tree changes, HoldDocuments places tree changes → ∃ later,
      edited (tree.mapFiles (cipher.concealed places)) = (edit tree).map (FileTree.mapFiles (cipher.concealed later)) ∧
        ∀ left, edit tree = .ok left → HoldDocuments later left (changes ++ [change])) :
    Lockstep (Conceals cipher) (Recording.note change (Session.change edit))
      (Recording.note (change.concealed cipher) (Session.change edited)) := by
  rintro plain _ ⟨places, holds, rfl⟩
  obtain ⟨later, same, held⟩ := edits places plain.session.tree plain.changes holds
  rw [run_note_change, run_note_change, Recording.concealed, same]
  cases outcome : edit plain.session.tree with
  | error error => exact ⟨rfl, places, holds, rfl⟩
  | ok left =>
    refine ⟨rfl, later, held left outcome, ?_⟩
    simp [Recording.concealed, Except.map]

theorem lockstep_query {α : Type} {query : FileTree → α}
    (blind : ∀ (change : Route → ByteArray → ByteArray) tree, query (tree.mapFiles change) = query tree) :
    Lockstep (Conceals cipher) (Recording.observe (Session.look query)) (Recording.observe (Session.look query)) := by
  rintro plain _ ⟨places, holds, rfl⟩
  exact ⟨(blind _ _).symm, places, holds, rfl⟩

theorem lockstep_makeDirectories (path : String) :
    Lockstep (Conceals cipher) (Recording.note (.made path) (Session.makeDirectories path))
      (Recording.note (.made path) (Session.makeDirectories path)) := by
  rintro plain _ ⟨places, holds, rfl⟩
  have grows := plain.session.tree.grows_makeDirectories path
  have held := holds.extend grows.toExtends fun route content => (grows.files route content).mp
  rw [StateT.run, StateT.run, Recording.note, Recording.note, StateT.run, StateT.run, Session.makeDirectories,
    Session.makeDirectories, Recording.concealed, FileTree.makeDirectories_mapFiles]
  cases made : (plain.session.tree.makeDirectories path).2 with
  | error error =>
    simp only [made]
    exact ⟨trivial, places, held, rfl⟩
  | ok done =>
    simp only [made]
    refine ⟨trivial, places, held.note fun _ _ => Change.noConfusion, ?_⟩
    simp [Recording.concealed, Change.concealed]

theorem savesAlike_conceals (cipher : DocumentCipher) : SavesAlike (Conceals cipher) where
  isDirectory path := lockstep_query fun change tree => FileTree.isDirectory_mapFiles path
  filesIn path := lockstep_query fun change tree => FileTree.filesIn_mapFiles path
  makeDirectories path := lockstep_makeDirectories path
  removeFile path := by
    show Lockstep _ (Recording.note (.removed path) _) (Recording.note (Change.concealed cipher (.removed path)) _)
    apply lockstep_edit
    intro places tree changes holds
    exact holds.remove_concealed cipher path
  tell report := by
    rintro plain _ ⟨places, holds, rfl⟩
    exact ⟨rfl, places, holds, rfl⟩
  mayDelete path := by
    rintro plain _ ⟨places, holds, rfl⟩
    exact ⟨rfl, places, holds, rfl⟩

theorem writesAlike_conceals (cipher : DocumentCipher) : WritesAlike (Conceals cipher) none (some cipher) := by
  intro directory output
  have document := isDocument_path directory output
  have shown : renderDocument output.content (some cipher) = cipher.encrypt (renderDocument output.content none) := rfl
  generalize renderDocument output.content none = text at shown
  have coded : Change.concealed cipher (.written (output.path directory) text) =
      .written (output.path directory) (cipher.encrypt text) := by
    rw [Change.concealed, if_pos document]
  rw [shown]
  show Lockstep _ _ (Recording.note (.written (output.path directory) (cipher.encrypt text)) _)
  rw [← coded]
  apply lockstep_edit
  intro places tree changes holds
  exact holds.write_concealed document cipher text

/-- The recordings are the same, and no document was written so far. -/
def Untouched (recording other : Recording) : Prop :=
  recording = other ∧ ∀ path text, .written path text ∈ recording.changes → ¬ IsDocument path

theorem lockstep_untouched {change : Change} (step : StateM Session (Except FileError Unit))
    (no_document : ∀ path text, change = .written path text → ¬ IsDocument path) :
    Lockstep Untouched (Recording.note change step) (Recording.note change step) := by
  rintro recording _ ⟨rfl, untouched⟩
  refine ⟨rfl, rfl, ?_⟩
  rw [StateT.run, Recording.note]
  rcases step.run recording.session with ⟨error | ⟨⟩, session⟩
  · exact untouched
  · intro path text member
    rcases List.mem_append.mp member with earlier | last
    · exact untouched path text earlier
    · exact no_document path text (List.mem_singleton.mp last).symm

theorem lockstep_looking {α : Type} (step : StateM Session α) :
    Lockstep Untouched (Recording.observe step) (Recording.observe step) := by
  rintro recording _ ⟨rfl, untouched⟩
  exact ⟨rfl, rfl, untouched⟩

theorem runsAlike_untouched : RunsAlike Untouched where
  isDirectory path := lockstep_looking _
  filesIn path := lockstep_looking _
  removeFile path := lockstep_untouched _ fun _ _ same => nomatch same
  makeDirectories path := lockstep_untouched _ fun _ _ same => nomatch same
  tell report := lockstep_looking _
  mayDelete path := lockstep_looking _
  isPresent path := lockstep_looking _
  readBytes path := lockstep_looking _
  filesBelow path := lockstep_looking _
  writeCode directory text := by
    apply lockstep_untouched
    rintro path written same
    cases same
    exact not_isDocument_code directory

theorem Untouched.conceals {recording twin : Recording} (untouched : Untouched recording twin) (cipher : DocumentCipher) :
    Conceals cipher recording twin := by
  obtain ⟨rfl, no_document⟩ := untouched
  refine ⟨[], ⟨?_, ?_, ?_⟩, ?_⟩
  · exact List.forall_mem_nil _
  · exact List.forall_mem_nil _
  · intro path text member document
    exact absurd document (no_document path text member)
  · have tree : recording.session.tree.mapFiles (cipher.concealed []) = recording.session.tree :=
      FileTree.mapFiles_id fun _ _ => rfl
    have changes : recording.changes.map (Change.concealed cipher) = recording.changes := by
      have kept : ∀ change ∈ recording.changes, change.concealed cipher = id change := by
        intro change member
        cases change with
        | written path text =>
          have away : ¬ IsDocument path := no_document path text member
          simp [Change.concealed, away]
        | removed path => rfl
        | made path => rfl
      rw [List.map_congr_left kept, List.map_id]
    rw [Recording.concealed, tree, changes]

end Tablesmith
