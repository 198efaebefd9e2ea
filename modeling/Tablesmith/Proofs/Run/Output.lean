import Mathlib
import Tablesmith.Proofs.Run.Orphans
import Tablesmith.Run.Output

/-!
# What a writer leaves

A writer deals with the orphans of its directory and then writes its documents.
All its documents are there afterwards (`save_ok`). A file that was there before is
still there exactly if no document takes its place with another content, and the
writer does not delete it as an orphan (`keeps_iff`).
-/

namespace Tablesmith

open Files Running Steps

variable {policy : OrphanPolicy} {cipher : Option DocumentCipher} {session middle last : Session}

/-- What is in the file of a document. -/
def Output.bytes (cipher : Option DocumentCipher) (output : Output) : ByteArray :=
  (renderDocument output.content cipher).toUTF8

theorem toList_documentName (stem : String) : (documentName stem).toList = stem.toList ++ ['.', 'j', 's', 'o', 'n'] := by
  simp [documentName, documentEnding]

theorem documentName_isName {stem : String} (whole : '/' ∉ stem.toList) : Path.IsName (documentName stem) := by
  have different {other : String} (short : other.toList.length < 5) : documentName stem ≠ other := by
    rintro rfl
    rw [toList_documentName, List.length_append] at short
    simp at short
  refine ⟨?_, different (by decide), different (by decide), different (by decide)⟩
  rw [toList_documentName]
  simp [whole]

theorem documentEnding_suffix_iff {name : String} :
    documentEnding.toList <:+ name.toList ↔ ∃ stem, name = documentName stem := by
  constructor
  · rintro ⟨chars, chars_are⟩
    exact ⟨String.ofList chars, String.toList_inj.mp (by simp [documentName, chars_are])⟩
  · rintro ⟨stem, rfl⟩
    rw [toList_documentName]
    exact List.suffix_append _ _

theorem documentName_injective {stem other : String} (same : documentName stem = documentName other) : stem = other := by
  have chars := congrArg String.toList same
  rw [toList_documentName, toList_documentName] at chars
  exact String.toList_inj.mp (List.append_cancel_right chars)

/-- The documents that a writer puts into a directory. -/
structure Writing where
  directory : String
  outputs : List Output

namespace Writing

variable {writing : Writing}

/-- The stems of the documents, which are in use. -/
def stems (writing : Writing) : List String :=
  writing.outputs.map (·.stem)

/-- A document goes to a place in a tree. -/
def Puts (writing : Writing) (tree : FileTree) (output : Output) (place : Route) : Prop :=
  output ∈ writing.outputs ∧ tree.locate (output.path writing.directory) = .ok place

/-- Every document is in its file. -/
def IsSaved (writing : Writing) (cipher : Option DocumentCipher) (tree : FileTree) : Prop :=
  ∀ output ∈ writing.outputs, tree.read (output.path writing.directory) = .ok (output.bytes cipher)

/-- No two documents have the same stem, and none has a slash in it. -/
structure IsProper (writing : Writing) : Prop where
  distinct : writing.stems.Nodup
  whole : ∀ output ∈ writing.outputs, '/' ∉ output.stem.toList

/-- Documents of one writer that go to the same place are the same. -/
theorem IsProper.eq_of_puts (proper : writing.IsProper) {tree : FileTree} {output other : Output} {place : Route}
    (puts : writing.Puts tree output place) (other_puts : writing.Puts tree other place) : output = other := by
  obtain ⟨member, located⟩ := puts
  obtain ⟨other_member, other_located⟩ := other_puts
  obtain ⟨_, _, _, _, _, rfl⟩ := (FileTree.locate_join_ok_iff (documentName_isName (proper.whole output member))).mp located
  obtain ⟨_, _, _, _, _, same⟩ :=
    (FileTree.locate_join_ok_iff (documentName_isName (proper.whole other other_member))).mp other_located
  obtain ⟨_, same_name⟩ := List.append_inj' same rfl
  exact List.inj_on_of_nodup_map proper.distinct member other_member (documentName_injective (List.cons.inj same_name).1)

end Writing

/-- The documents are in their files, and every other entry is as it was. -/
structure Written (writing : Writing) (cipher : Option DocumentCipher) (session last : Session) : Prop where
  edits : Session.Edits session last
  asked : last.asked = session.asked
  led : ∀ output ∈ writing.outputs, ∃ place, session.tree.locate (output.path writing.directory) = .ok place
  put : ∀ output place, writing.Puts session.tree output place →
    last.tree.entry? place = some (.file (output.bytes cipher))
  kept : ∀ place, (∀ output, ¬ writing.Puts session.tree output place) →
    last.tree.entry? place = session.tree.entry? place

theorem save_output_ok {directory : String} {output : Output}
    (ran : Ends (output.save directory cipher) session () last) :
    Written ⟨directory, [output]⟩ cipher session last := by
  obtain ⟨⟨⟩, middle, changed, tells⟩ := bind_ok_iff.mp ran
  obtain ⟨tree, wrote, rfl⟩ := ofFile_change_ok_iff.mp changed
  obtain ⟨route, located, free, rfl⟩ := FileTree.write_ok_iff.mp wrote
  cases tells
  have below : route ≠ [] := FileTree.ne_root_of_not_directory free
  have named (proper : session.tree.HasNames) : ∀ name ∈ route, Path.IsName name := proper.locate located
  refine ⟨⟨FileTree.sameDirectories_put free, fun proper => proper.put (named proper), rfl⟩, rfl, ?_, ?_, ?_⟩
  · intro other member
    rw [List.mem_singleton.mp member]
    exact ⟨route, located⟩
  · rintro other place ⟨member, led⟩
    rw [List.mem_singleton.mp member] at led ⊢
    cases led.symm.trans located
    rw [FileTree.entry?_put below, if_pos rfl]
    rfl
  · intro place away
    have elsewhere : place ≠ route := by
      rintro rfl
      exact away output ⟨List.mem_cons_self, located⟩
    rw [FileTree.entry?_put below, if_neg elsewhere]

theorem written_nil (directory : String) (session : Session) : Written ⟨directory, []⟩ cipher session session :=
  ⟨.of_tree rfl rfl, rfl, by simp, fun _ _ puts => absurd puts.1 List.not_mem_nil, fun _ _ => rfl⟩

/-- Another document, and then the rest of them. -/
theorem written_cons {directory : String} {output : Output} {outputs : List Output}
    (proper : Writing.IsProper ⟨directory, output :: outputs⟩)
    (first : Written ⟨directory, [output]⟩ cipher session middle) (rest : Written ⟨directory, outputs⟩ cipher middle last) :
    Written ⟨directory, output :: outputs⟩ cipher session last := by
  have same_places {path : String} {place : Route} :
      middle.tree.locate path = .ok place ↔ session.tree.locate path = .ok place :=
    first.edits.directories.locate_ok_iff
  have rest_puts {other : Output} {place : Route} (puts : Writing.Puts ⟨directory, outputs⟩ middle.tree other place) :
      Writing.Puts ⟨directory, output :: outputs⟩ session.tree other place :=
    ⟨List.mem_cons_of_mem output puts.1, same_places.mp puts.2⟩
  have new : output ∉ outputs := by
    intro member
    exact (List.nodup_cons.mp proper.distinct).1 (List.mem_map_of_mem member)
  refine ⟨first.edits.trans rest.edits, rest.asked.trans first.asked, ?_, ?_, ?_⟩
  · intro other member
    rcases List.mem_cons.mp member with rfl | later
    · exact first.led other List.mem_cons_self
    · obtain ⟨place, located⟩ := rest.led other later
      exact ⟨place, same_places.mp located⟩
  · rintro other place ⟨member, located⟩
    rcases List.mem_cons.mp member with rfl | later
    · -- No later document goes to its place, since it would have the same stem.
      rw [rest.kept place, first.put other place ⟨List.mem_cons_self, located⟩]
      intro later puts
      cases proper.eq_of_puts (rest_puts puts) ⟨List.mem_cons_self, located⟩
      exact new puts.1
    · exact rest.put other place ⟨later, same_places.mpr located⟩
  · intro place away
    rw [rest.kept place, first.kept place]
    · rintro other ⟨member, located⟩
      obtain rfl := List.mem_singleton.mp member
      exact away other ⟨List.mem_cons_self, located⟩
    · exact fun other puts => away other (rest_puts puts)

theorem forM_save_ok {directory : String} {outputs : List Output} (proper : Writing.IsProper ⟨directory, outputs⟩)
    (ran : Ends (outputs.forM (Output.save directory cipher)) session () last) :
    Written ⟨directory, outputs⟩ cipher session last := by
  induction outputs generalizing session with
  | nil =>
    obtain ⟨_, rfl⟩ := pure_ok_iff.mp ran
    exact written_nil directory last
  | cons output outputs ih =>
    obtain ⟨⟨⟩, middle, first, rest⟩ := bind_ok_iff.mp ran
    have rest_proper : Writing.IsProper ⟨directory, outputs⟩ :=
      ⟨(List.nodup_cons.mp proper.distinct).2, fun other member => proper.whole other (List.mem_cons_of_mem output member)⟩
    exact written_cons proper (save_output_ok first) (ih rest_proper rest)

/-- A writer deletes the file at a place, which has the name of a document, as an orphan. -/
def Writing.Sweeps (writing : Writing) (policy : OrphanPolicy) (session : Session) (stem : String)
    (place : Route) : Prop :=
  ∃ base, Path.listing? writing.directory = some base ∧ isOrphanName writing.stems (documentName stem) = true ∧
    session.tree.locate (Path.listed base [documentName stem]) = .ok place ∧
    policy.allows session (Path.listed base [documentName stem]) = true

/-- A file survives a writer if no document takes its place with another content, and if it is not deleted where no
    document takes its place. -/
def Writing.Spares (writing : Writing) (policy : OrphanPolicy) (cipher : Option DocumentCipher) (session : Session)
    (stem : String) (place : Route) (content : ByteArray) : Prop :=
  (∀ output, writing.Puts session.tree output place → output.bytes cipher = content) ∧
    ((∀ output, ¬ writing.Puts session.tree output place) → ¬ writing.Sweeps policy session stem place)

/-- All documents of a writer are in their files, and of the other files those are still there that are spared. -/
structure Saves (writing : Writing) (policy : OrphanPolicy) (cipher : Option DocumentCipher)
    (session last : Session) : Prop where
  edits : Session.Edits session last
  led : ∀ output ∈ writing.outputs, ∃ place, session.tree.locate (output.path writing.directory) = .ok place
  put : ∀ output place, writing.Puts session.tree output place →
    last.tree.entry? place = some (.file (output.bytes cipher))
  keeps_iff : ∀ stem parent content, session.tree.entry? (parent ++ [documentName stem]) = some (.file content) →
    (last.tree.entry? (parent ++ [documentName stem]) = some (.file content) ↔
      writing.Spares policy cipher last stem (parent ++ [documentName stem]) content)

/-- A file is deleted by a writer if it is the orphan at one of the paths that the policy allows to delete. -/
private theorem sweeps_iff {writing : Writing} {paths : List String} {stem : String} {parent : Route} {content : ByteArray}
    (names : session.tree.HasNames)
    (orphans : ∀ path, path ∈ paths ↔ IsOrphan session.tree writing.directory writing.stems path)
    (directories : FileTree.SameDirectories session.tree last.tree)
    (found : session.tree.entry? (parent ++ [documentName stem]) = some (.file content)) :
    writing.Sweeps policy last stem (parent ++ [documentName stem]) ↔
      ∃ path ∈ paths, policy.allows last path = true ∧ session.tree.locate path = .ok (parent ++ [documentName stem]) := by
  constructor
  · rintro ⟨base, listing, orphan, located, allows⟩
    have led := directories.locate_ok_iff.mp located
    obtain ⟨is_orphan, _⟩ := (isOrphan_at_iff names found).mpr ⟨base, listing, orphan, rfl, led⟩
    exact ⟨Path.listed base [documentName stem], (orphans _).mpr is_orphan, allows, led⟩
  · rintro ⟨path, member, allows, led⟩
    obtain ⟨base, listing, orphan, rfl, _⟩ := (isOrphan_at_iff names found).mp ⟨(orphans path).mp member, led⟩
    exact ⟨base, listing, orphan, directories.locate_ok_iff.mpr led, allows⟩

private theorem keeps_iff {writing : Writing} {paths : List String} {stem : String} {parent : Route} {content : ByteArray}
    (proper : writing.IsProper) (names : session.tree.HasNames)
    (orphans : ∀ path, path ∈ paths ↔ IsOrphan session.tree writing.directory writing.stems path)
    (swept : Swept policy paths session middle) (written : Written writing cipher middle last)
    (found : session.tree.entry? (parent ++ [documentName stem]) = some (.file content)) :
    last.tree.entry? (parent ++ [documentName stem]) = some (.file content) ↔
      writing.Spares policy cipher last stem (parent ++ [documentName stem]) content := by
  have directories := (swept.edits.trans written.edits).directories
  have allows (path : String) : policy.allows last path = policy.allows middle path := by
    unfold OrphanPolicy.allows
    rw [written.edits.answer, written.asked]
  have last_puts {output : Output} {place : Route} :
      writing.Puts last.tree output place ↔ writing.Puts middle.tree output place :=
    and_congr_right fun _ => written.edits.directories.locate_ok_iff
  by_cases covered : ∃ output, writing.Puts middle.tree output (parent ++ [documentName stem])
  · obtain ⟨output, puts⟩ := covered
    rw [written.put output _ puts]
    constructor
    · intro same
      cases same
      refine ⟨fun other other_puts => ?_, fun free => absurd (last_puts.mpr puts) (free output)⟩
      rw [proper.eq_of_puts (last_puts.mp other_puts) puts]
    · intro spared
      rw [spared.1 output (last_puts.mpr puts)]
  · have free (output : Output) : ¬ writing.Puts middle.tree output (parent ++ [documentName stem]) :=
      fun puts => covered ⟨output, puts⟩
    rw [written.kept _ free]
    constructor
    · intro kept
      refine ⟨fun output puts => absurd (last_puts.mp puts) (free output), fun _ sweeps => ?_⟩
      obtain ⟨path, member, allowed, led⟩ := (sweeps_iff names orphans directories found).mp sweeps
      have gone := swept.gone path member (allows path ▸ allowed) _ led
      rw [gone] at kept
      cases kept
    · intro spared
      have unswept := spared.2 fun output puts => free output (last_puts.mp puts)
      rw [swept.kept, found]
      intro path member allowed led
      exact unswept ((sweeps_iff names orphans directories found).mpr ⟨path, member, allows path ▸ allowed, led⟩)

theorem saveOutputs_ok {writing : Writing} (proper : writing.IsProper) (names : session.tree.HasNames)
    (ran : Ends (saveOutputs writing.directory cipher policy writing.outputs) session () last) :
    Saves writing policy cipher session last := by
  obtain ⟨deleted, middle, resolved, writes⟩ := bind_ok_iff.mp ran
  obtain ⟨paths, orphans, swept⟩ := resolveOrphans_ok names resolved
  have written : Written writing cipher middle last := forM_save_ok proper writes
  refine ⟨swept.edits.trans written.edits, ?_, ?_, fun _ _ _ => keeps_iff proper names orphans swept written⟩
  · intro output member
    obtain ⟨place, located⟩ := written.led output member
    exact ⟨place, swept.edits.directories.locate_ok_iff.mp located⟩
  · rintro output place ⟨member, located⟩
    exact written.put output place ⟨member, swept.edits.directories.locate_ok_iff.mpr located⟩

end Tablesmith
