import Mathlib
import Tablesmith.Proofs.Files.FileTree
import Tablesmith.Proofs.Run.Parts
import Tablesmith.Run.Output

/-!
# What becomes of orphans

A writer goes through the orphans of its directory one after the other. Those that
the policy allows it to delete are gone afterwards, and every other entry is as it
was (`Swept`). Where the user is asked, the questions of the session tell later
what was answered, since no orphan is asked about twice.
-/

namespace Tablesmith

open Files Running Steps
open Outcome (mapError_ok_iff)

variable {policy : OrphanPolicy} {session middle last : Session} {path : String} {paths : List String}

namespace Session

/-- What the user said when last asked about a path, the last question coming first. -/
def agreed (answer : List String → String → Bool) (path : String) : List String → Bool
  | [] => false
  | question :: earlier => if question = path then answer earlier path else agreed answer path earlier

theorem agreed_append {answer : List String → String → Bool} {later : List String} (unasked : path ∉ later)
    (earlier : List String) : agreed answer path (later ++ earlier) = agreed answer path earlier := by
  induction later with
  | nil => rfl
  | cons question later ih =>
    obtain ⟨other, unasked⟩ := not_or.mp (mt List.mem_cons.mpr unasked)
    rw [List.cons_append, agreed, if_neg (Ne.symm other), ih unasked]

end Session

namespace OrphanPolicy

/-- The policy allows to delete an orphan: always, or as the user said when last asked. -/
def allows (policy : OrphanPolicy) (session : Session) (path : String) : Bool :=
  match policy with
  | keep => false
  | delete => true
  | ask => Session.agreed session.answer path session.asked

/-- What is asked about orphans, the last question coming first. -/
def questions (policy : OrphanPolicy) (paths : List String) : List String :=
  match policy with
  | ask => paths.reverse
  | _ => []

theorem questions_cons (policy : OrphanPolicy) (path : String) (paths : List String) :
    policy.questions (path :: paths) = policy.questions paths ++ policy.questions [path] := by
  cases policy <;> simp [questions]

theorem mem_of_mem_questions {question : String} (asked : question ∈ policy.questions paths) : question ∈ paths := by
  cases policy with
  | keep => cases asked
  | delete => cases asked
  | ask => exact List.mem_reverse.mp asked

/-- The policy decides, and asks if it must; the decision can be read off the session that is left. -/
theorem run_deletes (policy : OrphanPolicy) (path : String) (session : Session) :
    (liftM (policy.deletes path : StateM Session Bool) : Running (StateM Session) Bool).run.run session =
      (.ok (policy.allows { session with asked := policy.questions [path] ++ session.asked } path),
        { session with asked := policy.questions [path] ++ session.asked }) := by
  cases policy with
  | keep => rfl
  | delete => rfl
  | ask =>
    have said : allows .ask { session with asked := questions .ask [path] ++ session.asked } path =
        session.answer session.asked path := by
      simp [allows, questions, Session.agreed]
    rw [said]
    rfl

/-- Questions about other orphans do not change what was said about one. -/
theorem allows_of_asked (answer : last.answer = session.answer)
    (asked : last.asked = policy.questions paths ++ session.asked)
    (unasked : path ∉ paths) : policy.allows last path = policy.allows session path := by
  unfold allows
  cases policy with
  | keep => rfl
  | delete => rfl
  | ask => simp only [answer, asked, Session.agreed_append (mt mem_of_mem_questions unasked)]

/-- What is told about an orphan. -/
def notice (policy : OrphanPolicy) (session : Session) (path : String) : Report :=
  .warning ((if policy.allows session path = true then "Deleted unused file '" else "Kept unused file '") ++ path ++ "'")

theorem notice_of_allowed (allowed : policy.allows session path = true) :
    policy.notice session path = .warning ("Deleted unused file '" ++ path ++ "'") := by
  rw [notice, if_pos allowed]

theorem notice_of_forbidden (forbidden : policy.allows session path = false) :
    policy.notice session path = .warning ("Kept unused file '" ++ path ++ "'") := by
  rw [notice, forbidden, if_neg Bool.false_ne_true]

end OrphanPolicy

/-- No directory was made or removed, and the user is the same. -/
structure Session.Edits (session last : Session) : Prop where
  directories : FileTree.SameDirectories session.tree last.tree
  names : session.tree.HasNames → last.tree.HasNames
  answer : last.answer = session.answer

namespace Session.Edits

theorem of_tree (tree : last.tree = session.tree) (answer : last.answer = session.answer) : Edits session last :=
  ⟨tree ▸ FileTree.SameDirectories.refl _, fun proper => tree ▸ proper, answer⟩

theorem trans (first : Edits session middle) (second : Edits middle last) : Edits session last :=
  ⟨first.directories.trans second.directories, fun proper => second.names (first.names proper),
    second.answer.trans first.answer⟩

end Session.Edits

/-- The path under which a directory lists a file whose stem is not among those in use. -/
def IsOrphan (tree : FileTree) (directory : String) (active : List String) (path : String) : Prop :=
  ∃ base name parent content, Path.listing? directory = some base ∧ isOrphanName active name = true ∧
    tree.locate base = .ok parent ∧ tree.hasDirectory parent = true ∧
    tree.entry? (parent ++ [name]) = some (.file content) ∧ path = Path.listed base [name]

theorem isDirectory_iff {tree : FileTree} : tree.isDirectory path = true ↔
    ∃ route, tree.locate path = .ok route ∧ tree.hasDirectory route = true := by
  unfold FileTree.isDirectory FileTree.find?
  cases tree.locate path with
  | error error => simp
  | ok route =>
    have found : tree.hasDirectory route = true ↔ tree.entry? route = some .directory := FileTree.hasDirectory_iff
    cases entry : tree.entry? route with
    | none => simp [found, entry]
    | some held => cases held <;> simp [found, entry]

private theorem mem_orphanPaths_iff {tree : FileTree} {directory base : String} {active : List String} {parent : Route}
    (listing : Path.listing? directory = some base) (located : tree.locate base = .ok parent)
    (there : tree.hasDirectory parent = true) :
    path ∈ (orphanNames active ((tree.filesBelow parent).filterMap FileTree.singleName?)).map
      (fun name => Path.listed base [name]) ↔ IsOrphan tree directory active path := by
  simp only [orphanNames, List.mem_map, List.mem_mergeSort, List.mem_filter, FileTree.mem_namesOf_iff]
  constructor
  · rintro ⟨name, ⟨⟨content, found⟩, orphan⟩, rfl⟩
    exact ⟨base, name, parent, content, listing, orphan, located, there, found, rfl⟩
  · rintro ⟨other_base, name, other_parent, content, other_listing, orphan, other_located, _, found, rfl⟩
    cases listing.symm.trans other_listing
    cases located.symm.trans other_located
    exact ⟨name, ⟨⟨content, found⟩, orphan⟩, rfl⟩

/-- Looking for orphans finds each of them once and changes nothing. -/
theorem findOrphans_ok {directory : String} {active : List String} (proper : session.tree.HasNames)
    (ran : Ends (findOrphans directory active) session paths last) :
    last = session ∧ paths.Nodup ∧ ∀ path, path ∈ paths ↔ IsOrphan session.tree directory active path := by
  unfold findOrphans at ran
  split at ran
  · next unlisted =>
    obtain ⟨rfl, rfl⟩ := pure_ok_iff.mp ran
    refine ⟨rfl, List.nodup_nil, fun path => ⟨by simp, ?_⟩⟩
    rintro ⟨base, _, _, _, listing, _⟩
    cases unlisted.symm.trans listing
  · next base listing =>
    obtain ⟨present, middle, looked, ran⟩ := bind_ok_iff.mp ran
    cases looked
    split at ran
    · next directory_there =>
      obtain ⟨names, middle, listed, ran⟩ := bind_ok_iff.mp ran
      rw [run_ofFile, outcome_eq_iff, mapError_ok_iff] at listed
      obtain ⟨listed, rfl⟩ := listed
      obtain ⟨parent, located, there, rfl⟩ := FileTree.filesIn_ok_iff.mp listed
      obtain ⟨rfl, rfl⟩ := pure_ok_iff.mp ran
      refine ⟨rfl, ?_, fun path => mem_orphanPaths_iff listing located there⟩
      refine List.Nodup.map_on ?_ ?_
      · have named : ∀ name ∈ orphanNames active ((last.tree.filesBelow parent).filterMap FileTree.singleName?),
            Path.IsName name := by
          intro name member
          obtain ⟨content, found⟩ := FileTree.mem_namesOf_iff.mp (List.mem_filter.mp (List.mem_mergeSort.mp member)).1
          exact proper.name found name (by simp)
        exact fun name member other other_member => Path.listed_injective (named name member) (named other other_member)
      · exact (List.mergeSort_perm _ _).nodup_iff.mpr ((last.tree.nodup_namesOf parent).filter _)
    · next no_directory =>
      obtain ⟨rfl, rfl⟩ := pure_ok_iff.mp ran
      refine ⟨rfl, List.nodup_nil, fun path => ⟨by simp, ?_⟩⟩
      rintro ⟨other_base, name, parent, content, other_listing, _, located, there, _⟩
      cases listing.symm.trans other_listing
      exact absurd (isDirectory_iff.mpr ⟨parent, located, there⟩) no_directory

/-- Of the files at the paths exactly those are gone that the policy allowed to delete. -/
structure Swept (policy : OrphanPolicy) (paths : List String) (session last : Session) : Prop where
  edits : Session.Edits session last
  asked : last.asked = policy.questions paths ++ session.asked
  gone : ∀ path ∈ paths, policy.allows last path = true →
    ∀ place, session.tree.locate path = .ok place → last.tree.entry? place = none
  kept : ∀ place, (∀ path ∈ paths, policy.allows last path = true → session.tree.locate path ≠ .ok place) →
    last.tree.entry? place = session.tree.entry? place

theorem swept_nil (session : Session) : Swept policy [] session session := by
  refine ⟨.of_tree rfl rfl, ?_, by simp, fun _ _ => rfl⟩
  cases policy <;> rfl

/-- All that dealing with one orphan does: it is deleted if that is allowed, and the user is told. -/
theorem resolveOrphan_cases {deleted : Bool} (ran : Ends (resolveOrphan policy path) session deleted last) :
    deleted = policy.allows last path ∧ last.answer = session.answer ∧ last.asked = policy.questions [path] ++ session.asked ∧
      last.reports = session.reports ++ [policy.notice last path] ∧
      ((policy.allows last path = true ∧ ∃ route content, session.tree.locate path = .ok route ∧
          session.tree.entry? route = some (.file content) ∧ last.tree = session.tree.erase route) ∨
        (policy.allows last path = false ∧ last.tree = session.tree)) := by
  obtain ⟨allowed, middle, decided, ran⟩ := bind_ok_iff.mp ran
  rw [OrphanPolicy.run_deletes, outcome_eq_iff] at decided
  obtain ⟨decided, rfl⟩ := decided
  have allowed_is := Except.ok.inj decided
  split at ran
  · next allows =>
    obtain ⟨⟨⟩, removed, changed, ran⟩ := bind_ok_iff.mp ran
    obtain ⟨tree, erased, rfl⟩ := ofFile_change_ok_iff.mp changed
    obtain ⟨route, content, located, found, rfl⟩ := FileTree.remove_ok_iff.mp erased
    obtain ⟨⟨⟩, told, tells, ran⟩ := bind_ok_iff.mp ran
    cases tells
    obtain ⟨rfl, rfl⟩ := pure_ok_iff.mp ran
    have may := allowed_is.trans allows
    refine ⟨may.symm, rfl, rfl, ?_, Or.inl ⟨may, route, content, located, found, rfl⟩⟩
    exact congrArg (session.reports ++ [·]) (OrphanPolicy.notice_of_allowed may).symm
  · next forbids =>
    obtain ⟨⟨⟩, told, tells, ran⟩ := bind_ok_iff.mp ran
    cases tells
    obtain ⟨rfl, rfl⟩ := pure_ok_iff.mp ran
    have may_not := allowed_is.trans (Bool.eq_false_iff.mpr forbids)
    refine ⟨may_not.symm, rfl, rfl, ?_, Or.inr ⟨may_not, rfl⟩⟩
    exact congrArg (session.reports ++ [·]) (OrphanPolicy.notice_of_forbidden may_not).symm

/-- One orphan is deleted or kept. -/
theorem resolveOrphan_ok {deleted : Bool} (ran : Ends (resolveOrphan policy path) session deleted last) :
    Swept policy [path] session last := by
  obtain ⟨_, answer, asked, _, ⟨allows, route, content, located, found, erased⟩ | ⟨forbids, same⟩⟩ := resolveOrphan_cases ran
  · have below : route ≠ [] := by
      rintro rfl
      simp at found
    refine ⟨⟨erased ▸ FileTree.sameDirectories_erase found, fun proper => erased ▸ proper.erase route, answer⟩, asked, ?_, ?_⟩
    · intro other member _ place led
      rw [List.mem_singleton.mp member] at led
      cases led.symm.trans located
      simp [erased, FileTree.entry?_erase, below]
    · intro place away
      have elsewhere : place ≠ route := by
        rintro rfl
        exact away path List.mem_cons_self allows located
      simp [erased, FileTree.entry?_erase, elsewhere]
  · refine ⟨.of_tree same answer, asked, ?_, fun _ _ => same ▸ rfl⟩
    intro other member allows
    rw [List.mem_singleton.mp member, forbids] at allows
    cases allows

/-- Another orphan, and then the rest of them. -/
theorem swept_cons (new : path ∉ paths) (first : Swept policy [path] session middle)
    (rest : Swept policy paths middle last) : Swept policy (path :: paths) session last := by
  have same_places {orphan : String} {place : Route} :
      middle.tree.locate orphan = .ok place ↔ session.tree.locate orphan = .ok place :=
    first.edits.directories.locate_ok_iff
  have said : policy.allows last path = policy.allows middle path :=
    OrphanPolicy.allows_of_asked rest.edits.answer rest.asked new
  have still_gone (place : Route) (missing : middle.tree.entry? place = none) : last.tree.entry? place = none := by
    by_cases swept : ∀ orphan ∈ paths, policy.allows last orphan = true → middle.tree.locate orphan ≠ .ok place
    · rw [rest.kept place swept, missing]
    · push Not at swept
      obtain ⟨orphan, member, allows, located⟩ := swept
      exact rest.gone orphan member allows place located
  refine ⟨first.edits.trans rest.edits, ?_, ?_, ?_⟩
  · rw [rest.asked, first.asked, policy.questions_cons path paths, List.append_assoc]
  · intro orphan member allows place located
    rcases List.mem_cons.mp member with rfl | later
    · exact still_gone place (first.gone orphan List.mem_cons_self (said ▸ allows) place located)
    · exact rest.gone orphan later allows place (same_places.mpr located)
  · intro place away
    rw [rest.kept place, first.kept place]
    · intro orphan member allows
      obtain rfl := List.mem_singleton.mp member
      exact away orphan List.mem_cons_self (said.trans allows)
    · intro orphan member allows located
      exact away orphan (List.mem_cons_of_mem path member) allows (same_places.mp located)

/-- All that dealing with orphans does: those are deleted that may be, which must be somewhere for that, and the user is
told about each. -/
structure Resolved (policy : OrphanPolicy) (paths : List String) (session : Session) (deleted : List String) (last : Session) :
    Prop extends Swept policy paths session last where
  deletes : deleted = paths.filter (policy.allows last)
  led : ∀ path ∈ deleted, ∃ place, session.tree.locate path = .ok place
  reports : last.reports = session.reports ++ paths.map (policy.notice last)

private theorem filterAuxM_resolveOrphan_ok {found earlier : List String} (distinct : paths.Nodup)
    (ran : Ends (paths.filterAuxM (resolveOrphan policy) earlier) session found last) :
    ∃ deleted, found = deleted.reverse ++ earlier ∧ Resolved policy paths session deleted last := by
  induction paths generalizing session earlier with
  | nil =>
    obtain ⟨rfl, rfl⟩ := pure_ok_iff.mp ran
    exact ⟨[], rfl, swept_nil last, rfl, by simp, by simp⟩
  | cons path paths ih =>
    obtain ⟨new, distinct⟩ := List.nodup_cons.mp distinct
    obtain ⟨gone, middle, first, rest⟩ := bind_ok_iff.mp ran
    obtain ⟨deleted, rfl, resolved⟩ := ih distinct rest
    obtain ⟨gone_is, _, _, told, removed⟩ := resolveOrphan_cases first
    have swept := resolveOrphan_ok first
    -- What was said about this orphan is not changed by the questions about the others.
    have said : policy.allows last path = policy.allows middle path :=
      OrphanPolicy.allows_of_asked resolved.edits.answer resolved.asked new
    have notice : policy.notice last path = policy.notice middle path := by rw [OrphanPolicy.notice, said, ← OrphanPolicy.notice]
    refine ⟨(path :: paths).filter (policy.allows last), ?_, swept_cons new swept resolved.toSwept, rfl, ?_, ?_⟩
    · rw [List.filter_cons, ← resolved.deletes, said, ← gone_is]
      cases gone <;> simp
    · intro other member
      obtain ⟨listed, allows⟩ := List.mem_filter.mp member
      rcases List.mem_cons.mp listed with rfl | later
      · obtain ⟨_, place, _, located, _⟩ | ⟨forbids, _⟩ := removed
        · exact ⟨place, located⟩
        · rw [said, forbids] at allows
          cases allows
      · obtain ⟨place, located⟩ := resolved.led other (resolved.deletes ▸ List.mem_filter.mpr ⟨later, allows⟩)
        exact ⟨place, swept.edits.directories.locate_ok_iff.mp located⟩
    · rw [resolved.reports, told, List.map_cons, notice, List.append_assoc, List.singleton_append]

theorem filterM_resolveOrphan_ok {deleted : List String} (distinct : paths.Nodup)
    (ran : Ends (paths.filterM (resolveOrphan policy)) session deleted last) :
    Resolved policy paths session deleted last := by
  obtain ⟨found, middle, steps, done⟩ := bind_ok_iff.mp ran
  obtain ⟨rfl, rfl⟩ := pure_ok_iff.mp done
  obtain ⟨deleted, rfl, resolved⟩ := filterAuxM_resolveOrphan_ok distinct steps
  simpa using resolved

/-- All orphans of a directory are dealt with. -/
theorem resolveOrphans_ok {directory : String} {active deleted : List String} (proper : session.tree.HasNames)
    (ran : Ends (resolveOrphans directory active policy) session deleted last) :
    ∃ paths, (∀ path, path ∈ paths ↔ IsOrphan session.tree directory active path) ∧
      Swept policy paths session last := by
  obtain ⟨paths, middle, looked, steps⟩ := bind_ok_iff.mp ran
  obtain ⟨rfl, distinct, orphans⟩ := findOrphans_ok proper looked
  exact ⟨paths, orphans, (filterM_resolveOrphan_ok distinct steps).toSwept⟩

/-- A file with a proper name is listed in a directory under a path that ends in its name and leads to it. -/
theorem isOrphan_at_iff {tree : FileTree} {directory name : String} {active : List String} {parent : Route}
    {content : ByteArray} (proper : tree.HasNames) (found : tree.entry? (parent ++ [name]) = some (.file content)) :
    IsOrphan tree directory active path ∧ tree.locate path = .ok (parent ++ [name]) ↔
      ∃ base, Path.listing? directory = some base ∧ isOrphanName active name = true ∧ path = Path.listed base [name] ∧
        tree.locate path = .ok (parent ++ [name]) := by
  have named : Path.IsName name := proper.name found name (by simp)
  constructor
  · rintro ⟨⟨base, other, other_parent, _, listing, orphan, _, _, other_found, rfl⟩, located⟩
    have other_named : Path.IsName other := proper.name other_found other (by simp)
    obtain ⟨_, _, _, _, _, same⟩ := (FileTree.locate_listed_ok_iff other_named (Path.listing_ne_empty listing)).mp located
    obtain ⟨_, same_name⟩ := List.append_inj' same rfl
    cases same_name
    exact ⟨base, listing, orphan, rfl, located⟩
  · rintro ⟨base, listing, orphan, rfl, located⟩
    obtain ⟨other_parent, base_located, there, _, _, same⟩ :=
      (FileTree.locate_listed_ok_iff named (Path.listing_ne_empty listing)).mp located
    obtain ⟨rfl, _⟩ := List.append_inj' same rfl
    exact ⟨⟨base, name, parent, content, listing, orphan, base_located, there, found, rfl⟩, located⟩

end Tablesmith
