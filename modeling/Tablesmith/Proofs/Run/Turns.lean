import Mathlib
import Tablesmith.Proofs.Run.Documents

/-!
# Runs as changes of trees

Where the user answers by the path alone, what a part of a run does depends on the
files that it finds, and neither on what was told before nor on what was asked
(`IsPlain`). Such a part turns a tree into another (`Turns`), and a run does so one
part after the other (`run_turns_iff`).
-/

namespace Tablesmith

open Files Running Steps

variable {α β : Type} {answer : String → Bool} {before middle after : FileTree}

/-- Sessions with the same tree, in which the user answers alike and by the path alone. -/
structure Session.Alike (answer : String → Bool) (session twin : Session) : Prop where
  tree : session.tree = twin.tree
  session_answer : session.answer = fun _ => answer
  twin_answer : twin.answer = fun _ => answer

/-- What the part does depends on the files and on the answers alone. -/
abbrev IsPlain (answer : String → Bool) (part : Running (StateM Session) α) : Prop :=
  InStep (Session.Alike answer) part part

private theorem lockstep_change (edit : FileTree → Except FileError FileTree) :
    Lockstep (Session.Alike answer) (Session.change edit) (Session.change edit) := by
  rintro ⟨tree, reports, asked, said⟩ ⟨_, _, _, _⟩ ⟨rfl, rfl, rfl⟩
  simp only [StateT.run, Session.change]
  cases edit tree with
  | error error => exact ⟨rfl, rfl, rfl, rfl⟩
  | ok changed => exact ⟨rfl, rfl, rfl, rfl⟩

theorem runsAlike_alike (answer : String → Bool) : RunsAlike (Session.Alike answer) := by
  have looks {β : Type} (query : FileTree → β) :
      Lockstep (Session.Alike answer) (Session.look query) (Session.look query) := by
    intro session twin alike
    exact ⟨congrArg query alike.tree, alike⟩
  -- What is made, told or asked is read off the tree and the answers.
  have makes (path : String) :
      Lockstep (Session.Alike answer) (Session.makeDirectories path) (Session.makeDirectories path) := by
    rintro ⟨tree, reports, asked, said⟩ ⟨_, _, _, _⟩ ⟨rfl, rfl, rfl⟩
    exact ⟨rfl, rfl, rfl, rfl⟩
  have tells (report : Report) : Lockstep (Session.Alike answer) (Session.tell report) (Session.tell report) := by
    rintro ⟨tree, reports, asked, said⟩ ⟨_, _, _, _⟩ ⟨rfl, rfl, rfl⟩
    exact ⟨rfl, rfl, rfl, rfl⟩
  have asks (path : String) : Lockstep (Session.Alike answer) (Session.mayDelete path) (Session.mayDelete path) := by
    rintro ⟨tree, reports, asked, said⟩ ⟨_, _, _, _⟩ ⟨rfl, rfl, rfl⟩
    exact ⟨rfl, rfl, rfl, rfl⟩
  constructor
  case toSavesAlike =>
    constructor
    case isDirectory => exact fun path => looks _
    case filesIn => exact fun path => looks _
    case removeFile => exact fun path => lockstep_change _
    case makeDirectories => exact makes
    case tell => exact tells
    case mayDelete => exact asks
  case writeCode => exact fun directory text => lockstep_change _
  all_goals exact fun path => looks _

theorem writesAlike_alike (answer : String → Bool) (cipher : Option DocumentCipher) :
    WritesAlike (Session.Alike answer) cipher cipher :=
  fun _ _ => lockstep_change _

namespace IsPlain

variable {settings : Settings} {policy : OrphanPolicy} {cipher : Option DocumentCipher}

/-- From sessions that are alike the part does the same and leaves sessions that are alike. -/
theorem ends {part : Running (StateM Session) α} (plain : IsPlain answer part) {session twin last : Session} {value : α}
    (alike : Session.Alike answer session twin) (ran : Ends part session value last) :
    ∃ twin_last, Ends part twin value twin_last ∧ Session.Alike answer last twin_last := by
  obtain ⟨same, left⟩ := plain session twin alike
  rw [ran] at same left
  exact ⟨(part.run.run twin).2, Prod.ext same.symm rfl, left⟩

theorem last_answer {part : Running (StateM Session) α} (plain : IsPlain answer part) {session last : Session} {value : α}
    (path_only : session.answer = fun _ => answer) (ran : Ends part session value last) : last.answer = fun _ => answer := by
  obtain ⟨_, _, alike⟩ := plain.ends ⟨rfl, path_only, path_only⟩ ran
  exact alike.session_answer

theorem tell (report : Report) : IsPlain answer (Running.tell report) :=
  InStep.tell (runsAlike_alike answer).toSavesAlike.tell report

theorem collect (settings : Settings) : IsPlain answer (Collection.ofSettings settings) :=
  (runsAlike_alike answer).toReadsAlike.collect settings

theorem script (product : Product) (settings : Settings) (collection : Collection) :
    IsPlain answer (if product.hasScript then runScript settings collection else pure ()) := by
  cases product.hasScript with
  | true => exact (runsAlike_alike answer).script settings collection
  | false => exact InStep.pure ()

theorem extract (product : Product) (collection : Collection) : IsPlain answer (extract product collection) :=
  (runsAlike_alike answer).toReadsAlike.extracts product collection

theorem saveTables (tables : Option Tables) : IsPlain answer (saveTables settings cipher policy tables) :=
  (runsAlike_alike answer).saveTables (writesAlike_alike answer cipher) settings policy tables

theorem saveLanguages (languages : Option Languages) : IsPlain answer (saveLanguages settings cipher policy languages) :=
  (runsAlike_alike answer).saveLanguages (writesAlike_alike answer cipher) settings policy languages

theorem saveExtracted (order : WriteOrder) (extracted : Extracted) :
    IsPlain answer (saveExtracted settings cipher policy order extracted) :=
  (runsAlike_alike answer).saveExtracted (writesAlike_alike answer cipher) settings policy order extracted

end IsPlain

/-- From the one tree the part comes to its end with the value and leaves the other tree. -/
def Turns (answer : String → Bool) (part : Running (StateM Session) α) (before : FileTree) (value : α) (after : FileTree) :
    Prop :=
  ∃ last, Ends part (Session.start before answer) value last ∧ last.tree = after

namespace Turns

variable {part : Running (StateM Session) α} {value other : α} {next : α → Running (StateM Session) β} {result : β}

theorem deterministic {also : FileTree} (turns : Turns answer part before value after)
    (again : Turns answer part before other also) : value = other ∧ after = also := by
  obtain ⟨last, ran, rfl⟩ := turns
  obtain ⟨also_last, ran_again, rfl⟩ := again
  cases ran.symm.trans ran_again
  exact ⟨rfl, rfl⟩

/-- It does not matter from which session with the tree and the answers the part starts. -/
theorem of_ends (plain : IsPlain answer part) {session last : Session} (path_only : session.answer = fun _ => answer)
    (ran : Ends part session value last) : Turns answer part session.tree value last.tree := by
  have alike : Session.Alike answer session (Session.start session.tree answer) := ⟨rfl, path_only, rfl⟩
  obtain ⟨twin_last, twin_ran, still_alike⟩ := plain.ends alike ran
  exact ⟨twin_last, twin_ran, still_alike.tree.symm⟩

theorem ends (turns : Turns answer part before value after) (plain : IsPlain answer part) (session : Session)
    (same : session.tree = before) (path_only : session.answer = fun _ => answer) :
    ∃ last, Ends part session value last ∧ last.tree = after ∧ last.answer = fun _ => answer := by
  obtain ⟨twin_last, twin_ran, rfl⟩ := turns
  subst same
  have alike : Session.Alike answer (Session.start session.tree answer) session := ⟨rfl, rfl, path_only⟩
  obtain ⟨last, ran, still_alike⟩ := plain.ends alike twin_ran
  exact ⟨last, ran, still_alike.tree.symm, still_alike.twin_answer⟩

theorem bind_iff (first : IsPlain answer part) (rest : ∀ value, IsPlain answer (next value)) :
    Turns answer (part >>= next) before result after ↔
      ∃ value middle, Turns answer part before value middle ∧ Turns answer (next value) middle result after := by
  constructor
  · rintro ⟨last, ran, rfl⟩
    obtain ⟨value, middle, part_ran, next_ran⟩ := bind_ok_iff.mp ran
    exact ⟨value, middle.tree, ⟨middle, part_ran, rfl⟩, of_ends (rest value) (first.last_answer rfl part_ran) next_ran⟩
  · rintro ⟨value, _, ⟨middle, part_ran, rfl⟩, next_turns⟩
    obtain ⟨last, next_ran, rfl, _⟩ := next_turns.ends (rest value) middle rfl (first.last_answer rfl part_ran)
    exact ⟨last, bind_ok_iff.mpr ⟨value, middle, part_ran, next_ran⟩, rfl⟩

theorem pure_iff : Turns answer (pure value : Running (StateM Session) α) before other after ↔ other = value ∧ after = before := by
  constructor
  · rintro ⟨last, ran, rfl⟩
    obtain ⟨rfl, rfl⟩ := pure_ok_iff.mp ran
    exact ⟨rfl, rfl⟩
  · rintro ⟨rfl, rfl⟩
    exact ⟨_, rfl, rfl⟩

theorem tell_iff {report : Report} {told : Unit} : Turns answer (tell report) before told after ↔ after = before := by
  have tells : Turns answer (tell report) before told before := ⟨_, rfl, rfl⟩
  constructor
  · intro turns
    exact (turns.deterministic tells).2
  · rintro rfl
    exact tells

theorem tell_bind_iff {report : Report} {part : Running (StateM Session) α} (plain : IsPlain answer part) :
    Turns answer (tell report >>= fun _ => part) before value after ↔ Turns answer part before value after := by
  rw [bind_iff (IsPlain.tell report) fun _ => plain]
  simp [tell_iff]

theorem ofResult_iff {ε : Type} {reason : ε → Failure} {found : Except ε α} :
    Turns answer (ofResult reason found) before value after ↔ found = .ok value ∧ after = before := by
  constructor
  · rintro ⟨last, ran, rfl⟩
    obtain ⟨found_ok, rfl⟩ := ofResult_ok_iff.mp ran
    exact ⟨found_ok, rfl⟩
  · rintro ⟨found_ok, rfl⟩
    exact ⟨_, ofResult_ok_iff.mpr ⟨found_ok, rfl⟩, rfl⟩

theorem ofResult_bind_iff {ε : Type} {reason : ε → Failure} {found : Except ε α} :
    Turns answer (ofResult reason found >>= next) before result after ↔
      ∃ value, found = .ok value ∧ Turns answer (next value) before result after := by
  constructor
  · rintro ⟨last, ran, rfl⟩
    obtain ⟨value, _, gives, next_ran⟩ := bind_ok_iff.mp ran
    obtain ⟨rfl, rfl⟩ := ofResult_ok_iff.mp gives
    exact ⟨value, rfl, last, next_ran, rfl⟩
  · rintro ⟨value, rfl, last, next_ran, rfl⟩
    exact ⟨last, bind_ok_iff.mpr ⟨value, _, ofResult_ok_iff.mpr ⟨rfl, rfl⟩, next_ran⟩, rfl⟩

end Turns

theorem OnlyReads.turns {part : Running (StateM Session) α} {value : α} (reads : OnlyReads part)
    (turns : Turns answer part before value after) : after = before := by
  obtain ⟨last, ran, rfl⟩ := turns
  exact reads.tree_eq ran

/-- What a product consists of is extracted from a collection. -/
structure Product.Extracts (product : Product) (collection : Collection) (extracted : Extracted) : Prop where
  tables : if product.hasTables then ∃ tables, extracted.tables = some tables ∧
    ((Tables.extract collection.tables).run.run KeyCatalog.empty).1 = .ok tables else extracted.tables = none
  languages : if product.hasStrings then ∃ languages, extracted.languages = some languages ∧
    Languages.extract collection.strings = .ok languages else extracted.languages = none

private theorem map_some_ends {part : Running (StateM Session) α} {value : α} {session last : Session}
    (ran : Ends part session value last) : Ends (some <$> part) session (some value) last :=
  bind_ok_iff.mpr ⟨value, last, ran, rfl⟩

theorem extract_turns_iff {product : Product} {collection : Collection} {extracted : Extracted} :
    Turns answer (extract product collection) before extracted after ↔ product.Extracts collection extracted ∧ after = before := by
  constructor
  · rintro ⟨last, ran, rfl⟩
    obtain ⟨same, tables, languages⟩ := extract_steps ran
    exact ⟨⟨tables, languages⟩, same⟩
  · rintro ⟨⟨tables_given, languages_given⟩, rfl⟩
    have tables_end (session : Session) : ∃ last, Ends (if product.hasTables then some <$> extractTables collection else
        pure none) session extracted.tables last ∧ last.tree = session.tree := by
      by_cases has : product.hasTables = true
      · rw [if_pos has] at tables_given ⊢
        obtain ⟨tables, are_tables, tables_ok⟩ := tables_given
        obtain ⟨last, ran, same⟩ := extractTables_ends tables_ok session
        exact ⟨last, are_tables ▸ map_some_ends ran, same⟩
      · rw [if_neg has] at tables_given ⊢
        exact ⟨session, tables_given ▸ rfl, rfl⟩
    have languages_end (session : Session) : ∃ last, Ends (if product.hasStrings then some <$> extractLanguages collection
        else pure none) session extracted.languages last ∧ last.tree = session.tree := by
      by_cases has : product.hasStrings = true
      · rw [if_pos has] at languages_given ⊢
        obtain ⟨languages, are_languages, languages_ok⟩ := languages_given
        obtain ⟨last, ran, same⟩ := extractLanguages_ends languages_ok session
        exact ⟨last, are_languages ▸ map_some_ends ran, same⟩
      · rw [if_neg has] at languages_given ⊢
        exact ⟨session, languages_given ▸ rfl, rfl⟩
    obtain ⟨middle, tables_ran, tables_same⟩ := tables_end (Session.start after answer)
    obtain ⟨last, languages_ran, languages_same⟩ := languages_end middle
    refine ⟨last, ?_, languages_same.trans tables_same⟩
    rw [extract_eq]
    exact bind_ok_iff.mpr ⟨_, middle, tables_ran, bind_ok_iff.mpr ⟨_, last, languages_ran, rfl⟩⟩

/-- Unless a run makes everything, there is nothing of which the order could matter. -/
theorem Product.Extracts.in_order {product : Product} {order : WriteOrder} {collection : Collection} {extracted : Extracted}
    (given : product.Extracts collection extracted) (tables_first : product = .all → order = .tablesFirst) :
    order = .tablesFirst ∨ extracted.tables = none ∨ extracted.languages = none := by
  obtain ⟨tables, languages⟩ := given
  cases product with
  | all => exact Or.inl (tables_first rfl)
  | script => exact Or.inr (Or.inl tables)
  | table => exact Or.inr (Or.inr languages)
  | string => exact Or.inr (Or.inl tables)

/-- Documents are saved tables first, or there are none of the one kind. -/
theorem saveExtracted_turns_iff {settings : Settings} {cipher : Option DocumentCipher} {policy : OrphanPolicy}
    {order : WriteOrder} {extracted : Extracted}
    (in_order : order = .tablesFirst ∨ extracted.tables = none ∨ extracted.languages = none) :
    Turns answer (saveExtracted settings cipher policy order extracted) before () after ↔
      ∃ tabled, Turns answer (saveTables settings cipher policy extracted.tables) before () tabled ∧
        Turns answer (saveLanguages settings cipher policy extracted.languages) tabled () after := by
  have tables_plain : IsPlain answer (saveTables settings cipher policy extracted.tables) := .saveTables _
  have languages_plain : IsPlain answer (saveLanguages settings cipher policy extracted.languages) := .saveLanguages _
  have same_order {session last : Session} : Ends (saveExtracted settings cipher policy order extracted) session () last ↔
      Ends (saveExtracted settings cipher policy .tablesFirst extracted) session () last := by
    rcases in_order with rfl | no_tables | no_languages
    · rfl
    · rw [saveExtracted, saveExtracted, no_tables]
      exact pure_both_iff.trans pure_both_iff.symm
    · rw [saveExtracted, saveExtracted, no_languages]
      exact both_pure_iff.trans both_pure_iff.symm
  constructor
  · rintro ⟨last, ran, rfl⟩
    obtain ⟨middle, tables_ran, languages_ran⟩ := both_ok_iff.mp (same_order.mp ran)
    have path_only := tables_plain.last_answer rfl tables_ran
    exact ⟨middle.tree, ⟨middle, tables_ran, rfl⟩, Turns.of_ends languages_plain path_only languages_ran⟩
  · rintro ⟨_, ⟨middle, tables_ran, rfl⟩, languages_turn⟩
    have path_only := tables_plain.last_answer rfl tables_ran
    obtain ⟨last, languages_ran, rfl, _⟩ := languages_turn.ends languages_plain middle rfl path_only
    exact ⟨last, same_order.mpr (both_ok_iff.mpr ⟨middle, tables_ran, languages_ran⟩), rfl⟩

/-- A run is its parts, each on the tree that the one before leaves. -/
theorem run_turns_iff {settings : Settings} {policy : OrphanPolicy} {order : WriteOrder} {product : Product}
    (tables_first : product = .all → order = .tablesFirst) :
    Turns answer (run settings policy order product) before () after ↔
      ∃ cipher collection extracted scripted tabled, settings.check product = .ok () ∧ settings.cipher = .ok cipher ∧
        Turns answer (Collection.ofSettings settings) before collection before ∧
        Turns answer (if product.hasScript then runScript settings collection else pure ()) before () scripted ∧
        product.Extracts collection extracted ∧
        Turns answer (saveTables settings cipher policy extracted.tables) scripted () tabled ∧
        Turns answer (saveLanguages settings cipher policy extracted.languages) tabled () after := by
  have saves_plain (cipher : Option DocumentCipher) (extracted : Extracted) : IsPlain answer
      (saveExtracted settings cipher policy order extracted >>= fun _ =>
        Running.tell (.success ("Completed " ++ product.name ++ " extraction"))) :=
    (IsPlain.saveExtracted order extracted).bind fun _ => IsPlain.tell _
  have extracts_plain (cipher : Option DocumentCipher) (collection : Collection) :=
    (IsPlain.extract product collection).bind (saves_plain cipher)
  have scripts_plain (cipher : Option DocumentCipher) (collection : Collection) :=
    (IsPlain.script product settings collection).bind fun _ => extracts_plain cipher collection
  have collects_plain (cipher : Option DocumentCipher) := (IsPlain.collect settings).bind (scripts_plain cipher)
  have checks_plain := (InStep.ofResult Failure.missingSetting (settings.check product)).bind fun _ =>
    (InStep.ofResult Failure.cipher settings.cipher).bind collects_plain
  rw [run_eq, Turns.tell_bind_iff checks_plain]
  simp only [Turns.ofResult_bind_iff, Turns.bind_iff (IsPlain.collect settings) (scripts_plain _),
    Turns.bind_iff (IsPlain.script product settings _) fun _ => extracts_plain _ _,
    Turns.bind_iff (IsPlain.extract product _) (saves_plain _),
    Turns.bind_iff (IsPlain.saveExtracted order _) fun _ => IsPlain.tell _, Turns.tell_iff, extract_turns_iff]
  constructor
  · rintro ⟨_, checked, cipher, ciphered, collection, collected, collects, _, _, scripts, extracted, scripted, ⟨given, rfl⟩,
      _, _, saves, rfl⟩
    obtain rfl := (OnlyReads.collect settings).turns collects
    obtain ⟨tabled, tables, languages⟩ := (saveExtracted_turns_iff (given.in_order tables_first)).mp saves
    exact ⟨cipher, collection, extracted, scripted, tabled, checked, ciphered, collects, scripts, given, tables, languages⟩
  · rintro ⟨cipher, collection, extracted, scripted, tabled, checked, ciphered, collects, scripts, given, tables, languages⟩
    have saves := (saveExtracted_turns_iff (given.in_order tables_first)).mpr ⟨tabled, tables, languages⟩
    exact ⟨(), checked, cipher, ciphered, collection, before, collects, (), scripted, scripts, extracted, scripted,
      ⟨given, rfl⟩, (), after, saves, rfl⟩

end Tablesmith
