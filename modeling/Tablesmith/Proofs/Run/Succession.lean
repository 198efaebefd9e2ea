import Mathlib
import Tablesmith.Proofs.Run.Replay
import Tablesmith.Proofs.Run.Rereading

/-!
# Runs one after the other

No run feeds another one: what a run leaves follows what it found, so that the next run
collects the same schemas. Hence a run that makes everything is the runs for each
product one after the other (`run_all_iff`), and a run that is repeated makes the same
edits again, which change nothing (`run_idempotent`).
-/

namespace Tablesmith

open Files Running Steps

variable {settings : Settings} {policy : OrphanPolicy} {order : WriteOrder} {product : Product}
  {cipher : Option DocumentCipher} {answer : String → Bool} {before after tree left : FileTree}

theorem Settings.check_ok_iff :
    settings.check product = .ok () ↔ ∀ setting ∈ product.required, ∃ value, settings.require setting = .ok value := by
  rw [Settings.check, Outcome.forM_ok_iff]
  refine forall₂_congr fun setting _ => ?_
  constructor
  · intro passed
    obtain ⟨value, required, _⟩ := Outcome.bind_ok_iff.mp passed
    exact ⟨value, required⟩
  · rintro ⟨value, required⟩
    exact Outcome.bind_ok_iff.mpr ⟨value, required, rfl⟩

/-- A run that makes everything needs what the runs for each product need. -/
theorem Settings.check_all_iff : settings.check .all = .ok () ↔
    settings.check .script = .ok () ∧ settings.check .table = .ok () ∧ settings.check .string = .ok () := by
  have needed : ∀ setting, setting ∈ Product.all.required ↔ setting ∈ Product.script.required ∨
      setting ∈ Product.table.required ∨ setting ∈ Product.string.required := by
    intro setting
    cases setting <;> decide
  simp only [Settings.check_ok_iff, needed, or_imp, forall_and]

/-- Without a product nothing is done for it. -/
theorem idle_turns_iff {done : Unit} :
    Turns answer (pure () : Running (StateM Session) Unit) before done after ↔ after = before := by
  rw [Turns.pure_iff]
  exact and_iff_right rfl

theorem run_script_turns_iff : Turns answer (run settings policy order .script) before () after ↔
    ∃ cipher collection, settings.check .script = .ok () ∧ settings.cipher = .ok cipher ∧
      Turns answer (Collection.ofSettings settings) before collection before ∧
      Turns answer (runScript settings collection) before () after := by
  have in_order : Product.script = .all → order = .tablesFirst := nofun
  rw [run_turns_iff in_order]
  constructor
  · rintro ⟨cipher, collection, extracted, scripted, tabled, checked, ciphered, collects, scripts, given, tables, languages⟩
    have no_tables : extracted.tables = none := given.tables
    have no_languages : extracted.languages = none := given.languages
    rw [no_tables] at tables
    rw [no_languages] at languages
    obtain rfl := idle_turns_iff.mp tables
    obtain rfl := idle_turns_iff.mp languages
    exact ⟨cipher, collection, checked, ciphered, collects, scripts⟩
  · rintro ⟨cipher, collection, checked, ciphered, collects, scripts⟩
    exact ⟨cipher, collection, ⟨none, none⟩, after, after, checked, ciphered, collects, scripts, ⟨rfl, rfl⟩,
      idle_turns_iff.mpr rfl, idle_turns_iff.mpr rfl⟩

theorem run_table_turns_iff : Turns answer (run settings policy order .table) before () after ↔
    ∃ cipher collection tables, settings.check .table = .ok () ∧ settings.cipher = .ok cipher ∧
      Turns answer (Collection.ofSettings settings) before collection before ∧
      ((Tables.extract collection.tables).run.run KeyCatalog.empty).1 = .ok tables ∧
      Turns answer (saveTables settings cipher policy (some tables)) before () after := by
  have in_order : Product.table = .all → order = .tablesFirst := nofun
  rw [run_turns_iff in_order]
  constructor
  · rintro ⟨cipher, collection, extracted, scripted, tabled, checked, ciphered, collects, scripts, given, saves, languages⟩
    obtain ⟨tables, some_tables, tables_ok⟩ : ∃ tables, extracted.tables = some tables ∧ _ := given.tables
    have no_languages : extracted.languages = none := given.languages
    rw [some_tables] at saves
    rw [no_languages] at languages
    obtain rfl := idle_turns_iff.mp scripts
    obtain rfl := idle_turns_iff.mp languages
    exact ⟨cipher, collection, tables, checked, ciphered, collects, tables_ok, saves⟩
  · rintro ⟨cipher, collection, tables, checked, ciphered, collects, tables_ok, saves⟩
    exact ⟨cipher, collection, ⟨some tables, none⟩, before, after, checked, ciphered, collects, idle_turns_iff.mpr rfl,
      ⟨⟨tables, rfl, tables_ok⟩, rfl⟩, saves, idle_turns_iff.mpr rfl⟩

theorem run_string_turns_iff : Turns answer (run settings policy order .string) before () after ↔
    ∃ cipher collection languages, settings.check .string = .ok () ∧ settings.cipher = .ok cipher ∧
      Turns answer (Collection.ofSettings settings) before collection before ∧
      Languages.extract collection.strings = .ok languages ∧
      Turns answer (saveLanguages settings cipher policy (some languages)) before () after := by
  have in_order : Product.string = .all → order = .tablesFirst := nofun
  rw [run_turns_iff in_order]
  constructor
  · rintro ⟨cipher, collection, extracted, scripted, tabled, checked, ciphered, collects, scripts, given, tables, saves⟩
    have no_tables : extracted.tables = none := given.tables
    obtain ⟨languages, some_languages, languages_ok⟩ : ∃ languages, extracted.languages = some languages ∧ _ := given.languages
    rw [no_tables] at tables
    rw [some_languages] at saves
    obtain rfl := idle_turns_iff.mp scripts
    obtain rfl := idle_turns_iff.mp tables
    exact ⟨cipher, collection, languages, checked, ciphered, collects, languages_ok, saves⟩
  · rintro ⟨cipher, collection, languages, checked, ciphered, collects, languages_ok, saves⟩
    exact ⟨cipher, collection, ⟨none, some languages⟩, before, before, checked, ciphered, collects, idle_turns_iff.mpr rfl,
      ⟨rfl, ⟨languages, rfl, languages_ok⟩⟩, idle_turns_iff.mpr rfl, saves⟩

theorem run_all_turns_iff : Turns answer (run settings policy .tablesFirst .all) before () after ↔
    ∃ cipher collection tables languages scripted tabled, settings.check .all = .ok () ∧ settings.cipher = .ok cipher ∧
      Turns answer (Collection.ofSettings settings) before collection before ∧
      ((Tables.extract collection.tables).run.run KeyCatalog.empty).1 = .ok tables ∧
      Languages.extract collection.strings = .ok languages ∧
      Turns answer (runScript settings collection) before () scripted ∧
      Turns answer (saveTables settings cipher policy (some tables)) scripted () tabled ∧
      Turns answer (saveLanguages settings cipher policy (some languages)) tabled () after := by
  have in_order : Product.all = .all → WriteOrder.tablesFirst = .tablesFirst := fun _ => rfl
  rw [run_turns_iff in_order]
  constructor
  · rintro ⟨cipher, collection, extracted, scripted, tabled, checked, ciphered, collects, scripts, given, tabulates, translates⟩
    obtain ⟨tables, some_tables, tables_ok⟩ : ∃ tables, extracted.tables = some tables ∧ _ := given.tables
    obtain ⟨languages, some_languages, languages_ok⟩ : ∃ languages, extracted.languages = some languages ∧ _ := given.languages
    rw [some_tables] at tabulates
    rw [some_languages] at translates
    exact ⟨cipher, collection, tables, languages, scripted, tabled, checked, ciphered, collects, tables_ok, languages_ok,
      scripts, tabulates, translates⟩
  · rintro ⟨cipher, collection, tables, languages, scripted, tabled, checked, ciphered, collects, tables_ok, languages_ok,
      scripts, tabulates, translates⟩
    exact ⟨cipher, collection, ⟨some tables, some languages⟩, scripted, tabled, checked, ciphered, collects, scripts,
      ⟨⟨tables, rfl, tables_ok⟩, ⟨languages, rfl, languages_ok⟩⟩, tabulates, translates⟩

/-- Neither code nor documents of tables change what is collected. -/
theorem collects_again {collection : Collection} {tables : Option Tables} {scripted tabled : FileTree}
    (builtin : settings.typeAliasPath = none) (names : tree.HasNames)
    (collects : Turns answer (Collection.ofSettings settings) tree collection tree)
    (scripts : Turns answer (runScript settings collection) tree () scripted)
    (tabulates : Turns answer (saveTables settings cipher policy tables) scripted () tabled) :
    Turns answer (Collection.ofSettings settings) scripted collection scripted ∧
      Turns answer (Collection.ofSettings settings) tabled collection tabled := by
  obtain ⟨_, code_replays, _⟩ := runScript_replays scripts
  have scripted_follows := code_replays.follows
  obtain ⟨_, tables_replays, _⟩ := saveTables_replays (scripted_follows.names names) tabulates
  have tabled_follows := scripted_follows.trans tables_replays.follows
  exact ⟨scripted_follows.collects builtin names collects, tabled_follows.collects builtin names collects⟩

/-- A run that makes everything is the runs for code, for tables and for languages one after the other: it comes to its
end if and only if they do, and leaves the same files. -/
theorem run_all_iff (builtin : settings.typeAliasPath = none) (names : tree.HasNames) :
    Turns answer (run settings policy .tablesFirst .all) tree () left ↔
      ∃ scripted tabled, Turns answer (run settings policy order .script) tree () scripted ∧
        Turns answer (run settings policy order .table) scripted () tabled ∧
        Turns answer (run settings policy order .string) tabled () left := by
  simp only [run_all_turns_iff, run_script_turns_iff, run_table_turns_iff, run_string_turns_iff, Settings.check_all_iff]
  constructor
  · rintro ⟨cipher, collection, tables, languages, scripted, tabled, ⟨script_checked, table_checked, string_checked⟩,
      ciphered, collects, tables_ok, languages_ok, scripts, tabulates, translates⟩
    obtain ⟨scripted_collects, tabled_collects⟩ := collects_again builtin names collects scripts tabulates
    exact ⟨scripted, tabled, ⟨cipher, collection, script_checked, ciphered, collects, scripts⟩,
      ⟨cipher, collection, tables, table_checked, ciphered, scripted_collects, tables_ok, tabulates⟩,
      ⟨cipher, collection, languages, string_checked, ciphered, tabled_collects, languages_ok, translates⟩⟩
  · rintro ⟨scripted, tabled, ⟨cipher, collection, script_checked, ciphered, collects, scripts⟩,
      ⟨table_cipher, found, tables, table_checked, table_ciphered, scripted_found, tables_ok, tabulates⟩,
      ⟨string_cipher, found_last, languages, string_checked, string_ciphered, tabled_found, languages_ok, translates⟩⟩
    cases ciphered.symm.trans table_ciphered
    cases ciphered.symm.trans string_ciphered
    obtain ⟨scripted_collects, tabled_collects⟩ := collects_again builtin names collects scripts tabulates
    obtain ⟨rfl, _⟩ := scripted_collects.deterministic scripted_found
    obtain ⟨rfl, _⟩ := tabled_collects.deterministic tabled_found
    exact ⟨cipher, collection, tables, languages, scripted, tabled, ⟨script_checked, table_checked, string_checked⟩,
      ciphered, collects, tables_ok, languages_ok, scripts, tabulates, translates⟩

/-- A run for everything that leaves the document of the sword is the three runs one after the other. -/
theorem run_all_sword : SwordRun.apart.typeAliasPath = none ∧ SwordRun.tree.HasNames ∧ ∃ left scripted tabled,
    Turns (fun _ => false) (run SwordRun.apart .delete .tablesFirst .all) SwordRun.tree () left ∧
      left.read "out/Item.json" = .ok (SwordRun.output.bytes none) ∧
      Turns (fun _ => false) (run SwordRun.apart .delete .tablesFirst .script) SwordRun.tree () scripted ∧
      Turns (fun _ => false) (run SwordRun.apart .delete .tablesFirst .table) scripted () tabled ∧
      Turns (fun _ => false) (run SwordRun.apart .delete .tablesFirst .string) tabled () left := by
  obtain ⟨last, ran, read⟩ : ∃ last, Ends (run SwordRun.apart .delete .tablesFirst .all) SwordRun.start () last ∧ _ :=
    SwordRun.ends_apart .delete rfl
  have turns : Turns (fun _ => false) (run SwordRun.apart .delete .tablesFirst .all) SwordRun.tree () last.tree :=
    ⟨last, ran, rfl⟩
  obtain ⟨scripted, tabled, parts⟩ := (run_all_iff rfl SwordRun.hasNames_tree).mp turns
  exact ⟨rfl, SwordRun.hasNames_tree, last.tree, scripted, tabled, turns, read, parts⟩

/-- A run that is repeated on the files that it left comes to its end, and every file and directory is as it was. -/
theorem run_idempotent (builtin : settings.typeAliasPath = none) (names : tree.HasNames)
    (tables_first : product = .all → order = .tablesFirst) (ran : Turns answer (run settings policy order product) tree () left) :
    ∃ again, Turns answer (run settings policy order product) left () again ∧ again.home = left.home ∧
      ∀ route, again.entry? route = left.entry? route := by
  obtain ⟨cipher, collection, extracted, scripted, tabled, checked, ciphered, collects, scripts, given, tabulates,
    translates⟩ := (run_turns_iff tables_first).mp ran
  obtain ⟨code, code_replays, only_code⟩ := script_replays scripts
  have scripted_names := code_replays.amends.names names
  obtain ⟨tabulation, tables_replays, spares_code⟩ := saveTables_replays scripted_names tabulates
  obtain ⟨translation, languages_replays, still_files⟩ := saveLanguages_replays (tables_replays.amends.names scripted_names) translates
  -- Every file that was written was there when directories were made, so no directory is in the way of it.
  have code_fits : code.Fits left := by
    intro place content puts
    obtain ⟨parent, rfl⟩ := only_code place (by simp [puts])
    apply still_files
    rw [tables_replays.amends.content_of_none (spares_code parent), code_replays.amends.content_of_some puts]
    exact Option.some_ne_none content
  have tabulation_fits : tabulation.Fits left := by
    intro place content puts
    apply still_files
    rw [tables_replays.amends.content_of_some puts]
    exact Option.some_ne_none content
  have tabled_left := languages_replays.follows
  have scripted_left := tables_replays.follows.trans tabled_left
  have tree_left := code_replays.follows.trans scripted_left
  -- The parts make their edits again, each on the tree that the one before leaves.
  obtain ⟨rescripted, scripts_again, code_again, rescripted_same⟩ := code_replays.again left tree_left trivial code_fits
  have left_rescripted := Follows.of_amends code_again code_replays.output
  obtain ⟨retabled, tabulates_again, tabulation_again, retabled_same⟩ := tables_replays.again rescripted
    (scripted_left.trans left_rescripted) trivial (tabulation_fits.of_sameDirectories rescripted_same)
  have same := rescripted_same.trans retabled_same
  have left_retabled := left_rescripted.trans (.of_amends tabulation_again tables_replays.output)
  obtain ⟨again, translates_again, translation_again, again_same⟩ := languages_replays.again retabled
    (tabled_left.trans left_retabled) same (languages_replays.amends.fits.of_sameDirectories same)
  have all_same := same.trans again_same
  refine ⟨again, (run_turns_iff tables_first).mpr ⟨cipher, collection, extracted, rescripted, retabled, checked, ciphered,
    tree_left.collects builtin names collects, scripts_again, given, tabulates_again, translates_again⟩, all_same.home, ?_⟩
  intro route
  have first := (code_replays.amends.trans tables_replays.amends).trans languages_replays.amends
  have second := (code_again.trans tabulation_again).trans translation_again
  exact FileTree.entry?_eq_of (all_same.directory route) (first.again second route)

/-- A run that writes the document of the sword can be repeated. -/
theorem run_idempotent_sword : SwordRun.apart.typeAliasPath = none ∧ SwordRun.tree.HasNames ∧ ∃ left again,
    Turns (fun _ => false) (run SwordRun.apart .delete .tablesFirst .all) SwordRun.tree () left ∧
      left.read "out/Item.json" = .ok (SwordRun.output.bytes none) ∧
      Turns (fun _ => false) (run SwordRun.apart .delete .tablesFirst .all) left () again ∧ again.home = left.home ∧
      ∀ route, again.entry? route = left.entry? route := by
  obtain ⟨last, ran, read⟩ : ∃ last, Ends (run SwordRun.apart .delete .tablesFirst .all) SwordRun.start () last ∧ _ :=
    SwordRun.ends_apart .delete rfl
  have turns : Turns (fun _ => false) (run SwordRun.apart .delete .tablesFirst .all) SwordRun.tree () last.tree :=
    ⟨last, ran, rfl⟩
  obtain ⟨again, repeated, unchanged⟩ := run_idempotent rfl SwordRun.hasNames_tree (fun _ => rfl) turns
  exact ⟨rfl, SwordRun.hasNames_tree, last.tree, again, turns, read, repeated, unchanged⟩

end Tablesmith
