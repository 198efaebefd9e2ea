import Mathlib
import Tablesmith.Files.Session
import Tablesmith.Proofs.Run.Parts
import Tablesmith.Run.Basic

/-!
# Two runs side by side

The parts of a run are written for any workspace. Two workspaces whose states belong
together are kept together by every part whose operations keep them together
(`InStep`). A run reads and writes code in a first half and saves documents in a
second one; the halves are treated apart, since a relation that bears the one need
not bear the other (`ReadsAlike`, `SavesAlike`). A session beside another one with the
same tree shows what it is to read only (`OnlyReads`). A recording is a session together
with the changes that were made to its files, in order; a run on it does what it does on
the session alone (`run_recorded`).
-/

namespace Tablesmith

open Files Running

variable {σ τ α β : Type}

/-- From states that belong together both steps give the same and leave states that belong together. -/
def Lockstep (related : σ → τ → Prop) (step : StateM σ α) (other : StateM τ α) : Prop :=
  ∀ state twin, related state twin →
    (step.run state).1 = (other.run twin).1 ∧ related (step.run state).2 (other.run twin).2

/-- The parts give the same, or stop for the same reason, and keep the states together. -/
abbrev InStep (related : σ → τ → Prop) (part : Running (StateM σ) α) (other : Running (StateM τ) α) : Prop :=
  Lockstep related part.run other.run

variable {related : σ → τ → Prop}

theorem Lockstep.bind {step : StateM σ α} {other : StateM τ α} {next : α → StateM σ β} {other_next : α → StateM τ β}
    (first : Lockstep related step other) (rest : ∀ value, Lockstep related (next value) (other_next value)) :
    Lockstep related (step >>= next) (other >>= other_next) := by
  intro state twin together
  obtain ⟨same, left⟩ := first state twin together
  have continued := rest (other.run twin).1 _ _ left
  rw [StateT.run_bind, StateT.run_bind]
  show (((next (step.run state).1).run (step.run state).2).1 = _) ∧ related ((next (step.run state).1).run _).2 _
  rw [same]
  exact continued

theorem Lockstep.pure (value : α) : Lockstep related (pure value) (pure value) := by
  intro state twin together
  exact ⟨rfl, together⟩

theorem Lockstep.map {step : StateM σ α} {other : StateM τ α} (change : α → β) (first : Lockstep related step other) :
    Lockstep related (change <$> step) (change <$> other) := by
  intro state twin together
  obtain ⟨same, left⟩ := first state twin together
  exact ⟨congrArg change same, left⟩

namespace InStep

theorem pure (value : α) : InStep related (pure value) (pure value) :=
  Lockstep.pure (Except.ok value)

theorem throw (reason : Failure) :
    InStep related (throw reason : Running (StateM σ) α) (throw reason : Running (StateM τ) α) :=
  Lockstep.pure (Except.error reason)

theorem lift {step : StateM σ α} {other : StateM τ α} (stepped : Lockstep related step other) :
    InStep related (liftM step) (liftM other) :=
  stepped.map Except.ok

theorem ofResult {ε : Type} (reason : ε → Failure) (result : Except ε α) :
    InStep related (Running.ofResult reason result) (Running.ofResult reason result) :=
  Lockstep.pure (result.mapError reason)

theorem ofFile {operation : StateM σ (Except FileError α)} {other : StateM τ (Except FileError α)}
    (stepped : Lockstep related operation other) : InStep related (Running.ofFile operation) (Running.ofFile other) :=
  stepped.map _

theorem withFile {part : Running (StateM σ) α} {other : Running (StateM τ) α} (path : String)
    (parts : InStep related part other) : InStep related (Running.withFile path part) (Running.withFile path other) :=
  parts.map _

/-- States that are together after a first part may be kept together by the rest for another reason. -/
theorem andThen {after : σ → τ → Prop} {part : Running (StateM σ) α} {other : Running (StateM τ) α}
    {next : α → Running (StateM σ) β} {other_next : α → Running (StateM τ) β} (first : InStep related part other)
    (weaker : ∀ state twin, related state twin → after state twin)
    (rest : ∀ value, InStep after (next value) (other_next value)) {state : σ} {twin : τ} (together : related state twin) :
    ((part >>= next).run.run state).1 = ((other >>= other_next).run.run twin).1 ∧
      after ((part >>= next).run.run state).2 ((other >>= other_next).run.run twin).2 := by
  obtain ⟨same, left⟩ := first state twin together
  rw [Steps.run_bind, Steps.run_bind]
  generalize part.run.run state = ended at same left ⊢
  generalize other.run.run twin = other_ended at same left ⊢
  obtain ⟨outcome, reached⟩ := ended
  obtain ⟨other_outcome, other_reached⟩ := other_ended
  cases same
  cases outcome with
  | error reason => exact ⟨rfl, weaker reached other_reached left⟩
  | ok value => exact rest value reached other_reached (weaker reached other_reached left)

theorem bind {part : Running (StateM σ) α} {other : Running (StateM τ) α} {next : α → Running (StateM σ) β}
    {other_next : α → Running (StateM τ) β} (first : InStep related part other)
    (rest : ∀ value, InStep related (next value) (other_next value)) :
    InStep related (part >>= next) (other >>= other_next) :=
  fun _ _ together => first.andThen (fun _ _ left => left) rest together

theorem forM {step : α → Running (StateM σ) Unit} {other : α → Running (StateM τ) Unit}
    (steps : ∀ item, InStep related (step item) (other item)) (items : List α) :
    InStep related (items.forM step) (items.forM other) := by
  induction items with
  | nil => exact pure ()
  | cons item items ih => exact (steps item).bind fun _ => ih

theorem foldlM {step : β → α → Running (StateM σ) β} {other : β → α → Running (StateM τ) β}
    (steps : ∀ value item, InStep related (step value item) (other value item)) (items : List α) (value : β) :
    InStep related (items.foldlM step value) (items.foldlM other value) := by
  induction items generalizing value with
  | nil => exact pure value
  | cons item items ih => exact (steps value item).bind ih

theorem filterAuxM {step : α → Running (StateM σ) Bool} {other : α → Running (StateM τ) Bool}
    (steps : ∀ item, InStep related (step item) (other item)) (items kept : List α) :
    InStep related (items.filterAuxM step kept) (items.filterAuxM other kept) := by
  induction items generalizing kept with
  | nil => exact pure kept
  | cons item items ih => exact (steps item).bind fun _ => ih _

theorem filterM {step : α → Running (StateM σ) Bool} {other : α → Running (StateM τ) Bool}
    (steps : ∀ item, InStep related (step item) (other item)) (items : List α) :
    InStep related (items.filterM step) (items.filterM other) :=
  (filterAuxM steps items []).bind fun _ => pure _

theorem both {order : WriteOrder} {main second : Running (StateM σ) Unit} {other other_second : Running (StateM τ) Unit}
    (first : InStep related main other) (next : InStep related second other_second) :
    InStep related (both order main second) (both order other other_second) := by
  cases order with
  | tablesFirst =>
    apply Lockstep.bind first
    intro outcome
    exact Lockstep.bind next fun _ => Lockstep.pure _
  | languagesFirst =>
    apply Lockstep.bind next
    intro outcome
    exact Lockstep.bind first fun _ => Lockstep.pure _

end InStep

variable [Workspace (StateM σ)] [Workspace (StateM τ)]

theorem InStep.tell (tells : ∀ report, Lockstep related (Workspace.tell report) (Workspace.tell report))
    (report : Report) : InStep related (Running.tell report) (Running.tell report) :=
  InStep.lift (tells report)

/-- Whatever is done while documents are saved, other than writing them, keeps the states together. -/
structure SavesAlike (related : σ → τ → Prop) : Prop where
  isDirectory : ∀ path, Lockstep related (Workspace.isDirectory path) (Workspace.isDirectory path)
  filesIn : ∀ path, Lockstep related (Workspace.filesIn path) (Workspace.filesIn path)
  removeFile : ∀ path, Lockstep related (Workspace.removeFile path) (Workspace.removeFile path)
  makeDirectories : ∀ path, Lockstep related (Workspace.makeDirectories path) (Workspace.makeDirectories path)
  tell : ∀ report, Lockstep related (Workspace.tell report) (Workspace.tell report)
  mayDelete : ∀ path, Lockstep related (Workspace.mayDelete path) (Workspace.mayDelete path)

/-- Writing the same documents under two ciphers keeps the states together. -/
def WritesAlike (related : σ → τ → Prop) (cipher other : Option DocumentCipher) : Prop :=
  ∀ (directory : String) (output : Output),
    Lockstep related (Workspace.writeText (output.path directory) (renderDocument output.content cipher))
      (Workspace.writeText (output.path directory) (renderDocument output.content other))

namespace SavesAlike

variable {cipher other : Option DocumentCipher}

theorem needDirectory (saves : SavesAlike related) (directory : String) :
    InStep related (needDirectory directory) (needDirectory directory) := by
  apply (InStep.lift (saves.isDirectory directory)).bind
  intro present
  cases present with
  | true => exact InStep.pure ()
  | false => exact InStep.throw _

theorem findOrphans (saves : SavesAlike related) (directory : String) (active : List String) :
    InStep related (findOrphans directory active) (findOrphans directory active) := by
  unfold Tablesmith.findOrphans
  cases Path.listing? directory with
  | none => exact InStep.pure []
  | some base =>
    apply (InStep.lift (saves.isDirectory base)).bind
    intro present
    cases present with
    | true => exact (InStep.ofFile (saves.filesIn base)).bind fun names => InStep.pure _
    | false => exact InStep.pure []

theorem resolveOrphan (saves : SavesAlike related) (policy : OrphanPolicy) (path : String) :
    InStep related (resolveOrphan policy path) (resolveOrphan policy path) := by
  have deletes : Lockstep related (policy.deletes path) (policy.deletes path) := by
    cases policy with
    | keep => exact Lockstep.pure false
    | delete => exact Lockstep.pure true
    | ask => exact saves.mayDelete path
  apply (InStep.lift deletes).bind
  intro deleted
  cases deleted with
  | true =>
    apply (InStep.ofFile (saves.removeFile path)).bind
    intro _
    exact (InStep.tell saves.tell _).bind fun _ => InStep.pure true
  | false => exact (InStep.tell saves.tell _).bind fun _ => InStep.pure false

theorem resolveOrphans (saves : SavesAlike related) (directory : String) (active : List String) (policy : OrphanPolicy) :
    InStep related (resolveOrphans directory active policy) (resolveOrphans directory active policy) :=
  (saves.findOrphans directory active).bind (InStep.filterM (saves.resolveOrphan policy))

theorem save (saves : SavesAlike related) (writes : WritesAlike related cipher other) (directory : String)
    (output : Output) : InStep related (output.save directory cipher) (output.save directory other) :=
  (InStep.ofFile (writes directory output)).bind fun _ => InStep.tell saves.tell _

theorem saveOutputs (saves : SavesAlike related) (writes : WritesAlike related cipher other) (directory : String)
    (policy : OrphanPolicy) (outputs : List Output) :
    InStep related (saveOutputs directory cipher policy outputs) (saveOutputs directory other policy outputs) :=
  (saves.resolveOrphans directory _ policy).bind fun _ => InStep.forM (saves.save writes directory) outputs

theorem saveTables (saves : SavesAlike related) (writes : WritesAlike related cipher other) (settings : Settings)
    (policy : OrphanPolicy) (tables : Option Tables) :
    InStep related (saveTables settings cipher policy tables) (saveTables settings other policy tables) := by
  cases tables with
  | none => exact InStep.pure ()
  | some tables =>
    apply (InStep.ofResult _ _).bind
    intro directory
    apply (InStep.tell saves.tell _).bind
    intro _
    exact (saves.needDirectory directory).bind fun _ => saves.saveOutputs writes directory policy _

theorem saveLanguages (saves : SavesAlike related) (writes : WritesAlike related cipher other) (settings : Settings)
    (policy : OrphanPolicy) (languages : Option Languages) :
    InStep related (saveLanguages settings cipher policy languages) (saveLanguages settings other policy languages) := by
  cases languages with
  | none => exact InStep.pure ()
  | some languages =>
    apply (InStep.ofResult _ _).bind
    intro directory
    apply (InStep.tell saves.tell _).bind
    intro _
    exact (InStep.ofFile (saves.makeDirectories directory)).bind fun _ => saves.saveOutputs writes directory policy _

/-- Documents are saved alike: what else is done does not look at their content. -/
theorem saveExtracted (saves : SavesAlike related) (writes : WritesAlike related cipher other) (settings : Settings)
    (policy : OrphanPolicy) (order : WriteOrder) (extracted : Extracted) :
    InStep related (saveExtracted settings cipher policy order extracted)
      (saveExtracted settings other policy order extracted) :=
  InStep.both (saves.saveTables writes settings policy _) (saves.saveLanguages writes settings policy _)

end SavesAlike

/-- Looking at the files and telling keeps the states together. -/
structure ReadsAlike (related : σ → τ → Prop) : Prop where
  isDirectory : ∀ path, Lockstep related (Workspace.isDirectory path) (Workspace.isDirectory path)
  isPresent : ∀ path, Lockstep related (Workspace.isPresent path) (Workspace.isPresent path)
  readBytes : ∀ path, Lockstep related (Workspace.readBytes path) (Workspace.readBytes path)
  filesBelow : ∀ path, Lockstep related (Workspace.filesBelow path) (Workspace.filesBelow path)
  tell : ∀ report, Lockstep related (Workspace.tell report) (Workspace.tell report)

namespace ReadsAlike

theorem aliases (reads : ReadsAlike related) (settings : Settings) : InStep related settings.aliases settings.aliases := by
  have texts (path : String) : InStep related (readText path) (readText path) := by
    apply (InStep.ofFile (reads.readBytes path)).bind
    intro bytes
    cases String.fromUTF8? bytes with
    | none => exact InStep.throw _
    | some text => exact InStep.pure text
  unfold Settings.aliases
  cases settings.typeAliasPath with
  | none => exact InStep.pure _
  | some path =>
    apply (InStep.lift (reads.isPresent path)).bind
    intro present
    cases present with
    | false => exact InStep.pure _
    | true =>
      apply (texts path).bind
      intro text
      cases TypeAliases.itemsOfText? text with
      | none => exact InStep.throw _
      | some items => exact InStep.ofResult _ _

theorem findWorkbooks (reads : ReadsAlike related) (directory : String) :
    InStep related (findWorkbooks directory) (findWorkbooks directory) := by
  have below : InStep related (workbooksBelow directory) (workbooksBelow directory) := by
    unfold workbooksBelow
    cases Path.listing? directory with
    | none => exact InStep.pure []
    | some base => exact (InStep.ofFile (reads.filesBelow base)).bind fun routes => InStep.pure _
  apply (InStep.lift (reads.isDirectory directory)).bind
  intro present
  cases present with
  | false => exact InStep.throw _
  | true =>
    apply below.bind
    intro paths
    cases paths with
    | nil => exact InStep.throw _
    | cons path paths => exact InStep.pure _

theorem addPath (reads : ReadsAlike related) (settings : Settings) (aliases : TypeAliases) (collection : Collection)
    (path : String) :
    InStep related (Collection.addPath settings aliases collection path)
      (Collection.addPath settings aliases collection path) := by
  have opens : InStep related (Collection.openWorkbook path) (Collection.openWorkbook path) := by
    apply InStep.withFile
    exact (InStep.ofFile (reads.readBytes path)).bind fun content => InStep.ofResult _ _
  have discovers : InStep related (Collection.readWorkbook aliases path) (Collection.readWorkbook aliases path) := by
    apply opens.bind
    intro workbook
    exact (InStep.forM (InStep.tell reads.tell) _).bind fun _ => InStep.ofResult _ _
  unfold Collection.addPath
  by_cases skipped : settings.enumFileName = some (Path.stem path)
  · simp only [skipped, ↓reduceIte]
    exact (InStep.tell reads.tell _).bind fun _ => InStep.pure collection
  · simp only [skipped, ↓reduceIte]
    exact discovers.bind fun schemas => InStep.pure _

theorem collect (reads : ReadsAlike related) (settings : Settings) :
    InStep related (Collection.ofSettings settings) (Collection.ofSettings settings) := by
  apply (InStep.ofResult _ _).bind
  intro directory
  apply (reads.aliases settings).bind
  intro aliases
  apply (reads.findWorkbooks directory).bind
  intro paths
  have told : InStep related (Collection.tellPaths paths) (Collection.tellPaths paths) := by
    apply (InStep.tell reads.tell _).bind
    intro _
    exact (InStep.forM (fun _ => InStep.tell reads.tell _) paths).bind fun _ => InStep.tell reads.tell _
  exact told.bind fun _ => InStep.foldlM (reads.addPath settings aliases) paths Collection.empty

theorem extracts (reads : ReadsAlike related) (product : Product) (collection : Collection) :
    InStep related (extract product collection) (extract product collection) := by
  have tables : InStep related (extractTables collection) (extractTables collection) := by
    apply (InStep.ofResult _ _).bind
    intro tables
    exact (InStep.tell reads.tell _).bind fun _ => InStep.pure tables
  have languages : InStep related (extractLanguages collection) (extractLanguages collection) := by
    rw [extractLanguages_eq, extractLanguages_eq]
    apply InStep.bind (α := Unit)
    · cases collection.strings.isEmpty with
      | true => exact InStep.tell reads.tell _
      | false => exact InStep.pure ()
    intro _
    apply (InStep.ofResult _ _).bind
    intro languages
    exact (InStep.tell reads.tell _).bind fun _ => InStep.pure languages
  rw [extract_eq, extract_eq]
  apply InStep.bind (α := Option Tables)
  · cases product.hasTables with
    | true => exact tables.bind fun tables => InStep.pure (some tables)
    | false => exact InStep.pure none
  intro found
  apply InStep.bind (α := Option Languages)
  · cases product.hasStrings with
    | true => exact languages.bind fun languages => InStep.pure (some languages)
    | false => exact InStep.pure none
  intro texts
  exact InStep.pure _

end ReadsAlike

/-- The part of a run between its checks and its documents. -/
def gather {m : Type → Type} [Monad m] [Workspace m] (settings : Settings) (product : Product) : Running m Extracted := do
  let collection ← Collection.ofSettings settings
  let _ ← (if product.hasScript then runScript settings collection else pure ())
  extract product collection

theorem run_eq_gather {m : Type → Type} [Monad m] [LawfulMonad m] [Workspace m] (settings : Settings)
    (policy : OrphanPolicy) (order : WriteOrder) (product : Product) :
    (run settings policy order product : Running m Unit) = (do
      Running.tell (.info ("Starting " ++ product.name ++ " extraction"))
      ofResult .missingSetting (settings.check product)
      let cipher ← ofResult .cipher settings.cipher
      let extracted ← gather settings product
      saveExtracted settings cipher policy order extracted
      Running.tell (.success ("Completed " ++ product.name ++ " extraction"))) := by
  rw [run_eq]
  simp [gather]

/-- Whatever a run does besides writing documents keeps the states together. -/
structure RunsAlike (related : σ → τ → Prop) : Prop extends SavesAlike related, ReadsAlike related where
  writeCode : ∀ directory text, Lockstep related (Workspace.writeText (Path.join directory Accessor.fileName) text)
    (Workspace.writeText (Path.join directory Accessor.fileName) text)

namespace RunsAlike

theorem script (runs : RunsAlike related) (settings : Settings) (collection : Collection) :
    InStep related (runScript settings collection) (runScript settings collection) := by
  apply (InStep.ofResult _ _).bind
  intro directory
  have saved : InStep related (saveCode collection.tables directory) (saveCode collection.tables directory) := by
    apply (runs.needDirectory directory).bind
    intro _
    exact (InStep.ofFile (runs.writeCode directory _)).bind fun _ => InStep.pure _
  exact saved.bind fun _ => InStep.tell runs.toSavesAlike.tell _

theorem gathers (runs : RunsAlike related) (settings : Settings) (product : Product) :
    InStep related (gather settings product) (gather settings product) := by
  apply (runs.toReadsAlike.collect settings).bind
  intro collection
  apply InStep.bind (α := Unit)
  · cases product.hasScript with
    | true => exact runs.script settings collection
    | false => exact InStep.pure ()
  intro _
  exact runs.toReadsAlike.extracts product collection

/-- A run that writes its documents alike does all of its parts alike. -/
theorem run (runs : RunsAlike related) (writes : ∀ cipher, WritesAlike related cipher cipher) (settings : Settings)
    (policy : OrphanPolicy) (order : WriteOrder) (product : Product) :
    InStep related (run settings policy order product) (run settings policy order product) := by
  rw [run_eq_gather, run_eq_gather]
  apply (InStep.tell runs.toSavesAlike.tell _).bind
  intro _
  apply (InStep.ofResult _ _).bind
  intro _
  apply (InStep.ofResult _ _).bind
  intro cipher
  apply (runs.gathers settings product).bind
  intro extracted
  apply (runs.saveExtracted (writes cipher) settings policy order extracted).bind
  intro _
  exact InStep.tell runs.toSavesAlike.tell _

end RunsAlike

/-- The sessions have the tree of the third, and the user was asked no more in the first. -/
structure SameTree (start session twin : Session) : Prop where
  tree : session.tree = start.tree
  twin_tree : twin.tree = start.tree
  asked : session.asked = start.asked
  answer : session.answer = start.answer

/-- The part leaves the tree as it was, asks nothing, and gives the same wherever the tree is the same. -/
def OnlyReads (part : Running (StateM Session) α) : Prop :=
  ∀ start, InStep (SameTree start) part part

namespace OnlyReads

theorem unchanged {part : Running (StateM Session) α} {session last : Session} {outcome : Except Failure α}
    (reads : OnlyReads part) (ran : part.run.run session = (outcome, last)) :
    last.tree = session.tree ∧ last.asked = session.asked ∧ last.answer = session.answer ∧
      ∀ other : Session, other.tree = session.tree → (part.run.run other).1 = outcome := by
  -- beside itself the run shows what it leaves, and beside another session what it gives there
  have itself := (reads session session session ⟨rfl, rfl, rfl, rfl⟩).2
  rw [ran] at itself
  refine ⟨itself.tree, itself.asked, itself.answer, ?_⟩
  intro other same
  have twin := (reads session session other ⟨rfl, same, rfl, rfl⟩).1
  rw [ran] at twin
  exact twin.symm

theorem tree_eq {part : Running (StateM Session) α} {session last : Session} {outcome : Except Failure α}
    (reads : OnlyReads part) (ran : part.run.run session = (outcome, last)) : last.tree = session.tree :=
  (reads.unchanged ran).1

theorem readsAlike (start : Session) : ReadsAlike (SameTree start) := by
  have looks {β : Type} (query : FileTree → β) :
      Lockstep (SameTree start) (Session.look query) (Session.look query) := by
    intro session twin same
    exact ⟨congrArg query (same.tree.trans same.twin_tree.symm), same⟩
  constructor
  case tell =>
    intro report session twin same
    exact ⟨rfl, same.tree, same.twin_tree, same.asked, same.answer⟩
  all_goals exact fun path => looks _

theorem tell (report : Report) : OnlyReads (Running.tell report) :=
  fun start => InStep.tell (readsAlike start).tell report

theorem ofResult {ε : Type} (reason : ε → Failure) (result : Except ε α) : OnlyReads (Running.ofResult reason result) :=
  fun _ => InStep.ofResult reason result

theorem collect (settings : Settings) : OnlyReads (Collection.ofSettings settings) :=
  fun start => (readsAlike start).collect settings

theorem extract (product : Product) (collection : Collection) : OnlyReads (extract product collection) :=
  fun start => (readsAlike start).extracts product collection

end OnlyReads

/-- What was done to the files, each by the path under which it was done. -/
inductive Change
  | written (path text : String)
  | removed (path : String)
  | made (path : String)
deriving DecidableEq

/-- A session and the changes to its files so far. -/
structure Recording where
  session : Session
  changes : List Change

namespace Recording

/-- Nothing has been changed so far. -/
def start (session : Session) : Recording :=
  ⟨session, []⟩

/-- Does something in the session that changes no file. -/
def observe (step : StateM Session α) : StateM Recording α :=
  fun recording => ((step.run recording.session).1, ⟨(step.run recording.session).2, recording.changes⟩)

/-- Does something in the session and notes it down, unless it fails. -/
def note (change : Change) (step : StateM Session (Except FileError Unit)) :
    StateM Recording (Except FileError Unit) :=
  fun recording =>
    match step.run recording.session with
    | (.ok (), session) => (.ok (), ⟨session, recording.changes ++ [change]⟩)
    | (.error error, session) => (.error error, ⟨session, recording.changes⟩)

end Recording

instance : Workspace (StateM Recording) where
  isDirectory path := Recording.observe (Workspace.isDirectory path)
  isPresent path := Recording.observe (Workspace.isPresent path)
  readBytes path := Recording.observe (Workspace.readBytes path)
  writeText path text := Recording.note (.written path text) (Workspace.writeText path text)
  removeFile path := Recording.note (.removed path) (Workspace.removeFile path)
  makeDirectories path := Recording.note (.made path) (Workspace.makeDirectories path)
  filesIn path := Recording.observe (Workspace.filesIn path)
  filesBelow path := Recording.observe (Workspace.filesBelow path)
  tell report := Recording.observe (Workspace.tell report)
  mayDelete path := Recording.observe (Workspace.mayDelete path)

namespace Recording

theorem lockstep_observe (step : StateM Session α) :
    Lockstep (fun recording session => recording.session = session) (observe step) step := by
  rintro recording session rfl
  exact ⟨rfl, rfl⟩

theorem lockstep_note (change : Change) (step : StateM Session (Except FileError Unit)) :
    Lockstep (fun recording session => recording.session = session) (note change step) step := by
  rintro recording session rfl
  rw [StateT.run, note]
  rcases step.run recording.session with ⟨_ | _, _⟩ <;> exact ⟨rfl, rfl⟩

end Recording

/-- A run with a record: how it ends, and what it leaves. -/
def recorded (settings : Settings) (policy : OrphanPolicy) (order : WriteOrder) (product : Product) (session : Session) :
    Except Failure Unit × Recording :=
  (run settings policy order product : Running (StateM Recording) Unit).run.run (Recording.start session)

/-- The record changes nothing about a run. -/
theorem run_recorded (settings : Settings) (policy : OrphanPolicy) (order : WriteOrder) (product : Product)
    (session : Session) : (run settings policy order product : Running (StateM Session) Unit).run.run session =
      ((recorded settings policy order product session).1, (recorded settings policy order product session).2.session) := by
  have runs : RunsAlike fun (recording : Recording) (session : Session) => recording.session = session := by
    constructor
    case toSavesAlike =>
      constructor
      case removeFile => exact fun path => Recording.lockstep_note _ _
      case makeDirectories => exact fun path => Recording.lockstep_note _ _
      all_goals exact fun _ => Recording.lockstep_observe _
    case writeCode => exact fun directory text => Recording.lockstep_note _ _
    all_goals exact fun path => Recording.lockstep_observe _
  have alike := runs.run (fun cipher directory output => Recording.lockstep_note _ _) settings policy order product
  obtain ⟨same, left⟩ := alike (Recording.start session) session rfl
  exact Prod.ext same.symm left.symm

end Tablesmith
