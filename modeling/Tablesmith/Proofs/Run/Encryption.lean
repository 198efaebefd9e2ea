import Mathlib
import Tablesmith.CommandLine.Perform
import Tablesmith.Proofs.Cipher.Documents
import Tablesmith.Proofs.Run.Concealment
import Tablesmith.Proofs.Run.Documents

/-!
# Runs with a key

A key changes the text of documents and nothing else (`run_encrypts_documents_alone`).
Until documents are saved a run does not use the key at all, so two runs of which one
has a key are one and the same up to there. From then on they differ in what the key
conceals.
-/

namespace Tablesmith

open Files Running Steps

variable {cipher : DocumentCipher} {other : FileTree} {path : String}

/-- A run up to where documents are saved. -/
def prepare {m : Type → Type} [Monad m] [Workspace m] (settings : Settings) (product : Product) : Running m Extracted := do
  Running.tell (.info ("Starting " ++ product.name ++ " extraction"))
  ofResult .missingSetting (settings.check product)
  gather settings product

theorem run_eq_prepare {m : Type → Type} [Monad m] [LawfulMonad m] [Workspace m] {settings : Settings}
    {cipher : Option DocumentCipher} (ciphered : settings.cipher = .ok cipher) (policy : OrphanPolicy) (order : WriteOrder)
    (product : Product) : (run settings policy order product : Running m Unit) = (do
      let extracted ← prepare settings product
      saveExtracted settings cipher policy order extracted
      Running.tell (.success ("Completed " ++ product.name ++ " extraction"))) := by
  have known : (ofResult .cipher (.ok cipher) : Running m (Option DocumentCipher)) = pure cipher := rfl
  rw [run_eq_gather, ciphered, known]
  simp [prepare]

theorem inStep_prepare (settings : Settings) (product : Product) :
    InStep Untouched (prepare settings product) (prepare settings product) := by
  apply (InStep.tell runsAlike_untouched.toSavesAlike.tell _).bind
  intro _
  apply (InStep.ofResult _ _).bind
  intro _
  exact runsAlike_untouched.gathers settings product

/-- The settings with a key. -/
def Settings.keyed (settings : Settings) (key : String) : Settings :=
  { settings with encryptionKey := some key }

theorem prepare_keyed (settings : Settings) (key : String) (product : Product) :
    (prepare (settings.keyed key) product : Running (StateM Recording) Extracted) = prepare settings product := by
  -- the key is none of the settings that a product requires, which only shows product by product
  cases product <;> rfl

section

open CommandLine

variable {session : Session} {key output encrypted text : String}

theorem complaining_ends {α : Type} {part : Running (StateM Session) α} {value : α} {last : Session}
    (ran : Ends part session value last) (complaint : String) :
    (complaining complaint part : Performing (StateM Session) α).run.run session = (.ok value, last) := by
  have mapped : (complaining complaint part : Performing (StateM Session) α).run.run session =
    ((part.run.run session).1.mapError fun _ => complaint, (part.run.run session).2) := rfl
  rw [mapped, ran]
  rfl

/-- An encrypted document is decrypted into a file. -/
theorem perform_decrypt (accepted : DocumentCipher.ofPassphrase key = .ok cipher)
    (read : session.tree.read path = .ok encrypted.toUTF8) (decrypted : cipher.decrypt encrypted = .ok text)
    (written : session.tree.write output text.toUTF8 = .ok other) :
    (Invocation.perform ⟨none, .decrypt path (some key) (some output)⟩ : Performing (StateM Session) String).run.run session =
      (.ok "", { session with tree := other }) := by
  have keyed : (plainly (ofResult .cipher (DocumentCipher.ofPassphrase key)) :
      Performing (StateM Session) DocumentCipher).run.run session = (.ok cipher, session) := by
    rw [accepted]
    rfl
  have taken : Ends (readText path) session encrypted session := readText_ends_iff.mpr ⟨read, rfl⟩
  have opened : Ends (ofResult .cipher (cipher.decrypt encrypted)) session text session := ofResult_ok_iff.mpr ⟨decrypted, rfl⟩
  have saved : Ends (ofFile (Workspace.writeText output text)) session () { session with tree := other } :=
    ofFile_change_ok_iff.mpr ⟨other, written, rfl⟩
  apply bind_ok_iff.mpr ⟨Settings.empty, session, rfl, _⟩
  apply bind_ok_iff.mpr ⟨cipher, session, keyed, _⟩
  apply bind_ok_iff.mpr ⟨encrypted, session, complaining_ends taken _, _⟩
  apply bind_ok_iff.mpr ⟨text, session, complaining_ends opened _, _⟩
  exact bind_ok_iff.mpr ⟨(), _, complaining_ends saved _, rfl⟩

end

/-- What a run with a key did where a run without did something: the same, but a document that it wrote is decrypted to the
    document that was written without the key. -/
inductive Change.Decrypts (cipher : DocumentCipher) : Change → Change → Prop
  | document {path coded text : String} : IsDocument path → cipher.decrypt coded = .ok text →
      Decrypts cipher (.written path coded) (.written path text)
  | file {path text : String} : ¬ IsDocument path → Decrypts cipher (.written path text) (.written path text)
  | removed (path : String) : Decrypts cipher (.removed path) (.removed path)
  | made (path : String) : Decrypts cipher (.made path) (.made path)

/-- What a run with a key left differs from what a run without left in the text of documents, which can be decrypted. -/
structure DecryptsTo (key : String) (cipher : DocumentCipher) (coded plain : Recording) : Prop where
  changes : List.Forall₂ (Change.Decrypts cipher) coded.changes plain.changes
  code : ∀ directory text, .written (Path.join directory Accessor.fileName) text ∈ coded.changes ↔
    .written (Path.join directory Accessor.fileName) text ∈ plain.changes
  reports : coded.session.reports = plain.session.reports
  asked : coded.session.asked = plain.session.asked
  files : ∀ route, (∀ parent name, route = parent ++ [name] → ¬ IsDocument name) →
    coded.session.tree.entry? route = plain.session.tree.entry? route
  documents : ∀ path coded_text content, .written path coded_text ∈ coded.changes → IsDocument path →
    coded.session.tree.read path = .ok content → ∃ text : String, content = (cipher.encrypt text).toUTF8 ∧
      plain.session.tree.read path = .ok text.toUTF8 ∧
      ∀ output tree, coded.session.tree.write output text.toUTF8 = .ok tree →
        (CommandLine.Invocation.perform ⟨none, .decrypt path (some key) (some output)⟩ :
          CommandLine.Performing (StateM Session) String).run.run coded.session = (.ok "", { coded.session with tree := tree })

theorem decrypts_concealed (cipher : DocumentCipher) (change : Change) : (change.concealed cipher).Decrypts cipher change := by
  cases change with
  | removed path => exact .removed path
  | made path => exact .made path
  | written path text =>
    by_cases document : IsDocument path
    · rw [Change.concealed, if_pos document]
      exact .document document (cipher.decrypt_encrypted text)
    · rw [Change.concealed, if_neg document]
      exact .file document

theorem Conceals.decryptsTo {plain coded : Recording} {key : String} (conceals : Conceals cipher plain coded)
    (accepted : DocumentCipher.ofPassphrase key = .ok cipher) : DecryptsTo key cipher coded plain := by
  obtain ⟨places, holds, rfl⟩ := conceals
  refine ⟨?_, ?_, rfl, rfl, ?_, ?_⟩
  · rw [Recording.concealed, List.forall₂_map_left_iff, List.forall₂_same]
    intro change _
    exact decrypts_concealed cipher change
  · intro directory text
    rw [Recording.concealed, written_mem_concealed_iff]
    simp [not_isDocument_code]
  · intro route no_document
    have unwritten : route ∉ places := by
      intro written
      obtain ⟨parent, name, ends, document⟩ := holds.named route written
      exact no_document parent name ends document
    rw [Recording.concealed, FileTree.entry?_mapFiles, concealed_of_not_mem unwritten]
    rcases plain.session.tree.entry? route with _ | _ | _ <;> rfl
  · intro path coded_text content member document read
    obtain ⟨plain_text, noted, _⟩ := written_mem_concealed_iff.mp member
    obtain ⟨route, written, located⟩ := holds.located path plain_text noted document
    obtain ⟨found, found_is, there⟩ := FileTree.read_ok_iff.mp read
    rw [Recording.concealed, FileTree.locate_mapFiles, located] at found_is
    cases found_is
    rw [Recording.concealed, FileTree.entry?_mapFiles] at there
    obtain ⟨entry, plain_there, mapped⟩ := Option.map_eq_some_iff.mp there
    cases entry with
    | directory => cases mapped
    | file plain_content =>
      obtain ⟨text, rfl⟩ := holds.texts route written plain_content plain_there
      rw [Entry.mapContent, concealed_of_mem written] at mapped
      cases mapped
      refine ⟨text, rfl, FileTree.read_ok_iff.mpr ⟨route, located, plain_there⟩, ?_⟩
      intro output tree saved
      exact perform_decrypt accepted read (cipher.decrypt_encrypted text) saved

/-- A key changes the encoding of documents and nothing else. A run with an accepted key ends as the run without it, having
    written and removed the same files, and decrypting its documents gives the documents of the run without. -/
theorem run_encrypts_documents_alone {settings : Settings} {key : String} (unkeyed : settings.encryptionKey = none)
    (long : DocumentCipher.isPassphrase key = true) (visible : Text.isAllBlank key = false) (policy : OrphanPolicy)
    (order : WriteOrder) (product : Product) (session : Session) :
    ∃ cipher, DocumentCipher.ofPassphrase key = .ok cipher ∧
      (recorded (settings.keyed key) policy order product session).1 = (recorded settings policy order product session).1 ∧
      DecryptsTo key cipher (recorded (settings.keyed key) policy order product session).2
        (recorded settings policy order product session).2 := by
  obtain ⟨cipher, accepted⟩ : ∃ cipher, DocumentCipher.ofPassphrase key = .ok cipher := ⟨_, if_pos long⟩
  have plain_cipher : settings.cipher = .ok none := by
    simp [Settings.cipher, unkeyed]
  have keyed_cipher : (settings.keyed key).cipher = .ok (some cipher) := by
    simp [Settings.cipher, Settings.keyed, visible, accepted, Except.map]
  refine ⟨cipher, accepted, ?_⟩
  rw [recorded, recorded, run_eq_prepare keyed_cipher, run_eq_prepare plain_cipher, prepare_keyed]
  have saves (extracted : Extracted) : InStep (Conceals cipher)
      (saveExtracted settings none policy order extracted >>= fun _ =>
        Running.tell (.success ("Completed " ++ product.name ++ " extraction")))
      (saveExtracted settings (some cipher) policy order extracted >>= fun _ =>
        Running.tell (.success ("Completed " ++ product.name ++ " extraction"))) := by
    apply ((savesAlike_conceals cipher).saveExtracted (writesAlike_conceals cipher) settings policy order extracted).bind
    intro _
    exact InStep.tell (savesAlike_conceals cipher).tell _
  have untouched : Untouched (Recording.start session) (Recording.start session) := ⟨rfl, fun _ _ member => nomatch member⟩
  -- two runs of the same computation up to where documents are saved, and then two that differ in what the key conceals
  obtain ⟨same, conceals⟩ := InStep.andThen (inStep_prepare settings product) (fun _ _ still => still.conceals cipher) saves untouched
  exact ⟨same.symm, conceals.decryptsTo accepted⟩

/-- The run on the workbook with a sword comes to its end, and with a key as well. Both leave the document of the sword. -/
theorem run_encrypts_sword : SwordRun.apart.encryptionKey = none ∧ DocumentCipher.isPassphrase "morningstar" = true ∧
    Text.isAllBlank "morningstar" = false ∧
    (recorded SwordRun.apart .delete .tablesFirst .all SwordRun.start).1 = .ok () ∧
    ∃ cipher, DocumentCipher.ofPassphrase "morningstar" = .ok cipher ∧
      (recorded (SwordRun.apart.keyed "morningstar") .delete .tablesFirst .all SwordRun.start).1 =
        (recorded SwordRun.apart .delete .tablesFirst .all SwordRun.start).1 ∧
      DecryptsTo "morningstar" cipher (recorded (SwordRun.apart.keyed "morningstar") .delete .tablesFirst .all SwordRun.start).2
        (recorded SwordRun.apart .delete .tablesFirst .all SwordRun.start).2 ∧
      (recorded SwordRun.apart .delete .tablesFirst .all SwordRun.start).2.session.tree.read "out/Item.json" =
        .ok (SwordRun.output.bytes none) ∧
      (recorded (SwordRun.apart.keyed "morningstar") .delete .tablesFirst .all SwordRun.start).2.session.tree.read
        "out/Item.json" = .ok (SwordRun.output.bytes (some cipher)) := by
  have long : DocumentCipher.isPassphrase "morningstar" = true := by decide
  have visible : Text.isAllBlank "morningstar" = false := by decide
  have unkeyed : SwordRun.apart.encryptionKey = none := rfl
  obtain ⟨cipher, accepted, same, decrypts⟩ :=
    run_encrypts_documents_alone unkeyed long visible .delete .tablesFirst .all SwordRun.start
  have ciphered : (SwordRun.setupFor "texts" (some "morningstar")).cipher = .ok (some cipher) := by
    simp [Settings.cipher, SwordRun.setupFor, visible, accepted, Except.map]
  obtain ⟨plain, ran, plain_read⟩ : ∃ last, Ends (run SwordRun.apart .delete .tablesFirst .all) SwordRun.start () last ∧ _ :=
    SwordRun.ends_apart .delete rfl
  obtain ⟨coded, coded_ran, coded_read⟩ : ∃ last, Ends (run (SwordRun.apart.keyed "morningstar") .delete .tablesFirst .all)
      SwordRun.start () last ∧ _ := SwordRun.ends_apart .delete ciphered
  obtain ⟨done, rfl⟩ := Prod.mk.inj ((run_recorded _ _ _ _ _).symm.trans ran)
  obtain ⟨-, rfl⟩ := Prod.mk.inj ((run_recorded _ _ _ _ _).symm.trans coded_ran)
  exact ⟨unkeyed, long, visible, done, cipher, accepted, same, decrypts, plain_read, coded_read⟩

end Tablesmith
