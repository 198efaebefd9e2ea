import Mathlib
import Tablesmith.Files.Session
import Tablesmith.Proofs.Steps
import Tablesmith.Run.Basic

/-!
# Parts of a run

What single steps of a run do to a session, and the parts that a run consists of,
one after the other.
-/

namespace Tablesmith

open Files Running Steps
open Outcome (mapError_ok_iff)

variable {α : Type} {session last : Session}

namespace Running

/-- The part comes to its end with a value and leaves a session. -/
abbrev Ends (part : Running (StateM Session) α) (session : Session) (value : α) (last : Session) : Prop :=
  part.run.run session = (.ok value, last)

theorem run_tell (report : Report) (session : Session) :
    (tell report : Running (StateM Session) Unit).run.run session =
      (.ok (), { session with reports := session.reports ++ [report] }) := rfl

theorem run_liftState (step : StateM Session α) (session : Session) :
    (liftM step : Running (StateM Session) α).run.run session = (.ok (step.run session).1, (step.run session).2) := rfl

theorem run_ofResult {ε : Type} (reason : ε → Failure) (result : Except ε α) (session : Session) :
    (ofResult reason result : Running (StateM Session) α).run.run session = (result.mapError reason, session) := rfl

theorem run_ofFile (operation : StateM Session (Except FileError α)) (session : Session) :
    (ofFile operation : Running (StateM Session) α).run.run session =
      ((operation.run session).1.mapError Failure.file, (operation.run session).2) := rfl

theorem run_withFile (path : String) (part : Running (StateM Session) α) (session : Session) :
    (withFile path part).run.run session =
      ((part.run.run session).1.mapError (Failure.inFile path), (part.run.run session).2) := rfl

theorem ofResult_ok_iff {ε : Type} {reason : ε → Failure} {result : Except ε α} {value : α} :
    Ends (ofResult reason result) session value last ↔ result = .ok value ∧ last = session := by
  rw [Ends, run_ofResult, outcome_eq_iff, mapError_ok_iff, eq_comm (a := last)]

/-- A file is written or removed as the tree allows. -/
theorem ofFile_change_ok_iff {edit : FileTree → Except FileError FileTree} :
    Ends (ofFile (Session.change edit)) session () last ↔
      ∃ tree, edit session.tree = .ok tree ∧ last = { session with tree := tree } := by
  rw [Ends, run_ofFile, outcome_eq_iff, mapError_ok_iff, StateT.run, Session.change]
  cases edit session.tree with
  | error error => simp
  | ok tree => simp [eq_comm]

end Running

section

variable {m : Type → Type} [Monad m] [Workspace m]

theorem extract_eq (product : Product) (collection : Collection) : (extract product collection : Running m Extracted) =
    (if product.hasTables then some <$> extractTables collection else pure none) >>= fun tables =>
      (if product.hasStrings then some <$> extractLanguages collection else pure none) >>= fun languages =>
        pure ⟨tables, languages⟩ := by
  unfold extract
  cases product <;> rfl

theorem extractLanguages_eq [LawfulMonad m] (collection : Collection) :
    (extractLanguages collection : Running m Languages) = (do
      let _ ← (if collection.strings.isEmpty then
        Running.tell (.warning "No string workbook found; no string files are written") else pure ())
      let languages ← ofResult .fault (Languages.extract collection.strings)
      Running.tell (.info ("Extracted " ++ Number.showNat languages.size ++ " language(s)"))
      pure languages) := by
  unfold extractLanguages
  cases collection.strings.isEmpty <;> simp

theorem run_eq [LawfulMonad m] (settings : Settings) (policy : OrphanPolicy) (order : WriteOrder) (product : Product) :
    (run settings policy order product : Running m Unit) = (do
      Running.tell (.info ("Starting " ++ product.name ++ " extraction"))
      ofResult .missingSetting (settings.check product)
      let cipher ← ofResult .cipher settings.cipher
      let collection ← Collection.ofSettings settings
      let _ ← (if product.hasScript then runScript settings collection else pure ())
      let extracted ← extract product collection
      saveExtracted settings cipher policy order extracted
      Running.tell (.success ("Completed " ++ product.name ++ " extraction"))) := by
  unfold run
  cases product.hasScript <;> simp

end

end Tablesmith
