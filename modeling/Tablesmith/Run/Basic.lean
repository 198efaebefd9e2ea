import Tablesmith.Run.Collect
import Tablesmith.Run.Output

/-!
# Runs

A run reads all workbooks, checks them, and writes what it was asked for. Documents are written only
when everything has been checked.
-/

namespace Tablesmith

open Tablesmith.Number
open Running

variable {m : Type → Type} [Monad m] [Workspace m]

/-- Which documents are written first, if both those of tables and those of languages are. -/
inductive WriteOrder
  | tablesFirst
  | languagesFirst
deriving DecidableEq

/-- What was extracted for a run. -/
structure Extracted where
  tables : Option Tables
  languages : Option Languages

/-- Writes the accessor code. -/
def runScript (settings : Settings) (collection : Collection) : Running m Unit := do
  let directory ← ofResult .missingSetting (settings.require .scriptOutputPath)
  let path ← saveCode collection.tables directory
  tell (.info ("[Script] " ++ path))

def extractTables (collection : Collection) : Running m Tables := do
  let tables ← ofResult .fault ((Tables.extract collection.tables).run.run KeyCatalog.empty).1
  tell (.info ("Extracted " ++ showNat tables.size ++ " table(s)"))
  return tables

def extractLanguages (collection : Collection) : Running m Languages := do
  if collection.strings.isEmpty then
    tell (.warning "No string workbook found; no string files are written")
  let languages ← ofResult .fault (Languages.extract collection.strings)
  tell (.info ("Extracted " ++ showNat languages.size ++ " language(s)"))
  return languages

def extract (product : Product) (collection : Collection) : Running m Extracted := do
  let tables ← if product.hasTables then some <$> extractTables collection else pure none
  let languages ← if product.hasStrings then some <$> extractLanguages collection else pure none
  return ⟨tables, languages⟩

def saveTables (settings : Settings) (cipher : Option DocumentCipher) (policy : OrphanPolicy)
    (tables : Option Tables) : Running m Unit := do
  match tables with
  | none => return ()
  | some tables =>
    let directory ← ofResult .missingSetting (settings.require .tableOutputPath)
    tell (.info "[Tables]")
    tables.save directory cipher policy

def saveLanguages (settings : Settings) (cipher : Option DocumentCipher) (policy : OrphanPolicy)
    (languages : Option Languages) : Running m Unit := do
  match languages with
  | none => return ()
  | some languages =>
    let directory ← ofResult .missingSetting (settings.require .stringOutputPath)
    tell (.info "[Strings]")
    languages.save directory cipher policy

/-- Does two things although the first may stop; if both stop, the reason of `main` counts. -/
def both (order : WriteOrder) (main other : Running m Unit) : Running m Unit :=
  ExceptT.mk do
    match order with
    | .tablesFirst =>
      let first ← main.run
      let second ← other.run
      return first.bind fun _ => second
    | .languagesFirst =>
      let second ← other.run
      let first ← main.run
      return first.bind fun _ => second

/-- Writes all documents; those of languages are written even if those of tables cannot be. -/
def saveExtracted (settings : Settings) (cipher : Option DocumentCipher) (policy : OrphanPolicy)
    (order : WriteOrder) (extracted : Extracted) : Running m Unit :=
  both order (saveTables settings cipher policy extracted.tables)
    (saveLanguages settings cipher policy extracted.languages)

/-- Makes a product. -/
def run (settings : Settings) (policy : OrphanPolicy) (order : WriteOrder) (product : Product) :
    Running m Unit := do
  tell (.info ("Starting " ++ product.name ++ " extraction"))
  ofResult .missingSetting (settings.check product)
  let cipher ← ofResult .cipher settings.cipher
  let collection ← Collection.ofSettings settings
  if product.hasScript then runScript settings collection
  let extracted ← extract product collection
  saveExtracted settings cipher policy order extracted
  tell (.success ("Completed " ++ product.name ++ " extraction"))

end Tablesmith
