import Tablesmith.CommandLine.Command
import Tablesmith.Run.Basic

/-!
# Performing commands

What a command prints, what it complains of, and the status with which it ends.
-/

namespace Tablesmith.CommandLine

open Running

/-- How a command ends: its status, what it prints, and what it complains of. -/
structure Outcome where
  status : Nat
  output : String
  complaint : Option String
deriving DecidableEq

variable {m : Type → Type} [Monad m] [Workspace m]

/-- A part of a command, which may end in a complaint. -/
abbrev Performing (m : Type → Type) : Type → Type :=
  ExceptT String m

/-- Complains in the words of the failure. -/
def plainly {α : Type} (part : Running m α) : Performing m α :=
  ExceptT.mk ((Except.mapError Failure.message ·) <$> part.run)

/-- Complains in other words than those of the failure. -/
def complaining {α : Type} (complaint : String) (part : Running m α) : Performing m α :=
  ExceptT.mk ((Except.mapError (fun _ => complaint) ·) <$> part.run)

def about (complaint path : String) : String :=
  complaint ++ " '" ++ path ++ "'"

def loadSettings (config : Option String) : Performing m Settings :=
  match config with
  | some path => complaining (about "Failed to load settings" path) (Settings.load path)
  | none => return .empty

/-- What is said if a document is to be decrypted without a key. -/
def keyMissing : String :=
  "No passphrase given; pass --key or set encryption_key"

/-- Decrypts a document into a file or for printing. -/
def decrypt (settings : Settings) (input : String) (key output : Option String) :
    Performing m String := do
  match key <|> settings.encryptionKey with
  | none => throw keyMissing
  | some key =>
    let cipher ← plainly (ofResult .cipher (DocumentCipher.ofPassphrase key))
    let encrypted ← complaining (about "Failed to read" input) (readText input)
    let text ← complaining (about "Failed to decrypt" input)
      (ofResult .cipher (cipher.decrypt encrypted))
    match output with
    | some path =>
      complaining (about "Failed to write" path) (ofFile (Workspace.writeText path text))
      return ""
    | none => return text ++ "\n"

/-- Performs a command, and gives what it prints. -/
def Invocation.perform (invocation : Invocation) : Performing m String := do
  let settings ← loadSettings invocation.config
  match invocation.command with
  | .make product overrides policy =>
    plainly (run (settings.merge overrides) policy .tablesFirst product)
    return ""
  | .decrypt input key output => decrypt settings input key output

/-- The name and the version of the program. -/
def versionText : String :=
  "rusty-table 0.1.0\n"

/-- How the program is used. -/
def usageText : String :=
  "Usage: rusty-table [--config FILE] COMMAND

Commands:
  all      Generate code, tables and string files
  script   Generate GameTables.cs only
  table    Write <sheet>.json for every data sheet
  string   Write GSTR_<language>.json from the string workbook
  decrypt  Decrypt an encrypted output document

Options of all, script, table and string:
  --tables DIR         Directory searched recursively for *.xlsx / *.xls
  --string-file STEM   File stem of the string workbook
  --enum-file STEM     File stem of a workbook to skip
  --script-out DIR     Output directory of GameTables.cs
  --table-out DIR      Output directory of the table JSON files (must exist)
  --string-out DIR     Output directory of the string JSON files
  --key KEY            Encrypt outputs with this passphrase (at least 8 characters)
  --type-aliases FILE  Type alias list (JSON)
  --prune              Delete stale *.json files in output directories without asking
  --keep-orphans       Keep stale *.json files in output directories without asking

Options of decrypt, which takes the encrypted file:
  -k, --key KEY        Passphrase (default: the configured encryption key)
  -o, --output FILE    Output file (default: stdout)
"

/-- Performs what the words of a command line ask for. -/
def execute (words : List String) : m Outcome :=
  match read words with
  | .error .usage => return ⟨2, "", none⟩
  | .error .help => return ⟨0, usageText, none⟩
  | .error .version => return ⟨0, versionText, none⟩
  | .ok invocation => do
    match ← invocation.perform.run with
    | .ok output => return ⟨0, output, none⟩
    | .error complaint => return ⟨1, "", some complaint⟩

end Tablesmith.CommandLine
