import Tablesmith.Cipher.Basic
import Tablesmith.Text.Characters

/-!
# Settings

A run is told by eight settings where its files are and how they are treated. Every setting may be
absent; which of them a run needs depends on what it makes.
-/

namespace Tablesmith

open Tablesmith.Text

inductive Setting
  | tablePath
  | stringFileName
  | enumFileName
  | scriptOutputPath
  | tableOutputPath
  | stringOutputPath
  | encryptionKey
  | typeAliasPath
deriving DecidableEq

namespace Setting

/-- All settings, in the order in which they are written. -/
def all : List Setting :=
  [tablePath, stringFileName, enumFileName, scriptOutputPath, tableOutputPath, stringOutputPath,
    encryptionKey, typeAliasPath]

def name : Setting → String
  | tablePath => "table_path"
  | stringFileName => "string_file_name"
  | enumFileName => "enum_file_name"
  | scriptOutputPath => "script_output_path"
  | tableOutputPath => "table_output_path"
  | stringOutputPath => "string_output_path"
  | encryptionKey => "encryption_key"
  | typeAliasPath => "type_alias_path"

def ofName? (name : String) : Option Setting :=
  all.find? fun setting => setting.name = name

end Setting

/-- What a run makes. -/
inductive Product
  | all
  | script
  | table
  | string
deriving DecidableEq

namespace Product

def name : Product → String
  | all => "all"
  | script => "script"
  | table => "table"
  | string => "string"

/-- The run makes accessor code. -/
def hasScript (product : Product) : Bool :=
  product = all || product = script

/-- The run makes table documents. -/
def hasTables (product : Product) : Bool :=
  product = all || product = table

/-- The run makes language documents. -/
def hasStrings (product : Product) : Bool :=
  product = all || product = string

/-- The settings that a run needs, in the order in which they are asked for. -/
def required (product : Product) : List Setting :=
  [.tablePath] ++ (if product.hasScript then [.scriptOutputPath] else [])
    ++ (if product.hasTables then [.tableOutputPath] else [])
    ++ (if product.hasStrings then [.stringFileName, .stringOutputPath] else [])

end Product

/-- The values of the settings that are present. -/
structure Settings where
  tablePath : Option String
  stringFileName : Option String
  enumFileName : Option String
  scriptOutputPath : Option String
  tableOutputPath : Option String
  stringOutputPath : Option String
  encryptionKey : Option String
  typeAliasPath : Option String
deriving DecidableEq

/-- A setting that a run needs is absent. -/
structure MissingSetting where
  setting : Setting
deriving DecidableEq

/-- What is said about an absent setting. -/
def MissingSetting.message (missing : MissingSetting) : String :=
  "Missing required setting '" ++ missing.setting.name ++ "'"

namespace Settings

def empty : Settings :=
  ⟨none, none, none, none, none, none, none, none⟩

def get? (settings : Settings) : Setting → Option String
  | .tablePath => settings.tablePath
  | .stringFileName => settings.stringFileName
  | .enumFileName => settings.enumFileName
  | .scriptOutputPath => settings.scriptOutputPath
  | .tableOutputPath => settings.tableOutputPath
  | .stringOutputPath => settings.stringOutputPath
  | .encryptionKey => settings.encryptionKey
  | .typeAliasPath => settings.typeAliasPath

/-- Gives a setting a value, or takes it away. -/
def set (settings : Settings) (setting : Setting) (value : Option String) : Settings :=
  match setting with
  | .tablePath => { settings with tablePath := value }
  | .stringFileName => { settings with stringFileName := value }
  | .enumFileName => { settings with enumFileName := value }
  | .scriptOutputPath => { settings with scriptOutputPath := value }
  | .tableOutputPath => { settings with tableOutputPath := value }
  | .stringOutputPath => { settings with stringOutputPath := value }
  | .encryptionKey => { settings with encryptionKey := value }
  | .typeAliasPath => { settings with typeAliasPath := value }

/-- Settings that are present in `overrides` take the place of earlier ones. -/
def merge (settings overrides : Settings) : Settings :=
  { tablePath := overrides.tablePath <|> settings.tablePath
    stringFileName := overrides.stringFileName <|> settings.stringFileName
    enumFileName := overrides.enumFileName <|> settings.enumFileName
    scriptOutputPath := overrides.scriptOutputPath <|> settings.scriptOutputPath
    tableOutputPath := overrides.tableOutputPath <|> settings.tableOutputPath
    stringOutputPath := overrides.stringOutputPath <|> settings.stringOutputPath
    encryptionKey := overrides.encryptionKey <|> settings.encryptionKey
    typeAliasPath := overrides.typeAliasPath <|> settings.typeAliasPath }

/-- The value of a setting that must be present. -/
def require (settings : Settings) (setting : Setting) : Except MissingSetting String :=
  match settings.get? setting with
  | some value => .ok value
  | none => .error ⟨setting⟩

/-- Every setting that a run needs must be present; the first that is not is named. -/
def check (settings : Settings) (product : Product) : Except MissingSetting Unit :=
  product.required.forM fun setting => do
    let _ ← settings.require setting

/-- The cipher of the encryption key, which is taken as it is; without a key, or with a blank one,
nothing is encrypted. -/
def cipher (settings : Settings) : Except CipherError (Option DocumentCipher) :=
  match settings.encryptionKey with
  | some key => if isAllBlank key then .ok none else (DocumentCipher.ofPassphrase key).map some
  | none => .ok none

end Settings

end Tablesmith
