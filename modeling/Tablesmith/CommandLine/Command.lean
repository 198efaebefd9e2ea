import Tablesmith.Run.Output
import Tablesmith.Settings.Basic

/-!
# Commands

A word of the command line is a switch, the value of the switch before it, or an operand. Long names follow two dashes
and may carry a value behind an equals sign; short names follow one dash, several of them in one word.
A word of two dashes makes operands of all words behind it.

The first word that is no switch is a command: making a product or decrypting a document. The settings
file may be named in front of the command or behind it.
-/

namespace Tablesmith.CommandLine

/-- A switch of the command line. The key of a run and the key of a document that is decrypted are two
switches with one name. -/
inductive Switch
  | config
  | help
  | version
  | tables
  | stringFile
  | enumFile
  | scriptOut
  | tableOut
  | stringOut
  | key
  | typeAliases
  | prune
  | keepOrphans
  | documentKey
  | output
deriving DecidableEq

/-- What must follow a switch: nothing, any text, or a path, which is not empty. -/
inductive Argument
  | nothing
  | text
  | path
deriving DecidableEq

namespace Switch

def long : Switch → String
  | config => "config"
  | help => "help"
  | version => "version"
  | tables => "tables"
  | stringFile => "string-file"
  | enumFile => "enum-file"
  | scriptOut => "script-out"
  | tableOut => "table-out"
  | stringOut => "string-out"
  | key => "key"
  | typeAliases => "type-aliases"
  | prune => "prune"
  | keepOrphans => "keep-orphans"
  | documentKey => "key"
  | output => "output"

def short? : Switch → Option Char
  | config => some 'c'
  | help => some 'h'
  | version => some 'V'
  | documentKey => some 'k'
  | output => some 'o'
  | _ => none

/-- What must follow a switch. -/
def argument : Switch → Argument
  | help | version | prune | keepOrphans => .nothing
  | stringFile | enumFile | key | documentKey => .text
  | config | tables | scriptOut | tableOut | stringOut | typeAliases | output => .path

/-- The switches in front of a command. -/
def global : List Switch :=
  [config, help, version]

def ofRuns : List Switch :=
  [tables, stringFile, enumFile, scriptOut, tableOut, stringOut, key, typeAliases, prune,
    keepOrphans, config, help]

def ofDecryption : List Switch :=
  [documentKey, output, config, help]

end Switch

/-- Why a command line does not ask for work. -/
inductive Stop
  | usage
  | help
  | version
deriving DecidableEq

/-- What was read: the switches with their values, the switch whose value comes next, and operands. -/
structure Given where
  values : List (Switch × String)
  pending? : Option Switch
  operands : List String
deriving DecidableEq

namespace Given

/-- Nothing was read. -/
def start : Given :=
  ⟨[], none, []⟩

def value? (given : Given) (switch : Switch) : Option String :=
  given.values.lookup switch

def has (given : Given) (switch : Switch) : Bool :=
  (given.value? switch).isSome

/-- Sets a switch, which can be done only once. -/
def set (given : Given) (switch : Switch) (value : String) : Except Stop Given :=
  if switch = .help then .error .help
  else if switch = .version then .error .version
  else if given.has switch ∨ (switch.argument = .path ∧ value = "") then .error .usage
  else .ok { given with values := (switch, value) :: given.values, pending? := none }

/-- Waits for the value of a switch, or sets it if it has none. -/
def await (given : Given) (switch : Switch) : Except Stop Given :=
  if switch.argument = .nothing then given.set switch ""
  else .ok { given with pending? := some switch }

def operand (given : Given) (limit : Nat) (word : String) : Except Stop Given :=
  if given.operands.length < limit ∧ word ≠ "" then
    .ok { given with operands := given.operands ++ [word] }
  else .error .usage

/-- Reads what follows two dashes. -/
def takeLong (switches : List Switch) (given : Given) (chars : List Char) : Except Stop Given :=
  let name := String.ofList (chars.takeWhile (· ≠ '='))
  match switches.find? (·.long = name), chars.dropWhile (· ≠ '=') with
  | none, _ => .error .usage
  | some switch, [] => given.await switch
  | some switch, _ :: value =>
    if switch.argument = .nothing then .error .usage else given.set switch (String.ofList value)

/-- The value behind a short name in the same word; an equals sign may stand in front of it. -/
def attached : List Char → String
  | '=' :: rest => String.ofList rest
  | chars => String.ofList chars

/-- Reads what follows a single dash. -/
def takeShort (switches : List Switch) (given : Given) : List Char → Except Stop Given
  | [] => .ok given
  | c :: rest =>
    match switches.find? (·.short? = some c) with
    | none => .error .usage
    | some switch =>
      if switch.argument = .nothing then do takeShort switches (← given.set switch "") rest
      else if rest = [] then given.await switch
      else given.set switch (attached rest)

/-- Reads a word that is not two dashes alone. A switch cannot be the value of another one. -/
def takeWord (switches : List Switch) (limit : Nat) (given : Given) (word : String) :
    Except Stop Given :=
  match word.toList, given.pending? with
  | '-' :: _ :: _, some _ => .error .usage
  | '-' :: '-' :: name, none => given.takeLong switches name
  | '-' :: c :: names, none => given.takeShort switches (c :: names)
  | _, some switch => given.set switch word
  | _, none => given.operand limit word

/-- No switch may wait for its value at the end. -/
def close (given : Given) : Except Stop Given :=
  if given.pending? = none then .ok given else .error .usage

/-- Reads all words, of which at most `limit` are operands. -/
def takeWords (switches : List Switch) (limit : Nat) (given : Given) :
    List String → Except Stop Given
  | [] => given.close
  | word :: rest => do
    if word = "--" then rest.foldlM (operand · limit) (← given.close)
    else takeWords switches limit (← given.takeWord switches limit word) rest

end Given

/-- What is asked for. -/
inductive Command
  | make (product : Product) (overrides : Settings) (policy : OrphanPolicy)
  | decrypt (input : String) (key output : Option String)
deriving DecidableEq

/-- A command and the settings file for it. -/
structure Invocation where
  config : Option String
  command : Command
deriving DecidableEq

/-- The words that name commands. -/
inductive Verb
  | make (product : Product)
  | decrypt
  | help
deriving DecidableEq

namespace Verb

def ofName? (word : String) : Option Verb :=
  if word = "decrypt" then some decrypt
  else if word = "help" then some help
  else ([Product.all, .script, .table, .string].find? (·.name = word)).map make

end Verb

/-- The settings that switches give. -/
def overrides (given : Given) : Settings where
  tablePath := given.value? .tables
  stringFileName := given.value? .stringFile
  enumFileName := given.value? .enumFile
  scriptOutputPath := given.value? .scriptOut
  tableOutputPath := given.value? .tableOut
  stringOutputPath := given.value? .stringOut
  encryptionKey := given.value? .key
  typeAliasPath := given.value? .typeAliases

/-- What happens to orphans; only one of the two switches for them may be set. -/
def orphanPolicy (given : Given) : Except Stop OrphanPolicy :=
  match given.has .prune, given.has .keepOrphans with
  | true, true => .error .usage
  | true, false => .ok .delete
  | false, true => .ok .keep
  | false, false => .ok .ask

/-- Reads the words behind the name of a product. -/
def readMake (product : Product) (words : List String) : Except Stop (Given × Command) := do
  let given ← Given.start.takeWords Switch.ofRuns 0 words
  return (given, .make product (overrides given) (← orphanPolicy given))

def readDecrypt (words : List String) : Except Stop (Given × Command) := do
  let given ← Given.start.takeWords Switch.ofDecryption 1 words
  match given.operands with
  | [input] => return (given, .decrypt input (given.value? .documentKey) (given.value? .output))
  | _ => throw .usage

/-- Reads the words behind the name of a command. -/
def readCommand (verb : Verb) (words : List String) : Except Stop (Given × Command) :=
  match verb with
  | .make product => readMake product words
  | .decrypt => readDecrypt words
  | .help =>
    .error (if words.all fun word => (Verb.ofName? word).isSome then .help else .usage)

/-- Reads the words from a place on where no command was named yet. -/
def readFrom (given : Given) : List String → Except Stop Invocation
  | [] => .error .usage
  | word :: rest =>
    match given.pending?, Verb.ofName? word with
    | none, some verb => do
      let (inner, command) ← readCommand verb rest
      return ⟨inner.value? .config <|> given.value? .config, command⟩
    | _, _ => do
      if word = "--" then throw .usage
      else readFrom (← given.takeWord Switch.global 0 word) rest

/-- Reads a command line. -/
def read (words : List String) : Except Stop Invocation :=
  readFrom Given.start words

end Tablesmith.CommandLine
