/-
Module: Criteria.Settings
Purpose: The settings of the library, read from a TOML document.
Main exports:
  Settings, Settings.ofToml?, Settings.ofFile?, Settings.assembler, SettingsError
-/
import Criteria.Assembly.Assembler
import Criteria.Compile.Compiler
import Criteria.Text.Blank
import Criteria.Toml.Document

namespace Criteria

open Criteria.Assembly
open Criteria.Compile
open Criteria.Text
open Criteria.Toml

/-- What can be set: the connective that is put between adjacent clauses, and the largest
group of clauses that the index accepts. -/
structure Settings where
  defaultConnective : Option Connective := none
  limit : Nat := defaultLimit
deriving Repr, DecidableEq

/-- Why a file could not be read. -/
inductive ReadFault where
  | notFound
  | directory
  | nameTooLong
  | zeroInName
deriving Repr, DecidableEq

/-- The wording of a read fault. -/
def ReadFault.message : ReadFault → String
  | .notFound => "No such file or directory (os error 2)"
  | .directory => "Is a directory (os error 21)"
  | .nameTooLong => "File name too long (os error 36)"
  | .zeroInName => "file name contained an unexpected NUL byte"

/-- Why there are no settings: the file could not be read, its text is no settings document,
or the settings make no sense. -/
inductive SettingsError where
  | unreadable (path : String) (fault : ReadFault)
  | malformed
  | zeroLimit
deriving Repr, DecidableEq

/-- The wording of a settings error. -/
def SettingsError.message : SettingsError → String
  | .unreadable path fault =>
      "failed to read config file '" ++ path ++ "': " ++ fault.message
  | .malformed => "failed to parse config"
  | .zeroLimit => "invalid config: compiler.max_clause_fan_out must be at least 1"

/-- The connective that a word means; the word for none means that there is no default. -/
def connective? : String → Option (Option Connective)
  | "none" => some none
  | "and" => some (some .and)
  | "or" => some (some .or)
  | _ => none

/-- A value without content, which may stand for the word that is its key. -/
def isVoid : Item → Bool
  | .array items => items.isEmpty
  | .tables tables => tables.isEmpty
  | .table _ entries => entries.isEmpty
  | _ => false

/-- Read the default connective: a word, or a table whose only key is that word. -/
def readConnective? : Item → Option (Option Connective)
  | .text word => connective? word
  | .table _ [(word, content)] => if isVoid content then connective? word else none
  | _ => none

/-- Read the largest group: an integer that is not negative and fits 64 bits. -/
def readLimit? : Item → Option Nat
  | .integer n => if 0 ≤ n ∧ n < 18446744073709551616 then some n.toNat else none
  | _ => none

/-- The fields that a section holds: a table by key, an array by position. -/
def sectionFields? (keys : List String) : Item → Option Entries
  | .table _ entries =>
      if entries.all fun entry => keys.contains entry.1 then some entries else none
  | .array items => some (keys.zip items)
  | .tables tables => some (keys.zip (tables.reverse.map (.table .header)))
  | _ => none

/-- Read a field of a section, or keep the default. -/
def readField? {α : Type} (fields : Entries) (key : String) (default : α)
    (read : Item → Option α) : Option α :=
  match fields.lookup key with
  | some value => read value
  | none => some default

/-- Read the section on assembling conditions. -/
def readAssembly? (value : Item) : Option (Option Connective) := do
  let fields ← sectionFields? ["default_operator"] value
  readField? fields "default_operator" none readConnective?

/-- Read the section on compiling conditions. -/
def readCompiler? (value : Item) : Option Nat := do
  let fields ← sectionFields? ["max_clause_fan_out"] value
  readField? fields "max_clause_fan_out" defaultLimit readLimit?

/-- Read the settings from the table at the root of a document. Unknown keys are refused. -/
def readSettings? (root : Entries) : Option Settings := do
  let fields ← sectionFields? ["builder", "compiler"] (.table .header root)
  let defaultConnective ← readField? fields "builder" none readAssembly?
  let limit ← readField? fields "compiler" defaultLimit readCompiler?
  return { defaultConnective, limit }

namespace Settings

/-- Settings whose limit admits no group at all make no sense. -/
def validate (settings : Settings) : Except SettingsError Settings :=
  if settings.limit = 0 then .error .zeroLimit else .ok settings

/-- Read settings from a TOML document. -/
def ofToml? (text : String) : Except SettingsError Settings :=
  match (document? text).bind readSettings? with
  | some settings => settings.validate
  | none => .error .malformed

/-- Read settings from a file, given its content or the reason why there is none. -/
def ofFile? (path : String) (content : Except ReadFault String) :
    Except SettingsError Settings :=
  match content with
  | .ok text => ofToml? text
  | .error fault => .error (.unreadable path fault)

/-- The most bytes of a path. -/
def pathLimit : Nat := 4095

/-- The most bytes of one name in a path. -/
def nameLimit : Nat := 255

/-- Why there is no file to read at a path. A path with a zero character or of too many bytes
is refused before the file is looked for. Then the first name decides: nothing but a directory
is reached without one. -/
def missingFile (path : String) : ReadFault :=
  let names := (pieces (· == '/') path.toList).map String.ofList
  if path.toList.contains '\x00' then .zeroInName
  else if path.utf8ByteSize > pathLimit then .nameTooLong
  else
    match names.find? fun name => name ∉ ["", ".", ".."] with
    | some name => if name.utf8ByteSize > nameLimit then .nameTooLong else .notFound
    | none => if path.isEmpty then .notFound else .directory

/-- Give an assembler the default connective of the settings. -/
def prepare (settings : Settings) (assembler : Assembler) : Assembler :=
  { assembler with defaultConnective := settings.defaultConnective }

/-- An assembler with the default connective of the settings. -/
def assembler (settings : Settings) : Assembler :=
  settings.prepare .empty

end Settings

end Criteria
