import Registrar.Channel
import Registrar.Failure
import Registrar.Markers
import Registrar.Output.Formatter
import Registrar.Pattern.Reader
import Registrar.Yaml.Text
/-!
# Settings

What a run can be told: which files are read, how generated files are named, what they import and
how they are formatted. Settings are checked before a run; checked settings carry their patterns.
-/
namespace Registrar

structure Settings where
  /-- File names must match this pattern to be read. -/
  includePattern : String := "^.*\\.go$"
  /-- File names that match this pattern are not read. -/
  excludePattern : String := "^gen_.*\\.go$"
  /-- What the names of generated files start with. -/
  fileStem : String := "gen_"
  recursive : Bool := true
  framework : String := Markers.defaultFramework
  multipart : String := Markers.defaultMultipart
  formatter : FormatterKind := .builtin
  /-- The program that the external formatter runs. -/
  gofmtPath : String := "gofmt"
  /-- The only package to generate for. -/
  package : Option String := none
deriving DecidableEq, Repr

/-- What is wrong with a settings document. -/
inductive DocumentError where
  | unreadable (e : Yaml.ReadError)
  | notAMapping
  | badKey
  | unknownKey (key : String)
  | repeatedKey (key : String)
  | wrongType (key : String)
deriving DecidableEq, Repr

def DocumentError.message : DocumentError → String
  | unreadable e => e.message
  | notAMapping => "invalid type: expected a mapping"
  | badKey => "invalid type: expected a key"
  | unknownKey key => "unknown field \x60" ++ key ++ "\x60"
  | repeatedKey key => "duplicate field \x60" ++ key ++ "\x60"
  | wrongType key => key ++ ": invalid type"

inductive SettingsError where
  | invalidPattern (field : String) (e : PatternError)
  | outputNotExcluded (pattern sample : String)
  | emptyStem
  | missingVersion
  | unsupportedVersion (found : Nat)
  | unknownFormatter (name : String)
  | system (text : String)
  | document (e : DocumentError)
deriving DecidableEq, Repr

namespace SettingsError

def message : SettingsError → String
  | invalidPattern field e => "Invalid regex for '" ++ field ++ "': " ++ e.message
  | outputNotExcluded pattern sample =>
    "Exclude pattern '" ++ pattern ++ "' does not match generated file '" ++ sample ++
      "'. Generated files must be excluded from input discovery."
  | emptyStem => "file_prefix must not be empty"
  | missingVersion =>
    "Missing 'version' field in configuration file. " ++
      "Add 'version: 1' to the top of your YAML file."
  | unsupportedVersion found =>
    "Unsupported configuration version " ++ toString found ++ ". Supported versions: 1"
  | unknownFormatter name =>
    "Unknown formatter '" ++ name ++ "'. Valid formatters: builtin, gofmt"
  | system text => "IO error: " ++ text
  | document e => "YAML parsing error: " ++ e.message

def toFailure (e : SettingsError) : Failure :=
  { kind := .config, message := e.message, cause := e.message }

end SettingsError

/-- Settings with the patterns that they name. -/
structure CheckedSettings where
  settings : Settings
  included : Pattern
  excluded : Pattern
deriving DecidableEq, Repr

namespace Settings

/-- Reads the name of a formatter. -/
def formatterOf (name : String) : Except SettingsError FormatterKind :=
  match FormatterKind.ofText? name with
  | some k => .ok k
  | none => .error (.unknownFormatter name)

/-- Reads one of the two patterns. -/
def patternOf (field text : String) : Except SettingsError Pattern :=
  (Pattern.read text).mapError (.invalidPattern field)

/-- The generated file that the patterns are tried on. -/
def sample (s : Settings) : String := Channel.http.fileName s.fileStem

/-- Checks settings: the generated http file must not be read by a later run. -/
def check (s : Settings) : Except SettingsError CheckedSettings :=
  if s.fileStem.isEmpty then .error .emptyStem
  else match patternOf "include_pattern" s.includePattern with
    | .error e => .error e
    | .ok included =>
      match patternOf "exclude_pattern" s.excludePattern with
      | .error e => .error e
      | .ok excluded =>
        if included.isMatch s.sample && !excluded.isMatch s.sample then
          .error (.outputNotExcluded s.excludePattern s.sample)
        else .ok { settings := s, included, excluded }

/-- The formatter that the settings choose. -/
def chosenFormatter (s : Settings) : Formatter :=
  match s.formatter with
  | .builtin => .builtin
  | .gofmt => .external s.gofmtPath

end Settings
end Registrar
