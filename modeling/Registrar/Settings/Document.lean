import Registrar.Settings.Basic
import Registrar.Yaml.Node
import Registrar.Yaml.Writer
/-!
# Settings documents

Settings are kept in a YAML document with a version and a section for the generator. Keys that are
missing take their defaults; unknown and repeated keys are errors.
-/
namespace Registrar.Settings

open Yaml (Node Document Style)

/-- The values of a mapping by key. -/
abbrev Entries := List (String × Node)

def nullTag : String := "tag:yaml.org,2002:null"

def numberTag : String := "tag:yaml.org,2002:int"

def truthTag : String := "tag:yaml.org,2002:bool"

/-- The key of an entry: a scalar of any kind. -/
def keyOf (d : Document) (key : Node) : Except DocumentError String :=
  match d.resolve? key with
  | some (.scalar _ _ text) => .ok text
  | _ => .error .badKey

/-- The entries with their keys as text; every key is known and stands once. -/
def entriesOf (d : Document) (known seen : List String) :
    List (Node × Node) → Except DocumentError Entries
  | [] => .ok []
  | (k, value) :: rest =>
    match keyOf d k with
    | .error e => .error e
    | .ok key =>
      if !known.contains key then .error (.unknownKey key)
      else if seen.contains key then .error (.repeatedKey key)
      else (entriesOf d known (key :: seen) rest).map ((key, value) :: ·)

/-- The entries of a mapping. A plain scalar without text is an empty mapping. -/
def mappingOf (d : Document) (known : List String) (node : Node) (wrong : DocumentError) :
    Except DocumentError Entries :=
  match d.resolve? node with
  | some (.mapping _ entries) => entriesOf d known [] entries
  | some (.scalar .plain _ "") => .ok []
  | _ => .error wrong

/-- The node of a key, aliases resolved. -/
def valueOf? (d : Document) (es : Entries) (key : String) : Option Node :=
  (es.lookup key).bind d.resolve?

/-- The node of a key that may be null, which counts as missing. Only a plain scalar is null; one
with a tag is null only if the tag says so. -/
def optionalOf? (d : Document) (es : Entries) (key : String) : Except DocumentError (Option Node) :=
  match valueOf? d es key with
  | some (.scalar .plain (some tag) text) =>
    if tag = nullTag then
      if text ≠ "" ∧ Yaml.isNull text then .ok none else .error (.wrongType key)
    else .ok (some (.scalar .plain (some tag) text))
  | some (.scalar .plain none text) =>
    .ok (if Yaml.isNull text then none else some (.scalar .plain none text))
  | node => .ok node

/-- The text of a scalar of any kind. -/
def textOf (key : String) : Node → Except DocumentError String
  | .scalar _ _ text => .ok text
  | _ => .error (.wrongType key)

def textOr (default : String) (d : Document) (es : Entries) (key : String) :
    Except DocumentError String :=
  match valueOf? d es key with
  | none => .ok default
  | some node => textOf key node

/-- A text; null stands for none. -/
def optionalText (d : Document) (es : Entries) (key : String) :
    Except DocumentError (Option String) :=
  match optionalOf? d es key with
  | .error e => .error e
  | .ok none => .ok none
  | .ok (some node) => (textOf key node).map some

/-- The text of a scalar that can be something other than text: it is plain, or a literal block with
the tag of what it is. -/
def typedText? (tag : String) : Node → Option String
  | .scalar .plain _ text => some text
  | .scalar .literal (some t) text => if t = tag then some text else none
  | _ => none

def truthOr (default : Bool) (d : Document) (es : Entries) (key : String) :
    Except DocumentError Bool :=
  match valueOf? d es key with
  | none => .ok default
  | some node =>
    match (typedText? truthTag node).bind Yaml.truth? with
    | some b => .ok b
    | none => .error (.wrongType key)

/-- The name of a choice: the text of a scalar, or a tag of its own before null. -/
def choiceOf? : Node → Option String
  | .scalar style (some tag) text =>
    match tag.toList with
    | '!' :: name =>
      if style = .plain ∧ Yaml.isNull text then some (String.ofList name) else none
    | _ => some text
  | .scalar _ none text => some text
  | _ => none

def formatterOr (default : FormatterKind) (d : Document) (es : Entries) (key : String) :
    Except DocumentError FormatterKind :=
  match valueOf? d es key with
  | none => .ok default
  | some node =>
    match (choiceOf? node).bind FormatterKind.ofName? with
    | some k => .ok k
    | none => .error (.wrongType key)

/-- A 32-bit number; null counts as missing. -/
def versionOf (d : Document) (es : Entries) : Except DocumentError (Option Nat) :=
  match optionalOf? d es "version" with
  | .error e => .error e
  | .ok none => .ok none
  | .ok (some node) =>
    match (typedText? numberTag node).bind fun text => Yaml.unsigned? text.toList with
    | some n => if n < 0x100000000 then .ok (some n) else .error (.wrongType "version")
    | none => .error (.wrongType "version")

def generatorKeys : List String :=
  ["include_pattern", "exclude_pattern", "file_prefix", "recursive", "framework_import",
   "multipart_import", "formatter", "gofmt_path", "package"]

/-- The settings that the entries of the generator section give. -/
def ofEntries (d : Document) (es : Entries) : Except DocumentError Settings := do
  let s : Settings := {}
  return {
    includePattern := ← textOr s.includePattern d es "include_pattern"
    excludePattern := ← textOr s.excludePattern d es "exclude_pattern"
    fileStem := ← textOr s.fileStem d es "file_prefix"
    recursive := ← truthOr s.recursive d es "recursive"
    framework := ← textOr s.framework d es "framework_import"
    multipart := ← textOr s.multipart d es "multipart_import"
    formatter := ← formatterOr s.formatter d es "formatter"
    gofmtPath := ← textOr s.gofmtPath d es "gofmt_path"
    package := ← optionalText d es "package" }

/-- The generator section; without one, or with null, all settings take their defaults. -/
def generatorOf (d : Document) (es : Entries) : Except DocumentError Settings := do
  match ← optionalOf? d es "generator" with
  | none => return {}
  | some node => ofEntries d (← mappingOf d generatorKeys node (.wrongType "generator"))

/-- The version and the settings of a document. -/
def ofDocument (d : Document) : Except DocumentError (Option Nat × Settings) := do
  let es ← mappingOf d ["version", "generator"] d.root .notAMapping
  return (← versionOf d es, ← generatorOf d es)

/-- The version and the settings of a text. A text without a document has neither. -/
def contents (text : String) : Except DocumentError (Option Nat × Settings) :=
  match Yaml.read text with
  | .error e => .error (.unreadable e)
  | .ok none => .ok (none, {})
  | .ok (some d) => ofDocument d

/-- Reads a settings document. The whole document is read before its version is looked at. -/
def ofYaml (text : String) : Except SettingsError Settings :=
  match contents text with
  | .error e => .error (.document e)
  | .ok (none, _) => .error .missingVersion
  | .ok (some v, s) => if v = 1 then .ok s else .error (.unsupportedVersion v)

/-! ## Writing -/

/-- One line of the generator section: a key and its text. -/
def line (key : String) (value : String) : String :=
  "  " ++ key ++ ": " ++ String.ofList (Yaml.scalarLine 2 value)

/-- Writes a settings document. -/
def toYaml (s : Settings) : String :=
  let package := match s.package with
    | some p => line "package" p
    | none => ""
  "version: 1\ngenerator:\n" ++ line "include_pattern" s.includePattern ++
    line "exclude_pattern" s.excludePattern ++ line "file_prefix" s.fileStem ++
    "  recursive: " ++ (if s.recursive then "true" else "false") ++ "\n" ++
    line "framework_import" s.framework ++ line "multipart_import" s.multipart ++
    line "formatter" s.formatter.name ++ line "gofmt_path" s.gofmtPath ++ package

end Registrar.Settings
