import Registrar.Model.Dump
import Registrar.Pipeline
import Registrar.Settings.Document
/-!
# The command line

Options are read from the left and the first mistake ends the reading. A run works on a file tree
and gives the texts for both outputs and the exit code: 0 for success and help, 1 for a failed run,
2 for a command line that cannot be read.
-/
namespace Registrar.CommandLine

/-! ## Options -/

inductive Flag where
  | dir
  | pkg
  | config
  | formatter
  | dryRun
  | dumpModel
  | verbose
  | help
deriving DecidableEq, Repr

namespace Flag

def all : List Flag := [dir, pkg, config, formatter, dryRun, dumpModel, verbose, help]

def long : Flag → String
  | dir => "dir"
  | pkg => "pkg"
  | config => "config"
  | formatter => "formatter"
  | dryRun => "dry-run"
  | dumpModel => "dump-model"
  | verbose => "verbose"
  | help => "help"

def short? : Flag → Option Char
  | dir => some 'd'
  | pkg => some 'p'
  | config => some 'c'
  | verbose => some 'v'
  | help => some 'h'
  | formatter | dryRun | dumpModel => none

def takesValue : Flag → Bool
  | dir | pkg | config | formatter => true
  | dryRun | dumpModel | verbose | help => false

def ofLong? (s : String) : Option Flag := all.find? fun f => f.long == s

def ofShort? (c : Char) : Option Flag := all.find? fun f => f.short? == some c

end Flag

/-- What the options say. -/
structure Options where
  dir : Option String := none
  pkg : Option String := none
  config : Option String := none
  formatter : Option FormatterKind := none
  dryRun : Bool := false
  dumpModel : Bool := false
  verbose : Bool := false
deriving DecidableEq, Repr

/-- A mistake in a command line. -/
inductive UsageError where
  | unexpected (argument : String)
  | missingValue (f : Flag)
  | unneededValue (f : Flag)
  | repeated (f : Flag)
  | invalidValue (f : Flag) (value : String)
deriving DecidableEq, Repr

def UsageError.message : UsageError → String
  | unexpected argument => "unexpected argument '" ++ argument ++ "' found"
  | missingValue f => "a value is required for '--" ++ f.long ++ "' but none was supplied"
  | unneededValue f => "no value is allowed for '--" ++ f.long ++ "'"
  | repeated f => "the argument '--" ++ f.long ++ "' cannot be used multiple times"
  | invalidValue f value => "invalid value '" ++ value ++ "' for '--" ++ f.long ++ "'"

/-- What a command line asks for. -/
inductive Request where
  | help
  | run (o : Options)
deriving DecidableEq, Repr

/-! ## Reading options -/

/-- Gives a path option its value, once and not empty. -/
def setPath (f : Flag) (old : Option String) (value : String) : Except UsageError (Option String) :=
  if old.isSome then .error (.repeated f)
  else if value.isEmpty then .error (.missingValue f)
  else .ok (some value)

/-- Gives an option its value. -/
def assign (o : Options) (f : Flag) (value : String) : Except UsageError Options :=
  match f with
  | .dir => (setPath f o.dir value).map fun d => { o with dir := d }
  | .config => (setPath f o.config value).map fun c => { o with config := c }
  | .pkg => if o.pkg.isSome then .error (.repeated f) else .ok { o with pkg := some value }
  | .formatter =>
    if o.formatter.isSome then .error (.repeated f)
    else match FormatterKind.ofText? value with
      | some k => .ok { o with formatter := some k }
      | none => .error (.invalidValue f value)
  | .dryRun | .dumpModel | .verbose | .help => .error (.unneededValue f)

/-- Sets an option without a value. -/
def raise (o : Options) (f : Flag) : Except UsageError Options :=
  match f with
  | .dryRun => if o.dryRun then .error (.repeated f) else .ok { o with dryRun := true }
  | .dumpModel => if o.dumpModel then .error (.repeated f) else .ok { o with dumpModel := true }
  | .verbose => if o.verbose then .error (.repeated f) else .ok { o with verbose := true }
  | .help => .ok o
  | .dir | .pkg | .config | .formatter => .error (.missingValue f)

/-- Where the reading stands after an argument. -/
inductive Step where
  | help
  | next (o : Options)
  /-- The next argument is the value of an option. -/
  | awaiting (o : Options) (f : Flag)

/-- Reads `--name` or `--name=value`, without the dashes. -/
def readLong (o : Options) (argument : List Char) : Except UsageError Step :=
  let (name, value) := match Text.splitOnce? '=' argument with
    | some (name, value) => (String.ofList name, some (String.ofList value))
    | none => (String.ofList argument, none)
  match Flag.ofLong? name, value with
  | none, _ => .error (.unexpected ("--" ++ String.ofList argument))
  | some f, some value =>
    if f.takesValue then (assign o f value).map .next else .error (.unneededValue f)
  | some .help, none => .ok .help
  | some f, none => if f.takesValue then .ok (.awaiting o f) else (raise o f).map .next

/-- Reads the letters after one dash. A letter that takes a value takes the rest, if there is any,
without the equals sign before it. -/
def readShort (o : Options) : List Char → Except UsageError Step
  | [] => .ok (.next o)
  | c :: rest =>
    match Flag.ofShort? c with
    | none => .error (.unexpected ("-" ++ String.singleton c))
    | some .help => .ok .help
    | some f =>
      if f.takesValue then
        match rest with
        | [] => .ok (.awaiting o f)
        | '=' :: value => (assign o f (String.ofList value)).map .next
        | value => (assign o f (String.ofList value)).map .next
      else match raise o f with
        | .error e => .error e
        | .ok o => readShort o rest

/-- Whether an argument looks like an option and so is no value. -/
def looksLikeOption (argument : List Char) : Bool :=
  argument.head? == some '-' && argument.length > 1

/-- Reads the arguments after some options. -/
def readFrom (o : Options) (awaited : Option Flag) : List String → Except UsageError Request
  | [] =>
    match awaited with
    | some f => .error (.missingValue f)
    | none => .ok (.run o)
  | argument :: rest =>
    match awaited with
    | some f =>
      if looksLikeOption argument.toList then .error (.missingValue f)
      else match assign o f argument with
        | .error e => .error e
        | .ok o => readFrom o none rest
    | none =>
      let step : Except UsageError Step := match argument.toList with
        | '-' :: '-' :: [] =>
          match rest with
          | [] => .ok (.next o)
          | a :: _ => .error (.unexpected a)
        | '-' :: '-' :: name => readLong o name
        | '-' :: c :: letters => readShort o (c :: letters)
        | _ => .error (.unexpected argument)
      match step with
      | .error e => .error e
      | .ok .help => .ok .help
      | .ok (.next o) => readFrom o none rest
      | .ok (.awaiting o f) => readFrom o (some f) rest

def read (arguments : List String) : Except UsageError Request := readFrom {} none arguments

def usage : String := Text.joinWith "\n"
  ["Generate handler registration code from @Handler directives",
   "",
   "Usage: handlergen [OPTIONS]",
   "",
   "Options:",
   "  -d, --dir <DIR>              Root directory of the Go sources",
   "  -p, --pkg <PKG>              Only generate for packages with this name",
   "  -c, --config <CONFIG>        YAML configuration file",
   "      --formatter <FORMATTER>  Formatter for generated sources (builtin | gofmt)",
   "      --dry-run                Render and format, but do not write",
   "      --dump-model             Print the linked declaration model as JSON and exit",
   "  -v, --verbose                Debug logging",
   "  -h, --help                   Print help",
   ""]

/-! ## Running -/

/-- What a command leaves beside the tree. -/
structure Outcome where
  exitCode : Nat := 0
  output : String := ""
  errors : String := ""
  failure : Option Failure := none
  log : Log := []

def Outcome.ofFailure (log : Log) (f : Failure) : Outcome :=
  { exitCode := 1, errors := f.report, failure := some f, log }

/-- Reads a settings document from a file. -/
def settingsFile (t : FileTree) (path : String) : Except SettingsError Settings :=
  match t.readText path with
  | .error e => .error (.system e.text)
  | .ok text => Settings.ofYaml text

/-- The settings of a file, or the defaults, with what the options change. -/
def loadSettings (t : FileTree) (o : Options) : Except SettingsError Settings :=
  let base := match o.config with
    | some path => settingsFile t path
    | none => .ok {}
  base.map fun s =>
    { s with
      package := o.pkg.orElse fun _ => s.package
      formatter := o.formatter.getD s.formatter }

/-- Runs the pipeline, or shows the model, for a directory. -/
def runIn (t : FileTree) (programs : Programs) (o : Options) (dir : String) : FileTree × Outcome :=
  match (loadSettings t o).bind Settings.check with
  | .error e => (t, .ofFailure [] e.toFailure)
  | .ok checked =>
    let p : Pipeline := { checked, programs, dryRun := o.dryRun }
    if o.dumpModel then
      match p.extract t dir with
      | (log, .error e) => (t, .ofFailure log e)
      | (log, .ok (m, _)) => (t, { output := m.dump ++ "\n", log })
    else
      match p.run t dir with
      | (final, log, .error e) => (final, .ofFailure log e)
      | (final, log, .ok r) =>
        let paths := if r.dryRun then r.files.map (·.path ++ "\n") else []
        (final, { output := String.join paths, log })

/-- Carries out a command line. -/
def run (t : FileTree) (programs : Programs) (arguments : List String) : FileTree × Outcome :=
  match read arguments with
  | .error e => (t, { exitCode := 2, errors := "error: " ++ e.message ++ "\n" })
  | .ok .help => (t, { output := usage })
  | .ok (.run o) =>
    match o.dir with
    | none => (t, { exitCode := 1, errors := usage ++ "\n" })
    | some dir => runIn t programs o dir

end Registrar.CommandLine
