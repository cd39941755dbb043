import Registrar.Discovery
import Registrar.Model.CrossReference
import Registrar.Output.Synthesis
import Registrar.Registry.Interpreter
/-!
# The run over a source tree

Files are discovered and read into a model, its cross references are made, its directives are
interpreted, and the generated files are written. The first failure ends the run.
-/
namespace Registrar

/-- A run with its settings. -/
structure Pipeline where
  checked : CheckedSettings
  programs : Programs := Programs.none
  dryRun : Bool := false

/-- What a finished run gives. -/
structure RunResult where
  model : Model
  report : LinkReport
  files : List GeneratedFile
  dryRun : Bool
  /-- The number of packages with directives. -/
  packages : Nat

namespace Pipeline

/-- The stages in order. -/
def stages : List String := ["extract", "cross_reference", "interpret", "synthesize"]

/-! ## Reading the model -/

def readFailure (f : FoundFile) (e : SystemError) : Failure :=
  { kind := .io
    message := "failed to read source: " ++ e.text
    file := f.relative
    cause := e.text }

/-- The declarations of one file; none when a build constraint excludes it. -/
def readFile (t : FileTree) (f : FoundFile) : Except Failure (Option Declarations) :=
  match t.readText f.path with
  | .error e => .error (readFailure f e)
  | .ok text => (SourceFile.read f.relative text).bind (·.declarations)

def extractedEvent (f : FoundFile) (d : Declarations) : LogEvent :=
  { level := .debug, message := "Extracted declarations",
    fields := [("file", f.relative), ("package", d.packageName),
      ("operations", toString d.operations.length), ("structs", toString d.structs.length)] }

def excludedEvent (f : FoundFile) : LogEvent :=
  { level := .debug, message := "Skipping file excluded by build constraint",
    fields := [("file", f.relative)] }

/-- Adds files to a model; the second number counts the excluded ones. -/
def readFiles (t : FileTree) (m : Model) (skipped : Nat) :
    List FoundFile → Logged Failure (Model × Nat)
  | [] => .ok (m, skipped)
  | f :: rest =>
    match readFile t f with
    | .error e => .fail e
    | .ok (some d) =>
      Logged.andThen (.event (extractedEvent f d)) fun _ => readFiles t (m.addFile d) skipped rest
    | .ok none =>
      Logged.andThen (.event (excludedEvent f)) fun _ => readFiles t m (skipped + 1) rest

def modelEvent (files skipped : Nat) (m : Model) : LogEvent :=
  { level := .info, message := "Model extracted",
    fields := [("files", toString files), ("skipped", toString skipped),
      ("packages", toString m.packages.length), ("structs", toString m.structs.length),
      ("operations", toString m.operations.length),
      ("interfaces", toString m.interfaces.length), ("typedefs", toString m.typedefs.length),
      ("enums", toString m.enums.length)] }

/-- The model of all files below a directory. -/
def readModel (p : Pipeline) (t : FileTree) (root : String) : Logged Failure Model :=
  Logged.andThen (Discovery.discover t p.checked root) fun files =>
    Logged.andThen (readFiles t { root } 0 files) fun (m, skipped) =>
      Logged.andThen (.event (modelEvent files.length skipped m)) fun _ => .ok m

/-- The model with its cross references. -/
def extract (p : Pipeline) (t : FileTree) (root : String) : Logged Failure (Model × LinkReport) :=
  Logged.andThen (p.readModel t root) fun m =>
    let (log, m, report) := m.crossReference
    (log, .ok (m, report))

/-! ## The whole run -/

def interpreter (p : Pipeline) : Interpreter :=
  { framework := p.checked.settings.framework
    multipart := p.checked.settings.multipart
    package := p.checked.settings.package }

def synthesis (p : Pipeline) : Synthesis :=
  { markers := p.interpreter.markers
    fileStem := p.checked.settings.fileStem
    formatter := p.checked.settings.chosenFormatter
    programs := p.programs
    dryRun := p.dryRun }

/-- The stages that only read. -/
def prepare (p : Pipeline) (t : FileTree) (root : String) :
    Logged Failure (Model × LinkReport × Registry) :=
  Logged.andThen (p.extract t root) fun (m, report) =>
    Logged.andThen (p.interpreter.interpret m.operations) fun registry =>
      .ok (m, report, registry)

def startEvent (p : Pipeline) (root : String) : LogEvent :=
  { level := .info, message := "Starting generation",
    fields := [("root", root), ("dry_run", if p.dryRun then "true" else "false")] }

/-- The number of registrations in all files. -/
def registrations (files : List GeneratedFile) : Nat :=
  files.foldr (fun f n => f.registrations + n) 0

def endEvent (files : List GeneratedFile) (report : LinkReport) : LogEvent :=
  { level := .info, message := "Generation complete",
    fields := [("files", toString files.length), ("registrations", toString (registrations files)),
      ("link_warnings", toString report.warnings.length)] }

/-- Runs all stages. Only the last one changes the tree. -/
def run (p : Pipeline) (t : FileTree) (root : String) : FileTree × Logged Failure RunResult :=
  match p.prepare t root with
  | (log, .error e) => (t, p.startEvent root :: log, .error e)
  | (log, .ok (model, report, registry)) =>
    match p.synthesis.run t root registry with
    | (final, more, .error e) => (final, p.startEvent root :: log ++ more, .error e)
    | (final, more, .ok files) =>
      (final, p.startEvent root :: log ++ more ++ [endEvent files report],
        .ok { model, report, files, dryRun := p.dryRun, packages := registry.size })

end Pipeline
end Registrar
