import Registrar.FileTree
import Registrar.Log
import Registrar.Output.Formatter
import Registrar.Output.Template
/-!
# Generated files

Every package and channel with a record has one generated file. Two files at one place are refused
before anything is written; after that files are written one by one, up to the first that cannot be
formatted or written.
-/
namespace Registrar

structure GeneratedFile where
  packageName : String
  directory : String
  channel : Channel
  path : String
  contents : String
  /-- The number of constructor calls in the file. -/
  registrations : Nat
deriving DecidableEq, Repr

/-- How files are generated. -/
structure Synthesis where
  markers : Markers
  fileStem : String := "gen_"
  formatter : Formatter := .builtin
  programs : Programs := Programs.none
  dryRun : Bool := false

/-- A file to generate. -/
structure Target where
  package : PackageEntries
  channel : Channel
  path : String
deriving DecidableEq, Repr

namespace Synthesis

/-- Where the file of a channel goes. -/
def targetPath (s : Synthesis) (root : String) (p : PackageEntries) (c : Channel) : String :=
  let directory := if p.directory.isEmpty then root else Path.join root p.directory
  Path.join directory (c.fileName s.fileStem)

/-- The files to generate: by package, then by channel. -/
def targets (s : Synthesis) (root : String) (r : Registry) : List Target :=
  r.packages.flatMap fun p => p.active.map fun c => ⟨p, c, s.targetPath root p c⟩

/-- The first target at the place of an earlier one, after that earlier one. -/
def collision? (earlier : List Target) : List Target → Option (Target × Target)
  | [] => none
  | t :: rest =>
    match earlier.find? fun e => Path.same e.path t.path with
    | some e => some (e, t)
    | none => collision? (t :: earlier) rest

def collisionFailure (first second : Target) : Failure :=
  { kind := .synthesis
    message := "packages " ++ first.package.name ++ " and " ++ second.package.name ++
      " both generate " ++ second.path
    file := second.path }

/-- Renders and formats the file of a target. -/
def file (s : Synthesis) (t : Target) : Except Failure GeneratedFile :=
  let entries := t.package.channel t.channel
  let rendered := Template.render t.package.name entries (Schema.ofChannel s.markers t.channel)
  match s.formatter.format s.programs rendered t.path with
  | .error e => .error { e with message := "package " ++ t.package.name ++ ": " ++ e.message }
  | .ok contents => .ok
    { packageName := t.package.name
      directory := t.package.directory
      channel := t.channel
      path := t.path
      contents
      registrations := entries.keys.length }

def writtenEvent (f : GeneratedFile) : LogEvent :=
  { level := .info, message := "Generated file written",
    fields := [("path", f.path), ("package", f.packageName), ("channel", f.channel.name),
      ("registrations", toString f.registrations)] }

def notWrittenEvent (f : GeneratedFile) : LogEvent :=
  { level := .debug, message := "Dry run; not writing", fields := [("path", f.path)] }

def writeFailure (f : GeneratedFile) (e : SystemError) : Failure :=
  { kind := .io
    message := "failed to write generated file: " ++ e.text
    file := f.path
    cause := e.text }

/-- Writes a file, unless nothing is to be written. -/
def store (s : Synthesis) (tree : FileTree) (f : GeneratedFile) :
    Except Failure (FileTree × LogEvent) :=
  if s.dryRun then .ok (tree, notWrittenEvent f)
  else match tree.write f.path (Text.Utf8.encode f.contents) with
    | .ok tree => .ok (tree, writtenEvent f)
    | .error e => .error (writeFailure f e)

/-- Generates the targets in order. The tree holds what was written before a failure. -/
def generate (s : Synthesis) : FileTree → List Target →
    FileTree × Logged Failure (List GeneratedFile)
  | tree, [] => (tree, .ok [])
  | tree, t :: rest =>
    match s.file t with
    | .error e => (tree, .fail e)
    | .ok f =>
      match s.store tree f with
      | .error e => (tree, .fail e)
      | .ok (written, event) =>
        let (final, log, result) := generate s written rest
        (final, event :: log, result.map (f :: ·))

/-- Generates all files of a registry, unless two of them would be at one place. -/
def run (s : Synthesis) (tree : FileTree) (root : String) (r : Registry) :
    FileTree × Logged Failure (List GeneratedFile) :=
  let targets := s.targets root r
  match collision? [] targets with
  | some (first, second) => (tree, .fail (collisionFailure first second))
  | none => s.generate tree targets

end Synthesis
end Registrar
