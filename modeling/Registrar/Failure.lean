/-!
# Failures

What stops a run: a kind, a message, the place it concerns and the text of its cause. A failure is
a value; `Failure.display` is its one-line form.
-/
namespace Registrar

/-- The stage that a failure comes from. -/
inductive FailureKind where
  | parse
  | directive
  | synthesis
  | config
  | io
  | internal
deriving DecidableEq, Repr

namespace FailureKind

def all : List FailureKind := [parse, directive, synthesis, config, io, internal]

def name : FailureKind → String
  | parse => "parse"
  | directive => "directive"
  | synthesis => "synthesis"
  | config => "config"
  | io => "io"
  | internal => "internal"

def ofName? (s : String) : Option FailureKind := all.find? fun k => k.name == s

end FailureKind

/-- A failure with its place and the text of what caused it, where they are known. -/
structure Failure where
  kind : FailureKind
  message : String
  file : Option String := none
  line : Option Nat := none
  cause : Option String := none
deriving DecidableEq, Repr

namespace Failure

def inFile (f : Failure) (file : String) : Failure := { f with file := some file }

def atLine (f : Failure) (line : Nat) : Failure := { f with line := some line }

def causedBy (f : Failure) (cause : String) : Failure := { f with cause := some cause }

/-- The failure of an access to the file system, from the text of the system's error. -/
def ofSystem (text : String) : Failure :=
  { kind := .io, message := "IO error: " ++ text, cause := some text }

/-- The place is written only with its file: a line alone says nothing. -/
def place (f : Failure) : String :=
  match f.file, f.line with
  | some file, some line => " in " ++ file ++ ":" ++ toString line
  | some file, none => " in " ++ file
  | none, _ => ""

def display (f : Failure) : String :=
  "[" ++ f.kind.name ++ "] " ++ f.message ++ f.place

/-- The failure and its cause, one line each, as the command line shows them. -/
def report (f : Failure) : String :=
  "error: " ++ f.display ++ "\n" ++
    match f.cause with
    | some c => "  caused by: " ++ c ++ "\n"
    | none => ""

end Failure
end Registrar
