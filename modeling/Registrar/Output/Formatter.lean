import Registrar.Output.Layout
import Registrar.Source.Extraction
import Registrar.Text.Utf8
/-!
# Formatters

A rendered file is formatted before it is written: either by the layout pass, after a check against
the grammar, or by an external program that reads the source and prints the formatted text.
-/
namespace Registrar

inductive FormatterKind where
  | builtin
  | gofmt
deriving DecidableEq, Repr

namespace FormatterKind

def all : List FormatterKind := [builtin, gofmt]

def name : FormatterKind → String
  | builtin => "builtin"
  | gofmt => "gofmt"

/-- The formatter of exactly this name. -/
def ofName? (s : String) : Option FormatterKind := all.find? fun k => k.name == s

/-- The formatter of a name in any mix of cases. -/
def ofText? (s : String) : Option FormatterKind := ofName? (Text.onChars (·.map Char.toLower) s)

end FormatterKind

/-- What a program left when it ended. -/
structure ProgramResult where
  output : List UInt8 := []
  errors : List UInt8 := []
  succeeded : Bool := true

/-- The programs that can be run: a name gives a function from the input text, or the text of the
system's error. -/
abbrev Programs := String → Except String (String → ProgramResult)

/-- No program is installed. -/
def Programs.none : Programs := fun _ => .error "No such file or directory (os error 2)"

inductive Formatter where
  | builtin
  | external (program : String)
deriving DecidableEq, Repr

namespace Formatter

def kind : Formatter → FormatterKind
  | builtin => .builtin
  | external _ => .gofmt

def failure (filename message : String) : Failure :=
  { kind := .synthesis, message, file := filename }

/-- The layout pass over source that follows the grammar. -/
def layout (source filename : String) : Except Failure String :=
  match SourceFile.read filename source with
  | .ok _ => .ok (Layout.reindent source)
  | .error e =>
    let message := "generated code is not valid Go: " ++ e.message
    .error { failure filename message with line := e.line }

/-- A 32-bit number in decimal, perhaps with a plus sign. -/
def word32? (s : List Char) : Option Nat :=
  (Text.number? ((Text.after? ['+'] s).getD s)).filter (· < 0x100000000)

/-- The line that the first error line names: `<standard input>:LINE:…`. -/
def errorLine? (errors : String) : Option Nat :=
  ((Text.lines errors.toList).head?.bind (Text.after? "<standard input>:".toList)).bind fun s =>
    word32? (s.takeWhile (· != ':'))

/-- Runs the source through a program. -/
def pipe (programs : Programs) (program source filename : String) : Except Failure String :=
  match programs program with
  | .error text =>
    .error ((failure filename ("failed to run " ++ program ++ ": " ++ text)).causedBy text)
  | .ok run =>
    let result := run source
    if result.succeeded then
      match Text.Utf8.decode? result.output with
      | some text => .ok text
      | none => .error (failure filename "gofmt produced non-UTF-8 output")
    else
      let errors := Text.Utf8.decodeLenient result.errors
      let message := "gofmt rejected generated code: " ++ Text.onChars Text.trim errors
      .error { failure filename message with line := errorLine? errors }

def format (programs : Programs) : Formatter → (source filename : String) → Except Failure String
  | builtin, source, filename => layout source filename
  | external program, source, filename => pipe programs program source filename

end Formatter
end Registrar
