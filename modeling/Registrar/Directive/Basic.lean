import Registrar.Text.Basic
/-!
# Directives

A directive is a comment line `@Handler(key=value, …)`. Its `type` argument says what it is for;
the other arguments are kept as written.
-/
namespace Registrar

/-- Why the text of a directive is rejected. -/
inductive DirectiveError where
  | missingParens
  | unterminatedQuote
  | missingEquals (segment : String)
  | emptyKey (segment : String)
  | duplicateKey (key : String)
  | missingType
deriving DecidableEq, Repr

def DirectiveError.message : DirectiveError → String
  | missingParens => "directive arguments must be enclosed in parentheses"
  | unterminatedQuote => "unterminated quote in directive"
  | missingEquals segment => "missing '=' in segment '" ++ segment ++ "'"
  | emptyKey segment => "empty key in segment '" ++ segment ++ "'"
  | duplicateKey key => "duplicate key '" ++ key ++ "'"
  | missingType => "missing 'type' field"

/-- What a directive asks for. -/
inductive DirectiveKind where
  | api
  | validLimit
  | validFile
deriving DecidableEq, Repr

namespace DirectiveKind

def name : DirectiveKind → String
  | api => "api"
  | validLimit => "valid.limit"
  | validFile => "valid.file"

/-- The kinds in the order in which a `type` value is searched for them. -/
def searched : List DirectiveKind := [validLimit, validFile, api]

/-- The first kind whose name occurs in the value. -/
def ofType? (value : String) : Option DirectiveKind :=
  searched.find? fun k => Text.occurs k.name.toList value.toList

end DirectiveKind

/-- A recognised directive: its arguments other than `type`, in order, and its text. -/
structure Directive where
  kind : DirectiveKind
  args : List (String × String)
  text : String
deriving DecidableEq, Repr

/-- The raw value of an argument. -/
def Directive.get? (d : Directive) (key : String) : Option String :=
  d.args.lookup key

end Registrar
