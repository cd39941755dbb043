import Registrar.Directive.Basic
import Registrar.Directive.Quoting
/-!
# Reading directives

From a comment line to the arguments of the directive in it. The arguments are separated by commas
and each is a key, an equals sign and a value; commas and equals signs inside quotations belong to
the text around them. Blank segments are skipped.
-/
namespace Registrar.Directive
open Text

/-- The word that starts a directive. -/
def marker : List Char := "@Handler".toList

/-! ## The directive in a comment -/

/-- The text of a comment line without its comment marks. -/
def stripComment (line : List Char) : List Char :=
  let line := trim line
  match after? ['/', '/'] line with
  | some rest => trimStart rest
  | none =>
    match after? ['/', '*'] line with
    | some rest => trim ((before? ['*', '/'] rest).getD rest)
    | none => line

/-- The directive that a comment line holds. -/
def text? (line : List Char) : Option (List Char) :=
  let text := stripComment line
  if marker.isPrefixOf text then some text else none

/-- Trims a value and takes off one pair of double quotes around it. -/
def unquoteChars (raw : List Char) : List Char :=
  let raw := trim raw
  match after? ['"'] raw with
  | some rest => (before? ['"'] rest).getD raw
  | none => raw

def unquote (raw : String) : String := onChars unquoteChars raw

/-! ## Arguments -/

/-- What stands between the parentheses. -/
def inner? (text : List Char) : Option (List Char) :=
  let body := trim ((after? marker (trim text)).getD text)
  (after? ['('] body).bind (before? [')'])

/-- A key and its raw value. -/
abbrev Pair := List Char × List Char

/-- Reads one segment, given the arguments before it. -/
def readSegment (seen : List Pair) (segment : List Char) : Except DirectiveError Pair :=
  match Quoting.firstOutside? '=' segment with
  | none => .error (.missingEquals (String.ofList segment))
  | some i =>
    let key := trim (segment.take i)
    if key.isEmpty then .error (.emptyKey (String.ofList segment))
    else if seen.any fun p => p.1 == key then .error (.duplicateKey (String.ofList key))
    else .ok (key, trim (segment.drop (i + 1)))

/-- Reads the segments from the left; the first defect ends the reading. -/
def readSegments (seen : List Pair) : List (List Char) → Except DirectiveError (List Pair)
  | [] => .ok seen
  | s :: rest =>
    let segment := trim s
    if segment.isEmpty then readSegments seen rest
    else match readSegment seen segment with
      | .error e => .error e
      | .ok p => readSegments (seen ++ [p]) rest

/-- Reads the arguments of a directive. -/
def readPairs (text : List Char) : Except DirectiveError (List Pair) :=
  match inner? text with
  | none => .error .missingParens
  | some inner =>
    match Quoting.split? ',' inner with
    | none => .error .unterminatedQuote
    | some segments =>
      match readSegments [] segments with
      | .error e => .error e
      | .ok pairs =>
        if pairs.any fun p => p.1 == "type".toList then .ok pairs else .error .missingType

/-- The arguments of a directive as stored text. -/
def read (text : String) : Except DirectiveError (List (String × String)) :=
  (readPairs text.toList).map fun pairs =>
    pairs.map fun p => (String.ofList p.1, String.ofList p.2)

end Registrar.Directive
