import Registrar.Text.Basic
/-!
# JSON text

Values and their indented form: two spaces a level, one member a line, and empty lists without a
line end.
-/
namespace Registrar

inductive JsonValue where
  | null
  | bool (b : Bool)
  | number (n : Nat)
  | text (s : String)
  | list (items : List JsonValue)
  /-- Members in the order in which they are written. -/
  | object (members : List (String × JsonValue))

namespace JsonValue

def ofOption (s : Option String) : JsonValue := (s.map text).getD null

def texts (l : List String) : JsonValue := list (l.map text)

/-- The letters of the escapes that have one. -/
def escapeLetters : List (Char × Char) :=
  [('"', '"'), ('\\', '\\'), ('\n', 'n'), ('\r', 'r'), ('\t', 't'), ('\x08', 'b'), ('\x0c', 'f')]

/-- Control characters, quotes and backslashes are escaped; all else stands as it is. -/
def escape (c : Char) : List Char :=
  match escapeLetters.lookup c with
  | some l => ['\\', l]
  | none =>
    if c.toNat < 0x20 then '\\' :: 'u' :: (Text.hex 4 c.toNat).map Char.toLower else [c]

def quote (s : String) : String := "\"" ++ Text.onChars (·.flatMap escape) s ++ "\""

/-- A line end and the indentation of a level. -/
def newLine (level : Nat) : String := "\n" ++ String.ofList (List.replicate (2 * level) ' ')

/-- Items between brackets, one a line. -/
def bracketed (openMark closeMark : String) (level : Nat) (items : List String) : String :=
  if items.isEmpty then openMark ++ closeMark
  else
    openMark ++ Text.joinWith "," (items.map (newLine (level + 1) ++ ·)) ++ newLine level ++
      closeMark

mutual

/-- The indented form of a value inside a number of levels. -/
def pretty (level : Nat) : JsonValue → String
  | null => "null"
  | bool b => if b then "true" else "false"
  | number n => toString n
  | text s => quote s
  | list items => bracketed "[" "]" level (prettyItems (level + 1) items)
  | object members => bracketed "\x7b" "\x7d" level (prettyMembers (level + 1) members)

def prettyItems (level : Nat) : List JsonValue → List String
  | [] => []
  | v :: vs => pretty level v :: prettyItems level vs

def prettyMembers (level : Nat) : List (String × JsonValue) → List String
  | [] => []
  | (k, v) :: rest => (quote k ++ ": " ++ pretty level v) :: prettyMembers level rest

end

end JsonValue
end Registrar
