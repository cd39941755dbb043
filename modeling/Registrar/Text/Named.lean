import Registrar.Text.Age
import Registrar.Text.Segment
/-!
# Sets by name

A set of characters is named by a property, a category or a script, or by a property and one of its
values. Names are compared loosely: case, spaces and separators do not count, nor does an `is`
before the name.
-/
namespace Registrar.Text

def isSeparator (c : Char) : Bool := c == ' ' || c == '_' || c == '-'

/-- The letters of a name, in lower case; what is not ASCII is dropped. -/
def plainName (s : List Char) : List Char :=
  (s.filter fun c => !isSeparator c && c.toNat < 0x80).map Char.toLower

/-- The form in which names are compared. The short name of one property is `isc`, which keeps its
first letters. -/
def looseName (s : List Char) : String :=
  if plainName (s.take 2) == ['i', 's'] then
    let rest := plainName (s.drop 2)
    String.ofList (if rest == ['c'] then ['i', 's', 'c'] else rest)
  else String.ofList (plainName s)

/-- The set of a single name: of a binary property, else of a category, else of a script. -/
def namedSet? (s : List Char) : Option CharSet :=
  let name := looseName s
  (property? name).or ((category? name).or (script? name))

/-- The set of the characters for which a property has a value. -/
def valuedSet? (property value : List Char) : Option CharSet :=
  let value := looseName value
  match looseName property with
  | "gc" | "generalcategory" => category? value
  | "sc" | "script" => script? value
  | "scx" | "scriptextensions" => scriptUse? value
  | "age" => age? value
  | "gcb" | "graphemeclusterbreak" => graphemeBreak? value
  | "wb" | "wordbreak" => wordBreak? value
  | "sb" | "sentencebreak" => sentenceBreak? value
  | _ => none

end Registrar.Text
