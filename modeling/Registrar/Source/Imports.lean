import Registrar.Source.Tree
import Registrar.Text.Basic
/-!
# Imports

What a file imports and the short names by which it refers to the imported packages. Of two imports
with one short name the later counts.
-/
namespace Registrar

structure Import where
  path : String
  /-- The name written before the path. -/
  localName : Option String := none
  span : Span := {}
deriving DecidableEq, Repr

namespace Import

/-- The name that stands for the package in the file. Blank and dot imports have none; without a
written name it is the last element of the path. -/
def shortName? (i : Import) : Option String :=
  match i.localName with
  | some "_" | some "." => none
  | some name => some name
  | none =>
    let last := Text.lastPiece '/' i.path.toList
    if last.isEmpty then none else some (String.ofList last)

def ofSpec? (source : Array Char) (spec : Tree) : Option Import :=
  (spec.child? .path).map fun path =>
    { path := String.ofList (Text.dropLiteralQuotes (path.textChars source))
      localName := (spec.child? .name).map (·.text source)
      span := spec.span }

/-- The imports of an import declaration, in source order. -/
def ofDeclaration (source : Array Char) (t : Tree) : List Import :=
  let specs := t.children.flatMap fun c =>
    if c.kind = .importList then c.children else [c]
  (specs.filter fun s => s.kind == .importSpec).filterMap (ofSpec? source)

end Import

/-- The paths of imported packages by short name. -/
structure ImportNames where
  entries : List (String × String) := []
deriving DecidableEq, Repr

namespace ImportNames

def put (name path : String) : List (String × String) → List (String × String)
  | [] => [(name, path)]
  | e :: es => if e.1 = name then (name, path) :: es else e :: put name path es

def register (ns : ImportNames) (i : Import) : ImportNames :=
  match i.shortName? with
  | some name => ⟨put name i.path ns.entries⟩
  | none => ns

def registerAll (ns : ImportNames) (is : List Import) : ImportNames := is.foldl register ns

def resolve? (ns : ImportNames) (name : String) : Option String :=
  (ns.entries.find? fun e => e.1 == name).map (·.2)

def size (ns : ImportNames) : Nat := ns.entries.length

def isEmpty (ns : ImportNames) : Bool := ns.entries.isEmpty

end ImportNames
end Registrar
