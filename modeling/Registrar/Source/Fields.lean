import Registrar.Source.Docs
import Registrar.Source.Imports
import Registrar.Model.Declaration
/-!
# Fields read from trees

Parameters, results, receivers and struct fields. A type is looked through layer by layer: pointers,
parentheses, element types and type arguments stand around a name or a map.
-/
namespace Registrar

namespace Tree

theorem size_lt_of_mem {t u : Tree} (h : u ∈ t.children) : u.size < t.size := by
  have all : ∀ {ts : List Tree}, u ∈ ts → u.size ≤ sizeAll ts := by
    intro ts
    induction ts with
    | nil => intro h; cases h
    | cons v vs ih =>
      intro h
      cases h with
      | head => simp [sizeAll]
      | tail _ h => have := ih h; simp [sizeAll]; omega
  have := all h
  rw [size_eq t]
  omega

/-- The type directly inside a type, where it has a distinguished one. -/
def innerType? (t : Tree) : Option Tree :=
  match t.kind with
  | .pointerType | .parenthesizedType => t.namedChildren.getLast?
  | .sliceType | .arrayType => t.child? .element
  | .genericType => t.child? .type
  | _ => none

theorem mem_children_of_innerType? {t u : Tree} (h : t.innerType? = some u) : u ∈ t.children := by
  unfold innerType? at h
  split at h
  · exact (List.mem_filter.1 (List.mem_of_getLast? h)).1
  · exact (List.mem_filter.1 (List.mem_of_getLast? h)).1
  · exact List.mem_of_find?_eq_some h
  · exact List.mem_of_find?_eq_some h
  · exact List.mem_of_find?_eq_some h
  · cases h

/-- A type and the types inside it, outermost first. -/
def typeLayers (t : Tree) : List Tree :=
  match h : t.innerType? with
  | none => [t]
  | some u =>
    have : u.size < t.size := size_lt_of_mem (mem_children_of_innerType? h)
    t :: u.typeLayers
termination_by t.size

end Tree

namespace Field

/-- A file's text and the short names of its imports. -/
structure Scope where
  source : Array Char
  names : ImportNames

def hasLayer (kinds : List NodeKind) (layers : List Tree) : Bool :=
  layers.any fun t => kinds.contains t.kind

/-- The import path of the package that qualifies a type. -/
def packageOf? (s : Scope) (layers : List Tree) : Option String :=
  ((layers.find? fun t => t.kind == .qualifiedType).bind (·.child? .package)).bind fun p =>
    s.names.resolve? (p.text s.source)

/-- An unnamed field of a type. -/
def ofType (s : Scope) (type : Tree) : Field :=
  let layers := type.typeLayers
  { name := ""
    typeName := type.text s.source
    packageName := packageOf? s layers
    isPointer := hasLayer [.pointerType] layers
    isSlice := hasLayer [.sliceType, .arrayType] layers
    isMap := hasLayer [.mapType] layers }

/-- The names that a declaration gives. -/
def namesOf (s : Scope) (t : Tree) : List String := (t.childrenWith .name).map (·.text s.source)

/-- The fields of one parameter declaration: one for each name, or an unnamed one. The last
parameter may stand for any number of arguments, which arrive as a slice. -/
def ofParameter (s : Scope) (t : Tree) : List Field :=
  match t.kind, t.child? .type with
  | .parameter, some type =>
    let field := ofType s type
    match namesOf s t with
    | [] => [field]
    | names => names.map fun n => { field with name := n }
  | .variadicParameter, some type =>
    let field := ofType s type
    [{ field with
        name := (namesOf s t).head?.getD ""
        typeName := "..." ++ field.typeName
        isSlice := true }]
  | _, _ => []

def ofParameters (s : Scope) (list : Tree) : List Field :=
  list.namedChildren.flatMap (ofParameter s)

/-- The fields of a result: a list of them or one type. -/
def ofResult (s : Scope) (t : Tree) : List Field :=
  if t.kind = .parameterList then ofParameters s t else [ofType s t]

/-- An embedded field takes its name from its type; a star before it stands outside the type. -/
def embedded (field : Field) (starred : Bool) : Field :=
  let field := if starred then
    { field with isPointer := true, typeName := "*" ++ field.typeName } else field
  { field with name := Text.onChars (Text.lastPiece '.') field.baseType }

/-- The fields of one struct field declaration. -/
def ofFieldDeclaration (s : Scope) (t : Tree) (before : List Tree) : List Field :=
  match t.child? .type with
  | none => []
  | some type =>
    let field := { ofType s type with
      tag := (t.child? .tag).map (·.text s.source)
      docs := t.docs s.source before }
    match namesOf s t with
    | [] => [embedded field (t.children.any fun c => c.kind == .mark "*")]
    | names => names.map fun n => { field with name := n }

/-- The fields of a struct type, in source order. -/
def ofStruct (s : Scope) (structType : Tree) : List Field :=
  (structType.children.filter fun c => c.kind == .fieldList).flatMap fun list =>
    list.childrenInPlace.flatMap fun (t, before) =>
      if t.kind = .field then ofFieldDeclaration s t before else []

end Field
end Registrar
