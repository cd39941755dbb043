import Registrar.Failure
import Registrar.Source.Fields
import Registrar.Source.Grammar
/-!
# Declarations read from a source file

Every declaration at the top level of a file gives its entities: a type gives a struct, an
interface or a type definition, a function or method gives an operation, and a group of constants
of a named type gives an enumeration. Nothing below the top level is looked at.
-/
namespace Registrar

/-- Source text that follows the grammar, with its tree. -/
structure SourceFile where
  filename : String
  source : Array Char
  tree : Tree

namespace SourceFile

/-- A file with the tree of its text. Where a text without a tree breaks the grammar is not searched for:
the failure names the first line. -/
def ofTree? (filename : String) (source : String) : Option Tree → Except Failure SourceFile
  | some tree => .ok { filename, source := source.toList.toArray, tree }
  | none => .error { kind := .parse, message := "syntax error", file := filename, line := some 1 }

/-- Reads source text. -/
def read (filename : String) (source : String) : Except Failure SourceFile :=
  ofTree? filename source (GoGrammar.parse? source.toList)

def isBlank (f : SourceFile) : Bool := f.source.all Text.isBlank

def languageName : String := "go"

def supportsExtension (extension : String) : Bool := extension == "go"

/-! ## Entities -/

/-- One thing that a file declares. -/
inductive Entity where
  | struct (s : Struct)
  | operation (o : Operation)
  | interface (i : Interface)
  | typedef (t : Typedef)
  | enum (e : Enum)
deriving DecidableEq, Repr

/-- What is the same for all entities of a file, and the imports before a declaration. -/
structure Place extends Field.Scope where
  packageName : String
  filename : String

def nameOf? (p : Place) (t : Tree) : Option String := (t.child? .name).map (·.text p.source)

def parametersOf (p : Place) (t : Tree) : List Field :=
  ((t.child? .parameters).map (Field.ofParameters p.toScope)).getD []

def resultsOf (p : Place) (t : Tree) : List Field :=
  ((t.child? .result).map (Field.ofResult p.toScope)).getD []

/-- The operation of a function, a method or an interface method. -/
def operation? (p : Place) (t : Tree) (before : List Tree) : Option Operation :=
  (nameOf? p t).map fun name =>
    { packageName := p.packageName
      filename := p.filename
      name
      line := t.start.row + 1
      docs := t.docs p.source before
      inputs := parametersOf p t
      outputs := resultsOf p t
      receiver := (t.child? .receiver).bind fun r => (Field.ofParameters p.toScope r).head? }

/-- The methods of an interface; embedded types and unions are skipped. -/
def methodsOf (p : Place) (interfaceType : Tree) : List Operation :=
  interfaceType.childrenInPlace.filterMap fun (t, before) =>
    if t.kind = .method then operation? p t before else none

/-- The entity of a type with its documentation. The underlying type is kept only when it is a plain
name. -/
def typeEntity? (p : Place) (spec : Tree) (docs : List String) : Option Entity :=
  match nameOf? p spec, spec.child? .type with
  | some name, some type =>
    let packageName := p.packageName
    let filename := p.filename
    if spec.kind = .typeSpec ∧ type.kind = .structType then
      some (.struct
        { name, packageName, filename, docs, fields := Field.ofStruct p.toScope type })
    else if spec.kind = .typeSpec ∧ type.kind = .interfaceType then
      some (.interface { name, packageName, filename, docs, methods := methodsOf p type })
    else
      let underlying := if type.kind = .typeName then type.text p.source else ""
      some (.typedef { name, packageName, filename, underlying, docs })
  | _, _ => none

def isTypeItem (t : Tree) : Bool := t.kind == .typeSpec || t.kind == .typeAlias

/-- The entities of a type declaration. A type without documentation of its own has that of its
declaration. -/
def typeEntities (p : Place) (t : Tree) (before : List Tree) : List Entity :=
  let groupDocs := t.docs p.source before
  t.childrenInPlace.filterMap fun (spec, above) =>
    if isTypeItem spec then
      let own := spec.docs p.source above
      typeEntity? p spec (if own.isEmpty then groupDocs else own)
    else none

/-! ## Enumerations -/

def isBasicLiteral (t : Tree) : Bool :=
  match t.kind with
  | .string | .rawString | .int | .float | .imaginary | .rune => true
  | _ => false

/-- The first literal among the values of a constant, without its quotes. -/
def literalValue? (p : Place) (spec : Tree) : Option String :=
  ((spec.child? .value).bind fun v => v.namedChildren.find? isBasicLiteral).map fun l =>
    String.ofList (Text.dropLiteralQuotes (l.textChars p.source))

/-- The plain type name that a constant is declared with. -/
def constantType? (p : Place) (spec : Tree) : Option String :=
  (spec.child? .type).bind fun t =>
    if t.kind = .typeName then some (t.text p.source) else none

/-- A constant declaration is an enumeration when one of its constants names a type; the first such
type is its name. -/
def enum? (p : Place) (t : Tree) : Option Enum :=
  let specs := t.namedChildren.filter fun c => c.kind == .constSpec
  (specs.findSome? (constantType? p)).map fun name =>
    { name
      packageName := p.packageName
      filename := p.filename
      literals := specs.filterMap fun s =>
        (nameOf? p s).map fun n => ⟨n, (literalValue? p s).getD ""⟩ }

/-! ## Files -/

/-- The entities of one declaration at the top level. -/
def entitiesOf (p : Place) (t : Tree) (before : List Tree) : List Entity :=
  match t.kind with
  | .typeDeclaration => typeEntities p t before
  | .functionDeclaration | .methodDeclaration =>
    ((operation? p t before).map Entity.operation).toList
  | .constDeclaration => ((enum? p t).map Entity.enum).toList
  | _ => []

/-- The entities of declarations in order. An import is known to the declarations after it. -/
def collect (p : Place) : List (Tree × List Tree) → List Entity
  | [] => []
  | (t, before) :: rest =>
    if t.kind = .importDeclaration then
      collect { p with names := p.names.registerAll (Import.ofDeclaration p.source t) } rest
    else entitiesOf p t before ++ collect p rest

/-- Divides the entities of a file by what they are; each list keeps their order. -/
def declarationsOf (packageName filename : String) (es : List Entity) : Declarations :=
  { packageName
    filename
    structs := es.filterMap fun | .struct s => some s | _ => none
    operations := es.filterMap fun | .operation o => some o | _ => none
    interfaces := es.filterMap fun | .interface i => some i | _ => none
    typedefs := es.filterMap fun | .typedef t => some t | _ => none
    enums := es.filterMap fun | .enum e => some e | _ => none }

/-- The build constraints that keep a file out of the model. -/
def excludingConstraints : List String := ["// +build !appengine", "//go:build !appengine"]

def isExcluded (f : SourceFile) : Bool :=
  f.tree.children.any fun c =>
    c.isComment &&
      excludingConstraints.contains (String.ofList (Text.trimEnd (c.textChars f.source)))

/-- The name in the first package clause. -/
def packageName? (f : SourceFile) : Option String :=
  ((f.tree.childOfKind? .packageClause).bind (·.childOfKind? .packageName)).map (·.text f.source)

/-- All imports at the top level, in source order. -/
def imports (f : SourceFile) : List Import :=
  (f.tree.children.filter fun c => c.kind == .importDeclaration).flatMap
    (Import.ofDeclaration f.source)

/-- The declarations of a file; none when a build constraint excludes it, whatever else it lacks. -/
def declarations (f : SourceFile) : Except Failure (Option Declarations) :=
  if f.isExcluded then .ok none
  else match f.packageName? with
    | none => .error { kind := .parse, message := "missing package clause", file := f.filename }
    | some packageName =>
      let place : Place := { source := f.source, names := {}, packageName, filename := f.filename }
      .ok (some (declarationsOf packageName f.filename (collect place f.tree.childrenInPlace)))

/-- The first struct type anywhere in the file, with its fields. -/
def firstStruct? (f : SourceFile) : Option (Span × List Field) :=
  let scope : Field.Scope :=
    { source := f.source, names := ({} : ImportNames).registerAll f.imports }
  (f.tree.descendant? .structType).map fun t => (t.span, Field.ofStruct scope t)

end SourceFile
end Registrar
