import Registrar.Path
/-!
# Declarations

What a source file declares at its top level: structs, operations (functions and methods),
interfaces, type definitions and enumerations, each with its documentation lines.
-/
namespace Registrar

/-- A field of a struct, a parameter, a result or a receiver. An unnamed one has an empty name. -/
structure Field where
  name : String
  typeName : String
  /-- The import path of a type from another package. -/
  packageName : Option String := none
  isPointer : Bool := false
  isSlice : Bool := false
  isMap : Bool := false
  tag : Option String := none
  docs : List String := []
deriving DecidableEq, Repr

/-- The name in a receiver type, without stars, parentheses and type arguments around it. -/
def Field.baseTypeChars (type : List Char) : List Char :=
  let s := type.dropWhile fun c => c == '*' || Text.isBlank c
  let s := Text.dropEndWhile (· == ')') (s.dropWhile (· == '('))
  let s := s.dropWhile (· == '*')
  Text.trim (s.takeWhile (· != '['))

def Field.baseType (f : Field) : String := Text.onChars baseTypeChars f.typeName

/-- A function or a method. -/
structure Operation where
  packageName : String
  filename : String
  name : String
  line : Nat
  docs : List String := []
  inputs : List Field := []
  outputs : List Field := []
  receiver : Option Field := none
deriving DecidableEq, Repr

namespace Operation

/-- What identifies the registration of an operation inside its package. -/
def handlerKey (op : Operation) : String := op.filename ++ op.name

def isMethod (op : Operation) : Bool := op.receiver.isSome

def directory (op : Operation) : String := Path.directoryOf op.filename

end Operation

structure Struct where
  name : String
  packageName : String
  filename : String
  fields : List Field := []
  docs : List String := []
  /-- Positions of the methods in the model's list of operations. -/
  operations : List Nat := []
deriving DecidableEq, Repr

structure Interface where
  name : String
  packageName : String
  filename : String
  docs : List String := []
  methods : List Operation := []
deriving DecidableEq, Repr

/-- A type definition that is neither a struct nor an interface. `underlying` is empty unless the
type is a plain name. -/
structure Typedef where
  name : String
  packageName : String
  filename : String
  underlying : String := ""
  docs : List String := []
deriving DecidableEq, Repr

structure EnumLiteral where
  name : String
  value : String
deriving DecidableEq, Repr

/-- A group of constants of a named type. -/
structure Enum where
  name : String
  packageName : String
  filename : String
  docs : List String := []
  literals : List EnumLiteral := []
deriving DecidableEq, Repr

/-- Everything that one file declares, in source order. -/
structure Declarations where
  packageName : String
  filename : String
  structs : List Struct := []
  operations : List Operation := []
  interfaces : List Interface := []
  typedefs : List Typedef := []
  enums : List Enum := []
deriving DecidableEq, Repr

end Registrar
