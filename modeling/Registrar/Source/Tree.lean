import Registrar.Source.Position
/-!
# Trees of Go source text

A tree has one node per construct and one leaf per token and comment. A comment between two tokens
is a child of the smallest node that holds both. A child may have a role in its parent.
-/
namespace Registrar

/-- What a node stands for. Constructs that nothing asks about share `expression`, `statement` and
`clause`. -/
inductive NodeKind where
  | mark (text : String)
  | comment
  | word
  | packageName
  | typeName
  | dot
  | string
  | rawString
  | int
  | float
  | imaginary
  | rune
  | sourceFile
  | packageClause
  | importDeclaration
  | importList
  | importSpec
  | constDeclaration
  | constSpec
  | varDeclaration
  | varSpec
  | typeDeclaration
  | typeSpec
  | typeAlias
  | functionDeclaration
  | methodDeclaration
  | parameterList
  | parameter
  | variadicParameter
  | typeParameterList
  | parenthesizedType
  | pointerType
  | sliceType
  | arrayType
  | mapType
  | channelType
  | functionType
  | structType
  | fieldList
  | field
  | interfaceType
  | method
  | typeElement
  | qualifiedType
  | genericType
  | typeArguments
  | expressionList
  | expression
  | literalValue
  | block
  | statement
  | clause
deriving DecidableEq, Repr, Hashable

/-- What a child is to its parent. -/
inductive Role where
  | name
  | type
  | value
  | path
  | package
  | element
  | receiver
  | parameters
  | result
  | body
  | tag
deriving DecidableEq, Repr, Hashable

inductive Tree where
  | node (role : Option Role) (kind : NodeKind) (start stop : Position) (children : List Tree)
deriving Repr

namespace Tree

def role : Tree → Option Role
  | node r _ _ _ _ => r

def kind : Tree → NodeKind
  | node _ k _ _ _ => k

def start : Tree → Position
  | node _ _ s _ _ => s

def stop : Tree → Position
  | node _ _ _ e _ => e

def children : Tree → List Tree
  | node _ _ _ _ cs => cs

def withRole (t : Tree) (r : Role) : Tree :=
  match t with
  | node _ k s e cs => node (some r) k s e cs

def withKind (t : Tree) (k : NodeKind) : Tree :=
  match t with
  | node r _ s e cs => node r k s e cs

/-- Marks of punctuation and keywords are unnamed; all other nodes are named. -/
def isNamed (t : Tree) : Bool :=
  match t.kind with
  | .mark _ => false
  | _ => true

def namedChildren (t : Tree) : List Tree := t.children.filter isNamed

/-- The first child with a role. -/
def child? (t : Tree) (r : Role) : Option Tree := t.children.find? fun c => c.role == some r

/-- All children with a role. -/
def childrenWith (t : Tree) (r : Role) : List Tree := t.children.filter fun c => c.role == some r

/-- The first child of a kind. -/
def childOfKind? (t : Tree) (k : NodeKind) : Option Tree := t.children.find? fun c => c.kind == k

def span (t : Tree) : Span := Span.between t.start t.stop

/-- The text that a node covers. -/
def textChars (source : Array Char) (t : Tree) : List Char :=
  (source.extract t.start.offset t.stop.offset).toList

def text (source : Array Char) (t : Tree) : String := String.ofList (t.textChars source)

/-! ## Searching -/

mutual

/-- The number of nodes. -/
def size : Tree → Nat
  | node _ _ _ _ cs => 1 + sizeAll cs

def sizeAll : List Tree → Nat
  | [] => 0
  | t :: ts => t.size + sizeAll ts

end

theorem sizeAll_append (as bs : List Tree) : sizeAll (as ++ bs) = sizeAll as + sizeAll bs := by
  induction as with
  | nil => simp [sizeAll]
  | cons t ts ih => simp [sizeAll, ih, Nat.add_assoc]

theorem size_eq (t : Tree) : t.size = 1 + sizeAll t.children := by
  cases t; simp [size, children]

/-- The first tree of a kind among the pending trees and what they hold; the children of a tree are
looked at before the trees pending after it. -/
def searchPending (k : NodeKind) : List Tree → Option Tree
  | [] => none
  | t :: rest => if t.kind = k then some t else searchPending k (t.children ++ rest)
termination_by ts => sizeAll ts
decreasing_by simp [sizeAll_append, sizeAll, size_eq]

/-- The first node of a kind in a tree, a node before its children and children from the left. -/
def descendant? (t : Tree) (k : NodeKind) : Option Tree := searchPending k [t]

end Tree
end Registrar
