import Registrar.Source.Tree
/-!
# Documentation of a declaration

The comments directly above a node, among the siblings before it. Siblings are kept nearest first,
so the group is read upwards from the node.
-/
namespace Registrar.Tree

/-- Each element with those before it, nearest first. -/
def eachWithBefore {α : Type} (before : List α) : List α → List (α × List α)
  | [] => []
  | a :: rest => (a, before) :: eachWithBefore (a :: before) rest

/-- The named children of a node, each with the named siblings before it. -/
def childrenInPlace (t : Tree) : List (Tree × List Tree) := eachWithBefore [] t.namedChildren

def isComment (t : Tree) : Bool := t.kind == .comment

/-- Whether a comment stands behind other code on the row where it starts. -/
def trails (comment : Tree) (before : List Tree) : Bool :=
  match before with
  | [] => false
  | s :: _ => !s.isComment && s.stop.row == comment.start.row

/-- The comments above a row, nearest first: each ends on the row just above the next one, and none
of them trails code. -/
def commentsAbove (row : Nat) : List Tree → List Tree
  | [] => []
  | c :: before =>
    if c.isComment && c.stop.row + 1 == row && !trails c before then
      c :: commentsAbove c.start.row before
    else []

/-- The text of the documentation of a node, in source order. -/
def docs (source : Array Char) (node : Tree) (before : List Tree) : List String :=
  (commentsAbove node.start.row before).reverse.map (·.text source)

end Registrar.Tree
