import Registrar.Source.Terminal
import Registrar.Source.Tree
/-!
# Grammar rules

A grammar gives each of its symbols a rule. `Grammar.productions` writes the rules out as plain
sequences of steps: alternatives become productions of their own, and a run of one or more becomes a
symbol that reads one more after itself. Levels, sides and weights decide between readings: a level
and a side while the text is read, a weight between whole readings of one stretch of text.
-/
namespace Registrar

/-- Which way a construct without a higher level groups. -/
inductive Side where
  | left
  | right
deriving DecidableEq, Repr, Hashable

/-- A rule over the symbols `σ`. -/
inductive Rule (σ : Type) where
  /-- Reads nothing. -/
  | empty
  | terminal (t : Terminal)
  | symbol (name : σ)
  | seq (first second : Rule σ)
  | alt (first second : Rule σ)
  /-- One or more. -/
  | run (rule : Rule σ)
  | level (n : Int) (rule : Rule σ)
  | side (s : Side) (rule : Rule σ)
  | weight (w : Int) (rule : Rule σ)
  | role (r : Role) (rule : Rule σ)
  /-- What is read becomes a node of another kind. -/
  | leaf (kind : NodeKind) (rule : Rule σ)
deriving DecidableEq, Repr

namespace Rule
variable {σ : Type}

/-- The rules one after another. -/
def all : List (Rule σ) → Rule σ
  | [] => empty
  | [r] => r
  | r :: rs => seq r (all rs)

/-- One of the rules. -/
def any : List (Rule σ) → Rule σ
  | [] => empty
  | [r] => r
  | r :: rs => alt r (any rs)

def opt (r : Rule σ) : Rule σ := alt r empty

/-- Any number. -/
def many (r : Rule σ) : Rule σ := opt (run r)

def mark (s : String) : Rule σ := terminal (.mark s)

def keyword (w : String) : Rule σ := terminal (.keyword w)

/-- One or more, with a separator between. -/
def sepBy (separator r : Rule σ) : Rule σ := seq r (many (seq separator r))

/-- The rules of the runs in a rule, inner runs first. -/
def runs : Rule σ → List (Rule σ)
  | empty | terminal _ | symbol _ => []
  | seq a b | alt a b => a.runs ++ b.runs
  | run r => r.runs ++ [r]
  | level _ r | side _ r | weight _ r | role _ r | leaf _ r => r.runs

end Rule

/-! ## Productions -/

/-- What a production is of: a symbol of the grammar or a run of a rule. -/
inductive Head (σ : Type) where
  | named (name : σ)
  | run (rule : Rule σ)
deriving DecidableEq, Repr

/-- One thing that a production reads: a terminal or a head, by number. -/
inductive Symbol where
  | terminal (index : Nat)
  | head (index : Nat)
deriving DecidableEq, Repr, Hashable

/-- What the tree of a step becomes in its parent. -/
structure Label where
  kind : Option NodeKind := none
  role : Option Role := none
deriving DecidableEq, Repr, Hashable

/-- How strongly a step binds. -/
structure Binding where
  level : Int := 0
  side : Option Side := none
deriving DecidableEq, Repr, Hashable

structure Step where
  symbol : Symbol
  label : Label := {}
  binding : Binding := {}
deriving DecidableEq, Repr, Hashable

structure Production where
  head : Nat
  steps : List Step
  weight : Int := 0
deriving DecidableEq, Repr

namespace Rule
variable {σ : Type}

/-- The sequences of steps that a rule stands for, each with its weight. Inner labels and bindings
win over outer ones; weights add up. -/
def sequences (number : Head σ → Nat) (label : Label) (binding : Binding) :
    Rule σ → List (List Step × Int)
  | empty => [([], 0)]
  | terminal t => [([⟨.terminal t.index, label, binding⟩], 0)]
  | symbol s => [([⟨.head (number (.named s)), label, binding⟩], 0)]
  | run r => [([⟨.head (number (.run r)), label, binding⟩], 0)]
  | seq a b =>
    (a.sequences number label binding).flatMap fun x =>
      (b.sequences number label binding).map fun y => (x.1 ++ y.1, x.2 + y.2)
  | alt a b => a.sequences number label binding ++ b.sequences number label binding
  | level n r => r.sequences number label { binding with level := n }
  | side s r => r.sequences number label { binding with side := some s }
  | weight w r => (r.sequences number label binding).map fun x => (x.1, x.2 + w)
  | role r rule => rule.sequences number { label with role := some r } binding
  | leaf k rule => rule.sequences number { label with kind := some k } binding

end Rule

/-- The rule of a symbol. A symbol without a kind makes no node: what it reads goes to the node
around it. -/
structure Definition (σ : Type) where
  symbol : σ
  kind : Option NodeKind := none
  rule : Rule σ

/-- A grammar; the first symbol is read. No symbol but the first may read nothing. -/
structure Grammar (σ : Type) where
  definitions : List (Definition σ)

namespace Grammar
variable {σ : Type} [DecidableEq σ]

/-- The heads in order: the symbols, then the runs in their rules. -/
def heads (g : Grammar σ) : List (Head σ) :=
  g.definitions.map (fun d => .named d.symbol) ++
    ((g.definitions.flatMap fun d => d.rule.runs).eraseDups.map Head.run)

/-- The kinds of the nodes that the heads make. -/
def kinds (g : Grammar σ) : List (Option NodeKind) :=
  g.definitions.map (·.kind) ++
    ((g.definitions.flatMap fun d => d.rule.runs).eraseDups.map fun _ => none)

/-- The rules of the heads, in their order. -/
def rules (g : Grammar σ) : List (Rule σ) :=
  g.definitions.map (·.rule) ++
    ((g.definitions.flatMap fun d => d.rule.runs).eraseDups.map fun r => .alt (.seq (.run r) r) r)

/-- The productions of each head, in the order of the heads. -/
def productions (g : Grammar σ) : List (List Production) :=
  let heads := g.heads
  g.rules.zipIdx.map fun (r, i) =>
    ((r.sequences heads.idxOf {} {}).map fun s => ⟨i, s.1, s.2⟩).eraseDups

end Grammar
end Registrar
