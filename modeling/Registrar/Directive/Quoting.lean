/-!
# Quoted text in directives

A double quote opens or closes a quotation; inside one a backslash takes the next character with
it. A separator counts only outside quotations. `pieces` splits at every such separator,
`firstOutside?` finds the first; both walk the same three states.
-/
namespace Registrar.Quoting

/-- Where a scan stands after some characters. -/
inductive State where
  | outside
  | inside
  | escaped
deriving DecidableEq, Repr

/-- The state after one more character. -/
def State.next : State → Char → State
  | outside, c => if c = '"' then inside else outside
  | inside, c => if c = '\\' then escaped else if c = '"' then outside else inside
  | escaped, _ => inside

def State.run (q : State) (s : List Char) : State := s.foldl State.next q

/-- A text is balanced when a scan of it ends outside quotations. -/
def balanced (s : List Char) : Bool := State.outside.run s == .outside

/-- The pieces between the occurrences of `sep` outside quotations, for a scan in state `q`. -/
def pieces (sep : Char) : State → List Char → List (List Char)
  | _, [] => [[]]
  | q, c :: s =>
    if q = .outside ∧ c = sep then [] :: pieces sep .outside s
    else match pieces sep (q.next c) s with
      | [] => [[c]]
      | t :: ts => (c :: t) :: ts

/-- Splits a balanced text; an unbalanced one has no pieces. -/
def split? (sep : Char) (s : List Char) : Option (List (List Char)) :=
  if balanced s then some (pieces sep .outside s) else none

/-- How many characters stand before the first `target` outside quotations. -/
def firstOutside? (target : Char) (s : List Char) : Option Nat := go .outside s
where
  /-- The search from state `q` on. -/
  go : State → List Char → Option Nat
    | _, [] => none
    | q, c :: s =>
      if q = .outside ∧ c = target then some 0 else (go (q.next c) s).map (· + 1)

end Registrar.Quoting
