import Registrar.Source.Automaton
import Registrar.Source.Token
/-!
# Reading a text with an automaton

Where an automaton leaves several actions, the reader follows all of them. The readings of the text
so far are kept as stacks that share what they have in common: a stack has one or more links to
stacks below it, each over the piece of text in between. Stacks in one state at one place become
one. Of two ways to read the same piece the one with the greater weight stays.

Comments are pieces too, but no step of a production: they stay where they stand between the steps.
-/
namespace Registrar

/-- A piece of text that has been read as a symbol. -/
structure Piece where
  symbol : Symbol
  /-- The trees of the piece, latest first. -/
  trees : List Tree
  start : Position
  stop : Cursor
  weight : Int := 0

namespace Piece

def isComment (p : Piece) : Bool := p.symbol == .terminal Terminal.comment.index

/-- The kind of the leaf of a terminal. -/
def leafKind : Terminal → NodeKind
  | .comment => .comment
  | .identifier => .word
  | .int => .int
  | .float => .float
  | .imaginary => .imaginary
  | .rune => .rune
  | .rawString => .rawString
  | .mark s => .mark s
  | .keyword w => .mark w
  | .lineEnd => .mark "\n"
  | .openingQuote | .closingQuote => .mark "\""
  | .nul | .content | .escape | .endOfText => .mark ""

def ofToken (t : Token) : Piece :=
  { symbol := .terminal t.terminal.index
    trees := [.node none (leafKind t.terminal) t.start t.stop.position []]
    start := t.start
    stop := t.stop }

/-- The trees of a piece as a step with a label reads it. -/
def labeledTrees (l : Label) (p : Piece) : List Tree :=
  let withKind (t : Tree) : Tree := match l.kind with
    | some k => t.withKind k
    | none => t
  let withRole (t : Tree) : Tree := match l.role with
    | some r => t.withRole r
    | none => t
  if l.kind.isNone && l.role.isNone then p.trees
  else p.trees.map fun t => withRole (withKind t)

/-- The trees of consecutive pieces after the trees of others, latest first. A comment takes no
label. -/
def joinOnto (trees : List Tree) : List Label → List Piece → List Tree
  | _, [] => trees
  | [], p :: ps => joinOnto (p.trees ++ trees) [] ps
  | l :: ls, p :: ps =>
    if p.isComment then joinOnto (p.trees ++ trees) (l :: ls) ps
    else joinOnto (p.labeledTrees l ++ trees) ls ps

/-- The trees of consecutive pieces, latest first. -/
def joined (ls : List Label) : List Piece → List Tree
  | [] => []
  | p :: ps =>
    match ls with
    | [] => joinOnto p.trees [] ps
    | l :: ls => joinOnto (p.labeledTrees l) ls ps

/-- One piece of the pieces that complete an item; `place` is where it is when there are none. -/
def complete (kinds : Array (Option NodeKind)) (i : Item) (place : Cursor) (ps : List Piece) :
    Piece :=
  let trees := joined i.labels.reverse ps
  let start := (ps.head?.map (·.start)).getD place.position
  let stop := (ps.getLast?.map (·.stop)).getD place
  { symbol := .head i.head
    trees := match kinds.getD i.head none with
      | some k => [.node none k start stop.position trees.reverse]
      | none => trees
    start
    stop
    weight := ps.foldl (fun w p => w + p.weight) i.weight }

end Piece

mutual

/-- The readings of a text up to a place that end in one state. The number tells stacks apart. -/
inductive Stack where
  | node (number state : Nat) (place : Cursor) (weight : Int) (links : Links)

/-- The last pieces of the readings, with what stands below them. -/
inductive Links where
  | none
  | more (piece : Piece) (below : Stack) (rest : Links)

end

namespace Stack

def number : Stack → Nat
  | node n _ _ _ _ => n

def state : Stack → Nat
  | node _ s _ _ _ => s

def place : Stack → Cursor
  | node _ _ p _ _ => p

def weight : Stack → Int
  | node _ _ _ w _ => w

def links : Stack → Links
  | node _ _ _ _ l => l

def offset (s : Stack) : Nat := s.place.position.offset

end Stack

/-- Adds a link. Of two readings of the same symbol on the same stack the one with the greater
weight stays. -/
def Links.add (piece : Piece) (below : Stack) : Links → Links
  | .none => .more piece below .none
  | .more p b rest =>
    if b.number == below.number && p.symbol == piece.symbol then
      if piece.weight > p.weight then .more piece b rest else .more p b rest
    else .more p b (rest.add piece below)

/-- Adds the links of one stack to those of another. -/
def Links.addAll (links : Links) : Links → Links
  | .none => links
  | .more p b rest => addAll (links.add p b) rest

namespace Stack

/-- A stack with one more piece. -/
def push (number state : Nat) (p : Piece) (below : Stack) : Stack :=
  node number state p.stop (below.weight + p.weight) (.more p below .none)

/-- Whether two stacks stand in one state at one place. -/
def meets (s t : Stack) : Bool := s.state == t.state && s.offset == t.offset

/-- One stack of two that meet. -/
def join (s t : Stack) : Stack :=
  node (max s.number t.number) s.state s.place (max s.weight t.weight)
    (s.links.addAll t.links)

mutual

/-- The ways to take `n` pieces and the comments between them off a stack: the pieces in order
before those in `taken`, and what is left. -/
def pieces (n : Nat) (taken : List Piece) : Stack → List (List Piece × Stack)
  | node number state place weight links =>
    match n with
    | 0 => [(taken, node number state place weight links)]
    | n + 1 => piecesOver n taken links

/-- The ways to take a piece and `n` more, or a comment and `n + 1` pieces. -/
def piecesOver (n : Nat) (taken : List Piece) : Links → List (List Piece × Stack)
  | .none => []
  | .more p below rest =>
    pieces (if p.isComment then n + 1 else n) (p :: taken) below ++ piecesOver n taken rest

end

mutual

/-- All the pieces of each reading, before those in `taken`. -/
def readings (taken : List Piece) : Stack → List (List Piece)
  | node _ _ _ _ links =>
    match links with
    | .none => [taken]
    | .more p below rest => readingsOver taken (.more p below rest)

def readingsOver (taken : List Piece) : Links → List (List Piece)
  | .none => []
  | .more p below rest => readings (p :: taken) below ++ readingsOver taken rest

end

end Stack

/-! ## Steps -/

/-- Where a reader is: the stacks, in the order in which they are looked at, and those that have
read the whole text. A stack that cannot go on leaves a gap. -/
structure Reader where
  /-- The number of the next stack. -/
  fresh : Nat := 1
  tops : List (Option Stack)
  finished : List Stack := []

namespace Reader

def get? (r : Reader) (v : Nat) : Option Stack := r.tops.getD v none

def put (r : Reader) (v : Nat) (s : Option Stack) : Reader := { r with tops := r.tops.set v s }

/-- Joins a stack to the first other than number `v` that it meets; the stacks are numbered from
`i` on. -/
def joinFrom (i v : Nat) (s : Stack) : List (Option Stack) → Option (List (Option Stack))
  | [] => none
  | some t :: ts =>
    if i != v && t.meets s then some (some (t.join s) :: ts)
    else (joinFrom (i + 1) v s ts).map (some t :: ·)
  | none :: ts => (joinFrom (i + 1) v s ts).map (none :: ·)

/-- Adds a stack: it joins another than `v` that it meets, or stands at the end. -/
def add (r : Reader) (v : Nat) (s : Stack) : Reader :=
  match joinFrom 0 v s r.tops with
  | some tops => { r with tops }
  | none => { r with tops := r.tops ++ [some s] }

/-- Puts comments back on a stack. -/
def pushAll (fresh state : Nat) (s : Stack) : List Piece → Stack × Nat
  | [] => (s, fresh)
  | p :: ps => pushAll (fresh + 1) state (s.push fresh state p) ps

/-- One way to complete an item: the stack below, the piece, and the comments after it. -/
structure Completion where
  below : Stack
  piece : Piece
  comments : List Piece

/-- Completes an item with pieces; the comments at the end stay outside. -/
def completion (a : Automaton) (i : Item) (pieces : List Piece) (below : Stack) : Completion :=
  let own := (pieces.reverse.dropWhile Piece.isComment).reverse
  { below
    piece := Piece.complete a.kinds i below.place own
    comments := pieces.drop own.length }

/-- Adds a way to complete an item. Of two on the same stack the one with the greater weight
stays. -/
def addCompletion (c : Completion) : List Completion → List Completion
  | [] => [c]
  | d :: ds =>
    if d.below.number == c.below.number then
      if c.piece.weight > d.piece.weight then c :: ds else d :: ds
    else d :: addCompletion c ds

/-- Completes an item on the stack `s`, which is number `v`. -/
def reduce (a : Automaton) (v : Nat) (s : Stack) (i : Item) (r : Reader) : Reader :=
  let completions := (s.pieces i.labels.length []).foldl
    (fun cs (ps, below) => addCompletion (completion a i ps below) cs) []
  completions.foldl
    (fun r c =>
      match a.successor? c.below.state i.head with
      | none => r
      | some n =>
        let (t, fresh) := pushAll (r.fresh + 1) n (c.below.push r.fresh n c.piece) c.comments
        { r with fresh }.add v t)
    r

/-- Applies the actions at a token to the stack `s`, which is number `v`. The result says whether
the token is taken or the stack has ended; otherwise it gives the first of the stacks that the last
productive completion has made. -/
def applyAll (a : Automaton) (v : Nat) (s : Stack) (t : Token) (newest : Option Nat) :
    List Action → Reader → Reader × Option Nat
  | [], r => (match newest with
    | none => r.put v none
    | some _ => r, newest)
  | .shift n :: _, r =>
    ({ r.put v (some (s.push r.fresh n (.ofToken t))) with fresh := r.fresh + 1 }, none)
  | .accept :: _, r => ({ r.put v none with finished := r.finished ++ [s] }, none)
  | .reduce i :: rest, r =>
    let before := r.tops.length
    let r := r.reduce a v s i
    applyAll a v s t (if r.tops.length > before then some before else newest) rest r

/-- Reads one token on stack `v`: completes items until the token is taken. A keyword that has no
action is an identifier where one is admissible. -/
def consume (a : Automaton) (v : Nat) (t : Token) : Nat → Reader → Reader
  | 0, r => r.put v none
  | fuel + 1, r =>
    match r.get? v with
    | none => r
    | some s =>
      match a.state? s.state with
      | none => r.put v none
      | some state =>
        if t.terminal = .comment then
          { r.put v (some (s.push r.fresh s.state (.ofToken t))) with fresh := r.fresh + 1 }
        else
          match state.actions.getD t.terminal.index [], t.terminal with
          | [], .keyword _ =>
            if state.admissible.has .identifier then
              consume a v { t with terminal := .identifier } fuel r
            else r.put v none
          | [], _ => r.put v none
          | actions, _ =>
            match r.applyAll a v s t none actions with
            | (r, none) => r
            | (r, some n) =>
              consume a v t fuel
                { r with tops := (r.tops.eraseIdx n).set v (r.get? n) }

/-- The token at the place of a stack. Where a statement may end, the end of the text is a
terminator. -/
def nextToken? (state : State) (place : Cursor) : Option Token :=
  Token.scan? state.admissible place <|>
    if state.endsText && place.isAtEnd then
      some (Token.take .nul 0 (place.skipBlanks false))
    else none

/-- Reads one token on stack `v`. -/
def advance (a : Automaton) (fuel v : Nat) (r : Reader) : Reader :=
  match (r.get? v).bind fun s => (a.state? s.state).bind fun st => nextToken? st s.place with
  | none => r.put v none
  | some t => r.consume a v t fuel

/-! ## Rounds -/

/-- Reads tokens on stack `v` until it passes the place `furthest`, or reaches it when stacks before
it have done so. The new furthest place is returned. -/
def catchUp (a : Automaton) (fuel v furthest : Nat) : Nat → Reader → Reader × Nat
  | 0, r => (r.put v none, furthest)
  | n + 1, r =>
    let r := r.advance a fuel v
    match r.get? v with
    | none => (r, furthest)
    | some s =>
      if s.offset > furthest || (v > 0 && s.offset == furthest) then (r, s.offset)
      else catchUp a fuel v furthest n r

/-- Lets each stack from number `v` on read until it has caught up. -/
def sweep (a : Automaton) (fuel : Nat) : Nat → Nat → Nat → Reader → Reader × Nat
  | 0, _, furthest, r => (r, furthest)
  | n + 1, v, furthest, r =>
    if v < r.tops.length then
      let (r, furthest) :=
        if (r.get? v).isSome then r.catchUp a fuel v furthest fuel else (r, furthest)
      sweep a fuel n (v + 1) furthest r
    else (r, furthest)

/-- Puts a stack among others: it joins the first that it meets, and stands before those of less
weight. -/
def settle (s : Stack) : List Stack → List Stack
  | [] => [s]
  | t :: ts =>
    if t.meets s then t.join s :: ts
    else if s.weight > t.weight then s :: settle t ts
    else t :: settle s ts

/-- Drops the gaps and joins the stacks that meet. -/
def condense (r : Reader) : Reader :=
  { r with tops := ((r.tops.filterMap id).foldl (fun ts s => settle s ts) []).map some }

/-- Rounds until no stack is left. -/
def rounds (a : Automaton) (fuel : Nat) : Nat → Nat → Reader → Reader
  | 0, _, r => r
  | n + 1, furthest, r =>
    if r.tops.isEmpty then r
    else
      let (r, furthest) := r.sweep a fuel fuel 0 furthest
      rounds a fuel n furthest r.condense

/-- The reader before a text. A byte order mark is skipped. -/
def start (text : List Char) : Reader :=
  let c := Cursor.start text
  let c := if text.head? = some '\ufeff' then c.advance 1 else c
  { tops := [some (.node 0 0 c 0 .none)] }

/-- The reading of the whole text with the greatest weight; of equal ones the first. -/
def best? (r : Reader) : Option (List Piece) :=
  let weight (ps : List Piece) : Int := ps.foldl (fun w p => w + p.weight) 0
  (r.finished.flatMap (Stack.readings [])).foldl
    (fun best ps => match best with
      | none => some ps
      | some qs => if weight ps > weight qs then some ps else best)
    none

end Reader

/-- Reads a text. The tree has a node of the given kind around all that the first symbol of the
grammar reads. A stack stands in one of finitely many states at one of the places of the text, which
bounds all repetition. -/
def Automaton.read? (a : Automaton) (kind : NodeKind) (text : List Char) : Option Tree :=
  let fuel := (text.length + 2) * (a.states.size + 1)
  let r := (Reader.start text).rounds a fuel fuel 0
  r.best?.map fun ps =>
    let stop := (ps.getLast?.map (·.stop.position)).getD {}
    .node none kind {} stop (Piece.joined [] ps).reverse

end Registrar
