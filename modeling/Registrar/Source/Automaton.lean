import Std.Data.HashMap
import Registrar.Source.Rule
/-!
# The automaton of a grammar

An item is a production with a place in it. A state is a set of items, each with the terminals that
may follow its production: all that a reader can be in the middle of after the same steps. In a
state each terminal has its actions. Levels and sides leave one action where they decide; where they
do not, all stay, and the reader follows every one.
-/
namespace Registrar

/-- A production of which some steps are read. Of the steps before the place only what still matters
is kept: their labels, latest first, and how the last one binds. -/
structure Item where
  head : Nat
  labels : List Label := []
  binding : Binding := {}
  rest : List Step
  weight : Int := 0
deriving DecidableEq, Repr, Hashable

namespace Item

def ofProduction (p : Production) : Item := { head := p.head, rest := p.steps, weight := p.weight }

/-- The item after one more step. -/
def advance (i : Item) : Item :=
  match i.rest with
  | [] => i
  | s :: rest => { i with labels := s.label :: i.labels, binding := s.binding, rest }

/-- An item and the `n` items after it. -/
def through : Nat → Item → List Item
  | 0, i => [i]
  | n + 1, i => i :: through n i.advance

end Item

/-- What to do at a terminal. -/
inductive Action where
  /-- Take the token and go to a state. -/
  | shift (state : Nat)
  /-- The steps of the item are complete: put its head in their place. -/
  | reduce (item : Item)
  /-- The text is complete. -/
  | accept
deriving Repr

/-- One state. -/
structure State where
  /-- The actions by terminal. -/
  actions : Array (List Action)
  /-- The state after a head. -/
  successors : Array (Option Nat)
  /-- The terminals with an action, and comments. -/
  admissible : TerminalSet
  /-- The end of the text reads as the terminator with code zero. -/
  endsText : Bool

structure Automaton where
  states : Array State
  /-- The kinds of the nodes that the heads make. -/
  kinds : Array (Option NodeKind)

namespace Automaton

/-! ## What follows what -/

/-- Applies `f` until nothing changes, at most `n` times. -/
def stabilize {α : Type} [BEq α] (f : α → α) : Nat → α → α
  | 0, a => a
  | n + 1, a =>
    let b := f a
    if b == a then a else stabilize f n b

/-- The terminals that can start a symbol, given those of the heads. -/
def firstOf (first : Array TerminalSet) : Symbol → TerminalSet
  | .terminal i => .ofIndex i
  | .head h => first.getD h .empty

/-- The terminals that can start the rest of a production before `after`. -/
def firstOfRest (first : Array TerminalSet) (after : TerminalSet) : List Step → TerminalSet
  | [] => after
  | s :: _ => firstOf first s.symbol

/-- For each head the terminals that can start it. -/
def firstSets (heads : Nat) (ps : List Production) : Array TerminalSet :=
  stabilize
    (fun first => ps.foldl
      (fun f p => f.modify p.head (·.union (firstOfRest f .empty p.steps))) first)
    (heads + 1) (Array.replicate heads .empty)

/-- Adds what can follow the heads among the steps of a production. -/
def followIn (first : Array TerminalSet) (head : Nat) (follow : Array TerminalSet) :
    List Step → Array TerminalSet
  | [] => follow
  | s :: rest =>
    let after := firstOfRest first (follow.getD head .empty) rest
    let follow := match s.symbol with
      | .head h => follow.modify h (·.union after)
      | .terminal _ => follow
    followIn first head follow rest

/-- For each head the terminals that can follow it anywhere. -/
def followSets (heads : Nat) (first : Array TerminalSet) (ps : List Production) :
    Array TerminalSet :=
  stabilize
    (fun follow => ps.foldl (fun f p => followIn first p.head f p.steps) follow)
    (heads + 1) ((Array.replicate heads .empty).modify 0 fun _ => .of .endOfText)

/-- What is known of a head that can stand at the very start of another: the terminals that can
follow it there, and whether it can also end where the other one ends. -/
structure Lead where
  reached : Bool := false
  follow : TerminalSet := .empty
  endsAlike : Bool := false
deriving DecidableEq

/-- Adds the heads that start the production `p` when its head is a lead. -/
def extendLeads (first : Array TerminalSet) (leads : Array Lead) (p : Production) : Array Lead :=
  let lead := leads.getD p.head {}
  if lead.reached then
    match p.steps with
    | ⟨.head h, _, _⟩ :: rest =>
      let follow := firstOfRest first lead.follow rest
      let endsAlike := rest.isEmpty && lead.endsAlike
      leads.modify h fun l => ⟨true, l.follow.union follow, l.endsAlike || endsAlike⟩
    | _ => leads
  else leads

/-- The heads that can stand at the start of a head, itself among them. -/
def leadsOf (heads : Nat) (first : Array TerminalSet) (ps : List Production) (head : Nat) :
    List (Nat × Lead) :=
  let leads := stabilize (fun leads => ps.foldl (extendLeads first) leads) (heads + 1)
    ((Array.replicate heads {}).modify head fun _ => ⟨true, .empty, true⟩)
  (leads.toList.zipIdx.filter fun l => l.1.reached).map fun l => (l.2, l.1)

/-! ## States -/

/-- Item numbers in ascending order, each with the terminals that may follow its production. -/
abbrev Kernel := List (Nat × TerminalSet)

namespace Kernel

/-- Adds an item; an item that is there already gets more terminals. -/
def insert (i : Nat) (follow : TerminalSet) : Kernel → Kernel
  | [] => [(i, follow)]
  | (j, f) :: k =>
    if i < j then (i, follow) :: (j, f) :: k
    else if i = j then (j, f.union follow) :: k
    else (j, f) :: insert i follow k

end Kernel

/-- The items of a grammar by number, and what is known of its heads. -/
structure Items where
  items : Array Item
  /-- The number of the item after one more step. -/
  next : Array Nat
  /-- For each head the items before its first step. -/
  starts : Array (List Nat)
  first : Array TerminalSet
  follow : Array TerminalSet
  leads : Array (List (Nat × Lead))

namespace Items

/-- The head of the production that reads a whole text. -/
def goal (t : Items) : Nat := t.starts.size

def get? (t : Items) (i : Nat) : Option Item := t.items[i]?

/-- Numbers the items of a list in order; equal items have one number. -/
def register (known : Array Item × Std.HashMap Item Nat) (i : Item) :
    Array Item × Std.HashMap Item Nat :=
  if known.2.contains i then known else (known.1.push i, known.2.insert i known.1.size)

/-- The items of the productions, after the item that reads the first head as a whole text. -/
def ofProductions (ps : List (List Production)) : Items :=
  let heads := ps.length
  let goal : Item := { head := heads, rest := [{ symbol := .head 0 }] }
  let all := ps.flatten
  let known := ((goal :: all.map Item.ofProduction).flatMap
    fun i => i.through i.rest.length).foldl register (#[], {})
  let number (i : Item) : Nat := known.2.getD i 0
  let first := firstSets heads all
  { items := known.1
    next := known.1.map fun i => number i.advance
    starts := (ps.map fun qs => qs.map fun p => number (.ofProduction p)).toArray
    first
    follow := followSets heads first all
    leads := ((List.range heads).map (leadsOf heads first all)).toArray }

/-- For each head the terminals that may follow it where it starts in a state. -/
def openings (t : Items) (k : Kernel) : Array TerminalSet :=
  k.foldl
    (fun acc (i, follow) =>
      match (t.get? i).map Item.rest with
      | some ({ symbol := .head h, .. } :: rest) =>
        let after := firstOfRest t.first follow rest
        (t.leads.getD h []).foldl
          (fun acc (v, lead) =>
            acc.modify v fun s =>
              (s.union lead.follow).union (if lead.endsAlike then after else .empty))
          acc
      | _ => acc)
    (Array.replicate t.starts.size .empty)

/-- All items of a state: those of its kernel and those before the first step of a head. -/
def closure (t : Items) (k : Kernel) : Kernel :=
  k ++ (t.openings k).toList.zipIdx.flatMap fun (follow, h) =>
    if follow.isEmpty then [] else (t.starts.getD h []).map fun i => (i, follow)

/-- The place of a symbol among the terminals and, after them, the heads. -/
def slot : Symbol → Nat
  | .terminal i => i
  | .head h => Terminal.count + h

/-- The kernels of the states after each symbol. -/
def kernelsAfter (t : Items) (closure : Kernel) : Array Kernel :=
  closure.foldl
    (fun acc (i, follow) =>
      match (t.get? i).map Item.rest with
      | some (s :: _) => acc.modify (slot s.symbol) (Kernel.insert (t.next.getD i 0) follow)
      | _ => acc)
    (Array.replicate (Terminal.count + t.starts.size) [])

/-- The items that are complete, with the terminals that may follow. -/
def completed (t : Items) (closure : Kernel) : List (Item × TerminalSet) :=
  closure.filterMap fun (i, follow) =>
    (t.get? i).bind fun item => if item.rest.isEmpty then some (item, follow) else none

/-- The levels of the constructs that a terminal would continue. -/
def levelsBefore (t : Items) (k : Kernel) (terminal : Nat) : List Int :=
  k.filterMap fun (i, _) =>
    (t.get? i).bind fun item =>
      match item.labels, item.rest with
      | _ :: _, s :: _ =>
        if (firstOf t.first s.symbol).hasIndex terminal then some item.binding.level else none
      | _, _ => none

end Items

/-! ## Actions -/

/-- The items of the highest level. -/
def highest (is : List Item) : List Item :=
  is.filter fun i => is.all fun j => j.binding.level ≤ i.binding.level

/-- The action that completes an item. -/
def complete (goal : Nat) (i : Item) : Action := if i.head = goal then .accept else .reduce i

/-- Decides between completing items and going on. The higher level wins; at equal levels a
construct that groups to the left is completed and one that groups to the right goes on. Where this
leaves both, the items are completed first. -/
def choose (goal : Nat) (done : List Item) (shift? : Option Nat) (levels : List Int) :
    List Action :=
  let completions := done.map (complete goal)
  match done, shift? with
  | _, none => completions
  | [], some n => [.shift n]
  | i :: _, some n =>
    let above := levels.any (· > i.binding.level)
    let below := levels.any (· < i.binding.level)
    if above && below then completions ++ [.shift n]
    else if above then [.shift n]
    else if below then completions
    else if done.all fun j => j.binding.side == some .left then completions
    else if done.all fun j => j.binding.side == some .right then [.shift n]
    else completions ++ [.shift n]

/-- A keyword without an action is still a keyword where a statement can end, if it can follow a
complete item somewhere in the grammar: the item is then completed. -/
def reserve (t : Items) (completed : List (Item × TerminalSet)) (actions : Array (List Action)) :
    Array (List Action) :=
  let has (x : Terminal) : Bool := !(actions.getD x.index []).isEmpty
  if has .lineEnd || has (.mark "\x7d") then
    Terminal.keywords.foldl
      (fun acc w => acc.modify (Terminal.keyword w).index fun as =>
        if as.isEmpty then
          ((completed.map (·.1)).filter fun i =>
            (t.follow.getD i.head .empty).has (.keyword w)).map .reduce
        else as)
      actions
  else actions

/-- The state of a kernel, given the numbers of the states after each symbol. -/
def stateOf (t : Items) (k closure : Kernel) (after : Array (Option Nat)) : State :=
  let completed := t.completed closure
  let actions := reserve t completed <| (Array.range Terminal.count).map fun x =>
    let done := highest ((completed.filter fun c => c.2.hasIndex x).map (·.1))
    choose t.goal done (after.getD x none) (if done.isEmpty then [] else t.levelsBefore k x)
  let admissible : TerminalSet :=
    (List.range Terminal.count).foldl
      (fun s x => if (actions.getD x []).isEmpty then s else s.union (.ofIndex x)) (.of .comment)
  { actions
    successors := after.extract Terminal.count after.size
    admissible
    endsText := admissible.has .nul && admissible.has (.mark "/") &&
      !admissible.has (.mark "++") }

/-- The states found so far; those without a row are still to be worked out. -/
structure Progress where
  kernels : Array Kernel
  numbers : Std.HashMap Kernel Nat
  states : Array State := #[]

namespace Progress

/-- The number of the state with a kernel. -/
def number (p : Progress) (k : Kernel) : Progress × Nat :=
  match p.numbers[k]? with
  | some n => (p, n)
  | none =>
    let n := p.kernels.size
    ({ p with kernels := p.kernels.push k, numbers := p.numbers.insert k n }, n)

/-- The numbers of the states with the given kernels; an empty kernel has no state. -/
def numberAll (p : Progress) (ks : Array Kernel) : Progress × Array (Option Nat) :=
  ks.foldl
    (fun (p, ns) k =>
      if k.isEmpty then (p, ns.push none)
      else
        let (p, n) := p.number k
        (p, ns.push (some n)))
    (p, #[])

/-- Works out the states one after another, at most `limit` of them. -/
def run (t : Items) : Nat → Progress → Progress
  | 0, p => p
  | limit + 1, p =>
    match p.kernels[p.states.size]? with
    | none => p
    | some k =>
      let closure := t.closure k
      let (p, after) := p.numberAll (t.kernelsAfter closure)
      run t limit { p with states := p.states.push (stateOf t k closure after) }

end Progress

/-- The automaton of a grammar that has at most `limit` states. -/
def ofGrammar {σ : Type} [DecidableEq σ] (limit : Nat) (g : Grammar σ) : Automaton :=
  let t := Items.ofProductions g.productions
  let start : Kernel := [(0, .of .endOfText)]
  { states := (Progress.run t limit ⟨#[start], Std.HashMap.ofList [(start, 0)], #[]⟩).states
    kinds := g.kinds.toArray }

def state? (a : Automaton) (n : Nat) : Option State := a.states[n]?

/-- The state after a head. -/
def successor? (a : Automaton) (state head : Nat) : Option Nat :=
  (a.state? state).bind fun s => s.successors.getD head none

end Automaton
end Registrar
