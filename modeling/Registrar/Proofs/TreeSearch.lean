import Registrar.Proofs.WellFormedTrees
/-!
# Searching a tree

The search for a kind keeps a stack of trees that are still to be looked at. Each round takes the first
node off the nodes that are pending, in the order of `Tree.nodes` (`nodesAll_of_round?`), so that the
search ends within as many rounds as the tree has nodes and finds the first node of the kind
(`descendant?_exact`).
-/
namespace Registrar.Tree

variable {k : NodeKind} {n : Nat} {ts us : List Tree}

/-! ## Pending nodes -/

theorem nodesAll_append (ts us : List Tree) : nodesAll (ts ++ us) = nodesAll ts ++ nodesAll us := by
  induction ts with
  | nil => rfl
  | cons t ts ih => rw [List.cons_append, nodesAll, nodesAll, ih, List.append_assoc]

theorem nodes_eq (t : Tree) : t.nodes = t :: nodesAll t.children := by
  cases t
  rfl

mutual

theorem length_nodes : ∀ t : Tree, t.nodes.length = t.size
  | node _ _ _ _ children => by
    rw [nodes, size, List.length_cons, length_nodesAll children, Nat.add_comm]

theorem length_nodesAll : ∀ ts : List Tree, (nodesAll ts).length = sizeAll ts
  | [] => rfl
  | t :: ts => by rw [nodesAll, sizeAll, List.length_append, length_nodes t, length_nodesAll ts]

end

/-! ## Rounds -/

/-- The stack after one more round: the tree on top gives way to its children, which are pushed from the
last to the first. There is no round when the stack is empty or the tree on top is of the kind. -/
def round? (k : NodeKind) : List Tree → Option (List Tree)
  | [] => none
  | t :: rest => if t.kind = k then none else some (t.children.foldr List.cons rest)

/-- So many rounds lead from one stack to another. -/
inductive Rounds (k : NodeKind) : Nat → List Tree → List Tree → Prop
  | zero (ts : List Tree) : Rounds k 0 ts ts
  | succ {n : Nat} {ts us vs : List Tree} : round? k ts = some us → Rounds k n us vs →
      Rounds k (n + 1) ts vs

theorem round?_eq_some_iff : round? k ts = some us ↔
    ∃ t rest, ts = t :: rest ∧ t.kind ≠ k ∧ us = t.children ++ rest := by
  cases ts with
  | nil => simp [round?]
  | cons t rest => simp [round?, eq_comm]

/-- A round takes the first pending node off, which is not of the kind. -/
theorem nodesAll_of_round? (h : round? k ts = some us) :
    ∃ t, nodesAll ts = t :: nodesAll us ∧ t.kind ≠ k := by
  obtain ⟨t, rest, rfl, ht, rfl⟩ := round?_eq_some_iff.1 h
  exact ⟨t, by rw [nodesAll, nodes_eq, nodesAll_append, List.cons_append], ht⟩

theorem Rounds.nodesAll_eq (h : Rounds k n ts us) :
    ∃ passed, nodesAll ts = passed ++ nodesAll us ∧ passed.length = n ∧ ∀ t ∈ passed, t.kind ≠ k := by
  induction h with
  | zero ts => exact ⟨[], rfl, rfl, by simp⟩
  | succ hround _ ih =>
    obtain ⟨t, ht, hkind⟩ := nodesAll_of_round? hround
    obtain ⟨passed, hpassed, hlength, hall⟩ := ih
    refine ⟨t :: passed, ?_, ?_, List.forall_mem_cons.2 ⟨hkind, hall⟩⟩
    · rw [ht, hpassed, List.cons_append]
    · rw [List.length_cons, hlength]

/-- There are no more rounds than nodes. -/
theorem Rounds.le_sizeAll (h : Rounds k n ts us) : n ≤ sizeAll ts := by
  obtain ⟨passed, hpassed, rfl, -⟩ := h.nodesAll_eq
  rw [← length_nodesAll, hpassed, List.length_append]
  exact Nat.le_add_right _ _

/-- The rounds come to an end. -/
theorem exists_rounds (k : NodeKind) (ts : List Tree) :
    ∃ n us, Rounds k n ts us ∧ round? k us = none := by
  induction hlength : (nodesAll ts).length generalizing ts with
  | zero =>
    refine ⟨0, ts, .zero ts, ?_⟩
    by_contra hround
    obtain ⟨us, hus⟩ := Option.ne_none_iff_exists'.1 hround
    obtain ⟨t, ht, -⟩ := nodesAll_of_round? hus
    simp [ht] at hlength
  | succ m ih =>
    cases hround : round? k ts with
    | none => exact ⟨0, ts, .zero ts, hround⟩
    | some us =>
      obtain ⟨t, ht, -⟩ := nodesAll_of_round? hround
      obtain ⟨n, vs, hvs, hend⟩ := ih us (by simpa [ht] using hlength)
      exact ⟨n + 1, vs, .succ hround hvs, hend⟩

/-! ## The search -/

theorem searchPending_of_round? (h : round? k ts = some us) :
    searchPending k ts = searchPending k us := by
  obtain ⟨t, rest, rfl, ht, rfl⟩ := round?_eq_some_iff.1 h
  rw [searchPending, if_neg ht]

theorem Rounds.searchPending_eq (h : Rounds k n ts us) : searchPending k ts = searchPending k us := by
  induction h with
  | zero ts => rfl
  | succ hround _ ih => rw [searchPending_of_round? hround, ih]

/-- Where no round follows, the answer is on top of the stack and the first pending node. -/
theorem searchPending_of_round?_eq_none (h : round? k ts = none) :
    searchPending k ts = ts.head? ∧ (nodesAll ts).find? (fun u => u.kind = k) = ts.head? := by
  cases ts with
  | nil => simp [searchPending, nodesAll]
  | cons t rest =>
    have ht : t.kind = k := by simpa [round?] using h
    simp [searchPending, nodesAll, nodes_eq, ht]

/-- The search for a kind ends within as many rounds as the tree has nodes, with its answer on top of the
stack. It is the first node of the kind in the order in which a node stands before its children and these
from the left, and there is none exactly when no node is of the kind. -/
theorem descendant?_exact (t : Tree) (k : NodeKind) :
    (∀ n pending, Rounds k n [t] pending → n ≤ t.size) ∧
    (∃ n pending, Rounds k n [t] pending ∧ round? k pending = none ∧
      pending.head? = t.descendant? k) ∧
    t.descendant? k = t.nodes.find? (fun u => u.kind = k) ∧
    (t.descendant? k = none ↔ ∀ u ∈ t.nodes, u.kind ≠ k) := by
  have hnodes : nodesAll [t] = t.nodes := by rw [nodesAll, nodesAll, List.append_nil]
  obtain ⟨n, pending, hrounds, hend⟩ := exists_rounds k [t]
  obtain ⟨hanswer, hfirst⟩ := searchPending_of_round?_eq_none hend
  have hstack : pending.head? = t.descendant? k := by
    rw [descendant?, hrounds.searchPending_eq, hanswer]
  -- what the rounds have passed is not of the kind, so the first such node is still pending
  have hfind : t.descendant? k = t.nodes.find? (fun u => u.kind = k) := by
    obtain ⟨passed, hpassed, -, hall⟩ := hrounds.nodesAll_eq
    have hnone : passed.find? (fun u => u.kind = k) = none := by simpa using hall
    rw [← hnodes, hpassed, List.find?_append, hnone, Option.none_or, hfirst, hstack]
  refine ⟨fun m us hm => ?_, ⟨n, pending, hrounds, hend, hstack⟩, hfind, ?_⟩
  · have hle := hm.le_sizeAll
    rwa [sizeAll, sizeAll, Nat.add_zero] at hle
  · rw [hfind]
    simp

end Registrar.Tree
