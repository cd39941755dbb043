import Registrar.Proofs.Derivation
import Registrar.Source.Extraction
/-!
# The trees of source files

Whatever reads a declaration relies on parts that the grammar promises: a type or a parameter has its type,
and a variadic parameter has at most one name (`Tree.Complete`). That each production keeps the promise is
checked once (`suffices_of_mem_grammar`); by induction over what a text is read as, every node of the tree
of a source file is complete (`wellFormed_of_read`).
-/
namespace Registrar

/-! ## Complete nodes -/

namespace NodeKind

/-- The kinds of nodes that have a type. -/
def typed : List NodeKind := [.typeSpec, .typeAlias, .parameter, .variadicParameter]

end NodeKind

namespace Tree

mutual

/-- The nodes of a tree, a node before its children. -/
def nodes : Tree → List Tree
  | node role kind start stop children => node role kind start stop children :: nodesAll children

def nodesAll : List Tree → List Tree
  | [] => []
  | t :: ts => t.nodes ++ nodesAll ts

end

theorem mem_nodesAll {u : Tree} {ts : List Tree} : u ∈ nodesAll ts ↔ ∃ t ∈ ts, u ∈ t.nodes := by
  induction ts with
  | nil => simp [nodesAll]
  | cons t ts ih => simp [nodesAll, ih]

theorem mem_nodes {u t : Tree} : u ∈ t.nodes ↔ u = t ∨ ∃ c ∈ t.children, u ∈ c.nodes := by
  cases t
  rw [nodes, List.mem_cons, mem_nodesAll]
  rfl

theorem mem_nodes_self (t : Tree) : t ∈ t.nodes := mem_nodes.2 (.inl rfl)

mutual

/-- The nodes of a node of a tree are nodes of the tree. -/
theorem mem_nodes_trans {u v : Tree} (hv : v ∈ u.nodes) : ∀ {t : Tree}, u ∈ t.nodes → v ∈ t.nodes
  | node _ _ _ _ children, hu => by
    rw [nodes] at hu
    rcases List.mem_cons.1 hu with rfl | hu
    · exact hv
    · exact List.mem_cons_of_mem _ (mem_nodesAll_trans hv hu)

theorem mem_nodesAll_trans {u v : Tree} (hv : v ∈ u.nodes) :
    ∀ {ts : List Tree}, u ∈ nodesAll ts → v ∈ nodesAll ts
  | [], hu => nomatch hu
  | t :: ts, hu => by
    rcases List.mem_append.1 hu with hu | hu
    · exact List.mem_append_left _ (mem_nodes_trans hv hu)
    · exact List.mem_append_right _ (mem_nodesAll_trans hv hu)

end

theorem mem_nodes_of_mem_children {u c t : Tree} (hc : c ∈ t.children) (hu : u ∈ c.nodes) : u ∈ t.nodes :=
  mem_nodes.2 (.inr ⟨c, hc, hu⟩)

/-- A node has its type where its kind has one, and a variadic parameter has at most one name. -/
structure Complete (t : Tree) : Prop where
  typed : t.kind ∈ NodeKind.typed → (t.child? .type).isSome
  single : t.kind = .variadicParameter → (t.childrenWith .name).length ≤ 1

instance : DecidablePred Complete := fun t =>
  decidable_of_iff
    ((t.kind ∈ NodeKind.typed → (t.child? .type).isSome) ∧
      (t.kind = .variadicParameter → (t.childrenWith .name).length ≤ 1))
    ⟨fun h => ⟨h.1, h.2⟩, fun h => ⟨h.1, h.2⟩⟩

theorem complete_of_kind {t : Tree} (h : t.kind ∉ NodeKind.typed) : t.Complete := by
  refine ⟨fun hkind => absurd hkind h, fun hkind => absurd ?_ h⟩
  rw [hkind]
  decide

/-- Every node is complete. -/
def WellFormed (t : Tree) : Prop := ∀ u ∈ t.nodes, u.Complete

instance : DecidablePred WellFormed := fun t =>
  inferInstanceAs (Decidable (∀ u ∈ t.nodes, u.Complete))

theorem wellFormed_iff {t : Tree} : t.WellFormed ↔ t.Complete ∧ ∀ c ∈ t.children, c.WellFormed := by
  constructor
  · intro h
    exact ⟨h t t.mem_nodes_self, fun c hc u hu => h u (mem_nodes_of_mem_children hc hu)⟩
  · rintro ⟨ht, hchildren⟩ u hu
    rcases mem_nodes.1 hu with rfl | ⟨c, hc, hu⟩
    · exact ht
    · exact hchildren c hc u hu

theorem WellFormed.complete {t : Tree} (h : t.WellFormed) : t.Complete := (wellFormed_iff.1 h).1

theorem WellFormed.child {t c : Tree} (h : t.WellFormed) (hc : c ∈ t.children) : c.WellFormed :=
  (wellFormed_iff.1 h).2 c hc

/-- Every node of a well-formed tree is. -/
theorem WellFormed.of_mem {t u : Tree} (h : t.WellFormed) (hu : u ∈ t.nodes) : u.WellFormed :=
  fun _ hv => h _ (mem_nodes_trans hv hu)

/-- A tree as a step with a label reads it. -/
def labeled (l : Label) : Tree → Tree
  | node role kind start stop children => node (l.role.or role) (l.kind.getD kind) start stop children

@[simp] theorem role_labeled (l : Label) (t : Tree) : (t.labeled l).role = l.role.or t.role := by
  cases t
  rfl

@[simp] theorem labeled_empty : labeled {} = id := by
  funext t
  cases t
  rfl

theorem WellFormed.labeled {t : Tree} (h : t.WellFormed) {l : Label} (hl : ∀ k ∈ l.kind, k ∉ NodeKind.typed) :
    (t.labeled l).WellFormed := by
  obtain ⟨hcomplete, hchildren⟩ := wellFormed_iff.1 h
  cases t with
  | node role kind start stop children =>
    refine wellFormed_iff.2 ⟨?_, hchildren⟩
    cases hk : l.kind with
    | some k =>
      refine complete_of_kind ?_
      rw [Tree.labeled, hk]
      exact hl k hk
    | none =>
      rw [Tree.labeled, hk]
      exact ⟨hcomplete.typed, hcomplete.single⟩

end Tree

/-! ## Pieces and their labels -/

/-- A concatenation holds no more members of a kind than there are lists that hold one. -/
theorem countP_flatMap_le {α β : Type} {q : β → Bool} {r : α → Bool} {f : α → List β} {l : List α}
    (h : ∀ a ∈ l, (f a).countP q ≤ if r a then 1 else 0) : (l.flatMap f).countP q ≤ l.countP r := by
  induction l with
  | nil => exact Nat.le_refl _
  | cons a l ih =>
    obtain ⟨ha, hl⟩ := List.forall_mem_cons.1 h
    rw [List.flatMap_cons, List.countP_append, List.countP_cons, Nat.add_comm]
    exact Nat.add_le_add (ih hl) ha

namespace Piece

theorem labeledTrees_eq (l : Label) (p : Piece) : p.labeledTrees l = p.trees.map (Tree.labeled l) := by
  rw [labeledTrees]
  split
  · rename_i hnone
    obtain ⟨kind, role⟩ := l
    obtain ⟨rfl, rfl⟩ : kind = none ∧ role = none := by simpa using hnone
    rw [Tree.labeled_empty, List.map_id]
  · refine List.map_congr_left fun t _ => ?_
    obtain ⟨role, kind, start, stop, children⟩ := t
    obtain ⟨k | k, r | r⟩ := l <;> rfl

@[simp] theorem labeledTrees_empty (p : Piece) : p.labeledTrees {} = p.trees := by
  rw [labeledTrees_eq, Tree.labeled_empty, List.map_id]

/-- Each piece with the label that it takes. -/
def withLabels : List Label → List Piece → List (Label × Piece)
  | _, [] => []
  | [], p :: ps => ({}, p) :: withLabels [] ps
  | l :: ls, p :: ps => if p.isComment then ({}, p) :: withLabels (l :: ls) ps else (l, p) :: withLabels ls ps

theorem joinOnto_eq (trees : List Tree) (ls : List Label) (ps : List Piece) :
    joinOnto trees ls ps = ((withLabels ls ps).reverse.flatMap fun x => x.2.labeledTrees x.1) ++ trees := by
  induction ps generalizing trees ls with
  | nil => cases ls <;> rfl
  | cons p ps ih =>
    cases ls with
    | nil => simp [joinOnto, withLabels, ih]
    | cons l ls =>
      by_cases hcomment : p.isComment = true
      · simp [joinOnto, withLabels, ih, hcomment]
      · simp [joinOnto, withLabels, ih, hcomment]

/-- Pieces are joined with the labels that they take, where the first is no comment. -/
theorem joined_eq {ls : List Label} {ps : List Piece}
    (hfirst : ls = [] ∨ ∀ p, ps.head? = some p → p.isComment = false) :
    joined ls ps = (withLabels ls ps).reverse.flatMap fun x => x.2.labeledTrees x.1 := by
  cases ps with
  | nil => cases ls <;> rfl
  | cons p ps =>
    cases ls with
    | nil => simp [joined, withLabels, joinOnto_eq]
    | cons l ls =>
      have hp : p.isComment = false := hfirst.resolve_left nofun p rfl
      simp [joined, withLabels, joinOnto_eq, hp]

theorem mem_joined {ls : List Label} {ps : List Piece} {t : Tree}
    (hfirst : ls = [] ∨ ∀ p, ps.head? = some p → p.isComment = false) :
    t ∈ joined ls ps ↔ ∃ x ∈ withLabels ls ps, ∃ u ∈ x.2.trees, t = u.labeled x.1 := by
  simp only [joined_eq hfirst, labeledTrees_eq, List.mem_flatMap, List.mem_reverse, List.mem_map, eq_comm]

theorem mem_of_mem_withLabels {ls : List Label} {ps : List Piece} {x : Label × Piece}
    (h : x ∈ withLabels ls ps) : x.2 ∈ ps ∧ (x.1 = {} ∨ x.1 ∈ ls ∧ x.2.isComment = false) := by
  induction ps generalizing ls with
  | nil => cases ls <;> cases h
  | cons p ps ih =>
    cases ls with
    | nil =>
      rcases List.mem_cons.1 h with rfl | h
      · exact ⟨List.mem_cons_self, .inl rfl⟩
      · exact (ih h).imp_left (List.mem_cons_of_mem _)
    | cons l ls =>
      rw [withLabels] at h
      split at h
      · rcases List.mem_cons.1 h with rfl | h
        · exact ⟨List.mem_cons_self, .inl rfl⟩
        · exact (ih h).imp_left (List.mem_cons_of_mem _)
      · rename_i hcomment
        rcases List.mem_cons.1 h with rfl | h
        · exact ⟨List.mem_cons_self, .inr ⟨List.mem_cons_self, by simpa using hcomment⟩⟩
        · exact (ih h).imp (List.mem_cons_of_mem _) (Or.imp_right (And.imp_left (List.mem_cons_of_mem _)))

/-- Pieces other than comments take the labels of the steps that read them. -/
theorem Covers.withLabels_eq {steps : List Step} {pieces : List Piece} (h : Covers steps pieces) :
    (((withLabels (steps.map (·.label)) pieces).filter fun x => !x.2.isComment).map fun x =>
      (x.1, Automaton.Items.slot x.2.symbol)) =
      steps.map fun s => (s.label, Automaton.Items.slot s.symbol) := by
  have hslots := h.slots
  clear h
  induction pieces generalizing steps with
  | nil =>
    obtain rfl : steps = [] := List.map_eq_nil_iff.1 hslots.symm
    rfl
  | cons p ps ih =>
    by_cases hcomment : p.isComment = true
    · rw [List.filter_cons_of_neg (by simp [hcomment])] at hslots
      cases steps with
      | nil => simpa [withLabels, hcomment] using ih hslots
      | cons s steps => simpa [withLabels, hcomment] using ih hslots
    · rw [List.filter_cons_of_pos (by simp [hcomment])] at hslots
      cases steps with
      | nil => cases hslots
      | cons s steps =>
        obtain ⟨hslot, hslots⟩ := List.cons.inj hslots
        simpa [withLabels, hcomment] using ⟨hslot, ih hslots⟩

/-- What a step reads is among what has been joined. -/
theorem Covers.exists_read {steps : List Step} {pieces : List Piece} (h : Covers steps pieces) {s : Step}
    (hs : s ∈ steps) : ∃ q ∈ pieces, Automaton.Items.slot q.symbol = Automaton.Items.slot s.symbol ∧
      ∀ t ∈ q.trees, t.labeled s.label ∈ joined (steps.map (·.label)) pieces := by
  have hmem := List.mem_map_of_mem (f := fun s : Step => (s.label, Automaton.Items.slot s.symbol)) hs
  rw [← h.withLabels_eq] at hmem
  obtain ⟨⟨l, q⟩, hx, heq⟩ := List.mem_map.1 hmem
  obtain ⟨rfl, hslot⟩ := Prod.mk.inj heq
  have hread := List.mem_of_mem_filter hx
  exact ⟨q, (mem_of_mem_withLabels hread).1, hslot, fun t ht =>
    (mem_joined (.inr h.first)).2 ⟨_, hread, t, ht, rfl⟩⟩

/-- What takes a label is what a step with that label reads. -/
theorem Covers.exists_step {steps : List Step} {pieces : List Piece} (h : Covers steps pieces)
    {x : Label × Piece} (hx : x ∈ withLabels (steps.map (·.label)) pieces) (hcomment : x.2.isComment = false) :
    ∃ s ∈ steps, s.label = x.1 ∧ Automaton.Items.slot s.symbol = Automaton.Items.slot x.2.symbol := by
  have hread : x ∈ (withLabels (steps.map (·.label)) pieces).filter fun x => !x.2.isComment :=
    List.mem_filter.2 ⟨hx, by rw [hcomment]; rfl⟩
  have hmem := List.mem_map_of_mem (f := fun x : Label × Piece => (x.1, Automaton.Items.slot x.2.symbol)) hread
  rw [h.withLabels_eq] at hmem
  obtain ⟨s, hs, heq⟩ := List.mem_map.1 hmem
  exact ⟨s, hs, Prod.mk.inj heq⟩

/-- A role is given as often as steps give it: comments take none. -/
theorem Covers.countP_withLabels {steps : List Step} {pieces : List Piece} (h : Covers steps pieces) (r : Role) :
    ((withLabels (steps.map (·.label)) pieces).countP fun x => x.1.role == some r) =
      steps.countP fun s => s.label.role == some r := by
  have hsteps := congrArg (List.countP fun y => y.1.role == some r) h.withLabels_eq
  rw [List.countP_map, List.countP_filter, List.countP_map] at hsteps
  refine Eq.trans (List.countP_congr fun x hx => ?_) hsteps
  rcases (mem_of_mem_withLabels hx).2 with hnone | ⟨-, hcomment⟩
  · simp [hnone]
  · simp [hcomment]

/-- A token gives one name, and only with a label that makes it one. -/
theorem countP_labeledTrees_le {l : Label} {q : Piece}
    (htoken : l.role = some .name ∨ l.role = none → ∃ t, q = ofToken t) :
    ((q.labeledTrees l).countP fun t => t.role == some .name) ≤ if l.role == some .name then 1 else 0 := by
  rw [labeledTrees_eq, List.countP_map]
  by_cases hname : l.role = some .name
  · obtain ⟨t, rfl⟩ := htoken (.inl hname)
    rw [if_pos (by simp [hname])]
    exact List.countP_le_length
  · rw [if_neg (by simp [hname]), Nat.le_zero, List.countP_eq_zero]
    intro u hu
    rw [Function.comp_apply, Tree.role_labeled]
    cases hrole : l.role with
    | some r => simpa [hrole] using hname
    | none =>
      obtain ⟨t, rfl⟩ := htoken (.inr hrole)
      rw [List.mem_singleton.1 hu]
      exact Bool.false_ne_true

end Piece

/-! ## Productions -/

/-- What makes a production keep the promise. Only the first head, which stands for a whole text, may be
read as nothing. A part is the type where the head has one. The parts of a variadic parameter that are
names, or could bring names along, are tokens. -/
structure Production.Suffices (kinds : Array (Option NodeKind)) (p : Production) : Prop where
  reads : p.head = 0 ∨ p.steps ≠ []
  inner : ∀ s ∈ p.steps, Automaton.Items.slot s.symbol ≠ Automaton.Items.slot (.head 0)
  labels : ∀ s ∈ p.steps, ∀ k ∈ s.label.kind, k ∉ NodeKind.typed
  typed : ∀ k ∈ kinds.getD p.head none, k ∈ NodeKind.typed → ∃ s ∈ p.steps, s.label.role = some .type
  single : kinds.getD p.head none = some .variadicParameter →
    (p.steps.countP fun s => s.label.role == some .name) ≤ 1 ∧
      ∀ s ∈ p.steps, s.label.role = some .name ∨ s.label.role = none →
        Automaton.Items.slot s.symbol < Terminal.count

instance (kinds : Array (Option NodeKind)) : DecidablePred (Production.Suffices kinds) := fun p =>
  decidable_of_iff
    ((p.head = 0 ∨ p.steps ≠ []) ∧
      (∀ s ∈ p.steps, Automaton.Items.slot s.symbol ≠ Automaton.Items.slot (.head 0)) ∧
      (∀ s ∈ p.steps, ∀ k ∈ s.label.kind, k ∉ NodeKind.typed) ∧
      (∀ k ∈ kinds.getD p.head none, k ∈ NodeKind.typed → ∃ s ∈ p.steps, s.label.role = some .type) ∧
      (kinds.getD p.head none = some .variadicParameter →
        (p.steps.countP fun s => s.label.role == some .name) ≤ 1 ∧
          ∀ s ∈ p.steps, s.label.role = some .name ∨ s.label.role = none →
            Automaton.Items.slot s.symbol < Terminal.count))
    ⟨fun h => ⟨h.1, h.2.1, h.2.2.1, h.2.2.2.1, h.2.2.2.2⟩,
      fun h => ⟨h.reads, h.inner, h.labels, h.typed, h.single⟩⟩

/-- The grammar keeps the promise. -/
theorem GoGrammar.suffices_of_mem_grammar :
    ∀ p ∈ grammar.productions.flatten, p.Suffices grammar.kinds.toArray := by
  decide +kernel

/-! ## Derived pieces -/

namespace Piece
variable {productions : List Production} {kinds : Array (Option NodeKind)}

/-- A terminal is read as a token. -/
theorem Derived.ofToken_of_slot {p : Piece} (h : p.Derived productions kinds)
    (hslot : Automaton.Items.slot p.symbol < Terminal.count) : ∃ t, p = ofToken t := by
  cases h with
  | token t => exact ⟨t, rfl⟩
  | complete => exact absurd hslot (Nat.not_lt.2 (Nat.le_add_right _ _))

theorem leafKind_not_typed (t : Terminal) : leafKind t ∉ NodeKind.typed := by
  cases t <;> simp [leafKind, NodeKind.typed]

variable (hgrammar : ∀ p ∈ productions, p.Suffices kinds)
include hgrammar

/-- Only the first head can be read as nothing. -/
theorem Derived.trees_ne_nil {q : Piece} (h : q.Derived productions kinds)
    (hslot : Automaton.Items.slot q.symbol ≠ Automaton.Items.slot (.head 0)) : q.trees ≠ [] := by
  induction h with
  | token t => exact List.cons_ne_nil _ _
  | @complete p i place pieces hp hhead hlabels hcovers hpieces ih =>
    have hsuffices := hgrammar p hp
    rw [Piece.complete]
    dsimp only
    split
    · exact List.cons_ne_nil _ _
    · have hsteps : p.steps ≠ [] := by
        refine hsuffices.reads.resolve_left fun hzero => hslot ?_
        rw [Piece.complete, hhead, hzero]
      obtain ⟨s, hs⟩ := List.exists_mem_of_ne_nil _ hsteps
      obtain ⟨q, hq, hread, htrees⟩ := hcovers.exists_read hs
      obtain ⟨t, ht⟩ := List.exists_mem_of_ne_nil _ (ih q hq (hread ▸ hsuffices.inner s hs))
      rw [hlabels, List.reverse_reverse]
      exact List.ne_nil_of_mem (htrees t ht)

/-- What stands for a head with a type has one. -/
theorem exists_type {p : Production} {pieces : List Piece} (hp : p.Suffices kinds)
    (hcovers : Covers p.steps pieces) (hpieces : ∀ q ∈ pieces, Derived productions kinds q) {k : NodeKind}
    (hkind : kinds.getD p.head none = some k) (hk : k ∈ NodeKind.typed) :
    ∃ t ∈ joined (p.steps.map (·.label)) pieces, t.role = some .type := by
  obtain ⟨s, hs, hrole⟩ := hp.typed k hkind hk
  obtain ⟨q, hq, hread, htrees⟩ := hcovers.exists_read hs
  obtain ⟨t, ht⟩ := List.exists_mem_of_ne_nil _
    ((hpieces q hq).trees_ne_nil hgrammar (hread ▸ hp.inner s hs))
  exact ⟨_, htrees t ht, by rw [Tree.role_labeled, hrole]; rfl⟩

omit hgrammar in
/-- What stands for a variadic parameter has at most one name. -/
theorem countP_name_le {p : Production} {pieces : List Piece} (hp : p.Suffices kinds)
    (hcovers : Covers p.steps pieces) (hpieces : ∀ q ∈ pieces, Derived productions kinds q)
    (hkind : kinds.getD p.head none = some .variadicParameter) :
    ((joined (p.steps.map (·.label)) pieces).countP fun t => t.role == some .name) ≤ 1 := by
  obtain ⟨hone, hterminal⟩ := hp.single hkind
  have htoken : ∀ x ∈ withLabels (p.steps.map (·.label)) pieces,
      x.1.role = some .name ∨ x.1.role = none → ∃ t, x.2 = ofToken t := by
    intro x hx hrole
    refine (hpieces _ (mem_of_mem_withLabels hx).1).ofToken_of_slot ?_
    by_cases hcomment : x.2.isComment = true
    · rw [isComment, beq_iff_eq] at hcomment
      rw [hcomment]
      decide
    · obtain ⟨s, hs, hlabel, hslot⟩ := hcovers.exists_step hx (by simpa using hcomment)
      exact hslot ▸ hterminal s hs (hlabel ▸ hrole)
  calc (joined (p.steps.map (·.label)) pieces).countP (fun t => t.role == some .name)
      ≤ (withLabels (p.steps.map (·.label)) pieces).reverse.countP (fun x => x.1.role == some .name) := by
        rw [joined_eq (.inr hcovers.first)]
        exact countP_flatMap_le fun x hx => countP_labeledTrees_le (htoken x (List.mem_reverse.1 hx))
    _ = p.steps.countP fun s => s.label.role == some .name := by
        rw [List.countP_reverse, hcovers.countP_withLabels]
    _ ≤ 1 := hone

theorem Derived.wellFormed {q : Piece} (h : q.Derived productions kinds) : ∀ t ∈ q.trees, t.WellFormed := by
  induction h with
  | token t =>
    intro u hu
    rw [List.mem_singleton.1 hu]
    exact Tree.wellFormed_iff.2 ⟨Tree.complete_of_kind (leafKind_not_typed _), nofun⟩
  | @complete p i place pieces hp hhead hlabels hcovers hpieces ih =>
    have hsuffices := hgrammar p hp
    have hjoined : ∀ t ∈ joined (p.steps.map (·.label)) pieces, t.WellFormed := by
      intro t ht
      obtain ⟨x, hx, u, hu, rfl⟩ := (mem_joined (.inr hcovers.first)).1 ht
      obtain ⟨hread, hlabel⟩ := mem_of_mem_withLabels hx
      refine (ih x.2 hread u hu).labeled ?_
      rcases hlabel with hlabel | ⟨hlabel, -⟩
      · simp [hlabel]
      · obtain ⟨s, hs, hlabel⟩ := List.mem_map.1 hlabel
        exact hlabel ▸ hsuffices.labels s hs
    rw [Piece.complete, hlabels, List.reverse_reverse, hhead]
    dsimp only
    split
    · rename_i k hkind
      intro t ht
      rw [List.mem_singleton.1 ht]
      refine Tree.wellFormed_iff.2 ⟨⟨fun htyped => ?_, fun hvariadic => ?_⟩, fun c hc => ?_⟩
      · obtain ⟨c, hc, hrole⟩ := exists_type hgrammar hsuffices hcovers hpieces hkind htyped
        exact List.find?_isSome.2 ⟨c, List.mem_reverse.2 hc, by simp [hrole]⟩
      · obtain rfl : k = .variadicParameter := hvariadic
        rw [Tree.childrenWith, ← List.countP_eq_length_filter]
        exact List.countP_reverse.trans_le (countP_name_le hsuffices hcovers hpieces hkind)
      · exact hjoined c (List.mem_reverse.1 hc)
    · exact hjoined

end Piece

/-! ## Source files -/

/-- The tree of a source file is well-formed. -/
theorem GoGrammar.wellFormed_of_parse? {source : List Char} {tree : Tree} (h : parse? source = some tree) :
    tree.WellFormed := by
  obtain ⟨ps, stop, hps, rfl⟩ := Automaton.read?_derived h
  refine Tree.wellFormed_iff.2 ⟨Tree.complete_of_kind ?_, fun t ht => ?_⟩
  · exact (by decide : NodeKind.sourceFile ∉ NodeKind.typed)
  · obtain ⟨x, hx, u, hu, rfl⟩ := (Piece.mem_joined (.inl rfl)).1 (List.mem_reverse.1 ht)
    obtain ⟨hx, hlabel⟩ := Piece.mem_of_mem_withLabels hx
    have hnone : x.1 = {} := hlabel.resolve_right fun hmem => nomatch hmem.1
    rw [hnone, Tree.labeled_empty]
    exact (hps x.2 hx).wellFormed suffices_of_mem_grammar u hu

theorem SourceFile.wellFormed_of_read {filename source : String} {f : SourceFile}
    (h : SourceFile.read filename source = .ok f) : f.tree.WellFormed := by
  rw [SourceFile.read] at h
  have hparse : ∀ tree, GoGrammar.parse? source.toList = some tree → tree.WellFormed :=
    fun _ => GoGrammar.wellFormed_of_parse?
  revert h hparse
  -- the parser is not run
  generalize GoGrammar.parse? source.toList = parsed
  intro h hparse
  cases parsed with
  | none => cases h
  | some tree =>
    cases h
    exact hparse tree rfl

end Registrar
