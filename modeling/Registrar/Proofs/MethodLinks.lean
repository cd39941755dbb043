import Registrar.Proofs.CrossReference
/-!
# Which methods a struct is linked to

A method belongs to the type that its receiver names, in its own package and directory. Linking a model
without links gives every method to the first struct of its type (`structOf?_eq_some_iff`), so that the
methods are shared out: those with a struct are listed there, in model order, and the others are
warned about (`linkOperations_exact`).
-/
namespace Registrar

/-- The package, the directory and the name of the type that a struct declares. -/
def Struct.type (s : Struct) : String × String × String :=
  (s.packageName, Path.directoryOf s.filename, s.name)

namespace Operation

/-- The type that a method belongs to. -/
def type? (op : Operation) : Option (String × String × String) :=
  op.receiver.map fun r => (op.packageName, op.directory, r.baseType)

/-- The warning about a method without a struct. -/
def linkWarning (op : Operation) : LinkWarning where
  packageName := op.packageName
  filename := op.filename
  operation := op.name
  receiverType := (op.receiver.map (·.baseType)).getD ""

end Operation

namespace Model

/-! ## The struct of a method -/

/-- No struct before the position declares the type. -/
def IsFirst (m : Model) (i : Nat) (type : String × String × String) : Prop :=
  ∀ j s, j < i → m.structs[j]? = some s → s.type ≠ type

/-- Whether some struct declares the type of the method. -/
def hasStruct (m : Model) (op : Operation) : Bool :=
  op.type?.any fun type => type ∈ m.structs.map (·.type)

theorem structOf?_eq_findIdx? (m : Model) (op : Operation) (name : String) :
    m.structOf? op name = m.structs.findIdx? fun s => s.type = (op.packageName, op.directory, name) := by
  rw [structOf?]
  congr 1
  funext s
  simp only [Struct.type, Prod.mk.injEq, Bool.decide_and, Bool.and_assoc]
  rfl

/-- A method is given to the first struct that declares its type. -/
theorem structOf?_eq_some_iff {m : Model} {op : Operation} {name : String} {i : Nat} :
    m.structOf? op name = some i ↔ ∃ s, m.structs[i]? = some s ∧
      s.type = (op.packageName, op.directory, name) ∧ m.IsFirst i s.type := by
  rw [structOf?_eq_findIdx?, List.findIdx?_eq_some_iff_getElem]
  constructor
  · rintro ⟨hi, htype, hbefore⟩
    have htype := of_decide_eq_true htype
    refine ⟨m.structs[i], List.getElem?_eq_getElem hi, htype, ?_⟩
    intro j s hj hs hsame
    obtain ⟨hlt, rfl⟩ := List.getElem?_eq_some_iff.1 hs
    exact hbefore j hj (decide_eq_true (hsame.trans htype))
  · rintro ⟨s, hs, htype, hfirst⟩
    obtain ⟨hi, rfl⟩ := List.getElem?_eq_some_iff.1 hs
    refine ⟨hi, decide_eq_true htype, fun j hj hsame => ?_⟩
    exact hfirst j _ hj (List.getElem?_eq_getElem (Nat.lt_trans hj hi)) ((of_decide_eq_true hsame).trans htype.symm)

theorem isSome_structOf? (m : Model) {op : Operation} {r : Field} (hr : op.receiver = some r) :
    (m.structOf? op r.baseType).isSome = m.hasStruct op := by
  rw [structOf?_eq_findIdx?, List.findIdx?_isSome, hasStruct, Operation.type?, hr, Option.map_some,
    Option.any_some, Bool.eq_iff_iff, List.any_eq_true, decide_eq_true_eq, List.mem_map]
  simp only [decide_eq_true_eq]

theorem mem_methodsAt {m : Model} {i j : Nat} : j ∈ m.methodsAt i ↔ ∃ s op,
    m.structs[i]? = some s ∧ m.operations[j]? = some op ∧ op.type? = some s.type ∧
      m.IsFirst i s.type := by
  have hmethod : ∀ op, m.isMethodAt i op = true ↔ ∃ s, m.structs[i]? = some s ∧
      op.type? = some s.type ∧ m.IsFirst i s.type := by
    intro op
    rw [isMethodAt, Operation.type?]
    cases hr : op.receiver with
    | none => simp
    | some r =>
      rw [Option.any_some, decide_eq_true_eq, structOf?_eq_some_iff, Option.map_some]
      simp only [Option.some.injEq, eq_comm]
  rw [methodsAt, List.mem_filterMap]
  constructor
  · rintro ⟨⟨op, k⟩, hop, hk⟩
    dsimp only at hk
    split at hk
    · rename_i hm
      cases hk
      obtain ⟨s, hs, htype, hfirst⟩ := (hmethod op).1 hm
      exact ⟨s, op, hs, List.mk_mem_zipIdx_iff_getElem?.1 hop, htype, hfirst⟩
    · cases hk
  · rintro ⟨s, op, hs, hop, htype, hfirst⟩
    refine ⟨(op, j), List.mk_mem_zipIdx_iff_getElem?.2 hop, ?_⟩
    exact if_pos ((hmethod op).2 ⟨s, hs, htype, hfirst⟩)

/-! ## Counting -/

theorem linkWarnings_eq (m : Model) : m.linkWarnings =
    (m.operations.filter fun op => op.isMethod && !m.hasStruct op).map Operation.linkWarning := by
  rw [linkWarnings, ← List.filterMap_eq_map, List.filterMap_filter]
  congr 1
  funext op
  rw [Operation.isMethod]
  cases hr : op.receiver with
  | none => rfl
  | some r =>
    have hsome := m.isSome_structOf? hr
    rw [Option.bind_some, linkOf]
    cases hs : m.structOf? op r.baseType with
    | none =>
      rw [hs] at hsome
      simp [← hsome, Operation.linkWarning, hr]
    | some i =>
      rw [hs] at hsome
      simp [← hsome]

theorem length_links (m : Model) : m.links.length = m.operations.countP m.hasStruct := by
  have hlink : (fun x => (m.linkAt? x).isSome) = m.hasStruct ∘ Prod.fst := by
    funext ⟨op, j⟩
    rw [Function.comp_apply, linkAt?, Option.isSome_map]
    cases hr : op.receiver with
    | none => simp [hasStruct, Operation.type?, hr]
    | some r => rw [Option.bind_some, m.isSome_structOf? hr]
  rw [links_eq, List.length_filterMap_eq_countP, hlink, ← List.countP_map, List.zipIdx_map_fst]

/-- Every method has a struct or a warning. -/
theorem length_links_add_length_linkWarnings (m : Model) :
    m.links.length + m.linkWarnings.length = m.operations.countP (·.isMethod) := by
  have hmethod : ∀ op, m.hasStruct op = true → op.isMethod = true := by
    intro op h
    rw [hasStruct, Operation.type?] at h
    rw [Operation.isMethod]
    cases hr : op.receiver with
    | none => simp [hr] at h
    | some r => rfl
  rw [length_links, linkWarnings_eq, List.length_map, ← List.countP_eq_length_filter,
    List.countP_eq_countP_filter_add m.operations (·.isMethod) m.hasStruct, List.countP_filter,
    List.countP_filter]
  congr 1
  refine List.countP_congr fun op _ => ?_
  rw [Bool.and_eq_true]
  exact ⟨fun h => ⟨hmethod op h, h⟩, fun h => h.2⟩

/-- In a model without links every link is new. -/
theorem filter_isNewLink {m : Model} (h : ∀ s ∈ m.structs, s.operations = []) :
    m.links.filter (isNewLink m.structs) = m.links := by
  rw [List.filter_eq_self]
  intro l hl
  have hmethod : l.2 ∈ m.methodsAt l.1 := by
    rw [← linkedTo_links, mem_linkedTo]
    exact hl
  obtain ⟨s, -, hs, -⟩ := mem_methodsAt.1 hmethod
  simp [isNewLink, hs, h s (List.mem_of_getElem? hs)]

/-! ## The links of a model -/

section Resolved
variable {m : Model} {i : Nat} {s : Struct}

theorem getElem?_resolved (h : m.resolved.structs[i]? = some s) :
    ∃ t, m.structs[i]? = some t ∧ s = { t with operations := m.methodsAt i } := by
  rw [resolved, List.getElem?_mapIdx] at h
  obtain ⟨t, ht, rfl⟩ := Option.map_eq_some_iff.1 h
  exact ⟨t, ht, rfl⟩

/-- The first struct of a type has exactly the methods of the type, the others have none. -/
theorem mem_operations_resolved (h : m.resolved.structs[i]? = some s) {j : Nat} :
    j ∈ s.operations ↔
      m.IsFirst i s.type ∧ ∃ op, m.operations[j]? = some op ∧ op.type? = some s.type := by
  obtain ⟨t, ht, rfl⟩ := getElem?_resolved h
  constructor
  · intro hj
    obtain ⟨u, op, hu, hop, htype, hfirst⟩ := mem_methodsAt.1 hj
    obtain rfl : t = u := Option.some.inj (ht.symm.trans hu)
    exact ⟨hfirst, op, hop, htype⟩
  · rintro ⟨hfirst, op, hop, htype⟩
    exact mem_methodsAt.2 ⟨t, op, ht, hop, htype, hfirst⟩

theorem ascending_resolved (h : s ∈ m.resolved.structs) : s.operations.Pairwise (· < ·) := by
  obtain ⟨i, hi⟩ := List.getElem?_of_mem h
  obtain ⟨t, -, rfl⟩ := getElem?_resolved hi
  exact m.methodsAt_ascending i

/-- An operation is listed at one struct. -/
theorem eq_of_mem_operations_resolved {i' : Nat} {s' : Struct} (hs : m.resolved.structs[i]? = some s)
    (hs' : m.resolved.structs[i']? = some s') {j : Nat} (hj : j ∈ s.operations)
    (hj' : j ∈ s'.operations) : i = i' := by
  obtain ⟨hfirst, op, hop, htype⟩ := (mem_operations_resolved hs).1 hj
  obtain ⟨hfirst', op', hop', htype'⟩ := (mem_operations_resolved hs').1 hj'
  obtain rfl : op = op' := Option.some.inj (hop.symm.trans hop')
  have hsame : s.type = s'.type := Option.some.inj (htype.symm.trans htype')
  obtain ⟨t, ht, rfl⟩ := getElem?_resolved hs
  obtain ⟨t', ht', rfl⟩ := getElem?_resolved hs'
  -- both declare the type of the method, and each is the first to do so
  rcases Nat.lt_trichotomy i i' with hlt | heq | hlt
  · exact absurd hsame (hfirst' i t hlt ht)
  · exact heq
  · exact absurd hsame.symm (hfirst i' t' hlt ht')

theorem bare_structs_resolved (h : ∀ s ∈ m.structs, s.operations = []) :
    m.resolved.structs.map Struct.bare = m.structs := by
  refine List.ext_getElem? fun i => ?_
  rw [resolved, List.getElem?_map, List.getElem?_mapIdx]
  cases hs : m.structs[i]? with
  | none => rfl
  | some s =>
    have hbare : s.bare = s := by
      rw [Struct.bare, ← h s (List.mem_of_getElem? hs)]
    exact congrArg some hbare

end Resolved

/-- What linking a model without links gives: a model and a report. -/
structure LinksAll (m m' : Model) (report : LinkReport) : Prop where
  /-- Only the structs' lists of operations are written. -/
  kept : { m' with structs := m'.structs.map Struct.bare } = m
  ascending : ∀ s ∈ m'.structs, s.operations.Pairwise (· < ·)
  /-- The first struct of a type has exactly the methods of the type, the others have none. -/
  methods : ∀ i s, m'.structs[i]? = some s → ∀ j, j ∈ s.operations ↔
    m.IsFirst i s.type ∧ ∃ op, m.operations[j]? = some op ∧ op.type? = some s.type
  valid : ∀ s ∈ m'.structs, ∀ j ∈ s.operations, j < m.operations.length
  once : ∀ (i i' : Nat) (s s' : Struct), m'.structs[i]? = some s → m'.structs[i']? = some s' →
    ∀ j ∈ s.operations, j ∈ s'.operations → i = i'
  nodup : ∀ s ∈ m'.structs, s.operations.Nodup
  counted : report.linkedOperations + report.warnings.length = m.operations.countP (·.isMethod)
  /-- The warnings are about the methods of types that no struct declares, in model order. -/
  warnings : report.warnings = (m.operations.filter fun op => op.type?.any fun type =>
    type ∉ m.structs.map (·.type)).map Operation.linkWarning
  documented : report.documentedEnums = 0

/-- Linking a model without links shares the methods out among the structs and the warnings. -/
theorem linkOperations_exact (m : Model) (h : ∀ s ∈ m.structs, s.operations = []) :
    m.LinksAll m.linkOperations.2.1 m.linkOperations.2.2 := by
  have hlinked := linkOperations_eq (m := m) fun i s hs => by
    rw [h s (List.mem_of_getElem? hs)]
    exact List.nil_prefix
  rw [hlinked, filter_isNewLink h]
  refine ⟨?_, fun s hs => ascending_resolved hs, fun i s hs j => mem_operations_resolved hs, ?_,
    fun i i' s s' hs hs' j hj hj' => eq_of_mem_operations_resolved hs hs' hj hj', ?_, ?_, ?_, rfl⟩
  · calc _ = { m with structs := m.resolved.structs.map Struct.bare } := rfl
      _ = m := by rw [bare_structs_resolved h]
  · intro s hs j hj
    obtain ⟨i, hi⟩ := List.getElem?_of_mem hs
    obtain ⟨-, op, hop, -⟩ := (mem_operations_resolved hi).1 hj
    exact (List.getElem?_eq_some_iff.1 hop).1
  · intro s hs
    exact (ascending_resolved hs).imp Nat.ne_of_lt
  · exact m.length_links_add_length_linkWarnings
  · refine m.linkWarnings_eq.trans (congrArg _ (List.filter_congr fun op _ => ?_))
    rw [hasStruct, Operation.isMethod, Operation.type?]
    cases op.receiver with
    | none => rfl
    | some r => simp [-List.mem_map]

/-- Two structs of one type, and methods of it in two files, with a struct of the same name elsewhere. -/
def doubledStruct : Model :=
  { root := "."
    structs := [storeIn "shop/a.go", storeIn "shop/b.go", storeIn "depot/shop.go"]
    operations := [saveIn "shop/b.go", { saveIn "shop/a.go" with receiver := none }, saveIn "mail/a.go",
      saveIn "shop/a.go"] }

theorem linkOperations_doubled : (∀ s ∈ doubledStruct.structs, s.operations = []) ∧
    doubledStruct.LinksAll doubledStruct.linkOperations.2.1 doubledStruct.linkOperations.2.2 ∧
    doubledStruct.linkOperations.2.1.structs.map (·.operations) = [[0, 3], [], []] ∧
    doubledStruct.linkOperations.2.2.linkedOperations = 2 ∧
    doubledStruct.linkOperations.2.2.warnings =
      [{ packageName := "shop", filename := "mail/a.go", operation := "Save", receiverType := "Store" }] := by
  have hunlinked : ∀ s ∈ doubledStruct.structs, s.operations = [] := by decide
  refine ⟨hunlinked, linkOperations_exact doubledStruct hunlinked, ?_⟩
  decide +kernel

end Model
end Registrar
