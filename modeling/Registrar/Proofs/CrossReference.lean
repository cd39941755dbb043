import Mathlib.Data.List.Nodup
import Registrar.Model.CrossReference
import Registrar.Source.Extraction
/-!
# Cross references of a growing model

A pass writes the methods of structs and the documentation of enumerations, and it reads neither
(`bare`). `resolved` says what it writes: at each struct the positions of all its methods, and at each
enumeration the lines of its type definition. Files that are added later do not change what earlier
passes could know, so what these have written is the beginning of what a later pass writes
(`Begun`), and the passes of a growing model amount to one pass at its end
(`crossReference_incremental`).
-/
namespace Registrar

/-! ## Adding links -/

/-- The operations that the links give to the struct at a position. -/
def linkedTo (links : List (Nat × Nat)) (i : Nat) : List Nat :=
  (links.filter fun l => l.1 = i).map (·.2)

theorem mem_linkedTo {links : List (Nat × Nat)} {i j : Nat} :
    j ∈ linkedTo links i ↔ (i, j) ∈ links := by
  simp [linkedTo]

theorem linkedTo_cons (l : Nat × Nat) (links : List (Nat × Nat)) (i : Nat) :
    linkedTo (l :: links) i = if l.1 = i then l.2 :: linkedTo links i else linkedTo links i := by
  by_cases h : l.1 = i <;> simp [linkedTo, h]

namespace Struct

/-- The struct with the operations that it does not have yet, after those it has. -/
def gain (s : Struct) (operations : List Nat) : Struct :=
  { s with operations := s.operations ++ operations.filter (· ∉ s.operations) }

theorem gain_nil (s : Struct) : s.gain [] = s := by
  simp [gain]

theorem gain_cons_of_mem {s : Struct} {j : Nat} (h : j ∈ s.operations) (js : List Nat) :
    s.gain (j :: js) = s.gain js := by
  simp [gain, h]

theorem gain_cons_of_not_mem {s : Struct} {j : Nat} (h : j ∉ s.operations) {js : List Nat}
    (hj : j ∉ js) :
    s.gain (j :: js) = gain { s with operations := s.operations ++ [j] } js := by
  have hfilter : js.filter (· ∉ s.operations ++ [j]) = js.filter (· ∉ s.operations) := by
    refine List.filter_congr fun k hk => ?_
    have hne : k ≠ j := fun he => hj (he ▸ hk)
    simp [hne]
  rw [gain, gain, hfilter, List.filter_cons_of_pos (by simpa using h), List.append_assoc]
  rfl

/-- A struct that has the first of some different operations gains the others. -/
theorem gain_of_prefix {s : Struct} {js : List Nat} (hn : js.Nodup) (h : s.operations <+: js) :
    s.gain js = { s with operations := js } := by
  obtain ⟨more, rfl⟩ := h
  have hdisjoint := (List.nodup_append.1 hn).2.2
  have hold : s.operations.filter (· ∉ s.operations) = [] := by
    simp [List.filter_eq_nil_iff]
  have hnew : more.filter (· ∉ s.operations) = more := by
    rw [List.filter_eq_self]
    intro j hj
    exact decide_eq_true fun hs => hdisjoint j hs j hj rfl
  rw [gain, List.filter_append, hold, hnew, List.nil_append]

end Struct

/-- The struct of the link is there and does not have the operation yet. -/
def isNewLink (structs : List Struct) (l : Nat × Nat) : Bool :=
  structs[l.1]?.any fun s => l.2 ∉ s.operations

namespace Model

theorem addLink_eq (structs : List Struct) (l : Nat × Nat) :
    addLink structs l =
      (structs.mapIdx fun i s => s.gain (if l.1 = i then [l.2] else []),
        if isNewLink structs l then 1 else 0) := by
  have hstructs : ∀ structs' : List Struct, (∀ i, i ≠ l.1 → structs'[i]? = structs[i]?) →
      (structs'[l.1]? = structs[l.1]?.map fun s => s.gain [l.2]) →
      structs' = structs.mapIdx fun i s => s.gain (if l.1 = i then [l.2] else []) := by
    intro structs' hother hself
    refine List.ext_getElem? fun i => ?_
    rw [List.getElem?_mapIdx]
    by_cases hi : i = l.1
    · subst hi
      simpa using hself
    · simp [hother i hi, Ne.symm hi, Struct.gain_nil]
  unfold addLink isNewLink
  cases hs : structs[l.1]? with
  | none =>
    simp only [Option.any_none, Bool.false_eq_true, if_false, Prod.mk.injEq, and_true]
    exact hstructs structs (fun _ _ => rfl) (by simp [hs])
  | some s =>
    by_cases hmem : l.2 ∈ s.operations
    · simp only [List.contains_eq_mem, hmem, decide_true, if_true, Option.any_some, not_true,
        decide_false, Bool.false_eq_true, if_false, Prod.mk.injEq, and_true]
      refine hstructs structs (fun _ _ => rfl) ?_
      rw [hs, Option.map_some, Struct.gain_cons_of_mem hmem, Struct.gain_nil]
    · simp only [List.contains_eq_mem, hmem, decide_false, Bool.false_eq_true, if_false, if_true,
        Option.any_some, not_false_eq_true, decide_true, Prod.mk.injEq, and_true]
      refine hstructs _ (fun i hi => List.getElem?_set_ne (Ne.symm hi)) ?_
      have hlt : l.1 < structs.length := (List.getElem?_eq_some_iff.1 hs).1
      rw [List.getElem?_set_self hlt, hs, Option.map_some,
        Struct.gain_cons_of_not_mem hmem List.not_mem_nil, Struct.gain_nil]

theorem addLinks_cons (structs : List Struct) (l : Nat × Nat) (links : List (Nat × Nat)) :
    addLinks structs (l :: links) =
      ((addLinks (addLink structs l).1 links).1,
        (addLink structs l).2 + (addLinks (addLink structs l).1 links).2) := by
  have hfold : ∀ (structs : List Struct) (links : List (Nat × Nat)), addLinks structs links =
      links.foldl (fun p link => ((addLink p.1 link).1, p.2 + (addLink p.1 link).2)) (structs, 0) :=
    fun _ _ => rfl
  have hcount : ∀ (links : List (Nat × Nat)) (structs : List Struct) (n : Nat),
      links.foldl (fun p link => ((addLink p.1 link).1, p.2 + (addLink p.1 link).2)) (structs, n) =
      ((addLinks structs links).1, n + (addLinks structs links).2) := by
    intro links
    induction links with
    | nil => intros; rfl
    | cons l links ih =>
      intro structs n
      rw [hfold, List.foldl_cons, List.foldl_cons]
      rw [ih, ih, Nat.zero_add, Nat.add_assoc]
  rw [hfold, List.foldl_cons, hcount, Nat.zero_add]

/-- Adding different links gives each struct the operations that are linked to it; those that were
not there are counted. -/
theorem addLinks_eq {links : List (Nat × Nat)} (hn : links.Nodup) (structs : List Struct) :
    addLinks structs links =
      (structs.mapIdx fun i s => s.gain (linkedTo links i),
        (links.filter (isNewLink structs)).length) := by
  induction links generalizing structs with
  | nil =>
    have hself : structs = structs.mapIdx fun _ s => s := by simp [List.mapIdx_eq_zipIdx_map]
    simpa [addLinks, linkedTo, Struct.gain_nil] using hself
  | cons l links ih =>
    obtain ⟨hl, hn⟩ := List.nodup_cons.1 hn
    rw [addLinks_cons, addLink_eq, ih hn, List.mapIdx_mapIdx]
    refine Prod.ext ?_ ?_
    · dsimp only
      congr 1
      funext i s
      rw [Function.comp_apply, linkedTo_cons]
      by_cases hi : l.1 = i
      · have hnot : l.2 ∉ linkedTo links i := by
          rwa [mem_linkedTo, ← hi]
        rw [if_pos hi, if_pos hi]
        by_cases hmem : l.2 ∈ s.operations
        · rw [Struct.gain_cons_of_mem hmem, Struct.gain_nil, Struct.gain_cons_of_mem hmem]
        · rw [Struct.gain_cons_of_not_mem hmem List.not_mem_nil, Struct.gain_nil,
            Struct.gain_cons_of_not_mem hmem hnot]
      · rw [if_neg hi, if_neg hi, Struct.gain_nil]
    · -- a link is new or not whatever other links have been added before it
      have hsame : links.filter (isNewLink (structs.mapIdx fun i s =>
          s.gain (if l.1 = i then [l.2] else []))) = links.filter (isNewLink structs) := by
        refine List.filter_congr fun k hk => ?_
        simp only [isNewLink, List.getElem?_mapIdx, Option.any_map]
        congr 1
        funext s
        by_cases hi : l.1 = k.1
        · have hne : k.2 ≠ l.2 := fun he => hl (Prod.ext hi he.symm ▸ hk)
          simp [Struct.gain, hi, hne]
        · simp [hi, Struct.gain_nil]
      rw [hsame, List.filter_cons]
      split <;> simp [Nat.add_comm]

/-! ## The methods of a struct -/

/-- Whether the operation is a method of the struct at the position. -/
def isMethodAt (m : Model) (i : Nat) (op : Operation) : Bool :=
  op.receiver.any fun r => m.structOf? op r.baseType = some i

/-- The positions of the methods of the struct at a position, in model order. -/
def methodsAt (m : Model) (i : Nat) : List Nat :=
  m.operations.zipIdx.filterMap fun (op, j) => if m.isMethodAt i op then some j else none

theorem linkedTo_links (m : Model) (i : Nat) : linkedTo m.links i = m.methodsAt i := by
  rw [linkedTo, links, methodsAt, List.filter_filterMap, List.map_filterMap]
  congr 1
  funext ⟨op, j⟩
  cases hr : op.receiver with
  | none => simp [isMethodAt, hr]
  | some r =>
    cases hs : m.structOf? op r.baseType with
    | none => simp [isMethodAt, hr, linkOf, hs]
    | some k => by_cases hk : k = i <;> simp [isMethodAt, hr, linkOf, hs, hk]

/-- The link of the operation at a position, if it is a method with a struct. -/
def linkAt? (m : Model) (x : Operation × Nat) : Option (Nat × Nat) :=
  (x.1.receiver.bind fun r => m.structOf? x.1 r.baseType).map fun i => (i, x.2)

theorem links_eq (m : Model) : m.links = m.operations.zipIdx.filterMap m.linkAt? := by
  rw [links]
  congr 1
  funext ⟨op, j⟩
  cases hr : op.receiver with
  | none => simp [linkAt?, hr]
  | some r => cases hs : m.structOf? op r.baseType <;> simp [linkAt?, linkOf, hr, hs]

theorem links_ascending (m : Model) : m.links.Pairwise fun a b => a.2 < b.2 := by
  have hpositions : m.operations.zipIdx.Pairwise fun a b => a.2 < b.2 := by
    rw [← List.pairwise_map, List.zipIdx_map_snd]
    exact List.pairwise_lt_range'
  rw [links_eq]
  refine List.Pairwise.filterMap _ (fun a a' h b hb b' hb' => ?_) hpositions
  obtain ⟨i, -, rfl⟩ := Option.map_eq_some_iff.1 hb
  obtain ⟨i', -, rfl⟩ := Option.map_eq_some_iff.1 hb'
  exact h

theorem links_nodup (m : Model) : m.links.Nodup := by
  refine m.links_ascending.imp ?_
  rintro a _ h rfl
  exact Nat.lt_irrefl _ h

theorem methodsAt_ascending (m : Model) (i : Nat) : (m.methodsAt i).Pairwise (· < ·) := by
  rw [← linkedTo_links, linkedTo, List.pairwise_map]
  exact m.links_ascending.filter _

theorem methodsAt_nodup (m : Model) (i : Nat) : (m.methodsAt i).Nodup :=
  (m.methodsAt_ascending i).imp Nat.ne_of_lt

/-! ## What a pass reads and what it writes -/

end Model

def Struct.bare (s : Struct) : Struct := { s with operations := [] }

def Enum.bare (e : Enum) : Enum := { e with docs := [] }

namespace Model

/-- The model without what passes write. -/
def bare (m : Model) : Model :=
  { m with structs := m.structs.map Struct.bare, enums := m.enums.map Enum.bare }

/-- The enumeration with the lines of its type definition, or none. -/
def documented (m : Model) (e : Enum) : Enum :=
  { e with docs := ((m.typedefOf? e).map (·.docs)).getD [] }

/-- The model as a pass leaves it, whatever has been written before. -/
def resolved (m : Model) : Model :=
  { m with
    structs := m.structs.mapIdx fun i s => { s with operations := m.methodsAt i }
    enums := m.enums.map m.documented }

@[simp] theorem structOf?_bare (m : Model) (op : Operation) (name : String) :
    m.bare.structOf? op name = m.structOf? op name := by
  rw [structOf?, bare, List.findIdx?_map]
  rfl

@[simp] theorem linkWarnings_bare (m : Model) : m.bare.linkWarnings = m.linkWarnings := by
  simp only [linkWarnings, linkOf, structOf?_bare]
  rfl

@[simp] theorem methodsAt_bare (m : Model) (i : Nat) : m.bare.methodsAt i = m.methodsAt i := by
  simp only [methodsAt, isMethodAt, structOf?_bare]
  rfl

theorem resolved_bare (m : Model) : m.bare.resolved = m.resolved := by
  have hstructs : m.bare.resolved.structs = m.resolved.structs := by
    refine List.ext_getElem? fun i => ?_
    simp only [resolved, methodsAt_bare, List.getElem?_mapIdx]
    simp only [bare, List.getElem?_map]
    cases m.structs[i]? <;> rfl
  have henums : m.bare.resolved.enums = m.resolved.enums := by
    simp only [resolved, bare, List.map_map]
    rfl
  calc m.bare.resolved
      = { m with structs := m.bare.resolved.structs, enums := m.bare.resolved.enums } := rfl
    _ = m.resolved := by rw [hstructs, henums]; rfl

theorem bare_resolved (m : Model) : m.resolved.bare = m.bare := by
  have hstructs : m.resolved.bare.structs = m.bare.structs := by
    refine List.ext_getElem? fun i => ?_
    simp only [resolved, List.getElem?_mapIdx, bare, List.getElem?_map]
    cases m.structs[i]? <;> rfl
  have henums : m.resolved.bare.enums = m.bare.enums := by
    simp only [resolved, bare, List.map_map]
    rfl
  calc m.resolved.bare
      = { m with structs := m.resolved.bare.structs, enums := m.resolved.bare.enums } := rfl
    _ = m.bare := by rw [hstructs, henums]; rfl

theorem resolved_resolved (m : Model) : m.resolved.resolved = m.resolved := by
  rw [← resolved_bare, bare_resolved, resolved_bare]

theorem methodsAt_resolved (m : Model) (i : Nat) : m.resolved.methodsAt i = m.methodsAt i := by
  rw [← methodsAt_bare, bare_resolved, methodsAt_bare]

/-! ## One pass -/

/-- What earlier passes have written is the beginning of what a pass writes. -/
structure Begun (m : Model) : Prop where
  methods : ∀ i s, m.structs[i]? = some s → s.operations <+: m.methodsAt i
  docs : ∀ e ∈ m.enums, e.docs = [] ∨ e.docs = (m.documented e).docs

theorem begun_bare (m : Model) : m.bare.Begun where
  methods i s hs := by
    simp only [bare, List.getElem?_map] at hs
    obtain ⟨t, -, rfl⟩ := Option.map_eq_some_iff.1 hs
    exact List.nil_prefix
  docs e he := by
    obtain ⟨f, -, rfl⟩ := List.mem_map.1 he
    exact .inl rfl

theorem begun_resolved (m : Model) : m.resolved.Begun where
  methods i s hs := by
    simp only [resolved, List.getElem?_mapIdx] at hs
    obtain ⟨t, -, rfl⟩ := Option.map_eq_some_iff.1 hs
    exact (methodsAt_resolved m i).symm ▸ List.prefix_rfl
  docs e he := by
    obtain ⟨f, -, rfl⟩ := List.mem_map.1 he
    exact .inr rfl

/-- The number of enumerations with a type definition. -/
def documentedCount (m : Model) : Nat :=
  (m.enums.filter fun e => (m.typedefOf? e).isSome).length

theorem linkOperations_eq {m : Model}
    (h : ∀ i s, m.structs[i]? = some s → s.operations <+: m.methodsAt i) :
    m.linkOperations.2 = ({ m with structs := m.resolved.structs },
      { linkedOperations := (m.links.filter (isNewLink m.structs)).length
        warnings := m.linkWarnings }) := by
  have hstructs : (m.structs.mapIdx fun i s => s.gain (linkedTo m.links i)) = m.resolved.structs := by
    refine List.ext_getElem? fun i => ?_
    simp only [resolved, List.getElem?_mapIdx, linkedTo_links]
    cases hs : m.structs[i]? with
    | none => rfl
    | some s => exact congrArg some (Struct.gain_of_prefix (m.methodsAt_nodup i) (h i s hs))
  rw [linkOperations, addLinks_eq m.links_nodup, hstructs]

theorem documentEnums_eq {m : Model} (h : ∀ e ∈ m.enums, e.docs = [] ∨ e.docs = (m.documented e).docs) :
    m.documentEnums = ({ m with enums := m.resolved.enums }, m.documentedCount) := by
  rw [documentEnums, documentedCount, resolved]
  congr 2
  refine List.map_congr_left fun e he => ?_
  have hdocs := h e he
  unfold documented at hdocs ⊢
  cases ht : m.typedefOf? e with
  | some t => rfl
  | none =>
    have hnone : e.docs = [] := by simpa [ht] using hdocs
    rw [Option.map_none, Option.getD_none, ← hnone]

/-- A pass over a model in which passes have been made before. -/
theorem crossReference_eq {m : Model} (h : m.Begun) :
    m.crossReference.2 = (m.resolved,
      { linkedOperations := (m.links.filter (isNewLink m.structs)).length
        documentedEnums := m.documentedCount
        warnings := m.linkWarnings }) := by
  have hlinks := linkOperations_eq h.methods
  have hdocs := documentEnums_eq (m := { m with structs := m.resolved.structs }) h.docs
  calc m.crossReference.2
      = (m.linkOperations.2.1.documentEnums.1,
          { m.linkOperations.2.2 with documentedEnums := m.linkOperations.2.1.documentEnums.2 }) := rfl
    _ = _ := by rw [hlinks, hdocs]; rfl

/-! ## Adding files -/

theorem structOf?_addFile (m : Model) (f : Declarations) (op : Operation) (name : String) :
    (m.addFile f).structOf? op name = (m.structOf? op name).or
      ((f.structs.findIdx? fun s => s.packageName == op.packageName &&
        Path.directoryOf s.filename == op.directory && s.name == name).map
          (· + m.structs.length)) := by
  rw [structOf?, addFile, List.findIdx?_append]
  rfl

theorem isMethodAt_addFile {m : Model} {i : Nat} (hi : i < m.structs.length) (f : Declarations)
    (op : Operation) : (m.addFile f).isMethodAt i op = m.isMethodAt i op := by
  unfold isMethodAt
  congr 1
  funext r
  rw [structOf?_addFile]
  cases m.structOf? op r.baseType with
  | some k => rfl
  | none =>
    -- a struct of the new file stands behind those of the model
    have hne : ∀ k : Nat, k + m.structs.length ≠ i := by omega
    simp [hne]

/-- A file adds methods behind those that a struct of the model has. -/
theorem methodsAt_addFile {m : Model} {i : Nat} (hi : i < m.structs.length) (f : Declarations) :
    m.methodsAt i <+: (m.addFile f).methodsAt i := by
  have hoperations : (m.addFile f).operations = m.operations ++ f.operations := rfl
  rw [methodsAt, methodsAt, hoperations, List.zipIdx_append, List.filterMap_append]
  simp only [isMethodAt_addFile hi]
  exact List.prefix_append _ _

theorem typedefOf?_addFile {m : Model} {e : Enum} {t : Typedef} (h : m.typedefOf? e = some t)
    (f : Declarations) : (m.addFile f).typedefOf? e = some t := by
  rw [typedefOf?] at h
  rw [typedefOf?, addFile, List.find?_append, h, Option.some_or]

end Model

/-- A file in which no pass has written. -/
structure Declarations.Unlinked (f : Declarations) : Prop where
  structs : ∀ s ∈ f.structs, s.operations = []
  enums : ∀ e ∈ f.enums, e.docs = []

namespace SourceFile

/-- No pass has written in the entity. -/
def Entity.Unlinked : Entity → Prop
  | struct s => s.operations = []
  | enum e => e.docs = []
  | operation _ | interface _ | typedef _ => True

theorem unlinked_of_entitiesOf {p : Place} {t : Tree} {before : List Tree} {e : Entity}
    (h : e ∈ entitiesOf p t before) : e.Unlinked := by
  have hoperation : e ∈ ((operation? p t before).map Entity.operation).toList → e.Unlinked := by
    intro h
    obtain ⟨o, -, rfl⟩ := Option.map_eq_some_iff.1 (Option.mem_toList.1 h)
    trivial
  unfold entitiesOf at h
  split at h
  · obtain ⟨⟨spec, above⟩, -, hspec⟩ := List.mem_filterMap.1 h
    dsimp only at hspec
    split at hspec
    · unfold typeEntity? at hspec
      split at hspec
      · split at hspec
        · cases hspec
          rfl
        · split at hspec <;> cases hspec <;> trivial
      · cases hspec
    · cases hspec
  · exact hoperation h
  · exact hoperation h
  · obtain ⟨en, hen, rfl⟩ := Option.map_eq_some_iff.1 (Option.mem_toList.1 h)
    obtain ⟨name, -, rfl⟩ := Option.map_eq_some_iff.1 hen
    rfl
  · cases h

theorem unlinked_of_collect {p : Place} {ts : List (Tree × List Tree)} {e : Entity}
    (h : e ∈ collect p ts) : e.Unlinked := by
  induction ts generalizing p with
  | nil => cases h
  | cons t ts ih =>
    rw [collect] at h
    split at h
    · exact ih h
    · rcases List.mem_append.1 h with h | h
      · exact unlinked_of_entitiesOf h
      · exact ih h

/-- Files are read without links. -/
theorem unlinked_of_declarations {f : SourceFile} {d : Declarations}
    (h : f.declarations = .ok (some d)) : d.Unlinked := by
  unfold declarations at h
  split at h
  · cases h
  · split at h
    · cases h
    · cases h
      constructor
      · intro s hs
        obtain ⟨e, he, hsome⟩ := List.mem_filterMap.1 hs
        split at hsome <;> cases hsome
        exact unlinked_of_collect he
      · intro en hen
        obtain ⟨e, he, hsome⟩ := List.mem_filterMap.1 hen
        split at hsome <;> cases hsome
        exact unlinked_of_collect he

end SourceFile

namespace Model

theorem Begun.addFile {m : Model} (h : m.Begun) {f : Declarations} (hf : f.Unlinked) :
    (m.addFile f).Begun where
  methods i s hs := by
    have hs : (m.structs ++ f.structs)[i]? = some s := hs
    by_cases hi : i < m.structs.length
    · rw [List.getElem?_append_left hi] at hs
      exact (h.methods i s hs).trans (methodsAt_addFile hi f)
    · rw [List.getElem?_append_right (Nat.le_of_not_lt hi)] at hs
      rw [hf.structs s (List.mem_of_getElem? hs)]
      exact List.nil_prefix
  docs e he := by
    rcases List.mem_append.1 he with he | he
    · have hdocs := h.docs e he
      unfold documented at hdocs ⊢
      cases ht : m.typedefOf? e with
      | some t => rwa [typedefOf?_addFile ht, ← ht]
      | none => exact .inl (by simpa [ht] using hdocs)
    · exact .inl (hf.enums e he)

theorem bare_addFile (m : Model) {f : Declarations} (hf : f.Unlinked) :
    (m.addFile f).bare = m.bare.addFile f := by
  have hstructs : f.structs.map Struct.bare = f.structs := by
    conv_rhs => rw [← List.map_id f.structs]
    refine List.map_congr_left fun s hs => ?_
    rw [Struct.bare, ← hf.structs s hs]
    rfl
  have henums : f.enums.map Enum.bare = f.enums := by
    conv_rhs => rw [← List.map_id f.enums]
    refine List.map_congr_left fun e he => ?_
    rw [Enum.bare, ← hf.enums e he]
    rfl
  simp only [bare, addFile, List.map_append, hstructs, henums]

/-! ## Growing models -/

/-- What is done to a model while it is built. -/
inductive Step where
  | file (f : Declarations)
  | pass

def Step.apply (m : Model) : Step → Model
  | file f => m.addFile f
  | pass => m.crossReference.2.1

/-- The files that the steps add, in their order. -/
def Step.files (steps : List Step) : List Declarations :=
  steps.filterMap fun
    | file f => some f
    | pass => none

/-- A step keeps the beginning that passes have made, and a pass adds nothing that a pass reads. -/
theorem Begun.apply {m : Model} (h : m.Begun) {step : Step}
    (hstep : ∀ f ∈ Step.files [step], f.Unlinked) :
    (step.apply m).Begun ∧ (step.apply m).bare = (Step.files [step]).foldl Model.addFile m.bare := by
  cases step with
  | file f =>
    have hf : f.Unlinked := hstep f (by simp [Step.files])
    exact ⟨h.addFile hf, bare_addFile m hf⟩
  | pass =>
    have hpass : Step.pass.apply m = m.resolved := congrArg Prod.fst (crossReference_eq h)
    rw [hpass]
    exact ⟨m.begun_resolved, m.bare_resolved⟩

theorem Begun.run {m : Model} (h : m.Begun) {steps : List Step}
    (hsteps : ∀ f ∈ Step.files steps, f.Unlinked) :
    (steps.foldl Step.apply m).Begun ∧
      (steps.foldl Step.apply m).bare = (Step.files steps).foldl Model.addFile m.bare := by
  induction steps generalizing m with
  | nil => exact ⟨h, rfl⟩
  | cons step steps ih =>
    have hfiles : Step.files (step :: steps) = Step.files [step] ++ Step.files steps :=
      List.filterMap_append (l := [step])
    rw [hfiles] at hsteps ⊢
    obtain ⟨hbegun, hbare⟩ := h.apply fun f hf => hsteps f (List.mem_append_left _ hf)
    rw [List.foldl_cons, List.foldl_append, ← hbare]
    exact ih hbegun fun f hf => hsteps f (List.mem_append_right _ hf)

/-- Nothing is left to link in a model that has been passed. -/
theorem isNewLink_resolved {m : Model} {l : Nat × Nat} (h : l ∈ m.links) :
    isNewLink m.resolved.structs l = false := by
  have hmem : l.2 ∈ m.methodsAt l.1 := by
    rw [← linkedTo_links, mem_linkedTo]
    exact h
  simp only [isNewLink, resolved, List.getElem?_mapIdx, Option.any_map]
  cases m.structs[l.1]? <;> simp [hmem]

theorem links_bare (m : Model) : m.bare.links = m.links := by
  simp only [links, linkOf, structOf?_bare]
  rfl

theorem documentedCount_bare (m : Model) : m.bare.documentedCount = m.documentedCount := by
  simp only [documentedCount, bare, List.filter_map, List.length_map]
  rfl

/-- A pass over a model that has been passed changes nothing and finds nothing to link. -/
theorem crossReference_resolved (m : Model) :
    m.resolved.crossReference.2 = (m.resolved,
      { linkedOperations := 0, documentedEnums := m.documentedCount, warnings := m.linkWarnings }) := by
  have hlinks : m.resolved.links = m.links := by
    rw [← links_bare, bare_resolved, links_bare]
  have hnone : m.links.filter (isNewLink m.resolved.structs) = [] := by
    rw [List.filter_eq_nil_iff]
    intro l hl
    simp [isNewLink_resolved hl]
  have hcount : m.resolved.documentedCount = m.documentedCount := by
    rw [← documentedCount_bare, bare_resolved, documentedCount_bare]
  have hwarnings : m.resolved.linkWarnings = m.linkWarnings := by
    rw [← linkWarnings_bare, bare_resolved, linkWarnings_bare]
  rw [crossReference_eq m.begun_resolved, resolved_resolved, hlinks, hnone, hcount, hwarnings]
  rfl

/-- However files and passes take turns, a pass at the end leaves the model that one pass over all the
files leaves, with its warnings and its number of documented enumerations. A further pass changes
nothing and links nothing, and every enumeration has the documentation of the first type definition of
its name in its package and directory, or none. -/
theorem crossReference_incremental (root : String) (steps : List Step)
    (hsteps : ∀ f ∈ Step.files steps, f.Unlinked) :
    let last := (steps.foldl Step.apply { root }).crossReference.2
    let once := ((Step.files steps).foldl addFile { root }).crossReference.2
    last.1 = once.1 ∧ last.2.warnings = once.2.warnings ∧
      last.2.documentedEnums = once.2.documentedEnums ∧
      last.1.crossReference.2 = (last.1, { last.2 with linkedOperations := 0 }) ∧
      ∀ e ∈ last.1.enums, e.docs = ((last.1.typedefOf? e).map (·.docs)).getD [] := by
  have hroot : ({ root } : Model).Begun := begun_bare { root }
  obtain ⟨hbegun, hbare⟩ := hroot.run hsteps
  have hpushed : (Step.files steps).foldl addFile { root } = (steps.foldl Step.apply { root }).bare :=
    hbare.symm
  rw [hpushed, crossReference_eq hbegun, crossReference_eq (begun_bare _)]
  refine ⟨(resolved_bare _).symm, (linkWarnings_bare _).symm, (documentedCount_bare _).symm,
    crossReference_resolved _, ?_⟩
  intro e he
  obtain ⟨e, -, rfl⟩ := List.mem_map.1 he
  rfl

/-! ## A method read before its struct -/

def saveIn (filename : String) : Operation :=
  { packageName := "shop", filename, name := "Save", line := 3
    receiver := some { name := "s", typeName := "*Store" } }

def storeIn (filename : String) : Struct :=
  { name := "Store", packageName := "shop", filename }

def colorIn (filename : String) (docs : List String) : Typedef :=
  { name := "Color", packageName := "shop", filename, docs }

/-- A method and an enumeration, then the struct and the type definition that they belong to, then both
once more, with passes between the files. -/
def lateStruct : List Step :=
  [.file
    { packageName := "shop", filename := "shop/a.go", operations := [saveIn "shop/a.go"]
      enums := [{ name := "Color", packageName := "shop", filename := "shop/a.go" }] },
   .pass,
   .file
    { packageName := "shop", filename := "shop/b.go", structs := [storeIn "shop/b.go"]
      typedefs := [colorIn "shop/b.go" ["// Color of a store"]] },
   .pass,
   .file
    { packageName := "shop", filename := "shop/c.go", operations := [saveIn "shop/c.go"]
      structs := [storeIn "shop/c.go"], typedefs := [colorIn "shop/c.go" []] }]

theorem crossReference_late_struct :
    (∀ f ∈ Step.files lateStruct, f.Unlinked) ∧
      let last := (lateStruct.foldl Step.apply { root := "." }).crossReference.2
      let once := ((Step.files lateStruct).foldl addFile { root := "." }).crossReference.2
      last.1 = once.1 ∧ last.2.linkedOperations = 1 ∧ once.2.linkedOperations = 2 ∧
        last.1.structs.map (·.operations) = [[0, 1], []] ∧
        last.1.enums.map (·.docs) = [["// Color of a store"]] := by
  have hunlinked : ∀ f ∈ Step.files lateStruct, f.Unlinked := by
    have hdecided : ∀ f ∈ Step.files lateStruct,
        (∀ s ∈ f.structs, s.operations = []) ∧ ∀ e ∈ f.enums, e.docs = [] := by decide +kernel
    intro f hf
    exact ⟨(hdecided f hf).1, (hdecided f hf).2⟩
  refine ⟨hunlinked, (crossReference_incremental "." lateStruct hunlinked).1, ?_⟩
  decide +kernel

end Model
end Registrar
