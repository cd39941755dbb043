import Registrar.Proofs.HandlerKeys
import Registrar.Proofs.WellFormedTrees
/-!
# What a file declares

`items` lists what a file declares at its top level: its named types, its named functions and methods,
and its constant declarations of a named type. Each gives one entity, in source order (`Gives`), and
nothing else gives any: what stands below the top level can be taken away (`declarations_outline`).
Each declaration of a parameter list gives one field for each of its names, or an unnamed one
(`GivesFields`).
-/
namespace Registrar

/-- Members that are chosen and members that give something are the same, one by one. -/
theorem forall₂_filterMap {α β γ : Type} {R : β → γ → Prop} {q : α → Bool} {g : α → β} {f : α → Option γ}
    {l : List α} (hgives : ∀ a ∈ l, q a = true → ∃ c, f a = some c ∧ R (g a) c)
    (hnone : ∀ a ∈ l, q a = false → f a = none) :
    List.Forall₂ R ((l.filter q).map g) (l.filterMap f) := by
  induction l with
  | nil => exact .nil
  | cons a l ih =>
    obtain ⟨ha, hl⟩ := List.forall_mem_cons.1 hgives
    obtain ⟨ha', hl'⟩ := List.forall_mem_cons.1 hnone
    cases hq : q a with
    | true =>
      obtain ⟨c, hc, hr⟩ := ha hq
      rw [List.filter_cons_of_pos hq, List.map_cons, List.filterMap_cons_some hc]
      exact .cons hr (ih hl hl')
    | false =>
      rw [List.filter_cons_of_neg (by simp [hq]), List.filterMap_cons_none (ha' hq)]
      exact ih hl hl'

/-! ## Trees -/

namespace Tree

theorem eachWithBefore_map {α β : Type} (g : α → β) (before l : List α) :
    eachWithBefore (before.map g) (l.map g) =
      (eachWithBefore before l).map fun x => (g x.1, x.2.map g) := by
  induction l generalizing before with
  | nil => rfl
  | cons a l ih =>
    rw [List.map_cons, eachWithBefore, ← List.map_cons, ih, eachWithBefore, List.map_cons]

theorem map_fst_eachWithBefore {α : Type} (before l : List α) :
    (eachWithBefore before l).map Prod.fst = l := by
  induction l generalizing before with
  | nil => rfl
  | cons a l ih => rw [eachWithBefore, List.map_cons, ih]

theorem mem_children_of_mem_childrenInPlace {t : Tree} {x : Tree × List Tree}
    (h : x ∈ t.childrenInPlace) : x.1 ∈ t.children := by
  have hmem : x.1 ∈ t.childrenInPlace.map Prod.fst := List.mem_map_of_mem h
  rw [childrenInPlace, map_fst_eachWithBefore] at hmem
  exact List.mem_of_mem_filter hmem

end Tree

/-! ## Fields -/

namespace Field

def isParameter (t : Tree) : Bool := t.kind == .parameter || t.kind == .variadicParameter

/-- The field that a declaration of a type gives to a name. A variadic declaration gives a slice. -/
def ofName (s : Scope) (t type : Tree) (name : String) : Field :=
  let shape := ofType s type
  if t.kind = .variadicParameter then
    { shape with name, typeName := "..." ++ type.text s.source, isSlice := true }
  else { shape with name, typeName := type.text s.source }

/-- A declaration gives one field for each of its names, or an unnamed one, all of its type. -/
def GivesFields (s : Scope) (t : Tree) (fields : List Field) : Prop :=
  ∃ type, t.child? .type = some type ∧
    fields = (if namesOf s t = [] then [""] else namesOf s t).map (ofName s t type)

theorem givesFields_ofParameter (s : Scope) {t : Tree} (h : t.Complete) (hkind : isParameter t = true) :
    GivesFields s t (ofParameter s t) := by
  have hkinds : t.kind = .parameter ∨ t.kind = .variadicParameter := by simpa [isParameter] using hkind
  obtain ⟨type, htype⟩ : ∃ type, t.child? .type = some type := by
    refine Option.isSome_iff_exists.1 (h.typed ?_)
    rcases hkinds with hk | hk <;> rw [hk] <;> decide
  refine ⟨type, htype, ?_⟩
  rw [ofParameter, htype]
  rcases hkinds with hk | hk
  · have hname : ofName s t type = fun n => { ofType s type with name := n } := by
      funext n
      rw [ofName, hk]
      rfl
    rw [hk, hname]
    cases namesOf s t <;> rfl
  · have hname : ofName s t type = fun n =>
        { ofType s type with name := n, typeName := "..." ++ type.text s.source, isSlice := true } := by
      funext n
      rw [ofName, hk]
      rfl
    have hone : (namesOf s t).length ≤ 1 := by simpa [namesOf] using h.single hk
    rw [hk, hname]
    match hnames : namesOf s t, hone with
    | [], _ => rfl
    | [n], _ => rfl

theorem ofParameter_of_not_isParameter (s : Scope) {t : Tree} (h : isParameter t = false) :
    ofParameter s t = [] := by
  simp only [isParameter, Bool.or_eq_false_iff, beq_eq_false_iff_ne] at h
  unfold ofParameter
  split
  · exact absurd ‹_› h.1
  · exact absurd ‹_› h.2
  · rfl

/-- The fields of a list are those of its declarations, in source order. -/
theorem ofParameters_gives (s : Scope) {list : Tree} (h : list.WellFormed) :
    ∃ each, List.Forall₂ (GivesFields s) (list.namedChildren.filter isParameter) each ∧
      ofParameters s list = each.flatten := by
  refine ⟨(list.namedChildren.filter isParameter).map (ofParameter s), ?_, ?_⟩
  · rw [List.forall₂_map_right_iff, List.forall₂_same]
    intro t ht
    obtain ⟨hnamed, hkind⟩ := List.mem_filter.1 ht
    have hchild : t.WellFormed := h.child (List.mem_of_mem_filter hnamed)
    exact givesFields_ofParameter s hchild.complete hkind
  · rw [ofParameters, ← List.flatMap_def]
    induction list.namedChildren with
    | nil => rfl
    | cons t ts ih =>
      rw [List.flatMap_cons, ih, List.filter_cons]
      split
      · rw [List.flatMap_cons]
      · rename_i hnot
        rw [ofParameter_of_not_isParameter s (by simpa using hnot), List.nil_append]

end Field

namespace SourceFile

/-! ## What stands at the top level -/

/-- A declaration at the top level, with the siblings before it; of a type declaration one of its types,
with the siblings before that. -/
inductive Item where
  | type (t : Tree) (above : List Tree) (spec : Tree) (before : List Tree)
  | operation (t : Tree) (above : List Tree)
  | enum (t : Tree) (above : List Tree)

def hasName (t : Tree) : Bool := (t.child? .name).isSome

def constants (t : Tree) : List Tree := t.namedChildren.filter fun c => c.kind == .constSpec

/-- A constant is declared with a plain type name. -/
def hasTypeName (spec : Tree) : Bool := (spec.child? .type).any fun type => type.kind == .typeName

/-- What a node at the top level declares. -/
def itemsOf (t : Tree) (above : List Tree) : List Item :=
  match t.kind with
  | .typeDeclaration =>
    (t.childrenInPlace.filter fun s => isTypeItem s.1 && hasName s.1).map fun s => .type t above s.1 s.2
  | .functionDeclaration | .methodDeclaration => if hasName t then [.operation t above] else []
  | .constDeclaration => if (constants t).any hasTypeName then [.enum t above] else []
  | _ => []

/-- What a file declares at its top level, in source order. -/
def items (f : SourceFile) : List Item := f.tree.childrenInPlace.flatMap fun x => itemsOf x.1 x.2

/-! ## What each declaration gives -/

namespace Place

/-- The place behind nodes at the top level, which are listed nearest first: their imports are known. -/
def behind (p : Place) : List Tree → Place
  | [] => p
  | t :: above =>
    let q := p.behind above
    if t.kind = .importDeclaration then
      { q with names := q.names.registerAll (Import.ofDeclaration q.source t) }
    else q

@[simp] theorem source_behind (p : Place) (above : List Tree) : (p.behind above).source = p.source := by
  induction above with
  | nil => rfl
  | cons t above ih =>
    rw [behind]
    split <;> exact ih

@[simp] theorem packageName_behind (p : Place) (above : List Tree) :
    (p.behind above).packageName = p.packageName := by
  induction above with
  | nil => rfl
  | cons t above ih =>
    rw [behind]
    split <;> exact ih

@[simp] theorem filename_behind (p : Place) (above : List Tree) :
    (p.behind above).filename = p.filename := by
  induction above with
  | nil => rfl
  | cons t above ih =>
    rw [behind]
    split <;> exact ih

end Place

/-- The documentation of a type: its own, or that of its declaration when it has none. -/
def typeDocs (source : Array Char) (t : Tree) (above : List Tree) (spec : Tree) (before : List Tree) :
    List String :=
  if spec.docs source before = [] then t.docs source above else spec.docs source before

/-- The literal of a constant. -/
def IsLiteral (p : Place) (spec : Tree) (l : EnumLiteral) : Prop :=
  ∃ name, spec.child? .name = some name ∧ l = ⟨name.text p.source, (literalValue? p spec).getD ""⟩

/-- The entity that a declaration gives. -/
inductive Gives (p : Place) : Item → Entity → Prop
  | struct {t : Tree} {above : List Tree} {spec : Tree} {before : List Tree} {name type : Tree}
      (hname : spec.child? .name = some name) (htype : spec.child? .type = some type)
      (hkind : spec.kind = .typeSpec ∧ type.kind = .structType) :
      Gives p (.type t above spec before) (.struct
        { name := name.text p.source
          packageName := p.packageName
          filename := p.filename
          fields := Field.ofStruct (p.behind above).toScope type
          docs := typeDocs p.source t above spec before })
  | interface {t : Tree} {above : List Tree} {spec : Tree} {before : List Tree} {name type : Tree}
      (hname : spec.child? .name = some name) (htype : spec.child? .type = some type)
      (hkind : spec.kind = .typeSpec ∧ type.kind = .interfaceType) :
      Gives p (.type t above spec before) (.interface
        { name := name.text p.source
          packageName := p.packageName
          filename := p.filename
          docs := typeDocs p.source t above spec before
          methods := methodsOf (p.behind above) type })
  | typedef {t : Tree} {above : List Tree} {spec : Tree} {before : List Tree} {name type : Tree}
      (hname : spec.child? .name = some name) (htype : spec.child? .type = some type)
      (hkind : spec.kind = .typeAlias ∨ type.kind ≠ .structType ∧ type.kind ≠ .interfaceType) :
      Gives p (.type t above spec before) (.typedef
        { name := name.text p.source
          packageName := p.packageName
          filename := p.filename
          underlying := if type.kind = .typeName then type.text p.source else ""
          docs := typeDocs p.source t above spec before })
  | operation {t : Tree} {above : List Tree} {name : Tree} (hname : t.child? .name = some name) :
      Gives p (.operation t above) (.operation
        { packageName := p.packageName
          filename := p.filename
          name := name.text p.source
          line := t.start.row + 1
          docs := t.docs p.source above
          inputs := parametersOf (p.behind above) t
          outputs := resultsOf (p.behind above) t
          receiver := (t.child? .receiver).bind fun r =>
            (Field.ofParameters (p.behind above).toScope r).head? })
  | enum {t : Tree} {above before : List Tree} {spec : Tree} {after : List Tree} {type : Tree}
      {literals : List EnumLiteral} (hspecs : constants t = before ++ spec :: after)
      (hbefore : ∀ s ∈ before, hasTypeName s = false) (htype : spec.child? .type = some type)
      (hkind : type.kind = .typeName)
      (hliterals : List.Forall₂ (IsLiteral p) ((constants t).filter hasName) literals) :
      Gives p (.enum t above) (.enum
        { name := type.text p.source
          packageName := p.packageName
          filename := p.filename
          literals })

/-! ### Types -/

theorem gives_typeEntity? (p : Place) {t : Tree} {above : List Tree} {spec : Tree} {before : List Tree}
    (h : spec.Complete) (hitem : isTypeItem spec = true) (hnamed : hasName spec = true) :
    ∃ e, typeEntity? (p.behind above) spec (typeDocs p.source t above spec before) = some e ∧
      Gives p (.type t above spec before) e := by
  have hkinds : spec.kind = .typeSpec ∨ spec.kind = .typeAlias := by simpa [isTypeItem] using hitem
  obtain ⟨name, hname⟩ := Option.isSome_iff_exists.1 hnamed
  obtain ⟨type, htype⟩ : ∃ type, spec.child? .type = some type := by
    refine Option.isSome_iff_exists.1 (h.typed ?_)
    rcases hkinds with hk | hk <;> rw [hk] <;> decide
  have hentity : nameOf? (p.behind above) spec = some (name.text p.source) := by
    rw [nameOf?, hname, Option.map_some, Place.source_behind]
  have hentry := typeEntity?.eq_def (p.behind above) spec (typeDocs p.source t above spec before)
  rw [hentity, htype] at hentry
  dsimp only at hentry
  rw [Place.packageName_behind, Place.filename_behind, Place.source_behind] at hentry
  rw [hentry]
  by_cases hstruct : spec.kind = .typeSpec ∧ type.kind = .structType
  · rw [if_pos hstruct]
    exact ⟨_, rfl, .struct hname htype hstruct⟩
  · rw [if_neg hstruct]
    by_cases hinterface : spec.kind = .typeSpec ∧ type.kind = .interfaceType
    · rw [if_pos hinterface]
      exact ⟨_, rfl, .interface hname htype hinterface⟩
    · rw [if_neg hinterface]
      refine ⟨_, rfl, .typedef hname htype ?_⟩
      rcases hkinds with hk | hk
      · exact .inr ⟨fun ht => hstruct ⟨hk, ht⟩, fun ht => hinterface ⟨hk, ht⟩⟩
      · exact .inl hk

/-- A type declaration gives one entity for each of its named types. -/
theorem gives_typeEntities (p : Place) {t : Tree} {above : List Tree} (h : t.WellFormed) :
    List.Forall₂ (Gives p)
      ((t.childrenInPlace.filter fun s => isTypeItem s.1 && hasName s.1).map fun s =>
        .type t above s.1 s.2)
      (typeEntities (p.behind above) t above) := by
  rw [typeEntities]
  refine forall₂_filterMap ?_ ?_
  · rintro ⟨spec, before⟩ hs hchosen
    obtain ⟨hitem, hnamed⟩ := Bool.and_eq_true_iff.1 hchosen
    have hspec : spec.Complete := (h.child (Tree.mem_children_of_mem_childrenInPlace hs)).complete
    obtain ⟨e, he, hgives⟩ := @gives_typeEntity? p t above spec before hspec hitem hnamed
    refine ⟨e, ?_, hgives⟩
    dsimp only
    rw [if_pos hitem, ← he, typeDocs, Place.source_behind]
    simp only [List.isEmpty_iff]
  · rintro ⟨spec, before⟩ - hskipped
    dsimp only at hskipped ⊢
    split
    · rename_i hitem
      have hnone : spec.child? .name = none := by simpa [hitem, hasName] using hskipped
      rw [typeEntity?, nameOf?, hnone]
      rfl
    · rfl

/-! ### Functions, methods and constants -/

theorem gives_operation? (p : Place) {t : Tree} {above : List Tree} :
    List.Forall₂ (Gives p) (if hasName t then [.operation t above] else [])
      ((operation? (p.behind above) t above).map Entity.operation).toList := by
  rw [operation?, nameOf?, hasName]
  cases hname : t.child? .name with
  | none => exact .nil
  | some name =>
    refine .cons ?_ .nil
    dsimp only
    rw [Place.packageName_behind, Place.filename_behind, Place.source_behind]
    exact .operation hname

theorem constantType?_eq_some_iff {p : Place} {spec : Tree} {name : String} :
    constantType? p spec = some name ↔
      ∃ type, spec.child? .type = some type ∧ type.kind = .typeName ∧ type.text p.source = name := by
  rw [constantType?, Option.bind_eq_some_iff]
  refine exists_congr fun type => and_congr_right fun _ => ?_
  split <;> simp [*]

theorem constantType?_eq_none_iff {p : Place} {spec : Tree} :
    constantType? p spec = none ↔ hasTypeName spec = false := by
  rw [constantType?, hasTypeName]
  cases spec.child? .type with
  | none => simp
  | some type => simp

/-- The literals of an enumeration are those of its named constants. -/
theorem isLiteral_literals (p : Place) (specs : List Tree) (above : List Tree) :
    List.Forall₂ (IsLiteral p) (specs.filter hasName) (specs.filterMap fun s =>
      (nameOf? (p.behind above) s).map fun n => ⟨n, (literalValue? (p.behind above) s).getD ""⟩) := by
  have hvalue : ∀ s, literalValue? (p.behind above) s = literalValue? p s := by
    intro s
    rw [literalValue?, literalValue?, Place.source_behind]
  have hall := forall₂_filterMap (R := IsLiteral p) (q := hasName) (g := id) (l := specs)
    (f := fun s => (nameOf? (p.behind above) s).map fun n => ⟨n, (literalValue? p s).getD ""⟩) ?_ ?_
  · simpa only [List.map_id, hvalue] using hall
  · intro s _ hnamed
    obtain ⟨name, hname⟩ := Option.isSome_iff_exists.1 hnamed
    refine ⟨_, ?_, name, hname, rfl⟩
    rw [nameOf?, hname, Option.map_some, Option.map_some, Place.source_behind]
    rfl
  · intro s _ hnamed
    have hnone : s.child? .name = none := by simpa [hasName] using hnamed
    rw [nameOf?, hnone]
    rfl

/-- A constant declaration gives an enumeration when one of its constants has a plain type name. -/
theorem gives_enum? (p : Place) {t : Tree} {above : List Tree} :
    List.Forall₂ (Gives p) (if (constants t).any hasTypeName then [.enum t above] else [])
      ((enum? (p.behind above) t).map Entity.enum).toList := by
  have henum : enum? (p.behind above) t =
      ((constants t).findSome? (constantType? (p.behind above))).map fun name =>
        { name
          packageName := p.packageName
          filename := p.filename
          literals := (constants t).filterMap fun s => (nameOf? (p.behind above) s).map fun n =>
            ⟨n, (literalValue? (p.behind above) s).getD ""⟩ } := by
    rw [enum?, Place.packageName_behind, Place.filename_behind]
    rfl
  rw [henum]
  cases hfirst : (constants t).findSome? (constantType? (p.behind above)) with
  | none =>
    have hnone : (constants t).any hasTypeName = false := by
      rw [List.findSome?_eq_none_iff] at hfirst
      simpa using fun s hs => constantType?_eq_none_iff.1 (hfirst s hs)
    rw [if_neg (by simp [hnone])]
    exact .nil
  | some name =>
    obtain ⟨before, spec, after, hspecs, hname, hbefore⟩ := List.findSome?_eq_some_iff.1 hfirst
    obtain ⟨type, htype, hkind, rfl⟩ := constantType?_eq_some_iff.1 hname
    have hany : (constants t).any hasTypeName = true := by
      rw [hspecs]
      simp [hasTypeName, htype, hkind]
    rw [if_pos hany, Place.source_behind]
    exact .cons (.enum hspecs (fun s hs => constantType?_eq_none_iff.1 (hbefore s hs)) htype hkind
      (isLiteral_literals p _ above)) .nil

/-! ### Files -/

theorem gives_entitiesOf (p : Place) {t : Tree} {above : List Tree} (h : t.WellFormed) :
    List.Forall₂ (Gives p) (itemsOf t above) (entitiesOf (p.behind above) t above) := by
  rw [itemsOf, entitiesOf]
  cases t.kind with
  | typeDeclaration => exact gives_typeEntities p h
  | functionDeclaration => exact gives_operation? p
  | methodDeclaration => exact gives_operation? p
  | constDeclaration => exact gives_enum? p
  | _ => exact .nil

theorem collect_eq (p : Place) (above ts : List Tree) :
    collect (p.behind above) (Tree.eachWithBefore above ts) =
      (Tree.eachWithBefore above ts).flatMap fun x => entitiesOf (p.behind x.2) x.1 x.2 := by
  induction ts generalizing above with
  | nil => rfl
  | cons t ts ih =>
    have hrest := ih (t :: above)
    rw [Tree.eachWithBefore, collect, List.flatMap_cons]
    rw [Place.behind] at hrest
    split
    · rename_i hkind
      rw [if_pos hkind] at hrest
      have hnone : entitiesOf (p.behind above) t above = [] := by rw [entitiesOf, hkind]
      rw [hnone, List.nil_append]
      exact hrest
    · rename_i hkind
      rw [if_neg hkind] at hrest
      rw [hrest]

/-- What a file declares gives its entities, in source order. -/
theorem gives_collect (p : Place) {f : SourceFile} (h : f.tree.WellFormed) :
    List.Forall₂ (Gives p) f.items (collect p f.tree.childrenInPlace) := by
  have heq : collect p f.tree.childrenInPlace =
      f.tree.childrenInPlace.flatMap fun x => entitiesOf (p.behind x.2) x.1 x.2 :=
    collect_eq p [] f.tree.namedChildren
  rw [heq, items]
  have hchild : ∀ x ∈ f.tree.childrenInPlace, x.1.WellFormed := fun x hx =>
    h.child (Tree.mem_children_of_mem_childrenInPlace hx)
  generalize f.tree.childrenInPlace = xs at hchild
  induction xs with
  | nil => exact .nil
  | cons x xs ih =>
    obtain ⟨hx, hxs⟩ := List.forall_mem_cons.1 hchild
    rw [List.flatMap_cons, List.flatMap_cons]
    exact List.rel_append (gives_entitiesOf p hx) (ih hxs)

end SourceFile

/-! ## Below the top level -/

namespace Tree

def withChildren : Tree → List Tree → Tree
  | node role kind start stop _, children => node role kind start stop children

/-- The children of a node at the top level that are not the body of a function or parts of anything but
the clauses and declarations that are read. -/
def outlined (t : Tree) : List Tree :=
  match t.kind with
  | .packageClause | .importDeclaration | .typeDeclaration | .constDeclaration => t.children
  | .functionDeclaration | .methodDeclaration => t.children.filter fun c => c.role != some .body
  | _ => []

def outline (t : Tree) : Tree := t.withChildren t.outlined

@[simp] theorem kind_withChildren (t : Tree) (cs : List Tree) : (t.withChildren cs).kind = t.kind := by
  cases t
  rfl

@[simp] theorem start_withChildren (t : Tree) (cs : List Tree) : (t.withChildren cs).start = t.start := by
  cases t
  rfl

@[simp] theorem stop_withChildren (t : Tree) (cs : List Tree) : (t.withChildren cs).stop = t.stop := by
  cases t
  rfl

@[simp] theorem children_withChildren (t : Tree) (cs : List Tree) : (t.withChildren cs).children = cs := by
  cases t
  rfl

@[simp] theorem textChars_outline (source : Array Char) (t : Tree) :
    t.outline.textChars source = t.textChars source := by
  simp [textChars, outline]

@[simp] theorem text_outline (source : Array Char) (t : Tree) : t.outline.text source = t.text source := by
  rw [text, textChars_outline, text]

@[simp] theorem kind_outline (t : Tree) : t.outline.kind = t.kind := kind_withChildren t _

@[simp] theorem isComment_outline (t : Tree) : t.outline.isComment = t.isComment := by
  rw [isComment, kind_outline, isComment]

@[simp] theorem isNamed_outline (t : Tree) : t.outline.isNamed = t.isNamed := by
  rw [isNamed, kind_outline, isNamed]

theorem outline_of_children {t : Tree} (h : t.outlined = t.children) : t.outline = t := by
  rw [outline, h]
  cases t
  rfl

/-- A function keeps all its parts but its body. -/
theorem child?_outline {t : Tree} (h : t.outlined = t.children.filter fun c => c.role != some .body)
    {r : Role} (hr : r ≠ .body) : t.outline.child? r = t.child? r := by
  have hkept : ∀ c : Tree, decide ((c.role != some .body) = true ∧ (c.role == some r) = true) =
      (c.role == some r) := by
    intro c
    by_cases hc : c.role = some r <;> simp [hc, hr]
  rw [child?, outline, children_withChildren, h, List.find?_filter, child?]
  exact congrArg (fun q => t.children.find? q) (funext hkept)

theorem commentsAbove_outline (row : Nat) (before : List Tree) :
    commentsAbove row (before.map outline) = (commentsAbove row before).map outline := by
  have htrails : ∀ (c : Tree) (before : List Tree), trails c.outline (before.map outline) = trails c before := by
    intro c before
    cases before with
    | nil => rfl
    | cons s before =>
      rw [List.map_cons, trails, trails, isComment_outline, outline, outline, stop_withChildren,
        start_withChildren]
  induction before generalizing row with
  | nil => rfl
  | cons c before ih =>
    rw [List.map_cons, commentsAbove, commentsAbove, htrails, ih, isComment_outline, outline, stop_withChildren,
      start_withChildren]
    split <;> rfl

theorem docs_outline (source : Array Char) (t : Tree) (before : List Tree) :
    t.outline.docs source (before.map outline) = t.docs source before := by
  rw [docs, docs, outline, start_withChildren, commentsAbove_outline, ← List.map_reverse, List.map_map]
  exact List.map_congr_left fun c _ => text_outline source c

end Tree

namespace SourceFile

/-- A file without what stands below its top level. -/
def outline (f : SourceFile) : SourceFile :=
  { f with tree := f.tree.withChildren (f.tree.children.map Tree.outline) }

theorem operation?_outline (p : Place) {t : Tree} (above : List Tree)
    (h : t.outlined = t.children.filter fun c => c.role != some .body) :
    operation? p t.outline (above.map Tree.outline) = operation? p t above := by
  have hstart : t.outline.start = t.start := t.start_withChildren _
  simp only [operation?, nameOf?, parametersOf, resultsOf, Tree.docs_outline, hstart,
    Tree.child?_outline h (by decide : Role.name ≠ .body),
    Tree.child?_outline h (by decide : Role.parameters ≠ .body),
    Tree.child?_outline h (by decide : Role.result ≠ .body),
    Tree.child?_outline h (by decide : Role.receiver ≠ .body)]

theorem entitiesOf_outline (p : Place) (t : Tree) (above : List Tree) :
    entitiesOf p t.outline (above.map Tree.outline) = entitiesOf p t above := by
  unfold entitiesOf
  rw [Tree.kind_outline]
  split
  · rename_i hkind
    have ht : t.outline = t := Tree.outline_of_children (by rw [Tree.outlined, hkind])
    have hdocs := Tree.docs_outline p.source t above
    rw [ht] at hdocs
    rw [ht, typeEntities, hdocs, typeEntities]
  · rename_i hkind
    rw [operation?_outline p above (by rw [Tree.outlined, hkind])]
  · rename_i hkind
    rw [operation?_outline p above (by rw [Tree.outlined, hkind])]
  · rename_i hkind
    rw [Tree.outline_of_children (by rw [Tree.outlined, hkind])]
  · rfl

theorem collect_outline (p : Place) (xs : List (Tree × List Tree)) :
    collect p (xs.map fun x => (x.1.outline, x.2.map Tree.outline)) = collect p xs := by
  induction xs generalizing p with
  | nil => rfl
  | cons x xs ih =>
    obtain ⟨t, above⟩ := x
    rw [List.map_cons, collect, collect, Tree.kind_outline]
    split
    · rename_i hkind
      rw [Tree.outline_of_children (by rw [Tree.outlined, hkind]), ih]
    · rw [entitiesOf_outline, ih]

/-- What stands below the top level gives nothing. -/
theorem declarations_outline (f : SourceFile) : f.outline.declarations = f.declarations := by
  have hexcluded : f.outline.isExcluded = f.isExcluded := by
    rw [isExcluded, isExcluded, outline, Tree.children_withChildren, List.any_map]
    congr 1
    funext c
    rw [Function.comp_apply, Tree.isComment_outline, Tree.textChars_outline]
  have hpackage : f.outline.packageName? = f.packageName? := by
    have hclause : f.outline.tree.childOfKind? .packageClause = f.tree.childOfKind? .packageClause := by
      rw [Tree.childOfKind?, outline, Tree.children_withChildren, List.find?_map, Tree.childOfKind?]
      have hkind : ((fun c : Tree => c.kind == .packageClause) ∘ Tree.outline) =
          fun c => c.kind == .packageClause := by
        funext c
        rw [Function.comp_apply, Tree.kind_outline]
      rw [hkind]
      cases hfind : f.tree.children.find? fun c => c.kind == .packageClause with
      | none => rfl
      | some c =>
        have hc : c.kind = .packageClause := by simpa using List.find?_some hfind
        rw [Option.map_some, Tree.outline_of_children (by rw [Tree.outlined, hc])]
    rw [packageName?, hclause, packageName?]
    rfl
  have hplaces : f.outline.tree.childrenInPlace =
      f.tree.childrenInPlace.map fun x => (x.1.outline, x.2.map Tree.outline) := by
    have hnamed : f.outline.tree.namedChildren = f.tree.namedChildren.map Tree.outline := by
      rw [Tree.namedChildren, outline, Tree.children_withChildren, List.filter_map]
      exact congrArg (List.map Tree.outline) (List.filter_congr fun c _ => Tree.isNamed_outline c)
    rw [Tree.childrenInPlace, hnamed, Tree.childrenInPlace, ← Tree.eachWithBefore_map]
    rfl
  rw [declarations, declarations, hexcluded, hpackage, hplaces]
  simp only [collect_outline]
  rfl

/-- Each entity is in one of the lists. -/
theorem length_declarationsOf (packageName filename : String) (es : List Entity) :
    let d := declarationsOf packageName filename es
    d.structs.length + d.operations.length + d.interfaces.length + d.typedefs.length + d.enums.length =
      es.length := by
  dsimp only
  induction es with
  | nil => rfl
  | cons e es ih =>
    simp only [declarationsOf] at ih ⊢
    cases e <;> simp only [List.filterMap_cons, List.length_cons] <;> omega

/-- What a file declares at its top level, and nothing else, gives its entities: one each, in source order,
in its package and file. The declarations of its parameter lists give their fields in the same way. The
trees are those that source text is read as. -/
theorem declarations_exact :
    (∀ {filename source : String} {f : SourceFile}, read filename source = .ok f → f.tree.WellFormed) ∧
    ∀ f : SourceFile, f.tree.WellFormed →
      (∀ packageName, f.isExcluded = false → f.packageName? = some packageName →
        ∃ es, List.Forall₂ (Gives { source := f.source, names := {}, packageName, filename := f.filename })
            f.items es ∧
          (∀ e ∈ es, e.home = (packageName, f.filename)) ∧
          ∃ d, f.declarations = .ok (some d) ∧ d = declarationsOf packageName f.filename es ∧
            d.structs.length + d.operations.length + d.interfaces.length + d.typedefs.length +
              d.enums.length = f.items.length) ∧
      f.outline.declarations = f.declarations ∧
      ∀ list ∈ f.tree.nodes, ∀ scope : Field.Scope,
        ∃ fields, List.Forall₂ (Field.GivesFields scope)
            (list.namedChildren.filter Field.isParameter) fields ∧
          Field.ofParameters scope list = fields.flatten := by
  refine ⟨wellFormed_of_read, fun f h => ⟨fun packageName hincluded hpackage => ?_, f.declarations_outline,
    fun list hlist scope => Field.ofParameters_gives scope (h.of_mem hlist)⟩⟩
  let p : Place := { source := f.source, names := {}, packageName, filename := f.filename }
  have hgives : List.Forall₂ (Gives p) f.items (collect p f.tree.childrenInPlace) := gives_collect p h
  refine ⟨_, hgives, fun e he => home_of_collect he, _, ?_, rfl, ?_⟩
  · rw [declarations, hincluded, hpackage]
    rfl
  · rw [length_declarationsOf]
    exact hgives.length_eq.symm

/-- A file with a group of types, and a function with a type inside, as it is read from its text. -/
def groupFile : SourceFile :=
  let text :=
    "package p\n// M\ntype (S struct\x7b\x7d; A = S;)\nfunc f(a, b S, c ...int) \x7b type T int \x7d\n"
  let place (i : Nat) : Position := Position.advance {} (text.toList.take i)
  let node (role : Option Role) (kind : NodeKind) (i j : Nat) (children : List Tree) : Tree :=
    .node role kind (place i) (place j) children
  let mark (s : String) (i j : Nat) : Tree := node none (.mark s) i j []
  { filename := "p.go"
    source := text.toList.toArray
    tree := node none .sourceFile 0 81 [
      node none .packageClause 0 9 [mark "package" 0 7, node none .packageName 8 9 []],
      mark "\n" 9 10,
      node none .comment 10 14 [],
      node none .typeDeclaration 15 40 [
        mark "type" 15 19,
        mark "(" 20 21,
        node none .typeSpec 21 31 [
          node (some .name) .typeName 21 22 [],
          node (some .type) .structType 23 31 [
            mark "struct" 23 29,
            node none .fieldList 29 31 [mark "\x7b" 29 30, mark "\x7d" 30 31]]],
        mark ";" 31 32,
        node none .typeAlias 33 38 [
          node (some .name) .typeName 33 34 [],
          mark "=" 35 36,
          node (some .type) .typeName 37 38 []],
        mark ";" 38 39,
        mark ")" 39 40],
      mark "\n" 40 41,
      node none .functionDeclaration 41 80 [
        mark "func" 41 45,
        node (some .name) .word 46 47 [],
        node (some .parameters) .parameterList 47 65 [
          mark "(" 47 48,
          node none .parameter 48 54 [
            node (some .name) .word 48 49 [],
            mark "," 49 50,
            node (some .name) .word 51 52 [],
            node (some .type) .typeName 53 54 []],
          mark "," 54 55,
          node none .variadicParameter 56 64 [
            node (some .name) .word 56 57 [],
            mark "..." 58 61,
            node (some .type) .typeName 61 64 []],
          mark ")" 64 65],
        node (some .body) .block 66 80 [
          mark "\x7b" 66 67,
          node none .typeDeclaration 68 78 [
            mark "type" 68 72,
            node none .typeSpec 73 78 [
              node (some .name) .typeName 73 74 [],
              node (some .type) .typeName 75 78 []]],
          mark "\x7d" 79 80]],
      mark "\n" 80 81] }

/-- The group gives a struct and a type definition, both with its documentation; the type inside gives
nothing. -/
theorem declarations_exact_group :
    let place : Place := { source := groupFile.source, names := {}, packageName := "p", filename := "p.go" }
    groupFile.tree.WellFormed ∧ groupFile.isExcluded = false ∧ groupFile.packageName? = some "p" ∧
      (∃ es, List.Forall₂ (Gives place) groupFile.items es ∧
        groupFile.declarations = .ok (some (declarationsOf "p" "p.go" es))) ∧
      groupFile.outline.declarations = groupFile.declarations ∧
      groupFile.declarations = .ok (some
        { packageName := "p"
          filename := "p.go"
          structs := [{ name := "S", packageName := "p", filename := "p.go", docs := ["// M"] }]
          operations := [
            { packageName := "p"
              filename := "p.go"
              name := "f"
              line := 4
              inputs := [
                { name := "a", typeName := "S" },
                { name := "b", typeName := "S" },
                { name := "c", typeName := "...int", isSlice := true }] }]
          typedefs := [
            { name := "A", packageName := "p", filename := "p.go", underlying := "S", docs := ["// M"] }] }) := by
  have hwell : groupFile.tree.WellFormed := by decide +kernel
  have hincluded : groupFile.isExcluded = false := by decide +kernel
  have hpackage : groupFile.packageName? = some "p" := by decide +kernel
  obtain ⟨hgives, houtline, -⟩ := declarations_exact.2 groupFile hwell
  obtain ⟨es, hes, -, d, hd, rfl, -⟩ := hgives "p" hincluded hpackage
  exact ⟨hwell, hincluded, hpackage, ⟨es, hes, hd⟩, houtline, by decide +kernel⟩

end SourceFile
end Registrar
