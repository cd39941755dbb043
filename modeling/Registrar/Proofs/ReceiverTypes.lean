import Mathlib.Data.Bool.AllAny
import Registrar.Proofs.MethodLinks
import Registrar.Proofs.Text
/-!
# Receiver types

A receiver type is a name, perhaps with type arguments, inside stars and parentheses (`ReceiverType`).
The name is found by taking runs of characters off the ends of the text, so it is only found where the
stars, parentheses and blanks around it stand in a certain order (`Legible`). Then the method is linked
to the struct of that name; otherwise something is left around the name, and no struct has such a name
(`baseType_eq_word_iff`).
-/
namespace Registrar

/-! ## Runs of characters -/

namespace Text

variable {p q : Char → Bool} {ps : List (Char → Bool)} {s : List Char}

/-- A text of runs of characters, one class after the other. A run may be empty. -/
def Runs : List (Char → Bool) → List Char → Prop
  | [], s => s = []
  | p :: ps, s => ∃ a b, s = a ++ b ∧ (∀ c ∈ a, p c = true) ∧ Runs ps b

/-- What is left of a text when runs are taken off its start, one class after the other. -/
def afterRuns (ps : List (Char → Bool)) (s : List Char) : List Char :=
  ps.foldl (fun s p => s.dropWhile p) s

theorem runs_nil (ps : List (Char → Bool)) : Runs ps [] := by
  induction ps with
  | nil => rfl
  | cons p ps ih => exact ⟨[], [], rfl, by simp, ih⟩

theorem Runs.of_append {a b : List Char} (h : Runs ps (a ++ b)) : Runs ps b := by
  induction ps generalizing a b with
  | nil => exact (List.append_eq_nil_iff.1 h).2
  | cons p ps ih =>
    obtain ⟨x, y, hxy, hx, hy⟩ := h
    rcases List.append_eq_append_iff.1 hxy with ⟨z, rfl, rfl⟩ | ⟨z, rfl, rfl⟩
    · exact ⟨z, y, rfl, fun c hc => hx c (List.mem_append_right a hc), hy⟩
    · exact ⟨[], b, rfl, by simp, ih hy⟩

/-- Each run may be taken as long as possible. -/
theorem runs_iff : Runs ps s ↔ afterRuns ps s = [] := by
  induction ps generalizing s with
  | nil => rfl
  | cons p ps ih =>
    constructor
    · rintro ⟨a, b, rfl, ha, hb⟩
      have hdrop : (a ++ b).dropWhile p = b.dropWhile p := List.dropWhile_append_of_pos ha
      refine (congrArg (afterRuns ps) hdrop).trans (ih.1 (Runs.of_append (a := b.takeWhile p) ?_))
      rwa [List.takeWhile_append_dropWhile]
    · intro h
      exact ⟨s.takeWhile p, s.dropWhile p, List.takeWhile_append_dropWhile.symm,
        fun c hc => List.mem_takeWhile_imp hc, ih.2 h⟩

instance (ps : List (Char → Bool)) (s : List Char) : Decidable (Runs ps s) :=
  decidable_of_iff _ runs_iff.symm

theorem afterRuns_suffix (ps : List (Char → Bool)) (s : List Char) : afterRuns ps s <:+ s := by
  induction ps generalizing s with
  | nil => exact List.suffix_refl s
  | cons p ps ih => exact (ih _).trans (List.dropWhile_suffix p)

theorem dropEndWhile_isPrefix (p : Char → Bool) (s : List Char) : dropEndWhile p s <+: s := by
  rw [dropEndWhile, ← List.reverse_suffix, List.reverse_reverse]
  exact List.dropWhile_suffix p

theorem dropEndWhile_eq_nil_iff : dropEndWhile p s = [] ↔ ∀ c ∈ s, p c = true := by
  simp [dropEndWhile]

theorem runs_pair_iff : Runs [p, q] s ↔ ∀ c ∈ dropEndWhile q s, p c = true := by
  constructor
  · rintro ⟨a, b, rfl, ha, c, d, rfl, hc, rfl⟩ e he
    have hdrop : dropEndWhile q (a ++ (c ++ [])) = dropEndWhile q a := by
      rw [List.append_nil, dropEndWhile, List.reverse_append,
        List.dropWhile_append_of_pos fun d hd => hc d (List.mem_reverse.1 hd), dropEndWhile]
    rw [hdrop] at he
    exact ha e ((dropEndWhile_isPrefix q a).subset he)
  · intro h
    refine ⟨dropEndWhile q s, (s.reverse.takeWhile q).reverse, ?_, h, _, [], (List.append_nil _).symm, ?_,
      rfl⟩
    · rw [dropEndWhile, ← List.reverse_append, List.takeWhile_append_dropWhile, List.reverse_reverse]
    · intro c hc
      exact List.mem_takeWhile_imp (List.mem_reverse.1 hc)

/-! ## Ends of a text around a word -/

section Around
variable {word : List Char} (hne : word ≠ []) (hp : ∀ c ∈ word, p c = false) (a b : List Char)
include hne hp

theorem dropWhile_around : (a ++ (word ++ b)).dropWhile p = a.dropWhile p ++ (word ++ b) := by
  obtain ⟨c, w, rfl⟩ := List.exists_cons_of_ne_nil hne
  exact dropWhile_append_cons (hp c List.mem_cons_self) a (w ++ b)

theorem dropEndWhile_around : dropEndWhile p (a ++ (word ++ b)) = a ++ (word ++ dropEndWhile p b) := by
  obtain ⟨w, c, rfl⟩ := (List.eq_nil_or_concat word).resolve_left hne
  have h := dropEndWhile_append_cons (hp c (by simp)) (a ++ w) b
  simpa using h

end Around

theorem IsIdentifier.ne_nil {name : List Char} (h : IsIdentifier name) : name ≠ [] := by
  obtain ⟨c, s, rfl, -, -⟩ := h
  exact List.cons_ne_nil c s

/-- The marks that may stand around the name of a type. -/
def typeMarks : List Char := ['*', '(', ')', '[']

theorem isIdentifierPart_of_isBlank {c : Char} (h : isBlank c = true) : isIdentifierPart c = false := by
  by_contra hpart
  rw [isBlank_of_isIdentifierPart (by simpa using hpart)] at h
  cases h

theorem isIdentifierPart_typeMarks : ∀ c ∈ typeMarks, isIdentifierPart c = false :=
  List.all_iff_forall_prop.1 (by decide)

end Text
open Text

/-! ## The text of a receiver type -/

/-- Blank space between two tokens. -/
abbrev Gap := { s : List Char // Blank s }

/-- A receiver type as it is written. The text of type arguments is left open. -/
inductive ReceiverType where
  | name (word : { s : List Char // IsIdentifier s })
  | generic (word : { s : List Char // IsIdentifier s }) (gap : Gap) (arguments : List Char)
  | pointer (gap : Gap) (type : ReceiverType)
  | parens (before : Gap) (type : ReceiverType) (after : Gap)

namespace ReceiverType

def text : ReceiverType → List Char
  | name word => word.1
  | generic word gap arguments => word.1 ++ (gap.1 ++ '[' :: (arguments ++ [']']))
  | pointer gap type => '*' :: (gap.1 ++ type.text)
  | parens before type after => '(' :: (before.1 ++ (type.text ++ (after.1 ++ [')'])))

/-- The name of the type. -/
def word : ReceiverType → List Char
  | name word | generic word _ _ => word.1
  | pointer _ type | parens _ type _ => type.word

/-- What stands before the name. -/
def lead : ReceiverType → List Char
  | name _ | generic _ _ _ => []
  | pointer gap type => '*' :: (gap.1 ++ type.lead)
  | parens before type _ => '(' :: (before.1 ++ type.lead)

/-- What stands behind the name. -/
def trail : ReceiverType → List Char
  | name _ => []
  | generic _ gap arguments => gap.1 ++ '[' :: (arguments ++ [']'])
  | pointer _ type => type.trail
  | parens _ type after => type.trail ++ (after.1 ++ [')'])

def hasArguments : ReceiverType → Bool
  | name _ => false
  | generic _ _ _ => true
  | pointer _ type | parens _ type _ => type.hasArguments

/-- The classes of the runs before a name that is found. -/
def leadRuns : List (Char → Bool) := [fun c => c == '*' || isBlank c, (· == '('), (· == '*'), isBlank]

/-- Before the name stand stars and blanks, then parentheses, then stars, then blanks, each in one run.
Behind it stand type arguments, or blanks and then parentheses. -/
structure Legible (t : ReceiverType) : Prop where
  lead : Runs leadRuns t.lead
  trail : t.hasArguments = true ∨ Runs [isBlank, (· == ')')] t.trail

instance (t : ReceiverType) : Decidable t.Legible :=
  decidable_of_iff (Runs leadRuns t.lead ∧ (t.hasArguments = true ∨ Runs [isBlank, (· == ')')] t.trail))
    ⟨fun h => ⟨h.1, h.2⟩, fun h => ⟨h.1, h.2⟩⟩

theorem text_eq (t : ReceiverType) : t.text = t.lead ++ (t.word ++ t.trail) := by
  induction t with
  | name word => simp [text, lead, ReceiverType.word, trail]
  | generic word gap arguments => simp [text, lead, ReceiverType.word, trail]
  | pointer gap type ih => simp [text, lead, ReceiverType.word, trail, ih]
  | parens before type after ih => simp [text, lead, ReceiverType.word, trail, ih]

theorem isIdentifier_word (t : ReceiverType) : IsIdentifier t.word := by
  induction t with
  | name word | generic word => exact word.2
  | pointer _ _ ih | parens _ _ _ ih => exact ih

theorem mem_lead (t : ReceiverType) : ∀ c ∈ t.lead, c = '*' ∨ c = '(' ∨ isBlank c = true := by
  induction t with
  | name | generic => simp [lead]
  | pointer gap type ih =>
    simp only [lead, List.mem_cons, List.mem_append]
    rintro c (rfl | hc | hc)
    · exact .inl rfl
    · exact .inr (.inr (gap.2 c hc))
    · exact ih c hc
  | parens before type after ih =>
    simp only [lead, List.mem_cons, List.mem_append]
    rintro c (rfl | hc | hc)
    · exact .inr (.inl rfl)
    · exact .inr (.inr (before.2 c hc))
    · exact ih c hc

/-- Behind the name stand blanks and type arguments, or blanks and parentheses alone. -/
theorem trail_cases (t : ReceiverType) :
    (t.hasArguments = true ∧ ∃ gap rest, Blank gap ∧ t.trail = gap ++ '[' :: rest) ∨
    (t.hasArguments = false ∧ ∀ c ∈ t.trail, c = ')' ∨ isBlank c = true) := by
  induction t with
  | name => exact .inr ⟨rfl, by simp [trail]⟩
  | generic word gap arguments => exact .inl ⟨rfl, gap.1, _, gap.2, rfl⟩
  | pointer gap type ih => exact ih
  | parens before type after ih =>
    rcases ih with ⟨harguments, gap, rest, hgap, htrail⟩ | ⟨harguments, htrail⟩
    · exact .inl ⟨harguments, gap, rest ++ (after.1 ++ [')']), hgap, by simp [trail, htrail]⟩
    · refine .inr ⟨harguments, ?_⟩
      simp only [trail, List.mem_append, List.mem_singleton]
      rintro c (hc | hc | rfl)
      · exact htrail c hc
      · exact .inr (after.2 c hc)
      · exact .inl rfl

/-- Stars and blanks alone never hide a name. -/
theorem legible_of_not_mem {t : ReceiverType} (h : '(' ∉ t.lead) : t.Legible := by
  have hlead : ∀ c ∈ t.lead, (c == '*' || isBlank c) = true := by
    intro c hc
    rcases t.mem_lead c hc with rfl | rfl | hblank
    · rfl
    · exact absurd hc h
    · rw [hblank, Bool.or_true]
  have htrail : t.hasArguments = true ∨ t.trail = [] := by
    clear hlead
    induction t with
    | name => exact .inr rfl
    | generic => exact .inl rfl
    | pointer gap type ih => exact ih fun hmem => h (by simp [lead, hmem])
    | parens => simp [lead] at h
  refine ⟨⟨t.lead, [], (List.append_nil _).symm, hlead, runs_nil _⟩, htrail.imp_right fun hnil => ?_⟩
  rw [hnil]
  exact runs_nil _

/-! ## The name that is found -/

theorem baseTypeChars_around {lead word : List Char} (hword : IsIdentifier word)
    (hlead : ∀ c ∈ lead, c ≠ '[') (trail : List Char) :
    Field.baseTypeChars (lead ++ (word ++ trail)) = afterRuns leadRuns lead ++
      (word ++ trimEnd ((dropEndWhile (· == ')') trail).takeWhile (· != '['))) := by
  have hmark : ∀ mark ∈ typeMarks, ∀ c ∈ word, c ≠ mark := by
    rintro mark hm c hc rfl
    have hpart := hword.part c hc
    rw [isIdentifierPart_typeMarks c hm] at hpart
    cases hpart
  have hblank : ∀ c ∈ word, isBlank c = false := fun c hc => isBlank_of_isIdentifierPart (hword.part c hc)
  have hne := hword.ne_nil
  have hother : ∀ mark ∈ typeMarks, ∀ c ∈ word, (c == mark) = false := fun mark hm c hc =>
    beq_false_of_ne (hmark mark hm c hc)
  have hstarBlank : ∀ c ∈ word, (c == '*' || isBlank c) = false := fun c hc => by
    rw [hother '*' (by decide) c hc, hblank c hc, Bool.or_false]
  -- the arguments are cut off behind all that is left before the name, and behind the name
  have hcut : ∀ left : List Char, left <:+ lead → ∀ right : List Char,
      (left ++ (word ++ right)).takeWhile (· != '[') = left ++ (word ++ right.takeWhile (· != '[')) := by
    intro left hleft right
    rw [List.takeWhile_append_of_pos fun c hc => by simpa using hlead c (hleft.subset hc),
      List.takeWhile_append_of_pos fun c hc => by simpa using hmark '[' (by decide) c hc]
  rw [Field.baseTypeChars, dropWhile_around hne hstarBlank, dropWhile_around hne (hother '(' (by decide)),
    dropEndWhile_around hne (hother ')' (by decide)), dropWhile_around hne (hother '*' (by decide)), hcut,
    trim, dropAround, dropWhile_around hne hblank, dropEndWhile_around hne hblank]
  · rfl
  · exact afterRuns_suffix [fun c => c == '*' || isBlank c, (· == '('), (· == '*')] lead

/-- What is left before the name. -/
def residueBefore (t : ReceiverType) : List Char := afterRuns leadRuns t.lead

/-- What is left behind the name. -/
def residueBehind (t : ReceiverType) : List Char :=
  trimEnd ((dropEndWhile (· == ')') t.trail).takeWhile (· != '['))

theorem baseTypeChars_text (t : ReceiverType) :
    Field.baseTypeChars t.text = t.residueBefore ++ (t.word ++ t.residueBehind) := by
  rw [text_eq, baseTypeChars_around t.isIdentifier_word]
  · rfl
  · rintro c hc rfl
    exact absurd (t.mem_lead '[' hc) (by decide)

theorem residueBehind_isPrefix (t : ReceiverType) : t.residueBehind <+: t.trail :=
  (dropEndWhile_isPrefix _ _).trans ((List.takeWhile_prefix _).trans (dropEndWhile_isPrefix _ _))

/-- No type arguments open among blanks and closing parentheses. -/
theorem bne_bracket {c : Char} (h : c = ')' ∨ isBlank c = true) : (c != '[') = true := by
  rw [bne_iff_ne]
  rintro rfl
  exact absurd h (by decide)

theorem residueBehind_eq_nil_iff (t : ReceiverType) :
    t.residueBehind = [] ↔ t.hasArguments = true ∨ Runs [isBlank, (· == ')')] t.trail := by
  rw [residueBehind, trimEnd, dropEndWhile_eq_nil_iff]
  rcases t.trail_cases with ⟨harguments, gap, rest, hgap, htrail⟩ | ⟨harguments, htrail⟩
  · have hleft : (dropEndWhile (· == ')') t.trail).takeWhile (· != '[') = gap := by
      rw [htrail, dropEndWhile_append_cons (by decide),
        List.takeWhile_append_of_pos fun c hc => bne_bracket (.inr (hgap c hc))]
      simp
    rw [hleft, harguments]
    exact iff_of_true hgap (.inl rfl)
  · have hleft : (dropEndWhile (· == ')') t.trail).takeWhile (· != '[') =
        dropEndWhile (· == ')') t.trail :=
      List.takeWhile_eq_self_iff.2 fun c hc =>
        bne_bracket (htrail c ((dropEndWhile_isPrefix _ _).subset hc))
    rw [hleft, harguments, runs_pair_iff]
    simp

theorem legible_iff (t : ReceiverType) : t.Legible ↔ t.residueBefore = [] ∧ t.residueBehind = [] := by
  rw [residueBehind_eq_nil_iff, residueBefore, ← runs_iff]
  exact ⟨fun h => ⟨h.lead, h.trail⟩, fun h => ⟨h.1, h.2⟩⟩

theorem isIdentifierPart_residueBefore (t : ReceiverType) :
    ∀ c ∈ t.residueBefore, isIdentifierPart c = false := by
  intro c hc
  rcases t.mem_lead c ((afterRuns_suffix _ _).subset hc) with rfl | rfl | hblank
  · decide
  · decide
  · exact isIdentifierPart_of_isBlank hblank

theorem isIdentifierPart_residueBehind (t : ReceiverType) :
    ∀ c ∈ t.residueBehind, isIdentifierPart c = false := by
  intro c hc
  rcases t.trail_cases with ⟨harguments, -⟩ | ⟨-, htrail⟩
  · rw [t.residueBehind_eq_nil_iff.2 (.inl harguments)] at hc
    cases hc
  · rcases htrail c (t.residueBehind_isPrefix.subset hc) with rfl | hblank
    · decide
    · exact isIdentifierPart_of_isBlank hblank

/-- What is found in another type is no name. -/
theorem legible_of_isIdentifier {t : ReceiverType} (h : IsIdentifier (Field.baseTypeChars t.text)) :
    t.Legible := by
  rw [baseTypeChars_text] at h
  rw [legible_iff, List.eq_nil_iff_forall_not_mem, List.eq_nil_iff_forall_not_mem]
  constructor
  · intro c hc
    have hpart := h.part c (List.mem_append_left _ hc)
    rw [t.isIdentifierPart_residueBefore c hc] at hpart
    cases hpart
  · intro c hc
    have hpart := h.part c (List.mem_append_right _ (List.mem_append_right _ hc))
    rw [t.isIdentifierPart_residueBehind c hc] at hpart
    cases hpart

theorem baseTypeChars_eq_word_iff (t : ReceiverType) : Field.baseTypeChars t.text = t.word ↔ t.Legible := by
  constructor
  · intro h
    exact legible_of_isIdentifier (h ▸ t.isIdentifier_word)
  · intro h
    obtain ⟨hbefore, hbehind⟩ := t.legible_iff.1 h
    rw [baseTypeChars_text, hbefore, hbehind, List.nil_append, List.append_nil]

end ReceiverType

/-! ## The struct of a method -/

namespace Model

/-- What linking leaves at a position: the struct with its methods after what it had. -/
theorem getElem?_structs_linkOperations (m : Model) (i : Nat) :
    m.linkOperations.2.1.structs[i]? = m.structs[i]?.map fun s => s.gain (m.methodsAt i) := by
  rw [linkOperations, addLinks_eq m.links_nodup, List.getElem?_mapIdx]
  simp only [linkedTo_links]

theorem linkWarning_mem {m : Model} {op : Operation} (hop : op ∈ m.operations) {type}
    (htype : op.type? = some type) (hnone : ∀ s ∈ m.structs, s.type ≠ type) :
    op.linkWarning ∈ m.linkOperations.2.2.warnings := by
  have hwarnings : m.linkOperations.2.2.warnings = m.linkWarnings := rfl
  rw [hwarnings, linkWarnings_eq, List.mem_map]
  refine ⟨op, List.mem_filter.2 ⟨hop, ?_⟩, rfl⟩
  have hmethod : op.isMethod = true := by
    rw [Operation.type?, Option.map_eq_some_iff] at htype
    obtain ⟨r, hr, -⟩ := htype
    rw [Operation.isMethod, hr]
    rfl
  have hstruct : m.hasStruct op = false := by
    rw [hasStruct, htype, Option.any_some, decide_eq_false_iff_not, List.mem_map]
    rintro ⟨s, hs, he⟩
    exact hnone s hs he
  rw [hmethod, hstruct]
  rfl

end Model

theorem Struct.mem_operations_gain {s : Struct} {js : List Nat} {j : Nat} :
    j ∈ (s.gain js).operations ↔ j ∈ s.operations ∨ j ∈ js := by
  by_cases h : j ∈ s.operations <;> simp [gain, h]

namespace ReceiverType

/-- The name is found in a receiver type exactly when the type is legible. Otherwise some of what stands
around the name is left, and this is no identifier. Types without parentheses are legible. A method is
linked to the first struct of the name in its package and directory exactly when its receiver type is
legible; else it is warned about, as long as structs are named by identifiers. -/
theorem baseType_eq_word_iff (t : ReceiverType) {r : Field} (hr : r.typeName = String.ofList t.text) :
    (∃ before behind, r.baseType = String.ofList (before ++ (t.word ++ behind)) ∧
      before <:+ t.lead ∧ behind <+: t.trail ∧ (t.Legible ↔ before = [] ∧ behind = [])) ∧
    (r.baseType = String.ofList t.word ↔ t.Legible) ∧
    (IsIdentifier r.baseType.toList ↔ t.Legible) ∧ ('(' ∉ t.lead → t.Legible) ∧
    ∀ (m : Model) (op : Operation) (i j : Nat) (s : Struct),
      m.operations[j]? = some op → op.receiver = some r → m.structs[i]? = some s →
      s.type = (op.packageName, op.directory, String.ofList t.word) → m.IsFirst i s.type →
      (∃ s', m.linkOperations.2.1.structs[i]? = some s' ∧
        (j ∈ s'.operations ↔ j ∈ s.operations ∨ t.Legible)) ∧
      (¬ t.Legible → (∀ s ∈ m.structs, IsIdentifier s.name.toList) →
        op.linkWarning ∈ m.linkOperations.2.2.warnings) := by
  have hbase : r.baseType = String.ofList (Field.baseTypeChars t.text) := by
    rw [Field.baseType, onChars, hr, String.toList_ofList]
  have hfound : r.baseType = String.ofList t.word ↔ t.Legible := by
    rw [hbase, String.ofList_inj, baseTypeChars_eq_word_iff]
  have hidentifier : IsIdentifier r.baseType.toList ↔ t.Legible := by
    rw [hbase, String.toList_ofList]
    exact ⟨legible_of_isIdentifier, fun h => t.baseTypeChars_eq_word_iff.2 h ▸ t.isIdentifier_word⟩
  refine ⟨⟨t.residueBefore, t.residueBehind, ?_, afterRuns_suffix _ _, t.residueBehind_isPrefix,
    t.legible_iff⟩, hfound, hidentifier, legible_of_not_mem, ?_⟩
  · rw [hbase, baseTypeChars_text]
  · intro m op i j s hop hreceiver hs hstype hfirst
    have htype : op.type? = some (op.packageName, op.directory, r.baseType) := by
      rw [Operation.type?, hreceiver, Option.map_some]
    constructor
    · refine ⟨s.gain (m.methodsAt i), ?_, ?_⟩
      · rw [m.getElem?_structs_linkOperations, hs, Option.map_some]
      · rw [Struct.mem_operations_gain, Model.mem_methodsAt, ← hfound]
        refine or_congr_right ⟨?_, fun h => ?_⟩
        · rintro ⟨s', op', hs', hop', htype', -⟩
          obtain rfl : s = s' := Option.some.inj (hs.symm.trans hs')
          obtain rfl : op = op' := Option.some.inj (hop.symm.trans hop')
          rw [htype, hstype] at htype'
          simpa using htype'
        · exact ⟨s, op, hs, hop, by rw [htype, hstype, h], hfirst⟩
    · intro hlegible hnames
      refine Model.linkWarning_mem (List.mem_of_getElem? hop) htype fun u hu he => ?_
      have hname : u.name = r.baseType := congrArg (fun type => type.2.2) he
      exact hlegible (hidentifier.1 (hname ▸ hnames u hu))

/-! ## A star behind a blank in parentheses -/

def storeName : { s : List Char // IsIdentifier s } :=
  ⟨"Store".toList, 'S', "tore".toList, by decide, by decide, List.all_eq_true.1 (by decide)⟩

def noGap : Gap := ⟨[], blank_nil⟩

/-- The type `( *Store)`. -/
def inParens : ReceiverType := .parens ⟨[' '], by decide⟩ (.pointer noGap (.name storeName)) noGap

/-- The type `* ((*Store))`. -/
def stacked : ReceiverType :=
  .pointer ⟨[' '], by decide⟩ (.parens noGap (.parens noGap (.pointer noGap (.name storeName)) noGap) noGap)

def receiverOf (t : ReceiverType) : Field := { name := "s", typeName := String.ofList t.text }

def saveOn (t : ReceiverType) : Operation := { Model.saveIn "shop/a.go" with receiver := some (receiverOf t) }

/-- A struct with two methods. -/
def twoReceivers : Model :=
  { root := ".", structs := [Model.storeIn "shop/a.go"], operations := [saveOn inParens, saveOn stacked] }

theorem baseType_inParens : inParens.text = "( *Store)".toList ∧ ¬ inParens.Legible ∧ stacked.Legible ∧
    (receiverOf inParens).baseType ≠ "Store" ∧ (receiverOf stacked).baseType = "Store" ∧
    (∃ s, twoReceivers.linkOperations.2.1.structs[0]? = some s ∧
      0 ∉ s.operations ∧ 1 ∈ s.operations) ∧
    (saveOn inParens).linkWarning ∈ twoReceivers.linkOperations.2.2.warnings := by
  have hillegible : ¬ inParens.Legible := by decide
  have hlegible : stacked.Legible := by decide
  have hfirst : twoReceivers.IsFirst 0 (Model.storeIn "shop/a.go").type :=
    fun j _ hj => absurd hj (Nat.not_lt_zero j)
  have hnames : ∀ s ∈ twoReceivers.structs, IsIdentifier s.name.toList := by
    rintro s hs
    rw [List.mem_singleton.1 hs]
    exact storeName.2
  obtain ⟨-, hname, -, -, hlinks⟩ := baseType_eq_word_iff inParens (r := receiverOf inParens) rfl
  obtain ⟨-, hname', -, -, hlinks'⟩ := baseType_eq_word_iff stacked (r := receiverOf stacked) rfl
  obtain ⟨⟨s, hs, hmem⟩, hwarning⟩ := hlinks twoReceivers (saveOn inParens) 0 0 _ rfl rfl rfl rfl hfirst
  obtain ⟨⟨s', hs', hmem'⟩, -⟩ := hlinks' twoReceivers (saveOn stacked) 0 1 _ rfl rfl rfl rfl hfirst
  obtain rfl : s = s' := Option.some.inj (hs.symm.trans hs')
  refine ⟨by decide, hillegible, hlegible, fun h => hillegible (hname.1 h), hname'.2 hlegible,
    ⟨s, hs, fun h => ?_, hmem'.2 (.inr hlegible)⟩, hwarning hillegible hnames⟩
  rcases hmem.1 h with h | h
  · cases h
  · exact hillegible h

end ReceiverType
end Registrar
