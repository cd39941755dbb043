import Registrar.Proofs.Success
/-!
# What makes interpretation fail

An operation has a fault when a line of it holds a directive that cannot be read, or when an `api`
directive of it names no channel or gives a data type without a path. `problem?` is the one that is
reported: the first line that cannot be read, otherwise the first `api` directive with a fault.
Interpretation fails exactly when an operation that it reads has a fault, and then reports the first
such operation (`interpret_fails_iff`).
-/
namespace Registrar

namespace Logged
variable {ε α β γ : Type}

/-- A sequence over a list, in which each element can fail, fails at the first element that does. -/
theorem eq_error_iff_findSome? {f : List α → Logged ε β} {g : α → Logged ε γ} {h : γ → β → β}
    {problem? : α → Option ε} (hnil : ∃ b, (f []).2 = .ok b)
    (hcons : ∀ x xs, f (x :: xs) = (g x).andThen fun a => (f xs).andThen fun b => ok (h a b))
    (hg : ∀ x e, (g x).2 = .error e ↔ problem? x = some e) (xs : List α) (e : ε) :
    (f xs).2 = .error e ↔ xs.findSome? problem? = some e := by
  induction xs with
  | nil =>
    obtain ⟨b, hb⟩ := hnil
    simp [hb]
  | cons x xs ih =>
    rw [hcons, andThen_eq_error_iff, List.findSome?_cons, hg]
    cases hp : problem? x with
    | some e' =>
      have hx : (g x).2 = .error e' := (hg x e').2 hp
      simp [hx]
    | none =>
      cases hx : (g x).2 with
      | error e' => rw [hg, hp] at hx; cases hx
      | ok a =>
        simp only [reduceCtorEq, false_or, Except.ok.injEq, exists_eq_left', andThen_eq_error_iff, ih]
        simp [ok]

end Logged

namespace Interpreter

/-! ## Faults -/

/-- The line holds a directive that cannot be read. -/
def Malformed (line : String) : Prop :=
  ∃ chars e, Directive.text? line.toList = some chars ∧ Directive.read (String.ofList chars) = .error e

/-- The `net` argument is missing, or is not the name of a channel inside blanks and then quotes. -/
def NamesNoChannel (d : Directive) : Prop :=
  ∀ raw, d.get? "net" = some raw →
    ∀ c : Channel, Text.dropQuotes (Text.trim raw.toList) ≠ c.name.toList

/-- The `dataPtrStruct` argument is not empty and has no bar. -/
def LacksBar (d : Directive) : Prop :=
  ∃ a ∈ d.args, a.1 = "dataPtrStruct" ∧ Directive.unquote a.2 ≠ "" ∧
    '|' ∉ (Directive.unquote a.2).toList

instance : DecidablePred LacksBar := fun d =>
  inferInstanceAs (Decidable (∃ a ∈ d.args, a.1 = "dataPtrStruct" ∧ Directive.unquote a.2 ≠ "" ∧
    '|' ∉ (Directive.unquote a.2).toList))

/-- The directive is for registering and cannot be. -/
def Unregistrable (d : Directive) : Prop := d.kind = .api ∧ (NamesNoChannel d ∨ LacksBar d)

/-- A line or a directive of the operation has a fault. -/
def Faulty (op : Operation) : Prop :=
  (∃ line ∈ op.docs, Malformed line) ∨ ∃ d ∈ recognised op, Unregistrable d

/-! ## Problems of lines and directives -/

def lineProblem? (line : String) : Option Problem :=
  (Directive.text? line.toList).bind fun chars =>
    match Directive.read (String.ofList chars) with
    | .error e => some (.malformed e (String.ofList chars))
    | .ok _ => none

theorem readLine_eq_error_iff {op : Operation} {line : String} {p : Problem} :
    (readLine op line).2 = .error p ↔ lineProblem? line = some p := by
  rw [readLine, lineProblem?]
  cases Directive.text? line.toList with
  | none => simp [Logged.ok]
  | some chars =>
    dsimp only [Option.bind_some]
    cases Directive.read (String.ofList chars) with
    | error e => simp [Logged.fail]
    | ok args =>
      dsimp only
      cases DirectiveKind.ofType? (Directive.unquote ((args.lookup "type").getD "")) with
      | none => simp [Logged.andThen_eq_error_iff, Logged.event, Logged.ok]
      | some kind => simp [Logged.ok]

theorem readLines_eq_error_iff {op : Operation} {lines : List String} {p : Problem} :
    (readLines op lines).2 = .error p ↔ lines.findSome? lineProblem? = some p :=
  Logged.eq_error_iff_findSome? (h := fun d ds => d.toList ++ ds) ⟨[], rfl⟩ (fun _ _ => rfl)
    (fun _ _ => readLine_eq_error_iff) lines p

/-- What is said about a directive that names no channel. -/
def netProblem (d : Directive) : Problem :=
  match d.get? "net" with
  | none => .missingNet d.text
  | some net => .unknownNet net d.text

theorem ofLiteral?_eq_none_iff {raw : String} : Channel.ofLiteral? raw = none ↔
    ∀ c : Channel, Text.dropQuotes (Text.trim raw.toList) ≠ c.name.toList := by
  simp only [Channel.ofLiteral?, List.find?_eq_none, beq_iff_eq, Text.onChars]
  refine ⟨fun h c hc => h c (Channel.mem_all c) ?_, fun h c _ hc => h c ?_⟩
  · rw [hc, String.ofList_toList]
  · rw [hc, String.toList_ofList]

theorem netOf_eq_error_iff {d : Directive} {p : Problem} :
    netOf d = .error p ↔ NamesNoChannel d ∧ netProblem d = p := by
  rw [netOf, NamesNoChannel, netProblem]
  cases d.get? "net" with
  | none => simp
  | some net =>
    dsimp only
    simp only [Option.some.injEq, forall_eq', ← ofLiteral?_eq_none_iff]
    cases Channel.ofLiteral? net with
    | none => simp
    | some c => simp

def argumentProblem? (text : String) (a : String × String) : Option Problem :=
  if a.1 = "dataPtrStruct" ∧ Directive.unquote a.2 ≠ "" ∧ '|' ∉ (Directive.unquote a.2).toList then
    some (.structPath text)
  else none

theorem splitBar?_eq_none_iff {value : String} : splitBar? value = none ↔ '|' ∉ value.toList := by
  rw [splitBar?, Option.map_eq_none_iff, Text.splitOnce?_eq_none_iff]

theorem argument_eq_error_iff {i : Interpreter} {op : Operation} {text : String} {c : Channel}
    {a : String × String} {p : Problem} :
    (i.argument op text c a).2 = .error p ↔ argumentProblem? text a = some p := by
  obtain ⟨field, raw⟩ := a
  by_cases hfield : field = "dataPtrStruct"
  · subst hfield
    have hbar : splitBar? (Directive.unquote raw) = none ↔ '|' ∉ (Directive.unquote raw).toList :=
      splitBar?_eq_none_iff
    simp only [argument, argumentProblem?, ne_eq, true_and]
    by_cases hempty : Directive.unquote raw = ""
    · simp [hempty, Logged.ok]
    · cases hs : splitBar? (Directive.unquote raw) with
      | none => simp [hempty, hbar.1 hs, Logged.fail]
      | some s =>
        rw [hs] at hbar
        have hmem : '|' ∈ (Directive.unquote raw).toList := by simpa using hbar
        simp [hempty, hmem, Logged.ok]
  · -- every other argument is used or ignored
    have hok : (i.argument op text c (field, raw)).2 ≠ .error p := by
      intro h
      simp only [argument] at h
      split at h
      · cases h
      · split at h <;> cases h
      · split at h <;> cases h
      · split at h <;> cases h
      · split at h <;> cases h
      · split at h
        · split at h <;> cases h
        · cases h
        · cases h
      · exact hfield rfl
      · split at h
        · cases h
        · split at h <;> cases h
      · cases h
    simp [hok, argumentProblem?, hfield]

theorem arguments_eq_error_iff {i : Interpreter} {op : Operation} {d : Directive} {c : Channel}
    {p : Problem} :
    (i.arguments op d.text c d.args).2 = .error p ↔ LacksBar d ∧ Problem.structPath d.text = p := by
  have hfirst := Logged.eq_error_iff_findSome? (f := i.arguments op d.text c) (h := Contribution.append)
    ⟨{}, rfl⟩ (fun _ _ => rfl) (fun _ _ => argument_eq_error_iff) d.args p
  rw [hfirst, LacksBar]
  constructor
  · intro h
    obtain ⟨a, ha, hp⟩ := List.exists_of_findSome?_eq_some h
    rw [argumentProblem?] at hp
    split at hp
    · rename_i hbad
      exact ⟨⟨a, ha, hbad⟩, Option.some.inj hp⟩
    · cases hp
  · rintro ⟨⟨a, ha, hbad⟩, hp⟩
    cases hnone : d.args.findSome? (argumentProblem? d.text) with
    | none =>
      have := List.findSome?_eq_none_iff.1 hnone a ha
      rw [argumentProblem?, if_pos hbad] at this
      cases this
    | some q =>
      obtain ⟨b, -, hq⟩ := List.exists_of_findSome?_eq_some hnone
      rw [argumentProblem?] at hq
      split at hq
      · rw [← hp, ← Option.some.inj hq]
      · cases hq

/-- The problem of a directive: its channel is looked at first, then its arguments. -/
def directiveProblem? (d : Directive) : Option Problem :=
  if d.kind = .api then
    match netOf d with
    | .error p => some p
    | .ok _ => if LacksBar d then some (.structPath d.text) else none
  else none

theorem contribution_eq_error_iff {i : Interpreter} {op : Operation} {home : Channel} {d : Directive}
    {p : Problem} : (i.contribution op home d).2 = .error p ↔ directiveProblem? d = some p := by
  rw [contribution, directiveProblem?]
  cases d.kind with
  | api =>
    simp only [Logged.andThen_eq_error_iff, Logged.ofExcept, api, arguments_eq_error_iff, if_true]
    cases netOf d with
    | error q => simp
    | ok c => by_cases hbar : LacksBar d <;> simp [hbar, Logged.ok]
  | validLimit => by_cases hhome : home = .http <;> simp [hhome, Logged.ok]
  | validFile => by_cases hhome : home = .http <;> simp [hhome, Logged.ok]

theorem contributions_eq_error_iff {i : Interpreter} {op : Operation} {home : Channel}
    {ds : List Directive} {p : Problem} :
    (i.contributions op home ds).2 = .error p ↔ ds.findSome? directiveProblem? = some p :=
  Logged.eq_error_iff_findSome? (h := fun x xs => x.toList ++ xs) ⟨[], rfl⟩ (fun _ _ => rfl)
    (fun _ _ => contribution_eq_error_iff) ds p

/-- A home channel is missing because the first `api` directive names none. -/
theorem findSome?_of_homeOf {ds : List Directive} {p : Problem} (h : homeOf ds = .error p) :
    ds.findSome? directiveProblem? = some p := by
  rw [homeOf] at h
  cases hd : ds.find? fun d => d.kind == .api with
  | none => rw [hd] at h; cases h
  | some d =>
    rw [hd] at h
    dsimp only at h
    obtain ⟨hkind, before, after, rfl, hbefore⟩ := List.find?_eq_some_iff_append.1 hd
    refine List.findSome?_eq_some_iff.2 ⟨before, d, after, rfl, ?_, fun e he => ?_⟩
    · rw [directiveProblem?, if_pos (by simpa using hkind), h]
    · rw [directiveProblem?, if_neg (by simpa using hbefore e he)]

/-! ## Problems of operations -/

/-- The problem that is reported: of a line, if there is one, otherwise of a directive. -/
def problem? (op : Operation) : Option Problem :=
  (op.docs.findSome? lineProblem?).or ((recognised op).findSome? directiveProblem?)

theorem operation_eq_error_iff {i : Interpreter} {op : Operation} {p : Problem} :
    (i.operation op).2 = .error p ↔ problem? op = some p := by
  rw [operation, Logged.andThen_eq_error_iff, problem?, Option.or_eq_some_iff, readLines_eq_error_iff]
  refine or_congr_right ?_
  constructor
  · rintro ⟨ds, hds, h⟩
    have hlines : op.docs.findSome? lineProblem? = none := by
      cases hp : op.docs.findSome? lineProblem? with
      | none => rfl
      | some q => rw [readLines_eq_error_iff.2 hp] at hds; cases hds
    refine ⟨hlines, ?_⟩
    rw [readLines_ok hds, ← recognised] at h
    split at h
    · cases h
    · rcases Logged.andThen_eq_error_iff.1 h with hhome | ⟨c, -, h⟩
      · exact findSome?_of_homeOf hhome
      · rcases Logged.andThen_eq_error_iff.1 h with h | ⟨xs, -, h⟩
        · exact contributions_eq_error_iff.1 h
        · cases h
  · rintro ⟨hlines, h⟩
    cases hds : (readLines op op.docs).2 with
    | error q => rw [readLines_eq_error_iff, hlines] at hds; cases hds
    | ok ds =>
      refine ⟨ds, rfl, ?_⟩
      rw [readLines_ok hds, ← recognised]
      have hne : (recognised op).isEmpty = false := by
        cases hr : recognised op with
        | nil => rw [hr] at h; cases h
        | cons d ds => rfl
      rw [hne, if_neg Bool.false_ne_true, Logged.andThen_eq_error_iff]
      cases hhome : homeOf (recognised op) with
      | error q =>
        rw [findSome?_of_homeOf hhome] at h
        exact .inl (congrArg Except.error (Option.some.inj h))
      | ok c =>
        exact .inr ⟨c, rfl, Logged.andThen_eq_error_iff.2 (.inl (contributions_eq_error_iff.2 h))⟩

theorem readable_iff {i : Interpreter} {op : Operation} : i.Readable op ↔ problem? op = none := by
  rw [Readable]
  cases h : (i.operation op).2 with
  | error p => simp [operation_eq_error_iff.1 h]
  | ok found =>
    cases hp : problem? op with
    | none => simp
    | some p => rw [operation_eq_error_iff.2 hp] at h; cases h

/-! ## The failure of a run -/

/-- The failure at an operation that is read. -/
def failureAt? (i : Interpreter) (op : Operation) : Option Failure :=
  if i.selects op then (problem? op).map (failure op) else none

theorem failAt_eq_error_iff {i : Interpreter} {op : Operation} {f : Failure} :
    (failAt op (i.operation op)).2 = .error f ↔ (problem? op).map (failure op) = some f := by
  rw [failAt, Option.map_eq_some_iff]
  cases h : (i.operation op).2 with
  | error p => simp [Except.mapError, operation_eq_error_iff.1 h]
  | ok found =>
    have hnone : problem? op = none := readable_iff.1 ⟨found, h⟩
    simp [Except.mapError, hnone]

theorem operations_eq_error_iff {i : Interpreter} {ops : List Operation} {s : Registry × Nat}
    {f : Failure} : (i.operations ops s).2 = .error f ↔ ops.findSome? i.failureAt? = some f := by
  induction ops generalizing s with
  | nil => simp [operations, Logged.ok]
  | cons op ops ih =>
    obtain ⟨registry, n⟩ := s
    rw [operations, List.findSome?_cons, failureAt?]
    by_cases hsel : i.selects op
    · rw [if_pos hsel, if_pos hsel, Logged.andThen_eq_error_iff, failAt_eq_error_iff]
      cases hp : problem? op with
      | some p =>
        have hfails : (failAt op (i.operation op)).2 = .error (failure op p) :=
          failAt_eq_error_iff.2 (by rw [hp, Option.map_some])
        simp [hfails]
      | none =>
        obtain ⟨found, hfound⟩ := (readable_iff (i := i)).2 hp
        have hok : (failAt op (i.operation op)).2 = .ok found := failAt_eq_ok_iff.2 hfound
        rw [hok]
        simp only [Option.map_none, reduceCtorEq, false_or, Except.ok.injEq, exists_eq_left']
        cases found with
        | none => exact ih
        | some xs => exact ih
    · rw [if_neg hsel, if_neg hsel]
      exact ih

/-- A run fails with the failure at the first operation that has one. -/
theorem interpret_eq_error_iff {i : Interpreter} {ops : List Operation} {f : Failure} :
    (i.interpret ops).2 = .error f ↔ ops.findSome? i.failureAt? = some f := by
  rw [interpret, Logged.andThen_eq_error_iff, operations_eq_error_iff]
  simp

/-! ## Faults are what is reported -/

theorem lineProblem?_eq_some_iff {line : String} {p : Problem} : lineProblem? line = some p ↔
    ∃ chars e, Directive.text? line.toList = some chars ∧
      Directive.read (String.ofList chars) = .error e ∧ Problem.malformed e (String.ofList chars) = p := by
  rw [lineProblem?, Option.bind_eq_some_iff]
  refine exists_congr fun chars => ?_
  cases Directive.read (String.ofList chars) <;> simp

theorem lineProblem?_eq_none_iff {line : String} : lineProblem? line = none ↔ ¬Malformed line := by
  rw [Option.eq_none_iff_forall_ne_some, Malformed]
  constructor
  · rintro h ⟨chars, e, htext, hread⟩
    exact h _ (lineProblem?_eq_some_iff.2 ⟨chars, e, htext, hread, rfl⟩)
  · intro h p hp
    obtain ⟨chars, e, htext, hread, -⟩ := lineProblem?_eq_some_iff.1 hp
    exact h ⟨chars, e, htext, hread⟩

/-- The problem that a directive has: it names no channel, or it names one and gives a type without a
path. -/
def HasProblem (d : Directive) (p : Problem) : Prop :=
  d.kind = .api ∧ ((NamesNoChannel d ∧ netProblem d = p) ∨
    (¬NamesNoChannel d ∧ LacksBar d ∧ Problem.structPath d.text = p))

theorem directiveProblem?_eq_some_iff {d : Directive} {p : Problem} :
    directiveProblem? d = some p ↔ HasProblem d p := by
  rw [directiveProblem?, HasProblem]
  by_cases hkind : d.kind = .api
  · rw [if_pos hkind]
    cases hnet : netOf d with
    | error q =>
      obtain ⟨hnone, hq⟩ := netOf_eq_error_iff.1 hnet
      simp [hkind, hnone, hq]
    | ok c =>
      have hsome : ¬NamesNoChannel d := by
        intro hnone
        rw [netOf_eq_error_iff.2 ⟨hnone, rfl⟩] at hnet
        cases hnet
      simp [hkind, hsome]
  · simp [hkind]

theorem directiveProblem?_eq_none_iff {d : Directive} :
    directiveProblem? d = none ↔ ¬Unregistrable d := by
  rw [Option.eq_none_iff_forall_ne_some, Unregistrable]
  simp only [ne_eq, directiveProblem?_eq_some_iff, HasProblem]
  constructor
  · rintro h ⟨hkind, hfault⟩
    by_cases hnet : NamesNoChannel d
    · exact h _ ⟨hkind, .inl ⟨hnet, rfl⟩⟩
    · exact h _ ⟨hkind, .inr ⟨hnet, hfault.resolve_left hnet, rfl⟩⟩
  · rintro h p ⟨hkind, ⟨hnet, -⟩ | ⟨-, hbar, -⟩⟩
    · exact h ⟨hkind, .inl hnet⟩
    · exact h ⟨hkind, .inr hbar⟩

theorem problem?_eq_none_iff {op : Operation} : problem? op = none ↔ ¬Faulty op := by
  rw [problem?, Option.or_eq_none_iff, List.findSome?_eq_none_iff, List.findSome?_eq_none_iff, Faulty,
    not_or]
  simp only [lineProblem?_eq_none_iff, directiveProblem?_eq_none_iff, not_exists, not_and]

/-- Which problem of an operation is reported. -/
inductive Reported (op : Operation) : Problem → Prop
  /-- That of the first line that cannot be read. -/
  | line {before line after chars e} : op.docs = before ++ line :: after →
      (∀ l ∈ before, ¬Malformed l) → Directive.text? line.toList = some chars →
      Directive.read (String.ofList chars) = .error e → Reported op (.malformed e (String.ofList chars))
  /-- If all lines can be read, that of the first directive that cannot be registered. -/
  | directive {before d after p} : (∀ l ∈ op.docs, ¬Malformed l) → recognised op = before ++ d :: after →
      (∀ e ∈ before, ¬Unregistrable e) → HasProblem d p → Reported op p

theorem reported_of_problem? {op : Operation} {p : Problem} (h : problem? op = some p) :
    Reported op p := by
  rcases Option.or_eq_some_iff.1 h with h | ⟨hlines, h⟩
  · obtain ⟨before, line, after, hdocs, hp, hbefore⟩ := List.findSome?_eq_some_iff.1 h
    obtain ⟨chars, e, htext, hread, rfl⟩ := lineProblem?_eq_some_iff.1 hp
    exact .line hdocs (fun l hl => lineProblem?_eq_none_iff.1 (hbefore l hl)) htext hread
  · obtain ⟨before, d, after, hds, hp, hbefore⟩ := List.findSome?_eq_some_iff.1 h
    refine .directive (fun l hl => ?_) hds (fun e he => ?_) (directiveProblem?_eq_some_iff.1 hp)
    · exact lineProblem?_eq_none_iff.1 (List.findSome?_eq_none_iff.1 hlines l hl)
    · exact directiveProblem?_eq_none_iff.1 (hbefore e he)

theorem failureAt?_eq_some_iff {i : Interpreter} {op : Operation} {f : Failure} :
    i.failureAt? op = some f ↔ i.selects op ∧ ∃ p, problem? op = some p ∧ failure op p = f := by
  rw [failureAt?]
  by_cases hsel : i.selects op <;> simp [hsel]

theorem failureAt?_eq_none_iff {i : Interpreter} {op : Operation} :
    i.failureAt? op = none ↔ (i.selects op → ¬Faulty op) := by
  rw [failureAt?, ← problem?_eq_none_iff]
  by_cases hsel : i.selects op <;> simp [hsel]

/-! ## Lines of other types -/

/-- The line holds a directive that can be read and is of no known type. -/
def OfOtherType (line : String) : Prop :=
  ∃ chars args, Directive.text? line.toList = some chars ∧
    Directive.read (String.ofList chars) = .ok args ∧
    DirectiveKind.ofType? (Directive.unquote ((args.lookup "type").getD "")) = none

theorem problem?_of_otherType {op : Operation} {before after : List String} {line : String}
    (hdocs : op.docs = before ++ line :: after) (h : OfOtherType line) :
    problem? { op with docs := before ++ after } = problem? op := by
  obtain ⟨chars, args, htext, hread, hkind⟩ := h
  have hline : lineProblem? line = none := by simp [lineProblem?, htext, hread]
  have hnone : recognised? line = none := by
    simp [recognised?, htext, hread, Except.toOption, hkind]
  simp only [problem?, recognised, hdocs, List.findSome?_append, List.findSome?_cons, hline,
    List.filterMap_append, List.filterMap_cons, hnone]

/-- Interpretation fails exactly when an operation that it reads has a fault. The failure is that of the
first such operation: it names the operation, its file and its line, and of its problems it gives the
first line that cannot be read before any other. A directive of another type neither causes nor changes
a failure. -/
theorem interpret_fails_iff (i : Interpreter) (ops : List Operation) :
    ((∃ f, (i.interpret ops).2 = .error f) ↔ ∃ op ∈ ops, i.selects op ∧ Faulty op) ∧
    (∀ f, (i.interpret ops).2 = .error f → ∃ before op after p, ops = before ++ op :: after ∧
      i.selects op ∧ Faulty op ∧ (∀ o ∈ before, i.selects o → ¬Faulty o) ∧ Reported op p ∧
      f.kind = .directive ∧ f.file = some op.filename ∧ f.line = some op.line ∧
      f.message = "operation " ++ op.name ++ ": " ++ p.message ∧ f.cause = p.cause) ∧
    (∀ before op after lines line lines', ops = before ++ op :: after →
      op.docs = lines ++ line :: lines' → OfOtherType line →
      ∀ f, (i.interpret ops).2 = .error f ↔
        (i.interpret (before ++ { op with docs := lines ++ lines' } :: after)).2 = .error f) := by
  simp only [interpret_eq_error_iff]
  refine ⟨?_, ?_, ?_⟩
  · have hnone : (¬∃ f, ops.findSome? i.failureAt? = some f) ↔ ∀ op ∈ ops, i.selects op → ¬Faulty op := by
      simp only [← failureAt?_eq_none_iff, ← List.findSome?_eq_none_iff]
      rw [Option.eq_none_iff_forall_ne_some, not_exists]
    rw [← not_iff_not, hnone]
    simp only [not_exists, not_and]
  · intro f h
    obtain ⟨before, op, after, hops, hf, hbefore⟩ := List.findSome?_eq_some_iff.1 h
    obtain ⟨hsel, p, hp, rfl⟩ := failureAt?_eq_some_iff.1 hf
    refine ⟨before, op, after, p, hops, hsel, ?_, fun o ho => failureAt?_eq_none_iff.1 (hbefore o ho),
      reported_of_problem? hp, rfl, rfl, rfl, rfl, rfl⟩
    by_contra hfaulty
    rw [problem?_eq_none_iff.2 hfaulty] at hp
    cases hp
  · rintro before op after lines line lines' rfl hdocs hother f
    have hsame : i.failureAt? { op with docs := lines ++ lines' } = i.failureAt? op := by
      rw [failureAt?, problem?_of_otherType hdocs hother]
      rfl
    rw [List.findSome?_append, List.findSome?_append, List.findSome?_cons, List.findSome?_cons, hsame]

/-- A directive of another type, and one without a channel before a line that cannot be read. -/
def notice : Operation :=
  { packageName := "shop", filename := "shop/Note.go", name := "Note", line := 3
    docs := ["// @Handler(type=\"note\", net=\"none\")"] }

def twoFaults : Operation :=
  { packageName := "shop", filename := "shop/Save.go", name := "Save", line := 9
    docs := ["// @Handler(type=\"api\", path=\"/a\")", "// @Handler(type=\"api\", net=\"http)"] }

/-- The line that cannot be read is reported, though it comes after the other fault. -/
def saveFailure : Failure :=
  { kind := .directive, file := some "shop/Save.go", line := some 9
    message := "operation Save: unterminated quote in directive in " ++
      "\x60@Handler(type=\"api\", net=\"http)\x60"
    cause := some "unterminated quote in directive" }

theorem interpret_fails_at_line :
    let i : Interpreter := {}
    let ops := [notice, twoFaults, twoFaults]
    (i.interpret ops).2 = .error saveFailure ∧ Faulty twoFaults ∧
      ∃ before op after, ops = before ++ op :: after ∧ Faulty op ∧ ∀ o ∈ before, ¬Faulty o := by
  intro i ops
  have hfaulty : Faulty twoFaults := by
    refine .inl ⟨"// @Handler(type=\"api\", net=\"http)", by simp [twoFaults], ?_⟩
    exact ⟨"@Handler(type=\"api\", net=\"http)".toList, .unterminatedQuote, by decide, by decide +kernel⟩
  have hfirst : ops.findSome? i.failureAt? = some saveFailure := by decide +kernel
  have hf := interpret_eq_error_iff.2 hfirst
  obtain ⟨-, hreport, -⟩ := interpret_fails_iff i ops
  obtain ⟨before, op, after, -, hops, -, hop, hbefore, -⟩ := hreport saveFailure hf
  exact ⟨hf, hfaulty, before, op, after, hops, hop, fun o ho => hbefore o ho rfl⟩

end Interpreter
end Registrar
