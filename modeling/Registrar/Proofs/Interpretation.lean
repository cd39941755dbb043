import Mathlib.Data.List.Nodup
import Registrar.Proofs.DirectiveGrammar
import Registrar.Proofs.Reading
import Registrar.Proofs.Registry
/-!
# Interpretation is reading

When interpretation succeeds, what it has collected is the reading of the operations
(`interpret_eq_reading`). First, what a successful step for a line, a directive and an operation
gives is a function of it alone; then the collected registry is a fold of these, which the lemmas on
tables take apart by package, channel, key and field.
-/
namespace Registrar.Interpreter

/-! ## Lines and directives -/

theorem readLine_ok {op : Operation} {line : String} {d : Option Directive}
    (h : (readLine op line).2 = .ok d) : d = recognised? line := by
  rw [readLine] at h
  rw [recognised?]
  cases htext : Directive.text? line.toList with
  | none =>
    rw [htext] at h
    cases h
    rfl
  | some chars =>
    rw [htext] at h
    dsimp only at h
    cases hread : Directive.read (String.ofList chars) with
    | error e =>
      rw [hread] at h
      cases h
    | ok args =>
      rw [hread] at h
      dsimp only at h
      simp only [Option.bind_some, hread, Except.toOption]
      cases hkind : DirectiveKind.ofType? (Directive.unquote ((args.lookup "type").getD "")) with
      | none =>
        rw [hkind] at h
        cases h
        rfl
      | some kind =>
        rw [hkind] at h
        cases h
        rfl

theorem readLines_ok {op : Operation} {lines : List String} {ds : List Directive}
    (h : (readLines op lines).2 = .ok ds) : ds = lines.filterMap recognised? := by
  induction lines generalizing ds with
  | nil =>
    cases h
    rfl
  | cons line lines ih =>
    rw [readLines] at h
    obtain ⟨d, hd, h⟩ := Logged.andThen_eq_ok_iff.1 h
    obtain ⟨rest, hrest, h⟩ := Logged.andThen_eq_ok_iff.1 h
    cases h
    rw [ih hrest, readLine_ok hd, List.filterMap_cons]
    cases recognised? line <;> rfl

/-- Reading rejects a key that repeats. -/
theorem nodup_of_read {text : String} {args : List (String × String)}
    (h : Directive.read text = .ok args) : (args.map (·.1)).Nodup := by
  obtain ⟨hwf, -⟩ := Directive.written_of_readPairs (Directive.read_eq_ok_iff.1 h)
  have hdistinct := hwf.distinct
  rw [Directive.chars, List.map_map] at hdistinct
  refine List.Nodup.of_map String.toList ?_
  rw [List.map_map]
  exact hdistinct

theorem read_of_recognised? {line : String} {d : Directive} (h : recognised? line = some d) :
    ∃ args, Directive.read d.text = .ok args ∧ d.args = args.filter fun a => a.1 != "type" := by
  obtain ⟨chars, -, h⟩ := Option.bind_eq_some_iff.1 h
  obtain ⟨args, hargs, h⟩ := Option.bind_eq_some_iff.1 h
  obtain ⟨kind, -, rfl⟩ := Option.map_eq_some_iff.1 h
  refine ⟨args, ?_, rfl⟩
  cases hr : Directive.read (String.ofList chars) with
  | error e => rw [hr] at hargs; cases hargs
  | ok a => rw [hr] at hargs; cases hargs; rfl

/-- The arguments of a recognised directive have different keys. -/
theorem recognised?_nodup {line : String} {d : Directive} (h : recognised? line = some d) :
    (d.args.map (·.1)).Nodup := by
  obtain ⟨args, hread, hargs⟩ := read_of_recognised? h
  -- dropping the type leaves the other keys different
  rw [hargs]
  exact (List.filter_sublist.map _).nodup (nodup_of_read hread)

theorem nodup_of_mem_recognised {op : Operation} {d : Directive} (h : d ∈ recognised op) :
    (d.args.map (·.1)).Nodup := by
  obtain ⟨line, -, hd⟩ := List.mem_filterMap.1 h
  exact recognised?_nodup hd

theorem netOf_ok {d : Directive} {c : Channel} (h : netOf d = .ok c) : net? d = some c := by
  rw [netOf] at h
  rw [net?]
  cases hnet : d.get? "net" with
  | none => rw [hnet] at h; cases h
  | some net =>
    rw [hnet] at h
    dsimp only at h
    rw [Option.bind_some]
    cases hc : Channel.ofLiteral? net with
    | none => rw [hc] at h; cases h
    | some c' => rw [hc] at h; cases h; rfl

theorem homeOf_ok {op : Operation} {c : Channel} (h : homeOf (recognised op) = .ok c) : c = home op := by
  rw [homeOf] at h
  rw [home]
  cases hd : (recognised op).find? fun d => d.kind == .api with
  | none => rw [hd] at h; cases h; rfl
  | some d =>
    rw [hd] at h
    rw [Option.bind_some, netOf_ok h]
    rfl

/-! ## Contributions -/

/-- What the arguments of an `api` directive contribute. -/
def argumentsContribution (i : Interpreter) (c : Channel) (args : List (String × String)) :
    Contribution where
  writes := args.filterMap fun a => (i.argumentValue? c a.1 a.2).map fun v => (a.1, v)
  imports := args.filterMap fun a => argumentImport? c a.1 a.2

/-- What a directive contributes to a channel. -/
def contributed (i : Interpreter) (op : Operation) (c : Channel) (d : Directive) : Contribution :=
  match d.kind with
  | .api =>
    ({ handler := some op.name
       writes := if c = .http then [("net", i.markers.httpNet)] else [] } : Contribution).append
      (i.argumentsContribution c d.args)
  | .validLimit => limit d
  | .validFile => i.upload d

theorem splitBar?_empty : splitBar? "" = none := rfl

theorem argument_ok {i : Interpreter} {op : Operation} {text : String} {c : Channel}
    {a : String × String} {x : Contribution} (h : (i.argument op text c a).2 = .ok x) :
    x = i.argumentsContribution c [a] := by
  obtain ⟨field, raw⟩ := a
  simp only [argumentsContribution, List.filterMap_cons, List.filterMap_nil]
  simp only [argument] at h
  -- field by field, in the order of the definition; a field that is not known comes last
  split at h
  · cases h
    rfl
  · simp only [argumentValue?, argumentImport?]
    split at h <;> cases h <;> simp [*]
  · simp only [argumentValue?, argumentImport?]
    split at h <;> cases h <;> simp [*]
  · simp only [argumentValue?, argumentImport?]
    split at h <;> cases h <;> simp [*]
  · simp only [argumentValue?, argumentImport?]
    split at h
    · simp only [Logged.ok, Except.ok.injEq] at h
      subst h
      split <;> simp [*]
    · cases h
      simp [*]
  · simp only [argumentValue?, argumentImport?]
    split at h
    · split at h <;> cases h <;> simp [*]
    · cases h
      simp [*]
    · rename_i ht hu
      cases h
      rw [if_neg hu, if_neg fun hv => ht hv.1]
      rfl
  · simp only [argumentValue?, argumentImport?]
    split at h
    · rename_i he
      cases h
      rw [String.isEmpty_iff.1 he, splitBar?_empty]
      rfl
    · cases hs : splitBar? (Directive.unquote raw) with
      | none =>
        rw [hs] at h
        cases h
      | some s =>
        rw [hs] at h
        cases h
        rfl
  · simp only [argumentValue?, argumentImport?]
    split at h
    · cases h
      simp [*]
    · cases hs : splitBar? (Directive.unquote raw) with
      | none =>
        simp only [hs, Logged.ok, Except.ok.injEq] at h
        subst h
        split <;> simp_all
      | some s =>
        rw [hs] at h
        cases h
        simp [*]
  · cases h
    have hv : i.argumentValue? c field raw = none := by
      unfold argumentValue?
      split <;> simp_all
    have hi : argumentImport? c field raw = none := by
      unfold argumentImport?
      split <;> simp_all
    rw [hv, hi]
    rfl

theorem arguments_ok {i : Interpreter} {op : Operation} {text : String} {c : Channel}
    {args : List (String × String)} {x : Contribution}
    (h : (i.arguments op text c args).2 = .ok x) : x = i.argumentsContribution c args := by
  induction args generalizing x with
  | nil =>
    cases h
    rfl
  | cons a as ih =>
    rw [arguments] at h
    obtain ⟨y, hy, h⟩ := Logged.andThen_eq_ok_iff.1 h
    obtain ⟨z, hz, h⟩ := Logged.andThen_eq_ok_iff.1 h
    cases h
    rw [argument_ok hy, ih hz]
    simp only [argumentsContribution, Contribution.append, ← List.filterMap_append, List.singleton_append]
    rfl

theorem contribution_ok {i : Interpreter} {op : Operation} {d : Directive}
    {x : Option (Channel × Contribution)} (h : (i.contribution op (home op) d).2 = .ok x) :
    x = (destination? op d).map fun c => (c, i.contributed op c d) := by
  unfold contribution at h
  unfold destination? contributed
  cases hk : d.kind with
  | api =>
    simp only [hk] at h
    obtain ⟨c, hc, h⟩ := Logged.andThen_eq_ok_iff.1 h
    obtain ⟨y, hy, h⟩ := Logged.andThen_eq_ok_iff.1 h
    simp only [Logged.ofExcept] at hc
    rw [api] at hy
    obtain ⟨z, hz, hy⟩ := Logged.andThen_eq_ok_iff.1 hy
    cases hy
    cases h
    rw [arguments_ok hz]
    simp only [netOf_ok hc, Option.map_some]
  | validLimit =>
    simp only [hk] at h
    split at h <;> cases h <;> simp only [*, if_true, if_false, Option.map_some, Option.map_none]
  | validFile =>
    simp only [hk] at h
    split at h <;> cases h <;> simp only [*, if_true, if_false, Option.map_some, Option.map_none]

theorem contributions_ok {i : Interpreter} {op : Operation} {ds : List Directive}
    {xs : List (Channel × Contribution)} (h : (i.contributions op (home op) ds).2 = .ok xs) :
    xs = ds.filterMap fun d => (destination? op d).map fun c => (c, i.contributed op c d) := by
  induction ds generalizing xs with
  | nil =>
    cases h
    rfl
  | cons d ds ih =>
    rw [contributions] at h
    obtain ⟨x, hx, h⟩ := Logged.andThen_eq_ok_iff.1 h
    obtain ⟨rest, hrest, h⟩ := Logged.andThen_eq_ok_iff.1 h
    cases h
    rw [ih hrest, contribution_ok hx, List.filterMap_cons]
    cases destination? op d <;> rfl

/-- What the directives of an operation contribute, each with its channel, in order. -/
def allContributed (i : Interpreter) (op : Operation) : List (Channel × Contribution) :=
  (recognised op).filterMap fun d => (destination? op d).map fun c => (c, i.contributed op c d)

theorem operation_ok {i : Interpreter} {op : Operation} {r : Option (List (Channel × Contribution))}
    (h : (i.operation op).2 = .ok r) :
    r = if (recognised op).isEmpty then none else some (i.allContributed op) := by
  rw [operation] at h
  obtain ⟨ds, hds, h⟩ := Logged.andThen_eq_ok_iff.1 h
  rw [readLines_ok hds, ← recognised] at h
  split at h
  · cases h
    rw [if_pos (by assumption)]
  · obtain ⟨c, hc, h⟩ := Logged.andThen_eq_ok_iff.1 h
    obtain ⟨xs, hxs, h⟩ := Logged.andThen_eq_ok_iff.1 h
    simp only [Logged.ofExcept] at hc
    rw [homeOf_ok hc] at hxs
    cases h
    rw [if_neg (by assumption), contributions_ok hxs]
    rfl

/-- What an operation does to its package. -/
def registers (i : Interpreter) (op : Operation) : PackageEntries → PackageEntries :=
  contributeAll op.handlerKey (i.allContributed op)

theorem annotated_cons (i : Interpreter) (op : Operation) (ops : List Operation) :
    i.annotated (op :: ops) =
      if i.selects op && !(recognised op).isEmpty then op :: i.annotated ops else i.annotated ops :=
  List.filter_cons

theorem operations_ok {i : Interpreter} {ops : List Operation} {s s' : Registry × Nat}
    (h : (i.operations ops s).2 = .ok s') :
    s'.1 = (i.annotated ops).foldl
      (fun r op => r.update op.packageName op.directory i.framework (i.registers op)) s.1 := by
  induction ops generalizing s with
  | nil =>
    cases h
    rfl
  | cons op ops ih =>
    obtain ⟨registry, n⟩ := s
    rw [operations] at h
    rw [annotated_cons]
    split at h
    · rename_i hsel
      obtain ⟨found, hfound, h⟩ := Logged.andThen_eq_ok_iff.1 h
      have hop : (i.operation op).2 = .ok found := by
        rw [failAt] at hfound
        cases hr : (i.operation op).2 with
        | error e => rw [hr] at hfound; cases hfound
        | ok a => rw [hr] at hfound; cases hfound; rfl
      rw [operation_ok hop] at h
      by_cases he : (recognised op).isEmpty
      · simp only [he, if_true] at h
        simpa [he] using ih h
      · simp only [he, Bool.false_eq_true, if_false] at h
        simpa [he, hsel, registers] using ih h
    · rename_i hsel
      simpa [hsel] using ih h

end Registrar.Interpreter
