import Mathlib.Data.List.Forall2
import Registrar.Proofs.Faults
import Registrar.Proofs.SegmentOrder
/-!
# The order of annotations

What an operation registers is read off a few views of its directives: the values that they write on
each channel, the functions, the imports. Operations that look alike in these views (`Alike`) give the
same registry (`interpret_congr`). A field is written by directives of one kind, so a view of an operation
with at most one directive of each kind does not show their order (`sameViews_of_perm`), and no view
shows the order of the arguments (`sameViews_of_kindred`). Annotations can therefore be put in another
order (`interpret_annotation_order`).
-/
namespace Registrar.Interpreter

/-! ## Operations that look alike -/

/-- The function that a directive asks to register. -/
def handler? (x : Operation × Directive) : Option String :=
  if x.2.kind == .api then some x.1.name else none

/-- Nothing that is collected tells the operations apart. -/
structure Alike (i : Interpreter) (op op' : Operation) : Prop where
  package : packageOf op = packageOf op'
  key : op.handlerKey = op'.handlerKey
  faulty : Faulty op ↔ Faulty op'
  annotated : (recognised op).isEmpty = (recognised op').isEmpty
  targets : ∀ c, targets op c = targets op' c
  values : ∀ c f, (arrivals c [op]).filterMap (fun x => i.value? c x.2 f) =
    (arrivals c [op']).filterMap fun x => i.value? c x.2 f
  handlers : ∀ c, (arrivals c [op]).filterMap handler? = (arrivals c [op']).filterMap handler?
  imports : ∀ c s, s ∈ (arrivals c [op]).flatMap (fun x => i.importsOf c x.2) ↔
    s ∈ (arrivals c [op']).flatMap fun x => i.importsOf c x.2

theorem Alike.refl (i : Interpreter) (op : Operation) : i.Alike op op :=
  ⟨rfl, rfl, .rfl, rfl, fun _ => rfl, fun _ _ => rfl, fun _ => rfl, fun _ _ => .rfl⟩

theorem Alike.selects {i : Interpreter} {op op' : Operation} (h : i.Alike op op') :
    i.selects op = i.selects op' := by
  have hname : op.packageName = op'.packageName := congrArg Prod.fst h.package
  rw [Interpreter.selects, hname, ← Interpreter.selects]

theorem map_eq_of_forall₂ {α β : Type} {R : α → α → Prop} {l l' : List α} (h : List.Forall₂ R l l')
    {f : α → β} (hf : ∀ a b, R a b → f a = f b) : l.map f = l'.map f := by
  have hmap := List.rel_map (P := Eq) (fun a b hab => hf a b hab) h
  rwa [List.forall₂_eq_eq_eq] at hmap

theorem filter_forall₂ {α : Type} {R : α → α → Prop} {l l' : List α} (h : List.Forall₂ R l l')
    {p q : α → Bool} (hpq : ∀ a b, R a b → p a = q b) :
    List.Forall₂ R (l.filter p) (l'.filter q) :=
  List.rel_filter (fun a b hab => Bool.eq_iff_iff.1 (hpq a b hab)) h

section Congruence
variable {i : Interpreter} {ops ops' : List Operation}

theorem arrivals_eq_flatMap (c : Channel) (ops : List Operation) :
    arrivals c ops = ops.flatMap fun op => arrivals c [op] := by
  simp [arrivals]

/-- A view of the arriving directives is put together from those of the operations. -/
theorem filterMap_arrivals_congr {α : Type} {c : Channel} {f : Operation × Directive → Option α}
    (h : List.Forall₂ i.Alike ops ops')
    (hf : ∀ op op', i.Alike op op' → (arrivals c [op]).filterMap f = (arrivals c [op']).filterMap f) :
    (arrivals c ops).filterMap f = (arrivals c ops').filterMap f := by
  rw [arrivals_eq_flatMap c ops, arrivals_eq_flatMap c ops', List.filterMap_flatMap,
    List.filterMap_flatMap, List.flatMap_def, List.flatMap_def, map_eq_of_forall₂ h hf]

theorem map_find?_eq {α β : Type} (p : α → Bool) (f : α → β) (l : List α) :
    (l.find? p).map f = (l.filterMap fun x => if p x then some (f x) else none).head? := by
  rw [List.head?_filterMap]
  induction l with
  | nil => rfl
  | cons x l ih =>
    rw [List.find?_cons, List.findSome?_cons]
    cases p x with
    | true => rfl
    | false => exact ih

theorem fieldValue?_eq (c : Channel) (ds : List (Operation × Directive)) (f : String) :
    i.fieldValue? c ds f = if f = "api" ∨ f = "api_method" then (ds.filterMap handler?).head?
      else (ds.filterMap fun x => i.value? c x.2 f).getLast? := by
  rw [fieldValue?, map_find?_eq]
  rfl

theorem recordOf_congr (h : List.Forall₂ i.Alike ops ops') (c : Channel) :
    i.recordOf c (arrivals c ops) = i.recordOf c (arrivals c ops') := by
  have hvalue : ∀ f, i.fieldValue? c (arrivals c ops) f = i.fieldValue? c (arrivals c ops') f := by
    intro f
    rw [fieldValue?_eq, fieldValue?_eq, filterMap_arrivals_congr h fun _ _ hop => hop.handlers c,
      filterMap_arrivals_congr h fun _ _ hop => hop.values c f]
  simp only [recordOf, hvalue]

theorem mem_importsOf_congr (h : List.Forall₂ i.Alike ops ops') (c : Channel) (s : String) :
    s ∈ (arrivals c ops).flatMap (fun x => i.importsOf c x.2) ↔
      s ∈ (arrivals c ops').flatMap fun x => i.importsOf c x.2 := by
  induction h with
  | nil => rfl
  | @cons op op' ops ops' hop _ ih =>
    have hcons : ∀ (o : Operation) (os : List Operation),
        arrivals c (o :: os) = arrivals c [o] ++ arrivals c os := by
      intro o os
      simp [arrivals]
    rw [hcons op, hcons op', List.flatMap_append, List.flatMap_append, List.mem_append, List.mem_append,
      hop.imports c s, ih]

/-- Operations that look alike register the same on a channel. -/
theorem channelReading_congr (h : List.Forall₂ i.Alike ops ops') (c : Channel) :
    i.channelReading ops c = i.channelReading ops' c := by
  refine ChannelEntries.eq_mk ?_ ?_
  · simp only [channelReading, ← foldl_insertSorted]
    refine eq_of_ascending (foldl_insertSorted_ascending List.Pairwise.nil)
      (foldl_insertSorted_ascending List.Pairwise.nil) fun x => ?_
    simp only [mem_foldl_insertSorted, List.mem_filterMap, List.mem_cons, mem_importsOf_congr h c]
  · have htargets := filter_forall₂ h fun _ _ hop => hop.targets c
    have hkeys := map_eq_of_forall₂ htargets fun _ _ hop => hop.key
    simp only [channelReading, hkeys]
    refine List.map_congr_left fun key _ => ?_
    have hown := filter_forall₂ h (p := fun op => op.handlerKey = key)
      (q := fun op => op.handlerKey = key) fun _ _ hop => by rw [hop.key]
    rw [recordOf_congr hown c]

theorem packageReading_congr (h : List.Forall₂ i.Alike ops ops') (id : String × String) :
    i.packageReading ops id = i.packageReading ops' id := by
  have hown := filter_forall₂ h (p := fun op => packageOf op = id) (q := fun op => packageOf op = id)
    fun _ _ hop => by rw [hop.package]
  simp only [packageReading, channelReading_congr hown]

theorem reading_congr (h : List.Forall₂ i.Alike ops ops') : i.reading ops = i.reading ops' := by
  have hannotated : List.Forall₂ i.Alike (i.annotated ops) (i.annotated ops') :=
    filter_forall₂ h fun _ _ hop => by rw [hop.selects, hop.annotated]
  have hids : (i.annotated ops).map packageOf = (i.annotated ops').map packageOf :=
    map_eq_of_forall₂ hannotated fun _ _ hop => hop.package
  rw [reading, reading, hids]
  exact congrArg Registry.mk (List.map_congr_left fun id _ => packageReading_congr hannotated id)

theorem readable_iff_not_faulty {op : Operation} : i.Readable op ↔ ¬Faulty op := by
  rw [readable_iff, problem?_eq_none_iff]

/-- Operations that look alike are interpreted alike. -/
theorem interpret_congr (h : List.Forall₂ i.Alike ops ops') (r : Registry) :
    (i.interpret ops).2 = .ok r ↔ (i.interpret ops').2 = .ok r := by
  have hreadable : (∀ op ∈ ops, i.selects op → i.Readable op) ↔
      ∀ op ∈ ops', i.selects op → i.Readable op := by
    induction h with
    | nil => rfl
    | cons hop _ ih =>
      rw [List.forall_mem_cons, List.forall_mem_cons, ih, hop.selects, readable_iff_not_faulty,
        readable_iff_not_faulty, hop.faulty]
  rw [interpret_eq_ok_iff, interpret_eq_ok_iff, hreadable, reading_congr h]

end Congruence

/-! ## Directives with their arguments in another order -/

/-- Directives of one kind with the same arguments, up to their order. -/
structure Kindred (d d' : Directive) : Prop where
  kind : d.kind = d'.kind
  args : d.args.Perm d'.args
  nodup : (d.args.map (·.1)).Nodup

section Kindred
variable {d d' : Directive}

theorem Kindred.get? (h : Kindred d d') (key : String) : d.get? key = d'.get? key :=
  Table.lookup_perm h.nodup h.args key

theorem Kindred.net? (h : Kindred d d') : net? d = net? d' := by
  rw [Interpreter.net?, Interpreter.net?, h.get?]

theorem Kindred.validatorFunction (h : Kindred d d') : validatorFunction d = validatorFunction d' := by
  rw [Interpreter.validatorFunction, Interpreter.validatorFunction, h.get?]

theorem Kindred.headSize (h : Kindred d d') : headSize d = headSize d' := by
  rw [Interpreter.headSize, Interpreter.headSize, h.get?]

theorem Kindred.value? (h : Kindred d d') (i : Interpreter) (c : Channel) (f : String) :
    i.value? c d f = i.value? c d' f := by
  rw [Interpreter.value?, Interpreter.value?, h.kind, h.get?, h.validatorFunction, h.headSize]

theorem Kindred.mem_importsOf (h : Kindred d d') (i : Interpreter) (c : Channel) (s : String) :
    s ∈ i.importsOf c d ↔ s ∈ i.importsOf c d' := by
  rw [importsOf, importsOf, validatorImports, validatorImports, h.kind, h.get?, h.validatorFunction]
  cases d'.kind with
  | api => exact (h.args.filterMap _).mem_iff
  | validLimit => rfl
  | validFile => rfl

theorem Kindred.unregistrable (h : Kindred d d') : Unregistrable d ↔ Unregistrable d' := by
  simp only [Unregistrable, NamesNoChannel, LacksBar, h.kind, h.get?, h.args.mem_iff]

theorem Kindred.destination? (h : Kindred d d') (op : Operation) :
    destination? op d = destination? op d' := by
  simp only [Interpreter.destination?, h.kind, h.net?]

end Kindred

section Line
variable {line line' : String}

/-- A rearranged line holds a directive with the same arguments, or none as before. -/
theorem recognised?_rearranged (h : Directive.Rearranged line line') :
    Option.Rel Kindred (recognised? line) (recognised? line') := by
  obtain rfl | ⟨t, args, t', args', ⟨htext, hread⟩, ⟨htext', hread'⟩, hperm⟩ := h.reads
  · cases hd : recognised? line with
    | none => exact .none
    | some d => exact .some ⟨rfl, .refl _, recognised?_nodup hd⟩
  · have hnodup := nodup_of_read hread
    simp only [recognised?, htext, htext', Option.bind_some, hread, hread', Except.toOption,
      Table.lookup_perm hnodup hperm]
    cases DirectiveKind.ofType? (Directive.unquote ((args'.lookup "type").getD "")) with
    | none => exact .none
    | some kind => exact .some ⟨rfl, hperm.filter _, (List.filter_sublist.map _).nodup hnodup⟩

theorem malformed_rearranged (h : Directive.Rearranged line line') :
    Malformed line ↔ Malformed line' := by
  obtain rfl | ⟨t, args, t', args', ⟨htext, hread⟩, ⟨htext', hread'⟩, -⟩ := h.reads
  · rfl
  · simp [Malformed, htext, htext', hread, hread']

end Line

/-! ## Lists of directives that show the same -/

theorem exists_mem_congr {α : Type} {R : α → α → Prop} {l l' : List α} (h : List.Forall₂ R l l')
    {p : α → Prop} (hp : ∀ a b, R a b → (p a ↔ p b)) : (∃ a ∈ l, p a) ↔ ∃ a ∈ l', p a := by
  induction h with
  | nil => rfl
  | cons hab _ ih => rw [List.exists_mem_cons_iff, List.exists_mem_cons_iff, hp _ _ hab, ih]

/-- What is read off the directives of one kind, in order, and off all of them, in any order, is the
same for both lists. -/
structure SameViews (ds ds' : List Directive) : Prop where
  one : ∀ {α : Type} (k : DirectiveKind) (g : Directive → Option α),
    (∀ d a, g d = some a → d.kind = k) → (∀ d d', Kindred d d' → g d = g d') →
    ds.filterMap g = ds'.filterMap g
  any : ∀ p : Directive → Prop, (∀ d d', Kindred d d' → (p d ↔ p d')) →
    ((∃ d ∈ ds, p d) ↔ ∃ d ∈ ds', p d)

theorem SameViews.trans {a b c : List Directive} (h : SameViews a b) (h' : SameViews b c) :
    SameViews a c where
  one k g hk hg := (h.one k g hk hg).trans (h'.one k g hk hg)
  any p hp := (h.any p hp).trans (h'.any p hp)

theorem sameViews_of_kindred {ds ds' : List Directive} (h : List.Forall₂ Kindred ds ds') :
    SameViews ds ds' where
  one k g _ hg := by
    induction h with
    | nil => rfl
    | cons hd _ ih => rw [List.filterMap_cons, List.filterMap_cons, hg _ _ hd, ih]
  any p hp := exists_mem_congr h hp

/-- At most one directive of each kind. -/
def AtMostOnce (ds : List Directive) : Prop := ∀ k, ds.countP (fun d => d.kind = k) ≤ 1

theorem eq_of_perm_of_length_le_one {α : Type} {l l' : List α} (h : l.Perm l') (hl : l.length ≤ 1) :
    l = l' := by
  match l, hl with
  | [], _ => exact h.nil_eq
  | [a], _ => exact List.singleton_perm.1 h

/-- Where each kind occurs at most once, the order of the directives does not show. -/
theorem sameViews_of_perm {ds ds' : List Directive} (h : ds.Perm ds') (honce : AtMostOnce ds) :
    SameViews ds ds' where
  one k g hk _ := by
    refine eq_of_perm_of_length_le_one (h.filterMap g) ?_
    rw [List.length_filterMap_eq_countP]
    refine (List.countP_mono_left fun d _ hd => ?_).trans (honce k)
    obtain ⟨a, ha⟩ := Option.isSome_iff_exists.1 hd
    exact decide_eq_true (hk d a ha)
  any p _ := by simp only [h.mem_iff]

/-! ## Operations with lines in another order -/

section Docs
variable {i : Interpreter} {op : Operation} {docs : List String}

theorem filterMap_arrivals_one {α : Type} (c : Channel) (op : Operation)
    (f : Operation × Directive → Option α) : (arrivals c [op]).filterMap f =
      (recognised op).filterMap fun d => if destination? op d = some c then f (op, d) else none := by
  simp only [arrivals, List.flatMap_cons, List.flatMap_nil, List.append_nil]
  induction recognised op with
  | nil => rfl
  | cons d ds ih =>
    rw [List.filter_cons]
    by_cases hd : destination? op d = some c
    · simp [hd, ih, List.filterMap_cons]
    · simp [hd, ih]

theorem home_eq (op : Operation) : home op = (((recognised op).filterMap fun d =>
    if d.kind == .api then some (net? d) else none).head?.join).getD .http := by
  rw [home, ← map_find?_eq]
  cases (recognised op).find? fun d => d.kind == .api <;> rfl

/-- The kind of directive that writes a field. -/
def writer (field : String) : DirectiveKind :=
  if field = "valid.limit" then .validLimit else if field = "valid.file" then .validFile else .api

theorem kind_eq_writer {c : Channel} {d : Directive} {field value : String}
    (h : i.value? c d field = some value) : d.kind = writer field := by
  unfold value? at h
  cases hk : d.kind with
  | api =>
    have hfield : field ≠ "valid.limit" ∧ field ≠ "valid.file" := by
      simp only [hk] at h
      constructor
      · rintro rfl
        obtain ⟨raw, -, hraw⟩ := Option.bind_eq_some_iff.1 h
        cases hraw
      · rintro rfl
        obtain ⟨raw, -, hraw⟩ := Option.bind_eq_some_iff.1 h
        cases hraw
    rw [writer, if_neg hfield.1, if_neg hfield.2]
  | validLimit =>
    simp only [hk] at h
    split at h
    · rename_i hf
      rw [hf.1, writer, if_pos rfl]
    · cases h
  | validFile =>
    simp only [hk] at h
    split at h
    · rename_i hf
      rw [hf.1]
      rfl
    · cases h

theorem kind_of_guard {α : Type} {d : Directive} {a b : α}
    (h : (if d.kind == .api then some b else none) = some a) : d.kind = .api := by
  split at h
  · rename_i hk
    exact eq_of_beq hk
  · cases h

theorem home_of_sameViews (h : SameViews (recognised op) (recognised { op with docs })) :
    home { op with docs } = home op := by
  rw [home_eq, home_eq, h.one .api _ fun _ _ => kind_of_guard]
  intro d d' hd
  rw [hd.kind, hd.net?]

theorem destination?_of_sameViews (h : SameViews (recognised op) (recognised { op with docs }))
    (d : Directive) : destination? { op with docs } d = destination? op d := by
  simp only [destination?, home_of_sameViews h]

/-- A view of the directives that arrive on a channel is a view of all directives. -/
theorem filterMap_arrivals_of_sameViews {α : Type}
    (h : SameViews (recognised op) (recognised { op with docs })) (c : Channel) (k : DirectiveKind)
    {f : Operation × Directive → Option α} (hdocs : ∀ d, f ({ op with docs }, d) = f (op, d))
    (hk : ∀ d a, f (op, d) = some a → d.kind = k)
    (hf : ∀ d d', Kindred d d' → f (op, d) = f (op, d')) :
    (arrivals c [op]).filterMap f = (arrivals c [{ op with docs }]).filterMap f := by
  simp only [filterMap_arrivals_one, destination?_of_sameViews h, hdocs]
  refine h.one k _ (fun d a ha => ?_) fun d d' hd => ?_
  · split at ha
    · exact hk d a ha
    · cases ha
  · rw [hd.destination?, hf d d' hd]

/-- An operation looks as before when its directives show the same, and a line cannot be read only if
one could not be read before. -/
theorem alike_of_sameViews (h : SameViews (recognised op) (recognised { op with docs }))
    (hlines : (∃ line ∈ op.docs, Malformed line) ↔ ∃ line ∈ docs, Malformed line) :
    i.Alike op { op with docs } where
  package := rfl
  key := rfl
  faulty := or_congr hlines (h.any Unregistrable fun _ _ hd => hd.unregistrable)
  annotated := by
    have hsome := h.any (fun _ => True) fun _ _ _ => Iff.rfl
    simp only [and_true] at hsome
    rw [Bool.eq_iff_iff, List.isEmpty_iff, List.isEmpty_iff, List.eq_nil_iff_forall_not_mem,
      List.eq_nil_iff_forall_not_mem, ← not_exists, ← not_exists, hsome]
  targets c := by
    rw [Bool.eq_iff_iff, targets, targets, List.any_eq_true, List.any_eq_true]
    simp only [destination?_of_sameViews h]
    exact h.any _ fun d d' hd => by rw [hd.destination?]
  values c f := filterMap_arrivals_of_sameViews h c (writer f) (fun _ => rfl)
    (fun _ _ ha => kind_eq_writer ha) fun _ _ hd => hd.value? i c f
  handlers c := by
    refine filterMap_arrivals_of_sameViews h c .api (fun _ => rfl) (fun _ _ => kind_of_guard) ?_
    intro d d' hd
    rw [handler?, handler?, hd.kind]
  imports c s := by
    have himports : ∀ o : Operation, s ∈ (arrivals c [o]).flatMap (fun x => i.importsOf c x.2) ↔
        ∃ d ∈ recognised o, destination? o d = some c ∧ s ∈ i.importsOf c d := by
      intro o
      simp [arrivals, and_assoc]
    simp only [himports, destination?_of_sameViews h]
    exact h.any _ fun d d' hd => by rw [hd.destination?, hd.mem_importsOf]

end Docs

/-- The lines of an operation with at most one directive of each kind may change places, and so may the
segments of each directive. Interpretation succeeds as before, and gives the same. -/
theorem interpret_annotation_order (i : Interpreter) (before after : List Operation) (op : Operation)
    (lines docs : List String) (honce : AtMostOnce (recognised op)) (hlines : op.docs.Perm lines)
    (hsegments : List.Forall₂ Directive.Rearranged lines docs) (r : Registry) :
    (i.interpret (before ++ op :: after)).2 = .ok r ↔
      (i.interpret (before ++ { op with docs } :: after)).2 = .ok r := by
  have hkindred : List.Forall₂ Kindred (lines.filterMap recognised?) (docs.filterMap recognised?) := by
    refine List.rel_filterMap ?_ hsegments
    intro line line' hline
    exact recognised?_rearranged hline
  have hviews : SameViews (recognised op) (recognised { op with docs }) :=
    (sameViews_of_perm (hlines.filterMap _) honce).trans (sameViews_of_kindred hkindred)
  have hmalformed : (∃ line ∈ op.docs, Malformed line) ↔ ∃ line ∈ docs, Malformed line := by
    have hrearranged : (∃ line ∈ lines, Malformed line) ↔ ∃ line ∈ docs, Malformed line :=
      exists_mem_congr hsegments fun _ _ => malformed_rearranged
    simp only [hlines.mem_iff, hrearranged]
  have hsame : ∀ ops, List.Forall₂ i.Alike ops ops :=
    fun ops => List.forall₂_same.2 fun o _ => Alike.refl i o
  exact interpret_congr (List.rel_append (hsame before)
    (.cons (alike_of_sameViews hviews hmalformed) (hsame after))) r

/-- A comment, a validator and then the `api` directive that decides about the channel of both. -/
def checkedSave : Operation :=
  { packageName := "shop", filename := "shop/a.go", name := "Save", line := 9
    docs := ["// Save stores.", "// @Handler(type=\"valid.limit\", func=\"Check\")",
      "// @Handler(type=\"api\", net=\"http\", path=\"/a,b\")"] }

/-- The `api` directive comes first, with its path in front. -/
def checkedSaveDocs : List String :=
  ["// @Handler( path=\"/a,b\",type=\"api\", net=\"http\")", "// Save stores.",
    "// @Handler(type=\"valid.limit\", func=\"Check\")"]

def savedRecord : Record :=
  ⟨[("api", "Save"), ("api_method", "Save"), ("net", "net_fw.HTNET_type_http"), ("path", "\"/a,b\""),
    ("valid.limit", "Check")]⟩

theorem rearranged_save : Directive.Rearranged "// @Handler(type=\"api\", net=\"http\", path=\"/a,b\")"
    "// @Handler( path=\"/a,b\",type=\"api\", net=\"http\")" := by
  have hreads : Directive.Reads (String.ofList (Directive.around "// @Handler".toList []
      "type=\"api\", net=\"http\", path=\"/a,b\"".toList))
      "@Handler(type=\"api\", net=\"http\", path=\"/a,b\")".toList
      [("type", "\"api\""), ("net", "\"http\""), ("path", "\"/a,b\"")] :=
    ⟨by decide +kernel, by decide +kernel⟩
  have hsplit : Quoting.split? ',' "type=\"api\", net=\"http\", path=\"/a,b\"".toList =
      some ["type=\"api\"".toList, " net=\"http\"".toList, " path=\"/a,b\"".toList] := by decide +kernel
  have hperm : ["type=\"api\"".toList, " net=\"http\"".toList, " path=\"/a,b\"".toList].Perm
      [" path=\"/a,b\"".toList, "type=\"api\"".toList, " net=\"http\"".toList] := by decide
  exact Directive.Rearranged.segments (by decide) (by decide) hreads hsplit hperm

/-- Both orders give one record. -/
theorem interpret_annotation_order_save :
    let i : Interpreter := {}
    ∃ r, (i.interpret [checkedSave]).2 = .ok r ∧
      (i.interpret [{ checkedSave with docs := checkedSaveDocs }]).2 = .ok r ∧
      r.packages.map (fun p => p.http.records) = [[("shop/a.goSave", savedRecord)]] := by
  intro i
  have honce : AtMostOnce (recognised checkedSave) := by
    intro k
    cases k <;> decide +kernel
  have hsegments : List.Forall₂ Directive.Rearranged
      ["// @Handler(type=\"api\", net=\"http\", path=\"/a,b\")", "// Save stores.",
        "// @Handler(type=\"valid.limit\", func=\"Check\")"] checkedSaveDocs :=
    .cons rearranged_save (.cons (.same _) (.cons (.same _) .nil))
  have hrecords : (i.interpret [checkedSave]).2.toOption.map
      (fun r => r.packages.map fun p => p.http.records) = some [[("shop/a.goSave", savedRecord)]] := by
    decide +kernel
  cases h : (i.interpret [checkedSave]).2 with
  | error f =>
    rw [h] at hrecords
    cases hrecords
  | ok r =>
    rw [h] at hrecords
    refine ⟨r, rfl, ?_, Option.some.inj hrecords⟩
    exact (interpret_annotation_order i [] [] checkedSave _ _ honce (by decide) hsegments r).1 h

end Registrar.Interpreter
