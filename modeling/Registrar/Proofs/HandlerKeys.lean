import Mathlib.Data.List.Nodup
import Registrar.Output.Template
import Registrar.Proofs.Success
import Registrar.Source.Extraction
/-!
# Which operations share a record

A record is kept under the name of a file followed by the name of a function. Two operations of a
package have one key when they are in one file and have one name, as methods of different types may,
or when the longer file name runs into the name of the function (`handlerKey_eq_iff`). Operations
that share no key are registered by calls of their own; the others are registered by one call
(`record_shared_iff`).
-/
namespace Registrar

/-! ## The file of an entity -/

namespace SourceFile

/-- The package and the file that an entity names as its own. -/
def Entity.home : Entity → String × String
  | struct s => (s.packageName, s.filename)
  | operation o => (o.packageName, o.filename)
  | interface i => (i.packageName, i.filename)
  | typedef t => (t.packageName, t.filename)
  | enum e => (e.packageName, e.filename)

theorem home_of_typeEntity? {p : Place} {spec : Tree} {docs : List String} {e : Entity}
    (h : typeEntity? p spec docs = some e) : e.home = (p.packageName, p.filename) := by
  unfold typeEntity? at h
  split at h
  · split at h
    · cases h
      rfl
    · split at h <;> cases h <;> rfl
  · cases h

theorem home_of_entitiesOf {p : Place} {t : Tree} {before : List Tree} {e : Entity}
    (h : e ∈ entitiesOf p t before) : e.home = (p.packageName, p.filename) := by
  have hoperation : e ∈ ((operation? p t before).map Entity.operation).toList →
      e.home = (p.packageName, p.filename) := by
    intro h
    obtain ⟨o, ho, rfl⟩ := Option.map_eq_some_iff.1 (Option.mem_toList.1 h)
    obtain ⟨name, -, rfl⟩ := Option.map_eq_some_iff.1 ho
    rfl
  unfold entitiesOf at h
  split at h
  · obtain ⟨⟨spec, above⟩, -, hspec⟩ := List.mem_filterMap.1 h
    dsimp only at hspec
    split at hspec
    · exact home_of_typeEntity? hspec
    · cases hspec
  · exact hoperation h
  · exact hoperation h
  · obtain ⟨en, hen, rfl⟩ := Option.map_eq_some_iff.1 (Option.mem_toList.1 h)
    obtain ⟨name, -, rfl⟩ := Option.map_eq_some_iff.1 hen
    rfl
  · cases h

/-- Every entity of a file names the file and its package. -/
theorem home_of_collect {p : Place} {ts : List (Tree × List Tree)} {e : Entity}
    (h : e ∈ collect p ts) : e.home = (p.packageName, p.filename) := by
  induction ts generalizing p with
  | nil => cases h
  | cons t ts ih =>
    obtain ⟨t, before⟩ := t
    rw [collect] at h
    split at h
    · -- an import changes the names in scope and nothing else
      have hrest := ih h
      exact hrest
    · rcases List.mem_append.1 h with h | h
      · exact home_of_entitiesOf h
      · exact ih h

theorem filename_of_declarations {f : SourceFile} {d : Declarations}
    (h : f.declarations = .ok (some d)) {op : Operation} (hop : op ∈ d.operations) :
    op.filename = d.filename := by
  unfold declarations at h
  split at h
  · cases h
  · split at h
    · cases h
    · cases h
      obtain ⟨e, he, hsome⟩ := List.mem_filterMap.1 hop
      split at hsome
      · cases hsome
        exact congrArg Prod.snd (home_of_collect he)
      · cases hsome

end SourceFile

/-! ## Keys -/

/-- The second file name is the first one and more, and the name in the first file begins with what is
more. -/
def RunsInto (file name file' name' : String) : Prop :=
  ∃ more, more ≠ "" ∧ file' = file ++ more ∧ name = more ++ name'

/-- The texts of two keys agree when their parts do, or when one file name runs into the other's
function. -/
theorem runsInto_of_append {f n g m : String} {more : List Char}
    (hg : g.toList = f.toList ++ more) (hn : n.toList = more ++ m.toList) :
    (f = g ∧ n = m) ∨ RunsInto f n g m := by
  by_cases hmore : more = []
  · subst hmore
    rw [List.append_nil] at hg
    exact .inl ⟨String.toList_inj.1 hg.symm, String.toList_inj.1 hn⟩
  · refine .inr ⟨String.ofList more, ?_, ?_, ?_⟩
    · intro hempty
      exact hmore (by simpa using congrArg String.toList hempty)
    · exact String.toList_inj.1 (by simpa using hg)
    · exact String.toList_inj.1 (by simpa using hn)

theorem concat_eq_concat_iff {f n g m : String} :
    f ++ n = g ++ m ↔ (f = g ∧ n = m) ∨ RunsInto f n g m ∨ RunsInto g m f n := by
  constructor
  · intro h
    have h : f.toList ++ n.toList = g.toList ++ m.toList := by
      rw [← String.toList_append, h, String.toList_append]
    rcases List.append_eq_append_iff.1 h with ⟨more, hg, hn⟩ | ⟨more, hf, hm⟩
    · exact (runsInto_of_append hg hn).imp id .inl
    · exact (runsInto_of_append hf hm).imp (fun h => ⟨h.1.symm, h.2.symm⟩) .inr
  · rintro (⟨rfl, rfl⟩ | ⟨more, -, rfl, rfl⟩ | ⟨more, -, rfl, rfl⟩)
    · rfl
    · rw [String.append_assoc]
    · rw [String.append_assoc]

/-- Whether a file name ends as those of source files do. -/
def EndsInGo (file : String) : Prop := ∃ stem, file = stem ++ ".go"

/-- File names that end in `.go` do not run into names without a dot. -/
theorem not_runsInto_of_endsInGo {f n g m : String} (hf : EndsInGo f) (hg : EndsInGo g)
    (hn : '.' ∉ n.toList) : ¬RunsInto f n g m := by
  obtain ⟨x, rfl⟩ := hf
  obtain ⟨y, rfl⟩ := hg
  rintro ⟨more, hmore, hg, rfl⟩
  have hdot : '.' ∉ more.toList.reverse := by
    intro h
    exact hn (by simp [List.mem_reverse.1 h])
  -- read from the end: what is more is too short to be the ending, and too long to be nothing
  have hends : 'o' :: 'g' :: '.' :: y.toList.reverse =
      more.toList.reverse ++ 'o' :: 'g' :: '.' :: x.toList.reverse := by
    have h := congrArg (fun s => s.toList.reverse) hg
    simpa using h
  rcases hr : more.toList.reverse with _ | ⟨c, _ | ⟨d, _ | ⟨e, rest⟩⟩⟩
  · exact hmore (String.toList_inj.1 (by simpa using hr))
  · rw [hr] at hends
    simp at hends
  · rw [hr] at hends
    simp at hends
  · rw [hr] at hends hdot
    simp only [List.cons_append, List.cons.injEq] at hends
    rw [← hends.2.2.1] at hdot
    simp at hdot

namespace Operation

/-- The type that a method belongs to. -/
def receiverType? (op : Operation) : Option String := op.receiver.map Field.baseType

end Operation

namespace Interpreter

/-- Files as they are read, with different names, in which no package declares a function or a method
of a type twice. -/
structure Declared (files : List Declarations) : Prop where
  read : ∀ d ∈ files, ∃ f : SourceFile, f.declarations = .ok (some d)
  distinct : (files.map (·.filename)).Nodup
  once : ((files.flatMap (·.operations)).map fun op =>
    (packageOf op, op.receiverType?, op.name)).Nodup

/-- The operations are methods of one name in one file, or the name of one file runs into that of the
function in the other. -/
def Merged (f : Declarations) (a : Operation) (g : Declarations) (b : Operation) : Prop :=
  (f = g ∧ a.name = b.name ∧ a.receiverType? ≠ b.receiverType?) ∨
    RunsInto f.filename a.name g.filename b.name ∨ RunsInto g.filename b.name f.filename a.name

section Keys
variable {files : List Declarations} {f g : Declarations} {a b : Operation}

theorem Declared.filename (h : Declared files) (hf : f ∈ files) (ha : a ∈ f.operations) :
    a.filename = f.filename := by
  obtain ⟨source, hsource⟩ := h.read f hf
  exact SourceFile.filename_of_declarations hsource ha

/-- Two operations have one key when they have one name in one file, or one file name runs into the
name of a function. -/
theorem handlerKey_eq_iff (h : Declared files) (hf : f ∈ files) (hg : g ∈ files)
    (ha : a ∈ f.operations) (hb : b ∈ g.operations) : a.handlerKey = b.handlerKey ↔
      (f = g ∧ a.name = b.name) ∨ RunsInto f.filename a.name g.filename b.name ∨
        RunsInto g.filename b.name f.filename a.name := by
  have hfile : f.filename = g.filename ↔ f = g :=
    ⟨List.inj_on_of_nodup_map h.distinct hf hg, congrArg _⟩
  rw [Operation.handlerKey, Operation.handlerKey, h.filename hf ha, h.filename hg hb,
    concat_eq_concat_iff, hfile]

/-- Two operations of a package have one key exactly when they are merged. -/
theorem handlerKey_eq_iff_merged (h : Declared files) (hf : f ∈ files) (hg : g ∈ files)
    (ha : a ∈ f.operations) (hb : b ∈ g.operations) (hab : a ≠ b)
    (hpackage : packageOf a = packageOf b) : a.handlerKey = b.handlerKey ↔ Merged f a g b := by
  rw [handlerKey_eq_iff h hf hg ha hb, Merged]
  refine or_congr_left ⟨?_, ?_⟩
  · rintro ⟨hfg, hname⟩
    refine ⟨hfg, hname, fun hreceiver => hab ?_⟩
    -- a package declares the name once for each type
    refine List.inj_on_of_nodup_map h.once (List.mem_flatMap.2 ⟨f, hf, ha⟩)
      (List.mem_flatMap.2 ⟨g, hg, hb⟩) ?_
    rw [hpackage, hreceiver, hname]
  · rintro ⟨hfg, hname, -⟩
    exact ⟨hfg, hname⟩

/-- Source files of the usual names share keys only by the names of their functions. -/
theorem handlerKey_eq_iff_of_endsInGo (h : Declared files) (hf : f ∈ files) (hg : g ∈ files)
    (ha : a ∈ f.operations) (hb : b ∈ g.operations) (hfgo : EndsInGo f.filename)
    (hggo : EndsInGo g.filename) (hadot : '.' ∉ a.name.toList) (hbdot : '.' ∉ b.name.toList) :
    a.handlerKey = b.handlerKey ↔ f = g ∧ a.name = b.name := by
  rw [handlerKey_eq_iff h hf hg ha hb]
  constructor
  · rintro (hsame | hruns | hruns)
    · exact hsame
    · exact absurd hruns (not_runsInto_of_endsInGo hfgo hggo hadot)
    · exact absurd hruns (not_runsInto_of_endsInGo hggo hfgo hbdot)
  · exact .inl

end Keys

/-! ## Records and calls -/

/-- The operation has an `api` directive for the channel. -/
def RegistersOn (op : Operation) (c : Channel) : Prop :=
  ∃ d ∈ recognised op, d.kind = .api ∧ net? d = some c

theorem RegistersOn.targets {op : Operation} {c : Channel} (h : RegistersOn op c) :
    targets op c = true := by
  obtain ⟨d, hd, hkind, hnet⟩ := h
  refine List.any_eq_true.2 ⟨d, hd, ?_⟩
  simp [destination?, hkind, hnet]

theorem RegistersOn.annotated {i : Interpreter} {ops : List Operation} {op : Operation} {c : Channel}
    (h : RegistersOn op c) (hop : op ∈ ops) (hselected : i.selects op) : op ∈ i.annotated ops := by
  obtain ⟨d, hd, -⟩ := h
  refine List.mem_filter.2 ⟨hop, ?_⟩
  cases hr : recognised op with
  | nil => rw [hr] at hd; cases hd
  | cons x xs => simp [hselected]

theorem keys_channelReading (i : Interpreter) (ops : List Operation) (c : Channel) :
    (i.channelReading ops c).keys =
      ((ops.filter fun op => targets op c).map (·.handlerKey)).eraseDups := by
  rw [ChannelEntries.keys, channelReading, List.map_map]
  exact List.map_id _

/-- The record in a position is that of the operation. -/
def IsRecordOf (entries : ChannelEntries) (n : Nat) (op : Operation) : Prop :=
  entries.keys[n]? = some op.handlerKey

theorem exists_isRecordOf {i : Interpreter} {ops : List Operation} {op : Operation} {c : Channel}
    (hop : op ∈ ops) (h : RegistersOn op c) : ∃ n, IsRecordOf (i.channelReading ops c) n op := by
  refine List.getElem?_of_mem ?_
  rw [keys_channelReading, List.mem_eraseDups]
  exact List.mem_map.2 ⟨op, List.mem_filter.2 ⟨hop, h.targets⟩, rfl⟩

/-- A channel has one record for a key. -/
theorem isRecordOf_eq_iff {i : Interpreter} {ops : List Operation} {a b : Operation} {c : Channel}
    {x y : Nat} (hx : IsRecordOf (i.channelReading ops c) x a)
    (hy : IsRecordOf (i.channelReading ops c) y b) : x = y ↔ a.handlerKey = b.handlerKey := by
  have hnodup : (i.channelReading ops c).keys.Nodup := by
    rw [keys_channelReading]
    exact Table.nodup_eraseDups _
  constructor
  · rintro rfl
    exact Option.some.inj (hx.symm.trans hy)
  · intro hkey
    obtain ⟨hlt, -⟩ := List.getElem?_eq_some_iff.1 hx
    refine (List.getElem?_inj hlt hnodup).1 ?_
    rw [hx, hy, hkey]

/-- The call that the directives of an operation make on their own. -/
def ownCall (i : Interpreter) (c : Channel) (op : Operation) : String :=
  (Schema.ofChannel i.markers c).call (i.recordOf c (arrivals c [op]))

/-- The generated file has a line for each record, and the line in a position is made from the
directives of the operation alone. -/
def HasOwnLine (i : Interpreter) (e : PackageEntries) (c : Channel) (n : Nat) (op : Operation) : Prop :=
  ∃ before calls after : List String,
    Template.fileLines e.name (e.channel c) (Schema.ofChannel i.markers c) = before ++ calls ++ after ∧
      calls.length = (e.channel c).keys.length ∧ calls[n]? = some ("\t" ++ i.ownCall c op)

/-- The lines of a file hold one line for each record, in their order. -/
theorem fileLines_eq_append (package : String) (entries : ChannelEntries) (schema : Schema) :
    ∃ before after, Template.fileLines package entries schema =
      before ++ entries.records.map (fun r => "\t" ++ schema.call r.2) ++ after :=
  ⟨_, _, rfl⟩

/-- Operations without a directive for the channel bring nothing to it. -/
theorem arrivals_filter_targets (c : Channel) (ops : List Operation) :
    arrivals c (ops.filter fun op => targets op c) = arrivals c ops := by
  induction ops with
  | nil => rfl
  | cons op ops ih =>
    rw [List.filter_cons]
    split
    · exact congrArg (_ ++ ·) ih
    · rename_i h
      have hnone : (recognised op).filter (fun d => destination? op d == some c) = [] := by
        rw [List.filter_eq_nil_iff]
        intro d hd hc
        exact h (List.any_eq_true.2 ⟨d, hd, hc⟩)
      rw [ih, arrivals, arrivals, List.flatMap_cons, hnone]
      rfl

theorem arrivals_of_alone {ops : List Operation} (hops : ops.Nodup) {c : Channel} {op : Operation}
    (hop : op ∈ ops) (htargets : targets op c = true)
    (halone : ∀ o ∈ ops, targets o c = true → o.handlerKey = op.handlerKey → o = op) :
    arrivals c (ops.filter fun o => o.handlerKey = op.handlerKey) = arrivals c [op] := by
  have hself : (ops.filter fun o => o.handlerKey = op.handlerKey).filter (fun o => targets o c) =
      ops.filter (· == op) := by
    rw [List.filter_filter]
    refine List.filter_congr fun o ho => ?_
    rw [Bool.eq_iff_iff, Bool.and_eq_true, decide_eq_true_eq, beq_iff_eq]
    constructor
    · intro h
      exact halone o ho h.1 h.2
    · rintro rfl
      exact ⟨htargets, rfl⟩
  rw [← arrivals_filter_targets, hself, List.filter_beq, List.count_eq_one_of_mem hops hop]
  rfl

theorem hasOwnLine_of_alone {i : Interpreter} {ops : List Operation} (hops : ops.Nodup)
    {e : PackageEntries} {c : Channel} (he : e.channel c = i.channelReading ops c) {n : Nat}
    {op : Operation} (hop : op ∈ ops) (htargets : targets op c = true)
    (hn : IsRecordOf (e.channel c) n op)
    (halone : ∀ o ∈ ops, targets o c = true → o.handlerKey = op.handlerKey → o = op) :
    i.HasOwnLine e c n op := by
  obtain ⟨before, after, hlines⟩ :=
    fileLines_eq_append e.name (e.channel c) (Schema.ofChannel i.markers c)
  refine ⟨before, _, after, hlines, ?_, ?_⟩
  · rw [ChannelEntries.keys, List.length_map, List.length_map]
  · rw [he] at hn ⊢
    rw [IsRecordOf, keys_channelReading] at hn
    rw [channelReading, List.getElem?_map, List.getElem?_map, hn, Option.map_some, Option.map_some,
      arrivals_of_alone hops hop htargets halone, ownCall]

/-- The operation shares its record with no other one of its package. -/
def Unmerged (files : List Declarations) (c : Channel) (f : Declarations) (a : Operation) : Prop :=
  ∀ g ∈ files, ∀ b ∈ g.operations, a ≠ b → packageOf a = packageOf b → targets b c = true →
    ¬Merged f a g b

/-- Two operations of a package with an `api` directive for a channel have a record each, and it is the
same record exactly when they are merged. Where file names end in `.go` and functions have no dot in
their names, that is when they have one name in one file. An operation that is merged with no other
one of its package has a line of its own. -/
theorem record_shared_iff {i : Interpreter} {files : List Declarations} (hfiles : Declared files)
    {r : Registry} (h : (i.interpret (files.flatMap (·.operations))).2 = .ok r)
    {f g : Declarations} (hf : f ∈ files) (hg : g ∈ files) {a b : Operation} (ha : a ∈ f.operations)
    (hb : b ∈ g.operations) (hab : a ≠ b) (hpackage : packageOf a = packageOf b)
    (hselected : i.selects a) {c : Channel} (hac : RegistersOn a c) (hbc : RegistersOn b c) :
    ∃ e x y, r.get? a.packageName a.directory = some e ∧ IsRecordOf (e.channel c) x a ∧
      IsRecordOf (e.channel c) y b ∧ (x = y ↔ Merged f a g b) ∧
      (EndsInGo f.filename → EndsInGo g.filename → '.' ∉ a.name.toList → '.' ∉ b.name.toList →
        (x = y ↔ f = g ∧ a.name = b.name)) ∧
      (Unmerged files c f a → i.HasOwnLine e c x a) := by
  have hselected' : i.selects b := by
    have hname : a.packageName = b.packageName := congrArg Prod.fst hpackage
    rwa [selects, ← hname, ← selects]
  have haops := hac.annotated (List.mem_flatMap.2 ⟨f, hf, ha⟩) hselected
  have hbops := hbc.annotated (List.mem_flatMap.2 ⟨g, hg, hb⟩) hselected'
  have hown : ∀ {o}, o ∈ i.annotated (files.flatMap (·.operations)) → packageOf o = packageOf a →
      o ∈ (i.annotated (files.flatMap (·.operations))).filter fun o => packageOf o = packageOf a := by
    intro o ho hoa
    exact List.mem_filter.2 ⟨ho, by simpa using hoa⟩
  have he := channel_packageReading i (i.annotated (files.flatMap (·.operations))) (packageOf a) c
  obtain ⟨x, hx⟩ := exists_isRecordOf (i := i) (hown haops rfl) hac
  obtain ⟨y, hy⟩ := exists_isRecordOf (i := i) (hown hbops hpackage.symm) hbc
  have hxy := isRecordOf_eq_iff hx hy
  refine ⟨_, x, y, get?_of_interpret h haops, he ▸ hx, he ▸ hy, ?_, ?_, ?_⟩
  · exact hxy.trans (handlerKey_eq_iff_merged hfiles hf hg ha hb hab hpackage)
  · intro hfgo hggo hadot hbdot
    exact hxy.trans (handlerKey_eq_iff_of_endsInGo hfiles hf hg ha hb hfgo hggo hadot hbdot)
  · intro hunmerged
    refine hasOwnLine_of_alone ?_ he (hown haops rfl) hac.targets (he ▸ hx) fun o ho hoc hkey => ?_
    · exact (hfiles.once.of_map.filter _).filter _
    · obtain ⟨hoann, hoa⟩ := List.mem_filter.1 ho
      obtain ⟨file, hfile, hofile⟩ := List.mem_flatMap.1 (List.mem_filter.1 hoann).1
      have hpackage' : packageOf a = packageOf o := by simpa [eq_comm] using hoa
      by_contra hne
      refine hunmerged file hfile o hofile (Ne.symm hne) hpackage' hoc ?_
      exact (handlerKey_eq_iff_merged hfiles hf hfile ha hofile (Ne.symm hne) hpackage').1 hkey.symm

/-! ## Two methods of one name -/

/-- A node on one row of a file. -/
def nodeOn (row offset length : Nat) (role : Option Role) (kind : NodeKind) (children : List Tree) :
    Tree :=
  .node role kind ⟨offset, row, 0⟩ ⟨offset + length, row, 0⟩ children

/-- The method `Save` of a type with a name of one letter. -/
def saveNode (row offset : Nat) : Tree :=
  nodeOn row offset 18 none .methodDeclaration
    [nodeOn row (offset + 5) 3 (some .receiver) .parameterList
      [nodeOn row (offset + 6) 1 none .parameter [nodeOn row (offset + 6) 1 (some .type) .typeName []]],
     nodeOn row (offset + 9) 4 (some .name) .word []]

def storesFile : SourceFile :=
  { filename := "shop/a.go"
    source := ("package shop\n" ++
      "// @Handler(type=\"api\", net=\"http\", path=\"/a\")\nfunc (A) Save() \x7b\x7d\n" ++
      "// @Handler(type=\"api\", net=\"http\", path=\"/b\")\nfunc (B) Save() \x7b\x7d\n").toList.toArray
    tree := nodeOn 0 0 145 none .sourceFile
      [nodeOn 0 0 12 none .packageClause [nodeOn 0 8 4 none .packageName []],
       nodeOn 1 13 46 none .comment [], saveNode 2 60, nodeOn 3 79 46 none .comment [], saveNode 4 126] }

def saveOf (type path : String) (line : Nat) : Operation :=
  { packageName := "shop", filename := "shop/a.go", name := "Save", line
    docs := ["// @Handler(type=\"api\", net=\"http\", path=\"" ++ path ++ "\")"]
    receiver := some { name := "", typeName := type } }

/-- What the file declares. -/
def stores : Declarations :=
  { packageName := "shop", filename := "shop/a.go"
    operations := [saveOf "A" "/a" 3, saveOf "B" "/b" 5] }

theorem stores_declared : Declared [stores] where
  read d hd := by
    have h : storesFile.declarations.toOption = some (some stores) := by decide +kernel
    refine ⟨storesFile, ?_⟩
    rw [List.mem_singleton.1 hd]
    cases hs : storesFile.declarations with
    | error e => rw [hs] at h; cases h
    | ok read =>
      rw [hs] at h
      exact congrArg Except.ok (Option.some.inj h)
  distinct := by decide +kernel
  once := by decide +kernel

/-- The methods of two types are registered by one call. -/
theorem methods_share_record : Declared [stores] ∧ saveOf "A" "/a" 3 ≠ saveOf "B" "/b" 5 ∧
    ∃ r e n, (({} : Interpreter).interpret stores.operations).2 = .ok r ∧
      r.get? "shop" "shop" = some e ∧ IsRecordOf (e.channel .http) n (saveOf "A" "/a" 3) ∧
      IsRecordOf (e.channel .http) n (saveOf "B" "/b" 5) := by
  have hread : (({} : Interpreter).interpret stores.operations).2.toOption.isSome = true := by
    decide +kernel
  have hregisters : ∀ op ∈ stores.operations, RegistersOn op .http := by
    have hdecided : ∀ op ∈ stores.operations,
        (recognised op).any (fun d => d.kind = .api ∧ net? d = some .http) = true := by decide +kernel
    intro op hop
    obtain ⟨d, hd, hapi⟩ := List.any_eq_true.1 (hdecided op hop)
    exact ⟨d, hd, by simpa using hapi⟩
  have hmerged : Merged stores (saveOf "A" "/a" 3) stores (saveOf "B" "/b" 5) :=
    .inl ⟨rfl, rfl, by decide +kernel⟩
  cases h : (({} : Interpreter).interpret stores.operations).2 with
  | error e =>
    rw [h] at hread
    cases hread
  | ok r =>
    obtain ⟨e, x, y, he, hx, hy, hxy, -, -⟩ :=
      record_shared_iff (i := {}) (f := stores) (g := stores) (a := saveOf "A" "/a" 3)
        (b := saveOf "B" "/b" 5) stores_declared (by simpa using h) (by simp) (by simp)
        (by simp [stores]) (by simp [stores]) (by decide +kernel) (by decide +kernel)
        (by decide +kernel) (hregisters _ (by simp [stores])) (hregisters _ (by simp [stores]))
    have hsame : x = y := hxy.2 hmerged
    subst hsame
    exact ⟨stores_declared, by decide +kernel, r, e, x, rfl, he, hx, hy⟩

end Interpreter
end Registrar
