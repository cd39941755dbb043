import Registrar.Proofs.CallText
import Registrar.Proofs.Columns
/-!
# The arguments of a call

The text between the parentheses of a call comes apart into the columns exactly when each column is one
argument. Most of what a record holds is: raw values are, because commas in them are quoted, and composed
values are, because they stand in braces. The number of a message and the function of a validator are
written as they are, and every comma in them moves the columns behind by one place
(`call_positional_iff`).
-/
namespace Registrar
open CallText Text

/-! ## Calls -/

/-- The text between the parentheses of a call comes apart into the columns. -/
def Schema.Positional (s : Schema) (r : Record) : Prop :=
  pieces (joinWith ", " (s.arguments r)).toList = spaced ((s.arguments r).map String.toList)

theorem toList_joinWith (parts : List String) :
    (joinWith ", " parts).toList = [',', ' '].intercalate (parts.map String.toList) := by
  rw [joinWith, String.toList_intercalate]
  rfl

theorem Schema.arguments_ne_nil (m : Markers) (c : Channel) (r : Record) :
    (ofChannel m c).arguments r ≠ [] := by
  cases c <;> exact List.cons_ne_nil _ _

theorem Schema.positional_iff (m : Markers) (c : Channel) (r : Record) :
    (ofChannel m c).Positional r ↔
      (∀ a ∈ ((ofChannel m c).arguments r).dropLast, Whole a.toList) ∧
      ∀ a ∈ ((ofChannel m c).arguments r).getLast?, commas a.toList = 0 := by
  rw [Positional, toList_joinWith]
  cases hargs : (ofChannel m c).arguments r with
  | nil => exact absurd hargs (arguments_ne_nil m c r)
  | cons a as =>
    rw [List.map_cons, pieces_join_iff, ← List.map_cons, ← List.map_dropLast, List.getLast?_map]
    simp only [List.forall_mem_map, Option.mem_def, Option.map_eq_some_iff, forall_exists_index, and_imp,
      forall_apply_eq_imp_iff₂]

theorem Schema.positional_iff_of_closed (m : Markers) (c : Channel) (r : Record)
    (h : ∀ a ∈ (ofChannel m c).arguments r, Closed a.toList) :
    (ofChannel m c).Positional r ↔ ∀ a ∈ (ofChannel m c).arguments r, commas a.toList = 0 := by
  rw [positional_iff]
  obtain ⟨init, last, hargs⟩ := (List.eq_nil_or_concat' _).resolve_left (arguments_ne_nil m c r)
  rw [hargs] at h ⊢
  simp only [List.dropLast_concat, List.getLast?_concat, Option.mem_some_iff, forall_eq',
    List.forall_mem_append, List.forall_mem_singleton]
  refine and_congr_left fun _ => forall₂_congr fun a ha => ?_
  exact ⟨fun hwhole => hwhole.undivided, fun hcommas => ⟨h a (List.mem_append_left _ ha), hcommas⟩⟩

/-- The fields whose values are written as they are, without the quotes around them. -/
def shifting : List String := ["msgId", "valid.limit"]

/-- The number of commas in the value of a field. -/
def Record.commasIn (r : Record) (field : String) : Nat := ((r.get? field).getD "").toList.count ','

/-! ## Columns -/

theorem name_qualified {m : Markers} (hm : Name m.shortName.toList) {name : String}
    (hname : Name name.toList) : Name (m.qualified name).toList := by
  rw [Markers.qualified, String.toList_append, String.toList_append]
  exact (hm.append (by decide)).append hname

theorem Column.render_cases (col : Column) (r : Record) :
    ((r.get? col.field).getD "" = "" ∧ col.render r = col.default) ∨
    ∃ value, r.get? col.field = some value ∧ value ≠ "" ∧ col.render r = col.written value := by
  by_cases habsent : (r.get? col.field).getD "" = ""
  · exact .inl ⟨habsent, render_of_absent habsent⟩
  · cases hget : r.get? col.field with
    | none =>
      rw [hget] at habsent
      exact absurd rfl habsent
    | some value =>
      rw [hget, Option.getD_some] at habsent
      exact .inr ⟨value, rfl, habsent, render_of_value hget habsent⟩

section Column
variable {m : Markers} {c : Channel} {col : Column}

theorem style_eq (hcol : col ∈ (Schema.ofChannel m c).columns) :
    col.style = if col.field = "api_method" then .quoted else .verbatim := by
  revert col
  cases c <;> simp [Schema.ofChannel, Schema.http, Schema.message]

theorem whole_default (hm : Name m.shortName.toList) (hcol : col ∈ (Schema.ofChannel m c).columns) :
    Whole col.default.toList := by
  have hnet : Whole m.httpNet.toList := (name_qualified hm (by decide)).whole
  have hnone : Whole m.validationNone.toList := (name_qualified hm (by decide)).whole
  revert col
  cases c <;> simp only [Schema.ofChannel, Schema.http, Schema.message, List.forall_mem_cons, hnet, hnone,
    true_and] <;> decide

theorem default_of_shifting (hcol : col ∈ (Schema.ofChannel m c).columns) (hf : col.field ∈ shifting) :
    col.default = "nil" ∨ col.default = "-1" := by
  revert col
  cases c <;> simp [Schema.ofChannel, Schema.http, Schema.message, shifting]

end Column

/-! ## Values -/

namespace Interpreter

/-- No value of the directive opens or closes anything: a raw value outside its quotations, and a value
that is taken out of its quotes nowhere. -/
structure PlainDirective (d : Directive) : Prop where
  raw : ∀ f ∈ ["path", "bodyLimit", "bodyType"], ∀ v, d.get? f = some v →
    ∀ m ∈ marks, Quoting.Free m v.toList
  unquoted : ∀ f ∈ ["msgId", "dataPtrStruct", "headsize"], ∀ v, d.get? f = some v →
    Plain (Directive.unquote v).toList
  function : Plain (validatorFunction d).toList

structure PlainOperation (op : Operation) : Prop where
  name : Name op.name.toList
  directives : ∀ d ∈ recognised op, PlainDirective d

theorem sound_of_mem_recognised {op : Operation} {d : Directive} (h : d ∈ recognised op)
    {a : String × String} (ha : a ∈ d.args) : Directive.Sound (a.1.toList, a.2.toList) := by
  obtain ⟨line, -, hline⟩ := List.mem_filterMap.1 h
  obtain ⟨args, hread, hargs⟩ := read_of_recognised? hline
  obtain ⟨hwf, -⟩ := Directive.written_of_readPairs (Directive.read_eq_ok_iff.1 hread)
  rw [hargs] at ha
  exact hwf.sound _ (List.mem_map.2 ⟨a, (List.mem_filter.1 ha).1, rfl⟩)

theorem plain_of_splitBar? {value : String} {s : String × String} (h : splitBar? value = some s)
    (hvalue : Plain value.toList) : Plain (trimmed s.2).toList := by
  obtain ⟨⟨a, b⟩, hsplit, rfl⟩ := Option.map_eq_some_iff.1 h
  obtain ⟨x, y, -, -, htrim⟩ := trim_spec b
  rw [splitOnce?_eq_some hsplit, htrim] at hvalue
  intro c hc
  refine hvalue c ?_
  simp only [trimmed, onChars, String.toList_ofList] at hc
  simp [hc]

section Values
variable {i : Interpreter} {c : Channel} {d : Directive} {field value : String}

theorem whole_structPointer {s : String} (hs : Plain s.toList) :
    Whole ("func() any \x7b return &" ++ s ++ "\x7b\x7d \x7d").toList := by
  rw [String.toList_append, String.toList_append]
  exact whole_between (by decide) hs (by decide)

theorem whole_validHeader {f h : String} (hf : Plain f.toList) (hh : Plain h.toList) :
    Whole ("&multipart.MyValidHeader\x7bValidFormFileFormat: " ++ f ++ ", ValidHeadSize: " ++ h ++
      "\x7d").toList := by
  have hsplit : ("&multipart.MyValidHeader\x7bValidFormFileFormat: " ++ f ++ ", ValidHeadSize: " ++ h ++
      "\x7d").toList = "&multipart.MyValidHeader\x7bValidFormFileFormat: ".toList ++
        (f.toList ++ ", ValidHeadSize: ".toList ++ h.toList) ++ "\x7d".toList := by simp
  rw [hsplit]
  refine whole_between (by decide) ?_ (by decide)
  exact plain_append.2 ⟨plain_append.2 ⟨hf, by decide⟩, hh⟩

/-- What stands in a column of the field: plain text in the two fields without quotes, and one argument
in each of the others. -/
def Fitting (field value : String) : Prop :=
  if field ∈ shifting then Plain value.toList else Whole value.toList

theorem Fitting.closed {field value : String} (h : Fitting field value) : Closed value.toList := by
  rw [Fitting] at h
  split at h
  · exact h.closed
  · exact h.closed

theorem argumentValue?_fitting {raw : String} (hd : PlainDirective d)
    (hsound : ∀ a ∈ d.args, Directive.Sound (a.1.toList, a.2.toList))
    (hm : Name i.markers.shortName.toList) (hraw : d.get? field = some raw)
    (h : i.argumentValue? c field raw = some value) : Fitting field value := by
  have hmem : (field, raw) ∈ d.args := by
    obtain ⟨l₁, l₂, hargs, -⟩ := List.lookup_eq_some_iff.1 hraw
    rw [hargs]
    exact List.mem_append_right _ List.mem_cons_self
  have hquoted : field ∈ ["path", "bodyLimit", "bodyType"] → Whole raw.toList := fun hf =>
    whole_of_quoted (hsound _ hmem).value_balanced (hsound _ hmem).value_comma (hd.raw field hf raw hraw)
  have hunquoted : field ∈ ["msgId", "dataPtrStruct", "headsize"] →
      Plain (Directive.unquote raw).toList := fun hf => hd.unquoted field hf raw hraw
  have htrue : Whole "true".toList := by decide
  unfold argumentValue? at h
  -- field by field, in the order of the definition: raw values, marks, composed values, the number
  split at h
  · split at h
    · cases h
      exact hquoted (by decide)
    · cases h
  · split at h
    · cases h
      exact hquoted (by decide)
    · cases h
  · split at h
    · cases h
      exact hquoted (by decide)
    · cases h
  · split at h
    · cases h
      exact htrue
    · cases h
  · split at h
    · cases h
      exact htrue
    · split at h
      · cases h
        exact (name_qualified hm (by decide)).whole
      · cases h
  · obtain ⟨s, hs, rfl⟩ := Option.map_eq_some_iff.1 h
    exact whole_structPointer (plain_of_splitBar? hs (hunquoted (by decide)))
  · split at h
    · cases h
    · have hplain := hunquoted (by decide)
      split at h
      · rename_i hs
        cases h
        exact plain_of_splitBar? hs hplain
      · split at h
        · cases h
        · cases h
          exact hplain
  · cases h

theorem plain_headSize (hd : PlainDirective d) : Plain (headSize d).toList := by
  rw [headSize]
  cases hget : d.get? "headsize" with
  | none => decide
  | some raw =>
    dsimp only [Option.map_some]
    split
    · decide
    · exact hd.unquoted _ (by decide) raw hget

theorem value?_fitting (hd : PlainDirective d)
    (hsound : ∀ a ∈ d.args, Directive.Sound (a.1.toList, a.2.toList))
    (hm : Name i.markers.shortName.toList) (h : i.value? c d field = some value) :
    Fitting field value := by
  unfold value? at h
  cases hk : d.kind with
  | api =>
    simp only [hk] at h
    split at h
    · rename_i hnet
      split at h
      · cases h
        rw [hnet]
        exact (name_qualified hm (by decide)).whole
      · cases h
    · obtain ⟨raw, hraw, hvalue⟩ := Option.bind_eq_some_iff.1 h
      exact argumentValue?_fitting hd hsound hm hraw hvalue
  | validLimit =>
    simp only [hk] at h
    split at h
    · rename_i hf
      cases h
      rw [hf.1]
      exact hd.function
    · cases h
  | validFile =>
    simp only [hk] at h
    split at h
    · rename_i hf
      cases h
      rw [hf.1]
      exact whole_validHeader hd.function (plain_headSize hd)
    · cases h

end Values

/-! ## Records -/

/-- The directives are those of operations without anything that opens or closes in them. -/
def FromPlain (ds : List (Operation × Directive)) : Prop :=
  ∀ x ∈ ds, PlainOperation x.1 ∧ x.2 ∈ recognised x.1

theorem commasIn_of_not_column {m : Markers} {c : Channel} {r : Record} {field : String}
    (hr : ∀ x ∈ r.fields, x.1 ∈ (Schema.ofChannel m c).fieldNames)
    (hf : field ∉ (Schema.ofChannel m c).fieldNames) : r.commasIn field = 0 := by
  rw [Record.commasIn]
  cases hget : r.get? field with
  | none => rfl
  | some value => exact absurd (hr _ (Record.mem_of_get? hget)) hf

section Record
variable {i : Interpreter} {c : Channel} {ds : List (Operation × Directive)} {col : Column}
  (hds : FromPlain ds) (hm : Name i.markers.shortName.toList)
include hds hm

theorem fieldValue?_fitting {field value : String} (h : i.fieldValue? c ds field = some value) :
    if field = "api" ∨ field = "api_method" then Name value.toList else Fitting field value := by
  split
  · rename_i hf
    rw [fieldValue?, if_pos hf] at h
    obtain ⟨x, hx, rfl⟩ := Option.map_eq_some_iff.1 h
    exact (hds x (List.mem_of_find?_eq_some hx)).1.name
  · rename_i hf
    rcases fieldValue?_eq_some h with hname | ⟨x, hx, hvalue⟩
    · exact absurd hname hf
    · obtain ⟨hop, hmem⟩ := hds x hx
      exact value?_fitting (hop.directives _ hmem) (fun a ha => sound_of_mem_recognised hmem ha) hm hvalue

/-- What a call shows in a column fits it. -/
theorem render_fitting (hcol : col ∈ (Schema.ofChannel i.markers c).columns) :
    Fitting col.field (col.render (i.recordOf c ds)) := by
  rcases col.render_cases (i.recordOf c ds) with ⟨-, hrender⟩ | ⟨value, hvalue, -, hrender⟩
  · rw [hrender, Fitting]
    split
    · rename_i hf
      rcases default_of_shifting hcol hf with hdefault | hdefault <;> rw [hdefault] <;> decide
    · exact whole_default hm hcol
  · have hfits := fieldValue?_fitting hds hm (get?_recordOf i c ds col.field ▸ hvalue)
    rw [hrender, Column.written, style_eq hcol]
    by_cases hmethod : col.field = "api_method"
    · rw [if_pos (.inr hmethod)] at hfits
      rw [if_pos hmethod, hmethod]
      have hquoted := hfits.whole_quoted
      simpa [Fitting, shifting] using hquoted
    · rw [if_neg hmethod]
      by_cases hapi : col.field = "api"
      · rw [if_pos (.inl hapi)] at hfits
        rw [hapi]
        exact hfits.whole
      · rwa [if_neg (by simp [hapi, hmethod])] at hfits

/-- The commas that a column brings into a call are those in the value of one of the two fields. -/
theorem commas_render (hcol : col ∈ (Schema.ofChannel i.markers c).columns) :
    commas (col.render (i.recordOf c ds)).toList =
      if col.field ∈ shifting then (i.recordOf c ds).commasIn col.field else 0 := by
  have hfits := render_fitting hds hm hcol
  rw [Fitting] at hfits
  split
  · rename_i hf
    rw [if_pos hf] at hfits
    rw [hfits.commas, Record.commasIn]
    rcases col.render_cases (i.recordOf c ds) with ⟨habsent, hrender⟩ | ⟨value, hvalue, -, hrender⟩
    · rw [hrender, habsent]
      rcases default_of_shifting hcol hf with hdefault | hdefault <;> rw [hdefault] <;> decide
    · have hmethod : col.field ≠ "api_method" := fun h => absurd (h ▸ hf) (by decide)
      rw [hrender, hvalue, Column.written, style_eq hcol, if_neg hmethod, Option.getD_some]
  · rename_i hf
    rw [if_neg hf] at hfits
    exact hfits.undivided

/-- The commas of all columns are those in the values of the two fields. -/
theorem sum_commas (harrive : Arriving c ds) :
    (((Schema.ofChannel i.markers c).arguments (i.recordOf c ds)).map fun a => commas a.toList).sum =
      (shifting.map (i.recordOf c ds).commasIn).sum := by
  have hcolumns : ∀ x ∈ (i.recordOf c ds).fields, x.1 ∈ (Schema.ofChannel i.markers c).fieldNames :=
    fun x hx => recordOf_columns harrive i.markers hx
  have hmap : ((Schema.ofChannel i.markers c).columns.map fun col =>
      commas (col.render (i.recordOf c ds)).toList) = (Schema.ofChannel i.markers c).columns.map fun col =>
        if col.field ∈ shifting then (i.recordOf c ds).commasIn col.field else 0 :=
    List.map_congr_left fun col hcol => commas_render hds hm hcol
  rw [Schema.arguments, List.map_map, Function.comp_def, hmap]
  -- each channel has a column for one of the two fields, and no value for the other
  cases c with
  | http =>
    have hother := commasIn_of_not_column hcolumns (show "msgId" ∉ _ by rw [Schema.fieldNames_http]; decide)
    simp [Schema.ofChannel, Schema.http, shifting, hother]
  | tcp =>
    have hmessage := Schema.fieldNames_message i.markers (show Channel.tcp ≠ .http by decide)
    have hother := commasIn_of_not_column hcolumns (show "valid.limit" ∉ _ by rw [hmessage]; decide)
    simp [Schema.ofChannel, Schema.message, shifting, hother]
  | udp =>
    have hmessage := Schema.fieldNames_message i.markers (show Channel.udp ≠ .http by decide)
    have hother := commasIn_of_not_column hcolumns (show "valid.limit" ∉ _ by rw [hmessage]; decide)
    simp [Schema.ofChannel, Schema.message, shifting, hother]

end Record

theorem mem_records_of_interpret {i : Interpreter} {ops : List Operation} {r : Registry}
    (h : (i.interpret ops).2 = .ok r) {e : PackageEntries} (he : e ∈ r.packages) {c : Channel}
    {key : String} {record : Record} (hrecord : (key, record) ∈ (e.channel c).records) :
    ∃ ds, Arriving c ds ∧ record = i.recordOf c ds ∧
      ∀ x ∈ ds, x.1 ∈ ops ∧ i.selects x.1 ∧ x.2 ∈ recognised x.1 := by
  rw [(interpret_eq_ok_iff.1 h).2] at he
  obtain ⟨id, -, rfl⟩ := List.mem_map.1 he
  rw [channel_packageReading] at hrecord
  obtain ⟨k, -, hk⟩ := List.mem_map.1 hrecord
  cases hk
  refine ⟨_, arriving_arrivals c _, rfl, fun x hx => ?_⟩
  obtain ⟨op, hop, hx⟩ := List.mem_flatMap.1 hx
  obtain ⟨d, hd, rfl⟩ := List.mem_map.1 hx
  have hannotated : op ∈ i.annotated ops := (List.mem_filter.1 (List.mem_filter.1 hop).1).1
  obtain ⟨hmem, hsel⟩ := List.mem_filter.1 hannotated
  exact ⟨hmem, (Bool.and_eq_true _ _ ▸ hsel).1, (List.mem_filter.1 hd).1⟩

/-- The call of a record comes apart into its columns exactly when every column is one argument, and the
last one need only have no comma of its own. Where nothing opens or closes in names and values, this is
so exactly when the number of a message and the function of a validator have no comma; each comma there
adds a piece. -/
theorem call_positional_iff {i : Interpreter} {ops : List Operation} {r : Registry}
    (h : (i.interpret ops).2 = .ok r) {e : PackageEntries} (he : e ∈ r.packages) (c : Channel)
    {key : String} {record : Record} (hrecord : (key, record) ∈ (e.channel c).records) :
    let s := Schema.ofChannel i.markers c
    s.call record = s.constructor ++ "(" ++ joinWith ", " (s.arguments record) ++ ")" ∧
    (s.Positional record ↔ (∀ a ∈ (s.arguments record).dropLast, Whole a.toList) ∧
      ∀ a ∈ (s.arguments record).getLast?, commas a.toList = 0) ∧
    (Name i.markers.shortName.toList → (∀ op ∈ ops, i.selects op → PlainOperation op) →
      (s.Positional record ↔ ∀ f ∈ shifting, record.commasIn f = 0) ∧
      (pieces (joinWith ", " (s.arguments record)).toList).length =
        s.columns.length + (shifting.map record.commasIn).sum) := by
  intro s
  refine ⟨rfl, Schema.positional_iff i.markers c record, fun hm hops => ?_⟩
  obtain ⟨ds, harrive, rfl, horigin⟩ := mem_records_of_interpret h he hrecord
  have hds : FromPlain ds := by
    intro x hx
    obtain ⟨hmem, hsel, hd⟩ := horigin x hx
    exact ⟨hops x.1 hmem hsel, hd⟩
  have hclosed : ∀ a ∈ s.arguments (i.recordOf c ds), Closed a.toList := by
    intro a ha
    obtain ⟨col, hcol, rfl⟩ := List.mem_map.1 ha
    exact (render_fitting hds hm hcol).closed
  have hsum := sum_commas hds hm harrive
  constructor
  · have hzero : ∀ (l : List String) (f : String → Nat), (∀ a ∈ l, f a = 0) ↔ (l.map f).sum = 0 := by
      intro l f
      rw [List.sum_eq_zero_iff_forall_eq_nat, List.forall_mem_map]
    rw [Schema.positional_iff_of_closed i.markers c _ hclosed, hzero _ fun a => commas a.toList, hsum,
      ← hzero]
  · have hne : (s.arguments (i.recordOf c ds)).map String.toList ≠ [] := by
      simpa using Schema.arguments_ne_nil i.markers c (i.recordOf c ds)
    rw [toList_joinWith, length_pieces_join hne (List.forall_mem_map.2 hclosed), List.length_map, List.map_map,
      Function.comp_def, hsum, Schema.arguments, List.length_map]

/-- A message with two numbers. -/
def twoNumbers : Operation :=
  { packageName := "shop", filename := "shop/a.go", name := "Bar", line := 4
    docs := ["// @Handler(type=\"api\", net=\"tcp\", msgId=\"1, 2\")"] }

def twoNumbersRecord : Record := ⟨[("api", "Bar"), ("api_method", "Bar"), ("msgId", "1, 2")]⟩

def twoNumbersDirective : Directive :=
  { kind := .api, args := [("net", "\"tcp\""), ("msgId", "\"1, 2\"")]
    text := "@Handler(type=\"api\", net=\"tcp\", msgId=\"1, 2\")" }

theorem plain_twoNumbersDirective : PlainDirective twoNumbersDirective where
  raw := by
    have hnone : ∀ f ∈ ["path", "bodyLimit", "bodyType"], twoNumbersDirective.get? f = none := by decide
    intro f hf v hv
    rw [hnone f hf] at hv
    cases hv
  unquoted := by
    have hplain : ∀ f ∈ ["msgId", "dataPtrStruct", "headsize"], ∀ v ∈ twoNumbersDirective.get? f,
        Plain (Directive.unquote v).toList := by decide +kernel
    exact hplain
  function := by decide +kernel

theorem plain_twoNumbers : PlainOperation twoNumbers where
  name := by decide
  directives := by
    have hone : recognised twoNumbers = [twoNumbersDirective] := by decide +kernel
    rw [hone, List.forall_mem_singleton]
    exact plain_twoNumbersDirective

/-- The constructor has five parameters, and the call six arguments. -/
theorem call_shifted :
    let i : Interpreter := {}
    let s := Schema.ofChannel i.markers .tcp
    ∃ r e, (i.interpret [twoNumbers]).2 = .ok r ∧ e ∈ r.packages ∧
      ("shop/a.goBar", twoNumbersRecord) ∈ (e.channel .tcp).records ∧
      s.call twoNumbersRecord = "net_fw.NewTcpNetHandler(1, 2, Bar, \"Bar\", nil, false)" ∧
      ¬s.Positional twoNumbersRecord ∧ s.columns.length = 5 ∧
      (pieces (joinWith ", " (s.arguments twoNumbersRecord)).toList).length = 6 := by
  intro i s
  have hok : (i.interpret [twoNumbers]).2.toOption.map
      (fun r => r.packages.map fun e => e.tcp.records) = some [[("shop/a.goBar", twoNumbersRecord)]] := by
    decide +kernel
  cases h : (i.interpret [twoNumbers]).2 with
  | error e =>
    rw [h] at hok
    cases hok
  | ok r =>
    rw [h] at hok
    obtain ⟨e, he, hrecords⟩ := List.map_eq_singleton_iff.1 (Option.some.inj hok)
    have hmem : e ∈ r.packages := by simp [he]
    have hrecord : ("shop/a.goBar", twoNumbersRecord) ∈ (e.channel .tcp).records := by
      simp [PackageEntries.channel, hrecords]
    obtain ⟨-, -, hplain⟩ := call_positional_iff h hmem .tcp hrecord
    obtain ⟨hiff, hlength⟩ := hplain (by decide +kernel) fun op hop _ => by
      rw [List.mem_singleton.1 hop]
      exact plain_twoNumbers
    refine ⟨r, e, rfl, hmem, hrecord, by decide +kernel, ?_, rfl, hlength⟩
    rw [hiff]
    decide +kernel

end Interpreter
end Registrar
