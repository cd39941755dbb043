import Registrar.Output.Schema
import Registrar.Proofs.Success
/-!
# Records fit their calls

What a directive writes on a channel is a column of the channel's schema (`value?_mem_columns`), so
that a record holds nothing that its call leaves out. Records of the message channels always name the
function to register; an http record that names it is marked as http (`interpret_fits`). In a call,
a value stands in the column of its field and every other column shows its default (`call_shows`).
-/
namespace Registrar

/-! ## Calls -/

theorem Record.get?_of_mem {r : Record} (h : r.Ordered) {x : String × String} (hx : x ∈ r.fields) :
    r.get? x.1 = some x.2 := by
  obtain ⟨fields⟩ := r
  simp only [Ordered, get?] at h hx ⊢
  induction fields with
  | nil => cases hx
  | cons e es ih =>
    rw [Table.lookup_cons_eq_ite]
    rcases List.mem_cons.1 hx with rfl | hx
    · rw [if_pos rfl]
    · have hlt : e.1 < x.1 := (List.pairwise_cons.1 h).1 x hx
      have hne : x.1 ≠ e.1 := fun he => String.lt_irrefl _ (he ▸ hlt)
      rw [if_neg hne]
      exact ih (List.pairwise_cons.1 h).2 hx

theorem Record.mem_of_get? {r : Record} {field value : String} (h : r.get? field = some value) :
    (field, value) ∈ r.fields := by
  obtain ⟨before, after, hfields, -⟩ := List.lookup_eq_some_iff.1 h
  rw [hfields]
  exact List.mem_append_right _ List.mem_cons_self

/-- A value as it stands in a column. -/
def Column.written (c : Column) (value : String) : String :=
  match c.style with
  | .verbatim => value
  | .quoted => "\"" ++ value ++ "\""

theorem Column.render_of_value {c : Column} {r : Record} {value : String}
    (h : r.get? c.field = some value) (hne : value ≠ "") : c.render r = c.written value := by
  rw [render, h]
  simp only [String.isEmpty_iff, hne, if_false]
  rfl

theorem Column.render_of_absent {c : Column} {r : Record} (h : (r.get? c.field).getD "" = "") :
    c.render r = c.default := by
  rw [render]
  cases hv : r.get? c.field with
  | none => rfl
  | some value =>
    rw [hv, Option.getD_some] at h
    simp [h]

namespace Schema

/-- The arguments of a call, one for each column. -/
def arguments (s : Schema) (r : Record) : List String := s.columns.map fun c => c.render r

/-- The call has one argument for each column. A field with a value that is not empty stands in the
one column of its name, and every column without such a value shows its default. -/
structure Shows (s : Schema) (r : Record) : Prop where
  call : s.call r = s.constructor ++ "(" ++ Text.joinWith ", " (s.arguments r) ++ ")"
  count : (s.arguments r).length = s.columns.length
  stored : ∀ x ∈ r.fields, x.2 ≠ "" → ∃ (n : Nat) (column : Column), s.columns[n]? = some column ∧
    column.field = x.1 ∧ (s.arguments r)[n]? = some (column.written x.2) ∧
    ∀ (k : Nat) (other : Column), s.columns[k]? = some other → other.field = x.1 → k = n
  defaults : ∀ (n : Nat) (column : Column), s.columns[n]? = some column →
    (r.get? column.field).getD "" = "" → (s.arguments r)[n]? = some column.default

theorem getElem?_arguments {s : Schema} {n : Nat} {column : Column} (h : s.columns[n]? = some column)
    (r : Record) : (s.arguments r)[n]? = some (column.render r) := by
  rw [arguments, List.getElem?_map, h]
  rfl

theorem getElem?_fieldNames {s : Schema} {n : Nat} {column : Column}
    (h : s.columns[n]? = some column) : s.fieldNames[n]? = some column.field := by
  rw [fieldNames, List.getElem?_map, h]
  rfl

/-- A call shows a record whose fields are all columns. -/
theorem call_shows {s : Schema} (hn : s.fieldNames.Nodup) {r : Record} (hr : r.Ordered)
    (h : ∀ x ∈ r.fields, x.1 ∈ s.fieldNames) : s.Shows r where
  call := rfl
  count := List.length_map _
  stored := by
    intro x hx hne
    obtain ⟨column, hmem, hfield⟩ := List.mem_map.1 (h x hx)
    obtain ⟨n, hcolumn⟩ := List.getElem?_of_mem hmem
    refine ⟨n, column, hcolumn, hfield, ?_, fun k other hother hsame => ?_⟩
    · have hget : r.get? column.field = some x.2 := hfield ▸ Record.get?_of_mem hr hx
      rw [getElem?_arguments hcolumn, Column.render_of_value hget hne]
    · have hk := getElem?_fieldNames hother
      rw [hsame, ← hfield, ← getElem?_fieldNames hcolumn] at hk
      obtain ⟨hlt, -⟩ := List.getElem?_eq_some_iff.1 (getElem?_fieldNames hother)
      exact (List.getElem?_inj hlt hn).1 hk
  defaults := by
    intro n column hcolumn habsent
    rw [getElem?_arguments hcolumn, Column.render_of_absent habsent]

theorem fieldNames_http (m : Markers) : (ofChannel m .http).fieldNames =
    ["net", "path", "resp", "validation", "bodyLimit", "api", "api_method", "valid.limit",
      "valid.file", "dataPtrStruct", "bodyType"] := rfl

theorem fieldNames_message (m : Markers) {c : Channel} (hc : c ≠ .http) :
    (ofChannel m c).fieldNames = ["msgId", "api", "api_method", "dataPtrStruct", "validation"] := by
  cases c with
  | http => exact absurd rfl hc
  | tcp => rfl
  | udp => rfl

theorem fieldNames_nodup (m : Markers) (c : Channel) : (ofChannel m c).fieldNames.Nodup := by
  by_cases hc : c = .http
  · rw [hc, fieldNames_http]
    decide
  · rw [fieldNames_message m hc]
    decide

end Schema

namespace Interpreter

/-! ## What a directive writes -/

/-- Validators reach http only. -/
theorem destination?_of_validator {op : Operation} {d : Directive} {c : Channel} (hk : d.kind ≠ .api)
    (h : destination? op d = some c) : c = .http := by
  have hhome : (if home op = .http then some .http else none) = some c := by
    unfold destination? at h
    cases hd : d.kind with
    | api => exact absurd hd hk
    | validLimit => simpa only [hd] using h
    | validFile => simpa only [hd] using h
  split at hhome
  · exact (Option.some.inj hhome).symm
  · cases hhome

theorem kind_of_destination? {op : Operation} {d : Directive} {c : Channel} (hc : c ≠ .http)
    (h : destination? op d = some c) : d.kind = .api := by
  by_contra hk
  exact hc (destination?_of_validator hk h)

/-- What an argument writes on a channel is a column there. -/
theorem argumentValue?_mem_columns {i : Interpreter} {c : Channel} {field raw value : String}
    (h : i.argumentValue? c field raw = some value) (m : Markers) :
    field ∈ (Schema.ofChannel m c).fieldNames := by
  by_cases hc : c = .http
  · subst hc
    rw [Schema.fieldNames_http]
    unfold argumentValue? at h
    split at h <;> simp_all
  · rw [Schema.fieldNames_message m hc]
    unfold argumentValue? at h
    split at h <;> simp_all

/-- What a directive writes on the channel it goes to is a column there. -/
theorem value?_mem_columns {i : Interpreter} {op : Operation} {d : Directive} {c : Channel}
    (hd : destination? op d = some c) {field value : String} (h : i.value? c d field = some value)
    (m : Markers) : field ∈ (Schema.ofChannel m c).fieldNames := by
  unfold value? at h
  cases hk : d.kind with
  | api =>
    simp only [hk] at h
    split at h
    · rename_i hnet
      split at h
      · rename_i hc
        rw [hnet, hc, Schema.fieldNames_http]
        decide
      · cases h
    · obtain ⟨raw, -, hraw⟩ := Option.bind_eq_some_iff.1 h
      exact argumentValue?_mem_columns hraw m
  | validLimit =>
    simp only [hk] at h
    split at h
    · rename_i hf
      rw [hf.1, destination?_of_validator (by simp [hk]) hd, Schema.fieldNames_http]
      decide
    · cases h
  | validFile =>
    simp only [hk] at h
    split at h
    · rename_i hf
      rw [hf.1, destination?_of_validator (by simp [hk]) hd, Schema.fieldNames_http]
      decide
    · cases h

/-! ## Records -/

/-- The directives all go to the channel. -/
def Arriving (c : Channel) (ds : List (Operation × Directive)) : Prop :=
  ∀ x ∈ ds, destination? x.1 x.2 = some c

theorem arriving_arrivals (c : Channel) (ops : List Operation) : Arriving c (arrivals c ops) := by
  intro x hx
  obtain ⟨op, -, hx⟩ := List.mem_flatMap.1 hx
  obtain ⟨d, hd, rfl⟩ := List.mem_map.1 hx
  simpa using (List.mem_filter.1 hd).2

section Record
variable {i : Interpreter} {c : Channel} {ds : List (Operation × Directive)}

/-- A field has a value only because a directive has written it. -/
theorem fieldValue?_eq_some {field value : String} (h : i.fieldValue? c ds field = some value) :
    (field = "api" ∨ field = "api_method") ∨ ∃ x ∈ ds, i.value? c x.2 field = some value := by
  unfold fieldValue? at h
  split at h
  · exact .inl (by assumption)
  · obtain ⟨x, hx, hvalue⟩ := List.mem_filterMap.1 (List.mem_of_getLast? h)
    exact .inr ⟨x, hx, hvalue⟩

theorem fields_recordOf {x : String × String} (hx : x ∈ (i.recordOf c ds).fields) :
    i.fieldValue? c ds x.1 = some x.2 := by
  rw [← get?_recordOf]
  exact Record.get?_of_mem (ordered_recordOf i c ds) hx

/-- Every field of a record is a column of its channel. -/
theorem recordOf_columns (hds : Arriving c ds) (m : Markers) {x : String × String}
    (hx : x ∈ (i.recordOf c ds).fields) : x.1 ∈ (Schema.ofChannel m c).fieldNames := by
  rcases fieldValue?_eq_some (fields_recordOf hx) with hf | ⟨y, hy, hvalue⟩
  · by_cases hc : c = .http
    · rw [hc, Schema.fieldNames_http]
      rcases hf with hf | hf <;> rw [hf] <;> decide
    · rw [Schema.fieldNames_message m hc]
      rcases hf with hf | hf <;> rw [hf] <;> decide
  · exact value?_mem_columns (hds y hy) hvalue m

/-- The function to register is named twice, or not at all. -/
theorem fieldValue?_method :
    i.fieldValue? c ds "api_method" = i.fieldValue? c ds "api" := rfl

/-- What is written more than once is the same each time. -/
theorem fieldValue?_of_constant {field value : String} (hf : ¬(field = "api" ∨ field = "api_method"))
    (h : ∀ x ∈ ds, ∀ v, i.value? c x.2 field = some v → v = value) :
    i.fieldValue? c ds field = none ∨ i.fieldValue? c ds field = some value := by
  cases hv : i.fieldValue? c ds field with
  | none => exact .inl rfl
  | some v =>
    rcases fieldValue?_eq_some hv with hname | ⟨x, hx, hvalue⟩
    · exact absurd hname hf
    · exact .inr (congrArg some (h x hx v hvalue))

theorem fieldValue?_ne_none {field : String} (hf : ¬(field = "api" ∨ field = "api_method"))
    {x : Operation × Directive} (hx : x ∈ ds) {value : String}
    (hvalue : i.value? c x.2 field = some value) : i.fieldValue? c ds field ≠ none := by
  unfold fieldValue?
  rw [if_neg hf]
  intro hnone
  have hmem : value ∈ ds.filterMap fun x => i.value? c x.2 field := List.mem_filterMap.2 ⟨x, hx, hvalue⟩
  rw [List.getLast?_eq_none_iff.1 hnone] at hmem
  cases hmem

/-- A record names a function to register exactly when an `api` directive went into it. -/
theorem fieldValue?_api : (i.fieldValue? c ds "api").isSome ↔ ∃ x ∈ ds, x.2.kind = .api := by
  simp [fieldValue?]

/-- An http record with a function to register is marked as http. -/
theorem fieldValue?_net {name : String} (h : i.fieldValue? .http ds "api" = some name) :
    i.fieldValue? .http ds "net" = some i.markers.httpNet := by
  obtain ⟨x, hx, hk⟩ := fieldValue?_api.1 (Option.isSome_iff_exists.2 ⟨name, h⟩)
  have hf : ¬("net" = "api" ∨ "net" = "api_method") := by decide
  have hwritten : i.value? .http x.2 "net" = some i.markers.httpNet := by simp [value?, hk]
  refine (fieldValue?_of_constant hf fun y _ v hv => ?_).resolve_left (fieldValue?_ne_none hf hx hwritten)
  unfold value? at hv
  cases hky : y.2.kind with
  | api => simpa [hky, eq_comm] using hv
  | validLimit => simp [hky] at hv
  | validFile => simp [hky] at hv

/-- On a message channel, validation is on or not mentioned. -/
theorem fieldValue?_validation (hc : c ≠ .http) (hds : Arriving c ds) :
    i.fieldValue? c ds "validation" = none ∨ i.fieldValue? c ds "validation" = some "true" := by
  refine fieldValue?_of_constant (by decide) fun x hx v hv => ?_
  unfold value? at hv
  rw [kind_of_destination? hc (hds x hx)] at hv
  obtain ⟨raw, -, hraw⟩ := Option.bind_eq_some_iff.1 hv
  simp only [argumentValue?] at hraw
  split at hraw
  · exact (Option.some.inj hraw).symm
  · split at hraw
    · rename_i htoken
      exact absurd htoken.2 hc
    · cases hraw

end Record

/-- The fields that a message channel does not have. -/
def httpOnly : List String :=
  ["net", "path", "resp", "bodyType", "bodyLimit", "valid.limit", "valid.file"]

theorem httpOnly_not_message : ∀ f ∈ httpOnly,
    f ∉ ["msgId", "api", "api_method", "dataPtrStruct", "validation"] := by decide

/-- What holds of every record of a channel. -/
structure Fits (m : Markers) (c : Channel) (r : Record) : Prop where
  columns : ∀ x ∈ r.fields, x.1 ∈ (Schema.ofChannel m c).fieldNames
  http : c = .http → ∀ name, r.get? "api" = some name →
    r.get? "api_method" = some name ∧ r.get? "net" = some m.httpNet
  message : c ≠ .http →
    (∃ name, r.get? "api" = some name ∧ r.get? "api_method" = some name) ∧
    (r.get? "validation" = none ∨ r.get? "validation" = some "true") ∧
    ∀ f ∈ httpOnly, r.get? f = none

theorem recordOf_fits (i : Interpreter) {c : Channel} {ds : List (Operation × Directive)}
    (hds : Arriving c ds) (hne : ds ≠ []) : Fits i.markers c (i.recordOf c ds) where
  columns := fun _ hx => recordOf_columns hds i.markers hx
  http := by
    rintro rfl name hname
    rw [get?_recordOf] at hname
    rw [get?_recordOf, get?_recordOf, fieldValue?_method]
    exact ⟨hname, fieldValue?_net hname⟩
  message := by
    intro hc
    refine ⟨?_, ?_, fun f hf => ?_⟩
    · obtain ⟨x, hx⟩ := List.exists_mem_of_ne_nil ds hne
      have happ : x.2.kind = .api := kind_of_destination? hc (hds x hx)
      obtain ⟨name, hname⟩ := Option.isSome_iff_exists.1
        (fieldValue?_api (i := i) (c := c).2 ⟨x, hx, happ⟩)
      refine ⟨name, ?_, ?_⟩
      · rw [get?_recordOf, hname]
      · rw [get?_recordOf, fieldValue?_method, hname]
    · rw [get?_recordOf]
      exact fieldValue?_validation hc hds
    · -- a field with a value would be a column of the channel
      cases hv : (i.recordOf c ds).get? f with
      | none => rfl
      | some v =>
        have hcolumn := recordOf_columns hds i.markers (Record.mem_of_get? hv)
        rw [Schema.fieldNames_message i.markers hc] at hcolumn
        exact absurd hcolumn (httpOnly_not_message f hf)

/-- A record of a channel comes from the directives under its key, and there is one. -/
theorem mem_records {i : Interpreter} {ops : List Operation} {c : Channel} {key : String}
    {record : Record} (h : (key, record) ∈ (i.channelReading ops c).records) :
    ∃ ds, Arriving c ds ∧ ds ≠ [] ∧ record = i.recordOf c ds := by
  obtain ⟨k, hk, he⟩ := List.mem_map.1 h
  cases he
  refine ⟨_, arriving_arrivals c _, ?_, rfl⟩
  obtain ⟨op, hop, rfl⟩ := List.mem_map.1 (List.mem_eraseDups.1 hk)
  obtain ⟨hop, htargets⟩ := List.mem_filter.1 hop
  obtain ⟨d, hd, hdest⟩ := List.any_eq_true.1 htargets
  refine List.ne_nil_of_mem (a := (op, d)) (List.mem_flatMap.2 ⟨op, ?_, ?_⟩)
  · exact List.mem_filter.2 ⟨hop, by simp⟩
  · exact List.mem_map.2 ⟨d, List.mem_filter.2 ⟨hd, hdest⟩, rfl⟩

/-- Every record that interpretation collects fits its channel, and its call shows all of it. -/
theorem interpret_fits {i : Interpreter} {ops : List Operation} {r : Registry}
    (h : (i.interpret ops).2 = .ok r) {e : PackageEntries} (he : e ∈ r.packages) (c : Channel)
    {key : String} {record : Record} (hrecord : (key, record) ∈ (e.channel c).records) :
    Fits i.markers c record ∧ (Schema.ofChannel i.markers c).Shows record := by
  rw [(interpret_eq_ok_iff.1 h).2] at he
  obtain ⟨id, -, rfl⟩ := List.mem_map.1 he
  rw [channel_packageReading] at hrecord
  obtain ⟨ds, hds, hne, rfl⟩ := mem_records hrecord
  have hfits := recordOf_fits i hds hne
  exact ⟨hfits, Schema.call_shows (Schema.fieldNames_nodup i.markers c) (ordered_recordOf i c ds)
    hfits.columns⟩

/-- An operation at home on tcp, with what tcp does not have, and registered on http as well. -/
def onTwoChannels : Operation :=
  { packageName := "shop", filename := "shop/a.go", name := "Save", line := 5
    docs := ["// @Handler(type=\"api\", net=\"tcp\", msgId=\"7\", path=\"/a\", validation=\"token\")",
      "// @Handler(type=\"valid.limit\", func=\"Check\")",
      "// @Handler(type=\"api\", net=\"http\", path=\"/a\", validation=\"token\", bodyLimit=)"] }

/-- On tcp only the message number stays. On http the body limit is stored empty, and shows as its
default. -/
theorem interpret_fits_on_two_channels :
    let i : Interpreter := {}
    ∃ r e tcp http, (i.interpret [onTwoChannels]).2 = .ok r ∧ e ∈ r.packages ∧
      ("shop/a.goSave", tcp) ∈ (e.channel .tcp).records ∧
      tcp.fields = [("api", "Save"), ("api_method", "Save"), ("msgId", "7")] ∧
      Fits i.markers .tcp tcp ∧ (Schema.ofChannel i.markers .tcp).Shows tcp ∧
      ("shop/a.goSave", http) ∈ (e.channel .http).records ∧ ("bodyLimit", "") ∈ http.fields ∧
      Fits i.markers .http http ∧ (Schema.ofChannel i.markers .http).Shows http ∧
      (Schema.ofChannel i.markers .http).call http =
        "net_fw.NewHtNetHandler(net_fw.HTNET_type_http, \"/a\", false, net_fw.Validation_type_token, " ++
          "0, Save, \"Save\", nil, nil, nil, 0)" := by
  intro i
  let tcp : Record := ⟨[("api", "Save"), ("api_method", "Save"), ("msgId", "7")]⟩
  let http : Record := ⟨[("api", "Save"), ("api_method", "Save"), ("bodyLimit", ""),
    ("net", "net_fw.HTNET_type_http"), ("path", "\"/a\""), ("validation", "net_fw.Validation_type_token")]⟩
  have hok : (i.interpret [onTwoChannels]).2.toOption.map
      (fun r => r.packages.map fun e => (e.tcp.records, e.http.records)) =
      some [([("shop/a.goSave", tcp)], [("shop/a.goSave", http)])] := by decide +kernel
  cases h : (i.interpret [onTwoChannels]).2 with
  | error e =>
    rw [h] at hok
    cases hok
  | ok r =>
    rw [h] at hok
    obtain ⟨e, he, hrecords⟩ := List.map_eq_singleton_iff.1 (Option.some.inj hok)
    simp only [Prod.mk.injEq] at hrecords
    obtain ⟨hte, hhe⟩ := hrecords
    have hmem : e ∈ r.packages := by simp [he]
    have htcp : ("shop/a.goSave", tcp) ∈ (e.channel .tcp).records := by
      simp [PackageEntries.channel, hte]
    have hhttp : ("shop/a.goSave", http) ∈ (e.channel .http).records := by
      simp [PackageEntries.channel, hhe]
    obtain ⟨hfits, hshows⟩ := interpret_fits h hmem .tcp htcp
    obtain ⟨hfits', hshows'⟩ := interpret_fits h hmem .http hhttp
    exact ⟨r, e, tcp, http, rfl, hmem, htcp, rfl, hfits, hshows, hhttp, by decide, hfits', hshows',
      by decide +kernel⟩

end Interpreter
end Registrar
