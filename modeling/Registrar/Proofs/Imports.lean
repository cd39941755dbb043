import Registrar.Proofs.Faults
/-!
# What a channel imports

The imports of a channel ascend, so each is there once, and they are the paths that something asks for:
the framework, or an argument of a directive of the package that goes to the channel (`Asks`). A
validator that is dropped asks for nothing, and neither does a message number on http. Main statement:
`imports_exact`, for every successful interpretation.
-/
namespace Registrar
namespace Text

theorem takeWhile_of_splitOnce? {c : Char} {s a b : List Char} (h : splitOnce? c s = some (a, b)) :
    s.takeWhile (· != c) = a := by
  induction s generalizing a with
  | nil => cases h
  | cons d s ih =>
    rw [splitOnce?] at h
    by_cases hd : d = c
    · rw [if_pos hd] at h
      cases h
      simp [hd]
    · rw [if_neg hd] at h
      obtain ⟨⟨a', b'⟩, hs, hab⟩ := Option.map_eq_some_iff.1 h
      cases hab
      rw [List.takeWhile_cons_of_pos (by simpa using hd), ih hs]

end Text

namespace Interpreter

/-! ## Paths -/

/-- The text before the first bar. -/
def beforeBar (value : String) : String := Text.onChars (·.takeWhile (· != '|')) value

theorem map_splitBar?_eq_some_iff {value path : String} :
    (splitBar? value).map (·.1) = some path ↔ '|' ∈ value.toList ∧ path = beforeBar value := by
  cases hs : splitBar? value with
  | none => simp [splitBar?_eq_none_iff.1 hs]
  | some s =>
    have hbar : '|' ∈ value.toList := by
      by_contra hbar
      rw [splitBar?_eq_none_iff.2 hbar] at hs
      cases hs
    obtain ⟨⟨a, b⟩, hsplit, rfl⟩ := Option.map_eq_some_iff.1 hs
    simp [hbar, beforeBar, Text.onChars, Text.takeWhile_of_splitOnce? hsplit, eq_comm]

/-- The import keeps what is left of the path without the blanks and then the double quotes around it,
if that is not empty, in double quotes. -/
def Keeps (path text : String) : Prop :=
  Text.dropQuotes (Text.trim path.toList) ≠ [] ∧
    text.toList = '"' :: Text.dropQuotes (Text.trim path.toList) ++ ['"']

theorem importText?_eq_some_iff {path text : String} : importText? path = some text ↔ Keeps path text := by
  have hpath : (ChannelEntries.importPath path).toList = Text.dropQuotes (Text.trim path.toList) := by
    rw [ChannelEntries.importPath, Text.onChars, String.toList_ofList]
  rw [importText?, Keeps, ← hpath, ne_eq, String.toList_eq_nil_iff]
  by_cases h : ChannelEntries.importPath path = ""
  · simp [h]
  · rw [if_neg h, Option.some.injEq, eq_comm, ← String.toList_inj]
    simp [h]

/-! ## What is asked for -/

/-- The operation belongs to the package, is read, and has the directive. -/
structure Has (i : Interpreter) (ops : List Operation) (id : String × String) (op : Operation)
    (d : Directive) : Prop where
  listed : op ∈ ops
  selected : i.selects op = true
  package : packageOf op = id
  recognised : d ∈ recognised op

/-- Something other than blanks and double quotes. -/
def HasText (value : String) : Prop := ∃ c ∈ value.toList, c ≠ '"' ∧ Text.isBlank c = false

/-- The paths that are asked for on a channel of a package. -/
inductive Asks (i : Interpreter) (ops : List Operation) (id : String × String) (c : Channel) :
    String → Prop
  | framework : Asks i ops id c i.framework
  /-- The path of the data type of an `api` directive on the channel. -/
  | dataType {op d raw} : Has i ops id op d → d.kind = .api → net? d = some c →
      d.get? "dataPtrStruct" = some raw → Directive.unquote raw ≠ "" →
      Asks i ops id c (beforeBar (Directive.unquote raw))
  /-- The path of the message number of an `api` directive, on a message channel. -/
  | message {op d raw} : c ≠ .http → Has i ops id op d → d.kind = .api → net? d = some c →
      d.get? "msgId" = some raw → '|' ∈ (Directive.unquote raw).toList →
      Asks i ops id c (beforeBar (Directive.unquote raw))
  /-- The package of a validator, on http, of an operation at home there. -/
  | validator {op d raw} : c = .http → Has i ops id op d → d.kind ≠ .api → home op = .http →
      d.get? "pkg" = some raw → 2 < raw.utf8ByteSize → Asks i ops id c raw
  /-- The package of uploads, with an upload check that names a function. -/
  | upload {op d raw} : c = .http → Has i ops id op d → d.kind = .validFile → home op = .http →
      d.get? "func" = some raw → HasText raw → Asks i ops id c i.multipart

/-! ## What a directive asks for -/

theorem argumentImport?_eq_some_iff {c : Channel} {field raw path : String} :
    argumentImport? c field raw = some path ↔
      (field = "dataPtrStruct" ∨ field = "msgId" ∧ c ≠ .http) ∧
        '|' ∈ (Directive.unquote raw).toList ∧ path = beforeBar (Directive.unquote raw) := by
  unfold argumentImport?
  split
  · rw [map_splitBar?_eq_some_iff]
    simp
  · by_cases hc : c = .http
    · simp [hc]
    · rw [if_neg hc, map_splitBar?_eq_some_iff]
      simp [hc]
  · rename_i hdata hmsg
    constructor
    · intro h
      cases h
    · rintro ⟨hfield | hfield, -⟩
      · exact absurd hfield hdata
      · exact absurd hfield.1 hmsg

theorem mem_validatorImports {d : Directive} {path : String} :
    path ∈ validatorImports d ↔ d.get? "pkg" = some path ∧ 2 < path.utf8ByteSize := by
  rw [validatorImports]
  cases d.get? "pkg" with
  | none => simp
  | some pkg =>
    by_cases h : pkg.utf8ByteSize > 2
    · simp only [if_pos h, List.mem_singleton, Option.some.injEq]
      exact ⟨fun he => ⟨he.symm, he ▸ h⟩, fun he => he.1.symm⟩
    · simp only [if_neg h, List.not_mem_nil, Option.some.injEq, false_iff, not_and]
      rintro rfl
      exact h

theorem blank_of_trim_eq_nil {s : List Char} (h : Text.trim s = []) : Text.Blank s := by
  obtain ⟨a, b, ha, hb, hs⟩ := Text.trim_spec s
  rw [hs, h, List.append_nil]
  exact ha.append hb

theorem validatorFunction_ne_empty_iff {d : Directive} :
    validatorFunction d ≠ "" ↔ ∃ raw, d.get? "func" = some raw ∧ HasText raw := by
  have hempty : ∀ s : String, Text.onChars (fun s => Text.trim (s.filter (· != '"'))) s = "" ↔
      ¬HasText s := by
    intro s
    rw [Text.onChars, String.ofList_eq_empty_iff, HasText]
    simp only [not_exists, not_and, Bool.not_eq_false]
    constructor
    · intro h c hc hquote
      exact blank_of_trim_eq_nil h c (List.mem_filter.2 ⟨hc, by simpa using hquote⟩)
    · intro h
      refine Text.trim_of_blank fun c hc => ?_
      obtain ⟨hc, hquote⟩ := List.mem_filter.1 hc
      exact h c hc (by simpa using hquote)
  rw [validatorFunction, ne_eq, hempty, not_not]
  cases d.get? "func" with
  | none => simp [HasText]
  | some raw => simp

/-- A directive of a readable operation that has no fault gives a path with every data type. -/
theorem bar_of_not_lacksBar {d : Directive} (h : ¬LacksBar d) {raw : String}
    (hget : d.get? "dataPtrStruct" = some raw) (hraw : Directive.unquote raw ≠ "") :
    '|' ∈ (Directive.unquote raw).toList := by
  obtain ⟨l₁, l₂, hargs, -⟩ := List.lookup_eq_some_iff.1 hget
  by_contra hbar
  exact h ⟨("dataPtrStruct", raw), by simp [hargs], rfl, hraw, hbar⟩

theorem unquote_ne_empty_of_bar {raw : String} (h : '|' ∈ (Directive.unquote raw).toList) :
    Directive.unquote raw ≠ "" := by
  intro he
  rw [he] at h
  cases h

/-! ## What a package asks for -/

section Package
variable {i : Interpreter} {ops : List Operation} {id : String × String} {c : Channel}

theorem mem_arrivals {op : Operation} {d : Directive} :
    (op, d) ∈ arrivals c ((i.annotated ops).filter fun op => packageOf op = id) ↔
      Has i ops id op d ∧ destination? op d = some c := by
  simp only [arrivals, annotated, List.mem_flatMap, List.mem_filter, List.mem_map, Prod.mk.injEq,
    Bool.and_eq_true, Bool.not_eq_true', List.isEmpty_eq_false_iff, decide_eq_true_eq, beq_iff_eq]
  constructor
  · rintro ⟨o, ⟨⟨hlisted, hselected, -⟩, hpackage⟩, e, ⟨hrecognised, hdest⟩, rfl, rfl⟩
    exact ⟨⟨hlisted, hselected, hpackage, hrecognised⟩, hdest⟩
  · rintro ⟨⟨hlisted, hselected, hpackage, hrecognised⟩, hdest⟩
    exact ⟨op, ⟨⟨hlisted, hselected, List.ne_nil_of_mem hrecognised⟩, hpackage⟩, d,
      ⟨hrecognised, hdest⟩, rfl, rfl⟩

theorem destination?_of_kind_eq_api {op : Operation} {d : Directive} (h : d.kind = .api) :
    destination? op d = net? d := by
  rw [destination?, h]

theorem destination?_of_kind_ne_api {op : Operation} {d : Directive} (h : d.kind ≠ .api) :
    destination? op d = if home op = .http then some .http else none := by
  unfold destination?
  cases hk : d.kind with
  | api => exact absurd hk h
  | validLimit => rfl
  | validFile => rfl

/-- What a directive asks for on its channel is asked for on the channel of its package. -/
theorem asks_of_mem_importsOf {op : Operation} {d : Directive} {path : String} (hd : Has i ops id op d)
    (hdest : destination? op d = some c) (h : path ∈ i.importsOf c d) : Asks i ops id c path := by
  have hvalidator : d.kind ≠ .api → path ∈ validatorImports d → Asks i ops id c path := by
    intro hk hpath
    rw [destination?_of_kind_ne_api hk] at hdest
    obtain ⟨hhome, hc⟩ := Option.ite_none_right_eq_some.1 hdest
    obtain ⟨hget, hsize⟩ := mem_validatorImports.1 hpath
    exact .validator (Option.some.inj hc).symm hd hk hhome hget hsize
  unfold importsOf at h
  cases hk : d.kind with
  | api =>
    rw [destination?_of_kind_eq_api hk] at hdest
    simp only [hk] at h
    obtain ⟨⟨field, raw⟩, ha, himport⟩ := List.mem_filterMap.1 h
    have hget : d.get? field = some raw :=
      Table.lookup_of_mem (nodup_of_mem_recognised hd.recognised) ha
    obtain ⟨hfield, hbar, rfl⟩ := argumentImport?_eq_some_iff.1 himport
    rcases hfield with rfl | ⟨rfl, hc⟩
    · exact .dataType hd hk hdest hget (unquote_ne_empty_of_bar hbar)
    · exact .message hc hd hk hdest hget hbar
  | validLimit =>
    simp only [hk] at h
    exact hvalidator (by simp [hk]) h
  | validFile =>
    simp only [hk] at h
    rcases List.mem_append.1 h with h | h
    · exact hvalidator (by simp [hk]) h
    · split at h
      · cases h
      · rename_i hf
        rw [List.mem_singleton.1 h]
        rw [destination?_of_kind_ne_api (by simp [hk])] at hdest
        obtain ⟨hhome, hc⟩ := Option.ite_none_right_eq_some.1 hdest
        obtain ⟨raw, hget, htext⟩ := validatorFunction_ne_empty_iff.1 hf
        exact .upload (Option.some.inj hc).symm hd hk hhome hget htext

/-- What is asked for on a channel comes from the framework or from a directive that goes there. -/
theorem mem_importsOf_of_asks (hok : ∀ op ∈ ops, i.selects op → ¬Faulty op) {path : String}
    (h : Asks i ops id c path) : path = i.framework ∨
      ∃ op d, Has i ops id op d ∧ destination? op d = some c ∧ path ∈ i.importsOf c d := by
  have hapi : ∀ {op d field raw}, Has i ops id op d → d.kind = .api → net? d = some c →
      d.get? field = some raw → (field = "dataPtrStruct" ∨ field = "msgId" ∧ c ≠ .http) →
      '|' ∈ (Directive.unquote raw).toList →
      ∃ op d, Has i ops id op d ∧ destination? op d = some c ∧
        beforeBar (Directive.unquote raw) ∈ i.importsOf c d := by
    intro op d field raw hd hk hnet hget hfield hbar
    refine ⟨op, d, hd, (destination?_of_kind_eq_api hk).trans hnet, ?_⟩
    obtain ⟨l₁, l₂, hargs, -⟩ := List.lookup_eq_some_iff.1 hget
    simp only [importsOf, hk]
    exact List.mem_filterMap.2 ⟨(field, raw), by simp [hargs],
      argumentImport?_eq_some_iff.2 ⟨hfield, hbar, rfl⟩⟩
  have hhttp : ∀ {op d}, d.kind ≠ .api → home op = .http → c = .http →
      destination? op d = some c := by
    intro op d hk hhome hc
    rw [destination?_of_kind_ne_api hk, if_pos hhome, hc]
  cases h with
  | framework => exact .inl rfl
  | dataType hd hk hnet hget hraw =>
    -- a directive without a fault has a bar in every data type that is not empty
    have hbar : ¬LacksBar _ := fun hl =>
      hok _ hd.listed hd.selected (.inr ⟨_, hd.recognised, hk, .inr hl⟩)
    exact .inr (hapi hd hk hnet hget (.inl rfl) (bar_of_not_lacksBar hbar hget hraw))
  | message hc hd hk hnet hget hbar => exact .inr (hapi hd hk hnet hget (.inr ⟨rfl, hc⟩) hbar)
  | @validator op d _ hc hd hk hhome hget hsize =>
    have hmem : path ∈ validatorImports d := mem_validatorImports.2 ⟨hget, hsize⟩
    refine .inr ⟨op, d, hd, hhttp hk hhome hc, ?_⟩
    unfold importsOf
    cases hkind : d.kind with
    | api => exact absurd hkind hk
    | validLimit => exact hmem
    | validFile => exact List.mem_append_left _ hmem
  | @upload op d raw hc hd hk hhome hget htext =>
    refine .inr ⟨op, d, hd, hhttp (by simp [hk]) hhome hc, ?_⟩
    have hf : validatorFunction d ≠ "" := validatorFunction_ne_empty_iff.2 ⟨raw, hget, htext⟩
    simp only [importsOf, hk, if_neg hf]
    exact List.mem_append_right _ (List.mem_singleton.2 rfl)

theorem asks_iff (hok : ∀ op ∈ ops, i.selects op → ¬Faulty op) {path : String} :
    Asks i ops id c path ↔ path ∈ i.framework ::
      (arrivals c ((i.annotated ops).filter fun op => packageOf op = id)).flatMap
        fun x => i.importsOf c x.2 := by
  simp only [List.mem_cons, List.mem_flatMap, Prod.exists, mem_arrivals, and_assoc]
  refine ⟨mem_importsOf_of_asks hok, ?_⟩
  rintro (rfl | ⟨op, d, hd, hdest, h⟩)
  · exact .framework
  · exact asks_of_mem_importsOf hd hdest h

end Package

/-! ## The imports of a channel -/

theorem channelReading_imports (i : Interpreter) (ops : List Operation) (c : Channel) :
    (i.channelReading ops c).imports.Pairwise (· < ·) ∧
    ∀ text, text ∈ (i.channelReading ops c).imports ↔
      ∃ path ∈ i.framework :: (arrivals c ops).flatMap fun x => i.importsOf c x.2,
        importText? path = some text := by
  have himports : (i.channelReading ops c).imports =
      ((i.framework :: (arrivals c ops).flatMap fun x => i.importsOf c x.2).filterMap
        importText?).foldl (fun acc s => insertSorted s acc) [] := by
    rw [foldl_insertSorted, channelReading]
  rw [himports]
  refine ⟨foldl_insertSorted_ascending List.Pairwise.nil, fun text => ?_⟩
  rw [mem_foldl_insertSorted, List.mem_filterMap, or_iff_left List.not_mem_nil]

/-- The imports of a channel ascend, and they are what its package asks for, each kept once in double
quotes. -/
theorem imports_exact {i : Interpreter} {ops : List Operation} {r : Registry}
    (h : (i.interpret ops).2 = .ok r) {e : PackageEntries} (he : e ∈ r.packages) (c : Channel) :
    (e.channel c).imports.Pairwise (· < ·) ∧
    ∀ text, text ∈ (e.channel c).imports ↔
      ∃ path, Asks i ops (e.name, e.directory) c path ∧ Keeps path text := by
  obtain ⟨hreadable, hr⟩ := interpret_eq_ok_iff.1 h
  have hok : ∀ op ∈ ops, i.selects op → ¬Faulty op := fun op hop hsel =>
    problem?_eq_none_iff.1 (readable_iff.1 (hreadable op hop hsel))
  rw [hr] at he
  obtain ⟨id, -, rfl⟩ := List.mem_map.1 he
  obtain ⟨hascending, hmem⟩ :=
    i.channelReading_imports ((i.annotated ops).filter fun op => packageOf op = id) c
  rw [channel_packageReading]
  refine ⟨hascending, fun text => (hmem text).trans ?_⟩
  simp only [importText?_eq_some_iff]
  exact exists_congr fun path => and_congr_left' (asks_iff hok).symm

/-- An upload with a data type on http, and a message on tcp with a validator that goes nowhere. -/
def uploadAndMessage : List Operation :=
  [{ packageName := "shop", filename := "shop/a.go", name := "Load", line := 5
     docs := ["// @Handler(type=\"api\", net=\"http\", dataPtrStruct=\"app/model|model.User\", msgId=\"x|y\")",
       "// @Handler(type=\"valid.file\", pkg=\"app/check\", func=\"check.Head\")"] },
   { packageName := "shop", filename := "shop/b.go", name := "Send", line := 9
     docs := ["// @Handler(type=\"api\", net=\"tcp\", msgId=\" app/proto |proto.Send\")",
       "// @Handler(type=\"valid.limit\", pkg=\"app/never\", func=\"never.Check\")"] }]

theorem imports_exact_upload_and_message :
    let i : Interpreter := {}
    ∃ r e, (i.interpret uploadAndMessage).2 = .ok r ∧ e ∈ r.packages ∧
      (e.channel .http).imports = ["\"app/check\"", "\"app/model\"", "\"framework/common/net_fw\"",
        "\"github.com/valyala/fasthttp/zzz/mime/multipart\""] ∧
      (e.channel .tcp).imports = ["\"app/proto\"", "\"framework/common/net_fw\""] ∧
      ∀ c : Channel, (e.channel c).imports.Pairwise (· < ·) ∧
        ∀ text, text ∈ (e.channel c).imports ↔
          ∃ path, Asks i uploadAndMessage (e.name, e.directory) c path ∧ Keeps path text := by
  intro i
  have hok : (i.interpret uploadAndMessage).2.toOption.map
      (fun r => r.packages.map fun e => (e.http.imports, e.tcp.imports)) =
      some [(["\"app/check\"", "\"app/model\"", "\"framework/common/net_fw\"",
        "\"github.com/valyala/fasthttp/zzz/mime/multipart\""],
        ["\"app/proto\"", "\"framework/common/net_fw\""])] := by decide +kernel
  cases h : (i.interpret uploadAndMessage).2 with
  | error f =>
    rw [h] at hok
    cases hok
  | ok r =>
    rw [h] at hok
    obtain ⟨e, he, himports⟩ := List.map_eq_singleton_iff.1 (Option.some.inj hok)
    obtain ⟨hhttp, htcp⟩ := Prod.mk.inj himports
    have hmem : e ∈ r.packages := by simp [he]
    exact ⟨r, e, rfl, hmem, hhttp, htcp, fun c => imports_exact h hmem c⟩

end Interpreter
end Registrar
