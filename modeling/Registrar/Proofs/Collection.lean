import Registrar.Proofs.Interpretation
/-!
# Collecting is reading

The registry that interpretation builds is a fold over the directives of all operations. Here the
fold is taken apart: by package, by channel, by key and by field (`buildRecord_eq`), and put together
again as the reading (`interpret_eq_reading`).
-/
namespace Registrar.Interpreter

/-! ## What one directive writes -/

section Written
variable (i : Interpreter) (op : Operation) (c : Channel) {d : Directive}

theorem handler_contributed : (i.contributed op c d).handler =
    if d.kind = .api then some op.name else none := by
  unfold contributed
  cases d.kind with
  | api => rfl
  | validLimit => rfl
  | validFile =>
    simp only [upload]
    split <;> rfl

theorem imports_contributed : (i.contributed op c d).imports = i.importsOf c d := by
  unfold contributed importsOf
  cases d.kind with
  | api => rfl
  | validLimit => rfl
  | validFile =>
    simp only [upload, String.isEmpty_iff]
    split <;> simp

theorem lookup_argumentsContribution {args : List (String × String)} (hn : (args.map (·.1)).Nodup)
    (field : String) : (i.argumentsContribution c args).writes.reverse.lookup field =
      (args.lookup field).bind (i.argumentValue? c field) := by
  have hw : ((i.argumentsContribution c args).writes.map (·.1)).Nodup :=
    (Table.keys_filterMap _ _ args).nodup hn
  rw [Table.lookup_reverse hw, argumentsContribution, Table.lookup_filterMap _ _ hn,
    Table.lookup_eq_find?]
  cases hf : args.find? fun a => a.1 = field with
  | none => rfl
  | some a =>
    have ha : a.1 = field := by simpa using List.find?_some hf
    simp [ha]

/-- A directive with different keys writes at most one value into a field. -/
theorem lookup_contributed (hn : (d.args.map (·.1)).Nodup) (field : String) :
    (i.contributed op c d).writes.reverse.lookup field = i.value? c d field := by
  unfold contributed value?
  cases d.kind with
  | api =>
    simp only [Contribution.append, List.reverse_append, List.lookup_append]
    rw [lookup_argumentsContribution i c hn]
    by_cases hf : field = "net"
    · -- the argument names the channel and writes nothing; the field is the channel's own
      subst hf
      have hnone : (d.args.lookup "net").bind (i.argumentValue? c "net") = none := by
        cases d.args.lookup "net" <;> rfl
      rw [hnone]
      by_cases hc : c = .http <;> simp [hc]
    · rw [if_neg hf, ← Directive.get?]
      by_cases hc : c = .http <;> simp [hc, Table.lookup_cons_eq_ite, hf]
  | validLimit =>
    simp only [limit, String.isEmpty_iff]
    by_cases hv : validatorFunction d = "" <;> simp [hv, Table.lookup_cons_eq_ite]
  | validFile =>
    simp only [upload, String.isEmpty_iff]
    by_cases hv : validatorFunction d = "" <;> simp [hv, Table.lookup_cons_eq_ite]

end Written

/-! ## Records -/

theorem foldl_put (writes : List (String × String)) (r : Record) (f : String) :
    (writes.foldl (fun r w => r.put w.1 w.2) r).get? f = (writes.reverse.lookup f).or (r.get? f) := by
  induction writes generalizing r with
  | nil => rfl
  | cons w ws ih =>
    rw [List.foldl_cons, ih, Record.get?_put, List.reverse_cons, List.lookup_append,
      Table.lookup_cons_eq_ite]
    by_cases h : f = w.1 <;> cases ws.reverse.lookup f <;> simp [h]

/-- What a contribution writes counts before what was there, except that the function to register
stays the first one. -/
theorem get?_apply (x : Contribution) (r : Record) (f : String) :
    (x.apply r).get? f = (x.writes.reverse.lookup f).or
      (if f = "api" ∨ f = "api_method" then (r.get? f).or x.handler else r.get? f) := by
  rw [Contribution.apply, foldl_put]
  congr 1
  cases x.handler with
  | none => simp
  | some h =>
    simp only [Record.get?_putIfAbsent]
    by_cases ha : f = "api" <;> by_cases hm : f = "api_method" <;> simp [ha, hm]

theorem ordered_foldl_put {writes : List (String × String)} {r : Record} (h : r.Ordered) :
    (writes.foldl (fun r w => r.put w.1 w.2) r).Ordered := by
  induction writes generalizing r with
  | nil => exact h
  | cons w ws ih => exact ih (h.put w.1 w.2)

theorem ordered_apply (x : Contribution) {r : Record} (h : r.Ordered) : (x.apply r).Ordered := by
  rw [Contribution.apply]
  refine ordered_foldl_put ?_
  cases x.handler with
  | none => exact h
  | some name => exact (h.putIfAbsent "api" name).putIfAbsent "api_method" name

section Record
variable (i : Interpreter) (c : Channel)

/-- The record that directives build, one after another. -/
def buildRecord (ds : List (Operation × Directive)) : Record :=
  ds.foldl (fun r x => (i.contributed x.1 c x.2).apply r) {}

theorem ordered_buildRecord (ds : List (Operation × Directive)) : (i.buildRecord c ds).Ordered := by
  induction ds using List.reverseRecOn with
  | nil => exact Record.ordered_empty
  | append_singleton ds x ih =>
    rw [buildRecord, List.foldl_append]
    exact ordered_apply _ ih

theorem value?_of_handler_field {d : Directive} {f : String} (h : f = "api" ∨ f = "api_method") :
    i.value? c d f = none := by
  unfold value?
  cases d.kind with
  | api =>
    rcases h with rfl | rfl
    · cases d.get? "api" <;> rfl
    · cases d.get? "api_method" <;> rfl
  | validLimit => rcases h with rfl | rfl <;> simp
  | validFile => rcases h with rfl | rfl <;> simp

/-- One more directive: it writes over every field but the function to register. -/
theorem fieldValue?_concat (ds : List (Operation × Directive)) (x : Operation × Directive) (f : String) :
    i.fieldValue? c (ds ++ [x]) f = (i.value? c x.2 f).or
      (if f = "api" ∨ f = "api_method" then
        (i.fieldValue? c ds f).or (if x.2.kind = .api then some x.1.name else none)
      else i.fieldValue? c ds f) := by
  unfold fieldValue?
  by_cases hf : f = "api" ∨ f = "api_method"
  · rw [value?_of_handler_field i c hf]
    simp only [hf, if_true, List.find?_append, Option.none_or]
    by_cases hk : x.2.kind = .api <;> cases ds.find? fun x => x.2.kind == .api <;> simp [hk]
  · simp only [hf, if_false, List.filterMap_append, List.getLast?_append]
    cases hv : i.value? c x.2 f <;> simp [hv]

theorem get?_buildRecord {ds : List (Operation × Directive)}
    (hn : ∀ x ∈ ds, (x.2.args.map (·.1)).Nodup) (f : String) :
    (i.buildRecord c ds).get? f = i.fieldValue? c ds f := by
  induction ds using List.reverseRecOn with
  | nil => simp [buildRecord, fieldValue?, Record.get?]
  | append_singleton ds x ih =>
    have ih := ih fun y hy => hn y (List.mem_append_left _ hy)
    rw [buildRecord, List.foldl_append, List.foldl_cons, List.foldl_nil, ← buildRecord, get?_apply,
      ih, lookup_contributed i x.1 c (hn x (by simp)), handler_contributed, fieldValue?_concat]

/-- No directive writes outside the fields of a record. -/
theorem value?_of_not_mem {d : Directive} {f : String} (h : f ∉ fieldNames) : i.value? c d f = none := by
  simp only [fieldNames, List.mem_cons, List.not_mem_nil, or_false, not_or] at h
  obtain ⟨-, -, hbl, hbt, hds, hm, hnet, hp, hr, hvf, hvl, hval⟩ := h
  unfold value?
  cases d.kind with
  | api =>
    rw [if_neg hnet]
    cases d.get? f with
    | none => rfl
    | some raw =>
      simp only [Option.bind_some]
      unfold argumentValue?
      split <;> simp_all
  | validLimit => simp [hvl]
  | validFile => simp [hvf]

theorem fieldValue?_of_not_mem (ds : List (Operation × Directive)) {f : String} (h : f ∉ fieldNames) :
    i.fieldValue? c ds f = none := by
  have hf : ¬(f = "api" ∨ f = "api_method") := by
    rintro (rfl | rfl) <;> exact h (by decide)
  have hnil : (ds.filterMap fun x => i.value? c x.2 f) = [] :=
    List.filterMap_eq_nil_iff.2 fun x _ => value?_of_not_mem i c h
  rw [fieldValue?, if_neg hf, hnil, List.getLast?_nil]

theorem fieldNames_ascending : fieldNames.Pairwise (· < ·) := by decide

theorem ordered_recordOf (ds : List (Operation × Directive)) : (i.recordOf c ds).Ordered := by
  have h := Table.keys_filterMap id (i.fieldValue? c ds) fieldNames
  rw [List.map_id] at h
  exact List.pairwise_map.1 (fieldNames_ascending.sublist h)

theorem get?_recordOf (ds : List (Operation × Directive)) (f : String) :
    (i.recordOf c ds).get? f = i.fieldValue? c ds f := by
  have hn : (fieldNames.map id).Nodup := by decide
  refine (Table.lookup_filterMap id (i.fieldValue? c ds) hn f).trans ?_
  cases hfind : fieldNames.find? fun g => id g = f with
  | none =>
    have hf : f ∉ fieldNames := fun hf => by simpa using List.find?_eq_none.1 hfind f hf
    rw [fieldValue?_of_not_mem i c ds hf, Option.bind_none]
  | some g =>
    have hg : g = f := by simpa using List.find?_some hfind
    rw [hg, Option.bind_some]

/-- The record that directives build is the one that they are read as. -/
theorem buildRecord_eq {ds : List (Operation × Directive)}
    (hn : ∀ x ∈ ds, (x.2.args.map (·.1)).Nodup) : i.buildRecord c ds = i.recordOf c ds := by
  refine Record.ext_of_get? (ordered_buildRecord i c ds) (ordered_recordOf i c ds) fun f => ?_
  rw [get?_buildRecord i c hn, get?_recordOf]

end Record

/-! ## Channels -/

theorem records_foldl_addImport (paths : List String) (e : ChannelEntries) :
    (paths.foldl ChannelEntries.addImport e).records = e.records := by
  induction paths generalizing e with
  | nil => rfl
  | cons path paths ih =>
    rw [List.foldl_cons, ih, ChannelEntries.addImport]
    split <;> rfl

theorem imports_foldl_addImport (paths : List String) (e : ChannelEntries) :
    (paths.foldl ChannelEntries.addImport e).imports =
      (paths.filterMap importText?).foldl (fun acc s => insertSorted s acc) e.imports := by
  induction paths generalizing e with
  | nil => rfl
  | cons path paths ih =>
    rw [List.foldl_cons, ih, List.filterMap_cons, ChannelEntries.addImport, importText?]
    by_cases h : ChannelEntries.importPath path = "" <;> simp [h, String.isEmpty_iff]

section Channel
variable (i : Interpreter) (c : Channel)

/-- The entries of a channel that directives build, one after another. -/
def buildChannel (e : ChannelEntries) (ds : List (Operation × Directive)) : ChannelEntries :=
  ds.foldl (fun e x => contribute x.1.handlerKey e (i.contributed x.1 c x.2)) e

theorem imports_buildChannel (e : ChannelEntries) (ds : List (Operation × Directive)) :
    (i.buildChannel c e ds).imports =
      ((ds.flatMap fun x => i.importsOf c x.2).filterMap importText?).foldl
        (fun acc s => insertSorted s acc) e.imports := by
  induction ds generalizing e with
  | nil => rfl
  | cons x ds ih =>
    rw [buildChannel, List.foldl_cons, ← buildChannel, ih, contribute, imports_foldl_addImport,
      imports_contributed, List.flatMap_cons, List.filterMap_append, List.foldl_append]
    rfl

theorem records_buildChannel (e : ChannelEntries) (ds : List (Operation × Directive)) :
    (i.buildChannel c e ds).records =
      (ds.map fun x => (x.1.handlerKey, fun r : String × Record =>
        (r.1, (i.contributed x.1 c x.2).apply r.2))).foldl
        (fun l u => Table.adjust Prod.fst (fun k => (k, {})) u.1 u.2 l) e.records := by
  induction ds generalizing e with
  | nil => rfl
  | cons x ds ih =>
    rw [buildChannel, List.foldl_cons, ← buildChannel, ih, contribute, records_foldl_addImport,
      ChannelEntries.update, ChannelEntries.updateRecords_eq, List.map_cons, List.foldl_cons]

theorem foldl_record (key : String) (ds : List (Operation × Directive)) (r : Record) :
    ds.foldl (fun (e : String × Record) x => (e.1, (i.contributed x.1 c x.2).apply e.2)) (key, r) =
      (key, ds.foldl (fun r x => (i.contributed x.1 c x.2).apply r) r) := by
  induction ds generalizing r with
  | nil => rfl
  | cons x ds ih => exact ih _

theorem filter_arrivals (ops : List Operation) (key : String) :
    ((arrivals c ops).filter fun x => x.1.handlerKey = key) =
      arrivals c (ops.filter fun op => op.handlerKey = key) := by
  induction ops with
  | nil => rfl
  | cons op ops ih =>
    rw [arrivals, List.flatMap_cons, List.filter_append, ← arrivals, ih, List.filter_cons]
    by_cases h : op.handlerKey = key <;> simp [arrivals, h, List.filter_map, Function.comp_def]

theorem arrivals_concat (ops : List Operation) (op : Operation) :
    arrivals c (ops ++ [op]) = arrivals c ops ++
      ((recognised op).filter fun d => destination? op d == some c).map fun d => (op, d) := by
  simp [arrivals]

/-- The keys of the arriving directives are those of the operations that target the channel. -/
theorem keys_arrivals (ops : List Operation) :
    ((arrivals c ops).map fun x => x.1.handlerKey).eraseDups =
      ((ops.filter fun op => targets op c).map (·.handlerKey)).eraseDups := by
  induction ops using List.reverseRecOn with
  | nil => rfl
  | append_singleton ops op ih =>
    have htarget : targets op c = true ↔
        ¬((recognised op).filter fun d => destination? op d == some c) = [] := by
      rw [targets, List.any_eq_true, List.filter_eq_nil_iff]
      simp
    have hkeys := Table.eraseDups_append_map_const ((arrivals c ops).map fun x => x.1.handlerKey)
      op.handlerKey ((recognised op).filter fun d => destination? op d == some c)
    -- the directives of one operation all have its key, which counts once if there is one of them
    rw [arrivals_concat, List.map_append, List.map_map, Function.comp_def, hkeys, List.filter_append]
    by_cases ht : targets op c
    · have hmem : op.handlerKey ∈ (arrivals c ops).map (fun x => x.1.handlerKey) ↔
          op.handlerKey ∈ (ops.filter fun op => targets op c).map (·.handlerKey) := by
        rw [← List.mem_eraseDups, ih, List.mem_eraseDups]
      have hone : [op].filter (fun op => targets op c) = [op] := by simp [ht]
      rw [if_neg (htarget.1 ht), hone, List.map_append, List.map_singleton, Table.eraseDups_concat,
        Table.eraseDups_concat, ih]
      simp only [hmem]
    · have hnone : [op].filter (fun op => targets op c) = [] := by simp [ht]
      rw [if_pos (Classical.not_not.1 (mt htarget.2 ht)), hnone, List.append_nil, ih]

theorem nodup_of_mem_arrivals {ops : List Operation} {x : Operation × Directive}
    (h : x ∈ arrivals c ops) : (x.2.args.map (·.1)).Nodup := by
  obtain ⟨op, -, h⟩ := List.mem_flatMap.1 h
  obtain ⟨d, hd, rfl⟩ := List.mem_map.1 h
  exact nodup_of_mem_recognised (List.mem_filter.1 hd).1

/-- The entries that arriving directives build are those that they are read as. -/
theorem buildChannel_eq (ops : List Operation) :
    i.buildChannel c ([i.framework].foldl ChannelEntries.addImport {}) (arrivals c ops) =
      i.channelReading ops c := by
  refine ChannelEntries.eq_mk ?_ ?_
  · rw [imports_buildChannel, imports_foldl_addImport, ← List.foldl_append, ← List.filterMap_append,
      foldl_insertSorted, List.singleton_append]
  · rw [records_buildChannel, records_foldl_addImport, Table.foldl_adjust (fun _ => rfl), List.map_map]
    · -- each record is built from the directives under its own key
      rw [Function.comp_def, keys_arrivals]
      refine List.map_congr_left fun key _ => ?_
      rw [Table.entryOf_map, filter_arrivals, foldl_record, ← buildRecord,
        buildRecord_eq i c fun x hx => nodup_of_mem_arrivals c hx]
    · intro u hu r
      obtain ⟨x, -, rfl⟩ := List.mem_map.1 hu
      rfl

end Channel

/-! ## Packages -/

theorem channel_contributeAll (key : String) (xs : List (Channel × Contribution)) (p : PackageEntries)
    (c : Channel) :
    (contributeAll key xs p).channel c =
      ((xs.filter fun x => x.1 = c).map (·.2)).foldl (contribute key) (p.channel c) := by
  rw [contributeAll]
  induction xs generalizing p with
  | nil => rfl
  | cons x xs ih =>
    rw [List.foldl_cons, ih, PackageEntries.channel_updateChannel]
    by_cases h : x.1 = c
    · simp [h]
    · simp [h, Ne.symm h]

theorem identity_contributeAll (key : String) (xs : List (Channel × Contribution))
    (p : PackageEntries) : (contributeAll key xs p).identity = p.identity := by
  rw [contributeAll]
  induction xs generalizing p with
  | nil => rfl
  | cons x xs ih =>
    rw [List.foldl_cons, ih]
    simp [PackageEntries.identity]

section Package
variable (i : Interpreter)

theorem allContributed_channel (op : Operation) (c : Channel) :
    ((i.allContributed op).filter fun x => x.1 = c).map (·.2) =
      ((recognised op).filter fun d => destination? op d == some c).map (i.contributed op c) := by
  rw [allContributed]
  induction recognised op with
  | nil => rfl
  | cons d ds ih =>
    rw [List.filterMap_cons, List.filter_cons]
    cases hd : destination? op d with
    | none => simpa using ih
    | some c' =>
      by_cases h : c' = c
      · subst h
        simpa using ih
      · simpa [h] using ih

theorem channel_registers (op : Operation) (p : PackageEntries) (c : Channel) :
    (i.registers op p).channel c = i.buildChannel c (p.channel c) (arrivals c [op]) := by
  rw [registers, channel_contributeAll, allContributed_channel, buildChannel]
  simp [arrivals, List.foldl_map]

theorem channel_foldl_registers (ops : List Operation) (p : PackageEntries) (c : Channel) :
    (ops.foldl (fun p op => i.registers op p) p).channel c =
      i.buildChannel c (p.channel c) (arrivals c ops) := by
  induction ops generalizing p with
  | nil => rfl
  | cons op ops ih =>
    rw [List.foldl_cons, ih, channel_registers, buildChannel, buildChannel, buildChannel,
      ← List.foldl_append]
    simp [arrivals]

theorem identity_foldl_registers (ops : List Operation) (p : PackageEntries) :
    (ops.foldl (fun p op => i.registers op p) p).identity = p.identity := by
  induction ops generalizing p with
  | nil => rfl
  | cons op ops ih => rw [List.foldl_cons, ih, registers, identity_contributeAll]

theorem channel_empty (name directory framework : String) (c : Channel) :
    (PackageEntries.empty name directory framework).channel c =
      [framework].foldl ChannelEntries.addImport {} := by
  rw [PackageEntries.channel_empty, List.foldl_cons, List.foldl_nil]

theorem foldl_registers_eq (ops : List Operation) (id : String × String) :
    (ops.filter fun op => packageOf op = id).foldl (fun p op => i.registers op p)
      (PackageEntries.empty id.1 id.2 i.framework) = i.packageReading ops id := by
  have hid := identity_foldl_registers i (ops.filter fun op => packageOf op = id)
    (PackageEntries.empty id.1 id.2 i.framework)
  rw [PackageEntries.identity, PackageEntries.identity, Prod.mk.injEq] at hid
  refine PackageEntries.ext_of_channel hid.1 hid.2 fun c => ?_
  rw [channel_foldl_registers, channel_empty, buildChannel_eq]
  cases c <;> rfl

/-! ## The registry -/

theorem packages_foldl_update (ops : List Operation) (r : Registry) :
    (ops.foldl (fun r op => r.update op.packageName op.directory i.framework (i.registers op)) r).packages =
      (ops.map fun op => (packageOf op, i.registers op)).foldl
        (fun l u => Table.adjust PackageEntries.identity
          (fun k => PackageEntries.empty k.1 k.2 i.framework) u.1 u.2 l) r.packages := by
  induction ops generalizing r with
  | nil => rfl
  | cons op ops ih =>
    rw [List.foldl_cons, ih, Registry.update, Registry.updatePackages_eq, List.map_cons, List.foldl_cons,
      packageOf]

theorem foldl_update_eq (ops : List Operation) :
    (ops.foldl (fun r op => r.update op.packageName op.directory i.framework (i.registers op))
      ({} : Registry)).packages = (ops.map packageOf).eraseDups.map (i.packageReading ops) := by
  have hkeys : (ops.map fun op => (packageOf op, i.registers op)).map (·.1) = ops.map packageOf :=
    List.map_map
  rw [packages_foldl_update, Table.foldl_adjust (fun _ => rfl), hkeys]
  · refine List.map_congr_left fun id _ => ?_
    rw [Table.entryOf_map, foldl_registers_eq]
  · intro u hu p
    obtain ⟨op, -, rfl⟩ := List.mem_map.1 hu
    exact identity_contributeAll _ _ p

end Package

/-- Successful interpretation gives the reading of the operations. -/
theorem interpret_eq_reading {i : Interpreter} {ops : List Operation} {r : Registry}
    (h : (i.interpret ops).2 = .ok r) : r = i.reading ops := by
  rw [interpret] at h
  obtain ⟨s, hs, h⟩ := Logged.andThen_eq_ok_iff.1 h
  have hr : r = s.1 := by
    cases h
    rfl
  have hp : r.packages = (i.reading ops).packages := by
    rw [hr, operations_ok hs, foldl_update_eq, reading]
  cases r
  rw [reading, Registry.mk.injEq]
  exact hp

/-- Two methods of one name in one file, so with one key: the second is at home on tcp. -/
def twoMethods : List Operation :=
  [{ packageName := "shop", filename := "./shop/a.go", name := "Save", line := 3
     docs := ["// @Handler(type=\"api\", net=\"http\", path=\"/a\", validation=\"user\")",
       "// @Handler(type=\"valid.limit\", func=\"Check\")"] },
   { packageName := "shop", filename := "./shop/a.go", name := "Save", line := 9
     docs := ["// @Handler(type=\"api\", net=\"tcp\", msgId=\"proto|proto.Save\")",
       "// @Handler(type=\"valid.limit\", func=\"Never\")",
       "// @Handler(type=\"api\", net=\"http\", path=\"/b\")"] }]

/-- The last path stays, and the validator of the first method; that of the second goes nowhere. -/
def mergedMethods : List (List (String × Record) × List String) :=
  [([("./shop/a.goSave", ⟨[("api", "Save"), ("api_method", "Save"),
    ("net", "net_fw.HTNET_type_http"), ("path", "\"/b\""), ("valid.limit", "Check"),
    ("validation", "true")]⟩)], ["./shop/a.goSave"])]

theorem interpret_two_methods :
    (({} : Interpreter).interpret twoMethods).2 = .ok (({} : Interpreter).reading twoMethods) ∧
    (({} : Interpreter).reading twoMethods).packages.map (fun p => (p.http.records, p.tcp.keys)) =
      mergedMethods := by
  have hok : (({} : Interpreter).interpret twoMethods).2.toOption.map
      (fun r => r.packages.map fun p => (p.http.records, p.tcp.keys)) = some mergedMethods := by
    decide +kernel
  cases h : (({} : Interpreter).interpret twoMethods).2 with
  | error e =>
    rw [h] at hok
    cases hok
  | ok r =>
    rw [h] at hok
    rw [← interpret_eq_reading h]
    exact ⟨rfl, Option.some.inj hok⟩

end Registrar.Interpreter
