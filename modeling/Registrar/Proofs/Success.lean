import Registrar.Proofs.Collection
/-!
# When interpretation succeeds

Interpretation succeeds when every operation that it reads can be read on its own, and then gives the
reading of the operations (`interpret_eq_ok_iff`). What a reading holds for one package depends on the
operations of that package alone (`reading_filter`), and a registry gives it for the package
(`get?_of_interpret`).
-/
namespace Registrar.Interpreter

/-! ## Success -/

/-- The directives of the operation are in order. -/
def Readable (i : Interpreter) (op : Operation) : Prop := ∃ found, (i.operation op).2 = .ok found

theorem failAt_eq_ok_iff {α : Type} {op : Operation} {x : Logged Problem α} {a : α} :
    (failAt op x).2 = .ok a ↔ x.2 = .ok a := by
  rw [failAt]
  cases x.2 with
  | error e => simp [Except.mapError]
  | ok b => simp [Except.mapError]

theorem operations_succeed_iff {i : Interpreter} {ops : List Operation} {s : Registry × Nat} :
    (∃ s', (i.operations ops s).2 = .ok s') ↔ ∀ op ∈ ops, i.selects op → i.Readable op := by
  induction ops generalizing s with
  | nil => simp [operations, Logged.ok]
  | cons op ops ih =>
    obtain ⟨registry, n⟩ := s
    rw [operations, List.forall_mem_cons]
    cases hsel : i.selects op with
    | false => simpa using ih
    | true =>
      simp only [if_true, forall_const]
      constructor
      · rintro ⟨s', h⟩
        obtain ⟨found, hfound, h⟩ := Logged.andThen_eq_ok_iff.1 h
        refine ⟨⟨found, failAt_eq_ok_iff.1 hfound⟩, ?_⟩
        cases found with
        | none => exact ih.1 ⟨s', h⟩
        | some xs => exact ih.1 ⟨s', h⟩
      · rintro ⟨⟨found, hfound⟩, hrest⟩
        -- the rest succeeds from whatever the operation leaves
        cases found with
        | none =>
          obtain ⟨s', hs⟩ := ih (s := (registry, n)).2 hrest
          exact ⟨s', Logged.andThen_eq_ok_iff.2 ⟨none, failAt_eq_ok_iff.2 hfound, hs⟩⟩
        | some xs =>
          obtain ⟨s', hs⟩ := ih (s := (registry.update op.packageName op.directory i.framework
            (contributeAll op.handlerKey xs), n + 1)).2 hrest
          exact ⟨s', Logged.andThen_eq_ok_iff.2 ⟨some xs, failAt_eq_ok_iff.2 hfound, hs⟩⟩

/-- Interpretation succeeds exactly when every operation that it reads can be read on its own, and
gives the reading. -/
theorem interpret_eq_ok_iff {i : Interpreter} {ops : List Operation} {r : Registry} :
    (i.interpret ops).2 = .ok r ↔
      (∀ op ∈ ops, i.selects op → i.Readable op) ∧ r.packages = (i.reading ops).packages := by
  have hgives : ∀ {s : Registry × Nat}, (i.operations ops ({}, 0)).2 = .ok s →
      s.1.packages = (i.reading ops).packages := by
    intro s hs
    rw [operations_ok hs, foldl_update_eq, reading]
  rw [interpret, Logged.andThen_eq_ok_iff, ← operations_succeed_iff (s := ({}, 0))]
  constructor
  · rintro ⟨s, hs, h⟩
    cases h
    exact ⟨⟨s, hs⟩, hgives hs⟩
  · rintro ⟨⟨s, hs⟩, hr⟩
    have hsame : s.1 = r := by
      rw [← hgives hs] at hr
      cases r
      exact congrArg Registry.mk hr.symm
    exact ⟨s, hs, congrArg Except.ok hsame⟩

/-! ## Parts of a reading -/

theorem channel_packageReading (i : Interpreter) (ops : List Operation) (id : String × String)
    (c : Channel) : (i.packageReading ops id).channel c =
      i.channelReading (ops.filter fun op => packageOf op = id) c := by
  cases c <;> rfl

theorem identity_packageReading (i : Interpreter) (ops : List Operation) (id : String × String) :
    (i.packageReading ops id).identity = id := rfl

/-- The part of a reading about some packages is the reading of their operations. -/
theorem reading_filter (i : Interpreter) (ops : List Operation) (q : String × String → Bool) :
    (i.reading (ops.filter fun op => q (packageOf op))).packages =
      (i.reading ops).packages.filter fun e => q e.identity := by
  have hannotated : i.annotated (ops.filter fun op => q (packageOf op)) =
      (i.annotated ops).filter fun op => q (packageOf op) := by
    rw [annotated, annotated, List.filter_filter, List.filter_filter]
    exact List.filter_congr fun op _ => Bool.and_comm _ _
  have hpackages : ((i.annotated ops).filter fun op => q (packageOf op)).map packageOf =
      ((i.annotated ops).map packageOf).filter q := (List.filter_map).symm
  rw [reading, reading, hannotated, hpackages, Table.eraseDups_filter, List.filter_map]
  refine List.map_congr_left fun id hid => ?_
  have hq : q id = true := (List.mem_filter.1 hid).2
  -- the operations of a package that counts are all kept
  have hown : ((i.annotated ops).filter fun op => q (packageOf op)).filter
      (fun op => packageOf op = id) = (i.annotated ops).filter fun op => packageOf op = id := by
    rw [List.filter_filter]
    refine List.filter_congr fun op _ => ?_
    by_cases h : packageOf op = id
    · simp [h, hq]
    · simp [h]
  rw [packageReading, packageReading, hown]

/-- Each package is listed once. -/
theorem nodup_reading (i : Interpreter) (ops : List Operation) :
    ((i.reading ops).packages.map PackageEntries.identity).Nodup := by
  have hid : PackageEntries.identity ∘ i.packageReading (i.annotated ops) = id := rfl
  rw [reading, List.map_map, hid, List.map_id]
  exact Table.nodup_eraseDups _

/-- What a registry lists for a package is what it gives for it. -/
theorem filter_packages {i : Interpreter} {ops : List Operation} {r : Registry}
    (h : (i.interpret ops).2 = .ok r) (id : String × String) :
    (r.packages.filter fun e => e.identity = id) = (r.get? id.1 id.2).toList := by
  have hnodup : (r.packages.map PackageEntries.identity).Nodup := by
    rw [(interpret_eq_ok_iff.1 h).2]
    exact nodup_reading i ops
  rw [Registry.get?_eq_find?]
  exact Table.filter_eq_find? PackageEntries.identity hnodup id

/-- A registry has the reading of every package with a directive. -/
theorem get?_of_interpret {i : Interpreter} {ops : List Operation} {r : Registry}
    (h : (i.interpret ops).2 = .ok r) {op : Operation} (hop : op ∈ i.annotated ops) :
    r.get? op.packageName op.directory =
      some (i.packageReading (i.annotated ops) (packageOf op)) := by
  have hlisted : i.packageReading (i.annotated ops) (packageOf op) ∈
      r.packages.filter fun e => e.identity = packageOf op := by
    rw [(interpret_eq_ok_iff.1 h).2, reading]
    refine List.mem_filter.2 ⟨List.mem_map.2 ⟨packageOf op, ?_, rfl⟩, by simp [identity_packageReading]⟩
    exact List.mem_eraseDups.2 (List.mem_map.2 ⟨op, hop, rfl⟩)
  rw [filter_packages h] at hlisted
  exact Option.mem_toList.1 hlisted

end Registrar.Interpreter
