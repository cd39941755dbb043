import Registrar.Output.Synthesis
import Registrar.Proofs.FileTree
/-!
# What generating files does to a tree

Targets are generated in order up to the first that cannot be formatted or written (`generate_spec`);
the tree then holds the files of the targets before it (`Progress.tree`). Generating in a tree where
all of that succeeded once succeeds again (`generate_again`). Without writing, the tree stays as it is
and the files are those of a run that writes all of them (`generate_rehearsal`).
-/
namespace Registrar.Synthesis

/-! ## Targets at one place -/

/-- No two targets have paths with the same elements. -/
def Distinct (ts : List Target) : Prop := ts.Pairwise fun a b => Path.same a.path b.path = false

theorem collision?_eq_none_iff {earlier ts : List Target} :
    collision? earlier ts = none ↔
      (∀ b ∈ ts, ∀ a ∈ earlier, Path.same a.path b.path = false) ∧ Distinct ts := by
  induction ts generalizing earlier with
  | nil => simp [collision?, Distinct]
  | cons t ts ih =>
    rw [collision?]
    cases hf : earlier.find? fun e => Path.same e.path t.path with
    | some e =>
      have he : e ∈ earlier := List.mem_of_find?_eq_some hf
      have hsame : Path.same e.path t.path = true := by simpa using List.find?_some hf
      simp only [reduceCtorEq, false_iff, not_and]
      intro hall
      rw [hall t List.mem_cons_self e he] at hsame
      cases hsame
    | none =>
      -- the target joins the earlier ones, so that the rest is compared with it too
      have hnone : ∀ a ∈ earlier, Path.same a.path t.path = false := by
        simpa using List.find?_eq_none.1 hf
      simp only [ih, Distinct, List.pairwise_cons, List.forall_mem_cons]
      constructor
      · rintro ⟨hts, hd⟩
        exact ⟨⟨hnone, fun b hb => (hts b hb).2⟩, fun b hb => (hts b hb).1, hd⟩
      · rintro ⟨⟨-, hts⟩, ht, hd⟩
        exact ⟨fun b hb => ⟨ht b hb, hts b hb⟩, hd⟩

/-! ## One target -/

theorem file_ok {s : Synthesis} {t : Target} {f : GeneratedFile} (h : s.file t = .ok f) :
    f.packageName = t.package.name ∧ f.directory = t.package.directory ∧ f.channel = t.channel ∧
      f.path = t.path ∧ f.registrations = (t.package.channel t.channel).keys.length := by
  unfold file at h
  dsimp only at h
  split at h
  · cases h
  · cases h
    exact ⟨rfl, rfl, rfl, rfl, rfl⟩

/-- The place in a tree and the text of a target, when it has both. -/
def planned? (s : Synthesis) (tree : FileTree) (t : Target) : Option (Place × List UInt8) :=
  match s.file t, tree.locate t.path with
  | .ok f, .ok p => some (p, Text.Utf8.encode f.contents)
  | _, _ => none

theorem planned?_eq_some_iff {s : Synthesis} {tree : FileTree} {t : Target}
    {w : Place × List UInt8} :
    s.planned? tree t = some w ↔
      ∃ f, s.file t = .ok f ∧ tree.locate t.path = .ok w.1 ∧ w.2 = Text.Utf8.encode f.contents := by
  unfold planned?
  split
  · rename_i f p hf hp
    rw [Option.some.injEq]
    constructor
    · rintro rfl
      exact ⟨f, hf, hp, rfl⟩
    · rintro ⟨g, hg, hq, hw⟩
      rw [hf] at hg
      rw [hp] at hq
      cases hg
      cases hq
      exact Prod.ext rfl hw.symm
  · rename_i hno
    simp only [reduceCtorEq, false_iff, not_exists, not_and]
    intro f hf hp
    exact absurd hp (hno f _ hf)

theorem planned?_grows {s : Synthesis} {tree grown : FileTree} (h : tree.Grows grown) (t : Target) :
    s.planned? grown t = s.planned? tree t := by
  refine Option.ext fun w => ?_
  simp only [planned?_eq_some_iff, h.locate]

/-- The places and texts of targets. -/
def planned (s : Synthesis) (tree : FileTree) (ts : List Target) : List (Place × List UInt8) :=
  ts.filterMap (s.planned? tree)

theorem planned_grows {s : Synthesis} {tree grown : FileTree} (h : tree.Grows grown)
    (ts : List Target) : s.planned grown ts = s.planned tree ts := by
  rw [planned, planned, funext (planned?_grows h)]

/-- What a target gives when it is written: its place can be written and then holds its text. -/
theorem store_ok {s : Synthesis} (hd : s.dryRun = false) {tree after : FileTree} {t : Target}
    {f : GeneratedFile} {event : LogEvent} (hf : s.file t = .ok f)
    (h : s.store tree f = .ok (after, event)) :
    ∃ p, tree.Writable t.path p ∧ after = tree.put p (.file (Text.Utf8.encode f.contents)) ∧
      s.planned? tree t = some (p, Text.Utf8.encode f.contents) ∧ event = writtenEvent f := by
  obtain ⟨-, -, -, hpath, -⟩ := file_ok hf
  rw [store, hd, if_neg Bool.false_ne_true] at h
  split at h
  · rename_i written hw
    cases h
    obtain ⟨p, hp, rfl⟩ := FileTree.write_eq_ok_iff.1 hw
    rw [hpath] at hp
    exact ⟨p, hp, rfl, planned?_eq_some_iff.2 ⟨f, hf, hp.located, rfl⟩, rfl⟩
  · cases h

theorem store_of_writable {s : Synthesis} (hd : s.dryRun = false) {tree : FileTree} {t : Target}
    {f : GeneratedFile} {p : Place} (hf : s.file t = .ok f) (h : tree.Writable t.path p) :
    s.store tree f = .ok (tree.put p (.file (Text.Utf8.encode f.contents)), writtenEvent f) := by
  obtain ⟨-, -, -, hpath, -⟩ := file_ok hf
  rw [store, hd, if_neg Bool.false_ne_true, hpath, FileTree.write_eq_ok_iff.2 ⟨p, h, rfl⟩]

/-- Why a target ends a run in a tree. -/
def Fails (s : Synthesis) (tree : FileTree) (t : Target) (e : Failure) : Prop :=
  s.file t = .error e ∨ ∃ f x, s.file t = .ok f ∧
    tree.write f.path (Text.Utf8.encode f.contents) = .error x ∧ e = writeFailure f x

theorem store_error {s : Synthesis} {tree : FileTree} {f : GeneratedFile} {e : Failure}
    (h : s.store tree f = .error e) :
    ∃ x, tree.write f.path (Text.Utf8.encode f.contents) = .error x ∧ e = writeFailure f x := by
  unfold store at h
  split at h
  · cases h
  · split at h
    · cases h
    · rename_i x hx
      cases h
      exact ⟨x, hx, rfl⟩

/-! ## Runs over targets -/

/-- Some targets are done, and the rest is not: `out` is what generating all of them gives. -/
structure Progress (s : Synthesis) (tree : FileTree) (done rest : List Target)
    (out : FileTree × Logged Failure (List GeneratedFile)) : Prop where
  produced : ∀ t ∈ done, (s.planned? tree t).isSome
  proper : ∀ w ∈ s.planned tree done, w.1.isProper
  tree : out.1 = tree.putAll (s.planned tree done)
  ended : rest = [] → ∃ files, out.2.2 = .ok files
  stopped : ∀ t more, rest = t :: more → ∃ e, out.2.2 = .error e ∧ s.Fails out.1 t e

theorem Progress.stop {s : Synthesis} {tree : FileTree} {t : Target} {ts : List Target} {e : Failure}
    (h : s.Fails tree t e) : s.Progress tree [] (t :: ts) (tree, .fail e) where
  produced := fun _ h => nomatch h
  proper := fun _ h => nomatch h
  tree := rfl
  ended := fun h => nomatch h
  stopped := by
    rintro _ _ ⟨⟩
    exact ⟨e, rfl, h⟩

/-- Targets are generated in order up to the first that fails. -/
theorem generate_spec {s : Synthesis} (hd : s.dryRun = false) (tree : FileTree) (ts : List Target) :
    ∃ done rest, ts = done ++ rest ∧ s.Progress tree done rest (s.generate tree ts) := by
  induction ts generalizing tree with
  | nil =>
    refine ⟨[], [], rfl, ⟨?_, ?_, rfl, fun _ => ⟨[], rfl⟩, ?_⟩⟩
    · intro _ h
      cases h
    · intro _ h
      cases h
    · intro _ _ h
      cases h
  | cons t ts ih =>
    rw [generate]
    cases hf : s.file t with
    | error e => exact ⟨[], t :: ts, rfl, .stop (.inl hf)⟩
    | ok f =>
      dsimp only
      cases hs : s.store tree f with
      | error e =>
        obtain ⟨x, hx, he⟩ := store_error hs
        exact ⟨[], t :: ts, rfl, .stop (.inr ⟨f, x, hf, hx, he⟩)⟩
      | ok r =>
        obtain ⟨after, event⟩ := r
        obtain ⟨p, hp, rfl, hplan, -⟩ := store_ok hd hf hs
        -- the later targets lead in the written tree where they led before it
        have hgrows := hp.grows (Text.Utf8.encode f.contents)
        obtain ⟨done, rest, rfl, hdone⟩ := ih (tree.put p (.file (Text.Utf8.encode f.contents)))
        have hcons : s.planned tree (t :: done) = (p, Text.Utf8.encode f.contents) ::
            s.planned (tree.put p (.file (Text.Utf8.encode f.contents))) done := by
          rw [planned_grows hgrows]
          exact List.filterMap_cons_some hplan
        refine ⟨t :: done, rest, rfl, ⟨?_, ?_, ?_, ?_, ?_⟩⟩
        · rw [List.forall_mem_cons]
          refine ⟨by rw [hplan]; rfl, fun u hu => ?_⟩
          rw [← planned?_grows hgrows]
          exact hdone.produced u hu
        · rw [hcons, List.forall_mem_cons]
          exact ⟨hp.proper, hdone.proper⟩
        · rw [hcons]
          exact hdone.tree
        · intro hrest
          obtain ⟨files, hfiles⟩ := hdone.ended hrest
          refine ⟨f :: files, ?_⟩
          simp only [hfiles]
          rfl
        · intro u more hrest
          obtain ⟨e, he, hfail⟩ := hdone.stopped u more hrest
          refine ⟨e, ?_, hfail⟩
          simp only [he]
          rfl

theorem generate_grows {s : Synthesis} (hd : s.dryRun = false) (tree : FileTree) (ts : List Target) :
    tree.Grows (s.generate tree ts).1 := by
  induction ts generalizing tree with
  | nil => exact FileTree.Grows.refl tree
  | cons t ts ih =>
    rw [generate]
    cases hf : s.file t with
    | error e => exact FileTree.Grows.refl tree
    | ok f =>
      dsimp only
      cases hs : s.store tree f with
      | error e => exact FileTree.Grows.refl tree
      | ok r =>
        obtain ⟨p, hp, hafter, -, -⟩ := store_ok hd hf hs
        have hgrows : tree.Grows r.1 := hafter ▸ hp.grows _
        exact hgrows.trans (ih r.1)

/-- What the first step of a run that succeeds has done. -/
theorem generate_cons_ok {s : Synthesis} {tree after : FileTree} {t : Target} {ts : List Target}
    {log : Log} {files : List GeneratedFile}
    (h : s.generate tree (t :: ts) = (after, log, .ok files)) :
    ∃ f written event more rest, s.file t = .ok f ∧ s.store tree f = .ok (written, event) ∧
      s.generate written ts = (after, more, .ok rest) ∧ log = event :: more ∧ files = f :: rest := by
  rw [generate] at h
  cases hf : s.file t with
  | error e => rw [hf] at h; cases h
  | ok f =>
    rw [hf] at h
    dsimp only at h
    cases hs : s.store tree f with
    | error e => rw [hs] at h; cases h
    | ok r =>
      rw [hs] at h
      rcases hr : s.generate r.1 ts with ⟨final, more, result⟩
      simp only [hr] at h
      cases result with
      | error e => cases h
      | ok rest =>
        cases h
        exact ⟨f, r.1, r.2, more, rest, rfl, hs, hr, rfl, rfl⟩

/-- Where all targets could be written, they can be written again, to the same effect. -/
theorem generate_again {s : Synthesis} (hd : s.dryRun = false) {tree grown after : FileTree}
    (hgrows : tree.Grows grown) {ts : List Target} {log : Log} {files : List GeneratedFile}
    (h : s.generate tree ts = (after, log, .ok files)) :
    s.generate grown ts = (grown.putAll (s.planned tree ts), log, .ok files) := by
  induction ts generalizing tree grown log files with
  | nil =>
    cases h
    rfl
  | cons t ts ih =>
    obtain ⟨f, written, event, more, rest, hf, hs, hr, rfl, rfl⟩ := generate_cons_ok h
    obtain ⟨p, hp, rfl, hplan, rfl⟩ := store_ok hd hf hs
    rw [generate, hf]
    simp only [store_of_writable hd hf (hgrows.writable hp), ih (hgrows.put hp.proper _) hr]
    rw [planned_grows (hp.grows _)]
    simp only [planned, List.filterMap_cons_some hplan]
    rfl

/-- Without writing, the tree stays as it is. -/
theorem generate_dry_tree {s : Synthesis} (hd : s.dryRun = true) (tree : FileTree)
    (ts : List Target) : (s.generate tree ts).1 = tree := by
  induction ts with
  | nil => rfl
  | cons t ts ih =>
    rw [generate]
    cases s.file t with
    | error e => rfl
    | ok f =>
      simp only [store, hd, if_true]
      exact ih

/-- The same files without writing them. -/
def rehearsal (s : Synthesis) : Synthesis := { s with dryRun := true }

/-- Without writing, the files are those that would have been written. -/
theorem generate_rehearsal {s : Synthesis} {tree after : FileTree} {ts : List Target} {log : Log}
    {files : List GeneratedFile} (h : s.generate tree ts = (after, log, .ok files)) (other : FileTree) :
    (s.rehearsal.generate other ts).2.2 = .ok files := by
  induction ts generalizing tree log files with
  | nil =>
    cases h
    rfl
  | cons t ts ih =>
    obtain ⟨f, written, event, more, rest, hf, -, hr, -, rfl⟩ := generate_cons_ok h
    have hfile : s.rehearsal.file t = .ok f := hf
    have hstore : s.rehearsal.store other f = .ok (other, notWrittenEvent f) := rfl
    rw [generate, hfile]
    simp only [hstore, ih hr]
    rfl

/-- The files are those of the targets, in order. -/
theorem generate_files {s : Synthesis} {tree after : FileTree} {ts : List Target} {log : Log}
    {files : List GeneratedFile} (h : s.generate tree ts = (after, log, .ok files)) :
    List.Forall₂ (fun t f => s.file t = .ok f) ts files := by
  induction ts generalizing tree log files with
  | nil =>
    cases h
    exact .nil
  | cons t ts ih =>
    obtain ⟨f, written, event, more, rest, hf, -, hr, -, rfl⟩ := generate_cons_ok h
    exact .cons hf (ih hr)

/-! ## Runs over a registry -/

theorem run_of_distinct {s : Synthesis} {root : String} {r : Registry}
    (h : Distinct (s.targets root r)) (tree : FileTree) :
    s.run tree root r = s.generate tree (s.targets root r) := by
  have hnone : collision? [] (s.targets root r) = none :=
    collision?_eq_none_iff.2 ⟨by simp, h⟩
  simp only [run, hnone]

/-- Nothing is written when two targets have one path. -/
theorem run_of_not_distinct {s : Synthesis} {root : String} {r : Registry}
    (h : ¬Distinct (s.targets root r)) (tree : FileTree) :
    ∃ e, s.run tree root r = (tree, .fail e) := by
  cases hc : collision? [] (s.targets root r) with
  | none => exact absurd (collision?_eq_none_iff.1 hc).2 h
  | some pair => exact ⟨collisionFailure pair.1 pair.2, by simp only [run, hc]⟩

end Registrar.Synthesis
