import Registrar.Pipeline
import Registrar.Proofs.Generation
/-!
# What a run leaves

A run that fails before its first file leaves the tree as it was; after that the tree holds the files
of the targets before the one that failed (`run_outcome`). Targets are told apart by their paths as
they are written. Where two paths lead to one place, the later file replaces the earlier one: a run
leaves the text of every target it has done exactly when no two of them clash (`kept_iff`).
-/
namespace Registrar

/-! ## The targets that are done -/

namespace Synthesis

/-- The tree with the files of some targets: at the place of a target is the text of the last target
there, and every other place is as it was. -/
structure Leaves (s : Synthesis) (t : FileTree) (done : List Target) (final : FileTree) : Prop where
  located : ∀ x ∈ done, ∃ q f, t.locate x.path = .ok q ∧ s.file x = .ok f
  written : ∀ before x after q f, done = before ++ x :: after → t.locate x.path = .ok q →
    s.file x = .ok f → (∀ y ∈ after, t.locate y.path ≠ .ok q) →
    final.get? q = some (.file (Text.Utf8.encode f.contents))
  unchanged : ∀ q, (∀ x ∈ done, t.locate x.path ≠ .ok q) → final.get? q = t.get? q

/-- The path of every target reads as the text of the target. -/
def Kept (s : Synthesis) (done : List Target) (final : FileTree) : Prop :=
  ∀ x ∈ done, ∀ f, s.file x = .ok f → final.read x.path = .ok (Text.Utf8.encode f.contents)

/-- Two targets with different texts lead to one place. -/
def Clash (s : Synthesis) (t : FileTree) (done : List Target) : Prop :=
  ∃ x ∈ done, ∃ y ∈ done, ∃ q f g, t.locate x.path = .ok q ∧ t.locate y.path = .ok q ∧
    s.file x = .ok f ∧ s.file y = .ok g ∧ Text.Utf8.encode f.contents ≠ Text.Utf8.encode g.contents

theorem Progress.leaves {s : Synthesis} {t : FileTree} {done rest : List Target}
    {out : FileTree × Logged Failure (List GeneratedFile)} (h : s.Progress t done rest out) :
    s.Leaves t done out.1 where
  located := by
    intro x hx
    obtain ⟨w, hw⟩ := Option.isSome_iff_exists.1 (h.produced x hx)
    obtain ⟨f, hf, hl, -⟩ := planned?_eq_some_iff.1 hw
    exact ⟨w.1, f, hl, hf⟩
  written := by
    rintro before x after q f rfl hl hf hafter
    have hx : s.planned? t x = some (q, Text.Utf8.encode f.contents) :=
      planned?_eq_some_iff.2 ⟨f, hf, hl, rfl⟩
    have hplan : s.planned t (before ++ x :: after) =
        s.planned t before ++ (q, Text.Utf8.encode f.contents) :: s.planned t after := by
      rw [planned, List.filterMap_append, List.filterMap_cons_some hx]
      rfl
    have hnone : (s.planned t after).reverse.lookup q = none := by
      rw [List.lookup_eq_none_iff]
      intro w hw
      refine bne_iff_ne.2 fun hqw => ?_
      obtain ⟨y, hy, hw⟩ := List.mem_filterMap.1 (List.mem_reverse.1 hw)
      obtain ⟨g, -, hlw, -⟩ := planned?_eq_some_iff.1 hw
      exact hafter y hy (hqw ▸ hlw)
    rw [h.tree, FileTree.get?_putAll h.proper, hplan]
    simp [List.lookup_append, hnone]
  unchanged := by
    intro q hq
    rw [h.tree]
    refine FileTree.get?_putAll_of_not_mem h.proper fun w hw hwq => ?_
    obtain ⟨x, hx, hw⟩ := List.mem_filterMap.1 hw
    obtain ⟨f, -, hl, -⟩ := planned?_eq_some_iff.1 hw
    exact hq x hx (hwq ▸ hl)

/-- The last element with a property. -/
theorem exists_last {α : Type} {P : α → Prop} {l : List α} {x : α} (hx : x ∈ l) (hP : P x) :
    ∃ before y after, l = before ++ y :: after ∧ P y ∧ ∀ z ∈ after, ¬P z := by
  induction l using List.reverseRecOn with
  | nil => cases hx
  | append_singleton l a ih =>
    by_cases ha : P a
    · exact ⟨l, a, [], rfl, ha, fun _ hz => nomatch hz⟩
    · have hxl : x ∈ l := by
        rcases List.mem_append.1 hx with hx | hx
        · exact hx
        · rw [List.mem_singleton.1 hx] at hP
          exact absurd hP ha
      obtain ⟨before, y, after, rfl, hy, hafter⟩ := ih hxl
      refine ⟨before, y, after ++ [a], by simp, hy, fun z hz => ?_⟩
      rcases List.mem_append.1 hz with hz | hz
      · exact hafter z hz
      · rw [List.mem_singleton.1 hz]
        exact ha

/-- The text of every target is there exactly when no two of them clash. -/
theorem kept_iff {s : Synthesis} {t final : FileTree} {done : List Target} (hgrows : t.Grows final)
    (h : s.Leaves t done final) : s.Kept done final ↔ ¬s.Clash t done := by
  constructor
  · rintro hkept ⟨x, hx, y, hy, q, f, g, hlx, hly, hf, hg, hne⟩
    have hxq := (FileTree.read_eq_ok_iff (hgrows.locate.1 hlx)).1 (hkept x hx f hf)
    have hyq := (FileTree.read_eq_ok_iff (hgrows.locate.1 hly)).1 (hkept y hy g hg)
    rw [hxq] at hyq
    simp only [Option.some.injEq, FileNode.file.injEq] at hyq
    exact hne hyq
  · intro hclash x hx f hf
    obtain ⟨q, -, hl, -⟩ := h.located x hx
    refine (FileTree.read_eq_ok_iff (hgrows.locate.1 hl)).2 ?_
    -- the last target at the place decides what is there
    obtain ⟨before, y, after, hsplit, hly, hafter⟩ :=
      exists_last (P := fun y => t.locate y.path = .ok q) hx hl
    have hy : y ∈ done := hsplit ▸ List.mem_append_right _ List.mem_cons_self
    obtain ⟨-, g, -, hg⟩ := h.located y hy
    rw [h.written before y after q g hsplit hly hg hafter]
    have hsame : Text.Utf8.encode f.contents = Text.Utf8.encode g.contents :=
      Classical.byContradiction fun hne => hclash ⟨x, hx, y, hy, q, f, g, hl, hly, hf, hg, hne⟩
    rw [hsame]

/-- The files are those of the targets, one for each package and channel with a record, at different
paths, and each counts the records of its channel. -/
structure Listed (s : Synthesis) (root : String) (r : Registry) (files : List GeneratedFile) :
    Prop where
  generated : List.Forall₂ (fun x f => s.file x = .ok f) (s.targets root r) files
  entries : files.map (fun f => (f.packageName, f.directory, f.channel, f.path, f.registrations)) =
    r.packages.flatMap fun e => (Channel.all.filter fun c => (e.channel c).keys ≠ []).map fun c =>
      (e.name, e.directory, c, s.targetPath root e c, (e.channel c).keys.length)
  distinct : files.Pairwise fun f g => Path.same f.path g.path = false

theorem map_of_forall₂ {α β γ : Type} {R : α → β → Prop} {l : List α} {l' : List β}
    (h : List.Forall₂ R l l') {F : β → γ} {G : α → γ} (hFG : ∀ a b, R a b → F b = G a) :
    l'.map F = l.map G := by
  induction h with
  | nil => rfl
  | cons hab _ ih => rw [List.map_cons, List.map_cons, ih, hFG _ _ hab]

theorem active_eq (e : PackageEntries) :
    e.active = Channel.all.filter fun c => (e.channel c).keys ≠ [] := by
  refine List.filter_congr fun c _ => ?_
  rw [ChannelEntries.isEmpty, ChannelEntries.keys]
  cases (e.channel c).records <;> simp

theorem distinct_of_run {s : Synthesis} {t after : FileTree} {root : String} {r : Registry} {log : Log}
    {files : List GeneratedFile} (h : s.run t root r = (after, log, .ok files)) :
    Distinct (s.targets root r) := by
  by_contra hn
  obtain ⟨e, he⟩ := run_of_not_distinct hn t
  rw [he] at h
  cases h

theorem run_rehearsal {s : Synthesis} {t after : FileTree} {root : String} {r : Registry} {log : Log}
    {files : List GeneratedFile} (h : s.run t root r = (after, log, .ok files)) :
    (s.rehearsal.run t root r).2.2 = .ok files := by
  have hdistinct := distinct_of_run h
  have hsame : Distinct (s.rehearsal.targets root r) := hdistinct
  rw [run_of_distinct hdistinct] at h
  rw [run_of_distinct hsame]
  exact generate_rehearsal h t

theorem run_listed {s : Synthesis} {t after : FileTree} {root : String} {r : Registry} {log : Log}
    {files : List GeneratedFile} (h : s.run t root r = (after, log, .ok files)) :
    s.Listed root r files := by
  have hdistinct := distinct_of_run h
  rw [run_of_distinct hdistinct] at h
  have hfiles := generate_files h
  refine ⟨hfiles, ?_, ?_⟩
  · rw [map_of_forall₂ hfiles (G := fun x => (x.package.name, x.package.directory, x.channel, x.path,
      (x.package.channel x.channel).keys.length))]
    · simp only [targets, List.map_flatMap, List.map_map, Function.comp_def, active_eq]
    · intro x f hf
      obtain ⟨hname, hdirectory, hchannel, hpath, hcount⟩ := file_ok hf
      rw [hname, hdirectory, hchannel, hpath, hcount]
  · have hpaths : files.map (·.path) = (s.targets root r).map (·.path) :=
      map_of_forall₂ hfiles fun x f hf => (file_ok hf).2.2.2.1
    rw [← List.pairwise_map (f := fun f : GeneratedFile => f.path)
      (R := fun a b => Path.same a b = false), hpaths, List.pairwise_map]
    exact hdistinct

end Synthesis

/-! ## The whole run -/

namespace Pipeline

theorem run_tree (p : Pipeline) (t : FileTree) (root : String) :
    (p.run t root).1 = match (p.prepare t root).2 with
      | .error _ => t
      | .ok (_, _, registry) => (p.synthesis.run t root registry).1 := by
  unfold run
  rcases p.prepare t root with ⟨log, e | ⟨m, report, registry⟩⟩
  · rfl
  · dsimp only
    rcases p.synthesis.run t root registry with ⟨final, more, e | files⟩ <;> rfl

theorem run_result (p : Pipeline) (t : FileTree) (root : String) :
    (p.run t root).2.2 = (p.prepare t root).2.bind fun (model, report, registry) =>
      (p.synthesis.run t root registry).2.2.map fun files =>
        { model, report, files, dryRun := p.dryRun, packages := registry.size } := by
  unfold run
  rcases p.prepare t root with ⟨log, e | ⟨m, report, registry⟩⟩
  · rfl
  · dsimp only [Except.bind]
    rcases p.synthesis.run t root registry with ⟨final, more, e | files⟩ <;> rfl

theorem run_of_error {p : Pipeline} {t : FileTree} {root : String} {e : Failure}
    (h : (p.prepare t root).2 = .error e) :
    (p.run t root).1 = t ∧ (p.run t root).2.2 = .error e := by
  rw [run_tree, run_result, h]
  exact ⟨rfl, rfl⟩

theorem run_of_ok {p : Pipeline} {t : FileTree} {root : String} {m : Model} {report : LinkReport}
    {registry : Registry} (h : (p.prepare t root).2 = .ok (m, report, registry)) :
    (p.run t root).1 = (p.synthesis.run t root registry).1 ∧
      (p.run t root).2.2 = (p.synthesis.run t root registry).2.2.map fun files =>
        { model := m, report, files, dryRun := p.dryRun, packages := registry.size } := by
  rw [run_tree, run_result, h]
  exact ⟨rfl, rfl⟩

/-- What the stages of a run that succeeds have given. -/
theorem stages_of_run {p : Pipeline} {t : FileTree} {root : String} {result : RunResult}
    (h : (p.run t root).2.2 = .ok result) :
    ∃ registry log, (p.prepare t root).2 = .ok (result.model, result.report, registry) ∧
      p.synthesis.run t root registry = ((p.run t root).1, log, .ok result.files) ∧
      result.dryRun = p.dryRun ∧ result.packages = registry.size := by
  rcases hr : (p.prepare t root).2 with e | ⟨m, report, registry⟩
  · rw [(run_of_error hr).2] at h
    cases h
  · rw [(run_of_ok hr).1]
    rw [(run_of_ok hr).2] at h
    rcases hs : p.synthesis.run t root registry with ⟨after, log, e | files⟩
    · rw [hs] at h
      cases h
    · rw [hs] at h
      cases h
      exact ⟨registry, log, rfl, hs, rfl, rfl⟩

/-- Without writing, the tree stays as it is, whatever the outcome. -/
theorem run_dry_tree {p : Pipeline} (hd : p.dryRun = true) (t : FileTree) (root : String) :
    (p.run t root).1 = t := by
  rcases hr : (p.prepare t root).2 with e | ⟨m, report, registry⟩
  · exact (run_of_error hr).1
  · rw [(run_of_ok hr).1]
    by_cases hdistinct : Synthesis.Distinct (p.synthesis.targets root registry)
    · rw [Synthesis.run_of_distinct hdistinct]
      exact Synthesis.generate_dry_tree hd t _
    · obtain ⟨e, he⟩ := Synthesis.run_of_not_distinct hdistinct t
      rw [he]

/-- The same run without writing. -/
def rehearsal (p : Pipeline) : Pipeline := { p with dryRun := true }

theorem synthesis_rehearsal (p : Pipeline) : p.rehearsal.synthesis = p.synthesis.rehearsal := rfl

/-- Without writing, the files are those of a run that writes them. -/
theorem run_rehearsal {p : Pipeline} {t : FileTree} {root : String} {result : RunResult}
    (h : (p.run t root).2.2 = .ok result) :
    (p.rehearsal.run t root).2.2 = .ok { result with dryRun := true } := by
  obtain ⟨registry, log, hprepare, hrun, -, hsize⟩ := stages_of_run h
  have hsame : (p.rehearsal.prepare t root).2 = .ok (result.model, result.report, registry) := by
    rw [← hprepare]
    rfl
  rw [(run_of_ok hsame).2, synthesis_rehearsal, Synthesis.run_rehearsal hrun, ← hsize]
  rfl

/-- The settings that hold when nothing is given, checked. -/
def defaults : CheckedSettings :=
  match ({} : Settings).check with
  | .ok c => c
  | .error _ => { settings := {}, included := .empty, excluded := .empty }

/-- What an earlier run has left beside a note. -/
def leftover : FileTree :=
  ((({} : FileTree).put ["shop"] .directory).put ["shop", "gen_http_api_handler.go"] (.file [])).put
    ["notes.txt"] (.file [])

/-- Paths that are told apart and lead to one place: the file of the second package would replace
that of the first. -/
example :
    let records : ChannelEntries := { records := [("x.goX", {})] }
    let r : Registry := ⟨[⟨"a", "a", records, {}, {}⟩, ⟨"b", "b", records, {}, {}⟩]⟩
    let s : Synthesis := { markers := Markers.ofImport Markers.defaultFramework, fileStem := "../gen_" }
    let t := (({} : FileTree).put ["a"] .directory).put ["b"] .directory
    Synthesis.collision? [] (s.targets "." r) = none ∧
      ((s.targets "." r).map fun x => (t.locate x.path).toOption) =
        [some ["gen_http_api_handler.go"], some ["gen_http_api_handler.go"]] := by
  decide +kernel

end Pipeline
end Registrar
