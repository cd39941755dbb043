import Mathlib.Data.List.Nodup
import Registrar.Pipeline
import Registrar.Proofs.HandlerKeys
import Registrar.Proofs.Outcome
import Registrar.Proofs.SourceFiles
/-!
# The model of a directory

A model is built by adding the files found, one after the other. Its packages are the homes of the files in
the order of their first appearance, each with its own files (`packages_addFiles`), and its lists of entities
are those of the files one behind the other (`foldl_addFile`). Since the files found are those to be read and
stand in the order of their paths, so do the files of each package (`readModel_exact`).
-/
namespace Registrar

/-! ## Adding files -/

/-- What tells packages apart. -/
def PackageInfo.identity (p : PackageInfo) : String × String := (p.name, p.directory)

/-- The package of a file: the name in its clause, and its directory. -/
def Declarations.home (d : Declarations) : String × String := (d.packageName, Path.directoryOf d.filename)

namespace Model

theorem addToPackage_eq (name directory file : String) (l : List PackageInfo) :
    addToPackage name directory file l =
      Table.adjust PackageInfo.identity (fun k => ⟨k.1, k.2, []⟩) (name, directory)
        (fun p => { p with files := p.files ++ [file] }) l := by
  induction l with
  | nil => rfl
  | cons p l ih =>
    rw [addToPackage, Table.adjust, ih]
    simp only [PackageInfo.identity, Prod.mk.injEq]

/-- A list of the model that each file makes longer is the files' lists one behind the other. -/
theorem foldl_addFile {α : Type} {g : Model → List α} {f : Declarations → List α}
    (hstep : ∀ m d, g (m.addFile d) = g m ++ f d) (ds : List Declarations) (m : Model) :
    g (ds.foldl addFile m) = g m ++ ds.flatMap f := by
  induction ds generalizing m with
  | nil => simp
  | cons d ds ih => rw [List.foldl_cons, ih, hstep, List.flatMap_cons, List.append_assoc]

theorem foldl_addToPackage (ds : List Declarations) (m : Model) :
    (ds.foldl addFile m).packages =
      ds.foldl (fun l d => addToPackage d.packageName (Path.directoryOf d.filename) d.filename l) m.packages := by
  induction ds generalizing m with
  | nil => rfl
  | cons d ds ih =>
    rw [List.foldl_cons, ih]
    rfl

theorem foldl_files (ds : List Declarations) (p : PackageInfo) :
    ds.foldl (fun p d => { p with files := p.files ++ [d.filename] }) p =
      { p with files := p.files ++ ds.map (·.filename) } := by
  induction ds generalizing p with
  | nil => simp
  | cons d ds ih => simp [ih]

/-- The packages of a model are the homes of its files by first appearance, each with its own files. -/
theorem packages_addFiles (ds : List Declarations) {m : Model} (hm : m.packages = []) :
    (ds.foldl addFile m).packages = (ds.map Declarations.home).eraseDups.map fun k =>
      ⟨k.1, k.2, (ds.filter fun d => d.home = k).map (·.filename)⟩ := by
  have hadjust : (ds.foldl addFile m).packages =
      (ds.map fun d => (d.home, fun p : PackageInfo => { p with files := p.files ++ [d.filename] })).foldl
        (fun l u => Table.adjust PackageInfo.identity (fun k => ⟨k.1, k.2, []⟩) u.1 u.2 l) [] := by
    rw [foldl_addToPackage, hm, List.foldl_map]
    simp only [addToPackage_eq]
    rfl
  rw [hadjust, Table.foldl_adjust, List.map_map]
  · refine List.map_congr_left fun k _ => ?_
    rw [Table.entryOf_map, foldl_files, List.nil_append]
  · exact fun _ => rfl
  · rintro u hu x
    obtain ⟨d, -, rfl⟩ := List.mem_map.1 hu
    rfl

end Model

/-! ## Entities -/

/-- The entity is in the list of its kind. -/
def Declarations.Holds (d : Declarations) : SourceFile.Entity → Prop
  | .struct s => s ∈ d.structs
  | .operation o => o ∈ d.operations
  | .interface i => i ∈ d.interfaces
  | .typedef t => t ∈ d.typedefs
  | .enum e => e ∈ d.enums

/-- The entity is in the list of its kind. -/
def Model.Holds (m : Model) : SourceFile.Entity → Prop
  | .struct s => s ∈ m.structs
  | .operation o => o ∈ m.operations
  | .interface i => i ∈ m.interfaces
  | .typedef t => t ∈ m.typedefs
  | .enum e => e ∈ m.enums

/-- Each list of the model is made of the lists of the files, one behind the other. -/
structure Model.Concatenates (m : Model) (ds : List Declarations) : Prop where
  structs : m.structs = ds.flatMap (·.structs)
  operations : m.operations = ds.flatMap (·.operations)
  interfaces : m.interfaces = ds.flatMap (·.interfaces)
  typedefs : m.typedefs = ds.flatMap (·.typedefs)
  enums : m.enums = ds.flatMap (·.enums)

theorem Model.concatenates_addFiles (root : String) (ds : List Declarations) :
    (ds.foldl addFile { root }).Concatenates ds where
  structs := foldl_addFile (g := structs) (fun _ _ => rfl) ds { root }
  operations := foldl_addFile (g := operations) (fun _ _ => rfl) ds { root }
  interfaces := foldl_addFile (g := interfaces) (fun _ _ => rfl) ds { root }
  typedefs := foldl_addFile (g := typedefs) (fun _ _ => rfl) ds { root }
  enums := foldl_addFile (g := enums) (fun _ _ => rfl) ds { root }

/-- An entity of a model is one of a file. -/
theorem Model.Concatenates.holds {m : Model} {ds : List Declarations} (h : m.Concatenates ds)
    {e : SourceFile.Entity} (he : m.Holds e) : ∃ d ∈ ds, d.Holds e := by
  cases e with
  | struct s => exact List.mem_flatMap.1 (h.structs ▸ he)
  | operation o => exact List.mem_flatMap.1 (h.operations ▸ he)
  | interface i => exact List.mem_flatMap.1 (h.interfaces ▸ he)
  | typedef t => exact List.mem_flatMap.1 (h.typedefs ▸ he)
  | enum e => exact List.mem_flatMap.1 (h.enums ▸ he)

namespace SourceFile

theorem mem_of_holds {packageName filename : String} {es : List Entity} {e : Entity}
    (h : (declarationsOf packageName filename es).Holds e) : e ∈ es := by
  cases e with
  | struct s | operation s | interface s | typedef s | enum s =>
    obtain ⟨x, hx, hsome⟩ := List.mem_filterMap.1 h
    split at hsome
    · cases hsome
      exact hx
    · cases hsome

theorem filename_of_ofTree? {filename source : String} {tree? : Option Tree} {f : SourceFile}
    (h : ofTree? filename source tree? = .ok f) : f.filename = filename := by
  cases tree? with
  | none => cases h
  | some tree =>
    cases h
    rfl

/-- The declarations of a file name the file, and so does every entity among them. -/
theorem home_of_declarations {f : SourceFile} {d : Declarations} (h : f.declarations = .ok (some d)) :
    d.filename = f.filename ∧ ∀ e, d.Holds e → e.home = (d.packageName, d.filename) := by
  unfold declarations at h
  split at h
  · cases h
  · split at h
    · cases h
    · cases h
      exact ⟨rfl, fun e he => home_of_collect (mem_of_holds he)⟩

end SourceFile

/-! ## Reading -/

namespace Pipeline

/-- What a file gives to the model: nothing when a build constraint excludes it. -/
def declarations? (t : FileTree) (f : FoundFile) : Option Declarations :=
  match readFile t f with
  | .ok d => d
  | .error _ => none

theorem declarations?_eq_some_iff {t : FileTree} {f : FoundFile} {d : Declarations} :
    declarations? t f = some d ↔ readFile t f = .ok (some d) := by
  unfold declarations?
  split
  · rename_i h
    rw [h, Except.ok.injEq]
  · rename_i h
    simp [h]

theorem readFile_eq_ok {t : FileTree} {f : FoundFile} {d : Option Declarations} (h : readFile t f = .ok d) :
    ∃ text source, SourceFile.read f.relative text = .ok source ∧ source.declarations = .ok d := by
  unfold readFile at h
  cases htext : t.readText f.path with
  | error e => rw [htext] at h; cases h
  | ok text =>
    rw [htext] at h
    dsimp only at h
    cases hsource : SourceFile.read f.relative text with
    | error e => rw [hsource] at h; cases h
    | ok source =>
      rw [hsource] at h
      exact ⟨text, source, hsource, h⟩

theorem readFile_home {t : FileTree} {f : FoundFile} {d : Declarations} (h : readFile t f = .ok (some d)) :
    d.filename = f.relative ∧ ∀ e, d.Holds e → e.home = (d.packageName, f.relative) := by
  obtain ⟨text, source, hsource, hd⟩ := readFile_eq_ok h
  have hname : source.filename = f.relative := SourceFile.filename_of_ofTree? hsource
  obtain ⟨hfile, hhome⟩ := SourceFile.home_of_declarations hd
  rw [hfile, hname] at hhome
  exact ⟨hfile.trans hname, hhome⟩

theorem readFiles_ok {t : FileTree} {files : List FoundFile} {m : Model} {n : Nat} {r : Model × Nat}
    (h : (readFiles t m n files).2 = .ok r) :
    (∀ f ∈ files, ∃ d, readFile t f = .ok d) ∧ r.1 = (files.filterMap (declarations? t)).foldl Model.addFile m := by
  induction files generalizing m n with
  | nil =>
    cases h
    exact ⟨fun _ hf => (nomatch hf), rfl⟩
  | cons f files ih =>
    rw [readFiles] at h
    cases hf : readFile t f with
    | error e => rw [hf] at h; cases h
    | ok d =>
      rw [hf] at h
      have hgiven : declarations? t f = d := by rw [declarations?, hf]
      cases d with
      | none =>
        obtain ⟨_, -, h⟩ := Logged.andThen_eq_ok_iff.1 h
        obtain ⟨hread, hr⟩ := ih h
        rw [List.filterMap_cons_none hgiven]
        exact ⟨List.forall_mem_cons.2 ⟨⟨none, hf⟩, hread⟩, hr⟩
      | some d =>
        obtain ⟨_, -, h⟩ := Logged.andThen_eq_ok_iff.1 h
        obtain ⟨hread, hr⟩ := ih h
        rw [List.filterMap_cons_some hgiven, List.foldl_cons]
        exact ⟨List.forall_mem_cons.2 ⟨⟨some d, hf⟩, hread⟩, hr⟩

theorem readFiles_succeeds {t : FileTree} {files : List FoundFile}
    (h : ∀ f ∈ files, ∃ d, readFile t f = .ok d) (m : Model) (n : Nat) :
    ∃ r, (readFiles t m n files).2 = .ok r := by
  induction files generalizing m n with
  | nil => exact ⟨(m, n), rfl⟩
  | cons f files ih =>
    obtain ⟨⟨d, hf⟩, hrest⟩ := List.forall_mem_cons.1 h
    rw [readFiles, hf]
    cases d with
    | none =>
      obtain ⟨r, hr⟩ := ih hrest m (n + 1)
      exact ⟨r, Logged.andThen_eq_ok_iff.2 ⟨(), rfl, hr⟩⟩
    | some d =>
      obtain ⟨r, hr⟩ := ih hrest (m.addFile d) n
      exact ⟨r, Logged.andThen_eq_ok_iff.2 ⟨(), rfl, hr⟩⟩

/-- A model is read when every file found can be read, and it is then made of them in order. -/
theorem readModel_eq_ok_iff {p : Pipeline} {t : FileTree} {root : String} {m : Model} :
    (p.readModel t root).2 = .ok m ↔
      ∃ files, (Discovery.discover t p.checked root).2 = .ok files ∧
        (∀ f ∈ files, ∃ d, readFile t f = .ok d) ∧
        m = (files.filterMap (declarations? t)).foldl Model.addFile { root } := by
  unfold readModel
  constructor
  · intro h
    obtain ⟨files, hfiles, h⟩ := Logged.andThen_eq_ok_iff.1 h
    obtain ⟨r, hr, h⟩ := Logged.andThen_eq_ok_iff.1 h
    obtain ⟨_, -, h⟩ := Logged.andThen_eq_ok_iff.1 h
    cases h
    exact ⟨files, hfiles, readFiles_ok hr⟩
  · rintro ⟨files, hfiles, hread, rfl⟩
    obtain ⟨r, hr⟩ := readFiles_succeeds hread { root } 0
    refine Logged.andThen_eq_ok_iff.2 ⟨files, hfiles, Logged.andThen_eq_ok_iff.2 ⟨r, hr, ?_⟩⟩
    rw [← (readFiles_ok hr).2]
    exact Logged.andThen_eq_ok_iff.2 ⟨(), rfl, rfl⟩

end Pipeline

/-! ## Paths in one directory -/

namespace Path

theorem joinWith_inj {q r : List String} (hq : ∀ e ∈ q, Place.isName e = true)
    (hr : ∀ e ∈ r, Place.isName e = true) (h : Text.joinWith "/" q = Text.joinWith "/" r) : q = r := by
  have hslash : ∀ {l : List String}, (∀ e ∈ l, Place.isName e = true) → ∀ e ∈ l, '/' ∉ e.toList :=
    fun hl e he => Place.not_mem_of_isName (hl e he)
  -- no name is empty, so only the empty place gives the empty path
  have hempty : ∀ {l : List String}, (∀ e ∈ l, Place.isName e = true) → Text.joinWith "/" l = "" → l = [] := by
    intro l hl hjoin
    by_contra hne
    have hsplit := split_joinWith hne (hslash hl)
    rw [hjoin] at hsplit
    have hname := hl "" (hsplit ▸ List.mem_singleton.2 rfl)
    revert hname
    decide
  by_cases hnil : q = []
  · subst hnil
    exact (hempty hr (h.symm.trans (by simp [Text.joinWith]))).symm
  by_cases hnil' : r = []
  · subst hnil'
    exact hempty hq (h.trans (by simp [Text.joinWith]))
  · rw [← split_joinWith hnil (hslash hq), h, split_joinWith hnil' (hslash hr)]

/-- Two files of one directory are ordered by their paths as they are by their names. -/
theorem joinWith_lt_of_directoryOf_eq {q r : Place} (hq : q ≠ [] ∧ ∀ e ∈ q, Place.isName e = true)
    (hr : r ≠ [] ∧ ∀ e ∈ r, Place.isName e = true)
    (hdirectory : directoryOf (Text.joinWith "/" q) = directoryOf (Text.joinWith "/" r)) (h : q < r) :
    Text.joinWith "/" q < Text.joinWith "/" r := by
  obtain ⟨d, a, rfl⟩ := List.eq_nil_or_concat' q |>.resolve_left hq.1
  obtain ⟨d', b, rfl⟩ := List.eq_nil_or_concat' r |>.resolve_left hr.1
  rw [directoryOf_joinWith d (Place.not_mem_of_isName (hq.2 a (by simp))),
    directoryOf_joinWith d' (Place.not_mem_of_isName (hr.2 b (by simp)))] at hdirectory
  have hsame : d = d' := joinWith_inj (fun e he => hq.2 e (by simp [he])) (fun e he => hr.2 e (by simp [he]))
    hdirectory
  subst hsame
  have hlt : a < b := by
    have hlast := Place.lt_of_append_lt h
    rw [List.cons_lt_cons_iff] at hlast
    exact hlast.resolve_right fun hnil => List.not_lt_nil _ hnil.2
  by_cases hd : d = []
  · subst hd
    simpa [Text.joinWith] using hlt
  · rw [joinWith_concat hd, joinWith_concat hd, String.lt_iff]
    simp only [String.toList_append]
    exact List.append_left_lt (String.lt_iff.1 hlt)

theorem encode_lt_of_components_lt {q r : Place} (hq : q ≠ [] ∧ ∀ e ∈ q, Place.isName e = true)
    (hr : r ≠ [] ∧ ∀ e ∈ r, Place.isName e = true)
    (hdirectory : directoryOf (Text.joinWith "/" q) = directoryOf (Text.joinWith "/" r))
    (h : components (Text.joinWith "/" q) < components (Text.joinWith "/" r)) :
    Text.Utf8.encode (Text.joinWith "/" q) < Text.Utf8.encode (Text.joinWith "/" r) := by
  rw [components_joinWith hq.1 fun e he => Place.not_mem_of_isName (hq.2 e he),
    components_joinWith hr.1 fun e he => Place.not_mem_of_isName (hr.2 e he)] at h
  refine Text.Utf8.encode_lt_iff.2 (joinWith_lt_of_directoryOf_eq hq hr hdirectory ?_)
  by_contra hlt
  by_cases hgt : r < q
  · exact List.lt_asymm h (List.map_lt (fun _ _ => Text.Utf8.encode_lt_iff.2) hgt)
  · obtain rfl : q = r := Std.Trichotomous.trichotomous q r hlt hgt
    exact List.lt_irrefl _ h

end Path

/-! ## The whole model -/

namespace Model

theorem mem_packages_addFiles {ds : List Declarations} {root : String} {p : PackageInfo} :
    p ∈ (ds.foldl addFile { root }).packages ↔
      (∃ d ∈ ds, d.home = p.identity) ∧
        p.files = (ds.filter fun d => d.home = p.identity).map (·.filename) := by
  rw [packages_addFiles ds rfl, List.mem_map]
  constructor
  · rintro ⟨k, hk, rfl⟩
    exact ⟨List.mem_map.1 (List.mem_eraseDups.1 hk), rfl⟩
  · rintro ⟨hhome, hfiles⟩
    refine ⟨p.identity, List.mem_eraseDups.2 (List.mem_map.2 hhome), ?_⟩
    obtain ⟨name, directory, files⟩ := p
    dsimp only at hfiles
    rw [hfiles]
    rfl

theorem eq_of_identity_eq {ds : List Declarations} {root : String} {p q : PackageInfo}
    (hp : p ∈ (ds.foldl addFile { root }).packages) (hq : q ∈ (ds.foldl addFile { root }).packages)
    (h : p.identity = q.identity) : p = q := by
  have hfiles : p.files = q.files := by
    rw [(mem_packages_addFiles.1 hp).2, (mem_packages_addFiles.1 hq).2, h]
  obtain ⟨name, directory, files⟩ := p
  obtain ⟨name', directory', files'⟩ := q
  obtain ⟨rfl, rfl⟩ := Prod.mk.inj h
  dsimp only at hfiles
  rw [hfiles]

/-- Every home of a file is that of exactly one package. -/
theorem existsUnique_package (root : String) {ds : List Declarations} {d : Declarations} (hd : d ∈ ds) :
    ∃! p, p ∈ (ds.foldl addFile { root }).packages ∧ p.identity = d.home := by
  refine ⟨⟨d.home.1, d.home.2, (ds.filter fun e => e.home = d.home).map (·.filename)⟩,
    ⟨mem_packages_addFiles.2 ⟨⟨d, hd, rfl⟩, rfl⟩, rfl⟩, ?_⟩
  rintro q ⟨hq, hhome⟩
  exact eq_of_identity_eq hq (mem_packages_addFiles.2 ⟨⟨d, hd, rfl⟩, rfl⟩) hhome

/-- A model holds what the files found declare, in their order: each package stands once and lists its own
files in the order of their paths, each file that is not excluded is listed once, and the package of each
entity stands in the model. -/
structure Collects (m : Model) (t : FileTree) (files : List FoundFile) : Prop where
  identities_nodup : (m.packages.map PackageInfo.identity).Nodup
  listed_once : ∀ f ∈ files, ∀ d, Pipeline.readFile t f = .ok (some d) →
    ∃! p, p ∈ m.packages ∧ f.relative ∈ p.files
  listed_own : ∀ p ∈ m.packages, ∀ file ∈ p.files, ∃ f ∈ files, f.relative = file ∧
    ∃ d, Pipeline.readFile t f = .ok (some d) ∧
      p.name = d.packageName ∧ p.directory = Path.directoryOf f.relative
  files_ascending : ∀ p ∈ m.packages, p.files.Pairwise fun a b =>
    Path.components a < Path.components b ∧ Text.Utf8.encode a < Text.Utf8.encode b
  lists : m.Concatenates (files.filterMap (Pipeline.declarations? t))
  homes : ∀ e, m.Holds e →
    ∃! p, p ∈ m.packages ∧ p.name = e.home.1 ∧ p.directory = Path.directoryOf e.home.2

section Collecting
variable {t : FileTree} {c : CheckedSettings} {root : String} {place : Place} {files : List FoundFile}

/-- Different files found have different paths. -/
theorem relative_inj (h : Discovery.Exact t c root place files) {f g : FoundFile} (hf : f ∈ files)
    (hg : g ∈ files) (hfg : f.relative = g.relative) : f = g := by
  obtain ⟨q, -, rfl⟩ := (h.mem_iff f).1 hf
  obtain ⟨r, -, rfl⟩ := (h.mem_iff g).1 hg
  have hpath : (Discovery.found root q).path = (Discovery.found root r).path :=
    congrArg (Path.join root) hfg
  simp only [Discovery.found] at hfg hpath ⊢
  rw [hfg]

theorem mem_declarations {d : Declarations} (hd : d ∈ files.filterMap (Pipeline.declarations? t)) :
    ∃ f ∈ files, Pipeline.readFile t f = .ok (some d) ∧ d.filename = f.relative := by
  obtain ⟨f, hf, hsome⟩ := List.mem_filterMap.1 hd
  have hread := Pipeline.declarations?_eq_some_iff.1 hsome
  exact ⟨f, hf, hread, (Pipeline.readFile_home hread).1⟩

theorem declarations_ascending (h : Discovery.Exact t c root place files) :
    (files.filterMap (Pipeline.declarations? t)).Pairwise fun d e =>
      Path.components d.filename < Path.components e.filename := by
  rw [List.pairwise_filterMap]
  refine h.ascending.imp fun {f g} hlt d hd e he => ?_
  rw [(Pipeline.readFile_home (Pipeline.declarations?_eq_some_iff.1 hd)).1,
    (Pipeline.readFile_home (Pipeline.declarations?_eq_some_iff.1 he)).1]
  exact hlt

theorem collects_addFiles (h : Discovery.Exact t c root place files) :
    ((files.filterMap (Pipeline.declarations? t)).foldl addFile { root }).Collects t files where
  identities_nodup := by
    rw [packages_addFiles _ rfl, List.map_map]
    exact (List.map_id _).symm ▸ Table.nodup_eraseDups _
  listed_once f hf d hread := by
    have hd : d ∈ files.filterMap (Pipeline.declarations? t) :=
      List.mem_filterMap.2 ⟨f, hf, Pipeline.declarations?_eq_some_iff.2 hread⟩
    obtain ⟨p, ⟨hp, hhome⟩, hunique⟩ := existsUnique_package root hd
    have hname := (Pipeline.readFile_home hread).1
    refine ⟨p, ⟨hp, ?_⟩, ?_⟩
    · rw [(mem_packages_addFiles.1 hp).2, ← hname]
      exact List.mem_map_of_mem (List.mem_filter.2 ⟨hd, by simp [hhome]⟩)
    · rintro q ⟨hq, hfile⟩
      -- what lists the path lists these declarations, since no other file has the path
      rw [(mem_packages_addFiles.1 hq).2, List.mem_map] at hfile
      obtain ⟨e, he, hefile⟩ := hfile
      obtain ⟨he, hehome⟩ := List.mem_filter.1 he
      obtain ⟨g, hg, hgread, hgname⟩ := mem_declarations he
      obtain rfl := relative_inj h hg hf (hgname.symm.trans hefile)
      obtain rfl : e = d := by simpa [hread] using hgread.symm
      exact hunique q ⟨hq, (of_decide_eq_true hehome).symm⟩
  listed_own p hp file hfile := by
    rw [(mem_packages_addFiles.1 hp).2, List.mem_map] at hfile
    obtain ⟨d, hd, rfl⟩ := hfile
    obtain ⟨hd, hhome⟩ := List.mem_filter.1 hd
    obtain ⟨f, hf, hread, hname⟩ := mem_declarations hd
    obtain ⟨hpackage, hdirectory⟩ := Prod.mk.inj (of_decide_eq_true hhome)
    exact ⟨f, hf, hname.symm, d, hread, hpackage.symm, hname ▸ hdirectory.symm⟩
  files_ascending p hp := by
    rw [(mem_packages_addFiles.1 hp).2, List.pairwise_map]
    refine ((declarations_ascending h).filter _).imp_of_mem fun {d e} hd he hlt => ⟨hlt, ?_⟩
    obtain ⟨hd, hdhome⟩ := List.mem_filter.1 hd
    obtain ⟨he, hehome⟩ := List.mem_filter.1 he
    have hdirectory : Path.directoryOf d.filename = Path.directoryOf e.filename :=
      congrArg Prod.snd ((of_decide_eq_true hdhome).trans (of_decide_eq_true hehome).symm)
    obtain ⟨f, hf, -, hfname⟩ := mem_declarations hd
    obtain ⟨g, hg, -, hgname⟩ := mem_declarations he
    obtain ⟨q, hq, rfl⟩ := (h.mem_iff f).1 hf
    obtain ⟨r, hr, rfl⟩ := (h.mem_iff g).1 hg
    rw [hfname, hgname] at hlt hdirectory ⊢
    exact Path.encode_lt_of_components_lt hq.named hr.named hdirectory hlt
  lists := concatenates_addFiles root _
  homes e he := by
    obtain ⟨d, hd, hholds⟩ := (concatenates_addFiles root _).holds he
    obtain ⟨f, hf, hread, hname⟩ := mem_declarations hd
    have hhome : d.home = (e.home.1, Path.directoryOf e.home.2) := by
      rw [(Pipeline.readFile_home hread).2 e hholds, Declarations.home, hname]
    obtain ⟨p, hp, hunique⟩ := existsUnique_package root hd
    simp only [hhome, PackageInfo.identity, Prod.mk.injEq] at hp hunique
    exact ⟨p, hp, hunique⟩

end Collecting
end Model

namespace Pipeline

/-- A directory and a file whose names begin alike, beside what is not entered and what is not read. -/
def branches : FileTree :=
  [(["api"], FileNode.directory), (["api", "user.go"], .file []), (["api.go"], .file []),
    (["gen_api.go"], .file []), (["vendor"], .directory), (["vendor", "user.go"], .file [])].foldl
      (fun t e => t.put e.1 e.2) {}

end Pipeline
end Registrar
