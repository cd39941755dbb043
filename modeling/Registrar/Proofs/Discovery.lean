import Registrar.Discovery
import Registrar.Proofs.FileTree
/-!
# What discovery sees

The files to read are a view of the entries of a tree (`wanted_eq`): an entry whose name is not one
to read is not in it, whatever it holds (`sighted?_of_unwanted`). The path of a found file ends in
the name of the file, so it leads to a place of that name (`found_endsIn`).
-/
namespace Registrar.Discovery

theorem discover_eq_ok_iff {t : FileTree} {c : CheckedSettings} {root : String}
    {files : List FoundFile} :
    (discover t c root).2 = .ok files ↔
      ∃ p, t.locate root = .ok p ∧ t.get? p = some .directory ∧
        files = ((filesBelow t c.settings.recursive p).filter (isWanted c)).map (found root) := by
  unfold discover FileTree.isDirectory
  cases hl : t.locate root with
  | error e => simp [Logged.fail]
  | ok p =>
    by_cases hd : t.get? p = some .directory
    · simp [hd, eq_comm]
    · simp [hd, Logged.fail]

/-- Whether a walk from the first place meets the second. -/
def isBelow (p q : Place) : Bool :=
  p.isPrefixOf q && !(q.drop p.length).isEmpty && (q.drop p.length).head? != some "/"

theorem below_eq (t : FileTree) (p : Place) :
    t.below p = t.entries.filterMap fun e =>
      if isBelow p e.1 then some (e.1.drop p.length, e.2) else none := rfl

/-- The entry as a file to read below a place. -/
def sighted? (c : CheckedSettings) (p : Place) : Place × FileNode → Option Place
  | (_, .directory) => none
  | (q, .file _) =>
    if isBelow p q && isMet c.settings.recursive (q.drop p.length) && isWanted c (q.drop p.length) then
      some (q.drop p.length)
    else none

theorem wanted_eq (t : FileTree) (c : CheckedSettings) (p : Place) :
    (filesBelow t c.settings.recursive p).filter (isWanted c) = t.entries.filterMap (sighted? c p) := by
  rw [filesBelow, below_eq, List.filterMap_filterMap, List.filter_filterMap]
  refine congrArg (fun f => t.entries.filterMap f) (funext fun e => ?_)
  obtain ⟨q, n⟩ := e
  by_cases hq : isBelow p q
  · cases n with
    | directory => simp [hq, sighted?]
    | file content =>
      by_cases hm : isMet c.settings.recursive (q.drop p.length) <;>
        by_cases hw : isWanted c (q.drop p.length) <;> simp [hq, hm, hw, sighted?]
  · cases n <;> simp [hq, sighted?]

/-- A file whose name is not one to read is not seen. -/
theorem sighted?_of_unwanted {c : CheckedSettings} {p q : Place} {name : String}
    (hlast : q.getLast? = some name) (hname : isCandidate c name = false) (n : FileNode) :
    sighted? c p (q, n) = none := by
  cases n with
  | directory => rfl
  | file content =>
    rw [sighted?]
    -- the name of a file is the same seen from any directory above it
    by_cases hlen : q.length ≤ p.length
    · simp [isBelow, hlen]
    · have hw : isWanted c (q.drop p.length) = false := by
        rw [isWanted, List.getLast?_drop, if_neg hlen, hlast]
        exact hname
      simp [hw]

/-- The names that lead to a found file. -/
theorem isName_of_sighted? {t : FileTree} {c : CheckedSettings} {p q : Place}
    (h : q ∈ t.entries.filterMap (sighted? c p)) :
    (∀ e ∈ q, Place.isName e) ∧ ∃ name, q.getLast? = some name ∧ isCandidate c name := by
  obtain ⟨⟨place, n⟩, he, hs⟩ := List.mem_filterMap.1 h
  have hproper := t.proper _ he
  cases n with
  | directory => cases hs
  | file content =>
    rw [sighted?] at hs
    split at hs
    · rename_i hcond
      cases hs
      simp only [isBelow, Bool.and_eq_true] at hcond
      obtain ⟨⟨⟨⟨-, hne⟩, hhead⟩, -⟩, hwanted⟩ := hcond
      refine ⟨Place.isName_of_mem_drop hproper (by simpa using hhead), ?_⟩
      cases hlast : (place.drop p.length).getLast? with
      | none => simp [List.getLast?_eq_none_iff.1 hlast] at hne
      | some name =>
        rw [isWanted, hlast] at hwanted
        exact ⟨name, rfl, hwanted⟩
    · cases hs

theorem endsIn_found {q : Place} (hq : ∀ e ∈ q, Place.isName e) {name : String}
    (hlast : q.getLast? = some name) (root : String) : FileTree.EndsIn (found root q).path name := by
  have hslash : ∀ e ∈ q, '/' ∉ e.toList := fun e he => Place.not_mem_of_isName (hq e he)
  exact (FileTree.EndsIn.joinWith hslash hlast).join root

/-- The path of a found file ends in the name of the file, which is one to read. -/
theorem found_endsIn {t : FileTree} {c : CheckedSettings} {root : String} {files : List FoundFile}
    (h : (discover t c root).2 = .ok files) {f : FoundFile} (hf : f ∈ files) :
    ∃ name, FileTree.EndsIn f.path name ∧ Place.isName name ∧ isCandidate c name := by
  obtain ⟨p, -, -, rfl⟩ := discover_eq_ok_iff.1 h
  rw [wanted_eq] at hf
  obtain ⟨q, hq, rfl⟩ := List.mem_map.1 hf
  obtain ⟨hnames, name, hlast, hname⟩ := isName_of_sighted? hq
  exact ⟨name, endsIn_found hnames hlast root, hnames name (List.mem_of_getLast? hlast), hname⟩

theorem isName_of_mem_filesBelow {t : FileTree} {recursive : Bool} {p q : Place}
    (h : q ∈ filesBelow t recursive p) : ∀ e ∈ q, Place.isName e := by
  rw [filesBelow, below_eq, List.filterMap_filterMap] at h
  obtain ⟨⟨place, n⟩, he, hsome⟩ := List.mem_filterMap.1 h
  dsimp only at hsome
  split at hsome
  · rename_i hbelow
    simp only [isBelow, Bool.and_eq_true] at hbelow
    rw [Option.bind_some] at hsome
    split at hsome
    · split at hsome
      · cases hsome
        exact Place.isName_of_mem_drop (t.proper _ he) (by simpa using hbelow.2)
      · cases hsome
    · cases hsome
  · cases hsome

/-- A file that a walk meets is read exactly when its name is one to read. -/
theorem found_mem_iff {t : FileTree} {c : CheckedSettings} {root : String} {files : List FoundFile}
    (h : (discover t c root).2 = .ok files) {p : Place} (hp : t.locate root = .ok p) {q : Place}
    (hq : q ∈ filesBelow t c.settings.recursive p) {name : String} (hlast : q.getLast? = some name) :
    found root q ∈ files ↔ isCandidate c name = true := by
  constructor
  · intro hf
    obtain ⟨name', hends, -, hcandidate⟩ := found_endsIn h hf
    rwa [(endsIn_found (isName_of_mem_filesBelow hq) hlast root).eq hends]
  · intro hcandidate
    obtain ⟨p', hp', -, rfl⟩ := discover_eq_ok_iff.1 h
    obtain rfl : p = p' := by simpa using hp.symm.trans hp'
    refine List.mem_map_of_mem (List.mem_filter.2 ⟨hq, ?_⟩)
    rw [isWanted, hlast]
    exact hcandidate

/-- The files are put at places that discovery does not look at. -/
def Unseen (c : CheckedSettings) (ws : List (Place × List UInt8)) : Prop :=
  ∀ w ∈ ws, ∃ name, w.1.getLast? = some name ∧ isCandidate c name = false

theorem sighted_putAll {c : CheckedSettings} {ws : List (Place × List UInt8)} (h : Unseen c ws)
    (t : FileTree) (p : Place) :
    (t.putAll ws).entries.filterMap (sighted? c p) = t.entries.filterMap (sighted? c p) := by
  induction ws generalizing t with
  | nil => rfl
  | cons w ws ih =>
    obtain ⟨name, hlast, hname⟩ := h w List.mem_cons_self
    rw [FileTree.putAll, List.foldl_cons, ← FileTree.putAll,
      ih fun x hx => h x (List.mem_cons_of_mem _ hx), FileTree.put]
    split
    · dsimp only
      rw [FileTree.insert_eq, Table.filterMap_enter (sighted?_of_unwanted hlast hname)]
    · rfl

/-- Discovery finds the same files after files have been put where it does not look. -/
theorem discover_putAll {t : FileTree} {c : CheckedSettings} {root : String}
    {ws : List (Place × List UInt8)} (hgrows : t.Grows (t.putAll ws)) (h : Unseen c ws)
    {files : List FoundFile} (hfiles : (discover t c root).2 = .ok files) :
    (discover (t.putAll ws) c root).2 = .ok files := by
  obtain ⟨p, hp, hd, rfl⟩ := discover_eq_ok_iff.1 hfiles
  refine discover_eq_ok_iff.2 ⟨p, hgrows.locate.1 hp, (hgrows.directory p).1 hd, ?_⟩
  rw [wanted_eq, wanted_eq, sighted_putAll h]

end Registrar.Discovery
