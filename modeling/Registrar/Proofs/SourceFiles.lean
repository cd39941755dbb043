import Registrar.Proofs.ByteOrder
import Registrar.Proofs.Discovery
/-!
# Which files are found

The files to read below a directory are those whose names are to be read and whose directories are
entered, and no others (`mem_sighted_iff`). They stand in the order of a walk: by the names that lead to
them, name by name, each by its bytes (`sighted_ascending`, `components_found`).
-/
namespace Registrar

/-! ## Relative paths -/

namespace Path

theorem joinWith_concat {q : List String} (hq : q ≠ []) (name : String) :
    Text.joinWith "/" (q ++ [name]) = Text.joinWith "/" q ++ "/" ++ name := by
  induction q with
  | nil => exact absurd rfl hq
  | cons e rest ih =>
    cases rest with
    | nil => simp [Text.joinWith]
    | cons f rest =>
      have ih := ih (List.cons_ne_nil f rest)
      simp only [Text.joinWith, List.cons_append, String.intercalate_cons_cons] at ih ⊢
      rw [ih]
      simp only [String.append_assoc]

/-- The names of a path are those that it was made of. -/
theorem split_joinWith {q : List String} (hne : q ≠ []) (hq : ∀ e ∈ q, '/' ∉ e.toList) :
    (Text.split '/' (Text.joinWith "/" q).toList).map String.ofList = q := by
  induction q using List.reverseRecOn with
  | nil => exact absurd rfl hne
  | append_singleton q name ih =>
    have hname : '/' ∉ name.toList := hq name (by simp)
    by_cases hnil : q = []
    · subst hnil
      simp [Text.joinWith, Text.split_of_not_mem hname]
    · have ih := ih hnil fun e he => hq e (List.mem_append_left _ he)
      have hsplit : Text.split '/' (Text.joinWith "/" q ++ "/" ++ name).toList =
          Text.split '/' (Text.joinWith "/" q).toList ++ Text.split '/' name.toList := by
        rw [← Text.split_append]
        simp
      rw [joinWith_concat hnil, hsplit, List.map_append, ih, Text.split_of_not_mem hname,
        List.map_singleton, String.ofList_toList]

theorem beforeLast_append {c : Char} {s r : List Char} (h : c ∉ r) :
    Text.beforeLast c (s ++ c :: r) = s := by
  have hdrop : ((s ++ c :: r).reverse.dropWhile (· != c)) = c :: s.reverse := by
    rw [List.reverse_append, List.reverse_cons, List.append_assoc, List.dropWhile_append_of_pos]
    · simp
    · intro d hd
      simp only [bne_iff_ne, ne_eq]
      rintro rfl
      exact h (List.mem_reverse.1 hd)
  rw [Text.beforeLast, hdrop, List.drop_succ_cons, List.drop_zero, List.reverse_reverse]

theorem beforeLast_of_not_mem {c : Char} {s : List Char} (h : c ∉ s) : Text.beforeLast c s = [] := by
  have hdrop : s.reverse.dropWhile (· != c) = [] := by
    rw [List.dropWhile_eq_nil_iff]
    intro d hd
    simp only [bne_iff_ne, ne_eq]
    rintro rfl
    exact h (List.mem_reverse.1 hd)
  rw [Text.beforeLast, hdrop]
  rfl

theorem directoryOf_joinWith (q : List String) {name : String} (h : '/' ∉ name.toList) :
    directoryOf (Text.joinWith "/" (q ++ [name])) = Text.joinWith "/" q := by
  by_cases hq : q = []
  · subst hq
    simp [directoryOf, Text.onChars, Text.joinWith, beforeLast_of_not_mem h]
  · have hchars : (Text.joinWith "/" q ++ "/" ++ name).toList =
        (Text.joinWith "/" q).toList ++ '/' :: name.toList := by simp
    rw [joinWith_concat hq, directoryOf, Text.onChars, hchars, beforeLast_append h, String.ofList_toList]

/-- The bytes of each name of a path. -/
def components (path : String) : List (List UInt8) :=
  (Text.split '/' path.toList).map fun name => Text.Utf8.encode (String.ofList name)

theorem components_joinWith {q : List String} (hne : q ≠ []) (hq : ∀ e ∈ q, '/' ∉ e.toList) :
    components (Text.joinWith "/" q) = q.map Text.Utf8.encode := by
  have hnames := congrArg (List.map Text.Utf8.encode) (split_joinWith hne hq)
  rwa [List.map_map] at hnames

end Path

/-! ## Entries -/

namespace FileTree

theorem get?_eq_some_iff {t : FileTree} {p : Place} (hp : p ≠ []) {n : FileNode} :
    t.get? p = some n ↔ (p, n) ∈ t.entries := by
  rw [get?, if_neg (by simpa using hp), List.lookup_eq_some_iff]
  constructor
  · rintro ⟨before, after, hentries, -⟩
    rw [hentries]
    exact List.mem_append_right _ List.mem_cons_self
  · intro hmem
    obtain ⟨before, after, hentries⟩ := List.append_of_mem hmem
    refine ⟨before, after, hentries, fun e he => ?_⟩
    -- what stands before has a smaller place
    have hordered := t.ordered
    rw [FileNode.Ordered, hentries, List.pairwise_append] at hordered
    have hlt : e.1 < p := hordered.2.2 e he (p, n) List.mem_cons_self
    refine bne_iff_ne.2 ?_
    rintro rfl
    exact List.lt_irrefl _ hlt

end FileTree

theorem Place.lt_of_append_lt {p q r : Place} (h : p ++ q < p ++ r) : q < r := by
  induction p with
  | nil => exact h
  | cons e p ih =>
    rw [List.cons_append, List.cons_append, List.cons_lt_cons_iff] at h
    rcases h with hlt | ⟨-, hlt⟩
    · exact absurd hlt (String.lt_irrefl e)
    · exact ih hlt

namespace Discovery

/-- A file that is to be read: the walk enters every directory on the way to it, and its name is let in
and not kept out. -/
structure IsSource (t : FileTree) (c : CheckedSettings) (p q : Place) : Prop where
  file : ∃ content, t.get? (p ++ q) = some (.file content)
  named : q ≠ [] ∧ ∀ e ∈ q, Place.isName e = true
  depth : c.settings.recursive = true ∨ q.length = 1
  entered : ∀ d ∈ q.dropLast,
    d.toList.head? ≠ some '.' ∧ d.toList.head? ≠ some '_' ∧ d ≠ "testdata" ∧ d ≠ "vendor"
  wanted : ∀ name, q.getLast? = some name →
    c.included.isMatch name = true ∧ c.excluded.isMatch name = false

theorem isBelow_iff {p place : Place} :
    isBelow p place = true ↔ ∃ q, place = p ++ q ∧ q ≠ [] ∧ q.head? ≠ some "/" := by
  simp only [isBelow, Bool.and_eq_true, List.isPrefixOf_iff_prefix, Bool.not_eq_true', bne_iff_ne, ne_eq]
  constructor
  · rintro ⟨⟨⟨q, rfl⟩, hne⟩, hhead⟩
    rw [List.drop_left] at hne hhead
    exact ⟨q, rfl, by simpa using hne, hhead⟩
  · rintro ⟨q, rfl, hne, hhead⟩
    rw [List.drop_left]
    exact ⟨⟨List.prefix_append p q, by simpa using hne⟩, hhead⟩

theorem sighted?_eq_some_iff {c : CheckedSettings} {p q : Place} {e : Place × FileNode} :
    sighted? c p e = some q ↔
      ∃ content, e = (p ++ q, .file content) ∧ q ≠ [] ∧ q.head? ≠ some "/" ∧
        isMet c.settings.recursive q = true ∧ isWanted c q = true := by
  obtain ⟨place, n⟩ := e
  cases n with
  | directory => simp [sighted?]
  | file content =>
    simp only [sighted?, Option.ite_none_right_eq_some, Bool.and_eq_true, isBelow_iff]
    constructor
    · rintro ⟨⟨⟨⟨q', rfl, hne, hhead⟩, hmet⟩, hwanted⟩, hq⟩
      rw [List.drop_left, Option.some.injEq] at hq
      subst hq
      rw [List.drop_left] at hmet hwanted
      exact ⟨content, rfl, hne, hhead, hmet, hwanted⟩
    · rintro ⟨content', he, hne, hhead, hmet, hwanted⟩
      cases he
      rw [List.drop_left]
      exact ⟨⟨⟨⟨q, rfl, hne, hhead⟩, hmet⟩, hwanted⟩, rfl⟩

theorem isMet_iff {recursive : Bool} {q : Place} (hne : q ≠ []) :
    isMet recursive q = true ↔ (recursive = true ∨ q.length = 1) ∧
      ∀ d ∈ q.dropLast, d.toList.head? ≠ some '.' ∧ d.toList.head? ≠ some '_' ∧ d ≠ "testdata" ∧
        d ≠ "vendor" := by
  have hlen : q.length ≤ 1 ↔ q.length = 1 := by
    have := List.length_pos_iff.2 hne
    omega
  simp only [isMet, isSkipped, Bool.and_eq_true, Bool.or_eq_true, decide_eq_true_eq, hlen,
    Bool.not_eq_true', List.any_eq_false, not_or, beq_iff_eq, and_assoc]

theorem isWanted_iff {c : CheckedSettings} {q : Place} (hne : q ≠ []) :
    isWanted c q = true ↔ ∀ name, q.getLast? = some name →
      c.included.isMatch name = true ∧ c.excluded.isMatch name = false := by
  rw [isWanted, isCandidate, List.getLast?_eq_some_getLast hne]
  simp [and_comm]

/-- The files that discovery sees are those that are to be read. -/
theorem mem_sighted_iff {t : FileTree} {c : CheckedSettings} {p q : Place} :
    q ∈ t.entries.filterMap (sighted? c p) ↔ IsSource t c p q := by
  constructor
  · intro hq
    have hnames := (isName_of_sighted? hq).1
    obtain ⟨e, he, hs⟩ := List.mem_filterMap.1 hq
    obtain ⟨content, rfl, hne, -, hmet, hwanted⟩ := sighted?_eq_some_iff.1 hs
    obtain ⟨hdepth, hentered⟩ := (isMet_iff hne).1 hmet
    have hplace : p ++ q ≠ [] := by simp [hne]
    exact ⟨⟨content, (FileTree.get?_eq_some_iff hplace).2 he⟩, ⟨hne, hnames⟩, hdepth, hentered,
      (isWanted_iff hne).1 hwanted⟩
  · rintro ⟨⟨content, hfile⟩, ⟨hne, hnames⟩, hdepth, hentered, hwanted⟩
    have hplace : p ++ q ≠ [] := by simp [hne]
    have hhead : q.head? ≠ some "/" := by
      intro hslash
      have hname := hnames "/" (List.mem_of_head? hslash)
      revert hname
      decide
    refine List.mem_filterMap.2 ⟨_, (FileTree.get?_eq_some_iff hplace).1 hfile, ?_⟩
    exact sighted?_eq_some_iff.2 ⟨content, rfl, hne, hhead, (isMet_iff hne).2 ⟨hdepth, hentered⟩,
      (isWanted_iff hne).2 hwanted⟩

/-- What is seen from a directory stands in the order of the tree. -/
theorem sighted_ascending (t : FileTree) (c : CheckedSettings) (p : Place) :
    (t.entries.filterMap (sighted? c p)).Pairwise (· < ·) := by
  rw [List.pairwise_filterMap]
  refine t.ordered.imp fun {e e'} hlt q hq q' hq' => ?_
  obtain ⟨content, rfl, -⟩ := sighted?_eq_some_iff.1 hq
  obtain ⟨content', rfl, -⟩ := sighted?_eq_some_iff.1 hq'
  exact Place.lt_of_append_lt hlt

theorem IsSource.components_found {t : FileTree} {c : CheckedSettings} {p q : Place}
    (h : IsSource t c p q) (root : String) :
    Path.components (found root q).relative = q.map Text.Utf8.encode :=
  Path.components_joinWith h.named.1 fun e he => Place.not_mem_of_isName (h.named.2 e he)

/-- The files found below a directory are those to be read, in the order of their paths. -/
structure Exact (t : FileTree) (c : CheckedSettings) (root : String) (p : Place) (files : List FoundFile) :
    Prop where
  mem_iff : ∀ f, f ∈ files ↔ ∃ q, IsSource t c p q ∧ f = found root q
  ascending : files.Pairwise fun f g => Path.components f.relative < Path.components g.relative

theorem exact_sighted (t : FileTree) (c : CheckedSettings) (root : String) (p : Place) :
    Exact t c root p ((t.entries.filterMap (sighted? c p)).map (found root)) where
  mem_iff f := by
    simp only [List.mem_map, mem_sighted_iff, eq_comm]
  ascending := by
    rw [List.pairwise_map]
    refine (sighted_ascending t c p).imp_of_mem fun {q r} hq hr hlt => ?_
    rw [(mem_sighted_iff.1 hq).components_found root, (mem_sighted_iff.1 hr).components_found root]
    exact List.map_lt (fun _ _ => Text.Utf8.encode_lt_iff.2) hlt

theorem discover_exact {t : FileTree} {c : CheckedSettings} {root : String} {p : Place}
    (hp : t.locate root = .ok p) (hd : t.get? p = some .directory) :
    ∃ files, (discover t c root).2 = .ok files ∧ Exact t c root p files := by
  refine ⟨_, discover_eq_ok_iff.2 ⟨p, hp, hd, rfl⟩, ?_⟩
  rw [wanted_eq]
  exact exact_sighted t c root p

end Discovery
end Registrar
