import Registrar.FileTree
import Registrar.Proofs.Tables
import Registrar.Proofs.Text
/-!
# What a file tree keeps

A tree is determined by what stands at each place (`ext_of_get?`). A path can be written when it
leads to a place that is no directory and is there already or has a directory above it
(`write_eq_ok_iff`). Writing changes that one place and no directory, so every path still leads
where it led (`Grows.locate`) and can be written again (`Grows.writable`).
-/
namespace Registrar

/-! ## Places -/

theorem Place.isProper_ne_nil {p : Place} (h : p.isProper) : p ≠ [] := by
  rintro rfl
  cases h

theorem Place.isProper_concat {p : Place} {e : String} (hp : p = [] ∨ p.isProper) (he : isName e) :
    Place.isProper (p ++ [e]) := by
  rcases hp with rfl | hp
  · simp [isProper, he]
  · cases p with
    | nil => cases hp
    | cons f rest =>
      simp only [isProper, Bool.and_eq_true, List.all_eq_true] at hp
      simp only [List.cons_append, isProper, Bool.and_eq_true, List.all_eq_true, List.mem_append,
        List.mem_singleton]
      refine ⟨hp.1, ?_⟩
      rintro x (hx | rfl)
      · exact hp.2 x hx
      · exact he

theorem Place.isProper_parent {p : Place} (h : p = [] ∨ p.isProper) :
    p.parent = [] ∨ Place.isProper p.parent := by
  unfold parent
  split
  · exact h
  · rcases h with rfl | h
    · exact .inl rfl
    · match p, h with
      | [e], _ => exact .inl rfl
      | e :: f :: rest, h =>
        simp only [isProper, Bool.and_eq_true, List.all_eq_true] at h
        refine .inr ?_
        simp only [List.dropLast_cons_cons, isProper, Bool.and_eq_true, List.all_eq_true]
        exact ⟨h.1, fun x hx => h.2 x (List.dropLast_subset _ hx)⟩

theorem Place.not_mem_of_isName {e : String} (h : isName e) : '/' ∉ e.toList := by
  simp only [isName, Bool.not_eq_true', Bool.or_eq_false_iff] at h
  simpa using h.2

theorem Place.isName_of_mem_drop {p : Place} (hp : p.isProper) {n : Nat}
    (hhead : (p.drop n).head? ≠ some "/") : ∀ e ∈ p.drop n, isName e := by
  cases p with
  | nil => cases hp
  | cons f rest =>
    simp only [isProper, Bool.and_eq_true, Bool.or_eq_true, beq_iff_eq, List.all_eq_true] at hp
    intro e he
    cases n with
    | zero =>
      rcases List.mem_cons.1 he with rfl | he
      · exact hp.1.resolve_left fun hroot => hhead (by simp [hroot])
      · exact hp.2 e he
    | succ n => exact hp.2 e (List.mem_of_mem_drop he)

namespace FileTree

/-! ## Entries by place -/

theorem insert_eq (p : Place) (n : FileNode) (es : List (Place × FileNode)) :
    FileNode.insert p n es = Table.enter p n es := by
  induction es with
  | nil => rfl
  | cons e es ih => rw [FileNode.insert, Table.enter, ih]

theorem get?_put {t : FileTree} {p : Place} (hp : p.isProper) (n : FileNode) (q : Place) :
    (t.put p n).get? q = if q = p then some n else t.get? q := by
  rw [put, dif_pos hp]
  simp only [get?, insert_eq, Table.lookup_enter]
  by_cases hq : q = p
  · subst hq
    simp [Place.isProper_ne_nil hp]
  · simp [hq]

/-- A tree is determined by what stands at each place. -/
theorem ext_of_get? {t u : FileTree} (h : ∀ q, t.get? q = u.get? q) : t = u := by
  -- the working directory is always there and is never an entry
  have hnone : ∀ v : FileTree, v.entries.lookup [] = none := by
    intro v
    rw [List.lookup_eq_none_iff]
    intro e he
    refine bne_iff_ne.2 fun hnil => ?_
    exact Place.isProper_ne_nil (v.proper e he) hnil.symm
  have hl : ∀ q, t.entries.lookup q = u.entries.lookup q := by
    intro q
    cases q with
    | nil => rw [hnone t, hnone u]
    | cons e rest => exact h (e :: rest)
  have he : t.entries = u.entries := Table.eq_of_lookup_eq t.ordered u.ordered hl
  cases t
  cases u
  simp only at he
  subst he
  rfl

/-! ## Walks -/

theorem walk_append (t : FileTree) (p : Place) (es fs : List String) :
    t.walk p (es ++ fs) = (t.walk p es).bind fun q => t.walk q fs := by
  induction es generalizing p with
  | nil => rfl
  | cons e es ih =>
    simp only [List.cons_append, walk]
    cases t.get? p with
    | none => rfl
    | some n =>
      cases n with
      | file c => rfl
      | directory => split_ifs <;> exact ih _

/-- A name is looked for in the directory that the elements before it lead to. -/
theorem walk_concat_name {t : FileTree} {p q : Place} {es : List String} {e : String}
    (he : Place.isName e) (h : t.walk p (es ++ [e]) = .ok q) :
    ∃ d, t.walk p es = .ok d ∧ t.get? d = some .directory ∧ q = d ++ [e] := by
  rw [walk_append] at h
  cases hd : t.walk p es with
  | error x => rw [hd] at h; cases h
  | ok d =>
    rw [hd] at h
    simp only [Except.bind, walk] at h
    simp only [Place.isName, Bool.not_eq_true', Bool.or_eq_false_iff] at he
    refine ⟨d, rfl, ?_⟩
    cases hg : t.get? d with
    | none => rw [hg] at h; cases h
    | some n =>
      rw [hg] at h
      cases n with
      | file c => cases h
      | directory =>
        simp only [he.1.1.1, he.1.1.2, he.1.2, Bool.or_self, Bool.false_eq_true, if_false,
          Except.ok.injEq] at h
        exact ⟨rfl, h.symm⟩

theorem walk_proper {t : FileTree} {p q : Place} {es : List String} (hp : p = [] ∨ p.isProper)
    (hes : ∀ e ∈ es, '/' ∉ e.toList) (h : t.walk p es = .ok q) : q = [] ∨ q.isProper := by
  induction es generalizing p with
  | nil =>
    cases h
    exact hp
  | cons e es ih =>
    have hes' : ∀ x ∈ es, '/' ∉ x.toList := fun x hx => hes x (List.mem_cons_of_mem _ hx)
    rw [walk] at h
    split at h
    · cases h
    · cases h
    · split at h
      · exact ih hp hes' h
      · split at h
        · exact ih (Place.isProper_parent hp) hes' h
        · -- what is left over for a name is neither empty nor made of dots, and has no slash
          rename_i hdot hup
          have he : '/' ∉ e.toList := hes e List.mem_cons_self
          refine ih (.inr (Place.isProper_concat hp ?_)) hes' h
          simp only [Bool.or_eq_true, beq_iff_eq, not_or] at hdot hup
          simp [Place.isName, hdot.1, hdot.2, hup, he]

/-! ## Paths -/

theorem locate_proper {t : FileTree} {path : String} {p : Place} (h : t.locate path = .ok p) :
    p = [] ∨ p.isProper := by
  unfold locate at h
  split at h
  · cases h
  · refine walk_proper ?_ ?_ h
    · split
      · exact .inr (by decide)
      · exact .inl rfl
    · intro e he
      obtain ⟨piece, hpiece, rfl⟩ := List.mem_map.1 he
      rw [String.toList_ofList]
      exact Text.not_mem_of_mem_split hpiece

/-- The path ends in the name. -/
def EndsIn (path name : String) : Prop :=
  ∃ es, (Text.split '/' path.toList).map String.ofList = es ++ [name]

theorem EndsIn.of_not_mem {name : String} (h : '/' ∉ name.toList) : EndsIn name name := by
  refine ⟨[], ?_⟩
  rw [Text.split_of_not_mem h, List.map_singleton, String.ofList_toList, List.nil_append]

theorem EndsIn.eq {path a b : String} (ha : EndsIn path a) (hb : EndsIn path b) : a = b := by
  obtain ⟨es, hes⟩ := ha
  obtain ⟨fs, hfs⟩ := hb
  simpa using (List.append_inj' (hes.symm.trans hfs) rfl).2

theorem EndsIn.append {path name : String} (h : EndsIn path name) (base : String) :
    EndsIn (base ++ "/" ++ path) name := by
  obtain ⟨es, hes⟩ := h
  have hsplit : Text.split '/' (base ++ "/" ++ path).toList =
      Text.split '/' base.toList ++ Text.split '/' path.toList := by
    rw [← Text.split_append]
    simp
  exact ⟨(Text.split '/' base.toList).map String.ofList ++ es, by
    rw [hsplit, List.map_append, hes, List.append_assoc]⟩

theorem EndsIn.join {path name : String} (h : EndsIn path name) (base : String) :
    EndsIn (Path.join base path) name := by
  unfold Path.join
  split
  · exact h
  · split
    · rename_i hlast
      obtain ⟨init, hinit⟩ := List.getLast?_eq_some_iff.1 (beq_iff_eq.1 hlast)
      have hbase : base = String.ofList init ++ "/" := by
        rw [← String.toList_inj, String.toList_append, String.toList_ofList, hinit]
        rfl
      rw [hbase]
      exact h.append _
    · exact h.append base

theorem EndsIn.joinWith {q : Place} {name : String} (hq : ∀ e ∈ q, '/' ∉ e.toList)
    (hlast : q.getLast? = some name) : EndsIn (Text.joinWith "/" q) name := by
  induction q with
  | nil => cases hlast
  | cons e rest ih =>
    cases rest with
    | nil =>
      cases hlast
      simpa [Text.joinWith] using EndsIn.of_not_mem (hq e List.mem_cons_self)
    | cons f rest =>
      have h := (ih (fun x hx => hq x (List.mem_cons_of_mem _ hx)) (by simpa using hlast)).append e
      simpa [Text.joinWith, String.intercalate_cons_cons] using h

/-- A path that ends in a name leads to a place that ends in it. -/
theorem locate_endsIn {t : FileTree} {path name : String} {p : Place} (h : t.locate path = .ok p)
    (hpath : EndsIn path name) (hname : Place.isName name) : p.getLast? = some name := by
  obtain ⟨es, hes⟩ := hpath
  unfold locate at h
  split at h
  · cases h
  · dsimp only at h
    rw [hes] at h
    obtain ⟨d, -, -, rfl⟩ := walk_concat_name hname h
    exact List.getLast?_concat

theorem read_eq_ok_iff {t : FileTree} {path : String} {q : Place} {content : List UInt8}
    (hl : t.locate path = .ok q) :
    t.read path = .ok content ↔ t.get? q = some (.file content) := by
  unfold read
  rw [hl]
  dsimp only
  split <;> simp [*]

/-! ## Writing -/

/-- The path leads to the place, and a file can be put there. -/
structure Writable (t : FileTree) (path : String) (p : Place) : Prop where
  located : t.locate path = .ok p
  no_directory : t.get? p ≠ some .directory
  held : (t.get? p).isSome ∨ t.get? p.dropLast = some .directory

theorem Writable.proper {t : FileTree} {path : String} {p : Place} (h : t.Writable path p) :
    p.isProper := by
  rcases locate_proper h.located with rfl | hp
  · exact absurd rfl h.no_directory
  · exact hp

theorem write_eq_ok_iff {t u : FileTree} {path : String} {content : List UInt8} :
    t.write path content = .ok u ↔ ∃ p, t.Writable path p ∧ u = t.put p (.file content) := by
  unfold write
  cases hl : t.locate path with
  | error e =>
    simp only [reduceCtorEq, false_iff, not_exists, not_and]
    intro p hp
    rw [hp.located] at hl
    cases hl
  | ok p =>
    have hwrite : ∀ q, t.Writable path q → q = p := by
      intro q hq
      rw [hq.located] at hl
      exact Except.ok.inj hl
    constructor
    · intro h
      refine ⟨p, ?_⟩
      cases hp : t.get? p with
      | none =>
        cases hd : t.get? p.dropLast with
        | none => simp [hp, hd] at h
        | some n =>
          cases n with
          | file c => simp [hp, hd] at h
          | directory =>
            simp only [hp, hd, Except.ok.injEq] at h
            exact ⟨⟨hl, by simp [hp], .inr hd⟩, h.symm⟩
      | some n =>
        cases n with
        | directory => simp [hp] at h
        | file c =>
          simp only [hp, Except.ok.injEq] at h
          exact ⟨⟨hl, by simp [hp], .inl (by simp [hp])⟩, h.symm⟩
    · rintro ⟨q, hq, rfl⟩
      obtain rfl := hwrite q hq
      obtain ⟨-, hdir, hheld⟩ := hq
      dsimp only
      cases hp : t.get? q with
      | none =>
        have hd : t.get? q.dropLast = some .directory := by simpa [hp] using hheld
        simp [hd]
      | some n =>
        cases n with
        | directory => exact absurd hp hdir
        | file c => rfl

/-- Some files have been written: the same directories are there, and nothing is gone. -/
structure Grows (t u : FileTree) : Prop where
  directory : ∀ q, t.get? q = some .directory ↔ u.get? q = some .directory
  keeps : ∀ q, (t.get? q).isSome → (u.get? q).isSome

theorem Grows.refl (t : FileTree) : t.Grows t := ⟨fun _ => Iff.rfl, fun _ => id⟩

theorem Grows.trans {t u v : FileTree} (h : t.Grows u) (h' : u.Grows v) : t.Grows v :=
  ⟨fun q => (h.directory q).trans (h'.directory q), fun q hq => h'.keeps q (h.keeps q hq)⟩

theorem walk_of_directories {t u : FileTree}
    (h : ∀ q, t.get? q = some .directory → u.get? q = some .directory) {p q : Place}
    {es : List String} (hw : t.walk p es = .ok q) : u.walk p es = .ok q := by
  induction es generalizing p with
  | nil => exact hw
  | cons e es ih =>
    rw [walk] at hw ⊢
    split at hw
    · cases hw
    · cases hw
    · rename_i hp
      rw [h p hp]
      split at hw
      · rename_i he
        rw [if_pos he]
        exact ih hw
      · rename_i he
        rw [if_neg he]
        split at hw
        · rename_i hup
          rw [if_pos hup]
          exact ih hw
        · rename_i hup
          rw [if_neg hup]
          exact ih hw

theorem locate_of_directories {t u : FileTree}
    (h : ∀ q, t.get? q = some .directory → u.get? q = some .directory) {path : String} {p : Place}
    (hl : t.locate path = .ok p) : u.locate path = .ok p := by
  unfold locate at hl ⊢
  split at hl
  · cases hl
  · rw [if_neg (by assumption)]
    exact walk_of_directories h hl

/-- Paths lead where they led. -/
theorem Grows.locate {t u : FileTree} (h : t.Grows u) {path : String} {p : Place} :
    t.locate path = .ok p ↔ u.locate path = .ok p :=
  ⟨locate_of_directories fun q => (h.directory q).1, locate_of_directories fun q => (h.directory q).2⟩

/-- What could be written can be written again. -/
theorem Grows.writable {t u : FileTree} (h : t.Grows u) {path : String} {p : Place}
    (hw : t.Writable path p) : u.Writable path p :=
  ⟨h.locate.1 hw.located, mt (h.directory p).2 hw.no_directory,
    hw.held.imp (h.keeps p) (h.directory p.dropLast).1⟩

theorem Writable.grows {t : FileTree} {path : String} {p : Place} (h : t.Writable path p)
    (content : List UInt8) : t.Grows (t.put p (.file content)) := by
  constructor
  · intro q
    rw [get?_put h.proper]
    by_cases hq : q = p
    · subst hq
      simp [h.no_directory]
    · rw [if_neg hq]
  · intro q hq
    rw [get?_put h.proper]
    split
    · rfl
    · exact hq

theorem Grows.put {t u : FileTree} (h : t.Grows u) {p : Place} (hp : p.isProper) (n : FileNode) :
    (t.put p n).Grows (u.put p n) := by
  constructor
  · intro q
    rw [get?_put hp, get?_put hp]
    split
    · rfl
    · exact h.directory q
  · intro q
    rw [get?_put hp, get?_put hp]
    split
    · exact id
    · exact h.keeps q

/-! ## Writing many files -/

/-- Puts files at places, one after another. -/
def putAll (t : FileTree) (ws : List (Place × List UInt8)) : FileTree :=
  ws.foldl (fun t w => t.put w.1 (.file w.2)) t

/-- The last file put at a place is there; other places are as they were. -/
theorem get?_putAll {ws : List (Place × List UInt8)} (hws : ∀ w ∈ ws, w.1.isProper) (t : FileTree)
    (q : Place) :
    (t.putAll ws).get? q = ((ws.reverse.lookup q).map FileNode.file).or (t.get? q) := by
  induction ws generalizing t with
  | nil => rfl
  | cons w ws ih =>
    rw [putAll, List.foldl_cons, ← putAll, ih fun x hx => hws x (List.mem_cons_of_mem _ hx),
      get?_put (hws w List.mem_cons_self), List.reverse_cons, List.lookup_append,
      Table.lookup_cons_eq_ite]
    -- a later file at the place hides the first one
    cases ws.reverse.lookup q with
    | some c => rfl
    | none => by_cases hq : q = w.1 <;> simp [hq]

/-- Putting the same files again changes nothing. -/
theorem putAll_putAll {ws : List (Place × List UInt8)} (hws : ∀ w ∈ ws, w.1.isProper) (t : FileTree) :
    (t.putAll ws).putAll ws = t.putAll ws := by
  refine ext_of_get? fun q => ?_
  rw [get?_putAll hws, get?_putAll hws]
  cases ws.reverse.lookup q <;> rfl

theorem get?_putAll_of_not_mem {ws : List (Place × List UInt8)} (hws : ∀ w ∈ ws, w.1.isProper)
    {t : FileTree} {q : Place} (hq : ∀ w ∈ ws, w.1 ≠ q) : (t.putAll ws).get? q = t.get? q := by
  have hnone : ws.reverse.lookup q = none := by
    rw [List.lookup_eq_none_iff]
    intro w hw
    exact bne_iff_ne.2 (Ne.symm (hq w (List.mem_reverse.1 hw)))
  rw [get?_putAll hws, hnone]
  rfl

end FileTree
end Registrar
