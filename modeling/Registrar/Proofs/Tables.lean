import Mathlib.Data.List.Basic
import Mathlib.Data.List.Induction
/-!
# Tables as lists

Two kinds of table are kept as lists. In a table by appearance an entry is changed where it stands,
or a fresh one is appended: `foldl_adjust` says that such a table, built from nothing, lists the
keys in the order in which they first appeared, each with its own changes and no others. In an
ordered table the keys ascend: `eq_of_lookup_eq` says that it is determined by what it gives for
each key.
-/
namespace Registrar.Table

/-! ## First appearances -/

section Appearance
variable {κ : Type} [BEq κ] [LawfulBEq κ]

theorem eraseDups_concat (ks : List κ) (k : κ) :
    (ks ++ [k]).eraseDups = if k ∈ ks then ks.eraseDups else ks.eraseDups ++ [k] := by
  rw [List.eraseDups_append]
  by_cases h : k ∈ ks <;> simp [h, List.removeAll, List.eraseDups_cons]

/-- A key that repeats at once counts once. -/
theorem eraseDups_append_map_const {γ : Type} (ks : List κ) (k : κ) (l : List γ) :
    (ks ++ l.map fun _ => k).eraseDups = if l = [] then ks.eraseDups else (ks ++ [k]).eraseDups := by
  induction l using List.reverseRecOn with
  | nil => simp
  | append_singleton l x ih =>
    rw [List.map_append, ← List.append_assoc, List.map_singleton, eraseDups_concat, ih]
    cases l with
    | nil => simp [eraseDups_concat]
    | cons y l => simp

theorem nodup_eraseDups (ks : List κ) : ks.eraseDups.Nodup := by
  induction ks using List.reverseRecOn with
  | nil => simp
  | append_singleton ks k ih =>
    rw [eraseDups_concat]
    split
    · exact ih
    · rename_i h
      refine List.nodup_append.2 ⟨ih, by simp, ?_⟩
      intro a ha b hb hab
      rw [List.mem_singleton] at hb
      subst hab hb
      exact h (List.mem_eraseDups.1 ha)

theorem eraseDups_filter (q : κ → Bool) (ks : List κ) :
    (ks.filter q).eraseDups = ks.eraseDups.filter q := by
  induction ks using List.reverseRecOn with
  | nil => rfl
  | append_singleton ks k ih =>
    rw [List.filter_append, eraseDups_concat]
    by_cases hq : q k
    · have hk : [k].filter q = [k] := by simp [hq]
      rw [hk, eraseDups_concat, ih]
      by_cases hmem : k ∈ ks
      · simp [hmem, hq]
      · simp [hmem, hq]
    · have hk : [k].filter q = [] := by simp [hq]
      rw [hk, List.append_nil, ih]
      split
      · rfl
      · rw [List.filter_append, hk, List.append_nil]

end Appearance

/-! ## Tables by appearance -/

section Adjust
variable {κ α : Type} [DecidableEq κ]

/-- Changes the first entry with a key, or appends a fresh one with the change made. -/
def adjust (key : α → κ) (fresh : κ → α) (k : κ) (f : α → α) : List α → List α
  | [] => [f (fresh k)]
  | x :: xs => if key x = k then f x :: xs else x :: adjust key fresh k f xs

variable {key : α → κ} {fresh : κ → α}

theorem adjust_of_not_mem {k : κ} {l : List α} (f : α → α) (h : k ∉ l.map key) :
    adjust key fresh k f l = l ++ [f (fresh k)] := by
  induction l with
  | nil => rfl
  | cons x xs ih =>
    simp only [List.map_cons, List.mem_cons, not_or] at h
    rw [adjust, if_neg (Ne.symm h.1), ih h.2, List.cons_append]

/-- In a table with one entry for each of some distinct keys, only the entry of the key changes. -/
theorem adjust_map {k : κ} {ks : List κ} (f : α → α) {g : κ → α} (hg : ∀ j, key (g j) = j)
    (hn : ks.Nodup) (h : k ∈ ks) :
    adjust key fresh k f (ks.map g) = ks.map fun j => if j = k then f (g j) else g j := by
  induction ks with
  | nil => cases h
  | cons j ks ih =>
    obtain ⟨hj, hn⟩ := List.nodup_cons.1 hn
    rw [List.map_cons, List.map_cons, adjust, hg]
    by_cases hjk : j = k
    · subst hjk
      rw [if_pos rfl, if_pos rfl]
      congr 1
      refine List.map_congr_left fun i hi => ?_
      rw [if_neg]
      rintro rfl
      exact hj hi
    · rw [if_neg hjk, if_neg hjk, ih hn ((List.mem_cons.1 h).resolve_left (Ne.symm hjk))]

theorem keys_adjust_of_mem {f : α → α} (hf : ∀ x, key (f x) = key x) {k : κ} {l : List α}
    (h : k ∈ l.map key) : (adjust key fresh k f l).map key = l.map key := by
  induction l with
  | nil => cases h
  | cons x xs ih =>
    rw [adjust]
    by_cases hx : key x = k
    · rw [if_pos hx, List.map_cons, List.map_cons, hf]
    · rw [if_neg hx, List.map_cons, List.map_cons, ih ((List.mem_cons.1 h).resolve_left (Ne.symm hx))]

theorem keys_adjust_of_not_mem (hfresh : ∀ j, key (fresh j) = j) {f : α → α}
    (hf : ∀ x, key (f x) = key x) {k : κ} {l : List α} (h : k ∉ l.map key) :
    (adjust key fresh k f l).map key = l.map key ++ [k] := by
  rw [adjust_of_not_mem f h, List.map_append, List.map_singleton, hf, hfresh]

/-- A change is found under its key and under no other. -/
theorem find?_adjust (hfresh : ∀ j, key (fresh j) = j) {f : α → α} (hf : ∀ x, key (f x) = key x)
    (k j : κ) (l : List α) :
    (adjust key fresh k f l).find? (fun x => key x = j) =
      if j = k then some (f ((l.find? fun x => key x = k).getD (fresh k)))
      else l.find? fun x => key x = j := by
  induction l with
  | nil => by_cases h : j = k <;> simp [adjust, hf, hfresh, h, Ne.symm]
  | cons x xs ih =>
    rw [adjust]
    by_cases hx : key x = k
    · by_cases h : j = k
      · simp [hx, hf, h]
      · simp [hx, hf, h, Ne.symm h]
    · rw [if_neg hx, List.find?_cons, List.find?_cons, ih]
      by_cases h : j = k
      · simp [hx, h]
      · by_cases hj : key x = j <;> simp [h, hj]

/-- The changes made under one key, in order, to a fresh entry. -/
def entryOf (fresh : κ → α) (us : List (κ × (α → α))) (k : κ) : α :=
  ((us.filter fun u => u.1 = k).map (·.2)).foldl (fun x f => f x) (fresh k)

theorem entryOf_concat (us : List (κ × (α → α))) (u : κ × (α → α)) (k : κ) :
    entryOf fresh (us ++ [u]) k = if k = u.1 then u.2 (entryOf fresh us k) else entryOf fresh us k := by
  by_cases h : k = u.1
  · simp [entryOf, h]
  · simp [entryOf, h, Ne.symm h]

theorem entryOf_map {γ : Type} {fresh : κ → α} (k : γ → κ) (f : γ → α → α) (l : List γ) (j : κ) :
    entryOf fresh (l.map fun x => (k x, f x)) j =
      (l.filter fun x => k x = j).foldl (fun a x => f x a) (fresh j) := by
  rw [entryOf, List.filter_map, List.map_map, List.foldl_map]
  rfl

theorem entryOf_of_not_mem {us : List (κ × (α → α))} {k : κ} (h : k ∉ us.map (·.1)) :
    entryOf fresh us k = fresh k := by
  have hnil : us.filter (fun u => u.1 = k) = [] := by
    rw [List.filter_eq_nil_iff]
    intro u hu hk
    exact h (List.mem_map.2 ⟨u, hu, by simpa using hk⟩)
  rw [entryOf, hnil]
  rfl

theorem key_entryOf (hfresh : ∀ k, key (fresh k) = k) {us : List (κ × (α → α))}
    (hus : ∀ u ∈ us, ∀ x, key (u.2 x) = key x) (k : κ) : key (entryOf fresh us k) = k := by
  induction us using List.reverseRecOn with
  | nil => exact hfresh k
  | append_singleton us u ih =>
    have ih := ih fun v hv => hus v (List.mem_append_left _ hv)
    rw [entryOf_concat]
    split
    · rw [hus u (by simp), ih]
    · exact ih

/-- A table built by changes from nothing has the changed keys in the order of their first
appearance, each with the changes made under it. -/
theorem foldl_adjust [BEq κ] [LawfulBEq κ] (hfresh : ∀ k, key (fresh k) = k) (us : List (κ × (α → α)))
    (hus : ∀ u ∈ us, ∀ x, key (u.2 x) = key x) :
    us.foldl (fun l u => adjust key fresh u.1 u.2 l) [] =
      (us.map (·.1)).eraseDups.map (entryOf fresh us) := by
  induction us using List.reverseRecOn with
  | nil => rfl
  | append_singleton us u ih =>
    have hkeys : ∀ v ∈ us, ∀ x, key (v.2 x) = key x := fun v hv => hus v (List.mem_append_left _ hv)
    rw [List.foldl_append, List.foldl_cons, List.foldl_nil, ih hkeys, List.map_append, List.map_cons,
      List.map_nil, eraseDups_concat]
    -- from the right: the last change meets a table that already lists the keys by appearance
    split
    · rename_i h
      rw [adjust_map u.2 (key_entryOf hfresh hkeys) (nodup_eraseDups _) (List.mem_eraseDups.2 h)]
      exact List.map_congr_left fun k _ => (entryOf_concat us u k).symm
    · rename_i h
      have hkey : ((us.map (·.1)).eraseDups.map (entryOf fresh us)).map key = (us.map (·.1)).eraseDups := by
        rw [List.map_map]
        conv_rhs => rw [← List.map_id (us.map (·.1)).eraseDups]
        exact List.map_congr_left fun k _ => key_entryOf hfresh hkeys k
      rw [adjust_of_not_mem u.2 (by rwa [hkey, List.mem_eraseDups]), List.map_append, List.map_cons,
        List.map_nil, entryOf_concat, if_pos rfl, entryOf_of_not_mem h]
      congr 1
      refine List.map_congr_left fun k hk => ?_
      rw [entryOf_concat, if_neg]
      rintro rfl
      exact h (List.mem_eraseDups.1 hk)

end Adjust

/-- In a table with one entry for each key, what it lists for a key is the entry found for it. -/
theorem filter_eq_find? {κ α : Type} [DecidableEq κ] (key : α → κ) {l : List α}
    (hn : (l.map key).Nodup) (k : κ) :
    (l.filter fun x => key x = k) = (l.find? fun x => key x = k).toList := by
  induction l with
  | nil => rfl
  | cons x xs ih =>
    obtain ⟨hx, hn⟩ := List.nodup_cons.1 hn
    by_cases h : key x = k
    · have hnone : xs.filter (fun y => key y = k) = [] := by
        rw [List.filter_eq_nil_iff]
        intro y hy hyk
        rw [decide_eq_true_eq, ← h] at hyk
        exact hx (List.mem_map.2 ⟨y, hy, hyk⟩)
      simp [h, hnone]
    · simpa [h] using ih hn

/-! ## Ordered tables -/

section Ordered
variable {κ β : Type} [DecidableEq κ] [BEq κ] [LawfulBEq κ]

theorem lookup_cons_eq_ite (k : κ) (e : κ × β) (es : List (κ × β)) :
    (e :: es).lookup k = if k = e.1 then some e.2 else es.lookup k := by
  rw [List.lookup_cons]
  by_cases h : k = e.1
  · simp [h]
  · rw [if_neg h, beq_eq_false_iff_ne.2 h]

theorem lookup_eq_find? (k : κ) (l : List (κ × β)) :
    l.lookup k = (l.find? fun e => e.1 = k).map (·.2) := by
  induction l with
  | nil => rfl
  | cons e es ih =>
    rw [lookup_cons_eq_ite, List.find?_cons, ih]
    by_cases h : k = e.1
    · simp [h]
    · simp [h, Ne.symm h]

omit [DecidableEq κ] in
/-- A table with different keys gives every value that it holds. -/
theorem lookup_of_mem {l : List (κ × β)} (hn : (l.map (·.1)).Nodup) {k : κ} {v : β} (h : (k, v) ∈ l) :
    l.lookup k = some v := by
  obtain ⟨l₁, l₂, rfl⟩ := List.append_of_mem h
  refine List.lookup_eq_some_iff.2 ⟨l₁, l₂, rfl, ?_⟩
  intro e he
  rw [List.map_append, List.nodup_append] at hn
  exact bne_iff_ne.2 (hn.2.2 e.1 (List.mem_map_of_mem he) k List.mem_cons_self).symm

omit [DecidableEq κ] in
/-- Two orders of a table with different keys give the same for each key. -/
theorem lookup_perm {l l' : List (κ × β)} (hn : (l.map (·.1)).Nodup) (h : l.Perm l') (k : κ) :
    l.lookup k = l'.lookup k := by
  have hmem : ∀ {l : List (κ × β)} {v : β}, l.lookup k = some v → (k, v) ∈ l := by
    intro l v hv
    obtain ⟨l₁, l₂, rfl, -⟩ := List.lookup_eq_some_iff.1 hv
    exact List.mem_append_right _ List.mem_cons_self
  have hn' : (l'.map (·.1)).Nodup := (h.map _).nodup_iff.1 hn
  refine Option.ext fun v => ⟨fun hv => ?_, fun hv => ?_⟩
  · exact lookup_of_mem hn' (h.mem_iff.1 (hmem hv))
  · exact lookup_of_mem hn (h.mem_iff.2 (hmem hv))

omit [DecidableEq κ] in
/-- A table with different keys lists for each key what it gives for it. -/
theorem filterMap_lookup {l : List (κ × β)} (hn : (l.map (·.1)).Nodup) :
    (l.map (·.1)).filterMap (fun k => (l.lookup k).map fun v => (k, v)) = l := by
  induction l with
  | nil => rfl
  | cons e es ih =>
    obtain ⟨he, hn⟩ := List.nodup_cons.1 hn
    have hrest : (es.map (·.1)).filterMap (fun k => ((e :: es).lookup k).map fun v => (k, v)) =
        (es.map (·.1)).filterMap fun k => (es.lookup k).map fun v => (k, v) := by
      refine List.filterMap_congr fun k hk => ?_
      have hne : (k == e.1) = false := by
        rw [beq_eq_false_iff_ne]
        rintro rfl
        exact he hk
      rw [List.lookup_cons, hne]
    rw [List.map_cons, List.filterMap_cons, hrest, ih hn, List.lookup_cons_self]
    rfl

/-- A table made of the values of some elements under different keys. -/
theorem lookup_filterMap {α : Type} (key : α → κ) (g : α → Option β) {l : List α}
    (hn : (l.map key).Nodup) (k : κ) :
    (l.filterMap fun a => (g a).map fun v => (key a, v)).lookup k =
      (l.find? fun a => key a = k).bind g := by
  induction l with
  | nil => rfl
  | cons a l ih =>
    obtain ⟨ha, hn⟩ := List.nodup_cons.1 hn
    rw [List.filterMap_cons, List.find?_cons]
    by_cases h : key a = k
    · have hnone : l.find? (fun b => key b = k) = none := by
        rw [List.find?_eq_none]
        intro b hb hk
        rw [← h, decide_eq_true_eq] at hk
        exact ha (List.mem_map.2 ⟨b, hb, hk⟩)
      cases hg : g a with
      | none => simp [h, hg, ih hn, hnone]
      | some v => simp [h, hg, lookup_cons_eq_ite]
    · cases hg : g a with
      | none => simp [h, ih hn]
      | some v => simp [h, lookup_cons_eq_ite, Ne.symm h, ih hn]

omit [DecidableEq κ] [BEq κ] [LawfulBEq κ] in
theorem keys_filterMap {α : Type} (key : α → κ) (g : α → Option β) (l : List α) :
    ((l.filterMap fun a => (g a).map fun v => (key a, v)).map (·.1)).Sublist (l.map key) := by
  induction l with
  | nil => exact List.Sublist.slnil
  | cons a l ih =>
    rw [List.filterMap_cons]
    cases g a with
    | none => exact ih.cons _
    | some v => exact ih.cons_cons _

/-- With different keys, the last entry of a key is its first. -/
theorem lookup_reverse {l : List (κ × β)} (hn : (l.map (·.1)).Nodup) (k : κ) :
    l.reverse.lookup k = l.lookup k := by
  induction l with
  | nil => rfl
  | cons e es ih =>
    obtain ⟨he, hn⟩ := List.nodup_cons.1 hn
    rw [List.reverse_cons, List.lookup_append, ih hn, lookup_cons_eq_ite, lookup_cons_eq_ite]
    by_cases h : k = e.1
    · have hnone : es.lookup k = none := by
        rw [List.lookup_eq_none_iff]
        intro p hp
        refine bne_iff_ne.2 fun hkp => he (List.mem_map.2 ⟨p, hp, ?_⟩)
        rw [← hkp, h]
      rw [hnone, if_pos h, if_pos h]
      rfl
    · simp [h]

variable [LT κ]

/-- The keys ascend, so that each occurs once. -/
def Ascending (l : List (κ × β)) : Prop := l.Pairwise fun a b => a.1 < b.1

omit [DecidableEq κ] in
theorem Ascending.lookup_eq_none [Std.Irrefl (α := κ) (· < ·)] {e : κ × β} {es : List (κ × β)}
    (h : Ascending (e :: es)) : es.lookup e.1 = none := by
  rw [List.lookup_eq_none_iff]
  intro p hp
  have hlt : e.1 < p.1 := (List.pairwise_cons.1 h).1 p hp
  refine bne_iff_ne.2 fun he => ?_
  rw [← he] at hlt
  exact Std.Irrefl.irrefl _ hlt

/-- The first key of an ordered table is not above a key that it has. -/
theorem Ascending.head_le {e : κ × β} {es : List (κ × β)} (h : Ascending (e :: es)) {k : κ} {v : β}
    (hk : (e :: es).lookup k = some v) : e = (k, v) ∨ e.1 < k := by
  rw [lookup_cons_eq_ite] at hk
  split at hk
  · rename_i he
    cases hk
    exact .inl (Prod.ext he.symm rfl)
  · obtain ⟨l₁, l₂, rfl, -⟩ := List.lookup_eq_some_iff.1 hk
    exact .inr ((List.pairwise_cons.1 h).1 (k, v) (by simp))

theorem eq_of_lookup_eq [Std.Asymm (α := κ) (· < ·)] {l l' : List (κ × β)} (h : Ascending l)
    (h' : Ascending l') (he : ∀ k, l.lookup k = l'.lookup k) : l = l' := by
  induction l generalizing l' with
  | nil =>
    cases l' with
    | nil => rfl
    | cons e' es' => simpa [lookup_cons_eq_ite] using he e'.1
  | cons e es ih =>
    cases l' with
    | nil => simpa [lookup_cons_eq_ite] using he e.1
    | cons e' es' =>
      -- each head is found in the other table, so neither can be above the other
      have hhead : e' = e := by
        rcases h'.head_le ((he e.1).symm.trans List.lookup_cons_self) with rfl | hlt
        · rfl
        rcases h.head_le ((he e'.1).trans List.lookup_cons_self) with rfl | hgt
        · rfl
        exact absurd hgt (Std.Asymm.asymm _ _ hlt)
      subst hhead
      congr 1
      refine ih (List.pairwise_cons.1 h).2 (List.pairwise_cons.1 h').2 fun k => ?_
      by_cases hk : k = e'.1
      · rw [hk, h.lookup_eq_none, h'.lookup_eq_none]
      · simpa [lookup_cons_eq_ite, hk] using he k

variable [DecidableLT κ]

/-- Puts a value at the place of its key, over the value that the key has. -/
def enter (k : κ) (v : β) : List (κ × β) → List (κ × β)
  | [] => [(k, v)]
  | e :: es => if k = e.1 then (k, v) :: es else if k < e.1 then (k, v) :: e :: es else e :: enter k v es

theorem lookup_enter (k j : κ) (v : β) (l : List (κ × β)) :
    (enter k v l).lookup j = if j = k then some v else l.lookup j := by
  induction l with
  | nil => by_cases h : j = k <;> simp [enter, h]
  | cons e es ih =>
    unfold enter
    split
    · rename_i he
      simp only [lookup_cons_eq_ite, he]
      split <;> rfl
    · rename_i he
      split
      · rw [lookup_cons_eq_ite]
      · rw [lookup_cons_eq_ite, lookup_cons_eq_ite, ih]
        by_cases h : j = k
        · rw [if_neg (h ▸ he), if_pos h, if_pos h]
        · rw [if_neg h, if_neg h]

omit [BEq κ] [LawfulBEq κ] in
/-- An entry that does not count is not seen when it is entered. -/
theorem filterMap_enter {α : Type} {f : κ × β → Option α} {k : κ} (hf : ∀ v, f (k, v) = none) (v : β)
    (l : List (κ × β)) : (enter k v l).filterMap f = l.filterMap f := by
  induction l with
  | nil => simp [enter, hf]
  | cons e es ih =>
    unfold enter
    split
    · rename_i h
      have he : f e = none := by
        rw [← hf e.2, h]
      rw [List.filterMap_cons_none (hf v), List.filterMap_cons_none he]
    · split
      · rw [List.filterMap_cons_none (hf v)]
      · rw [List.filterMap_cons, List.filterMap_cons, ih]

omit [BEq κ] [LawfulBEq κ] in
theorem mem_enter {k : κ} {v : β} {l : List (κ × β)} {x : κ × β} (h : x ∈ enter k v l) :
    x = (k, v) ∨ x ∈ l := by
  induction l with
  | nil => exact .inl (by simpa [enter] using h)
  | cons e es ih =>
    unfold enter at h
    split at h
    · exact (List.mem_cons.1 h).imp id (List.mem_cons_of_mem _)
    · split at h
      · exact List.mem_cons.1 h
      · rcases List.mem_cons.1 h with rfl | h
        · exact .inr List.mem_cons_self
        · exact (ih h).imp id (List.mem_cons_of_mem _)

omit [BEq κ] [LawfulBEq κ] in
theorem Ascending.enter [Std.Trichotomous (α := κ) (· < ·)]
    [Trans (α := κ) (β := κ) (γ := κ) (· < ·) (· < ·) (· < ·)] {l : List (κ × β)} (h : Ascending l)
    (k : κ) (v : β) : Ascending (Table.enter k v l) := by
  induction l with
  | nil => exact List.pairwise_singleton _ _
  | cons e es ih =>
    obtain ⟨hall, hes⟩ := List.pairwise_cons.1 h
    unfold Table.enter
    split
    · rename_i he
      exact List.pairwise_cons.2 ⟨fun x hx => he ▸ hall x hx, hes⟩
    · split
      · rename_i hlt
        refine List.pairwise_cons.2 ⟨fun x hx => ?_, h⟩
        rcases List.mem_cons.1 hx with rfl | hx
        · exact hlt
        · exact Trans.trans hlt (hall x hx)
      · rename_i hne hnlt
        have hgt : e.1 < k :=
          Classical.byContradiction fun hn => hne (Std.Trichotomous.trichotomous k e.1 hnlt hn)
        refine List.pairwise_cons.2 ⟨fun x hx => ?_, ih hes⟩
        rcases mem_enter hx with rfl | hx
        · exact hgt
        · exact hall x hx

end Ordered
end Registrar.Table
