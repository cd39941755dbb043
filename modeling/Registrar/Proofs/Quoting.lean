import Registrar.Directive.Quoting
import Registrar.Proofs.Text
/-!
# Separators outside quotations

`Free sep s` says, without a scanner, that no `sep` of the text stands outside quotations. Splitting
undoes joining for balanced pieces without separators (`pieces_join`), and every balanced text is
the join of such pieces (`pieces_spec`). The search for the first separator stops right after the
free part (`firstOutside?_append`, `firstOutside?_spec`). Blanks never change the state of a scan,
so trimming keeps a text balanced.
-/
namespace Registrar.Quoting
open Text

/-! ## Scans -/

theorem State.run_append (q : State) (s t : List Char) : q.run (s ++ t) = (q.run s).run t :=
  List.foldl_append

theorem State.run_cons (q : State) (c : Char) (s : List Char) : q.run (c :: s) = (q.next c).run s := rfl

theorem balanced_iff {s : List Char} : balanced s = true ↔ State.outside.run s = .outside := by
  simp [balanced]

theorem balanced_append {s t : List Char} (hs : balanced s = true) :
    balanced (s ++ t) = balanced t := by
  rw [balanced, State.run_append, balanced_iff.1 hs, balanced]

theorem State.next_blank {c : Char} (hc : isBlank c = true) (q : State) :
    q.next c = .outside ↔ q = .outside := by
  have hquote : c ≠ '"' := by rintro rfl; simp [isBlank] at hc
  cases q with
  | outside => simp [State.next, hquote]
  | inside => by_cases h : c = '\\' <;> simp [State.next, h, hquote]
  | escaped => simp [State.next]

/-- Blanks neither open nor close a quotation. -/
theorem State.run_blank {b : List Char} (hb : Blank b) (q : State) :
    q.run b = .outside ↔ q = .outside := by
  induction b generalizing q with
  | nil => rfl
  | cons c b ih =>
    rw [State.run_cons, ih (fun d hd => hb d (List.mem_cons_of_mem _ hd)),
      State.next_blank (hb c List.mem_cons_self)]

theorem balanced_blank {b : List Char} (hb : Blank b) : balanced b = true :=
  balanced_iff.2 ((State.run_blank hb _).2 rfl)

theorem balanced_trim (s : List Char) : balanced (trim s) = balanced s := by
  obtain ⟨a, b, ha, hb, hs⟩ := trim_spec s
  rw [Bool.eq_iff_iff, balanced_iff, balanced_iff]
  conv => rhs; rw [hs]
  rw [State.run_append, State.run_append, balanced_iff.1 (balanced_blank ha), State.run_blank hb]

/-! ## Texts without a separator -/

/-- In a scan from state `q`, no `sep` is met outside quotations. -/
def FreeFrom (sep : Char) (q : State) (s : List Char) : Prop :=
  ∀ a b, s = a ++ sep :: b → q.run a ≠ .outside

/-- No `sep` of the text stands outside quotations. -/
def Free (sep : Char) (s : List Char) : Prop := FreeFrom sep .outside s

variable {sep : Char} {q : State}

theorem freeFrom_nil : FreeFrom sep q [] := by
  intro a b h
  simp at h

theorem freeFrom_cons {c : Char} {s : List Char} :
    FreeFrom sep q (c :: s) ↔ ¬ (q = .outside ∧ c = sep) ∧ FreeFrom sep (q.next c) s := by
  constructor
  · intro h
    refine ⟨?_, fun a b hs => h (c :: a) b (by rw [hs, List.cons_append])⟩
    rintro ⟨rfl, rfl⟩
    exact h [] s rfl rfl
  · rintro ⟨hc, hs⟩ a b h
    cases a with
    | nil =>
      cases h
      exact fun hq => hc ⟨hq, rfl⟩
    | cons d a =>
      cases h
      exact hs a b rfl

theorem freeFrom_append {s t : List Char} :
    FreeFrom sep q (s ++ t) ↔ FreeFrom sep q s ∧ FreeFrom sep (q.run s) t := by
  induction s generalizing q with
  | nil => simp [freeFrom_nil, State.run]
  | cons c s ih => rw [List.cons_append, freeFrom_cons, freeFrom_cons, ih, State.run_cons, and_assoc]

theorem freeFrom_blank (hsep : isBlank sep = false) {b : List Char} (hb : Blank b) :
    FreeFrom sep q b := by
  rintro a c rfl
  have hc := hb sep (by simp)
  rw [hsep] at hc
  cases hc

theorem Free.trim {s : List Char} (h : Free sep s) : Free sep (trim s) := by
  obtain ⟨a, b, ha, -, hs⟩ := trim_spec s
  rw [Free, hs, freeFrom_append, freeFrom_append, balanced_iff.1 (balanced_blank ha)] at h
  exact h.1.2

/-! ## Splitting -/

theorem pieces_of_free {s : List Char} (h : FreeFrom sep q s) : pieces sep q s = [s] := by
  induction s generalizing q with
  | nil => rfl
  | cons c s ih =>
    obtain ⟨hc, hs⟩ := freeFrom_cons.1 h
    rw [pieces, if_neg hc, ih hs]

theorem pieces_append {s : List Char} (h : FreeFrom sep q s) (hq : q.run s = .outside) (t : List Char) :
    pieces sep q (s ++ sep :: t) = s :: pieces sep .outside t := by
  induction s generalizing q with
  | nil =>
    have hq : q = .outside := hq
    rw [List.nil_append, pieces, if_pos ⟨hq, rfl⟩]
  | cons c s ih =>
    obtain ⟨hc, hs⟩ := freeFrom_cons.1 h
    rw [List.cons_append, pieces, if_neg hc, ih hs hq]

/-- Splitting undoes joining. -/
theorem pieces_join {ss : List (List Char)} (hne : ss ≠ [])
    (h : ∀ s ∈ ss, balanced s = true ∧ Free sep s) :
    pieces sep .outside ([sep].intercalate ss) = ss := by
  induction ss with
  | nil => exact absurd rfl hne
  | cons s ss ih =>
    obtain ⟨hbal, hfree⟩ := h s List.mem_cons_self
    cases ss with
    | nil => rw [join_singleton, pieces_of_free hfree]
    | cons t ts =>
      rw [join_cons_cons, List.append_assoc, List.singleton_append,
        pieces_append hfree (balanced_iff.1 hbal), ih (by simp) fun u hu => h u (List.mem_cons_of_mem _ hu)]

/-- The pieces of a text whose scan ends outside quotations: joined they are the text, the first
one continues the scan and the others are balanced, and none has a separator. -/
theorem pieces_spec (hsep : sep ≠ '"') {s : List Char} (hq : q.run s = .outside) :
    ∃ t ts, pieces sep q s = t :: ts ∧ [sep].intercalate (t :: ts) = s ∧
      (q.run t = .outside ∧ FreeFrom sep q t) ∧ ∀ u ∈ ts, balanced u = true ∧ Free sep u := by
  induction s generalizing q with
  | nil => exact ⟨[], [], rfl, join_singleton [sep] [], ⟨hq, freeFrom_nil⟩, by simp⟩
  | cons c s ih =>
    -- the first piece carries the state of the scan, so only at a separator it starts afresh
    by_cases hc : q = .outside ∧ c = sep
    · obtain ⟨rfl, rfl⟩ := hc
      have hnext : State.outside.next c = .outside := if_neg hsep
      rw [State.run_cons, hnext] at hq
      obtain ⟨t, ts, hp, hj, ⟨hrun, hfree⟩, hall⟩ := ih hq
      refine ⟨[], t :: ts, by rw [pieces, if_pos ⟨rfl, rfl⟩, hp], ?_, ⟨rfl, freeFrom_nil⟩, ?_⟩
      · rw [join_cons_cons, hj, List.nil_append, List.singleton_append]
      · intro u hu
        rcases List.mem_cons.1 hu with rfl | hu
        · exact ⟨balanced_iff.2 hrun, hfree⟩
        · exact hall u hu
    · obtain ⟨t, ts, hp, hj, ⟨hrun, hfree⟩, hall⟩ := ih (q := q.next c) hq
      exact ⟨c :: t, ts, by rw [pieces, if_neg hc, hp], by rw [join_cons_head, hj],
        ⟨hrun, freeFrom_cons.2 ⟨hc, hfree⟩⟩, hall⟩

theorem split?_join {ss : List (List Char)} (hne : ss ≠ []) (hsep : sep ≠ '"')
    (h : ∀ s ∈ ss, balanced s = true ∧ Free sep s) : split? sep ([sep].intercalate ss) = some ss := by
  have hbal : balanced ([sep].intercalate ss) = true := by
    induction ss with
    | nil => exact absurd rfl hne
    | cons s ss ih =>
      have hs := (h s List.mem_cons_self).1
      cases ss with
      | nil => rw [join_singleton]; exact hs
      | cons t ts =>
        have hnext : State.outside.next sep = .outside := if_neg hsep
        rw [join_cons_cons, List.append_assoc, balanced_append hs, List.singleton_append, balanced_iff,
          State.run_cons, hnext, ← balanced_iff]
        exact ih (by simp) fun u hu => h u (List.mem_cons_of_mem _ hu)
  rw [split?, if_pos hbal, pieces_join hne h]

theorem split?_spec (hsep : sep ≠ '"') {s : List Char} {ss : List (List Char)}
    (h : split? sep s = some ss) :
    ss ≠ [] ∧ [sep].intercalate ss = s ∧ ∀ u ∈ ss, balanced u = true ∧ Free sep u := by
  rw [split?] at h
  split at h
  · rename_i hbal
    obtain ⟨t, ts, hp, hj, ⟨hrun, hfree⟩, hall⟩ := pieces_spec hsep (balanced_iff.1 hbal)
    cases h
    rw [hp]
    refine ⟨by simp, hj, fun u hu => ?_⟩
    rcases List.mem_cons.1 hu with rfl | hu
    · exact ⟨balanced_iff.2 hrun, hfree⟩
    · exact hall u hu
  · cases h

/-- A text comes apart into segments exactly when they are balanced texts without separators that join
to it, so that there is one way at most. -/
theorem split?_eq_some_iff (hsep : sep ≠ '"') {s : List Char} {ss : List (List Char)} :
    split? sep s = some ss ↔
      ss ≠ [] ∧ [sep].intercalate ss = s ∧ ∀ u ∈ ss, balanced u = true ∧ Free sep u := by
  constructor
  · exact split?_spec hsep
  · rintro ⟨hne, rfl, hss⟩
    exact split?_join hne hsep hss

theorem split?_eq_none_iff {s : List Char} : split? sep s = none ↔ State.outside.run s ≠ .outside := by
  rw [split?, Ne, ← balanced_iff]
  split <;> simp_all

/-! ## Searching -/

theorem firstOutside?_go_append {s : List Char} (h : FreeFrom sep q s) (hq : q.run s = .outside)
    (t : List Char) : firstOutside?.go sep q (s ++ sep :: t) = some s.length := by
  induction s generalizing q with
  | nil =>
    have hq : q = .outside := hq
    rw [List.nil_append, firstOutside?.go, if_pos ⟨hq, rfl⟩]
    rfl
  | cons c s ih =>
    obtain ⟨hc, hs⟩ := freeFrom_cons.1 h
    rw [List.cons_append, firstOutside?.go, if_neg hc, ih hs hq]
    rfl

theorem firstOutside?_append {s : List Char} (hbal : balanced s = true) (h : Free sep s)
    (t : List Char) : firstOutside? sep (s ++ sep :: t) = some s.length :=
  firstOutside?_go_append h (balanced_iff.1 hbal) t

theorem firstOutside?_go_spec {s : List Char} {n : Nat} (h : firstOutside?.go sep q s = some n) :
    ∃ a b, s = a ++ sep :: b ∧ a.length = n ∧ FreeFrom sep q a ∧ q.run a = .outside := by
  induction s generalizing q n with
  | nil => cases h
  | cons c s ih =>
    rw [firstOutside?.go] at h
    split at h
    · rename_i hc
      obtain ⟨rfl, rfl⟩ := hc
      cases h
      exact ⟨[], s, rfl, rfl, freeFrom_nil, rfl⟩
    · rename_i hc
      obtain ⟨m, hm, rfl⟩ := Option.map_eq_some_iff.1 h
      obtain ⟨a, b, rfl, rfl, hfree, hrun⟩ := ih hm
      exact ⟨c :: a, b, rfl, rfl, freeFrom_cons.2 ⟨hc, hfree⟩, hrun⟩

theorem firstOutside?_spec {s : List Char} {n : Nat} (h : firstOutside? sep s = some n) :
    ∃ a b, s = a ++ sep :: b ∧ a.length = n ∧ Free sep a ∧ balanced a = true := by
  obtain ⟨a, b, hs, hn, hfree, hrun⟩ := firstOutside?_go_spec h
  exact ⟨a, b, hs, hn, hfree, balanced_iff.2 hrun⟩

theorem firstOutside?_go_eq_none_iff {s : List Char} :
    firstOutside?.go sep q s = none ↔ FreeFrom sep q s := by
  induction s generalizing q with
  | nil => exact ⟨fun _ => freeFrom_nil, fun _ => rfl⟩
  | cons c s ih =>
    rw [firstOutside?.go, freeFrom_cons, ← ih]
    split
    · rename_i hc
      simp [hc]
    · rename_i hc
      rw [Option.map_eq_none_iff]
      exact ⟨fun h => ⟨hc, h⟩, fun h => h.2⟩

instance (s : List Char) : Decidable (Free sep s) :=
  decidable_of_iff (firstOutside? sep s = none) firstOutside?_go_eq_none_iff

end Registrar.Quoting
