import Mathlib.Data.List.Infix
import Registrar.Source.Automaton
/-!
# What the states of an automaton hold

The items of a state are productions of which some steps are read (`Item.Of`). A step from a state leads
to items that are one step further (`Leads`), and a state completes only items that it holds.
-/
namespace Registrar

/-! ## Items -/

namespace Item

/-- Some first steps of a production are read, and the others are left. -/
structure Of (i : Item) (p : Production) : Prop where
  head : i.head = p.head
  steps : ∃ done, p.steps = done ++ i.rest ∧ i.labels = (done.map (·.label)).reverse

theorem of_ofProduction (p : Production) : (ofProduction p).Of p := ⟨rfl, [], rfl, rfl⟩

theorem advance_of_rest {i : Item} {s : Step} {rest : List Step} (h : i.rest = s :: rest) :
    i.advance = { i with labels := s.label :: i.labels, binding := s.binding, rest } := by
  rw [advance, h]

theorem advance_of_complete {i : Item} (h : i.rest = []) : i.advance = i := by
  rw [advance, h]

theorem Of.advance {i : Item} {p : Production} (h : i.Of p) : i.advance.Of p := by
  obtain ⟨hhead, done, hsteps, hlabels⟩ := h
  cases hrest : i.rest with
  | nil =>
    rw [advance_of_complete hrest]
    exact ⟨hhead, done, hsteps, hlabels⟩
  | cons s rest =>
    rw [advance_of_rest hrest]
    refine ⟨hhead, done ++ [s], ?_, ?_⟩
    · rw [hsteps, hrest, List.append_assoc, List.singleton_append]
    · simp [hlabels]

theorem mem_through_self (n : Nat) (i : Item) : i ∈ through n i := by
  cases n <;> simp [through]

theorem Of.mem_through {i j : Item} {p : Production} {n : Nat} (h : i.Of p) (hj : j ∈ through n i) :
    j.Of p := by
  induction n generalizing i with
  | zero => exact List.mem_singleton.1 hj ▸ h
  | succ n ih =>
    rcases List.mem_cons.1 hj with rfl | hj
    · exact h
    · exact ih h.advance hj

/-- Enough items after an item are all items after it. -/
theorem advance_mem_through {i j : Item} {n : Nat} (hn : j.rest.length ≤ n) (hi : i ∈ through n j) :
    i.advance ∈ through n j := by
  induction n generalizing j with
  | zero =>
    rw [List.mem_singleton.1 hi, advance_of_complete (List.length_eq_zero_iff.1 (Nat.le_zero.1 hn))]
    exact mem_through_self 0 j
  | succ n ih =>
    rcases List.mem_cons.1 hi with rfl | hi
    · exact List.mem_cons_of_mem _ (mem_through_self n _)
    · refine List.mem_cons_of_mem _ (ih ?_ hi)
      cases hrest : j.rest with
      | nil =>
        rw [advance_of_complete hrest, hrest]
        exact Nat.zero_le n
      | cons s rest =>
        rw [advance_of_rest hrest]
        rw [hrest] at hn
        exact Nat.le_of_succ_le_succ hn

end Item

namespace Automaton

/-! ## Numbers of items -/

namespace Items

/-- The items that are numbered are those of a list, and each is at its number. -/
structure Numbers (known : Array Item × Std.HashMap Item Nat) (is : List Item) : Prop where
  at_number : ∀ (i : Item) (n : Nat), known.2[i]? = some n → known.1[n]? = some i
  numbered : ∀ i ∈ is, i ∈ known.2
  listed : ∀ i ∈ known.1, i ∈ is

theorem numbers_register {known : Array Item × Std.HashMap Item Nat} {is : List Item}
    (h : Numbers known is) (i : Item) : Numbers (register known i) (is ++ [i]) := by
  obtain ⟨hat, hnumbered, hlisted⟩ := h
  unfold register
  split
  · rename_i hmem
    refine ⟨hat, fun j hj => ?_, fun j hj => List.mem_append_left _ (hlisted j hj)⟩
    rcases List.mem_append.1 hj with hj | hj
    · exact hnumbered j hj
    · rw [List.mem_singleton.1 hj]
      exact Std.HashMap.contains_iff_mem.1 hmem
  · refine ⟨fun j n hn => ?_, fun j hj => ?_, fun j hj => ?_⟩
    · dsimp only at hn ⊢
      rw [Std.HashMap.getElem?_insert] at hn
      split at hn
      · rename_i he
        cases hn
        rw [Array.getElem?_push_size, eq_of_beq he]
      · have hj := hat j n hn
        have hlt : n < known.1.size := (Array.getElem?_eq_some_iff.1 hj).1
        rw [Array.getElem?_push_lt hlt, ← hj, Array.getElem?_eq_getElem hlt]
    · rcases List.mem_append.1 hj with hj | hj
      · exact Std.HashMap.mem_insert.2 (.inr (hnumbered j hj))
      · rw [List.mem_singleton.1 hj]
        exact Std.HashMap.mem_insert_self
    · rcases Array.mem_push.1 hj with hj | rfl
      · exact List.mem_append_left _ (hlisted j hj)
      · exact List.mem_append_right _ List.mem_cons_self

theorem numbers_foldl (is : List Item) : Numbers (is.foldl register (#[], {})) is := by
  induction is using List.reverseRecOn with
  | nil => exact ⟨fun i n hn => by simp at hn, nofun, fun i hi => by simp at hi⟩
  | append_singleton is i ih =>
    rw [List.foldl_concat]
    exact numbers_register ih i

/-- The production that reads the first head as a whole text. -/
def whole (ps : List (List Production)) : Production := { head := ps.length, steps := [{ symbol := .head 0 }] }

/-- The items of a grammar: its productions and the whole text, at every place. -/
def listed (ps : List (List Production)) : List Item :=
  (whole ps :: ps.flatten).flatMap fun p => (Item.ofProduction p).through p.steps.length

theorem advance_mem_listed {ps : List (List Production)} {i : Item} (h : i ∈ listed ps) :
    i.advance ∈ listed ps := by
  obtain ⟨p, hp, hi⟩ := List.mem_flatMap.1 h
  exact List.mem_flatMap.2 ⟨p, hp, Item.advance_mem_through (Nat.le_refl _) hi⟩

section OfProductions
variable {ps : List (List Production)} {n h : Nat} {i : Item}

theorem ofProductions_eq (ps : List (List Production)) :
    ∃ known, Numbers known (listed ps) ∧ (ofProductions ps).items = known.1 ∧
      (ofProductions ps).next = known.1.map (fun i => known.2.getD i.advance 0) ∧
      (ofProductions ps).starts =
        (ps.map fun qs => qs.map fun p => known.2.getD (Item.ofProduction p) 0).toArray := by
  refine ⟨_, numbers_foldl (listed ps), ?_, ?_, ?_⟩ <;>
    simp only [ofProductions, listed, List.flatMap_cons, List.flatMap_map] <;> rfl

theorem Numbers.get?_getD {known : Array Item × Std.HashMap Item Nat} {is : List Item}
    (h : Numbers known is) (hi : i ∈ is) : known.1[known.2.getD i 0]? = some i := by
  obtain ⟨n, hn⟩ := Option.isSome_iff_exists.1 (Std.HashMap.mem_iff_isSome_getElem?.1 (h.numbered i hi))
  rw [Std.HashMap.getD_eq_getD_getElem?, hn]
  exact h.at_number i n hn

/-- An item is a production of which some steps are read. -/
theorem of_get? (hi : (ofProductions ps).get? n = some i) : ∃ p ∈ whole ps :: ps.flatten, i.Of p := by
  obtain ⟨known, hnumbers, hitems, -, -⟩ := ofProductions_eq ps
  rw [get?, hitems] at hi
  obtain ⟨p, hp, hthrough⟩ := List.mem_flatMap.1 (hnumbers.listed i (Array.mem_of_getElem? hi))
  exact ⟨p, hp, (Item.of_ofProduction p).mem_through hthrough⟩

/-- The item after one more step is at the number that is kept for it. -/
theorem get?_next (hi : (ofProductions ps).get? n = some i) :
    (ofProductions ps).get? ((ofProductions ps).next.getD n 0) = some i.advance := by
  obtain ⟨known, hnumbers, hitems, hnext, -⟩ := ofProductions_eq ps
  rw [get?, hitems] at hi ⊢
  have hlisted := advance_mem_listed (hnumbers.listed i (Array.mem_of_getElem? hi))
  rw [hnext, Array.getD_eq_getD_getElem?, Array.getElem?_map, hi, Option.map_some, Option.getD_some]
  exact hnumbers.get?_getD hlisted

/-- The items before the first step of a head have read nothing. -/
theorem labels_of_start (hn : n ∈ (ofProductions ps).starts.getD h []) (hi : (ofProductions ps).get? n = some i) :
    i.labels = [] := by
  obtain ⟨known, hnumbers, hitems, -, hstarts⟩ := ofProductions_eq ps
  rw [get?, hitems] at hi
  rw [hstarts, Array.getD_eq_getD_getElem?, List.getElem?_toArray, List.getElem?_map] at hn
  cases hqs : ps[h]? with
  | none => simp [hqs] at hn
  | some qs =>
    rw [hqs, Option.map_some, Option.getD_some] at hn
    obtain ⟨p, hp, rfl⟩ := List.mem_map.1 hn
    have hlisted : Item.ofProduction p ∈ listed ps :=
      List.mem_flatMap.2 ⟨p, List.mem_cons_of_mem _ (List.mem_flatten.2 ⟨qs, List.mem_of_getElem? hqs, hp⟩),
        Item.mem_through_self _ _⟩
    rw [hnumbers.get?_getD hlisted] at hi
    cases hi
    rfl

theorem size_starts (ps : List (List Production)) : (ofProductions ps).starts.size = ps.length := by
  simp [ofProductions]

end OfProductions

/-! ## Kernels -/

theorem mem_insert {i : Nat} {follow : TerminalSet} {k : Kernel} {y : Nat × TerminalSet}
    (h : y ∈ Kernel.insert i follow k) : y.1 = i ∨ ∃ z ∈ k, z.1 = y.1 := by
  induction k with
  | nil => exact .inl (by rw [List.mem_singleton.1 h])
  | cons z k ih =>
    obtain ⟨j, f⟩ := z
    rw [Kernel.insert] at h
    split_ifs at h with hlt heq
    · rcases List.mem_cons.1 h with rfl | h
      · exact .inl rfl
      · exact .inr ⟨y, h, rfl⟩
    · rcases List.mem_cons.1 h with rfl | h
      · exact .inl heq.symm
      · exact .inr ⟨y, List.mem_cons_of_mem _ h, rfl⟩
    · rcases List.mem_cons.1 h with rfl | h
      · exact .inr ⟨(j, f), List.mem_cons_self, rfl⟩
      · rcases ih h with hy | ⟨z, hz, hy⟩
        · exact .inl hy
        · exact .inr ⟨z, List.mem_cons_of_mem _ hz, hy⟩

/-- A state with a kernel holds an item. -/
def Held (t : Items) (k : Kernel) (i : Item) : Prop := ∃ x ∈ t.closure k, t.get? x.1 = some i

/-- A step in the slot leads from a state to items that are one step further. -/
def Leads (t : Items) (k : Kernel) (slot : Nat) (k' : Kernel) : Prop :=
  ∀ y ∈ k', ∃ i s rest, t.Held k i ∧ i.rest = s :: rest ∧ Items.slot s.symbol = slot ∧
    t.get? y.1 = some i.advance

section Kernels
variable {ps : List (List Production)} {k k' : Kernel} {x : Nat}

/-- The kernels after one more item of a state. -/
def enter (t : Items) (kernels : Array Kernel) (x : Nat × TerminalSet) : Array Kernel :=
  match (t.get? x.1).map Item.rest with
  | some (s :: _) => kernels.modify (slot s.symbol) (Kernel.insert (t.next.getD x.1 0) x.2)
  | _ => kernels

theorem kernelsAfter_eq (t : Items) (closure : Kernel) :
    t.kernelsAfter closure = closure.foldl t.enter (Array.replicate (Terminal.count + t.starts.size) []) := rfl

theorem size_enter (t : Items) (kernels : Array Kernel) (x : Nat × TerminalSet) :
    (t.enter kernels x).size = kernels.size := by
  unfold enter
  split
  · exact Array.size_modify
  · rfl

theorem size_kernelsAfter (t : Items) (closure : Kernel) :
    (t.kernelsAfter closure).size = Terminal.count + t.starts.size := by
  rw [kernelsAfter_eq]
  induction closure using List.reverseRecOn with
  | nil => exact Array.size_replicate
  | append_singleton closure x ih => rw [List.foldl_concat, size_enter, ih]

/-- The kernels after a state are those to which its items lead. -/
theorem leads_kernelsAfter (hk : ((ofProductions ps).kernelsAfter ((ofProductions ps).closure k))[x]? = some k') :
    (ofProductions ps).Leads k x k' := by
  obtain ⟨t, ht⟩ : ∃ t, t = ofProductions ps := ⟨_, rfl⟩
  rw [← ht, kernelsAfter_eq] at hk
  rw [← ht]
  have hall : ∀ closure : Kernel, (∀ y ∈ closure, y ∈ t.closure k) → ∀ x k',
      (closure.foldl t.enter (Array.replicate (Terminal.count + t.starts.size) []))[x]? = some k' →
      t.Leads k x k' := by
    intro closure
    induction closure using List.reverseRecOn with
    | nil =>
      intro _ x k' hk'
      rw [List.foldl_nil, Array.getElem?_replicate] at hk'
      split at hk'
      · cases hk'
        exact nofun
      · cases hk'
    | append_singleton closure y ih =>
      intro hmem x k' hk'
      have hold := ih fun z hz => hmem z (List.mem_append_left _ hz)
      rw [List.foldl_concat, enter] at hk'
      split at hk'
      · rename_i s rest hrest
        obtain ⟨i, hi, hrest⟩ := Option.map_eq_some_iff.1 hrest
        rw [Array.getElem?_modify] at hk'
        split at hk'
        · rename_i hx
          obtain ⟨old, hat, rfl⟩ := Option.map_eq_some_iff.1 hk'
          intro z hz
          rcases mem_insert hz with hz | ⟨w, hw, hz⟩
          · refine ⟨i, s, rest, ⟨y, hmem y (by simp), hi⟩, hrest, hx, ?_⟩
            rw [hz]
            subst ht
            exact get?_next hi
          · rw [← hz]
            exact hold x old hat w hw
        · exact hold x k' hk'
      · exact hold x k' hk'
  exact hall _ (fun _ hy => hy) x k' hk

/-- An item that has read something comes from one that has read one step less. -/
theorem Leads.before (h : (ofProductions ps).Leads k x k') {i : Item} (hi : (ofProductions ps).Held k' i)
    (hlabels : i.labels ≠ []) :
    ∃ j s, (ofProductions ps).Held k j ∧ j.rest = s :: i.rest ∧ slot s.symbol = x ∧
      i.labels = s.label :: j.labels ∧ i.head = j.head := by
  obtain ⟨y, hy, hget⟩ := hi
  rw [closure] at hy
  rcases List.mem_append.1 hy with hy | hy
  · obtain ⟨j, s, rest, hj, hrest, hslot, hadvance⟩ := h y hy
    rw [hget, Item.advance_of_rest hrest] at hadvance
    cases hadvance
    exact ⟨j, s, hj, hrest, hslot, rfl, rfl⟩
  · -- items before the first step of a head have read nothing
    obtain ⟨⟨follow, head⟩, -, hy⟩ := List.mem_flatMap.1 hy
    dsimp only at hy
    split at hy
    · cases hy
    · obtain ⟨n, hn, rfl⟩ := List.mem_map.1 hy
      exact absurd (labels_of_start hn hget) hlabels

theorem held_of_completed {t : Items} {c : Item × TerminalSet} (h : c ∈ t.completed (t.closure k)) :
    t.Held k c.1 ∧ c.1.rest = [] := by
  obtain ⟨⟨n, follow⟩, hx, hitem⟩ := List.mem_filterMap.1 h
  obtain ⟨i, hi, hcomplete⟩ := Option.bind_eq_some_iff.1 hitem
  split at hcomplete
  · rename_i hrest
    cases hcomplete
    exact ⟨⟨(n, follow), hx, hi⟩, List.isEmpty_iff.1 hrest⟩
  · cases hcomplete

end Kernels

end Items

/-! ## Actions -/

/-- A chosen action completes one of the items or goes on. -/
theorem mem_choose {goal : Nat} {done : List Item} {shift? : Option Nat} {levels : List Int} {a : Action}
    (h : a ∈ choose goal done shift? levels) :
    (∃ i ∈ done, a = complete goal i) ∨ ∃ n, shift? = some n ∧ a = .shift n := by
  have hdone : a ∈ done.map (complete goal) → ∃ i ∈ done, a = complete goal i := by
    intro h
    obtain ⟨i, hi, rfl⟩ := List.mem_map.1 h
    exact ⟨i, hi, rfl⟩
  cases shift? with
  | none =>
    rw [choose] at h
    exact .inl (hdone h)
  | some n =>
    have hshift : a ∈ [Action.shift n] → ∃ m, some n = some m ∧ a = .shift m :=
      fun h => ⟨n, rfl, List.mem_singleton.1 h⟩
    cases done with
    | nil => exact .inr (hshift h)
    | cons i is =>
      simp only [choose] at h
      split_ifs at h
      · exact (List.mem_append.1 h).imp hdone hshift
      · exact .inr (hshift h)
      · exact .inl (hdone h)
      · exact .inl (hdone h)
      · exact .inr (hshift h)
      · exact (List.mem_append.1 h).imp hdone hshift

/-- A keyword is given nothing but completions. -/
theorem mem_reserve {t : Items} {completed : List (Item × TerminalSet)} {actions : Array (List Action)}
    {x : Nat} {a : Action} (h : a ∈ (reserve t completed actions).getD x []) :
    a ∈ actions.getD x [] ∨ ∃ c ∈ completed, a = .reduce c.1 := by
  unfold reserve at h
  dsimp only at h
  split at h
  · revert h
    induction Terminal.keywords using List.reverseRecOn with
    | nil => exact .inl
    | append_singleton ws w ih =>
      intro h
      rw [List.foldl_concat, Array.getD_eq_getD_getElem?, Array.getElem?_modify] at h
      rw [Array.getD_eq_getD_getElem?] at ih
      generalize (List.foldl _ actions ws)[x]? = entry at h ih
      split at h
      · -- the entry has been empty or is as it was
        cases entry with
        | none => cases h
        | some as =>
          rw [Option.map_some, Option.getD_some] at h
          split at h
          · obtain ⟨i, hi, rfl⟩ := List.mem_map.1 h
            obtain ⟨c, hc, rfl⟩ := List.mem_map.1 (List.mem_of_mem_filter hi)
            exact .inr ⟨c, hc, rfl⟩
          · exact ih h
      · exact ih h
  · exact .inl h

/-- The actions of a state complete what it holds or go where a step leads. -/
theorem mem_actions {t : Items} {k : Kernel} {after : Array (Option Nat)} {x : Nat} {a : Action}
    (h : a ∈ (stateOf t k (t.closure k) after).actions.getD x []) :
    (∀ i, a = .reduce i → t.Held k i ∧ i.rest = []) ∧ ∀ n, a = .shift n → after.getD x none = some n := by
  have hcompleted : ∀ {c}, c ∈ t.completed (t.closure k) → t.Held k c.1 ∧ c.1.rest = [] :=
    fun hc => Items.held_of_completed hc
  rcases mem_reserve h with h | ⟨c, hc, rfl⟩
  · rw [Array.getD_eq_getD_getElem?, Array.getElem?_map] at h
    cases hx : (Array.range Terminal.count)[x]? with
    | none => simp [hx] at h
    | some y =>
      have hy : y = x := by
        obtain ⟨hlt, he⟩ := Array.getElem?_eq_some_iff.1 hx
        rw [← he, Array.getElem_range]
      subst hy
      rw [hx, Option.map_some, Option.getD_some] at h
      rcases mem_choose h with ⟨i, hi, rfl⟩ | ⟨n, hn, rfl⟩
      · obtain ⟨c, hc, rfl⟩ := List.mem_map.1 (List.mem_of_mem_filter hi)
        have hheld := hcompleted (List.mem_of_mem_filter hc)
        constructor
        · intro i hi
          rw [complete] at hi
          split at hi <;> cases hi
          exact hheld
        · intro n hn
          rw [complete] at hn
          split at hn <;> cases hn
      · refine ⟨nofun, fun m hm => ?_⟩
        cases hm
        exact hn
  · refine ⟨fun i hi => ?_, nofun⟩
    cases hi
    exact hcompleted hc

/-! ## States -/

namespace Progress

/-- The numbers of kernels are their places, and each state that is worked out has the actions and
successors of its kernel. -/
structure Sound (t : Items) (p : Progress) : Prop where
  at_number : ∀ (k : Kernel) (n : Nat), p.numbers[k]? = some n → p.kernels[n]? = some k
  worked : ∀ (n : Nat) (s : State), p.states[n]? = some s → ∃ k after, p.kernels[n]? = some k ∧
    s = stateOf t k (t.closure k) after ∧ after.size = (t.kernelsAfter (t.closure k)).size ∧
    ∀ (x m : Nat), after[x]? = some (some m) →
      ∃ k', (t.kernelsAfter (t.closure k))[x]? = some k' ∧ p.kernels[m]? = some k'

/-- Kernels keep their numbers. -/
structure Extends (p q : Progress) : Prop where
  kernels : ∀ (n : Nat) (k : Kernel), p.kernels[n]? = some k → q.kernels[n]? = some k
  states : q.states = p.states

theorem Extends.refl (p : Progress) : Extends p p := ⟨fun _ _ h => h, rfl⟩

theorem Extends.trans {p q r : Progress} (h : Extends p q) (h' : Extends q r) : Extends p r :=
  ⟨fun n k hk => h'.kernels n k (h.kernels n k hk), h'.states.trans h.states⟩

theorem sound_number {t : Items} {p : Progress} (h : p.Sound t) (k : Kernel) :
    (p.number k).1.Sound t ∧ Extends p (p.number k).1 ∧
      (p.number k).1.kernels[(p.number k).2]? = some k := by
  unfold number
  split
  · rename_i n hn
    exact ⟨h, .refl p, h.at_number k n hn⟩
  · rename_i hnone
    have hext : Extends p ⟨p.kernels.push k, p.numbers.insert k p.kernels.size, p.states⟩ := by
      refine ⟨fun n k' hk' => ?_, rfl⟩
      have hlt : n < p.kernels.size := (Array.getElem?_eq_some_iff.1 hk').1
      rw [Array.getElem?_push_lt hlt, ← hk', Array.getElem?_eq_getElem hlt]
    refine ⟨⟨fun k' n hn => ?_, fun n s hs => ?_⟩, hext, Array.getElem?_push_size⟩
    · dsimp only at hn ⊢
      rw [Std.HashMap.getElem?_insert] at hn
      split at hn
      · rename_i he
        cases hn
        rw [Array.getElem?_push_size, eq_of_beq he]
      · exact hext.kernels n k' (h.at_number k' n hn)
    · obtain ⟨k', after, hk', hs, hsize, hafter⟩ := h.worked n s hs
      refine ⟨k', after, hext.kernels n k' hk', hs, hsize, fun x m hx => ?_⟩
      obtain ⟨k'', hk'', hm⟩ := hafter x m hx
      exact ⟨k'', hk'', hext.kernels m k'' hm⟩

/-- The numbers after one more kernel. -/
def numberNext (x : Progress × Array (Option Nat)) (k : Kernel) : Progress × Array (Option Nat) :=
  if k.isEmpty then (x.1, x.2.push none)
  else ((x.1.number k).1, x.2.push (some (x.1.number k).2))

theorem numberAll_eq (p : Progress) (ks : Array Kernel) :
    p.numberAll ks = ks.toList.foldl numberNext (p, #[]) := by
  rw [numberAll, ← Array.foldl_toList]
  rfl

/-- Kernels have been numbered in their order; an empty one has no number. -/
structure Numbered (t : Items) (p : Progress) (q : Progress × Array (Option Nat)) (ks : List Kernel) : Prop where
  sound : q.1.Sound t
  extend : Extends p q.1
  size : q.2.size = ks.length
  numbers : ∀ (x m : Nat), q.2[x]? = some (some m) → ∃ k, ks[x]? = some k ∧ q.1.kernels[m]? = some k

theorem numbered_numberNext {t : Items} {p : Progress} {q : Progress × Array (Option Nat)} {ks : List Kernel}
    (h : Numbered t p q ks) (k : Kernel) : Numbered t p (numberNext q k) (ks ++ [k]) := by
  obtain ⟨hsound, hext, hsize, hnumbers⟩ := h
  -- the earlier numbers stay, and the new one is that of the kernel
  have hall : ∀ {r : Progress} {n : Option Nat}, Extends q.1 r → (∀ m, n = some m → r.kernels[m]? = some k) →
      ∀ (x m : Nat), (q.2.push n)[x]? = some (some m) →
        ∃ k', (ks ++ [k])[x]? = some k' ∧ r.kernels[m]? = some k' := by
    intro r n hr hn x m hx
    rw [Array.getElem?_push] at hx
    split at hx
    · rename_i hlast
      refine ⟨k, ?_, hn m (Option.some.inj hx)⟩
      rw [hlast, hsize, List.getElem?_concat_length]
    · obtain ⟨k', hk', hm⟩ := hnumbers x m hx
      have hlt : x < ks.length := (List.getElem?_eq_some_iff.1 hk').1
      exact ⟨k', by rw [List.getElem?_append_left hlt, hk'], hr.kernels m k' hm⟩
  have hlength : ∀ n, (q.2.push n).size = (ks ++ [k]).length := by
    intro n
    rw [Array.size_push, hsize, List.length_append, List.length_singleton]
  rw [numberNext]
  split
  · exact ⟨hsound, hext, hlength _, hall (.refl _) nofun⟩
  · obtain ⟨hsound', hext', hnumber⟩ := sound_number hsound k
    refine ⟨hsound', hext.trans hext', hlength _, hall hext' ?_⟩
    rintro m ⟨⟩
    exact hnumber

theorem numbered_numberAll {t : Items} {p : Progress} (h : p.Sound t) (ks : Array Kernel) :
    Numbered t p (p.numberAll ks) ks.toList := by
  rw [numberAll_eq]
  induction ks.toList using List.reverseRecOn with
  | nil => exact ⟨h, .refl p, rfl, nofun⟩
  | append_singleton ks k ih =>
    rw [List.foldl_concat]
    exact numbered_numberNext ih k

theorem sound_run {t : Items} {p : Progress} (h : p.Sound t) (limit : Nat) : (run t limit p).Sound t := by
  induction limit generalizing p with
  | zero => exact h
  | succ limit ih =>
    rw [run]
    split
    · exact h
    · rename_i k hk
      obtain ⟨hsound, hext, hsize, hnumbers⟩ := numbered_numberAll h (t.kernelsAfter (t.closure k))
      dsimp only
      generalize p.numberAll (t.kernelsAfter (t.closure k)) = q at hsound hext hsize hnumbers
      refine ih ⟨hsound.at_number, fun n s hs => ?_⟩
      dsimp only at hs
      rw [Array.getElem?_push] at hs
      split at hs
      · rename_i hn
        cases hs
        rw [hext.states] at hn
        refine ⟨k, q.2, hn ▸ hext.kernels _ k hk, rfl, by rw [hsize, Array.length_toList], fun x m hx => ?_⟩
        simpa only [Array.getElem?_toList] using hnumbers x m hx
      · exact hsound.worked n s hs

end Progress

/-- The progress that the automaton of a grammar comes from. -/
theorem exists_sound {σ : Type} [DecidableEq σ] (limit : Nat) (g : Grammar σ) :
    ∃ p : Progress, p.Sound (.ofProductions g.productions) ∧ (ofGrammar limit g).states = p.states := by
  refine ⟨_, Progress.sound_run ⟨fun k n hn => ?_, fun n s hs => ?_⟩ limit, rfl⟩
  · rw [Std.HashMap.ofList_singleton, Std.HashMap.getElem?_insert] at hn
    split at hn
    · rename_i he
      cases hn
      rw [← eq_of_beq he]
      rfl
    · simp at hn
  · simp at hs

/-! ## Steps between states -/

/-- What has read something after a step in a slot has read one step less before it. -/
def Goes (held : Nat → Item → Prop) (n slot m : Nat) : Prop :=
  ∀ i, held m i → i.labels ≠ [] → ∃ j s, held n j ∧ j.rest = s :: i.rest ∧ Items.slot s.symbol = slot ∧
    i.labels = s.label :: j.labels ∧ i.head = j.head

/-- The items that a numbered state holds. -/
def Progress.Holds (t : Items) (p : Progress) (n : Nat) (i : Item) : Prop :=
  ∃ k, p.kernels[n]? = some k ∧ t.Held k i

/-- A state that is worked out has successors that go on from it. -/
theorem Progress.Sound.goes {ps : List (List Production)} {p : Progress} (h : p.Sound (.ofProductions ps))
    {n : Nat} {s : State} (hs : p.states[n]? = some s) :
    ∃ k after, p.kernels[n]? = some k ∧
      s = stateOf (.ofProductions ps) k ((Items.ofProductions ps).closure k) after ∧
      after.size = ((Items.ofProductions ps).kernelsAfter ((Items.ofProductions ps).closure k)).size ∧
      ∀ {x m}, after.getD x none = some m → Goes (p.Holds (.ofProductions ps)) n x m := by
  obtain ⟨k, after, hk, hstate, hsize, hafter⟩ := h.worked n s hs
  refine ⟨k, after, hk, hstate, hsize, fun {x m} hx => ?_⟩
  rw [Array.getD_eq_getD_getElem?] at hx
  cases hget : after[x]? with
  | none => simp [hget] at hx
  | some m? =>
    rw [hget, Option.getD_some] at hx
    obtain ⟨k', hk', hm⟩ := hafter x m (hx ▸ hget)
    rintro i ⟨k'', hk'', hheld⟩ hlabels
    obtain rfl : k'' = k' := Option.some.inj (hk''.symm.trans hm)
    obtain ⟨j, s, hj, hrest, hslot, hlabel, hhead⟩ := (Items.leads_kernelsAfter hk').before hheld hlabels
    exact ⟨j, s, ⟨k, hk, hj⟩, hrest, hslot, hlabel, hhead⟩

theorem getD_of_successors {t : Items} {k closure : Kernel} {after : Array (Option Nat)} {head m : Nat}
    (h : (stateOf t k closure after).successors.getD head none = some m) :
    after.getD (Terminal.count + head) none = some m ∧ Terminal.count + head < after.size := by
  have hsuccessors : (stateOf t k closure after).successors = after.extract Terminal.count after.size := rfl
  rw [hsuccessors, Array.getD_eq_getD_getElem?, Array.getElem?_extract] at h
  split at h
  · rename_i hlt
    exact ⟨by rw [Array.getD_eq_getD_getElem?, h], by omega⟩
  · cases h

/-- An automaton goes and completes items as the productions allow. -/
structure Sound (a : Automaton) (productions : List Production) (held : Nat → Item → Prop) : Prop where
  shift : ∀ {n s x m}, a.state? n = some s → .shift m ∈ s.actions.getD x [] → Goes held n x m
  successor : ∀ {n head m}, a.successor? n head = some m → Goes held n (Items.slot (.head head)) m
  reduce : ∀ {n s x i}, a.state? n = some s → .reduce i ∈ s.actions.getD x [] → held n i ∧ i.rest = []
  production : ∀ {n i m head}, held n i → i.labels = [] → a.successor? m i.head = some head →
    ∃ p ∈ productions, i.head = p.head ∧ i.rest = p.steps

theorem sound_ofGrammar {σ : Type} [DecidableEq σ] (limit : Nat) (g : Grammar σ) :
    ∃ held, Sound (ofGrammar limit g) g.productions.flatten held := by
  obtain ⟨p, hsound, hstates⟩ := exists_sound limit g
  refine ⟨p.Holds (.ofProductions g.productions), ?_⟩
  constructor
  · intro n s x m hs hm
    rw [state?, hstates] at hs
    obtain ⟨k, after, -, rfl, -, hgoes⟩ := hsound.goes hs
    exact hgoes ((mem_actions hm).2 m rfl)
  · intro n head m hm
    obtain ⟨s, hs, hsuccessor⟩ := Option.bind_eq_some_iff.1 hm
    rw [state?, hstates] at hs
    obtain ⟨k, after, -, rfl, -, hgoes⟩ := hsound.goes hs
    exact hgoes (getD_of_successors hsuccessor).1
  · intro n s x i hs hi
    rw [state?, hstates] at hs
    obtain ⟨k, after, hk, rfl, -, -⟩ := hsound.goes hs
    obtain ⟨hheld, hrest⟩ := (mem_actions hi).1 i rfl
    exact ⟨⟨k, hk, hheld⟩, hrest⟩
  · rintro n i m head ⟨k, hk, x, -, hget⟩ hlabels hsuccessor
    obtain ⟨q, hq, hhead, done, hsteps, hdone⟩ := Items.of_get? hget
    have hnone : done = [] := by simpa [hlabels] using hdone
    rw [hnone, List.nil_append] at hsteps
    rcases List.mem_cons.1 hq with rfl | hq
    · -- no state comes after the whole text
      obtain ⟨s, hs, hsuccessor⟩ := Option.bind_eq_some_iff.1 hsuccessor
      rw [state?, hstates] at hs
      obtain ⟨k', after, -, rfl, hsize, -⟩ := hsound.goes hs
      have hlt := (getD_of_successors hsuccessor).2
      rw [hsize, Items.size_kernelsAfter, Items.size_starts, hhead] at hlt
      exact absurd hlt (Nat.lt_irrefl _)
    · exact ⟨q, hq, hhead, hsteps.symm⟩

end Automaton
end Registrar
