import Mathlib.Data.List.TakeWhile
import Registrar.Proofs.AutomatonStates
import Registrar.Source.Reading
/-!
# What a text is read as

A piece of text is derived when it is a token, or when pieces that are derived have been put together as a
production says (`Piece.Derived`). Whatever stacks a reader keeps, their pieces are derived
(`Reader.Sound`), and so the tree of a text is made of derived pieces (`read?_derived`).
-/
namespace Registrar

/-! ## Pieces -/

namespace Piece

/-- Pieces are what the steps read, in order, with comments between them. -/
structure Covers (steps : List Step) (pieces : List Piece) : Prop where
  slots : ((pieces.filter fun p => !p.isComment).map fun p => Automaton.Items.slot p.symbol) =
    steps.map fun s => Automaton.Items.slot s.symbol
  first : ∀ p, pieces.head? = some p → p.isComment = false

/-- A piece is a token, or pieces put together as a production says. -/
inductive Derived (productions : List Production) (kinds : Array (Option NodeKind)) : Piece → Prop
  | token (t : Token) : Derived productions kinds (.ofToken t)
  | complete {p : Production} {i : Item} {place : Cursor} {pieces : List Piece} (hp : p ∈ productions)
      (hhead : i.head = p.head) (hlabels : i.labels = (p.steps.map (·.label)).reverse)
      (hcovers : Covers p.steps pieces) (hpieces : ∀ q ∈ pieces, Derived productions kinds q) :
      Derived productions kinds (.complete kinds i place pieces)

theorem index_eq_comment_iff {t : Terminal} : t.index = Terminal.comment.index ↔ t = .comment := by
  have hcomment : Terminal.comment.index = 3 := by decide
  have hclasses : Terminal.classes.length = 14 := rfl
  rw [hcomment]
  cases t with
  | mark s =>
    simp only [Terminal.index, hclasses, reduceCtorEq, iff_false]
    omega
  | keyword w =>
    simp only [Terminal.index, hclasses, reduceCtorEq, iff_false]
    omega
  | _ => decide

theorem isComment_ofToken {t : Token} : (ofToken t).isComment = true ↔ t.terminal = .comment := by
  rw [isComment, ofToken, beq_iff_eq, Symbol.terminal.injEq, index_eq_comment_iff]

theorem covers_nil : Covers [] [] := ⟨rfl, nofun⟩

theorem Covers.ne_nil {steps : List Step} {pieces : List Piece} (h : Covers steps pieces) (hne : steps ≠ []) :
    pieces ≠ [] := by
  rintro rfl
  exact hne (List.map_eq_nil_iff.1 h.slots.symm)

theorem Covers.comment {steps : List Step} {pieces : List Piece} (h : Covers steps pieces) (hne : steps ≠ [])
    {p : Piece} (hp : p.isComment = true) : Covers steps (pieces ++ [p]) := by
  constructor
  · rw [List.filter_append, List.filter_cons_of_neg (by simp [hp]), List.filter_nil, List.append_nil]
    exact h.slots
  · intro q hq
    rw [List.head?_append_of_ne_nil _ (h.ne_nil hne)] at hq
    exact h.first q hq

theorem Covers.step {steps : List Step} {pieces : List Piece} (h : Covers steps pieces) {p : Piece}
    (hp : p.isComment = false) {s : Step}
    (hslot : Automaton.Items.slot s.symbol = Automaton.Items.slot p.symbol) :
    Covers (steps ++ [s]) (pieces ++ [p]) := by
  constructor
  · rw [List.filter_append, List.filter_cons_of_pos (by simp [hp]), List.filter_nil, List.map_append,
      List.map_append, h.slots, List.map_singleton, List.map_singleton, hslot]
  · intro q hq
    cases pieces with
    | nil =>
      cases hq
      exact hp
    | cons x xs => exact h.first q hq

/-- Behind the last piece that is no comment stand comments. -/
theorem exists_comments (pieces : List Piece) :
    ∃ comments, pieces = (pieces.reverse.dropWhile isComment).reverse ++ comments ∧
      ∀ p ∈ comments, p.isComment = true := by
  refine ⟨(pieces.reverse.takeWhile isComment).reverse, ?_, fun p hp => ?_⟩
  · rw [← List.reverse_append, List.takeWhile_append_dropWhile, List.reverse_reverse]
  · exact List.mem_takeWhile_imp (List.mem_reverse.1 hp)

/-- Comments at the end can be left out. -/
theorem Covers.own {steps : List Step} {pieces : List Piece} (h : Covers steps pieces) :
    Covers steps (pieces.reverse.dropWhile isComment).reverse := by
  obtain ⟨comments, hsplit, hcomments⟩ := exists_comments pieces
  have hnone : (comments.filter fun p => !p.isComment) = [] := by
    rw [List.filter_eq_nil_iff]
    intro p hp
    simp [hcomments p hp]
  obtain ⟨hslots, hfirst⟩ := h
  rw [hsplit, List.filter_append, hnone, List.append_nil] at hslots
  refine ⟨hslots, fun p hp => hfirst p ?_⟩
  rw [hsplit, List.head?_append, hp]
  rfl

end Piece

/-! ## Stacks -/

/-- What a reading rests on: the productions, the kinds of their heads, and the items that states hold. -/
structure Basis where
  productions : List Production
  kinds : Array (Option NodeKind)
  held : Nat → Item → Prop

namespace Basis

def Derived (b : Basis) (p : Piece) : Prop := p.Derived b.productions b.kinds

/-- A piece leads from a state to a state; a comment stays in it. -/
def Joins (b : Basis) (n : Nat) (p : Piece) (m : Nat) : Prop :=
  if p.isComment then n = m else Automaton.Goes b.held n (Automaton.Items.slot p.symbol) m

end Basis

mutual

/-- All pieces of a stack are derived and lead from state to state. -/
def Stack.Sound (b : Basis) : Stack → Prop
  | .node _ state _ _ links => links.Sound b state

def Links.Sound (b : Basis) (state : Nat) : Links → Prop
  | .none => True
  | .more p below rest => b.Derived p ∧ below.Sound b ∧ b.Joins below.state p state ∧ rest.Sound b state

end

section
variable {b : Basis}

theorem Stack.sound_iff {s : Stack} : s.Sound b ↔ s.links.Sound b s.state := by
  cases s
  rfl

theorem Stack.sound_push {number state : Nat} {p : Piece} {below : Stack} (hp : b.Derived p)
    (hbelow : below.Sound b) (hjoins : b.Joins below.state p state) :
    (Stack.push number state p below).Sound b := ⟨hp, hbelow, hjoins, trivial⟩

theorem Links.sound_add {state : Nat} {p : Piece} {below : Stack} (hp : b.Derived p) (hbelow : below.Sound b)
    (hjoins : b.Joins below.state p state) :
    ∀ {links : Links}, links.Sound b state → (links.add p below).Sound b state
  | .none, _ => ⟨hp, hbelow, hjoins, trivial⟩
  | .more q under rest, ⟨hq, hunder, hq', hrest⟩ => by
    rw [Links.add]
    split
    · rename_i hsame
      split
      · -- the stack below is the one that is there; what leads from it has the same symbol
        have hsymbol : q.symbol = p.symbol := by simpa using (Bool.and_eq_true_iff.1 hsame).2
        refine ⟨hp, hunder, ?_, hrest⟩
        rwa [Basis.Joins, Piece.isComment, ← hsymbol]
      · exact ⟨hq, hunder, hq', hrest⟩
    · exact ⟨hq, hunder, hq', Links.sound_add hp hbelow hjoins hrest⟩

theorem Links.sound_addAll {state : Nat} : ∀ {more links : Links}, links.Sound b state →
    more.Sound b state → (links.addAll more).Sound b state
  | .none, _, h, _ => h
  | .more _ _ _, _, h, ⟨hp, hbelow, hjoins, hrest⟩ => by
    rw [Links.addAll]
    exact Links.sound_addAll (Links.sound_add hp hbelow hjoins h) hrest

theorem Stack.sound_join {s t : Stack} (hs : s.Sound b) (ht : t.Sound b) (hmeets : s.meets t = true) :
    (s.join t).Sound b := by
  have hstate : s.state = t.state := by
    rw [Stack.meets, Bool.and_eq_true_iff, beq_iff_eq] at hmeets
    exact hmeets.1
  rw [Stack.sound_iff] at hs ht ⊢
  exact Links.sound_addAll hs (hstate ▸ ht)

/-! ## Taking pieces off a stack -/

/-- The pieces lead from an item that has read nothing to the item. -/
def Taken (b : Basis) (i : Item) (below : Stack) (pieces : List Piece) : Prop :=
  below.Sound b ∧ (∀ p ∈ pieces, b.Derived p) ∧
    ∃ j steps, b.held below.state j ∧ j.labels = [] ∧ j.rest = steps ++ i.rest ∧ i.head = j.head ∧
      i.labels = (steps.map (·.label)).reverse ∧ Piece.Covers steps pieces

theorem Taken.comment {i : Item} {below : Stack} {pieces : List Piece} (h : Taken b i below pieces)
    (hne : i.labels ≠ []) {p : Piece} (hp : b.Derived p) (hcomment : p.isComment = true) :
    Taken b i below (pieces ++ [p]) := by
  obtain ⟨hbelow, hpieces, j, steps, hj, hnone, hrest, hhead, hlabels, hcovers⟩ := h
  refine ⟨hbelow, by simpa [or_imp, forall_and, hp] using hpieces, j, steps, hj, hnone, hrest, hhead, hlabels,
    hcovers.comment ?_ hcomment⟩
  rintro rfl
  exact hne hlabels

theorem Taken.step {i j : Item} {below : Stack} {pieces : List Piece} (h : Taken b j below pieces) {s : Step}
    (hrest : j.rest = s :: i.rest) (hlabels : i.labels = s.label :: j.labels) (hhead : i.head = j.head)
    {p : Piece} (hp : b.Derived p) (hcomment : p.isComment = false)
    (hslot : Automaton.Items.slot s.symbol = Automaton.Items.slot p.symbol) :
    Taken b i below (pieces ++ [p]) := by
  obtain ⟨hbelow, hpieces, k, steps, hk, hnone, hsteps, hkhead, hklabels, hcovers⟩ := h
  refine ⟨hbelow, by simpa [or_imp, forall_and, hp] using hpieces, k, steps ++ [s], hk, hnone, ?_, ?_, ?_,
    hcovers.step hcomment hslot⟩
  · rw [hsteps, hrest, List.append_assoc, List.singleton_append]
  · rw [hhead, hkhead]
  · rw [hlabels, hklabels, List.map_append, List.reverse_append]
    rfl

mutual

/-- As many pieces as an item has read lead from an item that has read nothing. -/
theorem Stack.taken_of_mem_pieces : ∀ {s : Stack} {n : Nat} {taken : List Piece} {i : Item}
    {x : List Piece × Stack}, s.Sound b → b.held s.state i → i.labels.length = n → x ∈ s.pieces n taken →
    ∃ pieces, x.1 = pieces ++ taken ∧ Taken b i x.2 pieces
  | .node number state place weight links, n, taken, i, x, hs, hi, hn, hx => by
    cases n with
    | zero =>
      have hlabels : i.labels = [] := List.length_eq_zero_iff.1 hn
      rw [Stack.pieces, List.mem_singleton] at hx
      subst hx
      exact ⟨[], rfl, hs, nofun, i, [], hi, hlabels, rfl, rfl, hlabels, Piece.covers_nil⟩
    | succ n =>
      rw [Stack.pieces] at hx
      exact Links.taken_of_mem_piecesOver hs hi hn hx

theorem Links.taken_of_mem_piecesOver : ∀ {links : Links} {n state : Nat} {taken : List Piece} {i : Item}
    {x : List Piece × Stack}, links.Sound b state → b.held state i → i.labels.length = n + 1 →
    x ∈ Stack.piecesOver n taken links → ∃ pieces, x.1 = pieces ++ taken ∧ Taken b i x.2 pieces
  | .none, n, state, taken, i, x, _, _, _, hx => nomatch hx
  | .more p below rest, n, state, taken, i, x, ⟨hp, hbelow, hjoins, hrest⟩, hi, hn, hx => by
    rw [Stack.piecesOver] at hx
    rcases List.mem_append.1 hx with hx | hx
    · have hne : i.labels ≠ [] := by
        rintro hnone
        rw [hnone] at hn
        cases hn
      rw [Basis.Joins] at hjoins
      by_cases hcomment : p.isComment = true
      · -- a comment leads to the same state
        rw [if_pos hcomment] at hx hjoins
        obtain ⟨pieces, hpieces, htaken⟩ := Stack.taken_of_mem_pieces hbelow (hjoins ▸ hi) hn hx
        exact ⟨pieces ++ [p], by rw [hpieces, List.append_assoc, List.singleton_append],
          htaken.comment hne hp hcomment⟩
      · rw [if_neg hcomment] at hx hjoins
        obtain ⟨j, s, hj, hjrest, hslot, hlabels, hhead⟩ := hjoins i hi hne
        have hlength : j.labels.length = n := by
          rw [hlabels] at hn
          exact Nat.succ.inj hn
        obtain ⟨pieces, hpieces, htaken⟩ := Stack.taken_of_mem_pieces hbelow hj hlength hx
        exact ⟨pieces ++ [p], by rw [hpieces, List.append_assoc, List.singleton_append],
          htaken.step hjrest hlabels hhead hp (by simpa using hcomment) hslot⟩
    · exact Links.taken_of_mem_piecesOver hrest hi hn hx

end

/-! ## Readers -/

namespace Reader

/-- All stacks of a reader are sound. -/
structure Sound (b : Basis) (r : Reader) : Prop where
  tops : ∀ s, some s ∈ r.tops → s.Sound b
  finished : ∀ s ∈ r.finished, s.Sound b

variable {r : Reader} {s : Stack} {v : Nat}

theorem Sound.fresh (h : r.Sound b) (n : Nat) : Sound b { r with fresh := n } := ⟨h.tops, h.finished⟩

theorem Sound.get? (h : r.Sound b) (hs : r.get? v = some s) : s.Sound b := by
  refine h.tops s ?_
  rw [Reader.get?, List.getD_eq_getElem?_getD] at hs
  cases hv : r.tops[v]? with
  | none => simp [hv] at hs
  | some t =>
    rw [hv, Option.getD_some] at hs
    exact List.mem_of_getElem? (hs ▸ hv)

theorem Sound.put (h : r.Sound b) {s? : Option Stack} (hs : ∀ s, s? = some s → s.Sound b) :
    (r.put v s?).Sound b := by
  refine ⟨fun t ht => ?_, h.finished⟩
  rcases List.mem_or_eq_of_mem_set ht with ht | ht
  · exact h.tops t ht
  · exact hs t ht.symm

theorem Sound.drop (h : r.Sound b) : (r.put v none).Sound b := h.put nofun

theorem sound_joinFrom {i : Nat} {tops tops' : List (Option Stack)} (hs : s.Sound b)
    (htops : ∀ t, some t ∈ tops → t.Sound b) (hjoin : joinFrom i v s tops = some tops') :
    ∀ t, some t ∈ tops' → t.Sound b := by
  induction tops generalizing i tops' with
  | nil => cases hjoin
  | cons t? tops ih =>
    have hrest : ∀ t, some t ∈ tops → t.Sound b := fun t ht => htops t (List.mem_cons_of_mem _ ht)
    cases t? with
    | none =>
      rw [joinFrom] at hjoin
      obtain ⟨tops'', hlater, rfl⟩ := Option.map_eq_some_iff.1 hjoin
      intro u hu
      rcases List.mem_cons.1 hu with hu | hu
      · cases hu
      · exact ih hrest hlater u hu
    | some t =>
      have ht : t.Sound b := htops t List.mem_cons_self
      rw [joinFrom] at hjoin
      split at hjoin
      · rename_i hmeets
        cases hjoin
        intro u hu
        rcases List.mem_cons.1 hu with hu | hu
        · cases hu
          exact Stack.sound_join ht hs (Bool.and_eq_true_iff.1 hmeets).2
        · exact hrest u hu
      · obtain ⟨tops'', hlater, rfl⟩ := Option.map_eq_some_iff.1 hjoin
        intro u hu
        rcases List.mem_cons.1 hu with hu | hu
        · cases hu
          exact ht
        · exact ih hrest hlater u hu

theorem Sound.add (h : r.Sound b) (hs : s.Sound b) : (r.add v s).Sound b := by
  rw [Reader.add]
  split
  · rename_i tops hjoin
    exact ⟨sound_joinFrom hs h.tops hjoin, h.finished⟩
  · refine ⟨fun t ht => ?_, h.finished⟩
    rcases List.mem_append.1 ht with ht | ht
    · exact h.tops t ht
    · cases List.mem_singleton.1 ht
      exact hs

/-! ### Completing items -/

theorem sound_pushAll {fresh state : Nat} {ps : List Piece} (hs : s.Sound b) (hstate : s.state = state)
    (hps : ∀ p ∈ ps, b.Derived p ∧ p.isComment = true) : (pushAll fresh state s ps).1.Sound b := by
  induction ps generalizing fresh s with
  | nil => exact hs
  | cons p ps ih =>
    obtain ⟨⟨hp, hcomment⟩, hps⟩ := List.forall_mem_cons.1 hps
    have hjoins : b.Joins s.state p state := by
      rw [Basis.Joins, if_pos hcomment]
      exact hstate
    rw [pushAll]
    exact ih (Stack.sound_push hp hs hjoins) rfl hps

/-- The comments outside a completed item are among its pieces. -/
theorem mem_comments_completion {a : Automaton} {i : Item} {pieces : List Piece} {below : Stack} {p : Piece}
    (h : p ∈ (completion a i pieces below).comments) : p ∈ pieces ∧ p.isComment = true := by
  obtain ⟨comments, hsplit, hcomments⟩ := Piece.exists_comments pieces
  have hbehind := congrArg (List.drop (pieces.reverse.dropWhile Piece.isComment).reverse.length) hsplit
  rw [List.drop_left] at hbehind
  have hp : p ∈ comments := hbehind ▸ h
  exact ⟨hsplit ▸ List.mem_append_right _ hp, hcomments p hp⟩

theorem mem_addCompletion {c d : Completion} {ds : List Completion} (h : d ∈ addCompletion c ds) :
    d = c ∨ d ∈ ds := by
  induction ds with
  | nil => exact .inl (List.mem_singleton.1 h)
  | cons e es ih =>
    rw [addCompletion] at h
    split_ifs at h
    · exact (List.mem_cons.1 h).imp_right (List.mem_cons_of_mem _)
    · exact .inr h
    · rcases List.mem_cons.1 h with rfl | h
      · exact .inr List.mem_cons_self
      · exact (ih h).imp_right (List.mem_cons_of_mem _)

theorem mem_completions {a : Automaton} {i : Item} {ways : List (List Piece × Stack)} {c : Completion}
    (h : c ∈ ways.foldl (fun cs (ps, below) => addCompletion (completion a i ps below) cs) []) :
    ∃ x ∈ ways, c = completion a i x.1 x.2 := by
  induction ways using List.reverseRecOn with
  | nil => cases h
  | append_singleton ways x ih =>
    rw [List.foldl_concat] at h
    rcases mem_addCompletion h with rfl | h
    · exact ⟨x, by simp, rfl⟩
    · obtain ⟨y, hy, hc⟩ := ih h
      exact ⟨y, List.mem_append_left _ hy, hc⟩

end Reader

section
variable {a : Automaton} (ha : a.Sound b.productions b.held) (hkinds : a.kinds = b.kinds)

include ha hkinds

/-- What completes an item is derived, where a state comes after it. -/
theorem Reader.derived_completion {i : Item} {below : Stack} {pieces : List Piece} {n : Nat}
    (h : Taken b i below pieces) (hrest : i.rest = []) (hn : a.successor? below.state i.head = some n) :
    b.Derived (Reader.completion a i pieces below).piece := by
  obtain ⟨-, hpieces, j, steps, hj, hnone, hsteps, hhead, hlabels, hcovers⟩ := h
  rw [hrest, List.append_nil] at hsteps
  obtain ⟨p, hp, hphead, hpsteps⟩ := ha.production hj hnone (hhead ▸ hn)
  obtain rfl : steps = p.steps := hsteps.symm.trans hpsteps
  rw [Reader.completion, Basis.Derived, ← hkinds]
  refine .complete hp (hhead.trans hphead) hlabels hcovers.own fun q hq => hkinds ▸ hpieces q ?_
  exact List.mem_reverse.1 (List.dropWhile_sublist _ |>.mem (List.mem_reverse.1 hq))

/-- A stack that an item has been completed on is sound, with the comments behind it. -/
theorem Reader.sound_completion {i : Item} {below : Stack} {pieces : List Piece} {n : Nat}
    (h : Taken b i below pieces) (hrest : i.rest = []) (hn : a.successor? below.state i.head = some n)
    (number fresh : Nat) :
    (Reader.pushAll fresh n (below.push number n (Reader.completion a i pieces below).piece)
      (Reader.completion a i pieces below).comments).1.Sound b := by
  have hpiece := Reader.derived_completion ha hkinds h hrest hn
  have hjoins : b.Joins below.state (Reader.completion a i pieces below).piece n := by
    have hgoes : Automaton.Goes b.held below.state (Automaton.Items.slot (.head i.head)) n := ha.successor hn
    exact hgoes
  refine Reader.sound_pushAll (Stack.sound_push hpiece h.1 hjoins) rfl fun p hp => ?_
  obtain ⟨hread, hcomment⟩ := Reader.mem_comments_completion hp
  exact ⟨h.2.1 p hread, hcomment⟩

theorem Reader.Sound.reduce {r : Reader} (h : r.Sound b) {v : Nat} {s : Stack} (hs : s.Sound b) {i : Item}
    (hi : b.held s.state i) (hrest : i.rest = []) : (r.reduce a v s i).Sound b := by
  have hcompleted : ∀ c ∈ (s.pieces i.labels.length []).foldl
      (fun cs (ps, below) => Reader.addCompletion (Reader.completion a i ps below) cs) [],
      ∃ pieces, Taken b i c.below pieces ∧ c = Reader.completion a i pieces c.below := by
    intro c hc
    obtain ⟨⟨pieces, below⟩, hx, rfl⟩ := Reader.mem_completions hc
    obtain ⟨taken, htaken, hx⟩ := Stack.taken_of_mem_pieces hs hi rfl hx
    rw [List.append_nil] at htaken
    exact ⟨taken, hx, by rw [← htaken]; rfl⟩
  rw [Reader.reduce]
  dsimp only
  revert hcompleted
  generalize List.foldl _ [] (s.pieces i.labels.length []) = completions
  intro hcompleted
  induction completions generalizing r with
  | nil => exact h
  | cons c cs ih =>
    obtain ⟨⟨pieces, htaken, hc⟩, hcs⟩ := List.forall_mem_cons.1 hcompleted
    rw [List.foldl_cons]
    refine ih ?_ hcs
    cases hn : a.successor? c.below.state i.head with
    | none => exact h
    | some n =>
      dsimp only
      have hstack := Reader.sound_completion ha hkinds htaken hrest hn r.fresh (r.fresh + 1)
      rw [← hc] at hstack
      exact Reader.Sound.add (h.fresh _) hstack

/-! ### Reading tokens -/

theorem Reader.Sound.applyAll {r : Reader} (h : r.Sound b) {v : Nat} {s : Stack} (hs : s.Sound b)
    {state : State} (hstate : a.state? s.state = some state) {t : Token} (ht : t.terminal ≠ .comment)
    {newest : Option Nat} {actions : List Action}
    (hactions : ∀ x ∈ actions, x ∈ state.actions.getD t.terminal.index []) :
    (r.applyAll a v s t newest actions).1.Sound b := by
  induction actions generalizing r newest with
  | nil =>
    cases newest with
    | none => exact h.drop
    | some n => exact h
  | cons x actions ih =>
    obtain ⟨hx, hmore⟩ := List.forall_mem_cons.1 hactions
    cases x with
    | shift n =>
      rw [Reader.applyAll]
      refine Reader.Sound.fresh (h.put ?_) _
      rintro u ⟨⟩
      refine Stack.sound_push (.token t) hs ?_
      rw [Basis.Joins, if_neg (by simpa using Piece.isComment_ofToken.not.2 ht)]
      exact ha.shift hstate hx
    | reduce i =>
      rw [Reader.applyAll]
      obtain ⟨hi, hrest⟩ := ha.reduce hstate hx
      exact ih (h.reduce ha hkinds hs hi hrest) hmore
    | accept =>
      rw [Reader.applyAll]
      refine ⟨(h.drop (v := v)).tops, fun u hu => ?_⟩
      rcases List.mem_append.1 hu with hu | hu
      · exact h.finished u hu
      · rw [List.mem_singleton.1 hu]
        exact hs

theorem Reader.Sound.consume {r : Reader} (h : r.Sound b) {v : Nat} {t : Token} (fuel : Nat) :
    (r.consume a v t fuel).Sound b := by
  induction fuel generalizing r t with
  | zero => exact h.drop
  | succ fuel ih =>
    rw [Reader.consume]
    split
    · exact h
    · rename_i s hs
      have hsound := h.get? hs
      split
      · exact h.drop
      · rename_i state hstate
        split
        · rename_i hcomment
          refine Reader.Sound.fresh (h.put ?_) _
          rintro u ⟨⟩
          refine Stack.sound_push (.token t) hsound ?_
          rw [Basis.Joins, if_pos (Piece.isComment_ofToken.2 hcomment)]
        · rename_i hcomment
          split
          · split
            · exact ih h
            · exact h.drop
          · exact h.drop
          · have hall : (r.applyAll a v s t none (state.actions.getD t.terminal.index [])).1.Sound b :=
              h.applyAll ha hkinds hsound hstate hcomment fun x hx => hx
            split
            · rename_i r' happly
              rw [happly] at hall
              exact hall
            · rename_i r' n happly
              rw [happly] at hall
              have hmoved : Reader.Sound b { r' with tops := (r'.tops.eraseIdx n).set v (r'.get? n) } := by
                refine ⟨fun u hu => ?_, hall.finished⟩
                rcases List.mem_or_eq_of_mem_set hu with hu | hu
                · exact hall.tops u (List.mem_of_mem_eraseIdx hu)
                · exact hall.get? hu.symm
              exact ih hmoved

/-! ### Rounds -/

theorem Reader.Sound.advance {r : Reader} (h : r.Sound b) (fuel v : Nat) : (r.advance a fuel v).Sound b := by
  rw [Reader.advance]
  split
  · exact h.drop
  · exact h.consume ha hkinds fuel

theorem Reader.Sound.catchUp {r : Reader} (h : r.Sound b) (fuel v furthest n : Nat) :
    (r.catchUp a fuel v furthest n).1.Sound b := by
  induction n generalizing r with
  | zero => exact h.drop
  | succ n ih =>
    rw [Reader.catchUp]
    have hadvance := h.advance ha hkinds fuel v
    split
    · exact hadvance
    · split
      · exact hadvance
      · exact ih hadvance

theorem Reader.Sound.sweep {r : Reader} (h : r.Sound b) (fuel n v furthest : Nat) :
    (r.sweep a fuel n v furthest).1.Sound b := by
  induction n generalizing r v furthest with
  | zero => exact h
  | succ n ih =>
    have hcaught : (if (r.get? v).isSome then r.catchUp a fuel v furthest fuel else (r, furthest)).1.Sound b := by
      split
      · exact h.catchUp ha hkinds fuel v furthest fuel
      · exact h
    rw [Reader.sweep]
    split
    · exact ih hcaught _ _
    · exact h

omit ha hkinds in
theorem Reader.sound_settle {s : Stack} {ts : List Stack} (hs : s.Sound b) (hts : ∀ t ∈ ts, t.Sound b) :
    ∀ t ∈ settle s ts, t.Sound b := by
  induction ts generalizing s with
  | nil => simpa [settle] using hs
  | cons t ts ih =>
    obtain ⟨ht, hrest⟩ := List.forall_mem_cons.1 hts
    rw [settle]
    split_ifs with hmeets
    · exact List.forall_mem_cons.2 ⟨Stack.sound_join ht hs hmeets, hrest⟩
    · exact List.forall_mem_cons.2 ⟨hs, ih ht hrest⟩
    · exact List.forall_mem_cons.2 ⟨ht, ih hs hrest⟩

omit ha hkinds in
theorem Reader.Sound.condense {r : Reader} (h : r.Sound b) : r.condense.Sound b := by
  have hsettled : ∀ ss : List Stack, (∀ s ∈ ss, s.Sound b) →
      ∀ t ∈ ss.foldl (fun ts s => settle s ts) [], t.Sound b := by
    intro ss hss
    induction ss using List.reverseRecOn with
    | nil => exact nofun
    | append_singleton ss s ih =>
      rw [List.foldl_concat]
      obtain ⟨hold, hnew⟩ := List.forall_mem_append.1 hss
      exact sound_settle (hnew s List.mem_cons_self) (ih hold)
  refine ⟨fun s hs => ?_, h.finished⟩
  obtain ⟨t, ht, hts⟩ := List.mem_map.1 hs
  cases hts
  refine hsettled _ (fun u hu => ?_) s ht
  obtain ⟨u?, hmem, rfl⟩ := List.mem_filterMap.1 hu
  exact h.tops u hmem

theorem Reader.Sound.rounds {r : Reader} (h : r.Sound b) (fuel n furthest : Nat) :
    (r.rounds a fuel n furthest).Sound b := by
  induction n generalizing r furthest with
  | zero => exact h
  | succ n ih =>
    rw [Reader.rounds]
    split
    · exact h
    · exact ih (h.sweep ha hkinds fuel fuel 0 furthest).condense _

omit ha hkinds in
theorem Reader.sound_start (text : List Char) : (start text).Sound b := by
  refine ⟨fun s hs => ?_, nofun⟩
  cases List.mem_singleton.1 hs
  trivial

end

mutual

/-- All pieces of a sound stack are derived. -/
theorem Stack.derived_of_mem_readings : ∀ {s : Stack} {taken ps : List Piece}, s.Sound b →
    (∀ p ∈ taken, b.Derived p) → ps ∈ s.readings taken → ∀ p ∈ ps, b.Derived p
  | .node _ _ _ _ links, taken, ps, hs, htaken, hps => by
    cases links with
    | none =>
      rw [Stack.readings, List.mem_singleton] at hps
      exact hps ▸ htaken
    | more p below rest =>
      rw [Stack.readings] at hps
      exact Links.derived_of_mem_readingsOver hs htaken hps

theorem Links.derived_of_mem_readingsOver : ∀ {links : Links} {state : Nat} {taken ps : List Piece},
    links.Sound b state → (∀ p ∈ taken, b.Derived p) → ps ∈ Stack.readingsOver taken links →
    ∀ p ∈ ps, b.Derived p
  | .none, _, _, _, _, _, hps => nomatch hps
  | .more p below rest, state, taken, ps, ⟨hp, hbelow, _, hrest⟩, htaken, hps => by
    rw [Stack.readingsOver] at hps
    rcases List.mem_append.1 hps with hps | hps
    · exact Stack.derived_of_mem_readings hbelow (List.forall_mem_cons.2 ⟨hp, htaken⟩) hps
    · exact Links.derived_of_mem_readingsOver hrest htaken hps

end

theorem Reader.Sound.derived_of_best? {r : Reader} (h : r.Sound b) {ps : List Piece} (hps : r.best? = some ps) :
    ∀ p ∈ ps, b.Derived p := by
  have hread : ∀ qs ∈ r.finished.flatMap (Stack.readings []), ∀ p ∈ qs, b.Derived p := by
    intro qs hqs
    obtain ⟨s, hs, hqs⟩ := List.mem_flatMap.1 hqs
    exact Stack.derived_of_mem_readings (h.finished s hs) (by simp) hqs
  -- the best reading is one of the readings
  rw [Reader.best?] at hps
  revert hps hread
  generalize r.finished.flatMap (Stack.readings []) = all
  induction all using List.reverseRecOn generalizing ps with
  | nil => exact fun hps _ => nomatch hps
  | append_singleton all qs ih =>
    intro hps hread
    obtain ⟨hold, hnew⟩ := List.forall_mem_append.1 hread
    have hqs : ∀ p ∈ qs, b.Derived p := hnew qs List.mem_cons_self
    rw [List.foldl_concat] at hps
    split at hps
    · cases hps
      exact hqs
    · rename_i best hbest
      split at hps
      · cases hps
        exact hqs
      · exact ih hps hold

end

/-- The tree of a text is a node around pieces that are derived. -/
theorem Automaton.read?_derived {σ : Type} [DecidableEq σ] {limit : Nat} {g : Grammar σ} {kind : NodeKind}
    {text : List Char} {tree : Tree} (h : (ofGrammar limit g).read? kind text = some tree) :
    ∃ (ps : List Piece) (stop : Position), (∀ p ∈ ps, p.Derived g.productions.flatten g.kinds.toArray) ∧
      tree = .node none kind {} stop (Piece.joined [] ps).reverse := by
  obtain ⟨held, hsound⟩ := sound_ofGrammar limit g
  obtain ⟨ps, hps, rfl⟩ := Option.map_eq_some_iff.1 h
  let b : Basis := ⟨g.productions.flatten, g.kinds.toArray, held⟩
  have hstart : (Reader.start text).Sound b := Reader.sound_start text
  exact ⟨ps, _, (hstart.rounds hsound rfl _ _ _).derived_of_best? hps, rfl⟩

end Registrar
