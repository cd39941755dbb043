import Mathlib.Logic.Function.Iterate
import Registrar.Pattern.Basic
/-!
# What patterns describe

Which pieces of a text a pattern describes, said without sets of places, and that matching finds a
piece exactly when there is one (`isMatch_iff`). An unbounded repetition needs no more rounds than
the text has characters, because a round that does not move on can be left out (`Steps.shorten`).

A pattern that never looks at what stands behind a place describes the same pieces of a longer text
(`Describes.append`).
-/
namespace Registrar.Pattern

/-! ## Pieces -/

/-- Two places are a number of steps apart. -/
def Steps (step : Nat → Nat → Prop) : Nat → Nat → Nat → Prop
  | 0, i, j => j = i
  | n + 1, i, j => ∃ k, step i k ∧ Steps step n k j

/-- The pattern describes the piece of the text from the first place to the second. -/
def Describes (text : Array Char) : Pattern → Nat → Nat → Prop
  | empty, i, j => j = i
  | char set, i, j => (∃ c, text[i]? = some c ∧ set.contains c) ∧ j = i + 1
  | place p, i, j => p.holds text i ∧ j = i
  | seq a b, i, j => ∃ k, Describes text a i k ∧ Describes text b k j
  | alt a b, i, j => Describes text a i j ∨ Describes text b i j
  | repeated a least most, i, j =>
    ∃ n, (∀ m ∈ most, n ≤ m - least) ∧ Steps (Describes text a) (least + n) i j
  | captured a, i, j => Describes text a i j

/-- The pattern describes some piece of the text. -/
def Finds (p : Pattern) (text : String) : Prop :=
  ∃ i j, i ≤ text.length ∧ Describes text.toList.toArray p i j

section Steps
variable {step : Nat → Nat → Prop} {m n i j : Nat}

theorem steps_add : Steps step (m + n) i j ↔ ∃ k, Steps step m i k ∧ Steps step n k j := by
  induction m generalizing i with
  | zero => simp [Steps]
  | succ m ih =>
    rw [Nat.succ_add, Steps]
    simp only [ih, Steps]
    constructor
    · rintro ⟨k, hk, l, hl, hj⟩
      exact ⟨l, ⟨k, hk, hl⟩, hj⟩
    · rintro ⟨l, ⟨k, hk, hl⟩, hj⟩
      exact ⟨k, hk, l, hl, hj⟩

/-- Steps stay where they are, or lead on to a place that is not beyond the end. -/
def Forward (step : Nat → Nat → Prop) (size : Nat) : Prop :=
  ∀ i j, step i j → j = i ∨ i < j ∧ j ≤ size

theorem Forward.steps {size : Nat} (h : Forward step size) : Forward (Steps step n) size := by
  induction n with
  | zero =>
    intro i j hij
    exact .inl hij
  | succ n ih =>
    rintro i j ⟨k, hik, hkj⟩
    have hk := h i k hik
    have hj := ih k j hkj
    omega

/-- Steps that stay where they are can be left out. -/
theorem Steps.shorten {size : Nat} (h : Forward step size) (hsteps : Steps step n i j) :
    ∃ k ≤ size, Steps step k i j := by
  suffices hshort : ∃ k, k ≤ j - i ∧ Steps step k i j by
    obtain ⟨k, hk, hkj⟩ := hshort
    have hij := h.steps i j hkj
    exact ⟨k, by omega, hkj⟩
  induction n generalizing i with
  | zero => exact ⟨0, by omega, hsteps⟩
  | succ n ih =>
    obtain ⟨l, hil, hlj⟩ := hsteps
    obtain ⟨k, hk, hkj⟩ := ih hlj
    rcases h i l hil with rfl | ⟨hlt, -⟩
    · exact ⟨k, hk, hkj⟩
    · have hforward := h.steps l j hkj
      exact ⟨k + 1, by omega, l, hil, hkj⟩

end Steps

theorem describes_forward (text : Array Char) (p : Pattern) : Forward (Describes text p) text.size := by
  induction p with
  | empty =>
    intro i j h
    exact .inl h
  | char set =>
    rintro i j ⟨⟨c, hc, -⟩, rfl⟩
    have hlt : i < text.size := (Array.getElem?_eq_some_iff.1 hc).1
    omega
  | place p =>
    rintro i j ⟨-, rfl⟩
    exact .inl rfl
  | seq a b iha ihb =>
    rintro i j ⟨k, hik, hkj⟩
    have hk := iha i k hik
    have hj := ihb k j hkj
    omega
  | alt a b iha ihb =>
    rintro i j (h | h)
    · exact iha i j h
    · exact ihb i j h
  | repeated a least most ih =>
    rintro i j ⟨n, -, h⟩
    exact ih.steps i j h
  | captured a ih => exact ih

/-! ## Sets of places -/

/-- The function leads a set of places on by one step each. -/
def Leads (f : List Nat → List Nat) (step : Nat → Nat → Prop) : Prop :=
  ∀ ps j, j ∈ f ps ↔ ∃ i ∈ ps, step i j

section Places
variable {f : List Nat → List Nat} {step : Nat → Nat → Prop}

theorem exactly_eq_iterate (f : List Nat → List Nat) (n : Nat) (ps : List Nat) :
    exactly f n ps = f^[n] ps := by
  induction n generalizing ps with
  | zero => rfl
  | succ n ih =>
    rw [exactly]
    split
    · rename_i h
      rw [Function.iterate_fixed (beq_iff_eq.1 h)]
    · rw [ih, Function.iterate_succ_apply]

theorem mem_exactly (h : Leads f step) (n : Nat) : Leads (exactly f n) (Steps step n) := by
  intro ps j
  rw [exactly_eq_iterate]
  induction n generalizing ps with
  | zero => simp [Steps]
  | succ n ih =>
    rw [Function.iterate_succ_apply, ih]
    simp only [h ps, Steps]
    constructor
    · rintro ⟨k, ⟨i, hi, hik⟩, hkj⟩
      exact ⟨i, hi, k, hik, hkj⟩
    · rintro ⟨i, hi, k, hik, hkj⟩
      exact ⟨k, ⟨i, hi, hik⟩, hkj⟩

/-- The places reached so far, of which only the latest may lead on to others. -/
structure Frontier (step : Nat → Nat → Prop) (reached latest : List Nat) : Prop where
  subset : ∀ i ∈ latest, i ∈ reached
  closed : ∀ i ∈ reached, i ∉ latest → ∀ j, step i j → j ∈ reached

/-- The places that a round adds. -/
def newPlaces (f : List Nat → List Nat) (reached latest : List Nat) : List Nat :=
  ((f latest).filter fun q => !reached.contains q).eraseDups

theorem mem_newPlaces (h : Leads f step) {reached latest : List Nat} {j : Nat} :
    j ∈ newPlaces f reached latest ↔ (∃ i ∈ latest, step i j) ∧ j ∉ reached := by
  rw [newPlaces, List.mem_eraseDups, List.mem_filter, h latest]
  simp

/-- Every step from a reached place is taken in the next round. -/
theorem Frontier.mem_next (h : Leads f step) {reached latest : List Nat}
    (hfrontier : Frontier step reached latest) {i j : Nat} (hi : i ∈ reached) (hij : step i j) :
    j ∈ reached ++ newPlaces f reached latest := by
  by_cases hj : j ∈ reached
  · exact List.mem_append_left _ hj
  · refine List.mem_append_right _ ((mem_newPlaces h).2 ⟨⟨i, ?_, hij⟩, hj⟩)
    by_contra hlatest
    exact hj (hfrontier.closed i hi hlatest j hij)

theorem Frontier.next (h : Leads f step) {reached latest : List Nat}
    (hfrontier : Frontier step reached latest) :
    Frontier step (reached ++ newPlaces f reached latest) (newPlaces f reached latest) where
  subset _ hi := List.mem_append_right _ hi
  closed _ hi hnew _ hij :=
    hfrontier.mem_next h ((List.mem_append.1 hi).resolve_right hnew) hij

theorem mem_upTo (h : Leads f step) {n : Nat} {reached latest : List Nat}
    (hfrontier : Frontier step reached latest) {j : Nat} :
    j ∈ upTo f n reached latest ↔ ∃ k ≤ n, ∃ i ∈ reached, Steps step k i j := by
  induction n generalizing reached latest with
  | zero => simp [upTo, Steps]
  | succ n ih =>
    rw [upTo, ← newPlaces]
    split
    · rename_i hempty
      -- nothing is new: the reached places lead to each other only
      have hclosed : ∀ k i, i ∈ reached → Steps step k i j → j ∈ reached := by
        intro k
        induction k with
        | zero =>
          rintro i hi rfl
          exact hi
        | succ k ihk =>
          rintro i hi ⟨l, hil, hlj⟩
          have hl := hfrontier.mem_next h hi hil
          rw [List.isEmpty_iff.1 hempty, List.append_nil] at hl
          exact ihk l hl hlj
      constructor
      · intro hj
        exact ⟨0, Nat.zero_le _, j, hj, rfl⟩
      · rintro ⟨k, -, i, hi, hij⟩
        exact hclosed k i hi hij
    · rw [ih (hfrontier.next h)]
      constructor
      · rintro ⟨k, hk, i, hi, hij⟩
        rcases List.mem_append.1 hi with hi | hi
        · exact ⟨k, by omega, i, hi, hij⟩
        · obtain ⟨⟨l, hl, hli⟩, -⟩ := (mem_newPlaces h).1 hi
          exact ⟨k + 1, by omega, l, hfrontier.subset l hl, i, hli, hij⟩
      · rintro ⟨k, hk, i, hi, hij⟩
        cases k with
        | zero => exact ⟨0, Nat.zero_le _, i, List.mem_append_left _ hi, hij⟩
        | succ k =>
          obtain ⟨l, hil, hlj⟩ := hij
          exact ⟨k, by omega, l, hfrontier.mem_next h hi hil, hlj⟩

theorem frontier_self (ps : List Nat) : Frontier step ps ps where
  subset _ hi := hi
  closed _ hi hnot := absurd hi hnot

end Places

/-! ## Matching -/

/-- Rounds of repetition: those that are counted, and as many more as the bound allows. -/
theorem mem_repeated {text : Array Char} {f : List Nat → List Nat} {step : Nat → Nat → Prop}
    (h : Leads f step) (hforward : Forward step text.size) (least : Nat) (most : Option Nat)
    (ps : List Nat) (j : Nat) :
    j ∈ upTo f (match most with | some m => m - least | none => text.size + 1)
        (exactly f least ps) (exactly f least ps) ↔
      ∃ i ∈ ps, ∃ n, (∀ m ∈ most, n ≤ m - least) ∧ Steps step (least + n) i j := by
  rw [mem_upTo h (frontier_self _)]
  simp only [mem_exactly h least ps, steps_add]
  constructor
  · rintro ⟨n, hn, k, ⟨i, hi, hik⟩, hkj⟩
    refine ⟨i, hi, n, ?_, k, hik, hkj⟩
    rintro m rfl
    exact hn
  · rintro ⟨i, hi, n, hn, k, hik, hkj⟩
    cases most with
    | some m => exact ⟨n, hn m rfl, k, ⟨i, hi, hik⟩, hkj⟩
    | none =>
      obtain ⟨l, hl, hlj⟩ := hkj.shorten hforward
      exact ⟨l, by dsimp only; omega, k, ⟨i, hi, hik⟩, hlj⟩

/-- The places that a pattern leads to are the ends of the pieces that it describes. -/
theorem mem_ends (text : Array Char) (p : Pattern) : Leads (ends text p) (Describes text p) := by
  induction p with
  | empty => simp [Leads, ends, Describes]
  | char set =>
    intro ps j
    rw [ends, List.mem_map]
    constructor
    · rintro ⟨i, hi, rfl⟩
      obtain ⟨hi, hc⟩ := List.mem_filter.1 hi
      exact ⟨i, hi, (Option.any_eq_true _ _).1 hc, rfl⟩
    · rintro ⟨i, hi, hc, rfl⟩
      exact ⟨i, List.mem_filter.2 ⟨hi, (Option.any_eq_true _ _).2 hc⟩, rfl⟩
  | place p =>
    intro ps j
    rw [ends, List.mem_filter]
    constructor
    · rintro ⟨hj, hholds⟩
      exact ⟨j, hj, hholds, rfl⟩
    · rintro ⟨i, hi, hholds, rfl⟩
      exact ⟨hi, hholds⟩
  | seq a b iha ihb =>
    intro ps j
    rw [ends, ihb]
    simp only [iha ps]
    constructor
    · rintro ⟨k, ⟨i, hi, hik⟩, hkj⟩
      exact ⟨i, hi, k, hik, hkj⟩
    · rintro ⟨i, hi, k, hik, hkj⟩
      exact ⟨k, ⟨i, hi, hik⟩, hkj⟩
  | alt a b iha ihb =>
    intro ps j
    rw [ends, List.mem_eraseDups, List.mem_append, iha, ihb]
    simp only [Describes, and_or_left, exists_or]
  | repeated a least most ih =>
    intro ps j
    exact mem_repeated ih (describes_forward text a) least most ps j
  | captured a ih => exact ih

/-- A pattern matches a text exactly when it describes a piece of it. -/
theorem isMatch_iff {p : Pattern} {text : String} : p.isMatch text = true ↔ p.Finds text := by
  rw [isMatch, Finds]
  simp only [Bool.not_eq_true', List.isEmpty_eq_false_iff_exists_mem, mem_ends _ p _,
    List.mem_range, List.size_toArray, String.length_toList]
  constructor
  · rintro ⟨j, i, hi, h⟩
    exact ⟨i, j, by omega, h⟩
  · rintro ⟨i, j, hi, h⟩
    exact ⟨j, i, by omega, h⟩

/-! ## Longer texts -/

end Pattern

/-- Whether the condition depends on the character after the place, or on there being none. -/
def Assertion.looksAhead : Assertion → Bool
  | textStart => false
  | textEnd => true
  | lineStart crlf => crlf
  | lineEnd _ => true
  | word .openStart _ => false
  | word _ _ => true

theorem Assertion.holds_append {a : Assertion} (h : a.looksAhead = false) {text : Array Char} {i : Nat}
    (hi : i ≤ text.size) (more : Array Char) : a.holds (text ++ more) i = a.holds text i := by
  have hbefore : 0 < i → (text ++ more)[i - 1]? = text[i - 1]? := by
    intro hpos
    exact Array.getElem?_append_left (by omega)
  cases a with
  | textStart => rfl
  | textEnd => cases h
  | lineStart crlf =>
    cases h
    rcases Nat.eq_zero_or_pos i with rfl | hpos
    · rfl
    · simp [holds, hbefore hpos]
  | lineEnd crlf => cases h
  | word edge ascii =>
    cases edge with
    | openStart =>
      rcases Nat.eq_zero_or_pos i with rfl | hpos
      · simp [holds, WordEdge.lies]
      · simp [holds, WordEdge.lies, wordAt, hbefore hpos]
    | _ => cases h

namespace Pattern

/-- Whether some condition of the pattern looks at what stands behind a place. -/
def looksAhead : Pattern → Bool
  | empty | char _ => false
  | place a => a.looksAhead
  | seq a b | alt a b => a.looksAhead || b.looksAhead
  | repeated a _ _ | captured a => a.looksAhead

theorem Steps.mono {step step' : Nat → Nat → Prop} {size : Nat} (hforward : Forward step size)
    (h : ∀ i j, i ≤ size → step i j → step' i j) {n i j : Nat} (hi : i ≤ size)
    (hsteps : Steps step n i j) : Steps step' n i j := by
  induction n generalizing i with
  | zero => exact hsteps
  | succ n ih =>
    obtain ⟨k, hik, hkj⟩ := hsteps
    have hk := hforward i k hik
    exact ⟨k, h i k hi hik, ih (by omega) hkj⟩

/-- A piece of a text is a piece of every longer text. -/
theorem Describes.append {p : Pattern} (hp : p.looksAhead = false) {text : Array Char} {i j : Nat}
    (hi : i ≤ text.size) (h : Describes text p i j) (more : Array Char) :
    Describes (text ++ more) p i j := by
  induction p generalizing i j with
  | empty => exact h
  | char set =>
    obtain ⟨⟨c, hc, hset⟩, rfl⟩ := h
    have hlt : i < text.size := (Array.getElem?_eq_some_iff.1 hc).1
    exact ⟨⟨c, by rw [Array.getElem?_append_left hlt, hc], hset⟩, rfl⟩
  | place a => exact ⟨(Assertion.holds_append hp hi more).trans h.1, h.2⟩
  | seq a b iha ihb =>
    obtain ⟨ha, hb⟩ := Bool.or_eq_false_iff.1 hp
    obtain ⟨k, hik, hkj⟩ := h
    have hk := describes_forward text a i k hik
    exact ⟨k, iha ha hi hik, ihb hb (by omega) hkj⟩
  | alt a b iha ihb =>
    obtain ⟨ha, hb⟩ := Bool.or_eq_false_iff.1 hp
    exact h.imp (iha ha hi) (ihb hb hi)
  | repeated a least most ih =>
    obtain ⟨n, hn, hsteps⟩ := h
    exact ⟨n, hn, hsteps.mono (describes_forward text a) (fun k l hk => ih hp hk) hi⟩
  | captured a ih => exact ih hp hi h

theorem Finds.append {p : Pattern} (hp : p.looksAhead = false) {text : String} (h : p.Finds text)
    (more : String) : p.Finds (text ++ more) := by
  obtain ⟨i, j, hi, h⟩ := h
  refine ⟨i, j, ?_, ?_⟩
  · rw [String.length_append]
    omega
  · rw [String.toList_append, ← List.append_toArray]
    exact h.append hp (by rwa [List.size_toArray, String.length_toList]) _

end Registrar.Pattern
