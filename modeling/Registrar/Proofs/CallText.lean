import Mathlib.Algebra.Ring.Nat
import Registrar.Output.Layout
import Registrar.Proofs.Quoting
/-!
# Arguments in program text

Program text is taken apart at the commas outside literals and brackets (`pieces`). Joined texts come
apart as they were exactly when each of them is closed and has no such comma (`pieces_join_iff`). Three
kinds of text are like that: names, plain text between brackets, and text whose commas and brackets are
all quoted.
-/
namespace Registrar.CallText
open Text

/-! ## Program text -/

inductive Mode where
  | code
  | literal (quote : Char)
  | escaped (quote : Char)
  | raw
deriving DecidableEq, Repr

/-- Where a scan of program text stands, and how many brackets are open there. -/
structure Place where
  mode : Mode := .code
  depth : Nat := 0
deriving DecidableEq, Repr

/-- Outside literals and brackets. -/
def top : Place := {}

def Place.next (p : Place) (c : Char) : Place :=
  match p.mode with
  | .code =>
    if c = '"' ∨ c = '\'' then { p with mode := .literal c }
    else if c = '\x60' then { p with mode := .raw }
    else if Layout.isOpening c then { p with depth := p.depth + 1 }
    else if Layout.isClosing c then { p with depth := p.depth - 1 }
    else p
  | .literal q =>
    { p with mode := if c = '\\' then .escaped q else if c = q then .code else .literal q }
  | .escaped q => { p with mode := .literal q }
  | .raw => { p with mode := if c = '\x60' then .code else .raw }

def Place.run (p : Place) (s : List Char) : Place := s.foldl Place.next p

theorem Place.run_cons (p : Place) (c : Char) (s : List Char) : p.run (c :: s) = (p.next c).run s := rfl

theorem Place.run_append (p : Place) (s t : List Char) : p.run (s ++ t) = (p.run s).run t :=
  List.foldl_append

/-- The pieces between the commas outside literals and brackets, for a scan from `p`. -/
def piecesFrom (p : Place) : List Char → List (List Char)
  | [] => [[]]
  | c :: s =>
    if p = top ∧ c = ',' then [] :: piecesFrom top s
    else (piecesFrom (p.next c) s).modifyHead (c :: ·)

def pieces (s : List Char) : List (List Char) := piecesFrom top s

/-- The number of commas outside literals and brackets, for a scan from `p`. -/
def commasFrom (p : Place) : List Char → Nat
  | [] => 0
  | c :: s => (if p = top ∧ c = ',' then 1 else 0) + commasFrom (p.next c) s

def commas (s : List Char) : Nat := commasFrom top s

/-- All literals and brackets are closed at the end. -/
def Closed (s : List Char) : Prop := top.run s = top

instance : DecidablePred Closed := fun s => inferInstanceAs (Decidable (top.run s = top))

/-- The text is one argument. -/
structure Whole (s : List Char) : Prop where
  closed : Closed s
  undivided : commas s = 0

instance : DecidablePred Whole := fun s =>
  decidable_of_iff (Closed s ∧ commas s = 0) ⟨fun h => ⟨h.1, h.2⟩, fun h => ⟨h.1, h.2⟩⟩

theorem commasFrom_append (p : Place) (s t : List Char) :
    commasFrom p (s ++ t) = commasFrom p s + commasFrom (p.run s) t := by
  induction s generalizing p with
  | nil => simp [commasFrom, Place.run]
  | cons c s ih => rw [List.cons_append, commasFrom, commasFrom, ih, Place.run_cons, Nat.add_assoc]

/-! ## Pieces -/

theorem length_piecesFrom (p : Place) (s : List Char) :
    (piecesFrom p s).length = commasFrom p s + 1 := by
  induction s generalizing p with
  | nil => rfl
  | cons c s ih =>
    rw [piecesFrom, commasFrom]
    split
    · rename_i h
      obtain ⟨rfl, rfl⟩ := h
      have hstay : top.next ',' = top := by decide
      rw [List.length_cons, ih, hstay, Nat.add_comm 1]
    · rw [List.length_modifyHead, ih, Nat.zero_add]

theorem modifyHead_cons_eq_iff {c : Char} {s : List Char} {l ts : List (List Char)} :
    l.modifyHead (c :: ·) = (c :: s) :: ts ↔ l = s :: ts := by
  cases l with
  | nil => simp
  | cons t l => simp

theorem modifyHead_cons_ne {c : Char} {l ts : List (List Char)} :
    l.modifyHead (c :: ·) ≠ [] :: ts := by
  cases l with
  | nil => simp
  | cons t l => simp

theorem piecesFrom_eq_singleton_iff {p : Place} {s : List Char} :
    piecesFrom p s = [s] ↔ commasFrom p s = 0 := by
  induction s generalizing p with
  | nil => simp [piecesFrom, commasFrom]
  | cons c s ih =>
    rw [piecesFrom, commasFrom]
    split
    · simp
    · rw [modifyHead_cons_eq_iff, ih, Nat.zero_add]

/-- A text is the first piece exactly when it has no comma of its own and the comma behind it counts. -/
theorem piecesFrom_append_iff {p : Place} {s t : List Char} {ts : List (List Char)} :
    piecesFrom p (s ++ ',' :: t) = s :: ts ↔
      (p.run s = top ∧ commasFrom p s = 0) ∧ piecesFrom top t = ts := by
  induction s generalizing p with
  | nil =>
    rw [List.nil_append, piecesFrom]
    split
    · rename_i h
      simp [Place.run, commasFrom, h.1]
    · rename_i h
      have hp : p ≠ top := fun hp => h ⟨hp, rfl⟩
      simp [Place.run, hp, modifyHead_cons_ne]
  | cons c s ih =>
    rw [List.cons_append, piecesFrom, commasFrom, Place.run_cons]
    split
    · simp
    · rw [modifyHead_cons_eq_iff, ih, Nat.zero_add]

/-- The arguments as they stand in a call: each but the first has a blank before it. -/
def spaced : List (List Char) → List (List Char)
  | [] => []
  | a :: as => a :: as.map (' ' :: ·)

/-- Joined texts come apart as they were exactly when each is whole, and the last one has no comma. -/
theorem pieces_join_iff (a : List Char) (as : List (List Char)) :
    pieces ([',', ' '].intercalate (a :: as)) = spaced (a :: as) ↔
      (∀ b ∈ (a :: as).dropLast, Whole b) ∧ ∀ b ∈ (a :: as).getLast?, commas b = 0 := by
  induction as generalizing a with
  | nil =>
    rw [join_singleton]
    simpa [spaced, pieces, commas] using piecesFrom_eq_singleton_iff
  | cons b bs ih =>
    have hblank : piecesFrom top (' ' :: [',', ' '].intercalate (b :: bs)) =
        (pieces ([',', ' '].intercalate (b :: bs))).modifyHead (' ' :: ·) := rfl
    have hwhole : top.run a = top ∧ commasFrom top a = 0 ↔ Whole a :=
      ⟨fun h => ⟨h.1, h.2⟩, fun h => ⟨h.1, h.2⟩⟩
    have htext : [',', ' '].intercalate (a :: b :: bs) =
        a ++ ',' :: ' ' :: [',', ' '].intercalate (b :: bs) := by
      rw [join_cons_cons]
      simp
    rw [htext, pieces, spaced, piecesFrom_append_iff, hblank, List.map_cons, modifyHead_cons_eq_iff, hwhole,
      List.dropLast_cons_cons, List.getLast?_cons_cons, List.forall_mem_cons, and_assoc]
    exact and_congr_right fun _ => ih b

/-- Closed texts joined have a piece for each text and one for each comma. -/
theorem length_pieces_join {as : List (List Char)} (hne : as ≠ []) (h : ∀ a ∈ as, Closed a) :
    (pieces ([',', ' '].intercalate as)).length = as.length + (as.map commas).sum := by
  rw [pieces, length_piecesFrom]
  induction as with
  | nil => exact absurd rfl hne
  | cons a as ih =>
    obtain ⟨ha, has⟩ := List.forall_mem_cons.1 h
    cases as with
    | nil =>
      rw [join_singleton]
      simp [commas, Nat.add_comm]
    | cons b bs =>
      have hseparator : commasFrom top [',', ' '] = 1 ∧ top.run [',', ' '] = top := by decide
      have hrest := ih (by simp) has
      rw [join_cons_cons, commasFrom_append, commasFrom_append, Place.run_append, ha, hseparator.1,
        hseparator.2, List.map_cons, List.sum_cons, List.length_cons, ← commas]
      omega

/-! ## Plain text -/

/-- The characters besides the double quote that open or close a literal or a bracket. -/
def marks : List Char := ['\'', '\x60', '(', ')', '[', ']', '\x7b', '\x7d']

/-- Nothing opens or closes in the text. -/
def Plain (s : List Char) : Prop := ∀ c ∈ s, c ∉ '"' :: marks

instance : DecidablePred Plain := fun s => List.decidableBAll (fun c => c ∉ '"' :: marks) s

theorem plain_append {s t : List Char} : Plain (s ++ t) ↔ Plain s ∧ Plain t := List.forall_mem_append

theorem next_of_not_mem {c : Char} (h : c ∉ '"' :: marks) (d : Nat) :
    (⟨.code, d⟩ : Place).next c = ⟨.code, d⟩ := by
  simp only [marks, List.mem_cons, List.not_mem_nil, or_false, not_or] at h
  obtain ⟨h₁, h₂, h₃, h₄, h₅, h₆, h₇, h₈, h₉⟩ := h
  simp [Place.next, Layout.isOpening, Layout.isClosing, *]

theorem run_plain {s : List Char} (h : Plain s) (d : Nat) :
    (⟨.code, d⟩ : Place).run s = ⟨.code, d⟩ := by
  induction s with
  | nil => rfl
  | cons c s ih =>
    obtain ⟨hc, hs⟩ := List.forall_mem_cons.1 h
    rw [Place.run_cons, next_of_not_mem hc, ih hs]

theorem Plain.closed {s : List Char} (h : Plain s) : Closed s := run_plain h 0

/-- Every comma of a plain text counts. -/
theorem Plain.commas {s : List Char} (h : Plain s) : commas s = s.count ',' := by
  induction s with
  | nil => rfl
  | cons c s ih =>
    obtain ⟨hc, hs⟩ := List.forall_mem_cons.1 h
    have hstay : top.next c = top := next_of_not_mem hc 0
    rw [CallText.commas, commasFrom, hstay, ← CallText.commas, ih hs, List.count_cons, Nat.add_comm]
    simp

theorem Plain.whole {s : List Char} (h : Plain s) (hcomma : ',' ∉ s) : Whole s :=
  ⟨h.closed, by rw [h.commas, List.count_eq_zero.2 hcomma]⟩

/-- Between brackets no comma of a plain text counts. -/
theorem commasFrom_plain {s : List Char} (h : Plain s) (d : Nat) : commasFrom ⟨.code, d + 1⟩ s = 0 := by
  induction s with
  | nil => rfl
  | cons c s ih =>
    obtain ⟨hc, hs⟩ := List.forall_mem_cons.1 h
    rw [commasFrom, next_of_not_mem hc, ih hs]
    simp [top]

/-- A plain text between brackets is one argument with them. -/
theorem whole_between {a s b : List Char} (ha : top.run a = ⟨.code, 1⟩ ∧ commas a = 0) (hs : Plain s)
    (hb : (⟨.code, 1⟩ : Place).run b = top ∧ commasFrom ⟨.code, 1⟩ b = 0) : Whole (a ++ s ++ b) where
  closed := by rw [Closed, Place.run_append, Place.run_append, ha.1, run_plain hs, hb.1]
  undivided := by
    rw [CallText.commas, commasFrom_append, commasFrom_append, Place.run_append, ha.1, run_plain hs,
      commasFrom_plain hs, hb.2, ← CallText.commas, ha.2]

/-! ## Quoted text -/

/-- A quotation is a literal of program text. -/
def ofQuoting : Quoting.State → Mode
  | .outside => .code
  | .inside => .literal '"'
  | .escaped => .escaped '"'

theorem next_ofQuoting {q : Quoting.State} {c : Char} (h : q = .outside → c ∉ marks) (d : Nat) :
    (⟨ofQuoting q, d⟩ : Place).next c = ⟨ofQuoting (q.next c), d⟩ := by
  cases q with
  | outside =>
    by_cases hc : c = '"'
    · simp [ofQuoting, Quoting.State.next, Place.next, hc]
    · have hmark : c ∉ '"' :: marks := by simpa [hc] using h rfl
      simpa [ofQuoting, Quoting.State.next, hc] using next_of_not_mem hmark d
  | inside =>
    by_cases hc : c = '\\'
    · simp [ofQuoting, Quoting.State.next, Place.next, hc]
    · by_cases hq : c = '"' <;> simp [ofQuoting, Quoting.State.next, Place.next, hc, hq]
  | escaped => rfl

theorem scan_quoted {q : Quoting.State} {s : List Char} (hmarks : ∀ m ∈ marks, Quoting.FreeFrom m q s)
    (hcomma : Quoting.FreeFrom ',' q s) (d : Nat) :
    (⟨ofQuoting q, d⟩ : Place).run s = ⟨ofQuoting (q.run s), d⟩ ∧ commasFrom ⟨ofQuoting q, d⟩ s = 0 := by
  induction s generalizing q with
  | nil => exact ⟨rfl, rfl⟩
  | cons c s ih =>
    obtain ⟨hc, hcomma⟩ := Quoting.freeFrom_cons.1 hcomma
    have hmark : q = .outside → c ∉ marks :=
      fun hq hm => (Quoting.freeFrom_cons.1 (hmarks c hm)).1 ⟨hq, rfl⟩
    have hcount : ¬((⟨ofQuoting q, d⟩ : Place) = top ∧ c = ',') := by
      rintro ⟨hp, rfl⟩
      refine hc ⟨?_, rfl⟩
      cases q with
      | outside => rfl
      | inside => cases hp
      | escaped => cases hp
    obtain ⟨hrun, hcommas⟩ := ih (fun m hm => (Quoting.freeFrom_cons.1 (hmarks m hm)).2) hcomma
    rw [Place.run_cons, commasFrom, next_ofQuoting hmark, if_neg hcount, hrun, hcommas, Quoting.State.run_cons]
    exact ⟨rfl, rfl⟩

/-- A balanced text with marks and commas only in quotations is one argument. -/
theorem whole_of_quoted {s : List Char} (hbalanced : Quoting.balanced s = true)
    (hcomma : Quoting.Free ',' s) (hmarks : ∀ m ∈ marks, Quoting.Free m s) : Whole s := by
  obtain ⟨hrun, hcommas⟩ := scan_quoted hmarks hcomma 0
  rw [Quoting.balanced_iff.1 hbalanced] at hrun
  exact ⟨hrun, hcommas⟩

theorem scan_literal {q : Char} {s : List Char} (h : ∀ c ∈ s, c ≠ q ∧ c ≠ '\\') (d : Nat) :
    (⟨.literal q, d⟩ : Place).run s = ⟨.literal q, d⟩ ∧ commasFrom ⟨.literal q, d⟩ s = 0 := by
  induction s with
  | nil => exact ⟨rfl, rfl⟩
  | cons c s ih =>
    obtain ⟨⟨hquote, hescape⟩, hs⟩ := List.forall_mem_cons.1 h
    have hstay : (⟨.literal q, d⟩ : Place).next c = ⟨.literal q, d⟩ := by
      simp [Place.next, hquote, hescape]
    rw [Place.run_cons, commasFrom, hstay, (ih hs).1, (ih hs).2]
    simp [top]

/-- A name that can stand in program text, and in a literal. -/
structure Name (s : List Char) : Prop where
  plain : Plain s
  comma : ',' ∉ s
  escape : '\\' ∉ s

instance : DecidablePred Name := fun s =>
  decidable_of_iff (Plain s ∧ ',' ∉ s ∧ '\\' ∉ s)
    ⟨fun h => ⟨h.1, h.2.1, h.2.2⟩, fun h => ⟨h.1, h.2, h.3⟩⟩

theorem Name.whole {s : List Char} (h : Name s) : Whole s := h.plain.whole h.comma

theorem Name.append {s t : List Char} (hs : Name s) (ht : Name t) : Name (s ++ t) where
  plain := plain_append.2 ⟨hs.plain, ht.plain⟩
  comma := by simp [hs.comma, ht.comma]
  escape := by simp [hs.escape, ht.escape]

theorem Name.whole_quoted {s : List Char} (h : Name s) : Whole ('"' :: s ++ ['"']) := by
  have hchars : ∀ c ∈ s, c ≠ '"' ∧ c ≠ '\\' := by
    intro c hc
    refine ⟨?_, ?_⟩
    · rintro rfl
      exact h.plain '"' hc List.mem_cons_self
    · rintro rfl
      exact h.escape hc
  obtain ⟨hrun, hcommas⟩ := scan_literal hchars 0
  have hopen : top.next '"' = ⟨.literal '"', 0⟩ := by decide
  constructor
  · rw [Closed, List.cons_append, Place.run_cons, Place.run_append, hopen, hrun]
    decide
  · rw [commas, List.cons_append, commasFrom, commasFrom_append, hopen, hrun, hcommas]
    decide

end Registrar.CallText
