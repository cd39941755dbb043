import Mathlib.Data.List.Chain
import Mathlib.Data.List.Infix
import Registrar.Source.Docs
/-!
# The documentation of a declaration

`IsDocGroup` says which comments document a declaration: the longest run of comments directly above
it without a blank row, none of them behind code. What is read as documentation is this group
unless comments share a row: of two comments of the group on one row the first is lost with all
before it, and a comment behind code is taken when another comment stands between them
(`docs_eq_docGroup_iff`). Siblings are listed nearest first.
-/
namespace Registrar.Tree

/-! ## Rows -/

/-- No sibling ends above the row where it starts, or below the row where the next one starts. -/
structure RowsAscend (before : List Tree) : Prop where
  each : ∀ t ∈ before, t.start.row ≤ t.stop.row
  between : before.Pairwise fun next earlier => earlier.stop.row ≤ next.start.row

theorem RowsAscend.tail {c : Tree} {before : List Tree} (h : RowsAscend (c :: before)) :
    RowsAscend before :=
  ⟨fun t ht => h.each t (List.mem_cons_of_mem _ ht), h.between.of_cons⟩

/-- A sibling that is no comment ends on the row where the comment starts. -/
def BehindCode (before : List Tree) (c : Tree) : Prop :=
  ∃ s ∈ before, s.isComment = false ∧ s.stop.row = c.start.row

instance (before : List Tree) (c : Tree) : Decidable (BehindCode before c) :=
  inferInstanceAs (Decidable (∃ s ∈ before, s.isComment = false ∧ s.stop.row = c.start.row))

theorem behindCode_cons {d : Tree} (h : d.isComment = true) (before : List Tree) (c : Tree) :
    BehindCode (d :: before) c ↔ BehindCode before c := by
  simp [BehindCode, h]

/-- A comment right behind code is behind code. -/
theorem behindCode_of_trails {c : Tree} {before : List Tree} (h : trails c before = true) :
    BehindCode before c := by
  cases before with
  | nil => cases h
  | cons s before =>
    simp only [trails, Bool.and_eq_true, Bool.not_eq_true', beq_iff_eq] at h
    exact ⟨s, List.mem_cons_self, h⟩

/-- A comment behind code but not right behind it has another comment between. -/
theorem exists_comment_of_behindCode {c : Tree} {before : List Tree} (h : RowsAscend (c :: before))
    (hbehind : BehindCode before c) (htrails : trails c before = false) :
    ∃ d rest, before = d :: rest ∧ d.isComment = true ∧ BehindCode rest c ∧ d.stop.row = c.start.row := by
  obtain ⟨s, hs, hcode, hrow⟩ := hbehind
  cases before with
  | nil => cases hs
  | cons d rest =>
    have hdrow : d.stop.row ≤ c.start.row := List.rel_of_pairwise_cons h.between List.mem_cons_self
    rcases List.mem_cons.1 hs with rfl | hs
    · simp [trails, hcode, hrow] at htrails
    · have hsd : s.stop.row ≤ d.start.row := List.rel_of_pairwise_cons h.tail.between hs
      have hd : d.start.row ≤ d.stop.row := h.each d (by simp)
      have hstop : d.stop.row = c.start.row := by omega
      refine ⟨d, rest, rfl, ?_, ⟨s, hs, hcode, hrow⟩, hstop⟩
      simpa [trails, hstop] using htrails

/-! ## The group -/

/-- There is no blank row between a comment and the one before it. -/
def Adjoins (next earlier : Tree) : Prop :=
  earlier.stop.row + 1 = next.start.row ∨ earlier.stop.row = next.start.row

/-- A run of comments directly above a row. -/
structure DocRun (row : Nat) (before run : List Tree) : Prop where
  direct : run <+: before
  comments : ∀ c ∈ run, c.isComment = true
  above : ∀ c, run.head? = some c → c.stop.row + 1 = row
  adjoining : run.IsChain Adjoins
  apart : ∀ c ∈ run, ¬ BehindCode before c

/-- The longest run of comments directly above a row. -/
structure IsDocGroup (row : Nat) (before group : List Tree) : Prop extends DocRun row before group where
  longest : ∀ run, DocRun row before run → run.length ≤ group.length

/-- A comment that ends on row `r` stands directly above `row`, or on `row` where comments may share it. -/
def Reaches (shared : Bool) (row r : Nat) : Prop := r + 1 = row ∨ shared = true ∧ r = row

instance (shared : Bool) (row r : Nat) : Decidable (Reaches shared row r) :=
  inferInstanceAs (Decidable (_ ∨ _))

/-- The longest run of comments that reaches a row. -/
def docGroupFrom (shared : Bool) (row : Nat) : List Tree → List Tree
  | [] => []
  | c :: before =>
    if c.isComment ∧ Reaches shared row c.stop.row ∧ ¬ BehindCode before c then
      c :: docGroupFrom true c.start.row before
    else []

/-- The comments that document a declaration on a row. -/
def docGroup (row : Nat) (before : List Tree) : List Tree := docGroupFrom false row before

/-- The beginnings of the group are the runs. -/
theorem prefix_docGroupFrom_iff {shared : Bool} {row : Nat} {before run : List Tree} :
    run <+: docGroupFrom shared row before ↔ run <+: before ∧ (∀ c ∈ run, c.isComment = true) ∧
      (∀ c, run.head? = some c → Reaches shared row c.stop.row) ∧ run.IsChain Adjoins ∧
      ∀ c ∈ run, ¬ BehindCode before c := by
  induction before generalizing shared row run with
  | nil =>
    rw [docGroupFrom, List.prefix_nil]
    constructor
    · rintro rfl
      simp
    · exact And.left
  | cons c before ih =>
    cases run with
    | nil => simp
    | cons d run =>
      rw [docGroupFrom]
      split_ifs with hc
      · obtain ⟨hcomment, hreach, hapart⟩ := hc
        have hadjoins : ∀ e : Tree, Adjoins c e ↔ Reaches true c.start.row e.stop.row := by
          simp [Adjoins, Reaches]
        simp only [List.cons_prefix_cons, ih, List.forall_mem_cons, behindCode_cons hcomment,
          List.head?_cons, Option.some.injEq, forall_eq', List.isChain_cons, Option.mem_def]
        constructor
        · rintro ⟨rfl, hdirect, hcomments, habove, hchain, hrun⟩
          exact ⟨⟨rfl, hdirect⟩, ⟨hcomment, hcomments⟩, hreach,
            ⟨fun e he => (hadjoins e).2 (habove e he), hchain⟩, hapart, hrun⟩
        · rintro ⟨⟨rfl, hdirect⟩, ⟨-, hcomments⟩, -, ⟨habove, hchain⟩, -, hrun⟩
          exact ⟨rfl, hdirect, hcomments, fun e he => (hadjoins e).1 (habove e he), hchain, hrun⟩
      · simp only [List.prefix_nil, reduceCtorEq, false_iff]
        rintro ⟨hdirect, hcomments, habove, -, hapart⟩
        obtain ⟨rfl, -⟩ := List.cons_prefix_cons.1 hdirect
        have hcomment := hcomments d List.mem_cons_self
        refine hc ⟨hcomment, habove d rfl, ?_⟩
        rw [← behindCode_cons hcomment]
        exact hapart d List.mem_cons_self

theorem docRun_iff {row : Nat} {before run : List Tree} :
    DocRun row before run ↔ run <+: docGroup row before := by
  rw [docGroup, prefix_docGroupFrom_iff]
  constructor
  · rintro ⟨hdirect, hcomments, habove, hadjoining, hapart⟩
    exact ⟨hdirect, hcomments, by simpa [Reaches] using habove, hadjoining, hapart⟩
  · rintro ⟨hdirect, hcomments, habove, hadjoining, hapart⟩
    exact ⟨hdirect, hcomments, by simpa [Reaches] using habove, hadjoining, hapart⟩

theorem isDocGroup_docGroup (row : Nat) (before : List Tree) : IsDocGroup row before (docGroup row before) :=
  ⟨docRun_iff.2 (List.prefix_refl _), fun _ hrun => (docRun_iff.1 hrun).length_le⟩

/-! ## What is read -/

/-- Each comment ends on the row above the next one, and the nearest above the given row. -/
def Stacked (row : Nat) : List Tree → Prop
  | [] => True
  | c :: run => c.stop.row + 1 = row ∧ Stacked c.start.row run

/-- The row where the topmost comment of a run starts. -/
def topRow (row : Nat) : List Tree → Nat
  | [] => row
  | c :: run => topRow c.start.row run

/-- The comment above the group is behind code, with another comment between them. -/
def Intrudes (row : Nat) (before group : List Tree) (c : Tree) : Prop :=
  ∃ d rest, before = group ++ c :: d :: rest ∧ c.isComment = true ∧ d.isComment = true ∧
    c.stop.row + 1 = topRow row group ∧ BehindCode rest c

theorem intrudes_cons {row : Nat} {before group : List Tree} {c d : Tree} :
    Intrudes row (c :: before) (c :: group) d ↔ Intrudes c.start.row before group d := by
  simp [Intrudes, topRow]

/-- The comments that are read are the group, or the group and one comment behind code, or the part of
the group below a row that two of its comments share. -/
theorem commentsAbove_cases {shared : Bool} {row : Nat} {before : List Tree} (h : RowsAscend before) :
    let group := docGroupFrom shared row before
    (Stacked row group ∧ (∀ c, ¬ Intrudes row before group c) ∧ commentsAbove row before = group) ∨
    (Stacked row group ∧ ∃ c, Intrudes row before group c ∧ commentsAbove row before = group ++ [c]) ∨
    ∃ kept c dropped, group = kept ++ c :: dropped ∧ Stacked row kept ∧ c.stop.row = topRow row kept ∧
      commentsAbove row before = kept := by
  induction before generalizing shared row with
  | nil => simp [docGroupFrom, commentsAbove, Stacked, Intrudes]
  | cons c before ih =>
    intro group
    rw [commentsAbove]
    simp only [Bool.and_eq_true, beq_iff_eq, Bool.not_eq_true']
    by_cases hc : c.isComment = true ∧ Reaches shared row c.stop.row ∧ ¬ BehindCode before c
    · have hgroup : group = c :: docGroupFrom true c.start.row before := if_pos hc
      rw [hgroup]
      obtain ⟨hcomment, hrow | ⟨-, hrow⟩, hapart⟩ := hc
      · -- the comment is read too, and the rest is compared from it on
        have htrails : trails c before = false := by
          by_contra ht
          exact hapart (behindCode_of_trails (by simpa using ht))
        rw [if_pos ⟨⟨hcomment, hrow⟩, htrails⟩]
        rcases @ih true c.start.row h.tail with
          ⟨hs, hnone, hread⟩ | ⟨hs, d, hd, hread⟩ | ⟨kept, d, dropped, hcut, hs, hd, hread⟩
        · exact .inl ⟨⟨hrow, hs⟩, fun d => intrudes_cons.not.2 (hnone d), by rw [hread]⟩
        · exact .inr (.inl ⟨⟨hrow, hs⟩, d, intrudes_cons.2 hd, by rw [hread, List.cons_append]⟩)
        · exact .inr (.inr ⟨c :: kept, d, dropped, by rw [hcut, List.cons_append], ⟨hrow, hs⟩, hd,
            by rw [hread]⟩)
      · rw [if_neg (by omega)]
        exact .inr (.inr ⟨[], c, _, rfl, trivial, hrow, rfl⟩)
    · have hgroup : group = [] := if_neg hc
      rw [hgroup]
      split_ifs with hread
      · obtain ⟨⟨hcomment, hrow⟩, htrails⟩ := hread
        have hbehind : BehindCode before c := by
          by_contra hapart
          exact hc ⟨hcomment, .inl hrow, hapart⟩
        obtain ⟨d, rest, rfl, hd, hrest, hstop⟩ := exists_comment_of_behindCode h hbehind htrails
        have hend : commentsAbove c.start.row (d :: rest) = [] := by
          have hne : d.stop.row + 1 ≠ c.start.row := by omega
          simp [commentsAbove, hne]
        exact .inr (.inl ⟨trivial, c, ⟨d, rest, rfl, hcomment, hd, hrow, hrest⟩, by rw [hend]; rfl⟩)
      · refine .inl ⟨trivial, ?_, rfl⟩
        rintro e ⟨d, rest, hbefore, he, hd, hrow, -⟩
        obtain ⟨rfl, rfl⟩ := List.cons.inj hbefore
        exact hread ⟨⟨he, hrow⟩, by simp [trails, hd]⟩

theorem stacked_append {row : Nat} {a b : List Tree} :
    Stacked row (a ++ b) ↔ Stacked row a ∧ Stacked (topRow row a) b := by
  induction a generalizing row with
  | nil => simp [Stacked, topRow]
  | cons c a ih => simp only [List.cons_append, Stacked, topRow, ih, and_assoc]

/-- The documentation that is read is the group, in source order and as written, exactly when no two
comments of the group share a row and none above it is behind code with another comment between.
Otherwise it is the part of the group below the first shared row, or the group after the one comment
behind code. -/
theorem docs_eq_docGroup_iff (source : Array Char) (node : Tree) {before : List Tree}
    (h : RowsAscend before) :
    let row := node.start.row
    let group := docGroup row before
    let texts := fun run : List Tree => run.reverse.map (·.text source)
    IsDocGroup row before group ∧
    (node.docs source before = texts group ↔ Stacked row group ∧ ∀ c, ¬ Intrudes row before group c) ∧
    (∀ c, Stacked row group → Intrudes row before group c →
      node.docs source before = texts (group ++ [c])) ∧
    (¬ Stacked row group → ∃ kept c dropped, group = kept ++ c :: dropped ∧ kept ≠ [] ∧ Stacked row kept ∧
      c.stop.row = topRow row kept ∧ node.docs source before = texts kept) := by
  intro row group texts
  have hgroup : IsDocGroup row before group := isDocGroup_docGroup row before
  have hlength : ∀ {run}, texts run = texts group → run.length = group.length := by
    intro run he
    simpa [texts] using congrArg List.length he
  have hdocs : node.docs source before = texts (commentsAbove row before) := rfl
  refine ⟨hgroup, ?_⟩
  rw [hdocs]
  rcases @commentsAbove_cases false row before h with
    ⟨hs, hnone, hread⟩ | ⟨hs, c, hc, hread⟩ | ⟨kept, c, dropped, hcut, hs, hc, hread⟩
  · rw [hread]
    exact ⟨⟨fun _ => ⟨hs, hnone⟩, fun _ => rfl⟩, fun c _ hc => absurd hc (hnone c), fun hn => absurd hs hn⟩
  · rw [hread]
    refine ⟨⟨fun he => ?_, fun hn => absurd hc (hn.2 c)⟩, fun d _ hd => ?_, fun hn => absurd hs hn⟩
    · have := hlength he
      simp [group, docGroup] at this
    · obtain ⟨_, _, hb, -⟩ := hc
      obtain ⟨_, _, hb', -⟩ := hd
      have hcd := List.append_cancel_left (hb.symm.trans hb')
      rw [(List.cons.inj hcd).1]
      rfl
  · rw [hread]
    have hkept : kept ≠ [] := by
      rintro rfl
      have habove := hgroup.above c (by rw [show group = _ from hcut]; rfl)
      have hrow : c.stop.row = row := hc
      omega
    have hunstacked : ¬ Stacked row group := by
      rw [show group = _ from hcut, stacked_append]
      rintro ⟨-, hrow, -⟩
      omega
    refine ⟨⟨fun he => ?_, fun hn => absurd hn.1 hunstacked⟩, fun d hn => absurd hn hunstacked, fun _ =>
      ⟨kept, c, dropped, hcut, hkept, hs, hc, rfl⟩⟩
    have := hlength he
    simp [show group = _ from hcut] at this

/-- A node without children. -/
def leaf (kind : NodeKind) (start stop : Position) : Tree := .node none kind start stop []

/-- A directive before another comment on its row is lost, and one behind a comment behind code is taken. -/
theorem docs_directive_misread :
    (let source := "/* @Handler(type=\"api\") */ // registers Foo\nfunc Foo() {}".toList.toArray
      let foo := leaf .functionDeclaration ⟨44, 1, 0⟩ ⟨57, 1, 13⟩
      let before := [leaf .comment ⟨27, 0, 27⟩ ⟨43, 0, 43⟩, leaf .comment ⟨0, 0, 0⟩ ⟨26, 0, 26⟩]
      RowsAscend before ∧ docGroup 1 before = before ∧ foo.docs source before = ["// registers Foo"] ∧
        foo.docs source before ≠ before.reverse.map (·.text source)) ∧
    (let source := "var x = 1 /* one */ // @Handler(type=\"api\")\nfunc Bar() {}".toList.toArray
      let bar := leaf .functionDeclaration ⟨44, 1, 0⟩ ⟨57, 1, 13⟩
      let before := [leaf .comment ⟨20, 0, 20⟩ ⟨43, 0, 43⟩, leaf .comment ⟨10, 0, 10⟩ ⟨19, 0, 19⟩,
        leaf .varDeclaration ⟨0, 0, 0⟩ ⟨9, 0, 9⟩]
      RowsAscend before ∧ docGroup 1 before = [] ∧
        bar.docs source before = ["// @Handler(type=\"api\")"]) := by
  constructor
  · have hrows : RowsAscend [leaf .comment ⟨27, 0, 27⟩ ⟨43, 0, 43⟩, leaf .comment ⟨0, 0, 0⟩ ⟨26, 0, 26⟩] :=
      ⟨by decide, by decide⟩
    refine ⟨hrows, rfl, by decide +kernel, fun he => ?_⟩
    have hstacked := ((docs_eq_docGroup_iff _ (leaf .functionDeclaration ⟨44, 1, 0⟩ ⟨57, 1, 13⟩) hrows).2.1.1 he).1
    exact absurd hstacked.2.1 (by decide)
  · have hrows : RowsAscend [leaf .comment ⟨20, 0, 20⟩ ⟨43, 0, 43⟩, leaf .comment ⟨10, 0, 10⟩ ⟨19, 0, 19⟩,
        leaf .varDeclaration ⟨0, 0, 0⟩ ⟨9, 0, 9⟩] := ⟨by decide, by decide⟩
    have hdocs := (docs_eq_docGroup_iff
      "var x = 1 /* one */ // @Handler(type=\"api\")\nfunc Bar() {}".toList.toArray
      (leaf .functionDeclaration ⟨44, 1, 0⟩ ⟨57, 1, 13⟩) hrows).2.2.1 (leaf .comment ⟨20, 0, 20⟩ ⟨43, 0, 43⟩)
      trivial ⟨_, _, rfl, rfl, rfl, rfl, by decide⟩
    exact ⟨hrows, rfl, hdocs.trans (by decide +kernel)⟩

end Registrar.Tree
