import Mathlib.Data.Bool.AllAny
import Registrar.Output.Template
import Registrar.Proofs.LayoutPass
import Registrar.Proofs.RegistryCalls
/-!
# The layout of generated files

A generated file is laid out when it is rendered: the layout pass over it changes nothing, as long as
no import and no constructor call spoils the layout (`reindent_render`). The pass keeps the file part
by part (`Keeps`): the comment at its start, the package clause, the imports and the calls, which are
steady lines behind one tab.
-/
namespace Registrar

namespace Layout
open Text

/-! ## Steady lines -/

/-- A line that keeps its text and the depth of the lines after it. -/
structure Steady (line : List Char) : Prop where
  feed : '\n' ∉ line
  trimmed : trim line = line
  closing : ∀ c, line.head? = some c → isClosing c = false
  balanced : scanLine .code line = (.code, 0)

theorem all_head?_iff {line : List Char} : (line.head?.all fun c => !isClosing c) = true ↔
    ∀ c, line.head? = some c → isClosing c = false := by
  cases line.head? <;> simp

instance : DecidablePred Steady := fun line =>
  decidable_of_iff ('\n' ∉ line ∧ trim line = line ∧ (line.head?.all fun c => !isClosing c) = true ∧
      scanLine .code line = (.code, 0))
    ⟨fun h => ⟨h.1, h.2.1, all_head?_iff.1 h.2.2.1, h.2.2.2⟩, fun h => ⟨h.1, h.2, all_head?_iff.2 h.3, h.4⟩⟩

/-- A text that is read as one line behind others. -/
def IsLine (line : List Char) : Prop := '\n' ∉ line ∧ withoutReturn line = line

instance : DecidablePred IsLine := fun line =>
  inferInstanceAs (Decidable ('\n' ∉ line ∧ withoutReturn line = line))

/-- The pass reads and writes the lines as they are and ends in another state. -/
structure Keeps (st : State) (ls : List (List Char)) (st' : State) : Prop where
  isLine : ∀ l ∈ ls, IsLine l
  lay : Layout.lay st ls = ls
  reached : st.reached ls = st'

instance (st : State) (ls : List (List Char)) (st' : State) : Decidable (Keeps st ls st') :=
  decidable_of_iff ((∀ l ∈ ls, IsLine l) ∧ Layout.lay st ls = ls ∧ st.reached ls = st')
    ⟨fun h => ⟨h.1, h.2.1, h.2.2⟩, fun h => ⟨h.1, h.2, h.3⟩⟩

theorem keeps_nil (st : State) : Keeps st [] st := ⟨nofun, rfl, rfl⟩

/-- One line is kept that is written as it is. -/
theorem keeps_line {st st' : State} {line : List Char} (hline : IsLine line)
    (hwritten : st.written line = [line]) (hnext : st.next line = st') : Keeps st [line] st' where
  isLine := by simpa using hline
  lay := by
    rw [lay_cons, hwritten]
    rfl
  reached := hnext

theorem Keeps.append {st st' st'' : State} {a b : List (List Char)} (ha : Keeps st a st')
    (hb : Keeps st' b st'') : Keeps st (a ++ b) st'' where
  isLine := List.forall_mem_append.2 ⟨ha.isLine, hb.isLine⟩
  lay := by rw [lay_append, ha.lay, ha.reached, hb.lay]
  reached := by
    rw [State.reached, List.foldl_append, ← State.reached, ← State.reached, ha.reached, hb.reached]

/-- The pass in code, after a line and at a depth. -/
def inCode (depth : Nat) (blank : Bool := false) : State :=
  { line := .code, depth, started := true, blank }

theorem keeps_steady {line : List Char} (h : Steady line) (hne : line ≠ []) (depth : Nat) (blank : Bool) :
    (inCode depth blank).written (List.replicate depth '\t' ++ line) =
        (if blank then [[]] else []) ++ [List.replicate depth '\t' ++ line] ∧
      (inCode depth blank).next (List.replicate depth '\t' ++ line) = inCode depth := by
  have htrim : trim (List.replicate depth '\t' ++ line) = line := by
    have hcut := trim_append (blank_replicate_tab depth) blank_nil h.trimmed
    rwa [List.append_nil] at hcut
  have hclosing : line.takeWhile isClosing = [] := by
    cases line with
    | nil => rfl
    | cons c s => exact List.takeWhile_cons_of_neg (by simp [h.closing c rfl])
  have hcode : (inCode depth blank).line = .code := rfl
  constructor
  · rw [State.written, if_neg (by simp [hcode]), htrim, if_neg hne, indentation, hclosing]
    rfl
  · rw [State.next, if_neg (by simp [hcode]), htrim, if_neg hne, State.advance, hcode, h.balanced]
    simp [inCode]

theorem Steady.isLine {line : List Char} (h : Steady line) (hne : line ≠ []) (depth : Nat) :
    IsLine (List.replicate depth '\t' ++ line) := by
  constructor
  · rw [List.mem_append, not_or]
    exact ⟨by simp [List.mem_replicate], h.feed⟩
  · have hend : Solid (List.replicate depth '\t' ++ line).reverse := by
      rw [List.reverse_append]
      exact (trim_eq_self_iff.1 h.trimmed).2.append (by simpa using hne) _
    -- a carriage return at the end would be blank
    refine (withoutReturn_spec _).resolve_right (fun hreturn => ?_) |>.symm
    rw [hreturn, List.reverse_append] at hend
    exact absurd (hend _ _ rfl) (by decide)

/-- Steady lines behind tabs are kept. -/
theorem keeps_block {ls : List (List Char)} (h : ∀ l ∈ ls, Steady l ∧ l ≠ []) (depth : Nat) :
    Keeps (inCode depth) (ls.map fun l => List.replicate depth '\t' ++ l) (inCode depth) := by
  induction ls with
  | nil => exact keeps_nil _
  | cons l ls ih =>
    obtain ⟨⟨hsteady, hne⟩, hls⟩ := List.forall_mem_cons.1 h
    obtain ⟨hwritten, hnext⟩ := keeps_steady hsteady hne depth false
    exact (keeps_line (hsteady.isLine hne depth) hwritten hnext).append (ih hls)

/-- Steady lines are kept where the file has them behind a tab. -/
theorem keeps_tabbed {ls : List String} (h : ∀ l ∈ ls, Steady l.toList ∧ l ≠ "") :
    Keeps (inCode 1) ((ls.map ("\t" ++ ·)).map String.toList) (inCode 1) := by
  have hchars : ∀ l ∈ ls.map String.toList, Steady l ∧ l ≠ [] :=
    List.forall_mem_map.2 fun l hl => ⟨(h l hl).1, fun hnil => (h l hl).2 (String.toList_inj.1 hnil)⟩
  have hblock := keeps_block hchars 1
  have htabs : (ls.map ("\t" ++ ·)).map String.toList =
      (ls.map String.toList).map fun l => List.replicate 1 '\t' ++ l := by
    rw [List.map_map, List.map_map]
    refine List.map_congr_left fun l _ => ?_
    rw [Function.comp_apply, Function.comp_apply, String.toList_append]
    rfl
  rwa [htabs]

/-- A steady line behind an empty one is kept. -/
theorem keeps_after_blank {line : List Char} (h : Steady line) (hne : line ≠ []) :
    Keeps (inCode 0) [[], line] (inCode 0) := by
  obtain ⟨hwritten, hnext⟩ := keeps_steady h hne 0 true
  have hdue : (inCode 0).next [] = inCode 0 true := rfl
  have hnone : (inCode 0).written [] = [] := rfl
  have hline := h.isLine hne 0
  rw [List.replicate_zero, List.nil_append] at hwritten hnext hline
  constructor
  · exact List.forall_mem_cons.2 ⟨by decide, by simpa using hline⟩
  · rw [lay_cons, hnone, hdue, lay_cons, hwritten]
    rfl
  · rw [State.reached, List.foldl_cons, hdue, List.foldl_cons, hnext]
    rfl

/-- The characters that a scan of code looks at. -/
def codeMarks : List Char := ['/', '\x60', '"', '\'', '(', '{', '[', ')', '}', ']']

/-- A text without such characters is code throughout. -/
theorem scan_of_not_mem {s : List Char} (h : ∀ c ∈ s, c ∉ codeMarks) : scan .code s = (.code, 0) := by
  induction s with
  | nil => rfl
  | cons c s ih =>
    obtain ⟨hc, hs⟩ := List.forall_mem_cons.1 h
    simp only [codeMarks, List.mem_cons, List.not_mem_nil, or_false, not_or] at hc
    have hstate : ScanState.ofCode c = .code := by simp [ScanState.ofCode, hc]
    have hweight : weight c = 0 := by simp [weight, isOpening, isClosing, hc]
    rw [scan]
    · rw [hstate, ih hs, hweight]
      rfl
    -- no comment starts here
    · rintro s ⟨⟩ rfl
      exact absurd rfl hc.1
    · rintro s ⟨⟩ rfl
      exact absurd rfl hc.1

theorem isIdentifierPart_codeMarks : ∀ c ∈ codeMarks, isIdentifierPart c = false :=
  List.all_iff_forall_prop.1 (by decide +kernel)

/-- A package clause is steady. -/
theorem steady_package {name : List Char} (h : IsIdentifier name) : Steady ("package ".toList ++ name) where
  feed := by
    rw [List.mem_append, not_or]
    refine ⟨by decide, fun hfeed => ?_⟩
    exact absurd (isBlank_of_isIdentifierPart (h.part _ hfeed)) (by decide)
  trimmed := by
    have hend : Solid name.reverse := by
      rintro c t hname
      exact isBlank_of_isIdentifierPart (h.part c (List.mem_reverse.1 (hname ▸ List.mem_cons_self)))
    refine trim_eq_self_iff.2 ⟨solid_cons (by decide) _, ?_⟩
    obtain ⟨c, s, rfl, -⟩ := h
    rw [List.reverse_append]
    exact hend.append (by simp) _
  closing := by
    rintro c ⟨⟩
    rfl
  balanced := by
    refine scan_of_not_mem (List.forall_mem_append.2
      ⟨List.all_iff_forall_prop.1 (by decide), fun c hc hmark => ?_⟩)
    have hnot := isIdentifierPart_codeMarks c hmark
    rw [h.part c hc] at hnot
    cases hnot

/-! ## The comment at the start -/

/-- A text that stays on its line in a block comment. -/
def InComment (s : String) : Prop := ∀ c ∈ s.toList, c ∉ ['*', '\n', '\r']

theorem inComment_ofList {l : List Char} (h : (l.all fun c => c ∉ ['*', '\n', '\r']) = true) :
    InComment (String.ofList l) := by
  rw [InComment, String.toList_ofList]
  exact List.all_iff_forall_prop.1 h

theorem InComment.append {a b : String} (ha : InComment a) (hb : InComment b) : InComment (a ++ b) := by
  rw [InComment, String.toList_append]
  exact List.forall_mem_append.2 ⟨ha, hb⟩

theorem scan_blockComment {s : List Char} (h : '*' ∉ s) : scan .blockComment s = (.blockComment, 0) := by
  induction s with
  | nil => rfl
  | cons c s ih =>
    rw [List.mem_cons, not_or] at h
    rw [scan]
    · exact ih h.2
    · rintro s ⟨⟩ rfl
      exact h.1 rfl

/-- The pass in the comment at the start of a file. -/
def comment : State := { line := .blockComment, started := true }

/-- Lines of a block comment are kept. -/
theorem keeps_comment {ls : List String} (h : ∀ l ∈ ls, InComment l) :
    Keeps comment (ls.map String.toList) comment := by
  induction ls with
  | nil => exact keeps_nil _
  | cons l ls ih =>
    obtain ⟨hl, hls⟩ := List.forall_mem_cons.1 h
    have hnot : ∀ c ∈ ['*', '\n', '\r'], c ∉ l.toList := fun c hc hmem => hl c hmem hc
    have hline : IsLine l.toList :=
      ⟨hnot '\n' (by simp), withoutReturn_of_not_mem (hnot '\r' (by simp))⟩
    have hnext : comment.next l.toList = comment := by
      rw [State.next, if_pos (by decide), State.advance, comment, scanLine]
      simp only [LineState.scan, scan_blockComment (hnot '*' (by simp))]
      rfl
    exact (keeps_line hline (if_pos (by decide)) hnext).append (ih hls)

theorem inComment_name (c : Channel) : InComment c.name := by
  cases c <;> exact inComment_ofList (by decide)

theorem inComment_messageUsage (c : Channel) :
    ∀ l ∈ (Template.messageUsage c).tail.dropLast, InComment l := by
  simp only [Template.messageUsage, List.tail_cons, List.dropLast_cons_cons, List.dropLast_singleton,
    List.forall_mem_cons]
  refine ⟨?_, .append (.append (.append ?_ (inComment_name c)) ?_) ?_, ?_, ?_, ?_, ?_, nofun⟩
  all_goals exact inComment_ofList (by decide +kernel)

theorem inComment_httpUsage : ∀ l ∈ Template.httpUsage.tail.dropLast, InComment l := by
  simp only [Template.httpUsage, List.tail_cons, List.dropLast_cons_cons, List.dropLast_singleton,
    List.forall_mem_cons]
  -- the second and the seventh line are written in two parts
  refine ⟨?_, .append ?_ ?_, ?_, ?_, ?_, ?_, .append ?_ ?_, ?_, ?_, ?_, ?_, ?_, ?_, ?_, ?_, ?_, ?_, ?_,
    ?_, nofun⟩
  all_goals exact inComment_ofList (by decide +kernel)

/-- The lines between the marks of a usage comment end no comment. -/
theorem inComment_usage (c : Channel) :
    ∃ ls, Template.usage c = ["/*"] ++ ls ++ ["*/"] ∧ ∀ l ∈ ls, InComment l := by
  cases c with
  | http => exact ⟨_, rfl, inComment_httpUsage⟩
  | tcp => exact ⟨_, rfl, inComment_messageUsage .tcp⟩
  | udp => exact ⟨_, rfl, inComment_messageUsage .udp⟩

/-- The header and the comment that explains directives are kept. -/
theorem keeps_usage (c : Channel) :
    Keeps {} (([Template.header] ++ Template.usage c).map String.toList) (inCode 0) := by
  obtain ⟨header, hheader, hkeeps⟩ :
      ∃ l, Template.header = String.ofList l ∧ Keeps {} [l] (inCode 0) := ⟨_, rfl, by decide +kernel⟩
  obtain ⟨ls, husage, hls⟩ := inComment_usage c
  have hopen : Keeps (inCode 0) ["/*".toList] comment := by decide
  have hclose : Keeps comment ["*/".toList] (inCode 0) := by decide
  have hall := hkeeps.append ((hopen.append (keeps_comment hls)).append hclose)
  rw [husage, hheader]
  simpa using hall

/-! ## The rendered file -/

theorem call_ne_empty (schema : Schema) (r : Record) : schema.call r ≠ "" := by
  intro h
  have hchars := congrArg String.toList h
  simp [Schema.call] at hchars

section Render
variable {package : String} {entries : ChannelEntries} {schema : Schema}

/-- The pass keeps the lines of a rendered file. -/
theorem keeps_fileLines (hpackage : IsIdentifier package.toList)
    (himports : ∀ i ∈ entries.imports, Steady i.toList ∧ i ≠ "")
    (hcalls : ∀ r ∈ entries.records, Steady (schema.call r.2).toList) :
    Keeps {} ((Template.fileLines package entries schema).map String.toList) (inCode 0) := by
  have hclause : Keeps (inCode 0) ["".toList, ("package " ++ package).toList] (inCode 0) := by
    have hsteady := steady_package hpackage
    rw [← String.toList_append] at hsteady
    have hne : ("package " ++ package).toList ≠ [] := by simp
    exact keeps_after_blank hsteady hne
  have hopen : Keeps (inCode 0) ["".toList, "import (".toList] (inCode 1) := by decide
  have himportLines : Keeps (inCode 1) ((entries.imports.map ("\t" ++ ·)).map String.toList) (inCode 1) :=
    keeps_tabbed himports
  have hinit : Keeps (inCode 1) [")".toList, "".toList, "func init() \x7b".toList] (inCode 1) := by decide
  have hcallLines : Keeps (inCode 1)
      ((entries.records.map fun r => "\t" ++ schema.call r.2).map String.toList) (inCode 1) := by
    have hlines : ∀ l ∈ entries.records.map fun r => schema.call r.2, Steady l.toList ∧ l ≠ "" := by
      intro l hl
      obtain ⟨r, hr, rfl⟩ := List.mem_map.1 hl
      exact ⟨hcalls r hr, call_ne_empty schema r.2⟩
    have htabs : (entries.records.map fun r => "\t" ++ schema.call r.2) =
        (entries.records.map fun r => schema.call r.2).map ("\t" ++ ·) := List.map_map.symm
    rw [htabs]
    exact keeps_tabbed hlines
  have hend : Keeps (inCode 1) ["\x7d".toList] (inCode 0) := by decide
  have hall := ((((((keeps_usage schema.channel).append hclause).append hopen).append himportLines).append
    hinit).append hcallLines).append hend
  simpa only [Template.fileLines, List.map_append, List.map_cons, List.map_nil, List.append_assoc,
    List.cons_append, List.nil_append] using hall

/-- Rendered text is its lines, each ended. -/
theorem toList_render (package : String) (entries : ChannelEntries) (schema : Schema) :
    (Template.render package entries schema).toList =
      unlines ((Template.fileLines package entries schema).map String.toList) := by
  rw [Template.render, String.toList_join, unlines, List.flatMap_map, List.flatMap_map]
  simp [String.toList_append]

end Render

/-- Whatever calls have filled a channel, its rendered file is laid out: as long as its imports and
constructor calls are steady, the pass changes nothing, so that the file is formatted as it is where it
can be read. Between the fixed lines stand its imports in the order of their bytes and one call for each
key in the order in which keys were first named, each behind one tab. -/
theorem reindent_render (calls : List Registry.Call) {p : PackageEntries}
    (hp : p ∈ (calls.foldl Registry.Call.apply {}).packages) (c : Channel) (schema : Schema)
    {package : String} (hpackage : IsIdentifier package.toList)
    (himports : ∀ i ∈ (p.channel c).imports, Steady i.toList)
    (hcalls : ∀ r ∈ (p.channel c).records, Steady (schema.call r.2).toList) :
    let imports := (p.channel c).imports
    let keys := (calls.filterMap (Registry.Call.keyIn? p.name p.directory c)).eraseDups
    let rendered := Template.render package (p.channel c) schema
    reindent rendered = rendered ∧
      (∀ programs filename out, Formatter.format programs .builtin rendered filename = .ok out ↔
        (∃ file, SourceFile.read filename rendered = .ok file) ∧ out = rendered) ∧
      lines rendered.toList =
        ([Template.header] ++ Template.usage schema.channel ++ ["", "package " ++ package, "", "import ("] ++
          imports.map ("\t" ++ ·) ++ [")", "", "func init() \x7b"] ++
          keys.map (fun key => "\t" ++ schema.call (((p.channel c).record? key).getD {})) ++
          ["\x7d"]).map String.toList ∧
      (imports.Pairwise fun a b => Utf8.encode a < Utf8.encode b) ∧
      ∀ key, key ∈ keys ↔ ((p.channel c).record? key).isSome := by
  intro imports keys rendered
  have hconsistent := ((Registry.sound_empty.run calls).channels p hp c).consistent
  have hkeys : (p.channel c).keys = keys := Registry.keys_run calls hp c
  have hkeeps := keeps_fileLines hpackage
    (fun i hi => ⟨himports i hi, (hconsistent.imports_quoted i hi).ne_empty⟩) hcalls
  have hread : lines rendered.toList =
      (Template.fileLines package (p.channel c) schema).map String.toList := by
    rw [toList_render, lines_unlines_eq_map fun l hl => (hkeeps.isLine l hl).1]
    exact (List.map_congr_left fun l hl => (hkeeps.isLine l hl).2).trans (List.map_id' _)
  have hfixed : reindent rendered = rendered := by
    rw [reindent, onChars, reindentChars, hread, hkeeps.lay, ← toList_render, String.ofList_toList]
  have hrecords : (p.channel c).records =
      keys.map fun key => (key, ((p.channel c).record? key).getD {}) :=
    hkeys ▸ hconsistent.records_eq_map
  refine ⟨hfixed, fun programs filename out => ?_, ?_, hconsistent.imports_ascending, fun key => ?_⟩
  · rw [Formatter.format_builtin_eq_ok_iff, hfixed]
  · rw [hread, Template.fileLines, hrecords, List.map_map]
    rfl
  · rw [← hkeys, hconsistent.mem_keys_iff]

/-- Calls that name two keys of one channel in turns, with brackets and quotes in their values. -/
def sampleCalls : List Registry.Call :=
  let changes : List Registry.Change :=
    [.put .tcp "user" "api" "UserImpl[]", .addImport .tcp "app/model", .put .tcp "admin" "msgId" "f(7)",
     .put .tcp "user" "api_method" "Use(r"]
  changes.map (Registry.Call.mk "api" "src/api" "framework/net_fw")

theorem reindent_render_two_keys :
    ∃ p ∈ (sampleCalls.foldl Registry.Call.apply {}).packages,
      let rendered := Template.render "api" (p.channel .tcp) (Schema.ofChannel ⟨"net_fw"⟩ .tcp)
      reindent rendered = rendered ∧
        (lines rendered.toList).drop 9 =
          ["", "package api", "", "import (", "\t\"app/model\"", "\t\"framework/net_fw\"", ")", "",
           "func init() \x7b",
           "\tnet_fw.NewTcpNetHandler(-1, UserImpl[], \"Use(r\", nil, false)",
           "\tnet_fw.NewTcpNetHandler(f(7), nil, \"\", nil, false)",
           "\x7d"].map String.toList := by
  have hpackage : IsIdentifier "api".toList := ⟨'a', ['p', 'i'], by decide, by decide, List.all_iff_forall_prop.1 (by decide)⟩
  refine ⟨_, List.mem_cons_self, ?_⟩
  obtain ⟨hfixed, -, hlines, -⟩ := reindent_render sampleCalls List.mem_cons_self .tcp
    (Schema.ofChannel ⟨"net_fw"⟩ .tcp) hpackage (by decide +kernel) (by decide +kernel)
  refine ⟨hfixed, ?_⟩
  rw [hlines]
  decide +kernel

end Layout
end Registrar
