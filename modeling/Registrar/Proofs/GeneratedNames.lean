import Mathlib.Data.List.Infix
import Registrar.Proofs.Discovery
import Registrar.Proofs.Matching
import Registrar.Settings.Basic
/-!
# Whether generated files are read again

Settings are checked on the name of the http file alone (`check_eq_ok_iff`). What follows for the
files of the other channels depends on the patterns (`generated_read_iff`): they are kept out when
the exclude pattern finds the stem without looking at what comes after it, and when the patterns are
those that settings have by default, which do not tell the channels apart (`isCandidate_default`).
-/
namespace Registrar

/-! ## Patterns for whole names -/

theorem CharSet.contains_single (c d : Char) : (CharSet.single c).contains d = decide (d = c) := by
  rw [CharSet.single, CharSet.range, CharSet.contains_ofRanges, Bool.eq_iff_iff, decide_eq_true_eq]
  simp only [Text.inRanges, List.any_cons, List.any_nil, Bool.or_false, Bool.and_eq_true,
    decide_eq_true_eq]
  constructor
  · intro h
    exact Char.toNat_inj.1 (by omega)
  · rintro rfl
    omega

namespace Pattern

/-- Some text, and then the pattern. -/
def afterText (s : List Char) (p : Pattern) : Pattern :=
  s.foldr (fun c p => .seq (.char (.single c)) p) p

/-- A name that starts with a text and ends in `.go`, without a line feed between them. -/
def goName (start : List Char) : Pattern :=
  .seq (.place .textStart) (afterText start
    (.seq (.repeated (.char (CharSet.single '\n').complement) 0 none)
      (afterText ".go".toList (.place .textEnd))))

section Names
variable {text : List Char} {i j : Nat}

theorem drop_succ_of_cons {c : Char} {rest : List Char} (h : text.drop i = c :: rest) :
    text.drop (i + 1) = rest := by
  rw [← List.tail_drop, h, List.tail_cons]

theorem describes_char {set : CharSet} : Describes text.toArray (.char set) i j ↔
    ∃ c, set.contains c ∧ text.drop i = c :: text.drop j ∧ j = i + 1 := by
  rw [Describes]
  constructor
  · rintro ⟨⟨c, hc, hset⟩, rfl⟩
    rw [List.getElem?_toArray, List.getElem?_eq_some_iff] at hc
    obtain ⟨hlt, rfl⟩ := hc
    exact ⟨_, hset, List.drop_eq_getElem_cons hlt, rfl⟩
  · rintro ⟨c, hset, hdrop, rfl⟩
    refine ⟨⟨c, ?_, hset⟩, rfl⟩
    rw [List.getElem?_toArray, ← List.head?_drop, hdrop, List.head?_cons]

theorem describes_afterText {s : List Char} {p : Pattern} :
    Describes text.toArray (afterText s p) i j ↔
      text.drop i = s ++ text.drop (i + s.length) ∧ Describes text.toArray p (i + s.length) j := by
  induction s generalizing i with
  | nil => simp [afterText]
  | cons c s ih =>
    rw [afterText, List.foldr_cons, ← afterText, Describes]
    simp only [describes_char, ih, CharSet.contains_single, decide_eq_true_eq, List.length_cons]
    constructor
    · rintro ⟨k, ⟨d, rfl, hdrop, rfl⟩, hs, hp⟩
      rw [hdrop, hs, show i + (s.length + 1) = i + 1 + s.length by omega]
      exact ⟨rfl, hp⟩
    · rintro ⟨hdrop, hp⟩
      rw [show i + (s.length + 1) = i + 1 + s.length by omega] at hdrop hp
      have hrest := drop_succ_of_cons hdrop
      refine ⟨i + 1, ⟨c, rfl, ?_, rfl⟩, hrest, hp⟩
      rw [hdrop, hrest]
      rfl

/-- Repeated characters of a set describe the texts over the set. -/
theorem describes_run {set : CharSet} :
    (∃ n, Steps (Describes text.toArray (.char set)) n i j) ↔
      ∃ mid, (∀ c ∈ mid, set.contains c) ∧ text.drop i = mid ++ text.drop j ∧ j = i + mid.length := by
  constructor
  · rintro ⟨n, h⟩
    induction n generalizing i with
    | zero =>
      subst h
      exact ⟨[], by simp, rfl, rfl⟩
    | succ n ih =>
      obtain ⟨k, hik, hkj⟩ := h
      obtain ⟨c, hc, hdrop, rfl⟩ := describes_char.1 hik
      obtain ⟨mid, hmid, hrest, rfl⟩ := ih hkj
      refine ⟨c :: mid, List.forall_mem_cons.2 ⟨hc, hmid⟩, ?_, ?_⟩
      · rw [hdrop, hrest]
        rfl
      · rw [List.length_cons]
        omega
  · rintro ⟨mid, hmid, hdrop, hj⟩
    induction mid generalizing i with
    | nil => exact ⟨0, hj⟩
    | cons c mid ih =>
      obtain ⟨hc, hmid⟩ := List.forall_mem_cons.1 hmid
      have hrest := drop_succ_of_cons hdrop
      obtain ⟨n, hn⟩ := ih hmid hrest (by rw [hj, List.length_cons]; omega)
      exact ⟨n + 1, i + 1, describes_char.2 ⟨c, hc, by rw [hdrop, hrest]; rfl, rfl⟩, hn⟩

end Names

theorem finds_goName {start : List Char} {name : String} : (goName start).Finds name ↔
    ∃ mid, name.toList = start ++ mid ++ ".go".toList ∧ '\n' ∉ mid := by
  have hset : ∀ mid : List Char, (∀ c ∈ mid, (CharSet.single '\n').complement.contains c) ↔
      '\n' ∉ mid := by
    intro mid
    simp only [CharSet.contains_complement, CharSet.contains_single, Bool.not_eq_true',
      decide_eq_false_iff_not]
    exact ⟨fun h hmem => h _ hmem rfl, fun h c hc hline => h (hline ▸ hc)⟩
  constructor
  · rintro ⟨i, j, -, k, ⟨hstart, rfl⟩, h⟩
    have hk : k = 0 := by simpa [Assertion.holds] using hstart
    subst hk
    obtain ⟨hhead, l, ⟨n, -, hrun⟩, hend⟩ := describes_afterText.1 h
    rw [Nat.zero_add] at hrun
    obtain ⟨mid, hmid, hrest, -⟩ := describes_run.1 ⟨n, hrun⟩
    obtain ⟨hgo, hholds, -⟩ := describes_afterText.1 hend
    have hnil : name.toList.drop (l + ".go".toList.length) = [] := by
      rw [List.drop_eq_nil_iff]
      have hsize : l + ".go".toList.length = name.toList.length := by
        simpa [Assertion.holds] using hholds
      omega
    refine ⟨mid, ?_, (hset mid).1 hmid⟩
    rw [List.drop_zero] at hhead
    rw [hhead, hrest, hgo, hnil, List.append_nil, List.append_assoc]
  · rintro ⟨mid, hname, hline⟩
    have hmid : name.toList.drop start.length = mid ++ ".go".toList := by
      rw [hname, List.append_assoc, List.drop_left]
    have hgo : name.toList.drop (start.length + mid.length) = ".go".toList := by
      rw [← List.drop_drop, hmid, List.drop_left]
    have hend : start.length + mid.length + ".go".toList.length = name.toList.length := by
      rw [hname, List.length_append, List.length_append]
    have hnil : name.toList.drop (start.length + mid.length + ".go".toList.length) = [] := by
      rw [hend, List.drop_length]
    obtain ⟨n, hrun⟩ := describes_run.2 ⟨mid, (hset mid).2 hline, by rw [hmid, hgo], rfl⟩
    refine ⟨0, name.toList.length, Nat.zero_le _, 0, ⟨rfl, rfl⟩, describes_afterText.2 ⟨?_, ?_⟩⟩
    · rw [List.drop_zero, Nat.zero_add, hmid, hname, List.append_assoc]
    · rw [Nat.zero_add]
      refine ⟨start.length + mid.length, ⟨n, by simp, ?_⟩, describes_afterText.2 ⟨?_, ?_, hend.symm⟩⟩
      · rwa [Nat.zero_add]
      · rw [hgo, hnil, List.append_nil]
      · simp [Assertion.holds, ← hend]

end Pattern

namespace Settings

open Discovery

/-! ## What is checked -/

theorem patternOf_eq_ok_iff (field : String) {text : String} {p : Pattern} :
    patternOf field text = .ok p ↔ Pattern.read text = .ok p := by
  rw [patternOf]
  cases Pattern.read text with
  | error e => simp [Except.mapError]
  | ok q => simp [Except.mapError]

/-- Settings are accepted when they have a stem and patterns that can be read, and the http file that
they name is not one to read. -/
theorem check_eq_ok_iff {s : Settings} {c : CheckedSettings} : s.check = .ok c ↔
    s.fileStem ≠ "" ∧ Pattern.read s.includePattern = .ok c.included ∧
      Pattern.read s.excludePattern = .ok c.excluded ∧ c.settings = s ∧
      isCandidate c (Channel.http.fileName s.fileStem) = false := by
  obtain ⟨settings, included, excluded⟩ := c
  rw [← patternOf_eq_ok_iff "include_pattern", ← patternOf_eq_ok_iff "exclude_pattern"]
  unfold check sample isCandidate
  by_cases hstem : s.fileStem = ""
  · simp [hstem]
  · rw [if_neg (by simpa using hstem)]
    cases patternOf "include_pattern" s.includePattern with
    | error e => simp
    | ok i =>
      cases patternOf "exclude_pattern" s.excludePattern with
      | error e => simp
      | ok x =>
        simp only [Except.ok.injEq]
        split
        · rename_i hread
          simp only [reduceCtorEq, false_iff]
          rintro ⟨-, rfl, rfl, -, hkept⟩
          rw [Bool.and_comm, hread] at hkept
          cases hkept
        · rename_i hkept
          rw [Bool.not_eq_true, Bool.and_comm] at hkept
          constructor
          · intro h
            cases h
            exact ⟨hstem, rfl, rfl, rfl, hkept⟩
          · rintro ⟨-, rfl, rfl, rfl, -⟩
            rfl

theorem isCandidate_iff {c : CheckedSettings} {name : String} :
    isCandidate c name = true ↔ c.included.Finds name ∧ ¬c.excluded.Finds name := by
  rw [isCandidate, Bool.and_eq_true, Bool.not_eq_true', ← Bool.not_eq_true, Pattern.isMatch_iff,
    Pattern.isMatch_iff, and_comm]

/-! ## The default patterns -/

theorem fileName_toList (ch : Channel) (stem : String) : (ch.fileName stem).toList =
    stem.toList ++ (ch.name.toList ++ "_api_handler".toList) ++ ".go".toList := by
  cases ch <;> simp [Channel.fileName, Channel.name]

/-- A generated name begins as its stem does: no channel goes on with what the stem has begun. -/
theorem gen_prefix_iff (ch : Channel) (stem : List Char) :
    "gen_".toList <+: stem ++ (ch.name.toList ++ "_api_handler".toList) ↔ "gen_".toList <+: stem := by
  constructor
  · intro h
    rcases List.prefix_or_prefix_of_prefix h (List.prefix_append _ _) with hstem | hstem
    · exact hstem
    · -- the stem is the text or a part of it that the name of no channel completes
      have hparts : stem ∈ "gen_".toList.inits := (List.mem_inits _ _).2 hstem
      have hnone : ∀ part ∈ "gen_".toList.inits, ∀ ch ∈ Channel.all,
          "gen_".toList <+: part ++ (ch.name.toList ++ "_api_handler".toList) →
            "gen_".toList <+: part := by decide
      exact hnone stem hparts ch ch.mem_all h
  · intro h
    exact h.trans (List.prefix_append _ _)

theorem finds_goName_fileName {start : List Char} (hstart : '\n' ∉ start) (ch : Channel)
    (stem : String) : (Pattern.goName start).Finds (ch.fileName stem) ↔
      '\n' ∉ stem.toList ∧ start <+: stem.toList ++ (ch.name.toList ++ "_api_handler".toList) := by
  have hchannel : '\n' ∉ ch.name.toList ++ "_api_handler".toList := by
    cases ch <;> decide
  have hlines : ∀ {mid}, start ++ mid = stem.toList ++ (ch.name.toList ++ "_api_handler".toList) →
      ('\n' ∉ mid ↔ '\n' ∉ stem.toList) := by
    intro mid hmid
    have hboth : '\n' ∈ start ++ mid ↔
        '\n' ∈ stem.toList ++ (ch.name.toList ++ "_api_handler".toList) := by rw [hmid]
    rw [List.mem_append, List.mem_append, or_iff_right hstart, or_iff_left hchannel] at hboth
    exact not_congr hboth
  rw [Pattern.finds_goName, fileName_toList]
  constructor
  · rintro ⟨mid, hname, hmid⟩
    have hparts := (List.append_cancel_right hname).symm
    exact ⟨(hlines hparts).1 hmid, mid, hparts⟩
  · rintro ⟨hstem, mid, hparts⟩
    exact ⟨mid, by rw [hparts], (hlines hparts).2 hstem⟩

/-- With the default patterns a generated name is one to read unless its stem begins with `gen_` or
has a line feed in it, whatever the channel. -/
theorem isCandidate_default {c : CheckedSettings}
    (hincluded : Pattern.read ({} : Settings).includePattern = .ok c.included)
    (hexcluded : Pattern.read ({} : Settings).excludePattern = .ok c.excluded)
    (ch : Channel) (stem : String) : isCandidate c (ch.fileName stem) = true ↔
      '\n' ∉ stem.toList ∧ ¬"gen_".toList <+: stem.toList := by
  have hi : Pattern.read ({} : Settings).includePattern = .ok (.goName []) := by decide +kernel
  have hx : Pattern.read ({} : Settings).excludePattern = .ok (.goName "gen_".toList) := by
    decide +kernel
  rw [isCandidate_iff, ← Except.ok.inj (hi.symm.trans hincluded),
    ← Except.ok.inj (hx.symm.trans hexcluded), finds_goName_fileName (by decide),
    finds_goName_fileName (by decide), gen_prefix_iff]
  constructor
  · rintro ⟨⟨hline, -⟩, hnot⟩
    exact ⟨hline, fun hgen => hnot ⟨hline, hgen⟩⟩
  · rintro ⟨hline, hgen⟩
    exact ⟨⟨hline, List.nil_prefix⟩, fun h => hgen h.2⟩

/-! ## What the check gives -/

/-- Settings that are accepted never let the http file in. The file of another channel is let in when
the include pattern finds its name and the exclude pattern does not, and then it is read wherever a
walk meets it. It is kept out when the exclude pattern finds the stem without looking at what comes
after it, and when the patterns are the default ones. -/
theorem generated_read_iff {s : Settings} {c : CheckedSettings} (h : s.check = .ok c) (ch : Channel) :
    (isCandidate c (ch.fileName s.fileStem) = true ↔ ch ≠ .http ∧
      c.included.Finds (ch.fileName s.fileStem) ∧ ¬c.excluded.Finds (ch.fileName s.fileStem)) ∧
    (∀ t root files, (discover t c root).2 = .ok files → ∀ p, t.locate root = .ok p →
      ∀ q ∈ filesBelow t s.recursive p, q.getLast? = some (ch.fileName s.fileStem) →
        (found root q ∈ files ↔ isCandidate c (ch.fileName s.fileStem) = true)) ∧
    (c.excluded.looksAhead = false → c.excluded.Finds s.fileStem →
      isCandidate c (ch.fileName s.fileStem) = false) ∧
    (s.includePattern = ({} : Settings).includePattern →
      s.excludePattern = ({} : Settings).excludePattern →
        isCandidate c (ch.fileName s.fileStem) = false) := by
  obtain ⟨-, hincluded, hexcluded, rfl, hhttp⟩ := check_eq_ok_iff.1 h
  refine ⟨?_, ?_, ?_, ?_⟩
  · rw [isCandidate_iff]
    constructor
    · intro hread
      refine ⟨?_, hread⟩
      rintro rfl
      rw [isCandidate_iff.2 hread] at hhttp
      cases hhttp
    · exact And.right
  · intro t root files hfiles p hp q hq hlast
    exact found_mem_iff hfiles hp hq hlast
  · intro hback hstem
    rw [← Bool.not_eq_true, isCandidate_iff]
    rintro ⟨-, hnot⟩
    refine hnot ?_
    rw [Channel.fileName, String.append_assoc]
    exact hstem.append hback _
  · intro hi hx
    rw [hi] at hincluded
    rw [hx] at hexcluded
    -- what keeps the http file out is said of the stem alone
    rw [← Bool.not_eq_true, isCandidate_default hincluded hexcluded] at hhttp ⊢
    exact hhttp

/-- Settings that exclude the http files by name. -/
def httpExcluded : CheckedSettings :=
  { settings := { excludePattern := "^gen_http.*\\.go$" }
    included := .goName []
    excluded := .goName "gen_http".toList }

/-- A tree with the tcp file of an earlier run. -/
def tcpLeft : FileTree :=
  (({} : FileTree).put ["shop"] .directory).put ["shop", "gen_tcp_api_handler.go"] (.file [])

/-- Excluding the http files by name is accepted, and the tcp file is read again. -/
theorem tcp_file_read_again : httpExcluded.settings.check = .ok httpExcluded ∧
    ∃ files, (discover tcpLeft httpExcluded ".").2 = .ok files ∧
      found "." ["shop", "gen_tcp_api_handler.go"] ∈ files := by
  have hcheck : httpExcluded.settings.check = .ok httpExcluded := by decide +kernel
  have hlocate : tcpLeft.locate "." = .ok [] := by decide +kernel
  obtain ⟨files, hfiles⟩ : ∃ files, (discover tcpLeft httpExcluded ".").2 = .ok files :=
    ⟨_, discover_eq_ok_iff.2 ⟨[], hlocate, rfl, rfl⟩⟩
  have hcandidate : isCandidate httpExcluded "gen_tcp_api_handler.go" = true := by decide +kernel
  obtain ⟨-, hread, -⟩ := generated_read_iff hcheck .tcp
  refine ⟨hcheck, files, hfiles, ?_⟩
  exact (hread tcpLeft "." files hfiles [] hlocate _ (by decide +kernel) rfl).2 hcandidate

end Settings
end Registrar
