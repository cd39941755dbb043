import Registrar.Proofs.DirectiveGrammar
/-!
# Why a directive is rejected

The arguments of a directive come apart at the commas outside quotations (`Divided`). A segment is
defective when it has no key, an empty one, or the key of a segment before it (`Defect`). What is
reported are, in this order, the parentheses, a quotation that is left open anywhere, the leftmost
defective segment, and the type (`read_reports`).
-/
namespace Registrar.Directive
open Text Quoting

/-! ## Segments and their defects -/

/-- The text has the arguments in one pair of parentheses, perhaps after the marker. -/
def Holds (inner text : List Char) : Prop :=
  ∃ word, (word = marker ∨ word = []) ∧ Enclosed word inner text

/-- The segments of the arguments: the commas outside quotations stand between them. -/
structure Divided (inner : List Char) (ss : List (List Char)) : Prop where
  nonempty : ss ≠ []
  joined : [','].intercalate ss = inner
  closed : ∀ s ∈ ss, balanced s = true ∧ Free ',' s

/-- The segments that are not blank, without the blanks around them. -/
def solid (ss : List (List Char)) : List (List Char) := (ss.map trim).filter (· ≠ [])

/-- The key of a segment stands before the first equals sign outside quotations. -/
def HasKey (s key : List Char) : Prop :=
  ∃ u w, s = u ++ '=' :: w ∧ balanced u = true ∧ Free '=' u ∧ trim u = key

/-- What is wrong with a segment that has others before it. -/
inductive Defect (earlier : List (List Char)) (s : List Char) : DirectiveError → Prop
  | equals : Free '=' s → Defect earlier s (.missingEquals (String.ofList s))
  | key : HasKey s [] → Defect earlier s (.emptyKey (String.ofList s))
  | duplicate {key t} : HasKey s key → key ≠ [] → t ∈ earlier → HasKey t key →
      Defect earlier s (.duplicateKey (String.ofList key))

/-- One of the segments `ss`, which stand behind others, is defective. -/
def Defective (earlier ss : List (List Char)) : Prop :=
  ∃ before s after e, ss = before ++ s :: after ∧ Defect (earlier ++ before) s e

/-- The defect of the leftmost defective one of the segments `ss`. -/
def LeftmostDefect (earlier ss : List (List Char)) (e : DirectiveError) : Prop :=
  ∃ before s after, ss = before ++ s :: after ∧ Defect (earlier ++ before) s e ∧
    ∀ b t a, before = b ++ t :: a → ∀ e', ¬ Defect (earlier ++ b) t e'

/-! ## Parentheses and quotations -/

theorem holds_iff {inner text : List Char} : Holds inner text ↔ inner? text = some inner :=
  ⟨fun ⟨_, hword, h⟩ => inner?_of_enclosed hword h, enclosed_of_inner?⟩

theorem divided_iff {inner : List Char} {ss : List (List Char)} :
    Divided inner ss ↔ split? ',' inner = some ss := by
  rw [split?_eq_some_iff (by decide)]
  exact ⟨fun h => ⟨h.nonempty, h.joined, h.closed⟩, fun ⟨hne, hjoin, hss⟩ => ⟨hne, hjoin, hss⟩⟩

theorem Divided.unique {inner : List Char} {ss ss' : List (List Char)} (h : Divided inner ss)
    (h' : Divided inner ss') : ss' = ss :=
  Option.some.inj ((divided_iff.1 h').symm.trans (divided_iff.1 h))

/-- Balanced text behind a comma adds segments at the end. -/
theorem Divided.append {inner more : List Char} {ss : List (List Char)} (h : Divided inner ss)
    (hmore : balanced more = true) : ∃ ts, Divided (inner ++ ',' :: more) (ss ++ ts) := by
  obtain ⟨ts, hts⟩ : ∃ ts, split? ',' more = some ts := ⟨_, if_pos hmore⟩
  obtain ⟨hne, hjoin, hclosed⟩ := divided_iff.2 hts
  refine ⟨ts, by simp [h.nonempty], ?_, List.forall_mem_append.2 ⟨h.closed, hclosed⟩⟩
  rw [← h.joined, ← hjoin]
  have hcut := h.nonempty
  clear hts h hclosed
  induction ss with
  | nil => exact absurd rfl hcut
  | cons s ss ih =>
    cases ss with
    | nil =>
      obtain ⟨t, ts, rfl⟩ := List.exists_cons_of_ne_nil hne
      rw [List.singleton_append, join_cons_cons, join_singleton, List.append_assoc, List.singleton_append]
    | cons s' ss =>
      rw [List.cons_append, List.cons_append, join_cons_cons, ← List.cons_append, ih (by simp),
        join_cons_cons, List.append_assoc, List.append_assoc, List.append_assoc]

/-! ## One segment -/

theorem hasKey_iff {s key : List Char} :
    HasKey s key ↔ ∃ n, firstOutside? '=' s = some n ∧ trim (s.take n) = key := by
  constructor
  · rintro ⟨u, w, rfl, hbalanced, hfree, hkey⟩
    exact ⟨u.length, firstOutside?_append hbalanced hfree w, by rw [List.take_left, hkey]⟩
  · rintro ⟨n, hn, hkey⟩
    obtain ⟨u, w, rfl, rfl, hfree, hbalanced⟩ := firstOutside?_spec hn
    exact ⟨u, w, rfl, hbalanced, hfree, by rwa [List.take_left] at hkey⟩

/-- A key that has been read is a key of an earlier segment. -/
def KeysOf (seen : List Pair) (earlier : List (List Char)) : Prop :=
  ∀ key, key ∈ seen.map (·.1) ↔ ∃ t ∈ earlier, HasKey t key

variable {seen : List Pair} {earlier : List (List Char)} {s : List Char}

theorem readSegment_eq_error_iff (h : KeysOf seen earlier) {e : DirectiveError} :
    readSegment seen s = .error e ↔ Defect earlier s e := by
  have hseen : ∀ key, (seen.any fun p => p.1 == key) = true ↔ ∃ t ∈ earlier, HasKey t key := by
    intro key
    rw [← h key, List.any_eq_true, List.mem_map]
    simp only [beq_iff_eq]
  rw [readSegment]
  cases hn : firstOutside? '=' s with
  | none =>
    have hnone : ∀ key, ¬ HasKey s key := by simp [hasKey_iff, hn]
    constructor
    · rintro ⟨⟩
      exact .equals (firstOutside?_go_eq_none_iff.1 hn)
    · rintro (_ | hkey | ⟨hkey, -, -, -⟩)
      · rfl
      · exact absurd hkey (hnone _)
      · exact absurd hkey (hnone _)
  | some n =>
    have hfree : ¬ Free '=' s := by
      rw [Free, ← firstOutside?_go_eq_none_iff, ← firstOutside?, hn]
      exact Option.some_ne_none n
    have hkey : ∀ key, HasKey s key ↔ trim (s.take n) = key := by simp [hasKey_iff, hn]
    dsimp only
    split_ifs with hempty hdouble
    · rw [List.isEmpty_iff] at hempty
      constructor
      · rintro ⟨⟩
        exact .key ((hkey _).2 hempty)
      · rintro (hequals | _ | ⟨hk, hne, -, -⟩)
        · exact absurd hequals hfree
        · rfl
        · exact absurd (((hkey _).1 hk).symm.trans hempty) hne
    · rw [List.isEmpty_iff] at hempty
      obtain ⟨t, ht, htk⟩ := (hseen _).1 hdouble
      constructor
      · rintro ⟨⟩
        exact .duplicate ((hkey _).2 rfl) hempty ht htk
      · rintro (hequals | hk | ⟨hk, -, -, -⟩)
        · exact absurd hequals hfree
        · exact absurd ((hkey _).1 hk) hempty
        · rw [(hkey _).1 hk]
    · rw [List.isEmpty_iff] at hempty
      constructor
      · rintro ⟨⟩
      · rintro (hequals | hk | ⟨hk, -, ht, htk⟩)
        · exact absurd hequals hfree
        · exact absurd ((hkey _).1 hk) hempty
        · exact absurd ((hseen _).2 ⟨_, ht, (hkey _).1 hk ▸ htk⟩) hdouble

theorem KeysOf.concat (h : KeysOf seen earlier) {p : Pair} (hp : readSegment seen s = .ok p) :
    KeysOf (seen ++ [p]) (earlier ++ [s]) := by
  have hkey : ∀ key, HasKey s key ↔ key = p.1 := by
    rw [readSegment] at hp
    split at hp
    · cases hp
    · rename_i n hn
      dsimp only at hp
      split_ifs at hp
      cases hp
      simp [hasKey_iff, hn, eq_comm]
  intro key
  simp only [List.map_append, List.mem_append, h key, List.map_cons, List.map_nil, List.mem_singleton,
    ← hkey key]
  constructor
  · rintro (⟨t, ht, htk⟩ | hk)
    · exact ⟨t, .inl ht, htk⟩
    · exact ⟨s, .inr rfl, hk⟩
  · rintro ⟨t, ht | rfl, htk⟩
    · exact .inl ⟨t, ht, htk⟩
    · exact .inr htk

/-! ## All segments -/

theorem leftmostDefect_cons_of_defect {e : DirectiveError} (h : Defect earlier s e)
    (hunique : ∀ e', Defect earlier s e' → e' = e) (ss : List (List Char)) (e' : DirectiveError) :
    LeftmostDefect earlier (s :: ss) e' ↔ e' = e := by
  constructor
  · rintro ⟨before, t, after, hss, hdefect, hclear⟩
    cases before with
    | nil =>
      cases hss
      exact hunique e' (by simpa using hdefect)
    | cons u before =>
      cases hss
      exact absurd h (by simpa using hclear [] s before rfl e)
  · rintro rfl
    exact ⟨[], s, ss, rfl, by simpa using h, by simp⟩

theorem leftmostDefect_cons_of_clear (h : ∀ e, ¬ Defect earlier s e) (ss : List (List Char))
    (e : DirectiveError) :
    LeftmostDefect earlier (s :: ss) e ↔ LeftmostDefect (earlier ++ [s]) ss e := by
  constructor
  · rintro ⟨before, t, after, hss, hdefect, hclear⟩
    cases before with
    | nil =>
      cases hss
      exact absurd (by simpa using hdefect) (h e)
    | cons u before =>
      cases hss
      refine ⟨before, t, after, rfl, by simpa using hdefect, ?_⟩
      rintro b t' a rfl e'
      simpa using hclear (s :: b) t' a rfl e'
  · rintro ⟨before, t, after, rfl, hdefect, hclear⟩
    refine ⟨s :: before, t, after, rfl, by simpa using hdefect, ?_⟩
    intro b t' a hb e'
    cases b with
    | nil =>
      cases hb
      simpa using h e'
    | cons u b =>
      cases hb
      simpa using hclear b t' a rfl e'

/-- Reading the segments fails with the leftmost defect. -/
theorem readSegments_eq_error_iff (h : KeysOf seen earlier) {ss : List (List Char)} {e : DirectiveError} :
    readSegments seen ss = .error e ↔ LeftmostDefect earlier (solid ss) e := by
  induction ss generalizing seen earlier with
  | nil => simp [readSegments, solid, LeftmostDefect]
  | cons s ss ih =>
    rw [readSegments]
    by_cases hblank : trim s = []
    · have hsolid : solid (s :: ss) = solid ss := by simp [solid, hblank]
      simp only [hblank, List.isEmpty_nil, if_true, hsolid, ih h]
    · have hsolid : solid (s :: ss) = trim s :: solid ss := by simp [solid, hblank]
      simp only [List.isEmpty_iff, hblank, if_false, hsolid]
      cases hread : readSegment seen (trim s) with
      | error e₀ =>
        have hdefect := (readSegment_eq_error_iff h).1 hread
        have hunique : ∀ e', Defect earlier (trim s) e' → e' = e₀ := by
          intro e' he'
          have hread' := (readSegment_eq_error_iff h).2 he'
          rw [hread] at hread'
          exact (Except.error.inj hread').symm
        rw [leftmostDefect_cons_of_defect hdefect hunique]
        simp [eq_comm]
      | ok p =>
        have hclear : ∀ e', ¬ Defect earlier (trim s) e' := by
          intro e' he'
          rw [(readSegment_eq_error_iff h).2 he'] at hread
          cases hread
        rw [leftmostDefect_cons_of_clear hclear]
        exact ih (h.concat hread)

/-- What is read has the keys of the segments. -/
theorem KeysOf.readSegments (h : KeysOf seen earlier) {ss : List (List Char)} {out : List Pair}
    (hread : readSegments seen ss = .ok out) : KeysOf out (earlier ++ solid ss) := by
  induction ss generalizing seen earlier with
  | nil =>
    cases hread
    simpa [solid] using h
  | cons s ss ih =>
    rw [Directive.readSegments] at hread
    by_cases hblank : trim s = []
    · have hsolid : solid (s :: ss) = solid ss := by simp [solid, hblank]
      simp only [hblank, List.isEmpty_nil, if_true] at hread
      exact hsolid ▸ ih h hread
    · have hsolid : solid (s :: ss) = [trim s] ++ solid ss := by simp [solid, hblank]
      simp only [List.isEmpty_iff, hblank, if_false] at hread
      cases hs : readSegment seen (trim s) with
      | error e => rw [hs] at hread; cases hread
      | ok p =>
        rw [hs] at hread
        rw [hsolid, ← List.append_assoc]
        exact ih (h.concat hs) hread

theorem keysOf_nil : KeysOf [] [] := by simp [KeysOf]

/-- Where there is a defect there is a leftmost one. -/
theorem Defective.leftmost {ss : List (List Char)} (h : Defective earlier ss) :
    ∃ e, LeftmostDefect earlier ss e := by
  obtain ⟨before, s, after, e, rfl, hdefect⟩ := h
  induction before generalizing earlier with
  | nil => exact ⟨e, [], s, after, rfl, hdefect, by simp⟩
  | cons t before ih =>
    by_cases hclear : ∀ e', ¬ Defect earlier t e'
    · have hrest : Defect ((earlier ++ [t]) ++ before) s e := by simpa using hdefect
      obtain ⟨e', he'⟩ := ih hrest
      exact ⟨e', (leftmostDefect_cons_of_clear hclear _ e').2 he'⟩
    · obtain ⟨e', he'⟩ := not_forall_not.1 hclear
      exact ⟨e', [], t, before ++ s :: after, rfl, by simpa using he', by simp⟩

theorem LeftmostDefect.defective {ss : List (List Char)} {e : DirectiveError}
    (h : LeftmostDefect earlier ss e) : Defective earlier ss := by
  obtain ⟨before, s, after, hss, hdefect, -⟩ := h
  exact ⟨before, s, after, e, hss, hdefect⟩

/-- Segments behind the leftmost defect do not change it. -/
theorem LeftmostDefect.append {ss : List (List Char)} {e : DirectiveError}
    (h : LeftmostDefect earlier ss e) (ts : List (List Char)) : LeftmostDefect earlier (ss ++ ts) e := by
  obtain ⟨before, s, after, rfl, hdefect, hclear⟩ := h
  exact ⟨before, s, after ++ ts, by simp, hdefect, hclear⟩

/-! ## Whole directives -/

theorem read_eq_error_iff {text : String} {e : DirectiveError} :
    read text = .error e ↔ readPairs text.toList = .error e := by
  rw [read]
  cases readPairs text.toList <;> simp [Except.map]

theorem Defect.ne {e : DirectiveError} (h : Defect earlier s e) :
    e ≠ .missingParens ∧ e ≠ .unterminatedQuote := by
  cases h <;> simp

/-- Parentheses and quotations are judged before the segments. -/
theorem readPairs_of_holds {text inner : List Char} (h : Holds inner text) :
    readPairs text ≠ .error .missingParens ∧
    (readPairs text = .error .unterminatedQuote ↔ State.outside.run inner ≠ .outside) := by
  simp only [readPairs, holds_iff.1 h, ← @split?_eq_none_iff ',']
  cases split? ',' inner with
  | none => simp
  | some ss =>
    dsimp only
    cases hread : readSegments [] ss with
    | error e =>
      obtain ⟨_, _, _, -, hdefect, -⟩ := (readSegments_eq_error_iff keysOf_nil).1 hread
      simpa using hdefect.ne
    | ok ps =>
      dsimp only
      split_ifs <;> simp

theorem solid_append (ss ts : List (List Char)) : solid (ss ++ ts) = solid ss ++ solid ts := by
  simp [solid]

/-- What reading gives for segments that come apart. -/
theorem readPairs_of_divided {text inner : List Char} {ss : List (List Char)} (htext : Holds inner text)
    (hss : Divided inner ss) :
    (∀ e, LeftmostDefect [] (solid ss) e → readPairs text = .error e) ∧
    (¬ Defective [] (solid ss) →
      (readPairs text = .error .missingType ↔ ∀ s ∈ solid ss, ¬ HasKey s "type".toList) ∧
      ((∃ s ∈ solid ss, HasKey s "type".toList) → ∃ ps, readPairs text = .ok ps)) := by
  simp only [readPairs, holds_iff.1 htext, divided_iff.1 hss]
  constructor
  · intro e he
    rw [(readSegments_eq_error_iff keysOf_nil).2 he]
  · intro hclear
    cases hread : readSegments [] ss with
    | error e => exact absurd ((readSegments_eq_error_iff keysOf_nil).1 hread).defective hclear
    | ok ps =>
      have hkeys : "type".toList ∈ ps.map (·.1) ↔ ∃ s ∈ solid ss, HasKey s "type".toList := by
        simpa using keysOf_nil.readSegments hread "type".toList
      dsimp only
      split_ifs with htype
      · rw [any_type_iff, hkeys] at htype
        refine ⟨⟨fun herror => ?_, fun hnone => absurd htype (by simpa using hnone)⟩, fun _ => ⟨ps, rfl⟩⟩
        cases herror
      · rw [any_type_iff, hkeys] at htype
        exact ⟨⟨fun _ => by simpa using htype, fun _ => rfl⟩, fun hsome => absurd hsome htype⟩

/-- What is reported. Missing parentheses come first, then a quotation that is left open anywhere
between them. Otherwise the segments come apart in one way and the leftmost defect is reported, also
when balanced text is added behind a comma; without a defect only the type can be missing. -/
theorem read_reports (text : String) :
    (read text = .error .missingParens ↔ ∀ inner, ¬ Holds inner text.toList) ∧
    ∀ inner, Holds inner text.toList →
      (read text = .error .unterminatedQuote ↔ State.outside.run inner ≠ .outside) ∧
      (State.outside.run inner = .outside → ∃ ss, Divided inner ss ∧ (∀ ss', Divided inner ss' → ss' = ss) ∧
        (Defective [] (solid ss) → (∃ e, LeftmostDefect [] (solid ss) e) ∧
          ∀ e, LeftmostDefect [] (solid ss) e → read text = .error e ∧
            ∀ more longer, balanced more = true → Holds (inner ++ ',' :: more) longer.toList →
              read longer = .error e) ∧
        (¬ Defective [] (solid ss) →
          (read text = .error .missingType ↔ ∀ s ∈ solid ss, ¬ HasKey s "type".toList) ∧
          ((∃ s ∈ solid ss, HasKey s "type".toList) → ∃ args, read text = .ok args))) := by
  simp only [read_eq_error_iff]
  constructor
  · constructor
    · intro h inner hinner
      exact (readPairs_of_holds hinner).1 h
    · intro h
      have hnone : inner? text.toList = none :=
        Option.eq_none_iff_forall_ne_some.2 fun inner hinner => h inner (holds_iff.2 hinner)
      rw [readPairs, hnone]
  · intro inner hinner
    refine ⟨(readPairs_of_holds hinner).2, fun hclosed => ?_⟩
    obtain ⟨ss, hss⟩ : ∃ ss, split? ',' inner = some ss :=
      Option.ne_none_iff_exists'.1 fun hnone => split?_eq_none_iff.1 hnone hclosed
    have hdivided := divided_iff.2 hss
    obtain ⟨hdefect, hclear⟩ := readPairs_of_divided hinner hdivided
    refine ⟨ss, hdivided, fun ss' => hdivided.unique, fun hdefective => ?_, fun hnone => ?_⟩
    · refine ⟨hdefective.leftmost, fun e he => ⟨hdefect e he, fun more longer hmore hlonger => ?_⟩⟩
      obtain ⟨ts, hts⟩ := hdivided.append hmore
      refine (readPairs_of_divided hlonger hts).1 e ?_
      rw [solid_append]
      exact he.append (solid ts)
    · obtain ⟨htype, hok⟩ := hclear hnone
      refine ⟨htype, fun hkey => ?_⟩
      obtain ⟨ps, hps⟩ := hok hkey
      exact ⟨ps.map fun p => (String.ofList p.1, String.ofList p.2), by rw [read, hps, Except.map]⟩

/-- The first defect is a key without a value, behind a blank segment. An empty key and a repeated key
come after it, a comma and an equals sign are quoted, and what is added has a defect of its own. -/
theorem read_reports_missing_equals :
    read "@Handler ( a = \"x,=\", , b , =1, a=2 )" = .error (.missingEquals "b") ∧
    read "@Handler( a = \"x,=\", , b , =1, a=2 ,=\",\",a=3)" = .error (.missingEquals "b") := by
  have hspace : Blank [' '] := by decide
  have htext : Holds " a = \"x,=\", , b , =1, a=2 ".toList
      "@Handler ( a = \"x,=\", , b , =1, a=2 )".toList :=
    ⟨marker, .inl rfl, [], [' '], [], blank_nil, hspace, blank_nil, by decide⟩
  have hlonger : Holds (" a = \"x,=\", , b , =1, a=2 ".toList ++ ',' :: "=\",\",a=3".toList)
      "@Handler( a = \"x,=\", , b , =1, a=2 ,=\",\",a=3)".toList :=
    ⟨marker, .inl rfl, [], [], [], blank_nil, blank_nil, blank_nil, by decide⟩
  obtain ⟨ss, -, hunique, hdefect, -⟩ := ((read_reports _).2 _ htext).2 (by decide)
  obtain rfl := hunique [" a = \"x,=\"".toList, " ".toList, " b ".toList, " =1".toList, " a=2 ".toList]
    ⟨by decide, by decide, by decide⟩
  have hleftmost : LeftmostDefect [] (solid [" a = \"x,=\"".toList, " ".toList, " b ".toList, " =1".toList,
      " a=2 ".toList]) (.missingEquals "b") := by
    refine ⟨["a = \"x,=\"".toList], "b".toList, ["=1".toList, "a=2".toList], by decide, ?_, ?_⟩
    · exact .equals (by decide)
    · intro b t a hb e he
      obtain ⟨rfl, rfl, -⟩ : b = [] ∧ t = "a = \"x,=\"".toList ∧ a = [] := by
        cases b with
        | nil => simpa [eq_comm] using hb
        | cons u b => simp at hb
      have hread := (readSegment_eq_error_iff keysOf_nil).2 he
      have hok : readSegment [] "a = \"x,=\"".toList = .ok ("a".toList, "\"x,=\"".toList) := rfl
      rw [hok] at hread
      cases hread
  obtain ⟨hread, hstays⟩ := (hdefect hleftmost.defective).2 _ hleftmost
  exact ⟨hread, hstays _ _ (by decide) hlonger⟩

end Registrar.Directive
