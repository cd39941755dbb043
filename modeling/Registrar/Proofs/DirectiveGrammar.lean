import Registrar.Directive.Reader
import Registrar.Proofs.Quoting
/-!
# The grammar of directives

`WellFormed` says which lists of arguments a directive can hold, and `Written` how a list is laid
out as text: blanks around every part, and any number of blank segments between commas. Reading
accepts exactly the layouts of well-formed lists and gives back the list
(`read_iff_written`); the same holds for a directive inside a comment, and for the plain
layout of what was read.
-/
namespace Registrar.Directive
open Text Quoting

/-! ## Well-formed arguments -/

/-- A key and a value that can be told apart from what stands around them. -/
structure Sound (p : Pair) : Prop where
  key_nonempty : p.1 ≠ []
  key_trimmed : trim p.1 = p.1
  key_balanced : balanced p.1 = true
  key_comma : Free ',' p.1
  key_equals : Free '=' p.1
  value_trimmed : trim p.2 = p.2
  value_balanced : balanced p.2 = true
  value_comma : Free ',' p.2

/-- The arguments of a directive: sound, under different keys, and one of them is the type. -/
structure WellFormed (ps : List Pair) : Prop where
  sound : ∀ p ∈ ps, Sound p
  distinct : (ps.map (·.1)).Nodup
  typed : "type".toList ∈ ps.map (·.1)

/-! ## Layouts -/

/-- The segments between the commas: one for each argument in order, and blank ones anywhere. -/
inductive Segments : List Pair → List (List Char) → Prop
  | nil : Segments [] []
  | blank {ps ss b} : Blank b → Segments ps ss → Segments ps (b :: ss)
  | pair {p ps ss a b c d} : Blank a → Blank b → Blank c → Blank d → Segments ps ss →
      Segments (p :: ps) ((a ++ p.1 ++ b ++ '=' :: (c ++ p.2 ++ d)) :: ss)

/-- A text in parentheses after a word, with blanks around both. -/
def Enclosed (word inner text : List Char) : Prop :=
  ∃ a b c, Blank a ∧ Blank b ∧ Blank c ∧ text = a ++ word ++ b ++ '(' :: inner ++ ')' :: c

/-- A directive with its arguments laid out, after a word. -/
def Written (word : List Char) (ps : List Pair) (text : List Char) : Prop :=
  ∃ ss, Segments ps ss ∧ Enclosed word ([','].intercalate ss) text

/-- A comment line that holds a text, or the text alone. -/
inductive Comment (text : List Char) : List Char → Prop
  | bare : Comment text text
  | line {a b} : Blank a → Blank b → Comment text (a ++ ['/', '/'] ++ b ++ text)
  | block {a b c d} : Blank a → Blank b → Blank c → Blank d →
      Comment text (a ++ ['/', '*'] ++ b ++ text ++ c ++ ['*', '/'] ++ d)

/-! ## The parentheses -/

theorem trim_of_ends {c d : Char} (hc : isBlank c = false) (hd : isBlank d = false) (s : List Char) :
    trim (c :: s ++ [d]) = c :: s ++ [d] := by
  refine trim_eq_self_iff.2 ⟨?_, ?_⟩
  · rw [List.cons_append]
    exact solid_cons hc _
  · rw [List.reverse_append]
    exact solid_cons hd _

theorem trim_parens (inner : List Char) : trim ('(' :: inner ++ [')']) = '(' :: inner ++ [')'] :=
  trim_of_ends (by decide) (by decide) inner

theorem marker_eq : marker = '@' :: "Handler".toList := rfl

theorem trim_marked (b inner : List Char) :
    trim (marker ++ b ++ '(' :: inner ++ [')']) = marker ++ b ++ '(' :: inner ++ [')'] :=
  trim_of_ends (c := '@') (by decide) (by decide) ("Handler".toList ++ b ++ '(' :: inner)

theorem cut_parens (inner : List Char) :
    (after? ['('] ('(' :: inner ++ [')'])).bind (before? [')']) = some inner := by
  rw [show '(' :: inner ++ [')'] = ['('] ++ (inner ++ [')']) from rfl, after?_append,
    Option.bind_some, before?_append]

theorem cut_parens_eq_some {body inner : List Char}
    (h : (after? ['('] body).bind (before? [')']) = some inner) : body = '(' :: inner ++ [')'] := by
  obtain ⟨rest, hafter, hbefore⟩ := Option.bind_eq_some_iff.1 h
  rw [after?_eq_some_iff.1 hafter, before?_eq_some_iff.1 hbefore]
  rfl

theorem inner?_of_enclosed {word inner text : List Char} (hword : word = marker ∨ word = [])
    (h : Enclosed word inner text) : inner? text = some inner := by
  obtain ⟨a, b, c, ha, hb, hc, rfl⟩ := h
  rcases hword with rfl | rfl
  · -- after the marker the rest is trimmed once more
    have htrim := trim_append ha hc (trim_marked b inner)
    have hbody := trim_append hb blank_nil (trim_parens inner)
    simp only [List.append_assoc, List.cons_append, List.nil_append, List.append_nil] at htrim hbody ⊢
    simp only [inner?, htrim, after?_append, Option.getD_some, hbody]
    exact cut_parens inner
  · have htrim := trim_append (ha.append hb) hc (trim_parens inner)
    have hnone : after? marker ('(' :: inner ++ [')']) = none := rfl
    simp only [List.append_assoc, List.cons_append, List.nil_append, List.append_nil] at htrim hnone ⊢
    simp only [inner?, htrim, hnone, Option.getD_none]
    exact cut_parens inner

theorem enclosed_of_inner? {inner text : List Char} (h : inner? text = some inner) :
    ∃ word, (word = marker ∨ word = []) ∧ Enclosed word inner text := by
  have hbody := cut_parens_eq_some h
  obtain ⟨a, c, ha, hc, htext⟩ := trim_spec text
  cases hafter : after? marker (trim text) with
  | some rest =>
    rw [hafter, Option.getD_some] at hbody
    obtain ⟨b, d, hb, hd, hrest⟩ := trim_spec rest
    refine ⟨marker, .inl rfl, a, b, d ++ c, ha, hb, hd.append hc, ?_⟩
    rw [htext, after?_eq_some_iff.1 hafter, hrest, hbody]
    simp only [List.append_assoc, List.cons_append, List.nil_append]
  | none =>
    rw [hafter, Option.getD_none] at hbody
    refine ⟨[], .inr rfl, a, [], c, ha, blank_nil, hc, ?_⟩
    rw [htext, hbody]
    simp only [List.append_assoc, List.cons_append, List.nil_append, List.append_nil]

/-! ## Segments -/

/-- A segment without the blanks around it: those after the value go, those after the key stay. -/
theorem trim_segment {p : Pair} (hp : Sound p) {a b c d : List Char} (ha : Blank a) (hc : Blank c)
    (hd : Blank d) :
    ∃ w, trim (a ++ p.1 ++ b ++ '=' :: (c ++ p.2 ++ d)) = p.1 ++ b ++ '=' :: w ∧ trim w = p.2 := by
  obtain ⟨w, e, he, hw, hend⟩ := trimEnd_spec (c ++ p.2 ++ d)
  refine ⟨w, ?_, ?_⟩
  · have hcore : trim (p.1 ++ b ++ '=' :: w) = p.1 ++ b ++ '=' :: w := by
      refine trim_eq_self_iff.2 ⟨?_, ?_⟩
      · rw [List.append_assoc]
        exact (trim_eq_self_iff.1 hp.key_trimmed).1.append hp.key_nonempty _
      · rw [List.reverse_append, List.reverse_cons, List.append_assoc]
        cases hr : w.reverse with
        | nil => exact solid_cons (by decide) _
        | cons x xs => exact (hr ▸ hend).append (by simp) _
    have h := trim_append ha he hcore
    rw [hw]
    simp only [List.append_assoc, List.cons_append] at h ⊢
    exact h
  · rw [← trim_append_blank w he, ← hw]
    exact trim_append hc hd hp.value_trimmed

theorem readSegment_of_sound {seen : List Pair} {p : Pair} (hp : Sound p) (hseen : p.1 ∉ seen.map (·.1))
    {b w : List Char} (hb : Blank b) (hw : trim w = p.2) :
    readSegment seen (p.1 ++ b ++ '=' :: w) = .ok p := by
  have hbal : balanced (p.1 ++ b) = true := by
    rw [balanced_append hp.key_balanced]
    exact balanced_blank hb
  have hfree : Free '=' (p.1 ++ b) := freeFrom_append.2 ⟨hp.key_equals, freeFrom_blank (by decide) hb⟩
  have hkey : trim (p.1 ++ b) = p.1 := trim_append blank_nil hb hp.key_trimmed
  have hany : (seen.any fun q => q.1 == p.1) = false := by
    rw [List.any_eq_false]
    intro q hq he
    exact hseen (List.mem_map.2 ⟨q, hq, by simpa using he⟩)
  have hne : p.1.isEmpty = false := by simpa using hp.key_nonempty
  have hdrop : (p.1 ++ b ++ '=' :: w).drop ((p.1 ++ b).length + 1) = w := by
    rw [← List.drop_drop, List.drop_left]
    rfl
  simp only [readSegment, firstOutside?_append hbal hfree, List.take_left, hkey, hne, hany, hdrop, hw,
    Bool.false_eq_true, if_false]

/-- Reading gives the laid out arguments back, after those read before. -/
theorem readSegments_of_segments {ps : List Pair} {ss : List (List Char)} (h : Segments ps ss)
    (seen : List Pair) (hsound : ∀ p ∈ ps, Sound p) (hn : ((seen ++ ps).map (·.1)).Nodup) :
    readSegments seen ss = .ok (seen ++ ps) := by
  induction h generalizing seen with
  | nil => simp [readSegments]
  | blank hb _ ih =>
    simp only [readSegments, trim_of_blank hb, List.isEmpty_nil, if_true]
    exact ih seen hsound hn
  | @pair p ps ss a b c d ha hb hc hd _ ih =>
    have hp := hsound p List.mem_cons_self
    obtain ⟨w, htrim, hw⟩ := trim_segment (b := b) hp ha hc hd
    have hseen : p.1 ∉ seen.map (·.1) := by
      intro hmem
      rw [List.map_append, List.map_cons, List.nodup_append] at hn
      exact hn.2.2 _ hmem _ List.mem_cons_self rfl
    have hne : (p.1 ++ b ++ '=' :: w).isEmpty = false := by simp
    simp only [readSegments, htrim, hne, Bool.false_eq_true, if_false,
      readSegment_of_sound hp hseen hb hw]
    rw [ih (seen ++ [p]) (fun q hq => hsound q (List.mem_cons_of_mem _ hq)) (by simpa using hn)]
    simp

/-- What is read from a segment is sound and new, and the segment is a layout of it. -/
theorem readSegment_spec {seen : List Pair} {s : List Char} {p : Pair} (h : readSegment seen s = .ok p)
    (hbal : balanced s = true) (hfree : Free ',' s) :
    Sound p ∧ p.1 ∉ seen.map (·.1) ∧
      ∃ a b c d, Blank a ∧ Blank b ∧ Blank c ∧ Blank d ∧ s = a ++ p.1 ++ b ++ '=' :: (c ++ p.2 ++ d) := by
  rw [readSegment] at h
  split at h
  · cases h
  · rename_i n hn
    obtain ⟨u, w, rfl, rfl, hequals, hu⟩ := firstOutside?_spec hn
    have hdrop : (u ++ '=' :: w).drop (u.length + 1) = w := by
      rw [← List.drop_drop, List.drop_left]
      rfl
    simp only [List.take_left, hdrop] at h
    rw [balanced_append hu] at hbal
    obtain ⟨hcomma, hrest⟩ := freeFrom_append.1 hfree
    rw [balanced_iff.1 hu, freeFrom_cons] at hrest
    split at h
    · cases h
    · rename_i hkey
      split at h
      · cases h
      · rename_i hseen
        cases h
        obtain ⟨a, b, ha, hb, hua⟩ := trim_spec u
        obtain ⟨c, d, hc, hd, hwc⟩ := trim_spec w
        refine ⟨⟨by simpa using hkey, trim_trim u, ?_, Free.trim hcomma, hequals.trim, trim_trim w, ?_,
          Free.trim hrest.2⟩, ?_, a, b, c, d, ha, hb, hc, hd, ?_⟩
        · rw [balanced_trim]
          exact hu
        · rw [balanced_trim]
          exact hbal
        · intro hmem
          obtain ⟨q, hq, he⟩ := List.mem_map.1 hmem
          exact hseen (List.any_eq_true.2 ⟨q, hq, by simp [he]⟩)
        · rw [← hua, ← hwc]

theorem segments_of_readSegments {ss : List (List Char)} {seen out : List Pair}
    (h : readSegments seen ss = .ok out) (hss : ∀ s ∈ ss, balanced s = true ∧ Free ',' s)
    (hn : (seen.map (·.1)).Nodup) :
    ∃ ps, out = seen ++ ps ∧ Segments ps ss ∧ (∀ p ∈ ps, Sound p) ∧ (out.map (·.1)).Nodup := by
  induction ss generalizing seen with
  | nil =>
    cases h
    exact ⟨[], by simp, .nil, by simp, hn⟩
  | cons s ss ih =>
    have hrest : ∀ t ∈ ss, balanced t = true ∧ Free ',' t := fun t ht => hss t (List.mem_cons_of_mem _ ht)
    obtain ⟨hbal, hfree⟩ := hss s List.mem_cons_self
    obtain ⟨x, y, hx, hy, hs⟩ := trim_spec s
    simp only [readSegments] at h
    -- a segment is judged after trimming; its own blanks go to the layout
    split at h
    · rename_i hempty
      obtain ⟨ps, hout, hseg, hsound, hnd⟩ := ih h hrest hn
      have hblank : Blank s := by
        rw [hs, List.isEmpty_iff.1 hempty, List.append_nil]
        exact hx.append hy
      exact ⟨ps, hout, .blank hblank hseg, hsound, hnd⟩
    · cases hread : readSegment seen (trim s) with
      | error e => rw [hread] at h; cases h
      | ok p =>
        rw [hread] at h
        obtain ⟨hp, hnew, a, b, c, d, ha, hb, hc, hd, htrim⟩ :=
          readSegment_spec hread (by rw [balanced_trim]; exact hbal) hfree.trim
        have hn' : ((seen ++ [p]).map (·.1)).Nodup := by
          rw [List.map_append, List.nodup_append]
          refine ⟨hn, by simp, ?_⟩
          rintro k hk _ hmem rfl
          rw [List.map_cons, List.map_nil, List.mem_singleton] at hmem
          exact hnew (hmem ▸ hk)
        obtain ⟨ps, hout, hseg, hsound, hnd⟩ := ih h hrest hn'
        refine ⟨p :: ps, by simpa using hout, ?_, ?_, hnd⟩
        · have hlaid := Segments.pair (p := p) (hx.append ha) hb hc (hd.append hy) hseg
          rw [hs, htrim]
          simp only [List.append_assoc, List.cons_append] at hlaid ⊢
          exact hlaid
        · intro q hq
          rcases List.mem_cons.1 hq with rfl | hq
          · exact hp
          · exact hsound q hq

theorem Segments.balanced_free {ps : List Pair} {ss : List (List Char)} (h : Segments ps ss)
    (hsound : ∀ p ∈ ps, Sound p) : ∀ s ∈ ss, balanced s = true ∧ Free ',' s := by
  induction h with
  | nil => simp
  | blank hb _ ih =>
    intro s hs
    rcases List.mem_cons.1 hs with rfl | hs
    · exact ⟨balanced_blank hb, freeFrom_blank (by decide) hb⟩
    · exact ih hsound s hs
  | @pair p ps ss a b c d ha hb hc hd _ ih =>
    intro s hs
    rcases List.mem_cons.1 hs with rfl | hs
    · obtain ⟨-, -, hkb, hkc, -, -, hvb, hvc⟩ := hsound p List.mem_cons_self
      -- every part leaves the scan outside quotations, so the parts can be judged one by one
      have hkey : balanced (a ++ p.1 ++ b) = true := by
        rw [List.append_assoc, balanced_append (balanced_blank ha), balanced_append hkb]
        exact balanced_blank hb
      have hvalue : balanced (c ++ p.2 ++ d) = true := by
        rw [List.append_assoc, balanced_append (balanced_blank hc), balanced_append hvb]
        exact balanced_blank hd
      have hkeyFree : Free ',' (a ++ p.1 ++ b) := by
        simp only [Free, List.append_assoc, freeFrom_append, balanced_iff.1 (balanced_blank ha)]
        exact ⟨freeFrom_blank (by decide) ha, hkc, freeFrom_blank (by decide) hb⟩
      have hvalueFree : Free ',' (c ++ p.2 ++ d) := by
        simp only [Free, List.append_assoc, freeFrom_append, balanced_iff.1 (balanced_blank hc)]
        exact ⟨freeFrom_blank (by decide) hc, hvc, freeFrom_blank (by decide) hd⟩
      refine ⟨?_, freeFrom_append.2 ⟨hkeyFree, ?_⟩⟩
      · rw [balanced_append hkey]
        exact hvalue
      · rw [balanced_iff.1 hkey]
        exact freeFrom_cons.2 ⟨by decide, hvalueFree⟩
    · exact ih (fun q hq => hsound q (List.mem_cons_of_mem _ hq)) s hs

/-! ## Whole directives -/

theorem any_type_iff {ps : List Pair} :
    (ps.any fun p => p.1 == "type".toList) = true ↔ "type".toList ∈ ps.map (·.1) := by
  simp only [List.any_eq_true, beq_iff_eq, List.mem_map]

theorem readPairs_of_written {word text : List Char} {ps : List Pair}
    (hword : word = marker ∨ word = []) (hps : WellFormed ps) (h : Written word ps text) :
    readPairs text = .ok ps := by
  obtain ⟨ss, hseg, hin⟩ := h
  have hne : ss ≠ [] := by
    rintro rfl
    cases hseg
    simpa using hps.typed
  have hread := readSegments_of_segments hseg [] hps.sound (by simpa using hps.distinct)
  rw [List.nil_append] at hread
  simp only [readPairs, inner?_of_enclosed hword hin,
    split?_join hne (by decide) (hseg.balanced_free hps.sound), hread, any_type_iff.2 hps.typed, if_true]

theorem written_of_readPairs {text : List Char} {ps : List Pair} (h : readPairs text = .ok ps) :
    WellFormed ps ∧ ∃ word, (word = marker ∨ word = []) ∧ Written word ps text := by
  rw [readPairs] at h
  split at h
  · cases h
  · rename_i inner hinner
    split at h
    · cases h
    · rename_i ss hsplit
      split at h
      · cases h
      · rename_i out hout
        split at h
        · rename_i htype
          cases h
          obtain ⟨-, hjoin, hss⟩ := split?_spec (by decide) hsplit
          obtain ⟨ps, rfl, hseg, hsound, hn⟩ := segments_of_readSegments hout hss (by simp)
          obtain ⟨word, hword, hin⟩ := enclosed_of_inner? hinner
          exact ⟨⟨hsound, hn, any_type_iff.1 htype⟩, word, hword, ss, hseg, hjoin ▸ hin⟩
        · cases h

/-! ## Directives in comments -/

/-- A trimmed text that starts with the sign of a directive comes out of every comment around it. -/
theorem stripComment_of_comment {x y rest line : List Char} (hx : Blank x) (hy : Blank y)
    (hcore : trim ('@' :: rest) = '@' :: rest) (h : Comment (x ++ '@' :: rest ++ y) line) :
    stripComment line = '@' :: rest := by
  obtain ⟨hstart, hend⟩ := trim_eq_self_iff.1 hcore
  cases h with
  | bare =>
    simp only [stripComment, trim_append hx hy hcore]
    rfl
  | @line a b ha hb =>
    have htrim : trim (a ++ (['/', '/'] ++ b ++ x ++ '@' :: rest) ++ y) =
        ['/', '/'] ++ b ++ x ++ '@' :: rest := by
      refine trim_append ha hy (trim_eq_self_iff.2 ⟨solid_cons (by decide) _, ?_⟩)
      rw [List.reverse_append]
      exact hend.append (by simp) _
    have hrest := trimStart_append (hb.append hx) hstart
    simp only [List.append_assoc, List.cons_append, List.nil_append] at htrim hrest ⊢
    simp only [stripComment, htrim, after?, if_true]
    exact hrest
  | @block a b c d ha hb hc hd =>
    have htrim : trim (a ++ ('/' :: ('*' :: (b ++ x ++ '@' :: rest ++ y ++ c ++ ['*'])) ++ ['/']) ++ d) =
        '/' :: ('*' :: (b ++ x ++ '@' :: rest ++ y ++ c ++ ['*'])) ++ ['/'] :=
      trim_append ha hd (trim_of_ends (by decide) (by decide) _)
    have hbefore := before?_append (b ++ x ++ '@' :: rest ++ y ++ c) ['*', '/']
    have hinner := trim_append (hb.append hx) (hy.append hc) hcore
    have hslash : ('/' : Char) ≠ '*' := by decide
    simp only [List.append_assoc, List.cons_append, List.nil_append] at htrim hbefore hinner ⊢
    simp only [stripComment, htrim, after?, hslash, if_true, if_false, hbefore, Option.getD_some]
    exact hinner

/-- A written directive is found in a comment that holds it, still written. -/
theorem text?_of_comment {text line : List Char} {ps : List Pair} (h : Written marker ps text)
    (hline : Comment text line) : ∃ t, text? line = some t ∧ Written marker ps t := by
  obtain ⟨ss, hseg, a, b, c, ha, hb, hc, rfl⟩ := h
  refine ⟨marker ++ b ++ '(' :: [','].intercalate ss ++ [')'], ?_, ss, hseg, [], b, [], blank_nil, hb,
    blank_nil, rfl⟩
  have htext : a ++ marker ++ b ++ '(' :: [','].intercalate ss ++ ')' :: c =
      a ++ '@' :: ("Handler".toList ++ b ++ '(' :: [','].intercalate ss ++ [')']) ++ c := by
    rw [marker_eq]
    simp only [List.append_assoc, List.cons_append, List.nil_append]
  rw [htext] at hline
  have hstrip : stripComment line = marker ++ b ++ '(' :: [','].intercalate ss ++ [')'] :=
    stripComment_of_comment ha hc (trim_marked b ([','].intercalate ss)) hline
  rw [text?, hstrip]
  refine if_pos (List.isPrefixOf_iff_prefix.2 ⟨b ++ '(' :: [','].intercalate ss ++ [')'], ?_⟩)
  simp only [List.append_assoc]

/-! ## The plain layout -/

/-- The arguments in a row, each comma followed by one space. -/
def plain (ps : List Pair) : List Char :=
  marker ++ '(' :: [',', ' '].intercalate (ps.map fun p => p.1 ++ '=' :: p.2) ++ [')']

theorem join_space (s : List Char) (ss : List (List Char)) :
    [',', ' '].intercalate (s :: ss) = [','].intercalate (s :: ss.map (' ' :: ·)) := by
  induction ss generalizing s with
  | nil => rw [List.map_nil, join_singleton, join_singleton]
  | cons t ts ih =>
    rw [List.map_cons, join_cons_cons, join_cons_cons, join_cons_head, ih]
    simp

theorem segments_plain (ps : List Pair) : Segments ps (ps.map fun p => ' ' :: p.1 ++ '=' :: p.2) := by
  induction ps with
  | nil => exact .nil
  | cons p ps ih =>
    have hspace : Blank [' '] := by
      intro c hc
      rw [List.mem_singleton.1 hc]
      decide
    have h := Segments.pair (p := p) hspace blank_nil blank_nil blank_nil ih
    simpa using h

theorem written_plain {ps : List Pair} (hne : ps ≠ []) : Written marker ps (plain ps) := by
  cases ps with
  | nil => exact absurd rfl hne
  | cons p ps =>
    have hfirst := Segments.pair (p := p) blank_nil blank_nil blank_nil blank_nil (segments_plain ps)
    refine ⟨_, hfirst, [], [], [], blank_nil, blank_nil, blank_nil, ?_⟩
    rw [plain, List.map_cons, join_space, List.map_map]
    simp [Function.comp_def]

/-! ## Stored arguments -/

/-- The characters of stored arguments. -/
def chars (args : List (String × String)) : List Pair := args.map fun a => (a.1.toList, a.2.toList)

theorem read_eq_ok_iff {text : String} {args : List (String × String)} :
    read text = .ok args ↔ readPairs text.toList = .ok (chars args) := by
  rw [read]
  cases readPairs text.toList with
  | error e => simp [Except.map]
  | ok ps =>
    simp only [Except.map, Except.ok.injEq, chars]
    constructor
    · rintro rfl
      simp [List.map_map, Function.comp_def]
    · rintro rfl
      simp [List.map_map, Function.comp_def]

/-- Reading accepts exactly the written forms of well-formed arguments, with the marker or without
it, and gives the arguments back. A written directive is also found and read in a comment, and what
has been read can be written plainly and read again. -/
theorem read_iff_written (text : String) (args : List (String × String)) :
    (read text = .ok args ↔ WellFormed (chars args) ∧
      ∃ word, (word = marker ∨ word = []) ∧ Written word (chars args) text.toList) ∧
    (WellFormed (chars args) → Written marker (chars args) text.toList →
      ∀ line, Comment text.toList line →
        ∃ t, text? line = some t ∧ read (String.ofList t) = .ok args) ∧
    (read text = .ok args → read (String.ofList (plain (chars args))) = .ok args) := by
  refine ⟨⟨fun h => written_of_readPairs (read_eq_ok_iff.1 h), ?_⟩, ?_, ?_⟩
  · rintro ⟨hargs, word, hword, h⟩
    exact read_eq_ok_iff.2 (readPairs_of_written hword hargs h)
  · intro hargs h line hline
    obtain ⟨t, ht, hw⟩ := text?_of_comment h hline
    refine ⟨t, ht, read_eq_ok_iff.2 ?_⟩
    rw [String.toList_ofList]
    exact readPairs_of_written (.inl rfl) hargs hw
  · intro h
    obtain ⟨hargs, -⟩ := written_of_readPairs (read_eq_ok_iff.1 h)
    have hne : chars args ≠ [] := by
      intro hnil
      simpa [hnil] using hargs.typed
    refine read_eq_ok_iff.2 ?_
    rw [String.toList_ofList]
    exact readPairs_of_written (.inl rfl) hargs (written_plain hne)

/-- A comma, an equals sign and an escaped quote inside a quotation, and a blank segment. -/
theorem read_block_comment :
    ∃ t, text? "/* @Handler ( type=\"api\",, path = \"/a,b=\\\"c\" ) */".toList = some t ∧
      read (String.ofList t) = .ok [("type", "\"api\""), ("path", "\"/a,b=\\\"c\"")] := by
  have hargs : WellFormed (chars [("type", "\"api\""), ("path", "\"/a,b=\\\"c\"")]) := by
    refine ⟨?_, by decide, by decide⟩
    intro p hp
    rcases List.mem_cons.1 hp with rfl | hp
    · constructor <;> decide
    · obtain rfl := List.mem_singleton.1 hp
      constructor <;> decide
  have hspace : Blank [' '] := by decide
  have hseg : Segments (chars [("type", "\"api\""), ("path", "\"/a,b=\\\"c\"")])
      [" type=\"api\"".toList, [], " path = \"/a,b=\\\"c\" ".toList] :=
    .pair hspace blank_nil blank_nil blank_nil
      (.blank blank_nil (.pair hspace hspace hspace hspace .nil))
  exact (read_iff_written "@Handler ( type=\"api\",, path = \"/a,b=\\\"c\" )" _).2.1 hargs
    ⟨_, hseg, [], [' '], [], blank_nil, hspace, blank_nil, rfl⟩ _
    (.block blank_nil hspace hspace blank_nil)

end Registrar.Directive
