import Registrar.Proofs.DirectiveGrammar
/-!
# Directives with their segments in another order

What stands around the parentheses of a directive is read without a look between them (`Outer`), and
the segments between them are read one by one (`Segments.perm`). A directive whose segments change
places can therefore still be read, and has the same arguments in another order (`Rearranged.reads`).
-/
namespace Registrar.Directive
open Text Quoting

/-! ## Around the parentheses -/

/-- A text in parentheses, with the texts before and after them. -/
def around (p q inner : List Char) : List Char := p ++ '(' :: inner ++ ')' :: q

section Around
variable {p q : List Char} (inner : List Char)

theorem after?_around {word : List Char} (h : '(' ∉ word) :
    after? word (around p q inner) = (after? word p).map fun p' => around p' q inner := by
  simpa [around] using after?_append_cons (s := p) h (inner ++ ')' :: q)

theorem before?_around {word : List Char} (h : ')' ∉ word) :
    before? word (around p q inner) = (before? word q).map fun q' => around p q' inner := by
  simpa [around] using before?_append_cons (s := q) h (p ++ '(' :: inner)

theorem trimStart_around : trimStart (around p q inner) = around (trimStart p) q inner := by
  simpa [around, trimStart] using dropWhile_append_cons (by decide) p (inner ++ ')' :: q)

theorem trim_around : trim (around p q inner) = around (trimStart p) (trimEnd q) inner := by
  have hstart : (around p q inner).dropWhile isBlank = around (trimStart p) q inner :=
    trimStart_around inner
  have hend := dropEndWhile_append_cons (p := isBlank) (c := ')') (by decide) (trimStart p ++ '(' :: inner) q
  rw [trim, dropAround, hstart]
  simpa [around, trimEnd] using hend

/-- The parentheses around a text are the first and the last one. -/
theorem eq_of_cut_parens {z : List Char} (hp : '(' ∉ p) (hq : ')' ∉ q)
    (h : (after? ['('] (around p q inner)).bind (before? [')']) = some z) : p = [] ∧ q = [] := by
  have hwhole : around p q inner = '(' :: z ++ [')'] := cut_parens_eq_some h
  constructor
  · cases p with
    | nil => rfl
    | cons c p =>
      have hc : c = '(' := (List.cons.inj hwhole).1
      exact absurd (hc ▸ List.mem_cons_self) hp
  · have hlast : (around p q inner).getLast? = some ')' := by rw [hwhole, List.getLast?_concat]
    cases hq' : q.getLast? with
    | none => exact List.getLast?_eq_none_iff.1 hq'
    | some c =>
      have hsplit : around p q inner = (p ++ '(' :: inner ++ [')']) ++ q := by simp [around]
      have hc : (around p q inner).getLast? = some c := by
        rw [hsplit, List.getLast?_append, hq', Option.some_or]
      rw [hlast] at hc
      exact absurd (List.mem_of_getLast? hq') (Option.some.inj hc ▸ hq)

end Around

theorem not_mem_of_after? {c : Char} {word s r : List Char} (h : after? word s = some r)
    (hs : c ∉ s) : c ∉ r := by
  rw [after?_eq_some_iff.1 h] at hs
  exact fun hr => hs (List.mem_append_right _ hr)

theorem not_mem_of_before? {c : Char} {word s r : List Char} (h : before? word s = some r)
    (hs : c ∉ s) : c ∉ r := by
  rw [before?_eq_some_iff.1 h] at hs
  exact fun hr => hs (List.mem_append_left _ hr)

/-- What the function does to a text in parentheses it does around the parentheses. -/
def Outer (f : List Char → List Char) : Prop :=
  ∀ p q, '(' ∉ p → ')' ∉ q → ∃ p' q', '(' ∉ p' ∧ ')' ∉ q' ∧
    ∀ inner, f (around p q inner) = around p' q' inner

theorem outer_trimStart : Outer trimStart := by
  intro p q hp hq
  refine ⟨trimStart p, q, fun h => hp ?_, hq, fun inner => trimStart_around inner⟩
  exact (List.dropWhile_sublist _).subset h

theorem outer_trim : Outer trim := by
  intro p q hp hq
  refine ⟨trimStart p, trimEnd q, fun h => hp ?_, fun h => hq ?_, fun inner => trim_around inner⟩
  · exact (List.dropWhile_sublist _).subset h
  · exact List.mem_reverse.1 ((List.dropWhile_sublist _).subset (List.mem_reverse.1 h))

theorem outer_stripComment : Outer stripComment := by
  intro p q hp hq
  obtain ⟨p₁, q₁, hp₁, hq₁, htrim⟩ := outer_trim p q hp hq
  simp only [stripComment, htrim, after?_around _ (show '(' ∉ ['/', '/'] by decide),
    after?_around _ (show '(' ∉ ['/', '*'] by decide)]
  cases hline : after? ['/', '/'] p₁ with
  | some p₂ => exact outer_trimStart p₂ q₁ (not_mem_of_after? hline hp₁) hq₁
  | none =>
    cases hblock : after? ['/', '*'] p₁ with
    | some p₂ =>
      have hp₂ := not_mem_of_after? hblock hp₁
      simp only [Option.map_none, Option.map_some, before?_around _ (show ')' ∉ ['*', '/'] by decide)]
      cases hend : before? ['*', '/'] q₁ with
      | some q₂ => exact outer_trim p₂ q₂ hp₂ (not_mem_of_before? hend hq₁)
      | none => exact outer_trim p₂ q₁ hp₂ hq₁
    | none => exact ⟨p₁, q₁, hp₁, hq₁, fun inner => rfl⟩

/-- The part of a directive after its marker. -/
theorem outer_body : Outer fun text => trim ((after? marker (trim text)).getD text) := by
  intro p q hp hq
  obtain ⟨p₁, q₁, hp₁, hq₁, htrim⟩ := outer_trim p q hp hq
  simp only [htrim, after?_around _ (show '(' ∉ marker by decide)]
  cases hmarker : after? marker p₁ with
  | some p₂ => exact outer_trim p₂ q₁ (not_mem_of_after? hmarker hp₁) hq₁
  | none => exact outer_trim p q hp hq

theorem text?_eq (line : List Char) :
    text? line = (after? marker (stripComment line)).map fun _ => stripComment line := by
  rw [text?]
  split
  · rename_i h
    obtain ⟨r, hr⟩ := List.isPrefixOf_iff_prefix.1 h
    rw [after?_eq_some_iff.2 hr.symm, Option.map_some]
  · rename_i h
    cases hmarker : after? marker (stripComment line) with
    | none => rfl
    | some r => exact absurd (List.isPrefixOf_iff_prefix.2 ⟨r, (after?_eq_some_iff.1 hmarker).symm⟩) h

/-- A line that holds a directive holds one whatever stands between the parentheses. -/
theorem inner?_text?_around {p q inner t z : List Char} (hp : '(' ∉ p) (hq : ')' ∉ q)
    (htext : text? (around p q inner) = some t) (hinner : inner? t = some z) :
    z = inner ∧ ∀ other, ∃ t', text? (around p q other) = some t' ∧ inner? t' = some other := by
  obtain ⟨p₁, q₁, hp₁, hq₁, hstrip⟩ := outer_stripComment p q hp hq
  obtain ⟨p₂, q₂, hp₂, hq₂, hbody⟩ := outer_body p₁ q₁ hp₁ hq₁
  simp only [text?_eq, hstrip, after?_around _ (show '(' ∉ marker by decide), Option.map_map,
    Function.comp_def] at htext ⊢
  obtain ⟨r, hmarker, rfl⟩ := Option.map_eq_some_iff.1 htext
  simp only [inner?, hbody] at hinner
  obtain ⟨rfl, rfl⟩ := eq_of_cut_parens inner hp₂ hq₂ hinner
  have hcut : ∀ other, inner? (around p₁ q₁ other) = some other := by
    intro other
    simp only [inner?, hbody]
    exact cut_parens other
  refine ⟨?_, fun other => ⟨around p₁ q₁ other, by rw [hmarker]; rfl, hcut other⟩⟩
  have hself := hcut inner
  simp only [inner?, hbody, hinner] at hself
  exact Option.some.inj hself

/-! ## Segments -/

/-- Segments in another order hold the arguments in another order. -/
theorem Segments.perm {ps : List Pair} {ss ss' : List (List Char)} (h : Segments ps ss)
    (hperm : ss.Perm ss') : ∃ ps', ps.Perm ps' ∧ Segments ps' ss' := by
  induction hperm generalizing ps with
  | nil => exact ⟨ps, .refl _, h⟩
  | cons s _ ih =>
    cases h with
    | blank hb h =>
      obtain ⟨ps', hps, h'⟩ := ih h
      exact ⟨ps', hps, .blank hb h'⟩
    | pair ha hb hc hd h =>
      obtain ⟨ps', hps, h'⟩ := ih h
      exact ⟨_, hps.cons _, .pair ha hb hc hd h'⟩
  | swap s t ss =>
    cases h with
    | blank hb h =>
      cases h with
      | blank hb' h => exact ⟨_, .refl _, .blank hb' (.blank hb h)⟩
      | pair ha' hb' hc' hd' h => exact ⟨_, .refl _, .pair ha' hb' hc' hd' (.blank hb h)⟩
    | pair ha hb hc hd h =>
      cases h with
      | blank hb' h => exact ⟨_, .refl _, .blank hb' (.pair ha hb hc hd h)⟩
      | pair ha' hb' hc' hd' h =>
        exact ⟨_, .swap _ _ _, .pair ha' hb' hc' hd' (.pair ha hb hc hd h)⟩
  | trans _ _ ih ih' =>
    obtain ⟨ps', hps, h'⟩ := ih h
    obtain ⟨ps'', hps', h''⟩ := ih' h'
    exact ⟨ps'', hps.trans hps', h''⟩

theorem WellFormed.perm {ps ps' : List Pair} (h : WellFormed ps) (hperm : ps.Perm ps') :
    WellFormed ps' where
  sound p hp := h.sound p (hperm.mem_iff.2 hp)
  distinct := (hperm.map _).nodup_iff.1 h.distinct
  typed := (hperm.map _).mem_iff.1 h.typed

/-- Directives whose segments are the same up to their order have the same arguments up to their
order. -/
theorem readPairs_perm {t t' inner : List Char} {ss ss' : List (List Char)} {ps : List Pair}
    (hread : readPairs t = .ok ps) (hinner : inner? t = some inner) (hsplit : split? ',' inner = some ss)
    (hperm : ss.Perm ss') (hinner' : inner? t' = some ([','].intercalate ss')) :
    ∃ ps', ps.Perm ps' ∧ readPairs t' = .ok ps' := by
  obtain ⟨hne, -, hss⟩ := split?_spec (by decide) hsplit
  have hne' : ss' ≠ [] := fun h => hne (h ▸ hperm).eq_nil
  have hss' : ∀ s ∈ ss', balanced s = true ∧ Free ',' s := fun s hs => hss s (hperm.mem_iff.2 hs)
  obtain ⟨hwf, -⟩ := written_of_readPairs hread
  simp only [readPairs, hinner, hsplit] at hread
  cases hsegments : readSegments [] ss with
  | error e => rw [hsegments] at hread; cases hread
  | ok out =>
    have hout : out = ps := by
      rw [hsegments] at hread
      dsimp only at hread
      split at hread
      · exact Except.ok.inj hread
      · cases hread
    subst hout
    obtain ⟨ps, rfl, hlaid, -, -⟩ := segments_of_readSegments hsegments hss (by simp)
    obtain ⟨ps', hps, hlaid'⟩ := hlaid.perm hperm
    have hwf' : WellFormed ps' := hwf.perm hps
    have hread' := readSegments_of_segments hlaid' [] hwf'.sound (by simpa using hwf'.distinct)
    rw [List.nil_append] at hread'
    refine ⟨ps', hps, ?_⟩
    simp only [readPairs, hinner', split?_join hne' (by decide) hss', hread', any_type_iff.2 hwf'.typed,
      if_true]

/-! ## Lines -/

/-- The line holds a directive that can be read, with its text and its arguments. -/
def Reads (line : String) (t : List Char) (args : List (String × String)) : Prop :=
  text? line.toList = some t ∧ read (String.ofList t) = .ok args

/-- A line, or a line that holds a directive which can be read, with the segments between the first and
the last parenthesis in another order. -/
inductive Rearranged : String → String → Prop
  | same (line : String) : Rearranged line line
  | segments {p q inner : List Char} {ss ss' : List (List Char)} {t : List Char}
      {args : List (String × String)} : '(' ∉ p → ')' ∉ q →
      Reads (String.ofList (around p q inner)) t args → split? ',' inner = some ss → ss.Perm ss' →
      Rearranged (String.ofList (around p q inner)) (String.ofList (around p q ([','].intercalate ss')))

/-- A rearranged directive can be read, and has the same arguments in another order. -/
theorem Rearranged.reads {line line' : String} (h : Rearranged line line') : line = line' ∨
    ∃ t args t' args', Reads line t args ∧ Reads line' t' args' ∧ args.Perm args' := by
  cases h with
  | same => exact .inl rfl
  | @segments p q inner ss ss' t args hp hq hreads hsplit hperm =>
    obtain ⟨htext, hread⟩ := hreads
    have hpairs := read_eq_ok_iff.1 hread
    rw [String.toList_ofList] at htext hpairs
    obtain ⟨z, hz⟩ : ∃ z, inner? t = some z := by
      cases hinner : inner? t with
      | none => rw [readPairs, hinner] at hpairs; cases hpairs
      | some z => exact ⟨z, rfl⟩
    obtain ⟨rfl, hother⟩ := inner?_text?_around hp hq htext hz
    obtain ⟨t', htext', hinner'⟩ := hother ([','].intercalate ss')
    obtain ⟨ps', hps, hpairs'⟩ := readPairs_perm hpairs hz hsplit hperm hinner'
    refine .inr ⟨t, args, t', ps'.map fun x => (String.ofList x.1, String.ofList x.2), ⟨?_, hread⟩,
      ⟨?_, ?_⟩, ?_⟩
    · rw [String.toList_ofList]
      exact htext
    · rw [String.toList_ofList]
      exact htext'
    · rw [read, String.toList_ofList, hpairs']
      rfl
    · have hback := hps.map fun x : Pair => (String.ofList x.1, String.ofList x.2)
      simpa [chars, Function.comp_def] using hback

end Registrar.Directive
