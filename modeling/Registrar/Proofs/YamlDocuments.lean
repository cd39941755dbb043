import Registrar.Proofs.YamlMapping
/-!
# Documents that are written and read

A document of an entry and a mapping under a name, written line by line, is read back as its entries.
-/
namespace Registrar.Yaml

/-- The key and the value of an entry as nodes. -/
def Entry.nodes (e : Entry) : Node × Node :=
  (.scalar .plain .none (String.ofList e.key), .scalar e.style .none (String.ofList e.text))

theorem length_tokens (entries : List Entry) : (entries.flatMap Entry.tokens).length = 4 * entries.length := by
  induction entries with
  | nil => rfl
  | cons e entries ih =>
    rw [List.flatMap_cons, List.length_append, ih, List.length_cons, Entry.tokens]
    simp only [List.length_cons, List.length_nil]
    omega

namespace Loader
variable (handles : Handles) (anchors : Anchors)

theorem node_scalar (n : Nat) (style : Style) (text : String) (ts : List Token) :
    node handles true (n + 2) { tokens := .scalar style text :: ts, anchors } =
      .ok (.scalar style .none text, { tokens := ts, anchors }) := by
  simp [node, properties, content, scalarTag, Except.map]

theorem blockEntries_scalar (n : Nat) (es : List (Node × Node)) (e : Entry) (ts : List Token) :
    blockEntries handles (n + 5) es { tokens := e.tokens ++ ts, anchors } =
      blockEntries handles (n + 4) (e.nodes :: es) { tokens := ts, anchors } := by
  rw [Entry.tokens, blockEntries]
  simp [nodeUnless, valueUnless, nextIs, node_scalar, Entry.nodes]

theorem blockEntries_scalars (n : Nat) (es : List (Node × Node)) (entries : List Entry) (ts : List Token) :
    blockEntries handles (n + entries.length + 5) es
        { tokens := entries.flatMap Entry.tokens ++ .mappingEnd :: ts, anchors } =
      .ok (es.reverse ++ entries.map Entry.nodes, { tokens := ts, anchors }) := by
  induction entries generalizing es with
  | nil => simp [blockEntries]
  | cons e entries ih =>
    rw [List.flatMap_cons, List.append_assoc, List.length_cons, ← Nat.add_assoc, Nat.add_right_comm _ 1,
      blockEntries_scalar, ih]
    simp

theorem node_mapping (n : Nat) (entries : List Entry) (ts : List Token) :
    node handles true (n + entries.length + 7)
        { tokens := .mappingStart :: (entries.flatMap Entry.tokens ++ .mappingEnd :: ts), anchors } =
      .ok (.mapping .none (entries.map Entry.nodes), { tokens := ts, anchors }) := by
  simp [node, properties, content, blockEntries_scalars, Except.map]

theorem blockEntries_mapping (n : Nat) (es : List (Node × Node)) (name : List Char) (entries : List Entry)
    (ts : List Token) :
    blockEntries handles (n + entries.length + 10) es
        { tokens := .key :: .scalar .plain (String.ofList name) :: .value :: .mappingStart ::
            (entries.flatMap Entry.tokens ++ .mappingEnd :: ts), anchors } =
      blockEntries handles (n + entries.length + 9)
        ((.scalar .plain .none (String.ofList name), .mapping .none (entries.map Entry.nodes)) :: es)
        { tokens := ts, anchors } := by
  rw [blockEntries]
  simp [nodeUnless, valueUnless, nextIs, node_scalar, node_mapping]

end Loader

/-- A text whose only line ends are line feeds is read as it is. -/
theorem unifyBreaks_eq {s : List Char} (h : ∀ c ∈ s, IsAscii c ∨ c = '\n') : unifyBreaks s = s := by
  induction s with
  | nil => rfl
  | cons c s ih =>
    obtain ⟨hc, hs⟩ := List.forall_mem_cons.1 h
    have hreturn : c ≠ '\r' := by
      rcases hc with hc | rfl
      · exact hc.ne_of_lt (by decide)
      · decide
    have hnext : c ≠ '\u0085' := by
      rcases hc with hc | rfl
      · exact hc.ne_of_gt (by decide)
      · decide
    rw [unifyBreaks, ih hs]
    · simp [hreturn, hnext]
    · exact fun _ he => absurd he hreturn

namespace Section

/-- The document of a section. -/
def document (s : Section) : Document :=
  { root := .mapping .none
      [s.top.nodes, (.scalar .plain .none (String.ofList s.name), .mapping .none (s.entries.map Entry.nodes))] }

theorem ofTokens_tokens (s : Section) : Document.ofTokens s.tokens = .ok (some s.document) := by
  have htokens : s.tokens = .mappingStart :: (s.top.tokens ++ (.key ::
      .scalar .plain (String.ofList s.name) :: .value :: .mappingStart ::
      (s.entries.flatMap Entry.tokens ++ .mappingEnd :: [.mappingEnd]))) := by simp [tokens]
  -- the steps that the loader is given are enough for both mappings, whatever is left over
  obtain ⟨n, hn⟩ : ∃ n, 4 * s.tokens.length + 4 = n + s.entries.length + 13 := by
    refine ⟨4 * s.tokens.length + 4 - s.entries.length - 13, ?_⟩
    simp only [htokens, List.length_cons, List.length_append, length_tokens]
    omega
  have hroot : Loader.node defaultHandles true (n + s.entries.length + 13) { tokens := s.tokens } =
      .ok (s.document.root, { tokens := [] }) := by
    have hentries : Loader.blockEntries defaultHandles (n + s.entries.length + 11) []
        { tokens := s.top.tokens ++ (.key :: .scalar .plain (String.ofList s.name) :: .value :: .mappingStart ::
          (s.entries.flatMap Entry.tokens ++ .mappingEnd :: [.mappingEnd])) } =
        .ok ([s.top.nodes, (.scalar .plain .none (String.ofList s.name),
          .mapping .none (s.entries.map Entry.nodes))], { tokens := [] }) := by
      rw [Loader.blockEntries_scalar, Loader.blockEntries_mapping, Loader.blockEntries]
      rfl
    rw [htokens]
    simp [Loader.node, Loader.properties, Loader.content, hentries, Except.map, document]
  rw [Document.ofTokens]
  · rw [hn, Document.ofLoader, hroot]
    rfl
  all_goals simp [htokens]

/-! ## Text -/

theorem chars_of_line {e : Entry} (he : e.Valid) (width : Nat) :
    ∀ c ∈ e.line width, IsAscii c ∨ c = '\n' := by
  have hspace : IsAscii ' ' := ⟨by decide, by decide⟩
  have hcolon : IsAscii ':' := ⟨by decide, by decide⟩
  intro c hc
  simp only [Entry.line, List.mem_append, List.mem_cons] at hc
  rcases hc with hc | hc | rfl | rfl | hc | hc
  · exact .inl (List.eq_of_mem_replicate hc ▸ hspace)
  · exact .inl (he.key.ascii c hc)
  · exact .inl hcolon
  · exact .inl hspace
  · exact .inl (he.text.ascii width c hc)
  · exact .inr (hc.resolve_right List.not_mem_nil)

theorem chars_of_text {s : Section} (h : s.Valid) : ∀ c ∈ s.text, IsAscii c ∨ c = '\n' := by
  intro c hc
  simp only [text, List.mem_append, List.mem_cons, List.mem_flatMap] at hc
  rcases hc with hc | hc | rfl | rfl | ⟨e, he, hc⟩
  · exact chars_of_line h.top 0 c hc
  · exact .inl (h.name.ascii c hc)
  · exact .inl ⟨by decide, by decide⟩
  · exact .inr rfl
  · exact chars_of_line (h.entries e he) 2 c hc

/-- A section that has been written is read as its document. -/
theorem read_text {s : Section} (h : s.Valid) {text : String} (htext : text.toList = s.text) :
    read text = .ok (some s.document) := by
  have hchars := chars_of_text h
  have hallowed : s.text.find? (!isAllowed ·) = none := by
    rw [List.find?_eq_none]
    intro c hc
    rcases hchars c hc with hascii | rfl
    · simp [hascii.isAllowed]
    · decide
  have htokens : Token.ofText s.text = .ok s.tokens.toArray := by
    obtain ⟨n, hn⟩ := Nat.le.dest (steps_le_length h)
    rw [Token.ofText, unifyBreaks_eq hchars, Spot.length_placeFrom, ← hn, Nat.add_comm]
    exact run_spots h n
  rw [read, htext, hallowed, htokens]
  exact ofTokens_tokens s

end Section
end Registrar.Yaml
