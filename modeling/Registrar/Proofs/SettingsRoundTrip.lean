import Registrar.Proofs.Tables
import Registrar.Proofs.YamlDocuments
import Registrar.Settings.Document
/-!
# Settings that are written and read

Settings whose texts are printable ASCII characters are written as a document that gives them back, whatever
the texts look like (`ofYaml_toYaml`). So a package that is set and one that is not are kept apart.
-/
namespace Registrar.Settings

open Yaml (Entry Node Document Style IsAsciiText IsWritten styleOf isWritten_styleOf)
open Yaml.Scanner (IsKey)

/-- A key with a text and its style. -/
structure Field where
  key : String
  style : Style
  text : String

namespace Field

/-- A text in the style that the writer chooses. -/
def ofText (key text : String) : Field := ⟨key, styleOf text, text⟩

def entry (f : Field) : Entry := ⟨f.key.toList, f.style, f.text.toList⟩

def value (f : Field) : String × Node := (f.key, .scalar f.style none f.text)

end Field

/-- The fields of the generator section as they are written. -/
def fields (s : Settings) : List Field :=
  [.ofText "include_pattern" s.includePattern, .ofText "exclude_pattern" s.excludePattern,
    .ofText "file_prefix" s.fileStem, ⟨"recursive", .plain, if s.recursive then "true" else "false"⟩,
    .ofText "framework_import" s.framework, .ofText "multipart_import" s.multipart,
    .ofText "formatter" s.formatter.name, .ofText "gofmt_path" s.gofmtPath] ++
    (s.package.map (.ofText "package")).toList

def written (s : Settings) : Yaml.Section :=
  ⟨Field.entry ⟨"version", .plain, "1"⟩, "generator".toList, s.fields.map Field.entry⟩

/-- All texts of the settings are printable ASCII characters. -/
structure IsAscii (s : Settings) : Prop where
  includePattern : IsAsciiText s.includePattern.toList
  excludePattern : IsAsciiText s.excludePattern.toList
  fileStem : IsAsciiText s.fileStem.toList
  framework : IsAsciiText s.framework.toList
  multipart : IsAsciiText s.multipart.toList
  gofmtPath : IsAsciiText s.gofmtPath.toList
  package : ∀ p, s.package = some p → IsAsciiText p.toList

theorem ascii_name (k : FormatterKind) : IsAsciiText k.name.toList := by
  cases k <;> simp [IsAsciiText, Yaml.IsAscii, FormatterKind.name]

/-! ## Writing -/

theorem toList_line (key : String) {text : String} (h : IsAsciiText text.toList) :
    (line key text).toList = (Field.ofText key text).entry.line 2 := by
  rw [line, Yaml.scalarLine_eq h, Entry.line]
  simp [Field.entry, Field.ofText]

theorem toList_recursive (b : Bool) :
    ("  recursive: " ++ (if b then "true" else "false") ++ "\n").toList =
      Entry.line 2 (Field.entry ⟨"recursive", .plain, if b then "true" else "false"⟩) := by
  simp [Entry.line, Field.entry, Yaml.inStyle]

/-- The text of the document is its lines, one for each field. -/
theorem toList_toYaml {s : Settings} (h : s.IsAscii) : (toYaml s).toList = s.written.text := by
  have hhead : "version: 1\ngenerator:\n".toList =
      Entry.line 0 (Field.entry ⟨"version", .plain, "1"⟩) ++ ("generator".toList ++ [':', '\n']) := by
    simp [Entry.line, Field.entry, Yaml.inStyle]
  -- the parts of this line are joined to their neighbours one by one, so the line has to be taken apart too
  have hrecursive := toList_recursive s.recursive
  simp only [String.toList_append] at hrecursive
  unfold toYaml
  simp only [String.toList_append, hhead, toList_line _ h.includePattern, toList_line _ h.excludePattern,
    toList_line _ h.fileStem, toList_line _ h.framework, toList_line _ h.multipart,
    toList_line _ (ascii_name s.formatter), toList_line _ h.gofmtPath]
  simp only [written, Yaml.Section.text, fields, List.map_cons, List.flatMap_cons, List.cons_append,
    List.nil_append, List.append_assoc, ← hrecursive]
  cases hp : s.package with
  | none => simp
  | some p => simp [toList_line "package" (h.package p hp)]

theorem isKey_of_mem : ∀ key ∈ "version" :: "generator" :: generatorKeys, IsKey key.toList := by
  decide +kernel

theorem keys_fields (s : Settings) : (s.fields.map Field.key).Sublist generatorKeys := by
  cases hp : s.package <;> simp [fields, Field.ofText, generatorKeys, hp]

/-- Every field has a style in which its text is read back. -/
theorem isWritten_fields {s : Settings} (h : s.IsAscii) : ∀ f ∈ s.fields, IsWritten f.style f.text.toList := by
  have htruth : ∀ b : Bool, Yaml.IsPlain (if b then "true" else "false").toList := by decide +kernel
  simp only [fields, List.forall_mem_append, List.forall_mem_cons]
  constructor
  · exact ⟨isWritten_styleOf h.includePattern, isWritten_styleOf h.excludePattern, isWritten_styleOf h.fileStem,
      .plain (htruth s.recursive), isWritten_styleOf h.framework, isWritten_styleOf h.multipart,
      isWritten_styleOf (ascii_name s.formatter), isWritten_styleOf h.gofmtPath, by simp⟩
  · intro f hf
    obtain ⟨p, hp, rfl⟩ := Option.map_eq_some_iff.1 (Option.mem_toList.1 hf)
    exact isWritten_styleOf (h.package p hp)

theorem valid_written {s : Settings} (h : s.IsAscii) : s.written.Valid := by
  refine ⟨⟨isKey_of_mem _ List.mem_cons_self, .plain ?_⟩, isKey_of_mem _ (by simp), ?_, by simp [written, fields]⟩
  · exact (by decide +kernel : Yaml.IsPlain "1".toList)
  · intro e he
    obtain ⟨f, hf, rfl⟩ := List.mem_map.1 he
    have hkey : f.key ∈ generatorKeys := (keys_fields s).subset (List.mem_map_of_mem hf)
    exact ⟨isKey_of_mem _ (by simp [hkey]), isWritten_fields h f hf⟩

/-! ## Reading -/

/-- A mapping with the given entries. -/
def mapping (es : Entries) : Node := .mapping none (es.map fun e => (.scalar .plain none e.1, e.2))

theorem entriesOf_scalars (d : Document) {known : List String} {es : Entries} (hknown : ∀ e ∈ es, e.1 ∈ known)
    (seen : List String) (hseen : (seen ++ es.map Prod.fst).Nodup) :
    entriesOf d known seen (es.map fun e => (.scalar .plain none e.1, e.2)) = .ok es := by
  induction es generalizing seen with
  | nil => rfl
  | cons e es ih =>
    -- a key that has been read is seen from then on, and all keys are different
    obtain ⟨he, hknown⟩ := List.forall_mem_cons.1 hknown
    have hnew : e.1 ∉ seen := by
      intro hmem
      exact (List.nodup_append.1 hseen).2.2 _ hmem _ List.mem_cons_self rfl
    have hrest := ih hknown (e.1 :: seen) (hseen.perm (by simp))
    rw [List.map_cons, entriesOf, keyOf, Document.resolve?]
    · simp [he, hnew, hrest, Except.map]
    · simp

/-- A mapping whose keys are known and stand once is read as its entries. -/
theorem mappingOf_mapping (d : Document) {known : List String} {es : Entries}
    (h : (es.map Prod.fst).Sublist known) (hknown : known.Nodup) (wrong : DocumentError) :
    mappingOf d known (mapping es) wrong = .ok es :=
  entriesOf_scalars d (fun _ he => h.subset (List.mem_map_of_mem he)) [] (h.nodup hknown)

/-- The entries of the generator section as they are read. -/
def values (s : Settings) : Entries := s.fields.map Field.value

theorem keys_values (s : Settings) : (s.values.map Prod.fst).Sublist generatorKeys := by
  rw [values, List.map_map]
  exact keys_fields s

section
variable {d : Document} {s : Settings} {key text : String}

theorem valueOf?_field {style : Style} (h : ⟨key, style, text⟩ ∈ s.fields) :
    valueOf? d s.values key = some (.scalar style none text) := by
  have hkeys : (s.values.map Prod.fst).Nodup := (keys_values s).nodup (by decide)
  rw [valueOf?, Table.lookup_of_mem hkeys (List.mem_map_of_mem h)]
  rfl

theorem textOr_field (text : String) (h : .ofText key text ∈ s.fields) (default : String) :
    textOr default d s.values key = .ok text := by
  rw [textOr, valueOf?_field h]
  rfl

theorem truthOr_field (b : Bool) (h : ⟨key, .plain, if b then "true" else "false"⟩ ∈ s.fields)
    (default : Bool) : truthOr default d s.values key = .ok b := by
  rw [truthOr, valueOf?_field h]
  cases b <;> rfl

theorem formatterOr_field (k : FormatterKind) (h : .ofText key k.name ∈ s.fields) (default : FormatterKind) :
    formatterOr default d s.values key = .ok k := by
  rw [formatterOr, valueOf?_field h]
  cases k <;> rfl

/-- A text in the style that the writer chooses is never taken for null. -/
theorem optionalText_field (htext : IsAsciiText text.toList) (h : .ofText key text ∈ s.fields) :
    optionalText d s.values key = .ok (some text) := by
  rw [optionalText, optionalOf?, valueOf?_field h]
  rcases Yaml.styleOf_eq text with hstyle | hstyle
  · have hnull := (Yaml.of_styleOf_eq_plain htext hstyle).1
    simp [hstyle, hnull, textOf, Except.map]
  · simp [hstyle, textOf, Except.map]

theorem optionalText_package (h : s.IsAscii) : optionalText d s.values "package" = .ok s.package := by
  cases hp : s.package with
  | none =>
    have hmissing : s.values.lookup "package" = none := by
      simp [values, fields, Field.value, Field.ofText, List.lookup_cons, hp]
    rw [optionalText, optionalOf?, valueOf?, hmissing]
    rfl
  | some p => exact optionalText_field (h.package p hp) (by simp [fields, hp])

theorem ofEntries_values (h : s.IsAscii) : ofEntries d s.values = .ok s := by
  rw [ofEntries, textOr_field s.includePattern (by simp [fields]), textOr_field s.excludePattern (by simp [fields]),
    textOr_field s.fileStem (by simp [fields]), truthOr_field s.recursive (by simp [fields]),
    textOr_field s.framework (by simp [fields]), textOr_field s.multipart (by simp [fields]),
    formatterOr_field s.formatter (by simp [fields]), textOr_field s.gofmtPath (by simp [fields]),
    optionalText_package h]
  rfl

end

/-- The entries of the whole document. -/
def topValues (s : Settings) : Entries :=
  [("version", .scalar .plain none "1"), ("generator", mapping s.values)]

theorem document_written (s : Settings) : s.written.document = { root := mapping s.topValues } := by
  simp [written, Yaml.Section.document, Entry.nodes, Field.entry, mapping, topValues, values, Field.value]

theorem generatorOf_topValues (d : Document) {s : Settings} (h : s.IsAscii) : generatorOf d s.topValues = .ok s := by
  have hnode : optionalOf? d s.topValues "generator" = .ok (some (mapping s.values)) := rfl
  have hvalues : mappingOf d generatorKeys (mapping s.values) (.wrongType "generator") = .ok s.values :=
    mappingOf_mapping d (keys_values s) (by decide) _
  simp only [generatorOf, hnode, bind, Except.bind, hvalues, ofEntries_values h]

theorem ofDocument_written {s : Settings} (h : s.IsAscii) : ofDocument s.written.document = .ok (some 1, s) := by
  have hroot : mappingOf s.written.document ["version", "generator"] s.written.document.root .notAMapping =
      .ok s.topValues := by
    have hkeys : (s.topValues.map Prod.fst).Sublist ["version", "generator"] := .refl _
    rw [document_written]
    exact mappingOf_mapping _ hkeys (by decide) _
  have hversion : versionOf s.written.document s.topValues = .ok (some 1) := rfl
  simp only [ofDocument, hroot, bind, Except.bind, hversion, generatorOf_topValues _ h, pure, Except.pure]

/-- Whatever printable texts the settings hold, their document gives them back. -/
theorem ofYaml_toYaml {s : Settings} (h : s.IsAscii) : ofYaml (toYaml s) = .ok s := by
  have hread := Yaml.Section.read_text (valid_written h) (toList_toYaml h)
  have hcontents : contents (toYaml s) = .ok (some 1, s) := by
    rw [contents, hread]
    exact ofDocument_written h
  rw [ofYaml, hcontents]
  rfl

theorem IsAscii.withPackage {s : Settings} (h : s.IsAscii) (package : Option String)
    (hpackage : ∀ p, package = some p → IsAsciiText p.toList) : IsAscii { s with package } :=
  { h with package := hpackage }

/-- Texts that look like something else. -/
def lookalikes : Settings :=
  { includePattern := "", excludePattern := "'a': b # c", fileStem := "~", framework := "\x7bx: [1]\x7d"
    multipart := "- 1e3 ", gofmtPath := "true", package := some "null" }

theorem ascii_lookalikes : lookalikes.IsAscii :=
  ⟨by decide, by decide, by decide, by decide, by decide, by decide, by rintro _ ⟨⟩; decide⟩

end Registrar.Settings
