import Registrar.Yaml.Token
/-!
# YAML documents

A text holds one document, and a document one node: a scalar or a mapping. A node may have an
anchor, and an alias stands for the node that had its anchor last. Lists are refused.
-/
namespace Registrar.Yaml

inductive Node where
  | scalar (style : Style) (tag : Option String) (text : String)
  | mapping (tag : Option String) (entries : List (Node × Node))
  /-- The node with a number. -/
  | alias (number : Nat)
deriving Repr

/-- What stands where nothing is written. -/
def Node.none : Node := .scalar .plain .none ""

/-! ## Anchors -/

/-- The anchors seen so far. An anchor gets as its number the count of the names known before it, so
a name that comes again shares its new number with the next new name; of two nodes with one number
the one that starts later counts. -/
structure Anchors where
  numbers : List (String × Nat) := []
  /-- How many nodes with anchors have started. -/
  started : Nat := 0
  /-- The nodes of numbers, latest start first. -/
  starts : List (Nat × Nat) := []
  nodes : List (Nat × Node) := []

namespace Anchors

def put (name : String) (n : Nat) : List (String × Nat) → List (String × Nat)
  | [] => [(name, n)]
  | e :: es => if e.1 = name then (name, n) :: es else e :: put name n es

/-- A node with an anchor starts. -/
def start (a : Anchors) (name : String) : Anchors :=
  let n := a.numbers.length
  { a with
    numbers := put name n a.numbers
    started := a.started + 1
    starts := (n, a.started) :: a.starts }

/-- The node that was the given one to start is complete. -/
def complete (a : Anchors) (start : Nat) (node : Node) : Anchors :=
  { a with nodes := (start, node) :: a.nodes }

def node? (a : Anchors) (number : Nat) : Option Node :=
  (a.starts.lookup number).bind fun start => a.nodes.lookup start

end Anchors

/-! ## Nodes -/

/-- What the tag handles stand for. -/
abbrev Handles := List (String × String)

def defaultHandles : Handles := [("!", "!"), ("!!", "tag:yaml.org,2002:")]

/-- The whole tag that a written tag stands for. -/
def TagText.resolve (handles : Handles) (t : TagText) : Except ReadError String :=
  if t.handle.isEmpty then .ok t.suffix
  else match handles.lookup t.handle with
    | some whole => .ok (whole ++ t.suffix)
    | none => .error .badTag

/-- What is left to read and the anchors before it. -/
structure Loader where
  tokens : List Token
  anchors : Anchors := {}

namespace Loader

/-- The anchor and the tag before a node, in either order. -/
def properties (handles : Handles) (ts : List Token) :
    Except ReadError (Option String × Option String × List Token) :=
  let resolved (t : TagText) : Except ReadError (Option String) := (t.resolve handles).map some
  match ts with
  | .anchor a :: .tag t :: ts => (resolved t).map fun t => (some a, t, ts)
  | .tag t :: .anchor a :: ts => (resolved t).map fun t => (some a, t, ts)
  | .anchor a :: ts => .ok (some a, none, ts)
  | .tag t :: ts => (resolved t).map fun t => (none, t, ts)
  | ts => .ok (none, none, ts)

/-- The tag of a written scalar; a lone exclamation mark is none. -/
def scalarTag (tag : Option String) : Option String := if tag = some "!" then none else tag

/-- Whether one of the tokens stands next. -/
def nextIs (ts : List Token) (l : Loader) : Bool := (l.tokens.head?.map ts.contains).getD false

mutual

/-- Reads a node. Only block form has mappings by indentation. -/
def node (handles : Handles) (block : Bool) : Nat → Loader → Except ReadError (Node × Loader)
  | 0, _ => .error .unterminated
  | n + 1, l =>
    match l.tokens with
    | .alias name :: ts =>
      match l.anchors.numbers.lookup name with
      | some k => .ok (.alias k, { l with tokens := ts })
      | none => .error (.unknownAnchor name)
    | ts =>
      match properties handles ts with
      | .error e => .error e
      | .ok (anchor, tag, ts) =>
        let l : Loader :=
          { tokens := ts, anchors := (anchor.map l.anchors.start).getD l.anchors }
        (content handles block n (anchor.isSome || tag.isSome) tag l).map fun (node, after) =>
          match anchor with
          | none => (node, after)
          | some _ =>
            (node, { after with anchors := after.anchors.complete (l.anchors.started - 1) node })

/-- Reads a node after its anchor and tag; with one of these it may be empty. -/
def content (handles : Handles) (block : Bool) :
    Nat → Bool → Option String → Loader → Except ReadError (Node × Loader)
  | 0, _, _, _ => .error .unterminated
  | n + 1, mayBeEmpty, tag, l =>
    match l.tokens with
    | .scalar style text :: ts =>
      .ok (.scalar style (scalarTag tag) text, { l with tokens := ts })
    | .braceOpen :: ts =>
      (flowEntries handles n true [] { l with tokens := ts }).map fun (es, l) =>
        (.mapping tag es, l)
    | .mappingStart :: ts =>
      if block then
        (blockEntries handles n [] { l with tokens := ts }).map fun (es, l) =>
          (.mapping tag es, l)
      else if mayBeEmpty then .ok (.scalar .plain tag "", l)
      else .error .unexpectedText
    | _ => if mayBeEmpty then .ok (.scalar .plain tag "", l) else .error .unexpectedText

/-- Reads a node unless one of the given tokens shows that it is missing. -/
def nodeUnless (handles : Handles) (block : Bool) :
    Nat → List Token → Loader → Except ReadError (Node × Loader)
  | 0, _, _ => .error .unterminated
  | n + 1, missing, l => if l.nextIs missing then .ok (.none, l) else node handles block n l

/-- Reads the value after a key, if there is one. -/
def valueUnless (handles : Handles) (block : Bool) :
    Nat → List Token → Loader → Except ReadError (Node × Loader)
  | 0, _, _ => .error .unterminated
  | n + 1, missing, l =>
    match l.tokens with
    | .value :: ts => nodeUnless handles block n missing { l with tokens := ts }
    | _ => .ok (.none, l)

/-- Reads the entries of a mapping by indentation. -/
def blockEntries (handles : Handles) :
    Nat → List (Node × Node) → Loader → Except ReadError (List (Node × Node) × Loader)
  | 0, _, _ => .error .unterminated
  | n + 1, entries, l =>
    match l.tokens with
    | .mappingEnd :: ts => .ok (entries.reverse, { l with tokens := ts })
    | .key :: ts =>
      match nodeUnless handles true n [.key, .value, .mappingEnd] { l with tokens := ts } with
      | .error e => .error e
      | .ok (key, l) =>
        match valueUnless handles true n [.key, .value, .mappingEnd] l with
        | .error e => .error e
        | .ok (value, l) => blockEntries handles n ((key, value) :: entries) l
    | _ => .error .unexpectedText

/-- Reads the entries of a mapping in braces; all but the first follow a comma. -/
def flowEntries (handles : Handles) :
    Nat → Bool → List (Node × Node) → Loader → Except ReadError (List (Node × Node) × Loader)
  | 0, _, _, _ => .error .unterminated
  | n + 1, first, entries, l =>
    match l.tokens, first with
    | .braceClose :: ts, _ => .ok (entries.reverse, { l with tokens := ts })
    | .comma :: ts, false => flowEntry handles n entries { l with tokens := ts }
    | _, true => flowEntry handles n entries l
    | _, false => .error .unexpectedText

/-- Reads an entry of a mapping in braces and those after it. A node without a mark is a key without
a value. -/
def flowEntry (handles : Handles) :
    Nat → List (Node × Node) → Loader → Except ReadError (List (Node × Node) × Loader)
  | 0, _, _ => .error .unterminated
  | n + 1, entries, l =>
    match l.tokens with
    | .braceClose :: ts => .ok (entries.reverse, { l with tokens := ts })
    | .key :: ts =>
      match nodeUnless handles false n [.value, .comma, .braceClose] { l with tokens := ts } with
      | .error e => .error e
      | .ok (key, l) =>
        match valueUnless handles false n [.comma, .braceClose] l with
        | .error e => .error e
        | .ok (value, l) => flowEntries handles n false ((key, value) :: entries) l
    | _ =>
      match node handles false n l with
      | .error e => .error e
      | .ok (key, l) => flowEntries handles n false ((key, .none) :: entries) l

end

end Loader

/-! ## Documents -/

/-- Takes the directives before a document: at most one version, which must be 1.1 or 1.2, and each
handle once. -/
def takeDirectives (version : Bool) (handles : Handles) :
    List Token → Except ReadError (Handles × List Token)
  | .directive (.version major minor) :: ts =>
    if version || major != 1 || (minor != 1 && minor != 2) then .error .badDirective
    else takeDirectives true handles ts
  | .directive (.handle h whole) :: ts =>
    if (handles.lookup h).isSome then .error .badDirective
    else takeDirectives version (handles ++ [(h, whole)]) ts
  | ts => .ok (handles ++ defaultHandles, ts)

/-- A node and the nodes that its aliases stand for. -/
structure Document where
  root : Node
  anchors : Anchors := {}

namespace Document

/-- The node that a node stands for. -/
def resolve? (d : Document) : Node → Option Node
  | .alias number => d.anchors.node? number
  | node => some node

/-- Only ends of documents may follow a document. -/
def isOver : List Token → Bool
  | [] => true
  | .documentEnd :: ts => isOver ts
  | _ => false

/-- Reads the node of a document, after which nothing may follow. -/
def ofLoader (fuel : Nat) (handles : Handles) (l : Loader) : Except ReadError Document :=
  match Loader.node handles true fuel l with
  | .error e => .error e
  | .ok (root, l) =>
    if isOver l.tokens then .ok { root, anchors := l.anchors } else .error .severalDocuments

/-- The only document among the tokens, if there is one. After a start marker it may be empty. -/
def ofTokens (ts : List Token) : Except ReadError (Option Document) :=
  let fuel := 4 * ts.length + 4
  match ts with
  | [] => .ok none
  | .documentStart :: _ | .directive _ :: _ =>
    match takeDirectives false [] ts with
    | .error e => .error e
    | .ok (handles, .documentStart :: ts) =>
      match ts with
      | [] | .documentEnd :: _ | .documentStart :: _ | .directive _ :: _ =>
        if isOver ts then .ok (some { root := .none }) else .error .severalDocuments
      | ts => (ofLoader fuel handles { tokens := ts }).map some
    | .ok _ => .error .badDirective
  | ts => (ofLoader fuel defaultHandles { tokens := ts }).map some

end Document

/-- Reads the document of a text, if there is one. -/
def read (text : String) : Except ReadError (Option Document) :=
  match text.toList.find? (!isAllowed ·) with
  | some c => .error (.forbiddenCharacter c)
  | none =>
    match Token.ofText text.toList with
    | .error e => .error e
    | .ok tokens => Document.ofTokens tokens.toList

end Registrar.Yaml
