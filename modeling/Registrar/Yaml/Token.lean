import Registrar.Yaml.Tag
/-!
# YAML tokens

A text as tokens. Indentation becomes tokens that open and close mappings. Whether a scalar is a key
shows only at the colon after it, so the places where a key may have started are remembered: a key
stands on one line with its colon, at most 1024 characters before it.
-/
namespace Registrar.Yaml

inductive Token where
  | directive (d : Directive)
  | documentStart
  | documentEnd
  | mappingStart
  | mappingEnd
  | braceOpen
  | braceClose
  | comma
  | key
  | value
  | alias (name : String)
  | anchor (name : String)
  | tag (t : TagText)
  | scalar (style : Style) (text : String)
deriving DecidableEq, Repr

/-- A place where a key may have started. -/
structure KeyPlace where
  /-- Only a key can stand there. -/
  required : Bool
  /-- The number of tokens before it. -/
  number : Nat
  spot : Spot

structure Scanner where
  rest : List Spot
  tokens : Array Token := #[]
  /-- The column of the innermost mapping in block form. -/
  indent : Int := -1
  /-- The columns of the mappings around it. -/
  outer : List Int := []
  /-- A key may start at the next token. -/
  keyAllowed : Bool := true
  /-- Where a key may have started: for each open brace, innermost first, and outside all. -/
  keys : List (Option KeyPlace) := [none]

namespace Scanner

/-- Whether a brace is open. -/
def inFlow (s : Scanner) : Bool := s.keys.length > 1

def push (s : Scanner) (t : Token) : Scanner := { s with tokens := s.tokens.push t }

/-- Takes `n` characters as a token. -/
def take (s : Scanner) (n : Nat) (t : Token) : Scanner := { s.push t with rest := s.rest.drop n }

/-! ## Keys -/

/-- Gives up the key of the innermost level. -/
def dropKey (s : Scanner) : Except ReadError Scanner :=
  match s.keys with
  | some k :: ks => if k.required then .error .missingColon else .ok { s with keys := none :: ks }
  | _ => .ok s

/-- Remembers that a key may start at the next token. -/
def noteKey (s : Scanner) (x : Spot) : Except ReadError Scanner :=
  if s.keyAllowed then
    s.dropKey.map fun s =>
      let place := ⟨!s.inFlow && s.indent == x.column, s.tokens.size, x⟩
      { s with keys := some place :: s.keys.drop 1 }
  else .ok s

/-- Whether the colon of a key cannot stand at a later place any more. -/
def isTooFar (k : KeyPlace) (x : Spot) : Bool :=
  k.spot.line < x.line || k.spot.index + 1024 < x.index

/-- Gives up the keys that a token at `x` is too far from. -/
def dropFarKeys (s : Scanner) (x : Spot) : Except ReadError Scanner :=
  let far (k : Option KeyPlace) : Bool := (k.map (isTooFar · x)).getD false
  if s.keys.any fun k => far k && (k.map (·.required)).getD false then .error .missingColon
  else .ok { s with keys := s.keys.map fun k => if far k then none else k }

/-! ## Indentation -/

/-- Closes the mappings right of a column. -/
def closeTo (column indent : Int) (tokens : Array Token) :
    List Int → Int × List Int × Array Token
  | [] => (indent, [], tokens)
  | i :: outer =>
    if indent > column then closeTo column i (tokens.push .mappingEnd) outer
    else (indent, i :: outer, tokens)

def unindent (s : Scanner) (column : Int) : Scanner :=
  if s.inFlow then s
  else
    let (indent, outer, tokens) := closeTo column s.indent s.tokens s.outer
    { s with indent, outer, tokens }

/-- Opens a mapping at a column right of the present one; `number` is where its tokens start. -/
def indentTo (s : Scanner) (column number : Nat) : Scanner :=
  if !s.inFlow && s.indent < column then
    { s with
      indent := column
      outer := s.indent :: s.outer
      tokens := s.tokens.insertIdxIfInBounds number .mappingStart }
  else s

/-! ## Tokens one by one -/

/-- Skips blanks, comments and line ends. In block form a tab is no blank where a key may start, and
after a line end a key may start. A byte order mark may stand first. -/
def skipBlanks (flow comment keyAllowed : Bool) : List Spot → List Spot × Bool
  | [] => ([], keyAllowed)
  | x :: s =>
    if x.isBreak then skipBlanks flow false (keyAllowed || !flow) s
    else if comment || x.char == ' ' || (x.char == '\t' && (flow || !keyAllowed)) ||
        (x.char == '\ufeff' && x.index == 0) then
      skipBlanks flow comment keyAllowed s
    else if x.char == '#' then skipBlanks flow true keyAllowed s
    else (x :: s, keyAllowed)

/-- A token that stands apart from all mappings. -/
def apart (s : Scanner) : Except ReadError Scanner :=
  (s.unindent (-1)).dropKey.map fun s => { s with keyAllowed := false }

/-- A mark of complex keys or values in block form, which opens a mapping where none is. -/
def complexMark (s : Scanner) (x : Spot) : Except ReadError Scanner :=
  if s.inFlow then .ok s
  else if s.keyAllowed then .ok (s.indentTo x.column s.tokens.size)
  else .error .unexpectedText

def keyMark (s : Scanner) (x : Spot) : Except ReadError Scanner := do
  let s ← s.complexMark x
  let s ← s.dropKey
  return { s.take 1 .key with keyAllowed := !s.inFlow }

/-- A colon: what the remembered place starts is a key. -/
def valueMark (s : Scanner) (x : Spot) : Except ReadError Scanner :=
  match s.keys with
  | some k :: ks =>
    let s := { s with tokens := s.tokens.insertIdxIfInBounds k.number .key, keys := none :: ks }
    let s := s.indentTo k.spot.column k.number
    .ok { s.take 1 .value with keyAllowed := false }
  | _ => do
    let s ← s.complexMark x
    return { s.take 1 .value with keyAllowed := !s.inFlow }

/-- A token that may be or start a key, read by `read`. -/
def keyLike (s : Scanner) (x : Spot) (read : Except ReadError (Token × List Spot)) :
    Except ReadError Scanner := do
  let s ← s.noteKey x
  let (t, rest) ← read
  return { s.push t with rest, keyAllowed := false }

def quoted (style : Style) (r : Except ReadError Reading) : Except ReadError (Token × List Spot) :=
  r.map fun r => (.scalar style (String.ofList r.text), r.rest)

def plainScalar (s : Scanner) (x : Spot) : Except ReadError Scanner := do
  let s ← s.noteKey x
  let r ← plain s.inFlow (s.indent + 1) (.blanks []) s.rest
  return { s.push (.scalar .plain (String.ofList r.text)) with
    rest := r.rest, keyAllowed := r.crossedLine }

def blockScalar (s : Scanner) (style : Style) : Except ReadError Scanner := do
  let s ← s.dropKey
  let r ← Yaml.blockScalar (style == .folded) s.indent (s.rest.drop 1)
  return { s.push (.scalar style (String.ofList r.text)) with rest := r.rest, keyAllowed := true }

/-- Reads the token at `x`, which the text `after` follows. -/
def next (s : Scanner) (x : Spot) (after : List Spot) : Except ReadError Scanner := do
  let c := x.char
  if c == '%' && x.column == 0 then
    let s ← s.apart
    let (d, rest) ← directive after
    return { s.push (.directive d) with rest }
  else if atMarker '-' s.rest then return (← s.apart).take 3 .documentStart
  else if atMarker '.' s.rest then return (← s.apart).take 3 .documentEnd
  else if c == '\x7b' then
    let s ← s.noteKey x
    return { s.take 1 .braceOpen with keys := none :: s.keys, keyAllowed := true }
  else if c == '\x7d' then
    let s ← s.dropKey
    return { s.take 1 .braceClose with
      keys := if s.inFlow then s.keys.drop 1 else s.keys, keyAllowed := false }
  else if c == ',' then return { (← s.dropKey).take 1 .comma with keyAllowed := true }
  else if c == '[' || c == ']' || (c == '-' && atGap after) then throw .noLists
  else if c == '?' && (s.inFlow || atGap after) then s.keyMark x
  else if c == ':' && (s.inFlow || atGap after) then s.valueMark x
  else if c == '*' then s.keyLike x ((anchorName after).map fun (a, r) => (.alias a, r))
  else if c == '&' then s.keyLike x ((anchorName after).map fun (a, r) => (.anchor a, r))
  else if c == '!' then s.keyLike x ((tag s.inFlow s.rest).map fun (t, r) => (.tag t, r))
  else if c == '|' && !s.inFlow then s.blockScalar .literal
  else if c == '>' && !s.inFlow then s.blockScalar .folded
  else if c == '\'' then s.keyLike x (quoted .singleQuoted (singleQuoted (.blanks []) after))
  else if c == '"' then s.keyLike x (quoted .doubleQuoted (doubleQuoted (.blanks []) after))
  else if startsPlain s.inFlow s.rest then s.plainScalar x
  else throw .unexpectedText

/-- Reads tokens to the end of the text; `n` bounds their number. -/
def run : Nat → Scanner → Except ReadError (Array Token)
  | 0, _ => .error .unterminated
  | n + 1, s =>
    let (rest, keyAllowed) := skipBlanks s.inFlow false s.keyAllowed s.rest
    let s := { s with rest, keyAllowed }
    match rest with
    | [] => s.apart.map (·.tokens)
    | x :: after => do
      let s ← s.dropFarKeys x
      run n (← (s.unindent x.column).next x after)

end Scanner

/-- The tokens of a text. -/
def Token.ofText (text : List Char) : Except ReadError (Array Token) :=
  let spots := Spot.placeFrom 0 0 0 (unifyBreaks text)
  Scanner.run (spots.length + 1) { rest := spots }

end Registrar.Yaml
