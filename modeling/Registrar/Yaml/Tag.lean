import Registrar.Text.Utf8
import Registrar.Yaml.Style
/-!
# Tags, anchors and directives

A tag names the type of a node. It is written in full, or as a handle and a suffix; a directive
gives what a handle stands for. An anchor names a node, and an alias stands for the node of an
anchor.
-/
namespace Registrar.Yaml

/-- A tag as written: a handle, empty for a tag in full, and what follows it. -/
structure TagText where
  handle : String
  suffix : String
deriving DecidableEq, Repr

inductive Directive where
  | version (major minor : Nat)
  | handle (handle whole : String)
deriving DecidableEq, Repr

/-! ## Escaped octets -/

/-- The octet of a percent sign and two hexadecimal digits. -/
def octet? : List Spot → Option (UInt8 × List Spot)
  | x :: y :: z :: s =>
    if x.char == '%' then
      match Text.hexValue? y.char, Text.hexValue? z.char with
      | some a, some b => some (.ofNat (a * 16 + b), s)
      | _, _ => none
    else none
  | _ => none

/-- The number of octets of a character by its first octet. -/
def octetCount? (b : UInt8) : Option Nat :=
  if b < 0x80 then some 1
  else if b &&& 0xE0 == 0xC0 then some 2
  else if b &&& 0xF0 == 0xE0 then some 3
  else if b &&& 0xF8 == 0xF0 then some 4
  else none

/-- The next `n` octets, each of which continues a character. -/
def continuation? : Nat → List Spot → Option (List UInt8 × List Spot)
  | 0, s => some ([], s)
  | n + 1, s =>
    match octet? s with
    | some (b, s) =>
      if b &&& 0xC0 == 0x80 then (continuation? n s).map fun (bs, s) => (b :: bs, s) else none
    | none => none

/-- The octets of one escaped character. -/
def escapedOctets? (s : List Spot) : Option (List UInt8 × List Spot) :=
  match octet? s with
  | none => none
  | some (b, s) =>
    match octetCount? b with
    | none => none
    | some n => (continuation? (n - 1) s).map fun (bs, s) => (b :: bs, s)

/-! ## Tags -/

/-- The characters of a tag; in a tag in full and in a directive also those of flow lists. -/
def isTagChar (wide : Bool) (c : Char) : Bool :=
  isNameChar c || ";/?:@&=+$.%!~*'()".toList.contains c || (wide && ",[]".toList.contains c)

/-- Reads the characters of a tag as octets; `n` bounds their number. -/
def tagOctets (wide : Bool) : Nat → List Spot → Except ReadError (List UInt8 × List Spot)
  | 0, s => .ok ([], s)
  | n + 1, s =>
    match s with
    | [] => .ok ([], [])
    | x :: t =>
      if !isTagChar wide x.char then .ok ([], s)
      else if x.char == '%' then
        match escapedOctets? s with
        | none => .error .badTag
        | some (bs, t) => (tagOctets wide n t).map fun (cs, rest) => (bs ++ cs, rest)
      else (tagOctets wide n t).map fun (cs, rest) => (.ofNat x.char.toNat :: cs, rest)

/-- Reads the characters of a tag after the given ones. -/
def tagUri (wide : Bool) (before : List Char) (s : List Spot) :
    Except ReadError (String × List Spot) :=
  match tagOctets wide s.length s with
  | .error e => .error e
  | .ok (bs, rest) => .ok (String.ofList before ++ Text.Utf8.decodeLenient bs, rest)

/-- Reads a handle: a name between exclamation marks, of which the last may be missing. -/
def tagHandle (s : List Spot) : List Char × List Spot :=
  match s with
  | x :: t =>
    let name := charsOf (t.takeWhile fun y => isNameChar y.char)
    let after := t.dropWhile fun y => isNameChar y.char
    if startsWith '!' after then (x.char :: name ++ ['!'], after.drop 1)
    else (x.char :: name, after)
  | [] => ([], [])

/-- Reads a tag at its exclamation mark. -/
def tag (flow : Bool) (s : List Spot) : Except ReadError (TagText × List Spot) := do
  let (t, rest) ←
    if startsWith '<' (s.drop 1) then do
      let (uri, rest) ← tagUri true [] (s.drop 2)
      if uri.isEmpty || !startsWith '>' rest then throw .badTag
      pure (({ handle := "", suffix := uri } : TagText), rest.drop 1)
    else do
      let (h, rest) := tagHandle s
      if h.length > 1 && h.getLast? == some '!' then
        let (uri, rest) ← tagUri false [] rest
        if uri.isEmpty then throw .badTag
        pure (⟨String.ofList h, uri⟩, rest)
      else
        let (uri, rest) ← tagUri false (h.drop 1) rest
        pure (if uri.isEmpty then ⟨"", "!"⟩ else ⟨"!", uri⟩, rest)
  if atGap rest || (flow && startsWith ',' rest) then return (t, rest) else throw .badTag

/-! ## Anchors -/

/-- Reads the name of an anchor or an alias after its mark. -/
def anchorName (s : List Spot) : Except ReadError (String × List Spot) :=
  let name := s.takeWhile fun x => isNameChar x.char
  let rest := s.dropWhile fun x => isNameChar x.char
  let ends := atGap rest ||
    (rest.head?.map fun x => "?:,]\x7d%@\x60".toList.contains x.char).getD false
  if name.isEmpty || !ends then .error .badAnchor
  else .ok (String.ofList (charsOf name), rest)

/-! ## Directives -/

/-- Reads a number of at most nine digits. -/
def versionNumber (s : List Spot) : Except ReadError (Nat × List Spot) :=
  let ds := charsOf (s.takeWhile fun x => x.char.isDigit)
  if ds.isEmpty || ds.length > 9 then .error .badDirective
  else .ok (ds.foldl (fun n c => n * 10 + (c.toNat - '0'.toNat)) 0, s.drop ds.length)

def versionDirective (s : List Spot) : Except ReadError (Directive × List Spot) := do
  let (major, s) ← versionNumber s
  if !startsWith '.' s then throw .badDirective
  let (minor, s) ← versionNumber (s.drop 1)
  return (.version major minor, s)

def handleDirective (s : List Spot) : Except ReadError (Directive × List Spot) := do
  if !startsWith '!' s then throw .badDirective
  let (h, s) := tagHandle s
  if h.length > 1 && h.getLast? != some '!' then throw .badDirective
  if !(s.head?.map Spot.isPad).getD false then throw .badDirective
  let (uri, s) ← tagUri true [] (s.dropWhile Spot.isPad)
  if uri.isEmpty || !atGap s then throw .badDirective
  return (.handle (String.ofList h) uri, s)

/-- Reads a directive after its percent sign, with the rest of its line. -/
def directive (s : List Spot) : Except ReadError (Directive × List Spot) := do
  let name := String.ofList (charsOf (s.takeWhile fun x => isNameChar x.char))
  let s := s.dropWhile fun x => isNameChar x.char
  if !atGap s then throw .badDirective
  let s := s.dropWhile Spot.isPad
  let (d, s) ←
    if name == "YAML" then versionDirective s
    else if name == "TAG" then handleDirective s
    else throw .badDirective
  match restOfLine? s with
  | some rest => return (d, rest.drop 1)
  | none => throw .badDirective

end Registrar.Yaml
