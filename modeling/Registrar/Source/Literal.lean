/-!
# Lengths of literals and comments

Each function measures the longest literal of its class at the start of a text; zero means that
there is none. The character with code zero is part of no literal or comment.
-/
namespace Registrar.Literal

/-! ## Numbers -/

def isHexDigit (c : Char) : Bool :=
  c.isDigit || ('a' ≤ c && c ≤ 'f') || ('A' ≤ c && c ≤ 'F')

def isOctalDigit (c : Char) : Bool := '0' ≤ c && c ≤ '7'

def isBinaryDigit (c : Char) : Bool := c == '0' || c == '1'

/-- How many characters follow a digit in a run of digits with single underscores between. -/
def moreDigits (p : Char → Bool) : List Char → Nat
  | '_' :: c :: s => if p c then 2 + moreDigits p s else 0
  | c :: s => if p c then 1 + moreDigits p s else 0
  | [] => 0

/-- The length of the run of digits that starts the text. -/
def digits (p : Char → Bool) : List Char → Nat
  | c :: s => if p c then 1 + moreDigits p s else 0
  | [] => 0

/-- The length of a part that may be preceded by an underscore. -/
def afterUnderscore (f : List Char → Nat) (s : List Char) : Nat :=
  match s with
  | '_' :: t => if f t = 0 then 0 else 1 + f t
  | _ => f s

/-- Adds `n` characters before a part, unless the part is missing. -/
def after (n part : Nat) : Nat := if part = 0 then 0 else n + part

/-- The length of a whole number with a base mark, or of an octal number. -/
def basedInt : List Char → Nat
  | '0' :: c :: s =>
    let marked :=
      if c == 'x' || c == 'X' then after 2 (afterUnderscore (digits isHexDigit) s)
      else if c == 'o' || c == 'O' then after 2 (afterUnderscore (digits isOctalDigit) s)
      else if c == 'b' || c == 'B' then after 2 (afterUnderscore (digits isBinaryDigit) s)
      else 0
    Nat.max marked (after 1 (afterUnderscore (digits isOctalDigit) (c :: s)))
  | _ => 0

/-- The length of a decimal number, which is zero or starts with another digit. -/
def decimalInt : List Char → Nat
  | '0' :: _ => 1
  | s => digits Char.isDigit s

def int (s : List Char) : Nat := Nat.max (basedInt s) (decimalInt s)

/-- The length of an exponent with one of two marks. -/
def exponent (lower upper : Char) : List Char → Nat
  | c :: s =>
    if c == lower || c == upper then
      match s with
      | '+' :: t => after 2 (digits Char.isDigit t)
      | '-' :: t => after 2 (digits Char.isDigit t)
      | t => after 1 (digits Char.isDigit t)
    else 0
  | [] => 0

def decimalFloat (s : List Char) : Nat :=
  let whole := digits Char.isDigit s
  match s.drop whole with
  | '.' :: t =>
    let fraction := digits Char.isDigit t
    if whole = 0 ∧ fraction = 0 then 0
    else whole + 1 + fraction + exponent 'e' 'E' (t.drop fraction)
  | t => if whole = 0 then 0 else after whole (exponent 'e' 'E' t)

def hexFloat : List Char → Nat
  | '0' :: c :: s =>
    if c == 'x' || c == 'X' then
      let whole := afterUnderscore (digits isHexDigit) s
      match s.drop whole with
      | '.' :: t =>
        let fraction := digits isHexDigit t
        if whole = 0 ∧ fraction = 0 then 0
        else after (2 + whole + 1 + fraction) (exponent 'p' 'P' (t.drop fraction))
      | t => if whole = 0 then 0 else after (2 + whole) (exponent 'p' 'P' t)
    else 0
  | _ => 0

def float (s : List Char) : Nat := Nat.max (decimalFloat s) (hexFloat s)

/-- The length of an imaginary number: any number and an `i`. -/
def imaginary (s : List Char) : Nat :=
  let ends (n : Nat) : Nat := if n > 0 ∧ (s.drop n).head? = some 'i' then n + 1 else 0
  Nat.max (ends (digits Char.isDigit s)) (Nat.max (ends (int s)) (ends (float s)))

/-! ## Quoted literals -/

def isNul (c : Char) : Bool := c == '\x00'

/-- Whether at least `n` hexadecimal digits start the text. -/
def hasHex (n : Nat) (s : List Char) : Bool :=
  (s.take n).length == n && (s.take n).all isHexDigit

/-- The length of a stretch of a quoted string without escapes. -/
def content (s : List Char) : Nat :=
  (s.takeWhile fun c => c != '"' && c != '\n' && c != '\\' && !isNul c).length

/-- The length of an escape in a quoted string. Digits after the first ones belong to what
follows. -/
def escape : List Char → Nat
  | '\\' :: c :: s =>
    if c == 'x' then if hasHex 2 s then 4 else 0
    else if c == 'u' then if hasHex 4 s then 6 else 0
    else if c == 'U' then if hasHex 8 s then 10 else 0
    else if isNul c then 0 else 2
  | _ => 0

/-- The length of a rune with its quotes. -/
def rune : List Char → Nat
  | '\'' :: '\\' :: c :: s =>
    let closed (n : Nat) : Nat := if (s.drop n).head? = some '\'' then n + 4 else 0
    if c == 'x' then if hasHex 2 s then closed 2 else 0
    else if c == 'u' then if hasHex 4 s then closed 4 else 0
    else if c == 'U' then if hasHex 8 s then closed 8 else 0
    else if isOctalDigit c then
      if (s.take 2).length == 2 && (s.take 2).all isOctalDigit then closed 2 else 0
    else if "abfnrtv\\'\"".toList.contains c then closed 0
    else 0
  | '\'' :: c :: '\'' :: _ => if c == '\'' || c == '\\' || isNul c then 0 else 3
  | _ => 0

/-- The number of characters through the one that closes a raw string. -/
def throughBacktick (n : Nat) : List Char → Nat
  | [] => 0
  | c :: s => if c == '\x60' then n + 1 else if isNul c then 0 else throughBacktick (n + 1) s

/-- The length of a raw string with its quotes. -/
def rawString : List Char → Nat
  | c :: s => if c == '\x60' then throughBacktick 1 s else 0
  | [] => 0

/-! ## Comments -/

/-- The number of characters through the mark that closes a block comment. -/
def throughCommentEnd (n : Nat) : List Char → Nat
  | '*' :: '/' :: _ => n + 2
  | c :: s => if isNul c then 0 else throughCommentEnd (n + 1) s
  | [] => 0

/-- The length of a comment. -/
def comment : List Char → Nat
  | '/' :: '/' :: s => 2 + (s.takeWhile fun c => c != '\n' && !isNul c).length
  | '/' :: '*' :: s => throughCommentEnd 2 s
  | _ => 0

end Registrar.Literal
