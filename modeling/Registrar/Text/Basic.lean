/-!
# Text as a list of characters

Blank space, trimming, cutting and splitting. Every scanner of the library works on
`List Char`; a `String` is only the form in which text is stored.
-/
namespace Registrar.Text

/-! ## Blank space -/

/-- The characters with the Unicode property `White_Space`. -/
def isBlank (c : Char) : Bool :=
  let n := c.toNat
  (9 ≤ n && n ≤ 13) || n == 0x20 || n == 0x85 || n == 0xA0 || n == 0x1680 ||
    (0x2000 ≤ n && n ≤ 0x200A) || n == 0x2028 || n == 0x2029 || n == 0x202F ||
    n == 0x205F || n == 0x3000

/-- Drops the longest run of characters in `p` from the end. -/
def dropEndWhile (p : Char → Bool) (s : List Char) : List Char :=
  (s.reverse.dropWhile p).reverse

/-- Drops the longest runs of characters in `p` from both ends. -/
def dropAround (p : Char → Bool) (s : List Char) : List Char :=
  dropEndWhile p (s.dropWhile p)

def trimStart (s : List Char) : List Char := s.dropWhile isBlank

def trimEnd (s : List Char) : List Char := dropEndWhile isBlank s

def trim (s : List Char) : List Char := dropAround isBlank s

def isQuote (c : Char) : Bool := c == '"'

/-- Drops every double quote at either end. -/
def dropQuotes (s : List Char) : List Char := dropAround isQuote s

/-- Drops every double quote and backquote at either end. -/
def dropLiteralQuotes (s : List Char) : List Char :=
  dropAround (fun c => c == '"' || c == '\x60') s

/-! ## Cutting and splitting -/

/-- What follows `p`, when the text starts with it. -/
def after? : (p s : List Char) → Option (List Char)
  | [], s => some s
  | _ :: _, [] => none
  | a :: p, b :: s => if a = b then after? p s else none

/-- What precedes `p`, when the text ends with it. -/
def before? (p s : List Char) : Option (List Char) :=
  (after? p.reverse s.reverse).map List.reverse

/-- The parts before and after the first `c`. -/
def splitOnce? (c : Char) : List Char → Option (List Char × List Char)
  | [] => none
  | d :: s => if d = c then some ([], s) else (splitOnce? c s).map fun (a, b) => (d :: a, b)

/-- The pieces between the occurrences of `c`; one more than there are occurrences. -/
def split (c : Char) : List Char → List (List Char)
  | [] => [[]]
  | d :: s =>
    if d = c then [] :: split c s
    else match split c s with
      | [] => [[d]]
      | t :: ts => (d :: t) :: ts

/-- The text after the last `c`, or all of it. -/
def lastPiece (c : Char) (s : List Char) : List Char :=
  ((split c s).getLast?).getD []

/-- The text before the last `c`, or nothing when there is none. -/
def beforeLast (c : Char) (s : List Char) : List Char :=
  ((s.reverse.dropWhile (· != c)).drop 1).reverse

/-- Whether `p` occurs somewhere in the text. -/
def occurs (p : List Char) : List Char → Bool
  | [] => p.isEmpty
  | c :: s => p.isPrefixOf (c :: s) || occurs p s

/-- Lines end at a line feed, which may have a carriage return before it; the last line may
lack both. -/
def lines (s : List Char) : List (List Char) :=
  match split '\n' s with
  | [] => []
  | pieces =>
    let ended := pieces.dropLast.map fun l => (before? ['\r'] l).getD l
    match pieces.getLast? with
    | some [] | none => ended
    | some rest => ended ++ [rest]

/-- Reads a run of decimal digits as a number. -/
def number? (s : List Char) : Option Nat :=
  if s.isEmpty || !s.all Char.isDigit then none
  else some (s.foldl (fun n c => n * 10 + (c.toNat - '0'.toNat)) 0)

/-- The value of a hexadecimal digit. -/
def hexValue? (c : Char) : Option Nat :=
  if c.isDigit then some (c.toNat - '0'.toNat)
  else if 'a' ≤ c ∧ c ≤ 'f' then some (c.toNat - 'a'.toNat + 10)
  else if 'A' ≤ c ∧ c ≤ 'F' then some (c.toNat - 'A'.toNat + 10)
  else none

/-- Reads a run of hexadecimal digits as a number. -/
def hexNumber? (s : List Char) : Option Nat :=
  if s.isEmpty then none else (s.mapM hexValue?).map (·.foldl (fun n d => n * 16 + d) 0)

/-- The character with a code given in hexadecimal. -/
def hexChar? (s : List Char) : Option Char :=
  (hexNumber? s).bind fun n => if n.isValidChar then some (Char.ofNat n) else none

/-- The upper-case hexadecimal digits of `n`, at least `width` of them. -/
def hex (width n : Nat) : List Char :=
  let digits := (Nat.toDigits 16 n).map Char.toUpper
  List.replicate (width - digits.length) '0' ++ digits

/-! ## Stored text -/

/-- Applies a function on characters to stored text. -/
def onChars (f : List Char → List Char) (s : String) : String :=
  String.ofList (f s.toList)

/-- The order of UTF-8 bytes, which is the order of code points. -/
def bytesLt (a b : String) : Bool := decide (a < b)

def joinWith (sep : String) (parts : List String) : String := String.intercalate sep parts

end Registrar.Text
