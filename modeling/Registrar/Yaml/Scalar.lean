import Registrar.Text.Basic
/-!
# What unquoted YAML text stands for

An unquoted scalar may read as null, a truth value or a number. Numbers have no leading zeros and
may have a sign, a base mark, a fraction and an exponent.
-/
namespace Registrar.Yaml

def isNull (s : String) : Bool := ["", "null", "Null", "NULL", "~"].contains s

def truth? (s : String) : Option Bool :=
  if ["true", "True", "TRUE"].contains s then some true
  else if ["false", "False", "FALSE"].contains s then some false
  else none

/-! ## Whole numbers -/

def digitValue (c : Char) : Nat :=
  if c.isDigit then c.toNat - '0'.toNat
  else if 'a' ≤ c ∧ c ≤ 'z' then c.toNat - 'a'.toNat + 10
  else if 'A' ≤ c ∧ c ≤ 'Z' then c.toNat - 'A'.toNat + 10
  else 36

/-- A run of one or more digits in a base up to ten and letters. -/
def digits? (base : Nat) (s : List Char) : Option Nat :=
  if s.isEmpty || s.any (fun c => digitValue c ≥ base) then none
  else some (s.foldl (fun n c => n * base + digitValue c) 0)

/-- More than one digit, the first of them zero: such text is no number. -/
def hasLeadingZero : List Char → Bool
  | '0' :: c :: s => (c :: s).all Char.isDigit
  | _ => false

/-- A number in base sixteen, eight or two, with the mark of its base. -/
def based? : List Char → Option Nat
  | '0' :: 'x' :: s => digits? 16 s
  | '0' :: 'o' :: s => digits? 8 s
  | '0' :: 'b' :: s => digits? 2 s
  | _ => none

/-- A whole number without a minus sign. -/
def unsigned? (s : List Char) : Option Nat :=
  let s := (Text.after? ['+'] s).getD s
  match based? s with
  | some n => some n
  | none => if hasLeadingZero s then none else digits? 10 s

/-- Whole numbers fit in 128 bits. -/
def isWhole (s : List Char) : Bool :=
  match s with
  | '-' :: t =>
    (based? t).any (fun n => n ≤ Nat.pow 2 127) || (digits? 10 t).any (fun n => n ≤ Nat.pow 2 127)
  | _ => (unsigned? s).any fun n => n < Nat.pow 2 128

/-! ## Numbers with fractions -/

/-- Whether `m · 10 ^ e` rounds to a finite number of double precision. -/
def isFinite (m : Nat) (e : Int) : Bool :=
  let size : Int := (Nat.toDigits 10 m).length + e
  let limit : Nat := Nat.pow 2 1024 - Nat.pow 2 970
  if m == 0 || size < 309 then true
  else if size > 309 then false
  else if e ≥ 0 then m * Nat.pow 10 e.toNat < limit
  else m < limit * Nat.pow 10 (-e).toNat

/-- The value of an exponent part, which may be missing. -/
def exponent? : List Char → Option Int
  | [] => some 0
  | c :: s =>
    if c == 'e' || c == 'E' then
      match s with
      | '+' :: t => (digits? 10 t).map Int.ofNat
      | '-' :: t => (digits? 10 t).map fun n => -(n : Int)
      | t => (digits? 10 t).map Int.ofNat
    else none

/-- Digits with an optional point among them and an optional exponent. -/
def isDecimal (s : List Char) : Bool :=
  let whole := s.takeWhile Char.isDigit
  let rest := s.dropWhile Char.isDigit
  let (fraction, rest) := match rest with
    | '.' :: t => (t.takeWhile Char.isDigit, t.dropWhile Char.isDigit)
    | t => ([], t)
  match digits? 10 (whole ++ fraction), exponent? rest with
  | some m, some e => isFinite m (e - fraction.length)
  | _, _ => false

def infinities : List String := [".inf", ".Inf", ".INF"]

def isFraction (s : List Char) : Bool :=
  let text := String.ofList s
  if [".nan", ".NaN", ".NAN"].contains text then true
  else match s with
    | '+' :: t => infinities.contains (String.ofList t) || isDecimal t
    | '-' :: t => infinities.contains (String.ofList t) || isDecimal t
    | _ => infinities.contains text || isDecimal s

/-- Digits that are no number because of a leading zero, perhaps after a sign. -/
def isDigitsOnly (s : List Char) : Bool :=
  match s with
  | '+' :: t | '-' :: t => hasLeadingZero t
  | _ => hasLeadingZero s

/-- Whether unquoted text would be taken for something other than text. -/
def isAmbiguous (s : String) : Bool :=
  isNull s || (truth? s).isSome || isWhole s.toList || isFraction s.toList ||
    isDigitsOnly s.toList

end Registrar.Yaml
