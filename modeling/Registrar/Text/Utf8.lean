/-!
# UTF-8

Bytes as text. Invalid bytes are divided into parts, each as long as a character could still have
been; the strict reading refuses them and the lenient one puts a replacement character for each.
-/
namespace Registrar.Text.Utf8

/-- What a leading byte announces: how many bytes follow, the range of the first of them, and the
bits that the leading byte gives. -/
structure Lead where
  following : Nat
  low : Nat
  high : Nat
  bits : Nat

/-- The leading bytes of characters beyond ASCII. Overlong forms, surrogates and values beyond the
last code point are kept out by the range of the second byte. -/
def lead? (b : Nat) : Option Lead :=
  if 0xC2 ≤ b ∧ b ≤ 0xDF then some ⟨1, 0x80, 0xBF, b - 0xC0⟩
  else if b = 0xE0 then some ⟨2, 0xA0, 0xBF, 0⟩
  else if b = 0xED then some ⟨2, 0x80, 0x9F, 0xD⟩
  else if 0xE1 ≤ b ∧ b ≤ 0xEF then some ⟨2, 0x80, 0xBF, b - 0xE0⟩
  else if b = 0xF0 then some ⟨3, 0x90, 0xBF, 0⟩
  else if 0xF1 ≤ b ∧ b ≤ 0xF3 then some ⟨3, 0x80, 0xBF, b - 0xF0⟩
  else if b = 0xF4 then some ⟨3, 0x80, 0x8F, 4⟩
  else none

/-- Reads `n` following bytes, the first of them between `low` and `high`. Gives the code point, if
all are there, and the number of bytes read. -/
def continued (n low high value : Nat) (bytes : List UInt8) : Option Nat × Nat :=
  match n, bytes with
  | 0, _ => (some value, 0)
  | n + 1, b :: rest =>
    if low ≤ b.toNat ∧ b.toNat ≤ high then
      let (r, k) := continued n 0x80 0xBF (value * 64 + (b.toNat - 0x80)) rest
      (r, k + 1)
    else (none, 0)
  | _ + 1, [] => (none, 0)

/-- The characters of a text; `none` stands for an invalid part. -/
def parts : List UInt8 → List (Option Char)
  | [] => []
  | b :: rest =>
    if b < 0x80 then some (Char.ofNat b.toNat) :: parts rest
    else match lead? b.toNat with
      | none => none :: parts rest
      | some l =>
        let (value, k) := continued l.following l.low l.high l.bits rest
        value.map Char.ofNat :: parts (rest.drop k)
termination_by bytes => bytes.length
decreasing_by all_goals simp [List.length_drop]; try omega

/-- The text, if every part of it is valid. -/
def decode? (bytes : List UInt8) : Option String :=
  ((parts bytes).mapM id).map String.ofList

/-- The text with a replacement character for each invalid part. -/
def decodeLenient (bytes : List UInt8) : String :=
  String.ofList ((parts bytes).map fun c => c.getD '\ufffd')

def encode (s : String) : List UInt8 := s.toUTF8.toList

end Registrar.Text.Utf8
