import Registrar.Text.Utf8
/-!
# The order of bytes

Text is ordered by its characters. The bytes of a smaller character differ from those of a larger one
before either ends, and the first difference goes the same way (`utf8EncodeChar_precedes`), so the order
of text is the order of its bytes (`encode_lt_iff`).
-/
namespace Registrar.Text.Utf8

/-- The bytes of an array that are still to be listed follow those listed before. -/
theorem toList_loop_eq (bs : ByteArray) (i : Nat) (r : List UInt8) :
    ByteArray.toList.loop bs i r = r.reverse ++ bs.data.toList.drop i := by
  rw [ByteArray.toList.loop]
  split
  · rename_i h
    have hbyte : bs.data.toList.drop i = bs.get! i :: bs.data.toList.drop (i + 1) := by
      rw [List.drop_eq_getElem_cons (by simpa using h)]
      simp [ByteArray.get!, h]
    rw [toList_loop_eq, hbyte, List.reverse_cons, List.append_assoc, List.singleton_append]
  · rename_i h
    have hover : bs.data.toList.length ≤ i := by simpa using h
    rw [List.drop_eq_nil_of_le hover, List.append_nil]
termination_by bs.size - i

theorem encode_eq (s : String) : encode s = s.toList.flatMap String.utf8EncodeChar := by
  have hbytes : s.toUTF8.data.toList = s.toList.flatMap String.utf8EncodeChar := by
    rw [String.toUTF8, ← String.utf8Encode_toList, List.utf8Encode, List.data_toByteArray]
  rw [encode, ByteArray.toList, toList_loop_eq, hbytes]
  simp

/-- The lists differ before either ends, and the first has the smaller byte there. -/
inductive Precedes : List UInt8 → List UInt8 → Prop
  | here {u v : UInt8} (a b : List UInt8) : u < v → Precedes (u :: a) (v :: b)
  | later (u : UInt8) {a b : List UInt8} : Precedes a b → Precedes (u :: a) (u :: b)

theorem Precedes.append_lt {x y : List UInt8} (h : Precedes x y) (s t : List UInt8) :
    x ++ s < y ++ t := by
  induction h with
  | here a b hlt => exact List.Lex.rel hlt
  | later u _ ih => exact List.Lex.cons ih

theorem ofNat_lt_ofNat {m n : Nat} (h : m < n) (hn : n < 256) : UInt8.ofNat m < UInt8.ofNat n := by
  rw [UInt8.lt_iff_toNat_lt, UInt8.toNat_ofNat', UInt8.toNat_ofNat', Nat.mod_eq_of_lt (by omega),
    Nat.mod_eq_of_lt (by omega)]
  exact h

theorem precedes_of_lt {m n : Nat} (h : m < n) (hn : n < 256) (a b : List UInt8) :
    Precedes (UInt8.ofNat m :: a) (UInt8.ofNat n :: b) :=
  .here a b (ofNat_lt_ofNat h hn)

/-- Where the first bytes agree, the others decide. -/
theorem precedes_cons {m n : Nat} {a b : List UInt8} (hle : m ≤ n) (hn : n < 256)
    (h : m = n → Precedes a b) : Precedes (UInt8.ofNat m :: a) (UInt8.ofNat n :: b) := by
  rcases Nat.lt_or_eq_of_le hle with hlt | rfl
  · exact precedes_of_lt hlt hn a b
  · exact .later _ (h rfl)

/-- The bytes of a character by the size of its code. -/
theorem utf8EncodeChar_cases (c : Char) :
    (c.toNat < 0x80 ∧ String.utf8EncodeChar c = [UInt8.ofNat c.toNat]) ∨
    (0x80 ≤ c.toNat ∧ c.toNat < 0x800 ∧ String.utf8EncodeChar c =
      [UInt8.ofNat (c.toNat / 64 % 32 + 192), UInt8.ofNat (c.toNat % 64 + 128)]) ∨
    (0x800 ≤ c.toNat ∧ c.toNat < 0x10000 ∧ String.utf8EncodeChar c =
      [UInt8.ofNat (c.toNat / 4096 % 16 + 224), UInt8.ofNat (c.toNat / 64 % 64 + 128),
       UInt8.ofNat (c.toNat % 64 + 128)]) ∨
    (0x10000 ≤ c.toNat ∧ String.utf8EncodeChar c =
      [UInt8.ofNat (c.toNat / 262144 % 8 + 240), UInt8.ofNat (c.toNat / 4096 % 64 + 128),
       UInt8.ofNat (c.toNat / 64 % 64 + 128), UInt8.ofNat (c.toNat % 64 + 128)]) := by
  have hcode : c.val.toNat = c.toNat := rfl
  unfold String.utf8EncodeChar
  rw [hcode]
  by_cases h₁ : c.toNat ≤ 0x7f
  · exact .inl ⟨by omega, if_pos h₁⟩
  by_cases h₂ : c.toNat ≤ 0x7ff
  · exact .inr (.inl ⟨by omega, by omega, by rw [if_neg h₁, if_pos h₂]⟩)
  by_cases h₃ : c.toNat ≤ 0xffff
  · exact .inr (.inr (.inl ⟨by omega, by omega, by rw [if_neg h₁, if_neg h₂, if_pos h₃]⟩))
  · exact .inr (.inr (.inr ⟨by omega, by rw [if_neg h₁, if_neg h₂, if_neg h₃]⟩))

/-- A character with more bytes has a larger first byte; with as many, the digits decide. -/
theorem utf8EncodeChar_precedes {c d : Char} (h : c < d) :
    Precedes (String.utf8EncodeChar c) (String.utf8EncodeChar d) := by
  have hlt : c.toNat < d.toNat := h
  have hmax : d.toNat < 0x110000 := by
    rcases d.valid with hd | hd
    · exact Nat.lt_trans hd (by decide)
    · exact hd.2
  rcases utf8EncodeChar_cases c with ⟨hc, ec⟩ | ⟨hc, hc', ec⟩ | ⟨hc, hc', ec⟩ | ⟨hc, ec⟩
  · rcases utf8EncodeChar_cases d with ⟨hd, ed⟩ | ⟨hd, hd', ed⟩ | ⟨hd, hd', ed⟩ | ⟨hd, ed⟩ <;>
      rw [ec, ed] <;> exact precedes_of_lt (by omega) (by omega) _ _
  · rcases utf8EncodeChar_cases d with ⟨hd, ed⟩ | ⟨hd, hd', ed⟩ | ⟨hd, hd', ed⟩ | ⟨hd, ed⟩
    · omega
    · rw [ec, ed]
      refine precedes_cons (by omega) (by omega) fun h₁ => ?_
      exact precedes_of_lt (by omega) (by omega) _ _
    all_goals rw [ec, ed]; exact precedes_of_lt (by omega) (by omega) _ _
  · rcases utf8EncodeChar_cases d with ⟨hd, ed⟩ | ⟨hd, hd', ed⟩ | ⟨hd, hd', ed⟩ | ⟨hd, ed⟩
    · omega
    · omega
    · rw [ec, ed]
      refine precedes_cons (by omega) (by omega) fun h₁ => ?_
      refine precedes_cons (by omega) (by omega) fun h₂ => ?_
      exact precedes_of_lt (by omega) (by omega) _ _
    · rw [ec, ed]
      exact precedes_of_lt (by omega) (by omega) _ _
  · rcases utf8EncodeChar_cases d with ⟨hd, ed⟩ | ⟨hd, hd', ed⟩ | ⟨hd, hd', ed⟩ | ⟨hd, ed⟩
    · omega
    · omega
    · omega
    · rw [ec, ed]
      refine precedes_cons (by omega) (by omega) fun h₁ => ?_
      refine precedes_cons (by omega) (by omega) fun h₂ => ?_
      refine precedes_cons (by omega) (by omega) fun h₃ => ?_
      exact precedes_of_lt (by omega) (by omega) _ _

theorem flatMap_utf8EncodeChar_lt {s t : List Char} (h : s < t) :
    s.flatMap String.utf8EncodeChar < t.flatMap String.utf8EncodeChar := by
  induction h with
  | @nil c t =>
    obtain ⟨u, a, hc⟩ := List.exists_cons_of_ne_nil (String.utf8EncodeChar_ne_nil (c := c))
    rw [List.flatMap_cons, hc]
    exact List.Lex.nil
  | rel hlt => exact (utf8EncodeChar_precedes hlt).append_lt _ _
  | cons _ ih => exact List.append_left_lt ih

theorem encode_lt_iff {s t : String} : encode s < encode t ↔ s < t := by
  have hmono : ∀ {s t : String}, s < t → encode s < encode t := by
    intro s t h
    rw [encode_eq, encode_eq]
    exact flatMap_utf8EncodeChar_lt (String.lt_iff.1 h)
  refine ⟨fun h => ?_, hmono⟩
  refine Classical.byContradiction fun hst => ?_
  by_cases hts : t < s
  · exact List.lt_asymm h (hmono hts)
  · obtain rfl : s = t := Std.Trichotomous.trichotomous s t hst hts
    exact List.lt_irrefl _ h

end Registrar.Text.Utf8
