import Mathlib.Logic.Function.Basic
import RankFormula.Proofs.Text.Utf8
import RankFormula.Text.Percent

/-!
# Percent encoding is undone by decoding

A byte that was escaped is decoded as the byte, and a character that stands for itself as its own
bytes. Form encoding makes one exception: a space is written as `+`, and `+` stands for itself
where only escapes are decoded. So decoding gives back the text with every space made a `+`
(`percentDecode?_formEncode`), and the text itself exactly if it has no space.
-/

namespace RankFormula

/-- The upper-case digit of a value is a hexadecimal digit of that value. -/
theorem hexValue?_upperHexDigit : ∀ n < 16, hexValue? (upperHexDigit n) = some n := by decide

/-- The upper-case digits are unreserved. -/
theorem isUnreserved_upperHexDigit : ∀ n < 16, isUnreserved (upperHexDigit n) = true := by decide

/-- An escaped byte is decoded as the byte. -/
theorem percentDecode?_percentByte (b : UInt8) (rest : List Char) :
    percentDecode? (percentByte b ++ rest) = (percentDecode? rest).map (b :: ·) := by
  have small : b.toNat < 256 := b.toNat_lt
  have high := hexValue?_upperHexDigit (b.toNat / 16) (by omega)
  have low := hexValue?_upperHexDigit (b.toNat % 16) (by omega)
  have whole : UInt8.ofNat (16 * (b.toNat / 16) + b.toNat % 16) = b := by
    rw [Nat.div_add_mod, UInt8.ofNat_toNat]
  simp only [percentByte, List.cons_append, List.nil_append, percentDecode?, high, low,
    Option.bind_eq_bind, Option.bind_some, whole]
  cases percentDecode? rest <;> rfl

/-- Escaped bytes are decoded as the bytes. -/
theorem percentDecode?_flatMap_percentByte (bytes : List UInt8) (rest : List Char) :
    percentDecode? (bytes.flatMap percentByte ++ rest) =
      (percentDecode? rest).map (bytes ++ ·) := by
  induction bytes with
  | nil => simp
  | cons b bytes ih =>
    rw [List.flatMap_cons, List.append_assoc, percentDecode?_percentByte, ih, Option.map_map]
    rfl

/-- A character that begins no escape is decoded as its bytes. -/
theorem percentDecode?_cons {c : Char} (literal : c ≠ '%') (rest : List Char) :
    percentDecode? (c :: rest) = (percentDecode? rest).map (String.utf8EncodeChar c ++ ·) := by
  rw [percentDecode?]
  · cases percentDecode? rest <;> rfl
  · rintro _ _ _ rfl
    exact absurd rfl literal
  · rintro rfl
    exact absurd rfl literal

/-- A space as form encoding writes it, any other character as it is. -/
def plusForSpace (c : Char) : Char := if c = ' ' then '+' else c

/-- Where only escapes are decoded, a character in form encoding is decoded as its bytes, but a
space as a `+`. -/
theorem percentDecode?_formEncodeChar (c : Char) (rest : List Char) :
    percentDecode? (formEncodeChar c ++ rest) =
      (percentDecode? rest).map (String.utf8EncodeChar (plusForSpace c) ++ ·) := by
  unfold formEncodeChar
  split
  · next unreserved =>
    have notSpace : c ≠ ' ' := by
      rintro rfl
      exact absurd unreserved (by decide)
    have literal : c ≠ '%' := by
      rintro rfl
      exact absurd unreserved (by decide)
    rw [plusForSpace, if_neg notSpace]
    exact percentDecode?_cons literal rest
  · split
    · next space =>
      rw [plusForSpace, if_pos space]
      exact percentDecode?_cons (by decide) rest
    · next notSpace =>
      rw [plusForSpace, if_neg notSpace]
      exact percentDecode?_flatMap_percentByte _ rest

/-- Where only escapes are decoded, a text in form encoding is decoded with a `+` for every
space. -/
theorem percentDecode?_formEncode (cs : List Char) :
    percentDecode? (formEncode cs) = some (utf8Bytes (cs.map plusForSpace)) := by
  induction cs with
  | nil => rfl
  | cons c cs ih =>
    rw [formEncode, List.flatMap_cons, percentDecode?_formEncodeChar, ← formEncode, ih]
    rfl

/-- Texts of the same bytes are the same. -/
theorem utf8Bytes_injective : Function.Injective utf8Bytes :=
  Function.LeftInverse.injective utf8Text_utf8Bytes

/-- A text is left as it is exactly if it has no space. -/
theorem map_plusForSpace_eq_self {cs : List Char} : cs.map plusForSpace = cs ↔ ' ' ∉ cs := by
  induction cs with
  | nil => simp
  | cons c cs ih =>
    rw [List.map_cons, List.cons.injEq, ih, List.mem_cons, not_or, plusForSpace]
    split
    · next space =>
      subst space
      simp
    · next notSpace => simp [Ne.symm notSpace]

/-- Where only escapes are decoded, form encoding is undone exactly if the text has no space. -/
theorem percentDecode?_formEncode_eq_some_iff {cs : List Char} :
    percentDecode? (formEncode cs) = some (utf8Bytes cs) ↔ ' ' ∉ cs := by
  rw [percentDecode?_formEncode, Option.some.injEq, utf8Bytes_injective.eq_iff,
    map_plusForSpace_eq_self]

/-- Form encoding uses unreserved characters, escapes and the `+`. -/
theorem of_mem_formEncode {c : Char} {cs : List Char} (member : c ∈ formEncode cs) :
    isUnreserved c = true ∨ c = '+' ∨ c = '%' := by
  obtain ⟨source, -, written⟩ := List.mem_flatMap.mp member
  unfold formEncodeChar at written
  split at written
  · next unreserved =>
    obtain rfl := List.mem_singleton.mp written
    exact .inl unreserved
  · split at written
    · exact .inr (.inl (List.mem_singleton.mp written))
    · obtain ⟨b, -, digit⟩ := List.mem_flatMap.mp written
      have small : b.toNat < 256 := b.toNat_lt
      simp only [percentByte, List.mem_cons, List.not_mem_nil, or_false] at digit
      rcases digit with rfl | rfl | rfl
      · exact .inr (.inr rfl)
      · exact .inl (isUnreserved_upperHexDigit _ (by omega))
      · exact .inl (isUnreserved_upperHexDigit _ (by omega))

end RankFormula
