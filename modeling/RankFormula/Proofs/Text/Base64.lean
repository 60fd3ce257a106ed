import RankFormula.Proofs.Text.Utf8
import RankFormula.Text.Base64

/-!
# Bytes survive base 64

The text of a byte string is written with the characters of its `sextets`, six bits each.
Packing the sextets gives back the bytes, and the characters give back the sextets, so
`base64Decode?_base64Encode` needs no case for each length. The alphabet has only letters,
digits, `-` and `_`, so the text can stand between dots.
-/

namespace RankFormula

/-- The six-bit values of a byte string, three bytes to four values. -/
def sextets : List UInt8 → List Nat
  | [] => []
  | [a] => [a.toNat / 4, a.toNat % 4 * 16]
  | [a, b] => [a.toNat / 4, a.toNat % 4 * 16 + b.toNat / 16, b.toNat % 16 * 4]
  | a :: b :: c :: rest =>
    a.toNat / 4 :: (a.toNat % 4 * 16 + b.toNat / 16) :: (b.toNat % 16 * 4 + c.toNat / 64) ::
      c.toNat % 64 :: sextets rest

/-- The text of a byte string shows its sextets. -/
theorem base64Encode_eq_map (bytes : List UInt8) :
    base64Encode bytes = (sextets bytes).map base64Char := by
  fun_induction sextets bytes with
  | case1 => rfl
  | case2 a => rfl
  | case3 a b => rfl
  | case4 a b c rest ih => rw [base64Encode, ih, List.map_cons, List.map_cons, List.map_cons,
      List.map_cons]

/-- Sextets have six bits. -/
theorem lt_of_mem_sextets (bytes : List UInt8) : ∀ n ∈ sextets bytes, n < 64 := by
  fun_induction sextets bytes with
  | case1 => simp
  | case2 a =>
    have := a.toNat_lt
    simp only [List.forall_mem_cons]
    exact ⟨by omega, by omega, by simp⟩
  | case3 a b =>
    have := a.toNat_lt
    have := b.toNat_lt
    simp only [List.forall_mem_cons]
    exact ⟨by omega, by omega, by omega, by simp⟩
  | case4 a b c rest ih =>
    have := a.toNat_lt
    have := b.toNat_lt
    have := c.toNat_lt
    simp only [List.forall_mem_cons]
    exact ⟨by omega, by omega, by omega, by omega, ih⟩

/-- A byte is made of its value. -/
theorem ofNat_eq_byte (b : UInt8) {n : Nat} (same : n = b.toNat) : UInt8.ofNat n = b := by
  rw [same, UInt8.ofNat_toNat]

/-- Sextets are packed into the bytes they were taken from. -/
theorem base64Pack?_sextets (bytes : List UInt8) : base64Pack? (sextets bytes) = some bytes := by
  fun_induction sextets bytes with
  | case1 => rfl
  | case2 a =>
    rw [base64Pack?, ofNat_eq_byte a (by omega)]
  | case3 a b =>
    have := b.toNat_lt
    rw [base64Pack?, ofNat_eq_byte a (by omega), ofNat_eq_byte b (by omega)]
  | case4 a b c rest ih =>
    have := b.toNat_lt
    have := c.toNat_lt
    rw [base64Pack?, ih, ofNat_eq_byte a (by omega), ofNat_eq_byte b (by omega),
      ofNat_eq_byte c (by omega)]
    rfl

/-- A character of the alphabet has the value it stands for. -/
theorem base64Value?_base64Char : ∀ n < 64, base64Value? (base64Char n) = some n := by
  decide

/-- The alphabet has neither line breaks nor dots, and no character of more than seven bits. -/
theorem base64Char_plain : ∀ n < 64, base64Char n ≠ '\n' ∧ base64Char n ≠ '\r' ∧
    base64Char n ≠ '.' ∧ (base64Char n).toNat < 128 := by
  decide

/-- Some text in base 64 is written in the alphabet. -/
theorem mem_base64Encode {bytes : List UInt8} {c : Char} (member : c ∈ base64Encode bytes) :
    ∃ n < 64, base64Char n = c := by
  rw [base64Encode_eq_map] at member
  obtain ⟨n, listed, rfl⟩ := List.mem_map.mp member
  exact ⟨n, lt_of_mem_sextets bytes n listed, rfl⟩

/-- Characters of the alphabet are read as their values. -/
theorem mapM_base64Value? {values : List Nat} (sixBits : ∀ n ∈ values, n < 64) :
    (values.map base64Char).mapM base64Value? = some values := by
  induction values with
  | nil => rfl
  | cons n values ih =>
    obtain ⟨first, others⟩ := List.forall_mem_cons.mp sixBits
    rw [List.map_cons, List.mapM_cons, base64Value?_base64Char n first, ih others]
    rfl

/-- The text of a byte string is read as the bytes. -/
theorem base64Decode?_base64Encode (bytes : List UInt8) :
    base64Decode? (base64Encode bytes) = some bytes := by
  have unbroken : (base64Encode bytes).filter (fun c => c ≠ '\n' && c ≠ '\r') =
      base64Encode bytes := by
    rw [List.filter_eq_self]
    intro c member
    obtain ⟨n, sixBits, rfl⟩ := mem_base64Encode member
    obtain ⟨newline, carriage, -, -⟩ := base64Char_plain n sixBits
    simp [newline, carriage]
  unfold base64Decode?
  rw [unbroken, base64Encode_eq_map, mapM_base64Value? (lt_of_mem_sextets bytes)]
  exact base64Pack?_sextets bytes

end RankFormula
