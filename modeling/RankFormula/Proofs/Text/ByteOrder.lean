import RankFormula.Proofs.Text.Utf8

/-!
# The order of texts is that of their bytes

Texts are compared character by character, and two characters compare as their UTF-8 sequences
do, whatever follows these (`utf8EncodeChar_append_lt`): at the first byte that differs the
smaller character has the smaller one. So names in increasing order are in increasing order of
their bytes.
-/

namespace RankFormula

/-- Sequences of bytes compare at the first byte that differs. -/
theorem byte_cons_lt_cons {m n : Nat} (small : m < 256) (alsoSmall : n < 256)
    {first second : List UInt8} :
    UInt8.ofNat m :: first < UInt8.ofNat n :: second ↔ m < n ∨ m = n ∧ first < second := by
  rw [List.cons_lt_cons_iff, UInt8.lt_iff_toNat_lt, ← UInt8.toNat_inj, toNat_byte small,
    toNat_byte alsoSmall]

/-- A smaller character has smaller bytes, whatever follows them. -/
theorem utf8EncodeChar_append_lt {c d : Char} (less : c < d) (first second : List UInt8) :
    String.utf8EncodeChar c ++ first < String.utf8EncodeChar d ++ second := by
  have order : c.val.toNat < d.val.toNat := UInt32.lt_iff_toNat_lt.mp less
  have bound : d.val.toNat < 0x110000 := by
    have scalar : d.val.toNat < 0xD800 ∨ 0xDFFF < d.val.toNat ∧ d.val.toNat < 0x110000 := d.valid
    omega
  unfold String.utf8EncodeChar
  generalize c.val.toNat = m at order
  generalize d.val.toNat = n at order bound
  dsimp only
  have nested (code : Nat) : code / 64 / 64 = code / 4096 ∧ code / 4096 / 64 = code / 262144 :=
    ⟨Nat.div_div_eq_div_mul .., Nat.div_div_eq_div_mul ..⟩
  have mLead : m / 262144 / 8 = 0 := by omega
  have nLead : n / 262144 / 8 = 0 := by omega
  have mNested := nested m
  have nNested := nested n
  have least : m / 64 ≤ n / 64 := Nat.div_le_div_right (Nat.le_of_lt order)
  have middle : m / 4096 ≤ n / 4096 := Nat.div_le_div_right (Nat.le_of_lt order)
  have greatest : m / 262144 ≤ n / 262144 := Nat.div_le_div_right (Nat.le_of_lt order)
  -- Sequences of different lengths differ in the first byte, those of one length where the codes
  -- do.
  by_cases tails : first < second
  all_goals
    repeat' split
    all_goals
      simp (disch := omega) only [List.cons_append, List.nil_append, byte_cons_lt_cons, tails,
        and_true, and_false, or_false]
      omega

/-- Texts in increasing order are in increasing order of their bytes. -/
theorem utf8Bytes_lt {cs ds : List Char} (less : cs < ds) : utf8Bytes cs < utf8Bytes ds := by
  induction cs generalizing ds with
  | nil =>
    cases ds with
    | nil => exact absurd less (List.lt_irrefl [])
    | cons d ds =>
      obtain ⟨first, others, encoded, -⟩ := nextUtf8Unit_utf8EncodeChar d []
      rw [utf8Bytes, utf8Bytes, List.flatMap_cons, encoded]
      exact List.nil_lt_cons _ _
  | cons c cs ih =>
    cases ds with
    | nil => exact absurd less (List.not_lt_nil _)
    | cons d ds =>
      rw [utf8Bytes, utf8Bytes, List.flatMap_cons, List.flatMap_cons]
      obtain smaller | ⟨rfl, later⟩ := List.cons_lt_cons_iff.mp less
      · exact utf8EncodeChar_append_lt smaller _ _
      · exact List.append_left_lt (ih later)

/-- Strings in increasing order are in increasing order of their bytes. -/
theorem utf8Bytes_toList_lt {s t : String} (less : s < t) :
    utf8Bytes s.toList < utf8Bytes t.toList :=
  utf8Bytes_lt (String.lt_iff.mp less)

end RankFormula
