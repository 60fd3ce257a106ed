import Mathlib.Algebra.Group.Nat.Defs
import RankFormula.Numeral.Reading

/-!
# Decimal digits

The digits of a number are digits, do not start with a zero unless the number is one, and are
read back as the number. A run of digits ends where the first other character stands.
-/

namespace RankFormula

/-- The ten digits. -/
def digitChars : List Char := ['0', '1', '2', '3', '4', '5', '6', '7', '8', '9']

/-- Digits have seven bits. -/
theorem toNat_lt_of_isDigit {c : Char} (digit : c.isDigit = true) : c.toNat < 128 := by
  have bound : c.val ≤ '9'.val := by
    simp only [Char.isDigit, Bool.and_eq_true, decide_eq_true_eq] at digit
    exact digit.2
  exact Nat.lt_of_le_of_lt (UInt32.le_iff_toNat_le.mp bound) (by decide)

/-- What holds of the ten digits holds of every digit. -/
@[elab_as_elim]
theorem holds_of_isDigit {holds : Char → Prop} [DecidablePred holds] {c : Char}
    (digit : c.isDigit = true) (each : digitChars.all (fun c => decide (holds c)) = true) :
    holds c := by
  have known : ∀ n < 128, (Char.ofNat n).isDigit = true → Char.ofNat n ∈ digitChars := by
    decide +kernel
  have found := known c.toNat (toNat_lt_of_isDigit digit)
  rw [Char.ofNat_toNat] at found
  exact of_decide_eq_true (List.all_eq_true.mp each c (found digit))

/-- The decimal digits of a number are digits. -/
theorem isDigit_of_mem_decimalDigits {value : Nat} {c : Char} (member : c ∈ decimalDigits value) :
    c.isDigit = true :=
  Nat.isDigit_of_mem_toDigits (by decide) (by decide) member

/-- Every number has digits. -/
theorem decimalDigits_ne_nil (value : Nat) : decimalDigits value ≠ [] := Nat.toDigits_ne_nil

/-- The digits of a number that is not zero do not start with a zero. -/
theorem head?_decimalDigits_ne_zero {value : Nat} (positive : 0 < value) :
    (decimalDigits value).head? ≠ some '0' := by
  unfold decimalDigits
  induction value using Nat.strongRecOn with
  | ind value ih =>
    by_cases single : value < 10
    · have nonzero : ∀ n < 10, 0 < n → n.digitChar ≠ '0' := by decide
      rw [Nat.toDigits_of_lt_base single]
      exact fun first => nonzero value single positive (Option.some.inj first)
    · obtain ⟨first, others, digits⟩ :=
        List.exists_cons_of_ne_nil (Nat.toDigits_ne_nil : Nat.toDigits 10 (value / 10) ≠ [])
      have earlier := ih (value / 10) (by omega) (by omega)
      rw [digits] at earlier
      rw [Nat.toDigits_of_base_le (by decide) (by omega), digits]
      exact earlier

/-- The value of a string of digits is that of its parts. -/
theorem digitsValue_append (first second : List Char) :
    digitsValue (first ++ second) = 10 ^ second.length * digitsValue first + digitsValue second :=
  (Nat.ofDigitChars_append 0).trans Nat.ofDigitChars_eq_ofDigitChars_zero

/-- The digits of a number have its value. -/
theorem digitsValue_decimalDigits (value : Nat) : digitsValue (decimalDigits value) = value :=
  Nat.ofDigitChars_ten_toDigits

/-- Zeros have no value. -/
theorem digitsValue_replicate_zero (count : Nat) :
    digitsValue (List.replicate count '0') = 0 :=
  Nat.ofDigitChars_replicate_zero.trans (Nat.mul_zero _)

/-- A run of characters of a class ends where the class does. -/
theorem span_append {holds : Char → Bool} {run rest : List Char}
    (inside : ∀ c ∈ run, holds c = true) (outside : ∀ d ∈ rest.head?, holds d = false) :
    (run ++ rest).takeWhile holds = run ∧ (run ++ rest).dropWhile holds = rest := by
  rw [List.takeWhile_append_of_pos inside, List.dropWhile_append_of_pos inside]
  cases rest with
  | nil => simp
  | cons d rest =>
    have stops := outside d rfl
    simp [stops]

end RankFormula
