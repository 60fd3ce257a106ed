import RankFormula.Numeral.Integer
import RankFormula.Proofs.Numeral.Digits

/-!
# Integers of 64 bits in decimal

`WritesInteger` says which integer a text of digits with an optional sign writes, without a bound.
Reading answers exactly the integers of 64 bits (`readInteger_eq_ok_iff`): no text is read as
another integer than the one it writes, however long it is.
-/

namespace RankFormula

/-- The characters that count less than ten are the digits. -/
theorem baseDigit?_lt_ten_iff {c : Char} {d : Nat} :
    baseDigit? c = some d ∧ d < 10 ↔ c.isDigit = true ∧ d = c.toNat - '0'.toNat := by
  constructor
  · rintro ⟨found, small⟩
    unfold baseDigit? at found
    split at found
    · next digit => exact ⟨digit, (Option.some.inj found).symm⟩
    · split at found
      · have value := Option.some.inj found
        omega
      · split at found
        · have value := Option.some.inj found
          omega
        · cases found
  · rintro ⟨digit, rfl⟩
    exact holds_of_isDigit digit (by decide)

/-- Digits do not make less of what was read before them. -/
theorem le_ofDigitChars (cs : List Char) (before : Nat) :
    before ≤ Nat.ofDigitChars 10 cs before := by
  rw [Nat.ofDigitChars_eq_ofDigitChars_zero]
  have scaled := Nat.le_mul_of_pos_left before
    (Nat.pow_pos (by decide : 0 < 10) : 0 < 10 ^ cs.length)
  omega

/-- Digits are read onto what was read before them, as long as the number has 64 bits. -/
theorem readDigits_eq_ok_iff {cs : List Char} {before n : Nat} (bounded : before < wordModulus) :
    readDigits 10 before cs = .ok n ↔
      (∀ c ∈ cs, c.isDigit = true) ∧ Nat.ofDigitChars 10 cs before = n ∧ n < wordModulus := by
  induction cs generalizing before with
  | nil =>
    simp only [readDigits, Except.ok.injEq, List.not_mem_nil, false_implies, implies_true,
      true_and, Nat.ofDigitChars_nil]
    omega
  | cons c cs ih =>
    rw [readDigits, List.forall_mem_cons, Nat.ofDigitChars_cons]
    by_cases digit : c.isDigit = true
    · obtain ⟨value, small⟩ := baseDigit?_lt_ten_iff.mpr ⟨digit, rfl⟩
      rw [value]
      dsimp only
      rw [if_neg (Nat.not_le.mpr small)]
      split
      · next leaves =>
        have grows := le_ofDigitChars cs (10 * before + (c.toNat - '0'.toNat))
        refine iff_of_false (by simp) fun ⟨_, same, below⟩ => ?_
        omega
      · next stays =>
        rw [ih (Nat.not_le.mp stays)]
        simp only [digit, true_and]
    · have malformed : ∀ d, baseDigit? c = some d → 10 ≤ d := fun d found =>
        Nat.not_lt.mp fun small => digit (baseDigit?_lt_ten_iff.mp ⟨found, small⟩).1
      refine iff_of_false ?_ fun proper => digit proper.1.1
      cases found : baseDigit? c with
      | none => simp
      | some d => simp [malformed d found]

/-- A text of at least one digit. -/
structure IsNumeral (cs : List Char) : Prop where
  /-- There is a digit. -/
  nonempty : cs ≠ []
  /-- There is nothing else. -/
  digits : ∀ c ∈ cs, c.isDigit = true

/-- A text that is read as a number consists of digits, and the number is the one of the digits. -/
theorem readMagnitude_eq_ok_iff {cs : List Char} {n : Nat} :
    readMagnitude 10 cs = .ok n ↔ IsNumeral cs ∧ digitsValue cs = n ∧ n < wordModulus := by
  cases cs with
  | nil => exact iff_of_false (by simp [readMagnitude]) fun proper => proper.1.nonempty rfl
  | cons c cs =>
    refine (readDigits_eq_ok_iff (by decide : 0 < wordModulus)).trans (and_congr_left fun _ => ?_)
    exact ⟨fun digits => ⟨List.cons_ne_nil c cs, digits⟩, fun numeral => numeral.digits⟩

/-- The integer that a text of digits writes, with a sign in front or without. -/
inductive WritesInteger : List Char → Int → Prop where
  /-- Without a sign. -/
  | unsigned {cs : List Char} (numeral : IsNumeral cs) : WritesInteger cs (digitsValue cs)
  /-- With a plus sign. -/
  | plus {cs : List Char} (numeral : IsNumeral cs) : WritesInteger ('+' :: cs) (digitsValue cs)
  /-- With a minus sign. -/
  | minus {cs : List Char} (numeral : IsNumeral cs) :
    WritesInteger ('-' :: cs) (-(digitsValue cs : Int))

/-- A text writes one integer at most. -/
theorem WritesInteger.unique {cs : List Char} {n m : Int} (first : WritesInteger cs n)
    (second : WritesInteger cs m) : n = m := by
  have plus : '+'.isDigit ≠ true := by decide
  have minus : '-'.isDigit ≠ true := by decide
  cases first with
  | unsigned numeral =>
    cases second with
    | unsigned _ => rfl
    | plus _ => exact absurd (numeral.digits '+' List.mem_cons_self) plus
    | minus _ => exact absurd (numeral.digits '-' List.mem_cons_self) minus
  | plus _ =>
    cases second with
    | unsigned numeral => exact absurd (numeral.digits '+' List.mem_cons_self) plus
    | plus _ => rfl
  | minus _ =>
    cases second with
    | unsigned numeral => exact absurd (numeral.digits '-' List.mem_cons_self) minus
    | minus _ => rfl

/-- A text that writes an integer is not empty. -/
theorem WritesInteger.ne_nil {cs : List Char} {n : Int} (writes : WritesInteger cs n) :
    cs ≠ [] := by
  cases writes with
  | unsigned numeral => exact numeral.nonempty
  | _ => exact List.cons_ne_nil _ _

/-- A number with a sign is an integer of 64 bits unless its magnitude is too large. -/
theorem signedInRange_eq_ok_iff {negative : Bool} {magnitude : Nat} {n : Int} :
    signedInRange negative magnitude = .ok n ↔
      (if negative then -(magnitude : Int) else magnitude) = n ∧
        -(signedLimit : Int) ≤ n ∧ n < signedLimit := by
  have limit : (0 : Int) < signedLimit := by decide
  unfold signedInRange
  split
  · split
    · exact iff_of_false (by simp) (by omega)
    · simp only [Except.ok.injEq]
      omega
  · split
    · exact iff_of_false (by simp) (by omega)
    · simp only [Except.ok.injEq]
      omega

/-- Digits with a sign are read as the integer that they write, if it has 64 bits. -/
theorem readMagnitude_signed_eq_ok_iff {negative : Bool} {cs : List Char} {n : Int} :
    (readMagnitude 10 cs >>= signedInRange negative) = .ok n ↔
      IsNumeral cs ∧ (if negative then -(digitsValue cs : Int) else digitsValue cs) = n ∧
        -(signedLimit : Int) ≤ n ∧ n < signedLimit := by
  have narrower : (signedLimit : Int) < wordModulus := by decide
  constructor
  · intro read
    cases magnitude : readMagnitude 10 cs with
    | error fault => simp [magnitude, bind, Except.bind] at read
    | ok value =>
      rw [magnitude] at read
      obtain ⟨numeral, rfl, -⟩ := readMagnitude_eq_ok_iff.mp magnitude
      exact ⟨numeral, signedInRange_eq_ok_iff.mp read⟩
  · rintro ⟨numeral, inRange⟩
    have bounded : digitsValue cs < wordModulus := by
      cases negative <;> simp only [Bool.false_eq_true, if_true, if_false] at inRange <;> omega
    rw [readMagnitude_eq_ok_iff.mpr ⟨numeral, rfl, bounded⟩]
    exact signedInRange_eq_ok_iff.mpr inRange

/-- A text is read as an integer exactly if it writes that integer and the integer has 64 bits. -/
theorem readInteger_eq_ok_iff {cs : List Char} {n : Int} :
    readInteger 10 cs = .ok n ↔
      WritesInteger cs n ∧ -(signedLimit : Int) ≤ n ∧ n < signedLimit := by
  constructor
  · intro read
    unfold readInteger at read
    split at read
    · obtain ⟨numeral, rfl, inRange⟩ := readMagnitude_signed_eq_ok_iff.mp read
      exact ⟨.minus numeral, inRange⟩
    · obtain ⟨numeral, rfl, inRange⟩ := readMagnitude_signed_eq_ok_iff.mp read
      exact ⟨.plus numeral, inRange⟩
    · obtain ⟨numeral, rfl, inRange⟩ := readMagnitude_signed_eq_ok_iff.mp read
      exact ⟨.unsigned numeral, inRange⟩
  · rintro ⟨writes, inRange⟩
    cases writes with
    | unsigned numeral =>
      have unsigned : ∀ c ∈ cs, c ≠ '-' ∧ c ≠ '+' :=
        fun c member => holds_of_isDigit (numeral.digits c member) (by decide)
      unfold readInteger
      split
      · exact absurd rfl (unsigned '-' List.mem_cons_self).1
      · exact absurd rfl (unsigned '+' List.mem_cons_self).2
      · exact readMagnitude_signed_eq_ok_iff.mpr ⟨numeral, rfl, inRange⟩
    | plus numeral => exact readMagnitude_signed_eq_ok_iff.mpr ⟨numeral, rfl, inRange⟩
    | minus numeral => exact readMagnitude_signed_eq_ok_iff.mpr ⟨numeral, rfl, inRange⟩

end RankFormula
