import RankFormula.Json.Reader
import RankFormula.Json.Writer
import RankFormula.Proofs.Numeral.Digits

/-!
# Numbers survive being written in JSON

A number is written as digits, perhaps a point with more digits, and perhaps an exponent:
`NumberText` holds these parts, and reading such a text gives them back
(`readUnsigned_chars`). What a decimal is read as once it is written is `Decimal.reread`: the
decimal itself, or the same number with its zeros written out.
-/

namespace RankFormula

/-- The decimal that is read where a decimal was written: where no digit stands behind the
point and no exponent is written, the power of ten has become zeros. -/
def Decimal.reread (d : Decimal) : Decimal :=
  if d.coefficient = 0 then ⟨d.negative, 0, 0⟩
  else if 0 ≤ d.exponent ∧ d.exponent + (decimalDigits d.coefficient).length ≤ 21 then
    ⟨d.negative, d.coefficient * 10 ^ d.exponent.toNat, 0⟩
  else d

/-- An integer is read as it was written. -/
@[simp] theorem Decimal.reread_ofInt (n : Int) : (ofInt n).reread = ofInt n := by
  unfold reread
  split
  · next zero => exact (congrArg (Decimal.mk (ofInt n).negative · 0) zero).symm
  · split
    · exact congrArg (Decimal.mk (ofInt n).negative · 0) (Nat.mul_one _)
    · rfl

namespace Json

/-- A number without its sign, in parts. -/
structure NumberText where
  /-- The digits before the point. -/
  whole : List Char
  /-- The digits behind it; without any there is no point. -/
  fraction : List Char
  /-- The power of ten, if one is written. -/
  exponent : Option Int

namespace NumberText

/-- The point with the digits behind it. -/
def fractionChars (fraction : List Char) : List Char :=
  if fraction.isEmpty then [] else '.' :: fraction

/-- The exponent as it is written. -/
def exponentChars : Option Int → List Char
  | none => []
  | some exponent => writeExponent numberLayout.exponentWidth exponent

/-- The characters of a number. -/
def chars (text : NumberText) : List Char :=
  text.whole ++ (fractionChars text.fraction ++ exponentChars text.exponent)

/-- The number that the parts stand for. -/
def decimal (text : NumberText) (negative : Bool) : Decimal :=
  .ofDigits negative text.whole text.fraction (text.exponent.getD 0)

/-- The parts follow the grammar of numbers. -/
structure Proper (text : NumberText) : Prop where
  /-- There are digits before the point. -/
  nonempty : text.whole ≠ []
  /-- They are digits. -/
  digits : ∀ c ∈ text.whole, c.isDigit = true
  /-- They start with a zero only if it is alone. -/
  noLeadingZero : text.whole.head? = some '0' → text.whole = ['0']
  /-- So are those behind the point. -/
  fractionDigits : ∀ c ∈ text.fraction, c.isDigit = true

/-- A zero may stand alone before the point. -/
theorem proper_zero {fraction : List Char} {exponent : Option Int}
    (fractionDigits : ∀ c ∈ fraction, c.isDigit = true) : Proper ⟨['0'], fraction, exponent⟩ where
  nonempty := List.cons_ne_nil _ _
  digits := fun _ member => List.mem_singleton.mp member ▸ rfl
  noLeadingZero := fun _ => rfl
  fractionDigits := fractionDigits

/-- So may digits that do not start with a zero. -/
theorem proper_digits {whole fraction : List Char} {exponent : Option Int} (nonempty : whole ≠ [])
    (digits : ∀ c ∈ whole, c.isDigit = true) (leading : whole.head? ≠ some '0')
    (fractionDigits : ∀ c ∈ fraction, c.isDigit = true) : Proper ⟨whole, fraction, exponent⟩ where
  nonempty := nonempty
  digits := digits
  noLeadingZero := fun zero => absurd zero leading
  fractionDigits := fractionDigits

end NumberText

/-- Nothing follows a number that would make it longer. -/
def EndsNumber (rest : List Char) : Prop :=
  ∀ c ∈ rest.head?, isAsciiDigit c = false ∧ c ≠ '.' ∧ c ≠ 'e' ∧ c ≠ 'E'

section Parts

variable {digits rest : List Char}

/-- Digits in front of something else are split off. -/
theorem spanDigits_append (inside : ∀ c ∈ digits, c.isDigit = true)
    (outside : ∀ c ∈ rest.head?, isAsciiDigit c = false) :
    spanDigits (digits ++ rest) = (digits, rest) := by
  have split : (digits ++ rest).takeWhile isAsciiDigit = digits ∧
      (digits ++ rest).dropWhile isAsciiDigit = rest := span_append inside outside
  rw [spanDigits, split.1, split.2]

/-- The digits before the point are read up to the first other character. -/
theorem readWhole_append (nonempty : digits ≠ []) (inside : ∀ c ∈ digits, c.isDigit = true)
    (noLeadingZero : digits.head? = some '0' → digits = ['0'])
    (outside : ∀ c ∈ rest.head?, isAsciiDigit c = false) :
    readWhole (digits ++ rest) = some (digits, rest) := by
  have found := spanDigits_append inside outside
  obtain ⟨first, others, rfl⟩ := List.exists_cons_of_ne_nil nonempty
  rw [List.cons_append] at found ⊢
  by_cases zero : first = '0'
  · obtain ⟨-, rfl⟩ := List.cons.inj (noLeadingZero (congrArg some zero))
    subst zero
    rfl
  · rw [readWhole]
    · rw [found]
    · intro rest' same
      exact zero (List.cons.inj same).1

/-- The digits behind a point are read up to the first other character. -/
theorem readFraction_append (inside : ∀ c ∈ digits, c.isDigit = true)
    (outside : ∀ c ∈ rest.head?, isAsciiDigit c = false ∧ c ≠ '.') :
    readFraction (NumberText.fractionChars digits ++ rest) = some (digits, rest) := by
  unfold NumberText.fractionChars
  cases digits with
  | nil =>
    cases rest with
    | nil => rfl
    | cons c rest => simp [readFraction, (outside c rfl).2]
  | cons first others =>
    have found := spanDigits_append inside fun c member => (outside c member).1
    rw [List.isEmpty_cons, if_neg Bool.false_ne_true, List.cons_append, readFraction, found]

/-- A written exponent needs no zeros in front. -/
theorem writeExponent_eq (exponent : Int) :
    writeExponent numberLayout.exponentWidth exponent =
      'e' :: (if exponent < 0 then '-' else '+') :: decimalDigits exponent.natAbs := by
  have digits := List.length_pos_iff.mpr (decimalDigits_ne_nil exponent.natAbs)
  have full : numberLayout.exponentWidth - (decimalDigits exponent.natAbs).length = 0 := by
    show 1 - (decimalDigits exponent.natAbs).length = 0
    omega
  rw [writeExponent, full]
  rfl

/-- Digits behind a sign are read as a number with that sign. -/
theorem readSignedDigits_append (exponent : Int)
    (outside : ∀ c ∈ rest.head?, isAsciiDigit c = false) :
    readSignedDigits ((if exponent < 0 then '-' else '+') ::
      (decimalDigits exponent.natAbs ++ rest)) = some (exponent, rest) := by
  have found : spanDigits (decimalDigits exponent.natAbs ++ rest) = _ :=
    spanDigits_append (fun _ => isDigit_of_mem_decimalDigits) outside
  have value := digitsValue_decimalDigits exponent.natAbs
  obtain ⟨first, others, digits⟩ :=
    List.exists_cons_of_ne_nil (decimalDigits_ne_nil exponent.natAbs)
  rw [digits] at found value ⊢
  by_cases negative : exponent < 0
  · rw [if_pos negative, readSignedDigits]
    simp only [found, value, if_true, Option.some.injEq, Prod.mk.injEq, and_true]
    omega
  · rw [if_neg negative, readSignedDigits]
    simp only [found, value, Bool.false_eq_true, if_false, Option.some.injEq, Prod.mk.injEq,
      and_true]
    omega

/-- A written exponent is read as the number it is of. -/
theorem readExponent_append (exponent : Option Int)
    (outside : ∀ c ∈ rest.head?, isAsciiDigit c = false ∧ c ≠ 'e' ∧ c ≠ 'E') :
    readExponent (NumberText.exponentChars exponent ++ rest) = some (exponent.getD 0, rest) := by
  cases exponent with
  | none =>
    cases rest with
    | nil => rfl
    | cons c rest => simp [NumberText.exponentChars, readExponent, outside c rfl]
  | some exponent =>
    rw [NumberText.exponentChars, writeExponent_eq, List.cons_append, List.cons_append,
      readExponent]
    exact readSignedDigits_append exponent fun c member => (outside c member).1

/-- Neither a digit nor a point stands behind the digits of a number. -/
theorem head?_exponentChars_append (exponent : Option Int) (ends : EndsNumber rest) :
    ∀ c ∈ (NumberText.exponentChars exponent ++ rest).head?,
      isAsciiDigit c = false ∧ c ≠ '.' := by
  intro c member
  cases exponent with
  | none => exact ⟨(ends c member).1, (ends c member).2.1⟩
  | some exponent =>
    rw [NumberText.exponentChars, writeExponent_eq] at member
    obtain rfl := Option.some.inj member
    decide

/-- No digit stands behind the digits before the point. -/
theorem head?_fractionChars_append (fraction : List Char)
    (outside : ∀ c ∈ rest.head?, isAsciiDigit c = false) :
    ∀ c ∈ (NumberText.fractionChars fraction ++ rest).head?, isAsciiDigit c = false := by
  intro c member
  cases fraction with
  | nil => exact outside c member
  | cons first others =>
    obtain rfl := Option.some.inj member
    decide

/-- The parts of a number are read as they were written. -/
theorem readUnsigned_chars {text : NumberText} (proper : text.Proper) (ends : EndsNumber rest)
    (negative : Bool) :
    readUnsigned negative (text.chars ++ rest) = some (text.decimal negative, rest) := by
  have behindFraction := head?_exponentChars_append text.exponent ends
  have behindWhole := head?_fractionChars_append text.fraction
    fun c member => (behindFraction c member).1
  have whole := readWhole_append proper.nonempty proper.digits proper.noLeadingZero behindWhole
  have fraction := readFraction_append proper.fractionDigits behindFraction
  have exponent := readExponent_append text.exponent
    fun c member => ⟨(ends c member).1, (ends c member).2.2⟩
  rw [NumberText.chars, List.append_assoc, List.append_assoc, readUnsigned, whole]
  simp only [Option.bind_eq_bind, Option.bind_some, fraction, exponent]
  rfl

end Parts

section Layout

variable {digits : List Char} (negative : Bool)

/-- Zeros are digits. -/
theorem isDigit_of_mem_replicate {count : Nat} {c : Char} (member : c ∈ List.replicate count '0') :
    c.isDigit = true := by
  rw [List.eq_of_mem_replicate member]
  rfl

/-- Digits with a point among them are the parts of a number. Where no digit stands behind the
point, zeros fill the places up to it. -/
theorem exists_placePoint (nonempty : digits ≠ []) (inside : ∀ c ∈ digits, c.isDigit = true)
    (leading : digits.head? ≠ some '0') (point : Int) :
    ∃ text : NumberText, text.Proper ∧ placePoint digits point = text.chars ∧
      text.decimal negative =
        if digits.length ≤ point then
          ⟨negative, digitsValue digits * 10 ^ (point - digits.length).toNat, 0⟩
        else ⟨negative, digitsValue digits, point - digits.length⟩ := by
  have positive := List.length_pos_iff.mpr nonempty
  unfold placePoint
  by_cases before : point ≤ 0
  · refine ⟨⟨['0'], List.replicate (-point).toNat '0' ++ digits, none⟩, NumberText.proper_zero ?_,
      ?_, ?_⟩
    · intro c member
      rcases List.mem_append.mp member with zero | digit
      · exact isDigit_of_mem_replicate zero
      · exact inside c digit
    · simp [NumberText.chars, NumberText.fractionChars, NumberText.exponentChars, before, nonempty]
    · have value : digitsValue ('0' :: (List.replicate (-point).toNat '0' ++ digits)) =
          digitsValue digits := by
        rw [← List.cons_append, ← List.replicate_succ, digitsValue_append,
          digitsValue_replicate_zero, Nat.mul_zero, Nat.zero_add]
      rw [if_neg (by omega), NumberText.decimal, Decimal.ofDigits, List.singleton_append, value]
      simp only [Option.getD_none, List.length_append, List.length_replicate, Decimal.mk.injEq,
        true_and]
      omega
  by_cases behind : (digits.length : Int) ≤ point
  · refine ⟨⟨digits ++ List.replicate (point - digits.length).toNat '0', [], none⟩,
      NumberText.proper_digits ?_ ?_ ?_ ?_, ?_, ?_⟩
    · exact List.append_ne_nil_of_left_ne_nil nonempty _
    · intro c member
      rcases List.mem_append.mp member with digit | zero
      · exact inside c digit
      · exact isDigit_of_mem_replicate zero
    · obtain ⟨first, others, rfl⟩ := List.exists_cons_of_ne_nil nonempty
      exact leading
    · exact fun _ member => absurd member List.not_mem_nil
    · simp [NumberText.chars, NumberText.fractionChars, NumberText.exponentChars, before, behind]
    · rw [if_pos behind, NumberText.decimal, Decimal.ofDigits, List.append_nil, digitsValue_append,
        digitsValue_replicate_zero, List.length_replicate, Nat.add_zero, Nat.mul_comm]
      rfl
  · refine ⟨⟨digits.take point.toNat, digits.drop point.toNat, none⟩,
      NumberText.proper_digits ?_ ?_ ?_ ?_, ?_, ?_⟩
    · rw [ne_eq, List.take_eq_nil_iff, not_or]
      exact ⟨by omega, nonempty⟩
    · exact fun c member => inside c (List.mem_of_mem_take member)
    · rwa [List.head?_take, if_neg (by omega)]
    · exact fun c member => inside c (List.mem_of_mem_drop member)
    · have more : digits.drop point.toNat ≠ [] := by
        rw [ne_eq, List.drop_eq_nil_iff]
        omega
      simp [NumberText.chars, NumberText.fractionChars, NumberText.exponentChars, before, behind,
        more]
    · rw [if_neg behind, NumberText.decimal, Decimal.ofDigits, List.take_append_drop]
      simp only [Option.getD_none, List.length_drop, Decimal.mk.injEq, true_and]
      omega

/-- Digits with a point behind the first one and an exponent are the parts of a number. -/
theorem exists_scientific {first : Char} {others : List Char}
    (inside : ∀ c ∈ first :: others, c.isDigit = true) (leading : first ≠ '0') (exponent : Int) :
    ∃ text : NumberText, text.Proper ∧
      text.chars = first :: (NumberText.fractionChars others ++
        writeExponent numberLayout.exponentWidth exponent) ∧
      text.decimal negative =
        ⟨negative, digitsValue (first :: others), exponent - others.length⟩ := by
  refine ⟨⟨[first], others, some exponent⟩, NumberText.proper_digits ?_ ?_ ?_ ?_, rfl, rfl⟩
  · exact List.cons_ne_nil _ _
  · exact fun c member => inside c (List.mem_singleton.mp member ▸ List.mem_cons_self)
  · exact fun zero => leading (Option.some.inj zero)
  · exact fun c member => inside c (List.mem_cons_of_mem _ member)

end Layout

/-- A decimal is written as the parts of a number that stand for it. -/
theorem exists_numberText (d : Decimal) :
    ∃ text : NumberText, text.Proper ∧
      d.write numberLayout = (if d.negative then ['-'] else []) ++ text.chars ∧
      text.decimal d.negative = d.reread := by
  by_cases zero : d.coefficient = 0
  · have proper : NumberText.Proper ⟨['0'], [], none⟩ :=
      NumberText.proper_zero fun _ member => absurd member List.not_mem_nil
    refine ⟨⟨['0'], [], none⟩, proper, ?_, ?_⟩
    · rw [Decimal.write, if_pos zero]
      rfl
    · rw [Decimal.reread, if_pos zero]
      rfl
  have nonempty := decimalDigits_ne_nil d.coefficient
  have inside : ∀ c ∈ decimalDigits d.coefficient, c.isDigit = true :=
    fun _ => isDigit_of_mem_decimalDigits
  have leading := head?_decimalDigits_ne_zero (Nat.pos_of_ne_zero zero)
  have value := digitsValue_decimalDigits d.coefficient
  simp only [Decimal.write, Decimal.reread, if_neg zero]
  generalize decimalDigits d.coefficient = digits at *
  by_cases positional : numberLayout.positionalFrom ≤ d.exponent + digits.length - 1 ∧
      d.exponent + digits.length - 1 < numberLayout.exponentFrom
  · obtain ⟨text, proper, chars, decimal⟩ := exists_placePoint d.negative nonempty inside leading
      (d.exponent + digits.length - 1 + 1)
    refine ⟨text, proper, ?_, ?_⟩
    · rw [if_pos positional, chars]
    · have bound : d.exponent + digits.length - 1 < 21 := positional.2
      rw [decimal, value]
      by_cases whole : 0 ≤ d.exponent
      · rw [if_pos (by omega), if_pos (by omega),
          show d.exponent + digits.length - 1 + 1 - digits.length = d.exponent by omega]
      · rw [if_neg (by omega), if_neg (by omega),
          show d.exponent + digits.length - 1 + 1 - digits.length = d.exponent by omega]
  · obtain ⟨first, others, rfl⟩ := List.exists_cons_of_ne_nil nonempty
    obtain ⟨text, proper, chars, decimal⟩ := exists_scientific d.negative inside
      (fun zero => leading (congrArg some zero)) (d.exponent + (first :: others).length - 1)
    refine ⟨text, proper, ?_, ?_⟩
    · rw [if_neg positional, chars]
      cases others with
      | nil => rfl
      | cons second others => rfl
    · have outside : ¬(0 ≤ d.exponent ∧ d.exponent + (first :: others).length ≤ 21) := by
        intro whole
        have length : (first :: others).length = others.length + 1 := rfl
        refine positional ⟨?_, ?_⟩
        · show (-6 : Int) ≤ _
          omega
        · show _ < (21 : Int)
          omega
      rw [if_neg outside, decimal, value, List.length_cons,
        show d.exponent + ↑(others.length + 1) - 1 - (others.length : Int) = d.exponent by omega]

/-- The text of a number without its sign starts with a digit. -/
theorem NumberText.Proper.exists_chars {text : NumberText} (proper : text.Proper) :
    ∃ first others, text.chars = first :: others ∧ first.isDigit = true := by
  obtain ⟨first, others, whole⟩ := List.exists_cons_of_ne_nil proper.nonempty
  refine ⟨first, others ++ (fractionChars text.fraction ++ exponentChars text.exponent), ?_, ?_⟩
  · rw [chars, whole, List.cons_append]
  · exact proper.digits first (whole ▸ List.mem_cons_self)

/-- A written number starts with a sign or a digit. -/
theorem exists_write (d : Decimal) :
    ∃ first others, d.write numberLayout = first :: others ∧
      (first = '-' ∨ first.isDigit = true) := by
  obtain ⟨text, proper, chars, -⟩ := exists_numberText d
  obtain ⟨first, others, unsigned, digit⟩ := proper.exists_chars
  rw [chars]
  cases d.negative with
  | true => exact ⟨'-', text.chars, rfl, .inl rfl⟩
  | false => exact ⟨first, others, unsigned, .inr digit⟩

/-- A number is read as the decimal that was written. -/
theorem readNumber_write (d : Decimal) {rest : List Char} (ends : EndsNumber rest) :
    readNumber (d.write numberLayout ++ rest) = some (d.reread, rest) := by
  obtain ⟨text, proper, chars, decimal⟩ := exists_numberText d
  have read := readUnsigned_chars proper ends d.negative
  rw [chars, ← decimal]
  cases sign : d.negative with
  | true =>
    rw [sign] at read
    exact read
  | false =>
    obtain ⟨first, others, unsigned, digit⟩ := proper.exists_chars
    have unsign : first ≠ '-' := by
      rintro rfl
      cases digit
    rw [sign, unsigned] at read
    rw [if_neg Bool.false_ne_true, List.nil_append, unsigned, List.cons_append, readNumber]
    · exact read
    · intro rest' same
      exact unsign (List.cons.inj same).1

end Json
end RankFormula
