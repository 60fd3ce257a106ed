import RankFormula.Json.Reader
import RankFormula.Json.Writer

/-!
# Texts survive being written in JSON

Every unit of a text is written as one piece that is read back as the unit's character, so
`readString_units` needs no case for an escape. Units that are escaped by their code are no
surrogates, and therefore never join a neighbour.
-/

namespace RankFormula

/-- A hexadecimal digit has the value it stands for. -/
theorem hexValue?_lowerHexDigit : ∀ n < 16, hexValue? (lowerHexDigit n) = some n := by decide

/-- Four hexadecimal digits are read as the number they are of. -/
theorem readHex?_lowerHex_four {n : Nat} (small : n < 0x10000) :
    readHex? (lowerHex 4 n) = some n := by
  have digit (k : Nat) : hexValue? (lowerHexDigit (k % 16)) = some (k % 16) :=
    hexValue?_lowerHexDigit _ (Nat.mod_lt _ (by decide))
  simp only [lowerHex, List.nil_append, List.cons_append, readHex?, List.foldlM_cons,
    List.foldlM_nil, digit, Option.map_some, Option.bind_eq_bind, Option.bind_some,
    Option.pure_def, Option.some.injEq]
  omega

namespace Json

/-- A piece stands for a character, whatever pieces follow. -/
def StringPart.StandsFor (part : StringPart) (c : Char) : Prop :=
  ∀ parts, joinParts (part :: parts) = c :: joinParts parts

/-- Some characters are read as one piece that stands for a character, whatever follows. -/
def ReadsAs (written : List Char) (c : Char) : Prop :=
  ∃ part : StringPart, part.StandsFor c ∧ ∀ rest, readParts (written ++ rest) =
    (readParts rest).map fun found => (part :: found.1, found.2)

/-- A unit that is no half of a surrogate pair stands for its character. -/
theorem standsFor_unit {code : Nat} (high : isHighSurrogate code = false)
    (low : isLowSurrogate code = false) : (StringPart.unit code).StandsFor (Char.ofNat code) := by
  intro parts
  cases parts with
  | nil => simp [joinParts, high, low]
  | cons next parts =>
    cases next with
    | char c => simp [joinParts, high, low]
    | unit other => simp [joinParts, high, low]

/-- The four digits of a code are read as its character. -/
theorem readsAs_code {code : Nat} (small : code < 0x10000)
    (high : isHighSurrogate code = false) (low : isLowSurrogate code = false) :
    ReadsAs ('\\' :: 'u' :: lowerHex 4 code) (Char.ofNat code) := by
  refine ⟨.unit code, standsFor_unit high low, fun rest => ?_⟩
  have read := readHex?_lowerHex_four small
  simp only [lowerHex, List.nil_append, List.cons_append] at read ⊢
  rw [readParts, read]
  cases readParts rest <;> rfl

/-- The escapes of one letter are read as their characters. -/
theorem readsAs_escaped {e c : Char} (escaped : escapedChar? e = some c) :
    ReadsAs ['\\', e] c := by
  have other : e ≠ 'u' := by
    rintro rfl
    cases escaped
  refine ⟨.char c, fun parts => rfl, fun rest => ?_⟩
  simp only [List.cons_append, List.nil_append]
  rw [readParts.eq_def]
  simp only [other, imp_false, false_implies, implies_true, escaped, Option.bind_eq_bind,
    Option.bind_some]
  cases readParts rest <;> rfl

/-- A character that means nothing inside a text is read as itself. -/
theorem readsAs_plain {c : Char} (quote : c ≠ '"') (backslash : c ≠ '\\')
    (printable : ¬c.toNat < 0x20) : ReadsAs [c] c := by
  refine ⟨.char c, fun parts => rfl, fun rest => ?_⟩
  rw [List.cons_append, List.nil_append, readParts.eq_def]
  simp only [backslash, imp_false, false_implies, implies_true, printable, decide_false,
    Bool.or_self, Bool.false_eq_true, if_false, Option.bind_eq_bind]
  cases readParts rest <;> rfl

/-- A character is read as it was written. -/
theorem readsAs_escapeChar (c : Char) : ReadsAs (escapeChar c) c := by
  have coded {code : Nat} (same : c.toNat = code) : Char.ofNat code = c := by
    rw [← same, Char.ofNat_toNat]
  unfold escapeChar
  split
  · next same =>
    subst same
    exact readsAs_escaped rfl
  split
  · next same =>
    subst same
    exact readsAs_escaped rfl
  split
  · next same =>
    subst same
    exact readsAs_escaped rfl
  split
  · next same =>
    subst same
    exact readsAs_escaped rfl
  split
  · next same =>
    subst same
    exact readsAs_escaped rfl
  split
  · next same => exact readsAs_escaped (congrArg some (coded same))
  split
  · next same => exact readsAs_escaped (congrArg some (coded same))
  split
  · next special =>
    have bounds : c.toNat < 0x80 ∨ c.toNat = 0x2028 ∨ c.toNat = 0x2029 := by
      simp only [Bool.or_eq_true, decide_eq_true_eq] at special
      rcases special with ((((low | rfl) | rfl) | rfl) | line) | paragraph
      · exact .inl (by omega)
      · exact .inl (by decide)
      · exact .inl (by decide)
      · exact .inl (by decide)
      · exact .inr (.inl line)
      · exact .inr (.inr paragraph)
    have high : isHighSurrogate c.toNat = false := by
      simp only [isHighSurrogate, Bool.and_eq_false_iff, decide_eq_false_iff_not]
      omega
    have low : isLowSurrogate c.toNat = false := by
      simp only [isLowSurrogate, Bool.and_eq_false_iff, decide_eq_false_iff_not]
      omega
    have read := readsAs_code (by omega) high low
    rwa [Char.ofNat_toNat] at read
  · next quote backslash _ _ _ _ _ plain =>
    have printable : ¬c.toNat < 0x20 := by
      intro control
      simp [control] at plain
    exact readsAs_plain quote backslash printable

/-- The character of a unit is read as it was written. -/
theorem readsAs_escapeUnit (unit : Utf8Unit) : ReadsAs (escapeUnit unit) unit.toChar := by
  cases unit with
  | char c => exact readsAs_escapeChar c
  | stray b =>
    exact readsAs_code (show replacementChar.toNat < 0x10000 by decide) (by decide) (by decide)

/-- Units are read up to the closing quote. -/
theorem readParts_units (units : List Utf8Unit) (rest : List Char) :
    ∃ parts, joinParts parts = units.map Utf8Unit.toChar ∧
      readParts (units.flatMap escapeUnit ++ '"' :: rest) = some (parts, rest) := by
  induction units with
  | nil => exact ⟨[], rfl, rfl⟩
  | cons unit units ih =>
    obtain ⟨parts, joined, read⟩ := ih
    obtain ⟨part, standsFor, reads⟩ := readsAs_escapeUnit unit
    refine ⟨part :: parts, ?_, ?_⟩
    · rw [standsFor, joined, List.map_cons]
    · rw [List.flatMap_cons, List.append_assoc, reads, read]
      rfl

/-- The characters of units survive being written. -/
theorem readString_units (units : List Utf8Unit) (rest : List Char) :
    readString (units.flatMap escapeUnit ++ '"' :: rest) =
      some (String.ofList (units.map Utf8Unit.toChar), rest) := by
  obtain ⟨parts, joined, read⟩ := readParts_units units rest
  rw [readString, read, ← joined]
  rfl

/-- A text survives being written. -/
theorem readString_chars (cs : List Char) (rest : List Char) :
    readString (cs.flatMap escapeChar ++ '"' :: rest) = some (String.ofList cs, rest) := by
  have read := readString_units (cs.map .char) rest
  rw [List.flatMap_map, List.map_map] at read
  simpa [Function.comp_def, Utf8Unit.toChar, escapeUnit] using read

end Json
end RankFormula
