import RankFormula.Text.RawText

/-!
# Texts survive their bytes

The bytes of a character are read as that character, whatever follows them
(`nextUtf8Unit_utf8EncodeChar`), so the bytes of a text are read as the text
(`utf8Text_utf8Bytes`). The four lengths of a sequence tell themselves apart by the first byte.
A text from outside without stray bytes is a string, and only as itself
(`RawText.string?_eq_some`).
-/

namespace RankFormula

/-- A number below 256 is the value of its byte. -/
theorem toNat_byte {n : Nat} (small : n < 256) : (UInt8.ofNat n).toNat = n :=
  UInt8.toNat_ofNat_of_lt' small

/-- The payload of a continuation byte is what was put there. -/
theorem continuation?_ofNat (n : Nat) :
    continuation? (UInt8.ofNat (n % 64 + 128)) = some (n % 64) := by
  rw [continuation?, toNat_byte (by omega), if_pos (by omega), Nat.add_sub_cancel]

section Sequences

variable {a b c d : UInt8} {rest : List UInt8} {x y z code : Nat}

/-- A byte of seven bits is a character by itself. -/
theorem nextUtf8Unit_one (lead : a.toNat < 0x80) :
    nextUtf8Unit a rest = (.char (Char.ofNat a.toNat), rest) := by
  unfold nextUtf8Unit
  exact if_pos lead

/-- Two bytes make the character of their payloads. -/
theorem nextUtf8Unit_two (lead : 0xC2 ≤ a.toNat ∧ a.toNat < 0xE0)
    (second : continuation? b = some x) (made : (a.toNat - 0xC0) * 0x40 + x = code) :
    nextUtf8Unit a (b :: rest) = (.char (Char.ofNat code), rest) := by
  have two : twoByteCode? a b = some code := by
    simp [twoByteCode?, second, lead, made]
  unfold nextUtf8Unit
  rw [if_neg (by omega)]
  simp only [two]

/-- The first byte of a longer sequence starts none of two bytes. -/
theorem twoByteCode?_eq_none (lead : 0xE0 ≤ a.toNat) : twoByteCode? a b = none := by
  unfold twoByteCode?
  cases continuation? b with
  | none => rfl
  | some x => exact if_neg (by omega)

/-- Three bytes make the character of their payloads. -/
theorem nextUtf8Unit_three (lead : 0xE0 ≤ a.toNat ∧ a.toNat < 0xF0)
    (second : continuation? b = some x) (third : continuation? c = some y)
    (made : (a.toNat - 0xE0) * 0x1000 + x * 0x40 + y = code)
    (scalar : 0x800 ≤ code ∧ ¬(0xD800 ≤ code ∧ code < 0xE000)) :
    nextUtf8Unit a (b :: c :: rest) = (.char (Char.ofNat code), rest) := by
  have three : threeByteCode? a b c = some code := by
    simp only [threeByteCode?, second, third, Option.bind_eq_bind, Option.bind_some, made]
    exact if_pos ⟨lead.1, lead.2, scalar⟩
  unfold nextUtf8Unit
  rw [if_neg (by omega)]
  simp only [twoByteCode?_eq_none lead.1, three]

/-- The first byte of a longer sequence starts none of three bytes. -/
theorem threeByteCode?_eq_none (lead : 0xF0 ≤ a.toNat) : threeByteCode? a b c = none := by
  unfold threeByteCode?
  cases continuation? b with
  | none => rfl
  | some x =>
    cases continuation? c with
    | none => rfl
    | some y => exact if_neg (by omega)

/-- Four bytes make the character of their payloads. -/
theorem nextUtf8Unit_four (lead : 0xF0 ≤ a.toNat ∧ a.toNat < 0xF8)
    (second : continuation? b = some x) (third : continuation? c = some y)
    (fourth : continuation? d = some z)
    (made : (a.toNat - 0xF0) * 0x40000 + x * 0x1000 + y * 0x40 + z = code)
    (scalar : 0x10000 ≤ code ∧ code < 0x110000) :
    nextUtf8Unit a (b :: c :: d :: rest) = (.char (Char.ofNat code), rest) := by
  have four : fourByteCode? a b c d = some code := by
    simp only [fourByteCode?, second, third, fourth, Option.bind_eq_bind, Option.bind_some, made]
    exact if_pos ⟨lead.1, lead.2, scalar⟩
  have beyond : 0xE0 ≤ a.toNat := by omega
  unfold nextUtf8Unit
  rw [if_neg (by omega)]
  simp only [twoByteCode?_eq_none beyond, threeByteCode?_eq_none lead.1, four]

end Sequences

/-- The bytes of a character are read as the character, whatever follows. -/
theorem nextUtf8Unit_utf8EncodeChar (c : Char) (rest : List UInt8) :
    ∃ first others, String.utf8EncodeChar c = first :: others ∧
      nextUtf8Unit first (others ++ rest) = (.char c, rest) := by
  -- A character is a scalar value: below the surrogates, or above them and in the code space.
  have scalar : c.val.toNat < 0xD800 ∨ 0xDFFF < c.val.toNat ∧ c.val.toNat < 0x110000 := c.valid
  have same : Char.ofNat c.val.toNat = c := Char.ofNat_toNat c
  unfold String.utf8EncodeChar
  generalize c.val.toNat = code at same scalar
  dsimp only
  split
  · next small =>
    have value : (UInt8.ofNat code).toNat = code := toNat_byte (by omega)
    refine ⟨_, _, rfl, ?_⟩
    rw [List.nil_append, nextUtf8Unit_one (by omega), value, same]
  · split
    · next above small =>
      have lead : (UInt8.ofNat (code / 64 % 32 + 192)).toNat = code / 64 % 32 + 192 :=
        toNat_byte (by omega)
      refine ⟨_, _, rfl, ?_⟩
      exact same ▸ nextUtf8Unit_two (by omega) (continuation?_ofNat code) (by omega)
    · split
      · next above small =>
        have lead : (UInt8.ofNat (code / 4096 % 16 + 224)).toNat = code / 4096 % 16 + 224 :=
          toNat_byte (by omega)
        refine ⟨_, _, rfl, ?_⟩
        exact same ▸ nextUtf8Unit_three (by omega) (continuation?_ofNat (code / 64))
          (continuation?_ofNat code) (by omega) (by omega)
      · next above =>
        have lead : (UInt8.ofNat (code / 262144 % 8 + 240)).toNat = code / 262144 % 8 + 240 :=
          toNat_byte (by omega)
        refine ⟨_, _, rfl, ?_⟩
        exact same ▸ nextUtf8Unit_four (by omega) (continuation?_ofNat (code / 4096))
          (continuation?_ofNat (code / 64)) (continuation?_ofNat code) (by omega) (by omega)

/-- As many steps as there are bytes read the bytes of a text. -/
theorem utf8UnitsUpTo_utf8Bytes (cs : List Char) {steps : Nat}
    (enough : (utf8Bytes cs).length ≤ steps) :
    utf8UnitsUpTo steps (utf8Bytes cs) = cs.map .char := by
  induction cs generalizing steps with
  | nil => cases steps <;> rfl
  | cons c cs ih =>
    obtain ⟨first, others, encoded, read⟩ := nextUtf8Unit_utf8EncodeChar c (utf8Bytes cs)
    have bytes : utf8Bytes (c :: cs) = first :: (others ++ utf8Bytes cs) := by
      rw [utf8Bytes, List.flatMap_cons, encoded]
      rfl
    rw [bytes] at enough ⊢
    cases steps with
    | zero => exact absurd enough (by simp)
    | succ steps =>
      have fewer : (utf8Bytes cs).length ≤ steps := by
        simp only [List.length_cons, List.length_append] at enough
        omega
      rw [utf8UnitsUpTo, read]
      exact congrArg (Utf8Unit.char c :: ·) (ih fewer)

/-- The bytes of a text hold its characters and nothing else. -/
theorem utf8Units_utf8Bytes (cs : List Char) : utf8Units (utf8Bytes cs) = cs.map .char :=
  utf8UnitsUpTo_utf8Bytes cs (Nat.le_refl _)

/-- The bytes of a text are read as the text. -/
theorem utf8Text_utf8Bytes (cs : List Char) : utf8Text (utf8Bytes cs) = cs := by
  rw [utf8Text, utf8Units_utf8Bytes]
  exact RawText.chars_ofChars cs

/-- The bytes of a text are those of its parts. -/
theorem utf8Bytes_append (first second : List Char) :
    utf8Bytes (first ++ second) = utf8Bytes first ++ utf8Bytes second :=
  List.flatMap_append

/-- A character of seven bits is one byte. -/
theorem utf8EncodeChar_of_lt {c : Char} (ascii : c.toNat < 128) :
    String.utf8EncodeChar c = [UInt8.ofNat c.toNat] :=
  if_pos (show c.toNat ≤ 127 by omega)

/-- Characters of seven bits are one byte each. -/
theorem utf8Bytes_of_ascii {cs : List Char} (ascii : ∀ c ∈ cs, c.toNat < 128) :
    utf8Bytes cs = cs.map fun c => UInt8.ofNat c.toNat := by
  induction cs with
  | nil => rfl
  | cons c cs ih =>
    obtain ⟨first, others⟩ := List.forall_mem_cons.mp ascii
    rw [utf8Bytes, List.flatMap_cons, utf8EncodeChar_of_lt first, ← utf8Bytes, ih others]
    rfl

namespace RawText

/-- Units without stray bytes are characters. -/
theorem eq_map_of_wellFormed? {units : List Utf8Unit} {cs : List Char}
    (formed : wellFormed? units = some cs) : units = cs.map .char := by
  induction units generalizing cs with
  | nil =>
    obtain rfl : [] = cs := by simpa [wellFormed?] using formed
    rfl
  | cons unit units ih =>
    cases unit with
    | char c =>
      rw [wellFormed?] at formed
      obtain ⟨rest, inner, rfl⟩ := Option.map_eq_some_iff.mp formed
      rw [List.map_cons, ih inner]
    | stray b => simp [wellFormed?] at formed

/-- A text is the string that it is without stray bytes. -/
theorem string?_eq_some {text : RawText} {s : String} :
    text.string? = some s ↔ text = .ofString s := by
  constructor
  · intro found
    obtain ⟨cs, formed, rfl⟩ := Option.map_eq_some_iff.mp found
    have units : text.units = cs.map .char := eq_map_of_wellFormed? formed
    rw [ofString, ofChars, String.toList_ofList, ← units]
  · rintro rfl
    exact string?_ofString s

end RawText
end RankFormula
