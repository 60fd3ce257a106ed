/-!
# Bytes of texts

Texts are measured, hashed and transported as UTF-8. Reading bytes back never
fails: a byte that begins no well-formed sequence is kept as a stray byte, and
stands for U+FFFD where a text is needed.
-/

namespace RankFormula

/-- The UTF-8 bytes of a text. -/
def utf8Bytes (cs : List Char) : List UInt8 := cs.flatMap String.utf8EncodeChar

/-- What a position of a byte string holds. -/
inductive Utf8Unit where
  /-- A well-formed sequence. -/
  | char (c : Char)
  /-- A byte outside every well-formed sequence. -/
  | stray (b : UInt8)
  deriving DecidableEq, Repr

/-- The character that stands in for a stray byte. -/
def replacementChar : Char := Char.ofNat 0xFFFD

/-- The unit as a character. -/
def Utf8Unit.toChar : Utf8Unit → Char
  | .char c => c
  | .stray _ => replacementChar

/-- The payload of a continuation byte. -/
def continuation? (b : UInt8) : Option Nat :=
  if 0x80 ≤ b.toNat ∧ b.toNat < 0xC0 then some (b.toNat - 0x80) else none

/-- The code point of a two-byte sequence. -/
def twoByteCode? (a b : UInt8) : Option Nat := do
  let x ← continuation? b
  if 0xC2 ≤ a.toNat ∧ a.toNat < 0xE0 then some ((a.toNat - 0xC0) * 0x40 + x) else none

/-- The code point of a three-byte sequence: neither overlong nor a surrogate. -/
def threeByteCode? (a b c : UInt8) : Option Nat := do
  let x ← continuation? b
  let y ← continuation? c
  let code := (a.toNat - 0xE0) * 0x1000 + x * 0x40 + y
  if 0xE0 ≤ a.toNat ∧ a.toNat < 0xF0 ∧ 0x800 ≤ code ∧ ¬(0xD800 ≤ code ∧ code < 0xE000) then
    some code
  else none

/-- The code point of a four-byte sequence: neither overlong nor beyond the code space. -/
def fourByteCode? (a b c d : UInt8) : Option Nat := do
  let x ← continuation? b
  let y ← continuation? c
  let z ← continuation? d
  let code := (a.toNat - 0xF0) * 0x40000 + x * 0x1000 + y * 0x40 + z
  if 0xF0 ≤ a.toNat ∧ a.toNat < 0xF8 ∧ 0x10000 ≤ code ∧ code < 0x110000 then some code else none

/-- The first unit of a byte string and the bytes after it. -/
def nextUtf8Unit (a : UInt8) (rest : List UInt8) : Utf8Unit × List UInt8 :=
  if a.toNat < 0x80 then (.char (Char.ofNat a.toNat), rest)
  else
    match rest with
    | [] => (.stray a, rest)
    | b :: rest₁ =>
      match twoByteCode? a b with
      | some code => (.char (Char.ofNat code), rest₁)
      | none =>
        match rest₁ with
        | [] => (.stray a, rest)
        | c :: rest₂ =>
          match threeByteCode? a b c with
          | some code => (.char (Char.ofNat code), rest₂)
          | none =>
            match rest₂ with
            | [] => (.stray a, rest)
            | d :: rest₃ =>
              match fourByteCode? a b c d with
              | some code => (.char (Char.ofNat code), rest₃)
              | none => (.stray a, rest)

/-- The units of a byte string, at most `steps` of them. -/
def utf8UnitsUpTo : Nat → List UInt8 → List Utf8Unit
  | 0, _ => []
  | _, [] => []
  | steps + 1, a :: rest =>
    let (unit, rest) := nextUtf8Unit a rest
    unit :: utf8UnitsUpTo steps rest

/-- The units of a byte string, in order. -/
def utf8Units (bytes : List UInt8) : List Utf8Unit := utf8UnitsUpTo bytes.length bytes

/-- The text of a byte string, stray bytes replaced. -/
def utf8Text (bytes : List UInt8) : List Char := (utf8Units bytes).map Utf8Unit.toChar

end RankFormula
