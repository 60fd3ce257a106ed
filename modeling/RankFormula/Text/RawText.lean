import RankFormula.Text.Utf8

/-!
# Texts from outside

A text that arrives as bytes may hold stray ones, and they must not be mistaken for
the character that stands in for them: two texts are equal only if their bytes are.
A `RawText` keeps both. Every string is one, and `RawText.string?` tells which of
them are strings.
-/

namespace RankFormula

/-- A text that may hold stray bytes. -/
structure RawText where
  /-- Characters and stray bytes in order. -/
  units : List Utf8Unit
  deriving DecidableEq, Repr, Inhabited

namespace RawText

/-- The text of some characters. -/
def ofChars (cs : List Char) : RawText := ⟨cs.map .char⟩

/-- A string as a text. -/
def ofString (s : String) : RawText := ofChars s.toList

instance : Coe String RawText := ⟨ofString⟩

/-- The text of some bytes. -/
def ofBytes (bytes : List UInt8) : RawText := ⟨utf8Units bytes⟩

/-- The characters of a text, stray bytes replaced. -/
def chars (text : RawText) : List Char := text.units.map Utf8Unit.toChar

/-- The text as a string, stray bytes replaced. -/
def toString (text : RawText) : String := String.ofList text.chars

/-- Whether there is nothing. -/
def isEmpty (text : RawText) : Bool := text.units.isEmpty

/-- The text without its last unit. -/
def withoutLast (text : RawText) : RawText := ⟨text.units.dropLast⟩

/-- The characters of some units without stray bytes. -/
def wellFormed? : List Utf8Unit → Option (List Char)
  | [] => some []
  | .char c :: rest => (wellFormed? rest).map (c :: ·)
  | .stray _ :: _ => none

/-- The string that the text is, if it holds no stray bytes. -/
def string? (text : RawText) : Option String := (wellFormed? text.units).map String.ofList

@[simp] theorem chars_ofChars (cs : List Char) : (ofChars cs).chars = cs := by
  simp [ofChars, chars, Function.comp_def, Utf8Unit.toChar]

@[simp] theorem toString_ofString (s : String) : (ofString s).toString = s := by
  simp [toString, ofString]

@[simp] theorem wellFormed?_map_char (cs : List Char) : wellFormed? (cs.map .char) = some cs := by
  induction cs with
  | nil => rfl
  | cons c rest ih => simp [wellFormed?, ih]

@[simp] theorem string?_ofString (s : String) : (ofString s).string? = some s := by
  simp [string?, ofString, ofChars]

/-- Different strings are different texts. -/
@[simp] theorem ofString_inj {s t : String} : ofString s = ofString t ↔ s = t := by
  constructor
  · intro equal
    have := congrArg string? equal
    simpa using this
  · rintro rfl
    rfl

end RawText
end RankFormula
