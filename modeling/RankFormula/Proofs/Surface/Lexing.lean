import Mathlib.Data.List.Chain
import RankFormula.Proofs.Numeral.Digits
import RankFormula.Proofs.Surface.PlainTerm

/-!
# The tokens of pieces

A text that is laid out from pieces is split into their tokens, whatever the white space, if no
piece runs into the next one (`tokensFrom_layout`). `Cursor.Spells` says that the tokens between two
places are those of pieces, and leaves open where in the text they stand. The pieces of a term stay
apart: `Phrase` says so, together with how they start and end, of all that a term is written with.
-/

namespace RankFormula
namespace Surface

/-- A token is that of a piece, wherever it stands. -/
structure Token.Shows (token : Token) (piece : Piece) : Prop where
  /-- It is of the same kind. -/
  kind : token.kind = piece.kind
  /-- It has the same characters. -/
  value : token.value = String.ofList piece.text

/-- The tokens from one place to another are those of pieces. -/
inductive Cursor.Spells : Cursor → List Piece → Cursor → Prop where
  /-- There are none. -/
  | nil (s : Cursor) : Spells s [] s
  /-- There is one more in front. -/
  | cons {token : Token} {s next : Cursor} {piece : Piece} {pieces : List Piece}
    (shows : token.Shows piece) (rest : Spells s pieces next) :
    Spells ⟨token, s.current :: s.later⟩ (piece :: pieces) next

/-- Simple characters are ASCII. -/
theorem toNat_lt_of_isSimpleChar {c : Char} (simple : isSimpleChar c = true) : c.toNat < 128 := by
  -- each class of simple characters ends at `z` or before it
  have classes : ((decide ('A'.val ≤ c.val ∧ c.val ≤ 'Z'.val) ||
      decide ('a'.val ≤ c.val) && decide (c.val ≤ 'z'.val)) ||
        decide ('0'.val ≤ c.val) && decide (c.val ≤ '9'.val) || decide (c = '_')) = true := simple
  have bound : c.val ≤ 'z'.val := by
    simp only [Bool.or_eq_true, Bool.and_eq_true, decide_eq_true_eq] at classes
    rcases classes with ((upper | lower) | digit) | rfl
    · exact UInt32.le_trans upper.2 (by decide)
    · exact lower.2
    · exact UInt32.le_trans digit.2 (by decide)
    · decide
  exact Nat.lt_of_le_of_lt (UInt32.le_iff_toNat_le.mp bound) (by decide)

/-- The characters that start a token of their own. -/
def delimiters : List Char :=
  [singleQuote, '"', rawQuote, '?', '/', '#', '|', ':', '(', '[', '\x7b', ')', ']', '\x7d', ',',
    ';', '%', '+', '-', '^', '&', '!', '=', '*', '<', '>', '.']

/-- Simple characters belong to words and are neither white space nor delimiters. -/
theorem isWordChar_of_isSimpleChar {c : Char} (simple : isSimpleChar c = true) :
    isWordChar c = true ∧ isBlank c = false ∧ c ∉ delimiters := by
  have each : ∀ n < 128, isSimpleChar (Char.ofNat n) = true → isWordChar (Char.ofNat n) = true ∧
      isBlank (Char.ofNat n) = false ∧ Char.ofNat n ∉ delimiters := by decide +kernel
  have found := each c.toNat (toNat_lt_of_isSimpleChar simple)
  rw [Char.ofNat_toNat] at found
  exact found simple

/-- Digits are simple characters. -/
theorem isSimpleChar_of_isDigit {c : Char} (digit : c.isDigit = true) : isSimpleChar c = true := by
  simp [isSimpleChar, Char.isAlphanum, digit]

/-- Digits are digits to the base ten, and start no mark of another base. -/
theorem isDigitOf_of_isDigit {c : Char} (digit : c.isDigit = true) :
    isDigitOf 10 c = true ∧ c ∉ ['x', 'X', 'o', 'O', 'b', 'B'] :=
  holds_of_isDigit digit (by decide)

/-- A text whose second character is no mark is read to the base ten. -/
theorem splitBaseMark_eq_ten {cs : List Char}
    (unmarked : ∀ d ∈ cs.tail.head?, d ∉ ['x', 'X', 'o', 'O', 'b', 'B']) :
    splitBaseMark cs = ([], 10, cs) := by
  unfold splitBaseMark
  split
  · next d rest =>
    have other := unmarked d rfl
    simp only [List.mem_cons, List.not_mem_nil, or_false, not_or] at other
    simp [other]
  · rfl

namespace Piece

/-- Whether a character that directly follows a piece leaves it as it is. -/
def endsBefore : Piece → Char → Bool
  | .number _, d =>
    !isWordChar d && !isDigitOf 10 d && d != '.' &&
      !(['x', 'X', 'o', 'O', 'b', 'B', 'e', 'E'].contains d)
  | .word _, d => !isWordChar d
  | .operator _, d => !(['/', '*', '&', '='].contains d)
  | _, _ => true

/-- A piece is split off as one token. -/
structure LexesAs (piece : Piece) (c : Char) (cs : List Char) : Prop where
  /-- Its first character and the others. -/
  text : piece.text = c :: cs
  /-- It starts with no white space. -/
  dense : isBlank c = false
  /-- It starts no comment. -/
  noComment : c = '/' → cs = [] ∧ piece.endsBefore '/' = false
  /-- It is one token, if what follows leaves it as it is. -/
  lexeme (start : Nat) (rest : List Char) (ends : ∀ d ∈ rest.head?, piece.endsBefore d = true) :
    Surface.lexeme start c (cs ++ rest) = .ok (.single piece.kind start (c :: cs) rest)

/-- Names are single tokens. -/
theorem lexesAs_word (name : SimpleName) : ∃ c cs, (word name).LexesAs c cs := by
  cases text : name.text.toList with
  | nil => exact absurd (String.toList_eq_nil_iff.mp text) name.nonempty
  | cons c cs =>
    have simple := name.simple
    have noDigit := name.noDigitFirst
    rw [text] at simple noDigit
    obtain ⟨inWord, dense, noDelimiter⟩ :=
      isWordChar_of_isSimpleChar (simple c List.mem_cons_self)
    refine ⟨c, cs, text, dense, ?_, fun start rest ends => ?_⟩
    · rintro rfl
      exact absurd (by decide) noDelimiter
    · have other : isAsciiDigit c = false := noDigit c rfl
      have isWord : Surface.lexeme start c (cs ++ rest) =
          .ok (lexWord start (c :: cs ++ rest)) := by
        simp only [delimiters, List.mem_cons, List.not_mem_nil, or_false, not_or] at noDelimiter
        simp [Surface.lexeme, noDelimiter, other, inWord]
      have run := span_append (fun d member => (isWordChar_of_isSimpleChar (simple d member)).1)
        (fun d member => by simpa [endsBefore] using ends d member)
      have noOperator : wordOperators.contains (String.ofList (c :: cs)) = false := by
        rw [← text, String.ofList_toList]
        simpa using name.noOperator
      rw [isWord, lexWord, run.1, run.2]
      simp only [noOperator]
      rfl

/-- Numbers are split off as a whole. -/
theorem splitNumber_decimalDigits (value : Nat) {rest : List Char}
    (ends : ∀ d ∈ rest.head?, (number value).endsBefore d = true) :
    splitNumber (decimalDigits value ++ rest) = (decimalDigits value, rest) := by
  have digits : ∀ c ∈ decimalDigits value, c.isDigit = true :=
    fun _ => isDigit_of_mem_decimalDigits
  have stops : ∀ d ∈ rest.head?, isDigitOf 10 d = false ∧ d ≠ '.' ∧
      d ∉ ['x', 'X', 'o', 'O', 'b', 'B', 'e', 'E'] := by
    intro d member
    have fine := ends d member
    simp only [endsBefore, Bool.and_eq_true, Bool.not_eq_true', bne_iff_ne] at fine
    exact ⟨fine.1.1.2, fine.1.2, by simpa using fine.2⟩
  have run := span_append (fun c member => (isDigitOf_of_isDigit (digits c member)).1)
    (fun d member => (stops d member).1)
  have unmarked : splitBaseMark (decimalDigits value ++ rest) =
      ([], 10, decimalDigits value ++ rest) := by
    apply splitBaseMark_eq_ten
    intro d member
    rw [List.tail_append_of_ne_nil (decimalDigits_ne_nil value), List.head?_append,
      Option.mem_def] at member
    cases later : (decimalDigits value).tail.head? with
    | some e =>
      obtain rfl : e = d := by simpa [later] using member
      exact (isDigitOf_of_isDigit (digits e (List.mem_of_mem_tail (List.mem_of_head? later)))).2
    | none =>
      have other := (stops d (by simpa [later] using member)).2.2
      simp only [List.mem_cons, List.not_mem_nil, or_false, not_or] at other ⊢
      simp [other]
  have noFraction : splitFraction 10 rest = ([], rest) := by
    unfold splitFraction
    split
    · exact absurd rfl (stops '.' rfl).2.1
    · exact absurd rfl (stops '.' rfl).2.1
    · rfl
  have noExponent : splitExponent 10 rest = ([], rest) := by
    cases rest with
    | nil => rfl
    | cons d rest =>
      have other := (stops d rfl).2.2
      simp only [List.mem_cons, List.not_mem_nil, or_false, not_or] at other
      simp [splitExponent, other]
  simp only [splitNumber, unmarked, run.1, run.2, noFraction, noExponent, List.nil_append,
    List.append_nil]

/-- Numbers are single tokens. -/
theorem lexesAs_number (value : Nat) : ∃ c cs, (number value).LexesAs c cs := by
  cases text : decimalDigits value with
  | nil => exact absurd text (decimalDigits_ne_nil value)
  | cons c cs =>
    have digit : c.isDigit = true :=
      isDigit_of_mem_decimalDigits (text ▸ List.mem_cons_self)
    obtain ⟨-, dense, noDelimiter⟩ := isWordChar_of_isSimpleChar (isSimpleChar_of_isDigit digit)
    refine ⟨c, cs, text, dense, ?_, fun start rest ends => ?_⟩
    · rintro rfl
      exact absurd (by decide) noDelimiter
    · have starts : isAsciiDigit c = true := digit
      have isNumber : Surface.lexeme start c (cs ++ rest) =
          lexNumber start [] (c :: cs ++ rest) := by
        simp only [delimiters, List.mem_cons, List.not_mem_nil, or_false, not_or] at noDelimiter
        simp [Surface.lexeme, noDelimiter, starts]
      have split := splitNumber_decimalDigits value ends
      rw [text] at split
      rw [isNumber, lexNumber, split]
      cases rest with
      | nil => rfl
      | cons d rest =>
        have outside : isWordChar d = false := by
          have fine := ends d rfl
          simp only [endsBefore, Bool.and_eq_true, Bool.not_eq_true'] at fine
          exact fine.1.1.1
        simp only [outside]
        rfl

/-- Operators are single tokens. -/
theorem lexesAs_operator (op : ArithmeticOperator) : ∃ c cs, (operator op).LexesAs c cs := by
  cases op with
  | add => exact ⟨'+', [], rfl, by decide, by decide, fun _ _ _ => rfl⟩
  | subtract => exact ⟨'-', [], rfl, by decide, by decide, fun _ _ _ => rfl⟩
  | multiply =>
    refine ⟨'*', [], rfl, by decide, by decide, fun start rest ends => ?_⟩
    show Except.ok (lexOperator start '*' ['&', '=', '*'] rest) = _
    cases rest with
    | nil => rfl
    | cons d rest =>
      have fine : d ∉ ['/', '*', '&', '='] := by simpa [endsBefore] using ends d rfl
      have alone : ['&', '=', '*'].contains d = false := by
        simp only [List.mem_cons, List.not_mem_nil, or_false, not_or] at fine
        simp [fine]
      simp only [lexOperator, alone]
      rfl
  | divide =>
    refine ⟨'/', [], rfl, by decide, fun _ => ⟨rfl, by decide⟩, fun start rest ends => ?_⟩
    unfold Surface.lexeme
    rw [if_neg (by decide), if_neg (by decide), if_neg (by decide), if_neg (by decide),
      if_pos rfl]
    -- the only longer token that starts with this operator opens a comment
    split
    · next inside comment =>
      rw [List.nil_append] at comment
      exact absurd (ends '*' (by rw [comment]; rfl)) (by decide)
    · rfl

/-- Every piece is a single token. -/
theorem lexesAs (piece : Piece) : ∃ c cs, piece.LexesAs c cs := by
  cases piece with
  | number value => exact lexesAs_number value
  | word name => exact lexesAs_word name
  | operator op => exact lexesAs_operator op
  | comma => exact ⟨',', [], rfl, by decide, by decide, fun _ _ _ => rfl⟩
  | opening => exact ⟨'(', [], rfl, by decide, by decide, fun _ _ _ => rfl⟩
  | closing => exact ⟨')', [], rfl, by decide, by decide, fun _ _ _ => rfl⟩

/-- Two pieces stay apart even with nothing between them. -/
def Separate (a b : Piece) : Prop := ∀ d ∈ b.text.head?, a.endsBefore d = true

/-- White space leaves every piece as it is. -/
theorem endsBefore_blank (piece : Piece) (blank : Blank) : piece.endsBefore blank.char = true := by
  cases piece <;> cases blank <;> rfl

end Piece

/-! ## The tokens of a layout -/

/-- White space is skipped. -/
theorem tokensFrom_gap (gap : List Blank) (steps position : Nat) (cs : List Char) :
    tokensFrom (gap.length + steps) position (gap.map Blank.char ++ cs) =
      tokensFrom steps (position + gap.length) cs := by
  induction gap generalizing position with
  | nil => simp
  | cons blank gap ih =>
    have step : tokensFrom (gap.length + steps + 1) position
        (blank.char :: (gap.map Blank.char ++ cs)) =
          tokensFrom (gap.length + steps) (position + 1) (gap.map Blank.char ++ cs) := by
      cases blank <;> rfl
    rw [List.length_cons, Nat.add_right_comm, List.map_cons, List.cons_append, step, ih,
      Nat.add_assoc, Nat.add_comm 1]

/-- The token of a piece is split off. -/
theorem tokensFrom_piece (piece : Piece) {cs : List Char}
    (ends : ∀ d ∈ cs.head?, piece.endsBefore d = true) (steps position : Nat) :
    tokensFrom (steps + 1) position (piece.text ++ cs) = (do
      let later ← tokensFrom steps (position + piece.text.length) cs
      .ok (⟨piece.kind, String.ofList piece.text, position⟩ :: later)) := by
  obtain ⟨c, rest, lexes⟩ := piece.lexesAs
  have noComment : ∀ inside, c = '/' → rest ++ cs = '/' :: inside → False := by
    intro inside slash comment
    obtain ⟨rfl, refuses⟩ := lexes.noComment slash
    rw [List.nil_append] at comment
    have accepts := ends '/' (by rw [comment]; rfl)
    rw [refuses] at accepts
    exact Bool.false_ne_true accepts
  rw [lexes.text, List.cons_append, tokensFrom]
  · rw [if_neg (by simp [lexes.dense]), lexes.lexeme position cs ends]
    rfl
  · exact noComment

/-- What follows a piece in a layout leaves it as it is. -/
theorem endsBefore_layout (gaps : Nat → List Blank) (i : Nat) {piece : Piece} {pieces : List Piece}
    (apart : (piece :: pieces).IsChain Piece.Separate) :
    ∀ d ∈ (layout gaps i pieces).head?, piece.endsBefore d = true := by
  intro d member
  cases pieces with
  | nil =>
    rw [layout, List.head?_map, Option.mem_def, Option.map_eq_some_iff] at member
    obtain ⟨blank, -, rfl⟩ := member
    exact piece.endsBefore_blank blank
  | cons second pieces =>
    obtain ⟨c, cs, lexes⟩ := second.lexesAs
    cases gap : gaps i with
    | cons blank gap =>
      obtain rfl : blank.char = d := by simpa [layout, gap] using member
      exact piece.endsBefore_blank blank
    | nil =>
      obtain rfl : c = d := by simpa [layout, gap, lexes.text] using member
      exact (List.isChain_cons_cons.mp apart).1 c (by rw [lexes.text]; rfl)

/-- Pieces that stay apart are split into their tokens, and the end follows. -/
theorem tokensFrom_layout (gaps : Nat → List Blank) {pieces : List Piece}
    (apart : pieces.IsChain Piece.Separate) (i steps position : Nat)
    (enough : (layout gaps i pieces).length < steps) :
    ∃ s finish : Cursor,
      tokensFrom steps position (layout gaps i pieces) = .ok (s.current :: s.later) ∧
        s.Spells pieces finish ∧ finish.current.kind = .eof ∧ finish.later = [] := by
  induction pieces generalizing i steps position with
  | nil =>
    rw [layout, List.length_map] at enough
    obtain ⟨more, rfl⟩ := Nat.exists_eq_add_of_lt enough
    have last := tokensFrom_gap (gaps i) (more + 1) position []
    rw [List.append_nil, ← Nat.add_assoc] at last
    let finish : Cursor := ⟨endToken (position + (gaps i).length - 1), []⟩
    exact ⟨finish, finish, last, .nil finish, rfl, rfl⟩
  | cons piece pieces ih =>
    rw [layout, List.length_append, List.length_map, List.length_append] at enough
    have filled : 0 < piece.text.length := by
      obtain ⟨c, cs, lexes⟩ := piece.lexesAs
      rw [lexes.text]
      exact Nat.succ_pos _
    obtain ⟨more, rfl⟩ : ∃ more, steps = (gaps i).length + (more + 1) :=
      ⟨steps - (gaps i).length - 1, by omega⟩
    obtain ⟨s, finish, found, spells, atEnd⟩ := ih apart.tail (i + 1) more
      (position + (gaps i).length + piece.text.length) (by omega)
    refine ⟨⟨⟨piece.kind, String.ofList piece.text, position + (gaps i).length⟩,
      s.current :: s.later⟩, finish, ?_, .cons ⟨rfl, ?_⟩ spells, atEnd⟩
    · rw [layout, tokensFrom_gap, tokensFrom_piece piece (endsBefore_layout gaps (i + 1) apart),
        found]
      rfl
    · simp [Token.value, RawText.ofString, RawText.toString]

/-- A text with pieces is not all white space. -/
theorem exists_dense_mem_layout (gaps : Nat → List Blank) (i : Nat) {pieces : List Piece}
    (filled : pieces ≠ []) : ∃ c ∈ layout gaps i pieces, isBlank c = false := by
  cases pieces with
  | nil => exact absurd rfl filled
  | cons piece pieces =>
    obtain ⟨c, cs, lexes⟩ := piece.lexesAs
    exact ⟨c, by simp [layout, lexes.text], lexes.dense⟩

/-- As many tokens are passed as there are pieces. -/
theorem Cursor.Spells.length {s next : Cursor} {pieces : List Piece}
    (spells : s.Spells pieces next) :
    s.later.length = pieces.length + next.later.length := by
  induction spells with
  | nil s => simp
  | cons shows rest ih =>
    rw [List.length_cons, List.length_cons, ih, Nat.add_right_comm]

/-! ## The pieces of a term stay apart -/

namespace Piece

/-- Whether a term may start with a piece. -/
def opensTerm : Piece → Bool
  | .number _ | .word _ | .opening => true
  | _ => false

/-- Whether a term may end with a piece. -/
def closesTerm : Piece → Bool
  | .number _ | .word _ | .closing => true
  | _ => false

/-- The characters between terms. -/
def marks : List Char := ['+', '-', '*', '/', ',', ')']

/-- After the end of a term stands what starts none. -/
theorem separate_of_closesTerm {a b : Piece} (closes : a.closesTerm = true)
    (noStart : b.opensTerm = false) : a.Separate b := by
  have marked : b.text.head? ∈ marks.map some := by
    cases b with
    | operator op => cases op <;> decide
    | comma => decide
    | closing => decide
    | number value => cases noStart
    | word name => cases noStart
    | opening => cases noStart
  intro d member
  rw [Option.mem_def.mp member] at marked
  obtain ⟨mark, between, same⟩ := List.mem_map.mp marked
  obtain rfl := Option.some.inj same
  have each : marks.all (fun d => (number 0).endsBefore d && !isWordChar d) = true := by
    decide +kernel
  have found := List.all_eq_true.mp each mark between
  rw [Bool.and_eq_true, Bool.not_eq_true'] at found
  obtain ⟨endsNumber, outside⟩ := found
  cases a with
  | number value => exact endsNumber
  | word name => simp [endsBefore, outside]
  | closing => rfl
  | operator op => cases closes
  | comma => cases closes
  | opening => cases closes

/-- Before the start of a term stands what ends none. -/
theorem separate_of_opensTerm {a b : Piece} (noEnd : a.closesTerm = false)
    (opens : b.opensTerm = true) : a.Separate b := by
  intro d member
  cases a with
  | operator op =>
    have starts : d = '(' ∨ isSimpleChar d = true := by
      cases b with
      | number value =>
        have digit := isDigit_of_mem_decimalDigits (List.mem_of_head? member)
        exact .inr (isSimpleChar_of_isDigit digit)
      | word name => exact .inr (name.simple d (List.mem_of_head? member))
      | opening => exact .inl (Option.mem_some.mp member).symm
      | operator op => cases opens
      | comma => cases opens
      | closing => cases opens
    rcases starts with rfl | simple
    · rfl
    · have noDelimiter := (isWordChar_of_isSimpleChar simple).2.2
      simp only [delimiters, List.mem_cons, List.not_mem_nil, or_false, not_or] at noDelimiter
      simp [endsBefore, noDelimiter]
  | comma => rfl
  | opening => rfl
  | number value => cases noEnd
  | word name => cases noEnd
  | closing => cases noEnd

end Piece

/-- Pieces that start and end as terms do, and stay apart. -/
structure Phrase (pieces : List Piece) : Prop where
  /-- A term may start with the first one. -/
  opens : ∃ piece ∈ pieces.head?, piece.opensTerm = true
  /-- A term may end with the last one. -/
  closes : ∃ piece ∈ pieces.getLast?, piece.closesTerm = true
  /-- They stay apart. -/
  apart : pieces.IsChain Piece.Separate

/-- A comma stands in front of every argument but the first. -/
theorem intercalate_comma (first : List Piece) (others : List (List Piece)) :
    [.comma].intercalate (first :: others) = first ++ others.flatMap (.comma :: ·) := by
  induction others generalizing first with
  | nil => simp
  | cons second others ih => rw [List.intercalate_cons_cons, ih second]; simp

namespace Phrase

/-- A phrase is not empty. -/
theorem ne_nil {pieces : List Piece} (phrase : Phrase pieces) : pieces ≠ [] := by
  rintro rfl
  obtain ⟨piece, member, -⟩ := phrase.opens
  cases member

/-- A number or a name is a phrase. -/
theorem single {piece : Piece} (opens : piece.opensTerm = true) (closes : piece.closesTerm = true) :
    Phrase [piece] :=
  ⟨⟨piece, rfl, opens⟩, ⟨piece, rfl, closes⟩, List.isChain_singleton piece⟩

/-- Two phrases with an operator or a comma between them are a phrase. -/
theorem join {left right : List Piece} {middle : Piece} (phraseLeft : Phrase left)
    (phraseRight : Phrase right) (noStart : middle.opensTerm = false)
    (noEnd : middle.closesTerm = false) : Phrase (left ++ middle :: right) := by
  obtain ⟨first, atFront, opens⟩ := phraseLeft.opens
  obtain ⟨last, atEnd, closes⟩ := phraseRight.closes
  refine ⟨⟨first, ?_, opens⟩, ⟨last, ?_, closes⟩, ?_⟩
  · rw [List.head?_append_of_ne_nil _ phraseLeft.ne_nil]
    exact atFront
  · rw [List.getLast?_append, List.getLast?_cons, Option.mem_def.mp atEnd]
    rfl
  · refine phraseLeft.apart.append (phraseRight.apart.cons ?_) ?_
    · intro second member
      obtain ⟨other, same, opens⟩ := phraseRight.opens
      obtain rfl := Option.mem_unique same member
      exact Piece.separate_of_opensTerm noEnd opens
    · intro final member second front
      obtain ⟨other, same, closes⟩ := phraseLeft.closes
      obtain rfl := Option.mem_unique same member
      obtain rfl : middle = second := Option.mem_some.mp front
      exact Piece.separate_of_closesTerm closes noStart

/-- A phrase in brackets is a phrase. -/
theorem enclose {pieces : List Piece} (phrase : Phrase pieces) :
    Phrase (.opening :: (pieces ++ [.closing])) := by
  refine ⟨⟨.opening, rfl, rfl⟩, ⟨.closing, ?_, rfl⟩, ?_⟩
  · rw [List.getLast?_cons, List.getLast?_append]
    rfl
  · refine (phrase.apart.append (List.isChain_singleton _) ?_).cons ?_
    · intro final member second front
      obtain ⟨other, same, closes⟩ := phrase.closes
      obtain rfl := Option.mem_unique same member
      obtain rfl : Piece.closing = second := Option.mem_some.mp front
      exact Piece.separate_of_closesTerm closes rfl
    · intro second member d front
      rfl

/-- A phrase that may stand in brackets is a phrase. -/
theorem bracketed {pieces : List Piece} (wanted : Bool) (phrase : Phrase pieces) :
    Phrase (bracketed wanted pieces) := by
  cases wanted with
  | false => exact phrase
  | true => exact phrase.enclose

/-- Phrases with commas between them are a phrase. -/
theorem commas {first : List Piece} {others : List (List Piece)} (phrase : Phrase first)
    (phrases : ∀ other ∈ others, Phrase other) :
    Phrase (first ++ others.flatMap (.comma :: ·)) := by
  induction others generalizing first with
  | nil => simpa using phrase
  | cons other others ih =>
    rw [List.forall_mem_cons] at phrases
    have pair : Phrase (first ++ .comma :: other) := phrase.join phrases.1 rfl rfl
    have joined := ih pair phrases.2
    simpa using joined

/-- A name in front of brackets with phrases in them is a phrase. -/
theorem call (name : SimpleName) {arguments : List (List Piece)}
    (phrases : ∀ argument ∈ arguments, Phrase argument) :
    Phrase (.word name :: .opening :: ([.comma].intercalate arguments ++ [.closing])) := by
  have inBrackets : Phrase (.opening :: ([.comma].intercalate arguments ++ [.closing])) := by
    cases arguments with
    | nil =>
      refine ⟨⟨.opening, rfl, rfl⟩, ⟨.closing, rfl, rfl⟩, List.isChain_pair.mpr ?_⟩
      intro d member
      rfl
    | cons argument arguments =>
      rw [List.forall_mem_cons] at phrases
      rw [intercalate_comma]
      exact (phrases.1.commas phrases.2).enclose
  obtain ⟨last, atEnd, closes⟩ := inBrackets.closes
  refine ⟨⟨.word name, rfl, rfl⟩, ⟨last, ?_, closes⟩, inBrackets.apart.cons ?_⟩
  · rw [List.getLast?_cons, Option.mem_def.mp atEnd]
    rfl
  · intro second member d front
    obtain rfl : Piece.opening = second := Option.mem_some.mp member
    obtain rfl : '(' = d := Option.mem_some.mp front
    rfl

end Phrase

namespace PlainTerm

/-- The pieces of a term without brackets around it are a phrase. -/
theorem phrase_barePieces (wanted : PlainTerm → Bool) (term : PlainTerm) :
    Phrase (term.barePieces wanted) := by
  induction term with
  | number value => exact .single rfl rfl
  | named name => exact .single rfl rfl
  | operation operator left right phraseLeft phraseRight =>
    exact (phraseLeft.bracketed _).join (phraseRight.bracketed _) rfl rfl
  | call name arguments phrases =>
    rw [barePieces, argumentPieces_eq_map]
    refine .call name ?_
    intro argument member
    obtain ⟨term, inside, rfl⟩ := List.mem_map.mp member
    exact (phrases term inside).bracketed _

/-- The pieces of a term are a phrase. -/
theorem phrase_pieces (wanted : PlainTerm → Bool) (required : Nat) (term : PlainTerm) :
    Phrase (term.pieces wanted required) :=
  (term.phrase_barePieces wanted).bracketed _

end PlainTerm
end Surface
end RankFormula
