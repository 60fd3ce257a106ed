import RankFormula.Proofs.Numeral.Signed
import RankFormula.Proofs.Surface.Lexing
import RankFormula.Proofs.Surface.Reading
import Mathlib.Data.List.TakeWhile

/-!
# What is written is read

The text of a plain term is read as the expression that the term is. The parser climbs: it reads an
operand and then takes operators for as long as they bind tightly enough. `Climbs` says that it
arrives with a term after its pieces, from where it goes on with what follows, and is shown for an
operation from its left side; `ReadsTerm` and `ReadsOperand` say that a term is read as a whole.
Every one of them needs four units of fuel for each piece, which is less than the parser has.
-/

namespace RankFormula
namespace Surface

namespace PlainTerm

mutual

/-- The term of the language that a plain term is. -/
def term : PlainTerm → Term
  | .number value => .integer value.val
  | .named name => .name name.text
  | .operation operator left right => .binary operator.symbol left.term right.term
  | .call name arguments => .call (.name name.text) (termsOf arguments)

/-- The terms of the language that plain terms are, in order. -/
def termsOf : List PlainTerm → List Term
  | [] => []
  | first :: others => first.term :: termsOf others

end

/-- Plain terms are taken one by one. -/
theorem termsOf_eq_map (terms : List PlainTerm) : termsOf terms = terms.map term := by
  induction terms with
  | nil => rfl
  | cons first others ih => rw [termsOf, ih, List.map_cons]

/-- Plain terms become expressions one by one. -/
theorem nodesOf_eq_map (terms : List PlainTerm) : nodesOf terms = terms.map toNode := by
  induction terms with
  | nil => rfl
  | cons first others ih => rw [nodesOf, ih, List.map_cons]

/-- The term of a plain term becomes the expression that it is. -/
theorem toNode_term (f : PlainTerm) : f.term.toNode = f.toNode := by
  induction f with
  | number value => rfl
  | named name => rfl
  | operation operator left right sameLeft sameRight =>
    rw [term, Term.toNode, sameLeft, sameRight, toNode]
  | call name arguments same =>
    rw [term, Term.toNode, Term.nodesOf_eq_map, termsOf_eq_map, List.map_map, toNode,
      nodesOf_eq_map]
    exact congrArg _ (List.map_congr_left same)

end PlainTerm

/-! ## Numbers -/

/-- Digits alone are an integer. -/
theorem numberForm_of_isDigit {cs : List Char} (digits : ∀ c ∈ cs, c.isDigit = true) :
    numberForm cs = .integer := by
  have other : ∀ c ∈ cs, c ∉ ['x', 'b', 'o', '.', 'e'] :=
    fun c member => holds_of_isDigit (digits c member) (by decide)
  have lower : cs.map Char.toLower = cs := by
    calc
      cs.map Char.toLower = cs.map id :=
        List.map_congr_left fun c member => holds_of_isDigit (digits c member) (by decide)
      _ = cs := List.map_id cs
  have noPoint : cs.contains '.' = false := by
    simpa using fun member => other '.' member (by decide)
  have noExponent : cs.contains 'e' = false := by
    simpa using fun member => other 'e' member (by decide)
  rw [numberForm, lower]
  split
  · next rest => exact absurd (by decide) (other 'x' (by simp))
  · rw [noPoint, noExponent, if_neg (by decide)]
    split
    · exact absurd (by decide) (other 'b' (by simp))
    · exact absurd (by decide) (other 'o' (by simp))
    · rfl

/-- The digits of a number in range are read as the integer. -/
theorem readInteger_decimalDigits {value : Nat} (inRange : value < signedLimit) :
    readInteger 10 (decimalDigits value) = .ok (value : Int) := by
  have numeral : IsNumeral (decimalDigits value) :=
    ⟨decimalDigits_ne_nil value, fun _ => isDigit_of_mem_decimalDigits⟩
  have writes := WritesInteger.unsigned numeral
  rw [digitsValue_decimalDigits] at writes
  exact readInteger_eq_ok_iff.mpr ⟨writes, by omega, by omega⟩

/-- A number token is read as its number. -/
theorem readNumberToken_decimalDigits (value : Fin signedLimit) :
    readNumberToken (String.ofList (decimalDigits value)) = .ok (.integer value.val) := by
  have digits : ∀ c ∈ decimalDigits value.val, c.isDigit = true :=
    fun _ => isDigit_of_mem_decimalDigits
  have unseparated : (decimalDigits value.val).filter (· != '_') = decimalDigits value.val := by
    rw [List.filter_eq_self]
    exact fun c member => holds_of_isDigit (digits c member) (by decide)
  rw [readNumberToken, String.toList_ofList, unseparated, numberForm_of_isDigit digits,
    readNumberAs, readInteger_decimalDigits value.isLt]
  rfl

/-! ## Tokens between terms -/

/-- The token of a piece is another one if the piece is. -/
theorem Token.Shows.is {token : Token} {piece : Piece} (shows : token.Shows piece)
    (kind : TokenKind) (value : String) :
    token.is kind value = (piece.kind == kind && String.ofList piece.text == value) := by
  rw [Token.is, shows.kind, shows.value]

/-- A token that ends a term whose operators bind at least as tightly as required. -/
inductive Token.Follows (required : Nat) (token : Token) : Prop where
  /-- The end of the text. -/
  | finish (atEnd : token.kind = .eof)
  /-- A closing bracket. -/
  | closing (shows : token.Shows .closing)
  /-- A comma. -/
  | comma (shows : token.Shows .comma)
  /-- An operator that binds less tightly. -/
  | operator {op : ArithmeticOperator} (shows : token.Shows (.operator op))
    (weaker : op.precedence < required)

/-- What ends a term ends those with tighter operators. -/
theorem Token.Follows.mono {token : Token} {required tighter : Nat}
    (follows : token.Follows required) (le : required ≤ tighter) : token.Follows tighter := by
  cases follows with
  | finish atEnd => exact .finish atEnd
  | closing shows => exact .closing shows
  | comma shows => exact .comma shows
  | operator shows weaker => exact .operator shows (Nat.lt_of_lt_of_le weaker le)

/-- What ends a term extends no operand. -/
theorem Token.Follows.extendsNone {token : Token} {required : Nat}
    (follows : token.Follows required) :
    token.isOperator "." = false ∧ token.isOperator "?." = false ∧ token.isBracket "[" = false ∧
      token.isBracket "(" = false ∧ token.isOperator "?" = false := by
  unfold Token.isOperator Token.isBracket
  cases follows with
  | finish atEnd => simp [Token.is, atEnd]
  | closing shows => simp only [shows.is]; decide
  | comma shows => simp only [shows.is]; decide
  | @operator op shows weaker => simp only [shows.is]; cases op <;> decide

variable {fuel required : Nat} {s : Cursor}

/-- No access follows where a term ends. -/
theorem parseSuffixes_of_follows (term : Term) (follows : s.current.Follows required) :
    parseSuffixes (fuel + 1) false term s = .ok (term, s) := by
  obtain ⟨noAccess, noOptional, noIndex, -⟩ := follows.extendsNone
  rw [parseSuffixes]
  simp only [noAccess, noOptional, noIndex]
  rfl

/-- No choice follows where a term ends. -/
theorem parseConditionals_of_follows (term : Term) (follows : s.current.Follows required) :
    parseConditionals (fuel + 1) false term s = .ok (term, s) := by
  obtain ⟨-, -, -, -, noChoice⟩ := follows.extendsNone
  rw [parseConditionals]
  simp only [noChoice]
  rfl

/-- No operator is taken where a term ends. -/
theorem parseOperators_of_follows (left : Term) (previous : String)
    (follows : s.current.Follows required) :
    parseOperators (fuel + 1) false required left previous s = .ok (left, s) := by
  rw [parseOperators]
  cases follows with
  | finish atEnd => rw [atEnd]; rfl
  | closing shows => rw [shows.kind]; rfl
  | comma shows => rw [shows.kind, shows.value]; rfl
  | @operator op shows weaker =>
    rw [shows.kind, shows.value]
    cases op <;> exact if_pos weaker

/-- An operator that binds tightly enough is taken with its right side. -/
theorem parseOperators_operator {token : Token} {op : ArithmeticOperator}
    (shows : token.Shows (.operator op)) (tight : required ≤ op.precedence) (left : Term)
    {previous : String} (plain : previous ≠ "??") :
    parseOperators (fuel + 2) false required left previous ⟨token, s.current :: s.later⟩ = (do
      let (right, t) ← parseTerm fuel false (op.precedence + 1) s
      parseOperators fuel false required (.binary op.symbol left right) op.symbol t) := by
  have value : token.value = op.symbol := by rw [shows.value, Piece.text, String.ofList_toList]
  have taken : ¬ op.precedence < required := Nat.not_lt.mpr tight
  have noCoalesce : (previous == "??") = false := beq_eq_false_iff_ne.mpr plain
  have step : parseOperators (fuel + 2) false required left previous ⟨token, s.current :: s.later⟩ =
      parseOperation (fuel + 1) false required op.precedence false left previous
        ⟨token, s.current :: s.later⟩ := by
    rw [parseOperators]
    dsimp only
    rw [shows.kind, value]
    cases op <;> exact if_neg taken
  rw [step, parseOperation]
  dsimp only [Cursor.advance]
  rw [value, noCoalesce]
  cases op <;> rfl

/-! ## Reading whole terms -/

/-- The tokens of pieces in two parts. -/
theorem Cursor.Spells.split {next : Cursor} {front back : List Piece}
    (spells : s.Spells (front ++ back) next) :
    ∃ middle : Cursor, s.Spells front middle ∧ middle.Spells back next := by
  induction front generalizing s with
  | nil => exact ⟨s, .nil s, spells⟩
  | cons piece front ih =>
    cases spells with
    | cons shows rest =>
      obtain ⟨middle, first, second⟩ := ih rest
      exact ⟨middle, .cons shows first, second⟩

/-- A phrase starts neither with a binding nor with the end of a call. -/
theorem Phrase.startsTerm {next : Cursor} {pieces : List Piece} (phrase : Phrase pieces)
    (spells : s.Spells pieces next) :
    s.current.isOperator "let" = false ∧ s.current.isBracket ")" = false := by
  obtain ⟨first, atFront, opens⟩ := phrase.opens
  cases spells with
  | nil s => cases atFront
  | @cons token after _ piece _ shows rest =>
    obtain rfl : piece = first := Option.mem_some.mp atFront
    simp only [Token.isOperator, Token.isBracket, shows.is]
    cases piece with
    | number value => exact ⟨rfl, rfl⟩
    | word name => exact ⟨rfl, rfl⟩
    | opening => decide
    | operator op => cases opens
    | comma => cases opens
    | closing => cases opens

/-- Pieces are read as an operand. -/
def ReadsOperand (t : Term) (pieces : List Piece) : Prop :=
  ∀ (fuel : Nat) {required : Nat} {s next : Cursor}, s.Spells pieces next →
    next.current.Follows required → 4 * pieces.length ≤ fuel →
      parsePrimary fuel false s = .ok (t, next)

/-- Pieces are read as a term whose operators bind at least as tightly as required. -/
def ReadsTerm (required : Nat) (t : Term) (pieces : List Piece) : Prop :=
  ∀ (fuel : Nat) {s next : Cursor}, s.Spells pieces next → next.current.Follows required →
    4 * pieces.length + 2 ≤ fuel → parseTerm fuel false required s = .ok (t, next)

/-- Reading with operators that bind as tightly as required arrives behind pieces with a term, if
what follows binds less tightly than the limit. -/
def Climbs (required limit : Nat) (t : Term) (pieces : List Piece) : Prop :=
  ∀ (fuel : Nat) {s next : Cursor}, s.Spells pieces next → next.current.Follows limit →
    4 * pieces.length ≤ fuel → ∃ remaining previous, previous ≠ "??" ∧
      fuel ≤ remaining + 4 * pieces.length ∧
      (do
        let (left, s) ← parsePrimary fuel false s
        parseOperators fuel false required left "" s) =
        parseOperators remaining false required t previous next

variable {t left right : Term} {pieces leftPieces rightPieces : List Piece} {limit : Nat}

/-- An operand is a term to climb from. -/
theorem ReadsOperand.climbs (reads : ReadsOperand t pieces) : Climbs required limit t pieces := by
  intro fuel s next spells follows enough
  refine ⟨fuel, "", by decide, Nat.le_add_right _ _, ?_⟩
  rw [reads fuel spells follows enough]
  rfl

/-- What follows may bind less tightly still. -/
theorem Climbs.mono {looser : Nat} (climbs : Climbs required limit t pieces) (le : looser ≤ limit) :
    Climbs required looser t pieces :=
  fun fuel _ _ spells follows enough => climbs fuel spells (follows.mono le) enough

/-- A term is climbed to from its left side, and its right side is read as a whole. -/
theorem Climbs.operation {op : ArithmeticOperator} (tight : required ≤ op.precedence)
    (climbs : Climbs required (op.precedence + 1) left leftPieces)
    (reads : ReadsTerm (op.precedence + 1) right rightPieces) :
    Climbs required (op.precedence + 1) (.binary op.symbol left right)
      (leftPieces ++ .operator op :: rightPieces) := by
  intro fuel s next spells follows enough
  rw [List.length_append, List.length_cons] at enough ⊢
  obtain ⟨middle, before, after⟩ := spells.split
  cases after with
  | @cons token after _ _ _ shows rest =>
    obtain ⟨remaining, previous, plain, spent, arrived⟩ :=
      climbs fuel before (.operator shows (Nat.lt_succ_self _)) (by omega)
    -- the fuel of the operator's own piece pays for the two calls that take it
    obtain ⟨others, rfl⟩ : ∃ others, remaining = others + 2 := ⟨remaining - 2, by omega⟩
    refine ⟨others, op.symbol, by cases op <;> decide, by omega, ?_⟩
    rw [arrived, parseOperators_operator shows tight left plain,
      reads others rest follows (by omega)]
    rfl

/-- Where climbing arrives before what ends a term, the term is read as a whole. -/
theorem Climbs.readsTerm (phrase : Phrase pieces) (climbs : Climbs required required t pieces) :
    ReadsTerm required t pieces := by
  intro fuel s next spells follows enough
  obtain ⟨fuel, rfl⟩ : ∃ less, fuel = less + 2 := ⟨fuel - 2, by omega⟩
  obtain ⟨remaining, previous, -, spent, arrived⟩ := climbs (fuel + 1) spells follows (by omega)
  obtain ⟨others, rfl⟩ : ∃ others, remaining = others + 1 := ⟨remaining - 1, by omega⟩
  rw [parseOperators_of_follows t previous follows] at arrived
  obtain ⟨noBinding, -⟩ := phrase.startsTerm spells
  rw [parseTerm, noBinding, Bool.and_false]
  calc
    _ = ((do
          let (left, s) ← parsePrimary (fuel + 1) false s
          parseOperators (fuel + 1) false required left "" s) >>= fun read =>
        if required = 0 then parseConditionals (fuel + 1) false read.1 read.2 else .ok read) := by
      cases parsePrimary (fuel + 1) false s <;> rfl
    _ = .ok (t, next) := by
      rw [arrived]
      show (if required = 0 then parseConditionals (fuel + 1) false t next else .ok (t, next)) = _
      split
      · exact parseConditionals_of_follows t follows
      · rfl

/-- An opening bracket starts a term up to the closing one. -/
theorem parsePrimary_opening {token : Token} (shows : token.Shows .opening) :
    parsePrimary (fuel + 1) false ⟨token, s.current :: s.later⟩ = (do
      let (inner, t) ← parseTerm fuel false 0 s
      let t ← t.expect .bracket ")"
      parseSuffixes fuel false inner t) := by
  have noOperator : (token.kind == .operator) = false := by rw [shows.kind]; rfl
  have isOpening : token.isBracket "(" = true := by rw [Token.isBracket, shows.is]; rfl
  rw [parsePrimary]
  simp only [noOperator, isOpening]
  rfl

/-- A term in brackets is an operand. -/
theorem ReadsTerm.enclose (reads : ReadsTerm 0 t pieces) :
    ReadsOperand t (.opening :: (pieces ++ [.closing])) := by
  intro fuel required s next spells follows enough
  rw [List.length_cons, List.length_append, List.length_singleton] at enough
  obtain ⟨fuel, rfl⟩ : ∃ less, fuel = less + 2 := ⟨fuel - 2, by omega⟩
  cases spells with
  | @cons token inner _ _ _ opening rest =>
    obtain ⟨middle, inside, after⟩ := rest.split
    cases after with
    | @cons last behind _ _ _ closing after =>
      cases after
      have isClosing : last.is .bracket ")" = true := by rw [closing.is]; rfl
      rw [parsePrimary_opening opening, reads (fuel + 1) inside (.closing closing) (by omega)]
      show (Cursor.expect ⟨last, next.current :: next.later⟩ .bracket ")" >>=
        parseSuffixes (fuel + 1) false t) = _
      rw [Cursor.expect, if_pos isClosing]
      exact parseSuffixes_of_follows t follows

/-- What is neither an operator nor a bracket starts no term inside a term. -/
theorem parsePrimary_eq_secondary {token : Token} {later : List Token}
    (noOperator : token.kind ≠ .operator) (noBracket : token.kind ≠ .bracket) :
    parsePrimary (fuel + 1) false ⟨token, later⟩ = parseSecondary fuel false ⟨token, later⟩ := by
  have noOperator : (token.kind == .operator) = false := beq_eq_false_iff_ne.mpr noOperator
  have noBracket : (token.kind == .bracket) = false := beq_eq_false_iff_ne.mpr noBracket
  rw [parsePrimary]
  simp only [Token.isBracket, Token.isOperator, Token.is, noOperator, noBracket]
  rfl

/-- A number is an operand. -/
theorem readsOperand_number (value : Fin signedLimit) :
    ReadsOperand (.integer value.val) [.number value] := by
  intro fuel required s next spells follows enough
  rw [List.length_singleton] at enough
  obtain ⟨fuel, rfl⟩ : ∃ less, fuel = less + 2 := ⟨fuel - 2, by omega⟩
  cases spells with
  | @cons token next _ _ _ shows rest =>
    cases rest
    have kind : token.kind = .number := shows.kind
    rw [parsePrimary_eq_secondary (by simp [kind]) (by simp [kind]), parseSecondary]
    dsimp only
    rw [kind, shows.value, Piece.text, readNumberToken_decimalDigits]
    rfl

/-- A name is that of a function if an opening bracket follows, and of a variable otherwise. -/
theorem parsePrimary_word {token : Token} {name : SimpleName} (shows : token.Shows (.word name)) :
    parsePrimary (fuel + 2) false ⟨token, s.current :: s.later⟩ =
      if s.current.isBracket "(" then do
        let (call, t) ← parseCall fuel false name.text [] s
        parseSuffixes fuel false call t
      else parseSuffixes fuel false (.name name.text) s := by
  have kind : token.kind = .identifier := shows.kind
  have value : token.value = name.text := by rw [shows.value, Piece.text, String.ofList_toList]
  have other : ∀ word ∈ ["true", "false", "nil"], (name.text == word) = false := by
    intro word member
    rw [beq_eq_false_iff_ne]
    rintro rfl
    exact name.noConstant member
  rw [parsePrimary_eq_secondary (by simp [kind]) (by simp [kind]), parseSecondary]
  dsimp only
  rw [kind, value, other "true" (by simp), other "false" (by simp), other "nil" (by simp)]
  rfl

/-- A name is an operand. -/
theorem readsOperand_word (name : SimpleName) : ReadsOperand (.name name.text) [.word name] := by
  intro fuel required s next spells follows enough
  rw [List.length_singleton] at enough
  obtain ⟨fuel, rfl⟩ : ∃ less, fuel = less + 3 := ⟨fuel - 3, by omega⟩
  cases spells with
  | @cons token next _ _ _ shows rest =>
    cases rest
    obtain ⟨-, -, -, noCall, -⟩ := follows.extendsNone
    rw [parsePrimary_word shows, noCall]
    exact parseSuffixes_of_follows _ follows

/-! ## Calls -/

/-- A call of a function that takes no closures has the arguments in its brackets. -/
theorem parseCall_opening {token : Token} (shows : token.Shows .opening) (name : SimpleName) :
    parseCall (fuel + 1) false name.text [] ⟨token, s.current :: s.later⟩ = (do
      let (arguments, t) ← parseArguments fuel false true s
      .ok (.call (.name name.text) arguments, t)) := by
  have isOpening : token.is .bracket "(" = true := by rw [shows.is]; rfl
  rw [parseCall, Cursor.expect, if_pos isOpening, name.noPredicate]
  rfl

/-- The closing bracket ends the arguments. -/
theorem parseArguments_closing {token : Token} (shows : token.Shows .closing) (isFirst : Bool) :
    parseArguments (fuel + 1) false isFirst ⟨token, s.current :: s.later⟩ = .ok ([], s) := by
  have isClosing : token.isBracket ")" = true := by rw [Token.isBracket, shows.is]; rfl
  rw [parseArguments, if_pos isClosing]
  rfl

/-- Behind a comma stands one more argument. -/
theorem parseArguments_comma {token : Token} (shows : token.Shows .comma) :
    parseArguments (fuel + 1) false false ⟨token, s.current :: s.later⟩ = (do
      let (argument, t) ← parseTerm fuel false 0 s
      let (arguments, t) ← parseArguments fuel false false t
      .ok (argument :: arguments, t)) := by
  have noClosing : token.isBracket ")" = false := by rw [Token.isBracket, shows.is]; rfl
  have isComma : token.is .operator "," = true := by rw [shows.is]; rfl
  rw [parseArguments, noClosing, Cursor.expect, if_pos isComma]
  rfl

/-- What follows an argument ends every term. -/
theorem follows_of_commas {next : Cursor} {arguments : List (List Piece)}
    (spells : s.Spells (arguments.flatMap (.comma :: ·) ++ [.closing]) next) :
    s.current.Follows 0 := by
  cases arguments with
  | nil =>
    cases spells with
    | cons shows rest => exact .closing shows
  | cons argument arguments =>
    cases spells with
    | cons shows rest => exact .comma shows

/-- Arguments behind commas are read up to the closing bracket. -/
theorem parseArguments_commas {terms : List Term} {arguments : List (List Piece)}
    (reads : List.Forall₂ (ReadsTerm 0) terms arguments) (fuel : Nat) {next : Cursor}
    (spells : s.Spells (arguments.flatMap (.comma :: ·) ++ [.closing]) next)
    (enough : 4 * (arguments.flatMap (Piece.comma :: ·) ++ [Piece.closing]).length ≤ fuel) :
    parseArguments fuel false false s = .ok (terms, next) := by
  induction reads generalizing s fuel with
  | nil =>
    rw [List.flatMap_nil, List.nil_append, List.length_singleton] at enough
    obtain ⟨fuel, rfl⟩ : ∃ less, fuel = less + 1 := ⟨fuel - 1, by omega⟩
    cases spells with
    | cons shows rest =>
      cases rest
      exact parseArguments_closing shows false
  | @cons term argument terms arguments readsFirst readsOthers ih =>
    rw [List.flatMap_cons, List.cons_append, List.cons_append, List.append_assoc] at spells enough
    rw [List.length_cons, List.length_append] at enough
    obtain ⟨fuel, rfl⟩ : ∃ less, fuel = less + 1 := ⟨fuel - 1, by omega⟩
    cases spells with
    | cons shows rest =>
      obtain ⟨middle, inside, behind⟩ := rest.split
      rw [parseArguments_comma shows,
        readsFirst fuel inside (follows_of_commas behind) (by omega)]
      show (parseArguments fuel false false middle >>= _) = _
      rw [ih fuel behind (by omega)]
      rfl

/-- The arguments of a call are read up to the closing bracket. -/
theorem parseArguments_intercalate {terms : List Term} {arguments : List (List Piece)}
    (reads : List.Forall₂ (ReadsTerm 0) terms arguments)
    (phrases : ∀ argument ∈ arguments, Phrase argument) (fuel : Nat) {next : Cursor}
    (spells : s.Spells ([.comma].intercalate arguments ++ [.closing]) next)
    (enough : 4 * ([Piece.comma].intercalate arguments ++ [Piece.closing]).length ≤ fuel) :
    parseArguments fuel false true s = .ok (terms, next) := by
  obtain ⟨fuel, rfl⟩ : ∃ less, fuel = less + 1 := by
    rw [List.length_append, List.length_singleton] at enough
    exact ⟨fuel - 1, by omega⟩
  cases reads with
  | nil =>
    cases spells with
    | cons shows rest =>
      cases rest
      exact parseArguments_closing shows true
  | @cons term argument terms arguments readsFirst readsOthers =>
    rw [intercalate_comma, List.append_assoc] at spells enough
    rw [List.length_append] at enough
    obtain ⟨middle, inside, behind⟩ := spells.split
    have phrase := phrases argument List.mem_cons_self
    obtain ⟨-, noClosing⟩ := phrase.startsTerm inside
    have filled : 0 < argument.length := List.length_pos_of_ne_nil phrase.ne_nil
    have closed : 0 < (arguments.flatMap (Piece.comma :: ·) ++ [Piece.closing]).length := by simp
    rw [parseArguments, noClosing]
    show (parseTerm fuel false 0 s >>= _) = _
    rw [readsFirst fuel inside (follows_of_commas behind) (by omega)]
    show (parseArguments fuel false false middle >>= _) = _
    rw [parseArguments_commas readsOthers fuel behind (by omega)]
    rfl

/-- A call is an operand. -/
theorem readsOperand_call (name : SimpleName) {terms : List Term} {arguments : List (List Piece)}
    (reads : List.Forall₂ (ReadsTerm 0) terms arguments)
    (phrases : ∀ argument ∈ arguments, Phrase argument) :
    ReadsOperand (.call (.name name.text) terms)
      (.word name :: .opening :: ([.comma].intercalate arguments ++ [.closing])) := by
  intro fuel required s next spells follows enough
  rw [List.length_cons, List.length_cons] at enough
  obtain ⟨fuel, rfl⟩ : ∃ less, fuel = less + 3 := ⟨fuel - 3, by omega⟩
  cases spells with
  | @cons token after _ _ _ word rest =>
    cases rest with
    | @cons bracket inner _ _ _ opening inside =>
      have isOpening : bracket.isBracket "(" = true := by rw [Token.isBracket, opening.is]; rfl
      rw [parsePrimary_word word]
      dsimp only
      rw [if_pos isOpening, parseCall_opening opening,
        parseArguments_intercalate reads phrases fuel inside (by omega)]
      exact parseSuffixes_of_follows _ follows

/-! ## Plain terms -/

namespace PlainTerm

/-- A term that is climbed to without brackets is climbed to as it is written. -/
theorem climbs_pieces {wanted : PlainTerm → Bool} {f : PlainTerm}
    (bare : ∀ {required level : Nat}, required ≤ level → f.needsBrackets level = false →
      Climbs required (level + 1) f.term (f.barePieces wanted))
    {required level : Nat} (le : required ≤ level) :
    Climbs required (level + 1) f.term (f.pieces wanted level) := by
  rw [pieces]
  cases brackets : wanted f || f.needsBrackets level with
  | true =>
    have inside : Climbs 0 0 f.term (f.barePieces wanted) :=
      (bare (Nat.le_refl 0) f.needsBrackets_zero).mono (Nat.zero_le 1)
    exact (inside.readsTerm (f.phrase_barePieces wanted)).enclose.climbs
  | false => exact bare le (Bool.or_eq_false_iff.mp brackets).2

/-- A term as it is written is read where its operators bind as tightly as required. -/
theorem readsTerm_pieces {wanted : PlainTerm → Bool} {f : PlainTerm}
    (bare : ∀ {required level : Nat}, required ≤ level → f.needsBrackets level = false →
      Climbs required (level + 1) f.term (f.barePieces wanted)) (required : Nat) :
    ReadsTerm required f.term (f.pieces wanted required) :=
  ((climbs_pieces bare (Nat.le_refl required)).mono (Nat.le_succ required)).readsTerm
    (f.phrase_pieces wanted required)

/-- Where no brackets are needed, a term is climbed to without them. -/
theorem climbs_barePieces (wanted : PlainTerm → Bool) (f : PlainTerm) {required level : Nat}
    (le : required ≤ level) (bare : f.needsBrackets level = false) :
    Climbs required (level + 1) f.term (f.barePieces wanted) := by
  induction f generalizing required level with
  | number value => exact (readsOperand_number value).climbs
  | named name => exact (readsOperand_word name).climbs
  | operation operator left right climbsLeft climbsRight =>
    have tight : level ≤ operator.precedence := by simpa [needsBrackets] using bare
    -- the left side is part of the same climb; the right side is a term of its own, whose
    -- operators bind more tightly than this one
    have whole := Climbs.operation (Nat.le_trans le tight)
      (climbs_pieces climbsLeft (Nat.le_trans le tight))
      (readsTerm_pieces climbsRight (operator.precedence + 1))
    exact whole.mono (Nat.succ_le_succ tight)
  | call name arguments climbs =>
    rw [barePieces, term, argumentPieces_eq_map, termsOf_eq_map]
    refine (readsOperand_call name ?_ ?_).climbs
    · rw [List.forall₂_map_left_iff, List.forall₂_map_right_iff, List.forall₂_same]
      exact fun argument member => readsTerm_pieces (climbs argument member) 0
    · intro argument member
      obtain ⟨f, -, rfl⟩ := List.mem_map.mp member
      exact f.phrase_pieces wanted 0

/-- The characters of a written term are read as the term. -/
theorem parseText_layout (wanted : PlainTerm → Bool) (gaps : Nat → List Blank) (f : PlainTerm) :
    parseText (layout gaps 0 (f.pieces wanted 0)) = .ok f.term := by
  obtain ⟨s, finish, tokens, spells, atEnd, nothing⟩ :=
    tokensFrom_layout gaps (f.phrase_pieces wanted 0).apart 0 _ 0 (Nat.lt_succ_self _)
  have count : s.later.length = (f.pieces wanted 0).length := by simp [spells.length, nothing]
  have read := readsTerm_pieces (f.climbs_barePieces wanted) 0 (fuelFor s.later.length) spells
    (.finish atEnd) (by rw [fuelFor, count]; omega)
  rw [parseText, tokenize, tokens]
  show parseTokens s.current s.later = .ok f.term
  rw [parseTokens, read]
  show (if finish.current.kind == .eof then _ else _) = _
  rw [atEnd]
  rfl

end PlainTerm

/-- A text with a character that is no white space is not empty without white space at its ends. -/
theorem trimBlanks_ne_nil {cs : List Char} {c : Char} (member : c ∈ cs)
    (dense : isBlank c = false) :
    trimBlanks cs ≠ [] := by
  intro empty
  have blanks : ∀ d ∈ cs.dropWhile isBlank, isBlank d = true := by
    rw [trimBlanks, List.reverse_eq_nil_iff, List.dropWhile_eq_nil_iff] at empty
    simpa using empty
  rw [← List.takeWhile_append_dropWhile (p := isBlank) (l := cs), List.mem_append] at member
  have blank : isBlank c = true := by
    rcases member with front | back
    · exact List.mem_takeWhile_imp front
    · exact blanks c back
  rw [blank] at dense
  cases dense

/-- The text of a plain term is read as the expression that it is, whatever brackets are wanted and
whatever white space stands in the gaps. -/
theorem parse_render (wanted : PlainTerm → Bool) (gaps : Nat → List Blank) (f : PlainTerm) :
    Node.parse (.ofString (f.render wanted gaps)) = .ok f.toNode := by
  have chars : (RawText.ofString (f.render wanted gaps)).chars =
      layout gaps 0 (f.pieces wanted 0) := by
    simp [RawText.ofString, PlainTerm.render]
  have filled : trimBlanks (layout gaps 0 (f.pieces wanted 0)) ≠ [] := by
    obtain ⟨c, member, dense⟩ := exists_dense_mem_layout gaps 0 (f.phrase_pieces wanted 0).ne_nil
    exact trimBlanks_ne_nil member dense
  rw [Node.parse, chars, if_neg (by simpa using filled), f.parseText_layout wanted gaps]
  exact congrArg Except.ok f.toNode_term

/-- The name `likes`. -/
def likesName : SimpleName :=
  ⟨"likes", by decide, by rintro c ⟨⟩; rfl, List.all_eq_true.mp (by decide), by decide, by decide,
    rfl⟩

/-- The name `posted_at`. -/
def postedAtName : SimpleName :=
  ⟨"posted_at", by decide, by rintro c ⟨⟩; rfl, List.all_eq_true.mp (by decide), by decide,
    by decide, rfl⟩

/-- The name `exp_decay`. -/
def decayName : SimpleName :=
  ⟨"exp_decay", by decide, by rintro c ⟨⟩; rfl, List.all_eq_true.mp (by decide), by decide,
    by decide, rfl⟩

/-- The likes of a post less what its decay exceeds one by. -/
def decayedLikes : PlainTerm :=
  .operation .subtract (.named likesName)
    (.operation .subtract (.call decayName [.named postedAtName, .number ⟨2, by decide⟩])
      (.number ⟨1, by decide⟩))

/-- Whether a term is a number. -/
def PlainTerm.isNumber : PlainTerm → Bool
  | .number _ => true
  | _ => false

/-- Gaps around the operators of these likes, and a new line after the comma. -/
def decayedLikesGaps : Nat → List Blank
  | 1 => [.tab]
  | 7 => [.newline]
  | 2 | 11 | 12 => [.space]
  | _ => []

/-- Written with brackets around its numbers, and over two lines, the term is read back. -/
theorem parse_decayedLikes :
    Node.parse (.ofString "likes\t- (exp_decay(posted_at,\n(2)) - (1))") =
      .ok (.binary "-" (.identifier "likes")
        (.binary "-"
          (.call (.identifier "exp_decay")
            [.identifier "posted_at", .literal (.number (.doubleOfInt 2))])
          (.literal (.number (.doubleOfInt 1))))) := by
  have written : decayedLikes.render PlainTerm.isNumber decayedLikesGaps =
      "likes\t- (exp_decay(posted_at,\n(2)) - (1))" := by decide
  rw [← written]
  exact parse_render PlainTerm.isNumber decayedLikesGaps decayedLikes

end Surface
end RankFormula
