import RankFormula.Surface.Lexer
import RankFormula.Surface.Number
import RankFormula.Surface.Precedence

/-!
# Reading terms from tokens

A parser by precedence climbing. Every function takes the tokens from the current
one on and returns its term with the tokens after it; the first fault ends the
reading. `fuel` bounds the depth of the recursion and is computed from the number
of tokens, so no text runs out of it.
-/

namespace RankFormula
namespace Surface

/-- A place among the tokens of a text. -/
structure Cursor where
  /-- The token at the place. -/
  current : Token
  /-- The tokens after it. -/
  later : List Token

/-- The result of reading, unless a fault ends it. -/
abbrev Reading := Except LocatedFault

namespace Cursor

/-- A fault at the current token. -/
def fail {α : Type} (s : Cursor) (fault : Fault) : Reading α :=
  .error ⟨s.current.position, fault⟩

/-- The current token cannot stand where it stands. -/
def unexpected {α : Type} (s : Cursor) : Reading α := s.fail (.unexpectedToken s.current)

/-- The place after the current token; there is none after the end. -/
def advance (s : Cursor) : Reading Cursor :=
  match s.later with
  | token :: later => .ok ⟨token, later⟩
  | [] => s.fail .unexpectedEnd

/-- Steps over an expected token. -/
def expect (s : Cursor) (kind : TokenKind) (value : String) : Reading Cursor :=
  if s.current.is kind value then s.advance else s.unexpected

/-- Steps over a name and returns it. -/
def expectName (s : Cursor) : Reading (String × Cursor) :=
  if s.current.kind == .identifier then do
    let next ← s.advance
    .ok (s.current.value, next)
  else s.unexpected

end Cursor

/-- Whether a token can name a property: a name, or an operator that is a word. -/
def namesProperty (token : Token) : Bool :=
  token.kind == .identifier || (token.kind == .operator && isName token.value.toList)

/-- An access to a property; the chain around the object, if there is one, moves
to the outside. -/
def accessProperty (object : Term) (property : RawText) (whenPresent : Bool)
    (finish : Term → Term) : Term :=
  match object with
  | .chain inner => .chain (finish (.member inner (.text property) whenPresent))
  | _ =>
    let access := finish (.member object (.text property) whenPresent)
    if whenPresent then .chain access else access

mutual

/-- A term whose operators bind at least as tightly as `precedence`. -/
def parseTerm : Nat → Bool → Nat → Cursor → Reading (Term × Cursor)
  | 0, _, _, s => s.fail .unexpectedEnd
  | fuel + 1, inClosure, precedence, s =>
    if precedence = 0 && s.current.isOperator "let" then parseBinding fuel inClosure s
    else do
      let (left, s) ← parsePrimary fuel inClosure s
      let (left, s) ← parseOperators fuel inClosure precedence left "" s
      if precedence = 0 then parseConditionals fuel inClosure left s else .ok (left, s)
termination_by structural fuel => fuel

/-- A named value and the term it is for. -/
def parseBinding : Nat → Bool → Cursor → Reading (Term × Cursor)
  | 0, _, s => s.fail .unexpectedEnd
  | fuel + 1, inClosure, s => do
    let s ← s.expect .operator "let"
    let (name, s) ← s.expectName
    let s ← s.expect .operator "="
    let (value, s) ← parseTerm fuel inClosure 0 s
    let s ← s.expect .operator ";"
    let (body, s) ← parseTerm fuel inClosure 0 s
    .ok (.binding name value body, s)
termination_by structural fuel => fuel

/-- The operators after a term, from the left; `previous` is the one before. -/
def parseOperators : Nat → Bool → Nat → Term → String → Cursor → Reading (Term × Cursor)
  | 0, _, _, _, _, s => s.fail .unexpectedEnd
  | fuel + 1, inClosure, precedence, left, previous, s =>
    if s.current.kind != .operator then .ok (left, s)
    else if s.current.value == "not" then do
      let t ← s.advance
      if !isNegatable t.current.value then t.unexpected
      else
        match binaryPrecedence? t.current.value with
        | none => .ok (left, s)
        | some p =>
          if p < precedence then .ok (left, s)
          else parseOperation fuel inClosure precedence p true left previous t
    else
      match binaryPrecedence? s.current.value with
      | none => .ok (left, s)
      | some p =>
        if p < precedence then .ok (left, s)
        else parseOperation fuel inClosure precedence p false left previous s
termination_by structural fuel => fuel

/-- The operator at the current token, of precedence `own`, with its right side, and
the operators after it. -/
def parseOperation :
    Nat → Bool → Nat → Nat → Bool → Term → String → Cursor → Reading (Term × Cursor)
  | 0, _, _, _, _, _, _, s => s.fail .unexpectedEnd
  | fuel + 1, inClosure, precedence, own, negated, left, previous, s => do
    let operator := s.current.value
    let t ← s.advance
    if operator == "|" then
      let (name, t) ← t.expectName
      let (result, t) ← parseCall fuel inClosure name [left] t
      parseOperators fuel inClosure precedence result operator t
    else if previous == "??" && operator != "??" then s.fail (.mixedCoalesce operator)
    else if isOrdering operator then
      let (result, t) ← parseOrderings fuel inClosure (own + 1) none left operator t
      parseOperators fuel inClosure precedence result operator t
    else
      let (right, t) ← parseTerm fuel inClosure (if groupsRight operator then own else own + 1) t
      let result : Term := .binary operator left right
      parseOperators fuel inClosure precedence (if negated then .unary "not" result else result)
        operator t
termination_by structural fuel => fuel

/-- Comparisons by order in a row: neighbours are compared, and all must hold. -/
def parseOrderings :
    Nat → Bool → Nat → Option Term → Term → String → Cursor → Reading (Term × Cursor)
  | 0, _, _, _, _, _, s => s.fail .unexpectedEnd
  | fuel + 1, inClosure, tighter, before, left, operator, s => do
    let (right, s) ← parseTerm fuel inClosure tighter s
    let comparison : Term := .binary operator left right
    let result : Term :=
      match before with
      | none => comparison
      | some before => .binary "&&" before comparison
    if s.current.kind == .operator && isOrdering s.current.value then
      let next ← s.advance
      parseOrderings fuel inClosure tighter (some result) right s.current.value next
    else .ok (result, s)
termination_by structural fuel => fuel

/-- The choices after a condition. -/
def parseConditionals : Nat → Bool → Term → Cursor → Reading (Term × Cursor)
  | 0, _, _, s => s.fail .unexpectedEnd
  | fuel + 1, inClosure, condition, s =>
    if !s.current.isOperator "?" then .ok (condition, s)
    else do
      let s ← s.advance
      if s.current.isOperator ":" then
        let s ← s.advance
        let (no, s) ← parseTerm fuel inClosure 0 s
        parseConditionals fuel inClosure (.conditional condition condition no) s
      else
        let (yes, s) ← parseTerm fuel inClosure 0 s
        let s ← s.expect .operator ":"
        let (no, s) ← parseTerm fuel inClosure 0 s
        parseConditionals fuel inClosure (.conditional condition yes no) s
termination_by structural fuel => fuel

/-- A term without operators between terms. -/
def parsePrimary : Nat → Bool → Cursor → Reading (Term × Cursor)
  | 0, _, s => s.fail .unexpectedEnd
  | fuel + 1, inClosure, s =>
    let token := s.current
    if token.kind == .operator && (unaryPrecedence? token.value).isSome then do
      let s ← s.advance
      let (operand, s) ← parseTerm fuel inClosure ((unaryPrecedence? token.value).getD 0) s
      parseSuffixes fuel inClosure (.unary token.value operand) s
    else if token.isBracket "(" then do
      let s ← s.advance
      let (inner, s) ← parseTerm fuel inClosure 0 s
      let s ← s.expect .bracket ")"
      parseSuffixes fuel inClosure inner s
    else if token.isOperator "#" || token.isOperator "." then
      if !inClosure then s.fail .pointerOutsideClosure
      else if token.isOperator "." then parseSuffixes fuel inClosure (.pointer "") s
      else do
        let s ← s.advance
        if s.current.kind == .identifier then
          let next ← s.advance
          parseSuffixes fuel inClosure (.pointer s.current.value) next
        else parseSuffixes fuel inClosure (.pointer "") s
    else if token.isOperator "::" then do
      let s ← s.advance
      let (name, s) ← s.expectName
      let (call, s) ← parseCall fuel inClosure name [] s
      parseSuffixes fuel inClosure call s
    else parseSecondary fuel inClosure s
termination_by structural fuel => fuel

/-- A constant, a variable, a call, a list or a record. -/
def parseSecondary : Nat → Bool → Cursor → Reading (Term × Cursor)
  | 0, _, s => s.fail .unexpectedEnd
  | fuel + 1, inClosure, s =>
    match s.current.kind with
    | .identifier => do
      let name := s.current.value
      let s ← s.advance
      if name == "true" then .ok (.bool true, s)
      else if name == "false" then .ok (.bool false, s)
      else if name == "nil" then .ok (.nil, s)
      else if s.current.isBracket "(" then
        let (call, s) ← parseCall fuel inClosure name [] s
        parseSuffixes fuel inClosure call s
      else parseSuffixes fuel inClosure (.name name) s
    | .number => do
      let text := s.current.value
      let s ← s.advance
      match readNumberToken text with
      | .ok term => .ok (term, s)
      | .error fault => s.fail fault
    | .string => do
      let text := s.current.text
      let s ← s.advance
      parseSuffixes fuel inClosure (.text text) s
    | _ =>
      if s.current.isBracket "[" then do
        let s ← s.advance
        let (items, s) ← parseItems fuel inClosure [] s
        parseSuffixes fuel inClosure (.array items) s
      else if s.current.isBracket "\x7b" then do
        let s ← s.advance
        let (entries, s) ← parseEntries fuel inClosure [] s
        parseSuffixes fuel inClosure (.record entries) s
      else s.unexpected
termination_by structural fuel => fuel

/-- The arguments of a call of `name`; `given` stand in front of them. -/
def parseCall : Nat → Bool → String → List Term → Cursor → Reading (Term × Cursor)
  | 0, _, _, _, s => s.fail .unexpectedEnd
  | fuel + 1, inClosure, name, given, s => do
    let s ← s.expect .bracket "("
    match predicateParameters? name with
    | some parameters =>
      let parameters := parameters.drop given.length
      let (arguments, s) ←
        parsePredicateArguments fuel inClosure parameters.length parameters true s
      let s ← s.expect .bracket ")"
      .ok (.builtin name (given ++ arguments), s)
    | none =>
      let (arguments, s) ← parseArguments fuel inClosure true s
      .ok (.call (.name name) (given ++ arguments), s)
termination_by structural fuel => fuel

/-- The arguments of a predicate up to the closing bracket; `total` are expected. -/
def parsePredicateArguments :
    Nat → Bool → Nat → List Parameter → Bool → Cursor → Reading (List Term × Cursor)
  | 0, _, _, _, _, s => s.fail .unexpectedEnd
  | _, _, _, [], _, s => .ok ([], s)
  | fuel + 1, inClosure, total, parameter :: parameters, isFirst, s =>
    if s.current.isBracket ")" then
      if parameter.isOptional then .ok ([], s) else s.fail (.missingArguments total)
    else do
      let s ← if isFirst then .ok s else s.expect .operator ","
      let (argument, s) ←
        match parameter.kind with
        | .term => parseTerm fuel inClosure 0 s
        | .closure => parseClosure fuel s
      let (arguments, s) ← parsePredicateArguments fuel inClosure total parameters false s
      .ok (argument :: arguments, s)
termination_by structural fuel => fuel

/-- A term over the elements of a list, in braces or not. -/
def parseClosure : Nat → Cursor → Reading (Term × Cursor)
  | 0, s => s.fail .unexpectedEnd
  | fuel + 1, s =>
    if s.current.isBracket "\x7b" then do
      let s ← s.advance
      let (body, s) ← parseTerm fuel true 0 s
      let s ← s.expect .bracket "\x7d"
      .ok (.closure body, s)
    else do
      let (body, s) ← parseTerm fuel true 0 s
      .ok (.closure body, s)
termination_by structural fuel => fuel

/-- The arguments of a call and its closing bracket. -/
def parseArguments : Nat → Bool → Bool → Cursor → Reading (List Term × Cursor)
  | 0, _, _, s => s.fail .unexpectedEnd
  | fuel + 1, inClosure, isFirst, s =>
    if s.current.isBracket ")" then do
      let s ← s.advance
      .ok ([], s)
    else do
      let s ← if isFirst then .ok s else s.expect .operator ","
      let (argument, s) ← parseTerm fuel inClosure 0 s
      let (arguments, s) ← parseArguments fuel inClosure false s
      .ok (argument :: arguments, s)
termination_by structural fuel => fuel

/-- The items of a list and its closing bracket; `before` are read, last one first. -/
def parseItems : Nat → Bool → List Term → Cursor → Reading (List Term × Cursor)
  | 0, _, _, s => s.fail .unexpectedEnd
  | fuel + 1, inClosure, before, s =>
    if s.current.isBracket "]" then do
      let s ← s.advance
      .ok (before.reverse, s)
    else do
      let s ← if before.isEmpty then .ok s else s.expect .operator ","
      if !before.isEmpty && s.current.isBracket "]" then
        let s ← s.advance
        .ok (before.reverse, s)
      else
        let (item, s) ← parseTerm fuel inClosure 0 s
        parseItems fuel inClosure (item :: before) s
termination_by structural fuel => fuel

/-- The entries of a record and its closing brace; `before` are read, last one first. -/
def parseEntries : Nat → Bool → List Term → Cursor → Reading (List Term × Cursor)
  | 0, _, _, s => s.fail .unexpectedEnd
  | fuel + 1, inClosure, before, s =>
    if s.current.isBracket "\x7d" then do
      let s ← s.advance
      .ok (before.reverse, s)
    else do
      let s ← if before.isEmpty then .ok s else s.expect .operator ","
      if !before.isEmpty && s.current.isBracket "\x7d" then
        let s ← s.advance
        .ok (before.reverse, s)
      else if !before.isEmpty && s.current.isOperator "," then s.unexpected
      else
        let (key, s) ← parseKey fuel inClosure s
        let s ← s.expect .operator ":"
        let (value, s) ← parseTerm fuel inClosure 0 s
        parseEntries fuel inClosure (.pair key value :: before) s
termination_by structural fuel => fuel

/-- The key of a pair: a number, text or name as written, or a term in brackets. -/
def parseKey : Nat → Bool → Cursor → Reading (Term × Cursor)
  | 0, _, s => s.fail .unexpectedEnd
  | fuel + 1, inClosure, s =>
    let kind := s.current.kind
    if kind == .number || kind == .string || kind == .identifier then do
      let next ← s.advance
      .ok (.text s.current.text, next)
    else if s.current.isBracket "(" then parseTerm fuel inClosure 0 s
    else s.fail (.invalidKey s.current)
termination_by structural fuel => fuel

/-- The accesses after a term. -/
def parseSuffixes : Nat → Bool → Term → Cursor → Reading (Term × Cursor)
  | 0, _, _, s => s.fail .unexpectedEnd
  | fuel + 1, inClosure, term, s =>
    let token := s.current
    if token.isOperator "." || token.isOperator "?." then do
      let whenPresent := token.value == "?."
      let s ← s.advance
      if whenPresent && s.current.isBracket "[" then
        let (access, s) ← parseIndex fuel inClosure term true s
        parseSuffixes fuel inClosure access s
      else
        let property := s.current
        let s ← s.advance
        if !namesProperty property then s.fail .expectedName
        else if s.current.isBracket "(" then
          let s ← s.advance
          let (arguments, s) ← parseArguments fuel inClosure true s
          let call := accessProperty term property.text whenPresent (Term.call · arguments)
          parseSuffixes fuel inClosure call s
        else parseSuffixes fuel inClosure (accessProperty term property.text whenPresent id) s
    else if token.isBracket "[" then do
      let (access, s) ← parseIndex fuel inClosure term false s
      parseSuffixes fuel inClosure access s
    else .ok (term, s)
termination_by structural fuel => fuel

/-- An index or a section in square brackets, the opening one being current. -/
def parseIndex : Nat → Bool → Term → Bool → Cursor → Reading (Term × Cursor)
  | 0, _, _, _, s => s.fail .unexpectedEnd
  | fuel + 1, inClosure, object, whenPresent, s => do
    let s ← s.advance
    if s.current.isOperator ":" then
      let s ← s.advance
      let (last, s) ← parseBound fuel inClosure s
      .ok (.slice object none last, s)
    else
      let (first, s) ← parseTerm fuel inClosure 0 s
      if s.current.isOperator ":" then
        let s ← s.advance
        let (last, s) ← parseBound fuel inClosure s
        .ok (.slice object (some first) last, s)
      else
        let s ← s.expect .bracket "]"
        let access : Term := .member object first whenPresent
        .ok (if whenPresent then .chain access else access, s)
termination_by structural fuel => fuel

/-- The upper bound of a section, if there is one, and the closing bracket. -/
def parseBound : Nat → Bool → Cursor → Reading (Option Term × Cursor)
  | 0, _, s => s.fail .unexpectedEnd
  | fuel + 1, inClosure, s =>
    if s.current.isBracket "]" then do
      let s ← s.advance
      .ok (none, s)
    else do
      let (last, s) ← parseTerm fuel inClosure 0 s
      let s ← s.expect .bracket "]"
      .ok (some last, s)
termination_by structural fuel => fuel

end

/-- The fuel for a number of tokens: no token is passed by more than a dozen calls. -/
def fuelFor (tokens : Nat) : Nat := 16 * (tokens + 2)

/-- The term that makes up all of the tokens. -/
def parseTokens (first : Token) (later : List Token) : Reading Term := do
  let (term, s) ← parseTerm (fuelFor later.length) false 0 ⟨first, later⟩
  if s.current.kind == .eof then .ok term else s.unexpected

/-- The term of a text. -/
def parseText (cs : List Char) : Reading Term := do
  match ← tokenize cs with
  | [] => .error ⟨0, .unexpectedEnd⟩
  | first :: later => parseTokens first later

end Surface
end RankFormula
