import RankFormula.Expression.Parsing
import RankFormula.Proofs.Expression.Printable
import RankFormula.Proofs.Surface.Conversion

/-!
# What the parser reads

The parser refuses numbers that are out of range where it meets them, so every expression it
reads can be written as JSON (`Node.printable_of_parse`). `ReadsPrintable` says this of all
functions of the parser for one amount of fuel, and the proof goes by induction on the fuel:
each function is opened once, with the claim for the others at hand.
-/

namespace RankFormula
namespace Surface

/-- What is read, if anything is, satisfies a condition. -/
def Yields {α : Type} (expected : α → Prop) (reading : Reading α) : Prop :=
  ∀ a, reading = .ok a → expected a

namespace Yields

variable {α β : Type} {expected : α → Prop} {middle : β → Prop} {first : Reading β}
  {next : β → Reading α}

/-- A result that is at hand. -/
theorem ok {a : α} (holds : expected a) : Yields expected (.ok a) := by
  rintro _ ⟨⟩
  exact holds

/-- A fault yields nothing. -/
theorem error (fault : LocatedFault) : Yields expected (.error fault) := nofun

/-- What is read after something that satisfies a condition. -/
theorem bind (yields : Yields middle first) (rest : ∀ b, middle b → Yields expected (next b)) :
    Yields expected (first >>= next) := by
  cases read : first with
  | error fault => exact error fault
  | ok b => exact rest b (yields b read)

/-- What is read after anything. -/
theorem after (rest : ∀ b, Yields expected (next b)) : Yields expected (first >>= next) := by
  cases first with
  | error fault => exact error fault
  | ok b => exact rest b

/-- What is read after either of two things. -/
theorem either {condition : Prop} [Decidable condition] {second : Reading β}
    (rest : ∀ b, Yields expected (next b)) :
    Yields expected (if condition then first >>= next else second >>= next) := by
  split
  · exact after rest
  · exact after rest

end Yields

/-- The expression of a term can be written. -/
def Term.Printable (term : Term) : Prop := term.toNode.Printable

namespace Term

attribute [local simp] toNode nodesOf

/-- A floating number can be written exactly if it is finite. -/
@[simp] theorem printable_float {x : Floating} : (float x).Printable ↔ x.isFinite = true := by
  simp [Printable]

/-- A whole number of 64 bits can be written. -/
theorem printable_integer {n : Int} (small : n.natAbs < wordModulus) : (integer n).Printable := by
  simpa [Printable] using Value.writable_doubleOfInt small

@[simp] theorem printable_text (text : RawText) : (Term.text text).Printable := by
  simp [Printable]

@[simp] theorem printable_bool (b : Bool) : (bool b).Printable := by
  simp [Printable, Value.Writable, Value.toJson?]

@[simp] theorem printable_name (name : String) : (Term.name name).Printable := by
  simp [Printable]

@[simp] theorem printable_unary {operator : String} {operand : Term} :
    (unary operator operand).Printable ↔ operand.Printable := by
  simp [Printable]

@[simp] theorem printable_binary {operator : String} {left right : Term} :
    (binary operator left right).Printable ↔ left.Printable ∧ right.Printable := by
  simp [Printable]

@[simp] theorem printable_call {callee : Term} {arguments : List Term} :
    (call callee arguments).Printable ↔
      callee.Printable ∧ ∀ argument ∈ arguments, argument.Printable := by
  simp [Printable, nodesOf_eq_map]

@[simp] theorem printable_builtin {name : String} {arguments : List Term} :
    (builtin name arguments).Printable ↔ ∀ argument ∈ arguments, argument.Printable := by
  simp [Printable, nodesOf_eq_map]

@[simp] theorem printable_chain {inner : Term} : (chain inner).Printable ↔ inner.Printable := by
  simp [Printable]

/-- An access can be written if its object and its property can. -/
theorem printable_member {object property : Term} {whenPresent : Bool}
    (written : object.Printable) (named : property.Printable) :
    (member object property whenPresent).Printable := by
  unfold Printable at *
  cases property <;> simp_all

/-- Constructs without an expression of their own are written as texts. -/
theorem printable_of_kindLabel {term : Term}
    (unsupported : term.toNode = .unsupported term.kindLabel term.print) : term.Printable := by
  rw [Printable, unsupported]
  exact Node.printable_unsupported _ _

end Term

/-- A number of some form is read as one that can be written. -/
theorem printable_of_readNumberAs {form : NumberForm} {cs : List Char} {term : Term}
    (read : readNumberAs form cs = .ok term) : term.Printable := by
  have whole {digits : Except IntegerFault Nat} {negative : Bool}
      (given : (digits >>= signedInRange negative).map Term.integer = .ok term) :
      term.Printable := by
    cases digits with
    | error fault => cases given
    | ok n =>
      cases inRange : signedInRange negative n with
      | error fault => simp [bind, Except.bind, Except.map, inRange] at given
      | ok m =>
        obtain rfl : Term.integer m = term := by
          simpa [bind, Except.bind, Except.map, inRange] using given
        exact Term.printable_integer (natAbs_lt_of_signedInRange inRange)
  cases form with
  | hex => exact whole read
  | binary => exact whole read
  | octal => exact whole read
  | integer =>
    rw [readNumberAs] at read
    unfold readInteger at read
    split at read <;> exact whole read
  | float =>
    rw [readNumberAs] at read
    split at read
    · cases read
    · dsimp only at read
      split at read
      · next finite =>
        obtain rfl := Except.ok.inj read
        exact Term.printable_float.mpr finite
      · cases read

/-- A number token is read as a number that can be written. -/
theorem printable_of_readNumberToken {text : String} {term : Term}
    (read : readNumberToken text = .ok term) : term.Printable := by
  unfold readNumberToken at read
  dsimp only at read
  split at read
  · next found =>
    obtain rfl := Except.ok.inj read
    exact printable_of_readNumberAs found
  · cases read

/-- An access to a property of a term that can be written can be written, and so can what is
made of it. -/
theorem printable_accessProperty {object : Term} (property : RawText) (whenPresent : Bool)
    {finish : Term → Term} (printable : object.Printable)
    (finishes : ∀ access : Term, access.Printable → (finish access).Printable) :
    (accessProperty object property whenPresent finish).Printable := by
  have access {inner : Term} (written : inner.Printable) :
      (finish (.member inner (.text property) whenPresent)).Printable :=
    finishes _ (Term.printable_member written (Term.printable_text property))
  unfold accessProperty
  split
  · exact Term.printable_chain.mpr (access (Term.printable_chain.mp printable))
  · dsimp only
    split
    · exact Term.printable_chain.mpr (access printable)
    · exact access printable

/-- What was read of a term can be written. -/
abbrev TermRead (read : Term × Cursor) : Prop := read.1.Printable

/-- What was read of terms can be written. -/
abbrev TermsRead (read : List Term × Cursor) : Prop := ∀ term ∈ read.1, term.Printable

/-- With some fuel, terms and the operators between them are read as what can be written. -/
structure ReadsOperators (fuel : Nat) : Prop where
  /-- Terms. -/
  term (inClosure : Bool) (precedence : Nat) (s : Cursor) :
    Yields TermRead (parseTerm fuel inClosure precedence s)
  /-- Operators after a term. -/
  operators (inClosure : Bool) (precedence : Nat) {left : Term} (previous : String) (s : Cursor)
    (printable : left.Printable) :
    Yields TermRead (parseOperators fuel inClosure precedence left previous s)
  /-- An operator and its right side. -/
  operation (inClosure : Bool) (precedence own : Nat) (negated : Bool) {left : Term}
    (previous : String) (s : Cursor) (printable : left.Printable) :
    Yields TermRead (parseOperation fuel inClosure precedence own negated left previous s)
  /-- Comparisons in a row. -/
  orderings (inClosure : Bool) (tighter : Nat) {before : Option Term} {left : Term}
    (operator : String) (s : Cursor) (earlier : ∀ term ∈ before, term.Printable)
    (printable : left.Printable) :
    Yields TermRead (parseOrderings fuel inClosure tighter before left operator s)
  /-- Choices. -/
  conditionals (inClosure : Bool) {condition : Term} (s : Cursor)
    (printable : condition.Printable) :
    Yields TermRead (parseConditionals fuel inClosure condition s)

/-- With some fuel, terms without operators between terms are read as what can be written. -/
structure ReadsOperands (fuel : Nat) : Prop where
  /-- Terms in brackets, behind operators, and the like. -/
  primary (inClosure : Bool) (s : Cursor) : Yields TermRead (parsePrimary fuel inClosure s)
  /-- Constants, variables, calls, lists and records. -/
  secondary (inClosure : Bool) (s : Cursor) : Yields TermRead (parseSecondary fuel inClosure s)
  /-- Accesses after a term. -/
  suffixes (inClosure : Bool) {term : Term} (s : Cursor) (printable : term.Printable) :
    Yields TermRead (parseSuffixes fuel inClosure term s)
  /-- An index or a section. -/
  index (inClosure : Bool) {object : Term} (whenPresent : Bool) (s : Cursor)
    (printable : object.Printable) :
    Yields TermRead (parseIndex fuel inClosure object whenPresent s)

/-- With some fuel, calls are read as what can be written. -/
structure ReadsCalls (fuel : Nat) : Prop where
  /-- Calls. -/
  call (inClosure : Bool) (name : String) {given : List Term} (s : Cursor)
    (printable : ∀ term ∈ given, term.Printable) :
    Yields TermRead (parseCall fuel inClosure name given s)
  /-- Arguments of predicates. -/
  predicateArguments (inClosure : Bool) (total : Nat) (parameters : List Parameter)
    (isFirst : Bool) (s : Cursor) :
    Yields TermsRead (parsePredicateArguments fuel inClosure total parameters isFirst s)
  /-- Arguments. -/
  arguments (inClosure isFirst : Bool) (s : Cursor) :
    Yields TermsRead (parseArguments fuel inClosure isFirst s)

/-- With some fuel, all functions of the parser read what can be written. -/
structure ReadsPrintable (fuel : Nat) : Prop
    extends ReadsOperators fuel, ReadsOperands fuel, ReadsCalls fuel

/-- A binding can be written, whatever it holds. -/
theorem parseBinding_yields (fuel : Nat) (inClosure : Bool) (s : Cursor) :
    Yields TermRead (parseBinding fuel inClosure s) := by
  cases fuel with
  | zero => exact .error _
  | succ fuel =>
    rw [parseBinding]
    refine .after fun s => .after fun ⟨name, s⟩ => .after fun s => .after fun ⟨value, s⟩ =>
      .after fun s => .after fun ⟨body, s⟩ => .ok ?_
    exact Term.printable_of_kindLabel rfl

/-- A closure can be written, whatever it holds. -/
theorem parseClosure_yields (fuel : Nat) (s : Cursor) :
    Yields TermRead (parseClosure fuel s) := by
  cases fuel with
  | zero => exact .error _
  | succ fuel =>
    rw [parseClosure]
    split
    · refine .after fun s => .after fun ⟨body, s⟩ => .after fun s => .ok ?_
      exact Term.printable_of_kindLabel rfl
    · refine .after fun ⟨body, s⟩ => .ok ?_
      exact Term.printable_of_kindLabel rfl

/-- Without fuel nothing is read. -/
theorem ReadsPrintable.zero : ReadsPrintable 0 where
  term _ _ _ := .error _
  operators _ _ _ _ _ _ := .error _
  operation _ _ _ _ _ _ _ _ := .error _
  orderings _ _ _ _ _ _ _ _ := .error _
  conditionals _ _ _ _ := .error _
  primary _ _ := .error _
  secondary _ _ := .error _
  suffixes _ _ _ _ := .error _
  index _ _ _ _ _ := .error _
  call _ _ _ _ _ := .error _
  predicateArguments _ _ _ _ _ := .error _
  arguments _ _ _ := .error _

/-- Terms and operators with one more unit of fuel. -/
theorem ReadsOperators.succ {fuel : Nat} (reads : ReadsPrintable fuel) :
    ReadsOperators (fuel + 1) where
  term inClosure precedence s := by
    rw [parseTerm]
    split
    · exact parseBinding_yields fuel inClosure s
    · refine (reads.primary inClosure s).bind fun ⟨left, s⟩ primary => ?_
      refine (reads.operators inClosure precedence "" s primary).bind fun ⟨left, s⟩ operated => ?_
      dsimp only
      split
      · exact reads.conditionals inClosure s operated
      · exact .ok operated
  operators inClosure precedence left previous s printable := by
    rw [parseOperators]
    split
    · exact .ok printable
    · split
      · refine .after fun t => ?_
        split
        · exact .error _
        · split
          · exact .ok printable
          · split
            · exact .ok printable
            · exact reads.operation inClosure precedence _ true previous t printable
      · split
        · exact .ok printable
        · split
          · exact .ok printable
          · exact reads.operation inClosure precedence _ false previous s printable
  operation inClosure precedence own negated left previous s printable := by
    rw [parseOperation]
    refine .after fun t => ?_
    dsimp only
    split
    · refine .after fun ⟨name, t⟩ => ?_
      have given : ∀ term ∈ [left], term.Printable := by simpa using printable
      refine (reads.call inClosure name t given).bind fun ⟨result, t⟩ called => ?_
      exact reads.operators inClosure precedence _ t called
    · split
      · exact .error _
      · split
        · refine (reads.orderings inClosure (own + 1) _ t (by simp) printable).bind
            fun ⟨result, t⟩ compared => ?_
          exact reads.operators inClosure precedence _ t compared
        · refine (reads.term inClosure _ t).bind fun ⟨right, t⟩ written => ?_
          refine reads.operators inClosure precedence _ t ?_
          split
          · simpa using ⟨printable, written⟩
          · simpa using ⟨printable, written⟩
  orderings inClosure tighter before left operator s earlier printable := by
    rw [parseOrderings]
    refine (reads.term inClosure tighter s).bind fun ⟨right, s⟩ written => ?_
    have goesOn {result : Term} (compared : result.Printable) :
        Yields TermRead (if s.current.kind == .operator && isOrdering s.current.value then
          s.advance >>= parseOrderings fuel inClosure tighter (some result) right s.current.value
        else .ok (result, s)) := by
      split
      · refine .after fun next => ?_
        exact reads.orderings inClosure tighter _ next (by simpa using compared) written
      · exact .ok compared
    cases before with
    | none => exact goesOn (Term.printable_binary.mpr ⟨printable, written⟩)
    | some before =>
      exact goesOn (Term.printable_binary.mpr
        ⟨earlier before rfl, Term.printable_binary.mpr ⟨printable, written⟩⟩)
  conditionals inClosure condition s printable := by
    have choice (yes no : Term) (s : Cursor) :
        Yields TermRead (parseConditionals fuel inClosure (.conditional condition yes no) s) :=
      reads.conditionals inClosure s (Term.printable_of_kindLabel rfl)
    rw [parseConditionals]
    split
    · exact .ok printable
    · refine .after fun s => ?_
      split
      · exact .after fun s => .after fun ⟨no, s⟩ => choice condition no s
      · exact .after fun ⟨yes, s⟩ => .after fun s => .after fun ⟨no, s⟩ => choice yes no s

/-- Operands with one more unit of fuel. -/
theorem ReadsOperands.succ {fuel : Nat} (reads : ReadsPrintable fuel) :
    ReadsOperands (fuel + 1) where
  primary inClosure s := by
    have pointer (name : String) (s : Cursor) :
        Yields TermRead (parseSuffixes fuel inClosure (.pointer name) s) :=
      reads.suffixes inClosure s (Term.printable_of_kindLabel rfl)
    rw [parsePrimary]
    dsimp only
    split
    · refine .after fun s => (reads.term inClosure _ s).bind fun ⟨operand, s⟩ written => ?_
      exact reads.suffixes inClosure s (Term.printable_unary.mpr written)
    · split
      · refine .after fun s => (reads.term inClosure 0 s).bind fun ⟨inner, s⟩ written => ?_
        exact .after fun s => reads.suffixes inClosure s written
      · split
        · split
          · exact .error _
          · split
            · exact pointer "" s
            · refine .after fun s => ?_
              split
              · exact .after fun next => pointer _ next
              · exact pointer "" s
        · split
          · refine .after fun s => .after fun ⟨name, s⟩ => ?_
            refine (reads.call inClosure name s (by simp)).bind fun ⟨call, s⟩ called => ?_
            exact reads.suffixes inClosure s called
          · exact reads.secondary inClosure s
  secondary inClosure s := by
    rw [parseSecondary]
    split
    · refine .after fun t => ?_
      dsimp only
      split
      · exact .ok (Term.printable_bool true)
      · split
        · exact .ok (Term.printable_bool false)
        · split
          · exact .ok (Term.printable_of_kindLabel rfl)
          · split
            · refine (reads.call inClosure _ t (by simp)).bind fun ⟨call, t⟩ called => ?_
              exact reads.suffixes inClosure t called
            · exact reads.suffixes inClosure t (Term.printable_name _)
    · refine .after fun t => ?_
      split
      · next read => exact .ok (printable_of_readNumberToken read)
      · exact .error _
    · exact .after fun t => reads.suffixes inClosure t (Term.printable_text _)
    · split
      · refine .after fun s => .after fun ⟨items, s⟩ => ?_
        exact reads.suffixes inClosure s (Term.printable_of_kindLabel rfl)
      · split
        · refine .after fun s => .after fun ⟨entries, s⟩ => ?_
          exact reads.suffixes inClosure s (Term.printable_of_kindLabel rfl)
        · exact .error _
  suffixes inClosure term s printable := by
    rw [parseSuffixes]
    dsimp only
    split
    · refine .after fun s => ?_
      split
      · refine (reads.index inClosure true s printable).bind fun ⟨access, s⟩ written => ?_
        exact reads.suffixes inClosure s written
      · refine .after fun next => ?_
        split
        · exact .error _
        · split
          · refine .after fun s => ?_
            refine (reads.arguments inClosure true s).bind fun ⟨arguments, s⟩ read => ?_
            refine reads.suffixes inClosure s (printable_accessProperty _ _ printable ?_)
            exact fun access written => Term.printable_call.mpr ⟨written, read⟩
          · refine reads.suffixes inClosure next (printable_accessProperty _ _ printable ?_)
            exact fun access written => written
    · split
      · refine (reads.index inClosure false s printable).bind fun ⟨access, s⟩ written => ?_
        exact reads.suffixes inClosure s written
      · exact .ok printable
  index inClosure object whenPresent s printable := by
    rw [parseIndex]
    refine .after fun s => ?_
    split
    · exact .after fun s => .after fun ⟨last, s⟩ => .ok (Term.printable_of_kindLabel rfl)
    · refine (reads.term inClosure 0 s).bind fun ⟨first, s⟩ written => ?_
      dsimp only
      split
      · exact .after fun s => .after fun ⟨last, s⟩ => .ok (Term.printable_of_kindLabel rfl)
      · refine .after fun s => .ok ?_
        have access : (Term.member object first whenPresent).Printable :=
          Term.printable_member printable written
        split
        · exact Term.printable_chain.mpr access
        · exact access

/-- Calls with one more unit of fuel. -/
theorem ReadsCalls.succ {fuel : Nat} (reads : ReadsPrintable fuel) : ReadsCalls (fuel + 1) where
  call inClosure name given s printable := by
    rw [parseCall]
    refine .after fun s => ?_
    split
    · refine (reads.predicateArguments inClosure _ _ true s).bind fun ⟨arguments, s⟩ read => ?_
      refine .after fun s => .ok ?_
      exact Term.printable_builtin.mpr fun term member =>
        (List.mem_append.mp member).elim (printable term) (read term)
    · refine (reads.arguments inClosure true s).bind fun ⟨arguments, s⟩ read => .ok ?_
      refine Term.printable_call.mpr ⟨Term.printable_name name, fun term member => ?_⟩
      exact (List.mem_append.mp member).elim (printable term) (read term)
  predicateArguments inClosure total parameters isFirst s := by
    cases parameters with
    | nil => exact .ok (List.forall_mem_nil _)
    | cons parameter parameters =>
      rw [parsePredicateArguments]
      split
      · split
        · exact .ok (List.forall_mem_nil _)
        · exact .error _
      · dsimp only
        have goesOn (argument : Term) (s : Cursor) (written : argument.Printable) :
            Yields TermsRead (parsePredicateArguments fuel inClosure total parameters false s >>=
              fun read => .ok (argument :: read.1, read.2)) := by
          refine (reads.predicateArguments inClosure total parameters false s).bind
            fun ⟨arguments, s⟩ read => .ok ?_
          exact List.forall_mem_cons.mpr ⟨written, read⟩
        refine .either fun s => ?_
        cases parameter.kind with
        | term => exact (reads.term inClosure 0 s).bind fun ⟨argument, s⟩ => goesOn argument s
        | closure => exact (parseClosure_yields fuel s).bind fun ⟨argument, s⟩ => goesOn argument s
  arguments inClosure isFirst s := by
    rw [parseArguments]
    split
    · exact .after fun s => .ok (List.forall_mem_nil _)
    · dsimp only
      refine .either fun s => (reads.term inClosure 0 s).bind fun ⟨argument, s⟩ written => ?_
      refine (reads.arguments inClosure false s).bind fun ⟨arguments, s⟩ read => .ok ?_
      exact List.forall_mem_cons.mpr ⟨written, read⟩

/-- All functions of the parser read what can be written. -/
theorem readsPrintable (fuel : Nat) : ReadsPrintable fuel := by
  induction fuel with
  | zero => exact .zero
  | succ fuel reads => exact ⟨.succ reads, .succ reads, .succ reads⟩

/-- A text is read as a term that can be written. -/
theorem printable_of_parseText {cs : List Char} {term : Term}
    (parsed : parseText cs = .ok term) : term.Printable := by
  have reads : Yields Term.Printable (parseText cs) := by
    unfold parseText
    refine .after fun tokens => ?_
    split
    · exact .error _
    · unfold parseTokens
      refine ((readsPrintable _).term false 0 _).bind fun ⟨term, s⟩ written => ?_
      dsimp only
      split
      · exact .ok written
      · exact .error _
  exact reads term parsed

end Surface

/-- Every expression that is read from a text can be written as JSON. -/
theorem Node.printable_of_parse {source : RawText} {node : Node}
    (parsed : Node.parse source = .ok node) : node.Printable := by
  unfold Node.parse at parsed
  split at parsed
  · cases parsed
  · split at parsed
    · next found =>
      obtain rfl := Except.ok.inj parsed
      exact Surface.printable_of_parseText found
    · cases parsed

end RankFormula
