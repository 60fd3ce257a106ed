import RankFormula.Proofs.Expression.Derivation

/-!
# The meaning of expressions and of operator trees

An `Arithmetic` reads numerals and operations over any carrier. `Node.evaluate` gives
an expression its meaning there, and `Value.evaluate` reads an operator tree as the
document store does. Neither mentions the other, nor the tables that validation and
lowering go by; `Node.Lowers.evaluate` shows that they agree on every derived tree.
-/

namespace RankFormula

universe u

/-- A reading of numbers: what numerals denote and what the operations do. -/
structure Arithmetic (K : Type u) where
  /-- The value of a numeral. -/
  literal : Number → K
  /-- The sum. -/
  add : K → K → K
  /-- The difference. -/
  subtract : K → K → K
  /-- The product. -/
  multiply : K → K → K
  /-- The quotient. -/
  divide : K → K → K
  /-- The exponential. -/
  exp : K → K

variable {K : Type u}

namespace Arithmetic

/-- The operation that a symbol of the source language stands for. -/
def ofSymbol? (reading : Arithmetic K) : String → Option (K → K → K)
  | "+" => some reading.add
  | "-" => some reading.subtract
  | "*" => some reading.multiply
  | "/" => some reading.divide
  | _ => none

/-- The operation on two operands that a name in a tree stands for. -/
def ofTreeName? (reading : Arithmetic K) : String → Option (K → K → K)
  | "$add" => some reading.add
  | "$subtract" => some reading.subtract
  | "$multiply" => some reading.multiply
  | "$divide" => some reading.divide
  | _ => none

/-- Minus one times a rate times a time, from left to right. -/
def decayExponent (reading : Arithmetic K) (rate elapsed : K) : K :=
  reading.multiply (reading.multiply (reading.literal (.doubleOfInt (-1))) rate) elapsed

/-- The value of a call: the exponential of the first of two arguments, or a value
times the exponential of its decay. An argument without a value matters only if it is
used. -/
def call? (reading : Arithmetic K) : String → List (Option K) → Option K
  | "exp", [some a, _] => some (reading.exp a)
  | "exp_decay", [some v, some r, some t] =>
    some (reading.multiply v (reading.exp (reading.decayExponent r t)))
  | _, _ => none

/-- The value of an operation of a tree on its operands; a product of three goes from
left to right. -/
def operation? (reading : Arithmetic K) (name : String) : List K → Option K
  | [a] => if name = "$exp" then some (reading.exp a) else none
  | [a, b] => (reading.ofTreeName? name).map fun operation => operation a b
  | [a, b, c] =>
    if name = "$multiply" then some (reading.multiply (reading.multiply a b) c) else none
  | _ => none

end Arithmetic

namespace Node

mutual

/-- The value of an expression over a document, if it has one. -/
def evaluate (reading : Arithmetic K) (document : String → K) : Node → Option K
  | .literal (.number n) => some (reading.literal n)
  | .identifier name => some (document name)
  | .binary operator left right => do
    let operation ← reading.ofSymbol? operator
    let a ← evaluate reading document left
    let b ← evaluate reading document right
    some (operation a b)
  | .call (.identifier name) arguments =>
    reading.call? name (evaluateAll reading document arguments)
  | _ => none

/-- The values of expressions in order. -/
def evaluateAll (reading : Arithmetic K) (document : String → K) : List Node → List (Option K)
  | [] => []
  | node :: nodes => evaluate reading document node :: evaluateAll reading document nodes

end

end Node

/-- The field that a text in a tree refers to. -/
def fieldOf? (text : String) : Option String :=
  match text.toList with
  | '$' :: name => some (String.ofList name)
  | _ => none

namespace Value

mutual

/-- The value of an operator tree over a document, if it has one: a number stands for
itself, a reference for its field, and an object with one field for an operation on
the operands listed there, or on the only operand. -/
def evaluate (reading : Arithmetic K) (document : String → K) : Value → Option K
  | .number n => some (reading.literal n)
  | .string text => (fieldOf? text).map document
  | .object [(name, .list operands)] => do
    reading.operation? name (← evaluateAll reading document operands)
  | .object [(name, operand)] => do
    reading.operation? name [← evaluate reading document operand]
  | _ => none

/-- The values of operator trees in order, if each has one. -/
def evaluateAll (reading : Arithmetic K) (document : String → K) : List Value → Option (List K)
  | [] => some []
  | tree :: trees => do
    let head ← evaluate reading document tree
    let tail ← evaluateAll reading document trees
    some (head :: tail)

end

end Value

/-- The name behind the mark of a reference is the field. -/
@[simp] theorem fieldOf?_reference (name : String) : fieldOf? ("$" ++ name) = some name := by
  simp [fieldOf?]

/-- An operator means the same by its symbol and by its name in trees. -/
theorem Arithmetic.ofTreeName?_treeName (reading : Arithmetic K) (op : ArithmeticOperator) :
    ∃ operation, reading.ofSymbol? op.symbol = some operation ∧
      reading.ofTreeName? op.treeName = some operation := by
  cases op with
  | add => exact ⟨reading.add, rfl, rfl⟩
  | subtract => exact ⟨reading.subtract, rfl, rfl⟩
  | multiply => exact ⟨reading.multiply, rfl, rfl⟩
  | divide => exact ⟨reading.divide, rfl, rfl⟩

section Values

variable {reading : Arithmetic K} {document : String → K}

/-- An operation on the values of two listed operands. -/
theorem Value.evaluate_pair (name : String) {left right : Value} {a b : K}
    (leftValue : left.evaluate reading document = some a)
    (rightValue : right.evaluate reading document = some b) :
    (Value.object [(name, .list [left, right])]).evaluate reading document =
      reading.operation? name [a, b] := by
  simp [evaluate, evaluateAll, leftValue, rightValue]

/-- An operation on the values of three listed operands. -/
theorem Value.evaluate_triple (name : String) {first second third : Value} {a b c : K}
    (firstValue : first.evaluate reading document = some a)
    (secondValue : second.evaluate reading document = some b)
    (thirdValue : third.evaluate reading document = some c) :
    (Value.object [(name, .list [first, second, third])]).evaluate reading document =
      reading.operation? name [a, b, c] := by
  simp [evaluate, evaluateAll, firstValue, secondValue, thirdValue]

/-- An operation on the value of its only operand, which is no list because a list has
no value. -/
theorem Value.evaluate_single (name : String) {operand : Value} {a : K}
    (value : operand.evaluate reading document = some a) :
    (Value.object [(name, operand)]).evaluate reading document = reading.operation? name [a] := by
  cases operand with
  | list items => simp [evaluate] at value
  | _ =>
    change (evaluate reading document _ >>= fun a => reading.operation? name [a]) = _
    rw [value]
    rfl

/-- A derived tree and its expression have the same value over every document, and they
do have one. -/
theorem Node.Lowers.evaluate {whitelist : Whitelist} {node : Node} {tree : Value}
    (derived : Lowers whitelist node tree) (reading : Arithmetic K) (document : String → K) :
    ∃ value, node.evaluate reading document = some value ∧
      tree.evaluate reading document = some value := by
  induction derived with
  | number n => exact ⟨reading.literal n, rfl, rfl⟩
  | field name listed => exact ⟨document name, rfl, by simp [Value.evaluate]⟩
  | operation op _ _ leftClaim rightClaim =>
    obtain ⟨a, leftValue, leftTreeValue⟩ := leftClaim
    obtain ⟨b, rightValue, rightTreeValue⟩ := rightClaim
    obtain ⟨operation, symbol, treeName⟩ := reading.ofTreeName?_treeName op
    refine ⟨operation a b, ?_, ?_⟩
    · simp [Node.evaluate, symbol, leftValue, rightValue]
    · rw [Value.evaluate_pair _ leftTreeValue rightTreeValue]
      simp [Arithmetic.operation?, treeName]
  | exponential _ _ operandClaim =>
    obtain ⟨a, value, treeValue⟩ := operandClaim
    refine ⟨reading.exp a, ?_, ?_⟩
    · simp [Node.evaluate, Node.evaluateAll, value, FormulaFunction.name, Arithmetic.call?]
    · rw [Value.evaluate_single _ treeValue]
      rfl
  | decay _ _ _ valueClaim rateClaim elapsedClaim =>
    obtain ⟨v, value, valueTreeValue⟩ := valueClaim
    obtain ⟨r, rate, rateTreeValue⟩ := rateClaim
    obtain ⟨t, elapsed, elapsedTreeValue⟩ := elapsedClaim
    refine ⟨reading.multiply v (reading.exp (reading.decayExponent r t)), ?_, ?_⟩
    · simp [Node.evaluate, Node.evaluateAll, value, rate, elapsed, FormulaFunction.name,
        Arithmetic.call?]
    · have minusOne : minusOneTree.evaluate reading document =
          some (reading.literal (.doubleOfInt (-1))) := rfl
      have exponent := Value.evaluate_triple ArithmeticOperator.multiply.treeName minusOne
        rateTreeValue elapsedTreeValue
      have exponential := Value.evaluate_single expTreeName exponent
      rw [Value.evaluate_pair _ valueTreeValue exponential]
      rfl

end Values

/-- What compiles keeps its meaning: over every carrier and every document the tree and
the expression have the same value, and there is one. -/
theorem Node.compile_preserves_meaning {whitelist : Whitelist} {node : Node}
    {tree : Value} (compiled : node.compile whitelist = .ok tree) (reading : Arithmetic K)
    (document : String → K) :
    ∃ value, tree.evaluate reading document = some value ∧
      node.evaluate reading document = some value := by
  obtain ⟨value, nodeValue, treeValue⟩ := (compile_eq_ok.mp compiled).evaluate reading document
  exact ⟨value, treeValue, nodeValue⟩

/-- A decay minus an exponential whose unused argument has no tree and no value of its own. -/
theorem Node.compile_preserves_meaning_decay :
    let whitelist : Whitelist := ⟨["age", "likes"]⟩
    let likes : Node := .identifier "likes"
    let node : Node := .binary "-"
      (.call (.identifier "exp_decay") [likes, .literal (.int 2), .identifier "age"])
      (.call (.identifier "exp") [likes, .call (.identifier "sigmoid") [likes, likes, likes]])
    let tree : Value := .object [("$subtract", .list [
      .object [("$multiply", .list [.string "$likes", .object [("$exp",
        .object [("$multiply", .list [.number (.doubleOfInt (-1)), .int 2, .string "$age"])])]])],
      .object [("$exp", .string "$likes")]])]
    let reading : Arithmetic Int :=
      ⟨fun n => if n = .integer 2 then 2 else -1, (· + ·), (· - ·), (· * ·), (· / ·), (· + 7)⟩
    let document : String → Int := fun name => if name = "likes" then 10 else 3
    node.compile whitelist = .ok tree ∧ node.evaluate reading document = some (-7) ∧
      ∃ value, tree.evaluate reading document = some value ∧
        node.evaluate reading document = some value := by
  intro whitelist likes node tree reading document
  have compiled : node.compile whitelist = .ok tree := by rfl
  exact ⟨compiled, by decide, compile_preserves_meaning compiled reading document⟩

end RankFormula
