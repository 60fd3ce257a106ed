/-!
# Dialogues

A request or a job asks the store questions and goes on according to the answers.
A dialogue holds that dependence and nothing about the party that answers, so a
statement about a dialogue holds whatever the store does. `Dialogue.run` plays it
against a party with a state and keeps the questions in the order asked.
-/

namespace RankFormula

/-- A computation that asks questions `q : Q`, each answered by an `A q`, and ends
with a result. -/
inductive Dialogue (Q : Type) (A : Q → Type) (α : Type) : Type where
  /-- The end. -/
  | done (result : α)
  /-- A question, and how to go on after each answer. -/
  | ask (question : Q) (next : A question → Dialogue Q A α)

/-- A dialogue that was played: its questions in order, its result, and the state of
the party that answered. -/
structure Played (Q σ α : Type) where
  /-- The questions asked. -/
  asked : List Q
  /-- The result. -/
  result : α
  /-- The state after the last answer. -/
  state : σ

namespace Dialogue

variable {Q : Type} {A : Q → Type} {α β σ : Type}

/-- Continues a dialogue with its result. -/
def bind : Dialogue Q A α → (α → Dialogue Q A β) → Dialogue Q A β
  | .done result, f => f result
  | .ask question next, f => .ask question fun answer => (next answer).bind f

instance : Monad (Dialogue Q A) where
  pure := .done
  bind := .bind

/-- The dialogue of one question. -/
def question (q : Q) : Dialogue Q A (A q) := .ask q .done

/-- Plays a dialogue against a party with a state. -/
def run (answer : σ → (q : Q) → A q × σ) : Dialogue Q A α → σ → Played Q σ α
  | .done result, state => ⟨[], result, state⟩
  | .ask q next, state =>
    let (reply, state) := answer state q
    let played := run answer (next reply) state
    ⟨q :: played.asked, played.result, played.state⟩

/-- Replaces every question by a dialogue with another party. -/
def interpret {Q' : Type} {A' : Q' → Type} (f : (q : Q) → Dialogue Q' A' (A q)) :
    Dialogue Q A α → Dialogue Q' A' α
  | .done result => .done result
  | .ask q next => (f q).bind fun reply => interpret f (next reply)

end Dialogue
end RankFormula
