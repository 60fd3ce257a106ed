import RankFormula.Dialogue

/-!
# What a dialogue does, whatever it is answered

A dialogue is a tree, and the party that answers chooses the branch. `AsksOnly` speaks of the
questions on all branches, `EndsIn` of the results, `Reports` of what results say about the
answers, and `AllPlays` of whole branches. All four follow the construction of a dialogue, and
what they say then holds of every run, whatever the party does. `Proceeds` speaks of one run,
against a party that is known: of the states it reaches and of what is asked in each.
-/

namespace RankFormula
namespace Dialogue

variable {Q : Type} {A : Q → Type} {α β σ : Type}

/-- All questions of a dialogue satisfy a condition, whatever the answers. -/
def AsksOnly (allowed : Q → Prop) : Dialogue Q A α → Prop
  | .done _ => True
  | .ask q next => allowed q ∧ ∀ reply, (next reply).AsksOnly allowed

/-- All results of a dialogue satisfy a condition, whatever the answers. -/
def EndsIn (expected : α → Prop) : Dialogue Q A α → Prop
  | .done result => expected result
  | .ask _ next => ∀ reply, (next reply).EndsIn expected

/-- Whatever the answers, the result is marked exactly if something was noticed before or one of
the answers is noticed. -/
def Reports (noticed : (q : Q) → A q → Prop) (marked : α → Prop) : Dialogue Q A α → Prop → Prop
  | .done result, before => marked result ↔ before
  | .ask q next, before => ∀ reply, Reports noticed marked (next reply) (before ∨ noticed q reply)

/-- All plays of a dialogue satisfy a condition: the questions with their answers, in order, and
the result to which they lead. -/
def AllPlays : Dialogue Q A α → (List ((q : Q) × A q) → α → Prop) → Prop
  | .done result, expected => expected [] result
  | .ask q next, expected =>
    ∀ reply, (next reply).AllPlays fun later result => expected (⟨q, reply⟩ :: later) result

section Construction

variable {allowed wider : Q → Prop} {dialogue : Dialogue Q A α} {next : α → Dialogue Q A β}

/-- A condition on questions may be weakened. -/
theorem AsksOnly.imp (only : dialogue.AsksOnly allowed) (weaker : ∀ q, allowed q → wider q) :
    dialogue.AsksOnly wider := by
  induction dialogue with
  | done result => trivial
  | ask q next ih => exact ⟨weaker q only.1, fun reply => ih reply (only.2 reply)⟩

/-- What goes on after a dialogue adds its own questions. -/
theorem AsksOnly.bind (only : dialogue.AsksOnly allowed)
    (later : ∀ result, (next result).AsksOnly allowed) :
    (dialogue.bind next).AsksOnly allowed := by
  induction dialogue with
  | done result => exact later result
  | ask q next ih => exact ⟨only.1, fun reply => ih reply (only.2 reply)⟩

/-- A dialogue that ends after one question asks nothing else. -/
theorem asksOnly_ask_done {q : Q} {next : A q → Dialogue Q A α} (permitted : allowed q)
    (ends : ∀ reply, ∃ result, next reply = .done result) :
    (Dialogue.ask q next).AsksOnly allowed := by
  refine ⟨permitted, fun reply => ?_⟩
  obtain ⟨result, ended⟩ := ends reply
  rw [ended]
  trivial

/-- What goes on after a dialogue decides the results. -/
theorem EndsIn.bind {middle : α → Prop} {expected : β → Prop} (ends : dialogue.EndsIn middle)
    (later : ∀ result, middle result → (next result).EndsIn expected) :
    (dialogue.bind next).EndsIn expected := by
  induction dialogue with
  | done result => exact later result ends
  | ask q next ih => exact fun reply => ih reply (ends reply)

/-- What goes on after a dialogue takes over what its result reports. -/
theorem Reports.bind {noticed : (q : Q) → A q → Prop} {middle : α → Prop} {marked : β → Prop}
    {before : Prop} (reports : dialogue.Reports noticed middle before)
    (later : ∀ result, (next result).Reports noticed marked (middle result)) :
    (dialogue.bind next).Reports noticed marked before := by
  induction dialogue generalizing before with
  | done result =>
    have same : middle result = before := propext reports
    exact same ▸ later result
  | ask q next ih => exact fun reply => ih reply (reports reply)

/-- A condition on plays may be weakened. -/
theorem AllPlays.imp {expected weaker : List ((q : Q) × A q) → α → Prop}
    (plays : dialogue.AllPlays expected)
    (implied : ∀ exchanges result, expected exchanges result → weaker exchanges result) :
    dialogue.AllPlays weaker := by
  induction dialogue generalizing expected weaker with
  | done result => exact implied [] result plays
  | ask q next ih => exact fun reply => ih reply (plays reply) fun later => implied (_ :: later)

/-- A play goes on after the play of a first part. -/
theorem AllPlays.bind {middle : List ((q : Q) × A q) → α → Prop}
    {expected : List ((q : Q) × A q) → β → Prop} (plays : dialogue.AllPlays middle)
    (later : ∀ exchanges result, middle exchanges result →
      (next result).AllPlays fun rest => expected (exchanges ++ rest)) :
    (dialogue.bind next).AllPlays expected := by
  induction dialogue generalizing middle expected with
  | done result => exact later [] result plays
  | ask q rest ih =>
    exact fun reply => ih reply (plays reply) fun exchanges => later (_ :: exchanges)

/-- A play consists of questions that may be asked. -/
theorem AsksOnly.allPlays (only : dialogue.AsksOnly allowed) :
    dialogue.AllPlays fun exchanges _ => ∀ exchange ∈ exchanges, allowed exchange.1 := by
  induction dialogue with
  | done result => exact fun _ member => absurd member List.not_mem_nil
  | ask q next ih =>
    intro reply
    refine (ih reply (only.2 reply)).imp fun later _ rest => ?_
    exact List.forall_mem_cons.mpr ⟨only.1, rest⟩

/-- A play leads to one of the results. -/
theorem AllPlays.endsIn {expected : List ((q : Q) × A q) → α → Prop} {wanted : α → Prop}
    (plays : dialogue.AllPlays expected) (ends : dialogue.EndsIn wanted) :
    dialogue.AllPlays fun exchanges result => expected exchanges result ∧ wanted result := by
  induction dialogue generalizing expected with
  | done result => exact ⟨plays, ends⟩
  | ask q next ih => exact fun reply => ih reply (plays reply) (ends reply)

/-- Every dialogue ends in some result. -/
theorem endsIn_true (dialogue : Dialogue Q A α) : dialogue.EndsIn fun _ => True := by
  induction dialogue with
  | done result => trivial
  | ask q next ih => exact ih

/-- A result that is only changed costs no questions. -/
theorem AsksOnly.map (only : dialogue.AsksOnly allowed) (f : α → β) :
    (f <$> dialogue).AsksOnly allowed := only.bind fun _ => trivial

end Construction

section Run

variable {answer : σ → (q : Q) → A q × σ} {allowed : Q → Prop} {expected : α → Prop}
  {dialogue : Dialogue Q A α}

/-- A run asks only what the dialogue may ask. -/
theorem AsksOnly.asked (only : dialogue.AsksOnly allowed) (state : σ) :
    ∀ q ∈ (dialogue.run answer state).asked, allowed q := by
  induction dialogue generalizing state with
  | done result => exact fun q member => absurd member List.not_mem_nil
  | ask q next ih =>
    intro asked member
    rcases List.mem_cons.mp member with rfl | later
    · exact only.1
    · exact ih _ (only.2 _) _ asked later

/-- A run ends as the dialogue may end. -/
theorem EndsIn.result (ends : dialogue.EndsIn expected) (state : σ) :
    expected (dialogue.run answer state).result := by
  induction dialogue generalizing state with
  | done result => exact ends
  | ask q next ih => exact ih _ (ends _) _

/-- The questions of a run, each with its answer. -/
def exchanges (answer : σ → (q : Q) → A q × σ) : Dialogue Q A α → σ → List ((q : Q) × A q)
  | .done _, _ => []
  | .ask q next, state =>
    let (reply, state) := answer state q
    ⟨q, reply⟩ :: exchanges answer (next reply) state

/-- The result of a run is marked exactly if one of its answers is noticed. -/
theorem Reports.result {noticed : (q : Q) → A q → Prop} {marked : α → Prop} {before : Prop}
    (reports : dialogue.Reports noticed marked before) (state : σ) :
    marked (dialogue.run answer state).result ↔
      before ∨ ∃ exchange ∈ dialogue.exchanges answer state, noticed exchange.1 exchange.2 := by
  induction dialogue generalizing state before with
  | done result =>
    rw [run, exchanges]
    have last : marked result ↔ before := reports
    simpa using last
  | ask q next ih =>
    have later := ih _ (reports (answer state q).1) (answer state q).2
    simp only [run, exchanges, List.mem_cons, or_and_right, exists_or, exists_eq_left]
    rw [later, or_assoc]

/-- A run is one of the plays. -/
theorem AllPlays.run {expected : List ((q : Q) × A q) → α → Prop}
    (plays : dialogue.AllPlays expected) (answer : σ → (q : Q) → A q × σ) (state : σ) :
    expected (dialogue.exchanges answer state) (dialogue.run answer state).result := by
  induction dialogue generalizing expected state with
  | done result => exact plays
  | ask q next ih => exact ih _ (plays _) _

/-- The questions of a run, without their answers. -/
theorem run_asked_eq (answer : σ → (q : Q) → A q × σ) (dialogue : Dialogue Q A α) (state : σ) :
    (dialogue.run answer state).asked = (dialogue.exchanges answer state).map Sigma.fst := by
  induction dialogue generalizing state with
  | done result => rfl
  | ask q next ih => simp only [run, exchanges, ih, List.map_cons]

/-- The answers of a run are those that the party gives. -/
theorem exists_answer_of_mem_exchanges {exchange : (q : Q) × A q} {state : σ}
    (member : exchange ∈ dialogue.exchanges answer state) :
    ∃ asked, (answer asked exchange.1).1 = exchange.2 := by
  induction dialogue generalizing state with
  | done result => exact absurd member List.not_mem_nil
  | ask q next ih =>
    rcases List.mem_cons.mp member with rfl | later
    · exact ⟨state, rfl⟩
    · exact ih _ later

/-- A run of a longer dialogue goes on from the state in which its first part left the party. -/
theorem run_bind (answer : σ → (q : Q) → A q × σ) (dialogue : Dialogue Q A α)
    (next : α → Dialogue Q A β) (state : σ) :
    (dialogue.bind next).run answer state =
      let first := dialogue.run answer state
      let second := (next first.result).run answer first.state
      ⟨first.asked ++ second.asked, second.result, second.state⟩ := by
  induction dialogue generalizing state with
  | done result => rfl
  | ask q rest ih => simp only [bind, run, ih, List.cons_append]

/-- A result that is only changed does not change the run. -/
theorem run_map (answer : σ → (q : Q) → A q × σ) (dialogue : Dialogue Q A α) (f : α → β)
    (state : σ) :
    (f <$> dialogue).run answer state =
      let played := dialogue.run answer state
      ⟨played.asked, f played.result, played.state⟩ := by
  refine (run_bind answer dialogue (fun result => .done (f result)) state).trans ?_
  simp only [run, List.append_nil]

/-- What the answers to all allowed questions keep, a run keeps. -/
theorem AsksOnly.keeps (invariant : σ → Prop) (only : dialogue.AsksOnly allowed)
    (kept : ∀ q, allowed q → ∀ state, invariant state → invariant (answer state q).2)
    {state : σ} (holds : invariant state) : invariant (dialogue.run answer state).state := by
  induction dialogue generalizing state with
  | done result => exact holds
  | ask q next ih => exact ih _ (only.2 _) (kept q only.1 state holds)

end Run

section Course

/-- The questions of a run, each with the state in which it is asked. -/
def course (answer : σ → (q : Q) → A q × σ) : Dialogue Q A α → σ → List (σ × Q)
  | .done _, _ => []
  | .ask q next, state => (state, q) :: course answer (next (answer state q).1) (answer state q).2

/-- A run from a state asks, in every state that it reaches, only what is allowed there, and
ends as expected. -/
def Proceeds (answer : σ → (q : Q) → A q × σ) (allowed : σ → Q → Prop) :
    Dialogue Q A α → σ → (α → σ → Prop) → Prop
  | .done result, state, expected => expected result state
  | .ask q next, state, expected =>
    allowed state q ∧
      (next (answer state q).1).Proceeds answer allowed (answer state q).2 expected

variable {answer : σ → (q : Q) → A q × σ} {allowed : σ → Q → Prop} {dialogue : Dialogue Q A α}
  {state : σ}

/-- A run goes on from the state in which its first part left the party. -/
theorem Proceeds.bind {next : α → Dialogue Q A β} {middle : α → σ → Prop}
    {expected : β → σ → Prop} (proceeds : dialogue.Proceeds answer allowed state middle)
    (later : ∀ result reached, middle result reached →
      (next result).Proceeds answer allowed reached expected) :
    (dialogue.bind next).Proceeds answer allowed state expected := by
  induction dialogue generalizing state with
  | done result => exact later result state proceeds
  | ask q rest ih => exact ⟨proceeds.1, ih _ proceeds.2⟩

/-- A run proceeds as expected if every question is allowed in the state in which it is asked
and the end is as expected. -/
theorem proceeds_iff {expected : α → σ → Prop} :
    dialogue.Proceeds answer allowed state expected ↔
      (∀ step ∈ dialogue.course answer state, allowed step.1 step.2) ∧
        expected (dialogue.run answer state).result (dialogue.run answer state).state := by
  induction dialogue generalizing state with
  | done result =>
    exact ⟨fun ends => ⟨fun _ member => absurd member List.not_mem_nil, ends⟩, And.right⟩
  | ask q next ih => simp only [Proceeds, course, run, List.forall_mem_cons, ih, and_assoc]

/-- What every allowed question keeps holds in every state that a run reaches. -/
theorem Proceeds.keeps {expected : α → σ → Prop}
    (proceeds : dialogue.Proceeds answer allowed state expected) (invariant : σ → Prop)
    (kept : ∀ state q, allowed state q → invariant state → invariant (answer state q).2)
    (holds : invariant state) :
    dialogue.Proceeds answer (fun state q => allowed state q ∧ invariant state) state
      fun result last => expected result last ∧ invariant last := by
  induction dialogue generalizing state with
  | done result => exact ⟨proceeds, holds⟩
  | ask q next ih =>
    exact ⟨⟨proceeds.1, holds⟩, ih _ proceeds.2 (kept state q proceeds.1 holds)⟩

/-- What every allowed question leaves to be remembered and no other undoes is remembered in all
later states of a run, up to its end. -/
theorem Proceeds.recalls {expected : α → σ → Prop}
    (proceeds : dialogue.Proceeds answer allowed state expected) (memory : σ × Q → σ → Prop)
    (formed : ∀ state q, allowed state q → memory (state, q) (answer state q).2)
    (kept : ∀ step state q, allowed state q → memory step state →
      memory step (answer state q).2) :
    ((dialogue.course answer state).Pairwise fun earlier later => memory earlier later.1) ∧
      ∀ step ∈ dialogue.course answer state, memory step (dialogue.run answer state).state := by
  induction dialogue generalizing state with
  | done result => exact ⟨.nil, fun _ member => absurd member List.not_mem_nil⟩
  | ask q next ih =>
    obtain ⟨pairwise, last⟩ := ih _ proceeds.2
    obtain ⟨after, atEnd⟩ := proceeds_iff.mp
      (proceeds.2.keeps (memory (state, q)) (kept (state, q)) (formed state q proceeds.1))
    exact ⟨.cons (fun step member => (after step member).2) pairwise,
      List.forall_mem_cons.mpr ⟨atEnd.2, last⟩⟩

/-- The answers of a run are those that the party gives in the states of its course. -/
theorem exchanges_eq_course (answer : σ → (q : Q) → A q × σ) (dialogue : Dialogue Q A α)
    (state : σ) :
    dialogue.exchanges answer state =
      (dialogue.course answer state).map fun step => ⟨step.2, (answer step.1 step.2).1⟩ := by
  induction dialogue generalizing state with
  | done result => rfl
  | ask q next ih => simp only [exchanges, Dialogue.course, ih, List.map_cons]

end Course
end Dialogue
end RankFormula
