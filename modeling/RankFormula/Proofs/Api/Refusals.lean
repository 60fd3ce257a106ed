import RankFormula.Api.Ranking

/-!
# Which error is refused how

Errors are recognised by the marks that they bear or wrap. Each fault has one kind
(`ExpressionFault.type`, `FormulaError.type`), and the error that is made of it bears the mark of
that kind and of no other, however often it was wrapped. So the order in which the kinds are
tried does not matter, and a refusal always names the kind of the fault.
-/

namespace RankFormula

/-- The kind of a fault. -/
def ExpressionFault.type : ExpressionFault → ErrorType
  | .invalidVariable _ => .invalidVariable
  | .invalidFunction _ _ => .invalidFunction
  | .invalidExpression _ => .invalidExpression
  | .invalidLiteral => .invalidLiteral
  | .notCompilable _ => .notCompilable

/-- The kind of an error. -/
def FormulaError.type : FormulaError → ErrorType
  | .unreadable _ => .parseError
  | .invalid fault => fault.type

/-- The response to a text that is no formula. -/
def FormulaError.toResponse (error : FormulaError) (status : Nat) : Response :=
  expressionFailure status error.message error.type

/-- The status for an expression that is no formula. -/
def RankingSource.refusalStatus : RankingSource → Nat
  | .stored _ => 422
  | .adHoc _ => 400

namespace Report

variable {report : Report} {type : ErrorType} {mark : ErrorMark} {words : String}

@[simp] theorem bears_mk {own : Option ErrorMark} {wrapped : List Report} :
    (mk words own wrapped).bears mark = (own == some mark || anyBears mark wrapped) := by
  rw [bears]

@[simp] theorem anyBears_nil : anyBears mark [] = false := by rw [anyBears]

@[simp] theorem anyBears_cons {reports : List Report} :
    anyBears mark (report :: reports) = (report.bears mark || anyBears mark reports) := by
  rw [anyBears]

@[simp] theorem bears_marked {own : ErrorMark} :
    (marked own words).bears mark = (own == mark) := by
  simp [marked]

@[simp] theorem bears_wrapping {wrapped : List Report} :
    (wrapping words wrapped).bears mark = anyBears mark wrapped := by
  simp [wrapping]

/-- An error bears the mark of one kind and of no other. -/
def IsOf (report : Report) (type : ErrorType) : Prop :=
  ∀ other : ErrorType, report.bears other.mark = true ↔ other = type

/-- The kind whose mark alone an error bears is the one that is found. -/
theorem IsOf.type? (kind : report.IsOf type) : report.type? = some type := by
  have found : ErrorType.all.find? (fun other => decide (other = type)) = some type := by
    cases type <;> rfl
  have same : (fun other : ErrorType => report.bears other.mark) =
      fun other => decide (other = type) := by
    funext other
    rw [Bool.eq_iff_iff, decide_eq_true_iff]
    exact kind other
  rw [Report.type?, same, found]

/-- An error of a known kind blames the request. -/
theorem IsOf.refuse (kind : report.IsOf type) :
    report.refuse = expressionFailure 400 report.words type := by
  rw [Report.refuse, kind.type?]

end Report

namespace ParseFault

/-- The error of a text that is no expression is recognised as such, whatever it wraps. -/
theorem report_isOf (fault : ParseFault) : fault.report.IsOf .parseError := by
  intro other
  cases fault <;> cases other <;> simp [report, ErrorType.mark]

/-- The error of a text is none of a formula. -/
theorem report_bears_invalidFormula (fault : ParseFault) :
    fault.report.bears .invalidFormula = false := by
  cases fault <;> simp [report]

end ParseFault

namespace ExpressionFault

/-- The error of a fault is recognised by the kind of the fault. -/
theorem report_isOf (fault : ExpressionFault) : fault.report.IsOf fault.type := by
  intro other
  cases fault <;> cases other <;> simp [report, ErrorType.mark, type]

/-- The error of a fault alone is none of a formula. -/
theorem report_bears_invalidFormula (fault : ExpressionFault) :
    fault.report.bears .invalidFormula = false := by
  cases fault <;> simp [report]

/-- A fault is one of an expression that could be read. -/
theorem type_ne_parseError (fault : ExpressionFault) : fault.type ≠ .parseError := by
  cases fault <;> simp [type]

/-- The error of a fault has its words. -/
@[simp] theorem report_words (fault : ExpressionFault) : fault.report.words = fault.message := by
  cases fault <;> rfl

end ExpressionFault

namespace FormulaError

/-- What is wrapped into an error of a formula is still recognised. -/
theorem report_isOf (error : FormulaError) : error.report.IsOf error.type := by
  cases error with
  | unreadable fault => exact fault.report_isOf
  | invalid fault =>
    intro other
    have unformed : other.mark ≠ .invalidFormula := by cases other <;> decide
    simp only [report, Report.bears_wrapping, Report.anyBears_cons, Report.bears_marked,
      Report.anyBears_nil, Bool.or_false, Bool.or_eq_true, beq_iff_eq, Ne.symm unformed, false_or]
    exact fault.report_isOf other

/-- An error is one of a formula unless the text is no expression. -/
theorem report_bears_invalidFormula (error : FormulaError) :
    error.report.bears .invalidFormula = true ↔ error.type ≠ .parseError := by
  cases error with
  | unreadable fault => simp [report, type, fault.report_bears_invalidFormula]
  | invalid fault => simp [report, type, fault.type_ne_parseError]

/-- An error has its words. -/
@[simp] theorem report_words (error : FormulaError) : error.report.words = error.message := by
  cases error <;> rfl

/-- The refusal of an error names its kind. -/
theorem refuse_report (error : FormulaError) : error.report.refuse = error.toResponse 400 := by
  rw [error.report_isOf.refuse, report_words, toResponse]

end FormulaError

/-- A ranking is refused with the kind of the error, whatever the source. -/
theorem RankingSource.refuse_report (source : RankingSource) (error : FormulaError) :
    source.refuse error.report = error.toResponse source.refusalStatus := by
  cases source with
  | stored expression =>
    simp only [refuse, error.report_isOf.type?, FormulaError.report_words, Option.map_some,
      Option.getD_some]
    rfl
  | adHoc expression => exact error.refuse_report

end RankFormula
