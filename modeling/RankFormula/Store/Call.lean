import RankFormula.Dialogue
import RankFormula.Formula.Paging
import RankFormula.Formula.Pipeline
import RankFormula.Formula.Stored

/-!
# Calls of the store

What requests and jobs ask of the store of an instance, the answers they get, and
the ways in which a call can fail. A `Session` is a dialogue with the store; it
fixes no store.
-/

namespace RankFormula

/-- A call of the store, for one instance. -/
inductive StoreCall where
  /-- The stored formulas by key, or only the valid ones. -/
  | formulas (instanceID : String) (onlyValid : Bool)
  /-- The formula under a key. -/
  | formulaByKey (instanceID : String) (key : RawText)
  /-- Inserts a formula, or replaces the one under its key. -/
  | save (instanceID : String) (formula : StoredFormula)
  /-- Removes the formula under a key. -/
  | delete (instanceID : String) (key : RawText)
  /-- Records what a check found. -/
  | mark (instanceID key : String) (check : CheckResult)
  /-- Counts the posts that satisfy a filter and picks the page to show. -/
  | page (instanceID : String) (filter : Filter) (page limit : Int64)
  /-- Runs a ranking pipeline on the posts. -/
  | ranked (instanceID : String) (pipeline : List Stage)

namespace StoreCall

/-- What a call answers if it succeeds. A ranking may answer no list at all. -/
def Answer : StoreCall → Type
  | .formulas _ _ => List StoredFormula
  | .formulaByKey _ _ => StoredFormula
  | .save _ _ => StoredFormula
  | .delete _ _ => Unit
  | .mark _ _ _ => Unit
  | .page _ _ _ _ => PageWindow
  | .ranked _ _ => Option (List Value)

/-- The instance a call concerns. -/
def instanceID : StoreCall → String
  | .formulas i _ => i
  | .formulaByKey i _ => i
  | .save i _ => i
  | .delete i _ => i
  | .mark i _ _ => i
  | .page i _ _ _ => i
  | .ranked i _ => i

end StoreCall

/-- Why a call of the store failed. -/
inductive StoreFault where
  /-- There is no formula under the key. -/
  | formulaNotFound
  /-- A formula that was just saved did not come back. -/
  | nothingReturned
  /-- The store refused the call, in its own words. -/
  | refused (message : String)
  /-- The store's answer holds a field of the wrong type. -/
  | unreadable
  deriving DecidableEq, Repr

/-- The words of a failure. -/
def StoreFault.message : StoreFault → String
  | .formulaNotFound => "no formula found with the given key"
  | .nothingReturned => "no documents in result"
  | .refused message => message
  | .unreadable => "error decoding the answer"

/-- A dialogue with the store. -/
abbrev Session : Type → Type := Dialogue StoreCall fun call => Except StoreFault call.Answer

namespace Store

/-- Asks for the stored formulas, or only the valid ones. -/
def formulas (instanceID : String) (onlyValid : Bool) :
    Session (Except StoreFault (List StoredFormula)) :=
  .question (StoreCall.formulas instanceID onlyValid)

/-- Asks for the formula under a key. -/
def formulaByKey (instanceID : String) (key : RawText) :
    Session (Except StoreFault StoredFormula) :=
  .question (StoreCall.formulaByKey instanceID key)

/-- Saves a formula and answers what was recorded. -/
def save (instanceID : String) (formula : StoredFormula) :
    Session (Except StoreFault StoredFormula) :=
  .question (StoreCall.save instanceID formula)

/-- Removes the formula under a key. -/
def delete (instanceID : String) (key : RawText) : Session (Except StoreFault Unit) :=
  .question (StoreCall.delete instanceID key)

/-- Records what a check found. -/
def mark (instanceID key : String) (check : CheckResult) : Session (Except StoreFault Unit) :=
  .question (StoreCall.mark instanceID key check)

/-- Picks the page of the posts that satisfy a filter. -/
def page (instanceID : String) (filter : Filter) (page limit : Int64) :
    Session (Except StoreFault PageWindow) :=
  .question (StoreCall.page instanceID filter page limit)

/-- Runs a ranking pipeline. -/
def ranked (instanceID : String) (pipeline : List Stage) :
    Session (Except StoreFault (Option (List Value))) :=
  .question (StoreCall.ranked instanceID pipeline)

end Store
end RankFormula
