import RankFormula.Api.Expressions
import RankFormula.Formula.Stored

/-!
# Endpoints for stored formulas

Listing, reading, saving and deleting the formulas of an instance. A formula is
saved only after its expression compiled under the whitelist, and in the name of
the user whose token was validated.
-/

namespace RankFormula

/-- The parameter that names a formula. -/
def keyParameter : String := "key"

/-- What a request to save a formula carries. -/
structure SaveRequest where
  /-- The key. -/
  key : String
  /-- The text of the expression. -/
  expression : String
  /-- Free text. -/
  description : String

/-- The request in a payload. -/
def SaveRequest.read? (body : String) : Option SaveRequest := do
  let members ← payloadMembers? body
  let key ← Json.textField? "key" members
  let expression ← Json.textField? "expression" members
  let description ← Json.textField? "description" members
  some ⟨key, expression, description⟩

/-- The formula to save: valid, with the variables of its expression, by a user. -/
def SaveRequest.toStored (request : SaveRequest) (formula : Formula) (user : String) :
    StoredFormula :=
  { StoredFormula.blank with
    key := request.key
    expression := request.expression
    description := request.description
    variableNames := some formula.variableNames
    valid := true
    createdBy := user }

namespace Api

/-- Lists the formulas of an instance. -/
def listFormulas (instanceID : String) (onlyValid : Bool) : Session Response := do
  match ← Store.formulas instanceID onlyValid with
  | .ok formulas =>
    pure (.json 200 (.object [("formulas", .array (formulas.map StoredFormula.toJson))]))
  | .error _ => pure (.failure 500 "failed to get formulas")

/-- Reads a formula. -/
def readFormula (instanceID : String) (key : RawText) : Session Response := do
  match ← Store.formulaByKey instanceID key with
  | .ok formula => pure (.json 200 formula.toJson)
  | .error .formulaNotFound => pure (.failure 404 StoreFault.formulaNotFound.message)
  | .error _ => pure (.failure 500 "failed to get formula")

/-- Saves the formula of a payload in the name of a user. -/
def saveFormula (api : Api) (claims : Claims) (instanceID body : String) : Session Response :=
  match SaveRequest.read? body with
  | none => pure payloadUnreadable
  | some request =>
    if !isKey request.key then pure (.failure 400 "invalid formula key")
    else
      match Formula.ofText api.whitelist request.expression with
      | .error error => pure error.report.refuse
      | .ok formula => do
        match ← Store.save instanceID (request.toStored formula claims.subject) with
        | .ok saved => pure (.json 200 saved.toJson)
        | .error _ => pure (.failure 500 "failed to save formula")

/-- Deletes a formula. -/
def deleteFormula (instanceID : String) (key : RawText) : Session Response := do
  match ← Store.delete instanceID key with
  | .ok _ => pure (.json 200 (.object [("message", .string "formula deleted")]))
  | .error .formulaNotFound => pure (.failure 404 StoreFault.formulaNotFound.message)
  | .error _ => pure (.failure 500 "failed to delete formula")

end Api
end RankFormula
