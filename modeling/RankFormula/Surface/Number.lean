import RankFormula.Numeral.Reading
import RankFormula.Surface.Fault
import RankFormula.Surface.Term

/-!
# Numbers of the expression language

The value of a number token. Separators are dropped; a mark in front chooses the
base, a point or an exponent makes the number a floating one, and everything else
is a decimal integer of 64 bits.
-/

namespace RankFormula
namespace Surface

/-- The form in which a number is written. -/
def numberForm (cs : List Char) : NumberForm :=
  match cs.map Char.toLower with
  | '0' :: 'x' :: _ => .hex
  | lower =>
    if lower.contains '.' || lower.contains 'e' then .float
    else
      match lower with
      | '0' :: 'b' :: _ => .binary
      | '0' :: 'o' :: _ => .octal
      | _ => .integer

/-- The value of a number of some form. -/
def readNumberAs (form : NumberForm) (cs : List Char) : Except IntegerFault Term :=
  match form with
  | .hex => (readMagnitude 16 (cs.drop 2) >>= signedInRange false).map .integer
  | .binary => (readMagnitude 2 (cs.drop 2) >>= signedInRange false).map .integer
  | .octal => (readMagnitude 8 (cs.drop 2) >>= signedInRange false).map .integer
  | .integer => (readInteger 10 cs).map .integer
  | .float =>
    match readFloatText? cs with
    | none => .error .malformed
    | some d =>
      let x := d.toFloating .double
      if x.isFinite then .ok (.float x) else .error .outOfRange

/-- The term of a number token. -/
def readNumberToken (text : String) : Except Fault Term :=
  let cs := text.toList.filter (· != '_')
  let form := numberForm cs
  match readNumberAs form cs with
  | .ok term => .ok term
  | .error cause => .error (.invalidNumber form (String.ofList cs) cause)

end Surface
end RankFormula
