import RankFormula.Text.Percent
import RankFormula.Text.RawText

/-!
# Query strings

A query is a list of pieces between ampersands, each a name and a value divided by
the first equals sign, in form encoding. A piece with a semicolon or with a bad
escape does not count. Of several values of a name the first one counts.
-/

namespace RankFormula

/-- The names and values of a query, as bytes. -/
abbrev Query := List (List UInt8 × List UInt8)

/-- The name and value of a piece. -/
def queryPiece? (piece : List Char) : Option (List UInt8 × List UInt8) :=
  if piece.isEmpty || piece.contains ';' then none
  else do
    let name ← formDecode? (piece.takeWhile (· != '='))
    let value ← formDecode? ((piece.dropWhile (· != '=')).drop 1)
    some (name, value)

namespace Query

/-- The query of a text. -/
def read (cs : List Char) : Query := (cs.splitOn '&').filterMap queryPiece?

/-- The first value of a name, as bytes. -/
def bytes? (query : Query) (name : String) : Option (List UInt8) :=
  (query.find? fun piece => piece.1 == utf8Bytes name.toList).map Prod.snd

/-- The first value of a name, as a text; empty if there is none. -/
def text (query : Query) (name : String) : RawText := .ofBytes ((query.bytes? name).getD [])

end Query
end RankFormula
