import RankFormula.Formula.Basic

/-!
# Ranking pipelines

The stages by which the document store ranks documents with a formula: keep those
that hold every field the formula reads, turn dates into numbers, compute the
score, sort by it, and cut out a page.
-/

namespace RankFormula

/-- Conditions on the fields of a document; all of them must hold. -/
abbrev Filter := List (String × Value)

/-- A stage of a pipeline. -/
inductive Stage where
  /-- Keep the documents that satisfy a filter. -/
  | filter (conditions : Filter)
  /-- Set fields to the values of operator trees over the incoming document. -/
  | addFields (fields : List (String × Value))
  /-- Sort by fields in turn, upward or downward. -/
  | sort (keys : List (String × Int))
  /-- Drop documents in front. -/
  | skip (count : Int)
  /-- Keep documents in front only. -/
  | limit (count : Int)

/-- The document form of a stage. -/
def Stage.toValue : Stage → Value
  | .filter conditions => .document [("$match", .object conditions)]
  | .addFields fields => .document [("$addFields", .document fields)]
  | .sort keys => .document [("$sort", .document (keys.map fun k => (k.1, .int k.2)))]
  | .skip count => .document [("$skip", .int count)]
  | .limit count => .document [("$limit", .int count)]

/-- What a ranking is to look like. -/
structure PipelineOptions where
  /-- The field that receives the score; empty for the usual one. -/
  scoreField : String
  /-- Conditions on the documents to rank. -/
  filter : Filter
  /-- The fields stored as dates. -/
  dateFields : List String
  /-- Documents to leave out in front, if positive. -/
  skip : Int
  /-- The largest number of documents, if positive. -/
  limit : Int

/-- The field that receives the score unless another one is named. -/
def defaultScoreField : String := "score"

/-- The field that receives the score. -/
def PipelineOptions.scoreName (options : PipelineOptions) : String :=
  if options.scoreField.isEmpty then defaultScoreField else options.scoreField

/-- The condition that a field is there. -/
def existsCondition : Value := .object [("$exists", .bool true)]

/-- A filter extended by the conditions that the given fields are there; a field
that the filter speaks about already is left alone. -/
def requireFields (filter : Filter) (fields : List String) : Filter :=
  fields.foldl
    (fun conditions field =>
      if (getField? field conditions).isSome then conditions
      else conditions ++ [(field, existsCondition)])
    filter

namespace Formula

/-- The filter of the documents that are scored. -/
def matchFilter (formula : Formula) (filter : Filter) : Filter :=
  requireFields filter formula.fields

/-- The conversions of the dates a formula reads to milliseconds. -/
def dateConversions (formula : Formula) (dateFields : List String) : List (String × Value) :=
  (formula.fields.filter dateFields.contains).map fun field =>
    (field, .object [("$toLong", .string ("$" ++ field))])

/-- The pipeline that ranks documents, best first; the identifier decides ties. -/
def pipeline (formula : Formula) (options : PipelineOptions) : List Stage :=
  let conditions := formula.matchFilter options.filter
  let conversions := formula.dateConversions options.dateFields
  let score := options.scoreName
  (if conditions.isEmpty then [] else [.filter conditions]) ++
    (if conversions.isEmpty then [] else [.addFields conversions]) ++
    [.addFields [(score, formula.tree)], .sort [(score, -1), ("_id", 1)]] ++
    (if 0 < options.skip then [.skip options.skip] else []) ++
    (if 0 < options.limit then [.limit options.limit] else [])

end Formula
end RankFormula
