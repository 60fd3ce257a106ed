import RankFormula.Proofs.Formula.Fields
import RankFormula.Proofs.Formula.Stages
import RankFormula.Proofs.Formula.Tree

/-!
# What a ranking pipeline computes

The pipeline of a formula is run block by block: the filter, the conversion of dates, the
score with the sort, and the page. Each block is shown to have exactly one result, the
optional ones whether or not they are there, and `Formula.pipeline_ranks` puts the blocks
together. The score is the value of the expression itself, so the theorem rests on the
agreement of trees and expressions and not on the form of the tree.
-/

namespace RankFormula

universe u

variable {V : Type u}

/-- A document in which the dates that a formula reads are numbers. -/
def StoreReading.converted (store : StoreReading V) (formula : Formula) (dateFields : List String)
    (record : Record V) : Record V := fun name =>
  if name ∈ formula.fields ∧ name ∈ dateFields then store.toLong (record name) else record name

/-- A converted document with the score that it has as converted. -/
def StoreReading.scored (store : StoreReading V) (formula : Formula) (options : PipelineOptions)
    (score : Record V → V) (record : Record V) : Record V :=
  let converted := store.converted formula options.dateFields record
  Function.update converted options.scoreName (score converted)

/-- Whether a document ranks before another one: by a greater score, or by a smaller
identifier if the scores are equal. -/
def Record.RanksBefore [LinearOrder V] (score : String) (a b : Record V) : Prop :=
  b score < a score ∨ a score = b score ∧ a "_id" < b "_id"

/-- The part of a ranking that is asked for. -/
def PipelineOptions.page {α : Type u} (options : PipelineOptions) (ranked : List α) : List α :=
  let rest := ranked.drop options.skip.toNat
  if 0 < options.limit then rest.take options.limit.toNat else rest

namespace StoreReading

variable {store : StoreReading V} {record : Record V}

/-- A conversion is no operation of the arithmetic. -/
theorem evaluate_conversion (operand : Value) :
    (Value.object [("$toLong", operand)]).evaluate store.arithmetic record = none := by
  have unknown : ∀ values, store.arithmetic.operation? "$toLong" values = none := by
    intro values
    unfold Arithmetic.operation?
    split <;> rfl
  cases operand with
  | list operands => simp [Value.evaluate, unknown]
  | _ =>
    change (Value.evaluate store.arithmetic record _ >>= fun a =>
      store.arithmetic.operation? "$toLong" [a]) = none
    simp [unknown]

/-- A tree that has a value is no conversion, so it is read as the tree it is. -/
theorem expression?_of_evaluate {tree : Value} {value : V}
    (evaluated : tree.evaluate store.arithmetic record = some value) :
    store.expression? record tree = some value := by
  unfold expression?
  split
  · rw [evaluate_conversion] at evaluated
    contradiction
  · exact evaluated

/-- The conversion of a field answers its converted value. -/
theorem expression?_conversion (field : String) :
    store.expression? record (.object [("$toLong", .string ("$" ++ field))]) =
      some (store.toLong (record field)) := by
  simp [expression?, Value.evaluate]

/-- The conversions of a formula turn a document into the converted one. -/
theorem addFields?_dateConversions (formula : Formula) (dateFields : List String) :
    store.addFields? (formula.dateConversions dateFields) record =
      some (store.converted formula dateFields record) := by
  let names := formula.fields.filter dateFields.contains
  have values : (formula.dateConversions dateFields).mapM
      (fun field => (store.expression? record field.2).map (field.1, ·)) =
        some (names.map fun name => (name, store.toLong (record name))) := by
    unfold Formula.dateConversions
    rw [List.mapM_map]
    apply mapM_eq_some_map
    intro name _
    rw [Function.comp_apply, expression?_conversion]
    rfl
  unfold addFields?
  rw [values]
  rw [Option.bind_eq_bind, Option.bind_some, Record.setFields_map]
  congr 1
  funext name
  simp [converted, names]

/-- Setting the score of a document. -/
theorem addFields?_score {tree : Value} {value : V} (score : String)
    (evaluated : tree.evaluate store.arithmetic record = some value) :
    store.addFields? [(score, tree)] record = some (Function.update record score value) := by
  simp [addFields?, expression?_of_evaluate evaluated, Record.setFields]

section Blocks

variable [LinearOrder V] {records results : List (Record V)}

/-- The filter keeps the documents it accepts, also where it is left out because it has no
conditions. -/
theorem runsAll_filter (conditions : Filter) :
    store.RunsAll (if conditions.isEmpty then [] else [.filter conditions]) records results ↔
      results = records.filter (store.accepts conditions) := by
  split
  · next empty =>
    have everything : records.filter (store.accepts conditions) = records := by
      rw [List.isEmpty_iff.mp empty]
      exact List.filter_eq_self.mpr fun record _ => store.accepts_nil record
    rw [everything]
    rfl
  · rw [runsAll_singleton]
    rfl

/-- A stage that sets fields of plain and different names has one result, if every document
has one. -/
theorem runs_addFields {fields : List (String × Value)} {change : Record V → Record V}
    (distinct : (fields.map Prod.fst).Nodup) (plain : ∀ field ∈ fields, PlainName field.1)
    (changes : ∀ record, store.addFields? fields record = some (change record)) :
    store.Runs (.addFields fields) records results ↔ results = records.map change := by
  have answers := mapM_eq_some_map fun record (_ : record ∈ records) => changes record
  rw [Runs, answers]
  simp only [distinct, true_and, Option.some.injEq]
  exact ⟨fun run => run.2.symm, fun same => ⟨plain, same.symm⟩⟩

/-- The conversions convert every document, also where they are left out because there are
none. -/
theorem runsAll_conversions (formula : Formula) (dateFields : List String)
    (plain : ∀ name ∈ formula.fields, PlainName name) :
    store.RunsAll (if (formula.dateConversions dateFields).isEmpty then []
        else [.addFields (formula.dateConversions dateFields)]) records results ↔
      results = records.map (store.converted formula dateFields) := by
  split
  · next empty =>
    have unchanged : store.converted formula dateFields = id := by
      funext record
      have answer : store.addFields? (formula.dateConversions dateFields) record =
          some (store.converted formula dateFields record) :=
        addFields?_dateConversions formula dateFields
      rw [List.isEmpty_iff.mp empty] at answer
      exact (Option.some.inj answer).symm
    rw [unchanged, List.map_id]
    rfl
  · rw [runsAll_singleton]
    apply runs_addFields
    · have names : (formula.dateConversions dateFields).map Prod.fst =
          formula.fields.filter dateFields.contains := by
        simp [Formula.dateConversions, Function.comp_def]
      rw [names]
      exact formula.fields_nodup.filter _
    · intro field member
      obtain ⟨name, kept, rfl⟩ := List.mem_map.mp member
      exact plain name (List.mem_of_mem_filter kept)
    · exact fun record => addFields?_dateConversions formula dateFields

/-- The page is cut out of the ranking, also where there is nothing to leave out in front or
no bound. -/
theorem runsAll_page (options : PipelineOptions) :
    store.RunsAll ((if 0 < options.skip then [.skip options.skip] else []) ++
        (if 0 < options.limit then [.limit options.limit] else [])) records results ↔
      results = options.page records := by
  have skipped : ∀ middle, store.RunsAll (if 0 < options.skip then [.skip options.skip] else [])
      records middle ↔ middle = records.drop options.skip.toNat := by
    intro middle
    split
    · next positive => simp [runsAll_singleton, Runs, positive.le]
    · next none =>
      rw [Int.toNat_of_nonpos (not_lt.mp none)]
      rfl
  simp only [runsAll_append, skipped, exists_eq_left, PipelineOptions.page]
  split
  · next positive => simp [runsAll_singleton, Runs, positive]
  · rfl

/-- The score is set and the documents are put in the order of the score. -/
theorem runsAll_score {tree : Value} {score : Record V → V} {keys : List (String × Int)}
    {name : String} (plainName : PlainName name) (plainKeys : ∀ key ∈ keys, PlainName key.1)
    (evaluated : ∀ record, tree.evaluate store.arithmetic record = some (score record)) :
    store.RunsAll [.addFields [(name, tree)], .sort keys] records results ↔
      results.Perm (records.map fun record => Function.update record name (score record)) ∧
        results.Pairwise (Record.InOrder keys) := by
  have scored : ∀ middle, store.Runs (.addFields [(name, tree)]) records middle ↔
      middle = records.map fun record => Function.update record name (score record) := by
    intro middle
    apply runs_addFields
    · simp
    · simpa using plainName
    · exact fun record => addFields?_score name (evaluated record)
  constructor
  · rintro ⟨middle, set, last, ⟨_, sorted⟩, rfl⟩
    rwa [(scored middle).mp set] at sorted
  · intro sorted
    exact ⟨_, (scored _).mpr rfl, results, ⟨plainKeys, sorted⟩, rfl⟩

end Blocks

end StoreReading

/-- What a pipeline sorts by. -/
def PipelineOptions.sortKeys (options : PipelineOptions) : List (String × Int) :=
  [(options.scoreName, -1), ("_id", 1)]

/-- A pipeline consists of four blocks. -/
theorem Formula.pipeline_eq_blocks (formula : Formula) (options : PipelineOptions) :
    formula.pipeline options =
      (if (formula.matchFilter options.filter).isEmpty then []
        else [Stage.filter (formula.matchFilter options.filter)]) ++
      ((if (formula.dateConversions options.dateFields).isEmpty then []
        else [Stage.addFields (formula.dateConversions options.dateFields)]) ++
      ([Stage.addFields [(options.scoreName, formula.tree)], Stage.sort options.sortKeys] ++
      ((if 0 < options.skip then [Stage.skip options.skip] else []) ++
        (if 0 < options.limit then [Stage.limit options.limit] else [])))) := by
  simp only [pipeline, List.append_assoc, PipelineOptions.sortKeys]

/-- A pipeline sorts the accepted documents, converted and scored, and cuts out a page. -/
theorem StoreReading.runsAll_pipeline [LinearOrder V] {store : StoreReading V} {formula : Formula}
    {options : PipelineOptions} {score : Record V → V} {records results : List (Record V)}
    (plainFields : ∀ name ∈ formula.fields, PlainName name)
    (plainScore : PlainName options.scoreName)
    (evaluated : ∀ record, formula.tree.evaluate store.arithmetic record = some (score record)) :
    store.RunsAll (formula.pipeline options) records results ↔
      ∃ sorted : List (Record V),
        (sorted.Perm ((records.filter (store.accepts (formula.matchFilter options.filter))).map
            (store.scored formula options score)) ∧
          sorted.Pairwise (Record.InOrder options.sortKeys)) ∧
        results = options.page sorted := by
  have plainKeys : ∀ key ∈ options.sortKeys, PlainName key.1 := by
    simp only [PipelineOptions.sortKeys, List.forall_mem_cons]
    exact ⟨plainScore, by decide, by simp⟩
  rw [Formula.pipeline_eq_blocks, runsAll_append]
  simp only [runsAll_filter, exists_eq_left]
  rw [runsAll_append]
  simp only [runsAll_conversions formula options.dateFields plainFields, exists_eq_left]
  rw [runsAll_append]
  simp only [runsAll_score plainScore plainKeys evaluated, runsAll_page, List.map_map]
  rfl

/-- Documents in order of the score, then of the identifier, rank strictly if their
identifiers differ. -/
theorem Record.ranksBefore_of_inOrder [LinearOrder V] {name : String} {ranked : List (Record V)}
    (distinct : (ranked.map fun record => record "_id").Nodup)
    (ordered : ranked.Pairwise (InOrder [(name, -1), ("_id", 1)])) :
    ranked.Pairwise (RanksBefore name) := by
  have differ : ranked.Pairwise fun a b => a "_id" ≠ b "_id" := List.pairwise_map.mp distinct
  apply (ordered.and differ).imp
  rintro a b ⟨order, apart⟩
  rcases order with greater | ⟨equal, smaller | ⟨same, _⟩⟩
  · exact .inl greater
  · exact .inr ⟨equal, smaller⟩
  · exact absurd same apart

/-- Neither conversions nor the score change the identifier of a document. -/
theorem StoreReading.scored_id (store : StoreReading V) (formula : Formula)
    {options : PipelineOptions} (score : Record V → V) (record : Record V)
    (scoreApart : options.scoreName ≠ "_id") (idKept : "_id" ∉ options.dateFields) :
    store.scored formula options score record "_id" = record "_id" := by
  unfold scored
  rw [Function.update_of_ne scoreApart.symm]
  simp [converted, idKept]

/-- A ranking pipeline has exactly one result: of the documents that the filter accepts, each
with the dates that the formula reads converted once and with the value of the expression over
the converted document as its score, the page that is asked for, best first. -/
theorem Formula.pipeline_ranks [LinearOrder V] (store : StoreReading V) {whitelist : Whitelist}
    {source : RawText} {node : Node} {formula : Formula}
    (made : ofNode whitelist source node = .ok formula) (options : PipelineOptions)
    (plainFields : ∀ name ∈ formula.fields, PlainName name)
    (plainScore : PlainName options.scoreName) (scoreApart : options.scoreName ≠ "_id")
    (idKept : "_id" ∉ options.dateFields) (records : List (Record V))
    (distinct : (records.map fun record => record "_id").Nodup) :
    ∃ (score : Record V → V) (ranked : List (Record V)),
      (∀ record, node.evaluate store.arithmetic record = some (score record)) ∧
      ranked.Perm ((records.filter (store.accepts (formula.matchFilter options.filter))).map
        (store.scored formula options score)) ∧
      ranked.Pairwise (Record.RanksBefore options.scoreName) ∧
      ∀ results, store.RunsAll (formula.pipeline options) records results ↔
        results = options.page ranked := by
  have derived := (ofNode_eq_ok.mp made).2.1
  choose score nodeValue treeValue using derived.evaluate store.arithmetic
  let matching := records.filter (store.accepts (formula.matchFilter options.filter))
  let prepared := matching.map (store.scored formula options score)
  -- Identifiers stay distinct through all stages, and so the sort has no ties to leave open.
  have preparedDistinct : (prepared.map fun record => record "_id").Nodup := by
    have ids : prepared.map (fun record => record "_id") =
        matching.map fun record => record "_id" := by
      simp [prepared, Function.comp_def, store.scored_id formula score _ scoreApart idKept]
    rw [ids]
    exact distinct.sublist (List.filter_sublist.map _)
  obtain ⟨ranked, permuted, ordered⟩ := Record.exists_sorted options.sortKeys prepared
  have rankedDistinct : (ranked.map fun record => record "_id").Nodup :=
    (permuted.map _).nodup_iff.mpr preparedDistinct
  refine ⟨score, ranked, nodeValue, permuted,
    Record.ranksBefore_of_inOrder rankedDistinct ordered, fun results => ?_⟩
  rw [StoreReading.runsAll_pipeline plainFields plainScore treeValue]
  constructor
  · rintro ⟨sorted, ⟨sortedPermuted, sortedOrdered⟩, rfl⟩
    have isKey : ("_id", 1) ∈ options.sortKeys := by simp [PipelineOptions.sortKeys]
    rw [Record.sorted_unique isKey preparedDistinct sortedPermuted sortedOrdered permuted ordered]
  · rintro rfl
    exact ⟨ranked, ⟨permuted, ordered⟩, rfl⟩

/-- Three documents with likes and an age that is a date, two of them with equal scores, ranked
by likes minus twice the age; the page starts after the first one. -/
theorem Formula.pipeline_ranks_likes_age :
    let store : StoreReading Int :=
      ⟨⟨fun _ => 0, (· + ·), (· - ·), (· * ·), (· / ·), id⟩, (· + 100), fun _ _ => true, by simp⟩
    let age : Node := .identifier "age"
    let node : Node := .binary "-" (.binary "-" (.identifier "likes") age) age
    let tree : Value := .object [("$subtract", .list [
      .object [("$subtract", .list [.string "$likes", .string "$age"])], .string "$age"])]
    let formula : Formula := ⟨"", tree, ["likes", "age", "age"]⟩
    let options : PipelineOptions := ⟨"", [], ["age", "age", "seen"], 1, 2⟩
    let record : Int → Int → Int → Record Int := fun id likes age name =>
      if name = "_id" then id else if name = "likes" then likes else if name = "age" then age else 0
    let records := [record 1 4 2, record 2 9 1, record 3 2 1]
    ofNode ⟨["age", "likes"]⟩ "" node = .ok formula ∧
      ∃ (score : Record Int → Int) (ranked : List (Record Int)),
        (∀ record, node.evaluate store.arithmetic record = some (score record)) ∧
        ranked.Perm ((records.filter (store.accepts (formula.matchFilter options.filter))).map
          (store.scored formula options score)) ∧
        ranked.Pairwise (Record.RanksBefore "score") ∧
        ∀ results, store.RunsAll (formula.pipeline options) records results ↔
          results = options.page ranked := by
  intro store age node tree formula options record records
  have made : ofNode ⟨["age", "likes"]⟩ "" node = .ok formula := by rfl
  exact ⟨made, pipeline_ranks store made options (by decide) (by decide) (by decide) (by decide)
    records (by decide)⟩

end RankFormula
