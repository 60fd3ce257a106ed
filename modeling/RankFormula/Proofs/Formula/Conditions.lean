import Mathlib.Tactic.Tauto
import RankFormula.Formula.Pipeline
import RankFormula.Proofs.Formula.Fields

/-!
# The documents that a formula scores

`requireFields` adds to a filter the conditions that fields are there, except for fields that the
filter speaks about itself. `mem_requireFields` lists the conditions of the outcome. A
`ConditionReading` then leaves open what conditions mean, apart from the one that a field is there
or not, and `Formula.satisfies_matchFilter_iff` says which documents are scored under every such
reading: a field that the filter speaks about is there only as far as the filter sees to it.
-/

namespace RankFormula

universe u

/-- A field has a value exactly if it is among the names. -/
theorem isSome_getField? {α : Type} {name : String} {fields : List (String × α)} :
    (getField? name fields).isSome = true ↔ name ∈ fields.map Prod.fst := by
  simp [getField?]

section Requirements

variable {filter : Filter} {fields : List String}

/-- The conditions of an extended filter are its own, and for each field that it does not speak
about the one that the field is there. -/
theorem mem_requireFields {name : String} {condition : Value} :
    (name, condition) ∈ requireFields filter fields ↔
      (name, condition) ∈ filter ∨
        name ∈ fields ∧ name ∉ filter.map Prod.fst ∧ condition = existsCondition := by
  unfold requireFields
  induction fields generalizing filter with
  | nil => simp
  | cons field fields ih =>
    rw [List.foldl_cons, ih]
    by_cases mentioned : field ∈ filter.map Prod.fst
    · rw [if_pos (isSome_getField?.mpr mentioned), List.mem_cons]
      -- A condition of its own would be one on a field that the filter speaks about.
      have other : name ∉ filter.map Prod.fst → name ≠ field := by
        rintro unmentioned rfl
        exact unmentioned mentioned
      tauto
    · rw [if_neg (mt isSome_getField?.mp mentioned)]
      simp only [List.mem_append, List.map_append, List.map_cons, List.map_nil, List.mem_cons,
        List.not_mem_nil, or_false, Prod.mk.injEq]
      by_cases same : name = field
      · subst same
        tauto
      · tauto

/-- An extended filter speaks about what it spoke about before and about the given fields. -/
theorem mem_keys_requireFields {name : String} :
    name ∈ (requireFields filter fields).map Prod.fst ↔
      name ∈ filter.map Prod.fst ∨ name ∈ fields := by
  constructor
  · intro member
    obtain ⟨⟨key, condition⟩, listed, rfl⟩ := List.mem_map.mp member
    rcases mem_requireFields.mp listed with own | ⟨required, -⟩
    · exact .inl (List.mem_map_of_mem own)
    · exact .inr required
  · intro spoken
    by_cases mentioned : name ∈ filter.map Prod.fst
    · obtain ⟨⟨key, condition⟩, own, rfl⟩ := List.mem_map.mp mentioned
      exact List.mem_map_of_mem (mem_requireFields.mpr (.inl own))
    · have required := spoken.resolve_left mentioned
      exact List.mem_map_of_mem (mem_requireFields.mpr (.inr ⟨required, mentioned, rfl⟩))

end Requirements

/-- What the conditions of filters mean over documents of some kind. Only the condition that a
field is there, or is not, has a fixed meaning. -/
structure ConditionReading (D : Type u) where
  /-- Whether a document has a field. -/
  has : D → String → Bool
  /-- A document meets a named condition. -/
  Meets : D → String × Value → Prop
  /-- A field is there exactly as its condition says. -/
  meets_exists : ∀ document field there,
    Meets document (field, .object [("$exists", .bool there)]) ↔ has document field = there

namespace ConditionReading

variable {D : Type u} (reading : ConditionReading D)

/-- A document satisfies a filter if it meets all conditions. -/
def Satisfies (document : D) (filter : Filter) : Prop :=
  ∀ condition ∈ filter, reading.Meets document condition

/-- An extended filter asks for the given fields that the filter does not speak about. -/
theorem satisfies_requireFields {document : D} {filter : Filter} {fields : List String} :
    reading.Satisfies document (requireFields filter fields) ↔
      reading.Satisfies document filter ∧
        ∀ field ∈ fields, field ∉ filter.map Prod.fst → reading.has document field = true := by
  constructor
  · intro satisfied
    refine ⟨fun condition own => ?_, fun field required unmentioned => ?_⟩
    · exact satisfied condition (mem_requireFields.mpr (.inl own))
    · have added : (field, existsCondition) ∈ requireFields filter fields :=
        mem_requireFields.mpr (.inr ⟨required, unmentioned, rfl⟩)
      exact (reading.meets_exists document field true).mp (satisfied _ added)
  · rintro ⟨satisfied, present⟩ ⟨name, condition⟩ listed
    rcases mem_requireFields.mp listed with own | ⟨required, unmentioned, rfl⟩
    · exact satisfied _ own
    · exact (reading.meets_exists document name true).mpr (present name required unmentioned)

end ConditionReading

namespace Formula

variable {D : Type u}

/-- The documents that a formula scores are those that satisfy the filter and have every field of
the formula that the filter does not speak about. So a document without one of the fields is scored
exactly if it lacks only fields that the filter speaks about and satisfies the filter without them;
and where the filter asks for a field not to be there, no document with that field is scored. -/
theorem satisfies_matchFilter_iff (reading : ConditionReading D) (formula : Formula)
    (filter : Filter) (document : D) :
    (reading.Satisfies document (formula.matchFilter filter) ↔
      reading.Satisfies document filter ∧
        ∀ field ∈ formula.fields, field ∉ filter.map Prod.fst →
          reading.has document field = true) ∧
    ((reading.Satisfies document (formula.matchFilter filter) ∧
        ∃ field ∈ formula.fields, reading.has document field = false) ↔
      reading.Satisfies document filter ∧
        (∀ field ∈ formula.fields, field ∉ filter.map Prod.fst →
          reading.has document field = true) ∧
        ∃ field ∈ formula.fields, field ∈ filter.map Prod.fst ∧
          reading.has document field = false) ∧
    ∀ field, (field, .object [("$exists", .bool false)]) ∈ filter →
      reading.Satisfies document (formula.matchFilter filter) →
        reading.has document field = false := by
  have scored : reading.Satisfies document (formula.matchFilter filter) ↔ _ :=
    reading.satisfies_requireFields
  refine ⟨scored, ⟨?_, ?_⟩, fun field excluded satisfied => ?_⟩
  · rintro ⟨satisfied, field, read, lacking⟩
    obtain ⟨own, present⟩ := scored.mp satisfied
    refine ⟨own, present, field, read, ?_, lacking⟩
    by_cases mentioned : field ∈ filter.map Prod.fst
    · exact mentioned
    · rw [present field read mentioned] at lacking
      contradiction
  · rintro ⟨own, present, field, read, -, lacking⟩
    exact ⟨scored.mpr ⟨own, present⟩, field, read, lacking⟩
  · have own := (scored.mp satisfied).1
    exact (reading.meets_exists document field false).mp (own _ excluded)

end Formula

/-- Conditions on documents with named values: that a field is there or not, or that it has a
value. -/
def ConditionReading.plain : ConditionReading (List (String × Value)) where
  has document field := (getField? field document).isSome
  Meets document condition :=
    match condition.2 with
    | .object [("$exists", .bool there)] => (getField? condition.1 document).isSome = there
    | value => getField? condition.1 document = some value
  meets_exists _ _ _ := Iff.rfl

/-- Under the filter that asks for documents without likes, a document without likes is scored by
the formula `likes`. -/
theorem Formula.satisfies_matchFilter_iff_likes :
    let formula : Formula := ⟨"likes", .string "$likes", ["likes"]⟩
    let filter : Filter := [("likes", .object [("$exists", .bool false)])]
    let document : List (String × Value) := [("_id", .int 1)]
    ofNode ⟨["likes"]⟩ "likes" (.identifier "likes") = .ok formula ∧
      ConditionReading.plain.Satisfies document (formula.matchFilter filter) ∧
      ∃ field ∈ formula.fields, ConditionReading.plain.has document field = false := by
  intro formula filter document
  have made : ofNode ⟨["likes"]⟩ "likes" (.identifier "likes") = .ok formula := by rfl
  have own : ConditionReading.plain.Satisfies document filter := by
    intro condition member
    rw [List.mem_singleton.mp member]
    exact (ConditionReading.plain.meets_exists document "likes" false).mpr rfl
  have read : "likes" ∈ formula.fields := by decide
  have mentioned : "likes" ∈ filter.map Prod.fst := List.mem_singleton.mpr rfl
  have present : ∀ field ∈ formula.fields, field ∉ filter.map Prod.fst →
      ConditionReading.plain.has document field = true := by
    intro field member unmentioned
    have same : field = "likes" := by simpa [formula, fields, addRead] using member
    exact absurd (same ▸ mentioned) unmentioned
  obtain ⟨-, unheld, -⟩ := satisfies_matchFilter_iff ConditionReading.plain formula filter document
  exact ⟨made, unheld.mpr ⟨own, present, "likes", read, mentioned, rfl⟩⟩

end RankFormula
