import Mathlib.Data.List.Sort
import Mathlib.Logic.Function.Basic
import RankFormula.Formula.Pipeline
import RankFormula.Proofs.Expression.Meaning

/-!
# What the stages of a pipeline do

A `StoreReading` is what a document store leaves open: its arithmetic, the conversion of
dates to numbers, and which documents a filter accepts. Over it, `StoreReading.Runs` says
which lists of documents a stage may make of another one. Sorting may answer any list in
the order of its keys, because the store does not promise to keep the order of documents
that its keys cannot tell apart. Names with a dot or a leading `$` reach inside fields or
are refused, so a stage that sets or sorts by such a name has no run here.
-/

namespace RankFormula

universe u v

/-- A document of the store: the value of each field. A field that is not there has a
value of its own. -/
abbrev Record (V : Type u) : Type u := String → V

/-- What a document store leaves open. -/
structure StoreReading (V : Type u) where
  /-- The numbers. -/
  arithmetic : Arithmetic V
  /-- The conversion of a date to a number. -/
  toLong : V → V
  /-- Whether a document satisfies a filter. -/
  accepts : Filter → Record V → Bool
  /-- A filter without conditions accepts every document. -/
  accepts_nil : ∀ record, accepts [] record = true

/-- A name that stands for a field itself: without a dot and without a leading `$`. -/
def PlainName (name : String) : Prop :=
  '.' ∉ name.toList ∧ name.toList.head? ≠ some '$'

instance (name : String) : Decidable (PlainName name) :=
  inferInstanceAs (Decidable (_ ∧ _))

namespace Record

variable {V : Type u}

/-- Sets fields one after another. -/
def setFields (record : Record V) (values : List (String × V)) : Record V :=
  values.foldl (fun changed field => Function.update changed field.1 field.2) record

/-- Whether a value goes before another one in a direction; a negative one is downward. -/
def Before [LinearOrder V] (direction : Int) (a b : V) : Prop :=
  if direction < 0 then b < a else a < b

/-- Whether two documents may follow each other: the first key in which they differ
decides. -/
def InOrder [LinearOrder V] : List (String × Int) → Record V → Record V → Prop
  | [], _, _ => True
  | (name, direction) :: keys, a, b =>
    Before direction (a name) (b name) ∨ a name = b name ∧ InOrder keys a b

end Record

namespace StoreReading

variable {V : Type u}

/-- The value of an expression of a stage over a document: a conversion of an operator tree,
or an operator tree. -/
def expression? (store : StoreReading V) (record : Record V) : Value → Option V
  | .object [("$toLong", operand)] =>
    (operand.evaluate store.arithmetic record).map store.toLong
  | tree => tree.evaluate store.arithmetic record

/-- Evaluates all expressions over the incoming document, then sets the fields. -/
def addFields? (store : StoreReading V) (fields : List (String × Value)) (record : Record V) :
    Option (Record V) := do
  let values ← fields.mapM fun field => (store.expression? record field.2).map (field.1, ·)
  some (record.setFields values)

/-- A stage may make one list of documents of another one. -/
def Runs [LinearOrder V] (store : StoreReading V) :
    Stage → List (Record V) → List (Record V) → Prop
  | .filter conditions, records, results => results = records.filter (store.accepts conditions)
  | .addFields fields, records, results =>
    (fields.map Prod.fst).Nodup ∧ (∀ field ∈ fields, PlainName field.1) ∧
      records.mapM (store.addFields? fields) = some results
  | .sort keys, records, results =>
    (∀ key ∈ keys, PlainName key.1) ∧ results.Perm records ∧
      results.Pairwise (Record.InOrder keys)
  | .skip count, records, results => 0 ≤ count ∧ results = records.drop count.toNat
  | .limit count, records, results => 0 < count ∧ results = records.take count.toNat

/-- Stages in turn may make one list of documents of another one. -/
def RunsAll [LinearOrder V] (store : StoreReading V) :
    List Stage → List (Record V) → List (Record V) → Prop
  | [], records, results => results = records
  | stage :: stages, records, results =>
    ∃ middle, store.Runs stage records middle ∧ store.RunsAll stages middle results

end StoreReading

/-- Where every member has an answer, so has the list. -/
theorem mapM_eq_some_map {α : Type u} {β : Type v} {f : α → Option β} {g : α → β} {members : List α}
    (answers : ∀ member ∈ members, f member = some (g member)) :
    members.mapM f = some (members.map g) := by
  induction members with
  | nil => rfl
  | cons member members ih =>
    rw [List.forall_mem_cons] at answers
    rw [List.mapM_cons, answers.1, ih answers.2]
    rfl

namespace Record

variable {V : Type u}

/-- Fields that are set to values of their own names hold these, and no other field changes. -/
theorem setFields_map (value : String → V) (names : List String) (record : Record V) :
    record.setFields (names.map fun name => (name, value name)) =
      fun name => if name ∈ names then value name else record name := by
  induction names generalizing record with
  | nil => simp [setFields]
  | cons first names ih =>
    have step : record.setFields ((first :: names).map fun name => (name, value name)) =
        setFields (Function.update record first (value first))
          (names.map fun name => (name, value name)) := rfl
    rw [step, ih]
    funext name
    by_cases later : name ∈ names
    · simp [later]
    · by_cases same : name = first
      · simp [same]
      · simp [later, same]

section Order

variable [LinearOrder V]

/-- Different values go before each other in one way or the other. -/
theorem before_or_eq_or_before (direction : Int) (a b : V) :
    Before direction a b ∨ a = b ∨ Before direction b a := by
  unfold Before
  split
  · rcases lt_trichotomy a b with less | equal | greater
    · exact .inr (.inr less)
    · exact .inr (.inl equal)
    · exact .inl greater
  · exact lt_trichotomy a b

/-- Going before is transitive. -/
theorem Before.trans {direction : Int} {a b c : V} (first : Before direction a b)
    (second : Before direction b c) : Before direction a c := by
  unfold Before at *
  split at first
  · next down =>
    rw [if_pos down] at second ⊢
    exact second.trans first
  · next up =>
    rw [if_neg up] at second ⊢
    exact first.trans second

/-- No value goes before itself. -/
theorem before_irrefl (direction : Int) (a : V) : ¬Before direction a a := by
  unfold Before
  split <;> exact lt_irrefl a

/-- Of two documents one may always come first. -/
theorem inOrder_total (keys : List (String × Int)) (a b : Record V) :
    InOrder keys a b ∨ InOrder keys b a := by
  induction keys with
  | nil => exact .inl trivial
  | cons key keys ih =>
    obtain ⟨name, direction⟩ := key
    rcases before_or_eq_or_before direction (a name) (b name) with before | equal | after
    · exact .inl (.inl before)
    · exact ih.imp (fun order => .inr ⟨equal, order⟩) (fun order => .inr ⟨equal.symm, order⟩)
    · exact .inr (.inl after)

/-- The order by keys is transitive. -/
theorem InOrder.trans {keys : List (String × Int)} {a b c : Record V} (first : InOrder keys a b)
    (second : InOrder keys b c) : InOrder keys a c := by
  induction keys with
  | nil => trivial
  | cons key keys ih =>
    obtain ⟨name, direction⟩ := key
    rcases first with before | ⟨equal, first⟩
    · rcases second with next | ⟨equal, _⟩
      · exact .inl (before.trans next)
      · exact .inl (equal ▸ before)
    · rcases second with next | ⟨same, second⟩
      · exact .inl (by rwa [equal])
      · exact .inr ⟨equal.trans same, ih first second⟩

/-- Documents that may follow each other both ways agree in every key. -/
theorem InOrder.antisymm {keys : List (String × Int)} {a b : Record V}
    (forth : InOrder keys a b) (back : InOrder keys b a) : ∀ key ∈ keys, a key.1 = b key.1 := by
  induction keys with
  | nil => simp
  | cons key keys ih =>
    obtain ⟨name, direction⟩ := key
    rcases forth with before | ⟨equal, forth⟩
    · exfalso
      rcases back with after | ⟨equal, _⟩
      · exact before_irrefl direction _ (before.trans after)
      · exact before_irrefl direction _ (equal ▸ before)
    · rcases back with after | ⟨_, back⟩
      · exact absurd (equal ▸ after) (before_irrefl direction _)
      · rw [List.forall_mem_cons]
        exact ⟨equal, ih forth back⟩

/-- Every list of documents can be put in the order of keys. -/
theorem exists_sorted (keys : List (String × Int)) (records : List (Record V)) :
    ∃ sorted : List (Record V), sorted.Perm records ∧ sorted.Pairwise (InOrder keys) := by
  classical
  let precedes : Record V → Record V → Bool := fun a b => decide (InOrder keys a b)
  have sorted : (records.mergeSort precedes).Pairwise fun a b => precedes a b = true := by
    apply List.pairwise_mergeSort
    · intro a b c first second
      simp only [precedes, decide_eq_true_eq] at first second ⊢
      exact first.trans second
    · intro a b
      simpa [precedes] using inOrder_total keys a b
  exact ⟨records.mergeSort precedes, List.mergeSort_perm records precedes,
    sorted.imp of_decide_eq_true⟩

/-- Documents that a key tells apart have one order only. -/
theorem sorted_unique {keys : List (String × Int)} {records first second : List (Record V)}
    {name : String} {direction : Int} (isKey : (name, direction) ∈ keys)
    (distinct : (records.map fun record => record name).Nodup)
    (firstPerm : first.Perm records) (firstOrder : first.Pairwise (InOrder keys))
    (secondPerm : second.Perm records) (secondOrder : second.Pairwise (InOrder keys)) :
    first = second := by
  apply List.Perm.eq_of_pairwise _ firstOrder secondOrder (firstPerm.trans secondPerm.symm)
  intro a b aMember bMember forth back
  have same : a name = b name := forth.antisymm back _ isKey
  exact List.inj_on_of_nodup_map distinct (firstPerm.mem_iff.mp aMember)
    (secondPerm.mem_iff.mp bMember) same

end Order
end Record

namespace StoreReading

variable {V : Type u} [LinearOrder V] {store : StoreReading V} {records results : List (Record V)}

/-- Stages in two parts go through what the first part makes. -/
theorem runsAll_append {first second : List Stage} :
    store.RunsAll (first ++ second) records results ↔
      ∃ middle, store.RunsAll first records middle ∧ store.RunsAll second middle results := by
  induction first generalizing records with
  | nil => simp [RunsAll]
  | cons stage stages ih =>
    simp only [List.cons_append, RunsAll, ih]
    constructor
    · rintro ⟨begun, run, middle, rest, last⟩
      exact ⟨middle, ⟨begun, run, rest⟩, last⟩
    · rintro ⟨middle, ⟨begun, run, rest⟩, last⟩
      exact ⟨begun, run, middle, rest, last⟩

/-- A stage alone. -/
theorem runsAll_singleton {stage : Stage} :
    store.RunsAll [stage] records results ↔ store.Runs stage records results := by
  simp [RunsAll]

end StoreReading
end RankFormula
