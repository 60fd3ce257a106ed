import RankFormula.Proofs.Service.Server
import RankFormula.Proofs.Text.Utf8

/-!
# Documents of formulas

A formula is kept as a document under its key. `Document.Records` says which fields tell what, and
the lemmas after it what an insertion, a second save and a mark leave in these fields.
-/

namespace RankFormula

/-- A text from outside is a string only as itself. -/
theorem Value.ofRaw_eq_string {text : RawText} {s : String} :
    ofRaw text = .string s ↔ text = .ofString s := by
  rw [← RawText.string?_eq_some, ofRaw]
  cases text.string? <;> simp

namespace Document

/-- Whether a document is that of the formula under a key. -/
def isUnder (key : String) (document : Document) : Bool :=
  match getField? "key" document with
  | some (.string held) => held == key
  | _ => false

/-- A document is under the key in its field. -/
theorem isUnder_iff {key : String} {document : Document} :
    document.isUnder key = true ↔ getField? "key" document = some (.string key) := by
  unfold isUnder
  split
  · next held found => simp [found]
  · next other =>
    have differs : getField? "key" document ≠ some (.string key) := other key
    simp [differs]

/-- A document has a key, and it is a text. -/
def Keyed (document : Document) : Prop :=
  ∃ key, getField? "key" document = some (.string key)

/-- A document with a key is found by that key and no other. -/
theorem Keyed.satisfies_keyFilter {document : Document} (keyed : document.Keyed) {key : RawText} :
    document.Satisfies (keyFilter key) ↔ getField? "key" document = some (.ofRaw key) := by
  obtain ⟨held, found⟩ := keyed
  simp [Satisfies, keyFilter, found, Value.Meets]

/-- The value of the names of variables. -/
def ofNames : Option (List String) → Value
  | none => .null
  | some names => .list (names.map .string)

/-- A document records when its formula was first saved, what was saved last, and what was found
about its validity last. -/
structure Records (document : Document) (created : Instant) (saved : StoredFormula × Instant)
    (checked : CheckResult × Instant) : Prop where
  /-- The key. -/
  key : getField? "key" document = some (.string saved.1.key)
  /-- When the formula was first saved. -/
  createdAt : getField? "createdAt" document = some (.date created)
  /-- The text that was saved last. -/
  expression : getField? "expression" document = some (.string saved.1.expression)
  /-- Its variables. -/
  variableNames : getField? "variables" document = some (ofNames saved.1.variableNames)
  /-- Its description. -/
  description : getField? "description" document = some (.string saved.1.description)
  /-- Who saved it. -/
  createdBy : getField? "createdBy" document = some (.string saved.1.createdBy)
  /-- When it was saved. -/
  updatedAt : getField? "updatedAt" document = some (.date saved.2)
  /-- Whether it was found valid last. -/
  valid : getField? "valid" document = some (.bool checked.1.valid)
  /-- What was found wrong then. -/
  lastError : getField? "lastError" document = some (.string checked.1.lastError)
  /-- When that was. -/
  checkedAt : getField? "checkedAt" document = some (.date checked.2)

end Document

section Fields

variable {document : Document} {formula : StoredFormula} {now created : Instant}

namespace Document

/-- A document in which all fields of a save are set records the save. -/
theorem records_of_saved (createdAt : getField? "createdAt" document = some (.date created))
    (saved : ∀ name value, (name, value) ∈ (saveUpdate formula now).set →
      getField? name document = some value) :
    document.Records created (formula, now) (⟨formula.valid, formula.lastError⟩, now) where
  key := saved _ _ (by simp [saveUpdate])
  createdAt := createdAt
  expression := saved _ _ (by simp [saveUpdate])
  variableNames := saved _ _ (.tail _ (.tail _ (.tail _ (.head _))))
  description := saved _ _ (by simp [saveUpdate])
  createdBy := saved _ _ (by simp [saveUpdate])
  updatedAt := saved _ _ (by simp [saveUpdate])
  valid := saved _ _ (by simp [saveUpdate])
  lastError := saved _ _ (by simp [saveUpdate])
  checkedAt := saved _ _ (by simp [saveUpdate])

/-- A save on a document keeps when it was created, and records the rest anew. -/
theorem records_withFields_save
    (createdAt : getField? "createdAt" document = some (.date created)) :
    (document.withFields (saveUpdate formula now).set).Records created (formula, now)
      (⟨formula.valid, formula.lastError⟩, now) := by
  have once : ((saveUpdate formula now).set.map Prod.fst).Nodup := by simp [saveUpdate]
  refine records_of_saved ?_ fun name value listed =>
    getField?_withFields_of_mem once listed document
  rw [getField?_withFields_of_notMem (by simp [saveUpdate])]
  exact createdAt

/-- A document that is inserted by a save is created then. -/
theorem records_inserted (id : Value) (query : Filter) :
    (inserted id query (saveUpdate formula now)).Records now (formula, now)
      (⟨formula.valid, formula.lastError⟩, now) := by
  have once := Connection.consistent_saveUpdate formula now
  have set {name : String} {value : Value}
      (listed : (name, value) ∈
        (saveUpdate formula now).set ++ (saveUpdate formula now).setOnInsert) :
      getField? name (inserted id query (saveUpdate formula now)) = some value := by
    rw [inserted, List.append_assoc, withFields_append]
    exact getField?_withFields_of_mem once listed _
  refine records_of_saved (set ?_) fun name value listed => set (List.mem_append_left _ listed)
  exact List.mem_append_right _ List.mem_cons_self

/-- A mark of a document records what was found, and keeps the rest. -/
theorem Records.withFields_mark {saved : StoredFormula × Instant}
    {checked : CheckResult × Instant} (records : document.Records created saved checked)
    (check : CheckResult) :
    (document.withFields (markUpdate check now).set).Records created saved (check, now) := by
  have once : ((markUpdate check now).set.map Prod.fst).Nodup := by simp [markUpdate]
  have kept {name : String} (other : name ∉ (markUpdate check now).set.map Prod.fst) :
      getField? name (document.withFields (markUpdate check now).set) = getField? name document :=
    getField?_withFields_of_notMem other document
  have set {name : String} {value : Value} (listed : (name, value) ∈ (markUpdate check now).set) :
      getField? name (document.withFields (markUpdate check now).set) = some value :=
    getField?_withFields_of_mem once listed document
  constructor
  · rw [kept (by simp [markUpdate]), records.key]
  · rw [kept (by simp [markUpdate]), records.createdAt]
  · rw [kept (by simp [markUpdate]), records.expression]
  · rw [kept (by simp [markUpdate]), records.variableNames]
  · rw [kept (by simp [markUpdate]), records.description]
  · rw [kept (by simp [markUpdate]), records.createdBy]
  · rw [kept (by simp [markUpdate]), records.updatedAt]
  · exact set (by simp [markUpdate])
  · exact set (by simp [markUpdate])
  · exact set (by simp [markUpdate])

end Document
end Fields

section Middle

variable {key : String} {front back : List Document} {document : Document}

/-- A document under another key is not counted. -/
theorem filter_isUnder_of_other {held : String}
    (under : getField? "key" document = some (.string held)) (other : held ≠ key) :
    (front ++ document :: back).filter (Document.isUnder key) =
      (front ++ back).filter (Document.isUnder key) := by
  have not : ¬document.isUnder key = true := by
    rw [Document.isUnder_iff, under]
    simpa using other
  rw [List.filter_append, List.filter_cons_of_neg not, List.filter_append]

/-- A document under the key is counted, and the only one if there are no others. -/
theorem filter_isUnder_of_only (under : getField? "key" document = some (.string key))
    (others : front.filter (Document.isUnder key) = [] ∧
      back.filter (Document.isUnder key) = []) :
    (front ++ document :: back).filter (Document.isUnder key) = [document] := by
  rw [List.filter_append, List.filter_cons_of_pos (Document.isUnder_iff.mpr under), others.1,
    others.2, List.nil_append]

/-- A document with a key may stand among others with keys. -/
theorem keyed_middle {held : String} (keyed : ∀ other ∈ front ++ back, Document.Keyed other)
    (under : getField? "key" document = some (.string held)) :
    ∀ other ∈ front ++ document :: back, Document.Keyed other := by
  intro other member
  rcases List.mem_append.mp member with before | rest
  · exact keyed other (List.mem_append_left _ before)
  · rcases List.mem_cons.mp rest with rfl | after
    · exact ⟨held, under⟩
    · exact keyed other (List.mem_append_right _ after)

end Middle

end RankFormula
