import RankFormula.Proofs.Store.Memory
import RankFormula.Service.Connection

/-!
# What commands do to documents

The server of the document store keeps documents in collections. `Command.CarriedOut` gives the
meaning of the commands that write: which documents a filter selects, what is set in a document
that is there and what in one that is inserted, and what is replied. Each command is carried out
as a whole. Where several documents satisfy a filter the server is free to choose one, and the
identifier and the place of a document that it inserts are up to it too.
-/

namespace RankFormula

/-- Named values. -/
abbrev Document := List (String × Value)

/-- A field meets a condition that is a plain value: it is that value, or a list that holds it. -/
def Value.Meets (field condition : Value) : Prop :=
  field = condition ∨ ∃ items, field = .list items ∧ condition ∈ items

namespace Document

/-- A document satisfies a filter of plain values: it has all the fields, and they meet the
conditions. -/
def Satisfies (document : Document) (filter : Filter) : Prop :=
  ∀ condition ∈ filter, ∃ field,
    getField? condition.1 document = some field ∧ field.Meets condition.2

/-- A document with some fields set, one after the other. -/
def withFields (document : Document) (fields : List (String × Value)) : Document :=
  fields.foldl (fun kept field => setField field.1 field.2 kept) document

/-- The document that is inserted where none satisfies a query: it satisfies the query, and then
both parts of the change are applied. -/
def inserted (id : Value) (query : Filter) (change : Update) : Document :=
  withFields [("_id", id)] (query ++ change.set ++ change.setOnInsert)

end Document

/-- No field is set twice. -/
def Update.Consistent (change : Update) : Prop :=
  ((change.set ++ change.setOnInsert).map Prod.fst).Nodup

/-- The change that a command makes. -/
def Command.change? : Command → Option Update
  | .findAndUpdate _ _ change => some change
  | .updateOne _ _ change => some change
  | _ => none

/-- A reply to a write that was carried out. -/
structure Value.Confirms (reply : Value) : Prop where
  /-- It confirms the command. -/
  ok : reply.field? "ok" = some (.number (.doubleOfInt 1))
  /-- It reports no failed write. -/
  writeErrors : reply.field? "writeErrors" = none
  /-- It reports no failed replication. -/
  writeConcernError : reply.field? "writeConcernError" = none
  /-- It reports no insertion apart from what it returns. -/
  upserted : reply.field? "upserted" = none

/-- What the server does with the documents of a collection when it carries out a command that
writes, and what it replies. -/
inductive Command.CarriedOut : Command → List Document → Value → List Document → Prop where
  /-- A change that sets a field twice is refused. -/
  | refused {command : Command} {change : Update} {documents : List Document} {reply : Value}
    (changes : command.change? = some change) (inconsistent : ¬change.Consistent)
    (refusal : ∃ fault, confirmed reply = .error fault) :
    CarriedOut command documents reply documents
  /-- A document is changed and returned. -/
  | modified {target : Collection} {query : Filter} {change : Update} {reply : Value}
    {front back : List Document} {document : Document} (consistent : change.Consistent)
    (satisfies : document.Satisfies query) (confirms : reply.Confirms)
    (returns : reply.field? "value" = some (.object (document.withFields change.set))) :
    CarriedOut (.findAndUpdate target query change) (front ++ document :: back) reply
      (front ++ document.withFields change.set :: back)
  /-- There is no such document, and one is inserted and returned. -/
  | inserted {target : Collection} {query : Filter} {change : Update} {reply id : Value}
    {front back : List Document} (consistent : change.Consistent)
    (absent : ∀ document ∈ front ++ back, ¬document.Satisfies query) (confirms : reply.Confirms)
    (returns : reply.field? "value" = some (.object (Document.inserted id query change))) :
    CarriedOut (.findAndUpdate target query change) (front ++ back) reply
      (front ++ Document.inserted id query change :: back)
  /-- A document is changed and counted. -/
  | updated {target : Collection} {query : Filter} {change : Update} {reply : Value}
    {front back : List Document} {document : Document} (consistent : change.Consistent)
    (satisfies : document.Satisfies query) (confirms : reply.Confirms)
    (counts : reply.field? "n" = some (.int 1)) :
    CarriedOut (.updateOne target query change) (front ++ document :: back) reply
      (front ++ document.withFields change.set :: back)
  /-- There is no document to change, and none is counted. -/
  | notUpdated {target : Collection} {query : Filter} {change : Update} {reply : Value}
    {documents : List Document} (consistent : change.Consistent)
    (absent : ∀ document ∈ documents, ¬document.Satisfies query) (confirms : reply.Confirms)
    (counts : reply.field? "n" = some (.int 0)) :
    CarriedOut (.updateOne target query change) documents reply documents
  /-- A document is removed and counted. -/
  | deleted {target : Collection} {query : Filter} {reply : Value} {front back : List Document}
    {document : Document} (satisfies : document.Satisfies query) (confirms : reply.Confirms)
    (counts : reply.field? "n" = some (.int 1)) :
    CarriedOut (.deleteOne target query) (front ++ document :: back) reply (front ++ back)
  /-- There is no document to remove, and none is counted. -/
  | notDeleted {target : Collection} {query : Filter} {reply : Value} {documents : List Document}
    (absent : ∀ document ∈ documents, ¬document.Satisfies query) (confirms : reply.Confirms)
    (counts : reply.field? "n" = some (.int 0)) :
    CarriedOut (.deleteOne target query) documents reply documents

/-- The documents of every collection. -/
abbrev Server := Collection → List Document

/-- A server with other documents in one collection. -/
def Server.withDocuments (server : Server) (target : Collection) (documents : List Document) :
    Server :=
  fun collection => if collection = target then documents else server collection

/-- A dialogue with the server in a state ends with a result and another state. -/
inductive Plays {α : Type} : Exchange α → Server → α → Server → Prop where
  /-- No command is left. -/
  | done (result : α) (server : Server) : Plays (.done result) server result server
  /-- A command is carried out, and the dialogue goes on with the reply. -/
  | ask {command : Command} {next : Value → Exchange α} {server last : Server} {reply : Value}
    {documents : List Document} {result : α}
    (carriedOut : command.CarriedOut (server command.target) reply documents)
    (later : Plays (next reply) (server.withDocuments command.target documents) result last) :
    Plays (.ask command next) server result last

namespace Document

variable {name : String} {value : Value} {fields : List (String × Value)}

/-- A field that is not set keeps its value. -/
theorem getField?_withFields_of_notMem (unset : name ∉ fields.map Prod.fst)
    (document : Document) :
    getField? name (document.withFields fields) = getField? name document := by
  induction fields generalizing document with
  | nil => rfl
  | cons field fields ih =>
    rw [List.map_cons, List.mem_cons, not_or] at unset
    rw [withFields, List.foldl_cons]
    exact (ih unset.2 _).trans (getField?_setField_of_ne unset.1 document)

/-- A field that is set once has that value. -/
theorem getField?_withFields_of_mem (once : (fields.map Prod.fst).Nodup)
    (listed : (name, value) ∈ fields) (document : Document) :
    getField? name (document.withFields fields) = some value := by
  induction fields generalizing document with
  | nil => cases listed
  | cons field fields ih =>
    rw [List.map_cons, List.nodup_cons] at once
    rw [withFields, List.foldl_cons]
    rcases List.mem_cons.mp listed with rfl | later
    · exact (getField?_withFields_of_notMem once.1 _).trans (getField?_setField_self document)
    · exact ih once.2 later _

/-- Fields are set one after the other. -/
theorem withFields_append (document : Document) (first second : List (String × Value)) :
    document.withFields (first ++ second) = (document.withFields first).withFields second :=
  List.foldl_append

end Document

/-- A reply that confirms a command is no refusal. -/
theorem Value.Confirms.confirmed {reply : Value} (confirms : reply.Confirms) :
    RankFormula.confirmed reply = .ok reply := by
  have ok : replyConfirms reply = true := by
    rw [replyConfirms, confirms.ok]
    rfl
  have writes : reportsFailedWrite reply = false := by
    rw [reportsFailedWrite, confirms.writeErrors, confirms.writeConcernError]
    rfl
  rw [RankFormula.confirmed, ok, writes]
  rfl

/-- A count is read from a reply that confirms a write. -/
theorem Value.Confirms.affectedCount {reply : Value} {count : Int} (confirms : reply.Confirms)
    (counts : reply.field? "n" = some (.int count)) :
    (RankFormula.confirmed reply >>= RankFormula.affectedCount) = .ok count := by
  rw [confirms.confirmed]
  show RankFormula.affectedCount reply = _
  rw [RankFormula.affectedCount, counts]
  rfl

/-- Nothing was inserted, so the count is that of the documents that were there. -/
theorem Value.Confirms.matchedCount {reply : Value} {count : Int} (confirms : reply.Confirms)
    (counts : reply.field? "n" = some (.int count)) :
    (RankFormula.confirmed reply >>= RankFormula.matchedCount) = .ok count := by
  have affected := confirms.affectedCount counts
  rw [confirms.confirmed] at affected ⊢
  show RankFormula.matchedCount reply = _
  have count : RankFormula.affectedCount reply = .ok count := affected
  rw [RankFormula.matchedCount, confirms.upserted, count]
  rfl

/-- A dialogue of one command is over once the command is carried out. -/
theorem plays_ask_done {α : Type} {command : Command} {result : Value → α} {server last : Server}
    {value : α} :
    Plays (.ask command fun reply => .done (result reply)) server value last ↔
      ∃ reply documents, command.CarriedOut (server command.target) reply documents ∧
        value = result reply ∧ last = server.withDocuments command.target documents := by
  constructor
  · intro plays
    cases plays with
    | ask carriedOut later =>
      cases later with
      | done => exact ⟨_, _, carriedOut, rfl, rfl⟩
  · rintro ⟨reply, documents, carriedOut, rfl, rfl⟩
    exact .ask carriedOut (.done _ _)

/-- A server is not changed by putting its own documents back. -/
@[simp] theorem Server.withDocuments_self (server : Server) (target : Collection) :
    server.withDocuments target (server target) = server := by
  funext collection
  unfold withDocuments
  split
  · next same => rw [same]
  · rfl

/-- The least reply to a write of a number of documents. -/
def countReply (count : Int) : Value :=
  .object [("ok", .number (.doubleOfInt 1)), ("n", .int count)]

/-- It confirms the write. -/
theorem confirms_countReply (count : Int) : (countReply count).Confirms := ⟨rfl, rfl, rfl, rfl⟩

/-- The least reply that returns a document. -/
def documentReply (document : Document) : Value :=
  .object [("ok", .number (.doubleOfInt 1)), ("value", .object document)]

/-- It confirms the write. -/
theorem confirms_documentReply (document : Document) : (documentReply document).Confirms :=
  ⟨rfl, rfl, rfl, rfl⟩

namespace Connection

variable {connection : Connection} {now : Instant} {instanceID : String} {server last : Server}

/-- A save sets no field twice. -/
theorem consistent_saveUpdate (formula : StoredFormula) (now : Instant) :
    (saveUpdate formula now).Consistent := by
  simp [Update.Consistent, saveUpdate]

/-- A mark sets no field twice. -/
theorem consistent_markUpdate (check : CheckResult) (now : Instant) :
    (markUpdate check now).Consistent := by
  simp [Update.Consistent, markUpdate]

/-- A save changes a document under its key, or inserts one if there is none. -/
theorem plays_saveFormula {formula : StoredFormula} {result : Except StoreFault StoredFormula}
    (plays : Plays (connection.saveFormula now instanceID formula) server result last) :
    (∃ front document back, server (connection.formulas instanceID) = front ++ document :: back ∧
      document.Satisfies (keyFilter formula.key) ∧
      last = server.withDocuments (connection.formulas instanceID)
        (front ++ document.withFields (saveUpdate formula now).set :: back)) ∨
    ∃ id front back, server (connection.formulas instanceID) = front ++ back ∧
      (∀ document ∈ front ++ back, ¬Document.Satisfies document (keyFilter formula.key)) ∧
      last = server.withDocuments (connection.formulas instanceID)
        (front ++ Document.inserted id (keyFilter formula.key) (saveUpdate formula now) ::
          back) := by
  obtain ⟨reply, documents, carriedOut, -, rfl⟩ := plays_ask_done.mp plays
  dsimp only [Command.target] at carriedOut ⊢
  generalize held : server (connection.formulas instanceID) = present at carriedOut
  cases carriedOut with
  | refused changes inconsistent refusal =>
    cases changes
    exact absurd (consistent_saveUpdate formula now) inconsistent
  | modified consistent satisfies confirms returns =>
    exact .inl ⟨_, _, _, rfl, satisfies, rfl⟩
  | inserted consistent absent confirms returns => exact .inr ⟨_, _, _, rfl, absent, rfl⟩

/-- A save can always be carried out. -/
theorem exists_plays_saveFormula (connection : Connection) (now : Instant) (instanceID : String)
    (formula : StoredFormula) (server : Server) :
    ∃ reply last, Plays (connection.saveFormula now instanceID formula) server reply last := by
  by_cases present : ∃ document ∈ server (connection.formulas instanceID),
      Document.Satisfies document (keyFilter formula.key)
  · obtain ⟨document, member, satisfies⟩ := present
    obtain ⟨front, back, held⟩ := List.append_of_mem member
    have carriedOut : (Command.findAndUpdate (connection.formulas instanceID)
        (keyFilter formula.key) (saveUpdate formula now)).CarriedOut
          (server (connection.formulas instanceID))
          (documentReply (document.withFields (saveUpdate formula now).set))
          (front ++ document.withFields (saveUpdate formula now).set :: back) := by
      rw [held]
      exact .modified (consistent_saveUpdate formula now) satisfies (confirms_documentReply _) rfl
    exact ⟨_, _, plays_ask_done.mpr ⟨_, _, carriedOut, rfl, rfl⟩⟩
  · have absent : ∀ document ∈ [] ++ server (connection.formulas instanceID),
        ¬Document.Satisfies document (keyFilter formula.key) :=
      fun document member satisfies => present ⟨document, member, satisfies⟩
    let document := Document.inserted .null (keyFilter formula.key) (saveUpdate formula now)
    have carriedOut : (Command.findAndUpdate (connection.formulas instanceID)
        (keyFilter formula.key) (saveUpdate formula now)).CarriedOut
          ([] ++ server (connection.formulas instanceID)) (documentReply document) _ :=
      .inserted (consistent_saveUpdate formula now) absent (confirms_documentReply _) rfl
    exact ⟨_, _, plays_ask_done.mpr ⟨_, _, carriedOut, rfl, rfl⟩⟩

/-- What is made of a count of documents. -/
def foundIf (count : Except StoreFault Int) : Except StoreFault Unit := do
  if (← count) < 1 then .error .formulaNotFound else .ok ()

/-- A mark is an update of one document. -/
theorem markFormula_eq_ask {key : String} {check : CheckResult} :
    connection.markFormula now instanceID key check =
      .ask (.updateOne (connection.formulas instanceID) (keyFilter key) (markUpdate check now))
        fun reply => .done (foundIf (confirmed reply >>= matchedCount)) := by
  refine congrArg (Dialogue.ask _) (funext fun reply => congrArg Dialogue.done ?_)
  cases confirmed reply <;> rfl

/-- A delete removes one document. -/
theorem deleteFormula_eq_ask {key : RawText} :
    connection.deleteFormula instanceID key =
      .ask (.deleteOne (connection.formulas instanceID) (keyFilter key))
        fun reply => .done (foundIf (confirmed reply >>= affectedCount)) := by
  refine congrArg (Dialogue.ask _) (funext fun reply => congrArg Dialogue.done ?_)
  cases confirmed reply <;> rfl

/-- A mark changes a document under its key, or finds that there is none. -/
theorem plays_markFormula {key : String} {check : CheckResult} {result : Except StoreFault Unit} :
    Plays (connection.markFormula now instanceID key check) server result last ↔
      (∃ front document back, server (connection.formulas instanceID) = front ++ document :: back ∧
        document.Satisfies (keyFilter key) ∧ result = .ok () ∧
        last = server.withDocuments (connection.formulas instanceID)
          (front ++ document.withFields (markUpdate check now).set :: back)) ∨
      (∀ document ∈ server (connection.formulas instanceID),
          ¬Document.Satisfies document (keyFilter key)) ∧
        result = .error .formulaNotFound ∧ last = server := by
  rw [markFormula_eq_ask, plays_ask_done]
  dsimp only [Command.target]
  constructor
  · rintro ⟨reply, documents, carriedOut, rfl, rfl⟩
    generalize held : server (connection.formulas instanceID) = present at carriedOut
    cases carriedOut with
    | refused changes inconsistent refusal =>
      cases changes
      exact absurd (consistent_markUpdate check now) inconsistent
    | updated consistent satisfies confirms counts =>
      refine .inl ⟨_, _, _, rfl, satisfies, ?_, rfl⟩
      rw [confirms.matchedCount counts]
      rfl
    | notUpdated consistent absent confirms counts =>
      subst held
      refine .inr ⟨absent, ?_, server.withDocuments_self _⟩
      rw [confirms.matchedCount counts]
      rfl
  · rintro (⟨front, document, back, held, satisfies, rfl, rfl⟩ | ⟨absent, rfl, rfl⟩)
    · refine ⟨countReply 1, _, ?_, rfl, rfl⟩
      rw [held]
      exact .updated (consistent_markUpdate check now) satisfies (confirms_countReply 1) rfl
    · refine ⟨countReply 0, _, ?_, rfl, (Server.withDocuments_self _ _).symm⟩
      exact .notUpdated (consistent_markUpdate check now) absent (confirms_countReply 0) rfl

/-- A delete removes a document under its key, or finds that there is none. -/
theorem plays_deleteFormula {key : RawText} {result : Except StoreFault Unit} :
    Plays (connection.deleteFormula instanceID key) server result last ↔
      (∃ front document back, server (connection.formulas instanceID) = front ++ document :: back ∧
        document.Satisfies (keyFilter key) ∧ result = .ok () ∧
        last = server.withDocuments (connection.formulas instanceID) (front ++ back)) ∨
      (∀ document ∈ server (connection.formulas instanceID),
          ¬Document.Satisfies document (keyFilter key)) ∧
        result = .error .formulaNotFound ∧ last = server := by
  rw [deleteFormula_eq_ask, plays_ask_done]
  dsimp only [Command.target]
  constructor
  · rintro ⟨reply, documents, carriedOut, rfl, rfl⟩
    generalize held : server (connection.formulas instanceID) = present at carriedOut
    cases carriedOut with
    | refused changes inconsistent refusal => cases changes
    | deleted satisfies confirms counts =>
      refine .inl ⟨_, _, _, rfl, satisfies, ?_, rfl⟩
      rw [confirms.affectedCount counts]
      rfl
    | notDeleted absent confirms counts =>
      subst held
      refine .inr ⟨absent, ?_, server.withDocuments_self _⟩
      rw [confirms.affectedCount counts]
      rfl
  · rintro (⟨front, document, back, held, satisfies, rfl, rfl⟩ | ⟨absent, rfl, rfl⟩)
    · refine ⟨countReply 1, _, ?_, rfl, rfl⟩
      rw [held]
      exact .deleted satisfies (confirms_countReply 1) rfl
    · refine ⟨countReply 0, _, ?_, rfl, (Server.withDocuments_self _ _).symm⟩
      exact .notDeleted absent (confirms_countReply 0) rfl

end Connection
end RankFormula
