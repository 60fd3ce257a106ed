import RankFormula.Config.Database
import RankFormula.Logging.Record
import RankFormula.Service.Cursor

/-!
# Calls over a connection

How the calls of the store are carried out by commands to the server, and how the
indexes are made on which they rely. Every instance has a database of its own.
-/

namespace RankFormula

/-- A connection to the server. -/
structure Connection where
  /-- What the names of all databases start with. -/
  namePrefix : String
  /-- Whether cursors live on without use. -/
  keepCursors : Bool

namespace Connection

/-- The database of an instance. -/
def database (connection : Connection) (instanceID : String) : String :=
  connection.namePrefix ++ instanceID ++ "_rankingDB"

/-- The formulas of an instance. -/
def formulas (connection : Connection) (instanceID : String) : Collection :=
  ⟨connection.database instanceID, "rankingFormulas"⟩

/-- The posts of an instance. -/
def posts (connection : Connection) (instanceID : String) : Collection :=
  ⟨connection.database instanceID, "posts"⟩

end Connection

/-- How many documents a confirmed command concerned. -/
def affectedCount (reply : Value) : Except StoreFault Int :=
  readable ((reply.field? "n").getD (.int 0)).wholePart?

/-- How many documents that were there a confirmed change concerned; one that it
inserted does not count. -/
def matchedCount (reply : Value) : Except StoreFault Int := do
  let inserted ← readable ((reply.field? "upserted").getD (.list [])).items?
  let count ← affectedCount reply
  .ok (if inserted.isEmpty then count else count - 1)

/-- The condition that a formula is under a key. -/
def keyFilter (key : RawText) : Filter := [("key", .ofRaw key)]

/-- What saving a formula changes: everything but the time of the first save. The dates are
those of the call, to the nanosecond; cutting them to milliseconds is left to the encoding. -/
def saveUpdate (formula : StoredFormula) (now : Instant) : Update where
  set :=
    [("key", .string formula.key), ("expression", .string formula.expression),
      ("description", .string formula.description),
      ("variables",
        match formula.variableNames with
        | none => .null
        | some names => .list (names.map .string)),
      ("valid", .bool formula.valid), ("lastError", .string formula.lastError),
      ("createdBy", .string formula.createdBy), ("updatedAt", .date now), ("checkedAt", .date now)]
  setOnInsert := [("createdAt", .date now)]

/-- What recording a check changes. The date is that of the call, as for a save. -/
def markUpdate (check : CheckResult) (now : Instant) : Update where
  set :=
    [("valid", .bool check.valid), ("lastError", .string check.lastError), ("checkedAt", .date now)]
  setOnInsert := []

/-- A value that is a document. -/
def documentOf? (value : Value) : Option Value := if value.isDocument then some value else none

/-- The pipeline that counts the documents that satisfy a filter. -/
def countPipeline (filter : Filter) : List Value :=
  [.object [("$match", .object filter)],
    .object [("$group", .object [("_id", .int 1), ("n", .object [("$sum", .int 1)])])]]

namespace Connection

/-- Finds the formulas of an instance, ordered by key. -/
def findFormulas (connection : Connection) (instanceID : String) (onlyValid : Bool) :
    Exchange (Except StoreFault (List StoredFormula)) :=
  readAll StoredFormula.ofValue?
    (.find (connection.formulas instanceID) (if onlyValid then [("valid", .bool true)] else [])
      [("key", 1)] connection.keepCursors)

/-- Finds the formula under a key. -/
def findFormula (connection : Connection) (instanceID : String) (key : RawText) :
    Exchange (Except StoreFault StoredFormula) := do
  let reply ← sendQuery (.findOne (connection.formulas instanceID) (keyFilter key))
  let document ← readReply (readFirst maxBatches) reply
  pure do
    match ← document with
    | none => .error .formulaNotFound
    | some document => readable (StoredFormula.ofValue? document)

/-- Saves a formula at a time. -/
def saveFormula (connection : Connection) (now : Instant) (instanceID : String)
    (formula : StoredFormula) : Exchange (Except StoreFault StoredFormula) := do
  let reply ← send (.findAndUpdate (connection.formulas instanceID) (keyFilter formula.key)
    (saveUpdate formula now))
  pure do
    let reply ← confirmed reply
    match (reply.field? "value").getD .null with
    | .null => .error .nothingReturned
    | document => readable (StoredFormula.ofValue? document)

/-- Deletes the formula under a key. -/
def deleteFormula (connection : Connection) (instanceID : String) (key : RawText) :
    Exchange (Except StoreFault Unit) := do
  let reply ← send (.deleteOne (connection.formulas instanceID) (keyFilter key))
  pure do
    let count ← affectedCount (← confirmed reply)
    if count < 1 then .error .formulaNotFound else .ok ()

/-- Records what a check found at a time. -/
def markFormula (connection : Connection) (now : Instant) (instanceID key : String)
    (check : CheckResult) : Exchange (Except StoreFault Unit) := do
  let reply ← send
    (.updateOne (connection.formulas instanceID) (keyFilter key) (markUpdate check now))
  pure do
    let count ← matchedCount (← confirmed reply)
    if count < 1 then .error .formulaNotFound else .ok ()

/-- Counts the posts that satisfy a filter; a batch with anything but documents counts none. -/
def countPosts (connection : Connection) (instanceID : String) (filter : Filter) :
    Exchange (Except StoreFault Int64) := do
  let reply ← sendQuery (.aggregate (connection.posts instanceID) (countPipeline filter) false)
  pure do
    let (documents, _) ← firstBatchOf reply
    match (documents.mapM documentOf?).getD [] with
    | [] => .ok 0
    | document :: _ =>
      let count ← readable (document.field? "n" >>= Value.wholePart?)
      .ok (.ofInt count)

/-- Picks the page of the posts that satisfy a filter. -/
def pagePosts (connection : Connection) (instanceID : String) (filter : Filter)
    (page limit : Int64) : Exchange (Except StoreFault PageWindow) := do
  let count ← connection.countPosts instanceID filter
  pure (count.map fun n => .clamp n page limit)

/-- Runs a pipeline on the posts. -/
def rankPosts (connection : Connection) (instanceID : String) (pipeline : List Value) :
    Exchange (Except StoreFault (List Value)) :=
  readAll documentOf? (.aggregate (connection.posts instanceID) pipeline true)

/-- Carries out a call of the store at a time. -/
def answer (connection : Connection) (now : Instant) :
    (call : StoreCall) → Exchange (Except StoreFault call.Answer)
  | .formulas instanceID onlyValid => connection.findFormulas instanceID onlyValid
  | .formulaByKey instanceID key => connection.findFormula instanceID key
  | .save instanceID formula => connection.saveFormula now instanceID formula
  | .delete instanceID key => connection.deleteFormula instanceID key
  | .mark instanceID key check => connection.markFormula now instanceID key check
  | .page instanceID filter page limit => connection.pagePosts instanceID filter page limit
  | .ranked instanceID pipeline =>
    (connection.rankPosts instanceID (pipeline.map Stage.toValue)).bind fun posts =>
      .done (posts.map some)

end Connection

/-- The record of a section without settings. -/
def DatabaseFault.report (fault : DatabaseFault) : LogRecord := ⟨.error, fault.message, []⟩

/-- The indexes on which the formulas rely. -/
def formulaIndexes : List Index :=
  [⟨"key_1", [("key", 1)], true⟩, ⟨"valid_1_checkedAt_1", [("valid", 1), ("checkedAt", 1)], false⟩]

/-- The names of the indexes in documents that describe indexes. -/
def indexNames (documents : List Value) : List String :=
  documents.filterMap fun document => document.field? "name" >>= Value.text?

namespace Connection

/-- The names of the indexes on the formulas; none if there is no collection yet. -/
def listIndexNames (connection : Connection) (instanceID : String) :
    Exchange (Except StoreFault (List String)) := do
  let reply ← sendQuery (.listIndexes (connection.formulas instanceID))
  if refusesMissingCollection reply then pure (.ok [])
  else
    let documents ← readReply (readBatches documentOf? maxBatches []) reply
    pure (documents.map indexNames)

/-- Makes the indexes that are missing. -/
def createIndexes (connection : Connection) (instanceID : String) :
    Exchange (Except StoreFault Unit) := do
  match ← connection.listIndexNames instanceID with
  | .error fault => pure (.error fault)
  | .ok names =>
    let missing := formulaIndexes.filter fun index => !names.contains index.name
    if missing.isEmpty then pure (.ok ())
    else
      let reply ← send (.createIndexes (connection.formulas instanceID) missing)
      pure do
        let _ ← confirmed reply
        .ok ()

/-- Makes the missing indexes of instances in turn and reports the failures. -/
def ensureEach (connection : Connection) : List String → Exchange (List LogRecord)
  | [] => pure []
  | instanceID :: rest => do
    let made ← connection.createIndexes instanceID
    let reports ← connection.ensureEach rest
    match made with
    | .ok _ => pure reports
    | .error fault =>
      pure (⟨.error, "Error creating indexes for ranking formulas",
        [("error", .string fault.message), ("instanceID", .string instanceID)]⟩ :: reports)

/-- Makes the missing indexes of instances and reports what happened. -/
def ensureIndexes (connection : Connection) (instanceIDs : List String) :
    Exchange (List LogRecord) := do
  let reports ← connection.ensureEach instanceIDs
  pure (⟨.debug, "Ensuring indexes for ranking DB", []⟩ :: reports)

/-- Opens the connection of settings, makes the indexes if that is set, and reports
what happened. The server is there: a start that does not reach it is left out. -/
def start (settings : DatabaseSettings) : Exchange (Connection × List LogRecord) :=
  let connection : Connection := ⟨settings.dbNamePrefix, settings.noCursorTimeout⟩
  if settings.runIndexCreation then do
    let reports ← connection.ensureIndexes (settings.instanceIDs.getD [])
    pure (connection, reports)
  else pure (connection, [])

end Connection
end RankFormula
