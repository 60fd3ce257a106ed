import RankFormula.Dialogue
import RankFormula.Formula.Pipeline

/-!
# Commands of the document store

What is sent to the server of the document store. A command concerns a collection
of a database; `Command.toValue` is its document. An `Exchange` is a dialogue with
the server, which answers every command by a document.

Dates are instants here, in nanoseconds as the caller gives them. A server keeps
milliseconds: the encoding of a document cuts the rest of a date off on its way, so
a date that is read again can be up to a millisecond before the one that was sent.
-/

namespace RankFormula

/-- A collection of documents. -/
structure Collection where
  /-- The name of its database. -/
  database : String
  /-- Its own name. -/
  name : String
  deriving DecidableEq, Repr

/-- A change of a document. -/
structure Update where
  /-- Fields to set. -/
  set : List (String × Value)
  /-- Fields to set if the document is new. -/
  setOnInsert : List (String × Value)

/-- The document form of a change; a part without fields is left out. -/
def Update.toValue (update : Update) : Value :=
  .object
    ((if update.set.isEmpty then [] else [("$set", .object update.set)]) ++
      if update.setOnInsert.isEmpty then [] else [("$setOnInsert", .object update.setOnInsert)])

/-- An index of a collection. -/
structure Index where
  /-- Its name. -/
  name : String
  /-- Its fields in order, upward or downward. -/
  keys : List (String × Int)
  /-- Whether no two documents may agree on the fields. -/
  unique : Bool
  deriving DecidableEq, Repr

/-- Fields with directions, as an ordered document. -/
def directions (keys : List (String × Int)) : Value := .document (keys.map fun k => (k.1, .int k.2))

/-- The document form of an index. -/
def Index.toValue (index : Index) : Value :=
  .object
    ([("key", directions index.keys), ("name", .string index.name)] ++
      if index.unique then [("unique", .bool true)] else [])

/-- A command to the server. -/
inductive Command where
  /-- Finds documents in an order; the cursor may outlive its usual time. -/
  | find (target : Collection) (filter : Filter) (order : List (String × Int)) (keepCursor : Bool)
  /-- Finds one document. -/
  | findOne (target : Collection) (filter : Filter)
  /-- Changes one document, or inserts it, and answers it. -/
  | findAndUpdate (target : Collection) (query : Filter) (change : Update)
  /-- Changes one document. -/
  | updateOne (target : Collection) (query : Filter) (change : Update)
  /-- Deletes one document. -/
  | deleteOne (target : Collection) (query : Filter)
  /-- Runs a pipeline, perhaps with the help of the disk. -/
  | aggregate (target : Collection) (pipeline : List Value) (diskUse : Bool)
  /-- Lists the indexes of a collection. -/
  | listIndexes (target : Collection)
  /-- Makes indexes. -/
  | createIndexes (target : Collection) (indexes : List Index)
  /-- Asks for more documents of a cursor. -/
  | getMore (target : Collection) (cursor : Int)
  /-- Closes a cursor. -/
  | killCursor (target : Collection) (cursor : Int)

namespace Command

/-- The collection a command concerns. -/
def target : Command → Collection
  | .find t _ _ _ => t
  | .findOne t _ => t
  | .findAndUpdate t _ _ => t
  | .updateOne t _ _ => t
  | .deleteOne t _ => t
  | .aggregate t _ _ => t
  | .listIndexes t => t
  | .createIndexes t _ => t
  | .getMore t _ => t
  | .killCursor t _ => t

/-- The fields of a command, the database aside. -/
def fields : Command → List (String × Value)
  | .find t filter order keepCursor =>
    [("find", .string t.name), ("filter", .object filter), ("sort", directions order)] ++
      if keepCursor then [("noCursorTimeout", .bool true)] else []
  | .findOne t filter =>
    [("find", .string t.name), ("filter", .object filter), ("limit", .int 1),
      ("singleBatch", .bool true)]
  | .findAndUpdate t query change =>
    [("findAndModify", .string t.name), ("query", .object query), ("update", change.toValue),
      ("upsert", .bool true), ("new", .bool true)]
  | .updateOne t query change =>
    [("update", .string t.name),
      ("updates", .list [.object [("q", .object query), ("u", change.toValue)]]),
      ("ordered", .bool true)]
  | .deleteOne t query =>
    [("delete", .string t.name),
      ("deletes", .list [.object [("q", .object query), ("limit", .int 1)]]),
      ("ordered", .bool true)]
  | .aggregate t pipeline diskUse =>
    [("aggregate", .string t.name), ("pipeline", .list pipeline), ("cursor", .object [])] ++
      if diskUse then [("allowDiskUse", .bool true)] else []
  | .listIndexes t => [("listIndexes", .string t.name), ("cursor", .object [])]
  | .createIndexes t indexes =>
    [("createIndexes", .string t.name), ("indexes", .list (indexes.map Index.toValue))]
  | .getMore t cursor => [("getMore", .int cursor), ("collection", .string t.name)]
  | .killCursor t cursor => [("killCursors", .string t.name), ("cursors", .list [.int cursor])]

/-- The document form of a command, its dates not cut to milliseconds yet. -/
def toValue (command : Command) : Value :=
  .object (command.fields ++ [("$db", .string command.target.database)])

end Command

/-- A dialogue with the server. -/
abbrev Exchange : Type → Type := Dialogue Command fun _ => Value

/-- Sends a command and answers the server's reply. -/
def send (command : Command) : Exchange Value := .question command

end RankFormula
