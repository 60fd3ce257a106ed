import RankFormula.Service.Reply

/-!
# Cursors

A query is answered by a first batch of documents and by a cursor, which hands out
the batches that follow. The number of the cursor is 0 once there are none. A cursor
that is left before that is closed, whatever was read from it, and what the server
says to that is of no interest.
-/

namespace RankFormula

/-- A cursor of the server. -/
structure Cursor where
  /-- Its number; 0 if there are no more documents. -/
  number : Int
  /-- The collection it goes through. -/
  source : Collection

namespace Cursor

/-- Whether there are no more documents. -/
def isExhausted (cursor : Cursor) : Bool := cursor.number == 0

/-- Whether the server can be asked for a cursor: it has to be known where it is. -/
def isReachable (cursor : Cursor) : Bool := !cursor.source.database.isEmpty

/-- The cursor after a reply, which may give it another number. -/
def after (cursor : Cursor) (reply : Value) : Cursor :=
  match reply.field? "cursor" >>= Value.field? "id" >>= Value.wholePart? with
  | some number => { cursor with number }
  | none => cursor

/-- Closes a cursor unless it is exhausted. -/
def close (cursor : Cursor) : Exchange Unit :=
  if cursor.isExhausted || !cursor.isReachable then pure ()
  else do
    let _ ← send (.killCursor cursor.source cursor.number)
    pure ()

end Cursor

/-- The collection of a full name, which is divided at its first dot. -/
def collectionOf? (fullName : String) : Option Collection :=
  let database := fullName.toList.takeWhile (· != '.')
  match fullName.toList.dropWhile (· != '.') with
  | [] => none
  | _ :: name => some ⟨String.ofList database, String.ofList name⟩

/-- The first batch in a reply, and the cursor that goes on after it. -/
def firstBatchOf (reply : Value) : Except StoreFault (List Value × Cursor) := do
  let reply ← confirmed reply
  let fields ← readable (reply.field? "cursor" >>= Value.fields?)
  let documents ← readable (getField? "firstBatch" fields >>= Value.items?)
  let number ← readable (((getField? "id" fields).getD (.int 0)).wholePart?)
  let source ← readable (((getField? "ns" fields).getD (.string ".")).text? >>= collectionOf?)
  .ok (documents, ⟨number, source⟩)

/-- The batch in a reply to a cursor; the reply has to number the cursor anew. -/
def nextBatchOf (reply : Value) : Except StoreFault (List Value) := do
  let reply ← confirmed reply
  let fields ← readable (reply.field? "cursor" >>= Value.fields?)
  let _ ← readable (getField? "id" fields >>= Value.wholePart?)
  readable (getField? "nextBatch" fields >>= Value.items?)

/-- What is read from a cursor, and the cursor as it is left. -/
abbrev Reading (α : Type) : Type := Exchange (Except StoreFault α × Cursor)

/-- Asks a cursor for its next batch and goes on with that. -/
def Cursor.more {α : Type} (cursor : Cursor) (next : List Value → Cursor → Reading α) :
    Reading α :=
  if cursor.isReachable then
    .ask (.getMore cursor.source cursor.number) fun reply =>
      match nextBatchOf reply with
      | .error fault => .done (.error fault, cursor.after reply)
      | .ok documents => next documents (cursor.after reply)
  else .done (.error .unreadable, cursor)

/-- The largest number of batches that are read from a cursor. -/
def maxBatches : Nat := 1000000

/-- Reads the documents of a batch and of those that follow it, until a batch is
empty or the last one. -/
def readBatches {α : Type} (decode : Value → Option α) :
    Nat → List α → List Value → Cursor → Reading (List α)
  | 0, _, _, cursor => .done (.error .unreadable, cursor)
  | fuel + 1, read, documents, cursor =>
    match documents.mapM decode with
    | none => .done (.error .unreadable, cursor)
    | some more =>
      if documents.isEmpty || cursor.isExhausted then .done (.ok (read ++ more), cursor)
      else cursor.more (readBatches decode fuel (read ++ more))

/-- Finds the first document of a batch and of those that follow it. -/
def readFirst : Nat → List Value → Cursor → Reading (Option Value)
  | 0, _, cursor => .done (.error .unreadable, cursor)
  | _ + 1, document :: _, cursor => .done (.ok (some document), cursor)
  | fuel + 1, [], cursor =>
    if cursor.isExhausted then .done (.ok none, cursor) else cursor.more (readFirst fuel)

/-- Sends a query, and once more if it is refused for now. -/
def sendQuery (command : Command) : Exchange Value := do
  let reply ← send command
  if refusesForNow reply then send command else pure reply

/-- Reads from the batches that a reply begins, and closes the cursor it leaves. -/
def readReply {α : Type} (read : List Value → Cursor → Reading α) (reply : Value) :
    Exchange (Except StoreFault α) :=
  match firstBatchOf reply with
  | .error fault => .done (.error fault)
  | .ok (documents, cursor) => do
    let (result, cursor) ← read documents cursor
    cursor.close
    pure result

/-- Sends a query and reads all documents that answer it. -/
def readAll {α : Type} (decode : Value → Option α) (command : Command) :
    Exchange (Except StoreFault (List α)) := do
  readReply (readBatches decode maxBatches []) (← sendQuery command)

end RankFormula
