import RankFormula.Proofs.Service.Documents
import RankFormula.Proofs.Service.History

/-!
# What the documents of formulas tell

The documents of a server are what the history of calls says: `Tracks` is that invariant for one
key, with a lemma for each way a call can concern the key, and `Server.Reflects` the invariant for
all keys of all collections, which every served call keeps. The main statement is
`documents_tell_history`.
-/

namespace RankFormula

section Tracking

variable {collection : Collection} {key : String} {history : List ServedCall}
  {documents changed : List Document}

/-- The document under a key, if there is one, is what the history says; there is one exactly if
the formula was saved and not deleted since. -/
inductive Tracks (collection : Collection) (key : String) (history : List ServedCall)
    (documents : List Document) : Prop where
  /-- There is no document. -/
  | absent (empty : documents.filter (Document.isUnder key) = [])
    (unsaved : firstSave? collection key history = none)
  /-- There is one. -/
  | present {document : Document} {first latest : StoredFormula × Instant}
    {check : CheckResult × Instant}
    (only : documents.filter (Document.isUnder key) = [document])
    (created : firstSave? collection key history = some first)
    (saved : latestSave? collection key history = some latest)
    (checked : latestCheck? collection key history = some check)
    (records : document.Records first.2 latest check)

variable {call : ServedCall}

/-- A call that does not concern the key leaves what the history says about it. -/
theorem Tracks.of_spares (tracks : Tracks collection key history documents)
    (spares : call.Spares collection key)
    (same : changed.filter (Document.isUnder key) = documents.filter (Document.isUnder key)) :
    Tracks collection key (call :: history) changed := by
  have first : firstSave? collection key (call :: history) = _ :=
    firstSave?_cons_of_unsaved spares.undeleted spares.unsaved
  cases tracks with
  | absent empty never => exact .absent (same.trans empty) (first.trans never)
  | present only created saved checked records =>
    rw [latestSave?] at saved
    rw [latestCheck?] at checked
    exact .present (same.trans only) (first.trans created)
      (by simp [latestSave?, spares.unsaved, saved])
      (by simp [latestCheck?, spares.unchecked, checked]) records

section Saving

variable {formula : StoredFormula} {now : Instant} {document : Document}
  (tracks : Tracks collection key history documents)
  (saved : call.saved? collection key = some (formula, now))
  (checked : call.checked? collection key = some (⟨formula.valid, formula.lastError⟩, now))
  (undeleted : call.deletes collection key = false)

include tracks saved checked undeleted

/-- A save on a key that has no document inserts one, which is created by the save. -/
theorem Tracks.of_inserted (empty : documents.filter (Document.isUnder key) = [])
    (only : changed.filter (Document.isUnder key) = [document])
    (records : document.Records now (formula, now) (⟨formula.valid, formula.lastError⟩, now)) :
    Tracks collection key (call :: history) changed := by
  have first : firstSave? collection key (call :: history) = some (formula, now) := by
    rw [firstSave?_cons_of_saved undeleted saved]
    cases tracks with
    | absent _ unsaved => rw [unsaved, Option.getD_none]
    | present held => cases held.symm.trans empty
  exact .present only first (by simp [latestSave?, saved]) (by simp [latestCheck?, checked]) records

/-- A save on a key that has a document keeps when it was created. -/
theorem Tracks.of_resaved (held : documents.filter (Document.isUnder key) = [document])
    (only : changed.filter (Document.isUnder key) =
      [document.withFields (saveUpdate formula now).set]) :
    Tracks collection key (call :: history) changed := by
  have first : firstSave? collection key (call :: history) = _ :=
    firstSave?_cons_of_saved undeleted saved
  cases tracks with
  | absent empty unsaved => cases empty.symm.trans held
  | present same created _ _ records =>
    obtain rfl := (List.cons.inj (same.symm.trans held)).1
    rw [created, Option.getD_some] at first
    exact .present only first (by simp [latestSave?, saved]) (by simp [latestCheck?, checked])
      (Document.records_withFields_save records.createdAt)

end Saving

/-- A mark of a key that has a document keeps what was saved. -/
theorem Tracks.of_marked (tracks : Tracks collection key history documents)
    {check : CheckResult} {now : Instant} {document : Document}
    (unsaved : call.saved? collection key = none)
    (checked : call.checked? collection key = some (check, now))
    (undeleted : call.deletes collection key = false)
    (held : documents.filter (Document.isUnder key) = [document])
    (only : changed.filter (Document.isUnder key) =
      [document.withFields (markUpdate check now).set]) :
    Tracks collection key (call :: history) changed := by
  have first : firstSave? collection key (call :: history) = _ :=
    firstSave?_cons_of_unsaved undeleted unsaved
  cases tracks with
  | absent empty unsaved => cases empty.symm.trans held
  | present same created saved _ records =>
    obtain rfl := (List.cons.inj (same.symm.trans held)).1
    rw [latestSave?] at saved
    exact .present only (first.trans created) (by simp [latestSave?, unsaved, saved])
      (by simp [latestCheck?, checked]) (records.withFields_mark check)

/-- After a delete of a key nothing that was saved before counts. -/
theorem Tracks.of_deleted (deleted : call.deletes collection key = true)
    (empty : changed.filter (Document.isUnder key) = []) :
    Tracks collection key (call :: history) changed :=
  .absent empty (by simp [firstSave?, deleted])

/-- A formula that was saved and not deleted since has a document. -/
theorem Tracks.exists_of_saved (tracks : Tracks collection key history documents)
    {first : StoredFormula × Instant} (created : firstSave? collection key history = some first) :
    ∃ document ∈ documents, getField? "key" document = some (.string key) := by
  cases tracks with
  | absent _ unsaved => cases unsaved.symm.trans created
  | present only =>
    obtain ⟨member, under⟩ := List.mem_filter.mp (only ▸ List.mem_singleton.mpr rfl)
    exact ⟨_, member, Document.isUnder_iff.mp under⟩

/-- A document under the key is the only one. -/
theorem Tracks.only {front back : List Document} {document : Document}
    (tracks : Tracks collection key history (front ++ document :: back))
    (under : document.isUnder key = true) :
    front.filter (Document.isUnder key) = [] ∧ back.filter (Document.isUnder key) = [] := by
  have split : (front ++ document :: back).filter (Document.isUnder key) =
      front.filter (Document.isUnder key) ++ document :: back.filter (Document.isUnder key) := by
    rw [List.filter_append, List.filter_cons_of_pos under]
  cases tracks with
  | absent empty => simp [split] at empty
  | present only =>
    have length := congrArg List.length only
    simp only [split, List.length_append, List.length_cons, List.length_nil] at length
    exact ⟨List.eq_nil_of_length_eq_zero (by omega), List.eq_nil_of_length_eq_zero (by omega)⟩

end Tracking

/-- The documents of all collections are what the history says. -/
structure Server.Reflects (server : Server) (history : List ServedCall) : Prop where
  /-- Every document has a key. -/
  keyed : ∀ collection, ∀ document ∈ server collection, Document.Keyed document
  /-- The document under each key is what the history says. -/
  tracks : ∀ collection key, Tracks collection key history (server collection)

namespace Server.Reflects

variable {server last : Server} {history : List ServedCall} {connection : Connection}
  {now : Instant} {instanceID : String}

/-- What a call does to its collection is all it does. -/
theorem of_withDocuments (reflects : server.Reflects history) {call : ServedCall}
    {target : Collection} {documents : List Document}
    (concerns : call.connection.formulas call.call.instanceID = target)
    (keyed : ∀ document ∈ documents, Document.Keyed document)
    (tracks : ∀ key, Tracks target key (call :: history) documents) :
    (server.withDocuments target documents).Reflects (call :: history) := by
  constructor
  · intro collection
    unfold withDocuments
    split
    · exact keyed
    · exact reflects.keyed collection
  · intro collection key
    unfold withDocuments
    split
    · next same => exact same ▸ tracks key
    · next other =>
      have elsewhere : call.connection.formulas call.call.instanceID ≠ collection :=
        fun same => other (same.symm.trans concerns)
      exact (reflects.tracks collection key).of_spares
        (ServedCall.spares_of_collection_ne elsewhere) rfl

/-- A document that a filter for a key selects is under the key. -/
theorem key_of_satisfies {front back : List Document} {document : Document} {key : RawText}
    {collection : Collection} (reflects : server.Reflects history)
    (held : server collection = front ++ document :: back)
    (satisfies : document.Satisfies (keyFilter key)) :
    getField? "key" document = some (.ofRaw key) := by
  have listed : document ∈ server collection := by
    rw [held]
    exact List.mem_append_right _ List.mem_cons_self
  exact (reflects.keyed collection document listed).satisfies_keyFilter.mp satisfies

/-- The other documents of a collection have keys. -/
theorem keyed_others {front back : List Document} {document : Document} {collection : Collection}
    (reflects : server.Reflects history)
    (held : server collection = front ++ document :: back) :
    ∀ other ∈ front ++ back, Document.Keyed other := by
  intro other member
  have sublist := (List.sublist_cons_self document back).append_left front
  refine reflects.keyed collection other ?_
  rw [held]
  exact sublist.subset member

/-- A save keeps the documents what the history says. -/
theorem save {formula : StoredFormula} {reply : Except StoreFault StoredFormula}
    (reflects : server.Reflects history)
    (plays : Plays (connection.saveFormula now instanceID formula) server reply last) :
    last.Reflects (⟨connection, now, .save instanceID formula, reply⟩ :: history) := by
  have tracks := reflects.tracks (connection.formulas instanceID)
  have saved : ServedCall.saved? (connection.formulas instanceID) formula.key
      ⟨connection, now, .save instanceID formula, reply⟩ = some (formula, now) :=
    if_pos ⟨rfl, rfl⟩
  have checked : ServedCall.checked? (connection.formulas instanceID) formula.key
      ⟨connection, now, .save instanceID formula, reply⟩ =
        some (⟨formula.valid, formula.lastError⟩, now) :=
    if_pos ⟨rfl, rfl⟩
  rcases Connection.plays_saveFormula plays with
    ⟨front, document, back, held, satisfies, rfl⟩ | ⟨id, front, back, held, absent, rfl⟩
  · have under := reflects.key_of_satisfies held satisfies
    rw [Value.ofRaw_ofString] at under
    have stays : getField? "key" (document.withFields (saveUpdate formula now).set) =
        some (.string formula.key) :=
      Document.getField?_withFields_of_mem (by simp [saveUpdate]) (by simp [saveUpdate]) document
    rw [held] at tracks
    refine reflects.of_withDocuments rfl (keyed_middle (reflects.keyed_others held) stays) ?_
    intro key
    by_cases same : formula.key = key
    · subst same
      have others := (tracks formula.key).only (Document.isUnder_iff.mpr under)
      exact (tracks formula.key).of_resaved saved checked rfl (filter_isUnder_of_only under others)
        (filter_isUnder_of_only stays others)
    · refine (tracks key).of_spares (ServedCall.spares_save same) ?_
      rw [filter_isUnder_of_other stays same, filter_isUnder_of_other under same]
  · have keyed := reflects.keyed (connection.formulas instanceID)
    have records : (Document.inserted id (keyFilter formula.key)
        (saveUpdate formula now)).Records now (formula, now) _ := Document.records_inserted id _
    rw [held] at tracks keyed
    refine reflects.of_withDocuments rfl (keyed_middle keyed records.key) ?_
    intro key
    by_cases same : formula.key = key
    · subst same
      have empty : (front ++ back).filter (Document.isUnder formula.key) = [] := by
        rw [List.filter_eq_nil_iff]
        intro document member found
        refine absent document member ((keyed document member).satisfies_keyFilter.mpr ?_)
        rw [Value.ofRaw_ofString]
        exact Document.isUnder_iff.mp found
      have others := List.append_eq_nil_iff.mp ((List.filter_append ..).symm.trans empty)
      exact (tracks formula.key).of_inserted saved checked rfl empty
        (filter_isUnder_of_only records.key others) records
    · exact (tracks key).of_spares (ServedCall.spares_save same)
        (filter_isUnder_of_other records.key same)

/-- A call that finds nothing changes neither the documents nor what the history says. -/
theorem unfound (reflects : server.Reflects history) {call : StoreCall} {fault : StoreFault}
    (unsaving : ∀ instanceID formula, call ≠ .save instanceID formula) :
    server.Reflects (⟨connection, now, call, .error fault⟩ :: history) where
  keyed := reflects.keyed
  tracks := fun collection key =>
    (reflects.tracks collection key).of_spares (ServedCall.spares_of_error unsaving) rfl

/-- A mark keeps the documents what the history says. -/
theorem mark {key : String} {check : CheckResult} {reply : Except StoreFault Unit}
    (reflects : server.Reflects history)
    (plays : Plays (connection.markFormula now instanceID key check) server reply last) :
    last.Reflects (⟨connection, now, .mark instanceID key check, reply⟩ :: history) := by
  have tracks := reflects.tracks (connection.formulas instanceID)
  rcases Connection.plays_markFormula.mp plays with
    ⟨front, document, back, held, satisfies, rfl, rfl⟩ | ⟨-, rfl, rfl⟩
  · have under := reflects.key_of_satisfies held satisfies
    rw [Value.ofRaw_ofString] at under
    have stays : getField? "key" (document.withFields (markUpdate check now).set) =
        some (.string key) := by
      rw [Document.getField?_withFields_of_notMem (by simp [markUpdate]), under]
    rw [held] at tracks
    refine reflects.of_withDocuments rfl (keyed_middle (reflects.keyed_others held) stays) ?_
    intro other
    by_cases same : key = other
    · subst same
      have others := (tracks key).only (Document.isUnder_iff.mpr under)
      exact (tracks key).of_marked rfl (if_pos ⟨rfl, rfl⟩) rfl
        (filter_isUnder_of_only under others) (filter_isUnder_of_only stays others)
    · refine (tracks other).of_spares (ServedCall.spares_mark same) ?_
      rw [filter_isUnder_of_other stays same, filter_isUnder_of_other under same]
  · exact reflects.unfound fun instanceID formula same => StoreCall.noConfusion same

/-- A delete keeps the documents what the history says. -/
theorem delete {key : RawText} {reply : Except StoreFault Unit}
    (reflects : server.Reflects history)
    (plays : Plays (connection.deleteFormula instanceID key) server reply last) :
    last.Reflects (⟨connection, now, .delete instanceID key, reply⟩ :: history) := by
  have tracks := reflects.tracks (connection.formulas instanceID)
  rcases Connection.plays_deleteFormula.mp plays with
    ⟨front, document, back, held, satisfies, rfl, rfl⟩ | ⟨-, rfl, rfl⟩
  · have found := reflects.key_of_satisfies held satisfies
    rw [held] at tracks
    refine reflects.of_withDocuments rfl (reflects.keyed_others held) ?_
    intro other
    by_cases same : key = .ofString other
    · subst same
      rw [Value.ofRaw_ofString] at found
      have others := (tracks other).only (Document.isUnder_iff.mpr found)
      refine .of_deleted (decide_eq_true ⟨rfl, rfl⟩) ?_
      rw [List.filter_append, others.1, others.2, List.nil_append]
    · refine (tracks other).of_spares (ServedCall.spares_delete same) ?_
      obtain ⟨name, under⟩ := reflects.keyed _ document
        (held ▸ List.mem_append_right _ List.mem_cons_self)
      have apart : name ≠ other := by
        rintro rfl
        exact same (Value.ofRaw_eq_string.mp (Option.some.inj (found.symm.trans under)))
      exact (filter_isUnder_of_other under apart).symm
  · exact reflects.unfound fun instanceID formula same => StoreCall.noConfusion same

end Server.Reflects

/-- Whatever was called, the documents are what the history says. -/
theorem Served.reflects {history : List ServedCall} {server : Server}
    (served : Served history server) : server.Reflects history := by
  induction served with
  | start =>
    exact ⟨fun _ _ member => absurd member List.not_mem_nil, fun _ _ => .absent rfl rfl⟩
  | call latest _ writes plays reflects =>
    obtain ⟨connection, now, call, reply⟩ := latest
    cases call with
    | save instanceID formula => exact reflects.save plays
    | mark instanceID key check => exact reflects.mark plays
    | delete instanceID key => exact reflects.delete plays
    | _ => exact absurd trivial writes

/-- There is no document under a key. -/
def Server.Lacks (server : Server) (collection : Collection) (key : RawText) : Prop :=
  ∀ document ∈ server collection, getField? "key" document ≠ some (.ofRaw key)

/-- A filter for a key that is not there selects nothing. -/
theorem Server.Reflects.not_satisfies {server : Server} {history : List ServedCall}
    {collection : Collection} {key : RawText} (reflects : server.Reflects history)
    (lacks : server.Lacks collection key) :
    ∀ document ∈ server collection, ¬Document.Satisfies document (keyFilter key) :=
  fun document member satisfies => lacks document member
    ((reflects.keyed collection document member).satisfies_keyFilter.mp satisfies)

/-- Under a key that is not there, what is done without a selected document is all that is done. -/
theorem Server.Reflects.selects_none {server : Server} {history : List ServedCall}
    {collection : Collection} {key : RawText}
    {done : List Document → Document → List Document → Prop} {undone : Prop}
    (reflects : server.Reflects history) (lacks : server.Lacks collection key) :
    ((∃ front document back, server collection = front ++ document :: back ∧
        Document.Satisfies document (keyFilter key) ∧ done front document back) ∨
      (∀ document ∈ server collection, ¬Document.Satisfies document (keyFilter key)) ∧ undone) ↔
        undone := by
  have absent := reflects.not_satisfies lacks
  constructor
  · rintro (⟨front, document, back, held, satisfies, -⟩ | ⟨-, found⟩)
    · refine absurd satisfies (absent document ?_)
      rw [held]
      exact List.mem_append_right _ List.mem_cons_self
    · exact found
  · exact fun found => .inr ⟨absent, found⟩

/-- Marking a key that is not there finds nothing and changes nothing. -/
theorem Server.Reflects.plays_mark_iff {server last : Server} {history : List ServedCall}
    {connection : Connection} {instanceID key : String} {now : Instant} {check : CheckResult}
    {reply : Except StoreFault Unit} (reflects : server.Reflects history)
    (lacks : server.Lacks (connection.formulas instanceID) key) :
    Plays (connection.markFormula now instanceID key check) server reply last ↔
      reply = .error .formulaNotFound ∧ last = server :=
  Connection.plays_markFormula.trans (reflects.selects_none lacks)

/-- Deleting a key that is not there finds nothing and changes nothing. -/
theorem Server.Reflects.plays_delete_iff {server last : Server} {history : List ServedCall}
    {connection : Connection} {instanceID : String} {key : RawText}
    {reply : Except StoreFault Unit} (reflects : server.Reflects history)
    (lacks : server.Lacks (connection.formulas instanceID) key) :
    Plays (connection.deleteFormula instanceID key) server reply last ↔
      reply = .error .formulaNotFound ∧ last = server :=
  Connection.plays_deleteFormula.trans (reflects.selects_none lacks)

section History

variable (server : Server) (history : List ServedCall) (collection : Collection) (key : String)

/-- The documents under a key. -/
def Server.documentsUnder : List Document := (server collection).filter (Document.isUnder key)

/-- The documents under a key are what the history says of the formula. -/
structure Server.TellsFormula : Prop where
  /-- There is at most one. -/
  atMostOne : (server.documentsUnder collection key).length ≤ 1
  /-- There is none exactly if the formula was not saved, or was deleted since. -/
  absent : server.documentsUnder collection key = [] ↔ firstSave? collection key history = none
  /-- It was created by the first save since a delete, holds what the latest save put into it, and
  tells of its validity what the latest save or successful mark found. -/
  records : ∀ document ∈ server.documentsUnder collection key, ∃ first latest check,
    firstSave? collection key history = some first ∧
    latestSave? collection key history = some latest ∧
    latestCheck? collection key history = some check ∧
    Document.Records document first.2 latest check
  /-- The first save is the call that inserted it: there was no document before, and no delete
  since. -/
  inserted : ∀ first, firstSave? collection key history = some first →
    ∃ later inserting earlier before, history = later ++ inserting :: earlier ∧
      inserting.saved? collection key = some first ∧ Served earlier before ∧
      before.documentsUnder collection key = [] ∧
      ∀ call ∈ later, call.deletes collection key = false
  /-- It stays the first save, whatever is called, until the formula is deleted. -/
  lasts : ∀ first, firstSave? collection key history = some first →
    ∀ later, (∀ call ∈ later, call.deletes collection key = false) →
      firstSave? collection key (later ++ history) = some first

/-- Calls that need a document do without one: they say so and change nothing. -/
structure Server.RefusesAbsent (connection : Connection) (instanceID : String) : Prop where
  /-- A mark of a key that is not there. -/
  mark : ∀ (key : String) (check : CheckResult) (now : Instant) reply last,
    server.Lacks (connection.formulas instanceID) key →
    (Plays (connection.markFormula now instanceID key check) server reply last ↔
      reply = .error .formulaNotFound ∧ last = server)
  /-- A delete of a key that is not there. -/
  delete : ∀ (key : RawText) reply last, server.Lacks (connection.formulas instanceID) key →
    (Plays (connection.deleteFormula instanceID key) server reply last ↔
      reply = .error .formulaNotFound ∧ last = server)

/-- A collection is what the history says. -/
structure Server.TellsHistory : Prop where
  /-- Every document is under a key. -/
  keyed : ∀ document ∈ server collection, Document.Keyed document
  /-- The document under each key is what the history says of the formula. -/
  formula : ∀ key, server.TellsFormula history collection key
  /-- Every client whose formulas these are finds nothing where there is no document. -/
  refusesAbsent : ∀ (connection : Connection) (instanceID : String),
    connection.formulas instanceID = collection → server.RefusesAbsent connection instanceID

end History

/-- What is tracked under a key is what the history says of the formula. -/
theorem Served.tellsFormula {history : List ServedCall} {server : Server}
    (served : Served history server) (collection : Collection) (key : String) :
    server.TellsFormula history collection key where
  atMostOne := by
    cases served.reflects.tracks collection key with
    | absent empty => simp [Server.documentsUnder, empty]
    | present only => simp [Server.documentsUnder, only]
  absent := by
    cases served.reflects.tracks collection key with
    | absent empty unsaved => simp [Server.documentsUnder, empty, unsaved]
    | present only created => simp [Server.documentsUnder, only, created]
  records := by
    intro document member
    rw [Server.documentsUnder] at member
    cases served.reflects.tracks collection key with
    | absent empty =>
      rw [empty] at member
      cases member
    | present only created saved checked records =>
      rw [only] at member
      obtain rfl := List.mem_singleton.mp member
      exact ⟨_, _, _, created, saved, checked, records⟩
  inserted := by
    intro first created
    obtain ⟨later, inserting, earlier, rfl, saved, unsaved, kept⟩ :=
      exists_of_firstSave?_eq_some created
    obtain ⟨server', latest⟩ := served.of_append
    cases latest with
    | call _ before _ _ =>
      refine ⟨later, inserting, earlier, _, rfl, saved, before, ?_, kept⟩
      cases before.reflects.tracks collection key with
      | absent empty => exact empty
      | present _ created => cases created.symm.trans unsaved
  lasts := fun _ created _ kept => firstSave?_append kept created

/-- Clients save, mark and delete formulas in any order, from no documents at all. There is at
most one document under each key, and there is one exactly if the formula was saved and not
deleted since. It was created by the save that found none, and stays so until a delete; what was
saved in it is that of the latest save; and what it tells about validity is that of the latest
save or successful mark. A mark or a delete where there is no document says so and changes
nothing, so no audit brings a deleted formula back. -/
theorem documents_tell_history {history : List ServedCall} {server : Server}
    (served : Served history server) (collection : Collection) :
    server.TellsHistory history collection where
  keyed := served.reflects.keyed collection
  formula := served.tellsFormula collection
  refusesAbsent := by
    rintro connection instanceID rfl
    exact
      { mark := fun _ _ _ _ _ lacks => served.reflects.plays_mark_iff lacks
        delete := fun _ _ _ lacks => served.reflects.plays_delete_iff lacks }

/-- The formula `hot` of `blog`, saved twice and then found invalid, was created by the first
save, holds what the second one saved, and tells the mark. -/
theorem hot_tells_two_saves_and_mark :
    let connection : Connection := ⟨"", false⟩
    let formula : StoredFormula := { StoredFormula.blank with key := "hot", expression := "likes" }
    let changed : StoredFormula := { formula with expression := "views" }
    ∃ first second server,
      Served [⟨connection, ⟨3⟩, .mark "blog" "hot" ⟨false, "views"⟩, .ok ()⟩,
        ⟨connection, ⟨2⟩, .save "blog" changed, second⟩,
        ⟨connection, ⟨1⟩, .save "blog" formula, first⟩] server ∧
      ∃ document ∈ server (connection.formulas "blog"),
        getField? "createdAt" document = some (.date ⟨1⟩) ∧
        getField? "expression" document = some (.string "views") ∧
        getField? "updatedAt" document = some (.date ⟨2⟩) ∧
        getField? "lastError" document = some (.string "views") ∧
        getField? "checkedAt" document = some (.date ⟨3⟩) := by
  intro connection formula changed
  obtain ⟨first, inserted, plays⟩ :=
    connection.exists_plays_saveFormula ⟨1⟩ "blog" formula fun _ => []
  have savedOnce : Served [⟨connection, ⟨1⟩, .save "blog" formula, first⟩] inserted :=
    .call _ .start (fun read => read) plays
  obtain ⟨second, updated, plays⟩ := connection.exists_plays_saveFormula ⟨2⟩ "blog" changed inserted
  have savedTwice := Served.call ⟨connection, ⟨2⟩, .save "blog" changed, second⟩ savedOnce
    (fun read => read) plays
  -- The mark finds the document that the saves have left.
  obtain ⟨document, member, named⟩ :=
    (savedTwice.reflects.tracks (connection.formulas "blog") "hot").exists_of_saved rfl
  have satisfies : Document.Satisfies document (keyFilter "hot") :=
    Document.Keyed.satisfies_keyFilter ⟨_, named⟩ |>.mpr named
  obtain ⟨front, back, held⟩ := List.append_of_mem member
  have marked := Served.call ⟨connection, ⟨3⟩, .mark "blog" "hot" ⟨false, "views"⟩, .ok ()⟩
    savedTwice (fun read => read)
    (Connection.plays_markFormula.mpr (.inl ⟨front, document, back, held, satisfies, rfl, rfl⟩))
  obtain ⟨found, listed, key⟩ :=
    (marked.reflects.tracks (connection.formulas "blog") "hot").exists_of_saved rfl
  have told := documents_tell_history marked (connection.formulas "blog")
  obtain ⟨_, _, _, created, saved, checked, records⟩ := (told.formula "hot").records found
    (List.mem_filter.mpr ⟨listed, Document.isUnder_iff.mpr key⟩)
  obtain rfl : (formula, (⟨1⟩ : Instant)) = _ := Option.some.inj created
  obtain rfl : (changed, (⟨2⟩ : Instant)) = _ := Option.some.inj saved
  obtain rfl : ((⟨false, "views"⟩ : CheckResult), (⟨3⟩ : Instant)) = _ := Option.some.inj checked
  exact ⟨first, second, _, marked, found, listed, records.createdAt, records.expression,
    records.updatedAt, records.lastError, records.checkedAt⟩

end RankFormula
