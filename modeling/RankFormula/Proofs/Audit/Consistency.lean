import RankFormula.Proofs.Audit.Interleaving

/-!
# What an audit leaves behind

An audit decides on the formulas it read and marks by key. `Marking` is the invariant of its
run beside requests: a formula the audit has still to mark was either saved since the read,
and is then valid, or still has the text that was read; of every other formula the mark is
right unless it was overtaken. At the end no formula is left to mark, and so the marks are
right exactly for the formulas that no stale mark has overtaken.
-/

namespace RankFormula

/-- The mark of a formula is right unless it was overtaken, and only formulas that compile
are overtaken. -/
structure Settled (whitelist : Whitelist) (instanceID : String) (history : List StoreEvent)
    (f : StoredFormula) : Prop where
  /-- When the formula is marked as valid. -/
  valid_iff : f.valid = true ↔
    Compiles whitelist f.expression ∧ ¬Overtaken instanceID f.key history
  /-- What is overtaken compiles. -/
  compiles : Overtaken instanceID f.key history → Compiles whitelist f.expression

/-- A formula that the audit will mark: saved since the read, or still with the text of the
formula that was read. -/
structure Awaits (whitelist : Whitelist) (instanceID : String) (history : List StoreEvent)
    (snapshot f : StoredFormula) : Prop where
  /-- What was saved compiles. -/
  saved : SavedSinceRead instanceID f.key history →
    f.valid = true ∧ Compiles whitelist f.expression
  /-- What was not saved has its text. -/
  unsaved : ¬SavedSinceRead instanceID f.key history → f.expression = snapshot.expression

/-- A store while an audit of an instance has some of the formulas it read still to mark. -/
structure Marking (whitelist : Whitelist) (instanceID : String) (history : List StoreEvent)
    (store : MemoryStore) (pending : List StoredFormula) : Prop where
  /-- The formulas of the instance are in order. -/
  increasing : KeysIncreasing (store.formulasOf instanceID)
  /-- So are those to mark. -/
  pendingIncreasing : KeysIncreasing pending
  /-- They were read. -/
  read : StoreEvent.read instanceID ∈ history
  /-- They were not marked yet. -/
  unmarked : ∀ p ∈ pending, ¬Overtaken instanceID p.key history
  /-- Stored formulas that the audit will mark. -/
  awaits : ∀ f ∈ store.formulasOf instanceID, ∀ p ∈ pending, p.key = f.key →
    Awaits whitelist instanceID history p f
  /-- Stored formulas that it will not mark. -/
  settled : ∀ f ∈ store.formulasOf instanceID, (∀ p ∈ pending, p.key ≠ f.key) →
    Settled whitelist instanceID history f

section Formulas

variable {whitelist : Whitelist} {instanceID : String} {event : StoreEvent}
  {history : List StoreEvent} {p f : StoredFormula}

/-- What is neither saved nor rejected stays settled. -/
theorem Settled.later (settled : Settled whitelist instanceID history f)
    (unsaved : ¬event.Saves instanceID f.key) (unmarked : ¬event.Rejects instanceID f.key) :
    Settled whitelist instanceID (event :: history) f where
  valid_iff := by
    rw [overtaken_cons unsaved unmarked]
    exact settled.valid_iff
  compiles := by
    rw [overtaken_cons unsaved unmarked]
    exact settled.compiles

/-- What is not saved goes on to await its mark. -/
theorem Awaits.later (awaits : Awaits whitelist instanceID history p f)
    (unsaved : ¬event.Saves instanceID f.key) :
    Awaits whitelist instanceID (event :: history) p f where
  saved := by
    rw [savedSinceRead_cons unsaved]
    exact awaits.saved
  unsaved := by
    rw [savedSinceRead_cons unsaved]
    exact awaits.unsaved

/-- A request rejects nothing. -/
theorem not_rejects_request {call : StoreCall} {key : String} :
    ¬(StoreEvent.request call).Rejects instanceID key := id

/-- A save is never overtaken at once. -/
theorem not_overtaken_of_saves {call : StoreCall} {key : String}
    (saves : (StoreEvent.request call).Saves instanceID key) :
    ¬Overtaken instanceID key (.request call :: history) := by
  rintro (⟨rejects, _⟩ | ⟨unsaved, _⟩)
  · exact not_rejects_request rejects
  · exact unsaved saves

end Formulas

section Requests

variable {api : Api} {instanceID : String} {store : MemoryStore} {call : StoreCall}

/-- After the call of a request, a formula of an instance was there and is not the one that
was saved, or it was saved and compiles. -/
theorem MemoryStore.of_mem_formulasOf_editing {f : StoredFormula}
    (increasing : KeysIncreasing (store.formulasOf instanceID)) (editing : api.Editing call)
    (member : f ∈ (store.answer call).2.formulasOf instanceID) :
    f ∈ store.formulasOf instanceID ∧ ¬(StoreEvent.request call).Saves instanceID f.key ∨
      (StoreEvent.request call).Saves instanceID f.key ∧ f.valid = true ∧
        Compiles api.whitelist f.expression := by
  by_cases concerned : instanceID = call.instanceID
  · subst concerned
    cases call with
    | save i formula =>
      rw [StoreCall.instanceID, formulasOf_save] at member
      rcases increasing.of_mem_insertFormula member with rfl | ⟨inside, apart⟩
      · right
        rw [stamped_key, stamped_valid, stamped_expression]
        exact ⟨⟨rfl, rfl⟩, editing⟩
      · left
        refine ⟨inside, fun saves => apart ?_⟩
        rw [stamped_key]
        exact saves.2.symm
    | delete i key =>
      rw [StoreCall.instanceID, formulasOf_delete] at member
      exact .inl ⟨(List.mem_filter.mp member).1, id⟩
    | _ => exact editing.elim
  · left
    rw [formulasOf_answer_of_ne call concerned] at member
    refine ⟨member, fun saves => concerned ?_⟩
    cases call with
    | save i formula => exact saves.1.symm
    | _ => exact saves.elim

variable {history : List StoreEvent} {pending : List StoredFormula}

/-- The call of a request keeps the invariant. -/
theorem Marking.request (marking : Marking api.whitelist instanceID history store pending)
    (editing : api.Editing call) :
    Marking api.whitelist instanceID (.request call :: history) (store.answer call).2 pending where
  increasing := store.keysIncreasing_answer marking.increasing call
  pendingIncreasing := marking.pendingIncreasing
  read := List.mem_cons_of_mem _ marking.read
  unmarked := by
    rintro p member (⟨rejects, _⟩ | ⟨_, overtaken⟩)
    · exact not_rejects_request rejects
    · exact marking.unmarked p member overtaken
  awaits := by
    intro f member p waiting same
    rcases MemoryStore.of_mem_formulasOf_editing marking.increasing editing member with
      ⟨inside, unsaved⟩ | ⟨saves, sound⟩
    · exact (marking.awaits f inside p waiting same).later unsaved
    · exact ⟨fun _ => sound, fun unsaved => absurd (.inl ⟨saves, marking.read⟩) unsaved⟩
  settled := by
    intro f member apart
    rcases MemoryStore.of_mem_formulasOf_editing marking.increasing editing member with
      ⟨inside, unsaved⟩ | ⟨saves, valid, compiles⟩
    · exact (marking.settled f inside apart).later unsaved not_rejects_request
    · have current : ¬Overtaken instanceID f.key (.request call :: history) :=
        not_overtaken_of_saves saves
      exact ⟨⟨fun _ => ⟨compiles, current⟩, fun _ => valid⟩, fun _ => compiles⟩

end Requests

section Marks

variable {whitelist : Whitelist} {instanceID : String} {history : List StoreEvent}
  {store : MemoryStore} {p : StoredFormula} {pending : List StoredFormula}

/-- Reading the formulas establishes the invariant, with all of them to mark. -/
theorem Marking.of_read (increasing : KeysIncreasing (store.formulasOf instanceID))
    (unread : StoreEvent.read instanceID ∉ history) :
    Marking whitelist instanceID (.read instanceID :: history) store
      (store.formulasOf instanceID) := by
  have unsaved : ∀ key, ¬SavedSinceRead instanceID key (.read instanceID :: history) := by
    intro key saved
    rw [savedSinceRead_cons (by exact id)] at saved
    exact unread saved.read_mem
  refine ⟨increasing, increasing, List.mem_cons_self, ?_, ?_, ?_⟩
  · intro f _ overtaken
    exact unsaved f.key overtaken.savedSinceRead
  · intro f member snapshot waiting same
    obtain rfl := increasing.eq_of_key_eq waiting member same
    exact ⟨fun saved => absurd saved (unsaved _), fun _ => rfl⟩
  · intro f member apart
    exact absurd rfl (apart f member)

/-- A formula that awaited its mark is settled by it. -/
theorem Awaits.marked {f : StoredFormula} (awaits : Awaits whitelist instanceID history p f)
    (unmarked : ¬Overtaken instanceID p.key history) (same : f.key = p.key) :
    Settled whitelist instanceID (.audit (.recheck whitelist instanceID p) :: history)
      (store.marked p.key (checkStored whitelist p.expression) f) := by
  have overtaken : Overtaken instanceID f.key
      (.audit (.recheck whitelist instanceID p) :: history) ↔
        (checkStored whitelist p.expression).valid = false ∧
          SavedSinceRead instanceID f.key history := by
    rw [same]
    constructor
    · rintro (⟨⟨_, _, rejected⟩, saved⟩ | ⟨_, earlier⟩)
      · exact ⟨rejected, saved⟩
      · exact absurd earlier unmarked
    · rintro ⟨rejected, saved⟩
      exact .inl ⟨⟨rfl, rfl, rejected⟩, saved⟩
  constructor
  · rw [MemoryStore.marked_valid same, MemoryStore.marked_expression, MemoryStore.marked_key,
      overtaken]
    -- The check speaks of the stored text only where there was no save; where there was one,
    -- the stored text compiles and the mark is wrong exactly if the check rejected.
    by_cases saved : SavedSinceRead instanceID f.key history
    · simp [saved, (awaits.saved saved).2]
    · rw [awaits.unsaved saved, checkStored_valid]
      simp [saved]
  · rw [MemoryStore.marked_expression, MemoryStore.marked_key, overtaken]
    rintro ⟨_, saved⟩
    exact (awaits.saved saved).2

/-- A mark rejects nothing under another key. -/
theorem not_rejects_recheck {key : String} (apart : key ≠ p.key) :
    ¬(StoreEvent.audit (.recheck whitelist instanceID p)).Rejects instanceID key :=
  fun rejects => apart rejects.2.1.symm

/-- A mark keeps the invariant, with one formula less to mark. -/
theorem Marking.mark (marking : Marking whitelist instanceID history store (p :: pending)) :
    Marking whitelist instanceID (.audit (.recheck whitelist instanceID p) :: history)
      (store.answer (.recheck whitelist instanceID p)).2 pending := by
  obtain ⟨above, rest⟩ := List.pairwise_cons.mp marking.pendingIncreasing
  have apart : ∀ q ∈ pending, q.key ≠ p.key :=
    fun q waiting => (String.ne_of_lt (above q waiting)).symm
  refine ⟨store.keysIncreasing_answer marking.increasing _, rest,
    List.mem_cons_of_mem _ marking.read, ?_, ?_, ?_⟩
  · rintro q waiting (⟨rejects, _⟩ | ⟨_, overtaken⟩)
    · exact not_rejects_recheck (apart q waiting) rejects
    · exact marking.unmarked q (List.mem_cons_of_mem _ waiting) overtaken
  · intro f member q waiting same
    rcases MemoryStore.of_mem_formulasOf_mark member with ⟨g, _, marked, rfl⟩ | ⟨inside, _⟩
    · rw [MemoryStore.marked_key, marked] at same
      exact absurd same (apart q waiting)
    · exact (marking.awaits f inside q (List.mem_cons_of_mem _ waiting) same).later id
  · intro f member unlisted
    rcases MemoryStore.of_mem_formulasOf_mark member with
      ⟨g, inside, marked, rfl⟩ | ⟨inside, other⟩
    · exact (marking.awaits g inside p List.mem_cons_self marked.symm).marked
        (marking.unmarked p List.mem_cons_self) marked
    · refine (marking.settled f inside ?_).later id (not_rejects_recheck other)
      rw [List.forall_mem_cons]
      exact ⟨other.symm, unlisted⟩

end Marks

section Run

variable {api : Api} {rules : AuditRules} {instanceID : String} {history : List StoreEvent}
  {state after : AuditedStore}

/-- An audit of an instance beside requests: it has not read the formulas yet, or it has
some of them still to mark. -/
def Auditing (rules : AuditRules) (instanceID : String) (history : List StoreEvent)
    (state : AuditedStore) : Prop :=
  (∃ report, state.audit = rules.auditInstance report instanceID) ∧
      StoreEvent.read instanceID ∉ history ∧ KeysIncreasing (state.store.formulasOf instanceID) ∨
    ∃ report pending, state.audit = rules.auditFormulas instanceID report pending ∧
      Marking rules.whitelist instanceID history state.store pending

/-- Every call of the audit keeps the invariant. -/
theorem Auditing.goesOn (due : rules.recheckAfter ≤ 0)
    (auditing : Auditing rules instanceID history state) {call : StoreCall}
    {next : Except StoreFault call.Answer → Session AuditReport}
    (asks : state.audit = .ask call next) :
    Auditing rules instanceID (.audit call :: history)
      ⟨(state.store.answer call).2, next (state.store.answer call).1⟩ := by
  right
  rcases auditing with ⟨⟨report, first⟩, unread, increasing⟩ | ⟨report, pending, rest, marking⟩
  · obtain ⟨goesOn, shape, audits⟩ := rules.auditInstance_eq_ask instanceID report
    rw [first, shape] at asks
    cases asks
    obtain ⟨noted, continues⟩ := audits (state.store.formulasOf instanceID)
    rw [MemoryStore.answer_formulas]
    exact ⟨noted, _, continues, .of_read increasing unread⟩
  · cases pending with
    | nil =>
      rw [rest, AuditRules.auditFormulas_nil] at asks
      cases asks
    | cons p pending =>
      obtain ⟨goesOn, shape, audits⟩ := AuditRules.auditFormulas_cons due report p pending
      rw [rest, shape] at asks
      cases asks
      obtain ⟨counted, continues⟩ :=
        audits (state.store.answer (.recheck rules.whitelist instanceID p)).1
      exact ⟨counted, pending, continues, marking.mark⟩

/-- Every call of a request keeps the invariant. -/
theorem Auditing.request (agreed : rules.whitelist = api.whitelist)
    (auditing : Auditing rules instanceID history state) {call : StoreCall}
    (editing : api.Editing call) :
    Auditing rules instanceID (.request call :: history)
      ⟨(state.store.answer call).2, state.audit⟩ := by
  rcases auditing with ⟨first, unread, increasing⟩ | ⟨report, pending, rest, marking⟩
  · left
    refine ⟨first, ?_, state.store.keysIncreasing_answer increasing call⟩
    intro read
    rcases List.mem_cons.mp read with same | earlier
    · cases same
    · exact unread earlier
  · right
    rw [agreed] at marking ⊢
    exact ⟨report, pending, rest, marking.request editing⟩

/-- The invariant holds along every run. -/
theorem Auditing.run (agreed : rules.whitelist = api.whitelist) (due : rules.recheckAfter ≤ 0)
    (auditing : Auditing rules instanceID [] state)
    (run : AuditedStore.Runs api state history after) :
    Auditing rules instanceID history after := by
  induction run with
  | start => exact auditing
  | step before latest ih =>
    obtain ⟨call, next, asks, rfl, rfl⟩ | ⟨call, editing, rfl, rfl⟩ := latest.inversion
    · exact ih.goesOn due asks
    · exact ih.request agreed editing

/-- When the audit is over every formula is settled. -/
theorem Auditing.settled (due : rules.recheckAfter ≤ 0)
    (auditing : Auditing rules instanceID history state) {report : AuditReport}
    (ended : state.audit = .done report) :
    ∀ f ∈ state.store.formulasOf instanceID, Settled rules.whitelist instanceID history f := by
  rcases auditing with ⟨⟨noted, first⟩, _⟩ | ⟨counted, pending, rest, marking⟩
  · obtain ⟨next, shape, _⟩ := rules.auditInstance_eq_ask instanceID noted
    rw [first, shape] at ended
    cases ended
  · cases pending with
    | nil =>
      intro f member
      exact marking.settled f member fun p waiting => absurd waiting List.not_mem_nil
    | cons p pending =>
      obtain ⟨next, shape, _⟩ := AuditRules.auditFormulas_cons due counted p pending
      rw [rest, shape] at ended
      cases ended

end Run

/-- A request can be served between the read of a formula and its mark. -/
theorem AuditedStore.runs_between {api : Api} {rules : AuditRules} {instanceID : String}
    {store : MemoryStore} {p : StoredFormula} {session : Session Response} {call : StoreCall}
    (due : rules.recheckAfter ≤ 0) (report : AuditReport)
    (held : store.formulasOf instanceID = [p]) (edits : api.Edits session)
    (asked : (session.run MemoryStore.answer store).asked = [call])
    (succeeded : (session.run MemoryStore.answer store).result.status = 200) :
    ∃ result, Runs api ⟨store, rules.auditInstance report instanceID⟩
      [.audit (.recheck rules.whitelist instanceID p), .request call, .read instanceID]
      ⟨((store.answer call).2.answer (.recheck rules.whitelist instanceID p)).2,
        .done result⟩ := by
  obtain ⟨afterRead, reads, audits⟩ := rules.auditInstance_eq_ask instanceID report
  obtain ⟨noted, continues⟩ := audits [p]
  obtain ⟨afterMark, marks, ends⟩ := AuditRules.auditFormulas_cons due noted p []
  obtain ⟨result, ended⟩ :=
    ends ((store.answer call).2.answer (.recheck rules.whitelist instanceID p)).1
  have read : Step api ⟨store, rules.auditInstance report instanceID⟩ (.read instanceID)
      ⟨store, rules.auditFormulas instanceID noted [p]⟩ := by
    refine .of_ask reads ?_ continues
    rw [MemoryStore.answer_formulas, held]
  have served : Step api ⟨store, rules.auditFormulas instanceID noted [p]⟩ (.request call)
      ⟨(store.answer call).2, rules.auditFormulas instanceID noted [p]⟩ := by
    rw [← (edits.asked asked).1]
    exact .request edits asked succeeded
  exact ⟨result, (((Runs.start _).step read).step served).step (.of_ask marks rfl ended)⟩

/-- A save can be overtaken: an audit reads a formula that does not compile, the formula is
saved anew with a text that does, and then the audit marks it by what it had read. -/
theorem AuditedStore.runs_overtaking (api : Api) (rules : AuditRules) (store : MemoryStore)
    (claims : Claims) (report : AuditReport) (instanceID : String) {body : String}
    {p : StoredFormula} {request : SaveRequest} (due : rules.recheckAfter ≤ 0)
    (held : store.formulasOf instanceID = [p])
    (rejected : (checkStored rules.whitelist p.expression).valid = false)
    (readable : SaveRequest.read? body = some request) (proper : isKey request.key = true)
    (compiles : Compiles api.whitelist request.expression) (same : request.key = p.key) :
    ∃ history final result,
      Runs api ⟨store, rules.auditInstance report instanceID⟩ history ⟨final, .done result⟩ ∧
        Overtaken instanceID p.key history ∧
        ∃ f ∈ final.formulasOf instanceID, f.key = p.key ∧ f.expression = request.expression := by
  obtain ⟨formula, compiled⟩ := compiles
  have played := Api.saveFormula_run claims instanceID store readable proper compiled
  obtain ⟨result, run⟩ := runs_between due report held (.save claims instanceID body)
    (congrArg Played.asked played) (congrArg (·.result.status) played)
  refine ⟨_, _, result, run, .inl ⟨⟨rfl, rfl, rejected⟩, .inl ⟨⟨rfl, same⟩, ?_⟩⟩, ?_⟩
  · exact List.mem_cons_self
  · rw [MemoryStore.formulasOf_mark, MemoryStore.formulasOf_save]
    refine ⟨_, List.mem_map_of_mem (mem_insertFormula_self _ _), ?_, ?_⟩
    · rw [MemoryStore.marked_key, MemoryStore.stamped_key]
      exact same
    · rw [MemoryStore.marked_expression, MemoryStore.stamped_expression]
      rfl

/-- Let an audit for which every check is due run beside requests that save and delete, in
any order, under one whitelist and from any store that keeps its formulas in order, as every
call does. When it is over, a formula marked as valid compiles, and the mark of a formula is
right exactly if it was not overtaken: saved after the audit had read the formulas, marked as
invalid after that, and not saved since. -/
theorem audit_mark_right_iff {api : Api} {rules : AuditRules} {instanceID : String}
    {store final : MemoryStore} {report result : AuditReport} {history : List StoreEvent}
    (agreed : rules.whitelist = api.whitelist) (due : rules.recheckAfter ≤ 0)
    (increasing : KeysIncreasing (store.formulasOf instanceID))
    (run : AuditedStore.Runs api ⟨store, rules.auditInstance report instanceID⟩ history
      ⟨final, .done result⟩) :
    ∀ f ∈ final.formulasOf instanceID,
      (f.valid = true → Compiles api.whitelist f.expression) ∧
        ((f.valid = true ↔ Compiles api.whitelist f.expression) ↔
          ¬Overtaken instanceID f.key history) := by
  -- The invariant of the run holds at its start, where nothing was read yet.
  have auditing : Auditing rules instanceID history ⟨final, .done result⟩ :=
    .run agreed due (.inl ⟨⟨report, rfl⟩, List.not_mem_nil, increasing⟩) run
  intro f member
  obtain ⟨valid_iff, compiles⟩ := auditing.settled due rfl f member
  rw [agreed] at valid_iff compiles
  refine ⟨fun valid => (valid_iff.mp valid).1, ?_⟩
  rw [valid_iff]
  constructor
  · intro right overtaken
    exact (right.mpr (compiles overtaken)).2 overtaken
  · intro current
    exact and_iff_left current

/-- An audit under the whitelist of `likes` reads a formula of `views`, which is saved anew as
one of `likes` before the audit marks it: it is left as invalid although it compiles. -/
theorem audit_mark_right_iff_hot :
    ∃ history final result,
      AuditedStore.Runs ⟨⟨"", [], []⟩, ⟨["likes"]⟩, [], ""⟩
          ⟨⟨[("blog", [⟨zeroId, "hot", "views", "", none, true, "", "", .zero, .zero, .zero⟩])],
            none, 0, 1, .zero⟩, AuditRules.auditInstance ⟨⟨["likes"]⟩, .zero, 0⟩ .blank "blog"⟩
          history ⟨final, .done result⟩ ∧
        ∃ f ∈ final.formulasOf "blog", f.valid = false ∧ Compiles ⟨["likes"]⟩ f.expression := by
  have saved : (SaveRequest.read? "\x7b\"key\": \"hot\", \"expression\": \"likes\"\x7d").map
      (fun request => (request.key, request.expression)) = some ("hot", "likes") := by
    decide +kernel
  obtain ⟨request, readable, texts⟩ := Option.map_eq_some_iff.mp saved
  obtain ⟨key, text⟩ := Prod.mk.inj texts
  have compiles : Compiles ⟨["likes"]⟩ request.expression := by
    rw [text, ← checkStored_valid]
    decide +kernel
  obtain ⟨history, final, result, run, overtaken, f, member, same, expression⟩ :=
    AuditedStore.runs_overtaking ⟨⟨"", [], []⟩, ⟨["likes"]⟩, [], ""⟩ ⟨⟨["likes"]⟩, .zero, 0⟩
      ⟨[("blog", [⟨zeroId, "hot", "views", "", none, true, "", "", .zero, .zero, .zero⟩])],
        none, 0, 1, .zero⟩ ⟨"blog", false, "", "editor", none, none⟩ .blank "blog" (by decide) rfl
      (by decide +kernel) readable (by rw [key]; decide +kernel) compiles key
  refine ⟨history, final, result, run, f, member, ?_, ?_⟩
  · obtain ⟨_, right⟩ := audit_mark_right_iff rfl (by decide)
      (by exact List.pairwise_singleton _ _) run f member
    rw [same] at right
    refine Bool.eq_false_iff.mpr fun valid => ?_
    refine right.mp (iff_of_true valid ?_) overtaken
    rw [expression]
    exact compiles
  · rw [expression]
    exact compiles

end RankFormula
