import RankFormula.Proofs.Audit.Interleaving
import RankFormula.Proofs.Dialogue
import RankFormula.Proofs.Store.Table

/-!
# What an audit counts and marks

The calls of an audit and their answers decide what its counts have to be. `AuditRules.tally`
reads the counts off the formulas that were listed and the marks that were refused, and
`AuditRules.round` reads off the answer to a listing which marks have to follow it. Both are
additive, so one step lemma for a formula, one run lemma for a list and one for an instance
put together what holds of a whole audit, for every store and every pattern of its failures:
`audit_accounts_for_listed_formulas`.
-/

namespace RankFormula

section Words

/-- A text that is no expression is refused in words. -/
theorem ParseFault.message_ne_empty (fault : ParseFault) : fault.message ≠ "" := by
  unfold message
  intro silent
  split at silent
  · rw [String.append_assoc, String.append_eq_empty_iff] at silent
    exact absurd silent.1 (by decide)
  · rw [String.append_assoc, String.append_assoc, String.append_eq_empty_iff] at silent
    exact absurd silent.1 (by decide)

/-- A text that makes no formula is refused in words. -/
theorem FormulaError.message_ne_empty (error : FormulaError) : error.message ≠ "" := by
  cases error with
  | unreadable fault => exact fault.message_ne_empty
  | invalid fault =>
    intro silent
    have opening := (String.append_eq_empty_iff.mp silent).1
    exact absurd opening (by decide)

variable {whitelist : Whitelist} {text : String}

/-- A check of a text that makes a formula finds nothing wrong. -/
theorem checkStored_of_ok {formula : Formula} (made : Formula.ofText whitelist text = .ok formula) :
    checkStored whitelist text = ⟨true, ""⟩ := by
  unfold checkStored
  rw [made]

/-- A check of a text that makes no formula finds the words of the error. -/
theorem checkStored_of_error {error : FormulaError}
    (refused : Formula.ofText whitelist text = .error error) :
    checkStored whitelist text = ⟨false, error.message⟩ := by
  unfold checkStored
  rw [refused]

end Words

/-- The call records what a check found. -/
def StoreCall.isMark : StoreCall → Bool
  | .mark _ _ _ => true
  | _ => false

namespace AnsweredCall

/-- The formulas that the answer lists, each with its instance. -/
def listed : AnsweredCall → List (String × StoredFormula)
  | ⟨.formulas instanceID _, .ok formulas⟩ => List.map (instanceID, ·) formulas
  | _ => []

/-- A mark that the store refused. -/
def isRefusedMark : AnsweredCall → Bool
  | ⟨.mark _ _ _, .error _⟩ => true
  | _ => false

/-- A mark lists nothing. -/
theorem listed_of_isMark {exchange : AnsweredCall} (mark : exchange.1.isMark = true) :
    exchange.listed = [] := by
  obtain ⟨call, reply⟩ := exchange
  cases call with
  | mark instanceID key check => rfl
  | _ => cases mark

end AnsweredCall

instance : Add AuditCounts where
  add a b :=
    ⟨a.checked + b.checked, a.skipped + b.skipped, a.invalidated + b.invalidated,
      a.restored + b.restored, a.failed + b.failed⟩

namespace AuditCounts

theorem add_def (a b : AuditCounts) :
    a + b = ⟨a.checked + b.checked, a.skipped + b.skipped, a.invalidated + b.invalidated,
      a.restored + b.restored, a.failed + b.failed⟩ := rfl

theorem zero_add (a : AuditCounts) : zero + a = a := by simp [add_def, zero]

theorem add_assoc (a b c : AuditCounts) : a + b + c = a + (b + c) := by
  simp [add_def, Nat.add_assoc]

end AuditCounts

namespace AuditRules

/-- The check of a formula is due. -/
def isDue (rules : AuditRules) (entry : String × StoredFormula) : Bool :=
  needsRecheck entry.2.checkedAt.instant rules.start rules.recheckAfter

/-- The formula is stored as valid, and its check fails. -/
def isInvalidated (rules : AuditRules) (entry : String × StoredFormula) : Bool :=
  entry.2.valid && !(checkStored rules.whitelist entry.2.expression).valid

/-- The formula is stored as invalid, and its check succeeds. -/
def isRestored (rules : AuditRules) (entry : String × StoredFormula) : Bool :=
  !entry.2.valid && (checkStored rules.whitelist entry.2.expression).valid

/-- The marks that listed formulas call for: one for each whose check is due, in order. -/
def marks (rules : AuditRules) (entries : List (String × StoredFormula)) : List StoreCall :=
  (entries.filter rules.isDue).map fun entry => .recheck rules.whitelist entry.1 entry.2

/-- The calls that an exchange accounts for: a listing for itself and the marks of what it
lists, a mark for nothing. -/
def round (rules : AuditRules) (exchange : AnsweredCall) : List StoreCall :=
  if exchange.1.isMark then [] else exchange.1 :: rules.marks exchange.listed

/-- The counts that listed formulas call for if some of their marks are refused. -/
def tally (rules : AuditRules) (entries : List (String × StoredFormula)) (refused : Nat) :
    AuditCounts where
  checked := entries.countP rules.isDue
  skipped := entries.countP fun entry => !rules.isDue entry
  invalidated := (entries.filter rules.isDue).countP rules.isInvalidated
  restored := (entries.filter rules.isDue).countP rules.isRestored
  failed := refused

section Additive

variable (rules : AuditRules) (first second : List (String × StoredFormula))

theorem marks_append : rules.marks (first ++ second) = rules.marks first ++ rules.marks second := by
  simp [marks]

/-- Counts of two lists are counted together. -/
theorem tally_append (refused more : Nat) :
    rules.tally (first ++ second) (refused + more) =
      rules.tally first refused + rules.tally second more := by
  simp [tally, AuditCounts.add_def]

/-- Only marks are called for. -/
theorem isMark_of_mem_marks {call : StoreCall} (member : call ∈ rules.marks first) :
    call.isMark = true := by
  obtain ⟨entry, _, rfl⟩ := List.mem_map.mp member
  rfl

/-- The marks among the calls of listings are those that all listed formulas call for. -/
theorem filter_isMark_round (exchanges : List AnsweredCall) :
    (exchanges.flatMap rules.round).filter StoreCall.isMark =
      rules.marks (exchanges.flatMap AnsweredCall.listed) := by
  induction exchanges with
  | nil => rfl
  | cons exchange rest ih =>
    have here : (rules.round exchange).filter StoreCall.isMark = rules.marks exchange.listed := by
      unfold round
      by_cases mark : exchange.1.isMark = true
      · rw [if_pos mark, AnsweredCall.listed_of_isMark mark]
        rfl
      · rw [if_neg mark, List.filter_cons_of_neg mark]
        exact List.filter_eq_self.mpr fun call => rules.isMark_of_mem_marks _
    rw [List.flatMap_cons, List.filter_append, here, ih, List.flatMap_cons, marks_append]

end Additive

/-- What an audit of instances has to do: read every instance, in order; after each listing
make the marks it calls for, and no other call; and add to the counts what was listed and
refused. -/
structure Audited (rules : AuditRules) (instanceIDs : List String)
    (exchanges : List AnsweredCall) (before after : AuditCounts) : Prop where
  /-- Every instance is read, whatever failed before. -/
  reads : (exchanges.map Sigma.fst).filter (!·.isMark) = instanceIDs.map (.formulas · false)
  /-- Each listing is followed by its marks. -/
  calls : exchanges.map Sigma.fst = exchanges.flatMap rules.round
  /-- The counts add up. -/
  counts : after = before +
    rules.tally (exchanges.flatMap AnsweredCall.listed)
      (exchanges.countP AnsweredCall.isRefusedMark)

namespace Audited

variable {rules : AuditRules} {before middle after : AuditCounts}

/-- No instance takes no calls. -/
theorem nil (rules : AuditRules) (counts : AuditCounts) : rules.Audited [] [] counts counts where
  reads := rfl
  calls := rfl
  counts := rfl

/-- Audits of instances follow one another. -/
theorem append {first second : List String} {earlier later : List AnsweredCall}
    (done : rules.Audited first earlier before middle)
    (next : rules.Audited second later middle after) :
    rules.Audited (first ++ second) (earlier ++ later) before after where
  reads := by rw [List.map_append, List.filter_append, done.reads, next.reads, List.map_append]
  calls := by rw [List.map_append, List.flatMap_append, done.calls, next.calls]
  counts := by
    rw [List.flatMap_append, List.countP_append, tally_append, ← AuditCounts.add_assoc,
      ← done.counts]
    exact next.counts

/-- A listing, whether it comes or fails, is followed by the marks it calls for. -/
theorem listing {instanceID : String} {reply : Except StoreFault (List StoredFormula)}
    {later : List AnsweredCall}
    (marked : later.map Sigma.fst =
      rules.marks (AnsweredCall.listed ⟨.formulas instanceID false, reply⟩))
    (counted : after = before +
      rules.tally (AnsweredCall.listed ⟨.formulas instanceID false, reply⟩)
        (later.countP AnsweredCall.isRefusedMark)) :
    rules.Audited [instanceID] (⟨.formulas instanceID false, reply⟩ :: later) before after := by
  have marks (exchange : AnsweredCall) (member : exchange ∈ later) :
      exchange.1.isMark = true := by
    have called : exchange.1 ∈ later.map Sigma.fst := List.mem_map_of_mem member
    rw [marked] at called
    exact rules.isMark_of_mem_marks _ called
  have unlisted : later.flatMap AnsweredCall.listed = [] :=
    List.flatMap_eq_nil_iff.mpr fun exchange member =>
      AnsweredCall.listed_of_isMark (marks exchange member)
  have closed : later.flatMap rules.round = [] :=
    List.flatMap_eq_nil_iff.mpr fun exchange member => if_pos (marks exchange member)
  refine { reads := ?_, calls := ?_, counts := ?_ }
  · have unread : (later.map Sigma.fst).filter (!·.isMark) = [] := by
      rw [List.filter_eq_nil_iff, marked]
      intro call member
      simp [rules.isMark_of_mem_marks _ member]
    rw [List.map_cons, List.filter_cons_of_pos rfl, unread]
    rfl
  · rw [List.map_cons, List.flatMap_cons, closed, List.append_nil, marked]
    rfl
  · rw [List.flatMap_cons, unlisted, List.append_nil, List.countP_cons_of_neg Bool.false_ne_true]
    exact counted

end Audited

section Plays

variable (rules : AuditRules) (instanceID : String)

/-- A check that is due is counted, with what it changes. -/
theorem counts_check (report : AuditReport) {formula : StoredFormula}
    (due : rules.isDue (instanceID, formula) = true) :
    (report.check instanceID formula (checkStored rules.whitelist formula.expression)).counts =
      report.counts + rules.tally [(instanceID, formula)] 0 := by
  cases stored : formula.valid <;>
    cases found : (checkStored rules.whitelist formula.expression).valid <;>
    simp [AuditReport.check, AuditReport.note, tally, isInvalidated, isRestored,
      AuditCounts.add_def, due, stored, found]

/-- The audit of a formula marks it exactly if its check is due, and counts it. -/
theorem auditFormula_plays (report : AuditReport) (formula : StoredFormula) :
    (rules.auditFormula instanceID report formula).AllPlays fun exchanges after =>
      exchanges.map Sigma.fst = rules.marks [(instanceID, formula)] ∧
        after.counts = report.counts +
          rules.tally [(instanceID, formula)] (exchanges.countP AnsweredCall.isRefusedMark) := by
  unfold auditFormula
  by_cases due : rules.isDue (instanceID, formula) = true
  · have marked : rules.marks [(instanceID, formula)] =
        [.recheck rules.whitelist instanceID formula] := by
      simp [marks, due]
    have checked := rules.counts_check instanceID report due
    rw [if_pos (show needsRecheck _ _ _ = true from due), marked]
    intro reply
    cases reply with
    | ok done => exact ⟨rfl, checked⟩
    | error fault =>
      -- The check was counted before the mark was refused.
      have refused := congrArg (· + rules.tally [] 1) checked
      refine ⟨rfl, refused.trans ?_⟩
      dsimp only
      rw [AuditCounts.add_assoc, ← tally_append]
      rfl
  · rw [if_neg (show ¬needsRecheck _ _ _ = true from due)]
    refine ⟨by simp [marks, due], ?_⟩
    simp [AuditReport.skip, tally, AuditCounts.add_def, due]

/-- The audit of formulas makes the marks they call for, and no other call, and counts them
all, whichever marks are refused. -/
theorem auditFormulas_plays (report : AuditReport) (formulas : List StoredFormula) :
    (rules.auditFormulas instanceID report formulas).AllPlays fun exchanges after =>
      exchanges.map Sigma.fst = rules.marks (formulas.map (instanceID, ·)) ∧
        after.counts = report.counts + rules.tally (formulas.map (instanceID, ·))
          (exchanges.countP AnsweredCall.isRefusedMark) := by
  induction formulas generalizing report with
  | nil => exact ⟨rfl, rfl⟩
  | cons formula rest ih =>
    refine (rules.auditFormula_plays instanceID report formula).bind ?_
    rintro here audited ⟨marked, counted⟩
    refine (ih audited).imp ?_
    rintro later after ⟨laterMarked, laterCounted⟩
    constructor
    · rw [List.map_append, marked, laterMarked, ← marks_append]
      rfl
    · rw [laterCounted, counted, AuditCounts.add_assoc, ← tally_append, List.countP_append]
      rfl

/-- The audit of an instance reads its formulas, and if they come, marks and counts them. -/
theorem auditInstance_plays (report : AuditReport) :
    (rules.auditInstance report instanceID).AllPlays fun exchanges after =>
      rules.Audited [instanceID] exchanges report.counts after.counts := by
  intro reply
  cases reply with
  | error fault => exact Audited.listing rfl rfl
  | ok formulas =>
    refine (rules.auditFormulas_plays instanceID _ formulas).imp ?_
    rintro later after ⟨marked, counted⟩
    exact Audited.listing marked counted

/-- The audit of instances is the audits of each, whichever of them fail. -/
theorem auditInstances_plays (report : AuditReport) (instanceIDs : List String) :
    (rules.auditInstances report instanceIDs).AllPlays fun exchanges after =>
      rules.Audited instanceIDs exchanges report.counts after.counts := by
  induction instanceIDs generalizing report with
  | nil => exact Audited.nil rules report.counts
  | cons instanceID rest ih =>
    refine (rules.auditInstance_plays instanceID report).bind ?_
    intro here audited first
    exact (ih audited).imp fun later after second => first.append second

/-- A whole audit starts its counts at zero and ends with a record of them. -/
theorem audit_plays (instanceIDs : List String) :
    (rules.audit instanceIDs).AllPlays fun exchanges after =>
      rules.Audited instanceIDs exchanges .zero after.counts ∧
        after.log.getLast? = some (summary after.counts) := by
  refine (rules.auditInstances_plays _ instanceIDs).bind ?_
  intro exchanges report audited
  show rules.Audited instanceIDs (exchanges ++ []) .zero report.counts ∧ _
  rw [List.append_nil]
  exact ⟨audited, List.getLast?_concat⟩

end Plays
end AuditRules

/-- An audit accounts exactly for the formulas that the store lists, whatever the store answers
and whichever calls fail. It reads every instance, in order, and makes no call beside these
reads and its marks. It marks the listed formulas whose check is due, each once, in the order
of the lists and right after its list, with what the check of its text finds: nothing wrong if the
text makes a formula, and otherwise the words of the error, which are never empty. All listed
formulas are counted as checked or skipped, the refused marks as failed, and the checks that
change a formula's validity by the way they change it; the last record of the audit tells
these counts. -/
theorem audit_accounts_for_listed_formulas {σ : Type}
    (answer : σ → (call : StoreCall) → Except StoreFault call.Answer × σ) (state : σ)
    (rules : AuditRules) (instanceIDs : List String) :
    let played := (rules.audit instanceIDs).run answer state
    let exchanges := (rules.audit instanceIDs).exchanges answer state
    let listed := exchanges.flatMap AnsweredCall.listed
    let due := listed.filter rules.isDue
    let counts := played.result.counts
    played.asked.filter (!·.isMark) = instanceIDs.map (.formulas · false) ∧
    played.asked.filter (·.isMark) = due.map (fun (instanceID, formula) =>
      .mark instanceID formula.key (checkStored rules.whitelist formula.expression)) ∧
    played.asked = exchanges.flatMap rules.round ∧
    (∀ (text : String) formula, Formula.ofText rules.whitelist text = .ok formula →
      checkStored rules.whitelist text = ⟨true, ""⟩) ∧
    (∀ (text : String) error, Formula.ofText rules.whitelist text = .error error →
      checkStored rules.whitelist text = ⟨false, error.message⟩ ∧ error.message ≠ "") ∧
    counts.checked + counts.skipped = listed.length ∧
    counts.checked = due.length ∧
    counts.failed = exchanges.countP AnsweredCall.isRefusedMark ∧
    counts.invalidated = due.countP rules.isInvalidated ∧
    counts.restored = due.countP rules.isRestored ∧
    played.result.log.getLast? = some (AuditRules.summary counts) := by
  intro played exchanges listed due counts
  obtain ⟨audited, told⟩ := (rules.audit_plays instanceIDs).run answer state
  have asked : played.asked = exchanges.map Sigma.fst := Dialogue.run_asked_eq answer _ state
  have total : counts = rules.tally listed (exchanges.countP AnsweredCall.isRefusedMark) :=
    audited.counts.trans (AuditCounts.zero_add _)
  have halves : listed.length =
      listed.countP rules.isDue + listed.countP (fun entry => !rules.isDue entry) := by
    simpa using List.length_eq_countP_add_countP rules.isDue (l := listed)
  refine ⟨asked ▸ audited.reads, ?_, asked.trans audited.calls,
    fun text formula => checkStored_of_ok,
    fun text error refused => ⟨checkStored_of_error refused, error.message_ne_empty⟩,
    ?_, ?_, congrArg AuditCounts.failed total, congrArg AuditCounts.invalidated total,
    congrArg AuditCounts.restored total, told⟩
  · rw [asked, audited.calls]
    exact rules.filter_isMark_round exchanges
  · rw [total, halves]
    rfl
  · rw [total]
    exact List.countP_eq_length_filter

end RankFormula
