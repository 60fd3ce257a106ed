import Mathlib.Data.List.Chain
import Mathlib.Data.List.TakeWhile
import RankFormula.Config.Environment
import RankFormula.Proofs.Numeral.Digits

/-!
# Names of variables of the environment

The name of a variable is found by a replacement, which puts one underscore in place of each run
of other characters, and a trim of the underscores at the two ends. What is left are the maximal
runs of letters and digits, joined by single underscores. So a name keeps all of its runs, is its
own name, and two clients share the variable that holds their key exactly if their names have the
same runs in upper case (`environmentName_canonical`).
-/

namespace RankFormula

section Runs

variable {kept : Char → Bool} {mark : Char}

/-- The maximal runs of characters that are kept, in order. -/
def maximalRuns (kept : Char → Bool) : List Char → List (List Char)
  | [] => []
  | c :: cs =>
    if kept c then (c :: cs.takeWhile kept) :: maximalRuns kept (cs.dropWhile kept)
    else maximalRuns kept cs
termination_by cs => cs.length
decreasing_by
  · exact Nat.lt_succ_of_le (List.dropWhile_suffix _).length_le
  · exact Nat.lt_succ_self _

/-- Whether texts can be runs: they are not empty and hold only characters that are kept. -/
def AreRuns (kept : Char → Bool) (runs : List (List Char)) : Prop :=
  ∀ run ∈ runs, run ≠ [] ∧ ∀ c ∈ run, kept c = true

/-- A run that starts with a character that is kept holds no others. -/
theorem kept_of_mem_run {c : Char} (holds : kept c = true) (cs : List Char) :
    ∀ d ∈ c :: cs.takeWhile kept, kept d = true :=
  List.forall_mem_cons.mpr ⟨holds, fun _ member => List.mem_takeWhile_imp member⟩

/-- The runs of a text are runs. -/
theorem areRuns_maximalRuns (kept : Char → Bool) (cs : List Char) :
    AreRuns kept (maximalRuns kept cs) := by
  fun_induction maximalRuns kept cs with
  | case1 => exact fun run member => absurd member List.not_mem_nil
  | case2 c cs holds ih =>
    exact List.forall_mem_cons.mpr ⟨⟨List.cons_ne_nil _ _, kept_of_mem_run holds cs⟩, ih⟩
  | case3 c cs _ ih => exact ih

/-- A character that is not kept belongs to no run. -/
theorem maximalRuns_cons_of_not_kept {c : Char} (other : kept c = false) (cs : List Char) :
    maximalRuns kept (c :: cs) = maximalRuns kept cs := by
  rw [maximalRuns, other, if_neg Bool.false_ne_true]

/-- A run ends where the characters that are kept do. -/
theorem maximalRuns_append {run rest : List Char} (filled : run ≠ [])
    (inside : ∀ c ∈ run, kept c = true) (outside : ∀ d ∈ rest.head?, kept d = false) :
    maximalRuns kept (run ++ rest) = run :: maximalRuns kept rest := by
  cases run with
  | nil => exact absurd rfl filled
  | cons c run =>
    obtain ⟨holds, inside⟩ := List.forall_mem_cons.mp inside
    obtain ⟨front, back⟩ := span_append inside outside
    rw [List.cons_append, maximalRuns, if_pos holds, front, back]

/-- The replacement leaves the characters that are kept. -/
theorem replaceRuns_append {run : List Char} (inside : ∀ c ∈ run, kept c = true)
    (rest : List Char) :
    replaceRuns kept mark (run ++ rest) = run ++ replaceRuns kept mark rest := by
  induction run with
  | nil => rfl
  | cons c run ih =>
    obtain ⟨holds, inside⟩ := List.forall_mem_cons.mp inside
    rw [List.cons_append, replaceRuns, if_pos holds, ih inside, List.cons_append]

/-- The mark that the replacement puts before the first run. -/
def frontMark (kept : Char → Bool) (mark : Char) : List Char → List Char
  | [] => []
  | c :: _ => if kept c then [] else [mark]

/-- Behind a character that is not kept, the replacement goes on with the first one that is. -/
theorem replaceRuns_cons_of_not_kept (mark : Char) {c : Char} (other : kept c = false)
    (cs : List Char) :
    ∃ replaced, replaceRuns kept mark (c :: cs) = mark :: replaced ∧
      replaceRuns kept mark cs = frontMark kept mark cs ++ replaced := by
  refine ⟨_, by rw [replaceRuns, other, if_neg Bool.false_ne_true], ?_⟩
  cases cs with
  | nil => rfl
  | cons d cs =>
    cases holds : kept d with
    | true => simp [frontMark, holds]
    | false => rw [replaceRuns]; simp [frontMark, holds]

/-- A run in front of a mark and more runs is joined to them by the mark, if there are any. -/
theorem exists_run_append_eq (run : List Char) (runs : List (List Char)) (behind : Nat) :
    ∃ more, run ++ mark :: ([mark].intercalate runs ++ List.replicate behind mark) =
      [mark].intercalate (run :: runs) ++ List.replicate more mark := by
  cases runs with
  | nil => exact ⟨behind + 1, by simp [List.replicate_succ]⟩
  | cons next runs => exact ⟨behind, by simp⟩

/-- The replacement leaves the runs, joined by single marks, with marks at the two ends. -/
theorem exists_replaceRuns_eq (kept : Char → Bool) (mark : Char) (cs : List Char) :
    ∃ behind, replaceRuns kept mark cs =
      frontMark kept mark cs ++
        ([mark].intercalate (maximalRuns kept cs) ++ List.replicate behind mark) := by
  fun_induction maximalRuns kept cs with
  | case1 => exact ⟨0, by rw [replaceRuns]; rfl⟩
  | case2 c cs holds ih =>
    have whole : replaceRuns kept mark (c :: cs) =
        (c :: cs.takeWhile kept) ++ replaceRuns kept mark (cs.dropWhile kept) := by
      rw [← replaceRuns_append (kept_of_mem_run holds cs), List.cons_append,
        List.takeWhile_append_dropWhile]
    have front : frontMark kept mark (c :: cs) = [] := if_pos holds
    simp only [whole, front, List.nil_append]
    -- What follows the run is nothing, or a mark and what the replacement leaves behind it.
    cases rest : cs.dropWhile kept with
    | nil => exact ⟨0, by simp [replaceRuns, maximalRuns]⟩
    | cons d ds =>
      have other : kept d = false := by
        have stops := List.head?_dropWhile_not kept cs
        simpa [rest] using stops
      have marked : frontMark kept mark (d :: ds) = [mark] := if_neg (by simp [other])
      obtain ⟨behind, replaced⟩ := ih
      rw [rest, marked] at replaced
      rw [replaced, List.singleton_append]
      exact exists_run_append_eq _ _ behind
  | case3 c cs holds ih =>
    have other : kept c = false := by simpa using holds
    obtain ⟨replaced, whole, rest⟩ := replaceRuns_cons_of_not_kept mark other cs
    obtain ⟨behind, same⟩ := ih
    rw [rest, List.append_cancel_left_eq] at same
    have front : frontMark kept mark (c :: cs) = [mark] := if_neg holds
    exact ⟨behind, by rw [whole, same, front, List.singleton_append]⟩

/-- Marks at the two ends are trimmed off a text that has none there itself. -/
theorem trimMarks_append {front body : List Char} (leading : ∀ c ∈ front, c = mark)
    (head : ∀ c ∈ body.head?, c ≠ mark) (last : ∀ c ∈ body.getLast?, c ≠ mark) (behind : Nat) :
    trimMarks mark (front ++ (body ++ List.replicate behind mark)) = body := by
  have marks : ∀ c ∈ front, (c == mark) = true := by simpa using leading
  have more : ∀ c ∈ List.replicate behind mark, (c == mark) = true := by simp
  rw [trimMarks, List.dropWhile_append_of_pos marks]
  by_cases empty : body = []
  · subst empty
    have nothing : (List.replicate behind mark).dropWhile (· == mark) = [] :=
      List.dropWhile_eq_nil_iff.mpr more
    rw [List.nil_append, nothing]
    rfl
  · have starts : (body ++ List.replicate behind mark).dropWhile (· == mark) =
        body ++ List.replicate behind mark := by
      obtain ⟨c, cs, rfl⟩ := List.exists_cons_of_ne_nil empty
      have differs := head c rfl
      simp [differs]
    have ends : (List.replicate behind mark ++ body.reverse).dropWhile (· == mark) =
        body.reverse := by
      refine (span_append more fun c member => ?_).2
      rw [List.head?_reverse] at member
      simpa using last c member
    rw [starts, List.reverse_append, List.reverse_replicate, ends, List.reverse_reverse]

end Runs

section Joined

variable {kept : Char → Bool} {mark : Char} {runs : List (List Char)}

/-- Joined runs start with a character of a run. -/
theorem kept_of_mem_head?_intercalate (areRuns : AreRuns kept runs) :
    ∀ c ∈ ([mark].intercalate runs).head?, kept c = true := by
  intro c first
  cases runs with
  | nil => cases first
  | cons run runs =>
    obtain ⟨⟨filled, inside⟩, -⟩ := List.forall_mem_cons.mp areRuns
    obtain ⟨d, ds, rfl⟩ := List.exists_cons_of_ne_nil filled
    have same : ([mark].intercalate ((d :: ds) :: runs)).head? = some d := by
      cases runs <;> simp
    rw [same, Option.mem_some_iff] at first
    exact inside c (first ▸ List.mem_cons_self)

/-- Joined runs end with a character of a run. -/
theorem kept_of_mem_getLast?_intercalate (areRuns : AreRuns kept runs) :
    ∀ c ∈ ([mark].intercalate runs).getLast?, kept c = true := by
  intro c last
  induction runs with
  | nil => cases last
  | cons run runs ih =>
    obtain ⟨⟨filled, inside⟩, others⟩ := List.forall_mem_cons.mp areRuns
    cases runs with
    | nil =>
      rw [List.intercalate_singleton] at last
      exact inside c (List.mem_of_getLast? last)
    | cons next runs =>
      apply ih others
      have following : [mark].intercalate (next :: runs) ≠ [] := by
        obtain ⟨d, ds, rfl⟩ := List.exists_cons_of_ne_nil (List.forall_mem_cons.mp others).1.1
        cases runs <;> simp
      rw [List.intercalate_cons_cons, List.getLast?_append_of_ne_nil _ following] at last
      exact last

/-- Joined runs hold characters of the runs and marks. -/
theorem kept_or_eq_of_mem_intercalate (areRuns : AreRuns kept runs) :
    ∀ c ∈ [mark].intercalate runs, kept c = true ∨ c = mark := by
  intro c member
  induction runs with
  | nil => cases member
  | cons run runs ih =>
    obtain ⟨⟨-, inside⟩, others⟩ := List.forall_mem_cons.mp areRuns
    cases runs with
    | nil =>
      rw [List.intercalate_singleton] at member
      exact .inl (inside c member)
    | cons next runs =>
      rw [List.intercalate_cons_cons, List.append_assoc, List.mem_append, List.mem_append,
        List.mem_singleton] at member
      rcases member with first | between | later
      · exact .inl (inside c first)
      · exact .inr between
      · exact ih others later

/-- Of two characters side by side in joined runs one belongs to a run. -/
theorem isChain_intercalate (areRuns : AreRuns kept runs) :
    ([mark].intercalate runs).IsChain fun c d => kept c = true ∨ kept d = true := by
  induction runs with
  | nil => exact .nil
  | cons run runs ih =>
    obtain ⟨⟨-, inside⟩, others⟩ := List.forall_mem_cons.mp areRuns
    have within : run.IsChain fun c d => kept c = true ∨ kept d = true :=
      (List.pairwise_of_forall_mem_list fun c member _ _ => .inl (inside c member)).isChain
    cases runs with
    | nil =>
      rw [List.intercalate_singleton]
      exact within
    | cons next runs =>
      rw [List.intercalate_cons_cons, List.append_assoc, List.singleton_append,
        List.isChain_append]
      refine ⟨within, ?_, fun c last d _ => .inl (inside c (List.mem_of_getLast? last))⟩
      rw [List.isChain_cons]
      exact ⟨fun d first => .inr (kept_of_mem_head?_intercalate others d first), ih others⟩

/-- Joining runs and looking for the runs again gives the runs back. -/
theorem maximalRuns_intercalate (areRuns : AreRuns kept runs) (other : kept mark = false) :
    maximalRuns kept ([mark].intercalate runs) = runs := by
  induction runs with
  | nil => rw [List.intercalate_nil, maximalRuns]
  | cons run runs ih =>
    obtain ⟨⟨filled, inside⟩, others⟩ := List.forall_mem_cons.mp areRuns
    cases runs with
    | nil =>
      have alone := @maximalRuns_append kept run [] filled inside (by simp)
      rw [List.append_nil, maximalRuns] at alone
      rw [List.intercalate_singleton, alone]
    | cons next runs =>
      rw [List.intercalate_cons_cons, List.append_assoc, List.singleton_append,
        maximalRuns_append filled inside (by simpa using other),
        maximalRuns_cons_of_not_kept other, ih others]

/-- Replacing and trimming leaves the runs of a text, joined by single marks. -/
theorem trimMarks_replaceRuns (other : kept mark = false) (cs : List Char) :
    trimMarks mark (replaceRuns kept mark cs) = [mark].intercalate (maximalRuns kept cs) := by
  have areRuns := areRuns_maximalRuns kept cs
  have differs (c : Char) (holds : kept c = true) : c ≠ mark := by
    rintro rfl
    exact Bool.false_ne_true (other.symm.trans holds)
  have leading : ∀ c ∈ frontMark kept mark cs, c = mark := by
    intro c member
    unfold frontMark at member
    split at member
    · cases member
    · split at member
      · cases member
      · exact List.mem_singleton.mp member
  obtain ⟨behind, replaced⟩ := exists_replaceRuns_eq kept mark cs
  rw [replaced]
  exact trimMarks_append leading
    (fun c first => differs c (kept_of_mem_head?_intercalate areRuns c first))
    (fun c last => differs c (kept_of_mem_getLast?_intercalate areRuns c last)) behind

end Joined

/-- The runs of letters and digits in the upper-case form of a text. -/
def variableRuns (text : RawText) : List (List Char) :=
  maximalRuns isVariableChar (text.chars.map upperCase)

/-- An underscore is neither a letter nor a digit. -/
theorem isVariableChar_underscore : isVariableChar '_' = false := by decide

/-- Letters and digits in the name of a variable come before the lower-case letters. -/
theorem toNat_lt_of_isVariableChar {c : Char} (holds : isVariableChar c = true) :
    c.toNat < 'a'.toNat := by
  unfold isVariableChar Char.isUpper Char.isDigit at holds
  simp only [Bool.or_eq_true, Bool.and_eq_true, decide_eq_true_eq, UInt32.le_iff_toNat_le] at holds
  have upper : c.toNat ≤ 90 ∨ c.toNat ≤ 57 := holds.imp And.right And.right
  have limit : 'a'.toNat = 97 := by decide
  omega

/-- The characters of a name are their own upper-case forms. -/
theorem upperCase_eq_self {c : Char} (holds : isVariableChar c = true ∨ c = '_') :
    upperCase c = c := by
  have below : c.toNat < 'a'.toNat := by
    rcases holds with letter | rfl
    · exact toNat_lt_of_isVariableChar letter
    · decide
  have notLower : ¬('a'.val ≤ c.val ∧ c.val ≤ 'z'.val) := fun lower =>
    Nat.not_lt.mpr (UInt32.le_iff_toNat_le.mp lower.1) below
  have same : c.toUpper = c := dif_neg notLower
  rw [upperCase, if_pos (Nat.lt_trans below (by decide)), same]

/-- The name of a variable consists of the runs, joined by single underscores. -/
theorem toList_environmentName (text : RawText) :
    (environmentName text).toList = ['_'].intercalate (variableRuns text) := by
  rw [environmentName, String.toList_ofList, trimMarks_replaceRuns isVariableChar_underscore,
    variableRuns]

/-- A name has the runs of the text it was made from. -/
theorem variableRuns_environmentName (text : RawText) :
    variableRuns (environmentName text) = variableRuns text := by
  have areRuns : AreRuns isVariableChar (variableRuns text) := areRuns_maximalRuns _ _
  have upper : (environmentName text).toList.map upperCase = (environmentName text).toList := by
    rw [toList_environmentName]
    conv_rhs => rw [← List.map_id (['_'].intercalate _)]
    apply List.map_congr_left
    intro c member
    exact upperCase_eq_self (kept_or_eq_of_mem_intercalate areRuns c member)
  rw [variableRuns, RawText.ofString, RawText.chars_ofChars, upper, toList_environmentName,
    maximalRuns_intercalate areRuns isVariableChar_underscore]

/-- Texts have the same name exactly if they have the same runs. -/
theorem environmentName_inj {text other : RawText} :
    environmentName text = environmentName other ↔ variableRuns text = variableRuns other := by
  constructor
  · intro same
    rw [← variableRuns_environmentName text, same, variableRuns_environmentName]
  · intro same
    rw [← String.toList_inj, toList_environmentName, toList_environmentName, same]

/-- The name of a variable is made of the maximal runs of letters and digits in the upper-case
form of its text, joined by single underscores. So it holds only letters, digits and underscores,
none of the underscores stands at an end or beside another one, and the name is its own name. Two
clients share the variable of their keys exactly if their names have the same runs. -/
theorem environmentName_canonical (text : RawText) :
    environmentName text = "_".intercalate ((variableRuns text).map String.ofList) ∧
    ((environmentName text).toList.all fun c => isVariableChar c || c == '_') ∧
    (environmentName text).toList.head? ≠ some '_' ∧
    (environmentName text).toList.getLast? ≠ some '_' ∧
    ¬['_', '_'] <:+: (environmentName text).toList ∧
    environmentName (environmentName text) = environmentName text ∧
    ∀ other : RawText, clientKeyVariable text = clientKeyVariable other ↔
      variableRuns text = variableRuns other := by
  have areRuns : AreRuns isVariableChar (variableRuns text) := areRuns_maximalRuns _ _
  have noRun : ¬isVariableChar '_' = true := by decide
  rw [toList_environmentName]
  refine ⟨?joined, ?chars, ?head, ?last, ?single, ?again, fun other => ?shared⟩
  case joined =>
    rw [← String.toList_inj, toList_environmentName, String.toList_intercalate, List.map_map]
    simp [Function.comp_def]
  case chars =>
    rw [List.all_eq_true]
    intro c member
    simpa using kept_or_eq_of_mem_intercalate areRuns c member
  case head => exact fun first => noRun (kept_of_mem_head?_intercalate areRuns '_' first)
  case last => exact fun last => noRun (kept_of_mem_getLast?_intercalate areRuns '_' last)
  case single =>
    rintro ⟨front, back, split⟩
    rw [List.append_assoc] at split
    have pair := List.isChain_iff_forall_rel_of_append_cons_cons.mp
      (isChain_intercalate areRuns) split.symm
    exact noRun (or_self_iff.mp pair)
  case again => exact environmentName_inj.mpr (variableRuns_environmentName text)
  case shared => exact (String.append_right_inj _).trans environmentName_inj

-- The dotless i and the long s have forms among the letters, and the ligature of f and i has none.
example : environmentName "ısık-ſpecial" = "ISIK_SPECIAL" := by cbv
example : environmentName "-ﬁx_日本.v2-" = "X_V2" := by cbv

end RankFormula
