import Mathlib.Data.List.Basic
import RankFormula.Proofs.Numeral.Signed
import RankFormula.Time.Duration

/-!
# Which durations are exact

A text of numbers with units is never read as another length of time than a word, and never as a
negative one without a minus sign in front (`readUnits_eq_ok`). Whole days have no such check:
their nanoseconds are taken modulo `2 ^ 64`, so the length is exact up to `mostDays` and wrong for
every greater number that is a word (`durations_exact`). The two kinds of text do not overlap,
since no unit ends with a `d`.
-/

namespace RankFormula

/-! ## Numbers with units -/

/-- The characters with which units end. -/
def unitEnds : List Char := ['s', 'm', 'h']

/-- Every unit ends with one of those characters. -/
theorem unitEnds_of_unitNanos? {unit : String} {nanos : Nat}
    (known : unitNanos? unit = some nanos) :
    ∃ front c, unit.toList = front ++ [c] ∧ c ∈ unitEnds := by
  unfold unitNanos? at known
  split at known
  · exact ⟨['n'], 's', rfl, by decide⟩
  · exact ⟨['u'], 's', rfl, by decide⟩
  · exact ⟨['\u00b5'], 's', rfl, by decide⟩
  · exact ⟨['\u03bc'], 's', rfl, by decide⟩
  · exact ⟨['m'], 's', rfl, by decide⟩
  · exact ⟨[], 's', rfl, by decide⟩
  · exact ⟨[], 'm', rfl, by decide⟩
  · exact ⟨[], 'h', rfl, by decide⟩
  · cases known

/-- Leading digits stand in front of the rest. -/
theorem suffix_of_leadingWhole {n whole : Nat} {cs rest : List Char}
    (found : leadingWhole n cs = some (whole, rest)) : rest <:+ cs := by
  induction cs generalizing n with
  | nil =>
    obtain ⟨-, rfl⟩ := Prod.mk.inj (Option.some.inj found)
    exact List.suffix_refl _
  | cons c cs ih =>
    rw [leadingWhole] at found
    split at found
    · dsimp only at found
      split at found
      · cases found
      · exact (ih found).trans (List.suffix_cons c cs)
    · obtain ⟨-, rfl⟩ := Prod.mk.inj (Option.some.inj found)
      exact List.suffix_refl _

/-- A fraction stands in front of the rest. -/
theorem suffix_splitFraction (cs : List Char) : (splitFraction cs).2.1 <:+ cs := by
  unfold splitFraction
  split
  · exact (List.dropWhile_suffix _).trans (List.suffix_cons _ _)
  · exact List.suffix_refl _

/-- A number with its unit is followed by the rest, right after the unit; it stays in the range. -/
theorem readGroup_eq_ok {cs rest : List Char} {nanos : Nat}
    (read : readGroup cs = .ok (nanos, rest)) :
    ∃ front c, cs = front ++ c :: rest ∧ c ∈ unitEnds ∧ nanos ≤ signedLimit := by
  unfold readGroup at read
  split at read
  · cases read
  · next whole tail found =>
    -- After the whole number and perhaps a fraction, the unit and the rest are left.
    have pointed := suffix_splitFraction tail
    dsimp only at read
    generalize splitFraction tail = parts at read pointed
    obtain ⟨fraction, after, hasPoint⟩ := parts
    dsimp only at read pointed
    split at read
    · cases read
    · split at read
      · cases read
      · split at read
        · cases read
        · next unit known =>
          split at read
          · cases read
          · split at read
            · cases read
            · next fits =>
              obtain ⟨rfl, rfl⟩ := Prod.mk.inj (Except.ok.inj read)
              obtain ⟨digits, shape⟩ := pointed.trans (suffix_of_leadingWhole found)
              obtain ⟨front, c, spelled, ends⟩ := unitEnds_of_unitNanos? known
              refine ⟨digits ++ front, c, ?_, ends, Nat.not_lt.mp fits⟩
              rw [String.toList_ofList] at spelled
              calc
                cs = digits ++
                    (after.takeWhile (!endsUnit ·) ++ after.dropWhile (!endsUnit ·)) := by
                  rw [List.takeWhile_append_dropWhile, shape]
                _ = digits ++ front ++ c :: after.dropWhile (!endsUnit ·) := by
                  rw [spelled]
                  simp

/-- Numbers with units end with a unit, and their sum stays in the range. -/
theorem readGroups_eq_ok {steps total sum : Nat} {cs : List Char} (enough : cs.length ≤ steps)
    (bounded : total ≤ signedLimit) (read : readGroups steps total cs = .ok sum) :
    sum ≤ signedLimit ∧ ∀ c ∈ cs.getLast?, c ∈ unitEnds := by
  induction steps generalizing total cs with
  | zero =>
    obtain rfl : cs = [] := List.eq_nil_of_length_eq_zero (Nat.le_zero.mp enough)
    obtain rfl := Except.ok.inj read
    exact ⟨bounded, by simp⟩
  | succ steps ih =>
    cases cs with
    | nil =>
      obtain rfl := Except.ok.inj read
      exact ⟨bounded, by simp⟩
    | cons d cs =>
      unfold readGroups at read
      cases group : readGroup (d :: cs) with
      | error fault => simp [group, bind, Except.bind] at read
      | ok found =>
        obtain ⟨nanos, rest⟩ := found
        obtain ⟨front, c, shape, ends, -⟩ := readGroup_eq_ok group
        simp only [group, bind, Except.bind] at read
        split at read
        · cases read
        · next fits =>
          have shorter : rest.length ≤ steps := by
            have lengths := congrArg List.length shape
            simp only [List.length_cons, List.length_append] at lengths enough
            omega
          obtain ⟨inRange, last⟩ := ih shorter (Nat.not_lt.mp fits) read
          refine ⟨inRange, fun e final => ?_⟩
          rw [shape] at final
          cases rest with
          | nil =>
            obtain rfl : c = e := by simpa using final
            exact ends
          | cons _ _ =>
            refine last e ?_
            simpa using final

/-- A sign stands in front of the text, and a minus sign is one. -/
theorem splitSign_spec (cs : List Char) :
    (splitSign cs).2 <:+ cs ∧ ((splitSign cs).1 = true → cs.head? = some '-') := by
  unfold splitSign
  split
  · exact ⟨List.suffix_cons _ _, fun _ => rfl⟩
  · exact ⟨List.suffix_cons _ _, fun minus => absurd minus Bool.false_ne_true⟩
  · exact ⟨List.suffix_refl _, fun minus => absurd minus Bool.false_ne_true⟩

/-- A text of numbers with units is read as a word, as a negative one only behind a minus sign,
and does not end with a `d`. -/
theorem readUnits_eq_ok {cs : List Char} {d : Int} (read : readUnits cs = .ok d) :
    (-(signedLimit : Int) ≤ d ∧ d < signedLimit) ∧ (d < 0 → cs.head? = some '-') ∧
      cs.getLast? ≠ some 'd' := by
  have limit : (0 : Int) < signedLimit := by decide
  obtain ⟨suffix, minus⟩ := splitSign_spec cs
  unfold readUnits at read
  generalize splitSign cs = signed at read suffix minus
  obtain ⟨negative, body⟩ := signed
  dsimp only at read suffix minus
  obtain ⟨front, rfl⟩ := suffix
  split at read
  · next zero =>
    obtain rfl := Except.ok.inj read
    subst zero
    exact ⟨by omega, fun below => absurd below (by decide), by simp⟩
  · split at read
    · cases read
    · next filled =>
      cases sum : readGroups body.length 0 body with
      | error fault => simp [sum, bind, Except.bind] at read
      | ok total =>
        obtain ⟨inRange, ends⟩ := readGroups_eq_ok (Nat.le_refl _) (Nat.zero_le _) sum
        have last : (front ++ body).getLast? ≠ some 'd' := by
          rw [List.getLast?_append_of_ne_nil _ (by simpa using filled)]
          exact fun final => absurd (ends 'd' final) (by decide)
        simp only [sum, bind, Except.bind] at read
        split at read
        · next negated =>
          obtain rfl := Except.ok.inj read
          exact ⟨by omega, fun _ => minus negated, last⟩
        · split at read
          · next small =>
            obtain rfl := Except.ok.inj read
            exact ⟨by omega, fun below => absurd below (by omega), last⟩
          · cases read

/-! ## Whole days -/

/-- A text gives a number of whole days: an integer, with a sign or without, and a `d`. -/
def GivesDays (s : String) (n : Int) : Prop :=
  ∃ cs, WritesInteger cs n ∧ s.toList = cs ++ ['d']

/-- What a number of whole days should be read as: its nanoseconds, if it is not negative and they
are a word. -/
def exactDays? (n : Int) : Option Int :=
  if 0 ≤ n ∧ n * nanosPerDay < signedLimit then some (n * nanosPerDay) else none

/-- The greatest number of days whose nanoseconds are a word. -/
def mostDays : Int := 106751

/-- Something in front of a `d` is read as a number of days. -/
theorem readDuration_of_append {s : String} {cs : List Char} (shape : s.toList = cs ++ ['d'])
    (filled : cs ≠ []) : readDuration s = readDays cs := by
  obtain ⟨c, rest, reversed⟩ := List.exists_cons_of_ne_nil (List.reverse_ne_nil_iff.mpr filled)
  rw [readDuration, shape, List.reverse_append, reversed]
  show readDays (c :: rest).reverse = _
  rw [← reversed, List.reverse_reverse]

/-- Everything else is read as numbers with units. -/
theorem readDuration_of_other {s : String} (other : ∀ cs, cs ≠ [] → s.toList ≠ cs ++ ['d']) :
    readDuration s = readUnits s.toList := by
  unfold readDuration
  split
  · next c rest reversed =>
    refine absurd ?_ (other (c :: rest).reverse (by simp))
    rw [← List.reverse_cons, ← reversed, List.reverse_reverse]
  · rfl

/-- Days are read if they are an integer that is a word and not negative. -/
theorem readDays_eq_ok_iff {cs : List Char} {d : Int} :
    readDays cs = .ok d ↔
      ∃ n, WritesInteger cs n ∧ (0 ≤ n ∧ n < signedLimit) ∧
        Int.bmod (n * nanosPerDay) wordModulus = d := by
  unfold readDays
  constructor
  · intro read
    split at read
    · cases read
    · next n found =>
      obtain ⟨writes, -, below⟩ := readInteger_eq_ok_iff.mp found
      split at read
      · cases read
      · next nonneg => exact ⟨n, writes, ⟨by omega, below⟩, Except.ok.inj read⟩
  · rintro ⟨n, writes, ⟨nonneg, below⟩, rfl⟩
    have found : readInteger 10 cs = .ok n :=
      readInteger_eq_ok_iff.mpr ⟨writes, by omega, below⟩
    rw [found]
    exact if_neg (by omega)

/-- A text of whole days is read exactly if the number is a word and not negative, as its
nanoseconds modulo `2 ^ 64`. -/
theorem GivesDays.readDuration_eq_ok_iff {s : String} {n d : Int} (gives : GivesDays s n) :
    readDuration s = .ok d ↔
      (0 ≤ n ∧ n < signedLimit) ∧ Int.bmod (n * nanosPerDay) wordModulus = d := by
  obtain ⟨cs, writes, shape⟩ := gives
  rw [readDuration_of_append shape writes.ne_nil, readDays_eq_ok_iff]
  constructor
  · rintro ⟨m, other, found⟩
    exact writes.unique other ▸ found
  · exact fun found => ⟨n, writes, found⟩

/-- Without a number of days in front, a final `d` is refused by both readings, and otherwise a
text is read as numbers with units. -/
theorem readDuration_of_not_givesDays {s : String} (none : ∀ n, ¬GivesDays s n) (d : Int) :
    readDuration s = .ok d ↔ readUnits s.toList = .ok d := by
  by_cases days : ∃ cs, cs ≠ [] ∧ s.toList = cs ++ ['d']
  · obtain ⟨cs, filled, shape⟩ := days
    refine iff_of_false (fun read => ?_) fun read => ?_
    · rw [readDuration_of_append shape filled, readDays_eq_ok_iff] at read
      obtain ⟨n, writes, -⟩ := read
      exact none n ⟨cs, writes, shape⟩
    · refine (readUnits_eq_ok read).2.2 ?_
      rw [shape, List.getLast?_concat]
  · rw [readDuration_of_other fun cs filled shape => days ⟨cs, filled, shape⟩]

/-- The nanoseconds of a number of days are a word exactly up to `mostDays`. -/
theorem mul_nanosPerDay_lt_iff {n : Int} : n * nanosPerDay < signedLimit ↔ n ≤ mostDays := by
  simp only [nanosPerDay, signedLimit, mostDays]
  omega

/-- Nanoseconds modulo `2 ^ 64` are a word. -/
theorem bmod_wordModulus_bounds (n : Int) :
    -(signedLimit : Int) ≤ Int.bmod n wordModulus ∧ Int.bmod n wordModulus < signedLimit := by
  have positive : 0 < wordModulus := by decide
  exact ⟨Int.le_bmod positive, Int.bmod_lt positive⟩

/-- Nanoseconds that are a word are what they are modulo `2 ^ 64`. -/
theorem bmod_wordModulus_eq_self {n : Int} (nonneg : 0 ≤ n) :
    Int.bmod n wordModulus = n ↔ n < signedLimit := by
  constructor
  · intro same
    exact same ▸ (bmod_wordModulus_bounds n).2
  · intro below
    have half : (signedLimit : Int) = wordModulus / 2 := by decide
    exact Int.bmod_eq_of_le (by omega) (by omega)

/-- Up to `mostDays`, whole days are read as what they should be. -/
theorem GivesDays.readDuration_of_le {s : String} {n d : Int} (gives : GivesDays s n)
    (few : n ≤ mostDays) : readDuration s = .ok d ↔ 0 ≤ n ∧ n * nanosPerDay = d := by
  have word : mostDays < signedLimit := by decide
  rw [gives.readDuration_eq_ok_iff]
  by_cases nonneg : 0 ≤ n
  · have positive : 0 ≤ n * nanosPerDay := Int.mul_nonneg nonneg (by decide)
    rw [(bmod_wordModulus_eq_self positive).mpr (mul_nanosPerDay_lt_iff.mpr few)]
    exact and_congr_left fun _ => ⟨And.left, fun _ => ⟨nonneg, by omega⟩⟩
  · exact iff_of_false (fun read => nonneg read.1.1) fun exactly => nonneg exactly.1

/-- What is read from whole days is what it should be, unless the number is a word and its
nanoseconds are none. -/
theorem GivesDays.toOption_eq_exactDays?_iff {s : String} {n : Int} (gives : GivesDays s n) :
    (readDuration s).toOption = exactDays? n ↔ ¬(mostDays < n ∧ n < signedLimit) := by
  have read (d : Int) := gives.readDuration_eq_ok_iff (d := d)
  by_cases wrapped : mostDays < n ∧ n < signedLimit
  · have nonneg : 0 ≤ n := Int.le_trans (by decide) (Int.le_of_lt wrapped.1)
    have leaves : ¬(0 ≤ n ∧ n * nanosPerDay < signedLimit) := by
      rw [mul_nanosPerDay_lt_iff]
      omega
    rw [(read _).mpr ⟨⟨nonneg, wrapped.2⟩, rfl⟩, exactDays?, if_neg leaves]
    exact iff_of_false (fun same => nomatch same) (not_not_intro wrapped)
  · refine iff_of_true ?_ wrapped
    cases found : readDuration s with
    | ok d =>
      have few : n ≤ mostDays := by
        have word := ((read d).mp found).1
        omega
      obtain ⟨nonneg, rfl⟩ := (gives.readDuration_of_le few).mp found
      rw [exactDays?, if_pos ⟨nonneg, mul_nanosPerDay_lt_iff.mpr few⟩]
      rfl
    | error fault =>
      have refused : ¬(0 ≤ n ∧ n * nanosPerDay < signedLimit) := by
        rintro ⟨nonneg, small⟩
        have few := mul_nanosPerDay_lt_iff.mp small
        rw [(gives.readDuration_of_le few).mpr ⟨nonneg, rfl⟩] at found
        cases found
      rw [exactDays?, if_neg refused]
      rfl

/-- A negative duration is read only behind a minus sign, or from more days than `mostDays`. -/
theorem negative_readDuration {s : String} {d : Int} (read : readDuration s = .ok d)
    (negative : d < 0) : s.toList.head? = some '-' ∨ ∃ n, GivesDays s n ∧ mostDays < n := by
  by_cases days : ∃ n, GivesDays s n
  · obtain ⟨n, gives⟩ := days
    refine .inr ⟨n, gives, Int.not_le.mp fun few => ?_⟩
    obtain ⟨nonneg, rfl⟩ := (gives.readDuration_of_le few).mp read
    have positive : 0 ≤ n * nanosPerDay := Int.mul_nonneg nonneg (by decide)
    omega
  · rw [readDuration_of_not_givesDays (not_exists.mp days)] at read
    exact .inl ((readUnits_eq_ok read).2.1 negative)

/-- Every duration is a word. -/
theorem readDuration_bounds {s : String} {d : Int} (read : readDuration s = .ok d) :
    -(signedLimit : Int) ≤ d ∧ d < signedLimit := by
  by_cases days : ∃ n, GivesDays s n
  · obtain ⟨n, gives⟩ := days
    obtain ⟨-, rfl⟩ := gives.readDuration_eq_ok_iff.mp read
    exact bmod_wordModulus_bounds _
  · rw [readDuration_of_not_givesDays (not_exists.mp days)] at read
    exact (readUnits_eq_ok read).1

/-- Which durations are exact. Whole days are read as their nanoseconds, or refused if there are
none or they are no word, unless their number is a word above `mostDays`: then they are read as
their nanoseconds modulo `2 ^ 64`. Every other text is read as numbers with units. So only texts
with a minus sign in front or with too many days are read as negative durations, and up to
`mostDays` more days are no shorter duration. -/
theorem durations_exact (s : String) :
    (∀ n, GivesDays s n →
      ((readDuration s).toOption = exactDays? n ↔ ¬(mostDays < n ∧ n < signedLimit)) ∧
        (mostDays < n ∧ n < signedLimit →
          readDuration s = .ok (Int.bmod (n * nanosPerDay) wordModulus))) ∧
    ((∀ n, ¬GivesDays s n) → ∀ d, readDuration s = .ok d ↔ readUnits s.toList = .ok d) ∧
    (∀ d, readDuration s = .ok d →
      (-(signedLimit : Int) ≤ d ∧ d < signedLimit) ∧
        (d < 0 → s.toList.head? = some '-' ∨ ∃ n, GivesDays s n ∧ mostDays < n)) ∧
    ∀ (t : String) (n m d e : Int), GivesDays s n → GivesDays t m → n ≤ m → m ≤ mostDays →
      readDuration s = .ok d → readDuration t = .ok e → d ≤ e := by
  refine ⟨fun n gives => ⟨gives.toOption_eq_exactDays?_iff, fun wrapped => ?_⟩,
    readDuration_of_not_givesDays,
    fun d read => ⟨readDuration_bounds read, negative_readDuration read⟩, ?_⟩
  · have nonneg : 0 ≤ n := Int.le_trans (by decide) (Int.le_of_lt wrapped.1)
    exact gives.readDuration_eq_ok_iff.mpr ⟨⟨nonneg, wrapped.2⟩, rfl⟩
  · intro t n m d e few many ordered most readFew readMany
    obtain ⟨-, rfl⟩ := (few.readDuration_of_le (Int.le_trans ordered most)).mp readFew
    obtain ⟨-, rfl⟩ := (many.readDuration_of_le most).mp readMany
    exact Int.mul_le_mul_of_nonneg_right ordered (by decide)

/-- One day more than `mostDays` is read as a negative duration, and should be refused. -/
theorem durations_exact_next_day :
    GivesDays "106752d" (mostDays + 1) ∧ exactDays? (mostDays + 1) = none ∧
      readDuration "106752d" = .ok (-9223371273709551616) := by
  have gives : GivesDays "106752d" (mostDays + 1) :=
    ⟨"106752".toList, .unsigned ⟨by decide, List.all_eq_true.mp (by decide)⟩, rfl⟩
  have wrapped : Int.bmod ((mostDays + 1) * nanosPerDay) wordModulus = -9223371273709551616 := by
    decide
  refine ⟨gives, rfl, ?_⟩
  rw [← wrapped]
  exact ((durations_exact "106752d").1 _ gives).2 (by decide)

end RankFormula
