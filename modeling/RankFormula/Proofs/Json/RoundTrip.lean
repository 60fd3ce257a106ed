import RankFormula.Proofs.Json.Numbers
import RankFormula.Proofs.Json.Texts

/-!
# Values survive being written in JSON

`Json.reread` says what a value is read as once it is written: itself, but for stray bytes,
which have become replacement characters, and for powers of ten that have become zeros. The
main statement is `read?_writeChars`: a written value that is not nested beyond the limit is
read as exactly that. It holds with anything behind the value that does not make a number
longer, which carries the induction through lists and objects.
-/

namespace RankFormula
namespace Json

mutual

/-- The value that is read where a value was written. -/
def reread : Json → Json
  | .null => .null
  | .bool value => .bool value
  | .number value => .number value.reread
  | .string value => .string value
  | .malformed value => .string value.toString
  | .array items => .array (rereadItems items)
  | .object members => .object (rereadMembers members)

/-- The items that are read where some were written. -/
def rereadItems : List Json → List Json
  | [] => []
  | item :: items => item.reread :: rereadItems items

/-- The members that are read where some were written. -/
def rereadMembers : List (String × Json) → List (String × Json)
  | [] => []
  | (name, value) :: members => (name, value.reread) :: rereadMembers members

end

/-- Lists and objects are nested at most so deep in the value. -/
inductive Nests : Nat → Json → Prop where
  | null {depth : Nat} : Nests depth .null
  | bool {depth : Nat} (value : Bool) : Nests depth (.bool value)
  | number {depth : Nat} (value : Decimal) : Nests depth (.number value)
  | string {depth : Nat} (value : String) : Nests depth (.string value)
  | malformed {depth : Nat} (value : RawText) : Nests depth (.malformed value)
  | array {depth : Nat} {items : List Json} (each : ∀ item ∈ items, Nests depth item) :
    Nests (depth + 1) (.array items)
  | object {depth : Nat} {members : List (String × Json)}
    (each : ∀ member ∈ members, Nests depth member.2) : Nests (depth + 1) (.object members)

/-- Whether a value has no parts. -/
def isScalar : Json → Bool
  | .array _ => false
  | .object _ => false
  | _ => true

/-- A value without parts is not nested. -/
theorem nests_scalar {value : Json} (scalar : value.isScalar = true) {depth : Nat} :
    Nests depth value := by
  cases value with
  | null => exact .null
  | bool value => exact .bool value
  | number value => exact .number value
  | string value => exact .string value
  | malformed value => exact .malformed value
  | array items => cases scalar
  | object members => cases scalar

/-- A record, whose fields have no parts, is nested once. -/
theorem nests_record {members : List (String × Json)}
    (flat : members.all (fun member => member.2.isScalar) = true) {depth : Nat} :
    Nests (depth + 1) (.object members) :=
  .object fun member listed => nests_scalar (List.all_eq_true.mp flat member listed)

/-- An item is nested no deeper than the items together. -/
theorem depth_le_itemsDepth {item : Json} {items : List Json} (member : item ∈ items) :
    item.depth ≤ itemsDepth items := by
  induction items with
  | nil => cases member
  | cons first items ih =>
    rw [itemsDepth]
    rcases List.mem_cons.mp member with rfl | later
    · exact Nat.le_max_left _ _
    · exact Nat.le_trans (ih later) (Nat.le_max_right _ _)

/-- The value of a member is nested no deeper than the members together. -/
theorem depth_le_membersDepth {member : String × Json} {members : List (String × Json)}
    (listed : member ∈ members) : member.2.depth ≤ membersDepth members := by
  induction members with
  | nil => cases listed
  | cons first members ih =>
    rw [membersDepth]
    rcases List.mem_cons.mp listed with rfl | later
    · exact Nat.le_max_left _ _
    · exact Nat.le_trans (ih later) (Nat.le_max_right _ _)

/-- A value is nested as deep as its lists and objects are. -/
theorem nests_of_depth_le : ∀ {depth : Nat} (value : Json), value.depth ≤ depth → Nests depth value
  | _, .null, _ => .null
  | _, .bool value, _ => .bool value
  | _, .number value, _ => .number value
  | _, .string value, _ => .string value
  | _, .malformed value, _ => .malformed value
  | _, .array items, bound => by
    obtain ⟨depth, rfl⟩ := Nat.exists_eq_add_of_le' (Nat.le_trans (Nat.le_add_left 1 _) bound)
    refine .array fun item member => nests_of_depth_le item ?_
    exact Nat.le_trans (depth_le_itemsDepth member) (Nat.le_of_succ_le_succ bound)
  | _, .object members, bound => by
    obtain ⟨depth, rfl⟩ := Nat.exists_eq_add_of_le' (Nat.le_trans (Nat.le_add_left 1 _) bound)
    refine .object fun (name, value) listed => nests_of_depth_le value ?_
    exact Nat.le_trans (depth_le_membersDepth listed) (Nat.le_of_succ_le_succ bound)

/-- A written value starts with a character that is neither white space nor a closing bracket. -/
theorem exists_writeChars (value : Json) :
    ∃ first others, value.writeChars = first :: others ∧ isSpace first = false ∧ first ≠ ']' := by
  cases value with
  | null => exact ⟨_, _, rfl, by decide, by decide⟩
  | bool value => cases value with
    | true => exact ⟨_, _, rfl, by decide, by decide⟩
    | false => exact ⟨_, _, rfl, by decide, by decide⟩
  | number value =>
    obtain ⟨first, others, chars, start⟩ := exists_write value
    refine ⟨first, others, chars, ?_⟩
    rcases start with rfl | digit
    · decide
    · exact holds_of_isDigit digit (by decide)
  | string value => exact ⟨_, _, rfl, by decide, by decide⟩
  | malformed value => exact ⟨_, _, rfl, by decide, by decide⟩
  | array items => cases items with
    | nil => exact ⟨_, _, rfl, by decide, by decide⟩
    | cons item items => exact ⟨_, _, by rw [writeChars], by decide, by decide⟩
  | object members => cases members with
    | nil => exact ⟨_, _, rfl, by decide, by decide⟩
    | cons m ms => exact ⟨_, _, by rw [writeChars], by decide, by decide⟩

/-- A text that starts with anything else starts behind no white space. -/
theorem skipSpace_cons {first : Char} {others : List Char} (solid : isSpace first = false) :
    skipSpace (first :: others) = first :: others := by
  simp [skipSpace, solid]

/-- Where a sign or a digit stands, a number is read. -/
theorem readValue_number {first : Char} {others : List Char}
    (start : first = '-' ∨ first.isDigit = true) (fuel depth : Nat) :
    readValue (fuel + 1) depth (first :: others) =
      (readNumber (first :: others)).map fun found => (.number found.1, found.2) := by
  have other : isSpace first = false ∧ first ∉ ['n', 't', 'f', '"', '[', '{'] := by
    rcases start with rfl | digit
    · decide
    · exact holds_of_isDigit digit (by decide)
  rw [readValue, skipSpace_cons other.1]
  split
  · next same => exact absurd (List.cons.inj same).1 (by rintro rfl; exact other.2 (by decide))
  · next same => exact absurd (List.cons.inj same).1 (by rintro rfl; exact other.2 (by decide))
  · next same => exact absurd (List.cons.inj same).1 (by rintro rfl; exact other.2 (by decide))
  · next same => exact absurd (List.cons.inj same).1 (by rintro rfl; exact other.2 (by decide))
  · next same => exact absurd (List.cons.inj same).1 (by rintro rfl; exact other.2 (by decide))
  · next same => exact absurd (List.cons.inj same).1 (by rintro rfl; exact other.2 (by decide))
  · cases readNumber (first :: others) <;> rfl

/-- Where a quote stands, a text is read. -/
theorem readValue_quote (others : List Char) (fuel depth : Nat) :
    readValue (fuel + 1) depth ('"' :: others) =
      (readString others).map fun found => (.string found.1, found.2) := by
  rw [readValue, skipSpace_cons (by decide)]
  simp only
  cases readString others <;> rfl

/-- Where a bracket stands that is not closed at once, items are read. -/
theorem readValue_bracket {first : Char} {others : List Char} (solid : isSpace first = false)
    (item : first ≠ ']') (fuel depth : Nat) :
    readValue (fuel + 1) (depth + 1) ('[' :: first :: others) =
      (readItems fuel depth (first :: others)).map fun found => (.array found.1, found.2) := by
  rw [readValue, skipSpace_cons (by decide)]
  simp only [Nat.add_eq_zero_iff, Nat.succ_ne_self, and_false, if_false, skipSpace_cons solid,
    List.cons.injEq, item, false_and, imp_self, implies_true, Nat.add_one_sub_one]
  cases readItems fuel depth (first :: others) <;> rfl

/-- Where a brace stands before a name, members are read. -/
theorem readValue_brace (others : List Char) (fuel depth : Nat) :
    readValue (fuel + 1) (depth + 1) ('{' :: '"' :: others) =
      (readMembers fuel depth ('"' :: others)).map fun found => (.object found.1, found.2) := by
  rw [readValue, skipSpace_cons (by decide)]
  simp only [Nat.add_eq_zero_iff, Nat.succ_ne_self, and_false, if_false,
    skipSpace_cons (by decide : isSpace '"' = false), Nat.add_one_sub_one]
  cases readMembers fuel depth ('"' :: others) <;> rfl

/-- A written value is read back, with enough fuel and nothing behind it that makes a number
longer. -/
def ReadsBack (depth : Nat) (value : Json) : Prop :=
  ∀ (fuel : Nat) (rest : List Char), value.writeChars.length ≤ fuel → EndsNumber rest →
    readValue fuel depth (value.writeChars ++ rest) = some (value.reread, rest)

/-- A written value is not empty, so reading it takes at least one unit of fuel. -/
theorem readsBack_of_succ {depth : Nat} {value : Json}
    (reads : ∀ (fuel : Nat) (rest : List Char), value.writeChars.length ≤ fuel + 1 →
      EndsNumber rest →
        readValue (fuel + 1) depth (value.writeChars ++ rest) = some (value.reread, rest)) :
    ReadsBack depth value := by
  intro fuel rest enough ends
  obtain ⟨first, others, chars, -⟩ := exists_writeChars value
  have nonempty : value.writeChars.length = others.length + 1 := congrArg List.length chars
  obtain ⟨fuel, rfl⟩ : ∃ less, fuel = less + 1 := ⟨fuel - 1, by omega⟩
  exact reads fuel rest enough ends

/-- Nothing that follows an item makes a number longer. -/
theorem endsNumber_writeItems (items : List Json) (rest : List Char) :
    EndsNumber (writeItems items ++ rest) := by
  intro c member
  cases items with
  | nil =>
    obtain rfl := Option.some.inj member
    decide
  | cons item items =>
    rw [writeItems] at member
    obtain rfl := Option.some.inj member
    decide

/-- Nothing that follows a member makes a number longer. -/
theorem endsNumber_writeMembers (members : List (String × Json)) (rest : List Char) :
    EndsNumber (writeMembers members ++ rest) := by
  intro c member
  cases members with
  | nil =>
    obtain rfl := Option.some.inj member
    decide
  | cons m ms =>
    rw [writeMembers] at member
    obtain rfl := Option.some.inj member
    decide

section Lists

variable {depth : Nat}

/-- Items that are read back one by one are read back as a list. -/
theorem readItems_writeItems (items : List Json) :
    ∀ item : Json, (∀ other ∈ item :: items, ReadsBack depth other) →
      ∀ (fuel : Nat) (rest : List Char), (item.writeChars ++ writeItems items).length ≤ fuel →
        readItems fuel depth (item.writeChars ++ (writeItems items ++ rest)) =
          some (rereadItems (item :: items), rest) := by
  induction items with
  | nil =>
    intro item readsBack fuel rest enough
    rw [writeItems, List.length_append, List.length_singleton] at enough
    obtain ⟨fuel, rfl⟩ : ∃ less, fuel = less + 1 := ⟨fuel - 1, by omega⟩
    have read := readsBack item List.mem_cons_self fuel _ (by omega) (endsNumber_writeItems [] rest)
    rw [readItems, read]
    rfl
  | cons second items ih =>
    intro item readsBack fuel rest enough
    rw [writeItems, List.length_append, List.length_cons] at enough
    obtain ⟨fuel, rfl⟩ : ∃ less, fuel = less + 1 := ⟨fuel - 1, by omega⟩
    have read := readsBack item List.mem_cons_self fuel _ (by omega)
      (endsNumber_writeItems (second :: items) rest)
    have more := ih second (fun other member => readsBack other (List.mem_cons_of_mem _ member))
      fuel rest (by omega)
    rw [readItems, read, writeItems, List.cons_append, List.append_assoc]
    simp only [Option.bind_eq_bind, Option.bind_some,
      skipSpace_cons (by decide : isSpace ',' = false), more]
    rfl

/-- A name is read back with its value, and a closing brace ends the members. -/
theorem readMembers_close {value : Json} (readsBack : ReadsBack depth value) (name : String)
    {fuel : Nat} (enough : value.writeChars.length ≤ fuel) (rest : List Char) :
    readMembers (fuel + 1) depth (writeMember (name, value) ++ '}' :: rest) =
      some ([(name, value.reread)], rest) := by
  have key := readString_chars name.toList (':' :: (value.writeChars ++ '}' :: rest))
  have read := readsBack fuel _ enough (endsNumber_writeMembers [] rest)
  rw [String.ofList_toList] at key
  rw [writeMembers, List.singleton_append] at read
  rw [readMembers, writeMember, writeString]
  simp only [List.cons_append, List.append_assoc, List.nil_append, key, read,
    skipSpace_cons (by decide : isSpace '"' = false), Option.bind_eq_bind, Option.bind_some,
    skipSpace_cons (by decide : isSpace ':' = false),
    skipSpace_cons (by decide : isSpace '}' = false)]

/-- A name is read back with its value, and more members follow a comma. -/
theorem readMembers_comma {value : Json} (readsBack : ReadsBack depth value) (name : String)
    {fuel : Nat} (enough : value.writeChars.length ≤ fuel) (member : String × Json)
    (members : List (String × Json)) (rest : List Char) :
    readMembers (fuel + 1) depth
        (writeMember (name, value) ++ (writeMembers (member :: members) ++ rest)) =
      (readMembers fuel depth (writeMember member ++ (writeMembers members ++ rest))).map
        fun found => ((name, value.reread) :: found.1, found.2) := by
  have key := readString_chars name.toList
    (':' :: (value.writeChars ++ (writeMembers (member :: members) ++ rest)))
  have read := readsBack fuel _ enough (endsNumber_writeMembers (member :: members) rest)
  rw [String.ofList_toList] at key
  rw [readMembers, writeMember, writeString]
  simp only [List.cons_append, List.append_assoc, List.nil_append, key, read,
    skipSpace_cons (by decide : isSpace '"' = false), Option.bind_eq_bind, Option.bind_some,
    skipSpace_cons (by decide : isSpace ':' = false)]
  rw [writeMembers, List.cons_append, List.append_assoc, skipSpace_cons (by decide)]
  simp only
  cases readMembers fuel depth (writeMember member ++ (writeMembers members ++ rest)) <;> rfl

/-- Members whose values are read back one by one are read back as an object. -/
theorem readMembers_writeMembers (members : List (String × Json)) :
    ∀ member : String × Json, (∀ other ∈ member :: members, ReadsBack depth other.2) →
      ∀ (fuel : Nat) (rest : List Char),
        (writeMember member ++ writeMembers members).length ≤ fuel →
        readMembers fuel depth (writeMember member ++ (writeMembers members ++ rest)) =
          some (rereadMembers (member :: members), rest) := by
  induction members with
  | nil =>
    rintro ⟨name, value⟩ readsBack fuel rest enough
    rw [writeMembers, writeMember, List.length_append, List.length_append, List.length_cons,
      List.length_singleton] at enough
    obtain ⟨fuel, rfl⟩ : ∃ less, fuel = less + 1 := ⟨fuel - 1, by omega⟩
    have first : ReadsBack depth value := readsBack _ List.mem_cons_self
    exact readMembers_close first name (by omega) rest
  | cons second members ih =>
    rintro ⟨name, value⟩ readsBack fuel rest enough
    rw [writeMembers, writeMember, List.length_append, List.length_append, List.length_cons,
      List.length_cons] at enough
    obtain ⟨fuel, rfl⟩ : ∃ less, fuel = less + 1 := ⟨fuel - 1, by omega⟩
    have first : ReadsBack depth value := readsBack _ List.mem_cons_self
    have more := ih second (fun other member => readsBack other (List.mem_cons_of_mem _ member))
      fuel rest (by omega)
    rw [readMembers_comma first name (by omega), more]
    rfl

end Lists

/-- A value that is not nested too deep is read back. -/
theorem Nests.readsBack {depth : Nat} {value : Json} (nests : Nests depth value) :
    ReadsBack depth value := by
  induction nests with
  | null =>
    refine readsBack_of_succ fun fuel rest _ _ => ?_
    rw [readValue, writeChars, List.cons_append, skipSpace_cons (by decide)]
    rfl
  | bool value =>
    refine readsBack_of_succ fun fuel rest _ _ => ?_
    cases value with
    | true =>
      rw [readValue, writeChars, List.cons_append, skipSpace_cons (by decide)]
      rfl
    | false =>
      rw [readValue, writeChars, List.cons_append, skipSpace_cons (by decide)]
      rfl
  | number value =>
    refine readsBack_of_succ fun fuel rest _ ends => ?_
    have read := readNumber_write value ends
    obtain ⟨first, others, chars, start⟩ := exists_write value
    rw [chars, List.cons_append] at read
    rw [writeChars, chars, List.cons_append, readValue_number start, read]
    rfl
  | string value =>
    refine readsBack_of_succ fun fuel rest _ _ => ?_
    have read := readString_chars value.toList rest
    rw [String.ofList_toList] at read
    rw [writeChars, writeString, List.cons_append, List.cons_append, List.append_assoc,
      List.singleton_append, readValue_quote, read]
    rfl
  | malformed value =>
    refine readsBack_of_succ fun fuel rest _ _ => ?_
    have read := readString_units value.units rest
    rw [writeChars, writeRaw, List.cons_append, List.cons_append, List.append_assoc,
      List.singleton_append, readValue_quote, read]
    rfl
  | array each ih =>
    rename_i depth items
    refine readsBack_of_succ fun fuel rest enough _ => ?_
    cases items with
    | nil =>
      rw [readValue, writeChars, List.cons_append, skipSpace_cons (by decide)]
      rfl
    | cons item items =>
      rw [writeChars, List.length_cons] at enough
      have read := readItems_writeItems items item ih fuel rest (by omega)
      obtain ⟨first, others, chars, solid, opens⟩ := exists_writeChars item
      rw [chars, List.cons_append] at read
      rw [writeChars, List.cons_append, List.append_assoc, chars, List.cons_append,
        readValue_bracket solid opens, read]
      rfl
  | object each ih =>
    rename_i depth members
    refine readsBack_of_succ fun fuel rest enough _ => ?_
    cases members with
    | nil =>
      rw [readValue, writeChars, List.cons_append, skipSpace_cons (by decide)]
      rfl
    | cons member members =>
      rw [writeChars, List.length_cons] at enough
      have read := readMembers_writeMembers members member ih fuel rest (by omega)
      rw [writeMember, writeString] at read
      rw [writeChars, List.cons_append, List.append_assoc, writeMember, writeString]
      rw [List.cons_append, List.cons_append, List.cons_append] at read ⊢
      rw [readValue_brace, read]
      rfl

/-- A written value is read as `Json.reread` says. -/
theorem read?_writeChars {value : Json} (nests : Nests nestingLimit value) :
    read? value.writeChars = some value.reread := by
  have read := nests.readsBack (value.writeChars.length + 1) [] (Nat.le_succ _)
    fun c member => by cases member
  rw [List.append_nil] at read
  rw [read?, readFirst?, read]
  rfl

end Json
end RankFormula
