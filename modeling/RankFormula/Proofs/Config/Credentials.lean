import RankFormula.Config.Database
import RankFormula.Proofs.Text.Percent

/-!
# Credentials in a connection's URI

A URI is read from the outside in: what stands between `://` and the last `@` are the credentials,
and a `:` divides them. `DatabaseSection.credentials_read` says that the parts are found where they
were put, and what decoding the escapes in them gives. It gives the credentials back unless there
is a space in one of them, since the text of a form, in which they are written, has a `+` for
every space and a URI has not.
-/

namespace RankFormula

/-- What follows the first `://`. -/
def afterScheme? : List Char → Option (List Char)
  | ':' :: '/' :: '/' :: rest => some rest
  | _ :: rest => afterScheme? rest
  | [] => none

/-- The text before the last occurrence of a character and the text after it. -/
def splitLast? (c : Char) : List Char → Option (List Char × List Char)
  | [] => none
  | d :: rest =>
    match splitLast? c rest with
    | some (before, after) => some (d :: before, after)
    | none => if d = c then some ([], rest) else none

/-- What stands between `://` and the last `@` of a URI, and what follows that `@`. -/
def uriCredentials? (uri : String) : Option (List Char × List Char) :=
  (afterScheme? uri.toList).bind (splitLast? '@')

/-- A scheme ends at the first `://`. -/
theorem afterScheme?_append {scheme rest : List Char} (plain : ':' ∉ scheme) :
    afterScheme? (scheme ++ ':' :: '/' :: '/' :: rest) = some rest := by
  induction scheme with
  | nil => rfl
  | cons c scheme ih =>
    obtain ⟨first, others⟩ := List.ne_and_not_mem_of_not_mem_cons plain
    rw [List.cons_append, afterScheme?, ih others]
    rintro _ rfl
    exact absurd rfl first

/-- A character that does not occur splits nothing. -/
theorem splitLast?_eq_none {c : Char} {cs : List Char} (absent : c ∉ cs) :
    splitLast? c cs = none := by
  induction cs with
  | nil => rfl
  | cons d cs ih =>
    obtain ⟨first, others⟩ := List.ne_and_not_mem_of_not_mem_cons absent
    rw [splitLast?, ih others]
    exact if_neg (Ne.symm first)

/-- A text splits where the character occurs for the last time. -/
theorem splitLast?_append {c : Char} (before : List Char) {after : List Char}
    (absent : c ∉ after) : splitLast? c (before ++ c :: after) = some (before, after) := by
  induction before with
  | nil =>
    rw [List.nil_append, splitLast?, splitLast?_eq_none absent]
    exact if_pos rfl
  | cons d before ih => rw [List.cons_append, splitLast?, ih]

/-- A character that divides the parts of a URI. -/
def IsUriDivider (c : Char) : Prop := c = ':' ∨ c = '/' ∨ c = '@'

/-- Form encoding leaves no divider in a text. -/
theorem not_isUriDivider_of_mem_formEncode {c : Char} {cs : List Char}
    (member : c ∈ formEncode cs) : ¬IsUriDivider c := by
  rintro (rfl | rfl | rfl) <;> exact absurd (of_mem_formEncode member) (by decide)

namespace DatabaseSection

variable {s : DatabaseSection}

/-- The characters of a URI with credentials. -/
theorem toList_uri (present : ¬(s.username = "" ∧ s.password = "")) :
    s.uri.toList = ("mongodb".toList ++ s.connectionPrefix.toList) ++ ':' :: '/' :: '/' ::
      ((formEncode s.username.toList ++ ':' :: formEncode s.password.toList) ++
        '@' :: s.connectionStr.toList) := by
  have shown : (s.username.isEmpty && s.password.isEmpty) = false := by
    simpa [Bool.and_eq_false_iff, String.isEmpty_iff, not_and_or] using present
  rw [uri]
  simp only [shown, Bool.false_eq_true, if_false]
  simp [String.toList_append]

/-- The credentials of a connection are found in its URI, without any divider left in them, and
decoding the escapes gives the credentials with a `+` for every space. So they survive exactly if
neither of them has a space. -/
theorem credentials_read (s : DatabaseSection) (instanceIDs : Option (List String))
    (hosted : s.connectionStr ≠ "") (host : '@' ∉ s.connectionStr.toList)
    (scheme : ':' ∉ s.connectionPrefix.toList)
    (present : ¬(s.username = "" ∧ s.password = "")) :
    ∃ settings user password,
      s.settings instanceIDs = .ok settings ∧
        uriCredentials? settings.uri =
          some (user ++ ':' :: password, s.connectionStr.toList) ∧
        (∀ c ∈ user ++ password, ¬IsUriDivider c) ∧
        percentDecode? user = some (utf8Bytes (s.username.toList.map plusForSpace)) ∧
        percentDecode? password = some (utf8Bytes (s.password.toList.map plusForSpace)) ∧
        (percentDecode? user = some (utf8Bytes s.username.toList) ∧
            percentDecode? password = some (utf8Bytes s.password.toList) ↔
          ' ' ∉ s.username.toList ∧ ' ' ∉ s.password.toList) := by
  have named : s.connectionStr.isEmpty = false := String.isEmpty_eq_false_iff.mpr hosted
  refine ⟨_, formEncode s.username.toList, formEncode s.password.toList,
    if_neg (by rw [named]; decide), ?_, ?_, percentDecode?_formEncode _,
    percentDecode?_formEncode _, ?_⟩
  · have schemeless : ':' ∉ "mongodb".toList ++ s.connectionPrefix.toList := by
      rw [List.mem_append, not_or]
      exact ⟨by decide, scheme⟩
    rw [uriCredentials?, toList_uri present, afterScheme?_append schemeless]
    exact splitLast?_append _ host
  · intro c member
    rcases List.mem_append.mp member with inUser | inPassword
    · exact not_isUriDivider_of_mem_formEncode inUser
    · exact not_isUriDivider_of_mem_formEncode inPassword
  · rw [percentDecode?_formEncode_eq_some_iff, percentDecode?_formEncode_eq_some_iff]

/-- A connection whose password has a space. -/
def spacedPassword : DatabaseSection :=
  { DatabaseSection.blank with
    connectionStr := "localhost:27017", username := "user", password := "my pass" }

/-- The password `my pass` is read as `my+pass`. -/
theorem credentials_read_my_pass :
    ∃ settings user password,
      spacedPassword.settings none = .ok settings ∧
        uriCredentials? settings.uri = some (user ++ ':' :: password, "localhost:27017".toList) ∧
        percentDecode? password = some (utf8Bytes "my+pass".toList) ∧
        ¬(percentDecode? user = some (utf8Bytes "user".toList) ∧
            percentDecode? password = some (utf8Bytes "my pass".toList)) := by
  obtain ⟨settings, user, password, made, found, -, -, decoded, survive⟩ :=
    credentials_read spacedPassword none (by decide) (by decide) (by decide) (by decide)
  refine ⟨settings, user, password, made, found, decoded, fun kept => ?_⟩
  exact absurd (survive.mp kept).2 (by decide)

end DatabaseSection
end RankFormula
