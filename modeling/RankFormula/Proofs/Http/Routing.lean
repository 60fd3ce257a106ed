import RankFormula.Http.Route

/-!
# Which paths lead to a route

A pattern is followed segment by segment, so the segments of a path can be read off the
pattern that it follows. A request is served by a route of its method whose pattern its path
follows (`destination_eq_found`). Only overlapping patterns share a path, and whether two
patterns overlap can be computed; where no others of its method overlap with it, a route
serves all its paths (`destination_of_unambiguous`).
-/

namespace RankFormula

/-- Whether a segment of a path can follow two segments of patterns. -/
def Segment.meets : Segment → Segment → Bool
  | .exact text, .exact other => text == other
  | _, _ => true

/-- A segment of a path follows a segment of a pattern. -/
def Segment.Takes : Segment → RawText → Prop
  | .exact text, segment => segment = .ofString text
  | .parameter _, _ => True

/-- Segments of patterns that take the same segment meet. -/
theorem Segment.Takes.meets {first second : Segment} {segment : RawText}
    (taken : first.Takes segment) (alsoTaken : second.Takes segment) :
    first.meets second = true := by
  cases first with
  | exact text =>
    cases second with
    | exact other =>
      have same : RawText.ofString text = .ofString other := taken.symm.trans alsoTaken
      simpa [Segment.meets] using same
    | parameter name => rfl
  | parameter name => rfl

namespace Pattern

/-- Whether a path can follow two patterns. -/
def overlaps : Pattern → Pattern → Bool
  | [], [] => true
  | segment :: pattern, other :: others => segment.meets other && overlaps pattern others
  | _, _ => false

variable {pattern : Pattern} {segments : List RawText} {parameters : List (String × RawText)}

/-- Only no segments follow the empty pattern. -/
@[simp] theorem parameters?_nil_eq_some :
    parameters? [] segments = some parameters ↔ segments = [] ∧ parameters = [] := by
  cases segments <;> simp [parameters?, eq_comm]

/-- A fixed segment is followed by its text. -/
@[simp] theorem parameters?_exact_eq_some {text : String} :
    parameters? (.exact text :: pattern) segments = some parameters ↔
      ∃ rest, segments = .ofString text :: rest ∧ parameters? pattern rest = some parameters := by
  cases segments with
  | nil => simp [parameters?]
  | cons segment segments =>
    rw [parameters?]
    split
    · next same => simp [← same]
    · next differs => simp [Ne.symm differs]

/-- A parameter is followed by any segment, which is its value. -/
@[simp] theorem parameters?_parameter_eq_some {name : String} :
    parameters? (.parameter name :: pattern) segments = some parameters ↔
      ∃ segment rest others, segments = segment :: rest ∧
        parameters? pattern rest = some others ∧ parameters = (name, segment) :: others := by
  cases segments with
  | nil => simp [parameters?]
  | cons segment segments =>
    simp only [parameters?, Option.map_eq_some_iff, List.cons.injEq]
    constructor
    · rintro ⟨others, found, rfl⟩
      exact ⟨segment, segments, others, ⟨rfl, rfl⟩, found, rfl⟩
    · rintro ⟨_, _, others, ⟨rfl, rfl⟩, found, rfl⟩
      exact ⟨others, found, rfl⟩

/-- Segments that follow a pattern start with one that its first segment takes. -/
theorem exists_of_followed {segment : Segment}
    (followed : parameters? (segment :: pattern) segments = some parameters) :
    ∃ first rest others, segments = first :: rest ∧ segment.Takes first ∧
      parameters? pattern rest = some others := by
  cases segment with
  | exact text =>
    obtain ⟨rest, rfl, inner⟩ := parameters?_exact_eq_some.mp followed
    exact ⟨_, rest, _, rfl, rfl, inner⟩
  | parameter name =>
    obtain ⟨first, rest, others, rfl, inner, -⟩ := parameters?_parameter_eq_some.mp followed
    exact ⟨first, rest, others, rfl, trivial, inner⟩

/-- Patterns that a path follows overlap. -/
theorem overlaps_of_followed {other : Pattern} {others : List (String × RawText)}
    (followed : parameters? pattern segments = some parameters)
    (alsoFollowed : parameters? other segments = some others) :
    overlaps pattern other = true := by
  induction pattern generalizing other segments parameters others with
  | nil =>
    obtain ⟨rfl, -⟩ := parameters?_nil_eq_some.mp followed
    cases other with
    | nil => rfl
    | cons segment other =>
      obtain ⟨_, _, _, missing, -⟩ := exists_of_followed alsoFollowed
      cases missing
  | cons segment pattern ih =>
    obtain ⟨first, rest, _, rfl, taken, inner⟩ := exists_of_followed followed
    cases other with
    | nil =>
      obtain ⟨missing, -⟩ := parameters?_nil_eq_some.mp alsoFollowed
      cases missing
    | cons otherSegment other =>
      obtain ⟨_, _, _, same, alsoTaken, alsoInner⟩ := exists_of_followed alsoFollowed
      cases same
      rw [overlaps, Bool.and_eq_true]
      exact ⟨taken.meets alsoTaken, ih inner alsoInner⟩

end Pattern

section Destination

variable {ε : Type} {routes : List (Route ε)} {route : Route ε} {method : String} {path : RawText}
  {parameters : List (String × RawText)}

/-- The segments of a path on a route follow its pattern. -/
theorem Route.pattern_of_parameters? (found : route.parameters? path = some parameters) :
    route.pattern.parameters? (pathSegments path) = some parameters := by
  unfold parameters? at found
  dsimp only at found
  split at found
  · contradiction
  · exact found

/-- A path follows a route that ends with a fixed segment if its segments do. -/
theorem Route.parameters?_of_pattern (fixed : route.pattern.endsWithParameter = false)
    (follows : route.pattern.parameters? (pathSegments path) = some parameters) :
    route.parameters? path = some parameters := by
  simp [parameters?, fixed, follows]

/-- A path follows a route if its segments do and the last of them is not empty. -/
theorem Route.parameters?_of_last (named : (pathSegments path).getLast? ≠ some (.ofString ""))
    (follows : route.pattern.parameters? (pathSegments path) = some parameters) :
    route.parameters? path = some parameters := by
  simp [parameters?, named, follows]

/-- A request is served by a route of its method that its path follows. -/
theorem destination_eq_found (found : destination routes method path = .found route parameters) :
    route ∈ routes ∧ route.method = method ∧ route.parameters? path = some parameters := by
  unfold destination at found
  dsimp only at found
  split at found
  · next hit first =>
    cases found
    obtain ⟨candidate, member, matched⟩ := List.exists_of_findSome?_eq_some first
    obtain ⟨given, follows, pair⟩ := Option.map_eq_some_iff.mp matched
    cases pair
    obtain ⟨listed, same⟩ := List.mem_filter.mp member
    exact ⟨listed, by simpa using same, follows⟩
  · split at found <;> contradiction

/-- A route serves its paths if its pattern overlaps with that of no other route of its
method. -/
theorem destination_of_unambiguous (listed : route ∈ routes) (same : route.method = method)
    (follows : route.parameters? path = some parameters)
    (unambiguous : ∀ other ∈ routes, other.method = method →
      other.pattern.overlaps route.pattern = true → other = route) :
    destination routes method path = .found route parameters := by
  have member : route ∈ routes.filter fun candidate => candidate.method = method :=
    List.mem_filter.mpr ⟨listed, by simpa using same⟩
  have first : (routes.filter fun candidate => candidate.method = method).findSome?
      (fun candidate => (candidate.parameters? path).map (candidate, ·)) =
        some (route, parameters) := by
    cases hit : (routes.filter fun candidate => candidate.method = method).findSome?
        (fun candidate => (candidate.parameters? path).map (candidate, ·)) with
    | none =>
      have missed := List.findSome?_eq_none_iff.mp hit route member
      simp [follows] at missed
    | some found =>
      obtain ⟨candidate, candidateMember, matched⟩ := List.exists_of_findSome?_eq_some hit
      obtain ⟨given, candidateFollows, rfl⟩ := Option.map_eq_some_iff.mp matched
      obtain ⟨candidateListed, candidateMethod⟩ := List.mem_filter.mp candidateMember
      have overlap : candidate.pattern.overlaps route.pattern = true :=
        Pattern.overlaps_of_followed (Route.pattern_of_parameters? candidateFollows)
          (Route.pattern_of_parameters? follows)
      obtain rfl := unambiguous candidate candidateListed (by simpa using candidateMethod) overlap
      rw [follows] at candidateFollows
      rw [Option.some.inj candidateFollows]
  unfold destination
  dsimp only
  rw [first]

end Destination
end RankFormula
