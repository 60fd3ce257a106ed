import RankFormula.Proofs.Api.RankedPages
import RankFormula.Proofs.Api.ServerErrors
import RankFormula.Proofs.Formula.Tree

/-!
# Posts in ranked pages

The status of a ranked page is chosen before its body is written. A single value without a JSON
form, anywhere in a post, leaves the response without a body, and its status says success all the
same. `Value.writable_iff_forall_part` tells which values can be written, and
`Api.ranked_page_shows_posts_iff` which pages show the posts that were read.
-/

namespace RankFormula

namespace Value

/-- What has no JSON form of its own, whatever it is made of: a number that is not finite, and a
date with a year that no timestamp can hold. -/
def IsUnwritable : Value → Prop
  | .number (.single x) => x.isFinite = false
  | .number (.double x) => x.isFinite = false
  | .date t => t.hasTimestamp = false
  | _ => False

/-- A value can be written exactly if it has a JSON form of its own and its children can be
written. -/
theorem writable_iff_children (value : Value) :
    value.Writable ↔ ¬value.IsUnwritable ∧ ∀ child ∈ value.children, child.Writable := by
  cases value with
  | number n =>
    rw [writable_number]
    cases n <;> simp [Number.toDecimal?, Floating.isSome_toDecimal?, IsUnwritable, children]
  | date t =>
    rw [Writable, toJson?]
    cases shown : t.hasTimestamp <;> simp [IsUnwritable, children, shown]
  | list items => simp [IsUnwritable, children]
  | object fields => simp [writable_object, IsUnwritable, children]
  | document fields => simp [writable_document, IsUnwritable, children]
  | _ => simp [Writable, toJson?, IsUnwritable, children]

/-- The value of a field is smaller than the fields together. -/
theorem sizeOf_lt_of_mem_fields {child : Value} {fields : List (String × Value)}
    (member : child ∈ fields.map Prod.snd) : sizeOf child < sizeOf fields := by
  obtain ⟨name, field⟩ := exists_field member
  have smaller := List.sizeOf_lt_of_mem field
  rw [Prod.mk.sizeOf_spec] at smaller
  omega

/-- A child is smaller than what it is a child of. -/
theorem sizeOf_lt_of_mem_children {child value : Value} (member : child ∈ value.children) :
    sizeOf child < sizeOf value := by
  cases value with
  | list items =>
    rw [list.sizeOf_spec]
    exact Nat.lt_add_left 1 (List.sizeOf_lt_of_mem member)
  | object fields =>
    rw [object.sizeOf_spec]
    exact Nat.lt_add_left 1 (sizeOf_lt_of_mem_fields member)
  | document fields =>
    rw [document.sizeOf_spec]
    exact Nat.lt_add_left 1 (sizeOf_lt_of_mem_fields member)
  | _ => cases member

/-- A value can be written exactly if everything that occurs in it has a JSON form of its own,
however deep. -/
theorem writable_iff_forall_part (value : Value) :
    value.Writable ↔ ∀ part : Value, part.OccursIn value → ¬part.IsUnwritable := by
  have each (child : Value) (member : child ∈ value.children) := child.writable_iff_forall_part
  rw [writable_iff_children, forall₂_congr each]
  constructor
  · rintro ⟨own, below⟩ part occurs
    rcases occursIn_iff_children.mp occurs with rfl | ⟨child, member, inside⟩
    · exact own
    · exact below child member part inside
  · intro all
    exact ⟨all value .here, fun child member part inside =>
      all part (occursIn_iff_children.mpr (.inr ⟨child, member, inside⟩))⟩
termination_by sizeOf value
decreasing_by exact sizeOf_lt_of_mem_children member

/-- Items can be written exactly if everything that occurs in them has a JSON form of its own. -/
theorem isSome_itemsToJson?_iff_forall_part {items : List Value} :
    (itemsToJson? items).isSome = true ↔
      ∀ item ∈ items, ∀ part : Value, part.OccursIn item → ¬part.IsUnwritable := by
  rw [isSome_itemsToJson?]
  exact forall₂_congr fun item _ => item.writable_iff_forall_part

/-- There are as many JSON forms as items. -/
theorem length_itemsToJson? {items : List Value} {written : List Json}
    (shown : itemsToJson? items = some written) : written.length = items.length := by
  induction items generalizing written with
  | nil =>
    obtain rfl := Option.some.inj shown
    rfl
  | cons item items ih =>
    simp only [itemsToJson?, bind, Option.bind_eq_some_iff, Option.some.injEq] at shown
    obtain ⟨head, -, tail, rest, rfl⟩ := shown
    rw [List.length_cons, List.length_cons, ih rest]

end Value

/-- The tree of a formula that was made from a text can be written. -/
theorem Formula.writable_tree {whitelist : Whitelist} {source : RawText} {formula : Formula}
    (made : Formula.ofText whitelist source = .ok formula) : formula.tree.Writable := by
  obtain ⟨node, parsed, compiled⟩ := ofText_eq_ok.mp made
  exact (ofNode_eq_ok.mp compiled).2.1.writable (Node.printable_of_parse parsed)

namespace Response

/-- A response lists so many posts. -/
def ListsPosts (response : Response) (count : Nat) : Prop :=
  ∃ items, response.member? "posts" = some (.array items) ∧ items.length = count

/-- What a response shows of the posts that were read for it. -/
structure ShowsPosts (response : Response) (posts : Option (List Value)) : Prop where
  /-- It lists them all, and no others, if they can be written. -/
  lists : ∀ count, response.ListsPosts count ↔
    ∃ list, posts = some list ∧ list.length = count ∧
      ∀ post ∈ list, ∀ part : Value, part.OccursIn post → ¬part.IsUnwritable
  /-- It carries nothing, if there is one that cannot be written. -/
  empty : response.body = .text "" ↔
    ∃ list, posts = some list ∧ ∃ post ∈ list, ∃ part : Value, part.OccursIn post ∧
      part.IsUnwritable
  /-- It says that there is no list, if there is none. -/
  missing : response.member? "posts" = some .null ↔ posts = none

namespace ShowsPosts

/-- What a response shows does not depend on its tag. -/
theorem withTag {response : Response} {posts : Option (List Value)}
    (shows : response.ShowsPosts posts) (tag : Option RequestTag) :
    (response.withTag tag).ShowsPosts posts :=
  ⟨shows.lists, shows.empty, shows.missing⟩

/-- A page whose posts were written shows them. -/
theorem of_written {posts : Option (List Value)} {written : Json}
    (shown : postsJson? posts = some written) (window formula : Json) :
    (Response.json 200 (.object
      [("posts", written), ("pagination", window), ("formula", formula)])).ShowsPosts posts := by
  generalize carried : Response.json 200 (.object
    [("posts", written), ("pagination", window), ("formula", formula)]) = response
  have member : response.member? "posts" = some written := by rw [← carried]; rfl
  have filled : response.body ≠ .text "" := by
    rw [← carried]
    exact Body.noConfusion
  cases posts with
  | none =>
    obtain rfl : Json.null = written := Option.some.inj shown
    constructor
    · simp [ListsPosts, member]
    · simp [filled]
    · simp [member]
  | some list =>
    obtain ⟨items, each, rfl⟩ := Option.map_eq_some_iff.mp shown
    have writable := Value.isSome_itemsToJson?_iff_forall_part.mp (Option.isSome_of_eq_some each)
    constructor
    · intro count
      simp only [ListsPosts, member, Option.some.injEq, Json.array.injEq, exists_eq_left',
        Value.length_itemsToJson? each]
      exact ⟨fun length => ⟨length, writable⟩, And.left⟩
    · refine iff_of_false filled ?_
      rintro ⟨_, ⟨⟩, post, listed, part, inside, unwritable⟩
      exact writable post listed part inside unwritable
    · simp [member]

/-- A page whose posts were not written has one that cannot be. -/
theorem of_unwritten {posts : Option (List Value)} (unshown : postsJson? posts = none) :
    (Response.text 200 "").ShowsPosts posts := by
  cases posts with
  | none => cases unshown
  | some list =>
    have unwritable : ¬∀ post ∈ list, ∀ part : Value, part.OccursIn post → ¬part.IsUnwritable := by
      rw [← Value.isSome_itemsToJson?_iff_forall_part, Option.map_eq_none_iff.mp unshown]
      decide
    constructor
    · intro count
      refine iff_of_false (fun ⟨_, shown, _⟩ => nomatch shown) ?_
      rintro ⟨_, ⟨⟩, -, writable⟩
      exact unwritable writable
    · refine iff_of_true rfl ⟨list, rfl, ?_⟩
      simpa only [not_forall, not_not, exists_prop] using unwritable
    · exact iff_of_false (fun shown => nomatch shown) (fun absent => nomatch absent)

end ShowsPosts

end Response

/-- The posts that a call answered. -/
def AnsweredCall.posts? : AnsweredCall → Option (Option (List Value))
  | ⟨.ranked _ _, .ok posts⟩ => some posts
  | _ => none

namespace Api

variable {σ : Type} {instanceID : String}

/-- The posts that calls answered, in order. -/
def postsRead (exchanges : List AnsweredCall) : List (Option (List Value)) :=
  exchanges.filterMap AnsweredCall.posts?

/-- Posts are read by a call that ranks and succeeds. -/
theorem mem_postsRead {exchanges : List AnsweredCall} {posts : Option (List Value)} :
    posts ∈ postsRead exchanges ↔
      ∃ instanceID pipeline, ⟨.ranked instanceID pipeline, .ok posts⟩ ∈ exchanges := by
  rw [postsRead, List.mem_filterMap]
  constructor
  · rintro ⟨⟨call, reply⟩, member, answered⟩
    unfold AnsweredCall.posts? at answered
    split at answered
    · next ranked =>
      obtain rfl := Option.some.inj answered
      exact ⟨_, _, ranked ▸ member⟩
    · cases answered
  · rintro ⟨_, _, member⟩
    exact ⟨_, member, rfl⟩

/-- A page shows the posts that were read for it. -/
theorem showsPosts_rankedPage (posts : Option (List Value)) (window : PageWindow)
    {formula : Formula} (writable : formula.tree.Writable) :
    (Response.ofJson? 200 (rankedPage? posts window formula)).ShowsPosts posts := by
  obtain ⟨tree, written⟩ := Option.isSome_iff_exists.mp writable
  simp only [rankedPage?, Formula.toJson?, written, Option.map_some, bind]
  cases shown : postsJson? posts with
  | none => exact .of_unwritten shown
  | some json => exact .of_written shown _ _

/-- How a ranking ends: it reads no posts and does not succeed, or it reads posts once, succeeds
and shows them. -/
def RankingEnds (exchanges : List AnsweredCall) (response : Response) : Prop :=
  (postsRead exchanges = [] ∧ response.status ≠ 200) ∨
    ∃ posts, postsRead exchanges = [posts] ∧ response.status = 200 ∧ response.ShowsPosts posts

/-- Calls that read no posts may come before the end of a ranking. -/
theorem RankingEnds.after {earlier later : List AnsweredCall} {response : Response}
    (ends : RankingEnds later response) (unread : postsRead earlier = []) :
    RankingEnds (earlier ++ later) response := by
  have read : postsRead (earlier ++ later) = postsRead later := by
    rw [postsRead, List.filterMap_append]
    exact congrArg (· ++ postsRead later) unread
  rw [RankingEnds, read]
  exact ends

/-- How a ranking ends does not depend on the tag of its response. -/
theorem RankingEnds.withTag {exchanges : List AnsweredCall} {response : Response}
    (ends : RankingEnds exchanges response) (tag : Option RequestTag) :
    RankingEnds exchanges (response.withTag tag) := by
  rcases ends with unread | ⟨posts, read, succeeds, shows⟩
  · exact .inl unread
  · exact .inr ⟨posts, read, succeeds, shows.withTag tag⟩

/-- If a search for the source of a ranking finds none, the response is no success. -/
def FailsWithoutSource (source : Except Response RankingSource) : Prop :=
  ∀ response, source = .error response → response.status ≠ 200

/-- A failure is no success. -/
theorem failsWithoutSource_failure {status : Nat} (message : String) (fails : status ≠ 200) :
    FailsWithoutSource (.error (.failure status message)) := by
  rintro _ ⟨⟩
  exact fails

/-- A source that was found is no failure. -/
theorem failsWithoutSource_ok (source : RankingSource) : FailsWithoutSource (.ok source) :=
  fun _ found => nomatch found

/-- The search for the source of a ranking succeeds only if it finds one. -/
theorem rankingSource_endsIn (instanceID : String) (query : Query) :
    (rankingSource instanceID query).EndsIn FailsWithoutSource := by
  unfold rankingSource
  dsimp only
  split
  · exact failsWithoutSource_failure _ (by decide)
  · split
    · exact failsWithoutSource_ok _
    · split
      · exact failsWithoutSource_failure _ (by decide)
      · rintro (fault | formula)
        · cases fault <;> exact failsWithoutSource_failure _ (by decide)
        · by_cases valid : formula.valid = true
          · simp only [Dialogue.bind, valid, if_true]
            exact failsWithoutSource_ok _
          · simp only [Dialogue.bind, valid, Bool.false_eq_true, if_false]
            exact failsWithoutSource_failure _ (by decide)

/-- Looking up formulas reads no posts. -/
theorem postsRead_of_looked {lookups : List AnsweredCall}
    (looked : ∀ exchange ∈ lookups, ∃ key, exchange.1 = .formulaByKey instanceID key) :
    postsRead lookups = [] := by
  rw [postsRead, List.filterMap_eq_nil_iff]
  rintro ⟨call, reply⟩ member
  obtain ⟨key, rfl⟩ := looked _ member
  rfl

/-- How a ranking with a formula ends. -/
theorem rankWith_ends (api : Api) (instanceID : String) (page : PageQuery) {formula : Formula}
    (writable : formula.tree.Writable) :
    (api.rankWith instanceID page formula).AllPlays RankingEnds := by
  rintro (fault | window)
  · exact .inl ⟨rfl, by decide⟩
  · rintro (fault | posts)
    · exact .inl ⟨rfl, by decide⟩
    · refine .inr ⟨posts, rfl, ?_, showsPosts_rankedPage posts window writable⟩
      exact Response.status_ofJson? _ _

/-- How a ranking ends. -/
theorem rankedPosts_ends (api : Api) (instanceID : String) (query : Query) :
    (api.rankedPosts instanceID query).AllPlays RankingEnds := by
  rw [rankedPosts_eq]
  split
  · exact .inl ⟨rfl, (by decide : 400 ≠ 200)⟩
  · next page _ =>
    have searched := (rankingSource_looksUp instanceID query).allPlays.endsIn
      (rankingSource_endsIn instanceID query)
    refine searched.bind fun lookups source ⟨looked, fails⟩ => ?_
    have unread : postsRead lookups = [] := postsRead_of_looked looked
    rcases source with response | source
    · rw [rankFrom]
      exact .after (.inl ⟨rfl, fails response rfl⟩) unread
    · rw [rankFrom]
      split
      · next error _ =>
        have refused : source.refusalStatus ≠ 200 := by
          cases source <;> simp [RankingSource.refusalStatus]
        exact .after (.inl ⟨rfl, refused⟩) unread
      · next formula made =>
        have ends := api.rankWith_ends instanceID page (Formula.writable_tree made)
        exact ends.imp fun later response ending => ending.after unread

/-- How a request for ranked posts ends. -/
theorem respond_ends (api : Api) (now : Instant) {request : Request}
    (method : request.method = "GET")
    (path : pathSegments request.path =
      instancePath instanceID [.ofString "posts", .ofString "ranked"]) :
    (api.respond now request).AllPlays fun exchanges outcome =>
      ∃ response, outcome = .answered response ∧ RankingEnds exchanges response := by
  rcases respond_rankedPosts_cases api now method path with ⟨refusal, tag, refused⟩ | reached
  · rw [refused]
    have fails : refusal.status ≠ 200 := by cases refusal <;> decide
    exact ⟨_, rfl, .inl ⟨rfl, fails⟩⟩
  · rw [reached]
    exact tagged_allPlays (rankedPosts_ends api instanceID request.query)
      fun _ _ ending => ending.withTag _

/-- Which ranked pages show their posts. Whatever the request for ranked posts and whatever the
store answers, either no posts are read and the response is no success, or they are read once and
the response is one. Then it lists as many posts as were read exactly if everything that occurs in
them has a JSON form of its own, and otherwise it carries nothing at all. -/
theorem ranked_page_shows_posts (api : Api) (now : Instant) {request : Request}
    (method : request.method = "GET")
    (path : pathSegments request.path =
      instancePath instanceID [.ofString "posts", .ofString "ranked"])
    (answer : σ → (call : StoreCall) → Except StoreFault call.Answer × σ) (state : σ) :
    let read := postsRead ((api.respond now request).exchanges answer state)
    ∃ response, ((api.respond now request).run answer state).result = .answered response ∧
      ((read = [] ∧ response.status ≠ 200) ∨
        ∃ posts, read = [posts] ∧ response.status = 200 ∧ response.ShowsPosts posts) := by
  obtain ⟨response, answered, ends⟩ := (respond_ends api now method path).run answer state
  exact ⟨response, answered, ends⟩

/-- A post whose score is not a number. -/
def scorelessPost : Value := .object [("_id", .string "p1"), ("score", .number (.double .nan))]

/-- A store that answers that post to every ranking. -/
def scorelessStore (_ : Unit) (call : StoreCall) : Except StoreFault call.Answer × Unit :=
  (({ blogStore with posts := some [scorelessPost] }.answer call).1, ())

/-- A page of one post whose score is not a number is a success that carries nothing. -/
theorem ranked_page_shows_posts_scoreless :
    let request := blogRanking "expression=likes"
    postsRead ((blog.respond .zero request).exchanges scorelessStore ()) =
        [some [scorelessPost]] ∧
      ∃ response, ((blog.respond .zero request).run scorelessStore ()).result =
          .answered response ∧
        response.status = 200 ∧ response.body = .text "" ∧ ∀ count, ¬response.ListsPosts count := by
  intro request
  have path : pathSegments request.path =
      instancePath "blog" [.ofString "posts", .ofString "ranked"] := by decide
  have reads : (postsRead ((blog.respond .zero request).exchanges scorelessStore ())).isEmpty =
      false := by decide +kernel
  obtain ⟨response, answered, ⟨unread, -⟩ | ⟨posts, read, succeeds, shows⟩⟩ :=
    ranked_page_shows_posts blog .zero rfl path scorelessStore ()
  · rw [unread] at reads
    cases reads
  · obtain ⟨_, pipeline, exchange⟩ := mem_postsRead.mp (read ▸ List.mem_singleton.mpr rfl)
    obtain ⟨_, given⟩ := Dialogue.exists_answer_of_mem_exchanges exchange
    obtain rfl : some [scorelessPost] = posts := Except.ok.inj given
    have inside : (Value.number (.double .nan)).OccursIn scorelessPost :=
      .objectField (List.mem_cons_of_mem _ List.mem_cons_self) .here
    have unwritable : (Value.number (.double .nan)).IsUnwritable := rfl
    refine ⟨read, response, answered, succeeds, ?_, fun count lists => ?_⟩
    · exact shows.empty.mpr ⟨_, rfl, _, List.mem_singleton.mpr rfl, _, inside, unwritable⟩
    · obtain ⟨_, ⟨⟩, -, writable⟩ := (shows.lists count).mp lists
      exact writable _ (List.mem_singleton.mpr rfl) _ inside unwritable

end Api
end RankFormula
