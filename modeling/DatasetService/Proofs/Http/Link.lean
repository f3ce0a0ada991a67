import DatasetService.Http.Server
import DatasetService.Proofs.Binding.Links

set_option autoImplicit false

/- Requests for the pages that links name. Such a request says nothing but its path and the window
of the page. -/
namespace DatasetService.Http

/-- The address of a page. -/
def pageUrl (base : String) (token : PageToken) : String := base ++ "?" ++ token.query

/-- The request of a client that follows a link. -/
def Request.following (url : String) : Request := { target := url }

/-- An address from a slash on is a path, as long as it has no fragment. -/
theorem Target.parse_of_rooted {text : String} {rest : List Char}
    (rooted : text.toList = '/' :: rest) (whole : '#' ∉ text.toList) :
    Target.parse text = Target.ofPath text.toList := by
  have uncut : text.toList.takeWhile (· != '#') = text.toList := by
    refine ((Text.run_eq_iff _ _ _ []).mpr ⟨by simp, fun c member => ?_, Text.halts_nil _⟩).1
    have other : c ≠ '#' := fun mark => whole (mark ▸ member)
    simpa using other
  unfold Target.parse
  rw [uncut]
  simp only [rooted]

section paths

variable {base : String} {rest : List Char} (rooted : base.toList = '/' :: rest)
  (plain : '?' ∉ base.toList ∧ '#' ∉ base.toList)
include rooted plain

/-- What is asked for is split at the first question mark. -/
theorem Target.parse_query {query : String} (whole : '#' ∉ query.toList) :
    Target.parse (base ++ "?" ++ query) = { path := base.toList, query := query.toList } := by
  have written : (base ++ "?" ++ query).toList = base.toList ++ '?' :: query.toList := by
    simp
  have begins : (base ++ "?" ++ query).toList = '/' :: (rest ++ '?' :: query.toList) := by
    rw [written, rooted, List.cons_append]
  have unfragmented : '#' ∉ (base ++ "?" ++ query).toList := by
    rw [written, List.mem_append, List.mem_cons, not_or, not_or]
    exact ⟨plain.2, by decide, whole⟩
  have split := (Text.run_eq_iff (· != '?') (base.toList ++ '?' :: query.toList) base.toList
    ('?' :: query.toList)).mpr
    ⟨rfl, fun c member => by simpa using fun mark : c = '?' => plain.1 (mark ▸ member), by simp⟩
  have nonempty : base.toList.isEmpty = false := by simp [rooted]
  rw [Target.parse_of_rooted begins unfragmented, written, Target.ofPath, split.1, split.2,
    nonempty]
  rfl

/-- A path alone asks for nothing more. -/
theorem Target.parse_path : Target.parse base = { path := base.toList, query := [] } := by
  have split := (Text.run_eq_iff (· != '?') base.toList base.toList []).mpr
    ⟨by simp, fun c member => by simpa using fun mark : c = '?' => plain.1 (mark ▸ member), by simp⟩
  have nonempty : base.toList.isEmpty = false := by simp [rooted]
  rw [Target.parse_of_rooted rooted plain.2, Target.ofPath, split.1, split.2, nonempty]
  rfl

end paths

theorem Target.parse_pageUrl {base : String} {rest : List Char} (token : PageToken)
    (rooted : base.toList = '/' :: rest) (plain : '?' ∉ base.toList ∧ '#' ∉ base.toList) :
    Target.parse (pageUrl base token) =
      { path := base.toList, query := token.query.toList } :=
  Target.parse_query rooted plain token.not_mem_query

/-- A body without a type contributes nothing. -/
theorem Body.values_untyped {request : Request} (untyped : request.header? "content-type" = none)
    (content : Content) : Body.values request content = .ok [] := by
  have kind : Body.essence "" = "" := by decide
  have other : "" ≠ jsonType ∧ "" ≠ Body.formType ∧ "" ≠ "multipart/form-data" := by decide
  simp only [Body.values, untyped, Option.getD_none, kind, other.1, other.2.1, other.2.2, if_false]

/-- What a request gives beside its body. -/
def Request.input (request : Request) (reference : Option String) : Binding.RawInput :=
  { reference, owner := request.owner.peername, query := request.query
    accept := request.header? "accept" }

theorem bindRequest_untyped (shape : ParamShape) (maxBytes : Nat) {request : Request}
    {captured : Option (List Char)} {reference : Option String}
    (untyped : request.header? "content-type" = none)
    (decoded : decodeReference captured = .ok reference) :
    bindRequest shape maxBytes request captured =
      Binding.bind shape (request.input reference) := by
  rw [bindRequest, bind_of_eq_ok decoded, bind_of_eq_ok (Body.values_untyped untyped _)]
  rfl

section following

variable {base : String} {rest : List Char} (token : PageToken)
  (rooted : base.toList = '/' :: rest) (plain : '?' ∉ base.toList ∧ '#' ∉ base.toList)
include rooted plain

theorem at_following :
    (Request.following (pageUrl base token)).at =
      { path := base.toList, query := token.query.toList } :=
  Target.parse_pageUrl token rooted plain

/-- What is bound from a followed link is its window and the reference in its path. -/
theorem bindRequest_following (shape : ParamShape) (maxBytes : Nat)
    {captured : Option (List Char)} {reference : Option String}
    (decoded : decodeReference captured = .ok reference) :
    bindRequest shape maxBytes (Request.following (pageUrl base token)) captured =
      Binding.bind shape (token.input reference) := by
  have query : (Request.following (pageUrl base token)).query = token.pairs := by
    rw [Request.query, at_following token rooted plain]
    exact token.formPairs_query
  have input : (Request.following (pageUrl base token)).input reference =
      token.input reference := by
    rw [Request.input, query]
    rfl
  rw [bindRequest_untyped shape maxBytes rfl decoded, input]

end following

/-- A list is asked for under one path. -/
theorem ofPath?_list : Route.ofPath? "/list".toList = some (.list, none) := by decide

/-- What a path begins with from which a route takes a reference. -/
def Route.start (route : Route) : List Char := route.pattern.toList.takeWhile (· != '*')

/-- Where one item alone is found, it is found first. -/
theorem findSome?_of_only {α β : Type} {find : α → Option β} {item : α} {result : β}
    {items : List α} (member : item ∈ items) (found : find item = some result)
    (only : ∀ other ∈ items, other ≠ item → find other = none) :
    items.findSome? find = some result := by
  induction items with
  | nil => cases member
  | cons first rest ih =>
      by_cases same : first = item
      · rw [List.findSome?_cons, same, found]
      · have inRest : item ∈ rest := (List.mem_cons.mp member).resolve_left (Ne.symm same)
        rw [List.findSome?_cons, only first List.mem_cons_self same]
        exact ih inRest fun other inside => only other (List.mem_cons_of_mem first inside)

/-- The routes that take a reference begin differently, so that each of them gets its own paths. -/
theorem ofPath?_start {route : Route} (takes : route ∈ [Route.history, .get, .publish, .save])
    {reference : List Char} (given : reference ≠ []) :
    Route.ofPath? (route.start ++ reference) = some (route, some reference) := by
  have long : ∀ route ∈ [Route.history, .get, .publish, .save], 3 ≤ route.start.length := by decide
  have apart : ∀ route ∈ [Route.history, .get, .publish, .save],
      (∀ other ∈ [Route.health, .sql, .list, .photo, .poster],
        other.pattern.toList.take 3 ≠ route.start.take 3) ∧
      ∀ other ∈ [Route.history, .get, .publish, .save],
        other.start.take 3 = route.start.take 3 → other = route := by decide
  have begins : (route.start ++ reference).take 3 = route.start.take 3 :=
    List.take_append_of_le_length (long route takes)
  have fixed : [Route.health, .sql, .list, .photo, .poster].find? (fun other =>
      other.pattern.toList == route.start ++ reference) = none := by
    rw [List.find?_eq_none]
    intro other member same
    refine (apart route takes).1 other member ?_
    rw [beq_iff_eq.mp same, begins]
  have own : route.start.isPrefixOf (route.start ++ reference) = true :=
    List.isPrefixOf_iff_prefix.mpr (List.prefix_append _ _)
  have full : reference.isEmpty = false := by simpa using given
  simp only [Route.ofPath?, fixed, ← Route.start.eq_def]
  refine findSome?_of_only takes ?_ fun other member unlike => ?_
  · simp only [own, List.drop_left, full, Bool.not_false, Bool.and_self, if_true]
  · have starts : other.start.isPrefixOf (route.start ++ reference) = false := by
      rw [Bool.eq_false_iff]
      intro starts
      obtain ⟨tail, same⟩ := List.isPrefixOf_iff_prefix.mp starts
      have first := congrArg (List.take 3) same
      rw [List.take_append_of_le_length (long other member), begins] at first
      exact unlike ((apart route takes).2 other member first)
    simp only [starts, Bool.false_and, Bool.false_eq_true, if_false]

/-- A history is asked for under a path that ends with its reference. -/
theorem ofPath?_history {reference : List Char} (given : reference ≠ []) :
    Route.ofPath? ("/history/".toList ++ reference) = some (.history, some reference) := by
  have start : "/history/".toList = Route.history.start := by decide
  rw [start]
  exact ofPath?_start (by decide) given

theorem ofPath?_get {reference : List Char} (given : reference ≠ []) :
    Route.ofPath? ("/get/".toList ++ reference) = some (.get, some reference) := by
  have start : "/get/".toList = Route.get.start := by decide
  rw [start]
  exact ofPath?_start (by decide) given

/-- Where no percent sign stands in a path, nothing is to be decoded. -/
theorem decodeReference_plain {text : String} (unmarked : '%' ∉ text.toList) :
    decodeReference (some text.toList) = .ok (some text) := by
  have plain : Text.percentDecode (Text.encode text.toList) = Text.bytesOf text :=
    Text.percentDecode_of_plain (Text.not_mem_encode (by decide) unmarked)
  simp only [decodeReference, plain, Text.stringOf?_bytesOf]

theorem decodeReference_slug {reference : Reference} (wellFormed : reference.WellFormed)
    (named : reference.hasName = true) :
    decodeReference (some reference.slug.toList) = .ok (some reference.slug) :=
  decodeReference_plain (wellFormed.not_mem_slug named (by decide) (by decide))

end DatasetService.Http
