import DatasetService.Proofs.Binding.Links
import DatasetService.Proofs.Page.Crawl

set_option autoImplicit false

/- The tokens that a client comes to by its requests and their links. Each of them is the token of a
whole page within bounds, so that its link is read as its own values, and leads to its page. -/
namespace DatasetService.PageToken

/-- The tokens of windows, and of the pages beside those on either side. -/
inductive Reached : PageToken → Prop
  | window (limit offset : Nat) (orderBy : Option String) :
      Reached ((ofWindow limit offset).withOrder orderBy)
  | next {token : PageToken} (reached : Reached token) : Reached token.next
  | prev {token before : PageToken} (reached : Reached token) (earlier : token.prev = some before) :
      Reached before

/-- A token of a whole page, whose window is within bounds. -/
structure OnPage (token : PageToken) : Prop where
  bounded : token.Bounded
  whole : token = numbered token.limit (token.offset / token.limit) token.orderBy

/-- Whatever window is asked for, its token is that of the page which the window starts on. -/
theorem onPage_ofWindow (limit offset : Nat) (orderBy : Option String) :
    ((ofWindow limit offset).withOrder orderBy).OnPage := by
  let window := Window.clamp limit offset
  let index := window.offset / window.limit
  have positive : 0 < window.limit := Window.clamp_limit_pos limit offset
  have limitFits : window.limit ≤ maxInt := Window.clamp_limit_le limit offset
  have offsetFits : window.offset ≤ maxInt := by
    rw [Window.clamp_offset]
    exact Nat.min_le_right _ _
  have start : index * window.limit ≤ window.offset := Nat.div_mul_le_self _ _
  have made : (ofWindow limit offset).withOrder orderBy = numbered window.limit index orderBy := rfl
  rw [made]
  constructor
  · exact ⟨positive, limitFits, Nat.le_trans start offsetFits⟩
  · show numbered window.limit index orderBy =
      numbered window.limit (index * window.limit / window.limit) orderBy
    rw [Nat.mul_div_cancel _ positive]

/-- A step to either side asks for a window anew. -/
theorem Reached.onPage {token : PageToken} (reached : token.Reached) : token.OnPage := by
  cases reached with
  | window limit offset orderBy => exact onPage_ofWindow limit offset orderBy
  | next reached => exact onPage_ofWindow _ _ _
  | @prev token before reached earlier =>
      unfold PageToken.prev at earlier
      split at earlier
      · cases earlier
        exact onPage_ofWindow _ _ _
      · cases earlier

/-- The window of a page has the token of the page. -/
theorem OnPage.page_eq {token : PageToken} (onPage : token.OnPage) :
    ListParams.page
      { limit := token.limit, offset := token.offset, orderBy := token.orderBy } = token := by
  obtain ⟨bounded, whole⟩ := onPage
  show (ofWindow token.limit token.offset).withOrder token.orderBy = token
  rw [withOrder_ofWindow token.orderBy bounded.positive bounded.limitFits bounded.offsetFits]
  exact whole.symm

/-- An order that lists do not have is refused. -/
theorem bind_list_of_unordered {token : PageToken} (bounded : token.Bounded) {order : String}
    (given : token.orderBy = some order) (other : order ≠ orderByUpdated ∧ order ≠ orderByName) :
    ∃ message, Binding.bind .list (token.input none) = .error (.badRequest message) := by
  have refused : ∃ message, ListParams.validate
      { limit := token.limit, offset := token.offset, orderBy := token.orderBy } =
        .error message := by
    simp [ListParams.validate, given, other.1, other.2]
  obtain ⟨message, refused⟩ := refused
  refine ⟨message, ?_⟩
  rw [bind_list_eq bounded]
  simp only [Binding.validated, ParamShape.validate, refused]

/-- A token that a client comes to by any number of steps has a link that is read as its limit, its
offset and its order, whatever the text of that order is. The parameters that these are bound to
have the same values, and the token of their window is the token of the link. Only an order that
lists do not have is refused. -/
theorem links_bind_back {token : PageToken} (reached : token.Reached) :
    Text.formPairs (Text.bytesOf token.query) =
      [("limit", toString token.limit), ("offset", toString token.offset)] ++
        (token.orderBy.map fun orderBy => ("order_by", orderBy)).toList ∧
    ((∀ order ∈ token.orderBy, order = orderByUpdated ∨ order = orderByName) →
      ∃ params : ListParams,
        Binding.bind .list { query := Text.formPairs (Text.bytesOf token.query) } = .ok params ∧
        params = { limit := token.limit, offset := token.offset, orderBy := token.orderBy } ∧
        params.page = token) ∧
    (∀ order ∈ token.orderBy, order ≠ orderByUpdated → order ≠ orderByName →
      ∃ message, Binding.bind .list { query := Text.formPairs (Text.bytesOf token.query) } =
        .error (.badRequest message)) := by
  have onPage := reached.onPage
  have read := formPairs_query token
  refine ⟨read, ?_, ?_⟩
  · intro ordered
    rw [read]
    exact ⟨_, bind_list onPage.bounded ordered, rfl, onPage.page_eq⟩
  · intro order given notUpdated notName
    rw [read]
    exact bind_list_of_unordered onPage.bounded given ⟨notUpdated, notName⟩

/-- The page after the last of the pages that counts reach, by name. -/
def farthest : PageToken := ((ofWindow 25 maxCount).withOrder (some orderByName)).next

theorem farthest_binds_back :
    farthest.Reached ∧
    Text.formPairs (Text.bytesOf farthest.query) =
      [("limit", "25"), ("offset", "9223372036854775800"), ("order_by", "name")] ∧
    ∃ params : ListParams,
      Binding.bind .list { query := Text.formPairs (Text.bytesOf farthest.query) } = .ok params ∧
      params.page = farthest := by
  have reached : farthest.Reached := .next (.window 25 maxCount (some orderByName))
  obtain ⟨read, bound, -⟩ := links_bind_back reached
  obtain ⟨params, binds, -, page⟩ := bound (by decide)
  exact ⟨reached, read, params, binds, page⟩

end DatasetService.PageToken
