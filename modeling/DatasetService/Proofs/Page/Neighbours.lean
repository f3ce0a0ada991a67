import DatasetService.Proofs.Binding.PageTokens

set_option autoImplicit false

/- The arithmetic of page tokens. No number on the way to a token leaves 64 bits, a step to the next
page and one back undo each other, and the last page that counts reach is followed by itself. -/
namespace DatasetService.PageToken

/-- A count, if it is one of 64 bits. -/
def count? (value : Nat) : Option Nat := if value ≤ maxCount then some value else none

/-- A quotient, unless the divisor is zero. -/
def quotient? (dividend divisor : Nat) : Option Nat :=
  if divisor = 0 then none else some (dividend / divisor)

/-- The token of a window in arithmetic that fails on a division by zero, and where a number does
not fit into 64 bits. -/
def ofWindow? (limit offset : Nat) : Option PageToken := do
  let window := Window.clamp limit offset
  let index ← quotient? window.offset window.limit
  let page ← count? (index + 1)
  let start ← count? (index * window.limit)
  return { page, pageSize := window.limit, limit := window.limit, offset := start }

/-- No number of a token is too great, as the offset it is computed from is a signed count. -/
theorem ofWindow?_eq (limit offset : Nat) :
    ofWindow? limit offset = some (ofWindow limit offset) := by
  let window := Window.clamp limit offset
  have positive : 0 < window.limit := Window.clamp_limit_pos limit offset
  have signed : maxInt + 1 ≤ maxCount := by decide
  have offsetFits : window.offset ≤ maxInt := by
    rw [Window.clamp_offset]
    exact Nat.min_le_right _ _
  have index : window.offset / window.limit ≤ window.offset := Nat.div_le_self _ _
  have start : window.offset / window.limit * window.limit ≤ window.offset :=
    Nat.div_mul_le_self _ _
  have divides : quotient? window.offset window.limit = some (window.offset / window.limit) :=
    if_neg (Nat.ne_of_gt positive)
  have number :
      count? (window.offset / window.limit + 1) = some (window.offset / window.limit + 1) :=
    if_pos (by omega)
  have begins : count? (window.offset / window.limit * window.limit) =
      some (window.offset / window.limit * window.limit) := if_pos (by omega)
  show (quotient? window.offset window.limit).bind _ = _
  rw [divides, Option.bind_some]
  show (count? (window.offset / window.limit + 1)).bind _ = _
  rw [number, Option.bind_some]
  show (count? (window.offset / window.limit * window.limit)).bind _ = _
  rw [begins]
  rfl

/-- A token that tells where a window starts: its page is a whole one, and holds the offset. -/
structure Places (token : PageToken) (limit offset : Nat) : Prop where
  /-- No division by zero and no overflow. -/
  computed : ofWindow? limit offset = some { token with orderBy := none }
  limit_eq : token.limit = (Window.clamp limit offset).limit
  pageSize_eq : token.pageSize = token.limit
  positive : 1 ≤ token.limit
  first : 1 ≤ token.page
  start : token.offset = (token.page - 1) * token.limit
  notAfter : token.offset ≤ (Window.clamp limit offset).offset
  notBefore : (Window.clamp limit offset).offset < token.offset + token.limit
  /-- The page of its own window is the page that it tells. -/
  again : (ofWindow token.limit token.offset).withOrder token.orderBy = token

theorem places_ofWindow (limit offset : Nat) (orderBy : Option String) :
    ((ofWindow limit offset).withOrder orderBy).Places limit offset := by
  let window := Window.clamp limit offset
  have positive : 0 < window.limit := Window.clamp_limit_pos limit offset
  have whole : window.limit * (window.offset / window.limit) + window.offset % window.limit =
      window.offset := Nat.div_add_mod _ _
  have part : window.offset % window.limit < window.limit := Nat.mod_lt _ positive
  have start : ((ofWindow limit offset).withOrder orderBy).offset =
      window.offset / window.limit * window.limit := rfl
  have size : ((ofWindow limit offset).withOrder orderBy).limit = window.limit := rfl
  rw [Nat.mul_comm] at whole
  refine ⟨ofWindow?_eq limit offset, rfl, rfl, positive, Nat.succ_pos _, ?_, ?_, ?_,
    (onPage_ofWindow limit offset orderBy).page_eq⟩
  · exact congrArg (· * window.limit) (Nat.add_sub_cancel _ 1).symm
  · rw [start]
    exact Nat.div_mul_le_self _ _
  · rw [start, size]
    show window.offset < _
    omega

/-- The page before a page is the one that it follows. -/
theorem prev_numbered {limit index : Nat} (orderBy : Option String) (positive : 0 < limit)
    (limitFits : limit ≤ maxInt) (fits : (index + 1) * limit ≤ maxInt) :
    (numbered limit (index + 1) orderBy).prev = some (numbered limit index orderBy) := by
  have sum : (index + 1) * limit = index * limit + limit := by rw [Nat.add_mul, Nat.one_mul]
  have later : 0 < (index + 1) * limit := Nat.mul_pos (Nat.succ_pos _) positive
  have before : (index + 1) * limit - limit = index * limit := by omega
  show (if 0 < (index + 1) * limit then
    some ((ofWindow limit ((index + 1) * limit - limit)).withOrder orderBy) else none) = _
  rw [if_pos later, before, withOrder_ofWindow orderBy positive limitFits (by omega),
    Nat.mul_div_cancel _ positive]

/-- Where the page after a page would start beyond the signed counts, the offset stops at the last
of them, which is on the same page. -/
theorem next_numbered_last {limit index : Nat} (orderBy : Option String) (positive : 0 < limit)
    (limitFits : limit ≤ maxInt) (fits : index * limit ≤ maxInt)
    (last : maxInt < index * limit + limit) :
    (numbered limit index orderBy).next = numbered limit index orderBy := by
  have signed : maxInt ≤ maxCount := by decide
  have stops : Window.clamp limit (min (index * limit + limit) maxCount) =
      { limit, offset := maxInt } := by
    have bounded := Window.clamp_of_bounded positive limitFits (Nat.le_refl maxInt)
    have offset : min (min (index * limit + limit) maxCount) maxInt = min maxInt maxInt := by omega
    rw [Window.clamp, offset]
    exact bounded
  have same : maxInt / limit = index := by
    refine Nat.div_eq_of_lt_le fits ?_
    rw [Nat.add_mul, Nat.one_mul]
    exact last
  show (ofWindow limit (min (index * limit + limit) maxCount)).withOrder orderBy = _
  simp only [ofWindow, stops, same]
  rfl

/-- Where the steps from a page lead, and that the step to the other side leads back. -/
structure Steps (token : PageToken) : Prop where
  /-- The next page is one further on, as long as its offset is a signed count. -/
  goesOn : token.offset + token.limit ≤ maxInt →
    token.next =
      { token with page := token.page + 1, offset := token.offset + token.limit } ∧
    token.next.prev = some token
  /-- The last page that signed counts reach is followed by itself. -/
  ends : maxInt < token.offset + token.limit → token.next = token
  isFirst : token.prev = none ↔ token.page = 1
  returns : ∀ before, token.prev = some before → before.next = token

theorem steps_numbered {limit index : Nat} (orderBy : Option String) (positive : 0 < limit)
    (limitFits : limit ≤ maxInt) (fits : index * limit ≤ maxInt) :
    (numbered limit index orderBy).Steps := by
  have sum : (index + 1) * limit = index * limit + limit := by rw [Nat.add_mul, Nat.one_mul]
  constructor
  · intro room
    change index * limit + limit ≤ maxInt at room
    rw [← sum] at room
    rw [next_numbered orderBy positive limitFits room]
    refine ⟨?_, prev_numbered orderBy positive limitFits room⟩
    simp only [numbered, sum]
  · intro last
    exact next_numbered_last orderBy positive limitFits fits last
  · cases index with
    | zero =>
        have start : (numbered limit 0 orderBy).offset = 0 := Nat.zero_mul limit
        exact iff_of_true (if_neg (by rw [start]; exact Nat.lt_irrefl 0)) rfl
    | succ before =>
        rw [prev_numbered orderBy positive limitFits fits]
        exact iff_of_false (Option.some_ne_none _) (by simp [numbered])
  · intro before earlier
    cases index with
    | zero =>
        have start : (numbered limit 0 orderBy).offset = 0 := Nat.zero_mul limit
        unfold PageToken.prev at earlier
        rw [start] at earlier
        cases earlier
    | succ index =>
        rw [prev_numbered orderBy positive limitFits fits] at earlier
        cases earlier
        exact next_numbered orderBy positive limitFits fits

theorem Reached.steps {token : PageToken} (reached : token.Reached) : token.Steps := by
  obtain ⟨bounded, whole⟩ := reached.onPage
  have start : token.offset / token.limit * token.limit ≤ token.offset := Nat.div_mul_le_self _ _
  rw [whole]
  exact steps_numbered token.orderBy bounded.positive bounded.limitFits
    (Nat.le_trans start bounded.offsetFits)

/-- Whatever limit and offset are asked for, the token tells the page that the clamped offset is on,
by arithmetic that stays within 64 bits. From every token that steps lead to from such a one, the
next page is one further on, and the step back returns from it; only where it would start beyond the
signed counts is a page followed by itself. The first page alone has none before it. From any token
at all, whatever its numbers are, the steps lead to tokens that tell a page in the same way. -/
theorem steps_keep_place :
    (∀ limit offset, (ofWindow limit offset).Places limit offset) ∧
    (∀ token : PageToken, token.Reached → token.Steps) ∧
    (∀ token : PageToken,
      token.next.Places token.limit (min (token.offset + token.limit) maxCount) ∧
      ∀ before, token.prev = some before →
        before.Places token.limit (token.offset - token.limit)) := by
  refine ⟨fun limit offset => places_ofWindow limit offset none, fun _ reached => reached.steps, ?_⟩
  intro token
  refine ⟨places_ofWindow _ _ _, fun before earlier => ?_⟩
  unfold PageToken.prev at earlier
  split at earlier
  · cases earlier
    exact places_ofWindow _ _ _
  · cases earlier

/-- The last page of 25 is followed by itself, and the step back from it is undone. -/
theorem farthest_followed_by_itself :
    farthest.Reached ∧ maxInt < farthest.offset + farthest.limit ∧ farthest.next = farthest ∧
    ∃ before, farthest.prev = some before ∧ before.next = farthest := by
  have reached : farthest.Reached := .next (.window 25 maxCount (some orderByName))
  have last : maxInt < farthest.offset + farthest.limit := by decide
  have earlier : farthest.prev = some ((ofWindow 25 9223372036854775775).withOrder
    (some orderByName)) := by decide
  obtain ⟨-, steps, -⟩ := steps_keep_place
  have found := steps farthest reached
  exact ⟨reached, last, found.ends last, _, earlier, found.returns _ earlier⟩

end DatasetService.PageToken
