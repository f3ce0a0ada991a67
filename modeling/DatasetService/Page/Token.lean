import DatasetService.Page.Window
import DatasetService.Text.Percent

set_option autoImplicit false

/- Page tokens: which page of a list a window lies on, and the pages beside it. -/
namespace DatasetService

/-- One page of a list. Limit and offset alone determine the others. -/
structure PageToken where
  page : Nat
  pageSize : Nat
  limit : Nat
  offset : Nat
  orderBy : Option String := none
deriving DecidableEq, Repr

namespace PageToken

/-- The page that holds the offset of a window; its own offset is that of its first item. -/
def ofWindow (limit offset : Nat) : PageToken :=
  let window := Window.clamp limit offset
  let index := window.offset / window.limit
  { page := index + 1
    pageSize := window.limit
    limit := window.limit
    offset := index * window.limit }

def withOrder (token : PageToken) (orderBy : Option String) : PageToken :=
  { token with orderBy }

/-- The page after this one; counts end at the greatest of 64 bits. -/
def next (token : PageToken) : PageToken :=
  (ofWindow token.limit (min (token.offset + token.limit) maxCount)).withOrder token.orderBy

/-- The page before this one, unless it is the first. -/
def prev (token : PageToken) : Option PageToken :=
  if 0 < token.offset then
    some ((ofWindow token.limit (token.offset - token.limit)).withOrder token.orderBy)
  else none

/-- The parameters of a request for this page. -/
def query (token : PageToken) : String :=
  "limit=" ++ toString token.limit ++ "&offset=" ++ toString token.offset ++
    match token.orderBy with
    | some orderBy => "&order_by=" ++ String.ofList (Text.percentEncode orderBy.toList)
    | none => ""

end PageToken

/-- The pagination of a response, with the addresses of the pages beside it. -/
structure Pagination where
  page : Nat
  pageSize : Nat
  limit : Nat
  offset : Nat
  nextUrl : Option String
  prevUrl : Option String
deriving DecidableEq, Repr

/-- The pagination of a page of which `returned` items are sent. A page that is not full
has none after it. -/
def Pagination.of (base : String) (token : PageToken) (returned : Nat) : Pagination :=
  { page := token.page
    pageSize := token.pageSize
    limit := token.limit
    offset := token.offset
    nextUrl :=
      if token.limit ≤ returned then some (base ++ "?" ++ token.next.query) else none
    prevUrl := token.prev.map fun prev => base ++ "?" ++ prev.query }

end DatasetService
