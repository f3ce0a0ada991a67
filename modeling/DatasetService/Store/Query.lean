import DatasetService.Reference.Parser
import DatasetService.Store.Read

set_option autoImplicit false

/- Queries: `SELECT * FROM username/name [LIMIT n]`, in any letter case. -/
namespace DatasetService

/-- The rows of one dataset, or the first of them. -/
structure Query where
  reference : Reference
  limit : Option Nat
deriving DecidableEq, Repr

namespace Query

def unsupported : StoreError :=
  .invalid "unsupported query, expected SELECT * FROM username/name [LIMIT n]"

def isKeyword (keyword : String) (token : List Char) : Bool :=
  Text.lower token == keyword.toList

/-- The words of a query, without the semicolons at its end. -/
def tokens (query : String) : List (List Char) :=
  let text := Text.dropEndWhile (· == ';') (Text.trim query.toList)
  (Text.splitWhere Text.isBlank text).filter (! ·.isEmpty)

/-- The table and the limit that a query names. -/
def clauses (tokens : List (List Char)) : Except StoreError (List Char × Option Nat) :=
  match tokens with
  | [select, ['*'], source, table] =>
      if isKeyword "select" select && isKeyword "from" source then .ok (table, none)
      else .error unsupported
  | [select, ['*'], source, table, limit, count] =>
      if isKeyword "select" select && isKeyword "from" source && isKeyword "limit" limit then
        match Literal.count? count with
        | some count => .ok (table, some count)
        | none => .error unsupported
      else .error unsupported
  | _ => .error unsupported

def parse (query : String) : Except StoreError Query := do
  let (table, limit) ← clauses (tokens query)
  match Reference.parseChars table with
  | .error error => .error (.invalid
      ("invalid table \"" ++ String.ofList table ++ "\": " ++ error.message))
  | .ok reference =>
      if reference.hasName then return { reference, limit } else .error unsupported

end Query

/-- The rows that a query asks for. -/
def Store.exec (store : Store) (query : String) (format : Format) :
    Except StoreError Payload := do
  let query ← Query.parse query
  let snapshot ← store.snapshot query.reference
  match format with
  | .json =>
      let rows := match query.limit with
        | some count => snapshot.table.objects.take count
        | none => snapshot.table.objects
      return .bytes (Text.bytesOf (Json.Value.array rows).compact)
  | .csv => return .bytes (← snapshot.table.csv query.limit)
  | .zip => .error (.invalid "query results cannot be rendered as zip")

end DatasetService
