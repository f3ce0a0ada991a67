import DatasetService.Version

set_option autoImplicit false

/- The routes of a server, and the operation that each method of a route stands for. -/
namespace DatasetService.Http

inductive Operation
  | health
  | history
  | query
  | get
  | list
  | publish
  | unpublish
  | save
  | image (kind : ImageKind)
deriving DecidableEq, Repr

inductive Route
  | health
  | history
  | sql
  | get
  | list
  | publish
  | save
  | photo
  | poster
deriving DecidableEq, Repr

namespace Route

/-- A route as it is declared: `*` stands for the rest of a path, which is not empty. -/
def pattern : Route → String
  | .health => "/health"
  | .history => "/history/*reference"
  | .sql => "/sql"
  | .get => "/get/*reference"
  | .list => "/list"
  | .publish => "/publish/*reference"
  | .save => "/save/*reference"
  | .photo => "/profile/photo"
  | .poster => "/profile/poster"

/-- The operation of a method. -/
def served : Route → String → Option Operation
  | .health, "GET" => some .health
  | .history, "GET" => some .history
  | .sql, "GET" => some .query
  | .sql, "POST" => some .query
  | .get, "GET" => some .get
  | .list, "GET" => some .list
  | .publish, "POST" => some .publish
  | .publish, "DELETE" => some .unpublish
  | .save, "POST" => some .save
  | .photo, "GET" => some (.image .photo)
  | .poster, "GET" => some (.image .poster)
  | _, _ => none

/-- A method without an operation of its own: `HEAD` is `GET` without the body. -/
def operation? (route : Route) (method : String) : Option Operation :=
  if method = "HEAD" then route.served "GET" else route.served method

/-- The route of a path, and the rest of the path where the route asks for one. -/
def ofPath? (path : List Char) : Option (Route × Option (List Char)) :=
  let fixed := [Route.health, .sql, .list, .photo, .poster].find? fun route =>
    route.pattern.toList == path
  match fixed with
  | some route => some (route, none)
  | none =>
      [Route.history, .get, .publish, .save].findSome? fun route =>
        let start := route.pattern.toList.takeWhile (· != '*')
        let rest := path.drop start.length
        if start.isPrefixOf path && !rest.isEmpty then some (route, some rest) else none

end Route
end DatasetService.Http
