import DatasetService.Error
import DatasetService.Text.Split

set_option autoImplicit false

/- The gate of a server that is read-only. Routes are judged by their first segment. -/
namespace DatasetService.Access

inductive Kind
  | read
  | mutating
deriving DecidableEq, Repr

/-- The routes that a read-only server does not serve. A query is arbitrary work, so
queries are among them. -/
def gatedRoutes : List String := ["/sql", "/publish", "/save"]

def rootChars : List Char → List Char
  | '/' :: rest => '/' :: rest.takeWhile (· != '/')
  | route => route.takeWhile (· != '/')

/-- The first segment of a route, with the slash before it. -/
def root (route : String) : String := String.ofList (rootChars route.toList)

def classify (route : String) : Kind :=
  if gatedRoutes.contains (root route) then .mutating else .read

/-- Refuse what may change state on a read-only server. -/
def check (readOnly : Bool) (route : String) : Except ApiError Unit :=
  if readOnly && classify route = .mutating then .error (.forbidden (root route)) else .ok ()

end DatasetService.Access
