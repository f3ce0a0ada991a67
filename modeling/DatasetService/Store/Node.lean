import DatasetService.Backend
import DatasetService.Store.InPlace
import DatasetService.Store.Query
import DatasetService.Store.Seed

set_option autoImplicit false

/- A node: a store that answers calls at once, with a clock for the versions it makes. -/
namespace DatasetService

structure Node where
  store : Store
  /-- How many versions were saved. -/
  saves : Nat := 0

namespace Node

/-- Work on the store of a node. -/
def update (node : Node) (work : InPlace Version) : Except StoreError Version × Node :=
  let (result, store) := work.run.run node.store
  (result, { node with store })

/-- Save at the next reading of the clock. -/
def save (clock : Nat → Instant) (node : Node) (reference : Reference) (request : SaveRequest) :
    Except StoreError Version × Node :=
  let (result, after) := node.update (InPlace.save reference request (clock node.saves))
  match result with
  | .ok version => (.ok version, { after with saves := node.saves + 1 })
  | .error error => (.error error, after)

/-- What a call returns, and the node after it. -/
def answer (clock : Nat → Instant) (node : Node) :
    (call : Call) → Except StoreError call.Answer × Node
  | .log reference params => (node.store.log reference params, node)
  | .fetch reference remote => (node.store.fetch reference remote, node)
  | .exec query format => (node.store.exec query format, node)
  | .get reference format => (node.store.get reference format, node)
  | .list params => (.ok (node.store.list params), node)
  | .save reference request => node.save clock reference request
  | .publish reference remote => node.update (InPlace.publish reference remote)
  | .unpublish reference remote => node.update (InPlace.unpublish reference remote)
  | .image kind peername id => (node.store.image kind peername id, node)

/-- A node as a backend. The clock gives the time of each version, by its number. -/
def backend (clock : Nat → Instant) : Backend Node := fun call node =>
  let (result, after) := node.answer clock call
  (.after 0 result, after)

end Node
end DatasetService
