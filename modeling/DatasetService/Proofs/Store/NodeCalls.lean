import DatasetService.Proofs.Store.InPlace

set_option autoImplicit false

/- What a call does to a node. Only three kinds of calls change its store, each by the change of
the same name, and a call that fails changes nothing. -/
namespace DatasetService

/-- The change that a call makes, if it is one that may change a store. -/
def Call.change? (time : Instant) : Call → Option Store.Change
  | .save reference request => some (.save reference request time)
  | .publish reference remote => some (.publish reference remote)
  | .unpublish reference remote => some (.unpublish reference remote)
  | _ => none

namespace Node

/-- The answer of an operation and the node after it, with `more` versions saved if it succeeds. -/
def settled (node : Node) (more : Nat) :
    Except StoreError (Version × Store) → Except StoreError Version × Node
  | .ok (version, after) => (.ok version, { store := after, saves := node.saves + more })
  | .error error => (.error error, node)

theorem settled_of_error {node : Node} {more : Nat} {error : StoreError}
    {operation : Except StoreError (Version × Store)}
    (failed : (node.settled more operation).1 = .error error) :
    (node.settled more operation).2 = node := by
  cases operation with
  | ok result => cases failed
  | error other => rfl

theorem update_of_settled {node : Node} {work : InPlace Version}
    {operation : Except StoreError (Version × Store)}
    (settles : work.outcome node.store = node.store.settled operation) :
    node.update work = node.settled 0 operation := by
  have outcome : node.update work =
      ((work.outcome node.store).1, { node with store := (work.outcome node.store).2 }) := rfl
  rw [outcome, settles]
  cases operation <;> rfl

theorem save_eq (clock : Nat → Instant) (node : Node) (reference : Reference)
    (request : SaveRequest) :
    node.save clock reference request =
      node.settled 1 (node.store.save reference request (clock node.saves)) := by
  rw [save, update_of_settled (InPlace.outcome_save ..)]
  cases node.store.save reference request (clock node.saves) <;> rfl

theorem publish_eq (node : Node) (reference : Reference) (remote : String) :
    node.update (InPlace.publish reference remote) =
      node.settled 0 (node.store.publish reference remote) :=
  update_of_settled (InPlace.outcome_publish node.store reference remote)

theorem unpublish_eq (node : Node) (reference : Reference) (remote : String) :
    node.update (InPlace.unpublish reference remote) =
      node.settled 0 (node.store.unpublish reference remote) :=
  update_of_settled (InPlace.outcome_unpublish node.store reference remote)

theorem answer_of_read {call : Call} {clock : Nat → Instant} {node : Node}
    (reads : call.change? (clock node.saves) = none) : (node.answer clock call).2 = node := by
  cases call <;> first | rfl | cases reads

/-- A call that fails leaves the node as it was. -/
theorem answer_of_error {clock : Nat → Instant} {node : Node} {call : Call} {error : StoreError}
    (failed : (node.answer clock call).1 = .error error) : (node.answer clock call).2 = node := by
  cases call with
  | save reference request =>
      simp only [answer, save_eq] at failed ⊢
      exact settled_of_error failed
  | publish reference remote =>
      simp only [answer, publish_eq] at failed ⊢
      exact settled_of_error failed
  | unpublish reference remote =>
      simp only [answer, unpublish_eq] at failed ⊢
      exact settled_of_error failed
  | _ => rfl

end Node
end DatasetService
