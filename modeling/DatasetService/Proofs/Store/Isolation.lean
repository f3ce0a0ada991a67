import DatasetService.Proofs.Store.Run
import DatasetService.Store.Query

set_option autoImplicit false

/- Datasets do not interfere. What an operation answers and changes depends on the history of its
own dataset and on what remotes hold of it, so that operations on other datasets can be left out of
a run. -/
namespace DatasetService

namespace Assoc

variable {κ α : Type} [DecidableEq κ]

theorem mem_keys_of_mem_keys_set {key other : κ} {value : α} {map : Assoc κ α}
    (member : other ∈ keys (set key value map)) : other = key ∨ other ∈ keys map := by
  obtain ⟨entry, isEntry, rfl⟩ := List.mem_map.mp member
  rcases mem_of_mem_set isEntry with rfl | old
  · exact Or.inl rfl
  · exact Or.inr (List.mem_map_of_mem old)

theorem nodup_keys_set (key : κ) (value : α) {map : Assoc κ α} (distinct : (keys map).Nodup) :
    (keys (set key value map)).Nodup := by
  induction map with
  | nil => exact List.pairwise_singleton _ key
  | cons pair rest ih =>
      obtain ⟨other, old⟩ := pair
      obtain ⟨unique, others⟩ := List.nodup_cons.mp distinct
      simp only [set]
      split
      · rename_i same
        subst same
        exact distinct
      · rename_i differs
        refine List.nodup_cons.mpr ⟨fun member => ?_, ih others⟩
        exact (mem_keys_of_mem_keys_set member).elim differs unique

theorem nodup_keys_remove (key : κ) {map : Assoc κ α} (distinct : (keys map).Nodup) :
    (keys (remove key map)).Nodup := by
  induction map with
  | nil => exact distinct
  | cons pair rest ih =>
      obtain ⟨other, old⟩ := pair
      obtain ⟨unique, others⟩ := List.nodup_cons.mp distinct
      simp only [remove]
      split
      · exact others
      · refine List.nodup_cons.mpr ⟨fun member => unique ?_, ih others⟩
        obtain ⟨entry, isEntry, isKey⟩ := List.mem_map.mp member
        exact List.mem_map.mpr ⟨entry, mem_of_mem_remove isEntry, isKey⟩

theorem get?_eq_none {key : κ} {map : Assoc κ α} (absent : key ∉ keys map) :
    get? key map = none := by
  cases found : get? key map with
  | none => rfl
  | some value => exact absurd (List.mem_map_of_mem (mem_of_get? found)) absent

theorem get?_of_mem {key : κ} {value : α} {map : Assoc κ α} (distinct : (keys map).Nodup)
    (member : (key, value) ∈ map) : get? key map = some value := by
  induction map with
  | nil => cases member
  | cons pair rest ih =>
      obtain ⟨other, old⟩ := pair
      obtain ⟨unique, others⟩ := List.nodup_cons.mp distinct
      rcases List.mem_cons.mp member with first | later
      · cases first
        simp only [get?, if_true]
      · have differs : other ≠ key := by
          intro same
          exact unique (List.mem_map.mpr ⟨_, later, same.symm⟩)
        simp only [get?, if_neg differs, ih others later]

theorem get?_remove_self (key : κ) {map : Assoc κ α} (distinct : (keys map).Nodup) :
    get? key (remove key map) = none := by
  induction map with
  | nil => rfl
  | cons pair rest ih =>
      obtain ⟨other, old⟩ := pair
      obtain ⟨unique, others⟩ := List.nodup_cons.mp distinct
      simp only [remove]
      split
      · rename_i same
        subst same
        exact get?_eq_none unique
      · rename_i differs
        simp only [get?, if_neg differs, ih others]

end Assoc

namespace Store

/-- A call that may change a store, or a question about one dataset. -/
inductive Operation
  | change (call : Change)
  | log (reference : Reference) (params : ListParams)
  | fetch (reference : Reference) (remote : String)
  | get (reference : Reference) (format : Format)
  | exec (query : String) (format : Format)

inductive Answer
  | done
  | version (result : Except StoreError Version)
  | versions (result : Except StoreError (List Version))
  | content (result : Except StoreError Payload)

/-- The dataset that a call may change. -/
def Change.key? : Change → Option DatasetKey
  | .addRemote _ => none
  | .save reference _ _ => some reference.key
  | .publish reference _ => some reference.key
  | .unpublish reference _ => some reference.key

/-- What a call returns, and the store after it. -/
def Change.result (store : Store) : Change → Option (Except StoreError (Version × Store))
  | .addRemote _ => none
  | .save reference request time => some (store.save reference request time)
  | .publish reference remote => some (store.publish reference remote)
  | .unpublish reference remote => some (store.unpublish reference remote)

namespace Operation

/-- The dataset that an operation is about. Neither the adding of a remote is about one, nor a text
that is not a query. -/
def key? : Operation → Option DatasetKey
  | .change call => call.key?
  | .log reference _ => some reference.key
  | .fetch reference _ => some reference.key
  | .get reference _ => some reference.key
  | .exec query _ =>
      match Query.parse query with
      | .ok query => some query.reference.key
      | .error _ => none

/-- Whether an operation is not about another dataset. -/
def concerns (key : DatasetKey) (operation : Operation) : Bool := operation.key?.all (· = key)

def answer (store : Store) : Operation → Answer
  | .change call =>
      match call.result store with
      | some result => .version (result.map Prod.fst)
      | none => .done
  | .log reference params => .versions (store.log reference params)
  | .fetch reference remote => .versions (store.fetch reference remote)
  | .get reference format => .content (store.get reference format)
  | .exec query format => .content (store.exec query format)

def after (store : Store) : Operation → Store
  | .change call => store.apply call
  | _ => store

end Operation

/-- The operations of a run, each with its answer. -/
def transcript (store : Store) : List Operation → List (Operation × Answer)
  | [] => []
  | operation :: operations =>
      (operation, operation.answer store) :: (operation.after store).transcript operations

/-- The store after a run. -/
def performed (store : Store) (operations : List Operation) : Store :=
  operations.foldl Operation.after store

/-- What a remote holds of a dataset, if the remote is known. -/
def heldBy? (store : Store) (remote : String) (key : DatasetKey) : Option (Option (List Version)) :=
  (Assoc.get? remote store.remotes).map (Assoc.get? key)

theorem heldBy?_setCopies (store : Store) (remote other : String)
    (histories : Assoc DatasetKey (List Version)) (key : DatasetKey) :
    (store.setCopies remote histories).heldBy? other key =
      if other = remote then some (Assoc.get? key histories) else store.heldBy? other key := by
  simp only [heldBy?, remotes_setCopies, Assoc.get?_set]
  split <;> rfl

theorem heldBy?_of_known {store : Store} {remote : String}
    {histories : Assoc DatasetKey (List Version)} (known : store.remote? remote = some histories)
    (key : DatasetKey) :
    store.heldBy? (remoteName remote) key = some (Assoc.get? key histories) := by
  rw [heldBy?, show Assoc.get? (remoteName remote) store.remotes = some histories from known]
  rfl

/-- No remote holds two histories of one dataset. -/
def Distinct (store : Store) : Prop :=
  ∀ remote histories, (remote, histories) ∈ store.remotes → (Assoc.keys histories).Nodup

theorem Distinct.setCopies {store : Store} (distinct : Distinct store) (remote : String)
    {histories : Assoc DatasetKey (List Version)} (single : (Assoc.keys histories).Nodup) :
    Distinct (store.setCopies remote histories) := by
  intro other held member
  rcases Assoc.mem_of_mem_set member with changed | old
  · cases changed
    exact single
  · exact distinct other held old

theorem distinct_step {store after : Store} {change : Change} (step : Step store change after)
    (distinct : Distinct store) : Distinct after := by
  cases step with
  | unchanged => exact distinct
  | remoteAdded unknown => exact distinct.setCopies _ List.nodup_nil
  | saved read => exact distinct
  | published nonempty known =>
      have single := distinct _ _ (Assoc.mem_of_get? known)
      exact Distinct.setCopies distinct _ (Assoc.nodup_keys_set _ _ single)
  | unpublished nonempty known =>
      have single := distinct _ _ (Assoc.mem_of_get? known)
      exact Distinct.setCopies distinct _ (Assoc.nodup_keys_remove _ single)

theorem distinct_start (start : Start) : Distinct start.store := by
  intro remote histories member
  cases start with
  | empty =>
      cases List.mem_singleton.mp member
      exact List.nodup_nil
  | seeded clock profileId =>
      simp only [Start.store, seeded, List.mem_cons, List.not_mem_nil, or_false,
        Prod.mk.injEq] at member
      rcases member with ⟨-, rfl⟩ | ⟨-, rfl⟩ <;> exact List.pairwise_singleton _ census

theorem distinct_after {store : Store} (distinct : Distinct store) (operation : Operation) :
    Distinct (operation.after store) := by
  cases operation with
  | change call => exact distinct_step (step_apply store call) distinct
  | _ => exact distinct

/-- Two stores look the same to operations on one dataset. -/
structure AgreeOn (key : DatasetKey) (left right : Store) : Prop where
  history : right.history? key = left.history? key
  copies : ∀ remote, right.heldBy? remote key = left.heldBy? remote key
  profiles : right.profiles = left.profiles

namespace AgreeOn

variable {key : DatasetKey} {left right third : Store}

theorem refl (store : Store) : AgreeOn key store store := ⟨rfl, fun _ => rfl, rfl⟩

theorem symm (agree : AgreeOn key left right) : AgreeOn key right left :=
  ⟨agree.history.symm, fun remote => (agree.copies remote).symm, agree.profiles.symm⟩

theorem trans (first : AgreeOn key left right) (second : AgreeOn key right third) :
    AgreeOn key left third :=
  ⟨second.history.trans first.history,
    fun remote => (second.copies remote).trans (first.copies remote),
    second.profiles.trans first.profiles⟩

theorem setHistory (agree : AgreeOn key left right) (other : DatasetKey)
    (history : List Snapshot) :
    AgreeOn key (left.setHistory other history) (right.setHistory other history) where
  history := by
    rw [history?_setHistory, history?_setHistory, agree.history]
  copies := agree.copies
  profiles := agree.profiles

theorem setCopies (agree : AgreeOn key left right) (remote : String)
    {ours theirs : Assoc DatasetKey (List Version)}
    (same : Assoc.get? key theirs = Assoc.get? key ours) :
    AgreeOn key (left.setCopies remote ours) (right.setCopies remote theirs) where
  history := agree.history
  copies other := by
    rw [heldBy?_setCopies, heldBy?_setCopies, agree.copies, same]
  profiles := agree.profiles

/-- A remote is known to both stores or to none, and holds the same of the dataset. -/
theorem remote? (agree : AgreeOn key left right) (remote : String) :
    (left.remote? remote = none ∧ right.remote? remote = none) ∨
      ∃ ours theirs, left.remote? remote = some ours ∧ right.remote? remote = some theirs ∧
        Assoc.get? key theirs = Assoc.get? key ours := by
  have same := agree.copies (remoteName remote)
  simp only [heldBy?] at same
  unfold Store.remote?
  cases ours : Assoc.get? (remoteName remote) left.remotes with
  | none =>
      rw [ours, Option.map_none, Option.map_eq_none_iff] at same
      exact Or.inl ⟨rfl, same⟩
  | some histories =>
      rw [ours, Option.map_some, Option.map_eq_some_iff] at same
      obtain ⟨theirs, known, equal⟩ := same
      exact Or.inr ⟨histories, theirs, rfl, known, equal⟩

end AgreeOn

/-- A call on one dataset changes nothing that operations on another see. -/
theorem Step.agreeOn {store after : Store} {change : Change} {key other : DatasetKey}
    (step : Step store change after) (about : change.key? = some other) (differs : other ≠ key) :
    AgreeOn key store after := by
  have apart {reference : Reference} (given : some reference.key = some other) :
      key ≠ reference.key := by
    cases given
    exact differs.symm
  have untouched (reference : Reference) (given : some reference.key = some other)
      (history : List Snapshot) : AgreeOn key store (store.setHistory reference.key history) :=
    { history := by rw [history?_setHistory, if_neg (apart given)]
      copies := fun _ => rfl
      profiles := rfl }
  have elsewhere {remote : String} {histories : Assoc DatasetKey (List Version)}
      (known : store.remote? remote = some histories) {left : Store}
      (agree : AgreeOn key store left) {changed : Assoc DatasetKey (List Version)}
      (same : Assoc.get? key changed = Assoc.get? key histories) :
      AgreeOn key store (left.setCopies (remoteName remote) changed) :=
    { history := agree.history
      copies := fun remote => by
        rw [heldBy?_setCopies]
        split
        · rename_i isRemote
          rw [same, isRemote, heldBy?_of_known known]
        · exact agree.copies remote
      profiles := agree.profiles }
  cases step with
  | unchanged => exact .refl store
  | remoteAdded unknown => cases about
  | saved read => exact untouched _ about _
  | published nonempty known =>
      exact elsewhere known (untouched _ about _) (Assoc.get?_set_of_ne _ _ _ _ (apart about))
  | unpublished nonempty known =>
      exact elsewhere known (untouched _ about _) (Assoc.get?_remove_of_ne _ _ _ (apart about))

/-- Two results of a call: the same failure, or the same version and stores that agree. -/
inductive Alike (key : DatasetKey) :
    Except StoreError (Version × Store) → Except StoreError (Version × Store) → Prop
  | failed (error : StoreError) : Alike key (.error error) (.error error)
  | succeeded {left right : Store} (version : Version) (agree : AgreeOn key left right) :
      Alike key (.ok (version, left)) (.ok (version, right))

theorem Alike.answers {key : DatasetKey} {ours theirs : Except StoreError (Version × Store)}
    (alike : Alike key ours theirs) : theirs.map Prod.fst = ours.map Prod.fst := by
  cases alike <;> rfl

theorem Alike.kept {key : DatasetKey} {left right : Store}
    {ours theirs : Except StoreError (Version × Store)} (alike : Alike key ours theirs)
    (agree : AgreeOn key left right) : AgreeOn key (left.kept ours) (right.kept theirs) := by
  cases alike with
  | failed error => exact agree
  | succeeded version after => exact after

section congruence

variable {reference : Reference} {left right : Store} (agree : AgreeOn reference.key left right)
include agree

theorem log_congr (params : ListParams) :
    right.log reference params = left.log reference params := by
  simp only [log, agree.history]

theorem fetch_congr (remote : String) :
    right.fetch reference remote = left.fetch reference remote := by
  rcases agree.remote? remote with ⟨ours, theirs⟩ | ⟨_, _, ours, theirs, same⟩
  · simp only [fetch, ours, theirs]
  · simp only [fetch, ours, theirs, same]

theorem snapshot_congr : right.snapshot reference = left.snapshot reference := by
  simp only [snapshot, agree.history]

theorem save_alike (request : SaveRequest) (time : Instant) :
    Alike reference.key (left.save reference request time) (right.save reference request time) := by
  have profile : right.profileId? reference.username = left.profileId? reference.username := by
    rw [profileId?, profileId?, agree.profiles]
  have known : right.versions reference.key = left.versions reference.key := by
    rw [versions, versions, agree.history]
  unfold save newSnapshot
  simp only [known, profile]
  cases newTable reference (left.versions reference.key).head? request.body with
  | error error => exact .failed error
  | ok read => exact .succeeded _ (agree.setHistory _ _)

theorem publish_alike (remote : String) :
    Alike reference.key (left.publish reference remote) (right.publish reference remote) := by
  unfold publish
  rw [agree.history]
  cases left.history? reference.key with
  | none => exact .failed _
  | some history =>
      cases history with
      | nil => exact .failed _
      | cons newest older =>
          rcases agree.remote? remote with ⟨ours, theirs⟩ | ⟨_, _, ours, theirs, same⟩
          · simp only [ours, theirs]
            exact .failed _
          · simp only [ours, theirs]
            refine .succeeded _ ((agree.setHistory _ _).setCopies _ ?_)
            rw [Assoc.get?_set_self, Assoc.get?_set_self]

theorem unpublish_alike (distinct : Distinct left) (distinct' : Distinct right) (remote : String) :
    Alike reference.key (left.unpublish reference remote) (right.unpublish reference remote) := by
  unfold unpublish
  rw [agree.history]
  cases left.history? reference.key with
  | none => exact .failed _
  | some history =>
      cases history with
      | nil => exact .failed _
      | cons newest older =>
          rcases agree.remote? remote with ⟨ours, theirs⟩ | ⟨_, _, ours, theirs, same⟩
          · simp only [ours, theirs]
            exact .failed _
          · simp only [ours, theirs, same]
            split
            · exact .failed _
            · refine .succeeded _ ((agree.setHistory _ _).setCopies _ ?_)
              rw [Assoc.get?_remove_self _ (distinct' _ _ (Assoc.mem_of_get? theirs)),
                Assoc.get?_remove_self _ (distinct _ _ (Assoc.mem_of_get? ours))]

end congruence

theorem addRemote_agreeOn {key : DatasetKey} {left right : Store} (agree : AgreeOn key left right)
    (name : String) : AgreeOn key (left.addRemote name) (right.addRemote name) := by
  have same := agree.copies name
  simp only [heldBy?] at same
  cases ours : Assoc.get? name left.remotes with
  | none =>
      rw [ours, Option.map_none, Option.map_eq_none_iff] at same
      rw [addRemote_of_unknown ours, addRemote_of_unknown same]
      exact agree.setCopies name rfl
  | some histories =>
      rw [ours, Option.map_some, Option.map_eq_some_iff] at same
      obtain ⟨theirs, known, -⟩ := same
      rwa [addRemote_of_known ours, addRemote_of_known known]

theorem change_congr {key : DatasetKey} {left right : Store} (agree : AgreeOn key left right)
    (distinct : Distinct left) (distinct' : Distinct right) {call : Change}
    (concerned : (Operation.change call).concerns key = true) :
    (Operation.change call).answer right = (Operation.change call).answer left ∧
      AgreeOn key (left.apply call) (right.apply call) := by
  have settle {ours theirs : Except StoreError (Version × Store)} (alike : Alike key ours theirs) :
      Answer.version (theirs.map Prod.fst) = Answer.version (ours.map Prod.fst) ∧
        AgreeOn key (left.kept ours) (right.kept theirs) :=
    ⟨congrArg Answer.version alike.answers, alike.kept agree⟩
  cases call with
  | addRemote name => exact ⟨rfl, addRemote_agreeOn agree name⟩
  | save reference request time =>
      obtain rfl : reference.key = key := of_decide_eq_true concerned
      exact settle (save_alike agree request time)
  | publish reference remote =>
      obtain rfl : reference.key = key := of_decide_eq_true concerned
      exact settle (publish_alike agree remote)
  | unpublish reference remote =>
      obtain rfl : reference.key = key := of_decide_eq_true concerned
      exact settle (unpublish_alike agree distinct distinct' remote)

/-- An operation that is not about another dataset answers the same to stores that agree on its
own, and leaves them in agreement. -/
theorem operation_congr {key : DatasetKey} {left right : Store} (agree : AgreeOn key left right)
    (distinct : Distinct left) (distinct' : Distinct right) {operation : Operation}
    (concerned : operation.concerns key = true) :
    operation.answer right = operation.answer left ∧
      AgreeOn key (operation.after left) (operation.after right) := by
  cases operation with
  | change call => exact change_congr agree distinct distinct' concerned
  | log reference params =>
      obtain rfl : reference.key = key := of_decide_eq_true concerned
      exact ⟨congrArg Answer.versions (log_congr agree params), agree⟩
  | fetch reference remote =>
      obtain rfl : reference.key = key := of_decide_eq_true concerned
      exact ⟨congrArg Answer.versions (fetch_congr agree remote), agree⟩
  | get reference format =>
      obtain rfl : reference.key = key := of_decide_eq_true concerned
      refine ⟨congrArg Answer.content ?_, agree⟩
      simp only [get, snapshot_congr agree]
  | exec text format =>
      refine ⟨congrArg Answer.content ?_, agree⟩
      unfold exec
      cases read : Query.parse text with
      | error error => rfl
      | ok query =>
          have about : query.reference.key = key := by
            simpa [Operation.concerns, Operation.key?, read] using concerned
          subst about
          simp only [bind, Except.bind, snapshot_congr agree]

/-- An operation about another dataset is not seen. -/
theorem after_agreeOn {key : DatasetKey} (store : Store) {operation : Operation}
    (foreign : operation.concerns key = false) : AgreeOn key store (operation.after store) := by
  cases operation with
  | change call =>
      cases about : call.key? with
      | none => simp [Operation.concerns, Operation.key?, about] at foreign
      | some other =>
          refine (step_apply store call).agreeOn about ?_
          simpa [Operation.concerns, Operation.key?, about] using foreign
  | _ => exact .refl store

theorem transcript_agree {key : DatasetKey} {left right : Store} (operations : List Operation)
    (agree : AgreeOn key left right) (distinct : Distinct left) (distinct' : Distinct right) :
    right.transcript (operations.filter (·.concerns key)) =
        (left.transcript operations).filter (·.1.concerns key) ∧
      AgreeOn key (left.performed operations)
        (right.performed (operations.filter (·.concerns key))) := by
  induction operations generalizing left right with
  | nil => exact ⟨rfl, agree⟩
  | cons operation operations ih =>
      cases concerned : operation.concerns key with
      | true =>
          obtain ⟨answers, after⟩ := operation_congr agree distinct distinct' concerned
          obtain ⟨rest, final⟩ := ih after (distinct_after distinct operation)
            (distinct_after distinct' operation)
          rw [List.filter_cons_of_pos concerned]
          refine ⟨?_, final⟩
          rw [transcript, transcript, List.filter_cons_of_pos (by exact concerned), answers, rest]
      | false =>
          have after := (after_agreeOn left concerned).symm.trans agree
          obtain ⟨rest, final⟩ := ih after (distinct_after distinct operation) distinct'
          have passed : ¬ operation.concerns key = true := by simp [concerned]
          rw [List.filter_cons_of_neg passed]
          refine ⟨?_, final⟩
          rw [transcript, List.filter_cons_of_neg (by exact passed), rest]

/-- Leaving the operations on other datasets out of a run changes no answer of those that remain,
and neither the local history of the dataset nor what remotes hold of it. -/
theorem run_isolated (start : Start) (key : DatasetKey) (operations : List Operation) :
    let kept := operations.filter (·.concerns key)
    start.store.transcript kept = (start.store.transcript operations).filter (·.1.concerns key) ∧
    (start.store.performed kept).history? key = (start.store.performed operations).history? key ∧
    ∀ remote, (start.store.performed kept).heldBy? remote key =
      (start.store.performed operations).heldBy? remote key := by
  obtain ⟨answers, agree⟩ := transcript_agree operations (AgreeOn.refl start.store)
    (distinct_start start) (distinct_start start)
  exact ⟨answers, agree.history, agree.copies⟩

end Store
end DatasetService
