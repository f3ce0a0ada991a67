import DatasetService.Proofs.Page.Link
import DatasetService.Store.Read
import Mathlib.Data.String.Basic

set_option autoImplicit false

/- Lists of datasets. A list is a window onto the latest versions that match, each once and in the
order that is asked for. -/
namespace DatasetService

/-- The window of a list request. -/
def ListParams.window (params : ListParams) : Window :=
  { limit := params.limit, offset := params.offset }

/-- The request for all datasets in the same order. -/
def ListParams.unfiltered (params : ListParams) : ListParams := { orderBy := params.orderBy }

namespace Store

/-- The latest versions that match, in order. -/
def sorted (store : Store) (params : ListParams) : List Version :=
  (store.latest.filter (matchesFilters params)).mergeSort (order params)

theorem list_eq (store : Store) (params : ListParams) :
    store.list params = params.window.slice (store.sorted params) := rfl

theorem nameLe_iff (left right : Version) :
    nameLe left right = true ↔
      left.username < right.username ∨ left.username = right.username ∧ left.name ≤ right.name := by
  unfold nameLe
  split
  · rename_i same
    simp [same]
  · rename_i other
    simp [other]

theorem timeLe_iff (left right : Version) :
    timeLe left right = true ↔ left.commitTime.before right.commitTime = false := by
  simp [timeLe]

theorem nameLe_total (left right : Version) :
    nameLe left right = true ∨ nameLe right left = true := by
  rw [nameLe_iff, nameLe_iff]
  rcases lt_trichotomy left.username right.username with less | same | more
  · exact .inl (.inl less)
  · rcases le_total left.name right.name with le | ge
    · exact .inl (.inr ⟨same, le⟩)
    · exact .inr (.inr ⟨same.symm, ge⟩)
  · exact .inr (.inl more)

theorem nameLe_trans {first second third : Version} (left : nameLe first second = true)
    (right : nameLe second third = true) : nameLe first third = true := by
  rw [nameLe_iff] at left right ⊢
  rcases left with less | ⟨same, le⟩
  · rcases right with more | ⟨equal, -⟩
    · exact .inl (less.trans more)
    · exact .inl (equal ▸ less)
  · rcases right with more | ⟨equal, ge⟩
    · exact .inl (same ▸ more)
    · exact .inr ⟨same.trans equal, le.trans ge⟩

theorem timeLe_total (left right : Version) :
    timeLe left right = true ∨ timeLe right left = true := by
  rw [timeLe_iff, timeLe_iff, Bool.eq_false_iff, Bool.eq_false_iff, Ne, Ne, Instant.before_iff,
    Instant.before_iff]
  omega

theorem timeLe_trans {first second third : Version} (left : timeLe first second = true)
    (right : timeLe second third = true) : timeLe first third = true := by
  rw [timeLe_iff, Bool.eq_false_iff, Ne, Instant.before_iff] at left right ⊢
  omega

theorem order_total (params : ListParams) (left right : Version) :
    (order params left right || order params right left) = true := by
  rw [Bool.or_eq_true]
  unfold order
  split
  · exact nameLe_total left right
  · exact timeLe_total left right

theorem order_trans (params : ListParams) (first second third : Version)
    (left : order params first second = true) (right : order params second third = true) :
    order params first third = true := by
  unfold order at left right ⊢
  by_cases named : params.orderBy = some orderByName
  · rw [if_pos named] at left right ⊢
    exact nameLe_trans left right
  · rw [if_neg named] at left right ⊢
    exact timeLe_trans left right

/-- Each dataset that matches is listed, once. -/
theorem sorted_perm (store : Store) (params : ListParams) :
    (store.sorted params).Perm (store.latest.filter (matchesFilters params)) :=
  List.mergeSort_perm _ _

theorem sorted_pairwise (store : Store) (params : ListParams) :
    (store.sorted params).Pairwise fun left right => order params left right = true :=
  List.pairwise_mergeSort (order_trans params) (order_total params) _

theorem length_sorted_le (store : Store) (params : ListParams) :
    (store.sorted params).length ≤ store.datasets.length := by
  rw [(store.sorted_perm params).length_eq]
  refine Nat.le_trans (List.length_filter_le _ _) ?_
  unfold latest
  refine Nat.le_trans (List.length_filterMap_le _ _) ?_
  rw [Assoc.values, List.length_map]

/-- Filters that all datasets match filter nothing. -/
theorem sorted_unfiltered {store : Store} {params : ListParams}
    (all : ∀ version ∈ store.latest, matchesFilters params version = true) :
    store.sorted params.unfiltered = store.sorted params := by
  have unfiltered : store.latest.filter (matchesFilters params.unfiltered) = store.latest :=
    List.filter_eq_self.mpr fun _ _ => rfl
  unfold sorted
  rw [unfiltered, List.filter_eq_self.mpr all]
  rfl

end Store
end DatasetService
