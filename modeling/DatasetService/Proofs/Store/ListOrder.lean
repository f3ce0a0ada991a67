import DatasetService.Proofs.Store.Latest

set_option autoImplicit false

/- The order of a list of datasets. It is one sequence of the datasets that match, each once, and it
does not depend on the order in which a store holds its datasets. A request is answered with a
window onto that sequence, so windows of one size that lie side by side divide it among themselves.
-/
namespace DatasetService

namespace Window

variable {α : Type} {items : List α} {item : α}

theorem mem_slice_iff (window : Window) :
    item ∈ window.slice items ↔
      ∃ place, window.offset ≤ place ∧ place < window.offset + window.limit ∧
        items[place]? = some item := by
  simp only [slice, List.mem_iff_getElem?, List.getElem?_take, List.getElem?_drop]
  constructor
  · rintro ⟨step, found⟩
    by_cases inside : step < window.limit
    · rw [if_pos inside] at found
      exact ⟨window.offset + step, by omega, by omega, found⟩
    · rw [if_neg inside] at found
      cases found
  · rintro ⟨place, low, high, found⟩
    refine ⟨place - window.offset, ?_⟩
    rw [if_pos (by omega), Nat.add_sub_cancel' low]
    exact found

/-- Windows of one size divide a list among themselves. -/
theorem exists_unique_slice (distinct : items.Nodup) {limit : Nat} (positive : 0 < limit)
    (member : item ∈ items) :
    ∃! index, item ∈ slice { limit, offset := index * limit } items := by
  simp only [mem_slice_iff]
  obtain ⟨place, found⟩ := List.mem_iff_getElem?.mp member
  have whole := Nat.div_add_mod' place limit
  have part := Nat.mod_lt place positive
  refine ⟨place / limit, ⟨place, by omega, by omega, found⟩, ?_⟩
  rintro index ⟨other, low, high, same⟩
  have inside : place < items.length := (List.getElem?_eq_some_iff.mp found).1
  have equal : place = other := (List.getElem?_inj inside distinct).mp (found.trans same.symm)
  subst equal
  exact (Nat.div_eq_of_lt_le low (by rw [Nat.succ_mul]; exact high)).symm

end Window

namespace Store

variable {store : Store} {params : ListParams}

/-- The version is the newest one of the dataset, and it meets the filters. -/
structure Matching (store : Store) (params : ListParams) (key : DatasetKey) (version : Version) :
    Prop where
  newest : store.newest? key = some version
  peername : ∀ peername ∈ params.peername, version.username = peername
  published : ∀ published ∈ params.published, version.published = published

/-- The order that is asked for: by user and name, or by time with the latest first. -/
def Precedes (params : ListParams) (left right : Version) : Prop :=
  if params.orderBy = some orderByName then
    left.username < right.username ∨ left.username = right.username ∧ left.name < right.name
  else right.commitTime.before left.commitTime = true

/-- No two datasets were last changed at the same time. -/
def TimedApart (store : Store) : Prop := (store.latest.map Version.commitTime).Nodup

instance (store : Store) : Decidable (TimedApart store) :=
  inferInstanceAs (Decidable (List.Nodup _))

section latest

theorem mem_latest_iff (orderly : Orderly store) (key : DatasetKey) (version : Version) :
    version ∈ store.latest ∧ version.key = key ↔ store.newest? key = some version := by
  have filtered := filter_latest orderly key
  rw [← Option.mem_toList, ← filtered, List.mem_filter, decide_eq_true_eq]

/-- Each dataset has one latest version. -/
theorem nodup_latest (orderly : Orderly store) : (store.latest.map Version.key).Nodup := by
  rw [List.nodup_iff_count_le_one]
  intro key
  have counted : (store.latest.map Version.key).count key =
      (store.latest.filter (·.key = key)).length := by
    rw [List.count, List.countP_map, List.countP_eq_length_filter]
    rfl
  rw [counted, filter_latest orderly]
  cases store.newest? key with
  | none => exact Nat.zero_le 1
  | some version => exact Nat.le_refl 1

theorem TimedApart.times_ne (apart : TimedApart store) (orderly : Orderly store)
    {first second : DatasetKey} {left right : Version} (differ : first ≠ second)
    (isFirst : store.newest? first = some left) (isSecond : store.newest? second = some right) :
    left.commitTime ≠ right.commitTime := by
  obtain ⟨memFirst, rfl⟩ := (mem_latest_iff orderly first left).mpr isFirst
  obtain ⟨memSecond, rfl⟩ := (mem_latest_iff orderly second right).mpr isSecond
  intro same
  exact differ (congrArg Version.key (List.inj_on_of_nodup_map apart memFirst memSecond same))

theorem matchesFilters_iff (version : Version) :
    matchesFilters params version = true ↔
      (∀ peername ∈ params.peername, version.username = peername) ∧
        ∀ published ∈ params.published, version.published = published := by
  have named : params.peername.all (· == version.username) = true ↔
      ∀ peername ∈ params.peername, version.username = peername := by
    cases params.peername with
    | none => simp
    | some peername =>
      simp only [Option.all_some, beq_iff_eq, Option.mem_some_iff, forall_eq']
      exact eq_comm
  have marked : params.published.all (· == version.published) = true ↔
      ∀ published ∈ params.published, version.published = published := by
    cases params.published with
    | none => simp
    | some published =>
      simp only [Option.all_some, beq_iff_eq, Option.mem_some_iff, forall_eq']
      exact eq_comm
  rw [matchesFilters, Bool.and_eq_true, named, marked]

theorem mem_sorted_iff (orderly : Orderly store) (key : DatasetKey) (version : Version) :
    version ∈ store.sorted params ∧ version.key = key ↔ Matching store params key version := by
  have newest := mem_latest_iff orderly key version
  rw [(store.sorted_perm params).mem_iff, List.mem_filter, matchesFilters_iff]
  constructor
  · rintro ⟨⟨isLatest, named, marked⟩, isKey⟩
    exact ⟨newest.mp ⟨isLatest, isKey⟩, named, marked⟩
  · intro matching
    obtain ⟨isLatest, isKey⟩ := newest.mpr matching.newest
    exact ⟨⟨isLatest, matching.peername, matching.published⟩, isKey⟩

theorem nodup_sorted (orderly : Orderly store) (params : ListParams) :
    ((store.sorted params).map Version.key).Nodup := by
  have perm := (store.sorted_perm params).map Version.key
  rw [perm.nodup_iff]
  exact (nodup_latest orderly).sublist (List.filter_sublist.map Version.key)

end latest

section order

theorem precedes_of_order {left right : Version} (ordered : order params left right = true)
    (differ : left.key ≠ right.key) (apart : left.commitTime ≠ right.commitTime) :
    Precedes params left right := by
  unfold order at ordered
  unfold Precedes
  by_cases named : params.orderBy = some orderByName
  · rw [if_pos named, nameLe_iff] at ordered
    rw [if_pos named]
    rcases ordered with less | ⟨same, le⟩
    · exact Or.inl less
    · refine Or.inr ⟨same, lt_of_le_of_ne le ?_⟩
      intro equal
      apply differ
      simp only [Version.key, same, equal]
  · rw [if_neg named, timeLe_iff, Bool.eq_false_iff, ne_eq, Instant.before_iff] at ordered
    rw [if_neg named, Instant.before_iff]
    have other : ¬ (left.commitTime.seconds = right.commitTime.seconds ∧
        left.commitTime.nanos = right.commitTime.nanos) := by
      rwa [← Instant.mk.injEq]
    omega

theorem Precedes.asymm {left right : Version} (ahead : Precedes params left right) :
    ¬ Precedes params right left := by
  unfold Precedes at ahead ⊢
  by_cases named : params.orderBy = some orderByName
  · rw [if_pos named] at ahead ⊢
    rcases ahead with less | ⟨same, less⟩
    · rintro (more | ⟨same, -⟩)
      · exact lt_asymm less more
      · exact absurd less (by simp [same])
    · rintro (more | ⟨-, more⟩)
      · exact absurd more (by simp [same])
      · exact lt_asymm less more
  · rw [if_neg named, Instant.before_iff] at ahead ⊢
    omega

theorem precedes_of_sorted (orderly : Orderly store) (apart : TimedApart store)
    (params : ListParams) :
    (store.sorted params).Pairwise (Precedes params) := by
  have differ := List.pairwise_map.mp (nodup_sorted orderly params)
  refine ((store.sorted_pairwise params).and differ).imp_of_mem ?_
  rintro left right isLeft isRight ⟨ordered, other⟩
  have first := ((mem_sorted_iff orderly left.key left).mp ⟨isLeft, rfl⟩).newest
  have second := ((mem_sorted_iff orderly right.key right).mp ⟨isRight, rfl⟩).newest
  exact precedes_of_order ordered other (apart.times_ne orderly other first second)

/-- The order in which a store holds its datasets is forgotten when they are sorted. -/
theorem sorted_of_perm (orderly : Orderly store) (apart : TimedApart store)
    {shuffled : Assoc DatasetKey (List Snapshot)} (perm : shuffled.Perm store.datasets) :
    ({ store with datasets := shuffled } : Store).sorted params = store.sorted params := by
  have same : (({ store with datasets := shuffled } : Store).sorted params).Perm
      (store.sorted params) := by
    have latests := (perm.map Prod.snd).filterMap fun history : List Snapshot =>
      history.head?.map Snapshot.version
    have matching := latests.filter (matchesFilters params)
    exact (sorted_perm _ params).trans (matching.trans (store.sorted_perm params).symm)
  refine same.eq_of_pairwise ?_ (sorted_pairwise _ params) (store.sorted_pairwise params)
  intro left right isLeft isRight forward backward
  rw [same.mem_iff] at isLeft
  have first := ((mem_sorted_iff orderly left.key left).mp ⟨isLeft, rfl⟩).newest
  have second := ((mem_sorted_iff orderly right.key right).mp ⟨isRight, rfl⟩).newest
  by_cases key : left.key = right.key
  · rw [key, second] at first
    exact (Option.some.inj first).symm
  · have times := apart.times_ne orderly key first second
    exact absurd (precedes_of_order backward (Ne.symm key) (Ne.symm times))
      (precedes_of_order forward key times).asymm

end order

/-- Where no two datasets were last changed at the same time, lists are windows onto one sequence,
however the store holds its datasets. It has each dataset that matches once, by its newest version,
in the order that is asked for. Each of them is in exactly one of the windows of a size that start
at its multiples. -/
theorem lists_are_windows (start : Start) (changes : List Change) (params : ListParams)
    (apart : TimedApart (start.store.run changes)) :
    ∃ sequence : List Version,
      sequence.Pairwise (Precedes params) ∧ (sequence.map Version.key).Nodup ∧
      (∀ key version, version ∈ sequence ∧ version.key = key ↔
        Matching (start.store.run changes) params key version) ∧
      ∀ shuffled, shuffled.Perm (start.store.run changes).datasets →
        let store : Store := { start.store.run changes with datasets := shuffled }
        ∀ limit, (∀ offset,
            store.list { params with limit, offset } = (sequence.drop offset).take limit) ∧
          (0 < limit → ∀ version ∈ sequence,
            ∃! index, version ∈ store.list { params with limit, offset := index * limit }) := by
  have orderly := orderly_run start changes
  generalize start.store.run changes = store at orderly apart ⊢
  have distinct := nodup_sorted orderly params
  have ordered := precedes_of_sorted orderly apart params
  refine ⟨store.sorted params, ordered, distinct, mem_sorted_iff orderly, ?_⟩
  intro shuffled perm
  have windows (limit offset : Nat) :
      ({ store with datasets := shuffled } : Store).list { params with limit, offset } =
        Window.slice { limit, offset } (store.sorted params) := by
    rw [← sorted_of_perm orderly apart perm]
    rfl
  intro store' limit
  refine ⟨windows limit, fun positive version member => ?_⟩
  simp only [store', windows]
  exact Window.exists_unique_slice distinct.of_map positive member

/-- A dataset with a remote copy and two versions, and one that came later. -/
def arrivals : List Change :=
  release ++ [.save { username := "peer", name := "actors" } firstFilm (secondsClock 3)]

/-- Either of the two datasets can be held first: the lists by name are the same. -/
theorem arrivals_listed :
    TimedApart (new.run arrivals) ∧ (new.run arrivals).datasets.length = 2 ∧
      ∀ first second, first.Perm (new.run arrivals).datasets →
        second.Perm (new.run arrivals).datasets → ∀ limit offset,
        ({ new.run arrivals with datasets := first } : Store).list
            { orderBy := some orderByName, limit, offset } =
          ({ new.run arrivals with datasets := second } : Store).list
            { orderBy := some orderByName, limit, offset } := by
  have apart : TimedApart (new.run arrivals) := by decide +kernel
  obtain ⟨sequence, -, -, -, windows⟩ :=
    lists_are_windows .empty arrivals { orderBy := some orderByName } apart
  refine ⟨apart, by decide +kernel, fun first second isFirst isSecond limit offset => ?_⟩
  exact ((windows first isFirst limit).1 offset).trans
    ((windows second isSecond limit).1 offset).symm

end Store
end DatasetService
