import DatasetService.Proofs.Store.Consistency
import Mathlib

set_option autoImplicit false

/- The order of versions in time. A history has its newest version first as long as the clock
of each save is ahead of all that was read before. -/
namespace DatasetService.Store

/-- The newest version comes first. -/
def Chronological (history : List Snapshot) : Prop :=
  history.Pairwise fun newer older =>
    older.version.commitTime.before newer.version.commitTime = true

theorem chronological_marked (store : Store) (key : DatasetKey) (published : Bool) :
    Chronological (store.marked key published) ↔ Chronological (store.versions key) :=
  List.pairwise_map

/-- A call puts no version into a history but the one it makes. -/
theorem HistoryStep.source {store : Store} {change : Change} {key : DatasetKey}
    {history : List Snapshot} (step : HistoryStep store change key history) {snapshot : Snapshot}
    (member : snapshot ∈ history) :
    (∃ old ∈ store.versions key, old.version.commitTime = snapshot.version.commitTime) ∨
      snapshot.version ∈ store.saved? change := by
  cases step with
  | unchanged => exact Or.inl ⟨snapshot, member, rfl⟩
  | grown same made =>
      rcases List.mem_cons.mp member with rfl | older
      · exact Or.inr made
      · exact Or.inl ⟨snapshot, older, rfl⟩
  | marked published =>
      obtain ⟨old, known, rfl⟩ := mem_marked member
      exact Or.inl ⟨old, known, rfl⟩

theorem HistoryStep.chronological {store : Store} {change : Change} {key : DatasetKey}
    {history : List Snapshot} (step : HistoryStep store change key history)
    (past : Chronological (store.versions key))
    (later : ∀ snapshot ∈ store.versions key, ∀ version ∈ store.saved? change,
      snapshot.version.commitTime.before version.commitTime = true) :
    Chronological history := by
  cases step with
  | unchanged => exact past
  | grown same made => exact List.pairwise_cons.mpr ⟨fun old known => later old known _ made, past⟩
  | marked published => exact (chronological_marked store key published).mpr past

theorem HistoryStep.chronological_before {store : Store} {change : Change} {key : DatasetKey}
    {history : List Snapshot} (step : HistoryStep store change key history)
    (after : Chronological history) : Chronological (store.versions key) := by
  cases step with
  | unchanged => exact after
  | grown same made => exact (List.pairwise_cons.mp after).2
  | marked published => exact (chronological_marked store key published).mp after

/-- Runs keep the order of time, if every version they make is later than all that are known
when it is made. -/
theorem chronological_run {store : Store} (changes : List Change)
    (past : ∀ key, Chronological (store.versions key))
    (later : ∀ key, ∀ snapshot ∈ store.versions key, ∀ version ∈ store.commits changes,
      snapshot.version.commitTime.before version.commitTime = true)
    (ticks : (store.commits changes).Pairwise fun earlier later =>
      earlier.commitTime.before later.commitTime = true) (key : DatasetKey) :
    Chronological ((store.run changes).versions key) := by
  -- What carries the induction is `later`: a version that is made counts as known from then on.
  induction changes generalizing store with
  | nil => exact past key
  | cons change changes ih =>
      have step := step_apply store change
      simp only [commits, List.mem_append, Option.mem_toList] at later ticks
      obtain ⟨-, rest, between⟩ := List.pairwise_append.mp ticks
      refine ih (fun key => ?_) (fun key snapshot member version isLater => ?_) rest
      · exact (step.history key).chronological (past key) fun old known version made =>
          later key old known version (Or.inl made)
      · rcases (step.history key).source member with ⟨old, known, same⟩ | made
        · rw [← same]
          exact later key old known version (Or.inr isLater)
        · exact between snapshot.version (Option.mem_toList.mpr made) version isLater

theorem chronological_of_run {store : Store} (changes : List Change) (key : DatasetKey)
    (after : Chronological ((store.run changes).versions key)) :
    Chronological (store.versions key) := by
  induction changes generalizing store with
  | nil => exact after
  | cons change changes ih =>
      exact ((step_apply store change).history key).chronological_before (ih after)

/-- What was read from the clock to make the store in which a run begins. -/
def Start.readings : Start → List Instant
  | .empty => []
  | .seeded clock _ => (List.range (filmCount + 30)).map clock

/-- Each reading of the clock is later than those before it. -/
def TicksForward (start : Start) (changes : List Change) : Prop :=
  (start.readings ++ (start.store.commits changes).map Version.commitTime).Pairwise
    fun earlier later => earlier.before later = true

/-- Demonstration versions are made so fast that their ages, which are whole hours, decide on
their order. -/
def Start.Prompt : Start → Prop
  | .empty => True
  | .seeded clock _ => ∀ age, age + 1 < filmCount →
      (clock (age + 1)).before ((clock age).addSeconds 3600) = true

theorem commitTime_filmSnapshot (now : Instant) (age : Nat) :
    (filmSnapshot now age).version.commitTime = now.addSeconds (-3600 * (age : Int)) := rfl

/-- The younger of two demonstration versions is the later one. -/
def FilmOrder (clock : Nat → Instant) (younger older : Nat) : Prop :=
  (filmSnapshot (clock older) older).version.commitTime.before
    (filmSnapshot (clock younger) younger).version.commitTime = true

theorem chronological_films (clock : Nat → Instant) :
    Chronological ((List.range filmCount).map fun age => filmSnapshot (clock age) age) ↔
      ∀ age, age + 1 < filmCount →
        (clock (age + 1)).before ((clock age).addSeconds 3600) = true := by
  have neighbours (age : Nat) : FilmOrder clock age (age + 1) ↔
      (clock (age + 1)).before ((clock age).addSeconds 3600) = true := by
    have hour : -3600 * (age : Int) - -3600 * ((age + 1 : Nat) : Int) = 3600 := by omega
    rw [FilmOrder, commitTime_filmSnapshot, commitTime_filmSnapshot, Instant.before_addSeconds,
      hour]
  have transitive : Trans (FilmOrder clock) (FilmOrder clock) (FilmOrder clock) :=
    ⟨fun left right => Instant.before_trans right left⟩
  have chain := List.isChain_iff_pairwise (R := FilmOrder clock) (l := List.range filmCount)
  rw [Chronological, List.pairwise_map]
  rw [List.isChain_range] at chain
  simp only [Nat.succ_eq_add_one, neighbours, Nat.lt_sub_iff_add_lt] at chain
  exact chain.symm

theorem chronological_start (start : Start) :
    (∀ key, Chronological (start.store.versions key)) ↔ start.Prompt := by
  cases start with
  | empty => exact ⟨fun _ => trivial, fun _ key => List.Pairwise.nil⟩
  | seeded clock profileId =>
      have films := chronological_films clock
      simp only [Start.store, versions_seeded, Start.Prompt]
      rw [← films]
      constructor
      · intro all
        simpa only [if_true] using all movies
      · intro chronological key
        split
        · exact chronological
        · exact List.Pairwise.nil

theorem not_before_of_le {left right : Instant} {seconds : Int} (back : seconds ≤ 0)
    (before : left.before right = true) : (left.addSeconds seconds).before right = true := by
  rw [Instant.before_iff] at before ⊢
  simp only [Instant.addSeconds]
  omega

/-- The versions of the store in which a run begins are earlier than those that it makes. -/
theorem start_before_commits {start : Start} {changes : List Change}
    (ticks : TicksForward start changes) (key : DatasetKey) {snapshot : Snapshot}
    (member : snapshot ∈ start.store.versions key) {version : Version}
    (made : version ∈ start.store.commits changes) :
    snapshot.version.commitTime.before version.commitTime = true := by
  obtain ⟨-, -, between⟩ := List.pairwise_append.mp ticks
  cases start with
  | empty => cases member
  | seeded clock profileId =>
      obtain ⟨-, age, bounded, rfl⟩ := mem_seeded member
      have read : clock age ∈ (Start.seeded clock profileId).readings :=
        List.mem_map.mpr ⟨age, List.mem_range.mpr (by omega), rfl⟩
      rw [commitTime_filmSnapshot]
      exact not_before_of_le (by omega)
        (between _ read _ (List.mem_map.mpr ⟨version, made, rfl⟩))

/-- Whatever is done to a new store or to one with demonstration data, it stays consistent.
If the clock moves forward, every history has its newest version first; with demonstration
data, whose versions are dated back from the clock by an hour each, this is so exactly if no
hour went by between two of its readings. -/
theorem run_consistent (start : Start) (changes : List Change) :
    Consistent (start.store.run changes) ∧
    (TicksForward start changes →
      ((∀ key, Chronological ((start.store.run changes).versions key)) ↔ start.Prompt)) := by
  constructor
  · exact run_keeps consistent_step changes (consistent_start start)
  · intro ticks
    have commits : (start.store.commits changes).Pairwise fun earlier later =>
        earlier.commitTime.before later.commitTime = true :=
      List.pairwise_map.mp (List.pairwise_append.mp ticks).2.1
    rw [← chronological_start start]
    constructor
    · exact fun after key => chronological_of_run changes key (after key)
    · exact fun past key => chronological_run changes past
        (fun key snapshot member version made => start_before_commits ticks key member made)
        commits key

theorem renewal_ticksForward : TicksForward demonstration renewal := by
  unfold TicksForward
  decide +kernel

theorem demonstration_prompt : demonstration.Prompt := by
  intro age bounded
  rw [Instant.before_iff]
  simp only [secondsClock, Instant.addSeconds]
  omega

theorem renewal_chronological :
    TicksForward demonstration renewal ∧ demonstration.Prompt ∧
      ∀ key, Chronological ((demonstration.store.run renewal).versions key) := by
  have chronological := (run_consistent demonstration renewal).2 renewal_ticksForward
  exact ⟨renewal_ticksForward, demonstration_prompt, chronological.mpr demonstration_prompt⟩

example : ((demonstration.store.run renewal).versions movies).map (·.version.commitTime.seconds) =
    [41, 40, 0, -3599, -7198] := by decide +kernel

/-- A clock that moves on by two hours from one reading to the next. -/
def slowClock (reading : Nat) : Instant := { seconds := 7200 * reading }

theorem slowClock_ticksForward : TicksForward (.seeded slowClock "profile") [] := by
  unfold TicksForward
  decide +kernel

/-- A clock that moves forward is not enough for demonstration data. With two hours between its
readings, each version is an hour later than the one in front of it. -/
theorem slow_clock_reverses_films :
    TicksForward (.seeded slowClock "profile") [] ∧
    ((Start.seeded slowClock "profile").store.versions movies).map
      (·.version.commitTime.seconds) = [0, 3600, 7200] ∧
    ¬ ∀ (start : Start) (changes : List Change), TicksForward start changes →
      ∀ key, Chronological ((start.store.run changes).versions key) := by
  refine ⟨slowClock_ticksForward, by decide +kernel, fun always => ?_⟩
  have prompt := (chronological_start (.seeded slowClock "profile")).mp
    (always _ [] slowClock_ticksForward)
  exact absurd (prompt 0 (by decide)) (by decide)

end DatasetService.Store
