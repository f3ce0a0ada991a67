import DatasetService.Proofs.History.Resolution

set_option autoImplicit false

/- When finding a history ends. Each of its two stages waits for a reply under the same
cancellation and the same deadline, and the fetch of a remote no longer than its own limit. -/
namespace DatasetService

namespace Scope

variable {σ α : Type}

/-- What ends a wait, and when. -/
inductive Ending
  | canceled (time : Nat)
  | expired (time : Nat)
  | done (time : Nat)
  | never

/-- The end of a wait that starts at a time, for work that is due at another if ever: the first of
the cancellation, the deadline and the work. What is due before the start is due at the start. On
the same instant the cancellation counts before the deadline, and the deadline before the work. -/
inductive Ends (scope : Scope) (start : Nat) (due : Option Nat) : Ending → Prop
  | canceled {time : Nat} (given : scope.cancelAt = some time)
      (deadline : ∀ other ∈ scope.deadline, max start time ≤ max start other)
      (work : ∀ other ∈ due, max start time ≤ other) :
      Ends scope start due (.canceled (max start time))
  | expired {time : Nat} (given : scope.deadline = some time)
      (cancel : ∀ other ∈ scope.cancelAt, max start time < max start other)
      (work : ∀ other ∈ due, max start time ≤ other) :
      Ends scope start due (.expired (max start time))
  | done {time : Nat} (given : due = some time)
      (cancel : ∀ other ∈ scope.cancelAt, time < max start other)
      (deadline : ∀ other ∈ scope.deadline, time < max start other) :
      Ends scope start due (.done time)
  | never (cancel : scope.cancelAt = none) (deadline : scope.deadline = none)
      (work : due = none) : Ends scope start due .never

/-- A wait has one end. -/
theorem Ends.unique {scope : Scope} {start : Nat} {due : Option Nat} {first second : Ending}
    (one : scope.Ends start due first) (other : scope.Ends start due second) : first = second := by
  cases one with
  | canceled given deadline work =>
      cases other with
      | canceled given' => cases given.symm.trans given'; rfl
      | expired given' cancel => have := cancel _ given; have := deadline _ given'; omega
      | done given' cancel => have := cancel _ given; have := work _ given'; omega
      | never cancel => cases given.symm.trans cancel
  | expired given cancel work =>
      cases other with
      | canceled given' deadline => have := cancel _ given'; have := deadline _ given; omega
      | expired given' => cases given.symm.trans given'; rfl
      | done given' _ deadline => have := deadline _ given; have := work _ given'; omega
      | never _ deadline => cases given.symm.trans deadline
  | done given cancel deadline =>
      cases other with
      | canceled given' _ work => have := cancel _ given'; have := work _ given; omega
      | expired given' _ work => have := deadline _ given'; have := work _ given; omega
      | done given' => cases given.symm.trans given'; rfl
      | never _ _ work => cases given.symm.trans work
  | never cancel deadline work =>
      cases other with
      | canceled given => cases given.symm.trans cancel
      | expired given => cases given.symm.trans deadline
      | done given => cases given.symm.trans work
      | never => rfl

/-- The cancellation or the deadline is due by a time. -/
def IsOver (scope : Scope) (now : Nat) : Prop :=
  (∃ time ∈ scope.cancelAt, time ≤ now) ∨ ∃ time ∈ scope.deadline, time ≤ now

/-- A stage starts in a world with a call, unless the scope is over: then nothing is called. -/
def Launches (scope : Scope) (world : World σ) (call : Call) (state : σ)
    (started : World σ) : Prop :=
  (scope.IsOver world.clock → started = world) ∧
  (¬ scope.IsOver world.clock →
    started = { world with state, calls := world.calls ++ [call] })

/-- A stage ends without a reply, in a world. -/
inductive Stops (scope : Scope) (world : World σ) (call : Call) (state : σ) (due : Option Nat) :
    Halt → World σ → Prop
  | canceled {started : World σ} {time : Nat} (launches : scope.Launches world call state started)
      (ends : scope.Ends world.clock due (.canceled time)) :
      Stops scope world call state due (.failed .canceled) { started with clock := time }
  | expired {started : World σ} {time : Nat} (launches : scope.Launches world call state started)
      (ends : scope.Ends world.clock due (.expired time)) :
      Stops scope world call state due (.failed .deadlineExceeded) { started with clock := time }
  | never {started : World σ} (launches : scope.Launches world call state started)
      (ends : scope.Ends world.clock due .never) :
      Stops scope world call state due .pending started

theorem stopped?_eq_none_iff {scope : Scope} {now : Nat} :
    scope.stopped? now = none ↔ ¬ scope.IsOver now := by
  obtain ⟨cancelAt, deadline⟩ := scope
  cases cancelAt <;> cases deadline <;> simp [stopped?, IsOver]; grind

/-- A scope that is over at the start of a stage ends it there. -/
theorem stops_of_over {scope : Scope} {world : World σ} (call : Call) (state : σ)
    {due : Option Nat} (later : ∀ time ∈ due, world.clock ≤ time) {error : ApiError}
    (stopped : scope.stopped? world.clock = some error) :
    scope.Stops world call state due (.failed error) world := by
  have ended : scope.IsOver world.clock := Classical.byContradiction fun running => by
    rw [stopped?_eq_none_iff.mpr running] at stopped
    cases stopped
  have launches : scope.Launches world call state world :=
    ⟨fun _ => rfl, fun running => absurd ended running⟩
  unfold stopped? at stopped
  split at stopped
  · rename_i canceled
    cases stopped
    obtain ⟨time, given, past⟩ := (Option.any_eq_true _ _).mp canceled
    have past := Nat.max_eq_left (of_decide_eq_true past)
    have ends : scope.Ends world.clock due (.canceled (max world.clock time)) :=
      .canceled given (fun other _ => by omega) fun other member => by
        rw [past]
        exact later other member
    rw [past] at ends
    exact .canceled launches ends
  · rename_i notCanceled
    split at stopped
    · rename_i expired
      cases stopped
      obtain ⟨time, given, past⟩ := (Option.any_eq_true _ _).mp expired
      have past := Nat.max_eq_left (of_decide_eq_true past)
      have ends : scope.Ends world.clock due (.expired (max world.clock time)) := by
        refine .expired given (fun other member => ?_) fun other member => ?_
        · have ahead : ¬ other ≤ world.clock := fun reached =>
            notCanceled ((Option.any_eq_true _ _).mpr ⟨other, member, decide_eq_true reached⟩)
          omega
        · rw [past]
          exact later other member
      rw [past] at ends
      exact .expired launches ends
    · cases stopped

theorem isFirst_eq_true_iff {other : Option Nat} {time : Nat} :
    isFirst other time = true ↔ ∀ later ∈ other, time ≤ later := by
  cases other <;> simp [isFirst]

/-- Where neither the cancellation nor the deadline comes first, the reply does, if there is one. -/
theorem ends_of_reply {scope : Scope} {now : Nat} (reply : Reply α)
    (passed : ∀ time ∈ scope.cancelAt, ¬ ((∀ deadline ∈ scope.deadline, time ≤ deadline) ∧
      ∀ due ∈ reply.due? now, time ≤ due))
    (missed : ∀ time ∈ scope.deadline, ¬ ∀ due ∈ reply.due? now, time ≤ due) :
    match reply with
    | .after delay _ => scope.Ends now (reply.due? now) (.done (now + delay))
    | .never => scope.Ends now (reply.due? now) .never := by
  cases reply with
  | after delay value =>
      have beforeDeadline : ∀ other ∈ scope.deadline, now + delay < other :=
        fun other member => Nat.lt_of_not_le fun reached => missed other member
          fun due isDue => by cases isDue; exact reached
      refine .done rfl (fun other member => ?_) fun other member => ?_
      · have later : ¬ other ≤ now + delay := fun reached => passed other member
          ⟨fun deadline isDeadline =>
            Nat.le_trans reached (Nat.le_of_lt (beforeDeadline deadline isDeadline)),
            fun due isDue => by cases isDue; exact reached⟩
        omega
      · have := beforeDeadline other member
        omega
  | never =>
      have neverDue (time : Nat) : ∀ due ∈ (Reply.never : Reply α).due? now, time ≤ due := by
        intro due isDue
        cases isDue
      have noDeadline : scope.deadline = none :=
        Option.eq_none_iff_forall_not_mem.mpr fun other member =>
          missed other member (neverDue other)
      refine .never ?_ noDeadline rfl
      refine Option.eq_none_iff_forall_not_mem.mpr fun other member => ?_
      refine passed other member ⟨fun deadline isDeadline => ?_, neverDue other⟩
      cases noDeadline.symm.trans isDeadline

/-- A wait that starts before the scope is over ends as it should. -/
theorem ends_of_await {scope : Scope} {now : Nat} (running : ¬ scope.IsOver now)
    (reply : Reply α) :
    match scope.await now reply with
    | .finished value time => ∃ delay, reply = .after delay value ∧ time = now + delay ∧
        scope.Ends now (reply.due? now) (.done time)
    | .stopped error time =>
        error = .canceled ∧ scope.Ends now (reply.due? now) (.canceled time) ∨
        error = .deadlineExceeded ∧ scope.Ends now (reply.due? now) (.expired time)
    | .pending => scope.Ends now (reply.due? now) .never := by
  have cancelAhead : ∀ time ∈ scope.cancelAt, now < time := fun time given =>
    Nat.lt_of_not_le fun past => running (Or.inl ⟨time, given, past⟩)
  have deadlineAhead : ∀ time ∈ scope.deadline, now < time := fun time given =>
    Nat.lt_of_not_le fun past => running (Or.inr ⟨time, given, past⟩)
  cases canceled : scope.cancelAt.filter fun time =>
      isFirst scope.deadline time && isFirst (reply.due? now) time with
  | some time =>
      obtain ⟨given, first⟩ := Option.filter_eq_some_iff.mp canceled
      rw [Bool.and_eq_true, isFirst_eq_true_iff, isFirst_eq_true_iff] at first
      have ahead := cancelAhead time given
      simp only [await, canceled]
      refine Or.inl ⟨trivial, .canceled given (fun other member => ?_) fun other member => ?_⟩
      · have := first.1 other member
        omega
      · have := first.2 other member
        omega
  | none =>
      have passed := Option.filter_eq_none_iff.mp canceled
      simp only [Bool.and_eq_true, isFirst_eq_true_iff] at passed
      cases expired : scope.deadline.filter (isFirst (reply.due? now)) with
      | some time =>
          obtain ⟨given, first⟩ := Option.filter_eq_some_iff.mp expired
          rw [isFirst_eq_true_iff] at first
          have ahead := deadlineAhead time given
          simp only [await, canceled, expired]
          refine Or.inr ⟨trivial, .expired given (fun other member => ?_) fun other member => ?_⟩
          · have later : ¬ other ≤ time := fun reached => passed other member
              ⟨fun deadline isDeadline => by cases given.symm.trans isDeadline; exact reached,
                fun due isDue => Nat.le_trans reached (first due isDue)⟩
            omega
          · have := first other member
            omega
      | none =>
          have missed := Option.filter_eq_none_iff.mp expired
          simp only [isFirst_eq_true_iff] at missed
          simp only [await, canceled, expired]
          have ends := ends_of_reply reply passed missed
          cases reply with
          | after delay value => exact ⟨delay, rfl, rfl, ends⟩
          | never => exact ends

/-- A stage that calls a backend ends without a reply, or with one that comes first. -/
theorem outcome_run_ends (scope : Scope) (call : Call) (work : σ → Reply α × σ)
    (world : World σ) :
    (∃ halt after, (scope.run [call] work).outcome world = (.error halt, after) ∧
      scope.Stops world call (work world.state).2 ((work world.state).1.due? world.clock)
        halt after) ∨
    ∃ delay value, (work world.state).1 = .after delay value ∧
      scope.Ends world.clock (some (world.clock + delay)) (.done (world.clock + delay)) ∧
      (scope.run [call] work).outcome world =
        (.ok value, afterWork world [call] delay (work world.state).2) := by
  unfold run
  simp only [Action.outcome, ExceptT.run_mk, StateT.run]
  cases stopped : scope.stopped? world.clock with
  | some error =>
      refine Or.inl ⟨_, _, rfl, stops_of_over call _ (fun time isDue => ?_) stopped⟩
      cases reply : (work world.state).1 with
      | after delay value =>
          rw [reply] at isDue
          cases isDue
          exact Nat.le_add_right _ _
      | never =>
          rw [reply] at isDue
          cases isDue
  | none =>
      have running := stopped?_eq_none_iff.mp stopped
      have launches : scope.Launches world call (work world.state).2
          { world with state := (work world.state).2, calls := world.calls ++ [call] } :=
        ⟨fun ended => absurd ended running, fun _ => rfl⟩
      have ends := ends_of_await running (work world.state).1
      cases awaited : scope.await world.clock (work world.state).1 with
      | finished value time =>
          rw [awaited] at ends
          obtain ⟨delay, reply, rfl, ends⟩ := ends
          rw [reply] at ends
          exact Or.inr ⟨delay, value, reply, ends, rfl⟩
      | stopped error time =>
          rw [awaited] at ends
          rcases ends with ⟨rfl, ends⟩ | ⟨rfl, ends⟩
          · exact Or.inl ⟨_, _, rfl, .canceled launches ends⟩
          · exact Or.inl ⟨_, _, rfl, .expired launches ends⟩
      | pending =>
          rw [awaited] at ends
          exact Or.inl ⟨_, _, rfl, .never launches ends⟩

end Scope
namespace History

variable {σ α : Type}

/-- When the fetch of a remote is over that starts at a time: it waits no longer than its limit. -/
def fetchDue (remotes : Remotes) (start : Nat) : Reply α → Nat
  | .after delay _ => start + min delay remotes.fetchTimeout
  | .never => start + remotes.fetchTimeout

section runs

variable (backend : Backend σ) (scope : Scope) (remotes : Remotes) (params : LogParams)

/-- How a fetch ends that starts in a world. -/
inductive FetchEnds (world : World σ) : Except Halt Resolution → World σ → Prop
  | stopped {halt : Halt} {after : World σ}
      (stops : scope.Stops world (remoteCall remotes params)
        (backend (remoteCall remotes params) world.state).2
        (some (fetchDue remotes world.clock (backend (remoteCall remotes params) world.state).1))
        halt after) :
      FetchEnds world (.error halt) after
  | answered {delay : Nat} {answer : Except StoreError (List Version)}
      {result : Except Halt Resolution}
      (reply : (backend (remoteCall remotes params) world.state).1 = .after delay answer)
      (inTime : delay ≤ remotes.fetchTimeout)
      (ends : scope.Ends world.clock (some (world.clock + delay)) (.done (world.clock + delay)))
      (tells : Tells params .remote answer result) :
      FetchEnds world result (Scope.afterWork world [remoteCall remotes params] delay
        (backend (remoteCall remotes params) world.state).2)
  | timedOut
      (late : ∀ delay answer, (backend (remoteCall remotes params) world.state).1 =
        .after delay answer → remotes.fetchTimeout < delay)
      (ends : scope.Ends world.clock (some (world.clock + remotes.fetchTimeout))
        (.done (world.clock + remotes.fetchTimeout))) :
      FetchEnds world
        (.error (.failed (.remoteFailure
          ("fetching history of " ++ params.reference.slug ++ " timed out"))))
        (Scope.afterWork world [remoteCall remotes params] remotes.fetchTimeout
          (backend (remoteCall remotes params) world.state).2)

/-- How finding a history ends that starts in a world. A pull only fetches. Otherwise local history
is asked first, and a fetch starts when its answer leads on to a remote. -/
inductive ResolveEnds (world : World σ) : Except Halt Resolution → World σ → Prop
  | pulled {result : Except Halt Resolution} {after : World σ} (pull : params.pull = true)
      (fetches : FetchEnds backend scope remotes params world result after) :
      ResolveEnds world result after
  | stopped {halt : Halt} {after : World σ} (remains : params.pull = false)
      (stops : scope.Stops world (localCall params) (backend (localCall params) world.state).2
        ((backend (localCall params) world.state).1.due? world.clock) halt after) :
      ResolveEnds world (.error halt) after
  | answered {delay : Nat} {answer : Except StoreError (List Version)}
      {result : Except Halt Resolution} (remains : params.pull = false)
      (reply : (backend (localCall params) world.state).1 = .after delay answer)
      (ends : scope.Ends world.clock (some (world.clock + delay)) (.done (world.clock + delay)))
      (sources : consulted params answer = [.here]) (tells : Tells params .here answer result) :
      ResolveEnds world result
        (Scope.afterWork world [localCall params] delay (backend (localCall params) world.state).2)
  | fellBack {delay : Nat} {answer : Except StoreError (List Version)}
      {result : Except Halt Resolution} {after : World σ} (remains : params.pull = false)
      (reply : (backend (localCall params) world.state).1 = .after delay answer)
      (ends : scope.Ends world.clock (some (world.clock + delay)) (.done (world.clock + delay)))
      (sources : consulted params answer = [.here, .remote])
      (fetches : FetchEnds backend scope remotes params
        (Scope.afterWork world [localCall params] delay (backend (localCall params) world.state).2)
        result after) :
      ResolveEnds world result after

end runs

variable {backend : Backend σ} {scope : Scope} {remotes : Remotes} {params : LogParams}

theorem due?_within (remotes : Remotes) (start : Nat) (reply : Reply α) :
    (reply.within remotes.fetchTimeout).due? start = some (fetchDue remotes start reply) := by
  cases reply with
  | after delay answer =>
      simp only [Reply.within, fetchDue]
      split
      · rename_i inTime
        rw [Nat.min_eq_left inTime]
        rfl
      · rename_i late
        rw [Nat.min_eq_right (Nat.le_of_not_le late)]
        rfl
  | never => rfl

theorem fetchFailure_tells (error : StoreError) :
    Tells params .remote (.error error)
      (.error (.failed (fetchFailure params.reference.slug error))) := by
  obtain ⟨code, told, status⟩ := fetchFailure_told params.reference.slug error
  subst status
  exact told.tells

theorem fetchEnds_fetchRemote (backend : Backend σ) (scope : Scope) (remotes : Remotes)
    (params : LogParams) (world : World σ) :
    ∃ result after, (fetchRemote backend scope remotes params
        (fallbackRemote params.remote remotes.defaultRemote)).outcome world = (result, after) ∧
      FetchEnds backend scope remotes params world result after := by
  have ran := scope.outcome_run_ends (remoteCall remotes params)
    (fun state => ((backend (remoteCall remotes params) state).1.within remotes.fetchTimeout,
      (backend (remoteCall remotes params) state).2)) world
  unfold fetchRemote
  dsimp only
  rcases ran with ⟨halt, after, ran, stops⟩ | ⟨delay, value, reply, ends, ran⟩
  · refine ⟨_, _, Action.outcome_bind_of_error _ _ _ _ _ ran, .stopped ?_⟩
    rw [← due?_within]
    exact stops
  · refine ⟨_, _, Action.outcome_bind_of_ok _ _ _ _ _ ran, ?_⟩
    cases due : (backend (remoteCall remotes params) world.state).1 with
    | never =>
        simp only [due, Reply.within] at reply
        cases reply
        refine .timedOut (fun delay answer found => ?_) ends
        rw [due] at found
        cases found
    | after replyDelay answer =>
        simp only [due, Reply.within] at reply
        split at reply
        · rename_i inTime
          cases reply
          cases answer with
          | ok items =>
              refine .answered due inTime ends ⟨?_, ?_⟩
              · intro found equal
                cases equal
                rfl
              · intro error equal
                cases equal
          | error error => exact .answered due inTime ends (fetchFailure_tells error)
        · rename_i late
          cases reply
          refine .timedOut (fun delay answer found => ?_) ends
          rw [due] at found
          cases found
          exact Nat.lt_of_not_le late

theorem resolveEnds_resolve (backend : Backend σ) (scope : Scope) (remotes : Remotes)
    {params : LogParams} (world : World σ) (consistent : ¬ Contradictory params) :
    ∃ result after, (resolve backend scope remotes params).outcome world = (result, after) ∧
      ResolveEnds backend scope remotes params world result after := by
  unfold resolve
  rw [checkSources_of_consistent consistent,
    Action.outcome_bind_of_ok _ _ _ _ _ (Action.outcome_ofExcept_ok () world)]
  by_cases pull : params.pull = true
  · rw [if_pos pull]
    obtain ⟨result, after, ran, fetches⟩ :=
      fetchEnds_fetchRemote backend scope remotes params world
    exact ⟨result, after, ran, .pulled pull fetches⟩
  · have remains : params.pull = false := by simpa using pull
    rw [if_neg pull]
    rcases scope.outcome_run_ends (localCall params) (backend (localCall params)) world with
      ⟨halt, after, ran, stops⟩ | ⟨delay, answer, reply, ends, ran⟩
    · exact ⟨_, _, Action.outcome_bind_of_error _ _ _ _ _ ran, .stopped remains stops⟩
    · rcases afterLocal_tells params remotes.defaultRemote answer remains with
        ⟨sources, stage⟩ | ⟨sources, ⟨resolution, stage, tells⟩ | ⟨error, stage, tells⟩⟩
      · obtain ⟨result, after, fetched, fetches⟩ := fetchEnds_fetchRemote backend scope remotes
          params (Scope.afterWork world [localCall params] delay
            (backend (localCall params) world.state).2)
        refine ⟨result, after, ?_, .fellBack remains reply ends sources fetches⟩
        refine (Action.outcome_bind_of_ok _ _ _ _ _ ran).trans ?_
        rw [stage]
        exact fetched
      · refine ⟨_, _, ?_, .answered remains reply ends sources tells⟩
        refine (Action.outcome_bind_of_ok _ _ _ _ _ ran).trans ?_
        rw [stage]
        rfl
      · refine ⟨_, _, ?_, .answered remains reply ends sources tells⟩
        refine (Action.outcome_bind_of_ok _ _ _ _ _ ran).trans ?_
        rw [stage]
        rfl

/-- Work that is done first is done before the scope is over. -/
theorem before_of_done {scope : Scope} {start delay : Nat} {due : Option Nat}
    (ends : scope.Ends start due (.done (start + delay))) :
    (∀ time ∈ scope.cancelAt, start + delay < time) ∧
      ∀ time ∈ scope.deadline, start + delay < time := by
  cases ends with
  | done given cancel deadline =>
      constructor
      · intro time member
        have := cancel time member
        omega
      · intro time member
        have := deadline time member
        omega

/-- A result other than those of a cancellation and a deadline comes before both. -/
def Timely (scope : Scope) (result : Except Halt Resolution) (after : World σ) : Prop :=
  result ≠ .error (.failed .canceled) → result ≠ .error (.failed .deadlineExceeded) →
    (∀ time ∈ scope.cancelAt, after.clock < time) ∧ ∀ time ∈ scope.deadline, after.clock < time

theorem timely_of_stops {world after : World σ} {call : Call} {state : σ} {due : Option Nat}
    {halt : Halt} (stops : scope.Stops world call state due halt after) :
    Timely scope (.error halt) after := by
  intro notCanceled notExpired
  cases stops with
  | canceled launches ends => exact absurd rfl notCanceled
  | expired launches ends => exact absurd rfl notExpired
  | never launches ends =>
      cases ends with
      | never cancel deadline work => simp [cancel, deadline]

theorem FetchEnds.timely {world after : World σ} {result : Except Halt Resolution}
    (fetches : FetchEnds backend scope remotes params world result after) :
    Timely scope result after := by
  cases fetches with
  | stopped stops => exact timely_of_stops stops
  | answered reply inTime ends tells => exact fun _ _ => before_of_done ends
  | timedOut late ends => exact fun _ _ => before_of_done ends

theorem ResolveEnds.timely {world after : World σ} {result : Except Halt Resolution}
    (resolves : ResolveEnds backend scope remotes params world result after) :
    Timely scope result after := by
  cases resolves with
  | pulled pull fetches => exact fetches.timely
  | stopped remains stops => exact timely_of_stops stops
  | answered remains reply ends sources tells => exact fun _ _ => before_of_done ends
  | fellBack remains reply ends sources fetches => exact fetches.timely

/-- Finding a history takes one stage after the other. Each ends with the first of cancellation,
deadline and reply, in this order on the same instant, and makes no call where it starts too late.
The deadline is that of the request, the limit that of the fetch alone, and whatever comes after
the cancellation or the deadline is not told. -/
theorem resolve_timing (backend : Backend σ) (scope : Scope) (remotes : Remotes)
    (params : LogParams) (world : World σ) (consistent : ¬ Contradictory params) :
    let outcome := (resolve backend scope remotes params).outcome world
    ResolveEnds backend scope remotes params world outcome.1 outcome.2 ∧
      Timely scope outcome.1 outcome.2 := by
  obtain ⟨result, after, ran, resolves⟩ :=
    resolveEnds_resolve backend scope remotes world consistent
  intro outcome
  have equal : outcome = (result, after) := ran
  rw [equal]
  exact ⟨resolves, resolves.timely⟩

/-- Local history answers after 3 milliseconds, and a remote would answer 5 later. A deadline
between the two ends the second stage. -/
theorem resolve_ends_at_deadline :
    ¬ Contradictory secondPage ∧
    let scope : Scope := { deadline := some 7 }
    let outcome := (resolve knownThere.backend scope {} secondPage).outcome { state := () }
    outcome.1 = .error (.failed .deadlineExceeded) ∧ outcome.2.clock = 7 ∧
      outcome.2.calls =
        [.log secondPage.reference secondPage.list, .fetch secondPage.reference ""] ∧
      ResolveEnds knownThere.backend scope {} secondPage { state := () } outcome.1 outcome.2 := by
  have consistent : ¬ Contradictory secondPage := by
    rintro ⟨demanded, -⟩
    cases demanded
  exact ⟨consistent, rfl, rfl, rfl,
    (resolve_timing knownThere.backend { deadline := some 7 } {} secondPage { state := () }
      consistent).1⟩

end History
end DatasetService
