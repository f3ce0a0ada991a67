import DatasetService.Proofs.History.Timing

set_option autoImplicit false

/- Requests for a history that name a blank remote. Where a remote is asked, a blank name is no
name, and the configured remote stands in for it. The check that comes before does not look at the
name: together with the demand for local history, a blank name is refused like any other. -/
namespace DatasetService

/-- The same request, with this remote or with none. -/
def LogParams.withRemote (params : LogParams) (remote : Option String) : LogParams :=
  { params with remote }

namespace History

variable {σ : Type}

theorem fallbackRemote_of_blank {name : String} (blank : Text.isBlankText name.toList = true)
    (defaultRemote : String) :
    fallbackRemote (some name) defaultRemote = fallbackRemote none defaultRemote := by
  have trimmed : String.ofList (Text.trim name.toList) = "" := by
    rw [Text.trim_eq_nil_of_blank name.toList blank]
  simp only [fallbackRemote, Option.map_some, trimmed]
  rfl

theorem checkSources_of_contradictory {params : LogParams} (both : Contradictory params) :
    checkSources params =
      .error (.badRequest "cannot combine \"local\" with \"remote\" or \"pull\"") := by
  obtain ⟨demanded, other⟩ := both
  unfold checkSources
  rw [if_pos (by simpa [demanded] using other)]

/-- A contradiction is refused before any call. -/
theorem resolve_of_contradictory (backend : Backend σ) (scope : Scope) (remotes : Remotes)
    {params : LogParams} (both : Contradictory params) (world : World σ) :
    (resolve backend scope remotes params).outcome world =
      (.error (.failed (.badRequest "cannot combine \"local\" with \"remote\" or \"pull\"")),
        world) := by
  unfold resolve
  rw [checkSources_of_contradictory both]
  exact Action.outcome_bind_of_error _ _ _ _ _ (Action.outcome_ofExcept_error _ world)

/-- A fetch is told its remote, and does not look for one in the request. -/
theorem fetchRemote_withRemote (backend : Backend σ) (scope : Scope) (remotes : Remotes)
    (params : LogParams) (requested : Option String) (remote : String) :
    fetchRemote backend scope remotes (params.withRemote requested) remote =
      fetchRemote backend scope remotes params remote := by
  unfold fetchRemote
  apply bind_congr
  intro answer
  cases answer with
  | none => rfl
  | some answer =>
      cases answer with
      | error error => rfl
      | ok items => rfl

theorem afterLocal_of_blank (params : LogParams) {name : String}
    (blank : Text.isBlankText name.toList = true) (defaultRemote : String)
    (answer : Except StoreError (List Version)) :
    afterLocal (params.withRemote (some name)) defaultRemote answer =
      afterLocal (params.withRemote none) defaultRemote answer := by
  have asked := fallbackRemote_of_blank blank defaultRemote
  cases answer with
  | ok items => rfl
  | error error =>
      cases error with
      | notFound what =>
          show (if params.isLocal then Stage.failed (.localUnavailable params.reference.slug)
            else .remoteFallback (fallbackRemote (some name) defaultRemote)) = _
          rw [asked]
          rfl
      | _ => rfl

/-- Past the check a blank name makes no difference: the requests make the same calls and take
the same answers. -/
theorem resolve_of_blank (backend : Backend σ) (scope : Scope) (remotes : Remotes)
    (params : LogParams) {name : String} (blank : Text.isBlankText name.toList = true)
    (checked : checkSources (params.withRemote (some name)) =
      checkSources (params.withRemote none)) :
    resolve backend scope remotes (params.withRemote (some name)) =
      resolve backend scope remotes (params.withRemote none) := by
  have asked : fallbackRemote (params.withRemote (some name)).remote remotes.defaultRemote =
      fallbackRemote (params.withRemote none).remote remotes.defaultRemote :=
    fallbackRemote_of_blank blank remotes.defaultRemote
  unfold resolve
  simp only [checked, asked, afterLocal_of_blank params blank, fetchRemote_withRemote]
  rfl

/-- A demand for local history without a remote is not refused: either local history is called, or
the scope ends before that. -/
theorem resolve_ne_refused (backend : Backend σ) (scope : Scope) (remotes : Remotes)
    {params : LogParams} (demanded : params.isLocal = true) (consistent : ¬ Contradictory params)
    (world : World σ) (message : String) :
    (resolve backend scope remotes params).outcome world ≠
      (.error (.failed (.badRequest message)), world) := by
  obtain ⟨result, after, ran, resolves⟩ :=
    resolveEnds_resolve backend scope remotes world consistent
  intro refused
  rw [ran] at refused
  cases resolves with
  | pulled pull _ => exact consistent ⟨demanded, Or.inr pull⟩
  | stopped _ stops =>
      cases stops with
      | canceled _ _ => cases refused
      | expired _ _ => cases refused
      | never _ _ => cases refused
  | answered _ _ _ _ _ =>
      have calls : world.calls ++ [localCall params] = world.calls :=
        congrArg (fun outcome => outcome.2.calls) refused
      simp at calls
  | fellBack remains _ _ sources _ =>
      unfold consulted at sources
      rw [remains, demanded] at sources
      cases sources

/-- A request with a blank remote is the request with none, unless local history is demanded
without a pull: then the blank name is refused as a contradiction, and without it there is none. -/
theorem resolve_blank_remote (backend : Backend σ) (scope : Scope) (remotes : Remotes)
    (params : LogParams) (name : String) (blank : Text.isBlankText name.toList = true)
    (world : World σ) :
    let named := (resolve backend scope remotes (params.withRemote (some name))).outcome world
    let unnamed := (resolve backend scope remotes (params.withRemote none)).outcome world
    (named = unnamed ↔ params.isLocal = false ∨ params.pull = true) ∧
      (params.isLocal = true → named =
        (.error (.failed (.badRequest "cannot combine \"local\" with \"remote\" or \"pull\"")),
          world)) := by
  intro named unnamed
  have refused : params.isLocal = true → named =
      (.error (.failed (.badRequest "cannot combine \"local\" with \"remote\" or \"pull\"")),
        world) := by
    intro demanded
    have both : Contradictory (params.withRemote (some name)) := ⟨demanded, Or.inl rfl⟩
    exact resolve_of_contradictory backend scope remotes both world
  refine ⟨⟨fun same => ?_, fun either => ?_⟩, refused⟩
  · by_cases demanded : params.isLocal = true
    · apply Or.inr
      apply Classical.byContradiction
      intro unpulled
      have demands : (params.withRemote none).isLocal = true := demanded
      have consistent : ¬ Contradictory (params.withRemote none) := by
        simp [Contradictory, LogParams.withRemote, unpulled]
      apply resolve_ne_refused backend scope remotes demands consistent world
      exact same.symm.trans (refused demanded)
    · exact Or.inl (by simpa using demanded)
  · have checked : checkSources (params.withRemote (some name)) =
        checkSources (params.withRemote none) := by
      unfold checkSources
      rcases either with undemanded | pulled
      · simp [LogParams.withRemote, undemanded]
      · simp [LogParams.withRemote, pulled]
    show Action.outcome _ world = Action.outcome _ world
    rw [resolve_of_blank backend scope remotes params blank checked]

/-- A blank name falls back to the default remote, as no name does. -/
theorem resolve_blank_secondPage :
    Text.isBlankText " ".toList = true ∧
    ((resolve knownThere.backend {} {} (secondPage.withRemote (some " "))).outcome { state := () } =
      (resolve knownThere.backend {} {} (secondPage.withRemote none)).outcome { state := () }) ∧
    ((resolve knownThere.backend {} {} (secondPage.withRemote none)).outcome
      { state := () }).2.calls =
        [.log secondPage.reference secondPage.list, .fetch secondPage.reference ""] := by
  have blank : Text.isBlankText " ".toList = true := by decide
  have equal := resolve_blank_remote knownThere.backend {} {} secondPage " " blank { state := () }
  exact ⟨blank, equal.1.mpr (Or.inl rfl), rfl⟩

/-- With local history demanded, a blank name is refused without a call, and no name is not: local
history is called. -/
theorem resolve_refuses_blank_remote :
    ¬ ∀ (params : LogParams) (name : String), Text.isBlankText name.toList = true →
      (resolve knownThere.backend {} {} (params.withRemote (some name))).outcome { state := () } =
        (resolve knownThere.backend {} {} (params.withRemote none)).outcome { state := () } := by
  intro agrees
  have same := agrees { secondPage with isLocal := true } " " (by decide)
  have calls : [] = [Call.log secondPage.reference secondPage.list] :=
    congrArg (fun outcome => outcome.2.calls) same
  cases calls

end History
end DatasetService
