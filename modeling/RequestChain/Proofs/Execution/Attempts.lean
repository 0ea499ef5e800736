import RequestChain.Proofs.Journal

/-! # The attempts of a run

A run of a chain is a sequence of attempts: what each step sees of the steps before it, the world
in which it begins, and its outcome. A step that succeeds is recorded before the next one begins, and
a step that fails is the last. What is said about runs is proved along this sequence.
-/

namespace RequestChain

/-- A step of a chain that was attempted. -/
structure Attempt (σ : Type) where
  step : Step
  /-- What the step sees. -/
  context : Context
  /-- The world in which the step begins. -/
  world : World σ
  result : StepResult

namespace Executor

variable {σ : Type} (executor : Executor σ) (config : Config)

/-- The attempts of a run, up to the first that fails. -/
def attempts (context : Context) : List Step → World σ → List (Attempt σ)
  | [], _ => []
  | step :: rest, world =>
    let (result, after) := executor.attemptStep config context step world
    ⟨step, context, world, result⟩ ::
      if result.success then attempts (context.recordStep result).1 rest after else []

/-- A run from a context and a world, its attempts, and the world that it leaves. -/
inductive Run : Context → List Step → World σ → List (Attempt σ) → World σ → Prop
  | done (context : Context) (world : World σ) : Run context [] world [] world
  | failed {context : Context} {step : Step} {rest : List Step} {world after : World σ}
      {result : StepResult}
      (attempted : executor.attemptStep config context step world = (result, after))
      (failed : result.success = false) :
      Run context (step :: rest) world [⟨step, context, world, result⟩] after
  | succeeded {context : Context} {step : Step} {rest : List Step} {world after last : World σ}
      {result : StepResult} {others : List (Attempt σ)}
      (attempted : executor.attemptStep config context step world = (result, after))
      (succeeded : result.success = true)
      (rests : Run (context.recordStep result).1 rest after others last) :
      Run context (step :: rest) world (⟨step, context, world, result⟩ :: others) last

/-- The attempts of a chain make up its run. -/
theorem run_attempts (context : Context) (steps : List Step) (world : World σ) :
    executor.Run config context steps world (executor.attempts config context steps world)
      (executor.runSteps config context steps world).2 := by
  induction steps generalizing context world with
  | nil => exact .done context world
  | cons step rest ih =>
    cases attempted : executor.attemptStep config context step world with
    | mk result after =>
      simp only [attempts, attempted]
      cases succeeded : result.success with
      | false =>
        rw [executor.runSteps_of_failure config attempted succeeded]
        exact .failed attempted succeeded
      | true =>
        rw [executor.runSteps_of_success config attempted succeeded]
        exact .succeeded attempted succeeded (ih _ after)

/-- The request that is sent once it is prepared: none if a hook refuses it, and none in a dry
run. -/
def requestDelivered? (prepared : Request) (world : World σ) : Option Request :=
  match (runPreRequestHooks executor.registry.preRequestHooks).run (prepared, world) with
  | (.error _, _) => none
  | (.ok (), request, _) => if executor.dryRun then none else some request

/-- The request that a step sends: none under an id that is taken, none if there is no request, and
none if it is not delivered. -/
def requestSent? (context : Context) (step : Step) (world : World σ) : Option Request :=
  if context.steps.contains step.id then none
  else
    match (executor.prepare config context step.call step.overrides).run world with
    | (.error _, _) => none
    | (.ok prepared, world) => executor.requestDelivered? prepared world

end Executor

/-! ## One attempt -/

/-- A step's outcome bears its id, and has an error text exactly if it is a failure. -/
structure StepResult.Reports (result : StepResult) (stepId : String) : Prop where
  stepId : result.stepId = stepId
  error_of_failure : result.success = false → ∃ reason, result.error = some reason
  error_of_success : result.success = true → result.error = none

namespace StepResult

theorem failure_reports (stepId : String) (request : Request) (response : Response)
    (error : StepError) : (StepResult.failure stepId request response error).Reports stepId :=
  ⟨rfl, fun _ => ⟨_, rfl⟩, nofun⟩

theorem preparationFailure_reports (stepId error : String) :
    (StepResult.preparationFailure stepId error).Reports stepId :=
  ⟨rfl, fun _ => ⟨_, rfl⟩, nofun⟩

theorem answered_reports (stepId : String) (request : Request) (response : Response) :
    (StepResult.answered stepId request response).Reports stepId where
  stepId := rfl
  error_of_failure failed := by
    have refused : response.isSuccess = false := failed
    exact ⟨_, if_neg (by simp [refused])⟩
  error_of_success succeeded := if_pos succeeded

end StepResult

namespace Executor

variable {σ : Type} (executor : Executor σ) (config : Config)

theorem dispatch_reports (stepId : String) (request : Request) (world : World σ) :
    (executor.dispatch stepId request world).1.Reports stepId := by
  unfold dispatch
  split
  · exact StepResult.failure_reports ..
  · split
    · exact StepResult.failure_reports ..
    · exact StepResult.answered_reports ..

theorem deliver_reports (stepId : String) (request : Request) (world : World σ) :
    (executor.deliver stepId request world).1.Reports stepId := by
  unfold deliver
  split
  · exact StepResult.failure_reports ..
  · split
    · exact StepResult.answered_reports ..
    · exact executor.dispatch_reports stepId _ _

theorem executeStep_reports (context : Context) (stepId call : String)
    (overrides : Option Overrides) (world : World σ) :
    (executor.executeStep config context stepId call overrides world).1.Reports stepId := by
  unfold executeStep
  split
  · exact StepResult.preparationFailure_reports ..
  · exact executor.deliver_reports stepId _ _

/-- Whatever happens to a step, its outcome reports it. -/
theorem attemptStep_reports (context : Context) (step : Step) (world : World σ) :
    (executor.attemptStep config context step world).1.Reports step.id := by
  unfold attemptStep
  split
  · exact StepResult.preparationFailure_reports ..
  · exact executor.executeStep_reports config context step.id step.call step.overrides world

end Executor

/-! ## What one attempt sends -/

namespace Executor

variable {σ : Type} (executor : Executor σ) (config : Config)

end Executor

theorem Journal.sent_append (journal added : Journal) :
    (journal ++ added).sent = journal.sent ++ added.sent :=
  List.filterMap_append

namespace Executor

variable {σ : Type} (executor : Executor σ) (config : Config)

/-- Plugins send nothing. -/
private theorem registry_mirrors_sent (sent : List Request) :
    executor.journaled.registry.Mirrors (Journaling fun journal => journal.sent = sent)
      executor.registry := by
  refine executor.registry.journaled_mirrors fun journal entry silent holds => ?_
  rw [Journal.sent_append, holds]
  simp [Journal.sent, silent]

private theorem transport_sent (request : Request) (world : World (σ × Journal)) :
    ((executor.journaled.transport request).run world).2.journal.sent =
      world.journal.sent ++ [request] :=
  Journal.sent_append ..

theorem dispatch_sent (stepId : String) (request : Request) (world : World (σ × Journal)) :
    (executor.journaled.dispatch stepId request world).2.journal.sent =
      world.journal.sent ++ [request] := by
  have sent := executor.transport_sent request world
  unfold dispatch
  cases answered : (executor.journaled.transport request).run world with
  | mk answer after =>
  rw [answered] at sent
  cases answer with
  | error failure => exact sent
  | ok response =>
    have hooks := runPostResponseHooks_mirrors request
      (executor.registry_mirrors_sent (world.journal.sent ++ [request])).postResponseHooks
      (response, after) (response, after.plain) ⟨rfl, rfl, sent⟩
    simp only
    generalize (runPostResponseHooks request executor.journaled.registry.postResponseHooks).run
      (response, after) = ended at hooks ⊢
    obtain ⟨outcome, changed, last⟩ := ended
    cases outcome with
    | error error => exact hooks.2.2.2
    | ok done => exact hooks.2.2.2

theorem deliver_sent (stepId : String) (request : Request) (world : World (σ × Journal)) :
    (executor.journaled.deliver stepId request world).2.journal.sent =
      world.journal.sent ++ (executor.requestDelivered? request world.plain).toList := by
  have hooks := runPreRequestHooks_mirrors
    (executor.registry_mirrors_sent world.journal.sent).preRequestHooks (request, world)
    (request, world.plain) ⟨rfl, rfl, rfl⟩
  unfold deliver requestDelivered?
  generalize (runPreRequestHooks executor.journaled.registry.preRequestHooks).run
    (request, world) = ended at hooks ⊢
  generalize (runPreRequestHooks executor.registry.preRequestHooks).run
    (request, world.plain) = behind at hooks ⊢
  obtain ⟨outcome, changed, after⟩ := ended
  obtain ⟨outcome', changed', after'⟩ := behind
  obtain ⟨same, changes, -, sent⟩ := hooks
  obtain rfl : outcome = outcome' := same
  obtain rfl : changed = changed' := changes
  cases outcome with
  | error error => simpa using sent
  | ok done =>
    simp only
    by_cases dry : executor.dryRun = true
    · rw [if_pos (show executor.journaled.dryRun = true from dry), if_pos dry]
      simpa using sent
    · rw [if_neg (show ¬executor.journaled.dryRun = true from dry), if_neg dry, ← sent]
      exact executor.dispatch_sent stepId changed after

/-- A step adds the request that it sends, and nothing else, to what was sent. -/
theorem attemptStep_sent (context : Context) (step : Step) (world : World (σ × Journal)) :
    (executor.journaled.attemptStep config context step world).2.journal.sent =
      world.journal.sent ++ (executor.requestSent? config context step world.plain).toList := by
  unfold attemptStep requestSent?
  split
  · simp
  · have prepared := prepare_mirrors (executor.registry_mirrors_sent world.journal.sent) config
      context step.call step.overrides world world.plain ⟨rfl, rfl⟩
    unfold executeStep
    generalize (executor.journaled.prepare config context step.call step.overrides).run world =
      ended at prepared ⊢
    generalize (executor.prepare config context step.call step.overrides).run world.plain = behind
      at prepared ⊢
    obtain ⟨outcome, after⟩ := ended
    obtain ⟨outcome', after'⟩ := behind
    obtain ⟨same, plain, sent⟩ := prepared
    obtain rfl : outcome = outcome' := same
    obtain rfl : after.plain = after' := plain
    cases outcome with
    | error error => simpa using sent
    | ok request =>
      rw [← sent]
      exact executor.deliver_sent step.id request after

variable {config}

/-- An attempt with a journal has the same outcome, and its journal shows the request. -/
theorem attemptStep_journaled {context : Context} {step : Step} {world : World (σ × Journal)}
    {after : World σ} {result : StepResult}
    (attempted : executor.attemptStep config context step world.plain = (result, after)) :
    ∃ last, executor.journaled.attemptStep config context step world = (result, last) ∧
      last.plain = after ∧
      last.journal.sent =
        world.journal.sent ++ (executor.requestSent? config context step world.plain).toList := by
  have together : Journaling (fun _ => True) world world.plain := ⟨rfl, trivial⟩
  obtain ⟨same, behind, -⟩ :=
    executor.journaled_mirrors.attemptStep config context step together
  rw [attempted] at same behind
  exact ⟨_, Prod.ext same rfl, behind, executor.attemptStep_sent config context step world⟩

end Executor

end RequestChain
