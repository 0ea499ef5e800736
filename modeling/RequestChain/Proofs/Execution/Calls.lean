import RequestChain.Proofs.Config.Validation
import RequestChain.Proofs.Execution.History
import RequestChain.Proofs.Failures
import RequestChain.Proofs.Text.Cutting

/-! # Calls of a configuration without problems

A call is the name of an API, a point, and the name of an endpoint, neither with a point of its own.
In a configuration without problems every call of a step leads to an endpoint, and no step finds a
record under its id. So each attempt assembles the request of that very endpoint and goes on from
there, and what can fail is its resolution, a hook, the transport or the status of the answer.
-/

namespace RequestChain

/-! ## The names in a call -/

/-- A call has exactly one point, and names on both sides of it. -/
theorem parseCall?_eq_some_iff {call apiName endpointName : String} :
    parseCall? call = some (apiName, endpointName) ↔
      call = apiName ++ "." ++ endpointName ∧ apiName ≠ "" ∧ endpointName ≠ "" ∧
        '.' ∉ apiName.toList ∧ '.' ∉ endpointName.toList := by
  constructor
  · intro parsed
    by_cases pointed : '.' ∈ call.toList
    · obtain ⟨api, endpoint, split, pointless⟩ := List.eq_append_cons_of_mem pointed
      rw [parseCall?, split, Text.takeWhile_ne_append pointless, Text.dropWhile_ne_append pointless]
        at parsed
      simp only at parsed
      split at parsed
      · cases parsed
      · rename_i shaped
        obtain ⟨rfl, rfl⟩ := Prod.mk.inj (Option.some.inj parsed)
        simp only [Bool.or_eq_true, List.isEmpty_iff, List.contains_iff_mem, not_or] at shaped
        obtain ⟨⟨named, ends⟩, pointless'⟩ := shaped
        have text : call = String.ofList api ++ "." ++ String.ofList endpoint :=
          String.toList_injective (by simp [split])
        exact ⟨text, by simpa using named, by simpa using ends, by simpa using pointless,
          by simpa using pointless'⟩
    · rw [parseCall?, Text.dropWhile_ne_of_not_mem pointed] at parsed
      cases parsed
  · rintro ⟨rfl, named, ends, pointless, pointless'⟩
    have text : (apiName ++ "." ++ endpointName).toList =
        apiName.toList ++ '.' :: endpointName.toList := by
      simp
    have shaped : (apiName.toList.isEmpty || endpointName.toList.isEmpty ||
        endpointName.toList.contains '.') = false := by
      simp [named, ends, pointless']
    rw [parseCall?, text, Text.takeWhile_ne_append pointless, Text.dropWhile_ne_append pointless]
    simp only [shaped, Bool.false_eq_true, if_false, String.ofList_toList]

/-! ## Error texts -/

/-- Errors about the call of a step or about its id. -/
def StepError.isMiscall : StepError → Bool
  | invalidCall _ | duplicateStepId _ | unknownApi _ | unknownEndpoint _ _ => true
  | resolution _ | preRequestHook _ _ | postResponseHook _ _ | transport _ => false

private theorem head?_append_text {start : String} {initial : Char}
    (begins : start.toList.head? = some initial) (rest : String) :
    (start ++ rest).toList.head? = some initial := by
  rw [String.toList_append, List.head?_append, begins, Option.some_or]

/-- The letters that the texts of errors begin with tell miscalls from others. -/
private theorem head?_message (error : StepError) :
    ∃ initial, error.message.toList.head? = some initial ∧
      error.isMiscall = ['i', 'd', 'u'].contains initial := by
  cases error with
  | invalidCall call =>
    exact ⟨'i', head?_append_text (head?_append_text (by decide) _) _, rfl⟩
  | duplicateStepId stepId =>
    exact ⟨'d', head?_append_text (head?_append_text (by decide) _) _, rfl⟩
  | unknownApi api =>
    exact ⟨'u', head?_append_text (head?_append_text (by decide) _) _, rfl⟩
  | unknownEndpoint api endpoint =>
    have start := head?_append_text (show "unknown endpoint '".toList.head? = some 'u' by decide)
    exact ⟨'u', head?_append_text (head?_append_text (head?_append_text (start _) _) _) _, rfl⟩
  | resolution error => exact ⟨'V', head?_append_text (by decide) _, rfl⟩
  | preRequestHook plugin failure =>
    exact ⟨'p', head?_append_text (head?_append_text (head?_append_text (by decide) _) _) _, rfl⟩
  | postResponseHook plugin failure =>
    exact ⟨'p', head?_append_text (head?_append_text (head?_append_text (by decide) _) _) _, rfl⟩
  | transport failure => exact ⟨'T', head?_append_text (by decide) _, rfl⟩

/-- Miscalls and other errors have different texts. -/
private theorem message_ne {miscall other : StepError} (isMiscall : miscall.isMiscall = true)
    (isOther : other.isMiscall = false) : other.message ≠ miscall.message := by
  intro same
  obtain ⟨initial, begins, known⟩ := head?_message other
  obtain ⟨initial', begins', known'⟩ := head?_message miscall
  rw [same, begins'] at begins
  obtain rfl := Option.some.inj begins
  rw [isMiscall, ← known, isOther] at known'
  cases known'

/-- The error of an outcome is none about the call of a step or its id. -/
def StepResult.NoMiscall (result : StepResult) : Prop :=
  ∀ error : StepError, error.isMiscall = true → result.error ≠ some error.message

namespace StepResult

variable {stepId : String} {request : Request} {response : Response}

theorem preparationFailure_noMiscall {error : StepError} (other : error.isMiscall = false) :
    (preparationFailure stepId error.message).NoMiscall :=
  fun _ isMiscall same => message_ne isMiscall other (Option.some.inj same)

theorem failure_noMiscall {error : StepError} (other : error.isMiscall = false) :
    (failure stepId request response error).NoMiscall :=
  fun _ isMiscall same => message_ne isMiscall other (Option.some.inj same)

/-- The error of a bad status begins with a capital letter. -/
theorem answered_noMiscall : (answered stepId request response).NoMiscall := by
  intro error isMiscall same
  unfold answered at same
  split at same
  · cases same
  · obtain ⟨initial, begins, known⟩ := head?_message error
    have capital : "HTTP ".toList.head? = some 'H' := by decide
    rw [← Option.some.inj same, String.append_assoc, String.append_assoc,
      head?_append_text capital] at begins
    obtain rfl := Option.some.inj begins
    rw [isMiscall] at known
    cases known

end StepResult

/-! ## Hooks -/

section Hooks

variable {σ : Type}

theorem runPreRequestHooks_failsOnlyWith (hooks : List (String × PreRequestHook σ)) :
    (runPreRequestHooks hooks).FailsOnlyWith fun error => error.isMiscall = false := by
  induction hooks with
  | nil => exact .pure ()
  | cons entry rest ih =>
    rw [runPreRequestHooks]
    refine .bind (.mapError ?_ _) fun _ => ih
    intro failure
    rfl

theorem runPostResponseHooks_failsOnlyWith (request : Request)
    (hooks : List (String × PostResponseHook σ)) :
    (runPostResponseHooks request hooks).FailsOnlyWith fun error => error.isMiscall = false := by
  induction hooks with
  | nil => exact .pure ()
  | cons entry rest ih =>
    rw [runPostResponseHooks]
    refine .bind (.mapError ?_ _) fun _ => ih
    intro failure
    rfl

end Hooks

namespace Executor

variable {σ : Type} (executor : Executor σ)

theorem dispatch_noMiscall (stepId : String) (request : Request) (world : World σ) :
    (executor.dispatch stepId request world).1.NoMiscall := by
  unfold dispatch
  split
  · exact StepResult.failure_noMiscall rfl
  · split
    · rename_i failed
      have other := runPostResponseHooks_failsOnlyWith request executor.registry.postResponseHooks
      exact StepResult.failure_noMiscall (other _ _ (congrArg Prod.fst failed))
    · exact StepResult.answered_noMiscall

theorem deliver_noMiscall (stepId : String) (request : Request) (world : World σ) :
    (executor.deliver stepId request world).1.NoMiscall := by
  unfold deliver
  split
  · rename_i failed
    have other := runPreRequestHooks_failsOnlyWith executor.registry.preRequestHooks
    exact StepResult.failure_noMiscall (other _ _ (congrArg Prod.fst failed))
  · split
    · exact StepResult.answered_noMiscall
    · exact executor.dispatch_noMiscall stepId _ _

/-! ## Steps that are on their way -/

/-- The outcome of a step with the request of this very endpoint. -/
def executeAt (api : Api) (endpoint : Endpoint) (context : Context) (step : Step)
    (world : World σ) : StepResult × World σ :=
  match (assemble executor.registry (context.scopedTo api endpoint) api endpoint
      step.overrides).run world with
  | (.error error, world) =>
    (.preparationFailure step.id (StepError.resolution error).message, world)
  | (.ok request, world) => executor.deliver step.id request world

theorem executeAt_noMiscall (api : Api) (endpoint : Endpoint) (context : Context) (step : Step)
    (world : World σ) :
    (executor.executeAt api endpoint context step world).1.NoMiscall := by
  unfold executeAt
  split
  · exact StepResult.preparationFailure_noMiscall rfl
  · exact executor.deliver_noMiscall step.id _ _

/-- A step whose call leads to an endpoint is on its way there. -/
theorem executeStep_of_target {config : Config} {context : Context} {step : Step} {api : Api}
    {endpoint : Endpoint} (called : config.target step.call = .ok (api, endpoint))
    (world : World σ) :
    executor.executeStep config context step.id step.call step.overrides world =
      executor.executeAt api endpoint context step world := by
  rw [executeStep, prepare, called, Effect.ofExcept_ok_bind, Effect.run_mapError, executeAt]
  generalize (assemble executor.registry (context.scopedTo api endpoint) api endpoint
    step.overrides).run world = assembled
  obtain ⟨outcome, after⟩ := assembled
  cases outcome with
  | error error => rfl
  | ok request => rfl

/-- A step whose call leads nowhere fails with the reason. -/
theorem executeStep_of_miscall {config : Config} {call : String} {error : StepError}
    (miscalled : config.target call = .error error) (context : Context) (stepId : String)
    (overrides : Option Overrides) (world : World σ) :
    executor.executeStep config context stepId call overrides world =
      (.preparationFailure stepId error.message, world) := by
  rw [executeStep, prepare, miscalled]
  rfl

/-- A step whose id is free as well is attempted there. -/
theorem attemptStep_of_target {config : Config} {context : Context} {step : Step} {api : Api}
    {endpoint : Endpoint} (fresh : context.steps.contains step.id = false)
    (called : config.target step.call = .ok (api, endpoint)) (world : World σ) :
    executor.attemptStep config context step world =
      executor.executeAt api endpoint context step world := by
  rw [attemptStep, if_neg (by simp [fresh]), executor.executeStep_of_target called]

/-- An attempt finds its id free if no id comes twice in the chain. -/
theorem Run.fresh {config : Config} {context : Context} {steps : List Step} {world last : World σ}
    {attempts : List (Attempt σ)} {executor : Executor σ}
    (run : executor.Run config context steps world attempts last)
    (unrecorded : context.steps.entries = []) (distinct : (steps.map (·.id)).Nodup)
    {attempt : Attempt σ} (member : attempt ∈ attempts) :
    attempt.context.steps.contains attempt.step.id = false := by
  obtain ⟨index, found⟩ := List.mem_iff_getElem?.mp member
  have sees := run.seesEarlier unrecorded found
  have recorded : attempt.context.steps.keys = (steps.map (·.id)).take index := by
    rw [OrderedMap.keys, sees.records, List.map_map]
    exact sees.stepIds.trans List.map_take
  have declared : ((steps.map (·.id)).drop index).head? = some attempt.step.id := by
    rw [List.head?_drop, List.getElem?_map, run.step_at found, Option.map_some]
  rw [OrderedMap.contains_eq_false_iff, recorded]
  intro taken
  exact List.disjoint_take_drop distinct (Nat.le_refl index) taken (List.mem_of_mem_head? declared)

/-- An attempt whose step calls this endpoint of this API: the endpoint has the two names of the
call, and the outcome is that of its request. -/
def Calls (config : Config) (attempt : Attempt σ) : Prop :=
  ∃ apiName endpointName api endpoint after,
    attempt.step.call = apiName ++ "." ++ endpointName ∧
      '.' ∉ apiName.toList ∧ '.' ∉ endpointName.toList ∧
      config.apis.get? apiName = some api ∧ api.endpoints.get? endpointName = some endpoint ∧
      executor.executeAt api endpoint attempt.context attempt.step attempt.world =
        (attempt.result, after)

/-- The run of a chain that can be called. -/
theorem calls_of_callable {config : Config} {chain : Chain} (callable : chain.Callable config)
    {context : Context} {world : World σ} {attempt : Attempt σ}
    (member : attempt ∈ executor.attempts config (context.forChain chain) chain.steps world) :
    executor.Calls config attempt ∧ attempt.result.NoMiscall := by
  have run := executor.run_attempts config (context.forChain chain) chain.steps world
  obtain ⟨index, found⟩ := List.mem_iff_getElem?.mp member
  have fresh := run.fresh rfl callable.distinct member
  obtain ⟨api, endpoint, called⟩ :=
    callable.called attempt.step (List.mem_of_getElem? (run.step_at found))
  obtain ⟨after, attempted⟩ := run.attempted attempt member
  rw [executor.attemptStep_of_target fresh called] at attempted
  obtain ⟨apiName, endpointName, parsed, held⟩ := Config.target_eq_ok_iff.mp called
  obtain ⟨written, -, -, pointless, pointless'⟩ := parseCall?_eq_some_iff.mp parsed
  simp only [Config.endpoint?, Option.bind_eq_bind, Option.bind_eq_some_iff, Option.some.injEq,
    Prod.mk.injEq] at held
  obtain ⟨held, heldApi, other, heldEndpoint, rfl, rfl⟩ := held
  refine ⟨⟨apiName, endpointName, held, other, after, written, pointless, pointless', heldApi,
    heldEndpoint, attempted⟩, ?_⟩
  have outcome := executor.executeAt_noMiscall held other attempt.context attempt.step attempt.world
  rwa [attempted] at outcome

/-- In a configuration without problems every chain can be run, and no attempt of a run fails because
of its call or its id. Each assembles the request of the endpoint that its call names. -/
theorem run?_of_no_problems {config : Config} (valid : config.problems = []) {chainName : String}
    {chain : Chain} (declared : config.chains.get? chainName = some chain) (context : Context)
    (world : World σ) :
    let attempts := executor.attempts config (context.forChain chain) chain.steps world
    (∃ result after, executor.run? config context chainName world = some (result, after) ∧
      result.steps = attempts.map (·.result)) ∧
    ∀ attempt ∈ attempts, executor.Calls config attempt ∧ attempt.result.NoMiscall := by
  have callable : chain.Callable config :=
    (config.problems_eq_nil_iff.mp valid).2 chain (OrderedMap.mem_values_of_get? declared)
  have run := executor.run_attempts config (context.forChain chain) chain.steps world
  refine ⟨⟨_, _, by rw [run?, declared, Option.map_some], ?_⟩,
    fun attempt => executor.calls_of_callable callable⟩
  exact congrArg Prod.fst run.results_eq

/-- A chain of two calls of one endpoint, in a dry run. -/
theorem run?_of_no_problems_ping :
    let ping : Endpoint := { path := "/ping" }
    let service : Api := { baseUrl := "http://svc", endpoints := .ofList [("ping", ping)] }
    let chain : Chain := {
      steps := [{ id := "first", call := "svc.ping" }, { id := "second", call := "svc.ping" }] }
    let config : Config := {
      apis := .ofList [("svc", service)], chains := .ofList [("pings", chain)] }
    let executor : Executor Unit := { registry := .empty, transport := .noop, dryRun := true }
    config.problems = [] ∧ config.chains.get? "pings" = some chain ∧
      ∀ attempt ∈ executor.attempts config (Context.forChain {} chain) chain.steps { host := () },
        executor.Calls config attempt ∧ attempt.result.NoMiscall := by
  intro ping service chain config executor
  have valid : config.problems = [] := by decide +kernel
  have declared : config.chains.get? "pings" = some chain := by rfl
  exact ⟨valid, declared, (executor.run?_of_no_problems valid declared {} { host := () }).2⟩

end Executor

end RequestChain
