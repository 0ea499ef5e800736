import RequestChain.Proofs.Execution.Calls

/-! # Endpoints that are called outside of a chain

The names of an API and of its endpoint are put together to a call, which is then taken apart again.
Nothing restricts the names in a configuration, but the call can be read only if neither of them is
empty or has a point of its own. So an endpoint with such a name is there and cannot be called; it is
never mistaken for another one.

Whatever the names, a call is a chain of one step that brings nothing along: it passes the same stages
in the same context, as long as there are no records that a chain would drop.
-/

namespace RequestChain

/-! ## Names -/

/-- A name that can be told from the rest of a call. -/
structure IsCallName (name : String) : Prop where
  nonempty : name ≠ ""
  pointless : '.' ∉ name.toList

/-- A point between two texts is the only one if neither has one of its own. -/
private theorem pointless_of_eq {left right left' right' : List Char} (pointless : '.' ∉ left')
    (pointless' : '.' ∉ right') (same : left ++ '.' :: right = left' ++ '.' :: right') :
    '.' ∉ left ∧ '.' ∉ right := by
  have points := congrArg (List.count '.') same
  simp only [List.count_append, List.count_cons_self, List.count_eq_zero_of_not_mem pointless,
    List.count_eq_zero_of_not_mem pointless'] at points
  constructor
  · apply List.count_eq_zero.mp
    omega
  · apply List.count_eq_zero.mp
    omega

/-- Two names that are put together are read again if both can be told apart. -/
theorem parseCall?_append_iff {apiName endpointName : String} {names : String × String} :
    parseCall? (apiName ++ "." ++ endpointName) = some names ↔
      names = (apiName, endpointName) ∧ IsCallName apiName ∧ IsCallName endpointName := by
  constructor
  · intro parsed
    obtain ⟨api, endpoint⟩ := names
    obtain ⟨written, named, ends, pointless, pointless'⟩ := parseCall?_eq_some_iff.mp parsed
    have same : apiName.toList ++ '.' :: endpointName.toList =
        api.toList ++ '.' :: endpoint.toList := by
      simpa using congrArg String.toList written
    obtain ⟨pointlessApi, pointlessEndpoint⟩ := pointless_of_eq pointless pointless' same
    have before := congrArg (List.takeWhile (· ≠ '.')) same
    rw [Text.takeWhile_ne_append pointlessApi, Text.takeWhile_ne_append pointless] at before
    rw [before, List.append_cancel_left_eq, List.cons.injEq] at same
    obtain rfl := String.toList_injective before
    obtain rfl := String.toList_injective same.2
    exact ⟨rfl, ⟨named, pointless⟩, ⟨ends, pointless'⟩⟩
  · rintro ⟨rfl, api, endpoint⟩
    exact parseCall?_eq_some_iff.mpr
      ⟨rfl, api.nonempty, endpoint.nonempty, api.pointless, endpoint.pointless⟩

/-! ## Invocations -/

namespace Executor

variable {σ : Type} (executor : Executor σ)

/-- An endpoint of the configuration is called if its name and that of its API can be told apart. If
not, the call is refused as a whole. -/
theorem callEndpoint_of_configured {config : Config} {apiName endpointName : String} {api : Api}
    {endpoint : Endpoint} (configured : config.endpoint? apiName endpointName = some (api, endpoint))
    (context : Context) (world : World σ) :
    let call := apiName ++ "." ++ endpointName
    let step : Step := { id := call, call }
    let called := executor.callEndpoint config context apiName endpointName world
    (IsCallName apiName ∧ IsCallName endpointName →
      called = executor.executeAt api endpoint context step world ∧ called.1.NoMiscall) ∧
    (¬(IsCallName apiName ∧ IsCallName endpointName) →
      called = (.preparationFailure call (StepError.invalidCall call).message, world)) := by
  intro call step called
  constructor
  · intro names
    have parsed : parseCall? step.call = some (apiName, endpointName) :=
      parseCall?_append_iff.mpr ⟨rfl, names⟩
    have target : config.target step.call = .ok (api, endpoint) :=
      Config.target_eq_ok_iff.mpr ⟨apiName, endpointName, parsed, configured⟩
    have executed : called = executor.executeAt api endpoint context step world :=
      executor.executeStep_of_target target world
    refine ⟨executed, ?_⟩
    rw [executed]
    exact executor.executeAt_noMiscall api endpoint context step world
  · intro unnamed
    have unread : parseCall? call = none := by
      rw [Option.eq_none_iff_forall_not_mem]
      intro names parsed
      exact unnamed (parseCall?_append_iff.mp parsed).2
    have target : config.target call = .error (.invalidCall call) := by
      rw [Config.target, unread]
    exact executor.executeStep_of_miscall target context call none world

/-- A service with one endpoint. -/
def singleEndpoint (apiName endpointName : String) : Config where
  apis := .ofList
    [(apiName, { baseUrl := "http://h", endpoints := .ofList [(endpointName, { path := "/p" })] })]

theorem callEndpoint_users_get :
    let config := singleEndpoint "users" "get"
    let executor : Executor Unit := { registry := .empty, transport := .noop }
    ∃ api endpoint, config.endpoint? "users" "get" = some (api, endpoint) ∧
      (executor.callEndpoint config {} "users" "get" { host := () }).1.NoMiscall := by
  intro config executor
  have configured : config.endpoint? "users" "get" = some
      ({ baseUrl := "http://h", endpoints := .ofList [("get", { path := "/p" })] },
        { path := "/p" }) := rfl
  refine ⟨_, _, configured, ?_⟩
  refine ((executor.callEndpoint_of_configured configured {} { host := () }).1 ?_).2
  exact ⟨⟨by decide, by decide⟩, ⟨by decide, by decide⟩⟩

/-- The API has a version with a point for its name. -/
theorem callEndpoint_refuses_version :
    let config := singleEndpoint "v1.0" "get"
    let executor : Executor Unit := { registry := .empty, transport := .noop }
    let result := (executor.callEndpoint config {} "v1.0" "get" { host := () }).1
    (config.endpoint? "v1.0" "get").isSome = true ∧ result.success = false ∧
      result.error = some (StepError.invalidCall "v1.0.get").message := by
  decide +kernel

/-! ## Chains of one step -/

variable (config : Config)

/-- A step that is alone is attempted, and nothing follows it. -/
theorem runSteps_singleton (context : Context) (step : Step) (world : World σ) :
    executor.runSteps config context [step] world =
      ([(executor.attemptStep config context step world).1],
        (executor.attemptStep config context step world).2) := by
  rw [runSteps]
  dsimp only
  split
  · rfl
  · rfl

/-- The first step of a chain finds its id free. -/
theorem attemptStep_forChain (context : Context) (chain : Chain) (step : Step) (world : World σ) :
    executor.attemptStep config (context.forChain chain) step world =
      executor.executeStep config (context.forChain chain) step.id step.call step.overrides
        world := by
  have free : (context.forChain chain).steps.contains step.id = false := rfl
  rw [attemptStep, free, if_neg Bool.false_ne_true]

/-- A chain of one step is as successful as its step. -/
theorem success_ofSteps_singleton (chainName : String) (result : StepResult) :
    (ChainResult.ofSteps chainName [result]).success = result.success := by
  unfold ChainResult.ofSteps RunState.atEnd
  cases result.success with
  | true => rfl
  | false => rfl

/-- A call without overrides has the outcome of a chain of one step under the id of the call, if the
chain has the variables that the context has for chains and there are no records. It leaves the same
world, and collaborators are called in the same order. -/
theorem callEndpoint_singleStep {context : Context} (noRecords : context.steps = {})
    (apiName endpointName chainName : String) (description : Option String) (world : World σ) :
    let call := apiName ++ "." ++ endpointName
    let chain : Chain := { description, vars := context.chain, steps := [{ id := call, call }] }
    let called := executor.callEndpoint config context apiName endpointName world
    let outcome := executor.executeChain config context chainName chain world
    let journaledCall := executor.journaled.callEndpoint config context apiName endpointName
      (world.withJournal [])
    let journaledChain := executor.journaled.executeChain config context chainName chain
      (world.withJournal [])
    outcome.1.steps = [called.1] ∧ outcome.1.success = called.1.success ∧ outcome.2 = called.2 ∧
      journaledChain.1 = outcome.1 ∧ journaledChain.2 = journaledCall.2 ∧
      journaledCall.2.plain = called.2 := by
  intro call chain called outcome journaledCall journaledChain
  have same : context.forChain chain = context := by
    rw [Context.forChain, ← noRecords]
  have single {τ : Type} (executor : Executor τ) (world : World τ) :
      executor.executeChain config context chainName chain world =
        (.ofSteps chainName [(executor.callEndpoint config context apiName endpointName world).1],
          (executor.callEndpoint config context apiName endpointName world).2) := by
    rw [executeChain, runSteps_singleton, attemptStep_forChain, same]
    rfl
  have together : Journaling (fun _ => True) (world.withJournal []) world := ⟨rfl, trivial⟩
  have mirrored := executor.journaled_mirrors.executeStep config context call call none together
  have outcome_eq : outcome = (.ofSteps chainName [called.1], called.2) := single executor world
  have journaled_eq : journaledChain = (.ofSteps chainName [journaledCall.1], journaledCall.2) :=
    single executor.journaled (world.withJournal [])
  rw [outcome_eq, journaled_eq]
  refine ⟨rfl, success_ofSteps_singleton chainName called.1, rfl, ?_, rfl, mirrored.2.1⟩
  exact congrArg (fun result => ChainResult.ofSteps chainName [result]) mirrored.1

/-- The path of the endpoint refers to a variable of the chain that the context holds, and the answer
is a failure. -/
theorem callEndpoint_singleStep_missing :
    let endpoint : Endpoint := { path := "/\x7b\x7bname\x7d\x7d" }
    let config : Config := {
      apis := .ofList [("files", {
        baseUrl := "http://h", endpoints := .ofList [("get", endpoint)] })] }
    let context : Context := { chain := .ofList [("name", .string "a")] }
    let executor : Executor Unit := {
      registry := .empty
      transport := fun _ => pure { status := 404, statusText := "Not Found" } }
    let chain : Chain := {
      vars := context.chain, steps := [{ id := "files.get", call := "files.get" }] }
    let called := executor.callEndpoint config context "files" "get" { host := () }
    let outcome := executor.executeChain config context "single" chain { host := () }
    context.steps = {} ∧ outcome.1.steps = [called.1] ∧ called.1.request.url = "http://h/a" ∧
      outcome.1.error = some "Step 'files.get' failed: HTTP 404 Not Found" := by
  intro endpoint config context executor chain called outcome
  have noRecords : context.steps = {} := rfl
  have single := executor.callEndpoint_singleStep config noRecords "files" "get" "single" none
    { host := () }
  exact ⟨noRecords, single.1, by decide +kernel, by decide +kernel⟩

end Executor

end RequestChain
