import RequestChain.Execution.Chain
import RequestChain.Proofs.Resolve.Coupling

/-! # Runs that do the same

Two executors whose collaborators do the same in worlds that are together make the same requests,
and give steps and chains the same outcomes. This is carried from the sources through the rendering
of templates and the assembly of requests to the hooks, the transport, a step, and a chain.
-/

namespace RequestChain

open Effect (Mirrors)

/-- The worlds of two hooks: what the hooks change is the same. -/
def alongside {σ τ : Type} (together : World σ → World τ → Prop) (Part : Type)
    (left : Part × World σ) (right : Part × World τ) : Prop :=
  left.1 = right.1 ∧ together left.2 right.2

/-- Two registries offer the same names, and what they offer does the same. -/
structure Registry.Mirrors {σ τ : Type} (together : World σ → World τ → Prop)
    (left : Registry σ) (right : Registry τ) : Prop where
  containsPlugin : ∀ plugin, left.containsPlugin plugin = right.containsPlugin plugin
  variableSources : ∀ plugin member,
    Option.Rel (Effect.Mirrors together) (left.variableSource? plugin member)
      (right.variableSource? plugin member)
  functionSources : ∀ plugin function,
    Option.Rel
      (fun leftSource rightSource => ∀ arguments,
        Effect.Mirrors together (leftSource arguments) (rightSource arguments))
      (left.functionSource? plugin function) (right.functionSource? plugin function)
  secretResolvers :
    List.Forall₂
      (fun leftResolver rightResolver => ∀ name,
        Effect.Mirrors together (leftResolver.2 name) (rightResolver.2 name))
      left.secretResolvers right.secretResolvers
  preRequestHooks :
    List.Forall₂
      (fun leftHook rightHook => leftHook.1 = rightHook.1 ∧
        Effect.Mirrors (alongside together Request) leftHook.2 rightHook.2)
      left.preRequestHooks right.preRequestHooks
  postResponseHooks :
    List.Forall₂
      (fun leftHook rightHook => leftHook.1 = rightHook.1 ∧
        ∀ request, Effect.Mirrors (alongside together Response) (leftHook.2 request)
          (rightHook.2 request))
      left.postResponseHooks right.postResponseHooks

section Resolution

variable {σ τ : Type} {together : World σ → World τ → Prop} {left : Registry σ}
  {right : Registry τ}

private theorem Registry.Mirrors.coupled (registries : Registry.Mirrors together left right) :
    Registry.Coupled (.ofRelation together) .same Eq left right :=
  .of_mirrors registries.containsPlugin registries.variableSources registries.functionSources
    registries.secretResolvers

theorem render_mirrors (registries : Registry.Mirrors together left right) (context : Context)
    (text : String) : Mirrors together (render left context text) (render right context text) := by
  intro leftWorld rightWorld related
  exact outcome_eq_of_renderingsEnd (render_ends registries.coupled text related (.refl context _))

theorem resolve_mirrors (registries : Registry.Mirrors together left right) (context : Context)
    (text : String) : Mirrors together (resolve left context text) (resolve right context text) :=
  (render_mirrors registries context text).bind fun _ => .pure _

mutual

theorem resolveValue_mirrors (registries : Registry.Mirrors together left right)
    (context : Context) : ∀ value : Json,
      Mirrors together (resolveValue left context value) (resolveValue right context value)
  | .string text => by
    rw [resolveValue, resolveValue]
    exact (resolve_mirrors registries context text).bind fun _ => .pure _
  | .array items => by
    rw [resolveValue, resolveValue]
    exact (resolveItems_mirrors registries context items).bind fun _ => .pure _
  | .object fields => by
    rw [resolveValue, resolveValue]
    exact (resolveFields_mirrors registries context fields).bind fun _ => .pure _
  | .null => by
    rw [resolveValue, resolveValue]
    exact .pure _
  | .bool value => by
    rw [resolveValue, resolveValue]
    exact .pure _
  | .number value => by
    rw [resolveValue, resolveValue]
    exact .pure _

theorem resolveItems_mirrors (registries : Registry.Mirrors together left right)
    (context : Context) : ∀ items : List Json,
      Mirrors together (resolveItems left context items) (resolveItems right context items)
  | [] => by
    rw [resolveItems, resolveItems]
    exact .pure _
  | item :: rest => by
    rw [resolveItems, resolveItems]
    refine (resolveValue_mirrors registries context item).bind fun _ => ?_
    exact (resolveItems_mirrors registries context rest).bind fun _ => .pure _

theorem resolveFields_mirrors (registries : Registry.Mirrors together left right)
    (context : Context) : ∀ fields : List (String × Json),
      Mirrors together (resolveFields left context fields) (resolveFields right context fields)
  | [] => by
    rw [resolveFields, resolveFields]
    exact .pure _
  | (name, value) :: rest => by
    rw [resolveFields, resolveFields]
    refine (resolveValue_mirrors registries context value).bind fun _ => ?_
    exact (resolveFields_mirrors registries context rest).bind fun _ => .pure _

end

theorem resolveKept_mirrors (registries : Registry.Mirrors together left right)
    (context : Context) (keep : Rendered → Bool) (entries : List (String × Json)) :
    Mirrors together (resolveKept left context keep entries)
      (resolveKept right context keep entries) := by
  induction entries with
  | nil => exact .pure []
  | cons entry rest ih =>
    obtain ⟨name, value⟩ := entry
    rw [resolveKept, resolveKept]
    cases renderScalar value with
    | none => exact ih
    | some template =>
      refine (render_mirrors registries context template).bind fun _ => ?_
      exact ih.bind fun _ => .pure _

theorem resolveWith_mirrors (registries : Registry.Mirrors together left right)
    (context : Context) (template : String) (params : OrderedMap String) :
    Mirrors together (PathParams.resolveWith left context template params)
      (PathParams.resolveWith right context template params) := by
  unfold PathParams.resolveWith
  split
  · exact resolve_mirrors registries context template
  · exact (resolve_mirrors registries context _).bind fun _ => .pure _

theorem resolveBody_mirrors (registries : Registry.Mirrors together left right)
    (context : Context) (body : Option Json) :
    Mirrors together (resolveBody left context body) (resolveBody right context body) := by
  cases body with
  | none => exact .pure none
  | some template => exact (resolveValue_mirrors registries context template).bind fun _ => .pure _

/-- Requests are assembled in the same way. -/
theorem assemble_mirrors (registries : Registry.Mirrors together left right) (context : Context)
    (api : Api) (endpoint : Endpoint) (overrides : Option Overrides) :
    Mirrors together (assemble left context api endpoint overrides)
      (assemble right context api endpoint overrides) := by
  have kept keep (entries : ScalarMap) := resolveKept_mirrors registries context keep entries.entries
  have resolved := resolveWith_mirrors registries context
  refine ((kept _ _).bind fun _ => .pure _).bind fun pathParams => ?_
  refine (resolved api.baseUrl pathParams).bind fun baseUrl => ?_
  refine (resolved endpoint.path pathParams).bind fun path => ?_
  refine ((kept _ _).bind fun _ => .pure _).bind fun headers => ?_
  refine ((kept _ _).bind fun _ => .pure _).bind fun params => ?_
  refine ((kept _ _).bind fun _ => .pure _).bind fun ownHeaders => ?_
  refine ((kept _ _).bind fun _ => .pure _).bind fun ownParams => ?_
  exact (resolveBody_mirrors registries context _).bind fun _ => .pure _

end Resolution

section Hooks

variable {σ τ : Type} {together : World σ → World τ → Prop}

theorem runPreRequestHooks_mirrors {left : List (String × PreRequestHook σ)}
    {right : List (String × PreRequestHook τ)}
    (hooks : List.Forall₂ (fun leftHook rightHook => leftHook.1 = rightHook.1 ∧
      Mirrors (alongside together Request) leftHook.2 rightHook.2) left right) :
    Mirrors (alongside together Request) (runPreRequestHooks left) (runPreRequestHooks right) := by
  induction hooks with
  | nil => exact .pure ()
  | cons first _ ih =>
    obtain ⟨named, mirrors⟩ := first
    rw [runPreRequestHooks, runPreRequestHooks, named]
    exact (mirrors.mapError _).bind fun _ => ih

theorem runPostResponseHooks_mirrors {left : List (String × PostResponseHook σ)}
    {right : List (String × PostResponseHook τ)} (request : Request)
    (hooks : List.Forall₂ (fun leftHook rightHook => leftHook.1 = rightHook.1 ∧
      ∀ request, Mirrors (alongside together Response) (leftHook.2 request) (rightHook.2 request))
        left right) :
    Mirrors (alongside together Response) (runPostResponseHooks request left)
      (runPostResponseHooks request right) := by
  induction hooks with
  | nil => exact .pure ()
  | cons first _ ih =>
    obtain ⟨named, mirrors⟩ := first
    rw [runPostResponseHooks, runPostResponseHooks, named]
    exact ((mirrors request).mapError _).bind fun _ => ih

end Hooks

/-- Requests are prepared in the same way. -/
theorem Executor.prepare_mirrors {σ τ : Type} {together : World σ → World τ → Prop}
    {left : Executor σ} {right : Executor τ}
    (registries : left.registry.Mirrors together right.registry) (config : Config)
    (context : Context) (call : String) (overrides : Option Overrides) :
    Mirrors together (left.prepare config context call overrides)
      (right.prepare config context call overrides) :=
  (Mirrors.ofExcept (config.target call)).bind fun (api, endpoint) =>
    (assemble_mirrors registries (context.scopedTo api endpoint) api endpoint overrides).mapError _

/-- Two executors whose collaborators do the same. -/
structure Executor.Mirrors {σ τ : Type} (together : World σ → World τ → Prop) (left : Executor σ)
    (right : Executor τ) : Prop where
  registry : left.registry.Mirrors together right.registry
  transport : ∀ request, Effect.Mirrors together (left.transport request) (right.transport request)
  dryRun : left.dryRun = right.dryRun

namespace Executor.Mirrors

variable {σ τ : Type} {together : World σ → World τ → Prop} {left : Executor σ}
  {right : Executor τ} (executors : Mirrors together left right) (config : Config)
  {leftWorld : World σ} {rightWorld : World τ}
include executors

theorem dispatch (stepId : String) (request : Request) (related : together leftWorld rightWorld) :
    (left.dispatch stepId request leftWorld).1 = (right.dispatch stepId request rightWorld).1 ∧
      together (left.dispatch stepId request leftWorld).2
        (right.dispatch stepId request rightWorld).2 := by
  obtain ⟨answer, after⟩ := executors.transport request leftWorld rightWorld related
  unfold Executor.dispatch
  cases leftSent : (left.transport request).run leftWorld with
  | mk leftAnswer leftAfter =>
  cases rightSent : (right.transport request).run rightWorld with
  | mk rightAnswer rightAfter =>
  rw [leftSent, rightSent] at answer after
  obtain rfl : leftAnswer = rightAnswer := answer
  cases leftAnswer with
  | error failure => exact ⟨rfl, after⟩
  | ok response =>
    obtain ⟨outcome, same, last⟩ :=
      runPostResponseHooks_mirrors request executors.registry.postResponseHooks
        (response, leftAfter) (response, rightAfter) ⟨rfl, after⟩
    simp only
    generalize (runPostResponseHooks request left.registry.postResponseHooks).run
      (response, leftAfter) = leftEnd at outcome same last ⊢
    generalize (runPostResponseHooks request right.registry.postResponseHooks).run
      (response, rightAfter) = rightEnd at outcome same last ⊢
    obtain ⟨leftOutcome, leftResponse, leftLast⟩ := leftEnd
    obtain ⟨rightOutcome, rightResponse, rightLast⟩ := rightEnd
    obtain rfl : leftOutcome = rightOutcome := outcome
    obtain rfl : leftResponse = rightResponse := same
    cases leftOutcome with
    | error error => exact ⟨rfl, last⟩
    | ok done => exact ⟨rfl, last⟩

theorem deliver (stepId : String) (request : Request) (related : together leftWorld rightWorld) :
    (left.deliver stepId request leftWorld).1 = (right.deliver stepId request rightWorld).1 ∧
      together (left.deliver stepId request leftWorld).2
        (right.deliver stepId request rightWorld).2 := by
  obtain ⟨outcome, same, last⟩ :=
    runPreRequestHooks_mirrors executors.registry.preRequestHooks (request, leftWorld)
      (request, rightWorld) ⟨rfl, related⟩
  unfold Executor.deliver
  generalize (runPreRequestHooks left.registry.preRequestHooks).run (request, leftWorld) = leftEnd
    at outcome same last ⊢
  generalize (runPreRequestHooks right.registry.preRequestHooks).run (request, rightWorld) =
    rightEnd at outcome same last ⊢
  obtain ⟨leftOutcome, leftRequest, leftLast⟩ := leftEnd
  obtain ⟨rightOutcome, rightRequest, rightLast⟩ := rightEnd
  obtain rfl : leftOutcome = rightOutcome := outcome
  obtain rfl : leftRequest = rightRequest := same
  cases leftOutcome with
  | error error => exact ⟨rfl, last⟩
  | ok done =>
    simp only [executors.dryRun]
    split
    · exact ⟨rfl, last⟩
    · exact executors.dispatch stepId leftRequest last

theorem executeStep (context : Context) (stepId call : String) (overrides : Option Overrides)
    (related : together leftWorld rightWorld) :
    (left.executeStep config context stepId call overrides leftWorld).1 =
        (right.executeStep config context stepId call overrides rightWorld).1 ∧
      together (left.executeStep config context stepId call overrides leftWorld).2
        (right.executeStep config context stepId call overrides rightWorld).2 := by
  obtain ⟨outcome, after⟩ :=
    prepare_mirrors executors.registry config context call overrides leftWorld rightWorld related
  unfold Executor.executeStep
  cases leftPrepared : (left.prepare config context call overrides).run leftWorld with
  | mk leftOutcome leftAfter =>
  cases rightPrepared : (right.prepare config context call overrides).run rightWorld with
  | mk rightOutcome rightAfter =>
  rw [leftPrepared, rightPrepared] at outcome after
  obtain rfl : leftOutcome = rightOutcome := outcome
  cases leftOutcome with
  | error error => exact ⟨rfl, after⟩
  | ok request => exact executors.deliver stepId request after

theorem attemptStep (context : Context) (step : Step) (related : together leftWorld rightWorld) :
    (left.attemptStep config context step leftWorld).1 =
        (right.attemptStep config context step rightWorld).1 ∧
      together (left.attemptStep config context step leftWorld).2
        (right.attemptStep config context step rightWorld).2 := by
  unfold Executor.attemptStep
  split
  · exact ⟨rfl, related⟩
  · exact executors.executeStep config context step.id step.call step.overrides related

/-- Chains have the same outcomes. -/
theorem runSteps (context : Context) (steps : List Step)
    (related : together leftWorld rightWorld) :
    (left.runSteps config context steps leftWorld).1 =
        (right.runSteps config context steps rightWorld).1 ∧
      together (left.runSteps config context steps leftWorld).2
        (right.runSteps config context steps rightWorld).2 := by
  induction steps generalizing context leftWorld rightWorld with
  | nil => exact ⟨rfl, related⟩
  | cons step rest ih =>
    obtain ⟨outcome, after⟩ := executors.attemptStep config context step related
    cases leftAttempt : left.attemptStep config context step leftWorld with
    | mk leftResult leftAfter =>
    cases rightAttempt : right.attemptStep config context step rightWorld with
    | mk rightResult rightAfter =>
    rw [leftAttempt, rightAttempt] at outcome after
    obtain rfl : leftResult = rightResult := outcome
    cases succeeded : leftResult.success with
    | false =>
      rw [left.runSteps_of_failure config leftAttempt succeeded,
        right.runSteps_of_failure config rightAttempt succeeded]
      exact ⟨rfl, after⟩
    | true =>
      rw [left.runSteps_of_success config leftAttempt succeeded,
        right.runSteps_of_success config rightAttempt succeeded]
      obtain ⟨outcomes, last⟩ := ih (context.recordStep leftResult).1 after
      exact ⟨congrArg _ outcomes, last⟩

end Executor.Mirrors

end RequestChain
