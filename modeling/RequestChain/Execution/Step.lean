import RequestChain.Assembly
import RequestChain.Results

/-! # Running one step

A step is prepared, changed by the pre-request hooks, sent, and its response changed by the
post-response hooks. The first stage that fails ends the step; its outcome then holds the request
and the response as that stage left them. A step that was prepared always has an outcome with its
request, and only a step whose hooks all agreed is sent.
-/

namespace RequestChain

/-- Why a step fails without an answer, or in spite of one. -/
inductive StepError where
  | invalidCall (call : String)
  | duplicateStepId (stepId : String)
  | unknownApi (api : String)
  | unknownEndpoint (api endpoint : String)
  | resolution (error : ResolutionError)
  | preRequestHook (plugin : String) (failure : Failure)
  | postResponseHook (plugin : String) (failure : Failure)
  | transport (failure : Failure)
  deriving DecidableEq, Repr

/-- The wording of an error. -/
def StepError.message : StepError → String
  | invalidCall call => invalidCallMessage call
  | duplicateStepId stepId => "duplicate step id '" ++ stepId ++ "'"
  | unknownApi api => "unknown API '" ++ api ++ "'"
  | unknownEndpoint api endpoint =>
    "unknown endpoint '" ++ endpoint ++ "' in API '" ++ api ++ "'"
  | resolution error => "Variable resolution failed: " ++ error.message
  | preRequestHook plugin failure =>
    "pre-request hook '" ++ plugin ++ "' failed: " ++ failure.message
  | postResponseHook plugin failure =>
    "post-response hook '" ++ plugin ++ "' failed: " ++ failure.message
  | transport failure => "Transport error: " ++ failure.message

/-- What sends the requests of a configuration. -/
structure Executor (σ : Type) where
  registry : Registry σ
  transport : Transport σ
  /-- Requests are made ready, and not sent. -/
  dryRun : Bool := false

/-- The API and the endpoint that a call names. -/
def Config.target (config : Config) (call : String) : Except StepError (Api × Endpoint) :=
  match parseCall? call with
  | none => .error (.invalidCall call)
  | some (apiName, endpointName) =>
    match config.apis.get? apiName with
    | none => .error (.unknownApi apiName)
    | some api =>
      match api.endpoints.get? endpointName with
      | none => .error (.unknownEndpoint apiName endpointName)
      | some endpoint => .ok (api, endpoint)

/-- An outcome without success. -/
def StepResult.failure (stepId : String) (request : Request) (response : Response)
    (error : StepError) : StepResult :=
  { stepId, request, response, error := some error.message }

/-- The outcome of a step that got an answer: a status of 400 or more is a failure. -/
def StepResult.answered (stepId : String) (request : Request) (response : Response) :
    StepResult :=
  { stepId, request, response
    success := response.isSuccess
    error :=
      if response.isSuccess then none
      else some ("HTTP " ++ toString response.status ++ " " ++ response.statusText) }

section Hooks

variable {σ : Type}

/-- The hooks in order, each on the request as the ones before left it. -/
def runPreRequestHooks :
    List (String × PreRequestHook σ) → Effect (Request × World σ) StepError Unit
  | [] => pure ()
  | (plugin, hook) :: rest => do
    hook.mapError (.preRequestHook plugin)
    runPreRequestHooks rest

/-- The hooks in order, each on the response as the ones before left it. -/
def runPostResponseHooks (request : Request) :
    List (String × PostResponseHook σ) → Effect (Response × World σ) StepError Unit
  | [] => pure ()
  | (plugin, hook) :: rest => do
    (hook request).mapError (.postResponseHook plugin)
    runPostResponseHooks request rest

end Hooks

namespace Executor

variable {σ : Type} (executor : Executor σ) (config : Config)

/-- The request of a call. -/
def prepare (context : Context) (call : String) (overrides : Option Overrides) :
    Effect (World σ) StepError Request := do
  let (api, endpoint) ← Effect.ofExcept (config.target call)
  (assemble executor.registry (context.scopedTo api endpoint) api endpoint overrides).mapError
    .resolution

/-- Sends a request that is ready and lets the hooks see the response. -/
def dispatch (stepId : String) (request : Request) (world : World σ) : StepResult × World σ :=
  match (executor.transport request).run world with
  | (.error failure, world) => (.failure stepId request {} (.transport failure), world)
  | (.ok response, world) =>
    match (runPostResponseHooks request executor.registry.postResponseHooks).run
        (response, world) with
    | (.error error, (response, world)) => (.failure stepId request response error, world)
    | (.ok (), (response, world)) => (.answered stepId request response, world)

/-- Lets the hooks see a request and sends it, unless nothing is to be sent. -/
def deliver (stepId : String) (request : Request) (world : World σ) : StepResult × World σ :=
  match (runPreRequestHooks executor.registry.preRequestHooks).run (request, world) with
  | (.error error, (request, world)) => (.failure stepId request {} error, world)
  | (.ok (), (request, world)) =>
    if executor.dryRun then (.answered stepId request .dryRun, world)
    else executor.dispatch stepId request world

/-- The outcome of a call under a step's id. -/
def executeStep (context : Context) (stepId call : String) (overrides : Option Overrides)
    (world : World σ) : StepResult × World σ :=
  match (executor.prepare config context call overrides).run world with
  | (.error error, world) => (.preparationFailure stepId error.message, world)
  | (.ok request, world) => executor.deliver stepId request world

/-- Calls an endpoint outside of a chain; the step's id is the call. -/
def callEndpoint (context : Context) (apiName endpointName : String) (world : World σ) :
    StepResult × World σ :=
  let call := apiName ++ "." ++ endpointName
  executor.executeStep config context call call none world

end Executor

end RequestChain
