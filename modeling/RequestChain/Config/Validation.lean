import RequestChain.Config.Basic
import RequestChain.Template.Parser

/-! # Validation of configurations

What a configuration can get wrong although it can be read: templates in URLs, headers and
parameters that cannot be parsed, and steps of chains whose ids are blank or repeated or whose
calls lead nowhere. Every problem is found, in the order of the configuration.
-/

namespace RequestChain

/-- What is wrong at a place in a configuration. -/
inductive Defect where
  | template (error : TemplateError)
  | blankStepId
  | duplicateStepId (stepId : String)
  | invalidCall (call : String)
  | missingEndpoint (call : String)
  deriving DecidableEq, Repr

/-- The wording of a defect. -/
def Defect.message : Defect → String
  | template error => error.message
  | blankStepId => "step id is empty"
  | duplicateStepId stepId => "duplicate step id '" ++ stepId ++ "'"
  | invalidCall call => invalidCallMessage call
  | missingEndpoint call => "'" ++ call ++ "' does not name a configured endpoint"

/-- A defect and its place. -/
structure Problem where
  location : String
  defect : Defect
  deriving DecidableEq, Repr

/-- The place and the wording of a problem. -/
def Problem.message (problem : Problem) : String :=
  problem.location ++ ": " ++ problem.defect.message

/-- The problem of a text that is no template. -/
def templateProblems (location text : String) : List Problem :=
  match Template.parse text with
  | .ok _ => []
  | .error error => [⟨location, .template error⟩]

/-- The problems of the strings in a map. -/
def entryProblems (location : String) (entries : ScalarMap) : List Problem :=
  entries.entries.flatMap fun (name, value) =>
    match value with
    | .string text => templateProblems (location ++ "." ++ name) text
    | _ => []

/-- The problems of an endpoint. -/
def Endpoint.problems (location : String) (endpoint : Endpoint) : List Problem :=
  templateProblems (location ++ ".path") endpoint.path ++
    entryProblems location endpoint.headers ++ entryProblems location endpoint.params

/-- The problems of an API. -/
def Api.problems (name : String) (api : Api) : List Problem :=
  let location := "apis." ++ name
  templateProblems (location ++ ".baseUrl") api.baseUrl ++
    entryProblems location api.headers ++ entryProblems location api.params ++
    api.endpoints.entries.flatMap fun (endpointName, endpoint) =>
      endpoint.problems (location ++ ".endpoints." ++ endpointName)

/-- What is wrong with the id of a step, behind steps with the ids `earlier`. -/
def Step.idDefect? (earlier : List String) (step : Step) : Option Defect :=
  if Text.isBlankText step.id then some .blankStepId
  else if earlier.contains step.id then some (.duplicateStepId step.id)
  else none

/-- What is wrong with the call of a step. -/
def Step.callDefect? (config : Config) (step : Step) : Option Defect :=
  match parseCall? step.call with
  | none => some (.invalidCall step.call)
  | some (apiName, endpointName) =>
    if (config.endpoint? apiName endpointName).isSome then none
    else some (.missingEndpoint step.call)

/-- What is wrong with a step. -/
def Step.defects (config : Config) (earlier : List String) (step : Step) : List Defect :=
  (step.idDefect? earlier).toList ++ (step.callDefect? config).toList

/-- The problems of steps, from the one of that index on, behind steps with the ids `earlier`. -/
def stepProblems (config : Config) (chainLocation : String) :
    Nat → List String → List Step → List Problem
  | _, _, [] => []
  | index, earlier, step :: rest =>
    let location := chainLocation ++ ".steps[" ++ toString index ++ "]"
    (step.defects config earlier).map (Problem.mk location) ++
      stepProblems config chainLocation (index + 1) (step.id :: earlier) rest

/-- Every problem of a configuration. -/
def Config.problems (config : Config) : List Problem :=
  config.apis.entries.flatMap (fun (name, api) => api.problems name) ++
    config.chains.entries.flatMap fun (name, chain) =>
      stepProblems config ("chains." ++ name) 0 [] chain.steps

end RequestChain
