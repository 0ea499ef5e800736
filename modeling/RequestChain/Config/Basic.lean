import RequestChain.Json.Basic
import RequestChain.OrderedMap

/-! # Configurations

APIs with their endpoints, named profiles of variables, and chains of steps that call endpoints.
Any text in them may be a template.
-/

namespace RequestChain

/-- Values of variables, headers or parameters by name. A null counts as absent when it is used. -/
abbrev ScalarMap := OrderedMap Json

/-- What a step or a call is sent to. -/
structure Endpoint where
  method : String := "GET"
  path : String := ""
  headers : ScalarMap := {}
  params : ScalarMap := {}
  body : Option Json := none
  vars : ScalarMap := {}
  deriving Repr, Inhabited

/-- A base URL with what all its endpoints share. -/
structure Api where
  baseUrl : String := ""
  headers : ScalarMap := {}
  params : ScalarMap := {}
  vars : ScalarMap := {}
  endpoints : OrderedMap Endpoint := {}
  deriving Repr, Inhabited

/-- What a step changes about the endpoint that it calls. -/
structure Overrides where
  headers : ScalarMap := {}
  params : ScalarMap := {}
  /-- Values for the placeholders of the URL, by name. -/
  pathParams : ScalarMap := {}
  /-- Takes the place of the endpoint's body. -/
  body : Option Json := none
  deriving Repr, Inhabited

/-- One call of a chain. -/
structure Step where
  id : String := ""
  /-- The names of an API and of one of its endpoints with a point between them. -/
  call : String := ""
  overrides : Option Overrides := none
  deriving Repr, Inhabited

/-- Steps that are run in order and share variables. -/
structure Chain where
  description : Option String := none
  vars : ScalarMap := {}
  steps : List Step := []
  deriving Repr, Inhabited

/-- A whole configuration. -/
structure Config where
  apis : OrderedMap Api := {}
  profiles : OrderedMap ScalarMap := {}
  chains : OrderedMap Chain := {}
  deriving Repr, Inhabited

/-- The API and the endpoint of two names. -/
def Config.endpoint? (config : Config) (apiName endpointName : String) :
    Option (Api × Endpoint) := do
  let api ← config.apis.get? apiName
  let endpoint ← api.endpoints.get? endpointName
  some (api, endpoint)

/-- The names in a call: exactly one point, and something on both sides of it. -/
def parseCall? (call : String) : Option (String × String) :=
  let api := call.toList.takeWhile (· ≠ '.')
  match call.toList.dropWhile (· ≠ '.') with
  | [] => none
  | _ :: endpoint =>
    if api.isEmpty || endpoint.isEmpty || endpoint.contains '.' then none
    else some (String.ofList api, String.ofList endpoint)

/-- The wording of the error for a call without two names. -/
def invalidCallMessage (call : String) : String :=
  "invalid call '" ++ call ++ "': expected '<api>.<endpoint>'"

end RequestChain
