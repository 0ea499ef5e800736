import RequestChain.Config.Basic
import RequestChain.Results
import RequestChain.Template.Basic
import RequestChain.Text.Case

/-! # Variable scopes and recorded steps

A context holds the scopes that references are looked up in, and a record of each step that has
run. An unqualified name is looked up in the scopes in the order cli, chain, endpoint, api, profile,
env; a null is passed over as if it were not there.
-/

namespace RequestChain

/-- A scalar as text: strings as they are, null not at all, everything else as compact JSON. -/
def renderScalar : Json → Option String
  | .null => none
  | .string text => some text
  | value => some value.compact

/-- The scopes and the recorded steps. -/
structure Context where
  /-- Given by whoever runs the program. -/
  cli : OrderedMap String := {}
  /-- The selected profiles, merged. -/
  profile : ScalarMap := {}
  /-- The variables of the API that is called. -/
  api : ScalarMap := {}
  /-- The variables of the endpoint that is called. -/
  endpoint : ScalarMap := {}
  /-- The variables of the chain that runs. -/
  chain : ScalarMap := {}
  /-- The records of the steps that have run, by step id. -/
  steps : OrderedMap Json := {}
  /-- The environment of the process. -/
  env : OrderedMap String := {}
  deriving Repr, Inhabited

/-- The text of a scalar in a map. -/
def ScalarMap.text? (scope : ScalarMap) (name : String) : Option String :=
  (scope.get? name).bind renderScalar

/-- An index into an array: digits, possibly behind a plus sign, that fit a 64-bit word. -/
def parseIndex? (text : String) : Option Nat :=
  let digits := match text.toList with
    | '+' :: rest => rest
    | plain => plain
  if digits.isEmpty || !digits.all Char.isDigit then none
  else
    let index := Json.natOfDigits digits
    if index ≤ Json.maxWord then some index else none

/-- The part of a value that a path segment selects: a field of exactly that name or else the first
whose name differs in the case of ASCII letters only, or the item of an array at that index. -/
def Json.select? (value : Json) (segment : String) : Option Json :=
  match value with
  | .object fields =>
    (fields.lookup segment).or
      ((fields.find? fun field => Text.equalsIgnoringAsciiCase field.1 segment).map Prod.snd)
  | .array items => (parseIndex? segment).bind (items[·]?)
  | _ => none

/-- The part of a value at the end of a path. -/
def Json.atPath? (value : Json) : List String → Option Json
  | [] => some value
  | segment :: path => (value.select? segment).bind (·.atPath? path)

/-- What later steps can see of a step: its request, and its response with a structured body read
as JSON. -/
def stepRecord (result : StepResult) : Json :=
  Json.ofFields [
    ("request", Json.ofFields [
      ("method", .string result.request.method),
      ("url", .string result.request.url),
      ("headers", (result.request.headers.toJson).sorted),
      ("body", result.request.body.getD .null)]),
    ("response", Json.ofFields [
      ("status", Json.ofNat result.response.status),
      ("statusText", .string result.response.statusText),
      ("headers", (result.response.headers.toJson).sorted),
      ("body", result.response.bodyValue)])]

namespace Context

/-- The profiles of the names in turn, a later value replacing an earlier one; also the first name
without a profile, at which merging stops. -/
def applyProfiles (context : Context) (config : Config) : List String → Context × Option String
  | [] => (context, none)
  | name :: rest =>
    match config.profiles.get? name with
    | none => (context, some name)
    | some profile =>
      applyProfiles { context with profile := context.profile.union profile } config rest

/-- The wording of the error for a name without a profile. -/
def unknownProfileMessage (name : String) : String :=
  "unknown profile '" ++ name ++ "'"

/-- The context for one call. -/
def scopedTo (context : Context) (api : Api) (endpoint : Endpoint) : Context :=
  { context with api := api.vars, endpoint := endpoint.vars }

/-- The context with one more recorded step, and whether its id was still free; a step that has a
record keeps it. -/
def recordStep (context : Context) (result : StepResult) : Context × Bool :=
  if context.steps.contains result.stepId then (context, false)
  else ({ context with steps := context.steps.insert result.stepId (stepRecord result) }, true)

theorem recordStep_of_fresh {context : Context} {result : StepResult}
    (fresh : context.steps.contains result.stepId = false) :
    context.recordStep result =
      ({ context with steps := context.steps.insert result.stepId (stepRecord result) }, true) := by
  simp [recordStep, fresh]

/-- The text of an unqualified name. -/
def lookup (context : Context) (name : String) : Option String :=
  (context.cli.get? name).or <|
    (context.chain.text? name).or <|
      (context.endpoint.text? name).or <|
        (context.api.text? name).or <|
          (context.profile.text? name).or (context.env.get? name)

/-- The text of a name in one scope; secrets are not held here. -/
def lookupScoped (context : Context) (scope : Scope) (name : String) : Option String :=
  match scope with
  | .env => context.env.get? name
  | .profile => context.profile.text? name
  | .api => context.api.text? name
  | .endpoint => context.endpoint.text? name
  | .secret => none

/-- The part of a recorded step at the end of a path. -/
def stepValue (context : Context) (stepId : String) (path : List String) : Option Json :=
  (context.steps.get? stepId).bind (·.atPath? path)

end Context

end RequestChain
