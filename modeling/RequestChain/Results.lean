import RequestChain.Exchange

/-! # Outcomes of steps and chains

A step's outcome holds the request and the response as they were left, and an error text if the
step failed. A chain's outcome holds the outcomes of the steps that were attempted.
-/

namespace RequestChain

/-- The outcome of one step. -/
structure StepResult where
  stepId : String := ""
  request : Request := {}
  response : Response := {}
  success : Bool := false
  error : Option String := none
  deriving Repr, Inhabited

/-- The outcome of a chain. -/
structure ChainResult where
  chainName : String := ""
  success : Bool := false
  steps : List StepResult := []
  error : Option String := none
  deriving Repr, Inhabited

/-- A failure before there was a request. -/
def StepResult.preparationFailure (stepId error : String) : StepResult :=
  { stepId, error := some error }

/-- The outcome of the first attempted step of that id. -/
def ChainResult.step? (result : ChainResult) (stepId : String) : Option StepResult :=
  result.steps.find? (·.stepId = stepId)

/-- The JSON form of a step's outcome, without an error field if there is no error. -/
def StepResult.toJson (result : StepResult) : Json :=
  .object ([("stepId", .string result.stepId), ("request", result.request.toJson),
    ("response", result.response.toJson), ("success", .bool result.success)] ++
      Json.optionalField "error" (result.error.map .string))

/-- The JSON form of a chain's outcome, without an error field if there is no error. -/
def ChainResult.toJson (result : ChainResult) : Json :=
  .object ([("chainName", .string result.chainName), ("success", .bool result.success),
    ("steps", .array (result.steps.map StepResult.toJson))] ++
      Json.optionalField "error" (result.error.map .string))

end RequestChain
