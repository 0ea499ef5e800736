import RequestChain.Execution.Step

/-! # Running a chain

The steps of a chain are attempted in order until one fails. Every successful step is recorded
under its id, so that later steps can refer to its request and its response; records that were
there before the run are gone. An id that has a record already fails its step.
-/

namespace RequestChain

/-- How far the run of a chain has come. -/
inductive RunState where
  | notStarted
  | running (stepIndex : Nat)
  | succeeded
  | failed (stepId reason : String)
  deriving DecidableEq, Repr, Inhabited

namespace RunState

/-- Whether the run is over. -/
def isTerminal : RunState → Bool
  | succeeded | failed _ _ => true
  | notStarted | running _ => false

/-- The state at the end of a run, from the outcomes of the attempted steps. -/
def atEnd : List StepResult → RunState
  | [] => .succeeded
  | result :: rest =>
    if result.success then atEnd rest
    else .failed result.stepId (result.error.getD "unknown error")

/-- The error text of a chain, if it failed. -/
def error? : RunState → Option String
  | failed stepId reason => some ("Step '" ++ stepId ++ "' failed: " ++ reason)
  | _ => none

end RunState

/-- The outcome of a chain from the outcomes of its attempted steps. -/
def ChainResult.ofSteps (chainName : String) (steps : List StepResult) : ChainResult :=
  let error := (RunState.atEnd steps).error?
  { chainName, success := error.isNone, steps, error }

/-- The context in which a chain begins: its own variables, and no records. -/
def Context.forChain (context : Context) (chain : Chain) : Context :=
  { context with chain := chain.vars, steps := {} }

/-- The wording of the error for a name without a chain. -/
def unknownChainMessage (name : String) : String :=
  "unknown chain '" ++ name ++ "'"

namespace Executor

variable {σ : Type} (executor : Executor σ) (config : Config)

/-- The outcome of a step of a chain. -/
def attemptStep (context : Context) (step : Step) (world : World σ) : StepResult × World σ :=
  if context.steps.contains step.id then
    (.preparationFailure step.id (StepError.duplicateStepId step.id).message, world)
  else executor.executeStep config context step.id step.call step.overrides world

/-- The outcomes of the steps up to the first failure. -/
def runSteps (context : Context) : List Step → World σ → List StepResult × World σ
  | [], world => ([], world)
  | step :: rest, world =>
    let (result, world) := executor.attemptStep config context step world
    if result.success then
      let (results, world) := runSteps (context.recordStep result).1 rest world
      (result :: results, world)
    else ([result], world)

variable {context : Context} {step : Step} {world after : World σ} {result : StepResult}

/-- A failure ends the run. -/
theorem runSteps_of_failure
    (attempted : executor.attemptStep config context step world = (result, after))
    (failed : result.success = false) (rest : List Step) :
    executor.runSteps config context (step :: rest) world = ([result], after) := by
  simp [runSteps, attempted, failed]

/-- After a success the rest is run with one more record. -/
theorem runSteps_of_success
    (attempted : executor.attemptStep config context step world = (result, after))
    (succeeded : result.success = true) (rest : List Step) :
    executor.runSteps config context (step :: rest) world =
      (result :: (executor.runSteps config (context.recordStep result).1 rest after).1,
        (executor.runSteps config (context.recordStep result).1 rest after).2) := by
  simp [runSteps, attempted, succeeded]

/-- The outcome of a chain. -/
def executeChain (context : Context) (chainName : String) (chain : Chain) (world : World σ) :
    ChainResult × World σ :=
  let (results, world) :=
    executor.runSteps config (context.forChain chain) chain.steps world
  (.ofSteps chainName results, world)

/-- The outcome of a chain of the configuration, if there is one of that name. -/
def run? (context : Context) (chainName : String) (world : World σ) :
    Option (ChainResult × World σ) :=
  (config.chains.get? chainName).map fun chain =>
    executor.executeChain config context chainName chain world

end Executor

end RequestChain
