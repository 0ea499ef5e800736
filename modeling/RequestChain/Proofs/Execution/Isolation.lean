import RequestChain.Proofs.Execution.Calls

/-! # Runs do not leak into each other

A run begins with the variables of its chain and without records, and each call brings the variables
of its own API and endpoint. So two contexts that agree in the command line, the profiles and the
environment give the same run, whatever else they hold, and what a step sees of the steps before it
are their records alone. Collaborators may well remember one run in the next: their state is part of
the world, which is the same on both sides here.
-/

namespace RequestChain

namespace Context

/-- Contexts that agree in all but the variables that a call brings along. -/
structure AgreesBeforeCall (left right : Context) : Prop where
  cli : left.cli = right.cli
  profile : left.profile = right.profile
  chain : left.chain = right.chain
  steps : left.steps = right.steps
  env : left.env = right.env

/-- What is there before a call: the scopes of whoever runs the chain, the variables of the chain,
and the records of the steps so far, but no variables of any API or endpoint. -/
def beforeCall (context : Context) (chain : Chain) (earlier : List StepResult) : Context where
  cli := context.cli
  profile := context.profile
  chain := chain.vars
  steps := .ofList (earlier.map fun result => (result.stepId, stepRecord result))
  env := context.env

namespace AgreesBeforeCall

variable {left right : Context}

/-- A call sees the same in both. -/
theorem scopedTo (agree : left.AgreesBeforeCall right) (api : Api) (endpoint : Endpoint) :
    left.scopedTo api endpoint = right.scopedTo api endpoint := by
  rw [Context.scopedTo, Context.scopedTo, agree.cli, agree.profile, agree.chain, agree.steps,
    agree.env]

theorem recordStep (agree : left.AgreesBeforeCall right) (result : StepResult) :
    (left.recordStep result).1.AgreesBeforeCall (right.recordStep result).1 := by
  unfold Context.recordStep
  rw [agree.steps]
  split
  · exact agree
  · constructor
    · exact agree.cli
    · exact agree.profile
    · exact agree.chain
    · rfl
    · exact agree.env

/-- Chains begin with their own variables and without records. -/
theorem forChain (cli : left.cli = right.cli) (profile : left.profile = right.profile)
    (env : left.env = right.env) (chain : Chain) :
    (left.forChain chain).AgreesBeforeCall (right.forChain chain) :=
  ⟨cli, profile, rfl, rfl, env⟩

end AgreesBeforeCall

/-- A record changes nothing but the records. -/
theorem recordStep_eq (context : Context) (result : StepResult) :
    (context.recordStep result).1 =
      { context with steps := (context.recordStep result).1.steps } := by
  unfold recordStep
  split
  · rfl
  · rfl

end Context

namespace Executor

variable {σ : Type} (executor : Executor σ) (config : Config)

/-! ## Contexts that agree -/

section Agree

variable {left right : Context} (agree : left.AgreesBeforeCall right)
include agree

theorem prepare_of_agrees (call : String) (overrides : Option Overrides) :
    executor.prepare config left call overrides = executor.prepare config right call overrides := by
  simp only [prepare, agree.scopedTo]

theorem attemptStep_of_agrees (step : Step) (world : World σ) :
    executor.attemptStep config left step world = executor.attemptStep config right step world := by
  unfold attemptStep executeStep
  rw [agree.steps, executor.prepare_of_agrees config agree]

/-- The same steps are attempted with the same outcomes. -/
theorem runSteps_of_agrees (steps : List Step) (world : World σ) :
    executor.runSteps config left steps world = executor.runSteps config right steps world := by
  induction steps generalizing left right world with
  | nil => rfl
  | cons step rest ih =>
    have same := executor.attemptStep_of_agrees config agree step world
    cases attempted : executor.attemptStep config right step world with
    | mk result after =>
    rw [attempted] at same
    cases succeeded : result.success with
    | false =>
      rw [executor.runSteps_of_failure config same succeeded,
        executor.runSteps_of_failure config attempted succeeded]
    | true =>
      rw [executor.runSteps_of_success config same succeeded,
        executor.runSteps_of_success config attempted succeeded, ih (agree.recordStep result)]

end Agree

/-! ## What an attempt sees -/

namespace Run

variable {executor config} {context : Context} {steps : List Step} {world last : World σ}
  {attempts : List (Attempt σ)}

/-- Along a run nothing but the records changes. -/
theorem context_eq (run : executor.Run config context steps world attempts last) :
    ∀ attempt ∈ attempts, attempt.context = { context with steps := attempt.context.steps } := by
  induction run with
  | done context world => exact nofun
  | failed attempted failed =>
    intro attempt member
    obtain rfl := List.mem_singleton.mp member
    rfl
  | @succeeded context step rest world after last result others attempted succeeded rests ih =>
    rintro attempt (_ | ⟨_, member⟩)
    · rfl
    · rw [ih attempt member, context.recordStep_eq result]

/-- What an attempt of a chain sees before it calls. -/
theorem agrees_beforeCall {chain : Chain}
    (run : executor.Run config (context.forChain chain) steps world attempts last) {index : Nat}
    {attempt : Attempt σ} (found : attempts[index]? = some attempt) :
    attempt.context.AgreesBeforeCall
      (context.beforeCall chain ((attempts.map (·.result)).take index)) := by
  have sees := run.seesEarlier rfl found
  have distinct : ((((attempts.map (·.result)).take index).map fun result =>
      (result.stepId, stepRecord result)).map Prod.fst).Nodup := by
    rw [List.map_map]
    exact sees.distinct
  rw [run.context_eq attempt (List.mem_of_getElem? found)]
  constructor
  · rfl
  · rfl
  · rfl
  · apply OrderedMap.ext
    exact sees.records.trans (OrderedMap.entries_ofList distinct).symm
  · rfl

end Run

/-! ## Runs of chains -/

/-- Of the context that it is given, a chain uses the command line, the profiles and the environment
only. Two contexts that agree in these have the same outcome, leave the same world, and make the same
calls of collaborators. A step sees, besides these and the variables of its chain, the records of the
steps before it and the variables of its own API and endpoint. -/
theorem executeChain_isolated {left right : Context} (cli : left.cli = right.cli)
    (profile : left.profile = right.profile) (env : left.env = right.env) (chainName : String)
    (chain : Chain) (world : World σ) :
    let outcome := executor.executeChain config left chainName chain world
    let journaled :=
      executor.journaled.executeChain config left chainName chain (world.withJournal [])
    let attempts := executor.attempts config (left.forChain chain) chain.steps world
    outcome = executor.executeChain config right chainName chain world ∧
    journaled =
      executor.journaled.executeChain config right chainName chain (world.withJournal []) ∧
    journaled.1 = outcome.1 ∧ journaled.2.plain = outcome.2 ∧
    attempts.map (·.result) = outcome.1.steps ∧
    ∀ (index : Nat) (attempt : Attempt σ), attempts[index]? = some attempt →
      let before := right.beforeCall chain (outcome.1.steps.take index)
      (∃ after,
        executor.attemptStep config attempt.context attempt.step attempt.world =
          (attempt.result, after) ∧
        executor.attemptStep config before attempt.step attempt.world = (attempt.result, after)) ∧
      ∀ api endpoint, config.target attempt.step.call = .ok (api, endpoint) →
        executor.prepare config attempt.context attempt.step.call attempt.step.overrides =
          (assemble executor.registry
            { before with api := api.vars, endpoint := endpoint.vars } api endpoint
            attempt.step.overrides).mapError .resolution := by
  intro outcome journaled attempts
  have agree := Context.AgreesBeforeCall.forChain cli profile env chain
  have run := executor.run_attempts config (left.forChain chain) chain.steps world
  have results : attempts.map (·.result) = outcome.1.steps :=
    (congrArg Prod.fst run.results_eq).symm
  have together : Journaling (fun _ => True) (world.withJournal []) world := ⟨rfl, trivial⟩
  have mirrored :=
    executor.journaled_mirrors.runSteps config (left.forChain chain) chain.steps together
  refine ⟨?_, ?_, ?_, mirrored.2.1, results, ?_⟩
  · simp only [outcome, executeChain, executor.runSteps_of_agrees config agree]
  · simp only [journaled, executeChain, executor.journaled.runSteps_of_agrees config agree]
  · exact congrArg (ChainResult.ofSteps chainName) mirrored.1
  · intro index attempt found before
    have sees : attempt.context.AgreesBeforeCall before := by
      have seen := run.agrees_beforeCall found
      rw [results] at seen
      exact ⟨seen.cli.trans cli, seen.profile.trans profile, seen.chain, seen.steps,
        seen.env.trans env⟩
    obtain ⟨after, attempted⟩ := run.attempted attempt (List.mem_of_getElem? found)
    constructor
    · rw [executor.attemptStep_of_agrees config sees] at attempted ⊢
      exact ⟨after, attempted, attempted⟩
    · intro api endpoint called
      rw [executor.prepare_of_agrees config sees, prepare, called, Effect.ofExcept_ok_bind]
      rfl

/-- Two steps of different APIs refer to a variable that only the first API has, and that a context
with leftovers of other runs has as well; the second step fails for want of it. -/
theorem executeChain_isolated_leftovers :
    let endpoint : Endpoint := { path := "/\x7b\x7btoken\x7d\x7d" }
    let first : Api := {
      baseUrl := "http://a", vars := .ofList [("token", .string "x")]
      endpoints := .ofList [("get", endpoint)] }
    let second : Api := { baseUrl := "http://b", endpoints := .ofList [("get", endpoint)] }
    let config : Config := { apis := .ofList [("a", first), ("b", second)] }
    let chain : Chain := {
      steps := [{ id := "one", call := "a.get" }, { id := "two", call := "b.get" }] }
    let executor : Executor Unit := { registry := .empty, transport := .noop }
    let leftovers : Context := {
      api := .ofList [("token", .string "y")], endpoint := .ofList [("token", .string "y")]
      chain := .ofList [("token", .string "y")], steps := .ofList [("two", .null)] }
    let outcome := executor.executeChain config leftovers "both" chain { host := () }
    leftovers.cli = ({} : Context).cli ∧ leftovers.profile = ({} : Context).profile ∧
      leftovers.env = ({} : Context).env ∧
      outcome = executor.executeChain config {} "both" chain { host := () } ∧
      outcome.1.steps.map (·.request.url) = ["http://a/x", ""] ∧
      outcome.1.error = some ("Step 'two' failed: Variable resolution failed: " ++
        "variable 'token' is not defined in any scope") := by
  intro endpoint first second config chain executor leftovers outcome
  refine ⟨rfl, rfl, rfl, ?_, by decide +kernel, by decide +kernel⟩
  have cli : leftovers.cli = ({} : Context).cli := rfl
  exact (executor.executeChain_isolated config cli rfl rfl "both" chain { host := () }).1

end Executor

end RequestChain
