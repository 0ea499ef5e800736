import RequestChain.Proofs.Assembly.Texts
import RequestChain.Proofs.Journal

/-! # Dry runs

A dry run gives each request that is ready the same answer that an executor gives which sends
nothing. Without post-response hooks the two cannot be told apart: the outcomes are the same, and so
is the world that is left, with whatever was written down in it. With such hooks they differ, as a
dry run never gets to them; it touches the world through sources, resolvers and pre-request hooks
only.
-/

namespace RequestChain

namespace Executor

variable {σ : Type}

/-- An executor that answers every request itself. -/
def noop (registry : Registry σ) : Executor σ :=
  { registry, transport := .noop }

section Outcomes

variable {registry : Registry σ} {transport : Transport σ}

/-- The synthetic answer is the same, whether it is given before the transport or by it. -/
theorem deliver_dryRun (noHooks : registry.postResponseHooks = []) (stepId : String)
    (request : Request) (world : World σ) :
    ({ registry, transport, dryRun := true } : Executor σ).deliver stepId request world =
      (noop registry).deliver stepId request world := by
  have sent (changed : Request) (after : World σ) :
      (noop registry).dispatch stepId changed after = (.answered stepId changed .dryRun, after) := by
    unfold dispatch
    simp only [noop, Transport.noop, Effect.run_pure, noHooks, runPostResponseHooks]
  unfold deliver
  simp only [noop] at sent ⊢
  generalize (runPreRequestHooks registry.preRequestHooks).run (request, world) = ended
  obtain ⟨outcome, changed, after⟩ := ended
  cases outcome with
  | error error => rfl
  | ok done => exact (sent changed after).symm

theorem attemptStep_dryRun (noHooks : registry.postResponseHooks = []) (config : Config)
    (context : Context) (step : Step) (world : World σ) :
    ({ registry, transport, dryRun := true } : Executor σ).attemptStep config context step world =
      (noop registry).attemptStep config context step world := by
  unfold attemptStep executeStep
  simp only [deliver_dryRun noHooks]
  rfl

variable {left right : Executor σ} {config : Config}

/-- Executors that do the same with every step do the same with every chain. -/
theorem runSteps_congr
    (same : ∀ context step world,
      left.attemptStep config context step world = right.attemptStep config context step world)
    (context : Context) (steps : List Step) (world : World σ) :
    left.runSteps config context steps world = right.runSteps config context steps world := by
  induction steps generalizing context world with
  | nil => rfl
  | cons step rest ih =>
    rw [runSteps, runSteps, same context step world]
    simp only [ih]

theorem executeChain_congr
    (same : ∀ context step world,
      left.attemptStep config context step world = right.attemptStep config context step world)
    (context : Context) (chainName : String) (chain : Chain) (world : World σ) :
    left.executeChain config context chainName chain world =
      right.executeChain config context chainName chain world := by
  rw [executeChain, executeChain, runSteps_congr same]

end Outcomes

end Executor

/-! ## What a dry run touches -/

/-- What a hook changes does not matter for the direction of its world. -/
def Direction.beside {W : Type} (direction : Direction W) (Part : Type) : Direction (Part × W) where
  later before after := direction.later before.2 after.2
  refl given := direction.refl given.2
  trans first second := direction.trans first second

section Moves

variable {σ : Type} {direction : Direction (World σ)}

theorem runPreRequestHooks_moves {hooks : List (String × PreRequestHook σ)}
    (moves : ∀ hook ∈ hooks, hook.2.Moves (direction.beside Request)) :
    (runPreRequestHooks hooks).Moves (direction.beside Request) := by
  induction hooks with
  | nil => exact .pure ()
  | cons hook rest ih =>
    obtain ⟨first, others⟩ := List.forall_mem_cons.mp moves
    rw [runPreRequestHooks]
    exact .bind (.mapError _ first) fun _ => ih others

/-- The sources, the resolvers and the pre-request hooks of a registry move worlds in a direction. -/
structure Registry.MovesBeforeSending (direction : Direction (World σ)) (registry : Registry σ) :
    Prop where
  sources : registry.Moves direction
  hooks : ∀ hook ∈ registry.preRequestHooks, hook.2.Moves (direction.beside Request)

namespace Executor

variable {executor : Executor σ} (dry : executor.dryRun = true)
  (moves : executor.registry.MovesBeforeSending direction) (config : Config)
include dry moves

theorem deliver_moves (stepId : String) (request : Request) (world : World σ) :
    direction.later world (executor.deliver stepId request world).2 := by
  have moved := runPreRequestHooks_moves moves.hooks (request, world)
  unfold deliver
  generalize (runPreRequestHooks executor.registry.preRequestHooks).run (request, world) = ended
    at moved ⊢
  obtain ⟨outcome, changed, after⟩ := ended
  cases outcome with
  | error error => exact moved
  | ok done =>
    simp only [dry, if_true]
    exact moved

theorem executeStep_moves (context : Context) (stepId call : String)
    (overrides : Option Overrides) (world : World σ) :
    direction.later world
      (executor.executeStep config context stepId call overrides world).2 := by
  have prepares : (executor.prepare config context call overrides).Moves direction :=
    .bind (.ofExcept _) fun (api, endpoint) =>
      .mapError _ (assemble_moves moves.sources api endpoint overrides)
  have moved := prepares world
  unfold executeStep
  generalize (executor.prepare config context call overrides).run world = prepared at moved ⊢
  obtain ⟨outcome, after⟩ := prepared
  cases outcome with
  | error error => exact moved
  | ok request => exact direction.trans moved (deliver_moves dry moves stepId request after)

theorem attemptStep_moves (context : Context) (step : Step) (world : World σ) :
    direction.later world (executor.attemptStep config context step world).2 := by
  unfold attemptStep
  split
  · exact direction.refl world
  · exact executeStep_moves dry moves config context step.id step.call step.overrides world

/-- A dry run of any length moves worlds as what comes before sending does. -/
theorem runSteps_moves (context : Context) (steps : List Step) (world : World σ) :
    direction.later world (executor.runSteps config context steps world).2 := by
  induction steps generalizing context world with
  | nil => exact direction.refl world
  | cons step rest ih =>
    have moved := attemptStep_moves dry moves config context step world
    cases attempted : executor.attemptStep config context step world with
    | mk result after =>
    rw [attempted] at moved
    cases succeeded : result.success with
    | false =>
      rw [executor.runSteps_of_failure config attempted succeeded]
      exact moved
    | true =>
      rw [executor.runSteps_of_success config attempted succeeded]
      exact direction.trans moved (ih (context.recordStep result).1 after)

end Executor

end Moves

/-! ## The journal of a dry run -/

variable {σ : Type}

/-- Nothing is written down that comes after sending. -/
def Journal.beforeSending : Direction (World (σ × Journal)) where
  later before after :=
    (∀ entry ∈ before.journal, entry.call.isBeforeSending = true) →
      ∀ entry ∈ after.journal, entry.call.isBeforeSending = true
  refl _ early := early
  trans first second early := second (first early)

theorem Journal.beforeSending_addsEntries : (Journal.beforeSending (σ := σ)).AddsEntries := by
  intro world after entry isEarly early
  refine List.forall_mem_append.mpr ⟨early, ?_⟩
  exact List.forall_mem_singleton.mpr isEarly

theorem Registry.journaled_movesBeforeSending (registry : Registry σ) :
    registry.journaled.MovesBeforeSending Journal.beforeSending where
  sources := registry.journaled_moves_of Journal.beforeSending_addsEntries
  hooks hook member := by
    obtain ⟨behind, -, rfl⟩ := List.mem_map.mp member
    intro given
    exact Journal.beforeSending_addsEntries given.2 _ ⟨.preRequestHook _ _, _⟩ rfl

namespace Executor

/-- A dry run has the outcome of a run of the executor that sends nothing, and leaves the same world,
if there are no post-response hooks; the calls that are written down are the same as well. In any
case nothing is called that comes after sending. -/
theorem executeChain_dryRun (registry : Registry σ) (transport : Transport σ) (config : Config)
    (context : Context) (chainName : String) (chain : Chain) (world : World σ) :
    let dry : Executor σ := { registry, transport, dryRun := true }
    let journaled :=
      dry.journaled.executeChain config context chainName chain (world.withJournal [])
    (registry.postResponseHooks = [] →
      dry.executeChain config context chainName chain world =
        (noop registry).executeChain config context chainName chain world ∧
      journaled = (noop registry.journaled).executeChain config context chainName chain
        (world.withJournal [])) ∧
    journaled.1 = (dry.executeChain config context chainName chain world).1 ∧
    ∀ entry ∈ journaled.2.journal, entry.call.isBeforeSending = true := by
  intro dry journaled
  refine ⟨?_, ?_, ?_⟩
  · intro noHooks
    have noHooks' : registry.journaled.postResponseHooks = [] := by
      rw [Registry.journaled, noHooks, List.map_nil]
    constructor
    · exact executeChain_congr (attemptStep_dryRun noHooks config) context chainName chain world
    · exact executeChain_congr (attemptStep_dryRun noHooks' config) context chainName chain
        (world.withJournal [])
  · have together : Journaling (fun _ => True) (world.withJournal []) world := ⟨rfl, trivial⟩
    have same := dry.journaled_mirrors.runSteps config (context.forChain chain) chain.steps together
    exact congrArg (ChainResult.ofSteps chainName) same.1
  · have isDry : dry.journaled.dryRun = true := rfl
    have moved := runSteps_moves isDry registry.journaled_movesBeforeSending config
      (context.forChain chain) chain.steps (world.withJournal [])
    exact moved (List.forall_mem_nil _)

/-- Two steps, the second of which refers to the answer of the first. Each asks a plugin for the path
and passes a hook, and the transport would fail. -/
theorem executeChain_dryRun_twoSteps :
    let path : Registration Unit := .variableSource "path" fun world => (.ok (.string "/x"), world)
    let hook : Registration Unit := .preRequestHook fun given => (.ok (), given)
    let registry : Registry Unit := (Registry.empty.register "p" path).register "p" hook
    let dry : Executor Unit := {
      registry, transport := fun _ => Effect.fail ⟨["unreachable"]⟩, dryRun := true }
    let endpoint : Endpoint := { path := "\x7b\x7bplugins.p.path\x7d\x7d" }
    let config : Config := {
      apis := .ofList [("api", { baseUrl := "http://h", endpoints := .ofList [("get", endpoint)] })] }
    let status : Overrides := {
      headers := .ofList [("Status", .string "\x7b\x7bsteps.first.response.status\x7d\x7d")] }
    let chain : Chain := {
      steps := [{ id := "first", call := "api.get" },
        { id := "second", call := "api.get", overrides := some status }] }
    let world : World Unit := { host := () }
    registry.postResponseHooks = [] ∧
    dry.executeChain config {} "twice" chain world =
      (noop registry).executeChain config {} "twice" chain world ∧
    (dry.executeChain config {} "twice" chain world).1.success = true ∧
    (dry.journaled.executeChain config {} "twice" chain (world.withJournal [])).2.journal.length =
      4 := by
  intro path hook registry dry endpoint config status chain world
  have noHooks : registry.postResponseHooks = [] := rfl
  refine ⟨noHooks, ?_, by decide +kernel, by decide +kernel⟩
  exact ((executeChain_dryRun registry dry.transport config {} "twice" chain world).1 noHooks).1

end Executor

end RequestChain
