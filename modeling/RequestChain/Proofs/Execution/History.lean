import RequestChain.Proofs.Assembly.Texts
import RequestChain.Proofs.Execution.FailFast

/-! # What a step sees of the steps before it

A step of a chain sees one record of each step before it, in order, as that step's entry in the
outcome of the chain has it, and nothing of what was recorded before the run. Records are only
added. A step whose request takes something from a step that has no record fails unsent.
-/

namespace RequestChain

/-- What an attempt sees: the records of the earlier steps, which all succeeded. -/
structure Attempt.SeesEarlier {σ : Type} (declared : List Step) (earlier : List StepResult)
    (attempt : Attempt σ) : Prop where
  /-- The earlier steps are the declared ones, in order. -/
  stepIds : earlier.map (·.stepId) = declared.map (·.id)
  distinct : (earlier.map (·.stepId)).Nodup
  successful : ∀ result ∈ earlier, result.success = true
  /-- Each has exactly one record, under its id. -/
  records : attempt.context.steps.entries =
    earlier.map fun result => (result.stepId, stepRecord result)

/-- A step that was not attempted before has no values. -/
theorem Attempt.SeesEarlier.undefined {σ : Type} {declared : List Step} {earlier : List StepResult}
    {attempt : Attempt σ} (sees : attempt.SeesEarlier declared earlier) {id : String}
    (unknown : id ∉ declared.map (·.id)) (api : Api) (endpoint : Endpoint) (path : List String) :
    ((attempt.context.scopedTo api endpoint).stepValue id path).bind renderScalar = none := by
  have unrecorded : id ∉ attempt.context.steps.keys := by
    rw [OrderedMap.keys, sees.records, List.map_map]
    exact sees.stepIds ▸ unknown
  simp only [Context.stepValue, Context.scopedTo,
    attempt.context.steps.get?_eq_none_of_not_mem unrecorded, Option.bind_none]

namespace Executor

variable {σ : Type} {executor : Executor σ} {config : Config}

/-- The request of an outcome is what the hooks made of the prepared one, and its response is what
the hooks made of the answer, or that of a dry run. -/
def Delivers (executor : Executor σ) (config : Config) (context : Context) (step : Step)
    (world : World σ) (result : StepResult) : Prop :=
  ∃ prepared ready sending,
    (executor.prepare config context step.call step.overrides).run world =
      (.ok prepared, ready) ∧
    (runPreRequestHooks executor.registry.preRequestHooks).run (prepared, ready) =
      (.ok (), result.request, sending) ∧
    if executor.dryRun then result.response = .dryRun
    else ∃ response answered last,
      (executor.transport result.request).run sending = (.ok response, answered) ∧
      (runPostResponseHooks result.request executor.registry.postResponseHooks).run
        (response, answered) = (.ok (), result.response, last)

section

variable {context : Context} {step : Step} {world after : World σ} {result : StepResult}

/-- Only a step whose id is still free can succeed. -/
theorem fresh_of_success
    (attempted : executor.attemptStep config context step world = (result, after))
    (succeeded : result.success = true) :
    context.steps.contains step.id = false ∧
      executor.executeStep config context step.id step.call step.overrides world =
        (result, after) := by
  unfold attemptStep at attempted
  split at attempted
  · cases attempted
    cases succeeded
  · rename_i fresh
    exact ⟨by simpa using fresh, attempted⟩

theorem delivers_of_success
    (attempted : executor.attemptStep config context step world = (result, after))
    (succeeded : result.success = true) :
    executor.Delivers config context step world result := by
  have executed := (fresh_of_success attempted succeeded).2
  -- Every other way out of the stages leaves a failure.
  unfold executeStep at executed
  split at executed
  · cases executed
    cases succeeded
  · rename_i prepared ready isPrepared
    unfold deliver at executed
    split at executed
    · cases executed
      cases succeeded
    · rename_i request sending hooked
      split at executed
      · rename_i dry
        cases executed
        exact ⟨prepared, ready, _, isPrepared, hooked, by rw [if_pos dry]; rfl⟩
      · rename_i wet
        unfold dispatch at executed
        split at executed
        · cases executed
          cases succeeded
        · rename_i response answered isAnswered
          split at executed
          · cases executed
            cases succeeded
          · rename_i changed last finished
            cases executed
            refine ⟨prepared, ready, sending, isPrepared, hooked, ?_⟩
            rw [if_neg wet]
            exact ⟨response, answered, _, isAnswered, finished⟩

/-- A success is recorded behind the records that there are. -/
theorem recordStep_of_success
    (attempted : executor.attemptStep config context step world = (result, after))
    (succeeded : result.success = true) :
    (context.recordStep result).2 = true ∧
      (context.recordStep result).1.steps.entries =
        context.steps.entries ++ [(result.stepId, stepRecord result)] := by
  have reported := executor.attemptStep_reports config context step world
  rw [attempted] at reported
  have fresh := (fresh_of_success attempted succeeded).1
  rw [← reported.stepId] at fresh
  rw [Context.recordStep_of_fresh fresh]
  exact ⟨rfl, context.steps.entries_insert_of_fresh _ (OrderedMap.contains_eq_false_iff.mp fresh)⟩

end

namespace Run

variable {context : Context} {steps : List Step} {world last : World σ}
  {attempts : List (Attempt σ)}

/-- An attempt is of the declared step in its place. -/
theorem step_at (run : executor.Run config context steps world attempts last) {index : Nat}
    {attempt : Attempt σ} (found : attempts[index]? = some attempt) :
    steps[index]? = some attempt.step := by
  obtain ⟨rest, split⟩ := run.steps_prefix
  have short : index < (attempts.map (·.step)).length := by
    rw [List.length_map]
    exact (List.getElem?_eq_some_iff.mp found).1
  rw [← split, List.getElem?_append_left short, List.getElem?_map, found]
  rfl

/-- What is recorded when an attempt begins: what there was before the run, and the outcomes of the
attempts before. -/
theorem records (run : executor.Run config context steps world attempts last) :
    ∀ (index : Nat) (attempt : Attempt σ), attempts[index]? = some attempt →
      attempt.context.steps.entries = context.steps.entries ++
        (attempts.take index).map fun earlier =>
          (earlier.result.stepId, stepRecord earlier.result) := by
  induction run with
  | done context world => exact nofun
  | @failed context step rest world after result attempted failed =>
    intro index attempt found
    cases index with
    | zero =>
      cases found
      simp
    | succ index => cases found
  | @succeeded context step rest world after last result others attempted succeeded rests ih =>
    intro index attempt found
    cases index with
    | zero =>
      cases found
      simp
    | succ index =>
      rw [ih index attempt found, (recordStep_of_success attempted succeeded).2,
        List.append_assoc]
      rfl

/-- All attempts but the last are successful. -/
theorem successful_before (run : executor.Run config context steps world attempts last) :
    ∀ (index : Nat) (attempt : Attempt σ), attempts[index]? = some attempt →
      ∀ earlier ∈ attempts.take index, earlier.result.success = true := by
  induction run with
  | done context world => exact nofun
  | failed attempted failed =>
    intro index attempt found
    cases index with
    | zero => exact nofun
    | succ index => cases found
  | succeeded attempted succeeded rests ih =>
    intro index attempt found
    cases index with
    | zero => exact nofun
    | succ index => exact List.forall_mem_cons.mpr ⟨succeeded, ih index attempt found⟩

/-- What an attempt sees is what the outcome of the run says of the attempts before. -/
theorem seesEarlier (run : executor.Run config context steps world attempts last)
    (unrecorded : context.steps.entries = []) {index : Nat} {attempt : Attempt σ}
    (found : attempts[index]? = some attempt) :
    attempt.SeesEarlier (steps.take index) ((attempts.map (·.result)).take index) := by
  have records := run.records index attempt found
  rw [unrecorded, List.nil_append] at records
  rw [← List.map_take]
  have reported : ((attempts.take index).map (·.result)).map (·.stepId) =
      ((attempts.take index).map (·.step)).map (·.id) := by
    rw [List.map_map, List.map_map]
    exact List.map_congr_left fun earlier member =>
      (run.reports earlier (List.mem_of_mem_take member)).stepId
  -- There is an attempt at the index, so the declared steps before it were all attempted.
  have declared : (attempts.take index).map (·.step) = steps.take index := by
    obtain ⟨rest, split⟩ := run.steps_prefix
    have long : index ≤ (attempts.map (·.step)).length := by
      rw [List.length_map]
      exact Nat.le_of_lt (List.getElem?_eq_some_iff.mp found).1
    rw [List.map_take, ← split, List.take_append_of_le_length long]
  refine ⟨reported.trans (congrArg _ declared), ?_, ?_, ?_⟩
  · have keys := attempt.context.steps.nodup
    rw [records, List.map_map] at keys
    rwa [List.map_map]
  · exact List.forall_mem_map.mpr (run.successful_before index attempt found)
  · rw [records, List.map_map]
    rfl

end Run

/-- A step whose request takes something from a step without a record fails, and sends nothing. -/
theorem attemptStep_of_unmet {context : Context} {step : Step} {world : World σ} {api : Api}
    {endpoint : Endpoint} {lookup : Lookup} (called : config.target step.call = .ok (api, endpoint))
    (reached : lookup ∈ assemblyLookups executor.registry (context.scopedTo api endpoint) api endpoint
      step.overrides world)
    (unmet : lookup.Unmet (context.scopedTo api endpoint)) :
    (executor.attemptStep config context step world).1.success = false ∧
      executor.requestSent? config context step world = none := by
  have failed : ((executor.prepare config context step.call step.overrides).run world).1 =
      .error (.resolution (.unresolved lookup.reference.raw)) := by
    rw [prepare, called, Effect.ofExcept_ok_bind]
    simp only [Effect.run_mapError, assemble_of_unmet reached unmet]
    rfl
  unfold attemptStep requestSent? executeStep
  split
  · exact ⟨rfl, rfl⟩
  · cases prepared : (executor.prepare config context step.call step.overrides).run world with
    | mk outcome after =>
    rw [prepared] at failed
    obtain rfl : outcome = _ := failed
    exact ⟨rfl, rfl⟩

/-- Each attempt of a chain sees the records of the attempts before it and of nothing else. They are
those of the steps in the outcome of the chain, they stay as they are, and a new one always finds its
id free. A request that takes something from any other step is not sent. -/
theorem executeChain_history {σ : Type} (executor : Executor σ) (config : Config)
    (context : Context) (chainName : String) (chain : Chain) (world : World σ) :
    let result := (executor.executeChain config context chainName chain world).1
    let attempts := executor.attempts config (context.forChain chain) chain.steps world
    attempts.map (·.result) = result.steps ∧
    ∀ (index : Nat) (attempt : Attempt σ), attempts[index]? = some attempt →
      chain.steps[index]? = some attempt.step ∧
      attempt.SeesEarlier (chain.steps.take index) (result.steps.take index) ∧
      (∀ (before : Nat) (earlier : Attempt σ), before ≤ index → attempts[before]? = some earlier →
        earlier.context.steps.entries <+: attempt.context.steps.entries) ∧
      (attempt.result.success = true →
        (attempt.context.recordStep attempt.result).2 = true ∧
        executor.Delivers config attempt.context attempt.step attempt.world attempt.result) ∧
      (∀ api endpoint lookup id path, config.target attempt.step.call = .ok (api, endpoint) →
        lookup ∈ assemblyLookups executor.registry (attempt.context.scopedTo api endpoint) api
          endpoint attempt.step.overrides attempt.world →
        lookup.required = true → lookup.reference.target = .step id path →
        id ∉ (chain.steps.take index).map (·.id) →
        attempt.result.success = false ∧
        ∀ journal : Journal,
          (executor.journaled.attemptStep config attempt.context attempt.step
            (attempt.world.withJournal journal)).2.journal.sent = journal.sent) := by
  have run := executor.run_attempts config (context.forChain chain) chain.steps world
  have results := congrArg Prod.fst run.results_eq
  simp only [executeChain, ChainResult.ofSteps]
  rw [results]
  refine ⟨rfl, fun index attempt found => ?_⟩
  have sees := run.seesEarlier rfl found
  obtain ⟨after, attempted⟩ := run.attempted attempt (List.mem_of_getElem? found)
  refine ⟨run.step_at found, sees, ?_, ?_, ?_⟩
  · intro before earlier ordered foundEarlier
    rw [run.records index attempt found, run.records before earlier foundEarlier]
    exact (List.prefix_append_right_inj _).mpr ((List.take_prefix_take_left ordered).map _)
  · intro succeeded
    exact ⟨(recordStep_of_success attempted succeeded).1, delivers_of_success attempted succeeded⟩
  · intro api endpoint lookup id path called reached required named unknown
    obtain ⟨failed, unsent⟩ := attemptStep_of_unmet called reached
      ⟨required, id, path, named, sees.undefined unknown api endpoint path⟩
    rw [attempted] at failed
    refine ⟨failed, fun journal => ?_⟩
    rw [executor.attemptStep_sent, World.plain_withJournal, unsent, Option.toList_none,
      List.append_nil, World.journal_withJournal]

/-- A step cannot see a later one. -/
example :
    let path := "/\x7b\x7bsteps.last.request.url\x7d\x7d"
    let items : Api := {
      baseUrl := "http://items"
      endpoints := .ofList [("one", { path := "/one" }), ("same", { path })] }
    let config : Config := { apis := .ofList [("items", items)] }
    let chain : Chain := { steps := [
      { id := "first", call := "items.one" }, { id := "second", call := "items.same" },
      { id := "last", call := "items.one" }] }
    let executor : Executor Unit := { registry := .empty, transport := .noop, dryRun := true }
    (executor.executeChain config {} "chain" chain { host := () }).1.error =
      some ("Step 'second' failed: Variable resolution failed: " ++
        "variable 'steps.last.request.url' is not defined in any scope") := by
  decide +kernel

end Executor

end RequestChain
