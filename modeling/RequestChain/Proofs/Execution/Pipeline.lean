import RequestChain.Proofs.Journal
import RequestChain.Proofs.Plugin.Registration

/-! # The way of a request that is ready

The pre-request hooks see a request in the order of their registration, each as the one before has
left it, up to the first that fails. If none does, and the run is not dry, the request is sent once
as they have left it, and if there is an answer, the post-response hooks see it in the same manner,
with that request. A response is made up where there is no answer: 200 OK if the run is dry, and an
empty one if a pre-request hook or the sending has failed. The way is described by relations that
have one case for each exit, and is shown to be the one that is taken: the calls that are written
down, the outcome of the step and the world that it leaves are those of the description.
-/

namespace RequestChain

/-! ## Hooks in a row -/

section Hooks

variable {σ Part : Type}

/-- Hooks that change a part of an exchange, with the names of their plugins. -/
abbrev HookList (Part σ : Type) := List (String × Effect (Part × World σ) Failure Unit)

/-- Hooks in order, each on the part and the world as the one before has left them, up to the first
that fails: what is written down, the failure if there is one, and what is left. -/
inductive HooksRun (call : String → Part → Call) (refusal : String → Failure → StepError) :
    HookList Part σ → Part × World σ → Journal → Option StepError → Part × World σ → Prop
  | done (given : Part × World σ) : HooksRun call refusal [] given [] none given
  | failed {plugin : String} {hook : Effect (Part × World σ) Failure Unit} {rest : HookList Part σ}
      {given left : Part × World σ} {failure : Failure}
      (ran : hook.run given = (.error failure, left)) :
      HooksRun call refusal ((plugin, hook) :: rest) given [⟨call plugin given.1, .failed failure⟩]
        (some (refusal plugin failure)) left
  | passed {plugin : String} {hook : Effect (Part × World σ) Failure Unit} {rest : HookList Part σ}
      {given left last : Part × World σ} {lines : Journal} {error? : Option StepError}
      (ran : hook.run given = (.ok (), left))
      (others : HooksRun call refusal rest left lines error? last) :
      HooksRun call refusal ((plugin, hook) :: rest) given
        (⟨call plugin given.1, .finished⟩ :: lines) error? last

/-- Only a hook that refuses makes hooks in a row fail. -/
theorem HooksRun.refused {call : String → Part → Call} {refusal : String → Failure → StepError}
    {hooks : HookList Part σ} {given last : Part × World σ} {lines : Journal}
    {error? : Option StepError} (run : HooksRun call refusal hooks given lines error? last) :
    ∀ error ∈ error?, ∃ plugin failure, error = refusal plugin failure := by
  induction run with
  | done => exact nofun
  | failed ran =>
    rintro error ⟨⟩
    exact ⟨_, _, rfl⟩
  | passed ran others ih => exact ih

/-- The hooks in order. -/
def runHooks (refusal : String → Failure → StepError) :
    HookList Part σ → Effect (Part × World σ) StepError Unit
  | [] => pure ()
  | (plugin, hook) :: rest => do
    hook.mapError (refusal plugin)
    runHooks refusal rest

theorem runPreRequestHooks_eq (hooks : List (String × PreRequestHook σ)) :
    runPreRequestHooks hooks = runHooks .preRequestHook hooks := by
  induction hooks with
  | nil => rfl
  | cons entry rest ih => rw [runPreRequestHooks, runHooks, ih]

/-- The hooks on the response to one request. -/
def hooksFor (request : Request) (hooks : List (String × PostResponseHook σ)) :
    HookList Response σ :=
  hooks.map fun (plugin, hook) => (plugin, hook request)

theorem runPostResponseHooks_eq (request : Request) (hooks : List (String × PostResponseHook σ)) :
    runPostResponseHooks request hooks = runHooks .postResponseHook (hooksFor request hooks) := by
  induction hooks with
  | nil => rfl
  | cons entry rest ih =>
    rw [runPostResponseHooks, ih]
    rfl

/-- The hooks with every call written down. -/
def notedHooks (call : String → Part → Call) (hooks : HookList Part σ) :
    HookList Part (σ × Journal) :=
  hooks.map fun (plugin, hook) => (plugin, notedHook (call plugin) hook)

theorem run_notedHook (call : Part → Call) (hook : Effect (Part × World σ) Failure Unit)
    (part : Part) (world : World σ) (journal : Journal) :
    (notedHook call hook).run (part, world.withJournal journal) =
      ((hook.run (part, world)).1, (hook.run (part, world)).2.1,
        (hook.run (part, world)).2.2.withJournal (journal ++
          [⟨call part, .ofOutcome (fun _ => .finished) (hook.run (part, world)).1⟩])) := rfl

/-- Something that has come to an end, with an error or without. -/
def ended : Option StepError → Except StepError Unit
  | none => .ok ()
  | some error => .error error

/-- Hooks run as described, with a journal and without one. -/
theorem runHooks_run (call : String → Part → Call) (refusal : String → Failure → StepError)
    (hooks : HookList Part σ) (part : Part) (world : World σ) :
    ∃ lines error? left after,
      HooksRun call refusal hooks (part, world) lines error? (left, after) ∧
      (runHooks refusal hooks).run (part, world) = (ended error?, left, after) ∧
      ∀ journal, (runHooks refusal (notedHooks call hooks)).run (part, world.withJournal journal) =
        (ended error?, left, after.withJournal (journal ++ lines)) := by
  induction hooks generalizing part world with
  | nil =>
    refine ⟨[], none, part, world, .done _, rfl, fun journal => ?_⟩
    rw [List.append_nil]
    rfl
  | cons entry rest ih =>
    obtain ⟨plugin, hook⟩ := entry
    rcases ran : hook.run (part, world) with ⟨outcome, changed, between⟩
    have noted := run_notedHook (call plugin) hook part world
    simp only [ran] at noted
    have mapped : (hook.mapError (refusal plugin)).run (part, world) =
        (outcome.mapError (refusal plugin), changed, between) := by
      rw [Effect.run_mapError, ran]
    have mappedNoted (journal : Journal) :
        ((notedHook (call plugin) hook).mapError (refusal plugin)).run
          (part, world.withJournal journal) =
        (outcome.mapError (refusal plugin), changed, between.withJournal (journal ++
          [⟨call plugin part, .ofOutcome (fun _ => .finished) outcome⟩])) := by
      rw [Effect.run_mapError, noted]
    cases outcome with
    | error failure =>
      refine ⟨_, some (refusal plugin failure), changed, between, .failed ran, ?_, ?_⟩
      · exact Effect.run_bind_of_error mapped _
      · exact fun journal => Effect.run_bind_of_error (mappedNoted journal) _
    | ok done =>
      -- The journal has grown by one line, so the rest is taken behind any journal.
      obtain ⟨lines, error?, left, after, others, rests, restsNoted⟩ := ih changed between
      refine ⟨_, error?, left, after, .passed ran others, ?_, ?_⟩
      · exact (Effect.run_bind_of_ok mapped _).trans rests
      · intro journal
        refine (Effect.run_bind_of_ok (mappedNoted journal) _).trans ((restsNoted _).trans ?_)
        rw [List.append_assoc]
        rfl

end Hooks

namespace StepResult

/-- The outcome of a step that leaves a request and a response, with a failure or without. -/
def leaving (stepId : String) (request : Request) (response : Response) :
    Option StepError → StepResult
  | none => .answered stepId request response
  | some error => .failure stepId request response error

variable (stepId : String) (request : Request) (response : Response)

@[simp] theorem leaving_request (error? : Option StepError) :
    (leaving stepId request response error?).request = request := by
  cases error? <;> rfl

@[simp] theorem leaving_response (error? : Option StepError) :
    (leaving stepId request response error?).response = response := by
  cases error? <;> rfl

theorem leaving_success_iff (error? : Option StepError) :
    (leaving stepId request response error?).success = true ↔
      error? = none ∧ response.status < 400 := by
  cases error? with
  | none => simp [leaving, answered, Response.isSuccess]
  | some error => simp [leaving, failure]

end StepResult

namespace Executor

variable {σ : Type} (executor : Executor σ)

/-! ## The way of a request -/

/-- What comes of sending a request: the calls, the response as it is left, and the failure if there
is one. -/
inductive Sending (request : Request) (world : World σ) :
    Journal → Response → Option StepError → World σ → Prop
  | unanswered {failure : Failure} {after : World σ}
      (sent : (executor.transport request).run world = (.error failure, after)) :
      Sending request world [⟨.http request, .failed failure⟩]
        { status := 0, statusText := "", headers := {}, body := "" } (some (.transport failure)) after
  | answered {response final : Response} {after last : World σ} {lines : Journal}
      {error? : Option StepError}
      (sent : (executor.transport request).run world = (.ok response, after))
      (hooks : HooksRun (fun plugin => .postResponseHook plugin request) .postResponseHook
        (hooksFor request executor.registry.postResponseHooks) (response, after) lines error?
        (final, last)) :
      Sending request world (⟨.http request, .responded response⟩ :: lines) final error? last

/-- What comes of a request that is ready: the calls, the request and the response as they are left,
and the failure if there is one. -/
inductive Delivery (prepared : Request) (ready : World σ) :
    Journal → Request → Response → Option StepError → World σ → Prop
  | refused {request : Request} {after : World σ} {lines : Journal} {error : StepError}
      (hooks : HooksRun .preRequestHook .preRequestHook executor.registry.preRequestHooks
        (prepared, ready) lines (some error) (request, after)) :
      Delivery prepared ready lines request
        { status := 0, statusText := "", headers := {}, body := "" } (some error) after
  | dry {request : Request} {after : World σ} {lines : Journal}
      (hooks : HooksRun .preRequestHook .preRequestHook executor.registry.preRequestHooks
        (prepared, ready) lines none (request, after))
      (dry : executor.dryRun = true) :
      Delivery prepared ready lines request
        { status := 200, statusText := "OK", headers := {}, body := "" } none after
  | sent {request : Request} {response : Response} {after last : World σ} {lines others : Journal}
      {error? : Option StepError}
      (hooks : HooksRun .preRequestHook .preRequestHook executor.registry.preRequestHooks
        (prepared, ready) lines none (request, after))
      (wet : executor.dryRun = false)
      (sending : executor.Sending request after others response error? last) :
      Delivery prepared ready (lines ++ others) request response error? last

namespace Delivery

variable {executor} {prepared request : Request} {ready last : World σ} {lines : Journal}
  {response : Response}

/-- A dry run without a failure has 200 OK for an answer. -/
theorem response_of_dryRun
    (delivery : executor.Delivery prepared ready lines request response none last)
    (dry : executor.dryRun = true) :
    response = { status := 200, statusText := "OK", headers := {}, body := "" } := by
  cases delivery with
  | dry => rfl
  | sent hooks wet sending =>
    rw [dry] at wet
    cases wet

/-- If a pre-request hook or the sending has failed, there is no answer. -/
theorem response_of_unanswered {error? : Option StepError} {plugin : String} {failure : Failure}
    (delivery : executor.Delivery prepared ready lines request response error? last)
    (unanswered :
      error? = some (.preRequestHook plugin failure) ∨ error? = some (.transport failure)) :
    response = { status := 0, statusText := "", headers := {}, body := "" } := by
  cases delivery with
  | refused => rfl
  | dry => simp at unanswered
  | sent hooks wet sending =>
    cases sending with
    | unanswered => rfl
    | answered sent hooks =>
      -- Nothing but a post-response hook can fail behind an answer.
      rcases unanswered with failed | failed
      · obtain ⟨_, _, same⟩ := hooks.refused _ failed
        cases same
      · obtain ⟨_, _, same⟩ := hooks.refused _ failed
        cases same

end Delivery

/-! ## The way that is taken -/

/-- The pre-request hooks run as described, with a journal and without one. -/
theorem preRequestHooks_run (prepared : Request) (ready : World σ) :
    ∃ lines error? request after,
      HooksRun .preRequestHook .preRequestHook executor.registry.preRequestHooks (prepared, ready)
        lines error? (request, after) ∧
      (runPreRequestHooks executor.registry.preRequestHooks).run (prepared, ready) =
        (ended error?, request, after) ∧
      ∀ journal, (runPreRequestHooks executor.journaled.registry.preRequestHooks).run
          (prepared, ready.withJournal journal) =
        (ended error?, request, after.withJournal (journal ++ lines)) := by
  obtain ⟨lines, error?, request, after, hooks, ran, ranNoted⟩ :=
    runHooks_run .preRequestHook .preRequestHook executor.registry.preRequestHooks prepared ready
  refine ⟨lines, error?, request, after, hooks, ?_, fun journal => ?_⟩
  · rw [runPreRequestHooks_eq, ran]
  · rw [runPreRequestHooks_eq, ← ranNoted]
    rfl

/-- The post-response hooks run as described, with a journal and without one. -/
theorem postResponseHooks_run (request : Request) (response : Response) (answered : World σ) :
    ∃ lines error? final last,
      HooksRun (fun plugin => .postResponseHook plugin request) .postResponseHook
        (hooksFor request executor.registry.postResponseHooks) (response, answered) lines error?
        (final, last) ∧
      (runPostResponseHooks request executor.registry.postResponseHooks).run (response, answered) =
        (ended error?, final, last) ∧
      ∀ journal, (runPostResponseHooks request executor.journaled.registry.postResponseHooks).run
          (response, answered.withJournal journal) =
        (ended error?, final, last.withJournal (journal ++ lines)) := by
  obtain ⟨lines, error?, final, last, hooks, ran, ranNoted⟩ :=
    runHooks_run (fun plugin => .postResponseHook plugin request) .postResponseHook
      (hooksFor request executor.registry.postResponseHooks) response answered
  refine ⟨lines, error?, final, last, hooks, ?_, fun journal => ?_⟩
  · rw [runPostResponseHooks_eq, ran]
  · rw [runPostResponseHooks_eq, ← ranNoted, notedHooks, hooksFor, hooksFor]
    simp only [journaled, Registry.journaled, List.map_map, Function.comp_def]

theorem run_journaled_transport (request : Request) (world : World σ) (journal : Journal) :
    (executor.journaled.transport request).run (world.withJournal journal) =
      (((executor.transport request).run world).1,
        ((executor.transport request).run world).2.withJournal (journal ++
          [⟨.http request, .ofOutcome .responded ((executor.transport request).run world).1⟩])) :=
  rfl

/-- A request that is sent takes the way that is described, with a journal and without one. -/
theorem dispatch_sending (stepId : String) (request : Request) (world : World σ) :
    ∃ lines response error? last,
      executor.Sending request world lines response error? last ∧
      executor.dispatch stepId request world = (.leaving stepId request response error?, last) ∧
      ∀ journal, executor.journaled.dispatch stepId request (world.withJournal journal) =
        (.leaving stepId request response error?, last.withJournal (journal ++ lines)) := by
  have sentNoted := executor.run_journaled_transport request world
  rcases sent : (executor.transport request).run world with ⟨failure | response, after⟩
  · rw [sent] at sentNoted
    refine ⟨_, {}, _, after, .unanswered sent, ?_, fun journal => ?_⟩
    · simp only [dispatch, sent]
      rfl
    · simp only [dispatch, sentNoted]
      rfl
  · rw [sent] at sentNoted
    obtain ⟨lines, error?, final, last, hooks, ran, ranNoted⟩ :=
      executor.postResponseHooks_run request response after
    refine ⟨_, final, error?, last, .answered sent hooks, ?_, fun journal => ?_⟩
    · simp only [dispatch, sent, ran]
      cases error? with
      | none => rfl
      | some error => rfl
    · simp only [dispatch, sentNoted, ranNoted, List.append_assoc]
      cases error? with
      | none => rfl
      | some error => rfl

/-- A request that is ready takes the way that is described, with a journal and without one. -/
theorem deliver_delivery (stepId : String) (prepared : Request) (ready : World σ) :
    ∃ lines request response error? last,
      executor.Delivery prepared ready lines request response error? last ∧
      executor.deliver stepId prepared ready = (.leaving stepId request response error?, last) ∧
      ∀ journal, executor.journaled.deliver stepId prepared (ready.withJournal journal) =
        (.leaving stepId request response error?, last.withJournal (journal ++ lines)) := by
  obtain ⟨lines, error?, request, after, hooks, ran, ranNoted⟩ :=
    executor.preRequestHooks_run prepared ready
  cases error? with
  | some error =>
    refine ⟨lines, request, {}, some error, after, .refused hooks, ?_, fun journal => ?_⟩
    · simp only [deliver, ran, ended]
      rfl
    · simp only [deliver, ranNoted, ended]
      rfl
  | none =>
    have sameRun : executor.journaled.dryRun = executor.dryRun := rfl
    cases dry : executor.dryRun with
    | true =>
      refine ⟨lines, request, .dryRun, none, after, .dry hooks dry, ?_, fun journal => ?_⟩
      · simp only [deliver, ran, ended, dry, if_true]
        rfl
      · simp only [deliver, ranNoted, ended, sameRun, dry, if_true]
        rfl
    | false =>
      obtain ⟨others, response, error?, last, sending, sent, sentNoted⟩ :=
        executor.dispatch_sending stepId request after
      refine ⟨_, request, response, error?, last, .sent hooks dry sending, ?_, fun journal => ?_⟩
      · simp only [deliver, ran, ended, dry, Bool.false_eq_true, if_false, sent]
      · simp only [deliver, ranNoted, ended, sameRun, dry, Bool.false_eq_true, if_false, sentNoted,
          List.append_assoc]

/-- A request is prepared in the same way with a journal. -/
theorem run_journaled_prepare {config : Config} {context : Context} {call : String}
    {overrides : Option Overrides} {outcome : Except StepError Request} {world ready : World σ}
    (ran : (executor.prepare config context call overrides).run world = (outcome, ready)) :
    ∃ before, (executor.journaled.prepare config context call overrides).run
      (world.withJournal []) = (outcome, ready.withJournal before) := by
  have together : Journaling (fun _ => True) (world.withJournal []) world := ⟨rfl, trivial⟩
  have mirrored := prepare_mirrors executor.journaled_mirrors.registry config context call overrides
    (world.withJournal []) world together
  rw [ran] at mirrored
  obtain ⟨same, behind, -⟩ := mirrored
  rcases noted : (executor.journaled.prepare config context call overrides).run
    (world.withJournal []) with ⟨outcome', between⟩
  rw [noted] at same behind
  obtain rfl : outcome' = outcome := same
  obtain rfl : between.plain = ready := behind
  exact ⟨between.journal, rfl⟩

/-- A step whose request is assembled does after that what the description of its way says, and makes
no other calls. Its outcome has the request and the response that are left, and it is a success if
nothing failed and the status is below 400. Where there was no answer, the response is 200 OK in a dry
run and an empty one after a failure. The hooks are those of the plugins, in the order in which
they were installed and each registered them. -/
theorem executeStep_pipeline {config : Config} {context : Context} {call : String}
    {overrides : Option Overrides} {prepared : Request} {world ready : World σ}
    (assembled : (executor.prepare config context call overrides).run world =
      (.ok prepared, ready)) (stepId : String) :
    let outcome := executor.executeStep config context stepId call overrides world
    let journaled := executor.journaled.executeStep config context stepId call overrides
      (world.withJournal [])
    ∃ before lines error?,
      (executor.journaled.prepare config context call overrides).run (world.withJournal []) =
        (.ok prepared, ready.withJournal before) ∧
      executor.Delivery prepared ready lines outcome.1.request outcome.1.response error? outcome.2 ∧
      journaled = (outcome.1, outcome.2.withJournal (before ++ lines)) ∧
      (outcome.1.success = true ↔ error? = none ∧ outcome.1.response.status < 400) ∧
      (∀ error ∈ error?, outcome.1.error = some error.message) ∧
      (executor.dryRun = true → error? = none →
        outcome.1.response = { status := 200, statusText := "OK", headers := {}, body := "" }) ∧
      (∀ plugin failure,
        error? = some (.preRequestHook plugin failure) ∨ error? = some (.transport failure) →
        outcome.1.response = { status := 0, statusText := "", headers := {}, body := "" }) ∧
      ∀ plugins, Registry.ofPlugins plugins = .ok executor.registry →
        executor.registry.preRequestHooks =
          plugins.flatMap (·.registered Registration.preRequestHook?) ∧
        executor.registry.postResponseHooks =
          plugins.flatMap (·.registered Registration.postResponseHook?) := by
  intro outcome journaled
  obtain ⟨before, noted⟩ := executor.run_journaled_prepare assembled
  obtain ⟨lines, request, response, error?, last, delivery, delivered, deliveredNoted⟩ :=
    executor.deliver_delivery stepId prepared ready
  have left : outcome = (.leaving stepId request response error?, last) := by
    simp only [outcome, executeStep, assembled, delivered]
  refine ⟨before, lines, error?, noted, ?_, ?_, ?_, ?_, ?_, ?_, ?_⟩
  · rw [left, StepResult.leaving_request, StepResult.leaving_response]
    exact delivery
  · simp only [left, journaled, executeStep, noted]
    exact deliveredNoted before
  · rw [left, StepResult.leaving_response]
    exact StepResult.leaving_success_iff stepId request response error?
  · rintro error ⟨⟩
    rw [left]
    rfl
  · rintro dry rfl
    rw [left, StepResult.leaving_response]
    exact delivery.response_of_dryRun dry
  · intro plugin failure unanswered
    rw [left, StepResult.leaving_response]
    exact delivery.response_of_unanswered unanswered
  · intro plugins installed
    constructor
    · exact Registry.preRequestHooks_collect.ofPlugins installed
    · exact Registry.postResponseHooks_collect.ofPlugins installed

/-- A hook that changes the part that it is given, and then agrees or fails. -/
def changing {Part : Type} (change : Part → Part) (outcome : Except Failure Unit) :
    Effect (Part × World Unit) Failure Unit :=
  fun (part, world) => (outcome, change part, world)

/-- Two plugins with hooks of both kinds. The last hook changes the response before it fails. In a dry
run it is not called, and the request is the same. -/
theorem executeStep_pipeline_twoPlugins :
    let signs : PreRequestHook Unit :=
      changing (fun request => { request with url := request.url ++ "?signed" }) (.ok ())
    let renames : PreRequestHook Unit :=
      changing (fun request => { request with method := "PUT" }) (.ok ())
    let unwraps : PostResponseHook Unit := fun request =>
      changing (fun response => { response with body := request.method }) (.ok ())
    let rejects : PostResponseHook Unit := fun _ =>
      changing (fun response => { response with status := 204 }) (.error ⟨["too late"]⟩)
    let plugins : List (Plugin Unit) := [
      { name := "a", setup := .ok [.preRequestHook signs, .postResponseHook unwraps] },
      { name := "b", setup := .ok [.postResponseHook rejects, .preRequestHook renames] }]
    let registry := (Registry.ofPlugins plugins).toOption.getD .empty
    let executor : Executor Unit := {
      registry, transport := fun request => pure { status := 200, body := request.url } }
    let dry : Executor Unit := { executor with dryRun := true }
    let config : Config := { apis := .ofList [("api",
      { baseUrl := "http://h", endpoints := .ofList [("get", { path := "/p" })] })] }
    let outcome := executor.executeStep config {} "only" "api.get" none { host := () }
    let dryOutcome := dry.executeStep config {} "only" "api.get" none { host := () }
    ∃ prepared ready lines error? dryLines,
      (executor.prepare config {} "api.get" none).run { host := () } = (.ok prepared, ready) ∧
      executor.Delivery prepared ready lines outcome.1.request outcome.1.response error?
        outcome.2 ∧
      outcome.1.request.method = "PUT" ∧ outcome.1.request.url = "http://h/p?signed" ∧
      outcome.1.response = { status := 204, body := "PUT" } ∧
      outcome.1.error = some "post-response hook 'b' failed: too late" ∧
      dry.Delivery prepared ready dryLines dryOutcome.1.request dryOutcome.1.response none
        dryOutcome.2 ∧
      dryOutcome.1.request.method = "PUT" ∧
      dryOutcome.1.response = { status := 200, statusText := "OK", headers := {}, body := "" } := by
  intro signs renames unwraps rejects plugins registry executor dry config outcome dryOutcome
  have isAssembled :
      ((executor.prepare config {} "api.get" none).run { host := () }).1.isOk = true := by
    decide +kernel
  rcases assembled : (executor.prepare config {} "api.get" none).run { host := () } with
    ⟨error | prepared, ready⟩
  · rw [assembled] at isAssembled
    cases isAssembled
  · have assembledDry : (dry.prepare config {} "api.get" none).run { host := () } =
        (.ok prepared, ready) := assembled
    obtain ⟨-, lines, error?, -, delivery, -⟩ := executor.executeStep_pipeline assembled "only"
    obtain ⟨-, dryLines, dryError?, -, dryDelivery, -, succeeds, -, standsIn, -⟩ :=
      dry.executeStep_pipeline assembledDry "only"
    obtain ⟨rfl, -⟩ := succeeds.mp (by decide +kernel)
    exact ⟨prepared, ready, lines, error?, dryLines, rfl, delivery, by decide +kernel,
      by decide +kernel, by decide +kernel, by decide +kernel, dryDelivery, by decide +kernel,
      standsIn rfl rfl⟩

end Executor

end RequestChain
