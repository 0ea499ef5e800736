import Mathlib.Data.List.Flatten
import RequestChain.Config.Validation
import RequestChain.Execution.Step
import RequestChain.Proofs.Assembly.Texts
import RequestChain.Proofs.Json.Scalars
import RequestChain.Proofs.Layers

/-! # What validation covers

A configuration has no problems exactly if the texts in its checked part are templates and the steps
of its chains have ids that tell them apart and calls that lead to endpoints. The checked part holds
the base URLs and paths, and the scalars among the headers and parameters of APIs and endpoints.
Nothing else has an influence on the problems: bodies, variables, profiles, what a step changes, and
headers or parameters that are arrays or objects are not looked at, although they are templates too.
-/

namespace RequestChain

/-! ## Templates -/

/-- A text that can be read as a template. -/
def Template.Readable (text : String) : Prop :=
  ∃ template, Template.parse text = .ok template

/-- The templates of an endpoint. -/
def Endpoint.templates (endpoint : Endpoint) : List String :=
  endpoint.path :: endpoint.headers.texts ++ endpoint.params.texts ++ endpoint.vars.texts ++
    endpoint.body.elim [] Json.texts

/-- The templates of an API and its endpoints. -/
def Api.templates (api : Api) : List String :=
  api.baseUrl :: api.headers.texts ++ api.params.texts ++ api.vars.texts ++
    api.endpoints.values.flatMap Endpoint.templates

/-- The templates in what a step changes. -/
def Overrides.templates (overrides : Overrides) : List String :=
  overrides.headers.texts ++ overrides.params.texts ++ overrides.pathParams.texts ++
    overrides.body.elim [] Json.texts

/-- The templates of a chain. -/
def Chain.templates (chain : Chain) : List String :=
  chain.vars.texts ++ chain.steps.flatMap fun step => step.overrides.elim [] Overrides.templates

/-- Every text of a configuration that is used as a template. -/
def Config.templates (config : Config) : List String :=
  config.apis.values.flatMap Api.templates ++ config.profiles.values.flatMap ScalarMap.texts ++
    config.chains.values.flatMap Chain.templates

/-! ## The checked part -/

/-- The entries whose values are scalars. -/
def ScalarMap.scalars (entries : ScalarMap) : ScalarMap :=
  ⟨entries.entries.filter (·.2.isScalar),
    entries.nodup.sublist ((List.filter_sublist (l := entries.entries)).map Prod.fst)⟩

/-- An endpoint without body and variables. -/
def Endpoint.checkedPart (endpoint : Endpoint) : Endpoint :=
  { endpoint with
    headers := endpoint.headers.scalars, params := endpoint.params.scalars, body := none, vars := {} }

/-- An API without variables. -/
def Api.checkedPart (api : Api) : Api :=
  { api with
    headers := api.headers.scalars, params := api.params.scalars, vars := {}
    endpoints := api.endpoints.mapValues Endpoint.checkedPart }

/-- A chain of ids and calls only. -/
def Chain.checkedPart (chain : Chain) : Chain :=
  { chain with vars := {}, steps := chain.steps.map fun step => { step with overrides := none } }

/-- What validation looks at. -/
def Config.checkedPart (config : Config) : Config where
  apis := config.apis.mapValues Api.checkedPart
  chains := config.chains.mapValues Chain.checkedPart

/-! ## Problems of texts -/

theorem templateProblems_eq_nil_iff {location text : String} :
    templateProblems location text = [] ↔ Template.Readable text := by
  unfold templateProblems Template.Readable
  cases Template.parse text with
  | error error => simp
  | ok template => simp

/-- What the problems of one entry are. -/
private def entryProblem (location : String) (entry : String × Json) : List Problem :=
  match entry.2 with
  | .string text => templateProblems (location ++ "." ++ entry.1) text
  | _ => []

private theorem entryProblems_eq (location : String) (entries : ScalarMap) :
    entryProblems location entries = entries.entries.flatMap (entryProblem location) := rfl

private theorem entryProblem_of_structured {location : String} {entry : String × Json}
    (structured : entry.2.isScalar = false) : entryProblem location entry = [] := by
  obtain ⟨name, value⟩ := entry
  cases value with
  | array items => rfl
  | object fields => rfl
  | null | bool value | number value | string value => cases structured

/-- A scalar is all right if its text is a template, which matters for strings only. -/
private theorem entryProblem_eq_nil_iff {location : String} {entry : String × Json}
    (scalar : entry.2.isScalar = true) :
    entryProblem location entry = [] ↔
      ∀ text, renderScalar entry.2 = some text → Template.Readable text := by
  obtain ⟨name, value⟩ := entry
  by_cases isString : ∃ text, value = .string text
  · obtain ⟨text, rfl⟩ := isString
    simp [entryProblem, templateProblems_eq_nil_iff, renderScalar]
  · have none : entryProblem location (name, value) = [] := by
      cases value with
      | string text => exact absurd ⟨text, rfl⟩ isString
      | null | bool value | number value | array items | object fields => rfl
    refine iff_of_true none fun text rendered => ?_
    cases Json.renderScalar_of_isScalar scalar rendered with
    | inl same => exact absurd ⟨text, same⟩ isString
    | inr bare => exact ⟨_, Template.parse_of_bare bare⟩

private theorem flatMap_filter_of_nil {α β : Type} {keep : α → Bool} {f : α → List β}
    (omitted : ∀ item, keep item = false → f item = []) (items : List α) :
    (items.filter keep).flatMap f = items.flatMap f := by
  induction items with
  | nil => rfl
  | cons item rest ih =>
    cases kept : keep item with
    | true => rw [List.filter_cons_of_pos kept, List.flatMap_cons, List.flatMap_cons, ih]
    | false =>
      have dropped : ¬keep item = true := by simp [kept]
      rw [List.filter_cons_of_neg dropped, List.flatMap_cons, omitted item kept, List.nil_append, ih]

/-- Arrays and objects have no problems. -/
theorem entryProblems_scalars (location : String) (entries : ScalarMap) :
    entryProblems location entries.scalars = entryProblems location entries :=
  flatMap_filter_of_nil (fun _ structured => entryProblem_of_structured structured) entries.entries

theorem entryProblems_eq_nil_iff {location : String} {entries : ScalarMap} :
    entryProblems location entries = [] ↔
      ∀ text ∈ entries.scalars.texts, Template.Readable text := by
  rw [← entryProblems_scalars, entryProblems_eq, List.flatMap_eq_nil_iff]
  constructor
  · intro none text member
    obtain ⟨value, held, rendered⟩ := List.mem_filterMap.mp member
    obtain ⟨entry, inside, rfl⟩ := List.mem_map.mp held
    exact (entryProblem_eq_nil_iff (List.mem_filter.mp inside).2).mp (none entry inside) text rendered
  · intro readable entry inside
    refine (entryProblem_eq_nil_iff (List.mem_filter.mp inside).2).mpr fun text rendered => ?_
    exact readable text (List.mem_filterMap.mpr ⟨entry.2, List.mem_map_of_mem inside, rendered⟩)

@[simp] theorem ScalarMap.texts_empty : ScalarMap.texts {} = [] := rfl

theorem Endpoint.problems_eq_nil_iff {location : String} {endpoint : Endpoint} :
    endpoint.problems location = [] ↔
      ∀ text ∈ endpoint.checkedPart.templates, Template.Readable text := by
  simp only [problems, List.append_eq_nil_iff, templateProblems_eq_nil_iff, entryProblems_eq_nil_iff,
    templates, checkedPart, ScalarMap.texts_empty, Option.elim_none, List.append_nil,
    List.cons_append, List.forall_mem_cons, List.forall_mem_append, and_assoc]

theorem Endpoint.problems_checkedPart (location : String) (endpoint : Endpoint) :
    endpoint.checkedPart.problems location = endpoint.problems location := by
  simp only [problems, checkedPart, entryProblems_scalars]

theorem Api.problems_eq_nil_iff {name : String} {api : Api} :
    api.problems name = [] ↔ ∀ text ∈ api.checkedPart.templates, Template.Readable text := by
  have endpoints : (∀ entry ∈ api.endpoints.entries, entry.2.problems
        ("apis." ++ name ++ ".endpoints." ++ entry.1) = []) ↔
      ∀ text ∈ api.checkedPart.endpoints.values.flatMap Endpoint.templates,
        Template.Readable text := by
    simp only [Endpoint.problems_eq_nil_iff, List.forall_mem_flatMap, checkedPart,
      OrderedMap.values, OrderedMap.mapValues, List.forall_mem_map]
  simp only [problems, List.append_eq_nil_iff, templateProblems_eq_nil_iff, entryProblems_eq_nil_iff,
    List.flatMap_eq_nil_iff, endpoints, templates, List.cons_append, List.forall_mem_cons,
    List.forall_mem_append, and_assoc]
  simp [checkedPart]

theorem Api.problems_checkedPart (name : String) (api : Api) :
    api.checkedPart.problems name = api.problems name := by
  simp only [problems, checkedPart, entryProblems_scalars, OrderedMap.mapValues, List.flatMap_map,
    Endpoint.problems_checkedPart]

/-! ## Problems of steps -/

/-- A call leads to the endpoint of its two names, or nowhere. -/
theorem Config.target_eq_ok_iff {config : Config} {call : String} {api : Api}
    {endpoint : Endpoint} :
    config.target call = .ok (api, endpoint) ↔ ∃ apiName endpointName,
      parseCall? call = some (apiName, endpointName) ∧
        config.endpoint? apiName endpointName = some (api, endpoint) := by
  unfold target endpoint?
  cases parseCall? call with
  | none => simp
  | some names =>
    obtain ⟨apiName, endpointName⟩ := names
    cases foundApi : config.apis.get? apiName with
    | none => simp [foundApi]
    | some held =>
      cases foundEndpoint : held.endpoints.get? endpointName with
      | none => simp [foundApi, foundEndpoint]
      | some other => simp [foundApi, foundEndpoint]

theorem Step.callDefect?_eq_none_iff {config : Config} {step : Step} :
    step.callDefect? config = none ↔
      ∃ api endpoint, config.target step.call = .ok (api, endpoint) := by
  simp only [Config.target_eq_ok_iff]
  unfold callDefect?
  cases parseCall? step.call with
  | none => simp
  | some names =>
    obtain ⟨apiName, endpointName⟩ := names
    simp only [ite_eq_left_iff, reduceCtorEq, imp_false, Decidable.not_not, Option.some.injEq,
      Prod.mk.injEq]
    rw [Option.isSome_iff_exists]
    constructor
    · rintro ⟨⟨api, endpoint⟩, found⟩
      exact ⟨api, endpoint, apiName, endpointName, ⟨rfl, rfl⟩, found⟩
    · rintro ⟨api, endpoint, _, _, ⟨rfl, rfl⟩, found⟩
      exact ⟨(api, endpoint), found⟩

theorem Step.idDefect?_eq_none_iff {earlier : List String} {step : Step} :
    step.idDefect? earlier = none ↔ Text.isBlankText step.id = false ∧ step.id ∉ earlier := by
  unfold idDefect?
  by_cases blank : Text.isBlankText step.id = true
  · simp [blank]
  · simp [blank]

/-- Steps that can be told apart and that call something. -/
structure Chain.Callable (config : Config) (chain : Chain) : Prop where
  visible : ∀ step ∈ chain.steps, Text.isBlankText step.id = false
  distinct : (chain.steps.map (·.id)).Nodup
  called : ∀ step ∈ chain.steps, ∃ api endpoint, config.target step.call = .ok (api, endpoint)

private theorem callable_cons_iff {config : Config} {step : Step} {rest : List Step} :
    Chain.Callable config { steps := step :: rest } ↔
      (Text.isBlankText step.id = false ∧ ∃ api endpoint, config.target step.call = .ok (api, endpoint)) ∧
        (∀ other ∈ rest, other.id ≠ step.id) ∧ Chain.Callable config { steps := rest } := by
  constructor
  · rintro ⟨visible, distinct, called⟩
    obtain ⟨first, others⟩ := List.forall_mem_cons.mp visible
    obtain ⟨target, targets⟩ := List.forall_mem_cons.mp called
    obtain ⟨fresh, apart⟩ := List.nodup_cons.mp distinct
    refine ⟨⟨first, target⟩, fun other member same => ?_, others, apart, targets⟩
    exact fresh (List.mem_map.mpr ⟨other, member, same⟩)
  · rintro ⟨⟨first, target⟩, fresh, others, apart, targets⟩
    refine ⟨List.forall_mem_cons.mpr ⟨first, others⟩, List.nodup_cons.mpr ⟨fun known => ?_, apart⟩,
      List.forall_mem_cons.mpr ⟨target, targets⟩⟩
    obtain ⟨other, member, same⟩ := List.mem_map.mp known
    exact fresh other member same

theorem Step.defects_eq_nil_iff {config : Config} {earlier : List String} {step : Step} :
    step.defects config earlier = [] ↔
      (Text.isBlankText step.id = false ∧ step.id ∉ earlier) ∧
        ∃ api endpoint, config.target step.call = .ok (api, endpoint) := by
  rw [defects, List.append_eq_nil_iff, Option.toList_eq_nil_iff, Option.toList_eq_nil_iff,
    idDefect?_eq_none_iff, callDefect?_eq_none_iff]

/-- Steps behind steps with the ids `earlier` have no problems if they can be called and no id comes
twice. -/
private theorem stepProblems_eq_nil_iff {config : Config} {location : String} {index : Nat}
    {earlier : List String} {steps : List Step} :
    stepProblems config location index earlier steps = [] ↔
      Chain.Callable config { steps } ∧ ∀ step ∈ steps, step.id ∉ earlier := by
  induction steps generalizing index earlier with
  | nil =>
    exact iff_of_true rfl ⟨⟨nofun, List.nodup_nil, nofun⟩, nofun⟩
  | cons step rest ih =>
    rw [stepProblems, List.append_eq_nil_iff, List.map_eq_nil_iff, Step.defects_eq_nil_iff, ih,
      callable_cons_iff, List.forall_mem_cons]
    constructor
    · rintro ⟨⟨⟨visible, fresh⟩, target⟩, others, apart⟩
      refine ⟨⟨⟨visible, target⟩, fun other member same => ?_, others⟩, fresh,
        fun other member known => apart other member (List.mem_cons_of_mem _ known)⟩
      exact apart other member (same ▸ List.mem_cons_self)
    · rintro ⟨⟨⟨visible, target⟩, differ, others⟩, fresh, unknown⟩
      refine ⟨⟨⟨visible, fresh⟩, target⟩, others, fun other member known => ?_⟩
      cases List.mem_cons.mp known with
      | inl same => exact differ other member same
      | inr known => exact unknown other member known

theorem Chain.problems_eq_nil_iff {config : Config} {location : String} {chain : Chain} :
    stepProblems config location 0 [] chain.steps = [] ↔ chain.Callable config := by
  rw [stepProblems_eq_nil_iff]
  constructor
  · rintro ⟨⟨visible, distinct, called⟩, -⟩
    exact ⟨visible, distinct, called⟩
  · rintro ⟨visible, distinct, called⟩
    exact ⟨⟨visible, distinct, called⟩, fun _ _ => List.not_mem_nil⟩

/-- What a step changes is not looked at. -/
private theorem stepProblems_checked {config checked : Config}
    (callDefects : ∀ step : Step, step.callDefect? checked = step.callDefect? config)
    (location : String) (index : Nat) (earlier : List String) (steps : List Step) :
    stepProblems checked location index earlier
        (steps.map fun step => { step with overrides := none }) =
      stepProblems config location index earlier steps := by
  induction steps generalizing index earlier with
  | nil => rfl
  | cons step rest ih =>
    have defects : Step.defects checked earlier { step with overrides := none } =
        step.defects config earlier := by
      rw [Step.defects, Step.defects, callDefects]
      rfl
    rw [List.map_cons, stepProblems, stepProblems, ih, defects]

/-! ## Problems of configurations -/

theorem Config.isSome_endpoint?_checkedPart (config : Config) (apiName endpointName : String) :
    (config.checkedPart.endpoint? apiName endpointName).isSome =
      (config.endpoint? apiName endpointName).isSome := by
  unfold endpoint?
  rw [checkedPart, OrderedMap.get?_mapValues]
  cases config.apis.get? apiName with
  | none => rfl
  | some api =>
    simp only [Option.map_some, Api.checkedPart, Option.bind_eq_bind, Option.bind_some,
      OrderedMap.get?_mapValues]
    cases api.endpoints.get? endpointName with
    | none => rfl
    | some endpoint => rfl

/-- Validation finds the same in the checked part as in the whole. -/
theorem Config.problems_checkedPart (config : Config) :
    config.checkedPart.problems = config.problems := by
  have callDefects : ∀ step : Step, step.callDefect? config.checkedPart = step.callDefect? config := by
    intro step
    simp only [Step.callDefect?, config.isSome_endpoint?_checkedPart]
  simp only [problems]
  congr 1
  · simp only [checkedPart, OrderedMap.mapValues, List.flatMap_map, Api.problems_checkedPart]
  · rw [show config.checkedPart.chains.entries = config.chains.entries.map fun entry =>
      (entry.1, entry.2.checkedPart) from rfl, List.flatMap_map]
    refine List.flatMap_congr fun entry _ => ?_
    exact stepProblems_checked callDefects _ 0 [] entry.2.steps

theorem Chain.templates_checkedPart (chain : Chain) : chain.checkedPart.templates = [] := by
  simp [templates, checkedPart, List.flatMap_map]

/-- The problems are those of texts that are no templates and of steps that cannot be called. -/
theorem Config.problems_eq_nil_iff (config : Config) :
    config.problems = [] ↔
      (∀ text ∈ config.checkedPart.templates, Template.Readable text) ∧
        ∀ chain ∈ config.chains.values, chain.Callable config := by
  have steps : config.checkedPart.chains.values.flatMap Chain.templates = [] := by
    refine List.flatMap_eq_nil_iff.mpr fun chain member => ?_
    obtain ⟨entry, inside, rfl⟩ := List.mem_map.mp member
    obtain ⟨original, held, rfl⟩ := List.mem_map.mp inside
    exact original.2.templates_checkedPart
  have profiles : config.checkedPart.profiles.values.flatMap ScalarMap.texts = [] := rfl
  rw [templates, steps, profiles, List.append_nil, List.append_nil, problems,
    List.append_eq_nil_iff, List.flatMap_eq_nil_iff, List.flatMap_eq_nil_iff]
  refine and_congr ?_ ?_
  · simp only [Api.problems_eq_nil_iff, List.forall_mem_flatMap, checkedPart, OrderedMap.values,
      OrderedMap.mapValues, List.forall_mem_map]
  · simp only [Chain.problems_eq_nil_iff, OrderedMap.values, List.forall_mem_map]

/-! ## What is left out -/

theorem ScalarMap.texts_scalars_sublist (entries : ScalarMap) :
    entries.scalars.texts.Sublist entries.texts :=
  ((List.filter_sublist (l := entries.entries)).map Prod.snd).filterMap renderScalar

theorem Endpoint.templates_checkedPart_sublist (endpoint : Endpoint) :
    endpoint.checkedPart.templates.Sublist endpoint.templates :=
  (((endpoint.headers.texts_scalars_sublist.cons_cons endpoint.path).append
    endpoint.params.texts_scalars_sublist).append (List.nil_sublist _)).append (List.nil_sublist _)

private theorem flatMap_values_sublist {α : Type} {part : α → α} {texts : α → List String}
    (fewer : ∀ value, (texts (part value)).Sublist (texts value)) (map : OrderedMap α) :
    ((map.mapValues part).values.flatMap texts).Sublist (map.values.flatMap texts) := by
  simp only [OrderedMap.values, OrderedMap.mapValues, List.flatMap_map]
  exact .flatMap_right _ fun entry _ => fewer entry.2

theorem Api.templates_checkedPart_sublist (api : Api) :
    api.checkedPart.templates.Sublist api.templates :=
  (((api.headers.texts_scalars_sublist.cons_cons api.baseUrl).append
    api.params.texts_scalars_sublist).append (List.nil_sublist _)).append
      (flatMap_values_sublist Endpoint.templates_checkedPart_sublist api.endpoints)

/-- The templates in the checked part are some of all templates. -/
theorem Config.templates_checkedPart_sublist (config : Config) :
    config.checkedPart.templates.Sublist config.templates := by
  refine ((flatMap_values_sublist Api.templates_checkedPart_sublist config.apis).append
    (List.nil_sublist _)).append (flatMap_values_sublist (fun chain => ?_) config.chains)
  rw [chain.templates_checkedPart]
  exact List.nil_sublist _

/-- A configuration has no problems exactly if the templates of its checked part can be read and its
steps can be called. All else has no influence on its problems. -/
theorem Config.problems_of_checkedPart (config : Config) :
    config.checkedPart.templates.Sublist config.templates ∧
      config.checkedPart.problems = config.problems ∧
      (config.problems = [] ↔
        (∀ text ∈ config.checkedPart.templates, Template.Readable text) ∧
          ∀ chain ∈ config.chains.values, chain.Callable config) :=
  ⟨config.templates_checkedPart_sublist, config.problems_checkedPart, config.problems_eq_nil_iff⟩

/-- A placeholder without a reference in the body of an endpoint is no problem, although it is a
template that cannot be read. -/
theorem Config.problems_omits_body :
    let body := "\x7b\x7b\x7d\x7d"
    let endpoint : Endpoint := { path := "/", body := some (.string body) }
    let config : Config := {
      apis := .ofList [("a", { baseUrl := "http://h", endpoints := .ofList [("e", endpoint)] })] }
    config.problems = [] ∧ body ∈ config.templates ∧ ¬Template.Readable body := by
  refine ⟨by decide +kernel, by decide +kernel, ?_⟩
  have unread : (Template.parse "\x7b\x7b\x7d\x7d").isOk = false := by decide +kernel
  rintro ⟨template, parsed⟩
  rw [parsed] at unread
  cases unread

end RequestChain
