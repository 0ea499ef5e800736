import RequestChain.Proofs.Assembly.Query
import RequestChain.Proofs.Resolve.Indirection
import RequestChain.Proofs.Resolve.Repetition

/-! # Which header and which parameter wins

The headers and the parameters of a request come from three maps, those of the API, of the endpoint
and of the step. The first two are merged before an entry can be left out: an entry of the endpoint
replaces its namesake even if it is null or comes to nothing. The entries of the step are added
afterwards, so that one which comes to nothing replaces nothing. Parameters are written behind the
address in the order of the three maps.
-/

namespace RequestChain

namespace OrderedMap

variable {α β : Type}

private theorem map_fst_filterMap (f : α → Option β) (entries : List (String × α)) :
    (entries.filterMap fun entry => (f entry.2).map (entry.1, ·)).map Prod.fst =
      (entries.filter fun entry => (f entry.2).isSome).map Prod.fst := by
  induction entries with
  | nil => rfl
  | cons entry rest ih =>
    rw [List.filterMap_cons, List.filter_cons]
    cases f entry.2 with
    | none => exact ih
    | some value => exact congrArg (entry.1 :: ·) ih

/-- The map with another value for each name, or without the name. -/
def filterMapValues (f : α → Option β) (map : OrderedMap α) : OrderedMap β :=
  ⟨map.entries.filterMap fun entry => (f entry.2).map (entry.1, ·), by
    rw [map_fst_filterMap]
    exact map.nodup.sublist (List.filter_sublist.map Prod.fst)⟩

/-- The names that keep a value, in their order. -/
theorem keys_filterMapValues (f : α → Option β) (map : OrderedMap α) :
    (map.filterMapValues f).keys = map.keys.filter fun name => ((map.get? name).bind f).isSome := by
  have valued : ∀ entry ∈ map.entries,
      (f entry.2).isSome = ((map.get? entry.1).bind f).isSome := by
    intro entry member
    rw [map.get?_of_mem member]
    rfl
  rw [keys, keys, List.filter_map]
  exact (map_fst_filterMap f map.entries).trans (congrArg _ (List.filter_congr valued))

theorem get?_filterMapValues (f : α → Option β) (map : OrderedMap α) (name : String) :
    (map.filterMapValues f).get? name = (map.get? name).bind f := by
  cases kept : (map.get? name).bind f with
  | none =>
    apply get?_eq_none_of_not_mem
    rw [keys_filterMapValues, List.mem_filter]
    rintro ⟨-, survives⟩
    rw [kept] at survives
    cases survives
  | some value =>
    obtain ⟨held, found, mapped⟩ := Option.bind_eq_some_iff.mp kept
    obtain ⟨before, after, shape, -⟩ := List.lookup_eq_some_iff.mp found
    have member : (name, value) ∈ (map.filterMapValues f).entries := by
      apply List.mem_filterMap.mpr
      refine ⟨(name, held), ?_, ?_⟩
      · rw [shape]
        simp
      · rw [mapped]
        rfl
    exact get?_of_mem _ member

/-- The entries are the names in order, with the values under them. -/
theorem entries_eq_filterMap_keys (map : OrderedMap α) :
    map.entries = map.keys.filterMap fun name => (map.get? name).map (name, ·) := by
  have found : ∀ entry ∈ map.entries, (map.get? entry.1).map (entry.1, ·) = some entry := by
    intro entry member
    rw [map.get?_of_mem member]
    rfl
  calc map.entries
      = map.entries.filterMap some := List.filterMap_some.symm
    _ = map.entries.filterMap fun entry => (map.get? entry.1).map (entry.1, ·) :=
      List.filterMap_congr fun entry member => (found entry member).symm
    _ = map.keys.filterMap fun name => (map.get? name).map (name, ·) := by
      rw [keys, List.filterMap_map]
      rfl

end OrderedMap

section

variable {σ : Type} (registry : Registry σ) (context : Context)

/-! ## The text of an entry -/

/-- The text that a value comes to, unless it is null or the entry is left out. -/
def keptText? (world : World σ) (value : Json) : Option String :=
  (renderScalar value).bind fun template =>
    match ((render registry context template).run world).1 with
    | .ok rendered => if shouldInclude rendered then some rendered.text else none
    | .error _ => none

/-- A value is null or has a rendering. -/
def HasRendering (world : World σ) (value : Json) : Prop :=
  ∀ template, renderScalar value = some template →
    ∃ rendered, ((render registry context template).run world).1 = .ok rendered

variable {registry context}

/-- If no answer depends on the past, entries that are rendered in turn come to what each of them
comes to in any world. -/
private theorem resolveKept_of_steady (steady : registry.Steady) (world : World σ)
    {entries : List (String × Json)} {before after : World σ} {kept : List (String × String)}
    (returned : (resolveKept registry context shouldInclude entries).run before =
      (.ok kept, after)) :
    (∀ entry ∈ entries, HasRendering registry context world entry.2) ∧
      kept = entries.filterMap fun entry =>
        (keptText? registry context world entry.2).map (entry.1, ·) := by
  induction entries generalizing before kept with
  | nil =>
    cases returned
    exact ⟨nofun, rfl⟩
  | cons entry rest ih =>
    obtain ⟨name, value⟩ := entry
    rw [resolveKept] at returned
    rw [List.forall_mem_cons, List.filterMap_cons]
    cases scalar : renderScalar value with
    | none =>
      rw [scalar] at returned
      obtain ⟨others, collected⟩ := ih returned
      refine ⟨⟨?_, others⟩, ?_⟩
      · intro template isTemplate
        rw [scalar] at isTemplate
        cases isTemplate
      · rw [keptText?, scalar]
        exact collected
    | some template =>
      rw [scalar] at returned
      obtain ⟨rendered, middle, isRendered, returned⟩ := Effect.of_run_bind_eq_ok returned
      obtain ⟨laterKept, last, returned, result⟩ := Effect.of_run_bind_eq_ok returned
      cases result
      obtain ⟨others, collected⟩ := ih returned
      have everywhere : ((render registry context template).run world).1 = .ok rendered := by
        rw [render_steady steady context template world before, isRendered]
      refine ⟨⟨?_, others⟩, ?_⟩
      · intro other isTemplate
        rw [scalar] at isTemplate
        cases isTemplate
        exact ⟨rendered, everywhere⟩
      · rw [keptText?, scalar, Option.bind_some, everywhere]
        dsimp only
        split
        · rw [collected]
          rfl
        · exact collected

/-- A map that is resolved keeps the texts of its values. -/
theorem resolveEntriesWithOptional_of_steady (steady : registry.Steady) (world : World σ)
    {entries : ScalarMap} {before after : World σ} {result : OrderedMap String}
    (returned : (resolveEntriesWithOptional registry context entries).run before =
      (.ok result, after)) :
    (∀ value ∈ entries.values, HasRendering registry context world value) ∧
      result = entries.filterMapValues (keptText? registry context world) := by
  obtain ⟨kept, middle, resolved, collected⟩ := Effect.of_run_bind_eq_ok returned
  cases collected
  obtain ⟨renderings, shape⟩ := resolveKept_of_steady steady world resolved
  constructor
  · intro value member
    obtain ⟨entry, isEntry, rfl⟩ := List.mem_map.mp member
    exact renderings entry isEntry
  · apply OrderedMap.ext
    rw [shape]
    exact OrderedMap.entries_ofList (entries.filterMapValues _).nodup

end

/-! ## Three maps -/

/-- The names with a text after the maps of API and endpoint are merged. -/
def inheritedNames (text? : Json → Option String) (api endpoint : ScalarMap) : List String :=
  (api.keys ++ endpoint.keys.filter (· ∉ api.keys)).filter fun name =>
    (((endpoint.get? name).or (api.get? name)).bind text?).isSome

/-- The texts under the names of three maps. -/
structure Layered (text? : Json → Option String) (api endpoint own : ScalarMap)
    (result : OrderedMap String) : Prop where
  /-- An override with a text wins. -/
  ofOwn : ∀ name text, (own.get? name).bind text? = some text → result.get? name = some text
  /-- Otherwise an entry of the endpoint decides, even if it has no text. -/
  ofEndpoint : ∀ name value, (own.get? name).bind text? = none →
    endpoint.get? name = some value → result.get? name = text? value
  /-- Otherwise an entry of the API decides. -/
  ofApi : ∀ name, (own.get? name).bind text? = none → endpoint.get? name = none →
    result.get? name = (api.get? name).bind text?
  /-- Inherited names keep their places, and those of new overrides come last. -/
  names : result.keys = inheritedNames text? api endpoint ++
    own.keys.filter fun name =>
      ((own.get? name).bind text?).isSome && name ∉ inheritedNames text? api endpoint

/-- Overrides that are added once the other maps have been merged and have texts. -/
theorem layered_union (text? : Json → Option String) (api endpoint own : ScalarMap) :
    Layered text? api endpoint own
      (((api.union endpoint).filterMapValues text?).union (own.filterMapValues text?)) := by
  have merged (name : String) :
      (((api.union endpoint).filterMapValues text?).union (own.filterMapValues text?)).get? name =
        ((own.get? name).bind text?).or
          (((endpoint.get? name).or (api.get? name)).bind text?) := by
    rw [OrderedMap.get?_union, OrderedMap.get?_filterMapValues, OrderedMap.get?_filterMapValues,
      OrderedMap.get?_union]
  have inherited :
      ((api.union endpoint).filterMapValues text?).keys = inheritedNames text? api endpoint := by
    rw [OrderedMap.keys_filterMapValues, OrderedMap.keys_union]
    simp only [OrderedMap.get?_union]
    rfl
  constructor
  · intro name text hasText
    rw [merged, hasText]
    rfl
  · intro name value noText held
    rw [merged, noText, held]
    rfl
  · intro name noText absent
    rw [merged, noText, absent]
    rfl
  · rw [OrderedMap.keys_union, inherited, OrderedMap.keys_filterMapValues, List.filter_filter]
    congr 2
    funext name
    exact Bool.and_comm _ _

/-! ## Requests -/

section

variable {σ : Type} (registry : Registry σ) (context : Context)

/-- The URL of a request in front of its parameters. -/
def resolveAddress (api : Api) (endpoint : Endpoint) (changes : Overrides) : Resolving σ String := do
  let pathParams ← resolveEntries registry context changes.pathParams
  let baseUrl ← PathParams.resolveWith registry context api.baseUrl pathParams
  let path ← PathParams.resolveWith registry context endpoint.path pathParams
  return joinUrl baseUrl path

/-- The headers and parameters of a request that is assembled in a world. -/
structure AssembledFrom (world : World σ) (api : Api) (endpoint : Endpoint) (changes : Overrides)
    (request : Request) : Prop where
  /-- No entry is missing for want of a rendering. -/
  renderings : ∀ value ∈ (mergeHeaders api endpoint).values ++ (mergeParams api endpoint).values ++
    changes.headers.values ++ changes.params.values, HasRendering registry context world value
  headers : Layered (keptText? registry context world) api.headers endpoint.headers changes.headers
    request.headers
  /-- The parameters are written behind the address. -/
  params : ∃ address params,
    ((resolveAddress registry context api endpoint changes).run world).1 = .ok address ∧
    Layered (keptText? registry context world) api.params endpoint.params changes.params params ∧
    request.url = appendQuery address params ∧ WrittenBehind address params request.url

variable {registry}

/-- Overrides win over entries of the endpoint, and these over entries of the API, even if they have
no text. Overrides without any entries are like none. -/
theorem assemble_layered (steady : registry.Steady) (api : Api) (endpoint : Endpoint)
    (overrides : Option Overrides) (world : World σ) :
    (∀ request after,
      (assemble registry context api endpoint overrides).run world = (.ok request, after) →
        AssembledFrom registry context world api endpoint (overrides.getD {}) request) ∧
    assemble registry context api endpoint (some {}) = assemble registry context api endpoint none := by
  constructor
  · intro request after returned
    generalize changed : overrides.getD {} = changes
    rw [assemble, changed] at returned
    obtain ⟨pathParams, world₁, hasPathParams, returned⟩ := Effect.of_run_bind_eq_ok returned
    obtain ⟨baseUrl, world₂, hasBaseUrl, returned⟩ := Effect.of_run_bind_eq_ok returned
    obtain ⟨path, world₃, hasPath, returned⟩ := Effect.of_run_bind_eq_ok returned
    obtain ⟨headers, world₄, hasHeaders, returned⟩ := Effect.of_run_bind_eq_ok returned
    obtain ⟨params, world₅, hasParams, returned⟩ := Effect.of_run_bind_eq_ok returned
    obtain ⟨ownHeaders, world₆, hasOwnHeaders, returned⟩ := Effect.of_run_bind_eq_ok returned
    obtain ⟨ownParams, world₇, hasOwnParams, returned⟩ := Effect.of_run_bind_eq_ok returned
    obtain ⟨body, world₈, -, returned⟩ := Effect.of_run_bind_eq_ok returned
    rw [Effect.run_pure, Prod.mk.injEq, Except.ok.injEq] at returned
    obtain ⟨rfl, -⟩ := returned
    -- Each map is resolved in a world of its own, but all come to what they come to in `world`.
    obtain ⟨headerTexts, rfl⟩ := resolveEntriesWithOptional_of_steady steady world hasHeaders
    obtain ⟨paramTexts, rfl⟩ := resolveEntriesWithOptional_of_steady steady world hasParams
    obtain ⟨ownHeaderTexts, rfl⟩ := resolveEntriesWithOptional_of_steady steady world hasOwnHeaders
    obtain ⟨ownParamTexts, rfl⟩ := resolveEntriesWithOptional_of_steady steady world hasOwnParams
    have address : ((resolveAddress registry context api endpoint changes).run world).1 =
        .ok (joinUrl baseUrl path) := by
      rw [resolveAddress, Effect.run_bind_of_ok hasPathParams, Effect.run_bind_of_ok hasBaseUrl,
        Effect.run_bind_of_ok hasPath]
      rfl
    constructor
    · simp only [List.forall_mem_append]
      exact ⟨⟨⟨headerTexts, paramTexts⟩, ownHeaderTexts⟩, ownParamTexts⟩
    · exact layered_union _ _ _ _
    · exact ⟨_, _, address, layered_union _ _ _ _, rfl, appendQuery_writtenBehind _ _⟩
  · rfl

/-- An override that is left out and an entry of the endpoint that is null, and parameters of all
three maps. -/
theorem assemble_layered_dropped :
    let api : Api := {
      baseUrl := "http://h"
      headers := .ofList [("Accept", .string "json"), ("X-Trace", .string "on")]
      params := .ofList [("lang", .string "en"), ("page", .string "1")] }
    let endpoint : Endpoint := {
      path := "/"
      headers := .ofList [("X-Trace", .null)]
      params := .ofList [("page", .null), ("size", .string "10")] }
    let changes : Overrides := {
      headers := .ofList [("Accept", .string "\x7b\x7bmissing?\x7d\x7d")]
      params := .ofList [("q", .string "a b&c"), ("lang", .string "de")] }
    (Registry.empty : Registry Unit).Steady ∧
    ∃ request after,
      (assemble (Registry.empty : Registry Unit) {} api endpoint (some changes)).run
        { host := () } = (.ok request, after) ∧
      request.headers.get? "Accept" = some "json" ∧ request.headers.get? "X-Trace" = none ∧
      request.url = "http://h/?lang=de&size=10&q=a+b%26c" := by
  intro api endpoint changes
  have steady : (Registry.empty : Registry Unit).Steady := ⟨nofun, nofun, nofun⟩
  have succeeds : ((assemble (Registry.empty : Registry Unit) {} api endpoint (some changes)).run
      { host := () }).1.isOk = true := by decide +kernel
  have located : ((resolveAddress (Registry.empty : Registry Unit) {} api endpoint changes).run
      { host := () }).1 = .ok "http://h/" := by decide +kernel
  refine ⟨steady, ?_⟩
  rcases ran : (assemble (Registry.empty : Registry Unit) {} api endpoint (some changes)).run
    { host := () } with ⟨error | request, after⟩
  · rw [ran] at succeeds
    cases succeeds
  · have assembled :=
      (assemble_layered {} steady api endpoint (some changes) { host := () }).1 request after ran
    refine ⟨request, after, rfl, ?_, ?_, ?_⟩
    · rw [assembled.headers.ofApi "Accept" (by decide +kernel) rfl]
      decide +kernel
    · rw [assembled.headers.ofEndpoint "X-Trace" .null rfl rfl]
      rfl
    · obtain ⟨address, params, isAddress, layered, -, written⟩ := assembled.params
      obtain rfl := Except.ok.inj (isAddress.symm.trans located)
      have names : params.keys = ["lang", "size", "q"] := layered.names.trans (by decide +kernel)
      have lang := layered.ofOwn "lang" "de" (by decide +kernel)
      have size : params.get? "size" = some "10" :=
        (layered.ofEndpoint "size" (.string "10") (by decide +kernel) rfl).trans (by decide +kernel)
      have q := layered.ofOwn "q" "a b&c" (by decide +kernel)
      have entries : params.entries = [("lang", "de"), ("size", "10"), ("q", "a b&c")] := by
        rw [params.entries_eq_filterMap_keys, names]
        simp [lang, size, q]
      have text := written.text (by rw [entries]; decide)
      rw [entries] at text
      exact String.toList_inj.mp (text.trans (by decide +kernel))

end

end RequestChain
