import RequestChain.Assembly
import RequestChain.Proofs.Resolve.Lookups
import RequestChain.Proofs.Resolve.Moves

/-! # The texts of a request

The texts that the assembly of a request renders, in order, are known beforehand: those of the path
parameters, of the URL with tokens in place of these, of the headers and parameters, and of the
body. Assembly fails exactly where the rendering of one of them does, and what it looks up is what
they look up.
-/

namespace RequestChain

/-- The names of a map that have values, with the texts of these. -/
def ScalarMap.templates : List (String × Json) → List (String × String)
  | [] => []
  | (name, value) :: rest =>
    match renderScalar value with
    | none => templates rest
    | some template => (name, template) :: templates rest

theorem ScalarMap.templates_sublist (entries : List (String × Json)) :
    ((templates entries).map Prod.fst).Sublist (entries.map Prod.fst) := by
  induction entries with
  | nil => exact .slnil
  | cons entry rest ih =>
    obtain ⟨name, value⟩ := entry
    rw [templates]
    cases renderScalar value with
    | none => exact ih.cons name
    | some template => exact ih.cons_cons name

mutual

/-- The strings in a value, from left to right. -/
def Json.texts : Json → List String
  | .string text => [text]
  | .array items => itemTexts items
  | .object fields => fieldTexts fields
  | .null | .bool _ | .number _ => []

/-- The strings in the items of an array. -/
def Json.itemTexts : List Json → List String
  | [] => []
  | item :: rest => item.texts ++ itemTexts rest

/-- The strings in the fields of an object. -/
def Json.fieldTexts : List (String × Json) → List String
  | [] => []
  | (_, value) :: rest => value.texts ++ fieldTexts rest

end

/-- A URL template with tokens in place of the parameters of these names. -/
def PathParams.masked (names : List String) (template : String) : String :=
  if names.isEmpty then template
  else apply template (.ofList (names.zipIdx.map fun (name, index) => (name, token index)))

/-- The texts of the request of an endpoint, in the order in which they are rendered. -/
def assembledTexts (api : Api) (endpoint : Endpoint) (overrides : Option Overrides) :
    List String :=
  let changes := overrides.getD {}
  let pathParams := ScalarMap.templates changes.pathParams.entries
  let names := pathParams.map Prod.fst
  let kept (entries : ScalarMap) := (ScalarMap.templates entries.entries).map Prod.snd
  pathParams.map Prod.snd ++ [PathParams.masked names api.baseUrl] ++
    [PathParams.masked names endpoint.path] ++ kept (mergeHeaders api endpoint) ++
    kept (mergeParams api endpoint) ++ kept changes.headers ++ kept changes.params ++
    (changes.body.or endpoint.body).elim [] Json.texts

section

variable {σ : Type} (registry : Registry σ) (context : Context)

/-- Renders one text after the other. -/
def renderTexts : List String → Resolving σ Unit
  | [] => pure ()
  | text :: rest => do
    let _ ← render registry context text
    renderTexts rest

/-- What texts look up that are rendered one after the other. -/
def textsLookups : List String → World σ → List Lookup
  | [], _ => []
  | text :: rest, world =>
    renderLookups registry context text world ++
      (render registry context text).whenReturned (textsLookups rest) world

/-- What the assembly of a request looks up. -/
def assemblyLookups (api : Api) (endpoint : Endpoint) (overrides : Option Overrides)
    (world : World σ) : List Lookup :=
  textsLookups registry context (assembledTexts api endpoint overrides) world

/-- An effect fails and leaves a world just as the rendering of texts does. -/
def Renders {α : Type} (texts : List String) (effect : Resolving σ α) : Prop :=
  ∀ world, (renderTexts registry context texts).run world =
    ((effect.run world).1.map fun _ => (), (effect.run world).2)

end

section

variable {σ α β : Type} {registry : Registry σ} {context : Context}

theorem renderTexts_append (texts others : List String) :
    renderTexts registry context (texts ++ others) =
      (renderTexts registry context texts >>= fun _ => renderTexts registry context others) := by
  induction texts with
  | nil => rfl
  | cons text rest ih => rw [List.cons_append, renderTexts, renderTexts, ih, bind_assoc]

namespace Renders

theorem pure (value : α) : Renders registry context [] (pure value : Resolving σ α) :=
  fun _ => rfl

theorem bind {texts others : List String} {effect : Resolving σ α} {next : α → Resolving σ β}
    (first : Renders registry context texts effect)
    (rest : ∀ world value after, effect.run world = (.ok value, after) →
      Renders registry context others (next value)) :
    Renders registry context (texts ++ others) (effect >>= next) := by
  intro world
  have rendered := first world
  rw [renderTexts_append]
  cases ran : effect.run world with
  | mk outcome after =>
  rw [ran] at rendered
  cases outcome with
  | error error =>
    rw [Effect.run_bind_of_error rendered, Effect.run_bind_of_error ran]
    rfl
  | ok value =>
    rw [Effect.run_bind_of_ok rendered, Effect.run_bind_of_ok ran]
    exact rest world value after ran after

/-- What becomes of a value that was returned has no effect. -/
theorem map {texts : List String} {effect : Resolving σ α} (f : α → β)
    (renders : Renders registry context texts effect) :
    Renders registry context texts (do return f (← effect)) := by
  have mapped := renders.bind fun _ value _ _ => .pure (f value)
  rwa [List.append_nil] at mapped

end Renders

theorem render_renders (text : String) :
    Renders registry context [text] (render registry context text) := by
  intro world
  rw [renderTexts, Effect.run_bind]
  rcases (render registry context text).run world with ⟨error | rendered, after⟩
  · rfl
  · rfl

theorem resolve_renders (text : String) :
    Renders registry context [text] (resolve registry context text) :=
  (render_renders text).map Rendered.text

mutual

theorem resolveValue_renders : ∀ value : Json,
    Renders registry context value.texts (resolveValue registry context value)
  | .string text => by
    rw [resolveValue, Json.texts]
    exact (resolve_renders text).map _
  | .array items => by
    rw [resolveValue, Json.texts]
    exact (resolveItems_renders items).map _
  | .object fields => by
    rw [resolveValue, Json.texts]
    exact (resolveFields_renders fields).map _
  | .null => by
    rw [resolveValue, Json.texts]
    exact .pure _
  | .bool value => by
    rw [resolveValue, Json.texts]
    exact .pure _
  | .number value => by
    rw [resolveValue, Json.texts]
    exact .pure _

theorem resolveItems_renders : ∀ items : List Json,
    Renders registry context (Json.itemTexts items) (resolveItems registry context items)
  | [] => by
    rw [resolveItems, Json.itemTexts]
    exact .pure _
  | item :: rest => by
    rw [resolveItems, Json.itemTexts]
    exact (resolveValue_renders item).bind fun _ _ _ _ => (resolveItems_renders rest).map _

theorem resolveFields_renders : ∀ fields : List (String × Json),
    Renders registry context (Json.fieldTexts fields) (resolveFields registry context fields)
  | [] => by
    rw [resolveFields, Json.fieldTexts]
    exact .pure _
  | (name, value) :: rest => by
    rw [resolveFields, Json.fieldTexts]
    exact (resolveValue_renders value).bind fun _ _ _ _ => (resolveFields_renders rest).map _

end

theorem resolveBody_renders (body : Option Json) :
    Renders registry context (body.elim [] Json.texts) (resolveBody registry context body) := by
  cases body with
  | none => exact .pure none
  | some template => exact (resolveValue_renders template).map _

theorem resolveKept_renders (keep : Rendered → Bool) (entries : List (String × Json)) :
    Renders registry context ((ScalarMap.templates entries).map Prod.snd)
      (resolveKept registry context keep entries) := by
  induction entries with
  | nil => exact .pure []
  | cons entry rest ih =>
    obtain ⟨name, value⟩ := entry
    rw [resolveKept, ScalarMap.templates]
    cases renderScalar value with
    | none => exact ih
    | some template => exact (render_renders template).bind fun _ _ _ _ => ih.map _

/-- Every entry with a value is in the result if all are to be kept. -/
theorem names_of_resolveKept {entries : List (String × Json)} {world after : World σ}
    {kept : List (String × String)}
    (returned : (resolveKept registry context (fun _ => true) entries).run world =
      (.ok kept, after)) :
    kept.map Prod.fst = (ScalarMap.templates entries).map Prod.fst := by
  induction entries generalizing world kept with
  | nil =>
    cases returned
    rfl
  | cons entry rest ih =>
    obtain ⟨name, value⟩ := entry
    rw [resolveKept] at returned
    rw [ScalarMap.templates]
    cases scalar : renderScalar value with
    | none =>
      rw [scalar] at returned
      exact ih returned
    | some template =>
      rw [scalar] at returned
      obtain ⟨rendered, middle, -, returned⟩ := Effect.of_run_bind_eq_ok returned
      obtain ⟨others, last, returned, result⟩ := Effect.of_run_bind_eq_ok returned
      cases result
      exact congrArg (name :: ·) (ih returned)

/-- The names of the path parameters are known beforehand. -/
theorem keys_of_resolveEntries {entries : ScalarMap} {world after : World σ}
    {params : OrderedMap String}
    (returned : (resolveEntries registry context entries).run world = (.ok params, after)) :
    params.keys = (ScalarMap.templates entries.entries).map Prod.fst := by
  obtain ⟨kept, middle, returned, result⟩ := Effect.of_run_bind_eq_ok returned
  cases result
  have names := names_of_resolveKept returned
  have distinct : (kept.map Prod.fst).Nodup :=
    names ▸ entries.nodup.sublist (ScalarMap.templates_sublist entries.entries)
  rw [OrderedMap.ofList, OrderedMap.keys_extend _ _ (by simpa using distinct)]
  simpa using names

theorem resolveWith_renders (template : String) {params : OrderedMap String} {names : List String}
    (keys : params.keys = names) :
    Renders registry context [PathParams.masked names template]
      (PathParams.resolveWith registry context template params) := by
  subst keys
  have empty : params.keys.isEmpty = params.isEmpty := by
    simp [OrderedMap.keys, OrderedMap.isEmpty]
  unfold PathParams.resolveWith PathParams.masked
  rw [empty]
  split
  · exact resolve_renders template
  · exact (resolve_renders _).map _

/-- Assembly renders the texts of the request. -/
theorem assemble_renders (api : Api) (endpoint : Endpoint) (overrides : Option Overrides) :
    Renders registry context (assembledTexts api endpoint overrides)
      (assemble registry context api endpoint overrides) := by
  have kept keep (entries : ScalarMap) :
      Renders registry context ((ScalarMap.templates entries.entries).map Prod.snd)
        (resolveKept registry context keep entries.entries) := resolveKept_renders keep entries.entries
  unfold assembledTexts assemble
  simp only [List.append_assoc]
  -- The URL texts depend on the path parameters that were returned, but only on their names.
  refine ((kept _ _).map _).bind fun _ pathParams _ returned => ?_
  have keys := keys_of_resolveEntries returned
  refine (resolveWith_renders api.baseUrl keys).bind fun _ baseUrl _ _ => ?_
  refine (resolveWith_renders endpoint.path keys).bind fun _ path _ _ => ?_
  refine ((kept _ _).map _).bind fun _ headers _ _ => ?_
  refine ((kept _ _).map _).bind fun _ params _ _ => ?_
  refine ((kept _ _).map _).bind fun _ ownHeaders _ _ => ?_
  refine ((kept _ _).map _).bind fun _ ownParams _ _ => ?_
  exact (resolveBody_renders _).map _

/-! ## What assembly does to worlds -/

theorem renderTexts_moves {direction : Direction (World σ)} (sources : registry.Moves direction)
    (texts : List String) : (renderTexts registry context texts).Moves direction := by
  induction texts with
  | nil => exact .pure ()
  | cons text rest ih => exact .bind (render_moves sources text) fun _ => ih

/-- The assembly of a request moves worlds as the sources that it asks do. -/
theorem assemble_moves {direction : Direction (World σ)} (sources : registry.Moves direction)
    (api : Api) (endpoint : Endpoint) (overrides : Option Overrides) :
    (assemble registry context api endpoint overrides).Moves direction := by
  intro world
  have moves : (renderTexts registry context (assembledTexts api endpoint overrides)).Moves
      direction := renderTexts_moves sources _
  have moved := moves world
  rwa [assemble_renders] at moved

/-! ## Steps that have no record -/

theorem renderTexts_of_unmet {texts : List String} {world : World σ} {lookup : Lookup}
    (reached : lookup ∈ textsLookups registry context texts world)
    (unmet : lookup.Unmet context) :
    ((renderTexts registry context texts).run world).1 =
      .error (.unresolved lookup.reference.raw) := by
  induction texts generalizing world with
  | nil => cases reached
  | cons text rest ih =>
    rw [renderTexts]
    cases List.mem_append.mp reached with
    | inl first => exact Effect.run_bind_fst_of_error (render_of_unmet first unmet) _
    | inr later =>
      obtain ⟨rendered, after, returned, reachedLater⟩ := Effect.mem_whenReturned.mp later
      rw [Effect.run_bind_of_ok returned]
      exact ih reachedLater

/-- A request in which an unmet reference is reached is not assembled. -/
theorem assemble_of_unmet {api : Api} {endpoint : Endpoint} {overrides : Option Overrides}
    {world : World σ} {lookup : Lookup}
    (reached : lookup ∈ assemblyLookups registry context api endpoint overrides world)
    (unmet : lookup.Unmet context) :
    ((assemble registry context api endpoint overrides).run world).1 =
      .error (.unresolved lookup.reference.raw) := by
  have failed := renderTexts_of_unmet reached unmet
  rw [assemble_renders] at failed
  cases outcome : ((assemble registry context api endpoint overrides).run world).1 with
  | error error =>
    rw [outcome] at failed
    cases failed
    rfl
  | ok request =>
    rw [outcome] at failed
    cases failed

end

end RequestChain
