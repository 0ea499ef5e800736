import Mathlib.Data.List.Basic
import Mathlib.Data.List.TakeWhile
import RequestChain.Context

/-! # The layers of a context

The scopes that an unqualified name is looked up in are layers, and the first layer with a value for
the name decides. Some layers can be named by a qualifier, which asks for one layer only. An entry
whose value is null is an entry, but it has no text, so a layer with such an entry decides nothing.
-/

namespace RequestChain

/-- The scopes that are looked up in by precedence. -/
inductive Layer where
  | cli
  | chain
  | endpoint
  | api
  | profile
  | env
  deriving DecidableEq, Repr

namespace Layer

/-- Every layer, the one that is asked first in front. -/
def precedence : List Layer := [cli, chain, endpoint, api, profile, env]

/-- The layers that are asked before this one. -/
def above (layer : Layer) : List Layer :=
  precedence.takeWhile (· ≠ layer)

/-- The layer that a qualifier names. Secrets are in no layer. -/
def ofScope? : Scope → Option Layer
  | .env => some env
  | .profile => some profile
  | .api => some api
  | .endpoint => some endpoint
  | .secret => none

theorem ne_of_mem_above {layer higher : Layer} (isAbove : higher ∈ layer.above) :
    higher ≠ layer := by
  have differs := List.mem_takeWhile_imp isAbove
  simpa using differs

end Layer

/-- The texts that the values of a map are rendered from. -/
def ScalarMap.texts (entries : ScalarMap) : List String :=
  entries.values.filterMap renderScalar

theorem renderScalar_eq_none_iff {value : Json} : renderScalar value = none ↔ value = .null := by
  cases value with
  | null => exact iff_of_true rfl rfl
  | bool _ | number _ | string _ | array _ | object _ => exact iff_of_false nofun nofun

namespace Context

/-- The entry of a name in a layer. -/
def entry? (context : Context) (layer : Layer) (name : String) : Option Json :=
  match layer with
  | .cli => (context.cli.get? name).map .string
  | .chain => context.chain.get? name
  | .endpoint => context.endpoint.get? name
  | .api => context.api.get? name
  | .profile => context.profile.get? name
  | .env => (context.env.get? name).map .string

/-- The text of a name in a layer. -/
def layerText? (context : Context) (layer : Layer) (name : String) : Option String :=
  (context.entry? layer name).bind renderScalar

/-- The texts of the values in all layers. -/
def texts (context : Context) : List String :=
  context.cli.values ++ context.chain.texts ++ context.endpoint.texts ++ context.api.texts ++
    context.profile.texts ++ context.env.values

private theorem bind_renderScalar_string (text? : Option String) :
    (text?.map Json.string).bind renderScalar = text? := by
  cases text? with
  | none => rfl
  | some text => rfl

/-- The first layer with a text for a name decides. -/
theorem lookup_eq_findSome? (context : Context) (name : String) :
    context.lookup name = Layer.precedence.findSome? (context.layerText? · name) := by
  have cons (layer : Layer) (rest : List Layer) :
      (layer :: rest).findSome? (context.layerText? · name) =
        (context.layerText? layer name).or (rest.findSome? (context.layerText? · name)) := by
    rw [List.findSome?_cons]
    cases context.layerText? layer name with
    | none => rfl
    | some text => rfl
  rw [Layer.precedence, cons, cons, cons, cons, cons, cons, List.findSome?_nil, Option.or_none]
  simp only [layerText?, entry?, bind_renderScalar_string]
  rfl

/-- A qualified name is looked up in its layer. -/
theorem lookupScoped_eq (context : Context) (scope : Scope) (name : String) :
    context.lookupScoped scope name =
      (Layer.ofScope? scope).bind (context.layerText? · name) := by
  cases scope with
  | env => exact (bind_renderScalar_string _).symm
  | profile | api | endpoint | secret => rfl

/-- A layer has no text for a name exactly if the name has no entry or a null one. -/
theorem layerText?_eq_none_iff {context : Context} {layer : Layer} {name : String} :
    context.layerText? layer name = none ↔
      ∀ value, context.entry? layer name = some value → value = .null := by
  unfold layerText?
  cases context.entry? layer name with
  | none => exact iff_of_true rfl nofun
  | some value =>
    rw [Option.bind_some, renderScalar_eq_none_iff]
    constructor
    · rintro isNull _ ⟨⟩
      exact isNull
    · intro entries
      exact entries value rfl

/-- A text of a layer is one of the texts of the context. -/
theorem mem_texts_of_layerText? {context : Context} {layer : Layer} {name text : String}
    (found : context.layerText? layer name = some text) : text ∈ context.texts := by
  have ofMap {entries : ScalarMap}
      (held : (entries.get? name).bind renderScalar = some text) : text ∈ entries.texts := by
    obtain ⟨value, hasValue, rendered⟩ := Option.bind_eq_some_iff.mp held
    exact List.mem_filterMap.mpr ⟨value, OrderedMap.mem_values_of_get? hasValue, rendered⟩
  have ofTexts {entries : OrderedMap String}
      (held : ((entries.get? name).map Json.string).bind renderScalar = some text) :
      text ∈ entries.values := by
    rw [bind_renderScalar_string] at held
    exact OrderedMap.mem_values_of_get? held
  simp only [texts, List.mem_append]
  cases layer with
  | cli => exact .inl (.inl (.inl (.inl (.inl (ofTexts found)))))
  | chain => exact .inl (.inl (.inl (.inl (.inr (ofMap found)))))
  | endpoint => exact .inl (.inl (.inl (.inr (ofMap found))))
  | api => exact .inl (.inl (.inr (ofMap found)))
  | profile => exact .inl (.inr (ofMap found))
  | env => exact .inr (ofTexts found)

theorem mem_texts_of_lookup {context : Context} {name text : String}
    (found : context.lookup name = some text) : text ∈ context.texts := by
  rw [lookup_eq_findSome?] at found
  obtain ⟨layer, -, hasText⟩ := List.exists_of_findSome?_eq_some found
  exact mem_texts_of_layerText? hasText

theorem mem_texts_of_lookupScoped {context : Context} {scope : Scope} {name text : String}
    (found : context.lookupScoped scope name = some text) : text ∈ context.texts := by
  rw [lookupScoped_eq] at found
  obtain ⟨layer, -, hasText⟩ := Option.bind_eq_some_iff.mp found
  exact mem_texts_of_layerText? hasText

section

variable {left right : Context} {name : String}

/-- Contexts with the same texts for a name in all layers give it the same text. -/
theorem lookup_congr (same : ∀ layer, left.layerText? layer name = right.layerText? layer name) :
    left.lookup name = right.lookup name := by
  rw [lookup_eq_findSome?, lookup_eq_findSome?]
  congr 1
  funext layer
  exact same layer

/-- A layer below one with a text does not matter for the name. -/
theorem lookup_congr_of_above {layer higher : Layer} (isAbove : higher ∈ layer.above)
    (hasText : left.layerText? higher name ≠ none)
    (same : ∀ other, other ≠ layer → left.layerText? other name = right.layerText? other name) :
    left.lookup name = right.lookup name := by
  have decided (context : Context) (held : context.layerText? higher name ≠ none) :
      context.lookup name = layer.above.findSome? (context.layerText? · name) := by
    rw [lookup_eq_findSome?,
      ← List.takeWhile_append_dropWhile (p := (· ≠ layer)) (l := Layer.precedence),
      List.findSome?_append]
    refine Option.or_of_isSome ?_
    rw [List.findSome?_isSome_iff]
    exact ⟨higher, isAbove, Option.isSome_iff_ne_none.mpr held⟩
  have sameHigher := same higher (Layer.ne_of_mem_above isAbove)
  rw [decided left hasText, decided right (sameHigher ▸ hasText), ← List.head?_filterMap,
    ← List.head?_filterMap]
  refine congrArg List.head? (List.filterMap_congr ?_)
  intro other othersAbove
  exact same other (Layer.ne_of_mem_above othersAbove)

end

end Context

end RequestChain
