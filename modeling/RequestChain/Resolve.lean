import RequestChain.Context
import RequestChain.Plugin.Registry

/-! # Resolution of templates

The placeholders of a template are filled from left to right. The arguments of a call are rendered
before the call, and no collaborator is asked before the one in front of it has answered. Values
of variables may hold placeholders themselves and are expanded to a limited depth; what plugins,
secrets and recorded steps give is used as it is.
-/

namespace RequestChain

/-- How deep values may expand into further placeholders. -/
def maxDepth : Nat := 10

/-- Why a template has no rendering. -/
inductive ResolutionError where
  | unresolved (name : String)
  | template (error : TemplateError)
  | unknownPlugin (reference plugin : String)
  | unknownPluginMember (reference plugin member : String)
  | pluginFailed (reference : String) (failure : Failure)
  | secretFailed (reference : String) (failure : Failure)
  | depthExceeded (reference : String)
  deriving DecidableEq, Repr

namespace ResolutionError

/-- The text of the reference that has no value. -/
def reference : ResolutionError → String
  | unresolved name => name
  | template .emptyReference => ""
  | template (.malformed reference _) => reference
  | unknownPlugin reference _ | unknownPluginMember reference _ _ | pluginFailed reference _
  | secretFailed reference _ | depthExceeded reference => reference

/-- The wording of an error. -/
def message : ResolutionError → String
  | unresolved name => "variable '" ++ name ++ "' is not defined in any scope"
  | template .emptyReference =>
    "malformed template reference '': " ++ TemplateError.emptyReference.message
  | template (.malformed reference cause) =>
    "malformed template reference '" ++ reference ++ "': " ++ cause.message
  | unknownPlugin reference plugin =>
    "plugin '" ++ plugin ++ "' is not registered (referenced by '" ++ reference ++ "')"
  | unknownPluginMember reference plugin member =>
    "plugin '" ++ plugin ++ "' has no member '" ++ member ++ "' (referenced by '" ++ reference ++
      "')"
  | pluginFailed reference failure =>
    "plugin reference '" ++ reference ++ "' failed: " ++ failure.message
  | secretFailed reference failure =>
    "secret '" ++ reference ++ "' could not be read: " ++ failure.message
  | depthExceeded reference =>
    "template nesting exceeded " ++ toString maxDepth ++ " levels while resolving '" ++
      reference ++ "'"

/-- The errors that mean that something is not defined. -/
def isUndefined : ResolutionError → Bool
  | unresolved _ | unknownPlugin _ _ | unknownPluginMember _ _ _ => true
  | _ => false

end ResolutionError

/-- A rendered text and how its optional references fared. -/
structure Rendered where
  text : String := ""
  /-- How many references of the template itself are optional. -/
  optionalReferences : Nat := 0
  /-- How many of these are undefined. -/
  undefinedOptional : Nat := 0
  deriving DecidableEq, Repr, Inhabited

namespace Rendered

/-- A text without references. -/
def literal (text : String) : Rendered :=
  { text }

/-- Two renderings in a row. -/
def append (left right : Rendered) : Rendered :=
  { text := left.text ++ right.text
    optionalReferences := left.optionalReferences + right.optionalReferences
    undefinedOptional := left.undefinedOptional + right.undefinedOptional }

instance : Append Rendered := ⟨append⟩

/-- How many optional references have a value. -/
def definedOptional (rendered : Rendered) : Nat :=
  rendered.optionalReferences - rendered.undefinedOptional

/-- The rendering of one reference that has a value or may do without. -/
def ofReference (optional : Bool) (value : Option String) : Rendered :=
  { text := value.getD ""
    optionalReferences := if optional then 1 else 0
    undefinedOptional := if value.isNone then 1 else 0 }

end Rendered

/-- An effect of resolution. -/
abbrev Resolving (σ α : Type) := Effect (World σ) ResolutionError α

/-- Expands the text of a value, found under a reference at some depth. -/
abbrev Expander (σ : Type) := Nat → Reference → String → Resolving σ (Option String)

section Lookup

variable {σ : Type} (registry : Registry σ) (context : Context)

/-- A plugin or a member that is not registered is undefined. -/
def missingMember (reference : Reference) (plugin member : String) :
    Resolving σ (Option String) :=
  if reference.optional then pure none
  else if !registry.containsPlugin plugin then
    Effect.fail (.unknownPlugin reference.raw plugin)
  else Effect.fail (.unknownPluginMember reference.raw plugin member)

/-- The value of a plugin's variable. -/
def callVariable (reference : Reference) (plugin member : String) :
    Resolving σ (Option String) :=
  match registry.variableSource? plugin member with
  | none => missingMember registry reference plugin member
  | some source => do
    let value ← source.mapError (.pluginFailed reference.raw)
    return renderScalar value

/-- The value of a plugin's function for its arguments. -/
def callFunction (reference : Reference) (plugin function : String) (arguments : List String) :
    Resolving σ (Option String) :=
  match registry.functionSource? plugin function with
  | none => missingMember registry reference plugin function
  | some source => do
    let value ← (source arguments).mapError (.pluginFailed reference.raw)
    return renderScalar value

/-- The first text that one of the resolvers finds. -/
def firstSecret (reference : Reference) (name : String) :
    List (String × SecretResolver σ) → Resolving σ (Option String)
  | [] => pure none
  | (_, resolver) :: rest => do
    match ← (resolver name).mapError (.secretFailed reference.raw) with
    | some value => pure (some value)
    | none => firstSecret reference name rest

variable (expand : Expander σ)

/-- The value of a reference from its text in a scope; only texts with placeholders expand. -/
def expandValue (depth : Nat) (reference : Reference) (value : Option String) :
    Resolving σ (Option String) :=
  match value with
  | none => pure none
  | some text =>
    if Template.containsPlaceholder text then expand depth reference text else pure (some text)

mutual

/-- The rendering of a segment. -/
def renderSegment (depth : Nat) : Segment → Resolving σ Rendered
  | .literal text => pure (.literal text)
  | .placeholder reference => do
    let value ← lookupReference depth reference
    if value.isNone && !reference.optional then Effect.fail (.unresolved reference.raw)
    else pure (.ofReference reference.optional value)

/-- The value of a reference. -/
def lookupReference (depth : Nat) : Reference → Resolving σ (Option String)
  | .mk raw optional target => lookupTarget depth (.mk raw optional target) target

/-- The value of what a reference refers to. -/
def lookupTarget (depth : Nat) (reference : Reference) : Target → Resolving σ (Option String)
  | .variable name => expandValue expand depth reference (context.lookup name)
  | .scoped .secret name => firstSecret reference name registry.secretResolvers
  | .scoped scope name => expandValue expand depth reference (context.lookupScoped scope name)
  | .pluginVariable plugin member => callVariable registry reference plugin member
  | .pluginCall plugin function arguments => do
    let values ← renderArguments (depth + 1) arguments
    callFunction registry reference plugin function values
  | .step id path => pure ((context.stepValue id path).bind renderScalar)

/-- The texts of arguments, from left to right. -/
def renderArguments (depth : Nat) : List (List Segment) → Resolving σ (List String)
  | [] => pure []
  | argument :: rest => do
    let rendered ← renderSegments depth argument
    let texts ← renderArguments depth rest
    return rendered.text :: texts

/-- The rendering of a template, from left to right. -/
def renderSegments (depth : Nat) : List Segment → Resolving σ Rendered
  | [] => pure {}
  | segment :: rest => do
    let first ← renderSegment depth segment
    let others ← renderSegments depth rest
    return first ++ others

end

/-- A name in a scope that the context holds. -/
theorem lookupTarget_scoped (depth : Nat) (reference : Reference) {scope : Scope} (name : String)
    (held : scope ≠ .secret) :
    lookupTarget registry context expand depth reference (.scoped scope name) =
      expandValue expand depth reference (context.lookupScoped scope name) := by
  rw [lookupTarget]
  exact fun secret => held secret

end Lookup

section Render

variable {σ : Type} (registry : Registry σ) (context : Context)

/-- Expands a value whose text may hold placeholders, at most so many levels. Under an optional
reference a value with an undefined reference inside is undefined itself. -/
def expandWithin : Nat → Expander σ
  | 0 => fun _ reference _ => Effect.fail (.depthExceeded reference.raw)
  | levels + 1 => fun depth reference text =>
    if maxDepth ≤ depth + 1 then Effect.fail (.depthExceeded reference.raw)
    else do
      let nested ← Effect.ofExcept ((Template.parse text).mapError .template)
      let expanded := do
        let rendered ← renderSegments registry context (expandWithin levels) (depth + 1) nested
        return some rendered.text
      expanded.recover fun error =>
        if reference.optional && error.isUndefined then some none else none

/-- The rendering of a template that stands on its own. -/
def renderTemplate (template : Template) : Resolving σ Rendered :=
  renderSegments registry context (expandWithin registry context maxDepth) 0 template

/-- The rendering of a text as a template. -/
def render (text : String) : Resolving σ Rendered :=
  if Template.containsPlaceholder text then do
    let template ← Effect.ofExcept ((Template.parse text).mapError .template)
    renderTemplate registry context template
  else pure (.literal text)

/-- One level of expansion of a text that is a template. -/
theorem expandWithin_of_parsed {levels depth : Nat} {reference : Reference} {text : String}
    {template : Template} (shallow : ¬maxDepth ≤ depth + 1)
    (parsed : Template.parse text = .ok template) :
    expandWithin registry context (levels + 1) depth reference text =
      (do
        let rendered ←
          renderSegments registry context (expandWithin registry context levels) (depth + 1) template
        return some rendered.text).recover fun error =>
          if reference.optional && error.isUndefined then some none else none := by
  simp only [expandWithin, if_neg shallow, parsed]
  rfl

theorem render_of_plain {text : String} (plain : Template.containsPlaceholder text = false) :
    render registry context text = pure (.literal text) := by
  simp [render, plain]

theorem render_of_malformed {text : String} {error : TemplateError}
    (expands : Template.containsPlaceholder text = true)
    (malformed : Template.parse text = .error error) :
    render registry context text = Effect.fail (.template error) := by
  simp only [render, if_pos expands, malformed]
  rfl

theorem render_of_parsed {text : String} {template : Template}
    (expands : Template.containsPlaceholder text = true)
    (parsed : Template.parse text = .ok template) :
    render registry context text = renderTemplate registry context template := by
  simp only [render, if_pos expands, parsed]
  rfl

/-- The rendered text of a template. -/
def resolve (text : String) : Resolving σ String := do
  let rendered ← render registry context text
  return rendered.text

mutual

/-- A value with every string in it resolved; names of fields and other scalars stay. -/
def resolveValue : Json → Resolving σ Json
  | .string text => do return .string (← resolve registry context text)
  | .array items => do return .array (← resolveItems items)
  | .object fields => do return .object (← resolveFields fields)
  | .null => pure .null
  | .bool value => pure (.bool value)
  | .number value => pure (.number value)

/-- The items of an array resolved in order. -/
def resolveItems : List Json → Resolving σ (List Json)
  | [] => pure []
  | item :: rest => do
    let first ← resolveValue item
    let others ← resolveItems rest
    return first :: others

/-- The fields of an object resolved in order. -/
def resolveFields : List (String × Json) → Resolving σ (List (String × Json))
  | [] => pure []
  | (name, value) :: rest => do
    let first ← resolveValue value
    let others ← resolveFields rest
    return (name, first) :: others

end

end Render

end RequestChain
