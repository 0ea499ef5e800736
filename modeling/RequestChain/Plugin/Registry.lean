import RequestChain.Plugin.Basic
import RequestChain.Template.Parser

/-! # The registry of plugins

Plugins are installed one after the other. Sources are found by the name of their plugin and their
own; resolvers of secrets and hooks are kept in the order of registration, with the name of the
plugin that they belong to.
-/

namespace RequestChain

/-- The sources of one plugin. -/
structure PluginSources (σ : Type) where
  variableSources : OrderedMap (VariableSource σ) := .empty
  functionSources : OrderedMap (FunctionSource σ) := .empty

/-- What the installed plugins offer. -/
structure Registry (σ : Type) where
  plugins : OrderedMap (PluginSources σ) := .empty
  secretResolvers : List (String × SecretResolver σ) := []
  preRequestHooks : List (String × PreRequestHook σ) := []
  postResponseHooks : List (String × PostResponseHook σ) := []

/-- Why a plugin cannot be installed. -/
inductive RegistryError where
  | duplicatePlugin (name : String)
  | invalidName (name : String)
  | setupFailed (name : String) (failure : Failure)
  deriving DecidableEq, Repr

/-- The wording of an error. -/
def RegistryError.message : RegistryError → String
  | duplicatePlugin name => "plugin '" ++ name ++ "' is already installed"
  | invalidName name =>
    "invalid plugin name '" ++ name ++ "': use letters, digits, '_' or '-'"
  | setupFailed name failure => "plugin '" ++ name ++ "' setup failed: " ++ failure.message

namespace Registry

variable {σ : Type}

/-- The registry without plugins. -/
def empty : Registry σ := {}

instance : Inhabited (Registry σ) := ⟨empty⟩

/-- Whether a plugin of that name is installed. -/
def containsPlugin (registry : Registry σ) (name : String) : Bool :=
  registry.plugins.contains name

/-- The names of the plugins in the order of installation. -/
def pluginNames (registry : Registry σ) : List String :=
  registry.plugins.keys

/-- The variable of a plugin. -/
def variableSource? (registry : Registry σ) (plugin name : String) : Option (VariableSource σ) :=
  (registry.plugins.get? plugin).bind (·.variableSources.get? name)

/-- The function of a plugin. -/
def functionSource? (registry : Registry σ) (plugin name : String) :
    Option (FunctionSource σ) :=
  (registry.plugins.get? plugin).bind (·.functionSources.get? name)

/-- The sources of a plugin changed. -/
def updateSources (registry : Registry σ) (plugin : String)
    (change : PluginSources σ → PluginSources σ) : Registry σ :=
  let sources := (registry.plugins.get? plugin).getD {}
  { registry with plugins := registry.plugins.insert plugin (change sources) }

/-- Adds what the plugin of that name offers. -/
def register (registry : Registry σ) (plugin : String) : Registration σ → Registry σ
  | .variableSource name source =>
    registry.updateSources plugin fun sources =>
      { sources with variableSources := sources.variableSources.insert name source }
  | .functionSource name source =>
    registry.updateSources plugin fun sources =>
      { sources with functionSources := sources.functionSources.insert name source }
  | .secretResolver resolver =>
    { registry with secretResolvers := registry.secretResolvers ++ [(plugin, resolver)] }
  | .preRequestHook hook =>
    { registry with preRequestHooks := registry.preRequestHooks ++ [(plugin, hook)] }
  | .postResponseHook hook =>
    { registry with postResponseHooks := registry.postResponseHooks ++ [(plugin, hook)] }

/-- Adds a plugin whose name is an identifier, is new, and that can be set up. -/
def install (registry : Registry σ) (plugin : Plugin σ) : Except RegistryError (Registry σ) :=
  if !Template.isIdentifier plugin.name.toList then .error (.invalidName plugin.name)
  else if registry.containsPlugin plugin.name then .error (.duplicatePlugin plugin.name)
  else
    match plugin.setup with
    | .error failure => .error (.setupFailed plugin.name failure)
    | .ok registrations =>
      let known := { registry with plugins := registry.plugins.insert plugin.name {} }
      .ok (registrations.foldl (·.register plugin.name ·) known)

/-- The registry of a list of plugins. -/
def ofPlugins (plugins : List (Plugin σ)) : Except RegistryError (Registry σ) :=
  plugins.foldlM install empty

/-- One line about a registry. -/
def describe (registry : Registry σ) : String :=
  let names := ", ".intercalate (registry.pluginNames.map Json.quote)
  "PluginRegistry \x7b plugins: [" ++ names ++ "], secret_resolvers: " ++
    toString registry.secretResolvers.length ++ ", pre_request_hooks: " ++
    toString registry.preRequestHooks.length ++ ", post_response_hooks: " ++
    toString registry.postResponseHooks.length ++ " \x7d"

end Registry

end RequestChain
