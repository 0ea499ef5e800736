import RequestChain.Plugin.Registry

/-! # What plugins register

Resolvers of secrets and hooks stand in a registry in the order of registration: those of the plugin
that was installed first come first, and those of one plugin come in the order in which it registers
them. Each is paired with the name of its plugin. The three kinds are treated alike, by a part of the
registry that a registration adds to and that nothing else changes.
-/

namespace RequestChain

variable {σ α : Type}

/-! ## Kinds of registrations -/

namespace Registration

/-- The resolver of secrets that is registered. -/
def secretResolver? : Registration σ → Option (SecretResolver σ)
  | .secretResolver resolver => some resolver
  | _ => none

/-- The pre-request hook that is registered. -/
def preRequestHook? : Registration σ → Option (PreRequestHook σ)
  | .preRequestHook hook => some hook
  | _ => none

/-- The post-response hook that is registered. -/
def postResponseHook? : Registration σ → Option (PostResponseHook σ)
  | .postResponseHook hook => some hook
  | _ => none

end Registration

/-- What a plugin registers, in order. -/
def Plugin.registrations (plugin : Plugin σ) : List (Registration σ) :=
  match plugin.setup with
  | .ok registrations => registrations
  | .error _ => []

/-- What a plugin registers of one kind, with its name. -/
def Plugin.registered (kind? : Registration σ → Option α) (plugin : Plugin σ) :
    List (String × α) :=
  (plugin.registrations.filterMap kind?).map fun item => (plugin.name, item)

namespace Registry

/-- A part of a registry that grows by the registrations of one kind. -/
structure CollectsInOrder (part : Registry σ → List (String × α))
    (kind? : Registration σ → Option α) : Prop where
  empty : part .empty = []
  sources : ∀ registry plugins, part { registry with plugins } = part registry
  register : ∀ registry plugin registration,
    part (registry.register plugin registration) =
      part registry ++ ((kind? registration).map fun item => (plugin, item)).toList

theorem secretResolvers_collect :
    CollectsInOrder (σ := σ) secretResolvers Registration.secretResolver? where
  empty := rfl
  sources _ _ := rfl
  register registry plugin registration := by
    cases registration with
    | secretResolver resolver => rfl
    | _ => exact (List.append_nil _).symm

theorem preRequestHooks_collect :
    CollectsInOrder (σ := σ) preRequestHooks Registration.preRequestHook? where
  empty := rfl
  sources _ _ := rfl
  register registry plugin registration := by
    cases registration with
    | preRequestHook hook => rfl
    | _ => exact (List.append_nil _).symm

theorem postResponseHooks_collect :
    CollectsInOrder (σ := σ) postResponseHooks Registration.postResponseHook? where
  empty := rfl
  sources _ _ := rfl
  register registry plugin registration := by
    cases registration with
    | postResponseHook hook => rfl
    | _ => exact (List.append_nil _).symm

namespace CollectsInOrder

variable {part : Registry σ → List (String × α)} {kind? : Registration σ → Option α}
  (collects : CollectsInOrder part kind?)
include collects

theorem foldl_register (registry : Registry σ) (plugin : String)
    (registrations : List (Registration σ)) :
    part (registrations.foldl (·.register plugin ·) registry) =
      part registry ++ (registrations.filterMap kind?).map fun item => (plugin, item) := by
  induction registrations generalizing registry with
  | nil => exact (List.append_nil _).symm
  | cons registration rest ih =>
    rw [List.foldl_cons, ih, collects.register, List.append_assoc, List.filterMap_cons]
    cases kind? registration with
    | none => rfl
    | some item => rfl

/-- A plugin that is installed adds what it registers. -/
theorem install {registry after : Registry σ} {plugin : Plugin σ}
    (installed : registry.install plugin = .ok after) :
    part after = part registry ++ plugin.registered kind? := by
  unfold Registry.install at installed
  split at installed
  · cases installed
  · split at installed
    · cases installed
    · split at installed
      · cases installed
      · rename_i registrations setUp
        cases installed
        rw [collects.foldl_register, collects.sources, Plugin.registered, Plugin.registrations,
          setUp]

/-- The plugins of a list add what they register one after the other. -/
theorem ofPlugins {plugins : List (Plugin σ)} {registry : Registry σ}
    (installed : Registry.ofPlugins plugins = .ok registry) :
    part registry = plugins.flatMap (·.registered kind?) := by
  have grown : ∀ (start : Registry σ), plugins.foldlM Registry.install start = .ok registry →
      part registry = part start ++ plugins.flatMap (·.registered kind?) := by
    clear installed
    induction plugins with
    | nil =>
      rintro start ⟨⟩
      exact (List.append_nil _).symm
    | cons plugin rest ih =>
      intro start installed
      rw [List.foldlM_cons] at installed
      cases next : start.install plugin with
      | error error =>
        rw [next] at installed
        cases installed
      | ok after =>
        rw [next] at installed
        rw [ih after installed, collects.install next, List.append_assoc, List.flatMap_cons]
  rw [grown .empty installed, collects.empty, List.nil_append]

end CollectsInOrder

end Registry

end RequestChain
