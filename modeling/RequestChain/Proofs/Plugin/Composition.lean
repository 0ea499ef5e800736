import Mathlib.Data.List.Induction
import RequestChain.Proofs.Plugin.Registration

/-! # Registries of several plugins

Plugins are installed one after the other. Each has to keep three rules, which are looked at in
turn: its name is an identifier, no plugin before it has that name, and it can be set up. The first
plugin that breaks a rule decides the error. If none does, every source is found under the name of
its plugin and its own, a later registration in place of an earlier one of the same plugin, and no
plugin can take a source from another one or put one in its place.
-/

namespace RequestChain

variable {σ α : Type}

/-! ## Rules -/

/-- ASCII letters, digits, low lines and hyphens, at least one of them. -/
structure IsPluginName (name : String) : Prop where
  nonempty : name ≠ ""
  characters : ∀ c ∈ name.toList, c.isAlphanum = true ∨ c = '_' ∨ c = '-'

theorem isIdentifier_iff_isPluginName {name : String} :
    Template.isIdentifier name.toList = true ↔ IsPluginName name := by
  have letters : ∀ c : Char,
      Template.isIdentifierChar c = true ↔ c.isAlphanum = true ∨ c = '_' ∨ c = '-' := by
    intro c
    simp [Template.isIdentifierChar, or_assoc]
  rw [Template.isIdentifier, Bool.and_eq_true, List.all_eq_true]
  simp only [letters]
  constructor
  · rintro ⟨nonempty, characters⟩
    refine ⟨?_, characters⟩
    rintro rfl
    cases nonempty
  · rintro ⟨nonempty, characters⟩
    refine ⟨?_, characters⟩
    simpa using nonempty

/-- The rule that a plugin breaks behind plugins of the names `earlier`. -/
inductive Plugin.Breaks (plugin : Plugin σ) (earlier : List String) : RegistryError → Prop where
  | invalidName (invalid : ¬IsPluginName plugin.name) :
      Breaks plugin earlier (.invalidName plugin.name)
  | duplicatePlugin (valid : IsPluginName plugin.name) (known : plugin.name ∈ earlier) :
      Breaks plugin earlier (.duplicatePlugin plugin.name)
  | setupFailed {failure : Failure} (valid : IsPluginName plugin.name)
      (fresh : plugin.name ∉ earlier) (failed : plugin.setup = .error failure) :
      Breaks plugin earlier (.setupFailed plugin.name failure)

namespace Registry

/-- Plugins that keep the rules. -/
structure Composable (plugins : List (Plugin σ)) : Prop where
  named : ∀ plugin ∈ plugins, IsPluginName plugin.name
  distinct : (plugins.map (·.name)).Nodup
  setUp : ∀ plugin ∈ plugins, ∃ registrations, plugin.setup = .ok registrations

/-- A plugin that breaks a rule behind others does not go with them, whatever comes later. -/
theorem Composable.not_breaks {earlier later : List (Plugin σ)} {plugin : Plugin σ}
    {error : RegistryError} (composable : Composable (earlier ++ plugin :: later)) :
    ¬plugin.Breaks (earlier.map (·.name)) error := by
  have member : plugin ∈ earlier ++ plugin :: later := by simp
  intro breaks
  cases breaks with
  | invalidName invalid => exact invalid (composable.named plugin member)
  | duplicatePlugin valid known =>
    have distinct := composable.distinct
    rw [List.map_append, List.map_cons, List.nodup_append] at distinct
    exact distinct.2.2 _ known _ List.mem_cons_self rfl
  | setupFailed valid fresh failed =>
    obtain ⟨registrations, setUp⟩ := composable.setUp plugin member
    rw [setUp] at failed
    cases failed

/-- One more plugin that keeps the rules. -/
theorem Composable.concat {earlier : List (Plugin σ)} {plugin : Plugin σ}
    {registrations : List (Registration σ)} (composable : Composable earlier)
    (valid : IsPluginName plugin.name) (fresh : plugin.name ∉ earlier.map (·.name))
    (setUp : plugin.setup = .ok registrations) : Composable (earlier ++ [plugin]) where
  named := List.forall_mem_append.mpr ⟨composable.named, List.forall_mem_singleton.mpr valid⟩
  distinct := by
    rw [List.map_append, List.map_singleton, List.nodup_append]
    refine ⟨composable.distinct, by simp, ?_⟩
    rintro name known _ own rfl
    exact fresh (List.mem_singleton.mp own ▸ known)
  setUp := List.forall_mem_append.mpr
    ⟨composable.setUp, List.forall_mem_singleton.mpr ⟨registrations, setUp⟩⟩

/-! ## One plugin -/

section Install

variable {registry : Registry σ} {plugin : Plugin σ}

theorem containsPlugin_iff {name : String} :
    registry.containsPlugin name = true ↔ name ∈ registry.pluginNames := by
  simp [containsPlugin, pluginNames, OrderedMap.contains]

/-- The registry with a new plugin and what it registers. -/
def withPlugin (registry : Registry σ) (name : String) (registrations : List (Registration σ)) :
    Registry σ :=
  registrations.foldl (·.register name ·)
    { registry with plugins := registry.plugins.insert name {} }

/-- What installing a plugin comes to. -/
inductive Installing (registry : Registry σ) (plugin : Plugin σ) :
    Except RegistryError (Registry σ) → Prop where
  | refused {error : RegistryError} (breaks : plugin.Breaks registry.pluginNames error) :
      Installing registry plugin (.error error)
  | installed {registrations : List (Registration σ)} (valid : IsPluginName plugin.name)
      (fresh : plugin.name ∉ registry.pluginNames) (setUp : plugin.setup = .ok registrations) :
      Installing registry plugin (.ok (registry.withPlugin plugin.name registrations))

theorem install_installing (registry : Registry σ) (plugin : Plugin σ) :
    Installing registry plugin (registry.install plugin) := by
  unfold install
  split
  · rename_i invalid
    refine .refused (.invalidName fun valid => ?_)
    rw [isIdentifier_iff_isPluginName.mpr valid] at invalid
    cases invalid
  · rename_i identifier
    have valid : IsPluginName plugin.name :=
      isIdentifier_iff_isPluginName.mp (by simpa using identifier)
    split
    · rename_i known
      exact .refused (.duplicatePlugin valid (containsPlugin_iff.mp known))
    · rename_i unknown
      have fresh : plugin.name ∉ registry.pluginNames := fun known =>
        unknown (containsPlugin_iff.mpr known)
      split
      · rename_i failure failed
        exact .refused (.setupFailed valid fresh failed)
      · rename_i registrations setUp
        exact .installed valid fresh setUp

end Install

/-! ## Sources -/

end Registry

/-- The variable that is registered, behind its name. -/
def Registration.variableSource? : Registration σ → Option (String × VariableSource σ)
  | .variableSource name source => some (name, source)
  | _ => none

/-- The function that is registered, behind its name. -/
def Registration.functionSource? : Registration σ → Option (String × FunctionSource σ)
  | .functionSource name source => some (name, source)
  | _ => none

/-- The source of one kind that a plugin registers last under a name. -/
def Plugin.lastSource? (kind? : Registration σ → Option (String × α)) (plugin : Plugin σ)
    (member : String) : Option α :=
  (plugin.registrations.filterMap kind?).reverse.lookup member

namespace Registry

/-- The source in one part of what a plugin offers. -/
def sourceIn? (part : PluginSources σ → OrderedMap α) (registry : Registry σ)
    (plugin member : String) : Option α :=
  (registry.plugins.get? plugin).bind fun sources => (part sources).get? member

/-- A part of the sources of plugins that a registration of one kind adds to, under its own name. -/
structure HoldsSources (part : PluginSources σ → OrderedMap α)
    (kind? : Registration σ → Option (String × α)) : Prop where
  empty : part {} = .empty
  register : ∀ registry name registration plugin member,
    sourceIn? part (registry.register name registration) plugin member =
      if plugin = name then
        ((kind? registration).toList.lookup member).or (sourceIn? part registry plugin member)
      else sourceIn? part registry plugin member

section Parts

variable {part : PluginSources σ → OrderedMap α}

/-- A plugin that is not there yet has no sources. -/
theorem get?_part_getD (empty : part {} = .empty) (registry : Registry σ)
    (plugin member : String) :
    (part ((registry.plugins.get? plugin).getD {})).get? member =
      sourceIn? part registry plugin member := by
  unfold sourceIn?
  cases registry.plugins.get? plugin with
  | none =>
    rw [Option.getD_none, empty]
    rfl
  | some sources => rfl

theorem sourceIn?_updateSources (registry : Registry σ) (name : String)
    (change : PluginSources σ → PluginSources σ) (plugin member : String) :
    sourceIn? part (registry.updateSources name change) plugin member =
      if plugin = name then
        (part (change ((registry.plugins.get? name).getD {}))).get? member
      else sourceIn? part registry plugin member := by
  unfold sourceIn? updateSources
  rw [OrderedMap.get?_insert]
  split
  · rfl
  · rfl

/-- A source that is added is found under its name, before what was there. -/
theorem sourceIn?_updateSources_insert (empty : part {} = .empty) (registry : Registry σ)
    {name key : String} {source : α} {change : PluginSources σ → PluginSources σ}
    (inserts : ∀ sources, part (change sources) = (part sources).insert key source)
    (plugin member : String) :
    sourceIn? part (registry.updateSources name change) plugin member =
      if plugin = name then
        ([(key, source)].lookup member).or (sourceIn? part registry plugin member)
      else sourceIn? part registry plugin member := by
  rw [sourceIn?_updateSources, inserts, OrderedMap.get?_insert, get?_part_getD empty]
  split
  · rename_i same
    subst same
    by_cases asked : member = key
    · rw [if_pos asked, asked, List.lookup_cons_self]
      rfl
    · have differ : (member == key) = false := beq_eq_false_iff_ne.mpr asked
      rw [if_neg asked, List.lookup_cons, differ]
      rfl
  · rfl

/-- A change of another part is not seen. -/
theorem sourceIn?_updateSources_other (empty : part {} = .empty) (registry : Registry σ)
    {name : String} {change : PluginSources σ → PluginSources σ}
    (keeps : ∀ sources, part (change sources) = part sources) (plugin member : String) :
    sourceIn? part (registry.updateSources name change) plugin member =
      sourceIn? part registry plugin member := by
  rw [sourceIn?_updateSources, keeps, get?_part_getD empty]
  split
  · rename_i same
    rw [same]
  · rfl

end Parts

theorem variableSources_hold :
    HoldsSources (σ := σ) PluginSources.variableSources Registration.variableSource? where
  empty := rfl
  register registry name registration plugin member := by
    cases registration with
    | variableSource key source =>
      exact sourceIn?_updateSources_insert rfl registry (fun _ => rfl) plugin member
    | functionSource key source =>
      refine (sourceIn?_updateSources_other rfl registry ?_ plugin member).trans (ite_self _).symm
      exact fun _ => rfl
    | _ => exact (ite_self _).symm

theorem functionSources_hold :
    HoldsSources (σ := σ) PluginSources.functionSources Registration.functionSource? where
  empty := rfl
  register registry name registration plugin member := by
    cases registration with
    | functionSource key source =>
      exact sourceIn?_updateSources_insert rfl registry (fun _ => rfl) plugin member
    | variableSource key source =>
      refine (sourceIn?_updateSources_other rfl registry ?_ plugin member).trans (ite_self _).symm
      exact fun _ => rfl
    | _ => exact (ite_self _).symm

section Holds

variable {part : PluginSources σ → OrderedMap α} {kind? : Registration σ → Option (String × α)}
  (holds : HoldsSources part kind?)
include holds

/-- What a plugin registers under its name comes before what was there, the last registration first.
-/
theorem HoldsSources.foldl_register (registry : Registry σ) (name : String)
    (registrations : List (Registration σ)) (plugin member : String) :
    sourceIn? part (registrations.foldl (Registry.register · name ·) registry) plugin member =
      if plugin = name then
        ((registrations.filterMap kind?).reverse.lookup member).or
          (sourceIn? part registry plugin member)
      else sourceIn? part registry plugin member := by
  induction registrations generalizing registry with
  | nil => exact (ite_self _).symm
  | cons registration rest ih =>
    have first : ((registration :: rest).filterMap kind?).reverse =
        (rest.filterMap kind?).reverse ++ (kind? registration).toList := by
      rw [List.filterMap_cons]
      cases kind? registration with
      | none => exact (List.append_nil _).symm
      | some source => exact List.reverse_cons
    rw [List.foldl_cons, ih, holds.register, first, List.lookup_append, Option.or_assoc]
    split
    · rfl
    · rfl

/-- A new plugin brings its own sources, and those of the others are the same. -/
theorem HoldsSources.sourceIn?_withPlugin (registry : Registry σ) (name : String)
    (registrations : List (Registration σ)) (plugin member : String) :
    sourceIn? part (registry.withPlugin name registrations) plugin member =
      if plugin = name then (registrations.filterMap kind?).reverse.lookup member
      else sourceIn? part registry plugin member := by
  rw [withPlugin, holds.foldl_register]
  split
  · rename_i own
    rw [own, sourceIn?, OrderedMap.get?_insert, if_pos rfl, Option.bind_some, holds.empty]
    exact Option.or_none
  · rename_i other
    rw [sourceIn?, OrderedMap.get?_insert, if_neg other]
    rfl

/-- The sources of several plugins and of one more. -/
theorem HoldsSources.sourceIn?_concat {registry : Registry σ} {earlier : List (Plugin σ)}
    {plugin : Plugin σ} {registrations : List (Registration σ)}
    (fresh : plugin.name ∉ earlier.map (·.name)) (setUp : plugin.setup = .ok registrations)
    (offered : ∀ name member, sourceIn? part registry name member =
      (earlier.find? (·.name = name)).bind (·.lastSource? kind? member))
    (name member : String) :
    sourceIn? part (registry.withPlugin plugin.name registrations) name member =
      ((earlier ++ [plugin]).find? (·.name = name)).bind (·.lastSource? kind? member) := by
  rw [holds.sourceIn?_withPlugin, List.find?_append, List.find?_singleton]
  by_cases own : name = plugin.name
  · have unknown : earlier.find? (·.name = name) = none := by
      rw [List.find?_eq_none]
      intro other isEarlier same
      refine fresh ?_
      rw [← own, ← of_decide_eq_true same]
      exact List.mem_map_of_mem isEarlier
    rw [if_pos own, unknown, Option.none_or, if_pos (decide_eq_true own.symm), Option.bind_some,
      Plugin.lastSource?, Plugin.registrations, setUp]
  · have other : ¬decide (plugin.name = name) = true := by
      simpa using Ne.symm own
    rw [if_neg own, if_neg other, Option.or_none, offered]

end Holds

/-! ## Several plugins -/

/-- What the registry of some plugins holds: their names, their resolvers and hooks in the order of
installation, and the sources of each under its name. -/
structure Offers (registry : Registry σ) (plugins : List (Plugin σ)) : Prop where
  pluginNames : registry.pluginNames = plugins.map (·.name)
  secretResolvers : registry.secretResolvers =
    plugins.flatMap (·.registered Registration.secretResolver?)
  preRequestHooks : registry.preRequestHooks =
    plugins.flatMap (·.registered Registration.preRequestHook?)
  postResponseHooks : registry.postResponseHooks =
    plugins.flatMap (·.registered Registration.postResponseHook?)
  variableSources : ∀ name member, registry.variableSource? name member =
    (plugins.find? (·.name = name)).bind (·.lastSource? Registration.variableSource? member)
  functionSources : ∀ name member, registry.functionSource? name member =
    (plugins.find? (·.name = name)).bind (·.lastSource? Registration.functionSource? member)

theorem pluginNames_register {registry : Registry σ} {name : String}
    (known : name ∈ registry.pluginNames) (registration : Registration σ) :
    (registry.register name registration).pluginNames = registry.pluginNames := by
  have updated : ∀ change, (registry.updateSources name change).pluginNames =
      registry.pluginNames := fun change =>
    (OrderedMap.keys_insert _ _ _).trans (if_pos known)
  cases registration with
  | variableSource key source => exact updated _
  | functionSource key source => exact updated _
  | _ => rfl

theorem pluginNames_foldl_register {registry : Registry σ} {name : String}
    (known : name ∈ registry.pluginNames) (registrations : List (Registration σ)) :
    (registrations.foldl (Registry.register · name ·) registry).pluginNames =
      registry.pluginNames := by
  induction registrations generalizing registry with
  | nil => rfl
  | cons registration rest ih =>
    have same := pluginNames_register known registration
    rw [List.foldl_cons, ih (same ▸ known), same]

/-- A new plugin comes last. -/
theorem pluginNames_withPlugin {registry : Registry σ} {name : String}
    (fresh : name ∉ registry.pluginNames) (registrations : List (Registration σ)) :
    (registry.withPlugin name registrations).pluginNames = registry.pluginNames ++ [name] := by
  have added : ({ registry with plugins := registry.plugins.insert name {} } :
      Registry σ).pluginNames = registry.pluginNames ++ [name] :=
    (OrderedMap.keys_insert _ _ _).trans (if_neg fresh)
  have known : name ∈ ({ registry with plugins := registry.plugins.insert name {} } :
      Registry σ).pluginNames := by
    rw [added]
    exact List.mem_append_right _ (List.mem_singleton_self name)
  rw [withPlugin, pluginNames_foldl_register known, added]

/-- What several plugins offer and what one more does. -/
theorem Offers.concat {registry : Registry σ} {earlier : List (Plugin σ)} {plugin : Plugin σ}
    {registrations : List (Registration σ)} (offers : registry.Offers earlier)
    (fresh : plugin.name ∉ earlier.map (·.name)) (setUp : plugin.setup = .ok registrations)
    (installed : registry.install plugin =
      .ok (registry.withPlugin plugin.name registrations)) :
    (registry.withPlugin plugin.name registrations).Offers (earlier ++ [plugin]) where
  pluginNames := by
    rw [pluginNames_withPlugin (offers.pluginNames ▸ fresh), offers.pluginNames, List.map_append,
      List.map_singleton]
  secretResolvers := by
    rw [secretResolvers_collect.install installed, offers.secretResolvers, List.flatMap_append,
      List.flatMap_singleton]
  preRequestHooks := by
    rw [preRequestHooks_collect.install installed, offers.preRequestHooks, List.flatMap_append,
      List.flatMap_singleton]
  postResponseHooks := by
    rw [postResponseHooks_collect.install installed, offers.postResponseHooks, List.flatMap_append,
      List.flatMap_singleton]
  variableSources := variableSources_hold.sourceIn?_concat fresh setUp offers.variableSources
  functionSources := functionSources_hold.sourceIn?_concat fresh setUp offers.functionSources

/-- What putting plugins together comes to: a registry of what they offer, or the error of the first
plugin that breaks a rule. -/
inductive Composing (plugins : List (Plugin σ)) : Except RegistryError (Registry σ) → Prop where
  | composed {registry : Registry σ} (composable : Composable plugins)
      (offers : registry.Offers plugins) : Composing plugins (.ok registry)
  | refused {earlier later : List (Plugin σ)} {plugin : Plugin σ} {error : RegistryError}
      (shape : plugins = earlier ++ plugin :: later) (composable : Composable earlier)
      (breaks : plugin.Breaks (earlier.map (·.name)) error) : Composing plugins (.error error)

theorem ofPlugins_concat (earlier : List (Plugin σ)) (plugin : Plugin σ) :
    ofPlugins (earlier ++ [plugin]) = ofPlugins earlier >>= (·.install plugin) := by
  have single : (fun registry => [plugin].foldlM install registry) = (·.install plugin) := by
    funext registry
    exact bind_pure (registry.install plugin)
  rw [ofPlugins, List.foldlM_append, single, ofPlugins]

/-- By induction on the plugins that have been installed so far. -/
theorem ofPlugins_composing (plugins : List (Plugin σ)) : Composing plugins (ofPlugins plugins) := by
  induction plugins using List.reverseRecOn with
  | nil =>
    refine .composed ⟨nofun, List.nodup_nil, nofun⟩ ?_
    exact ⟨rfl, rfl, rfl, rfl, fun _ _ => rfl, fun _ _ => rfl⟩
  | append_singleton earlier plugin ih =>
    rw [ofPlugins_concat]
    generalize ofPlugins earlier = outcome at ih
    cases ih with
    | @refused before later breaking error shape composable breaks =>
      have longer : earlier ++ [plugin] = before ++ breaking :: (later ++ [plugin]) := by
        rw [shape, List.append_assoc, List.cons_append]
      exact .refused longer composable breaks
    | @composed registry composable offers =>
      have installing := install_installing registry plugin
      change Composing (earlier ++ [plugin]) (registry.install plugin)
      generalize came : registry.install plugin = outcome at installing
      cases installing with
      | refused breaks => exact .refused rfl composable (offers.pluginNames ▸ breaks)
      | installed valid fresh setUp =>
        rw [offers.pluginNames] at fresh
        exact .composed (composable.concat valid fresh setUp) (offers.concat fresh setUp came)

/-- Plugins go together exactly if each has the name of an identifier that no plugin before it has,
and can be set up. The registry then has their names in order, their resolvers and hooks one plugin
after the other, each with its name, and under every name the sources that the plugin of that name
registers last. If they do not, the error is that of the first plugin that breaks a rule. -/
theorem ofPlugins_composes (plugins : List (Plugin σ)) :
    ((∃ registry, ofPlugins plugins = .ok registry) ↔ Composable plugins) ∧
      Composing plugins (ofPlugins plugins) := by
  have composing := ofPlugins_composing plugins
  refine ⟨?_, composing⟩
  constructor
  · rintro ⟨registry, returned⟩
    rw [returned] at composing
    cases composing with
    | composed composable offers => exact composable
  · intro composable
    generalize ofPlugins plugins = outcome at composing
    cases composing with
    | composed _ offers => exact ⟨_, rfl⟩
    | refused shape _ breaks =>
      rw [shape] at composable
      exact absurd breaks composable.not_breaks

end Registry

end RequestChain
