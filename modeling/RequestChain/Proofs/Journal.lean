import RequestChain.Proofs.Execution.Mirror

/-! # Journals of calls

Every call of a collaborator and its answer can be written down without the collaborators noticing:
the journal is kept beside their world, and they see only what they saw before. A run with a journal
has the outcome of the run without one, so what its journal says holds of every run.
-/

namespace RequestChain

/-- A call of a collaborator. -/
inductive Call where
  | pluginVariable (plugin member : String)
  | pluginCall (plugin function : String) (arguments : List String)
  | secret (plugin name : String)
  | preRequestHook (plugin : String) (request : Request)
  | http (request : Request)
  | postResponseHook (plugin : String) (request : Request) (response : Response)

/-- The answer to a call. -/
inductive Answer where
  | failed (failure : Failure)
  | undefined
  | defined (text : String)
  | responded (response : Response)
  | finished

namespace Answer

/-- The answer of a call that may be without a text. -/
def ofText : Option String → Answer
  | none => undefined
  | some text => defined text

/-- The answer of a call that may fail. -/
def ofOutcome {α : Type} (answer : α → Answer) : Except Failure α → Answer
  | .error failure => failed failure
  | .ok value => answer value

end Answer

/-- One line of a journal. -/
structure Entry where
  call : Call
  answer : Answer

abbrev Journal := List Entry

/-- The request that a call sends. -/
def Call.request? : Call → Option Request
  | .http request => some request
  | _ => none

/-- The requests that were sent, in order. -/
def Journal.sent (journal : Journal) : List Request :=
  journal.filterMap (·.call.request?)

namespace World

variable {σ : Type}

/-- The world that the collaborators see. -/
def plain (world : World (σ × Journal)) : World σ :=
  { world with host := world.host.1 }

/-- The journal of a world. -/
def journal (world : World (σ × Journal)) : Journal :=
  world.host.2

/-- A world with a journal beside it. -/
def withJournal (world : World σ) (journal : Journal) : World (σ × Journal) :=
  { world with host := (world.host, journal) }

@[simp] theorem plain_withJournal (world : World σ) (journal : Journal) :
    (world.withJournal journal).plain = world := rfl

@[simp] theorem journal_withJournal (world : World σ) (journal : Journal) :
    (world.withJournal journal).journal = journal := rfl

end World

section Noting

variable {σ α Part : Type}

/-- An action that is written down once it has answered. -/
def Action.noted (call : Call) (answer : α → Answer) (action : Action σ α) :
    Action (σ × Journal) α :=
  fun world =>
    let (outcome, after) := action world.plain
    (outcome, after.withJournal (world.journal ++ [⟨call, .ofOutcome answer outcome⟩]))

theorem Action.run_noted (call : Call) (answer : α → Answer) (action : Action σ α)
    (world : World (σ × Journal)) :
    (action.noted call answer).run world =
      ((action.run world.plain).1, (action.run world.plain).2.withJournal
        (world.journal ++ [⟨call, .ofOutcome answer (action.run world.plain).1⟩])) := rfl

/-- A hook that is written down once it has finished, under what it was given. -/
def notedHook (call : Part → Call) (hook : Effect (Part × World σ) Failure Unit) :
    Effect (Part × World (σ × Journal)) Failure Unit :=
  fun given =>
    let (outcome, changed, after) := hook (given.1, given.2.plain)
    (outcome, changed, after.withJournal
      (given.2.journal ++ [⟨call given.1, .ofOutcome (fun _ => .finished) outcome⟩]))

end Noting

variable {σ : Type}

/-- The sources of a plugin, every call written down. -/
def PluginSources.journaled (plugin : String) (sources : PluginSources σ) :
    PluginSources (σ × Journal) where
  variableSources := sources.variableSources.mapEntries fun member source =>
    Action.noted (.pluginVariable plugin member) (fun value => .ofText (renderScalar value)) source
  functionSources := sources.functionSources.mapEntries fun function source arguments =>
    Action.noted (.pluginCall plugin function arguments)
      (fun value => .ofText (renderScalar value)) (source arguments)

/-- A resolver of secrets, every call written down. -/
def SecretResolver.journaled (resolver : String × SecretResolver σ) :
    String × SecretResolver (σ × Journal) :=
  (resolver.1, fun name => Action.noted (.secret resolver.1 name) .ofText (resolver.2 name))

/-- What the plugins offer, every call written down. -/
def Registry.journaled (registry : Registry σ) : Registry (σ × Journal) where
  plugins := registry.plugins.mapEntries PluginSources.journaled
  secretResolvers := registry.secretResolvers.map SecretResolver.journaled
  preRequestHooks := registry.preRequestHooks.map fun (plugin, hook) =>
    (plugin, notedHook (.preRequestHook plugin) hook)
  postResponseHooks := registry.postResponseHooks.map fun (plugin, hook) =>
    (plugin, fun request => notedHook (.postResponseHook plugin request) (hook request))

/-- The same executor, every call written down. -/
def Executor.journaled (executor : Executor σ) : Executor (σ × Journal) where
  registry := executor.registry.journaled
  transport := fun request =>
    Action.noted (.http request) .responded (executor.transport request)
  dryRun := executor.dryRun

namespace Registry

theorem containsPlugin_journaled (registry : Registry σ) (plugin : String) :
    registry.journaled.containsPlugin plugin = registry.containsPlugin plugin := by
  simp only [containsPlugin, journaled, OrderedMap.contains, OrderedMap.keys_mapEntries]

theorem variableSource?_journaled (registry : Registry σ) (plugin member : String) :
    registry.journaled.variableSource? plugin member =
      (registry.variableSource? plugin member).map
        (Action.noted (.pluginVariable plugin member) fun value => .ofText (renderScalar value)) := by
  simp only [variableSource?, journaled, OrderedMap.get?_mapEntries]
  cases registry.plugins.get? plugin with
  | none => rfl
  | some sources => exact OrderedMap.get?_mapEntries _ sources.variableSources member

theorem functionSource?_journaled (registry : Registry σ) (plugin function : String) :
    registry.journaled.functionSource? plugin function =
      (registry.functionSource? plugin function).map fun source arguments =>
        Action.noted (.pluginCall plugin function arguments)
          (fun value => .ofText (renderScalar value)) (source arguments) := by
  simp only [functionSource?, journaled, OrderedMap.get?_mapEntries]
  cases registry.plugins.get? plugin with
  | none => rfl
  | some sources => exact OrderedMap.get?_mapEntries _ sources.functionSources function

end Registry

/-! ## Journals get longer -/

/-- Nothing is taken out of a journal. -/
def Journal.longer : Direction (World (σ × Journal)) where
  later before after := before.journal <+: after.journal
  refl world := List.prefix_refl world.journal
  trans first second := first.trans second

/-- A call of what plugins offer to templates and to requests that are not sent yet. -/
def Call.isBeforeSending : Call → Bool
  | pluginVariable _ _ | pluginCall _ _ _ | secret _ _ | preRequestHook _ _ => true
  | http _ | postResponseHook _ _ _ => false

section Moves

variable {direction : Direction (World (σ × Journal))}

/-- A line that is added to a journal by such a call is a move in the direction. -/
def Direction.AddsEntries (direction : Direction (World (σ × Journal))) : Prop :=
  ∀ (world : World (σ × Journal)) (after : World σ) (entry : Entry),
    entry.call.isBeforeSending = true →
    direction.later world (after.withJournal (world.journal ++ [entry]))

theorem Journal.longer_addsEntries : (Journal.longer (σ := σ)).AddsEntries :=
  fun world _ entry _ => List.prefix_append world.journal [entry]

theorem Action.noted_moves {α : Type} {call : Call} (adds : direction.AddsEntries)
    (early : call.isBeforeSending = true) (answer : α → Answer) (action : Action σ α) :
    (action.noted call answer).Moves direction :=
  fun world => adds world _ ⟨call, _⟩ early

/-- Whatever templates ask of the plugins, their calls are added to the journal. -/
theorem Registry.journaled_moves_of (registry : Registry σ) (adds : direction.AddsEntries) :
    registry.journaled.Moves direction where
  variableSources plugin member source found := by
    rw [registry.variableSource?_journaled] at found
    obtain ⟨behind, -, rfl⟩ := Option.map_eq_some_iff.mp found
    exact behind.noted_moves adds rfl _
  functionSources plugin function source found arguments := by
    rw [registry.functionSource?_journaled] at found
    obtain ⟨behind, -, rfl⟩ := Option.map_eq_some_iff.mp found
    exact (behind arguments).noted_moves adds rfl _
  secretResolvers resolver member name := by
    obtain ⟨behind, -, rfl⟩ := List.mem_map.mp member
    exact (behind.2 name).noted_moves adds rfl _

end Moves

theorem Registry.journaled_moves (registry : Registry σ) :
    registry.journaled.Moves Journal.longer :=
  registry.journaled_moves_of Journal.longer_addsEntries

/-! ## The run behind a journal -/

/-- A world with a journal and the world behind it, while the journal is as required. -/
def Journaling (required : Journal → Prop) (world : World (σ × Journal)) (behind : World σ) :
    Prop :=
  world.plain = behind ∧ required world.journal

section Mirrors

variable {required : Journal → Prop}

/-- A call that is written down answers as it does otherwise. -/
theorem Action.noted_mirrors {α : Type} {call : Call} (answer : α → Answer) (action : Action σ α)
    (kept : ∀ journal answer, required journal → required (journal ++ [⟨call, answer⟩])) :
    Effect.Mirrors (Journaling required) (action.noted call answer) action := by
  rintro world behind ⟨rfl, holds⟩
  exact ⟨rfl, rfl, kept _ _ holds⟩

theorem notedHook_mirrors {Part : Type} {call : Part → Call}
    (hook : Effect (Part × World σ) Failure Unit)
    (kept : ∀ part journal answer, required journal → required (journal ++ [⟨call part, answer⟩])) :
    Effect.Mirrors (alongside (Journaling required) Part) (notedHook call hook) hook := by
  rintro ⟨part, world⟩ ⟨part', behind⟩ ⟨rfl, rfl, holds⟩
  exact ⟨rfl, rfl, rfl, kept _ _ _ holds⟩

/-- The plugins do the same with a journal, as long as calls other than of the transport keep it as
required. -/
theorem Registry.journaled_mirrors (registry : Registry σ)
    (kept : ∀ journal entry, entry.call.request? = none → required journal →
      required (journal ++ [entry])) :
    registry.journaled.Mirrors (Journaling required) registry where
  containsPlugin := registry.containsPlugin_journaled
  variableSources plugin member := by
    rw [registry.variableSource?_journaled]
    cases registry.variableSource? plugin member with
    | none => exact .none
    | some source =>
      exact .some (source.noted_mirrors _ fun journal answer => kept journal ⟨_, answer⟩ rfl)
  functionSources plugin function := by
    rw [registry.functionSource?_journaled]
    cases registry.functionSource? plugin function with
    | none => exact .none
    | some source =>
      exact .some fun arguments =>
        (source arguments).noted_mirrors _ fun journal answer => kept journal ⟨_, answer⟩ rfl
  secretResolvers := by
    refine List.forall₂_map_left_iff.mpr (List.forall₂_same.mpr ?_)
    exact fun resolver _ name =>
      (resolver.2 name).noted_mirrors _ fun journal answer => kept journal ⟨_, answer⟩ rfl
  preRequestHooks := by
    refine List.forall₂_map_left_iff.mpr (List.forall₂_same.mpr ?_)
    exact fun hook _ =>
      ⟨rfl, notedHook_mirrors hook.2 fun _ journal answer => kept journal ⟨_, answer⟩ rfl⟩
  postResponseHooks := by
    refine List.forall₂_map_left_iff.mpr (List.forall₂_same.mpr ?_)
    exact fun hook _ => ⟨rfl, fun request =>
      notedHook_mirrors (hook.2 request) fun _ journal answer => kept journal ⟨_, answer⟩ rfl⟩

/-- A run with a journal has the outcome of the run without one. -/
theorem Executor.journaled_mirrors (executor : Executor σ) :
    executor.journaled.Mirrors (Journaling fun _ => True) executor where
  registry := executor.registry.journaled_mirrors fun _ _ _ _ => trivial
  transport request := (executor.transport request).noted_mirrors _ fun _ _ _ => trivial
  dryRun := rfl

end Mirrors

end RequestChain
