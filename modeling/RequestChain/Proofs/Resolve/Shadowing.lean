import RequestChain.Proofs.Layers
import RequestChain.Proofs.Resolve.Answers
import RequestChain.Proofs.Resolve.Nested
import RequestChain.Proofs.Resolve.Repetition

/-! # Shadowed values

Two contexts differ in one entry of one layer. A rendering cannot tell them apart if a layer above
has a text for the name and no reference is qualified by the lower layer: whatever the rendering
looks up stands in the text or in a value, and an unqualified name ends above. Nor can it tell a null
entry from no entry.
-/

namespace RequestChain

/-! ## Where references come from -/

/-- The references of a text, also those in arguments of calls. -/
def Template.referencesIn (text : String) : List Reference :=
  match Template.parse text with
  | .error _ => []
  | .ok template => (Template.nested 0 template).map Prod.snd

/-- Each reference of a template, whatever the calls around it are. -/
private theorem Template.forall_nested {P : Reference → Prop} {text : String} {template : Template}
    (parsed : Template.parse text = .ok template)
    (all : ∀ reference ∈ Template.referencesIn text, P reference) (calls : Nat) :
    ∀ entry ∈ Template.nested calls template, P entry.2 := by
  intro entry member
  obtain ⟨inner, isNested, -⟩ := Template.mem_nested_iff.mp member
  apply all
  rw [Template.referencesIn, parsed]
  exact List.mem_map.mpr ⟨_, isNested, rfl⟩

section

variable {σ : Type} {registry : Registry σ} {context : Context} {expand : Expander σ}
  {nested : ExpansionLookups σ} {P : Reference → Prop}

/-- Something holds of each reference in the values of a context. -/
def Context.HasOnly (context : Context) (P : Reference → Prop) : Prop :=
  ∀ value ∈ context.texts, ∀ reference ∈ Template.referencesIn value, P reference

/-- What holds of the references of a text holds of those that are reached by expanding it. -/
def ExpansionLookups.Keeps (P : Reference → Prop) (nested : ExpansionLookups σ) : Prop :=
  ∀ depth reference text world, (∀ inner ∈ Template.referencesIn text, P inner) →
    ∀ lookup ∈ nested depth reference text world, P lookup.reference

private theorem valueLookups_keep (keeps : nested.Keeps P) (values : context.HasOnly P)
    (depth : Nat) (reference : Reference) {held : Option String}
    (ofContext : ∀ text, held = some text → text ∈ context.texts) (world : World σ) :
    ∀ lookup ∈ valueLookups nested depth reference held world, P lookup.reference := by
  cases held with
  | none => exact List.forall_mem_nil _
  | some text =>
    rw [valueLookups]
    split
    · exact keeps depth reference text world (values text (ofContext text rfl))
    · exact List.forall_mem_nil _

mutual

private theorem segmentLookups_keep (keeps : nested.Keeps P) (values : context.HasOnly P)
    (depth calls : Nat) : ∀ (segment : Segment) (world : World σ),
    (∀ entry ∈ Template.nestedSegment calls segment, P entry.2) →
    ∀ lookup ∈ segmentLookups registry context expand nested depth segment world,
      P lookup.reference
  | .literal _, _, _ => by
    rw [segmentLookups]
    exact List.forall_mem_nil _
  | .placeholder (.mk raw optional target), world, own => by
    rw [Template.nestedSegment, Template.nestedReference] at own
    obtain ⟨itself, inside⟩ := List.forall_mem_cons.mp own
    rw [segmentLookups, referenceLookups]
    refine List.forall_mem_cons.mpr ⟨itself, ?_⟩
    intro lookup member
    obtain ⟨inner, reached, rfl⟩ := List.mem_map.mp member
    exact targetLookups_keep keeps values depth calls _ target world inside inner reached

private theorem targetLookups_keep (keeps : nested.Keeps P) (values : context.HasOnly P)
    (depth calls : Nat) (reference : Reference) : ∀ (target : Target) (world : World σ),
    (∀ entry ∈ Template.nestedTarget calls target, P entry.2) →
    ∀ lookup ∈ targetLookups registry context expand nested depth reference target world,
      P lookup.reference
  | .variable name, world, _ => by
    rw [targetLookups]
    exact valueLookups_keep keeps values depth reference
      (fun text => Context.mem_texts_of_lookup) world
  | .scoped scope name, world, _ => by
    by_cases secret : scope = .secret
    · subst secret
      rw [targetLookups]
      exact List.forall_mem_nil _
    · rw [targetLookups_scoped _ _ _ _ _ _ _ _ secret]
      exact valueLookups_keep keeps values depth reference
        (fun text => Context.mem_texts_of_lookupScoped) world
  | .pluginVariable _ _, _, _ => by
    rw [targetLookups]
    exact List.forall_mem_nil _
  | .pluginCall plugin function arguments, world, own => by
    rw [Template.nestedTarget] at own
    rw [targetLookups]
    exact argumentsLookups_keep keeps values (depth + 1) (calls + 1) arguments world own
  | .step _ _, _, _ => by
    rw [targetLookups]
    exact List.forall_mem_nil _

private theorem argumentsLookups_keep (keeps : nested.Keeps P) (values : context.HasOnly P)
    (depth calls : Nat) : ∀ (arguments : List (List Segment)) (world : World σ),
    (∀ entry ∈ Template.nestedArguments calls arguments, P entry.2) →
    ∀ lookup ∈ argumentsLookups registry context expand nested depth arguments world,
      P lookup.reference
  | [], _, _ => by
    rw [argumentsLookups]
    exact List.forall_mem_nil _
  | argument :: rest, world, own => by
    rw [Template.nestedArguments] at own
    obtain ⟨first, others⟩ := List.forall_mem_append.mp own
    rw [argumentsLookups]
    refine List.forall_mem_append.mpr ⟨?_, ?_⟩
    · exact segmentsLookups_keep keeps values depth calls argument world first
    · intro lookup later
      obtain ⟨rendered, after, -, reached⟩ := Effect.mem_whenReturned.mp later
      exact argumentsLookups_keep keeps values depth calls rest after others lookup reached

private theorem segmentsLookups_keep (keeps : nested.Keeps P) (values : context.HasOnly P)
    (depth calls : Nat) : ∀ (segments : List Segment) (world : World σ),
    (∀ entry ∈ Template.nested calls segments, P entry.2) →
    ∀ lookup ∈ segmentsLookups registry context expand nested depth segments world,
      P lookup.reference
  | [], _, _ => by
    rw [segmentsLookups]
    exact List.forall_mem_nil _
  | segment :: rest, world, own => by
    rw [Template.nested] at own
    obtain ⟨first, others⟩ := List.forall_mem_append.mp own
    rw [segmentsLookups]
    refine List.forall_mem_append.mpr ⟨?_, ?_⟩
    · exact segmentLookups_keep keeps values depth calls segment world first
    · intro lookup later
      obtain ⟨rendered, after, -, reached⟩ := Effect.mem_whenReturned.mp later
      exact segmentsLookups_keep keeps values depth calls rest after others lookup reached

end

private theorem expansionLookups_keep (values : context.HasOnly P) (levels : Nat) :
    (expansionLookups registry context levels).Keeps P := by
  induction levels with
  | zero =>
    intro depth reference text world _
    exact List.forall_mem_nil _
  | succ levels ih =>
    intro depth reference text world own
    simp only [expansionLookups]
    split
    · exact List.forall_mem_nil _
    · cases parsed : Template.parse text with
      | error error => exact List.forall_mem_nil _
      | ok template =>
        exact segmentsLookups_keep ih values (depth + 1) 0 template world
          (Template.forall_nested parsed own 0)

/-- A reference stands in a text or in a value of the context. -/
def Context.Mentions (context : Context) (text : String) (reference : Reference) : Prop :=
  ∃ source ∈ text :: context.texts, reference ∈ Template.referencesIn source

/-- A rendering reaches no other references than those of the text and of the values. -/
theorem mentions_of_mem_renderLookups {text : String} {world : World σ} {lookup : Lookup}
    (reached : lookup ∈ renderLookups registry context text world) :
    context.Mentions text lookup.reference := by
  have values : context.HasOnly (context.Mentions text) :=
    fun value isValue reference stands => ⟨value, List.mem_cons_of_mem text isValue, stands⟩
  have own : ∀ reference ∈ Template.referencesIn text, context.Mentions text reference :=
    fun reference stands => ⟨text, List.mem_cons_self, stands⟩
  rw [renderLookups] at reached
  split at reached
  · cases parsed : Template.parse text with
    | error error =>
      rw [parsed] at reached
      cases reached
    | ok template =>
      rw [parsed] at reached
      exact segmentsLookups_keep (expansionLookups_keep values maxDepth) values 0 0 template world
        (Template.forall_nested parsed own 0) lookup reached
  · cases reached

end

/-! ## Contexts that differ in one entry -/

/-- Whether a reference is qualified by a layer, so that no other one is asked. -/
def Reference.isQualifiedBy (layer : Layer) (reference : Reference) : Bool :=
  match reference.target with
  | .scoped scope _ => Layer.ofScope? scope == some layer
  | _ => false

/-- Whether a text has a reference that is qualified by a layer. -/
def Template.isQualifiedBy (layer : Layer) (text : String) : Bool :=
  (referencesIn text).any (·.isQualifiedBy layer)

/-- The contexts differ at most in the entry of a name in a layer. -/
structure Context.DifferAt (layer : Layer) (name : String) (left right : Context) : Prop where
  entries : ∀ other key, (other, key) ≠ (layer, name) →
    left.entry? other key = right.entry? other key
  steps : left.steps = right.steps

/-- A text has the same rendering in two contexts, and collaborators are called in the same way. -/
structure Context.RenderAlike {σ : Type} (registry : Registry σ) (left right : Context)
    (text : String) : Prop where
  outcome : render registry left text = render registry right text
  calls : ∀ world,
    renderJournaled registry left text world = renderJournaled registry right text world

section

variable {left right : Context} {layer : Layer} {name : String}

theorem Context.DifferAt.layerText?_eq (differ : Context.DifferAt layer name left right)
    {other : Layer} {key : String} (elsewhere : (other, key) ≠ (layer, name)) :
    left.layerText? other key = right.layerText? other key := by
  rw [layerText?, layerText?, differ.entries other key elsewhere]

theorem Context.DifferAt.stepValue_eq (differ : Context.DifferAt layer name left right)
    (id : String) (path : List String) : left.stepValue id path = right.stepValue id path := by
  rw [stepValue, stepValue, differ.steps]

/-- A reference is looked up with the same result, if the name is and, under a qualifier, the entry. -/
private theorem Context.DifferAt.agreeAt (differ : Context.DifferAt layer name left right)
    (unqualified : left.lookup name = right.lookup name) (reference : Reference)
    (qualified : reference.isQualifiedBy layer = true →
      left.layerText? layer name = right.layerText? layer name) :
    left.AgreeAt .same right reference.target := by
  cases named : reference.target with
  | «variable» key =>
    by_cases asked : key = name
    · subst asked
      exact unqualified
    · apply Context.lookup_congr
      intro other
      apply differ.layerText?_eq
      intro same
      exact asked (congrArg Prod.snd same)
  | «scoped» scope key =>
    change left.lookupScoped scope key = right.lookupScoped scope key
    rw [Context.lookupScoped_eq, Context.lookupScoped_eq]
    cases ofScope : Layer.ofScope? scope with
    | none => rfl
    | some other =>
      by_cases here : (other, key) = (layer, name)
      · cases here
        apply qualified
        simp [Reference.isQualifiedBy, named, ofScope]
      · exact differ.layerText?_eq here
  | step id path =>
    have itself : right.AgreeAt .same right (.step id path) := .refl right _
    change Option.Rel _ _ _
    rw [differ.stepValue_eq]
    exact itself
  | pluginVariable plugin member => trivial
  | pluginCall plugin function arguments => trivial

/-- Contexts that agree on every reference of a text and of the values render the text alike. -/
private theorem Context.RenderAlike.of_agreeAt {σ : Type} {registry : Registry σ} {text : String}
    (agree : ∀ reference, left.Mentions text reference →
      left.AgreeAt .same right reference.target) :
    Context.RenderAlike registry left right text := by
  have agreeOn {τ : Type} (registry : Registry τ) (world : World τ) :
      left.AgreeOn .same right (renderLookups registry left text world) :=
    fun lookup reached => agree lookup.reference (mentions_of_mem_renderLookups reached)
  constructor
  · exact render_eq_of_agree (agreeOn registry)
  · intro world
    rw [renderJournaled, renderJournaled, render_eq_of_agree (agreeOn registry.journaled)]

/-- An entry below a layer with a text cannot be seen by references without its qualifier, and a
null entry cannot be seen at all. -/
theorem render_shadowed {σ : Type} (registry : Registry σ)
    (differ : Context.DifferAt layer name left right) :
    ((∃ higher ∈ layer.above, ∃ value, left.entry? higher name = some value ∧ value ≠ .null) →
      ∀ text, (∀ source ∈ text :: (left.texts ++ right.texts),
        Template.isQualifiedBy layer source = false) →
      Context.RenderAlike registry left right text) ∧
    (left.entry? layer name = some .null → right.entry? layer name = none →
      ∀ text, Context.RenderAlike registry left right text) := by
  have elsewhere (other : Layer) (differs : other ≠ layer) :
      left.layerText? other name = right.layerText? other name :=
    differ.layerText?_eq fun same => differs (congrArg Prod.fst same)
  constructor
  · rintro ⟨higher, isAbove, value, held, notNull⟩ text unqualified
    have hasText : left.layerText? higher name ≠ none := by
      intro none
      exact notNull (Context.layerText?_eq_none_iff.mp none value held)
    apply Context.RenderAlike.of_agreeAt
    rintro reference ⟨source, isSource, stands⟩
    apply differ.agreeAt (Context.lookup_congr_of_above isAbove hasText elsewhere)
    intro qualified
    have isListed : source ∈ text :: (left.texts ++ right.texts) := by
      rw [← List.cons_append]
      exact List.mem_append_left right.texts isSource
    have none := List.any_eq_false.mp (unqualified source isListed) reference stands
    exact absurd qualified none
  · intro isNull isAbsent text
    have here : left.layerText? layer name = right.layerText? layer name := by
      rw [Context.layerText?, Context.layerText?, isNull, isAbsent]
      rfl
    have everywhere (other : Layer) : left.layerText? other name = right.layerText? other name := by
      by_cases same : other = layer
      · exact same ▸ here
      · exact elsewhere other same
    apply Context.RenderAlike.of_agreeAt
    intro reference _
    exact differ.agreeAt (Context.lookup_congr everywhere) reference fun _ => here

end

/-- A new entry in the profile is a difference in that entry only. -/
theorem Context.differAt_insert_profile (context : Context) (name : String) (value : Json) :
    Context.DifferAt .profile name { context with profile := context.profile.insert name value }
      context where
  entries other key elsewhere := by
    cases other with
    | profile =>
      change (context.profile.insert name value).get? key = context.profile.get? key
      rw [OrderedMap.get?_insert, if_neg]
      rintro rfl
      exact elsewhere rfl
    | cli | chain | endpoint | api | env => rfl
  steps := rfl

theorem render_shadowed_profile :
    let given : Context := { cli := .ofList [("name", "shown")] }
    let hidden : Context := { given with profile := given.profile.insert "name" (.string "hidden") }
    let null : Context := { profile := ({} : ScalarMap).insert "name" .null }
    Context.RenderAlike (Registry.empty : Registry Unit) hidden given
      "\x7b\x7bname\x7d\x7d\x7b\x7benv.name?\x7d\x7d" ∧
    Context.RenderAlike (Registry.empty : Registry Unit) null {} "\x7b\x7bprofile.name?\x7d\x7d" := by
  intro given hidden null
  constructor
  · refine (render_shadowed Registry.empty
      (given.differAt_insert_profile "name" (.string "hidden"))).1 ?_ _ ?_
    · exact ⟨.cli, by decide, .string "shown", rfl, nofun⟩
    · decide +kernel
  · exact (render_shadowed Registry.empty
      (({} : Context).differAt_insert_profile "name" .null)).2 rfl rfl _

end RequestChain
