import RequestChain.Proofs.Failures
import RequestChain.Resolve

/-! # The references of a template and the calls around them

A reference may stand in an argument of a call, which may stand in an argument of another call. It
is looked up as deep as there are calls around it. A rendering fails only with errors that one of
these references may have, and it succeeds only if all of them are looked up with success.
-/

namespace RequestChain

/-! ## References -/

namespace Template

mutual

/-- The references of a segment. -/
def nestedSegment (calls : Nat) : Segment → List (Nat × Reference)
  | .literal _ => []
  | .placeholder reference => nestedReference calls reference

/-- A reference and those in its arguments. -/
def nestedReference (calls : Nat) : Reference → List (Nat × Reference)
  | .mk raw optional target => (calls, .mk raw optional target) :: nestedTarget calls target

/-- The references in the arguments of a target. -/
def nestedTarget (calls : Nat) : Target → List (Nat × Reference)
  | .pluginCall _ _ arguments => nestedArguments (calls + 1) arguments
  | .variable _ | .scoped _ _ | .pluginVariable _ _ | .step _ _ => []

/-- The references of arguments. -/
def nestedArguments (calls : Nat) : List (List Segment) → List (Nat × Reference)
  | [] => []
  | argument :: rest => nested calls argument ++ nestedArguments calls rest

/-- The references of a template, each with the number of calls around it. `calls` are around the
template itself. -/
def nested (calls : Nat) : List Segment → List (Nat × Reference)
  | [] => []
  | segment :: rest => nestedSegment calls segment ++ nested calls rest

end

/-- A reference with more calls around it. -/
private def deeper (more : Nat) (entry : Nat × Reference) : Nat × Reference :=
  (entry.1 + more, entry.2)

mutual

private theorem nestedSegment_add (calls more : Nat) : ∀ segment : Segment,
    nestedSegment (calls + more) segment = (nestedSegment calls segment).map (deeper more)
  | .literal text => by
    rw [nestedSegment, nestedSegment, List.map_nil]
  | .placeholder reference => by
    rw [nestedSegment, nestedSegment, nestedReference_add]

private theorem nestedReference_add (calls more : Nat) : ∀ reference : Reference,
    nestedReference (calls + more) reference = (nestedReference calls reference).map (deeper more)
  | .mk raw optional target => by
    rw [nestedReference, nestedReference, nestedTarget_add, List.map_cons]
    rfl

private theorem nestedTarget_add (calls more : Nat) : ∀ target : Target,
    nestedTarget (calls + more) target = (nestedTarget calls target).map (deeper more)
  | .pluginCall plugin function arguments => by
    rw [nestedTarget, nestedTarget, Nat.add_right_comm, nestedArguments_add]
  | .variable _ | .scoped _ _ | .pluginVariable _ _ | .step _ _ => by
    rw [nestedTarget, nestedTarget, List.map_nil]

private theorem nestedArguments_add (calls more : Nat) : ∀ arguments : List (List Segment),
    nestedArguments (calls + more) arguments =
      (nestedArguments calls arguments).map (deeper more)
  | [] => by
    rw [nestedArguments, nestedArguments, List.map_nil]
  | argument :: rest => by
    rw [nestedArguments, nestedArguments, nested_add, nestedArguments_add, List.map_append]

private theorem nested_add (calls more : Nat) : ∀ segments : List Segment,
    nested (calls + more) segments = (nested calls segments).map (deeper more)
  | [] => by
    rw [nested, nested, List.map_nil]
  | segment :: rest => by
    rw [nested, nested, nestedSegment_add, nested_add, List.map_append]

end

/-- Calls around a template are around each of its references. -/
theorem mem_nested_iff {calls : Nat} {segments : List Segment} {entry : Nat × Reference} :
    entry ∈ nested calls segments ↔
      ∃ inner, (inner, entry.2) ∈ nested 0 segments ∧ entry.1 = inner + calls := by
  obtain ⟨count, reference⟩ := entry
  rw [← Nat.zero_add calls, nested_add, List.mem_map]
  constructor
  · rintro ⟨⟨inner, _⟩, member, same⟩
    cases same
    exact ⟨inner, member, by simp⟩
  · rintro ⟨inner, member, same⟩
    exact ⟨(inner, reference), member, Prod.ext (by simpa [deeper] using same.symm) rfl⟩

end Template

/-- The text of a variable. Plugins, secrets and recorded steps have none. -/
def Context.heldText? (context : Context) : Target → Option String
  | .variable name => context.lookup name
  | .scoped scope name => context.lookupScoped scope name
  | .pluginVariable _ _ | .pluginCall _ _ _ | .step _ _ => none

/-- A plugin's variable or function that is referred to and not registered. -/
inductive Registry.Lacks {σ : Type} (registry : Registry σ) : Target → String → String → Prop
  | variable {plugin member : String} (missing : registry.variableSource? plugin member = none) :
      registry.Lacks (.pluginVariable plugin member) plugin member
  | function {plugin function : String} {arguments : List (List Segment)}
      (missing : registry.functionSource? plugin function = none) :
      registry.Lacks (.pluginCall plugin function arguments) plugin function

section

variable {σ : Type} {registry : Registry σ} {context : Context} {expand : Expander σ}
  {explained : ResolutionError → World σ → Prop}

/-! ## Errors -/

/-- What may be wrong with a reference itself: its lookup has given no value and left the world, or
it is to a plugin or a member that is not registered. -/
inductive Reference.IsUndefined (registry : Registry σ) (context : Context) (expand : Expander σ)
    (depth : Nat) (reference : Reference) : ResolutionError → World σ → Prop
  | value {before after : World σ}
      (absent : (lookupReference registry context expand depth reference).run before =
        (.ok none, after)) :
      reference.IsUndefined registry context expand depth (.unresolved reference.raw) after
  | plugin {plugin member : String} {after : World σ}
      (missing : registry.Lacks reference.target plugin member)
      (unknown : registry.containsPlugin plugin = false) :
      reference.IsUndefined registry context expand depth
        (.unknownPlugin reference.raw plugin) after
  | member {plugin member : String} {after : World σ}
      (missing : registry.Lacks reference.target plugin member)
      (known : registry.containsPlugin plugin = true) :
      reference.IsUndefined registry context expand depth
        (.unknownPluginMember reference.raw plugin member) after

/-- The errors that a reference may have are explained: those of something undefined, unless it is
optional, those of a collaborator, and those of its value. -/
structure Reference.Explains (registry : Registry σ) (context : Context) (expand : Expander σ)
    (explained : ResolutionError → World σ → Prop) (depth : Nat) (reference : Reference) :
    Prop where
  undefined : reference.optional = true ∨
    ∀ error after, reference.IsUndefined registry context expand depth error after →
      explained error after
  plugin : ∀ failure after, explained (.pluginFailed reference.raw failure) after
  secret : ∀ failure after, explained (.secretFailed reference.raw failure) after
  value : ∀ text, context.heldText? reference.target = some text →
    Template.containsPlaceholder text = true → (expand depth reference text).FailsWith explained

namespace Reference.Explains

variable {depth : Nat} {reference : Reference}

private theorem missingMember_fails
    (explains : reference.Explains registry context expand explained depth) {plugin member : String}
    (missing : registry.Lacks reference.target plugin member) :
    (missingMember registry reference plugin member).FailsWith explained := by
  unfold missingMember
  split
  · exact .pure none
  · rename_i firm
    rcases explains.undefined with isOptional | undefined
    · exact absurd isOptional firm
    · split
      · rename_i unknown
        exact .fail fun after => undefined _ after (.plugin missing (by simpa using unknown))
      · rename_i known
        exact .fail fun after => undefined _ after (.member missing (by simpa using known))

private theorem callVariable_fails
    (explains : reference.Explains registry context expand explained depth) {plugin member : String}
    (named : reference.target = .pluginVariable plugin member) :
    (callVariable registry reference plugin member).FailsWith explained := by
  unfold callVariable
  split
  · rename_i missing
    apply explains.missingMember_fails
    rw [named]
    exact .variable missing
  · exact .bind (.mapError explains.plugin _) fun _ => .pure _

private theorem callFunction_fails
    (explains : reference.Explains registry context expand explained depth)
    {plugin function : String} {templates : List (List Segment)}
    (named : reference.target = .pluginCall plugin function templates) (arguments : List String) :
    (callFunction registry reference plugin function arguments).FailsWith explained := by
  unfold callFunction
  split
  · rename_i missing
    apply explains.missingMember_fails
    rw [named]
    exact .function missing
  · exact .bind (.mapError explains.plugin _) fun _ => .pure _

private theorem firstSecret_fails
    (explains : reference.Explains registry context expand explained depth) (name : String)
    (resolvers : List (String × SecretResolver σ)) :
    (firstSecret reference name resolvers).FailsWith explained := by
  induction resolvers with
  | nil => exact .pure none
  | cons resolver rest ih =>
    rw [firstSecret]
    refine .bind (.mapError explains.secret _) fun found => ?_
    cases found with
    | none => exact ih
    | some text => exact .pure (some text)

private theorem expandValue_fails
    (explains : reference.Explains registry context expand explained depth)
    {value : Option String} (held : context.heldText? reference.target = value) :
    (expandValue expand depth reference value).FailsWith explained := by
  cases value with
  | none => exact .pure none
  | some text =>
    simp only [expandValue]
    split
    · rename_i expands
      exact explains.value text held expands
    · exact .pure (some text)

end Reference.Explains

mutual

private theorem renderSegment_failsWith (depth : Nat) : ∀ segment : Segment,
    (∀ entry ∈ Template.nestedSegment depth segment,
      entry.2.Explains registry context expand explained entry.1) →
    (renderSegment registry context expand depth segment).FailsWith explained
  | .literal text, _ => by
    rw [renderSegment]
    exact .pure _
  | .placeholder (.mk raw optional target), explains => by
    rw [Template.nestedSegment, Template.nestedReference] at explains
    obtain ⟨itself, inside⟩ := List.forall_mem_cons.mp explains
    have looksUp : (lookupReference registry context expand depth
        (.mk raw optional target)).FailsWith explained := by
      rw [lookupReference]
      exact lookupTarget_failsWith depth (.mk raw optional target) itself target rfl inside
    rw [renderSegment]
    intro world error last failed
    rcases Effect.of_run_bind_eq_error failed with lookup | ⟨value, after, found, later⟩
    · exact looksUp world error last lookup
    · split at later
      · rename_i missing
        cases later
        rw [Bool.and_eq_true, Option.isNone_iff_eq_none] at missing
        obtain ⟨rfl, firm⟩ := missing
        rcases itself.undefined with isOptional | undefined
        · rw [isOptional] at firm
          cases firm
        · exact undefined _ last (.value found)
      · cases later

private theorem lookupTarget_failsWith (depth : Nat) (reference : Reference)
    (itself : reference.Explains registry context expand explained depth) : ∀ target : Target,
    reference.target = target →
    (∀ entry ∈ Template.nestedTarget depth target,
      entry.2.Explains registry context expand explained entry.1) →
    (lookupTarget registry context expand depth reference target).FailsWith explained
  | .variable name, named, _ => by
    rw [lookupTarget]
    exact itself.expandValue_fails (congrArg context.heldText? named)
  | .scoped scope name, named, _ => by
    by_cases secret : scope = .secret
    · subst secret
      rw [lookupTarget]
      exact itself.firstSecret_fails name _
    · rw [lookupTarget_scoped _ _ _ _ _ _ secret]
      exact itself.expandValue_fails (congrArg context.heldText? named)
  | .pluginVariable plugin member, named, _ => by
    rw [lookupTarget]
    exact itself.callVariable_fails named
  | .pluginCall plugin function arguments, named, explains => by
    rw [Template.nestedTarget] at explains
    rw [lookupTarget]
    exact .bind (renderArguments_failsWith (depth + 1) arguments explains)
      fun values => itself.callFunction_fails named values
  | .step id path, _, _ => by
    rw [lookupTarget]
    exact .pure _

private theorem renderArguments_failsWith (depth : Nat) :
    ∀ arguments : List (List Segment),
    (∀ entry ∈ Template.nestedArguments depth arguments,
      entry.2.Explains registry context expand explained entry.1) →
    (renderArguments registry context expand depth arguments).FailsWith explained
  | [], _ => by
    rw [renderArguments]
    exact .pure []
  | argument :: rest, explains => by
    rw [Template.nestedArguments] at explains
    obtain ⟨first, others⟩ := List.forall_mem_append.mp explains
    rw [renderArguments]
    exact .bind (renderSegments_failsWith depth argument first) fun _ =>
      .bind (renderArguments_failsWith depth rest others) fun _ => .pure _

/-- A template fails only with errors that one of its references may have. -/
theorem renderSegments_failsWith (depth : Nat) : ∀ segments : List Segment,
    (∀ entry ∈ Template.nested depth segments,
      entry.2.Explains registry context expand explained entry.1) →
    (renderSegments registry context expand depth segments).FailsWith explained
  | [], _ => by
    rw [renderSegments]
    exact .pure _
  | segment :: rest, explains => by
    rw [Template.nested] at explains
    obtain ⟨first, others⟩ := List.forall_mem_append.mp explains
    rw [renderSegments]
    exact .bind (renderSegment_failsWith depth segment first) fun _ =>
      .bind (renderSegments_failsWith depth rest others) fun _ => .pure _

end

/-- A value fails with the errors of its template, unless these make an optional value undefined, or
because it is no template or too deep. -/
theorem expandWithin_failsWith {expected : ResolutionError → World σ → Prop} {levels depth : Nat}
    {reference : Reference} {text : String}
    (tooDeep : maxDepth ≤ depth + 1 → ∀ after, explained (.depthExceeded reference.raw) after)
    (malformed : ∀ error after, explained (.template error) after)
    (inside : ∀ template, Template.parse text = .ok template → depth + 1 < maxDepth →
      (renderSegments registry context (expandWithin registry context levels) (depth + 1)
        template).FailsWith expected)
    (kept : ∀ error after, expected error after →
      (reference.optional && error.isUndefined) = false → explained error after) :
    (expandWithin registry context (levels + 1) depth reference text).FailsWith explained := by
  by_cases deep : maxDepth ≤ depth + 1
  · simp only [expandWithin, if_pos deep]
    exact .fail (tooDeep deep)
  · cases parsed : Template.parse text with
    | error error =>
      simp only [expandWithin, if_neg deep, parsed]
      exact .fail (malformed error)
    | ok template =>
      rw [expandWithin_of_parsed registry context deep parsed]
      have rendered := inside template parsed (Nat.lt_of_not_le deep)
      refine .recover (.bind rendered fun _ => .pure _)
        fun error after expectedError unrecovered => ?_
      refine kept error after expectedError ?_
      cases hidden : reference.optional && error.isUndefined with
      | true =>
        rw [hidden] at unrecovered
        cases unrecovered
      | false => rfl

namespace Reference.IsUndefined

variable {depth : Nat} {reference : Reference} {error : ResolutionError} {after : World σ}

theorem isUndefined
    (undefined : reference.IsUndefined registry context expand depth error after) :
    error.isUndefined = true := by
  cases undefined <;> rfl

/-- The error names the reference. -/
theorem raw_eq (undefined : reference.IsUndefined registry context expand depth error after) :
    reference.raw = error.reference := by
  cases undefined <;> rfl

end Reference.IsUndefined

/-! ## Success -/

/-- The value of a reference is not expanded, or expanded with success in some world. -/
def Reference.Expanded (context : Context) (expand : Expander σ) (depth : Nat)
    (reference : Reference) : Prop :=
  ∀ text, context.heldText? reference.target = some text →
    Template.containsPlaceholder text = true →
    ∃ before value after, (expand depth reference text).run before = (.ok value, after)

private theorem expanded_of_expandValue {depth : Nat} {reference : Reference}
    {world after : World σ} {held value : Option String}
    (named : context.heldText? reference.target = held)
    (returned : (expandValue expand depth reference held).run world = (.ok value, after)) :
    reference.Expanded context expand depth := by
  intro text found expands
  rw [← named, found, expandValue, if_pos expands] at returned
  exact ⟨world, value, after, returned⟩

mutual

private theorem expanded_of_renderSegment (depth : Nat) :
    ∀ (segment : Segment) (world after : World σ) (rendered : Rendered),
    (renderSegment registry context expand depth segment).run world = (.ok rendered, after) →
    ∀ entry ∈ Template.nestedSegment depth segment, entry.2.Expanded context expand entry.1
  | .literal text, _, _, _, _ => by
    rw [Template.nestedSegment]
    exact nofun
  | .placeholder (.mk raw optional target), world, after, rendered, returned => by
    rw [renderSegment, lookupReference] at returned
    obtain ⟨value, middle, found, -⟩ := Effect.of_run_bind_eq_ok returned
    rw [Template.nestedSegment, Template.nestedReference]
    exact List.forall_mem_cons.mpr
      (expanded_of_lookupTarget depth (.mk raw optional target) target rfl world middle value found)

private theorem expanded_of_lookupTarget (depth : Nat) (reference : Reference) :
    ∀ target : Target, reference.target = target →
    ∀ (world after : World σ) (value : Option String),
    (lookupTarget registry context expand depth reference target).run world = (.ok value, after) →
    reference.Expanded context expand depth ∧
      ∀ entry ∈ Template.nestedTarget depth target, entry.2.Expanded context expand entry.1
  | .variable name, named, world, after, value, returned => by
    rw [lookupTarget] at returned
    rw [Template.nestedTarget]
    exact ⟨expanded_of_expandValue (congrArg context.heldText? named) returned, nofun⟩
  | .scoped scope name, named, world, after, value, returned => by
    rw [Template.nestedTarget]
    refine ⟨?_, nofun⟩
    by_cases secret : scope = .secret
    · subst secret
      intro text held
      rw [named] at held
      cases held
    · rw [lookupTarget_scoped _ _ _ _ _ _ secret] at returned
      exact expanded_of_expandValue (congrArg context.heldText? named) returned
  | .pluginCall plugin function arguments, named, world, after, value, returned => by
    rw [lookupTarget] at returned
    obtain ⟨values, middle, filled, -⟩ := Effect.of_run_bind_eq_ok returned
    rw [Template.nestedTarget]
    refine ⟨fun text held => ?_,
      expanded_of_renderArguments (depth + 1) arguments world middle values filled⟩
    rw [named] at held
    cases held
  | .pluginVariable _ _, named, _, _, _, _ | .step _ _, named, _, _, _, _ => by
    rw [Template.nestedTarget]
    refine ⟨fun text held => ?_, nofun⟩
    rw [named] at held
    cases held

private theorem expanded_of_renderArguments (depth : Nat) :
    ∀ (arguments : List (List Segment)) (world after : World σ) (values : List String),
    (renderArguments registry context expand depth arguments).run world = (.ok values, after) →
    ∀ entry ∈ Template.nestedArguments depth arguments, entry.2.Expanded context expand entry.1
  | [], _, _, _, _ => by
    rw [Template.nestedArguments]
    exact nofun
  | argument :: rest, world, after, values, returned => by
    rw [renderArguments] at returned
    obtain ⟨first, middle, isFirst, returned⟩ := Effect.of_run_bind_eq_ok returned
    obtain ⟨others, last, areOthers, -⟩ := Effect.of_run_bind_eq_ok returned
    rw [Template.nestedArguments]
    exact List.forall_mem_append.mpr
      ⟨expanded_of_renderSegments depth argument world middle first isFirst,
        expanded_of_renderArguments depth rest middle last others areOthers⟩

/-- A template is rendered only if each of its references is looked up with success. -/
theorem expanded_of_renderSegments (depth : Nat) :
    ∀ (segments : List Segment) (world after : World σ) (rendered : Rendered),
    (renderSegments registry context expand depth segments).run world = (.ok rendered, after) →
    ∀ entry ∈ Template.nested depth segments, entry.2.Expanded context expand entry.1
  | [], _, _, _, _ => by
    rw [Template.nested]
    exact nofun
  | segment :: rest, world, after, rendered, returned => by
    rw [renderSegments] at returned
    obtain ⟨first, middle, isFirst, returned⟩ := Effect.of_run_bind_eq_ok returned
    obtain ⟨others, last, areOthers, -⟩ := Effect.of_run_bind_eq_ok returned
    rw [Template.nested]
    exact List.forall_mem_append.mpr
      ⟨expanded_of_renderSegment depth segment world middle first isFirst,
        expanded_of_renderSegments depth rest middle last others areOthers⟩

end

end

end RequestChain
