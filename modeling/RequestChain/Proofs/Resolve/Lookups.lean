import RequestChain.Resolve

/-! # What a rendering looks up

The references that a rendering reaches, in the order in which it reaches them: those of the
template, those in arguments of calls, and those in the values that expand. What follows a piece
that fails is not reached. A reference is required if neither it nor a reference around it is
optional, so that nothing hides an undefined one.
-/

namespace RequestChain

/-- A reference that a rendering has reached. -/
structure Lookup where
  reference : Reference
  /-- Whether neither it nor a reference around it is optional. -/
  required : Bool

/-- A reference reached for the value of another one. -/
def Lookup.under (optional : Bool) (lookup : Lookup) : Lookup :=
  { lookup with required := lookup.required && !optional }

/-- What comes up in the world that an effect leaves, if it returns. -/
def Effect.whenReturned {W ε α β : Type} (effect : Effect W ε α) (next : W → List β) (world : W) :
    List β :=
  match effect.run world with
  | (.ok _, after) => next after
  | (.error _, _) => []

theorem Effect.mem_whenReturned {W ε α β : Type} {effect : Effect W ε α} {next : W → List β}
    {world : W} {item : β} :
    item ∈ effect.whenReturned next world ↔
      ∃ value after, effect.run world = (.ok value, after) ∧ item ∈ next after := by
  unfold whenReturned
  cases effect.run world with
  | mk outcome after =>
    cases outcome with
    | error error => simp
    | ok value =>
      constructor
      · exact fun member => ⟨value, after, rfl, member⟩
      · rintro ⟨other, left, same, member⟩
        cases same
        exact member

/-- The references that are reached by expanding the text of a value. -/
abbrev ExpansionLookups (σ : Type) := Nat → Reference → String → World σ → List Lookup

section

variable {σ : Type} (registry : Registry σ) (context : Context) (expand : Expander σ)
  (nested : ExpansionLookups σ)

/-- The references in the value of a reference. -/
def valueLookups (depth : Nat) (reference : Reference) (value : Option String) (world : World σ) :
    List Lookup :=
  match value with
  | none => []
  | some text =>
    if Template.containsPlaceholder text then nested depth reference text world else []

mutual

/-- The references of a segment. -/
def segmentLookups (depth : Nat) : Segment → World σ → List Lookup
  | .literal _, _ => []
  | .placeholder reference, world => referenceLookups depth reference world

/-- A reference and those that its value takes. -/
def referenceLookups (depth : Nat) : Reference → World σ → List Lookup
  | .mk raw optional target, world =>
    ⟨.mk raw optional target, !optional⟩ ::
      (targetLookups depth (.mk raw optional target) target world).map (.under optional)

/-- The references that the value of a target takes. -/
def targetLookups (depth : Nat) (reference : Reference) : Target → World σ → List Lookup
  | .variable name, world => valueLookups nested depth reference (context.lookup name) world
  | .scoped .secret _, _ => []
  | .scoped scope name, world =>
    valueLookups nested depth reference (context.lookupScoped scope name) world
  | .pluginVariable _ _, _ => []
  | .pluginCall _ _ arguments, world => argumentsLookups (depth + 1) arguments world
  | .step _ _, _ => []

/-- The references of arguments, up to the first that fails. -/
def argumentsLookups (depth : Nat) : List (List Segment) → World σ → List Lookup
  | [], _ => []
  | argument :: rest, world =>
    segmentsLookups depth argument world ++
      (renderSegments registry context expand depth argument).whenReturned
        (argumentsLookups depth rest) world

/-- The references of a template, up to the first segment that fails. -/
def segmentsLookups (depth : Nat) : List Segment → World σ → List Lookup
  | [], _ => []
  | segment :: rest, world =>
    segmentLookups depth segment world ++
      (renderSegment registry context expand depth segment).whenReturned
        (segmentsLookups depth rest) world

end

theorem targetLookups_scoped (depth : Nat) (reference : Reference) {scope : Scope} (name : String)
    (world : World σ) (held : scope ≠ .secret) :
    targetLookups registry context expand nested depth reference (.scoped scope name) world =
      valueLookups nested depth reference (context.lookupScoped scope name) world := by
  rw [targetLookups]
  exact fun secret => held secret

end

section

variable {σ : Type} (registry : Registry σ) (context : Context)

/-- The references in a value that expands at most so many levels. -/
def expansionLookups : Nat → ExpansionLookups σ
  | 0 => fun _ _ _ _ => []
  | levels + 1 => fun depth _ text world =>
    if maxDepth ≤ depth + 1 then []
    else
      match Template.parse text with
      | .error _ => []
      | .ok template =>
        segmentsLookups registry context (expandWithin registry context levels)
          (expansionLookups levels) (depth + 1) template world

/-- The references of a template that stands on its own. -/
def templateLookups (template : Template) (world : World σ) : List Lookup :=
  segmentsLookups registry context (expandWithin registry context maxDepth)
    (expansionLookups registry context maxDepth) 0 template world

/-- The references of a text as a template. -/
def renderLookups (text : String) (world : World σ) : List Lookup :=
  if Template.containsPlaceholder text then
    match Template.parse text with
    | .error _ => []
    | .ok template => templateLookups registry context template world
  else []

end

/-! ## Steps that have no record -/

/-- A required reference to a part of a recorded step that has no text. -/
def Lookup.Unmet (context : Context) (lookup : Lookup) : Prop :=
  lookup.required = true ∧
    ∃ id path, lookup.reference.target = .step id path ∧
      (context.stepValue id path).bind renderScalar = none

namespace Lookup.Unmet

variable {context : Context} {lookup : Lookup} {optional : Bool}

theorem of_under (unmet : (lookup.under optional).Unmet context) :
    optional = false ∧ lookup.Unmet context := by
  obtain ⟨required, named⟩ := unmet
  have both : lookup.required = true ∧ optional = false := by
    simpa [Lookup.under] using required
  exact ⟨both.2, both.1, named⟩

end Lookup.Unmet

section

variable {σ : Type} {registry : Registry σ} {context : Context} {expand : Expander σ}
  {nested : ExpansionLookups σ}

/-- Under a reference that is not optional, expansion fails where it reaches an unmet reference. -/
def ExpansionLookups.Sound (context : Context) (expand : Expander σ)
    (nested : ExpansionLookups σ) : Prop :=
  ∀ depth reference text world lookup, lookup ∈ nested depth reference text world →
    lookup.Unmet context → reference.optional = false →
    ((expand depth reference text).run world).1 = .error (.unresolved lookup.reference.raw)

private theorem expandValue_of_unmet (sound : nested.Sound context expand) {depth : Nat}
    {reference : Reference} {value : Option String} {world : World σ} {lookup : Lookup}
    (reached : lookup ∈ valueLookups nested depth reference value world)
    (unmet : lookup.Unmet context) (firm : reference.optional = false) :
    ((expandValue expand depth reference value).run world).1 =
      .error (.unresolved lookup.reference.raw) := by
  cases value with
  | none => cases reached
  | some text =>
    simp only [valueLookups] at reached
    simp only [expandValue]
    split at reached
    · rename_i expands
      rw [if_pos expands]
      exact sound depth reference text world lookup reached unmet firm
    · cases reached

mutual

/-- A segment in which an unmet reference is reached fails with it. -/
theorem renderSegment_of_unmet (sound : nested.Sound context expand) (depth : Nat) :
    ∀ (segment : Segment) (world : World σ) (lookup : Lookup),
      lookup ∈ segmentLookups registry context expand nested depth segment world →
      lookup.Unmet context →
      ((renderSegment registry context expand depth segment).run world).1 =
        .error (.unresolved lookup.reference.raw)
  | .literal _, _, _, reached, _ => nomatch reached
  | .placeholder (.mk raw optional target), world, lookup, reached, unmet => by
    rw [segmentLookups, referenceLookups] at reached
    rw [renderSegment, lookupReference]
    cases List.mem_cons.mp reached with
    | inl itself =>
      obtain ⟨required, id, path, named, undefined⟩ := unmet
      subst itself
      have firm : optional = false := by simpa using required
      obtain rfl : target = .step id path := named
      rw [Effect.run_bind, lookupTarget, undefined]
      simp [Reference.optional, Reference.raw, firm]
    | inr inside =>
      obtain ⟨inner, reachedInside, rfl⟩ := List.mem_map.mp inside
      obtain ⟨firm, unmetInside⟩ := unmet.of_under
      apply Effect.run_bind_fst_of_error
      exact lookupTarget_of_unmet sound depth (.mk raw optional target) firm target world inner
        reachedInside unmetInside

theorem lookupTarget_of_unmet (sound : nested.Sound context expand) (depth : Nat)
    (reference : Reference) (firm : reference.optional = false) :
    ∀ (target : Target) (world : World σ) (lookup : Lookup),
      lookup ∈ targetLookups registry context expand nested depth reference target world →
      lookup.Unmet context →
      ((lookupTarget registry context expand depth reference target).run world).1 =
        .error (.unresolved lookup.reference.raw)
  | .variable name, world, lookup, reached, unmet => by
    rw [targetLookups] at reached
    rw [lookupTarget]
    exact expandValue_of_unmet sound reached unmet firm
  | .scoped scope name, world, lookup, reached, unmet => by
    by_cases secret : scope = .secret
    · subst secret
      rw [targetLookups] at reached
      cases reached
    · rw [targetLookups_scoped _ _ _ _ _ _ _ _ secret] at reached
      rw [lookupTarget_scoped _ _ _ _ _ _ secret]
      exact expandValue_of_unmet sound reached unmet firm
  | .pluginVariable _ _, _, _, reached, _ => by rw [targetLookups] at reached; cases reached
  | .pluginCall plugin function arguments, world, lookup, reached, unmet => by
    rw [targetLookups] at reached
    rw [lookupTarget]
    apply Effect.run_bind_fst_of_error
    exact renderArguments_of_unmet sound (depth + 1) arguments world lookup reached unmet
  | .step _ _, _, _, reached, _ => by rw [targetLookups] at reached; cases reached

theorem renderArguments_of_unmet (sound : nested.Sound context expand) (depth : Nat) :
    ∀ (arguments : List (List Segment)) (world : World σ) (lookup : Lookup),
      lookup ∈ argumentsLookups registry context expand nested depth arguments world →
      lookup.Unmet context →
      ((renderArguments registry context expand depth arguments).run world).1 =
        .error (.unresolved lookup.reference.raw)
  | [], _, _, reached, _ => by rw [argumentsLookups] at reached; cases reached
  | argument :: rest, world, lookup, reached, unmet => by
    rw [argumentsLookups] at reached
    rw [renderArguments]
    cases List.mem_append.mp reached with
    | inl first =>
      apply Effect.run_bind_fst_of_error
      exact renderSegments_of_unmet sound depth argument world lookup first unmet
    | inr later =>
      obtain ⟨rendered, after, returned, reachedLater⟩ := Effect.mem_whenReturned.mp later
      rw [Effect.run_bind_of_ok returned]
      apply Effect.run_bind_fst_of_error
      exact renderArguments_of_unmet sound depth rest after lookup reachedLater unmet

/-- A template in which an unmet reference is reached fails with it. -/
theorem renderSegments_of_unmet (sound : nested.Sound context expand) (depth : Nat) :
    ∀ (segments : List Segment) (world : World σ) (lookup : Lookup),
      lookup ∈ segmentsLookups registry context expand nested depth segments world →
      lookup.Unmet context →
      ((renderSegments registry context expand depth segments).run world).1 =
        .error (.unresolved lookup.reference.raw)
  | [], _, _, reached, _ => by rw [segmentsLookups] at reached; cases reached
  | segment :: rest, world, lookup, reached, unmet => by
    rw [segmentsLookups] at reached
    rw [renderSegments]
    cases List.mem_append.mp reached with
    | inl first =>
      apply Effect.run_bind_fst_of_error
      exact renderSegment_of_unmet sound depth segment world lookup first unmet
    | inr later =>
      obtain ⟨rendered, after, returned, reachedLater⟩ := Effect.mem_whenReturned.mp later
      rw [Effect.run_bind_of_ok returned]
      apply Effect.run_bind_fst_of_error
      exact renderSegments_of_unmet sound depth rest after lookup reachedLater unmet

end

/-- An undefined reference inside a value is not recovered unless the value may be undefined. -/
theorem expansionLookups_sound (registry : Registry σ) (context : Context) (levels : Nat) :
    (expansionLookups registry context levels).Sound context
      (expandWithin registry context levels) := by
  induction levels with
  | zero => intro depth reference text world lookup reached; cases reached
  | succ levels ih =>
    intro depth reference text world lookup reached unmet firm
    simp only [expansionLookups] at reached
    split at reached
    · cases reached
    · rename_i shallow
      cases parsed : Template.parse text with
      | error error => rw [parsed] at reached; cases reached
      | ok template =>
        rw [parsed] at reached
        -- The error is an undefined one, which only an optional reference would recover from.
        have failed := renderSegments_of_unmet ih (depth + 1) template world lookup reached unmet
        rw [expandWithin_of_parsed registry context shallow parsed, Effect.run_recover,
          Effect.run_bind_fst_of_error failed]
        simp [Effect.recovered, firm]

/-- A text in which an unmet reference is reached has no rendering. -/
theorem render_of_unmet {text : String} {world : World σ} {lookup : Lookup}
    (reached : lookup ∈ renderLookups registry context text world)
    (unmet : lookup.Unmet context) :
    ((render registry context text).run world).1 =
      .error (.unresolved lookup.reference.raw) := by
  rw [renderLookups] at reached
  split at reached
  · rename_i expands
    cases parsed : Template.parse text with
    | error error => rw [parsed] at reached; cases reached
    | ok template =>
      rw [parsed] at reached
      rw [render_of_parsed registry context expands parsed]
      exact renderSegments_of_unmet (expansionLookups_sound registry context maxDepth) 0 template
        world lookup reached unmet
  · cases reached

end

example :
    let source := "\x7b\x7bsteps.a.b?\x7d\x7d\x7b\x7bplugins.p.f(\"\x7b\x7bsteps.c.d\x7d\x7d\")\x7d\x7d"
    let lookups := renderLookups Registry.empty {} source ({ host := () } : World Unit)
    lookups.map (fun lookup => (lookup.reference.raw, lookup.required)) =
      [("steps.a.b", false), ("plugins.p.f(\"\x7b\x7bsteps.c.d\x7d\x7d\")", true),
        ("steps.c.d", true)] := by
  decide +kernel

end RequestChain
