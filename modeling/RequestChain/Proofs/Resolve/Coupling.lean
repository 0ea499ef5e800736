import Mathlib.Data.List.Forall2
import RequestChain.Proofs.Resolve.Lookups
import RequestChain.Proofs.Resolve.Moves

/-! # Two renderings side by side

A template is rendered with two registries and in two contexts. If the sources of the registries
end alike and the contexts agree on what the first rendering looks up, the renderings end alike.
What it means for texts to correspond is left open: they may be equal, or any two texts.
-/

namespace RequestChain

/-- A correspondence of texts that goes along with joining them. -/
structure TextRelation where
  Related : String → String → Prop
  refl : ∀ text, Related text text
  append : ∀ {first first' second second'}, Related first first' → Related second second' →
    Related (first ++ second) (first' ++ second')

namespace TextRelation

/-- Texts that are equal. -/
def same : TextRelation where
  Related := Eq
  refl _ := rfl
  append first second := by rw [first, second]

/-- Any two texts. -/
def any : TextRelation where
  Related _ _ := True
  refl _ := trivial
  append _ _ := trivial

/-- Values of which both have texts that correspond, or neither has a text. -/
def Scalars (texts : TextRelation) (left right : Json) : Prop :=
  Option.Rel texts.Related (renderScalar left) (renderScalar right)

end TextRelation

/-- Errors that differ at most in what a collaborator said. -/
inductive ResolutionError.Alike (failures : Failure → Failure → Prop) :
    ResolutionError → ResolutionError → Prop
  | same (error : ResolutionError) : Alike failures error error
  | pluginFailed (reference : String) {left right : Failure} (related : failures left right) :
    Alike failures (.pluginFailed reference left) (.pluginFailed reference right)
  | secretFailed (reference : String) {left right : Failure} (related : failures left right) :
    Alike failures (.secretFailed reference left) (.secretFailed reference right)

theorem ResolutionError.Alike.isUndefined {failures : Failure → Failure → Prop}
    {left right : ResolutionError} (alike : left.Alike failures right) :
    left.isUndefined = right.isUndefined := by
  cases alike <;> rfl

theorem ResolutionError.Alike.eq {left right : ResolutionError} (alike : left.Alike Eq right) :
    left = right := by
  cases alike with
  | same => rfl
  | pluginFailed reference related => rw [related]
  | secretFailed reference related => rw [related]

/-- Renderings whose texts correspond and whose optional references fared in the same way. -/
structure Rendered.Alike (texts : TextRelation) (left right : Rendered) : Prop where
  text : texts.Related left.text right.text
  optionalReferences : left.optionalReferences = right.optionalReferences
  undefinedOptional : left.undefinedOptional = right.undefinedOptional

theorem Rendered.Alike.refl (texts : TextRelation) (rendered : Rendered) :
    rendered.Alike texts rendered :=
  ⟨texts.refl _, rfl, rfl⟩

theorem Rendered.Alike.append {texts : TextRelation} {first first' second second' : Rendered}
    (left : first.Alike texts first') (right : second.Alike texts second') :
    (first ++ second).Alike texts (first' ++ second') where
  text := texts.append left.text right.text
  optionalReferences := congrArg₂ (· + ·) left.optionalReferences right.optionalReferences
  undefinedOptional := congrArg₂ (· + ·) left.undefinedOptional right.undefinedOptional

theorem Rendered.Alike.ofReference {texts : TextRelation} (optional : Bool)
    {left right : Option String} (related : Option.Rel texts.Related left right) :
    (Rendered.ofReference optional left).Alike texts (.ofReference optional right) := by
  cases related with
  | none => exact .refl texts _
  | some related => exact ⟨related, rfl, rfl⟩

theorem Rendered.Alike.eq {left right : Rendered} (alike : left.Alike .same right) :
    left = right := by
  obtain ⟨text, optionalReferences, undefinedOptional⟩ := alike
  cases left
  cases right
  cases text
  cases optionalReferences
  cases undefinedOptional
  rfl

/-- Two contexts have the same, or corresponding, values for a target. -/
def Context.AgreeAt (texts : TextRelation) (left right : Context) : Target → Prop
  | .variable name => left.lookup name = right.lookup name
  | .scoped scope name => left.lookupScoped scope name = right.lookupScoped scope name
  | .step id path =>
    Option.Rel texts.Related ((left.stepValue id path).bind renderScalar)
      ((right.stepValue id path).bind renderScalar)
  | _ => True

/-- A context has the values that it has. -/
theorem Context.AgreeAt.refl {texts : TextRelation} (context : Context) (target : Target) :
    context.AgreeAt texts context target := by
  cases target with
  | step id path =>
    change Option.Rel _ _ _
    cases (context.stepValue id path).bind renderScalar with
    | none => exact .none
    | some text => exact .some (texts.refl text)
  | «variable» name => rfl
  | «scoped» scope name => rfl
  | pluginVariable plugin member => trivial
  | pluginCall plugin function arguments => trivial

/-- Two contexts agree on everything that is looked up. -/
def Context.AgreeOn (texts : TextRelation) (left right : Context) (lookups : List Lookup) : Prop :=
  ∀ lookup ∈ lookups, left.AgreeAt texts right lookup.reference.target

namespace Context.AgreeOn

variable {texts : TextRelation} {left right : Context} {lookups others : List Lookup}

theorem append_iff : left.AgreeOn texts right (lookups ++ others) ↔
    left.AgreeOn texts right lookups ∧ left.AgreeOn texts right others :=
  List.forall_mem_append

theorem of_under {optional : Bool}
    (agree : left.AgreeOn texts right (lookups.map (.under optional))) :
    left.AgreeOn texts right lookups :=
  fun lookup reached => agree (lookup.under optional) (List.mem_map_of_mem reached)

/-- A context agrees with itself. -/
theorem refl (context : Context) (lookups : List Lookup) :
    context.AgreeOn texts context lookups :=
  fun lookup _ => .refl context lookup.reference.target

/-- What is looked up once an effect has returned. -/
theorem of_returned {W ε α : Type} {effect : Effect W ε α} {next : W → List Lookup} {world after : W}
    {value : α} (agree : left.AgreeOn texts right (effect.whenReturned next world))
    (returned : effect.run world = (.ok value, after)) :
    left.AgreeOn texts right (next after) :=
  fun lookup reached => agree lookup (Effect.mem_whenReturned.mpr ⟨value, after, returned, reached⟩)

end Context.AgreeOn

/-! ## Registries and renderings -/

/-- Two registries offer the same names, and what they offer ends alike: sources give scalars that
correspond, functions for arguments that correspond, and resolvers texts that correspond. -/
structure Registry.Coupled {σ τ : Type} (coupling : Coupling (World σ) (World τ))
    (texts : TextRelation) (failures : Failure → Failure → Prop) (left : Registry σ)
    (right : Registry τ) : Prop where
  leftMoves : left.Moves coupling.left
  rightMoves : right.Moves coupling.right
  containsPlugin : ∀ plugin, left.containsPlugin plugin = right.containsPlugin plugin
  variableSources : ∀ plugin member,
    Option.Rel (coupling.Coupled failures texts.Scalars) (left.variableSource? plugin member)
      (right.variableSource? plugin member)
  functionSources : ∀ plugin function,
    Option.Rel
      (fun leftSource rightSource => ∀ arguments arguments',
        List.Forall₂ texts.Related arguments arguments' →
          coupling.Coupled failures texts.Scalars (leftSource arguments) (rightSource arguments'))
      (left.functionSource? plugin function) (right.functionSource? plugin function)
  secretResolvers :
    List.Forall₂
      (fun leftResolver rightResolver => ∀ name,
        coupling.Coupled failures (Option.Rel texts.Related) (leftResolver.2 name)
          (rightResolver.2 name))
      left.secretResolvers right.secretResolvers

section

variable {σ τ : Type} {coupling : Coupling (World σ) (World τ)} {texts : TextRelation}
  {failures : Failure → Failure → Prop} {left : Registry σ} {right : Registry τ}
  {leftContext rightContext : Context} {leftWorld : World σ} {rightWorld : World τ}

/-- Two lookups of a reference have ended alike. -/
abbrev LookupsEnd (coupling : Coupling (World σ) (World τ)) (texts : TextRelation)
    (failures : Failure → Failure → Prop) :=
  coupling.Ends (ResolutionError.Alike failures) (Option.Rel texts.Related)

private theorem missingMember_ends (registries : Registry.Coupled coupling texts failures left right)
    (together : coupling.together leftWorld rightWorld) (reference : Reference)
    (plugin member : String) :
    LookupsEnd coupling texts failures
      ((missingMember left reference plugin member).run leftWorld)
      ((missingMember right reference plugin member).run rightWorld) := by
  unfold missingMember
  rw [registries.containsPlugin plugin]
  split
  · exact .pure together .none
  · split
    · exact .fail together (.same _)
    · exact .fail together (.same _)

private theorem scalar_ends {leftSource : Action σ Json} {rightSource : Action τ Json}
    (coupled : coupling.Coupled failures texts.Scalars leftSource rightSource)
    (together : coupling.together leftWorld rightWorld) (reference : Reference) :
    LookupsEnd coupling texts failures
      ((do
        let value ← leftSource.mapError (.pluginFailed reference.raw)
        return renderScalar value : Resolving σ (Option String)).run leftWorld)
      ((do
        let value ← rightSource.mapError (.pluginFailed reference.raw)
        return renderScalar value : Resolving τ (Option String)).run rightWorld) := by
  have answers : coupling.Ends (ResolutionError.Alike failures) texts.Scalars
      ((leftSource.mapError (.pluginFailed reference.raw)).run leftWorld)
      ((rightSource.mapError (.pluginFailed reference.raw)).run rightWorld) :=
    (coupled leftWorld rightWorld together).mapError fun _ _ related => .pluginFailed _ related
  refine answers.bind (fun _ => .pure _) (fun _ => .pure _) ?_
  intro leftValue rightValue leftAfter rightAfter _ _ scalars together
  exact .pure together scalars

private theorem callVariable_ends (registries : Registry.Coupled coupling texts failures left right)
    (together : coupling.together leftWorld rightWorld) (reference : Reference)
    (plugin member : String) :
    LookupsEnd coupling texts failures
      ((callVariable left reference plugin member).run leftWorld)
      ((callVariable right reference plugin member).run rightWorld) := by
  have sources := registries.variableSources plugin member
  unfold callVariable
  generalize left.variableSource? plugin member = leftSource?,
    right.variableSource? plugin member = rightSource? at sources
  cases sources with
  | none => exact missingMember_ends registries together reference plugin member
  | some coupled => exact scalar_ends coupled together reference

private theorem callFunction_ends (registries : Registry.Coupled coupling texts failures left right)
    (together : coupling.together leftWorld rightWorld) (reference : Reference)
    (plugin function : String) {arguments arguments' : List String}
    (related : List.Forall₂ texts.Related arguments arguments') :
    LookupsEnd coupling texts failures
      ((callFunction left reference plugin function arguments).run leftWorld)
      ((callFunction right reference plugin function arguments').run rightWorld) := by
  have sources := registries.functionSources plugin function
  unfold callFunction
  generalize left.functionSource? plugin function = leftSource?,
    right.functionSource? plugin function = rightSource? at sources
  cases sources with
  | none => exact missingMember_ends registries together reference plugin function
  | some coupled => exact scalar_ends (coupled arguments arguments' related) together reference

private theorem firstSecret_ends {reference : Reference} {name : String}
    {leftResolvers : List (String × SecretResolver σ)}
    {rightResolvers : List (String × SecretResolver τ)}
    (coupled : List.Forall₂
      (fun leftResolver rightResolver => ∀ name,
        coupling.Coupled failures (Option.Rel texts.Related) (leftResolver.2 name)
          (rightResolver.2 name)) leftResolvers rightResolvers)
    (leftMoves : ∀ resolver ∈ leftResolvers, (resolver.2 name).Moves coupling.left)
    (rightMoves : ∀ resolver ∈ rightResolvers, (resolver.2 name).Moves coupling.right)
    (together : coupling.together leftWorld rightWorld) :
    LookupsEnd coupling texts failures
      ((firstSecret reference name leftResolvers).run leftWorld)
      ((firstSecret reference name rightResolvers).run rightWorld) := by
  induction coupled generalizing leftWorld rightWorld with
  | nil => exact .pure together .none
  | @cons leftResolver rightResolver leftRest rightRest first rest ih =>
    have leftRestMoves := (List.forall_mem_cons.mp leftMoves).2
    have rightRestMoves := (List.forall_mem_cons.mp rightMoves).2
    rw [firstSecret, firstSecret]
    have answers : LookupsEnd coupling texts failures
        (((leftResolver.2 name).mapError (.secretFailed reference.raw)).run leftWorld)
        (((rightResolver.2 name).mapError (.secretFailed reference.raw)).run rightWorld) :=
      (first name leftWorld rightWorld together).mapError fun _ _ related => .secretFailed _ related
    refine answers.bind ?_ ?_ ?_
    · intro found
      cases found with
      | none => exact firstSecret_moves reference name leftRestMoves
      | some text => exact .pure _
    · intro found
      cases found with
      | none => exact firstSecret_moves reference name rightRestMoves
      | some text => exact .pure _
    · intro leftFound rightFound leftAfter rightAfter _ _ related together
      cases related with
      | none => exact ih leftRestMoves rightRestMoves together
      | some related => exact .pure together (.some related)

/-- Two expanders, of which the first looks up what `nested` says, end alike in contexts that agree
on that. -/
structure ExpandersCoupled (coupling : Coupling (World σ) (World τ)) (texts : TextRelation)
    (failures : Failure → Failure → Prop) (leftContext rightContext : Context)
    (nested : ExpansionLookups σ) (leftExpand : Expander σ) (rightExpand : Expander τ) : Prop where
  leftMoves : leftExpand.Moves coupling.left
  rightMoves : rightExpand.Moves coupling.right
  ends : ∀ depth reference text leftWorld rightWorld, coupling.together leftWorld rightWorld →
    leftContext.AgreeOn texts rightContext (nested depth reference text leftWorld) →
    LookupsEnd coupling texts failures ((leftExpand depth reference text).run leftWorld)
      ((rightExpand depth reference text).run rightWorld)

variable {nested : ExpansionLookups σ} {leftExpand : Expander σ} {rightExpand : Expander τ}

private theorem expandValue_ends
    (expanders : ExpandersCoupled coupling texts failures leftContext rightContext nested leftExpand
      rightExpand)
    (depth : Nat) (reference : Reference) (value : Option String)
    (together : coupling.together leftWorld rightWorld)
    (agree : leftContext.AgreeOn texts rightContext
      (valueLookups nested depth reference value leftWorld)) :
    LookupsEnd coupling texts failures
      ((expandValue leftExpand depth reference value).run leftWorld)
      ((expandValue rightExpand depth reference value).run rightWorld) := by
  cases value with
  | none => exact .pure together .none
  | some text =>
    simp only [valueLookups] at agree
    simp only [expandValue]
    split at agree
    · rename_i expands
      rw [if_pos expands, if_pos expands]
      exact expanders.ends depth reference text leftWorld rightWorld together agree
    · rename_i plain
      rw [if_neg plain, if_neg plain]
      exact .pure together (.some (texts.refl text))

/-- Renderings of the segments of a template end alike. -/
abbrev RenderingsEnd (coupling : Coupling (World σ) (World τ)) (texts : TextRelation)
    (failures : Failure → Failure → Prop) :=
  coupling.Ends (ResolutionError.Alike failures) (Rendered.Alike texts)

mutual

theorem renderSegment_ends (registries : Registry.Coupled coupling texts failures left right)
    (expanders : ExpandersCoupled coupling texts failures leftContext rightContext nested leftExpand
      rightExpand) (depth : Nat) :
    ∀ (segment : Segment) {leftWorld : World σ} {rightWorld : World τ},
      coupling.together leftWorld rightWorld →
      leftContext.AgreeOn texts rightContext
        (segmentLookups left leftContext leftExpand nested depth segment leftWorld) →
      RenderingsEnd coupling texts failures
        ((renderSegment left leftContext leftExpand depth segment).run leftWorld)
        ((renderSegment right rightContext rightExpand depth segment).run rightWorld)
  | .literal text, _, _, together, _ => by
    rw [renderSegment, renderSegment]
    exact .pure together (.refl texts _)
  | .placeholder (.mk raw optional target), _, _, together, agree => by
    rw [segmentLookups, referenceLookups] at agree
    obtain ⟨here, inside⟩ := List.forall_mem_cons.mp agree
    rw [renderSegment, renderSegment, lookupReference, lookupReference]
    refine (lookupTarget_ends registries expanders depth (.mk raw optional target) target together
      here (.of_under inside)).bind ?_ ?_ ?_
    · intro value
      split
      · exact .fail _
      · exact .pure _
    · intro value
      split
      · exact .fail _
      · exact .pure _
    · intro leftValue rightValue leftAfter rightAfter _ _ related together
      -- Whether there is a value decides what comes next, its text does not.
      have defined : leftValue.isNone = rightValue.isNone := by cases related <;> rfl
      rw [defined]
      split
      · exact .fail together (.same _)
      · exact .pure together (.ofReference optional related)

theorem lookupTarget_ends (registries : Registry.Coupled coupling texts failures left right)
    (expanders : ExpandersCoupled coupling texts failures leftContext rightContext nested leftExpand
      rightExpand) (depth : Nat) (reference : Reference) :
    ∀ (target : Target) {leftWorld : World σ} {rightWorld : World τ},
      coupling.together leftWorld rightWorld →
      leftContext.AgreeAt texts rightContext target →
      leftContext.AgreeOn texts rightContext
        (targetLookups left leftContext leftExpand nested depth reference target leftWorld) →
      LookupsEnd coupling texts failures
        ((lookupTarget left leftContext leftExpand depth reference target).run leftWorld)
        ((lookupTarget right rightContext rightExpand depth reference target).run rightWorld)
  | .variable name, _, _, together, here, agree => by
    rw [targetLookups] at agree
    rw [lookupTarget, lookupTarget, ← (here : leftContext.lookup name = rightContext.lookup name)]
    exact expandValue_ends expanders depth reference _ together agree
  | .scoped scope name, _, _, together, here, agree => by
    by_cases secret : scope = .secret
    · subst secret
      rw [lookupTarget, lookupTarget]
      exact firstSecret_ends registries.secretResolvers
        (fun resolver member => registries.leftMoves.secretResolvers resolver member name)
        (fun resolver member => registries.rightMoves.secretResolvers resolver member name) together
    · rw [targetLookups_scoped _ _ _ _ _ _ _ _ secret] at agree
      rw [lookupTarget_scoped _ _ _ _ _ _ secret, lookupTarget_scoped _ _ _ _ _ _ secret,
        ← (here : leftContext.lookupScoped scope name = rightContext.lookupScoped scope name)]
      exact expandValue_ends expanders depth reference _ together agree
  | .pluginVariable plugin member, _, _, together, _, _ => by
    rw [lookupTarget, lookupTarget]
    exact callVariable_ends registries together reference plugin member
  | .pluginCall plugin function arguments, _, _, together, _, agree => by
    rw [targetLookups] at agree
    rw [lookupTarget, lookupTarget]
    refine (renderArguments_ends registries expanders (depth + 1) arguments together agree).bind
      ?_ ?_ ?_
    · exact fun values => callFunction_moves registries.leftMoves reference plugin function values
    · exact fun values => callFunction_moves registries.rightMoves reference plugin function values
    · intro leftValues rightValues leftAfter rightAfter _ _ related together
      exact callFunction_ends registries together reference plugin function related
  | .step id path, _, _, together, here, _ => by
    rw [lookupTarget, lookupTarget]
    exact .pure together here

theorem renderArguments_ends (registries : Registry.Coupled coupling texts failures left right)
    (expanders : ExpandersCoupled coupling texts failures leftContext rightContext nested leftExpand
      rightExpand) (depth : Nat) :
    ∀ (arguments : List (List Segment)) {leftWorld : World σ} {rightWorld : World τ},
      coupling.together leftWorld rightWorld →
      leftContext.AgreeOn texts rightContext
        (argumentsLookups left leftContext leftExpand nested depth arguments leftWorld) →
      coupling.Ends (ResolutionError.Alike failures) (List.Forall₂ texts.Related)
        ((renderArguments left leftContext leftExpand depth arguments).run leftWorld)
        ((renderArguments right rightContext rightExpand depth arguments).run rightWorld)
  | [], _, _, together, _ => by
    rw [renderArguments, renderArguments]
    exact .pure together .nil
  | argument :: rest, leftWorld, rightWorld, together, agree => by
    rw [argumentsLookups] at agree
    obtain ⟨first, later⟩ := Context.AgreeOn.append_iff.mp agree
    rw [renderArguments, renderArguments]
    refine (renderSegments_ends registries expanders depth argument together first).bind
      (fun _ => .bind (renderArguments_moves registries.leftMoves expanders.leftMoves depth rest)
        fun _ => .pure _)
      (fun _ => .bind (renderArguments_moves registries.rightMoves expanders.rightMoves depth rest)
        fun _ => .pure _) ?_
    intro leftRendered rightRendered leftAfter rightAfter returned _ alike together
    refine (renderArguments_ends registries expanders depth rest together
      (later.of_returned returned)).bind (fun _ => .pure _) (fun _ => .pure _) ?_
    intro leftTexts rightTexts leftAfter rightAfter _ _ related together
    exact .pure together (.cons alike.text related)

/-- Renderings with registries whose sources end alike, in contexts that agree on what is looked up,
end alike. -/
theorem renderSegments_ends (registries : Registry.Coupled coupling texts failures left right)
    (expanders : ExpandersCoupled coupling texts failures leftContext rightContext nested leftExpand
      rightExpand) (depth : Nat) :
    ∀ (segments : List Segment) {leftWorld : World σ} {rightWorld : World τ},
      coupling.together leftWorld rightWorld →
      leftContext.AgreeOn texts rightContext
        (segmentsLookups left leftContext leftExpand nested depth segments leftWorld) →
      RenderingsEnd coupling texts failures
        ((renderSegments left leftContext leftExpand depth segments).run leftWorld)
        ((renderSegments right rightContext rightExpand depth segments).run rightWorld)
  | [], _, _, together, _ => by
    rw [renderSegments, renderSegments]
    exact .pure together (.refl texts _)
  | segment :: rest, leftWorld, rightWorld, together, agree => by
    rw [segmentsLookups] at agree
    obtain ⟨first, later⟩ := Context.AgreeOn.append_iff.mp agree
    rw [renderSegments, renderSegments]
    refine (renderSegment_ends registries expanders depth segment together first).bind
      (fun _ => .bind (renderSegments_moves registries.leftMoves expanders.leftMoves depth rest)
        fun _ => .pure _)
      (fun _ => .bind (renderSegments_moves registries.rightMoves expanders.rightMoves depth rest)
        fun _ => .pure _) ?_
    intro leftFirst rightFirst leftAfter rightAfter returned _ firstAlike together
    refine (renderSegments_ends registries expanders depth rest together
      (later.of_returned returned)).bind (fun _ => .pure _) (fun _ => .pure _) ?_
    intro leftOthers rightOthers leftAfter rightAfter _ _ othersAlike together
    exact .pure together (firstAlike.append othersAlike)

end

/-- Expansions end alike, whatever the depth. -/
theorem expandWithin_coupled (registries : Registry.Coupled coupling texts failures left right)
    (leftContext rightContext : Context) (levels : Nat) :
    ExpandersCoupled coupling texts failures leftContext rightContext
      (expansionLookups left leftContext levels) (expandWithin left leftContext levels)
      (expandWithin right rightContext levels) := by
  induction levels with
  | zero =>
    refine ⟨fun _ _ _ => .fail _, fun _ _ _ => .fail _, ?_⟩
    intro depth reference text leftWorld rightWorld together _
    exact .fail together (.same _)
  | succ levels ih =>
    refine ⟨expandWithin_moves registries.leftMoves _, expandWithin_moves registries.rightMoves _, ?_⟩
    intro depth reference text leftWorld rightWorld together agree
    simp only [expansionLookups] at agree
    simp only [expandWithin]
    split at agree
    · rename_i deep
      rw [if_pos deep, if_pos deep]
      exact .fail together (.same _)
    · rename_i shallow
      rw [if_neg shallow, if_neg shallow]
      cases parsed : Template.parse text with
      | error error => exact .fail together (.same _)
      | ok template =>
        rw [parsed] at agree
        have nested := renderSegments_ends registries ih (depth + 1) template together agree
        refine Coupling.Ends.recover (nested.bind (fun _ => .pure _) (fun _ => .pure _) ?_) ?_
        · intro leftRendered rightRendered leftAfter rightAfter _ _ alike together
          exact .pure together (.some alike.text)
        · intro leftError rightError alike
          rw [alike.isUndefined]
          split
          · exact .some .none
          · exact .none

/-- Renderings of a text as a template end alike. -/
theorem render_ends (registries : Registry.Coupled coupling texts failures left right)
    (text : String) (together : coupling.together leftWorld rightWorld)
    (agree : leftContext.AgreeOn texts rightContext
      (renderLookups left leftContext text leftWorld)) :
    RenderingsEnd coupling texts failures ((render left leftContext text).run leftWorld)
      ((render right rightContext text).run rightWorld) := by
  rw [renderLookups] at agree
  split at agree
  · rename_i expands
    cases parsed : Template.parse text with
    | error error =>
      rw [render_of_malformed _ _ expands parsed, render_of_malformed _ _ expands parsed]
      exact .fail together (.same _)
    | ok template =>
      rw [parsed] at agree
      rw [render_of_parsed _ _ expands parsed, render_of_parsed _ _ expands parsed]
      exact renderSegments_ends registries
        (expandWithin_coupled registries leftContext rightContext maxDepth) 0 template together agree
  · rename_i plain
    rw [Bool.not_eq_true] at plain
    rw [render_of_plain _ _ plain, render_of_plain _ _ plain]
    exact .pure together (.refl texts _)

end

/-! ## Sources that do the same -/

/-- Renderings that end alike, with equal texts and equal errors, have the same outcome. -/
theorem outcome_eq_of_renderingsEnd {σ τ : Type} {together : World σ → World τ → Prop}
    {left : Except ResolutionError Rendered × World σ}
    {right : Except ResolutionError Rendered × World τ}
    (ends : RenderingsEnd (.ofRelation together) .same Eq left right) :
    left.1 = right.1 ∧ together left.2 right.2 := by
  rcases ends with ⟨after, alike⟩ | apart
  · refine ⟨?_, after⟩
    exact (alike.mono (fun _ _ => ResolutionError.Alike.eq) fun _ _ => Rendered.Alike.eq).eq
  · exact apart.elim

private theorem scalars_refl (value : Json) : TextRelation.same.Scalars value value := by
  unfold TextRelation.Scalars
  cases renderScalar value with
  | none => exact .none
  | some text => exact .some rfl

/-- Registries whose sources do the same end alike, with equal texts and equal errors. -/
theorem Registry.Coupled.of_mirrors {σ τ : Type} {together : World σ → World τ → Prop}
    {left : Registry σ} {right : Registry τ}
    (containsPlugin : ∀ plugin, left.containsPlugin plugin = right.containsPlugin plugin)
    (variableSources : ∀ plugin member,
      Option.Rel (Effect.Mirrors together) (left.variableSource? plugin member)
        (right.variableSource? plugin member))
    (functionSources : ∀ plugin function,
      Option.Rel
        (fun leftSource rightSource => ∀ arguments,
          Effect.Mirrors together (leftSource arguments) (rightSource arguments))
        (left.functionSource? plugin function) (right.functionSource? plugin function))
    (secretResolvers :
      List.Forall₂
        (fun leftResolver rightResolver => ∀ name,
          Effect.Mirrors together (leftResolver.2 name) (rightResolver.2 name))
        left.secretResolvers right.secretResolvers) :
    Registry.Coupled (.ofRelation together) .same Eq left right where
  leftMoves := .any left
  rightMoves := .any right
  containsPlugin := containsPlugin
  variableSources plugin member := by
    have sources := variableSources plugin member
    generalize left.variableSource? plugin member = leftSource?,
      right.variableSource? plugin member = rightSource? at sources
    cases sources with
    | none => exact .none
    | some mirrors => exact .some (mirrors.coupled (fun _ => rfl) scalars_refl)
  functionSources plugin function := by
    have sources := functionSources plugin function
    generalize left.functionSource? plugin function = leftSource?,
      right.functionSource? plugin function = rightSource? at sources
    cases sources with
    | none => exact .none
    | some mirrors =>
      refine .some fun arguments arguments' related => ?_
      obtain rfl : arguments = arguments' := List.forall₂_eq_eq_eq ▸ related
      exact (mirrors arguments).coupled (fun _ => rfl) scalars_refl
  secretResolvers := secretResolvers.imp fun leftResolver rightResolver mirrors name =>
    (mirrors name).coupled (fun _ => rfl) fun found => by
      cases found with
      | none => exact .none
      | some text => exact .some rfl

end RequestChain
