import RequestChain.Proofs.Journal

/-! # Answers stand in a text as they were given

A rendered text is made of the literals of its template and of one piece for each of its
placeholders. The piece of a plugin, a secret or a recorded step is what the last call made for it
was answered, letter for letter; only values of variables may have been expanded.
-/

namespace RequestChain

/-- The value of a target, next to the calls that were made for it. -/
inductive Answered {σ : Type} (registry : Registry σ) (context : Context) :
    Target → Journal → Option String → Prop
  | pluginVariable (plugin member : String) (value : Option String) :
    Answered registry context (.pluginVariable plugin member)
      [⟨.pluginVariable plugin member, .ofText value⟩] value
  | unknownVariable {plugin member : String}
    (unknown : registry.variableSource? plugin member = none) :
    Answered registry context (.pluginVariable plugin member) [] none
  /-- The calls for the arguments come first. -/
  | pluginCall (plugin function : String) (arguments : List (List Segment)) (before : Journal)
    (texts : List String) (value : Option String) :
    Answered registry context (.pluginCall plugin function arguments)
      (before ++ [⟨.pluginCall plugin function texts, .ofText value⟩]) value
  | unknownFunction {plugin function : String} (arguments : List (List Segment))
    (before : Journal) (unknown : registry.functionSource? plugin function = none) :
    Answered registry context (.pluginCall plugin function arguments) before none
  /-- The resolvers before the one that found the secret did not find it. -/
  | secret {name plugin : String} {before : List String} (text : String)
    (resolvers : before ++ [plugin] <+: registry.secretResolvers.map Prod.fst) :
    Answered registry context (.scoped .secret name)
      (before.map (fun asked => ⟨.secret asked name, .undefined⟩) ++
        [⟨.secret plugin name, .defined text⟩]) (some text)
  | noSecret (name : String) :
    Answered registry context (.scoped .secret name)
      ((registry.secretResolvers.map Prod.fst).map fun asked => ⟨.secret asked name, .undefined⟩)
      none
  | step (id : String) (path : List String) :
    Answered registry context (.step id path) []
      ((context.stepValue id path).bind renderScalar)
  /-- A value of a variable may hold placeholders itself. -/
  | variable (name : String) (calls : Journal) (value : Option String) :
    Answered registry context (.variable name) calls value
  | scoped {scope : Scope} (name : String) (calls : Journal) (value : Option String)
    (held : scope ≠ .secret) :
    Answered registry context (.scoped scope name) calls value

/-- A text that is made of the literals of a template and of the values of its placeholders, next
to the calls that were made for it. Only an optional reference may be without a value. -/
inductive Inserted {σ : Type} (registry : Registry σ) (context : Context) :
    Template → Journal → String → Prop
  | nil : Inserted registry context [] [] ""
  | literal (first : String) {rest : Template} {calls : Journal} {text : String}
    (others : Inserted registry context rest calls text) :
    Inserted registry context (.literal first :: rest) calls (first ++ text)
  | placeholder {raw : String} {optional : Bool} {target : Target} {calls calls' : Journal}
    {value : Option String} {rest : Template} {text : String}
    (answered : Answered registry context target calls value)
    (may : value = none → optional = true)
    (others : Inserted registry context rest calls' text) :
    Inserted registry context (.placeholder (.mk raw optional target) :: rest) (calls ++ calls')
      (value.getD "" ++ text)

section

variable {σ : Type} {registry : Registry σ} {context : Context}
  {expand : Expander (σ × Journal)} {world after : World (σ × Journal)}

/-- What an action leaves in the journal when it answers. -/
private theorem noted_returned {α ε : Type} {call : Call} {answer : α → Answer}
    {action : Action σ α} {f : Failure → ε} {value : α}
    (returned : ((action.noted call answer).mapError f).run world = (.ok value, after)) :
    after.journal = world.journal ++ [⟨call, answer value⟩] := by
  rw [Effect.run_mapError, Action.run_noted] at returned
  obtain ⟨outcome, rfl⟩ := Prod.mk.inj returned
  cases behind : (action.run world.plain).1 with
  | error failure =>
    rw [behind] at outcome
    cases outcome
  | ok result =>
    rw [behind] at outcome
    cases outcome
    rfl

private theorem scalar_returned {reference : Reference} {call : Call} {source : Action σ Json}
    {value : Option String}
    (returned : (do
      let scalar ← (source.noted call fun scalar => .ofText (renderScalar scalar)).mapError
        (.pluginFailed reference.raw)
      return renderScalar scalar : Resolving (σ × Journal) (Option String)).run world =
        (.ok value, after)) :
    after.journal = world.journal ++ [⟨call, .ofText value⟩] := by
  obtain ⟨scalar, middle, answered, result⟩ := Effect.of_run_bind_eq_ok returned
  cases result
  rw [noted_returned answered]

/-- A member that is missing is asked nothing. -/
private theorem missingMember_returns {reference : Reference} {plugin member : String}
    {value : Option String}
    (returned : (missingMember registry.journaled reference plugin member).run world =
      (.ok value, after)) :
    value = none ∧ after = world := by
  unfold missingMember at returned
  split at returned
  · cases returned
    exact ⟨rfl, rfl⟩
  · split at returned
    · cases returned
    · cases returned

private theorem callVariable_answered {reference : Reference} {plugin member : String}
    {value : Option String}
    (returned : (callVariable registry.journaled reference plugin member).run world =
      (.ok value, after)) :
    ∃ calls, after.journal = world.journal ++ calls ∧
      Answered registry context (.pluginVariable plugin member) calls value := by
  unfold callVariable at returned
  rw [registry.variableSource?_journaled] at returned
  cases source : registry.variableSource? plugin member with
  | none =>
    rw [source] at returned
    obtain ⟨rfl, rfl⟩ := missingMember_returns returned
    exact ⟨[], (List.append_nil _).symm, .unknownVariable source⟩
  | some action =>
    rw [source] at returned
    exact ⟨_, scalar_returned returned, .pluginVariable plugin member value⟩

private theorem callFunction_answered (context : Context) (arguments : List (List Segment))
    (before : Journal) {reference : Reference} {plugin function : String} {texts : List String}
    {value : Option String}
    (returned : (callFunction registry.journaled reference plugin function texts).run world =
      (.ok value, after)) :
    ∃ calls, after.journal = world.journal ++ calls ∧
      Answered registry context (.pluginCall plugin function arguments) (before ++ calls) value := by
  unfold callFunction at returned
  rw [registry.functionSource?_journaled] at returned
  cases source : registry.functionSource? plugin function with
  | none =>
    rw [source] at returned
    obtain ⟨rfl, rfl⟩ := missingMember_returns returned
    refine ⟨[], (List.append_nil _).symm, ?_⟩
    exact .unknownFunction arguments _ source
  | some action =>
    rw [source] at returned
    exact ⟨_, scalar_returned returned, .pluginCall plugin function arguments before texts value⟩

/-- A resolver that does not find a secret. -/
private def notFound (name plugin : String) : Entry :=
  ⟨.secret plugin name, .undefined⟩

private theorem firstSecret_answered {reference : Reference} {name : String}
    {resolvers : List (String × SecretResolver σ)} {value : Option String}
    (returned : (firstSecret reference name (resolvers.map SecretResolver.journaled)).run world =
      (.ok value, after)) :
    (value = none ∧
      after.journal = world.journal ++ (resolvers.map Prod.fst).map (notFound name)) ∨
    ∃ text before plugin, value = some text ∧ before ++ [plugin] <+: resolvers.map Prod.fst ∧
      after.journal = world.journal ++
        (before.map (notFound name) ++ [⟨.secret plugin name, .defined text⟩]) := by
  -- The journal grows at its end, so the induction is from the world behind each resolver.
  induction resolvers generalizing world with
  | nil =>
    cases returned
    exact .inl ⟨rfl, (List.append_nil _).symm⟩
  | cons resolver rest ih =>
    rw [List.map_cons, firstSecret] at returned
    obtain ⟨found, middle, asked, returned⟩ := Effect.of_run_bind_eq_ok returned
    have noted : middle.journal = world.journal ++ [⟨.secret resolver.1 name, .ofText found⟩] :=
      noted_returned asked
    cases found with
    | some text =>
      cases returned
      exact .inr ⟨text, [], resolver.1, rfl, List.prefix_append [resolver.1] _, noted⟩
    | none =>
      cases ih returned with
      | inl missing =>
        obtain ⟨none, left⟩ := missing
        refine .inl ⟨none, ?_⟩
        rw [left, noted, List.append_assoc]
        rfl
      | inr present =>
        obtain ⟨text, before, plugin, some, known, left⟩ := present
        refine .inr ⟨text, resolver.1 :: before, plugin, some, ?_, ?_⟩
        · exact (List.prefix_cons_inj _).mpr known
        · rw [left, noted, List.append_assoc]
          rfl

/-- The value of a target is what it was answered. -/
theorem lookupTarget_answered (expands : expand.Moves Journal.longer) {depth : Nat}
    {reference : Reference} {target : Target} {value : Option String}
    (returned : (lookupTarget registry.journaled context expand depth reference target).run world =
      (.ok value, after)) :
    ∃ calls, after.journal = world.journal ++ calls ∧
      Answered registry context target calls value := by
  obtain ⟨calls, longer⟩ :=
    (lookupTarget_moves registry.journaled_moves expands depth reference target).of_ran returned
  cases target with
  | «variable» name => exact ⟨calls, longer.symm, .variable name calls value⟩
  | «scoped» scope name =>
    by_cases secret : scope = .secret
    · subst secret
      rw [lookupTarget] at returned
      cases firstSecret_answered returned with
      | inl missing =>
        obtain ⟨rfl, left⟩ := missing
        exact ⟨_, left, .noSecret name⟩
      | inr present =>
        obtain ⟨text, before, plugin, rfl, known, left⟩ := present
        exact ⟨_, left, .secret text known⟩
    · exact ⟨calls, longer.symm, .scoped name calls value secret⟩
  | pluginVariable plugin member =>
    rw [lookupTarget] at returned
    exact callVariable_answered returned
  | pluginCall plugin function arguments =>
    rw [lookupTarget] at returned
    obtain ⟨texts, middle, rendered, returned⟩ := Effect.of_run_bind_eq_ok returned
    obtain ⟨before, asked⟩ :=
      (renderArguments_moves registry.journaled_moves expands _ arguments).of_ran rendered
    obtain ⟨calls, left, answered⟩ := callFunction_answered context arguments before returned
    exact ⟨before ++ calls, by rw [left, ← asked, List.append_assoc], answered⟩
  | step id path =>
    rw [lookupTarget] at returned
    cases returned
    exact ⟨[], (List.append_nil _).symm, .step id path⟩

/-- A rendering inserts what was answered. -/
theorem renderSegments_inserted (expands : expand.Moves Journal.longer) {depth : Nat}
    {template : Template} {rendered : Rendered}
    (returned : (renderSegments registry.journaled context expand depth template).run world =
      (.ok rendered, after)) :
    ∃ calls, after.journal = world.journal ++ calls ∧
      Inserted registry context template calls rendered.text := by
  induction template generalizing world rendered with
  | nil =>
    rw [renderSegments] at returned
    cases returned
    exact ⟨[], (List.append_nil _).symm, .nil⟩
  | cons segment rest ih =>
    rw [renderSegments] at returned
    obtain ⟨first, middle, isFirst, returned⟩ := Effect.of_run_bind_eq_ok returned
    obtain ⟨others, last, areOthers, result⟩ := Effect.of_run_bind_eq_ok returned
    cases result
    obtain ⟨calls', left, inserted⟩ := ih areOthers
    cases segment with
    | literal text =>
      rw [renderSegment] at isFirst
      cases isFirst
      exact ⟨calls', left, .literal text inserted⟩
    | placeholder reference =>
      obtain ⟨raw, optional, target⟩ := reference
      rw [renderSegment, lookupReference] at isFirst
      obtain ⟨value, looked, found, isFirst⟩ := Effect.of_run_bind_eq_ok isFirst
      obtain ⟨calls, asked, answered⟩ := lookupTarget_answered expands found
      split at isFirst
      · cases isFirst
      · rename_i may
        cases isFirst
        refine ⟨calls ++ calls', by rw [left, asked, List.append_assoc], ?_⟩
        refine .placeholder answered (fun missing => ?_) inserted
        simpa [missing, Reference.optional] using may

/-- A text as it is rendered: unchanged, or with what was answered inserted. -/
def InsertedText (registry : Registry σ) (context : Context) (source : String) (calls : Journal)
    (text : String) : Prop :=
  if Template.containsPlaceholder source then
    ∃ template, Template.parse source = .ok template ∧ Inserted registry context template calls text
  else calls = [] ∧ text = source

theorem render_inserted {source : String} {rendered : Rendered}
    (returned : (render registry.journaled context source).run world = (.ok rendered, after)) :
    ∃ calls, after.journal = world.journal ++ calls ∧
      InsertedText registry context source calls rendered.text := by
  unfold InsertedText
  split
  · rename_i expands
    cases parsed : Template.parse source with
    | error error =>
      rw [render_of_malformed _ _ expands parsed] at returned
      cases returned
    | ok template =>
      rw [render_of_parsed _ _ expands parsed] at returned
      obtain ⟨calls, left, inserted⟩ := renderSegments_inserted
        (expandWithin_moves registry.journaled_moves maxDepth) returned
      exact ⟨calls, left, template, rfl, inserted⟩
  · rename_i plain
    rw [render_of_plain _ _ (by simpa using plain)] at returned
    cases returned
    exact ⟨[], (List.append_nil _).symm, rfl, rfl⟩

end

end RequestChain
