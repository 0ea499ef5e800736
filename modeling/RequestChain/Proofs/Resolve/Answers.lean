import RequestChain.Proofs.Resolve.Verbatim

/-! # Answers are never read as templates

A text is rendered twice, with collaborators that give other answers the second time. As long as
the answers are of the same kinds, call by call, the two renderings make the same calls and end in
the same way, whatever the texts of the answers are: no answer leads to a call, takes one away, or
changes what is found to be undefined.
-/

namespace RequestChain

/-- What an answer amounts to, without its text. -/
inductive AnswerKind where
  | failed
  | undefined
  | defined
  | responded
  | finished
  deriving DecidableEq, Repr

/-- The kind of an answer. -/
def Answer.kind : Answer → AnswerKind
  | failed _ => .failed
  | undefined => .undefined
  | defined _ => .defined
  | responded _ => .responded
  | finished => .finished

/-- Calls of the same name; arguments may differ in their texts. -/
inductive Call.Alike : Call → Call → Prop
  | pluginVariable (plugin member : String) :
    Alike (.pluginVariable plugin member) (.pluginVariable plugin member)
  | pluginCall (plugin function : String) {arguments arguments' : List String}
    (sameNumber : arguments.length = arguments'.length) :
    Alike (.pluginCall plugin function arguments) (.pluginCall plugin function arguments')
  | secret (plugin name : String) : Alike (.secret plugin name) (.secret plugin name)

/-- Two registries offer the same names, in the same order as far as it matters. -/
structure Registry.SameOffers {σ τ : Type} (left : Registry σ) (right : Registry τ) : Prop where
  containsPlugin : ∀ plugin, left.containsPlugin plugin = right.containsPlugin plugin
  variableSources : ∀ plugin member,
    (left.variableSource? plugin member).isSome = (right.variableSource? plugin member).isSome
  functionSources : ∀ plugin function,
    (left.functionSource? plugin function).isSome = (right.functionSource? plugin function).isSome
  secretResolvers : left.secretResolvers.map Prod.fst = right.secretResolvers.map Prod.fst

section

variable {σ τ : Type}

/-- Entries for calls of the same name with answers of the same kind. -/
structure Entry.Alike (left right : Entry) : Prop where
  call : left.call.Alike right.call
  kind : left.answer.kind = right.answer.kind

/-- A longer journal still has what it had. -/
private theorem kept_of_prefix {journal longer : Journal} {index : Nat} {entry : Entry}
    (earlier : journal <+: longer) (found : journal[index]? = some entry) :
    longer[index]? = some entry := by
  obtain ⟨added, rfl⟩ := earlier
  rw [List.getElem?_append_left (List.getElem?_eq_some_iff.mp found).1, found]

/-- Worlds are together while their journals tell of the same calls and kinds of answers. They have
come apart once two answers in the same place are of different kinds. -/
def Coupling.answers (σ τ : Type) : Coupling (World (σ × Journal)) (World (τ × Journal)) where
  left := Journal.longer
  right := Journal.longer
  together left right := List.Forall₂ Entry.Alike left.journal right.journal
  apart left right := ∃ (index : Nat) (first second : Entry), left.journal[index]? = some first ∧
    right.journal[index]? = some second ∧ first.answer.kind ≠ second.answer.kind
  apart_later := by
    rintro left left' right right' ⟨index, first, second, isFirst, isSecond, differ⟩ longer longer'
    exact ⟨index, first, second, kept_of_prefix longer isFirst, kept_of_prefix longer' isSecond,
      differ⟩

/-- Two actions under calls of the same name end alike, if answers of the same kind are alike. -/
theorem Action.noted_coupled {α : Type} {call call' : Call} (alike : call.Alike call')
    {answer : α → Answer} {values : α → α → Prop}
    (defined : ∀ value, (answer value).kind ≠ .failed)
    (related : ∀ left right, (answer left).kind = (answer right).kind → values left right)
    (left : Action σ α) (right : Action τ α) :
    (Coupling.answers σ τ).Coupled (fun _ _ => True) values (left.noted call answer)
      (right.noted call' answer) := by
  intro leftWorld rightWorld together
  rw [Action.run_noted, Action.run_noted]
  generalize left.run leftWorld.plain = leftEnd, right.run rightWorld.plain = rightEnd
  -- The new entries stand in the same place of both journals: either they are alike, or the worlds
  -- have come apart there.
  by_cases same : (Answer.ofOutcome answer leftEnd.1).kind = (Answer.ofOutcome answer rightEnd.1).kind
  · refine .inl ⟨List.rel_append together (.cons ⟨alike, same⟩ .nil), ?_⟩
    cases leftOutcome : leftEnd.1 with
    | error failure =>
      rw [leftOutcome] at same
      cases rightOutcome : rightEnd.1 with
      | error failure' => trivial
      | ok value =>
        rw [rightOutcome] at same
        exact (defined value same.symm).elim
    | ok value =>
      rw [leftOutcome] at same
      cases rightOutcome : rightEnd.1 with
      | error failure =>
        rw [rightOutcome] at same
        exact (defined value same).elim
      | ok value' =>
        rw [rightOutcome] at same
        exact related value value' same
  · refine .inr ⟨leftWorld.journal.length, ⟨call, .ofOutcome answer leftEnd.1⟩,
      ⟨call', .ofOutcome answer rightEnd.1⟩, List.getElem?_concat_length, ?_, same⟩
    rw [List.Forall₂.length_eq together]
    exact List.getElem?_concat_length

private theorem ofText_related {left right : Option String}
    (same : (Answer.ofText left).kind = (Answer.ofText right).kind) :
    Option.Rel TextRelation.any.Related left right := by
  cases left <;> cases right
  · exact .none
  · cases same
  · cases same
  · exact .some trivial

private theorem ofText_kind (value : Option String) : (Answer.ofText value).kind ≠ .failed := by
  cases value <;> nofun

/-- Registries that offer the same names end alike with journals. -/
theorem Registry.journaled_coupled {left : Registry σ} {right : Registry τ}
    (offers : left.SameOffers right) :
    Registry.Coupled (.answers σ τ) .any (fun _ _ => True) left.journaled right.journaled where
  leftMoves := left.journaled_moves
  rightMoves := right.journaled_moves
  containsPlugin plugin := by
    rw [left.containsPlugin_journaled, right.containsPlugin_journaled]
    exact offers.containsPlugin plugin
  variableSources plugin member := by
    have offered := offers.variableSources plugin member
    rw [left.variableSource?_journaled, right.variableSource?_journaled]
    generalize left.variableSource? plugin member = leftSource?,
      right.variableSource? plugin member = rightSource? at offered
    cases leftSource? <;> cases rightSource?
    · exact .none
    · cases offered
    · cases offered
    · exact .some (Action.noted_coupled (.pluginVariable plugin member) (fun _ => ofText_kind _)
        (fun _ _ => ofText_related) _ _)
  functionSources plugin function := by
    have offered := offers.functionSources plugin function
    rw [left.functionSource?_journaled, right.functionSource?_journaled]
    generalize left.functionSource? plugin function = leftSource?,
      right.functionSource? plugin function = rightSource? at offered
    cases leftSource? <;> cases rightSource?
    · exact .none
    · cases offered
    · cases offered
    · exact .some fun arguments arguments' texts =>
        Action.noted_coupled (.pluginCall plugin function texts.length_eq) (fun _ => ofText_kind _)
          (fun _ _ => ofText_related) _ _
  secretResolvers := by
    have names := List.forall₂_map_right_iff.mp (List.forall₂_map_left_iff.mp
      (List.forall₂_eq_eq_eq ▸ offers.secretResolvers :
        List.Forall₂ Eq (left.secretResolvers.map Prod.fst) (right.secretResolvers.map Prod.fst)))
    refine List.forall₂_map_left_iff.mpr (List.forall₂_map_right_iff.mpr (names.imp ?_))
    rintro ⟨plugin, resolver⟩ ⟨plugin', resolver'⟩ named name
    obtain rfl : plugin = plugin' := named
    exact Action.noted_coupled (.secret plugin name) ofText_kind (fun _ _ => ofText_related) _ _

end

/-- The same scopes with other records of steps. -/
def Context.withSteps (context : Context) (steps : OrderedMap Json) : Context :=
  { context with steps }

/-- A rendering that is written down. -/
def renderJournaled {σ : Type} (registry : Registry σ) (context : Context) (text : String)
    (world : World σ) : Except ResolutionError Rendered × World (σ × Journal) :=
  (render registry.journaled context text).run (world.withJournal [])

/-- A rendering that is written down is the rendering. -/
theorem renderJournaled_fst {σ : Type} (registry : Registry σ) (context : Context) (text : String)
    (world : World σ) :
    (renderJournaled registry context text world).1 =
      ((render registry context text).run world).1 := by
  have together : Journaling (fun _ => True) (world.withJournal []) world := ⟨rfl, trivial⟩
  have registries : registry.journaled.Mirrors (Journaling fun _ => True) registry :=
    registry.journaled_mirrors fun _ _ _ _ => trivial
  exact (render_mirrors registries context text (world.withJournal []) world together).1

/-- What a rendering looks up while it is written down. -/
def journaledLookups {σ : Type} (registry : Registry σ) (context : Context) (text : String)
    (world : World σ) : List Lookup :=
  renderLookups registry.journaled context text (world.withJournal [])

theorem renderJournaled_inserted {σ : Type} {registry : Registry σ} {context : Context}
    {text : String} {world : World σ} {rendered : Rendered}
    (returned : (renderJournaled registry context text world).1 = .ok rendered) :
    InsertedText registry context text (renderJournaled registry context text world).2.journal
      rendered.text := by
  obtain ⟨calls, left, inserted⟩ := render_inserted
    (Prod.ext returned rfl : renderJournaled registry context text world = (.ok rendered, _))
  rwa [left]

/-- The same scopes agree on everything that is looked up, if the records of steps have texts in the
same places. -/
theorem Context.agreeOn_withSteps {context : Context} {leftSteps rightSteps : OrderedMap Json}
    {lookups : List Lookup}
    (steps : ∀ lookup ∈ lookups, ∀ id path, lookup.reference.target = .step id path →
      (((context.withSteps leftSteps).stepValue id path).bind renderScalar).isSome =
        (((context.withSteps rightSteps).stepValue id path).bind renderScalar).isSome) :
    (context.withSteps leftSteps).AgreeOn .any (context.withSteps rightSteps) lookups := by
  intro lookup reached
  have sameStep := steps lookup reached
  cases target : lookup.reference.target with
  | step id path =>
    have same := sameStep id path target
    change Option.Rel _ _ _
    generalize ((context.withSteps leftSteps).stepValue id path).bind renderScalar = first,
      ((context.withSteps rightSteps).stepValue id path).bind renderScalar = second at same ⊢
    cases first <;> cases second
    · exact .none
    · cases same
    · cases same
    · exact .some trivial
  | «variable» name => rfl
  | «scoped» scope name => rfl
  | pluginVariable plugin member => trivial
  | pluginCall plugin function arguments => trivial

/-- Renderings whose answers are of the same kinds call by call do not come apart. -/
theorem renderJournaled_ends {σ τ : Type} {left : Registry σ} {right : Registry τ}
    (offers : left.SameOffers right) {leftContext rightContext : Context} {text : String}
    {leftWorld : World σ} {rightWorld : World τ}
    (agree : leftContext.AgreeOn .any rightContext
      (journaledLookups left leftContext text leftWorld))
    (kinds : ∀ (index : Nat) (first second : Entry),
      (renderJournaled left leftContext text leftWorld).2.journal[index]? = some first →
      (renderJournaled right rightContext text rightWorld).2.journal[index]? = some second →
      first.answer.kind = second.answer.kind) :
    List.Forall₂ Entry.Alike (renderJournaled left leftContext text leftWorld).2.journal
        (renderJournaled right rightContext text rightWorld).2.journal ∧
      Alike (ResolutionError.Alike fun _ _ => True) (Rendered.Alike .any)
        (renderJournaled left leftContext text leftWorld).1
        (renderJournaled right rightContext text rightWorld).1 := by
  have together : (Coupling.answers σ τ).together (leftWorld.withJournal [])
      (rightWorld.withJournal []) := List.Forall₂.nil
  cases render_ends (Registry.journaled_coupled offers) text together agree with
  | inl same => exact same
  | inr apart =>
    obtain ⟨index, first, second, isFirst, isSecond, differ⟩ := apart
    exact (differ (kinds index first second isFirst isSecond)).elim

/-- Two renderings of a text in the same scopes, with collaborators that offer the same names and
whose answers are of the same kinds call by call, and with records of steps that have texts in the
same places of those looked up. The calls are the same, the error or the counts are the same, and
every answer stands in the text as it was given. -/
theorem render_answers {σ τ : Type} (left : Registry σ) (right : Registry τ)
    (offers : left.SameOffers right) (context : Context) (leftSteps rightSteps : OrderedMap Json)
    (text : String) (leftWorld : World σ) (rightWorld : World τ)
    (steps : ∀ lookup ∈ journaledLookups left (context.withSteps leftSteps) text leftWorld,
      ∀ id path, lookup.reference.target = .step id path →
        (((context.withSteps leftSteps).stepValue id path).bind renderScalar).isSome =
          (((context.withSteps rightSteps).stepValue id path).bind renderScalar).isSome)
    (kinds : ∀ (index : Nat) (first second : Entry),
      (renderJournaled left (context.withSteps leftSteps) text leftWorld).2.journal[index]? =
        some first →
      (renderJournaled right (context.withSteps rightSteps) text rightWorld).2.journal[index]? =
        some second →
      first.answer.kind = second.answer.kind) :
    let leftRun := renderJournaled left (context.withSteps leftSteps) text leftWorld
    let rightRun := renderJournaled right (context.withSteps rightSteps) text rightWorld
    List.Forall₂ (fun first second => first.call.Alike second.call) leftRun.2.journal
      rightRun.2.journal ∧
    Alike (ResolutionError.Alike fun _ _ => True)
      (fun first second => first.optionalReferences = second.optionalReferences ∧
        first.undefinedOptional = second.undefinedOptional)
      ((render left (context.withSteps leftSteps) text).run leftWorld).1
      ((render right (context.withSteps rightSteps) text).run rightWorld).1 ∧
    (∀ rendered, leftRun.1 = .ok rendered →
      InsertedText left (context.withSteps leftSteps) text leftRun.2.journal rendered.text) ∧
    (∀ rendered, rightRun.1 = .ok rendered →
      InsertedText right (context.withSteps rightSteps) text rightRun.2.journal
        rendered.text) := by
  obtain ⟨journals, outcomes⟩ :=
    renderJournaled_ends offers (Context.agreeOn_withSteps steps) kinds
  refine ⟨?_, ?_, ?_, ?_⟩
  · exact journals.imp fun _ _ alike => alike.call
  · rw [← renderJournaled_fst, ← renderJournaled_fst]
    exact outcomes.mono (fun _ _ alike => alike) fun _ _ alike =>
      ⟨alike.optionalReferences, alike.undefinedOptional⟩
  · exact fun rendered returned => renderJournaled_inserted returned
  · exact fun rendered returned => renderJournaled_inserted returned

/-- Journals with the same kinds of answers in a row agree wherever both have an answer. -/
theorem kinds_of_map_eq {left right : Journal}
    (same : left.map (·.answer.kind) = right.map (·.answer.kind)) (index : Nat)
    (first second : Entry) (isFirst : left[index]? = some first)
    (isSecond : right[index]? = some second) : first.answer.kind = second.answer.kind := by
  have kinds : (left.map (·.answer.kind))[index]? = (right.map (·.answer.kind))[index]? := by
    rw [same]
  rw [List.getElem?_map, List.getElem?_map, isFirst, isSecond] at kinds
  exact Option.some.inj kinds

/-- A plugin that gives what the host holds. -/
def hostRegistry : Registry String :=
  Registry.empty.register "host" (.variableSource "text" fun world =>
    (.ok (.string world.host), world))

theorem render_answers_of_braces :
    let source := "\x7b\x7bplugins.host.text\x7d\x7d"
    let leftRun := renderJournaled hostRegistry ({} : Context) source { host := "plain" }
    let rightRun := renderJournaled hostRegistry ({} : Context) source
      { host := "\x7b\x7bplugins.host.text\x7d\x7d" }
    List.Forall₂ (fun first second => first.call.Alike second.call) leftRun.2.journal
      rightRun.2.journal ∧
    ∀ rendered, rightRun.1 = .ok rendered →
      InsertedText hostRegistry {} source rightRun.2.journal rendered.text := by
  have offers : hostRegistry.SameOffers hostRegistry :=
    ⟨fun _ => rfl, fun _ _ => rfl, fun _ _ => rfl, rfl⟩
  have answers := render_answers hostRegistry hostRegistry offers {} {} {}
    "\x7b\x7bplugins.host.text\x7d\x7d" { host := "plain" }
    { host := "\x7b\x7bplugins.host.text\x7d\x7d" } (fun _ _ _ _ _ => rfl)
    (kinds_of_map_eq (by decide +kernel))
  exact ⟨answers.1, answers.2.2.2⟩

end RequestChain
