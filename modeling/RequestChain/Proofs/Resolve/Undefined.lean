import RequestChain.Proofs.Layers
import RequestChain.Proofs.Resolve.Composition
import RequestChain.Proofs.Resolve.Nested

/-! # What undefined errors are about

A rendering that fails for something undefined says so of a reference that it has come to: one that
stands in the template, in an argument of a call, or in the text of a variable, and so on. That
reference is not optional, and it has no value itself or is to something that is not registered; an
error is never passed on under another name. Where nothing is left to plugins, secrets or nested
values, it can be told in advance which reference it is, namely the first one without a text.
-/

namespace RequestChain

/-! ## References that are reached -/

namespace Template

/-- A reference that a rendering of a template may come to. -/
inductive Reaches (context : Context) (template : Template) : Reference → Prop
  | occurs {reference : Reference} (member : reference ∈ template.references) :
      Reaches context template reference
  | argument {reference inner : Reference} {plugin function : String}
      {arguments : List (List Segment)} {argument : List Segment}
      (reached : Reaches context template reference)
      (called : reference.target = .pluginCall plugin function arguments)
      (isArgument : argument ∈ arguments) (member : inner ∈ references argument) :
      Reaches context template inner
  | value {reference inner : Reference} {text : String} {value : Template}
      (reached : Reaches context template reference)
      (held : context.heldText? reference.target = some text)
      (parsed : Template.parse text = .ok value) (member : inner ∈ value.references) :
      Reaches context template inner

/-- What holds of a call holds of the references in its arguments. -/
def ClosedUnderCalls (P : Reference → Prop) : Prop :=
  ∀ reference plugin function arguments, P reference →
    reference.target = .pluginCall plugin function arguments →
    ∀ argument ∈ arguments, ∀ inner ∈ references argument, P inner

section

variable {P : Reference → Prop}

mutual

private theorem forall_nestedSegment_of_closed (closed : ClosedUnderCalls P) (calls : Nat) :
    ∀ segment : Segment,
    (∀ reference, segment.reference? = some reference → P reference) →
    ∀ entry ∈ nestedSegment calls segment, P entry.2
  | .literal text, _ => by
    rw [nestedSegment]
    exact nofun
  | .placeholder (.mk raw optional target), own => by
    have itself : P (.mk raw optional target) := own _ rfl
    rw [nestedSegment, nestedReference]
    refine List.forall_mem_cons.mpr ⟨itself, ?_⟩
    apply forall_nestedTarget_of_closed closed calls target
    intro plugin function arguments called
    exact closed _ plugin function arguments itself called

private theorem forall_nestedTarget_of_closed (closed : ClosedUnderCalls P) (calls : Nat) :
    ∀ target : Target,
    (∀ plugin function arguments, target = .pluginCall plugin function arguments →
      ∀ argument ∈ arguments, ∀ inner ∈ references argument, P inner) →
    ∀ entry ∈ nestedTarget calls target, P entry.2
  | .pluginCall plugin function arguments, inside => by
    rw [nestedTarget]
    exact forall_nestedArguments_of_closed closed (calls + 1) arguments
      (inside plugin function arguments rfl)
  | .variable _, _ | .scoped _ _, _ | .pluginVariable _ _, _ | .step _ _, _ => by
    rw [nestedTarget]
    exact nofun

private theorem forall_nestedArguments_of_closed (closed : ClosedUnderCalls P) (calls : Nat) :
    ∀ arguments : List (List Segment),
    (∀ argument ∈ arguments, ∀ inner ∈ references argument, P inner) →
    ∀ entry ∈ nestedArguments calls arguments, P entry.2
  | [], _ => by
    rw [nestedArguments]
    exact nofun
  | argument :: rest, inside => by
    obtain ⟨first, others⟩ := List.forall_mem_cons.mp inside
    rw [nestedArguments]
    exact List.forall_mem_append.mpr
      ⟨forall_nested_of_closed closed calls argument first,
        forall_nestedArguments_of_closed closed calls rest others⟩

/-- What holds of the references of a template and is closed holds in its arguments as well. -/
theorem forall_nested_of_closed (closed : ClosedUnderCalls P) (calls : Nat) :
    ∀ segments : List Segment,
    (∀ reference ∈ references segments, P reference) →
    ∀ entry ∈ nested calls segments, P entry.2
  | [], _ => by
    rw [nested]
    exact nofun
  | segment :: rest, own => by
    rw [nested]
    refine List.forall_mem_append.mpr ⟨?_, ?_⟩
    · apply forall_nestedSegment_of_closed closed calls segment
      intro reference found
      exact own reference (List.mem_filterMap.mpr ⟨segment, List.mem_cons_self, found⟩)
    · apply forall_nested_of_closed closed calls rest
      intro reference member
      obtain ⟨other, isOther, found⟩ := List.mem_filterMap.mp member
      exact own reference
        (List.mem_filterMap.mpr ⟨other, List.mem_cons_of_mem segment isOther, found⟩)

end

end

theorem reaches_closed (context : Context) (template : Template) :
    ClosedUnderCalls (template.Reaches context) :=
  fun _ _ _ _ reached called _ isArgument _ member => .argument reached called isArgument member

end Template

/-! ## Errors of references that are reached -/

section Blame

variable {σ : Type} {registry : Registry σ} {context : Context} {template : Template}

/-- An error about something undefined is about a reference that is reached and not optional. -/
def Template.Blames (registry : Registry σ) (context : Context) (template : Template)
    (error : ResolutionError) (after : World σ) : Prop :=
  error.isUndefined = true → ∃ reference levels depth,
    template.Reaches context reference ∧ reference.optional = false ∧
      reference.IsUndefined registry context (expandWithin registry context levels) depth error after

/-- A reference that is reached explains the errors that it may have, if its value does. -/
private theorem explains_of_reaches {levels depth : Nat} {reference : Reference}
    (reached : template.Reaches context reference)
    (value : ∀ text, context.heldText? reference.target = some text →
      (expandWithin registry context levels depth reference text).FailsWith
        (template.Blames registry context)) :
    reference.Explains registry context (expandWithin registry context levels)
      (template.Blames registry context) depth := by
  refine ⟨?_, fun _ _ => nofun, fun _ _ => nofun, fun text held _ => value text held⟩
  cases firm : reference.optional with
  | true => exact .inl rfl
  | false =>
    apply Or.inr
    intro error after undefined _
    exact ⟨reference, levels, depth, reached, firm, undefined⟩

/-- The induction is on the levels that values may still expand; the arguments of calls are covered
by the references that are nested in a template. -/
theorem renderSegments_blames (levels depth : Nat) {segments : List Segment}
    (reached : ∀ reference ∈ Template.references segments, template.Reaches context reference) :
    (renderSegments registry context (expandWithin registry context levels) depth
      segments).FailsWith (template.Blames registry context) := by
  induction levels generalizing depth segments with
  | zero =>
    apply renderSegments_failsWith
    intro entry member
    apply explains_of_reaches
    · exact Template.forall_nested_of_closed (Template.reaches_closed context template) depth
        segments reached entry member
    · exact fun _ _ => .fail fun _ => nofun
  | succ levels ih =>
    apply renderSegments_failsWith
    intro entry member
    have isReached := Template.forall_nested_of_closed (Template.reaches_closed context template)
      depth segments reached entry member
    apply explains_of_reaches isReached
    intro text held
    refine expandWithin_failsWith (fun _ _ => nofun) (fun _ _ => nofun) ?_
      fun _ _ blames _ => blames
    intro value parsed _
    apply ih
    exact fun inner => .value isReached held parsed

/-- A rendering that fails for something undefined blames a reference that it has come to. -/
theorem render_blames (registry : Registry σ) (context : Context) (text : String) :
    (render registry context text).FailsWith fun error after =>
      error.isUndefined = true → ∃ template, Template.parse text = .ok template ∧
        template.Blames registry context error after := by
  rw [render_eq]
  cases parsed : Template.parse text with
  | error cause =>
    rintro world _ _ ⟨⟩ ⟨⟩
  | ok template =>
    intro world error after failed _
    refine ⟨template, rfl, ?_⟩
    exact renderSegments_blames maxDepth 0 (fun _ => Template.Reaches.occurs) world error after failed

end Blame

/-! ## Texts without plugins, secrets and nested values -/

/-- A name in the scopes of a context or a part of a recorded step. -/
def Target.isHeld : Target → Bool
  | .variable _ | .step _ _ => true
  | .scoped scope _ => scope ≠ .secret
  | .pluginVariable _ _ | .pluginCall _ _ _ => false

namespace Context

/-- No value of the scopes has a placeholder. -/
def IsPlain (context : Context) : Prop :=
  ∀ text ∈ context.texts, Template.containsPlaceholder text = false

/-- The text of a name or of a part of a recorded step. -/
def textOf? (context : Context) : Target → Option String
  | .step id path => (context.stepValue id path).bind renderScalar
  | target => context.heldText? target

/-- Whether a reference has to have a text and has none. -/
def misses (context : Context) (reference : Reference) : Bool :=
  !reference.optional && (context.textOf? reference.target).isNone

theorem misses_iff (context : Context) {reference : Reference} :
    context.misses reference = true ↔
      reference.optional = false ∧ context.textOf? reference.target = none := by
  simp [misses]

end Context

section Held

variable {σ : Type} (registry : Registry σ) {context : Context} (plain : context.IsPlain)
include plain

private theorem expandValue_of_plain (expand : Expander σ) (depth : Nat) (reference : Reference)
    {value : Option String} (isValue : ∀ text, value = some text → text ∈ context.texts) :
    expandValue expand depth reference value = pure value := by
  cases value with
  | none => rfl
  | some text => rw [expandValue, plain text (isValue text rfl), if_neg Bool.false_ne_true]

/-- Looking up such a reference is looking at the context. -/
theorem lookupReference_of_held (expand : Expander σ) (depth : Nat) {reference : Reference}
    (held : reference.target.isHeld = true) :
    lookupReference registry context expand depth reference =
      pure (context.textOf? reference.target) := by
  obtain ⟨raw, optional, target⟩ := reference
  rw [lookupReference]
  rcases target with name | ⟨scope, name⟩ | _ | _ | ⟨id, path⟩
  · rw [lookupTarget]
    exact expandValue_of_plain plain expand depth _ fun text => Context.mem_texts_of_lookup
  · have notSecret : scope ≠ .secret := by simpa [Target.isHeld, Reference.target] using held
    rw [lookupTarget_scoped _ _ _ _ _ _ notSecret]
    exact expandValue_of_plain plain expand depth _ fun text => Context.mem_texts_of_lookupScoped
  · cases held
  · cases held
  · rw [lookupTarget]
    rfl

/-- The first reference that has to have a text and has none is the error. -/
theorem renderSegments_of_held (expand : Expander σ) (depth : Nat) {template : Template}
    (held : ∀ reference ∈ template.references, reference.target.isHeld = true) :
    ∃ rendered, renderSegments registry context expand depth template =
      (template.references.find? context.misses).elim (pure rendered) fun reference =>
        Effect.fail (.unresolved reference.raw) := by
  induction template with
  | nil => exact ⟨{}, renderSegments.eq_1 ..⟩
  | cons segment rest ih =>
    cases segment with
    | literal text =>
      have same : Template.references (.literal text :: rest) = Template.references rest := rfl
      rw [same] at held ⊢
      obtain ⟨others, rests⟩ := ih held
      refine ⟨Rendered.literal text ++ others, ?_⟩
      rw [renderSegments, renderSegment, pure_bind, rests]
      cases (Template.references rest).find? context.misses with
      | none => rfl
      | some reference => rfl
    | placeholder reference =>
      have split : Template.references (.placeholder reference :: rest) =
          reference :: Template.references rest := rfl
      rw [split] at held ⊢
      obtain ⟨isHeld, othersHeld⟩ := List.forall_mem_cons.mp held
      obtain ⟨others, rests⟩ := ih othersHeld
      refine ⟨.ofReference reference.optional (context.textOf? reference.target) ++ others, ?_⟩
      rw [renderSegments, renderSegment, lookupReference_of_held registry plain expand depth isHeld,
        pure_bind, rests, List.find?_cons, Context.misses, Bool.and_comm]
      cases !reference.optional && (context.textOf? reference.target).isNone with
      | true => rfl
      | false =>
        cases (Template.references rest).find? context.misses with
        | none => rfl
        | some reference => rfl

theorem render_of_held {text : String} {template : Template}
    (parsed : Template.parse text = .ok template)
    (held : ∀ reference ∈ template.references, reference.target.isHeld = true) :
    ∃ rendered, render registry context text =
      (template.references.find? context.misses).elim (pure rendered) fun reference =>
        Effect.fail (.unresolved reference.raw) := by
  rw [render_eq, parsed]
  exact renderSegments_of_held registry plain (expandWithin registry context maxDepth) 0 held

end Held

/-! ## Renderings -/

section

variable {σ : Type}

/-- A rendering that fails for something undefined names a reference that it has come to, that is not
optional, and that is undefined itself: its lookup has just given no value, or what it is to is not
registered. A text without references to plugins and secrets, in a context without nested values, is
rendered if it is a template and each reference that is not optional has a text; if it is a template
and one of them has none, the first such one is named. -/
theorem render_undefined (registry : Registry σ) (context : Context) (text : String) :
    (∀ (world after : World σ) (error : ResolutionError),
      (render registry context text).run world = (.error error, after) →
      error.isUndefined = true → ∃ template reference levels depth,
        Template.parse text = .ok template ∧ template.Reaches context reference ∧
        reference.optional = false ∧
        reference.IsUndefined registry context (expandWithin registry context levels) depth error
          after) ∧
    (context.IsPlain →
      (∀ template, Template.parse text = .ok template →
        ∀ reference ∈ template.references, reference.target.isHeld = true) →
      ∀ world : World σ,
        ((∃ rendered after, (render registry context text).run world = (.ok rendered, after)) ↔
          ∃ template, Template.parse text = .ok template ∧
            ∀ reference ∈ template.references, reference.optional = false →
              context.textOf? reference.target ≠ none) ∧
        ∀ template, Template.parse text = .ok template →
          (∃ reference ∈ template.references, reference.optional = false ∧
            context.textOf? reference.target = none) →
          ∃ first, template.references.find? context.misses = some first ∧
            (render registry context text).run world = (.error (.unresolved first.raw), world)) := by
  constructor
  · intro world after error failed undefined
    obtain ⟨template, parsed, blames⟩ :=
      render_blames registry context text world error after failed undefined
    obtain ⟨reference, levels, depth, reached, firm, isUndefined⟩ := blames undefined
    exact ⟨template, reference, levels, depth, parsed, reached, firm, isUndefined⟩
  · intro plain held world
    cases parsed : Template.parse text with
    | error cause =>
      rw [render_eq, parsed]
      constructor
      · constructor
        · rintro ⟨rendered, after, ⟨⟩⟩
        · rintro ⟨template, ⟨⟩, -⟩
      · rintro template ⟨⟩
    | ok template =>
      obtain ⟨rendered, rendering⟩ := render_of_held registry plain parsed (held template parsed)
      rw [rendering]
      cases found : template.references.find? context.misses with
      | none =>
        have defined : ∀ reference ∈ template.references, reference.optional = false →
            context.textOf? reference.target ≠ none := by
          intro reference member firm absent
          exact List.find?_eq_none.mp found reference member (context.misses_iff.mpr ⟨firm, absent⟩)
        constructor
        · constructor
          · rintro -
            exact ⟨template, rfl, defined⟩
          · rintro -
            exact ⟨rendered, world, rfl⟩
        · rintro _ ⟨⟩ ⟨reference, member, firm, absent⟩
          exact absurd absent (defined reference member firm)
      | some first =>
        obtain ⟨firm, absent⟩ := context.misses_iff.mp (List.find?_some found)
        constructor
        · constructor
          · rintro ⟨_, _, ⟨⟩⟩
          · rintro ⟨_, ⟨⟩, defined⟩
            exact absurd absent (defined first (List.mem_of_find?_eq_some found) firm)
        · rintro _ ⟨⟩ -
          exact ⟨first, found, rfl⟩

/-- Whether all references of a text are to names in scopes or parts of recorded steps. -/
private def isHeldText (text : String) : Bool :=
  match Template.parse text with
  | .error _ => false
  | .ok template => template.references.all (·.target.isHeld)

private theorem held_of_isHeldText {text : String} (held : isHeldText text = true)
    {template : Template} (parsed : Template.parse text = .ok template) :
    ∀ reference ∈ template.references, reference.target.isHeld = true := by
  rw [isHeldText, parsed] at held
  exact List.all_eq_true.mp held

/-- Of a call with a variable in its argument the variable's value is to blame; of a template without
calls the first of two names without a text. -/
theorem render_undefined_inArgument :
    let registry : Registry Unit := Registry.empty.register "p"
      (.functionSource "f" fun arguments => pure (.string (String.join arguments)))
    let nested : Context := { cli := .ofList [("a", "\x7b\x7bb?\x7d\x7d-\x7b\x7bc\x7d\x7d")] }
    let called := "\x7b\x7bplugins.p.f(\"\x7b\x7ba\x7d\x7d\")\x7d\x7d"
    let flat : Context := { cli := .ofList [("x", "1")] }
    let names := "\x7b\x7bx\x7d\x7d\x7b\x7by?\x7d\x7d\x7b\x7bz\x7d\x7d\x7b\x7bw\x7d\x7d"
    let world : World Unit := { host := () }
    (∃ template reference, Template.parse called = .ok template ∧
      template.Reaches nested reference ∧ reference.optional = false ∧ reference.raw = "c") ∧
    flat.IsPlain ∧ isHeldText names = true ∧
      ((render registry flat names).run world).1 = .error (.unresolved "z") ∧
      ¬∃ template, Template.parse names = .ok template ∧
        ∀ reference ∈ template.references, reference.optional = false →
          flat.textOf? reference.target ≠ none := by
  intro registry nested called flat names world
  constructor
  · have failed : ((render registry nested called).run world).1 = .error (.unresolved "c") := by
      decide +kernel
    obtain ⟨template, reference, levels, depth, parsed, reached, firm, undefined⟩ :=
      (render_undefined registry nested called).1 world _ _ (Prod.ext failed rfl) rfl
    exact ⟨template, reference, parsed, reached, firm, undefined.raw_eq⟩
  · have plain : flat.IsPlain := by
      change ∀ text ∈ flat.texts, Template.containsPlaceholder text = false
      decide +kernel
    have held : isHeldText names = true := by decide +kernel
    have failed : ((render registry flat names).run world).1 = .error (.unresolved "z") := by
      decide +kernel
    refine ⟨plain, held, failed, ?_⟩
    intro defined
    have rendered := (render_undefined registry flat names).2 plain
      (fun template => held_of_isHeldText held) world
    obtain ⟨rendering, after, returned⟩ := rendered.1.mpr defined
    rw [returned] at failed
    cases failed

end

end RequestChain
