import RequestChain.Proofs.Resolve.Composition
import RequestChain.Proofs.Resolve.Nested
import RequestChain.Proofs.Template.RoundTrip

/-! # Optional references

A template of optional references is rendered by finding the value of each from left to right; one
without a value leaves no text and counts as undefined. That something is undefined is then no
reason to fail, neither for a name, a plugin or a member, nor deep in the value that a reference
expands to. It still is one in the arguments of a call: these are rendered on their own, so their
references have to be optional as well.
-/

namespace RequestChain

/-! ## Optional throughout -/

namespace Template

mutual

/-- A literal, or a placeholder of a reference that is optional throughout. -/
def allOptionalSegment : Segment → Bool
  | .literal _ => true
  | .placeholder reference => allOptionalReference reference

/-- An optional reference, to a target whose arguments are optional throughout. -/
def allOptionalReference : Reference → Bool
  | .mk _ optional target => optional && allOptionalTarget target

/-- A target whose arguments, if it has any, are optional throughout. -/
def allOptionalTarget : Target → Bool
  | .pluginCall _ _ arguments => allOptionalArguments arguments
  | _ => true

/-- Arguments that are optional throughout. -/
def allOptionalArguments : List (List Segment) → Bool
  | [] => true
  | argument :: rest => allOptional argument && allOptionalArguments rest

/-- A template in which every reference is optional, also in the arguments of calls. -/
def allOptional : List Segment → Bool
  | [] => true
  | segment :: rest => allOptionalSegment segment && allOptional rest

end

/-- A reference that is optional throughout is optional. -/
theorem optional_of_allOptionalReference {reference : Reference}
    (allOptional : allOptionalReference reference = true) : reference.optional = true := by
  cases reference with
  | mk raw optional target =>
    rw [allOptionalReference, Bool.and_eq_true] at allOptional
    exact allOptional.1

mutual

private theorem optional_of_mem_nestedSegment {calls : Nat} : ∀ segment : Segment,
    allOptionalSegment segment = true →
    ∀ entry ∈ nestedSegment calls segment, entry.2.optional = true
  | .literal text, _ => by
    rw [nestedSegment]
    exact nofun
  | .placeholder (.mk raw optional target), allOptional => by
    rw [allOptionalSegment, allOptionalReference, Bool.and_eq_true] at allOptional
    rw [nestedSegment, nestedReference]
    exact List.forall_mem_cons.mpr
      ⟨allOptional.1, optional_of_mem_nestedTarget target allOptional.2⟩

private theorem optional_of_mem_nestedTarget {calls : Nat} : ∀ target : Target,
    allOptionalTarget target = true →
    ∀ entry ∈ nestedTarget calls target, entry.2.optional = true
  | .pluginCall plugin function arguments, allOptional => by
    rw [allOptionalTarget] at allOptional
    rw [nestedTarget]
    exact optional_of_mem_nestedArguments arguments allOptional
  | .variable _, _ | .scoped _ _, _ | .pluginVariable _ _, _ | .step _ _, _ => by
    rw [nestedTarget]
    exact nofun

private theorem optional_of_mem_nestedArguments {calls : Nat} :
    ∀ arguments : List (List Segment), allOptionalArguments arguments = true →
    ∀ entry ∈ nestedArguments calls arguments, entry.2.optional = true
  | [], _ => by
    rw [nestedArguments]
    exact nofun
  | argument :: rest, allOptional => by
    rw [allOptionalArguments, Bool.and_eq_true] at allOptional
    rw [nestedArguments]
    exact List.forall_mem_append.mpr ⟨optional_of_mem_nested argument allOptional.1,
      optional_of_mem_nestedArguments rest allOptional.2⟩

/-- In a template that is optional throughout, every reference is optional. -/
theorem optional_of_mem_nested {calls : Nat} : ∀ segments : List Segment,
    allOptional segments = true → ∀ entry ∈ nested calls segments, entry.2.optional = true
  | [], _ => by
    rw [nested]
    exact nofun
  | segment :: rest, isOptional => by
    rw [allOptional, Bool.and_eq_true] at isOptional
    rw [nested]
    exact List.forall_mem_append.mpr ⟨optional_of_mem_nestedSegment segment isOptional.1,
      optional_of_mem_nested rest isOptional.2⟩

end

end Template

/-! ## Effects that do not fail for something undefined -/

/-- An effect that may fail, but not because something is undefined. -/
def Effect.NeverUndefined {W α : Type} (effect : Effect W ResolutionError α) : Prop :=
  ∀ world error, (effect.run world).1 = .error error → error.isUndefined = false

section

variable {σ : Type} {registry : Registry σ} {context : Context}

open Effect (NeverUndefined)

/-- What an expander does for optional references. -/
def Expander.NeverUndefined (expand : Expander σ) : Prop :=
  ∀ depth reference text, reference.optional = true →
    Effect.NeverUndefined (expand depth reference text)

variable {expand : Expander σ}

/-- References that are optional throughout are no reason to fail. -/
private theorem renderSegments_neverUndefined (expands : expand.NeverUndefined) (depth : Nat)
    (segments : List Segment) (allOptional : Template.allOptional segments = true) :
    NeverUndefined (renderSegments registry context expand depth segments) := by
  refine Effect.failsOnlyWith_iff.mpr ?_
  refine renderSegments_failsWith depth segments fun entry member => ?_
  have isOptional := Template.optional_of_mem_nested segments allOptional entry member
  exact ⟨.inl isOptional, fun _ _ => rfl, fun _ _ => rfl,
    fun text _ _ => Effect.failsOnlyWith_iff.mp (expands entry.1 entry.2 text isOptional)⟩

/-- Whatever is undefined in the value of an optional reference, however deep, makes the value
undefined and not the reference fail. -/
theorem expandWithin_neverUndefined (levels : Nat) :
    (expandWithin registry context levels).NeverUndefined := by
  intro depth reference text isOptional
  cases levels with
  | zero => exact Effect.FailsOnlyWith.fail rfl
  | succ levels =>
    have anyError (template : Template) : (renderSegments registry context
        (expandWithin registry context levels) (depth + 1) template).FailsWith fun _ _ => True :=
      fun _ _ _ _ => trivial
    refine Effect.failsOnlyWith_iff.mpr ?_
    refine expandWithin_failsWith (fun _ _ => rfl) (fun _ _ => rfl)
      (fun template _ _ => anyError template) fun error _ _ kept => ?_
    rwa [isOptional, Bool.true_and] at kept

/-! ## Values of optional references -/

variable (registry context)

/-- The value of a segment, a literal being its own. -/
def segmentValue : Segment → Resolving σ (Option String)
  | .literal text => pure (some text)
  | .placeholder reference =>
    lookupReference registry context (expandWithin registry context maxDepth) 0 reference

/-- A template of optional references with the values of its segments. -/
def Rendered.ofValues (template : Template) (values : List (Option String)) : Rendered where
  text := String.join (values.map (·.getD ""))
  optionalReferences := template.references.length
  undefinedOptional := values.countP Option.isNone

variable {registry context}

private theorem ofValues_cons (segment : Segment) (rest : Template) (value : Option String)
    (values : List (Option String)) :
    Rendered.ofValues (segment :: rest) (value :: values) =
      Rendered.ofValues [segment] [value] ++ Rendered.ofValues rest values := by
  refine Rendered.ext ?_ ?_ ?_
  · change String.join (_ :: _) = String.join [_] ++ String.join _
    rw [String.join_cons, String.join_cons, String.join_nil, String.append_empty]
  · cases segment with
    | literal text => exact (Nat.zero_add _).symm
    | placeholder reference => exact Nat.add_comm _ 1
  · change List.countP _ (value :: values) = List.countP _ [value] + List.countP _ values
    rw [← List.countP_append]
    rfl

private theorem renderSegment_eq {segment : Segment}
    (isOptional : ∀ reference, segment.reference? = some reference → reference.optional = true) :
    renderSegment registry context (expandWithin registry context maxDepth) 0 segment = do
      let value ← segmentValue registry context segment
      return Rendered.ofValues [segment] [value] := by
  cases segment with
  | literal text =>
    rw [renderSegment, segmentValue, pure_bind]
    rfl
  | placeholder reference =>
    rw [renderSegment, segmentValue]
    refine bind_congr fun value => ?_
    rw [isOptional reference rfl, Bool.not_true, Bool.and_false, if_neg Bool.false_ne_true]
    cases value with
    | none => rfl
    | some text =>
      have joined : String.join [text] = text := by
        rw [String.join_cons, String.join_nil, String.append_empty]
      exact congrArg pure (Rendered.ext joined.symm rfl rfl)

/-- A template of optional references is rendered by finding their values. -/
theorem renderTemplate_eq_values {template : Template}
    (optional : ∀ reference ∈ template.references, reference.optional = true) :
    renderTemplate registry context template = do
      let values ← template.mapM (segmentValue registry context)
      return Rendered.ofValues template values := by
  rw [renderTemplate]
  induction template with
  | nil =>
    rw [renderSegments, List.mapM_nil, pure_bind]
    rfl
  | cons segment rest ih =>
    have first : ∀ reference, segment.reference? = some reference → reference.optional = true := by
      intro reference itself
      refine optional reference (List.mem_filterMap.mpr ⟨segment, List.mem_cons_self, itself⟩)
    have others : ∀ reference ∈ Template.references rest, reference.optional = true := by
      intro reference member
      obtain ⟨other, inside, itself⟩ := List.mem_filterMap.mp member
      exact optional reference
        (List.mem_filterMap.mpr ⟨other, List.mem_cons_of_mem _ inside, itself⟩)
    rw [renderSegments, renderSegment_eq first, ih others, List.mapM_cons]
    simp only [bind_assoc, pure_bind, ofValues_cons segment rest]

private theorem optional_of_mem_references {template : Template}
    (allOptional : Template.allOptional template = true) :
    ∀ reference ∈ template.references, reference.optional = true := by
  induction template with
  | nil => intro reference member; cases member
  | cons segment rest ih =>
    rw [Template.allOptional, Bool.and_eq_true] at allOptional
    intro reference member
    obtain ⟨other, inside, itself⟩ := List.mem_filterMap.mp member
    rcases List.mem_cons.mp inside with rfl | later
    · cases other with
      | literal text => cases itself
      | placeholder found =>
        cases itself
        have whole := allOptional.1
        rw [Template.allOptionalSegment] at whole
        exact Template.optional_of_allOptionalReference whole
    · exact ih allOptional.2 reference (List.mem_filterMap.mpr ⟨other, later, itself⟩)

/-- A template in which every reference is optional, also in the arguments of calls, does not fail
because something is undefined: not for a name, a plugin or a member, in any scope, and not in the
values that its references expand to. Where it succeeds, its segments have been given their
values from left to right; one without a value leaves no text and counts as undefined. -/
theorem render_allOptional {text : String} {template : Template}
    (parsed : Template.parse text = .ok template)
    (allOptional : Template.allOptional template = true) (world : World σ) :
    (∀ error, ((render registry context text).run world).1 = .error error →
      error.isUndefined = false) ∧
    ∀ rendered after, (render registry context text).run world = (.ok rendered, after) →
      ∃ values, (template.mapM (segmentValue registry context)).run world = (.ok values, after) ∧
        rendered.text = String.join (values.map (·.getD "")) ∧
        rendered.optionalReferences = template.references.length ∧
        rendered.undefinedOptional = values.countP Option.isNone := by
  have whole : render registry context text = renderTemplate registry context template := by
    rw [render_eq, parsed]
    rfl
  rw [whole]
  refine ⟨fun error => ?_, fun rendered after returned => ?_⟩
  · exact renderSegments_neverUndefined (expandWithin_neverUndefined maxDepth) 0 template
      allOptional world error
  · rw [renderTemplate_eq_values (optional_of_mem_references allOptional)] at returned
    obtain ⟨values, last, found, summed⟩ := Effect.of_run_bind_eq_ok returned
    cases summed
    exact ⟨values, found, rfl, rfl, rfl⟩

/-- A call with a name in its argument, both optional. -/
private def optionalCall : Template :=
  [.placeholder (.mk "plugins.p.f(\"\x7b\x7bx?\x7d\x7d\")" true
    (.pluginCall "p" "f" [[.placeholder (.mk "x" true (.variable "x"))]]))]

theorem render_allOptional_call :
    let text := "\x7b\x7bplugins.p.f(\"\x7b\x7bx?\x7d\x7d\")?\x7d\x7d"
    Template.parse text = .ok optionalCall ∧ Template.allOptional optionalCall = true ∧
      ∀ error, ((render Registry.empty {} text).run ({ host := () } : World Unit)).1 =
        .error error → error.isUndefined = false := by
  intro text
  have name : Template.Written [.placeholder (.mk "x" true (.variable "x"))]
      "\x7b\x7bx?\x7d\x7d".toList :=
    .placeholder true (.unqualified (by decide) (by decide)) .nil
  have call : Template.WrittenTarget
      (.pluginCall "p" "f" [[.placeholder (.mk "x" true (.variable "x"))]])
      "plugins.p.f(\"\x7b\x7bx?\x7d\x7d\")".toList :=
    .pluginCall (by decide) (by decide) (.cons name .nil)
  have written : Template.Written optionalCall
      "\x7b\x7bplugins.p.f(\"\x7b\x7bx?\x7d\x7d\")?\x7d\x7d".toList :=
    .placeholder true call .nil
  have parsed : Template.parse text = .ok optionalCall := Template.parseChars_written written
  exact ⟨parsed, by decide, (render_allOptional parsed (by decide) _).1⟩

/-- The same call with a name that is not optional. -/
private def mixedCall : Template :=
  [.placeholder (.mk "plugins.p.f(\"\x7b\x7bx\x7d\x7d\")" true
    (.pluginCall "p" "f" [[.placeholder (.mk "x" false (.variable "x"))]]))]

/-- It is not enough that the reference of the call is optional. -/
theorem render_mixedCall :
    let text := "\x7b\x7bplugins.p.f(\"\x7b\x7bx\x7d\x7d\")?\x7d\x7d"
    let registry : Registry Unit := Registry.empty.register "p"
      (.functionSource "f" fun arguments => pure (.string (String.join arguments)))
    Template.parse text = .ok mixedCall ∧
      (∀ reference ∈ mixedCall.references, reference.optional = true) ∧
      ((render registry {} text).run { host := () }).1 = .error (.unresolved "x") := by
  intro text registry
  have name : Template.Written [.placeholder (.mk "x" false (.variable "x"))]
      "\x7b\x7bx\x7d\x7d".toList :=
    .placeholder false (.unqualified (by decide) (by decide)) .nil
  have call : Template.WrittenTarget
      (.pluginCall "p" "f" [[.placeholder (.mk "x" false (.variable "x"))]])
      "plugins.p.f(\"\x7b\x7bx\x7d\x7d\")".toList :=
    .pluginCall (by decide) (by decide) (.cons name .nil)
  have written : Template.Written mixedCall
      "\x7b\x7bplugins.p.f(\"\x7b\x7bx\x7d\x7d\")?\x7d\x7d".toList :=
    .placeholder true call .nil
  have parsed : Template.parse text = .ok mixedCall := Template.parseChars_written written
  refine ⟨parsed, fun reference member => ?_, by decide +kernel⟩
  rw [List.mem_singleton.mp member]
  rfl

end

end RequestChain
