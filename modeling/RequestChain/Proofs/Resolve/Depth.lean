import RequestChain.Proofs.Resolve.Composition
import RequestChain.Proofs.Resolve.Nested
import RequestChain.Proofs.Template.RoundTrip

/-! # How deep values may expand

A value that holds placeholders expands one level deeper than its reference, and an argument is
rendered one level deeper than its call. Both count: a reference to such a value is out of depth if
there are too many values and calls around it, even if the value is the only one that expands. A call
by itself is never out of depth, and neither is a reference to a value without placeholders.
-/

namespace RequestChain

namespace Context

/-- A reference to a value that holds placeholders. -/
def Expands (context : Context) (reference : Reference) : Prop :=
  ∃ text, context.heldText? reference.target = some text ∧ Template.containsPlaceholder text = true

/-- Values that hold placeholders refer only to values that hold none. -/
def ExpandsOnce (context : Context) : Prop :=
  ∀ target text template, context.heldText? target = some text →
    Template.parse text = .ok template →
    ∀ entry ∈ Template.nested 0 template, ¬context.Expands entry.2

/-- Every reference to a value that holds placeholders stands at a depth at which it may expand. -/
def Shallow (context : Context) (depth : Nat) (template : Template) : Prop :=
  ∀ entry ∈ Template.nested depth template, context.Expands entry.2 → entry.1 + 1 < maxDepth

/-- A template and all that its values expand to, in arguments and beneath other values, stay within
the depth. -/
inductive Fits (context : Context) : Nat → Template → Prop
  | intro {depth : Nat} {template : Template} (shallow : context.Shallow depth template)
      (values : ∀ entry ∈ Template.nested depth template, ∀ text value,
        context.heldText? entry.2.target = some text →
        Template.containsPlaceholder text = true → Template.parse text = .ok value →
        Fits context (entry.1 + 1) value) : Fits context depth template

/-- Where values expand only once, it is enough that the references of the template are not too
deep. -/
theorem ExpandsOnce.fits {context : Context} (once : context.ExpandsOnce) {depth : Nat}
    {template : Template} (shallow : context.Shallow depth template) :
    context.Fits depth template := by
  refine .intro shallow fun entry _ text value held _ parsed => ?_
  have plain : ∀ inner ∈ Template.nested (entry.1 + 1) value, ¬context.Expands inner.2 := by
    intro inner member
    obtain ⟨calls, member, -⟩ := Template.mem_nested_iff.mp member
    exact once entry.2.target text value held parsed (calls, inner.2) member
  refine .intro (fun inner member expands => absurd expands (plain inner member)) ?_
  intro inner member text' value' held' expands
  exact absurd ⟨text', held', expands⟩ (plain inner member)

end Context

/-- An error for another reason than depth. -/
def ResolutionError.WithinDepth (error : ResolutionError) : Prop :=
  ∀ reference, error ≠ .depthExceeded reference

theorem ResolutionError.withinDepth_of_isUndefined {error : ResolutionError}
    (undefined : error.isUndefined = true) : error.WithinDepth := by
  rintro reference rfl
  cases undefined

section

variable {σ : Type} {registry : Registry σ} {context : Context}

/-- A template that fits is within the depth. -/
theorem renderSegments_of_fits {depth : Nat} {template : Template}
    (fits : context.Fits depth template) : ∀ levels, maxDepth ≤ depth + levels →
    (renderSegments registry context (expandWithin registry context levels) depth
      template).FailsOnlyWith ResolutionError.WithinDepth := by
  induction fits with
  | @intro depth template shallow values ih =>
    intro levels enough
    refine Effect.failsOnlyWith_iff.mpr ?_
    refine renderSegments_failsWith depth template fun entry member => ?_
    refine ⟨.inr fun error _ undefined =>
        ResolutionError.withinDepth_of_isUndefined undefined.isUndefined, fun _ _ => nofun,
      fun _ _ => nofun, fun text held expands => ?_⟩
    have within := shallow entry member ⟨text, held, expands⟩
    -- An expansion takes one level and goes at least one deeper, so levels do not run out first.
    obtain ⟨calls, -, deep⟩ := Template.mem_nested_iff.mp member
    obtain ⟨fewer, rfl⟩ : ∃ fewer, levels = fewer + 1 := ⟨levels - 1, by omega⟩
    refine expandWithin_failsWith (fun tooDeep => absurd within (Nat.not_lt.mpr tooDeep))
      (fun _ _ => nofun) (fun value parsed _ => ?_) fun error _ withinDepth _ => withinDepth
    exact Effect.failsOnlyWith_iff.mp
      (ih entry member text value held expands parsed fewer (by omega))

/-- A text that fits is never out of depth. -/
theorem render_of_fits {text : String} {template : Template}
    (parsed : Template.parse text = .ok template) (fits : context.Fits 0 template) :
    (render registry context text).FailsOnlyWith ResolutionError.WithinDepth := by
  rw [render_eq, parsed]
  exact renderSegments_of_fits fits maxDepth (Nat.le_add_left ..)

/-- A template is rendered only if none of its references is too deep to expand. -/
theorem shallow_of_renderSegments {levels depth : Nat} {template : Template} {world after : World σ}
    {rendered : Rendered}
    (returned : (renderSegments registry context (expandWithin registry context levels) depth
      template).run world = (.ok rendered, after)) : context.Shallow depth template := by
  intro entry member
  rintro ⟨text, held, expands⟩
  obtain ⟨before, value, last, expanded⟩ :=
    expanded_of_renderSegments depth template world after rendered returned entry member text held
      expands
  cases levels with
  | zero => cases expanded
  | succ levels =>
    by_contra deep
    simp only [expandWithin, if_pos (Nat.not_lt.mp deep)] at expanded
    cases expanded

/-- Where values expand only once, a text is never out of depth if all its references to such values
have fewer than nine calls around them; and it is rendered only if this is so. -/
theorem render_expandsOnce (once : context.ExpandsOnce) {text : String} {template : Template}
    (parsed : Template.parse text = .ok template) (registry : Registry σ) (world : World σ) :
    (context.Shallow 0 template → ∀ reference,
      ((render registry context text).run world).1 ≠ .error (.depthExceeded reference)) ∧
    ∀ rendered after, (render registry context text).run world = (.ok rendered, after) →
      context.Shallow 0 template := by
  constructor
  · intro shallow reference failed
    exact render_of_fits parsed (once.fits shallow) world _ failed reference rfl
  · intro rendered after returned
    rw [render_eq, parsed] at returned
    exact shallow_of_renderSegments returned

/-- A variable that refers to another one without placeholders. -/
private def twoVariables : Context :=
  { cli := .ofList [("a", "\x7b\x7bb\x7d\x7d"), ("b", "x")] }

private theorem lookup_twoVariables (name : String) :
    twoVariables.lookup name =
      if name = "a" then some "\x7b\x7bb\x7d\x7d" else if name = "b" then some "x" else none := by
  have entries : twoVariables.cli.entries = [("a", "\x7b\x7bb\x7d\x7d"), ("b", "x")] := by rfl
  have others : twoVariables.lookup name = (twoVariables.cli.get? name).or none := by rfl
  rw [others, Option.or_none, OrderedMap.get?, entries, List.lookup_cons, List.lookup_cons]
  by_cases first : name = "a"
  · simp [first]
  · by_cases second : name = "b"
    · simp [second]
    · simp [first, second, beq_eq_false_iff_ne.mpr first, beq_eq_false_iff_ne.mpr second]

private theorem expandsOnce_twoVariables : twoVariables.ExpandsOnce := by
  intro target text template held parsed
  rcases target with name | ⟨scope, name⟩ | _ | _ | _
  · rw [Context.heldText?, lookup_twoVariables] at held
    split at held
    · cases held
      have read : Template.parse "\x7b\x7bb\x7d\x7d" =
          .ok [.placeholder (.mk "b" false (.variable "b"))] :=
        Template.parseChars_written (.placeholder false (.unqualified (by decide) (by decide)) .nil)
      obtain rfl := Except.ok.inj (read.symm.trans parsed)
      intro entry member
      obtain rfl := List.mem_singleton.mp member
      rintro ⟨value, found, expands⟩
      cases found
      revert expands
      decide
    · split at held
      · cases held
        obtain rfl := Except.ok.inj ((Template.parse_of_plain (by decide)).symm.trans parsed)
        intro entry member
        cases member
      · cases held
  · cases scope <;> cases held
  · cases held
  · cases held
  · cases held

/-- A call with the variable in its argument. -/
private def shallowCall : Template :=
  [.placeholder (.mk "plugins.p.f(\"\x7b\x7ba\x7d\x7d\")" false
    (.pluginCall "p" "f" [[.placeholder (.mk "a" false (.variable "a"))]]))]

theorem render_expandsOnce_call :
    let text := "\x7b\x7bplugins.p.f(\"\x7b\x7ba\x7d\x7d\")\x7d\x7d"
    twoVariables.ExpandsOnce ∧ Template.parse text = .ok shallowCall ∧
      twoVariables.Shallow 0 shallowCall ∧ ∀ reference,
        ((render Registry.empty twoVariables text).run ({ host := () } : World Unit)).1 ≠
          .error (.depthExceeded reference) := by
  intro text
  have name : Template.Written [.placeholder (.mk "a" false (.variable "a"))]
      "\x7b\x7ba\x7d\x7d".toList :=
    .placeholder false (.unqualified (by decide) (by decide)) .nil
  have call : Template.WrittenTarget
      (.pluginCall "p" "f" [[.placeholder (.mk "a" false (.variable "a"))]])
      "plugins.p.f(\"\x7b\x7ba\x7d\x7d\")".toList :=
    .pluginCall (by decide) (by decide) (.cons name .nil)
  have written : Template.Written shallowCall
      "\x7b\x7bplugins.p.f(\"\x7b\x7ba\x7d\x7d\")\x7d\x7d".toList :=
    .placeholder false call .nil
  have parsed : Template.parse text = .ok shallowCall := Template.parseChars_written written
  have depths : ∀ entry ∈ Template.nested 0 shallowCall, entry.1 + 1 < maxDepth := by decide
  have shallow : twoVariables.Shallow 0 shallowCall := fun entry member _ => depths entry member
  exact ⟨expandsOnce_twoVariables, parsed, shallow,
    (render_expandsOnce expandsOnce_twoVariables parsed Registry.empty _).1 shallow⟩

/-- A text with so many calls around it. -/
private def calledText : Nat → String
  | 0 => "\x7b\x7ba\x7d\x7d"
  | count + 1 => "\x7b\x7bplugins.p.f(" ++ calledText count ++ ")\x7d\x7d"

/-- Behind nine calls, a value that expands only once is out of depth. -/
theorem render_calls_depthExceeded :
    let registry : Registry Unit := Registry.empty.register "p"
      (.functionSource "f" fun arguments => pure (.string (String.join arguments)))
    twoVariables.ExpandsOnce ∧
      ((render registry twoVariables (calledText 9)).run { host := () }).1 =
        .error (.depthExceeded "a") :=
  ⟨expandsOnce_twoVariables, by decide +kernel⟩

end

end RequestChain
