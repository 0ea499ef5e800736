import RequestChain.Proofs.Assembly.Precedence
import RequestChain.Proofs.Assembly.Texts
import RequestChain.Proofs.Layers
import RequestChain.Proofs.Resolve.Optional
import RequestChain.Proofs.Resolve.Repetition
import RequestChain.Proofs.Text.Cutting

/-! # The entries that are left out

The entries of a map are rendered in turn, and what is rendered does not depend on which of them are
to be kept. So with and without the policy for optional references a map fails in the same way, and
the policy takes entries away and does nothing else. It takes those whose template has optional
placeholders, none of them with a value, and whose text is blank. The placeholders that count are
those of the template itself, not those in the arguments of its calls or in the values it expands.
-/

namespace RequestChain

/-! ## The values of segments -/

/-- A placeholder of an optional reference. -/
def Segment.isOptional : Segment → Bool
  | .literal _ => false
  | .placeholder reference => reference.optional

/-- A template, the values of its segments, and what they are put together to. -/
structure Template.RendersTo (template : Template) (values : List (Option String))
    (rendered : Rendered) : Prop where
  text : rendered.text = String.join (values.map (·.getD ""))
  optionalReferences : rendered.optionalReferences = template.countP Segment.isOptional
  undefinedOptional : rendered.undefinedOptional = values.countP Option.isNone
  /-- Nothing but an optional placeholder goes without a value. -/
  absent : List.Forall₂ (fun segment value => value = none → segment.isOptional = true)
    template values

/-- A template has optional placeholders, none of them has a value, and the text is blank. -/
structure Template.OnlyUndefined (template : Template) (values : List (Option String)) : Prop where
  occurs : ∃ segment ∈ template, segment.isOptional = true
  undefined : List.Forall₂ (fun segment value => segment.isOptional = true → value = none)
    template values
  blank : Text.trimmed (String.join (values.map (·.getD ""))) = ""

namespace Template

variable {template rest : Template} {segment : Segment} {value : Option String}
  {values : List (Option String)} {rendered first others : Rendered}

theorem RendersTo.cons (here : RendersTo [segment] [value] first)
    (behind : RendersTo rest values others) :
    RendersTo (segment :: rest) (value :: values) (first ++ others) where
  text := by
    change first.text ++ others.text = _
    rw [here.text, behind.text, List.map_cons, List.map_cons, List.map_nil, String.join_cons,
      String.join_cons, String.join_nil, String.append_empty]
  optionalReferences := by
    rw [← List.singleton_append, List.countP_append, ← here.optionalReferences,
      ← behind.optionalReferences]
    rfl
  undefinedOptional := by
    rw [← List.singleton_append, List.countP_append, ← here.undefinedOptional,
      ← behind.undefinedOptional]
    rfl
  absent := .cons (List.forall₂_cons.mp here.absent).1 behind.absent

private theorem countP_isNone_le
    (absent : List.Forall₂ (fun segment value => value = none → segment.isOptional = true)
      template values) :
    values.countP Option.isNone ≤ template.countP Segment.isOptional := by
  induction absent with
  | nil => rfl
  | @cons segment value _ _ here _ ih =>
    rw [List.countP_cons, List.countP_cons]
    cases value with
    | none => simpa [here rfl] using ih
    | some text => exact Nat.le_add_right_of_le ih

/-- Optional placeholders are counted and those without a value. The numbers are the same if none
of them has a value. -/
private theorem countP_isOptional_le_iff
    (absent : List.Forall₂ (fun segment value => value = none → segment.isOptional = true)
      template values) :
    template.countP Segment.isOptional ≤ values.countP Option.isNone ↔
      List.Forall₂ (fun segment value => segment.isOptional = true → value = none)
        template values := by
  induction absent with
  | nil => exact iff_of_true (Nat.le_refl 0) .nil
  | @cons segment value rest values here behind ih =>
    rw [List.countP_cons, List.countP_cons, List.forall₂_cons, ← ih]
    have fewer := countP_isNone_le behind
    cases value with
    | none => simp [here rfl]
    | some text =>
      cases segment.isOptional with
      | false => simp
      | true =>
        -- one optional placeholder more than there are undefined ones
        refine iff_of_false ?_ fun all => nomatch all.1 rfl
        rw [Option.isNone_some, if_pos rfl, if_neg Bool.false_ne_true]
        omega

theorem RendersTo.undefinedOptional_le (renders : template.RendersTo values rendered) :
    rendered.undefinedOptional ≤ rendered.optionalReferences := by
  rw [renders.undefinedOptional, renders.optionalReferences]
  exact countP_isNone_le renders.absent

/-- The decision on an entry in terms of the values of its template. -/
theorem RendersTo.shouldInclude_eq_false_iff (renders : template.RendersTo values rendered) :
    shouldInclude rendered = false ↔ template.OnlyUndefined values := by
  have occurs : rendered.optionalReferences ≠ 0 ↔
      ∃ segment ∈ template, segment.isOptional = true := by
    rw [renders.optionalReferences, ← Nat.pos_iff_ne_zero, List.countP_pos_iff]
  have undefined : rendered.definedOptional = 0 ↔
      List.Forall₂ (fun segment value => segment.isOptional = true → value = none)
        template values := by
    rw [Rendered.definedOptional, Nat.sub_eq_zero_iff_le, renders.undefinedOptional,
      renders.optionalReferences, countP_isOptional_le_iff renders.absent]
  have blank : Text.isBlankText rendered.text = true ↔
      Text.trimmed (String.join (values.map (·.getD ""))) = "" := by
    rw [Text.trimmed_eq_empty_iff, renders.text]
  have decision : shouldInclude rendered = false ↔ rendered.optionalReferences ≠ 0 ∧
      rendered.definedOptional = 0 ∧ Text.isBlankText rendered.text = true := by
    simp [shouldInclude, and_assoc]
  rw [decision, occurs, undefined, blank]
  exact ⟨fun ⟨occurs, undefined, blank⟩ => ⟨occurs, undefined, blank⟩,
    fun only => ⟨only.occurs, only.undefined, only.blank⟩⟩

end Template

section

variable {σ : Type} {registry : Registry σ} {context : Context}

private theorem rendersTo_of_renderSegment {segment : Segment} {world after : World σ}
    {rendered : Rendered}
    (returned : (renderSegment registry context (expandWithin registry context maxDepth) 0
      segment).run world = (.ok rendered, after)) :
    ∃ value, (segmentValue registry context segment).run world = (.ok value, after) ∧
      Template.RendersTo [segment] [value] rendered := by
  cases segment with
  | literal text =>
    rw [renderSegment] at returned
    cases returned
    refine ⟨some text, rfl, ?_, rfl, rfl, .cons nofun .nil⟩
    simp [Rendered.literal, String.join_cons, String.join_nil]
  | placeholder reference =>
    rw [renderSegment] at returned
    obtain ⟨value, middle, found, returned⟩ := Effect.of_run_bind_eq_ok returned
    by_cases missing : value.isNone && !reference.optional
    · rw [if_pos missing] at returned
      cases returned
    · rw [if_neg missing] at returned
      cases returned
      refine ⟨value, found, ?_, ?_, ?_, .cons ?_ .nil⟩
      · simp [Rendered.ofReference, String.join_cons, String.join_nil]
      · rw [List.countP_singleton]
        rfl
      · rw [List.countP_singleton]
        rfl
      · rintro rfl
        simpa [Segment.isOptional] using missing

/-- A rendering that succeeds has found the values of the segments, from left to right. -/
private theorem rendersTo_of_renderTemplate {template : Template} {world after : World σ}
    {rendered : Rendered}
    (returned : (renderTemplate registry context template).run world = (.ok rendered, after)) :
    ∃ values, (template.mapM (segmentValue registry context)).run world = (.ok values, after) ∧
      template.RendersTo values rendered := by
  rw [renderTemplate] at returned
  induction template generalizing world rendered with
  | nil =>
    rw [renderSegments] at returned
    cases returned
    exact ⟨[], rfl, rfl, rfl, rfl, .nil⟩
  | cons segment rest ih =>
    rw [renderSegments] at returned
    obtain ⟨first, middle, isFirst, returned⟩ := Effect.of_run_bind_eq_ok returned
    obtain ⟨others, last, areOthers, result⟩ := Effect.of_run_bind_eq_ok returned
    cases result
    obtain ⟨value, found, here⟩ := rendersTo_of_renderSegment isFirst
    obtain ⟨values, foundBehind, behind⟩ := ih areOthers
    refine ⟨value :: values, ?_, here.cons behind⟩
    rw [List.mapM_cons, Effect.run_bind_of_ok found, Effect.run_bind_of_ok foundBehind]
    rfl

theorem rendersTo_of_render {text : String} {world after : World σ} {rendered : Rendered}
    (returned : (render registry context text).run world = (.ok rendered, after)) :
    ∃ template values, Template.parse text = .ok template ∧
      (template.mapM (segmentValue registry context)).run world = (.ok values, after) ∧
      template.RendersTo values rendered := by
  rw [render_eq] at returned
  obtain ⟨template, middle, parsed, returned⟩ := Effect.of_run_bind_eq_ok returned
  rw [Effect.run_ofExcept] at parsed
  cases isTemplate : Template.parse text with
  | error error =>
    rw [isTemplate] at parsed
    cases parsed
  | ok other =>
    rw [isTemplate] at parsed
    cases parsed
    obtain ⟨values, found, renders⟩ := rendersTo_of_renderTemplate returned
    exact ⟨template, values, rfl, found, renders⟩

end

/-! ## Entries in turn -/

section

variable {σ : Type} (registry : Registry σ) (context : Context)

/-- The rendering of an entry, under its name. -/
def renderEntry (entry : String × String) : Resolving σ (String × Rendered) := do
  return (entry.1, ← render registry context entry.2)

/-- All entries that have a value are rendered before any is left out. -/
theorem resolveKept_eq (keep : Rendered → Bool) (entries : List (String × Json)) :
    resolveKept registry context keep entries = do
      let rendered ← (ScalarMap.templates entries).mapM (renderEntry registry context)
      return (rendered.filter (keep ·.2)).map fun entry => (entry.1, entry.2.text) := by
  induction entries with
  | nil => rfl
  | cons entry rest ih =>
    obtain ⟨name, value⟩ := entry
    rw [resolveKept, ScalarMap.templates]
    cases renderScalar value with
    | none => exact ih
    | some template =>
      dsimp only
      rw [List.mapM_cons, renderEntry, ih]
      simp only [bind_assoc, pure_bind, List.filter_cons]
      refine bind_congr fun rendered => bind_congr fun others => ?_
      split <;> rfl

/-- Entries that are related one by one, each to one of the same name. -/
private theorem lookup_of_forall₂ {α β : Type} (related : α → β → Prop)
    {entries : List (String × α)} {others : List (String × β)}
    (pairs : List.Forall₂ (fun entry other => other.1 = entry.1 ∧ related entry.2 other.2)
      entries others) :
    others.map Prod.fst = entries.map Prod.fst ∧ ∀ name value, entries.lookup name = some value →
      ∃ other, others.lookup name = some other ∧ related value other := by
  induction pairs with
  | nil => exact ⟨rfl, nofun⟩
  | @cons entry other rest others here _ ih =>
    obtain ⟨key, held⟩ := entry
    obtain ⟨key', held'⟩ := other
    obtain ⟨rfl : key' = key, holds⟩ := here
    refine ⟨congrArg (key' :: ·) ih.1, fun name value found => ?_⟩
    by_cases asked : name = key'
    · subst asked
      rw [List.lookup_cons_self, Option.some.injEq] at found
      exact ⟨held', List.lookup_cons_self, found ▸ holds⟩
    · have differ : (name == key') = false := beq_eq_false_iff_ne.mpr asked
      rw [List.lookup_cons, differ] at found ⊢
      exact ih.2 name value found

variable {registry context}

theorem renderEntry_steady (steady : registry.Steady) (context : Context)
    (entry : String × String) :
    (renderEntry registry context entry).Steady :=
  (render_steady steady context entry.2).bind fun _ _ _ => rfl

/-- The entries that have a value. -/
theorem ScalarMap.templates_eq (entries : ScalarMap) :
    templates entries.entries = (entries.filterMapValues renderScalar).entries := by
  change _ = entries.entries.filterMap _
  induction entries.entries with
  | nil => rfl
  | cons entry rest ih =>
    obtain ⟨name, value⟩ := entry
    rw [templates, List.filterMap_cons, ih]
    cases renderScalar value <;> rfl

/-- What rendering the entries of a map comes to, in any world. -/
structure Renderings (registry : Registry σ) (context : Context) (entries : ScalarMap)
    (rendered : OrderedMap Rendered) : Prop where
  keys : rendered.keys = entries.keys.filter fun name => (entries.text? name).isSome
  rendering : ∀ name text, entries.text? name = some text →
    ∃ rendering, rendered.get? name = some rendering ∧
      ∀ here, ((render registry context text).run here).1 = .ok rendering

/-- The template of an entry and, in each world, the values that its text is put together from. -/
theorem Renderings.template {entries : ScalarMap} {rendered : OrderedMap Rendered}
    (renderings : Renderings registry context entries rendered) (world : World σ)
    {name text : String} (isText : entries.text? name = some text) :
    ∃ rendering template, rendered.get? name = some rendering ∧
      Template.parse text = .ok template ∧
      ∀ here, ∃ values, ((template.mapM (segmentValue registry context)).run here).1 = .ok values ∧
        template.RendersTo values rendering := by
  obtain ⟨rendering, found, everywhere⟩ := renderings.rendering name text isText
  have parts (here : World σ) := rendersTo_of_render
    (Prod.ext (everywhere here) rfl : (render registry context text).run here = (.ok rendering, _))
  obtain ⟨template, -, parsed, -⟩ := parts world
  refine ⟨rendering, template, found, parsed, fun here => ?_⟩
  obtain ⟨other, values, parsed', given, renders⟩ := parts here
  cases parsed.symm.trans parsed'
  exact ⟨values, congrArg Prod.fst given, renders⟩

private theorem outcome_of_renderEntry {entry : String × String} {world : World σ}
    {value : String × Rendered}
    (returned : ((renderEntry registry context entry).run world).1 = .ok value) :
    value.1 = entry.1 ∧ ((render registry context entry.2).run world).1 = .ok value.2 := by
  rw [renderEntry, Effect.run_bind] at returned
  generalize (render registry context entry.2).run world = ran at returned ⊢
  obtain ⟨error | rendered, after⟩ := ran
  · cases returned
  · cases returned
    exact ⟨rfl, rfl⟩

private theorem renderings_of_mapM (steady : registry.Steady) {entries : ScalarMap}
    {world : World σ} {values : List (String × Rendered)}
    (returned : (((ScalarMap.templates entries.entries).mapM (renderEntry registry context)).run
      world).1 = .ok values) :
    ∃ rendered, Renderings registry context entries rendered ∧ rendered.entries = values := by
  have outcomes := Effect.Steady.forall₂_of_mapM (renderEntry_steady steady context) returned
  rw [ScalarMap.templates_eq] at outcomes
  obtain ⟨names, found⟩ := lookup_of_forall₂
    (fun text rendering => ∀ here, ((render registry context text).run here).1 = .ok rendering)
    (outcomes.imp fun entry value each =>
      ⟨(outcome_of_renderEntry (each world)).1, fun here => (outcome_of_renderEntry (each here)).2⟩)
  refine ⟨⟨values, ?_⟩, ⟨?_, ?_⟩, rfl⟩
  · rw [names]
    exact (entries.filterMapValues renderScalar).nodup
  · exact names.trans (entries.keys_filterMapValues renderScalar)
  · intro name text isText
    exact found name text ((entries.get?_filterMapValues renderScalar name).trans isText)

/-- The text of a rendering that is to be kept. -/
def includedText? (rendered : Rendered) : Option String :=
  if shouldInclude rendered then some rendered.text else none

private theorem entries_included (rendered : OrderedMap Rendered) :
    (rendered.filterMapValues includedText?).entries =
      (rendered.entries.filter (shouldInclude ·.2)).map fun entry => (entry.1, entry.2.text) := by
  change rendered.entries.filterMap _ = _
  rw [← List.filterMap_eq_map, List.filterMap_filter]
  refine congrArg (List.filterMap · _) (funext fun entry => ?_)
  rw [includedText?]
  split <;> rfl

/-- With and without the policy there is the same error, or there are the same renderings. -/
private theorem outcomes_of_steady (steady : registry.Steady) (entries : ScalarMap)
    (world other : World σ) :
    (∃ error, ((resolveEntriesWithOptional registry context entries).run world).1 = .error error ∧
      ((resolveEntries registry context entries).run other).1 = .error error) ∨
    ∃ rendered, Renderings registry context entries rendered ∧
      ((resolveEntriesWithOptional registry context entries).run world).1 =
        .ok (rendered.filterMapValues includedText?) ∧
      ((resolveEntries registry context entries).run other).1 =
        .ok (rendered.mapValues Rendered.text) := by
  have collected (result : OrderedMap String) : .ofList result.entries = result :=
    OrderedMap.ext (OrderedMap.entries_ofList result.nodup)
  have same := Effect.Steady.mapM (renderEntry_steady steady context)
    (ScalarMap.templates entries.entries) world other
  simp only [resolveEntriesWithOptional, resolveEntries, resolveKept_eq, bind_assoc, pure_bind]
  rcases ran : ((ScalarMap.templates entries.entries).mapM (renderEntry registry context)).run world
    with ⟨error | values, after⟩ <;>
    rcases ran' : ((ScalarMap.templates entries.entries).mapM
      (renderEntry registry context)).run other with ⟨outcome, after'⟩ <;>
    rw [ran, ran'] at same <;> cases same
  · left
    rw [Effect.run_bind_of_error ran, Effect.run_bind_of_error ran']
    exact ⟨error, rfl, rfl⟩
  · right
    obtain ⟨rendered, renderings, rfl⟩ := renderings_of_mapM steady (congrArg Prod.fst ran)
    rw [Effect.run_bind_of_ok ran, Effect.run_bind_of_ok ran', ← entries_included, collected,
      List.filter_true]
    exact ⟨rendered, renderings, rfl, congrArg Except.ok (collected (rendered.mapValues _))⟩

/-- The policy for optional references takes entries away and does nothing else: with a steady
registry, a map fails as it does without the policy, or the policy leaves a part of what there is
without it, in the order of the map. An entry with a value is left out if its template has optional
placeholders, all of them without a value, and its text is blank. No rendering has more undefined
optional references than its template has optional placeholders. -/
theorem resolveEntriesWithOptional_removes (steady : registry.Steady) (context : Context)
    (entries : ScalarMap) (world other : World σ) :
    (∀ error, ((resolveEntriesWithOptional registry context entries).run world).1 = .error error ↔
      ((resolveEntries registry context entries).run other).1 = .error error) ∧
    (∀ kept all, ((resolveEntriesWithOptional registry context entries).run world).1 = .ok kept →
      ((resolveEntries registry context entries).run other).1 = .ok all →
      kept.entries.Sublist all.entries ∧
      all.keys = entries.keys.filter (fun name => (entries.text? name).isSome) ∧
      ∀ name value, entries.get? name = some value → value ≠ .null →
        ∃ text template, renderScalar value = some text ∧ Template.parse text = .ok template ∧
          ∀ here, ∃ values,
            ((template.mapM (segmentValue registry context)).run here).1 = .ok values ∧
            all.get? name = some (String.join (values.map (·.getD ""))) ∧
            (name ∉ kept.keys ↔ template.OnlyUndefined values)) ∧
    ∀ text rendered, ((render registry context text).run world).1 = .ok rendered →
      ∃ template, Template.parse text = .ok template ∧
        rendered.optionalReferences = template.countP Segment.isOptional ∧
        rendered.undefinedOptional ≤ rendered.optionalReferences := by
  refine ⟨?fail, ?succeed, ?counts⟩
  case fail =>
    intro error
    rcases outcomes_of_steady steady entries world other with
      ⟨cause, failed, failed'⟩ | ⟨rendered, -, returned, returned'⟩
    · rw [failed, failed']
    · rw [returned, returned']
      simp
  case succeed =>
    intro kept all isKept isAll
    rcases outcomes_of_steady steady entries world other with
      ⟨cause, failed, -⟩ | ⟨rendered, renderings, returned, returned'⟩
    · cases failed.symm.trans isKept
    cases returned.symm.trans isKept
    cases returned'.symm.trans isAll
    refine ⟨?part, ?names, ?entry⟩
    case part =>
      rw [entries_included]
      exact List.filter_sublist.map _
    case names =>
      exact (rendered.keys_mapEntries fun _ => Rendered.text).trans renderings.keys
    case entry =>
      intro name value held present
      cases isText : renderScalar value with
      | none => exact absurd (renderScalar_eq_none_iff.mp isText) present
      | some text =>
        have hasText : entries.text? name = some text := by
          rw [ScalarMap.text?, held]
          exact isText
        obtain ⟨rendering, template, found, parsed, everywhere⟩ := renderings.template world hasText
        refine ⟨text, template, rfl, parsed, fun here => ?_⟩
        obtain ⟨values, given, renders⟩ := everywhere here
        refine ⟨values, given, ?_, ?_⟩
        · rw [OrderedMap.get?_mapValues, found, ← renders.text]
          rfl
        · rw [← renders.shouldInclude_eq_false_iff, ← OrderedMap.isSome_get?_iff,
            OrderedMap.get?_filterMapValues, found, Option.bind_some, includedText?]
          cases shouldInclude rendering <;> simp
  case counts =>
    intro text rendered returned
    obtain ⟨template, values, parsed, -, renders⟩ := rendersTo_of_render
      (Prod.ext returned rfl : (render registry context text).run world = (.ok rendered, _))
    exact ⟨template, parsed, renders.optionalReferences, renders.undefinedOptional_le⟩

/-- An entry that is left out, and one that is null and never was there. -/
theorem resolveEntriesWithOptional_removes_undefined :
    let entries : ScalarMap := .ofList [("Accept", .string "json"), ("Absent", .null),
      ("X-Trace", .string " \x7b\x7bmissing?\x7d\x7d")]
    let world : World Unit := { host := () }
    (Registry.empty : Registry Unit).Steady ∧ ∃ kept all,
      ((resolveEntriesWithOptional Registry.empty {} entries).run world).1 = .ok kept ∧
      ((resolveEntries Registry.empty {} entries).run world).1 = .ok all ∧
      kept.entries.Sublist all.entries ∧ kept.keys = ["Accept"] ∧
      all.keys = ["Accept", "X-Trace"] := by
  intro entries world
  have steady : (Registry.empty : Registry Unit).Steady := ⟨nofun, nofun, nofun⟩
  refine ⟨steady, .ofList [("Accept", "json")], .ofList [("Accept", "json"), ("X-Trace", " ")], ?_⟩
  have isKept : ((resolveEntriesWithOptional Registry.empty {} entries).run world).1 =
      .ok (.ofList [("Accept", "json")]) := by decide +kernel
  have isAll : ((resolveEntries Registry.empty {} entries).run world).1 =
      .ok (.ofList [("Accept", "json"), ("X-Trace", " ")]) := by decide +kernel
  obtain ⟨part, -, -⟩ :=
    (resolveEntriesWithOptional_removes steady {} entries world world).2.1 _ _ isKept isAll
  exact ⟨isKept, isAll, part, by decide +kernel, by decide +kernel⟩

end

end RequestChain
