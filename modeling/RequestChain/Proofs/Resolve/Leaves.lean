import RequestChain.Proofs.Assembly.Texts
import RequestChain.Proofs.Json.Order

/-! # The strings of a value

A value that is resolved keeps its shape. Its strings are resolved one after the other, each of them
once, and the texts that they give take their places; all else stays as it is, the names of fields
included. The first string that fails is the last one that is looked at. Where no string holds a
placeholder, nothing is done.
-/

namespace RequestChain

namespace Json

mutual

/-- A value and the value of the same shape with these texts in place of its strings, from left to
right. -/
inductive Refilled : Json → List String → Json → Prop
  | null : Refilled .null [] .null
  | bool (value : Bool) : Refilled (.bool value) [] (.bool value)
  | number (value : JsonNumber) : Refilled (.number value) [] (.number value)
  | string (old new : String) : Refilled (.string old) [new] (.string new)
  | array {items others : List Json} {texts : List String}
      (refilled : RefilledItems items texts others) : Refilled (.array items) texts (.array others)
  | object {fields others : List (String × Json)} {texts : List String}
      (refilled : RefilledFields fields texts others) :
      Refilled (.object fields) texts (.object others)

/-- The items of an array, each with its own share of the texts. -/
inductive RefilledItems : List Json → List String → List Json → Prop
  | nil : RefilledItems [] [] []
  | cons {item other : Json} {rest others : List Json} {texts behind : List String}
      (first : Refilled item texts other) (refilled : RefilledItems rest behind others) :
      RefilledItems (item :: rest) (texts ++ behind) (other :: others)

/-- The fields of an object, each under its name with its own share of the texts. -/
inductive RefilledFields : List (String × Json) → List String → List (String × Json) → Prop
  | nil : RefilledFields [] [] []
  | cons {name : String} {value other : Json} {rest others : List (String × Json)}
      {texts behind : List String} (first : Refilled value texts other)
      (refilled : RefilledFields rest behind others) :
      RefilledFields ((name, value) :: rest) (texts ++ behind) ((name, other) :: others)

end

theorem RefilledFields.names_eq {fields others : List (String × Json)} {texts : List String}
    (refilled : RefilledFields fields texts others) :
    others.map Prod.fst = fields.map Prod.fst := by
  induction fields generalizing others texts with
  | nil =>
    cases refilled
    rfl
  | cons field rest ih =>
    cases refilled with
    | cons _ refilled => rw [List.map_cons, List.map_cons, ih refilled]

mutual

/-- The order of fields is that of their names, and these stay. -/
theorem Refilled.sorted_eq {value other : Json} {texts : List String}
    (refilled : value.Refilled texts other) (sorted : value.sorted = value) :
    other.sorted = other := by
  cases refilled with
  | null | bool | number | string => rw [Json.sorted]
  | array refilled =>
    rw [Json.sorted] at sorted ⊢
    rw [refilled.sorted_eq (Json.array.inj sorted)]
  | object refilled =>
    rw [Json.sorted] at sorted ⊢
    rw [refilled.sorted_eq (Json.object.inj sorted)]

theorem RefilledItems.sorted_eq {items others : List Json} {texts : List String}
    (refilled : RefilledItems items texts others) (sorted : sortedItems items = items) :
    sortedItems others = others := by
  cases refilled with
  | nil => rw [sortedItems]
  | cons first refilled =>
    rw [sortedItems] at sorted ⊢
    injection sorted with head rest
    rw [first.sorted_eq head, refilled.sorted_eq rest]

theorem RefilledFields.sorted_eq {fields others : List (String × Json)} {texts : List String}
    (refilled : RefilledFields fields texts others) (sorted : sortedFields fields = fields) :
    sortedFields others = others := by
  cases refilled with
  | nil => rw [sortedFields]
  | cons first refilled =>
    obtain ⟨least, head, rest⟩ := sortedFields_cons_eq_self_iff.mp sorted
    rw [sortedFields_cons_eq_self_iff, refilled.names_eq]
    exact ⟨least, first.sorted_eq head, refilled.sorted_eq rest⟩

end

end Json

/-! ## Effects one after the other -/

namespace Effect

variable {W ε α β : Type} {f : α → Effect W ε β}

theorem run_mapM_append (f : α → Effect W ε β) (first next : List α) (world : W) :
    ((first ++ next).mapM f).run world =
      match (first.mapM f).run world with
      | (.ok values, after) =>
        (((next.mapM f).run after).1.map (values ++ ·), ((next.mapM f).run after).2)
      | (.error error, after) => (.error error, after) := by
  rw [List.mapM_append, run_bind]
  rcases (first.mapM f).run world with ⟨error | values, after⟩
  · rfl
  · dsimp only
    rw [run_bind]
    rcases (next.mapM f).run after with ⟨error | others, last⟩
    · rfl
    · rfl

/-- Effects in a row fail where the first of them does that fails, and no later one is run. -/
theorem run_mapM_eq_error_iff {items : List α} {world after : W} {error : ε} :
    (items.mapM f).run world = (.error error, after) ↔
      ∃ before item behind values middle, items = before ++ item :: behind ∧
        (before.mapM f).run world = (.ok values, middle) ∧
        (f item).run middle = (.error error, after) := by
  induction items generalizing world with
  | nil =>
    refine iff_of_false nofun ?_
    rintro ⟨before, item, behind, values, middle, shape, -⟩
    simp at shape
  | cons item rest ih =>
    rw [List.mapM_cons]
    constructor
    · intro failed
      rcases of_run_bind_eq_error failed with here | ⟨value, middle, ran, later⟩
      · exact ⟨[], item, rest, [], world, rfl, rfl, here⟩
      rcases of_run_bind_eq_error later with later | ⟨values, last, -, never⟩
      · obtain ⟨before, culprit, behind, values, last, rfl, passed, failed⟩ := ih.mp later
        refine ⟨item :: before, culprit, behind, value :: values, last, rfl, ?_, failed⟩
        rw [List.mapM_cons, run_bind_of_ok ran, run_bind_of_ok passed]
        rfl
      · cases never
    · rintro ⟨before, culprit, behind, values, middle, shape, passed, failed⟩
      cases before with
      | nil =>
        cases shape
        cases passed
        exact run_bind_of_error failed _
      | cons first before =>
        cases shape
        rw [List.mapM_cons] at passed
        obtain ⟨value, last, ran, passed⟩ := of_run_bind_eq_ok passed
        obtain ⟨others, last', passed, collected⟩ := of_run_bind_eq_ok passed
        cases collected
        have later := ih.mpr ⟨before, culprit, behind, others, middle, rfl, passed, failed⟩
        rw [run_bind_of_ok ran, run_bind_of_error later]

end Effect

section

variable {σ α β γ : Type} (registry : Registry σ) (context : Context)

/-! ## Strings resolved in turn -/

/-- An effect does what resolving these texts in turn does. It fails as they do, and otherwise it
gives a value that is right for what they are resolved to. -/
def Follows (texts : List String) (right : List String → α → Prop) (effect : Resolving σ α) :
    Prop :=
  ∀ world, match (texts.mapM (resolve registry context)).run world with
    | (.error error, after) => effect.run world = (.error error, after)
    | (.ok resolved, after) =>
      ∃ value, effect.run world = (.ok value, after) ∧ right resolved value

variable {registry context}

namespace Follows

theorem pure {right : List String → α → Prop} {value : α} (holds : right [] value) :
    Follows registry context [] right (Pure.pure value : Resolving σ α) :=
  fun _ => ⟨value, rfl, holds⟩

theorem map {texts : List String} {right : List String → α → Prop} {result : List String → β → Prop}
    {effect : Resolving σ α} (f : α → β) (follows : Follows registry context texts right effect)
    (holds : ∀ resolved value, right resolved value → result resolved (f value)) :
    Follows registry context texts result (do return f (← effect)) := by
  intro world
  have ended := follows world
  generalize (texts.mapM (resolve registry context)).run world = ran at ended ⊢
  obtain ⟨error | resolved, after⟩ := ran
  · exact Effect.run_bind_of_error ended _
  · obtain ⟨value, returned, isRight⟩ := ended
    exact ⟨f value, Effect.run_bind_of_ok returned _, holds resolved value isRight⟩

/-- Two effects in a row, each with its own texts. -/
theorem both {texts behind : List String} {right : List String → α → Prop}
    {right' : List String → β → Prop} {result : List String → γ → Prop} {effect : Resolving σ α}
    {next : Resolving σ β} (f : α → β → γ) (first : Follows registry context texts right effect)
    (second : Follows registry context behind right' next)
    (holds : ∀ resolved others value other, right resolved value → right' others other →
      result (resolved ++ others) (f value other)) :
    Follows registry context (texts ++ behind) result (do
      let value ← effect
      let other ← next
      return f value other) := by
  intro world
  have ended := first world
  rw [Effect.run_mapM_append]
  generalize (texts.mapM (resolve registry context)).run world = ran at ended ⊢
  obtain ⟨error | resolved, middle⟩ := ran
  · exact Effect.run_bind_of_error ended _
  · obtain ⟨value, returned, isRight⟩ := ended
    have endedNext := second middle
    dsimp only
    rw [Effect.run_bind_of_ok returned]
    generalize (behind.mapM (resolve registry context)).run middle = ran at endedNext ⊢
    obtain ⟨error | others, after⟩ := ran
    · exact Effect.run_bind_of_error endedNext _
    · obtain ⟨other, returnedNext, isRight'⟩ := endedNext
      exact ⟨f value other, Effect.run_bind_of_ok returnedNext _,
        holds resolved others value other isRight isRight'⟩

end Follows

private theorem resolve_follows (text : String) :
    Follows registry context [text] (fun resolved value => resolved = [value])
      (resolve registry context text) := by
  intro world
  rw [List.mapM_cons, List.mapM_nil, Effect.run_bind]
  rcases (resolve registry context text).run world with ⟨error | value, after⟩
  · rfl
  · exact ⟨value, rfl, rfl⟩

mutual

theorem resolveValue_follows : ∀ value : Json,
    Follows registry context value.texts value.Refilled (resolveValue registry context value)
  | .string text => by
    rw [resolveValue, Json.texts]
    refine (resolve_follows text).map _ ?_
    rintro resolved value rfl
    exact .string text value
  | .array items => by
    rw [resolveValue, Json.texts]
    exact (resolveItems_follows items).map _ fun _ _ => .array
  | .object fields => by
    rw [resolveValue, Json.texts]
    exact (resolveFields_follows fields).map _ fun _ _ => .object
  | .null => by
    rw [resolveValue, Json.texts]
    exact .pure .null
  | .bool value => by
    rw [resolveValue, Json.texts]
    exact .pure (.bool value)
  | .number value => by
    rw [resolveValue, Json.texts]
    exact .pure (.number value)

theorem resolveItems_follows : ∀ items : List Json,
    Follows registry context (Json.itemTexts items) (Json.RefilledItems items)
      (resolveItems registry context items)
  | [] => by
    rw [resolveItems, Json.itemTexts]
    exact .pure .nil
  | item :: rest => by
    rw [resolveItems, Json.itemTexts]
    exact (resolveValue_follows item).both _ (resolveItems_follows rest) fun _ _ _ _ => .cons

theorem resolveFields_follows : ∀ fields : List (String × Json),
    Follows registry context (Json.fieldTexts fields) (Json.RefilledFields fields)
      (resolveFields registry context fields)
  | [] => by
    rw [resolveFields, Json.fieldTexts]
    exact .pure .nil
  | (name, value) :: rest => by
    rw [resolveFields, Json.fieldTexts]
    exact (resolveValue_follows value).both _ (resolveFields_follows rest) fun _ _ _ _ => .cons

end

/-! ## Values without placeholders -/

mutual

theorem resolveValue_of_plain : ∀ value : Json,
    (∀ text ∈ value.texts, Template.containsPlaceholder text = false) →
      resolveValue registry context value = pure value
  | .string text, plain => by
    rw [resolveValue, resolve, render_of_plain registry context (plain text (by simp [Json.texts]))]
    rfl
  | .array items, plain => by
    rw [Json.texts] at plain
    rw [resolveValue, resolveItems_of_plain items plain]
    rfl
  | .object fields, plain => by
    rw [Json.texts] at plain
    rw [resolveValue, resolveFields_of_plain fields plain]
    rfl
  | .null, _ => by rw [resolveValue]
  | .bool _, _ => by rw [resolveValue]
  | .number _, _ => by rw [resolveValue]

theorem resolveItems_of_plain : ∀ items : List Json,
    (∀ text ∈ Json.itemTexts items, Template.containsPlaceholder text = false) →
      resolveItems registry context items = pure items
  | [], _ => by rw [resolveItems]
  | item :: rest, plain => by
    rw [Json.itemTexts, List.forall_mem_append] at plain
    rw [resolveItems, resolveValue_of_plain item plain.1, resolveItems_of_plain rest plain.2]
    rfl

theorem resolveFields_of_plain : ∀ fields : List (String × Json),
    (∀ text ∈ Json.fieldTexts fields, Template.containsPlaceholder text = false) →
      resolveFields registry context fields = pure fields
  | [], _ => by rw [resolveFields]
  | (name, value) :: rest, plain => by
    rw [Json.fieldTexts, List.forall_mem_append] at plain
    rw [resolveFields, resolveValue_of_plain value plain.1, resolveFields_of_plain rest plain.2]
    rfl

end

variable (registry context) in
/-- A value that is resolved keeps its shape, and the order of its fields. Its strings are resolved
in turn, each of them once, and in their places stand the texts that they give. A failure is that of
the first string that fails, and nothing is done behind it. Without placeholders nothing is done. -/
theorem resolveValue_leaves (value : Json) (world after : World σ) :
    (∀ result, (resolveValue registry context value).run world = (.ok result, after) →
      ∃ texts, (value.texts.mapM (resolve registry context)).run world = (.ok texts, after) ∧
        value.Refilled texts result ∧ (value.sorted = value → result.sorted = result)) ∧
    (∀ error, (resolveValue registry context value).run world = (.error error, after) ↔
      ∃ before text behind texts middle, value.texts = before ++ text :: behind ∧
        (before.mapM (resolve registry context)).run world = (.ok texts, middle) ∧
        (resolve registry context text).run middle = (.error error, after)) ∧
    ((∀ text ∈ value.texts, Template.containsPlaceholder text = false) →
      resolveValue registry context value = pure value) := by
  have ended := @resolveValue_follows σ registry context value world
  refine ⟨?returned, ?failed, resolveValue_of_plain value⟩
  case returned =>
    intro result returned
    generalize (value.texts.mapM (resolve registry context)).run world = ran at ended ⊢
    rcases ran with ⟨error | texts, last⟩
    · cases ended.symm.trans returned
    · obtain ⟨other, returned', refilled⟩ := ended
      cases returned'.symm.trans returned
      exact ⟨texts, rfl, refilled, refilled.sorted_eq⟩
  case failed =>
    intro error
    rw [← Effect.run_mapM_eq_error_iff]
    generalize (value.texts.mapM (resolve registry context)).run world = ran at ended ⊢
    rcases ran with ⟨cause | texts, last⟩
    · rw [show (resolveValue registry context value).run world = _ from ended]
      simp
    · obtain ⟨other, returned, -⟩ := ended
      rw [returned]
      simp

end

end RequestChain
