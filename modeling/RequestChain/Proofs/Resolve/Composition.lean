import RequestChain.Proofs.Template.Composition
import RequestChain.Resolve

/-! # Renderings in a row

A text that is made of closed texts is read as a whole, before anything is looked up. If every part
of it is a template, the parts are rendered from left to right, and what they give is joined.
-/

namespace RequestChain

namespace Rendered

theorem ext {left right : Rendered} (text : left.text = right.text)
    (optionalReferences : left.optionalReferences = right.optionalReferences)
    (undefinedOptional : left.undefinedOptional = right.undefinedOptional) : left = right := by
  cases left
  cases right
  simp_all

theorem append_assoc (first second third : Rendered) :
    first ++ second ++ third = first ++ (second ++ third) :=
  ext String.append_assoc (Nat.add_assoc ..) (Nat.add_assoc ..)

theorem empty_append (rendered : Rendered) : ({} : Rendered) ++ rendered = rendered :=
  ext String.empty_append (Nat.zero_add _) (Nat.zero_add _)

theorem append_empty (rendered : Rendered) : rendered ++ ({} : Rendered) = rendered :=
  ext String.append_empty rfl rfl

theorem literal_append (first second : String) :
    literal (first ++ second) = literal first ++ literal second := rfl

end Rendered

section

variable {σ : Type} (registry : Registry σ) (context : Context)

section Segments

variable (expand : Expander σ) (depth : Nat)

theorem renderSegments_literal (text : String) :
    renderSegments registry context expand depth (Template.literal text) =
      pure (.literal text) := by
  by_cases empty : text.isEmpty = true
  · rw [Template.literal, if_pos empty, renderSegments, String.isEmpty_iff.mp empty]
    rfl
  · rw [Template.literal, if_neg empty, renderSegments, renderSegment, renderSegments]
    simp only [pure_bind, Rendered.append_empty]

private theorem renderSegments_consSegment (segment : Segment) (others : Template) :
    renderSegments registry context expand depth (Template.consSegment segment others) = (do
      let first ← renderSegment registry context expand depth segment
      let rest ← renderSegments registry context expand depth others
      return first ++ rest) := by
  fun_cases Template.consSegment segment others with
  | case1 text other rest =>
    rw [renderSegments, renderSegments, renderSegment, renderSegment, renderSegment]
    simp only [pure_bind, bind_assoc, Rendered.literal_append, Rendered.append_assoc]
  | case2 => rw [renderSegments]

/-- Templates in a row are rendered one after the other. -/
theorem renderSegments_joinTemplates (first next : Template) :
    renderSegments registry context expand depth (Template.joinTemplates first next) = (do
      let left ← renderSegments registry context expand depth first
      let right ← renderSegments registry context expand depth next
      return left ++ right) := by
  induction first with
  | nil =>
    rw [renderSegments, pure_bind]
    simp only [Rendered.empty_append, bind_pure]
    rfl
  | cons segment rest ih =>
    change renderSegments registry context expand depth
      (Template.consSegment segment (Template.joinTemplates rest next)) = _
    rw [renderSegments_consSegment, ih, renderSegments]
    simp only [bind_assoc, pure_bind, Rendered.append_assoc]

end Segments

/-- Whether a text can hold placeholders at all only saves reading it. -/
theorem render_eq (text : String) :
    render registry context text = (do
      let template ← Effect.ofExcept ((Template.parse text).mapError .template)
      renderTemplate registry context template) := by
  by_cases expands : Template.containsPlaceholder text = true
  · simp only [render, if_pos expands]
  · rw [Bool.not_eq_true] at expands
    rw [render_of_plain _ _ expands, Template.parse_of_plain expands]
    exact (renderSegments_literal registry context _ 0 text).symm

/-- Closed texts in a row are read one after the other. -/
private theorem parse_join {texts : List String}
    (closed : ∀ text ∈ texts, Template.Closed text.toList) :
    Template.parse (String.join texts) = (do
      let templates ← texts.mapM Template.parse
      return templates.foldr Template.joinTemplates []) := by
  induction texts with
  | nil => exact Template.parse_of_plain rfl
  | cons text rest ih =>
    obtain ⟨first, others⟩ := List.forall_mem_cons.mp closed
    have split : Template.parse (String.join (text :: rest)) = (do
        let left ← Template.parse text
        let right ← Template.parse (String.join rest)
        return Template.joinTemplates left right) := by
      rw [String.join_cons, Template.parse, String.toList_append,
        Template.parseChars_append first]
      rfl
    rw [split, ih others, List.mapM_cons]
    simp only [bind_assoc, pure_bind, List.foldr_cons]

private theorem renderTemplate_foldr (templates : List Template) :
    renderTemplate registry context (templates.foldr Template.joinTemplates []) = (do
      let parts ← templates.mapM (renderTemplate registry context)
      return parts.foldr (· ++ ·) {}) := by
  induction templates with
  | nil =>
    rw [List.mapM_nil, pure_bind]
    exact renderSegments_literal registry context _ 0 ""
  | cons template rest ih =>
    have split := renderSegments_joinTemplates registry context
      (expandWithin registry context maxDepth) 0 template (rest.foldr Template.joinTemplates [])
    rw [List.foldr_cons, List.mapM_cons]
    rw [← renderTemplate, ← renderTemplate, ← renderTemplate, ih] at split
    rw [split]
    simp only [bind_assoc, pure_bind, List.foldr_cons]

private theorem text_foldr (parts : List Rendered) :
    (parts.foldr (· ++ ·) ({} : Rendered)).text = String.join (parts.map Rendered.text) := by
  induction parts with
  | nil => rfl
  | cons part rest ih =>
    rw [List.map_cons, String.join_cons, ← ih]
    rfl

/-- The templates of texts, before anything is rendered. -/
def readAll (texts : List String) : Resolving σ (List Template) :=
  Effect.ofExcept ((texts.mapM Template.parse).mapError .template)

/-- A text made of closed texts is read as a whole, and then rendered part by part. -/
theorem resolve_join {texts : List String} (closed : ∀ text ∈ texts, Template.Closed text.toList) :
    resolve registry context (String.join texts) = (do
      let templates ← readAll texts
      let parts ← templates.mapM (renderTemplate registry context)
      return String.join (parts.map Rendered.text)) := by
  rw [resolve, render_eq, parse_join closed, readAll]
  cases texts.mapM Template.parse with
  | error error => rfl
  | ok templates =>
    change (renderTemplate registry context (templates.foldr Template.joinTemplates []) >>=
      fun rendered => pure rendered.text) = _
    rw [renderTemplate_foldr]
    simp only [bind_assoc, pure_bind, text_foldr]
    rfl

end

end RequestChain
