import RequestChain.Proofs.Coupling
import RequestChain.Resolve

/-! # Renderings move worlds as the sources do

A rendering touches the world through the sources and the resolvers of the registry only. If each
of them moves every world in a direction, so does a rendering, however it ends.
-/

namespace RequestChain

/-- All sources and resolvers of a registry move worlds in a direction. -/
structure Registry.Moves {σ : Type} (direction : Direction (World σ)) (registry : Registry σ) :
    Prop where
  variableSources : ∀ plugin member, ∀ source ∈ registry.variableSource? plugin member,
    source.Moves direction
  functionSources : ∀ plugin function, ∀ source ∈ registry.functionSource? plugin function,
    ∀ arguments, (source arguments).Moves direction
  secretResolvers : ∀ resolver ∈ registry.secretResolvers, ∀ name, (resolver.2 name).Moves direction

/-- Every registry moves worlds somewhere. -/
theorem Registry.Moves.any {σ : Type} (registry : Registry σ) : registry.Moves .any where
  variableSources _ _ _ _ _ := trivial
  functionSources _ _ _ _ _ _ := trivial
  secretResolvers _ _ _ _ := trivial

section Moves

open Effect (Moves)

variable {σ : Type} {direction : Direction (World σ)} {registry : Registry σ} {context : Context}

theorem missingMember_moves (reference : Reference) (plugin member : String) :
    Moves direction (missingMember registry reference plugin member) := by
  unfold missingMember
  split
  · exact .pure none
  · split
    · exact .fail _
    · exact .fail _

theorem callVariable_moves (sources : registry.Moves direction) (reference : Reference)
    (plugin member : String) :
    Moves direction (callVariable registry reference plugin member) := by
  unfold callVariable
  split
  · exact missingMember_moves reference plugin member
  · rename_i source found
    exact .bind (.mapError _ (sources.variableSources plugin member source found)) fun _ => .pure _

theorem callFunction_moves (sources : registry.Moves direction) (reference : Reference)
    (plugin function : String) (arguments : List String) :
    Moves direction (callFunction registry reference plugin function arguments) := by
  unfold callFunction
  split
  · exact missingMember_moves reference plugin function
  · rename_i source found
    exact .bind (.mapError _ (sources.functionSources plugin function source found arguments))
      fun _ => .pure _

theorem firstSecret_moves (reference : Reference) (name : String)
    {resolvers : List (String × SecretResolver σ)}
    (moves : ∀ resolver ∈ resolvers, Moves direction (resolver.2 name)) :
    Moves direction (firstSecret reference name resolvers) := by
  induction resolvers with
  | nil => exact .pure none
  | cons resolver rest ih =>
    obtain ⟨first, others⟩ := List.forall_mem_cons.mp moves
    rw [firstSecret]
    refine .bind (.mapError _ first) fun found => ?_
    cases found with
    | none => exact ih others
    | some text => exact .pure (some text)

/-- What an expander does to worlds. -/
def Expander.Moves (direction : Direction (World σ)) (expand : Expander σ) : Prop :=
  ∀ depth reference text, Effect.Moves direction (expand depth reference text)

variable {expand : Expander σ}

theorem expandValue_moves (expands : expand.Moves direction) (depth : Nat) (reference : Reference)
    (value : Option String) : Moves direction (expandValue expand depth reference value) := by
  cases value with
  | none => exact .pure none
  | some text =>
    simp only [expandValue]
    split
    · exact expands depth reference text
    · exact .pure (some text)

mutual

theorem renderSegment_moves (sources : registry.Moves direction) (expands : expand.Moves direction)
    (depth : Nat) : ∀ segment : Segment,
      Moves direction (renderSegment registry context expand depth segment)
  | .literal text => by
    rw [renderSegment]
    exact .pure _
  | .placeholder (.mk raw optional target) => by
    rw [renderSegment, lookupReference]
    refine .bind (lookupTarget_moves sources expands depth _ target) fun value => ?_
    split
    · exact .fail _
    · exact .pure _

theorem lookupTarget_moves (sources : registry.Moves direction) (expands : expand.Moves direction)
    (depth : Nat) (reference : Reference) : ∀ target : Target,
      Moves direction (lookupTarget registry context expand depth reference target)
  | .variable name => by
    rw [lookupTarget]
    exact expandValue_moves expands depth reference _
  | .scoped scope name => by
    by_cases secret : scope = .secret
    · subst secret
      rw [lookupTarget]
      exact firstSecret_moves reference name fun resolver member =>
        sources.secretResolvers resolver member name
    · rw [lookupTarget_scoped _ _ _ _ _ _ secret]
      exact expandValue_moves expands depth reference _
  | .pluginVariable plugin member => by
    rw [lookupTarget]
    exact callVariable_moves sources reference plugin member
  | .pluginCall plugin function arguments => by
    rw [lookupTarget]
    exact .bind (renderArguments_moves sources expands (depth + 1) arguments) fun values =>
      callFunction_moves sources reference plugin function values
  | .step id path => by
    rw [lookupTarget]
    exact .pure _

theorem renderArguments_moves (sources : registry.Moves direction)
    (expands : expand.Moves direction) (depth : Nat) : ∀ arguments : List (List Segment),
      Moves direction (renderArguments registry context expand depth arguments)
  | [] => by
    rw [renderArguments]
    exact .pure []
  | argument :: rest => by
    rw [renderArguments]
    refine .bind (renderSegments_moves sources expands depth argument) fun rendered => ?_
    exact .bind (renderArguments_moves sources expands depth rest) fun texts => .pure _

/-- A rendering moves worlds as the sources that it asks do. -/
theorem renderSegments_moves (sources : registry.Moves direction)
    (expands : expand.Moves direction) (depth : Nat) : ∀ segments : List Segment,
      Moves direction (renderSegments registry context expand depth segments)
  | [] => by
    rw [renderSegments]
    exact .pure _
  | segment :: rest => by
    rw [renderSegments]
    refine .bind (renderSegment_moves sources expands depth segment) fun first => ?_
    exact .bind (renderSegments_moves sources expands depth rest) fun others => .pure _

end

theorem expandWithin_moves (sources : registry.Moves direction) (levels : Nat) :
    (expandWithin registry context levels).Moves direction := by
  induction levels with
  | zero => exact fun depth reference text => .fail _
  | succ levels ih =>
    intro depth reference text
    simp only [expandWithin]
    split
    · exact .fail _
    · refine .bind (.ofExcept _) fun template => .recover _ ?_
      exact .bind (renderSegments_moves sources ih (depth + 1) template) fun rendered => .pure _

theorem render_moves (sources : registry.Moves direction) (text : String) :
    Moves direction (render registry context text) := by
  unfold render
  split
  · refine .bind (.ofExcept _) fun template => ?_
    exact renderSegments_moves sources (expandWithin_moves sources maxDepth) 0 template
  · exact .pure _

end Moves

end RequestChain
