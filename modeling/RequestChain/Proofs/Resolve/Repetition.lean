import RequestChain.Proofs.Resolve.Coupling

/-! # Renderings that are repeated

A text is rendered twice with the same registry. In the same world the renderings do the same if the
contexts agree on everything that is looked up. In different worlds they have the same outcome if the
registry is steady, which is to say that no answer depends on what happened before it; nothing is
claimed then about the worlds that they leave.
-/

namespace RequestChain

/-- The outcome of an effect is the same in every world. -/
def Effect.Steady {W ε α : Type} (effect : Effect W ε α) : Prop :=
  ∀ world other, (effect.run world).1 = (effect.run other).1

namespace Effect

variable {W ε α β : Type}

theorem Steady.bind {effect : Effect W ε α} {next : α → Effect W ε β} (first : effect.Steady)
    (others : ∀ value, (next value).Steady) : (effect >>= next).Steady := by
  intro world other
  have same := first world other
  rw [run_bind, run_bind]
  generalize effect.run world = here, effect.run other = there at same ⊢
  obtain ⟨outcome, after⟩ := here
  obtain ⟨outcome', after'⟩ := there
  obtain rfl : outcome = outcome' := same
  cases outcome with
  | error error => rfl
  | ok value => exact others value after after'

theorem Steady.mapM {f : α → Effect W ε β} (steady : ∀ item, (f item).Steady) (items : List α) :
    (items.mapM f).Steady := by
  induction items with
  | nil => exact fun _ _ => rfl
  | cons item rest ih =>
    rw [List.mapM_cons]
    exact (steady item).bind fun _ => ih.bind fun _ _ _ => rfl

/-- Steady effects in a row give what each of them gives in any world. -/
theorem Steady.forall₂_of_mapM {f : α → Effect W ε β} (steady : ∀ item, (f item).Steady)
    {items : List α} {world : W} {values : List β}
    (returned : ((items.mapM f).run world).1 = .ok values) :
    List.Forall₂ (fun item value => ∀ here, ((f item).run here).1 = .ok value) items values := by
  induction items generalizing world values with
  | nil =>
    cases returned
    exact .nil
  | cons item rest ih =>
    rcases ran : ((item :: rest).mapM f).run world with ⟨outcome, after⟩
    rw [ran] at returned
    cases returned
    rw [List.mapM_cons] at ran
    obtain ⟨value, middle, isFirst, ran⟩ := of_run_bind_eq_ok ran
    obtain ⟨others, last, areOthers, result⟩ := of_run_bind_eq_ok ran
    cases result
    refine .cons (fun here => ?_) (ih (congrArg Prod.fst areOthers))
    rw [steady item here world, isFirst]

end Effect

/-- The answers of a registry do not depend on what happened before. -/
structure Registry.Steady {σ : Type} (registry : Registry σ) : Prop where
  variableSources : ∀ plugin member, ∀ source ∈ registry.variableSource? plugin member,
    Effect.Steady source
  functionSources : ∀ plugin function, ∀ source ∈ registry.functionSource? plugin function,
    ∀ arguments, Effect.Steady (source arguments)
  secretResolvers : ∀ resolver ∈ registry.secretResolvers, ∀ name, Effect.Steady (resolver.2 name)

section

variable {σ : Type} {registry : Registry σ}

/-- A registry beside itself, if each source beside itself does the same. -/
theorem Registry.coupled_self {together : World σ → World σ → Prop}
    (variableSources : ∀ plugin member, ∀ source ∈ registry.variableSource? plugin member,
      source.Mirrors together source)
    (functionSources : ∀ plugin function, ∀ source ∈ registry.functionSource? plugin function,
      ∀ arguments, (source arguments).Mirrors together (source arguments))
    (secretResolvers : ∀ resolver ∈ registry.secretResolvers, ∀ name,
      (resolver.2 name).Mirrors together (resolver.2 name)) :
    Registry.Coupled (.ofRelation together) .same Eq registry registry := by
  apply Registry.Coupled.of_mirrors
  · intro plugin
    rfl
  · intro plugin member
    have mirrors := variableSources plugin member
    cases found : registry.variableSource? plugin member with
    | none => exact .none
    | some source => exact .some (mirrors source found)
  · intro plugin function
    have mirrors := functionSources plugin function
    cases found : registry.functionSource? plugin function with
    | none => exact .none
    | some source => exact .some (mirrors source found)
  · apply List.forall₂_same.mpr
    exact secretResolvers

/-- In the same world, contexts that agree on what is looked up render a text in the same way. -/
theorem render_eq_of_agree {left right : Context} {text : String}
    (agree : ∀ world, left.AgreeOn .same right (renderLookups registry left text world)) :
    render registry left text = render registry right text := by
  have itself {W ε α : Type} (effect : Effect W ε α) : effect.Mirrors Eq effect := by
    rintro world _ rfl
    exact ⟨rfl, rfl⟩
  have registries : Registry.Coupled (.ofRelation Eq) .same Eq registry registry :=
    Registry.coupled_self (fun _ _ _ _ => itself _) (fun _ _ _ _ _ => itself _) (fun _ _ _ => itself _)
  apply Effect.ext
  intro world
  have together : (Coupling.ofRelation Eq).together world world := rfl
  have same := outcome_eq_of_renderingsEnd (render_ends registries text together (agree world))
  exact Prod.ext same.1 same.2

/-- With a steady registry, the outcome of a rendering is the same in every world. -/
theorem render_steady (steady : registry.Steady) (context : Context) (text : String) :
    (render registry context text).Steady := by
  have mirrors {ε α : Type} {effect : Effect (World σ) ε α} (steady : effect.Steady) :
      effect.Mirrors (fun _ _ => True) effect := fun world other _ => ⟨steady world other, trivial⟩
  have registries : Registry.Coupled (.ofRelation fun _ _ => True) .same Eq registry registry :=
    Registry.coupled_self
      (fun plugin member source found => mirrors (steady.variableSources plugin member source found))
      (fun plugin function source found arguments =>
        mirrors (steady.functionSources plugin function source found arguments))
      (fun resolver member name => mirrors (steady.secretResolvers resolver member name))
  intro world other
  have together : (Coupling.ofRelation fun (_ _ : World σ) => True).together world other := trivial
  exact (outcome_eq_of_renderingsEnd (render_ends registries text together (.refl context _))).1

end

end RequestChain
