import RequestChain.Effect

/-! # What effects fail with

The errors of an effect are the errors of its parts, so they are all of a kind if those of the parts
are. An error may also be explained by the world that it leaves, in which whatever is to blame for it
was asked last. That an effect fails only with errors of a kind does not say that it fails.
-/

namespace RequestChain.Effect

variable {W ε δ α β : Type}

/-- An effect of which every error is explained by the world that it leaves. -/
def FailsWith (explained : ε → W → Prop) (effect : Effect W ε α) : Prop :=
  ∀ world error after, effect.run world = (.error error, after) → explained error after

namespace FailsWith

variable {explained : ε → W → Prop}

theorem pure (value : α) : (Pure.pure value : Effect W ε α).FailsWith explained := by
  rintro world error after ⟨⟩

theorem fail {error : ε} (isExplained : ∀ after, explained error after) :
    (Effect.fail error : Effect W ε α).FailsWith explained := by
  rintro world other after ⟨⟩
  exact isExplained world

theorem mapError {f : δ → ε} (isExplained : ∀ cause after, explained (f cause) after)
    (effect : Effect W δ α) : (effect.mapError f).FailsWith explained := by
  intro world error after failed
  rw [run_mapError] at failed
  rcases ran : effect.run world with ⟨cause | value, last⟩
  · rw [ran] at failed
    cases failed
    exact isExplained cause last
  · rw [ran] at failed
    cases failed

theorem bind {effect : Effect W ε α} {next : α → Effect W ε β}
    (first : effect.FailsWith explained) (others : ∀ value, (next value).FailsWith explained) :
    (effect >>= next).FailsWith explained := by
  intro world error last failed
  rcases of_run_bind_eq_error failed with atFirst | ⟨value, after, -, later⟩
  · exact first world error last atFirst
  · exact others value after error last later

/-- Errors that are recovered from need not be explained. -/
theorem recover {expected : ε → W → Prop} {effect : Effect W ε α} {value? : ε → Option α}
    (fails : effect.FailsWith expected)
    (kept : ∀ error after, expected error after → value? error = none → explained error after) :
    (effect.recover value?).FailsWith explained := by
  intro world error last failed
  rw [run_recover] at failed
  rcases ran : effect.run world with ⟨cause | value, after⟩
  · rw [ran, recovered] at failed
    cases found : value? cause with
    | some value =>
      rw [found] at failed
      cases failed
    | none =>
      rw [found] at failed
      cases failed
      exact kept error after (fails world error after ran) found
  · rw [ran] at failed
    cases failed

end FailsWith

/-- An effect of which every error is allowed. -/
def FailsOnlyWith (allowed : ε → Prop) (effect : Effect W ε α) : Prop :=
  ∀ world error, (effect.run world).1 = .error error → allowed error

/-- Errors that are allowed are explained in whatever world. -/
theorem failsOnlyWith_iff {allowed : ε → Prop} {effect : Effect W ε α} :
    effect.FailsOnlyWith allowed ↔ effect.FailsWith fun error _ => allowed error := by
  constructor
  · intro fails world error after failed
    exact fails world error (congrArg Prod.fst failed)
  · intro fails world error failed
    exact fails world error _ (Prod.ext failed rfl)

namespace FailsOnlyWith

variable {allowed : ε → Prop}

theorem pure (value : α) : (Pure.pure value : Effect W ε α).FailsOnlyWith allowed :=
  failsOnlyWith_iff.mpr (.pure value)

theorem fail {error : ε} (isAllowed : allowed error) :
    (Effect.fail error : Effect W ε α).FailsOnlyWith allowed :=
  failsOnlyWith_iff.mpr (.fail fun _ => isAllowed)

theorem mapError {f : δ → ε} (isAllowed : ∀ cause, allowed (f cause)) (effect : Effect W δ α) :
    (effect.mapError f).FailsOnlyWith allowed :=
  failsOnlyWith_iff.mpr (.mapError (fun cause _ => isAllowed cause) effect)

theorem bind {effect : Effect W ε α} {next : α → Effect W ε β}
    (first : effect.FailsOnlyWith allowed) (others : ∀ value, (next value).FailsOnlyWith allowed) :
    (effect >>= next).FailsOnlyWith allowed :=
  failsOnlyWith_iff.mpr
    (.bind (failsOnlyWith_iff.mp first) fun value => failsOnlyWith_iff.mp (others value))

end FailsOnlyWith

end RequestChain.Effect
