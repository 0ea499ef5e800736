/-! # Effects that fail and still leave a world

An effect runs in a world and gives a value or an error; either way it leaves a world behind, so
what happened before a failure is not undone. Sequencing stops at the first error. The `run`
lemmas say what each operation does to a world, and the effects are a lawful monad.
-/

namespace RequestChain

/-- A computation in a world `W` that fails with `ε` or returns `α`. -/
def Effect (W ε α : Type) : Type :=
  W → Except ε α × W

namespace Effect

variable {W V ε δ α β : Type}

/-- The outcome and the world that an effect leaves. -/
def run (effect : Effect W ε α) (world : W) : Except ε α × W :=
  effect world

/-- Effects that do the same in every world are equal. -/
theorem ext {left right : Effect W ε α} (same : ∀ world, left.run world = right.run world) :
    left = right :=
  funext same

/-- The value, without touching the world. -/
protected def pure (value : α) : Effect W ε α :=
  fun world => (.ok value, world)

/-- The second effect runs in the world that the first leaves, if the first returns. -/
protected def bind (effect : Effect W ε α) (next : α → Effect W ε β) : Effect W ε β :=
  fun world =>
    match effect world with
    | (.ok value, world) => next value world
    | (.error error, world) => (.error error, world)

instance : Monad (Effect W ε) where
  pure := Effect.pure
  bind := Effect.bind

/-- Fails, without touching the world. -/
def fail (error : ε) : Effect W ε α :=
  fun world => (.error error, world)

/-- A value or an error that is known already. -/
def ofExcept (outcome : Except ε α) : Effect W ε α :=
  fun world => (outcome, world)

/-- A change of the world. -/
def modify (change : W → W) : Effect W ε Unit :=
  fun world => (.ok (), change world)

/-- Something that the world holds. -/
def query (f : W → α) : Effect W ε α :=
  fun world => (.ok (f world), world)

/-- The same effect with its errors replaced. -/
def mapError (f : ε → δ) (effect : Effect W ε α) : Effect W δ α :=
  fun world =>
    match effect world with
    | (.ok value, world) => (.ok value, world)
    | (.error error, world) => (.error (f error), world)

/-- An error for which there is a value becomes that value; the world stays as the failure left
it. -/
def recover (effect : Effect W ε α) (value? : ε → Option α) : Effect W ε α :=
  fun world =>
    match effect world with
    | (.ok value, world) => (.ok value, world)
    | (.error error, world) =>
      match value? error with
      | some value => (.ok value, world)
      | none => (.error error, world)

/-- An effect on a part of the world. -/
def onPart (get : W → V) (set : V → W → W) (effect : Effect V ε α) : Effect W ε α :=
  fun world =>
    let (outcome, part) := effect (get world)
    (outcome, set part world)

@[simp] theorem run_pure (value : α) (world : W) :
    (pure value : Effect W ε α).run world = (.ok value, world) := rfl

theorem run_bind (effect : Effect W ε α) (next : α → Effect W ε β) (world : W) :
    (effect >>= next).run world =
      match effect.run world with
      | (.ok value, world) => (next value).run world
      | (.error error, world) => (.error error, world) := rfl

theorem run_bind_of_ok {effect : Effect W ε α} {world after : W} {value : α}
    (returned : effect.run world = (.ok value, after)) (next : α → Effect W ε β) :
    (effect >>= next).run world = (next value).run after := by
  rw [run_bind, returned]

theorem run_bind_of_error {effect : Effect W ε α} {world after : W} {error : ε}
    (failed : effect.run world = (.error error, after)) (next : α → Effect W ε β) :
    (effect >>= next).run world = (.error error, after) := by
  rw [run_bind, failed]

/-- An error of the first effect is the error of both. -/
theorem run_bind_fst_of_error {effect : Effect W ε α} {world : W} {error : ε}
    (failed : (effect.run world).1 = .error error) (next : α → Effect W ε β) :
    ((effect >>= next).run world).1 = .error error := by
  rw [run_bind_of_error (Prod.ext failed rfl : effect.run world = (.error error, _))]

/-- What is returned in the end comes from a value that was returned before. -/
theorem of_run_bind_eq_ok {effect : Effect W ε α} {next : α → Effect W ε β} {world last : W}
    {result : β} (returned : (effect >>= next).run world = (.ok result, last)) :
    ∃ value after, effect.run world = (.ok value, after) ∧
      (next value).run after = (.ok result, last) := by
  rw [run_bind] at returned
  rcases ran : effect.run world with ⟨error | value, after⟩
  · rw [ran] at returned
    cases returned
  · rw [ran] at returned
    exact ⟨value, after, rfl, returned⟩

/-- What fails in the end has failed at first, or behind a value that was returned before. -/
theorem of_run_bind_eq_error {effect : Effect W ε α} {next : α → Effect W ε β} {world last : W}
    {error : ε} (failed : (effect >>= next).run world = (.error error, last)) :
    effect.run world = (.error error, last) ∨
      ∃ value after, effect.run world = (.ok value, after) ∧
        (next value).run after = (.error error, last) := by
  rw [run_bind] at failed
  rcases ran : effect.run world with ⟨cause | value, after⟩
  · rw [ran] at failed
    cases failed
    exact .inl rfl
  · rw [ran] at failed
    exact .inr ⟨value, after, rfl, failed⟩

@[simp] theorem run_fail (error : ε) (world : W) :
    (fail error : Effect W ε α).run world = (.error error, world) := rfl

@[simp] theorem fail_bind (error : ε) (next : α → Effect W ε β) :
    (fail error >>= next) = fail error := rfl

@[simp] theorem run_ofExcept (outcome : Except ε α) (world : W) :
    (ofExcept outcome : Effect W ε α).run world = (outcome, world) := rfl

@[simp] theorem ofExcept_ok_bind (value : α) (next : α → Effect W ε β) :
    (ofExcept (.ok value) >>= next) = next value := rfl

theorem run_mapError (f : ε → δ) (effect : Effect W ε α) (world : W) :
    (effect.mapError f).run world = ((effect.run world).1.mapError f, (effect.run world).2) := by
  simp only [run, mapError]
  rcases effect world with ⟨outcome | outcome, after⟩ <;> rfl

/-- An outcome with a value in place of an error, if there is one for it. -/
def recovered (value? : ε → Option α) : Except ε α → Except ε α
  | .ok value => .ok value
  | .error error => (value? error).elim (.error error) .ok

theorem run_recover (effect : Effect W ε α) (value? : ε → Option α) (world : W) :
    (effect.recover value?).run world =
      (recovered value? (effect.run world).1, (effect.run world).2) := by
  simp only [run, recover]
  rcases effect world with ⟨error | value, after⟩
  · simp only [recovered]
    cases value? error <;> rfl
  · rfl

theorem recover_pure (value : α) (value? : ε → Option α) :
    (pure value : Effect W ε α).recover value? = pure value := rfl

/-- A failure for which there is no value stays. -/
theorem recover_fail {error : ε} {value? : ε → Option α} (kept : value? error = none) :
    (fail error : Effect W ε α).recover value? = fail error := by
  apply ext
  intro world
  rw [run_recover, run_fail, recovered, kept]
  rfl

private theorem bind_pure_id (effect : Effect W ε α) :
    Effect.bind effect (fun value => Effect.pure (id value)) = effect := by
  funext world
  simp only [Effect.bind]
  rcases effect world with ⟨outcome | outcome, after⟩ <;> rfl

private theorem bind_bind (effect : Effect W ε α) (next : α → Effect W ε β)
    (last : β → Effect W ε δ) :
    Effect.bind (Effect.bind effect next) last =
      Effect.bind effect (fun value => Effect.bind (next value) last) := by
  funext world
  simp only [Effect.bind]
  rcases effect world with ⟨outcome | outcome, after⟩ <;> rfl

instance : LawfulMonad (Effect W ε) :=
  LawfulMonad.mk' (Effect W ε) bind_pure_id (fun _ _ => rfl) bind_bind

end Effect

end RequestChain
