import RequestChain.Effect

/-! # Two effects side by side

Two effects are run on two worlds, which may be of different kinds. As long as the worlds stay
together the outcomes correspond. The worlds may also come apart; effects move worlds in one
direction only, and worlds that are apart stay so wherever they are moved. Nothing is claimed about
outcomes in worlds that are apart.
-/

namespace RequestChain

variable {W V ε δ ε' δ' α β : Type}

/-- Two values that correspond, or two errors that correspond. -/
def Alike (errors : ε → δ → Prop) (values : α → β → Prop) : Except ε α → Except δ β → Prop
  | .ok left, .ok right => values left right
  | .error left, .error right => errors left right
  | _, _ => False

theorem Alike.mono {errors errors' : ε → δ → Prop} {values values' : α → β → Prop}
    (weakerErrors : ∀ left right, errors left right → errors' left right)
    (weakerValues : ∀ left right, values left right → values' left right)
    {left : Except ε α} {right : Except δ β} (alike : Alike errors values left right) :
    Alike errors' values' left right := by
  cases left <;> cases right
  · exact weakerErrors _ _ alike
  · exact alike
  · exact alike
  · exact weakerValues _ _ alike

/-- Outcomes that are alike under equality are equal. -/
theorem Alike.eq {left right : Except ε α} (alike : Alike Eq Eq left right) : left = right := by
  cases left <;> cases right
  · exact congrArg _ alike
  · exact alike.elim
  · exact alike.elim
  · exact congrArg _ alike

theorem Alike.mapError {errors : ε → δ → Prop} {errors' : ε' → δ' → Prop} {values : α → β → Prop}
    {first : ε → ε'} {second : δ → δ'}
    (mapped : ∀ left right, errors left right → errors' (first left) (second right))
    {left : Except ε α} {right : Except δ β} (alike : Alike errors values left right) :
    Alike errors' values (left.mapError first) (right.mapError second) := by
  cases left <;> cases right
  · exact mapped _ _ alike
  · exact alike
  · exact alike
  · exact alike

/-- Errors that are alike are recovered on both sides or on neither. -/
theorem Alike.recovered {errors : ε → δ → Prop} {values : α → β → Prop} {first : ε → Option α}
    {second : δ → Option β}
    (related : ∀ left right, errors left right → Option.Rel values (first left) (second right))
    {left : Except ε α} {right : Except δ β} (alike : Alike errors values left right) :
    Alike errors values (Effect.recovered first left) (Effect.recovered second right) := by
  cases left <;> cases right
  case error.error left right =>
    have found := related left right alike
    change Alike errors values ((first left).elim (.error left) .ok)
      ((second right).elim (.error right) .ok)
    generalize first left = leftValue?, second right = rightValue? at found
    cases found with
    | none => exact alike
    | some values => exact values
  · exact alike.elim
  · exact alike.elim
  · exact alike

/-- A way in which worlds may change, step after step. -/
structure Direction (W : Type) where
  later : W → W → Prop
  refl : ∀ world, later world world
  trans : ∀ {first second third}, later first second → later second third → later first third

/-- Every change is allowed. -/
def Direction.any : Direction W where
  later _ _ := True
  refl _ := trivial
  trans _ _ := trivial

section Moves

variable {direction : Direction W}

/-- An effect changes every world in a direction, whether it fails or not. -/
def Effect.Moves (direction : Direction W) (effect : Effect W ε α) : Prop :=
  ∀ world, direction.later world (effect.run world).2

namespace Effect.Moves

theorem pure (value : α) : Moves direction (pure value : Effect W ε α) :=
  direction.refl

theorem fail (error : ε) : Moves direction (fail error : Effect W ε α) :=
  direction.refl

theorem ofExcept (outcome : Except ε α) : Moves direction (Effect.ofExcept outcome : Effect W ε α) :=
  direction.refl

/-- What follows an effect changes the world that it leaves. -/
theorem continued (effect : Effect W ε α) {next : α → Effect W ε β}
    (rest : ∀ value, Moves direction (next value)) (world : W) :
    direction.later (effect.run world).2 ((effect >>= next).run world).2 := by
  rw [run_bind]
  cases effect.run world with
  | mk outcome after =>
    cases outcome with
    | error error => exact direction.refl after
    | ok value => exact rest value after

theorem bind {effect : Effect W ε α} {next : α → Effect W ε β} (first : Moves direction effect)
    (rest : ∀ value, Moves direction (next value)) : Moves direction (effect >>= next) :=
  fun world => direction.trans (first world) (continued effect rest world)

theorem of_ran {effect : Effect W ε α} {world after : W} {outcome : Except ε α}
    (moves : Moves direction effect) (ran : effect.run world = (outcome, after)) :
    direction.later world after := by
  have moved := moves world
  rwa [ran] at moved

theorem mapError {effect : Effect W ε α} (f : ε → δ) (moves : Moves direction effect) :
    Moves direction (effect.mapError f) := by
  intro world
  have moved := moves world
  rw [run_mapError]
  exact moved

theorem recover {effect : Effect W ε α} (value? : ε → Option α) (moves : Moves direction effect) :
    Moves direction (effect.recover value?) := by
  intro world
  have moved := moves world
  rw [run_recover]
  exact moved

end Effect.Moves

end Moves

/-- How worlds of two kinds are compared. -/
structure Coupling (W V : Type) where
  left : Direction W
  right : Direction V
  together : W → V → Prop
  apart : W → V → Prop
  /-- Worlds that are apart stay so. -/
  apart_later : ∀ {leftWorld leftAfter rightWorld rightAfter}, apart leftWorld rightWorld →
    left.later leftWorld leftAfter → right.later rightWorld rightAfter → apart leftAfter rightAfter

namespace Coupling

/-- Worlds that never come apart. -/
def ofRelation (together : W → V → Prop) : Coupling W V where
  left := .any
  right := .any
  together := together
  apart _ _ := False
  apart_later no _ _ := no

/-- Two runs have ended in worlds that are together and with outcomes that are alike, or in worlds
that are apart. -/
def Ends (coupling : Coupling W V) (errors : ε → δ → Prop) (values : α → β → Prop)
    (left : Except ε α × W) (right : Except δ β × V) : Prop :=
  (coupling.together left.2 right.2 ∧ Alike errors values left.1 right.1) ∨
    coupling.apart left.2 right.2

/-- Two effects end alike from all worlds that are together. -/
def Coupled (coupling : Coupling W V) (errors : ε → δ → Prop) (values : α → β → Prop)
    (left : Effect W ε α) (right : Effect V δ β) : Prop :=
  ∀ leftWorld rightWorld, coupling.together leftWorld rightWorld →
    coupling.Ends errors values (left.run leftWorld) (right.run rightWorld)

variable {coupling : Coupling W V} {errors : ε → δ → Prop} {values values' : α → α → Prop}
  {leftWorld : W} {rightWorld : V}

namespace Ends

theorem pure {left right : α} (together : coupling.together leftWorld rightWorld)
    (alike : values left right) :
    coupling.Ends errors values ((Pure.pure left : Effect W ε α).run leftWorld)
      ((Pure.pure right : Effect V δ α).run rightWorld) :=
  .inl ⟨together, alike⟩

theorem fail {left : ε} {right : δ} (together : coupling.together leftWorld rightWorld)
    (alike : errors left right) :
    coupling.Ends errors values ((Effect.fail left : Effect W ε α).run leftWorld)
      ((Effect.fail right : Effect V δ α).run rightWorld) :=
  .inl ⟨together, alike⟩

/-- Sequencing: the second effects are compared only where the first ones have returned values that
correspond, in worlds that are together. -/
theorem bind {values : α → α → Prop} {values' : β → β → Prop} {left : Effect W ε α}
    {right : Effect V δ α} {leftNext : α → Effect W ε β} {rightNext : α → Effect V δ β}
    (first : coupling.Ends errors values (left.run leftWorld) (right.run rightWorld))
    (leftMoves : ∀ value, (leftNext value).Moves coupling.left)
    (rightMoves : ∀ value, (rightNext value).Moves coupling.right)
    (next : ∀ {leftValue rightValue leftAfter rightAfter},
      left.run leftWorld = (.ok leftValue, leftAfter) →
      right.run rightWorld = (.ok rightValue, rightAfter) →
      values leftValue rightValue → coupling.together leftAfter rightAfter →
      coupling.Ends errors values' ((leftNext leftValue).run leftAfter)
        ((rightNext rightValue).run rightAfter)) :
    coupling.Ends errors values' ((left >>= leftNext).run leftWorld)
      ((right >>= rightNext).run rightWorld) := by
  cases first with
  | inr apart =>
    -- Nothing is known about the values here, so the second effects must move from any of them.
    exact .inr (coupling.apart_later apart (Effect.Moves.continued left leftMoves leftWorld)
      (Effect.Moves.continued right rightMoves rightWorld))
  | inl same =>
    obtain ⟨together, alike⟩ := same
    cases leftRan : left.run leftWorld with
    | mk leftOutcome leftAfter =>
    cases rightRan : right.run rightWorld with
    | mk rightOutcome rightAfter =>
    rw [leftRan, rightRan] at together alike
    cases leftOutcome with
    | error leftError =>
      cases rightOutcome with
      | error rightError =>
        rw [Effect.run_bind_of_error leftRan, Effect.run_bind_of_error rightRan]
        exact .inl ⟨together, alike⟩
      | ok rightValue => exact alike.elim
    | ok leftValue =>
      cases rightOutcome with
      | error rightError => exact alike.elim
      | ok rightValue =>
        rw [Effect.run_bind_of_ok leftRan, Effect.run_bind_of_ok rightRan]
        exact next leftRan rightRan alike together

theorem mapError {errors' : ε' → δ' → Prop} {left : Effect W ε α} {right : Effect V δ α}
    {leftError : ε → ε'} {rightError : δ → δ'}
    (ends : coupling.Ends errors values (left.run leftWorld) (right.run rightWorld))
    (mapped : ∀ first second, errors first second →
      errors' (leftError first) (rightError second)) :
    coupling.Ends errors' values ((left.mapError leftError).run leftWorld)
      ((right.mapError rightError).run rightWorld) := by
  rw [Effect.run_mapError, Effect.run_mapError]
  exact ends.imp_left fun ⟨together, alike⟩ => ⟨together, alike.mapError mapped⟩

theorem recover {left : Effect W ε α} {right : Effect V δ α} {leftValue? : ε → Option α}
    {rightValue? : δ → Option α}
    (ends : coupling.Ends errors values (left.run leftWorld) (right.run rightWorld))
    (related : ∀ first second, errors first second →
      Option.Rel values (leftValue? first) (rightValue? second)) :
    coupling.Ends errors values ((left.recover leftValue?).run leftWorld)
      ((right.recover rightValue?).run rightWorld) := by
  rw [Effect.run_recover, Effect.run_recover]
  exact ends.imp_left fun ⟨together, alike⟩ => ⟨together, alike.recovered related⟩

end Ends

end Coupling

/-! ## Effects that do the same -/

/-- From worlds that are together two effects have the same outcome, and the worlds that they leave
are together again. -/
def Effect.Mirrors (together : W → V → Prop) (left : Effect W ε α) (right : Effect V ε α) : Prop :=
  ∀ leftWorld rightWorld, together leftWorld rightWorld →
    (left.run leftWorld).1 = (right.run rightWorld).1 ∧
      together (left.run leftWorld).2 (right.run rightWorld).2

namespace Effect.Mirrors

variable {together : W → V → Prop}

theorem pure (value : α) :
    Mirrors together (pure value : Effect W ε α) (Pure.pure value : Effect V ε α) :=
  fun _ _ related => ⟨rfl, related⟩

theorem ofExcept (outcome : Except ε α) :
    Mirrors together (ofExcept outcome : Effect W ε α) (Effect.ofExcept outcome : Effect V ε α) :=
  fun _ _ related => ⟨rfl, related⟩

theorem bind {left : Effect W ε α} {right : Effect V ε α} {leftNext : α → Effect W ε β}
    {rightNext : α → Effect V ε β} (first : Mirrors together left right)
    (next : ∀ value, Mirrors together (leftNext value) (rightNext value)) :
    Mirrors together (left >>= leftNext) (right >>= rightNext) := by
  intro leftWorld rightWorld related
  obtain ⟨outcome, after⟩ := first leftWorld rightWorld related
  rw [run_bind, run_bind]
  cases leftRan : left.run leftWorld with
  | mk leftOutcome leftAfter =>
  cases rightRan : right.run rightWorld with
  | mk rightOutcome rightAfter =>
  rw [leftRan, rightRan] at outcome after
  obtain rfl : leftOutcome = rightOutcome := outcome
  cases leftOutcome with
  | error error => exact ⟨rfl, after⟩
  | ok value => exact next value leftAfter rightAfter after

theorem mapError {left : Effect W ε α} {right : Effect V ε α} (f : ε → δ)
    (mirrors : Mirrors together left right) :
    Mirrors together (left.mapError f) (right.mapError f) := by
  intro leftWorld rightWorld related
  obtain ⟨outcome, after⟩ := mirrors leftWorld rightWorld related
  rw [run_mapError, run_mapError, outcome]
  exact ⟨rfl, after⟩

theorem coupled {left : Effect W ε α} {right : Effect V ε α} (mirrors : Mirrors together left right)
    {errors : ε → ε → Prop} {values : α → α → Prop} (errorsRefl : ∀ error, errors error error)
    (valuesRefl : ∀ value, values value value) :
    (Coupling.ofRelation together).Coupled errors values left right := by
  intro leftWorld rightWorld related
  obtain ⟨outcome, after⟩ := mirrors leftWorld rightWorld related
  refine .inl ⟨after, ?_⟩
  rw [outcome]
  cases (right.run rightWorld).1 with
  | error error => exact errorsRefl error
  | ok value => exact valuesRefl value

end Effect.Mirrors

end RequestChain
