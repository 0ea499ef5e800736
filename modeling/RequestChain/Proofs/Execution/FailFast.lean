import RequestChain.Proofs.Execution.Attempts

/-! # A chain stops at its first failure

The attempted steps are the first of the declared ones. All of them but the last are successful, and
if the last one is not, the chain fails with its id and its error text. Each attempt sends at most
one request, and an attempt that fails before its request is ready sends none.
-/

namespace RequestChain

namespace Executor.Run

variable {σ : Type} {executor : Executor σ} {config : Config} {context : Context}
  {steps : List Step} {world last : World σ} {attempts : List (Attempt σ)}

theorem results_eq (run : executor.Run config context steps world attempts last) :
    executor.runSteps config context steps world = (attempts.map (·.result), last) := by
  induction run with
  | done context world => rfl
  | failed attempted failed => exact executor.runSteps_of_failure config attempted failed _
  | succeeded attempted succeeded rests ih =>
    rw [executor.runSteps_of_success config attempted succeeded, ih]
    rfl

/-- Attempts are what they say they are. -/
theorem attempted (run : executor.Run config context steps world attempts last) :
    ∀ attempt ∈ attempts, ∃ after,
      executor.attemptStep config attempt.context attempt.step attempt.world =
        (attempt.result, after) := by
  induction run with
  | done context world => exact nofun
  | failed attempted failed =>
    intro attempt member
    obtain rfl := List.mem_singleton.mp member
    exact ⟨_, attempted⟩
  | succeeded attempted succeeded rests ih =>
    exact List.forall_mem_cons.mpr ⟨⟨_, attempted⟩, ih⟩

theorem reports (run : executor.Run config context steps world attempts last) :
    ∀ attempt ∈ attempts, attempt.result.Reports attempt.step.id := by
  intro attempt member
  obtain ⟨after, attempted⟩ := run.attempted attempt member
  have reported := executor.attemptStep_reports config attempt.context attempt.step attempt.world
  rwa [attempted] at reported

/-- Steps are attempted in order. -/
theorem steps_prefix (run : executor.Run config context steps world attempts last) :
    attempts.map (·.step) <+: steps := by
  induction run with
  | done context world => exact List.prefix_refl []
  | failed attempted failed => exact (List.prefix_cons_inj _).mpr (List.nil_prefix)
  | succeeded attempted succeeded rests ih => exact (List.prefix_cons_inj _).mpr ih

/-- All steps are attempted and succeed, or the last attempt is the only failure. -/
theorem ends (run : executor.Run config context steps world attempts last) :
    (attempts.map (·.step) = steps ∧ ∀ attempt ∈ attempts, attempt.result.success = true) ∨
      ∃ earlier final, attempts = earlier ++ [final] ∧
        (∀ attempt ∈ earlier, attempt.result.success = true) ∧ final.result.success = false := by
  induction run with
  | done context world => exact .inl ⟨rfl, nofun⟩
  | failed attempted failed => exact .inr ⟨[], _, rfl, nofun, failed⟩
  | succeeded attempted succeeded rests ih =>
    cases ih with
    | inl complete =>
      obtain ⟨declared, successes⟩ := complete
      exact .inl ⟨congrArg _ declared, List.forall_mem_cons.mpr ⟨succeeded, successes⟩⟩
    | inr stopped =>
      obtain ⟨earlier, final, split, successes, failed⟩ := stopped
      exact .inr ⟨_ :: earlier, final, congrArg _ split,
        List.forall_mem_cons.mpr ⟨succeeded, successes⟩, failed⟩

/-- What a run sends, attempt by attempt. -/
theorem sent (run : executor.Run config context steps world attempts last)
    (journaledWorld : World (σ × Journal)) (behind : journaledWorld.plain = world) :
    (executor.journaled.runSteps config context steps journaledWorld).2.journal.sent =
      journaledWorld.journal.sent ++ attempts.filterMap fun attempt =>
        executor.requestSent? config attempt.context attempt.step attempt.world := by
  -- The outcome with a journal is the same, so both runs go on or stop after the same step.
  induction run generalizing journaledWorld with
  | done context world => simp [runSteps]
  | @failed context step rest world after result attempted failed =>
    subst behind
    obtain ⟨journaledAfter, journaledAttempt, -, sent⟩ := executor.attemptStep_journaled attempted
    rw [executor.journaled.runSteps_of_failure config journaledAttempt failed]
    simp only [sent, List.filterMap_cons, List.filterMap_nil]
    cases executor.requestSent? config context step journaledWorld.plain with
    | none => rfl
    | some request => rfl
  | @succeeded context step rest world after last result others attempted succeeded rests ih =>
    subst behind
    obtain ⟨journaledAfter, journaledAttempt, behind, sent⟩ :=
      executor.attemptStep_journaled attempted
    rw [executor.journaled.runSteps_of_success config journaledAttempt succeeded]
    simp only [ih journaledAfter behind, sent, List.filterMap_cons, List.append_assoc]
    cases executor.requestSent? config context step journaledWorld.plain with
    | none => rfl
    | some request => rfl

end Executor.Run

end RequestChain
