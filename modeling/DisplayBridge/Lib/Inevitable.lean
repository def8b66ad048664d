import DisplayBridge.Lib.Runs

/-!
# What a system cannot avoid

A system ends in a goal whatever its schedule if, as long as it is not there, some step is
due, and every step that is possible leads to a state from which it ends in the goal
(`Runs.Inevitable`). Which steps count is a side condition, as for a run: what the
environment does of its own accord is left out by it. Which of these are due is another
one: a call that may wait for ever is possible, but not due.

It is shown with an invariant and a measure (`Runs.Inevitable.of_measure`), and refuted
with an invariant that keeps away from the goal (`Runs.not_inevitable`).
-/

namespace Runs

variable {σ ε : Type*}

/-- **The goal is reached, whatever is done next**, and something is due before. -/
inductive Inevitable (step : σ → ε → Option σ) (ok due : σ → ε → Prop) (goal : σ → Prop) :
    σ → Prop
  | reached {s : σ} : goal s → Inevitable step ok due goal s
  | next {s : σ} : (∃ e s', ok s e ∧ due s e ∧ step s e = some s') →
      (∀ e s', ok s e → step s e = some s' → Inevitable step ok due goal s') →
      Inevitable step ok due goal s

variable {step : σ → ε → Option σ} {ok ok' due : σ → ε → Prop} {goal I : σ → Prop} {s s' : σ}
  {es : List ε}

/-- A side condition can be weakened. -/
theorem Run.mono (hrun : Run step ok s es s') (h : ∀ s e, ok s e → ok' s e) :
    Run step ok' s es s' := by
  induction hrun with
  | start => exact .start
  | snoc _ hok hs ih => exact .snoc ih (h _ _ hok) hs

/-- **The rule of the measure**: an invariant under which a step is always due and every
step makes the measure smaller. -/
theorem Inevitable.of_measure (m : σ → ℕ)
    (hprogress : ∀ s, I s → ¬ goal s → ∃ e s', ok s e ∧ due s e ∧ step s e = some s')
    (hstep : ∀ s e s', I s → ¬ goal s → ok s e → step s e = some s' → I s' ∧ m s' < m s)
    (h : I s) : Inevitable step ok due goal s := by
  induction hm : m s using Nat.strongRecOn generalizing s with
  | ind n ih =>
    by_cases hgoal : goal s
    · exact .reached hgoal
    · refine .next (hprogress s h hgoal) fun e s' hok hs => ?_
      obtain ⟨h', hless⟩ := hstep s e s' h hgoal hok hs
      exact ih (m s') (hm ▸ hless) h' rfl

/-- **A goal that is never reached is not inevitable.** -/
theorem not_inevitable (hkeep : ∀ s e s', I s → ok s e → step s e = some s' → I s')
    (haway : ∀ s, I s → ¬ goal s) (h : I s) : ¬ Inevitable step ok due goal s := by
  intro hin
  induction hin with
  | reached hgoal => exact haway _ h hgoal
  | next hsome _ ih =>
    obtain ⟨e, s', hok, -, hs⟩ := hsome
    exact ih e s' hok hs (hkeep _ e s' h hok hs)

end Runs
