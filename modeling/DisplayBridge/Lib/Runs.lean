import Mathlib.Data.List.Basic

/-!
# Runs of a system, and what they leave behind

A system is a partial step function: in a state, an event either has exactly one
outcome or cannot happen. Everything the environment decides – which thread moves,
what a call it makes returns – is in the event. A run (`Runs.Run`) is a list of
events, each of which could happen, and each of which met a side condition in the
state it happened in; the trivial condition gives all runs.

There are two rules. An invariant holds in every state a run reaches
(`Runs.Run.invariant`). And a property of a whole history is proved as it grows:
what has to be shown of a history with one more entry is that the old history had
it, and what the new entry adds (`Runs.forall_split_concat`). A run of a detailed
system is a run of a coarser one if every step is one of its steps, or none
(`Runs.Run.refine`).
-/

namespace Runs

variable {σ ε : Type*}

/-- The runs from a state whose steps all meet the side condition `ok`. -/
inductive Run (step : σ → ε → Option σ) (ok : σ → ε → Prop) (s₀ : σ) : List ε → σ → Prop
  | start : Run step ok s₀ [] s₀
  | snoc {es : List ε} {s s' : σ} {e : ε} :
      Run step ok s₀ es s → ok s e → step s e = some s' → Run step ok s₀ (es ++ [e]) s'

variable {step : σ → ε → Option σ} {ok : σ → ε → Prop} {s₀ s : σ} {es : List ε}

/-- **The invariant rule**: what holds at the start and survives every step holds
wherever a run arrives. -/
theorem Run.invariant {I : σ → Prop} (hrun : Run step ok s₀ es s) (hstart : I s₀)
    (hstep : ∀ s e s', I s → ok s e → step s e = some s' → I s') : I s := by
  induction hrun with
  | start => exact hstart
  | snoc _ hok hs ih => exact hstep _ _ _ ih hok hs

theorem Run.cons {e : ε} {s₁ : σ} (hok : ok s₀ e) (hs : step s₀ e = some s₁)
    (hrun : Run step ok s₁ es s) : Run step ok s₀ (e :: es) s := by
  induction hrun with
  | start =>
    have h : Run step ok s₀ ([] ++ [e]) s₁ := .snoc .start hok hs
    exact h
  | snoc _ hok' hs' ih => exact .snoc ih hok' hs'

/-- A run from where another one has arrived. -/
theorem Run.append {es' : List ε} {s' : σ} (hrun : Run step ok s₀ es s)
    (hrun' : Run step ok s es' s') : Run step ok s₀ (es ++ es') s' := by
  induction hrun' with
  | start =>
    rw [List.append_nil]
    exact hrun
  | snoc _ hok hs ih =>
    rw [← List.append_assoc]
    exact .snoc ih hok hs

/-! ### Refinement -/

section Refinement

variable {τ ε' : Type*} {step' : τ → ε' → Option τ} {ok' : τ → ε' → Prop}

/-- **The refinement rule**: if every step of a system is one step of an abstract one, or
none, then a run is a run of the abstract one. What is to be known of the abstract run is
kept along with it. -/
theorem Run.refine (f : σ → τ) {H : σ → List ε' → Prop} (hrun : Run step ok s₀ es s)
    (hstart : H s₀ [])
    (hstep : ∀ s e s' rs, H s rs → ok s e → step s e = some s' →
      f s' = f s ∧ H s' rs ∨
        ∃ r, ok' (f s) r ∧ step' (f s) r = some (f s') ∧ H s' (rs ++ [r])) :
    ∃ rs, Run step' ok' (f s₀) rs (f s) ∧ H s rs := by
  induction hrun with
  | start => exact ⟨[], .start, hstart⟩
  | snoc _ hok hs ih =>
    obtain ⟨rs, hrun', hhistory⟩ := ih
    rcases hstep _ _ _ rs hhistory hok hs with ⟨hsame, hhistory⟩ | ⟨r, hok', hs', hhistory⟩
    · rw [hsame]
      exact ⟨rs, hrun', hhistory⟩
    · exact ⟨rs ++ [r], .snoc hrun' hok' hs', hhistory⟩

end Refinement

/-! ### Running -/

/-- The state a list of events leads to, if every event can happen and meets the
side condition. -/
def exec (step : σ → ε → Option σ) (ok : σ → ε → Prop) [∀ s e, Decidable (ok s e)] (s : σ) :
    List ε → Option σ
  | [] => some s
  | e :: es => if ok s e then (step s e).bind fun s' => exec step ok s' es else none

/-- What can be executed is a run. -/
theorem run_of_exec [∀ s e, Decidable (ok s e)] (h : exec step ok s₀ es = some s) :
    Run step ok s₀ es s := by
  induction es generalizing s₀ with
  | nil =>
    obtain rfl : s₀ = s := Option.some.inj h
    exact .start
  | cons e es ih =>
    rw [exec] at h
    by_cases hok : ok s₀ e
    · rw [if_pos hok, Option.bind_eq_some_iff] at h
      obtain ⟨s₁, hs, h⟩ := h
      exact .cons hok hs (ih h)
    · rw [if_neg hok] at h
      cases h

/-- The state a list of events leads to, once it is known that they can be executed. -/
theorem run_get [∀ s e, Decidable (ok s e)] (h : (exec step ok s₀ es).isSome = true) :
    Run step ok s₀ es ((exec step ok s₀ es).get h) :=
  run_of_exec (Option.some_get h).symm

/-! ### Histories -/

/-- **The history rule**: a property of every entry of a history, with what came
before it and what came after it, once the history has grown by one entry. -/
theorem forall_split_concat {α : Type*} {P : List α → α → List α → Prop} {l : List α} {x : α} :
    (∀ pre a post, l ++ [x] = pre ++ a :: post → P pre a post) ↔
      P l x [] ∧ ∀ pre a post, l = pre ++ a :: post → P pre a (post ++ [x]) := by
  constructor
  · intro h
    refine ⟨h l x [] rfl, ?_⟩
    rintro pre a post rfl
    exact h pre a (post ++ [x]) (by simp)
  · rintro ⟨hnew, hold⟩ pre a post heq
    rcases List.eq_nil_or_concat post with rfl | ⟨post, y, rfl⟩
    · obtain ⟨rfl, hx⟩ := List.append_inj' heq rfl
      obtain rfl : x = a := by simpa using hx
      exact hnew
    · rw [List.concat_eq_append, ← List.cons_append, ← List.append_assoc] at heq
      obtain ⟨hl, hx⟩ := List.append_inj' heq rfl
      obtain rfl : x = y := by simpa using hx
      rw [List.concat_eq_append]
      exact hold pre a post hl

/-! ### Systems that answer

A system whose every call has an outcome, and an answer. -/

section Answers

variable {σ τ ε ε' ρ ρ' : Type*}

/-- The answers to a list of calls. -/
def answers (step : σ → ε → σ) (answer : σ → ε → ρ) : σ → List ε → List ρ
  | _, [] => []
  | s, e :: es => answer s e :: answers step answer (step s e) es

variable {step : σ → ε → σ} {answer : σ → ε → ρ} {step' : τ → ε' → τ} {answer' : τ → ε' → ρ'}
  {call : ε' → ε} {R : σ → τ → Prop} {Q : ρ → ρ' → Prop}

/-- **The simulation rule**: two systems whose states are related, and stay so, and whose
answers to one call agree, give answers that agree to any list of calls. -/
theorem simulation
    (hstep : ∀ s t e, R s t →
      Q (answer s (call e)) (answer' t e) ∧ R (step s (call e)) (step' t e))
    (es : List ε') {s : σ} {t : τ} (h : R s t) :
    List.Forall₂ Q (answers step answer s (es.map call)) (answers step' answer' t es) ∧
      R ((es.map call).foldl step s) (es.foldl step' t) := by
  induction es generalizing s t with
  | nil => exact ⟨.nil, h⟩
  | cons e es ih =>
    obtain ⟨hanswer, hnext⟩ := hstep s t e h
    obtain ⟨hanswers, hlast⟩ := ih hnext
    exact ⟨.cons hanswer hanswers, hlast⟩

end Answers

end Runs
