import Mathlib.Logic.Basic

/-!
# Programs that call a system

A program that calls a system – a driver, a library – and decides by the answers what it
does next is a tree (`Calls.Prog`): a call, and for each answer to it the rest. Nothing is
assumed about the system, so a call may be answered in any way its type allows. What a
program leaves behind is a trace, the calls with their answers, and a result
(`Calls.Prog.Trace`).

What is shown of a program is shown of all its traces (`Calls.Prog.Meets`). There is one rule
for each way to build a program, and all of them are equivalences, so a program without
loops is taken apart by rewriting. Where a property of traces survives appending,
`Calls.Prog.Meets.bind_append` puts two parts together without looking into them.
-/

namespace Calls

variable {ι : Type} {Ans : ι → Type} {α β : Type}

/-- A program: it returns, or calls the system and goes on with the answer. -/
inductive Prog (ι : Type) (Ans : ι → Type) (α : Type)
  | pure (a : α)
  | call (i : ι) (k : Ans i → Prog ι Ans α)

/-- A call with its answer. -/
abbrev Event (Ans : ι → Type) := Σ i, Ans i

namespace Prog

/-- One program after another. -/
def bind : Prog ι Ans α → (α → Prog ι Ans β) → Prog ι Ans β
  | .pure a, f => f a
  | .call i k, f => .call i fun ans => (k ans).bind f

instance : Monad (Prog ι Ans) where
  pure := .pure
  bind := .bind

/-- A single call, whose answer is the result. -/
def perform (i : ι) : Prog ι Ans (Ans i) := .call i .pure

/-- **The traces of a program**, with its result. -/
def Trace : Prog ι Ans α → List (Event Ans) → α → Prop
  | .pure b, t, a => t = [] ∧ b = a
  | .call i k, t, a => ∃ ans t', t = ⟨i, ans⟩ :: t' ∧ (k ans).Trace t' a

/-- **What holds of all traces of a program.** -/
def Meets (p : Prog ι Ans α) (Q : List (Event Ans) → α → Prop) : Prop :=
  ∀ t a, p.Trace t a → Q t a

variable {p : Prog ι Ans α} {f : α → Prog ι Ans β}

theorem meets_pure {a : α} {Q : List (Event Ans) → α → Prop} :
    (Pure.pure a : Prog ι Ans α).Meets Q ↔ Q [] a := by
  constructor
  · intro h
    exact h [] a ⟨rfl, rfl⟩
  · rintro h t b ⟨rfl, rfl⟩
    exact h

theorem meets_call {i : ι} {k : Ans i → Prog ι Ans α} {Q : List (Event Ans) → α → Prop} :
    (Prog.call i k).Meets Q ↔ ∀ ans, (k ans).Meets fun t a => Q (⟨i, ans⟩ :: t) a := by
  constructor
  · intro h ans t a ht
    exact h _ a ⟨ans, t, rfl, ht⟩
  · rintro h t a ⟨ans, t', rfl, ht⟩
    exact h ans t' a ht

theorem meets_perform {i : ι} {Q : List (Event Ans) → Ans i → Prop} :
    (perform i).Meets Q ↔ ∀ ans, Q [⟨i, ans⟩] ans := by
  rw [perform, meets_call]
  exact forall_congr' fun ans => meets_pure

/-- **The rule of composition**: the traces of the two parts, one behind the other. -/
theorem meets_bind {Q : List (Event Ans) → β → Prop} :
    (p >>= f).Meets Q ↔ p.Meets fun t a => (f a).Meets fun t' b => Q (t ++ t') b := by
  induction p generalizing Q with
  | pure a =>
    have hpure := @meets_pure ι Ans α a fun t a => (f a).Meets fun t' b => Q (t ++ t') b
    exact hpure.symm
  | call i k ih =>
    show (Prog.call i fun ans => (k ans).bind f).Meets Q ↔ _
    rw [meets_call, meets_call]
    exact forall_congr' fun ans => ih ans

theorem Meets.mono {Q Q' : List (Event Ans) → α → Prop} (h : p.Meets Q)
    (hQ : ∀ t a, Q t a → Q' t a) : p.Meets Q' := fun t a ht => hQ t a (h t a ht)

/-- Where it does not matter what the first part has done, it is enough to look at the
second. -/
theorem meets_bind_of_forall {Q : List (Event Ans) → β → Prop}
    (h : ∀ t a, (f a).Meets fun t' b => Q (t ++ t') b) : (p >>= f).Meets Q :=
  meets_bind.2 fun t a _ => h t a

/-- **A property of traces that survives appending** is one of both parts. -/
theorem Meets.bind_append {R : List (Event Ans) → Prop}
    (happend : ∀ t t', R t → R t' → R (t ++ t')) (h : p.Meets fun t _ => R t)
    (hf : ∀ a, (f a).Meets fun t _ => R t) : (p >>= f).Meets fun t _ => R t :=
  meets_bind.2 (h.mono fun t a ht => (hf a).mono fun t' _ ht' => happend t t' ht ht')

/-! ### Running -/

/-- The trace and the result, for a system that always answers a call in the same way. -/
def run (answer : ∀ i, Ans i) : Prog ι Ans α → List (Event Ans) × α
  | .pure a => ([], a)
  | .call i k => (⟨i, answer i⟩ :: ((k (answer i)).run answer).1, ((k (answer i)).run answer).2)

/-- What is run is a trace. -/
theorem trace_run (answer : ∀ i, Ans i) (p : Prog ι Ans α) :
    p.Trace (p.run answer).1 (p.run answer).2 := by
  induction p with
  | pure a => exact ⟨rfl, rfl⟩
  | call i k ih => exact ⟨answer i, _, rfl, ih (answer i)⟩

/-- A run has the answers that were asked for. -/
theorem mem_run {answer : ∀ i, Ans i} {p : Prog ι Ans α} {e : Event Ans}
    (h : e ∈ (p.run answer).1) : e = ⟨e.1, answer e.1⟩ := by
  induction p with
  | pure a => exact absurd h List.not_mem_nil
  | call i k ih =>
    rcases List.mem_cons.1 h with rfl | h
    · rfl
    · exact ih _ h

end Prog

end Calls
