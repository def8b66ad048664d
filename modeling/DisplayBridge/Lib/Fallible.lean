import Mathlib.Logic.Basic

/-!
# Computations that can fail

What is shown of a computation in `Except ε` is said of both ways it can end
(`Fallible.Yields`): of its result, or of its error. Errors go through, so what is said of them
stays the same while a computation is put together, and only what is said of results is threaded
(`Fallible.Yields.bind`). A loop over a list carries an invariant on the entries it has been
through (`Fallible.Yields.foldlM`), in which each entry is known with those before it and those
after it.
-/

namespace Fallible

universe u

variable {ε : Type*} {α β σ : Type u}

/-- A computation that ends in a result with `Q` or in an error with `E`. -/
def Yields (x : Except ε α) (Q : α → Prop) (E : ε → Prop) : Prop :=
  match x with
  | .ok a => Q a
  | .error e => E e

variable {x : Except ε α} {Q : α → Prop} {E : ε → Prop}

theorem yields_ok {a : α} : Yields (.ok a : Except ε α) Q E ↔ Q a := .rfl

theorem yields_pure {a : α} : Yields (pure a : Except ε α) Q E ↔ Q a := .rfl

theorem Yields.mono (h : Yields x Q E) {Q' : α → Prop} (hQ : ∀ a, Q a → Q' a) :
    Yields x Q' E := by
  cases x with
  | ok a => exact hQ a h
  | error e => exact h

theorem Yields.weaken (h : Yields x Q E) {E' : ε → Prop} (hE : ∀ e, E e → E' e) :
    Yields x Q E' := by
  cases x with
  | ok a => exact h
  | error e => exact hE e h

/-- **One computation after another.** -/
theorem yields_bind {f : α → Except ε β} {R : β → Prop} :
    Yields (x >>= f) R E ↔ Yields x (fun a => Yields (f a) R E) E := by
  cases x <;> rfl

theorem Yields.bind {f : α → Except ε β} {R : β → Prop} (h : Yields x Q E)
    (hf : ∀ a, Q a → Yields (f a) R E) : Yields (x >>= f) R E :=
  yields_bind.2 (h.mono hf)

/-- **A loop** keeps an invariant on the entries it has been through. -/
theorem Yields.foldlM {f : σ → α → Except ε σ} {I : List α → σ → Prop} {l : List α} {s : σ}
    (hstart : I [] s)
    (hstep : ∀ pre a post s, l = pre ++ a :: post → I pre s → Yields (f s a) (I (pre ++ [a])) E) :
    Yields (l.foldlM f s) (I l) E := by
  suffices hsuff : ∀ post pre s, l = pre ++ post → I pre s → Yields (post.foldlM f s) (I l) E from
    hsuff l [] s rfl hstart
  intro post
  induction post with
  | nil =>
    intro pre s hl hpre
    rw [List.append_nil] at hl
    exact hl ▸ hpre
  | cons a post ih =>
    intro pre s hl hpre
    rw [List.foldlM_cons]
    refine (hstep pre a post s hl hpre).bind fun s' hs' => ih (pre ++ [a]) s' ?_ hs'
    rw [hl, List.append_assoc]
    rfl

/-- What cannot be an error is a result. -/
theorem Yields.exists_ok (h : Yields x Q E) (hE : ∀ e, ¬ E e) : ∃ a, x = .ok a ∧ Q a := by
  cases x with
  | ok a => exact ⟨a, rfl, h⟩
  | error e => exact absurd h (hE e)

end Fallible
