import Mathlib.Logic.Function.Basic

/-!
# A list of writes to a memory

A loop that fills a buffer is laid out as the list of its stores, in the order of the
loop: a pair of an address and a value for each. What stands at an address afterwards
(`Writes.perform`) is what the last store to it has put there. A loop that visits every
address once needs less than that: if only one value is ever stored at an address, then it
stands there, wherever in the loop its store is (`Writes.perform_of_mem`). Addresses that
no store names keep what they had (`Writes.perform_of_forall_ne`).
-/

namespace Writes

variable {α β : Type*} [DecidableEq α]

/-- The memory after a list of stores. -/
def perform (m : α → β) (l : List (α × β)) : α → β :=
  l.foldl (fun m s => Function.update m s.1 s.2) m

@[simp] theorem perform_nil (m : α → β) : perform m [] = m := rfl

@[simp] theorem perform_cons (m : α → β) (s : α × β) (l : List (α × β)) :
    perform m (s :: l) = perform (Function.update m s.1 s.2) l := rfl

/-- **What no store names stays.** -/
theorem perform_of_forall_ne {m : α → β} {l : List (α × β)} {a : α}
    (hne : ∀ s ∈ l, s.1 ≠ a) : perform m l a = m a := by
  induction l generalizing m with
  | nil => rfl
  | cons s l ih =>
    rw [perform_cons, ih fun t ht => hne t (List.mem_cons_of_mem s ht)]
    exact Function.update_of_ne (hne s List.mem_cons_self).symm _ _

/-- **What alone is stored at an address** stands there. -/
theorem perform_of_mem {m : α → β} {l : List (α × β)} {a : α} {b : β} (hmem : (a, b) ∈ l)
    (honly : ∀ s ∈ l, s.1 = a → s.2 = b) : perform m l a = b := by
  induction l generalizing m with
  | nil => exact absurd hmem List.not_mem_nil
  | cons s l ih =>
    have hrest : ∀ t ∈ l, t.1 = a → t.2 = b := fun t ht => honly t (List.mem_cons_of_mem s ht)
    rw [perform_cons]
    by_cases hlater : (a, b) ∈ l
    · exact ih hlater hrest
    · -- the store is the first one, and no later one is to its address
      have hhead : (a, b) = s := (List.mem_cons.1 hmem).resolve_right hlater
      rw [perform_of_forall_ne, ← hhead]
      · exact Function.update_self a b m
      · rintro ⟨a', b'⟩ ht rfl
        have hvalue : b' = b := hrest _ ht rfl
        exact hlater (hvalue ▸ ht)

end Writes
