import DisplayBridge.Lib.Runs

/-!
# Bounded queues that drop the oldest

A queue of at most `n` elements whose producer never waits: an element that is pushed
on a full queue takes the place of the oldest one. The queue is the list of its
elements, oldest first, and a call is one of three (`DropOldest.Op`): an element is
pushed, the oldest is popped, or all are flushed.

An element leaves such a queue for one of three reasons (`DropOldest.Exit`), and the
elements that have left, in the order in which they did, are its
`DropOldest.history`. The books balance: what was pushed is what has left, and behind
it what is still there (`DropOldest.balance`). So nothing leaves twice, nothing
overtakes, and what is lost was displaced or flushed.
-/

namespace DropOldest

open Runs

/-- A call to the queue. -/
inductive Op (α : Type*)
  | push (a : α)
  | pop
  | flush

/-- Why an element has left the queue. -/
inductive Exit
  | popped
  | displaced
  | flushed
deriving DecidableEq

/-- What a call answers: a pop, the oldest element, if there is one. -/
inductive Answer (α : Type*)
  | pushed
  | popped (a : Option α)
  | flushed

variable {α : Type*} (n : ℕ)

/-- The queue after a call. -/
def step (q : List α) : Op α → List α
  | .push a => (if q.length < n then q else q.tail) ++ [a]
  | .pop => q.tail
  | .flush => []

/-- The answer to a call. -/
def answer (q : List α) : Op α → Answer α
  | .push _ => .pushed
  | .pop => .popped q.head?
  | .flush => .flushed

/-- The element that enters the queue in a call. -/
def Op.entry : Op α → List α
  | .push a => [a]
  | .pop => []
  | .flush => []

/-- The elements that leave the queue in a call. -/
def exits (q : List α) : Op α → List (Exit × α)
  | .push _ => if q.length < n then [] else (q.take 1).map (Prod.mk .displaced)
  | .pop => (q.take 1).map (Prod.mk .popped)
  | .flush => q.map (Prod.mk .flushed)

/-- The elements that leave the queue in some calls, in order. -/
def history (q : List α) (ops : List (Op α)) : List (Exit × α) :=
  (answers (step n) (exits n) q ops).flatten

variable {n} {q : List α}

/-! ### The books -/

theorem map_snd_mk (x : Exit) (l : List α) : (l.map (Prod.mk x)).map Prod.snd = l := by
  rw [List.map_map]
  exact List.map_id l

/-- What was there and what enters is what leaves and what is there. -/
theorem balance_step (n : ℕ) (q : List α) (op : Op α) :
    q ++ op.entry = (exits n q op).map Prod.snd ++ step n q op := by
  have hfront : q = q.take 1 ++ q.tail := by rw [← List.drop_one, List.take_append_drop]
  cases op with
  | push a =>
    rw [exits, step]
    by_cases hroom : q.length < n
    · rw [if_pos hroom, if_pos hroom]
      rfl
    · rw [if_neg hroom, if_neg hroom, map_snd_mk, ← List.append_assoc, ← hfront]
      rfl
  | pop =>
    rw [exits, step, map_snd_mk, ← hfront]
    exact List.append_nil q
  | flush => rw [exits, step, map_snd_mk, Op.entry]

/-- **The books balance**: what was there and what was pushed is what has left, and
behind it what is there. -/
theorem balance (n : ℕ) (q : List α) (ops : List (Op α)) :
    q ++ ops.flatMap Op.entry = (history n q ops).map Prod.snd ++ ops.foldl (step n) q := by
  induction ops generalizing q with
  | nil => exact List.append_nil q
  | cons op ops ih =>
    have hhistory : history n q (op :: ops) = exits n q op ++ history n (step n q op) ops := rfl
    rw [hhistory, List.flatMap_cons, ← List.append_assoc, balance_step n, List.append_assoc, ih,
      List.map_append, List.append_assoc]
    rfl

/-- The element an answer hands over. -/
def Answer.element : Answer α → List α
  | .popped (some a) => [a]
  | _ => []

theorem popped_exits (n : ℕ) (q : List α) (op : Op α) :
    ((exits n q op).filter (·.1 = .popped)).map Prod.snd = (answer q op).element := by
  have hother : ∀ (x : Exit) (l : List α), x ≠ .popped →
      (l.map (Prod.mk x)).filter (·.1 = .popped) = [] := by
    intro x l hx
    rw [List.filter_map, List.map_eq_nil_iff, List.filter_eq_nil_iff]
    exact fun a _ => by simpa using hx
  cases op with
  | push a =>
    rw [exits]
    split
    · rfl
    · rw [hother .displaced _ Exit.noConfusion]
      rfl
  | pop =>
    cases q with
    | nil => rfl
    | cons a q => rfl
  | flush =>
    rw [exits, hother .flushed _ Exit.noConfusion]
    rfl

/-- **What has left by a pop is what the pops have answered.** -/
theorem popped_history (n : ℕ) (q : List α) (ops : List (Op α)) :
    ((history n q ops).filter (·.1 = .popped)).map Prod.snd =
      (answers (step n) answer q ops).flatMap Answer.element := by
  induction ops generalizing q with
  | nil => rfl
  | cons op ops ih =>
    have hhistory : history n q (op :: ops) = exits n q op ++ history n (step n q op) ops := rfl
    rw [hhistory, List.filter_append, List.map_append, popped_exits, ih]
    rfl

end DropOldest
