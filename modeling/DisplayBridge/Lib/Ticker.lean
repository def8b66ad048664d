import Mathlib.Data.List.Chain
import Mathlib.Tactic.Linarith

/-!
# A timer that is polled

A loop that does something every so often reads the clock on each turn, compares it with
the time of the last deed, and does the next one if more than a period has passed. So a
deed is late by what a turn takes at most, and it is never early; if the loop may also do
the deed for a reason of its own, it is never later than that.

A timer is kept with the times it was set at, the latest first. What is stated of it, is
stated of two neighbours in that list: no two are further apart than the period and a turn
(`Ticker.Timer.Prompt`), and, unless it was set for another reason, no two are closer than
the period (`Ticker.Timer.Spaced`). Both are kept by every reading, and both bound how
often the timer was set by the time that has passed.
-/

namespace Ticker

/-- A timer: the last reading of the clock, and the times at which it was set. -/
structure Timer where
  now : ℕ
  last : ℕ
  before : List ℕ

/-- The timer is set. -/
def Timer.set (t : Timer) (now : ℕ) : Timer := ⟨now, now, t.last :: t.before⟩

/-- The clock is read, and the timer is set if more than a period has passed. -/
def Timer.read (period : ℕ) (t : Timer) (now : ℕ) : Timer :=
  if period < now - t.last then t.set now else { t with now := now }

/-- **Never late**: by more than a turn of `δ`. -/
structure Timer.Prompt (period δ : ℕ) (t : Timer) : Prop where
  last_le : t.last ≤ t.now
  now_le : t.now ≤ t.last + period
  isChain : (t.last :: t.before).IsChain fun later earlier => later ≤ earlier + period + δ

/-- **Never early.** -/
def Timer.Spaced (period : ℕ) (t : Timer) : Prop :=
  (t.last :: t.before).IsChain fun later earlier => earlier + period < later

/-- How often the timer was set since it was set first. -/
def Timer.count (t : Timer) : ℕ := t.before.length

variable {period δ now : ℕ} {t : Timer}

/-- A timer that was just set for the first time. -/
theorem Timer.Prompt.start (period δ now : ℕ) : Timer.Prompt period δ ⟨now, now, []⟩ :=
  ⟨Nat.le_refl now, Nat.le_add_right now period, List.isChain_singleton now⟩

theorem Timer.Spaced.start (period now : ℕ) : Timer.Spaced period ⟨now, now, []⟩ :=
  List.isChain_singleton now

theorem Timer.Prompt.set (h : t.Prompt period δ) (hnow : now ≤ t.now + δ) :
    (t.set now).Prompt period δ := by
  have hle := h.now_le
  have hlate : now ≤ t.last + period + δ := by omega
  exact ⟨Nat.le_refl now, Nat.le_add_right now period,
    List.isChain_cons_cons.2 ⟨hlate, h.isChain⟩⟩

/-- **A reading keeps a timer from being late.** -/
theorem Timer.Prompt.read (h : t.Prompt period δ) (hle : t.now ≤ now) (hnow : now ≤ t.now + δ) :
    (t.read period now).Prompt period δ := by
  rw [Timer.read]
  split
  · exact h.set hnow
  · next hwait =>
    have hearly : now ≤ t.last + period := by omega
    exact ⟨h.last_le.trans hle, hearly, h.isChain⟩

/-- **A reading does not set a timer early.** -/
theorem Timer.Spaced.read (h : t.Spaced period) : (t.read period now).Spaced period := by
  rw [Timer.read]
  split
  · next hdue =>
    have hlater : t.last + period < now := by omega
    exact List.isChain_cons_cons.2 ⟨hlater, h⟩
  · exact h

/-- Two relations of neighbours are one. -/
theorem isChain_and {α : Type*} {R S : α → α → Prop} {l : List α} (hR : l.IsChain R)
    (hS : l.IsChain S) : l.IsChain fun a b => R a b ∧ S a b := by
  induction hR with
  | nil => exact .nil
  | singleton a => exact .singleton a
  | cons_cons hab _ ih =>
    obtain ⟨hab', htail⟩ := List.isChain_cons_cons.1 hS
    exact .cons_cons ⟨hab, hab'⟩ (ih htail)

/-! ### How often -/

/-- **A timer that is not late is set often**: each time takes a period and a turn at most. -/
theorem Timer.Prompt.last_read_le (h : t.Prompt period δ) (hnow : now ≤ t.now + δ) :
    (t.read period now).last + t.count * (period + δ) ≤
      t.last + (t.read period now).count * (period + δ) := by
  have hle := h.now_le
  rw [Timer.read]
  split
  · show now + t.before.length * (period + δ) ≤ t.last + (t.before.length + 1) * (period + δ)
    rw [Nat.succ_mul]
    omega
  · exact Nat.le_refl _

end Ticker
