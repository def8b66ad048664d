import Mathlib.Tactic.Ring
import Mathlib.Data.Nat.ModEq

/-!
# Positions on a circle

The indices of a circular buffer of `n` places: each advances by one modulo `n`,
and what two of them say about the contents is the number of steps from the one
to the other, `Circular.gap`. The gap is a number, so what holds of the
contents is proved by arithmetic on it and the wrap disappears: advancing the
head of a gap that is not full adds one (`Circular.gap_succ_right`), advancing
the tail of a gap that is not empty takes one away (`Circular.gap_succ_left`),
and the place `k` steps from the tail is the head exactly when `k` is the gap
(`Circular.step_eq_iff`).

The places in between, in order, are `Circular.places`, and on them the two
advances are the two operations of a queue: one more at the end
(`Circular.places_next`), one less at the front (`Circular.places_eq_cons`).
-/

namespace Circular

variable {n : ℕ}

/-- The place after a place. -/
def next (n i : ℕ) : ℕ := (i + 1) % n

/-- The place a number of steps away. -/
def step (n i k : ℕ) : ℕ := (i + k) % n

/-- The number of steps from a place to another. -/
def gap (n i j : ℕ) : ℕ := (j + n - i) % n

theorem next_lt {i : ℕ} (hi : i < n) : next n i < n := Nat.mod_lt _ (by omega)

theorem gap_lt {i j : ℕ} (hi : i < n) : gap n i j < n := Nat.mod_lt _ (by omega)

/-- The gap between two places, without the wrap. -/
theorem gap_eq {i j : ℕ} (hi : i < n) (hj : j < n) :
    gap n i j = if i ≤ j then j - i else j + n - i := by
  rw [gap]
  split_ifs with h
  · rw [show j + n - i = (j - i) + n by omega, Nat.add_mod_right, Nat.mod_eq_of_lt (by omega)]
  · exact Nat.mod_eq_of_lt (by omega)

/-- The next place, without the wrap. -/
theorem next_eq {i : ℕ} (hi : i < n) : next n i = if i + 1 = n then 0 else i + 1 := by
  rw [next]
  split_ifs with h
  · rw [h, Nat.mod_self]
  · exact Nat.mod_eq_of_lt (by omega)

/-- A place a number of steps away, without the wrap. -/
theorem step_eq {i k : ℕ} (hi : i < n) (hk : k < n) :
    step n i k = if i + k < n then i + k else i + k - n := by
  rw [step]
  split_ifs with h
  · exact Nat.mod_eq_of_lt h
  · rw [Nat.mod_eq_sub_mod (by omega), Nat.mod_eq_of_lt (by omega)]

/-- Two places coincide exactly when the gap between them is zero. -/
theorem gap_eq_zero {i j : ℕ} (hi : i < n) (hj : j < n) : gap n i j = 0 ↔ i = j := by
  rw [gap_eq hi hj]
  split_ifs <;> omega

@[simp] theorem gap_self {i : ℕ} (hi : i < n) : gap n i i = 0 := (gap_eq_zero hi hi).mpr rfl

/-- **Advancing the far end** of a gap that does not go all the way round adds
one to it. -/
theorem gap_succ_right {i j : ℕ} (hi : i < n) (hj : j < n) (h : gap n i j + 1 < n) :
    gap n i (next n j) = gap n i j + 1 := by
  have hnext := next_lt hj
  rw [gap_eq hi hj] at h ⊢
  rw [gap_eq hi hnext]
  rw [next_eq hj] at hnext ⊢
  split_ifs at * <;> omega

/-- The place after the far end is the near end exactly when the gap goes all
the way round. -/
theorem next_eq_iff {i j : ℕ} (hi : i < n) (hj : j < n) : next n j = i ↔ gap n i j + 1 = n := by
  rw [next_eq hj, gap_eq hi hj]
  split_ifs <;> omega

/-- **Advancing the near end** of a gap that is not empty takes one away from
it. -/
theorem gap_succ_left {i j : ℕ} (hi : i < n) (hj : j < n) (h : 0 < gap n i j) :
    gap n (next n i) j + 1 = gap n i j := by
  have hnext := next_lt hi
  rw [gap_eq hi hj] at h ⊢
  rw [gap_eq hnext hj]
  rw [next_eq hi] at hnext ⊢
  split_ifs at * <;> omega

/-- **The far end is the only place at its distance.** -/
theorem step_eq_iff {i j k : ℕ} (hi : i < n) (hj : j < n) (hk : k < n) :
    step n i k = j ↔ k = gap n i j := by
  rw [step_eq hi hk, gap_eq hi hj]
  split_ifs <;> omega

/-! ### The places in between -/

/-- The places from one place up to another, in order. -/
def places (n i j : ℕ) : List ℕ := (List.range (gap n i j)).map (step n i)

theorem places_self {i : ℕ} (hi : i < n) : places n i i = [] := by
  rw [places, gap_self hi]
  rfl

theorem places_eq_nil_iff {i j : ℕ} (hi : i < n) (hj : j < n) : places n i j = [] ↔ i = j := by
  rw [places, List.map_eq_nil_iff, List.range_eq_nil, gap_eq_zero hi hj]

/-- **One more at the end.** -/
theorem places_next {i j : ℕ} (hi : i < n) (hj : j < n) (h : gap n i j + 1 < n) :
    places n i (next n j) = places n i j ++ [j] := by
  have hlast : step n i (gap n i j) = j := (step_eq_iff hi hj (gap_lt hi)).2 rfl
  rw [places, places, gap_succ_right hi hj h, List.range_succ, List.map_append, List.map_cons,
    List.map_nil, hlast]

/-- **One less at the front.** -/
theorem places_eq_cons {i j : ℕ} (hi : i < n) (hj : j < n) (h : i ≠ j) :
    places n i j = i :: places n (next n i) j := by
  have hpos : 0 < gap n i j := Nat.pos_of_ne_zero fun h₀ => h ((gap_eq_zero hi hj).1 h₀)
  have hsucc := gap_succ_left hi hj hpos
  have hzero : step n i 0 = i := Nat.mod_eq_of_lt hi
  have hstep : step n i ∘ Nat.succ = step n (next n i) := by
    funext k
    have : i + 1 + k = i + (k + 1) := by ring
    rw [Function.comp_apply, step, step, next, Nat.mod_add_mod, this]
  rw [places, places, ← hsucc, List.range_succ_eq_map, List.map_cons, List.map_map, hzero, hstep]

/-- The far end is not among them. -/
theorem not_mem_places {i j : ℕ} (hi : i < n) (hj : j < n) : j ∉ places n i j := by
  rw [places, List.mem_map]
  rintro ⟨k, hk, hstep⟩
  have hlt : k < gap n i j := List.mem_range.1 hk
  have hgap := gap_lt (n := n) (j := j) hi
  have := (step_eq_iff hi hj (by omega)).1 hstep
  omega

end Circular
