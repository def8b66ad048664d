import Mathlib.Algebra.Order.Floor.Ring
import Mathlib.Algebra.Order.Field.Basic
import Mathlib.Data.Rat.Floor
import Mathlib.Tactic.FieldSimp
import Mathlib.Tactic.Linarith
import Mathlib.Tactic.Ring

/-!
# Textures and how they are sampled

A texture is a rectangle of texels. Sampled at a point of the unit square with a linear
filter, it gives a mean of the four texels around the point, weighted by how near they are;
beyond the edge the outermost texel is repeated (`Sampling.linear`). The arithmetic is
that of the rationals: how a device rounds is left out.

What is needed of a sample is where its texels lie: every texel that counts is at most one
texel away from the point, measured from centre to point (`Sampling.linear_eq_of_near`).
-/

namespace Sampling

/-- The nearest index of a row of `n`. -/
def clampIndex (n : ℕ) (i : ℤ) : ℕ := (max 0 (min i (n - 1))).toNat

/-- A mean of two values. -/
def mix (a b t : ℚ) : ℚ := a * (1 - t) + b * t

/-- **A sample with a linear filter**, of a texture of a size, at a point of the unit square;
beyond its edge the texture is clamped. -/
def linear (width height : ℕ) (texel : ℕ → ℕ → ℚ) (s t : ℚ) : ℚ :=
  let u := s * width - 1 / 2
  let v := t * height - 1 / 2
  let row (j : ℤ) : ℚ :=
    mix (texel (clampIndex height j) (clampIndex width ⌊u⌋))
      (texel (clampIndex height j) (clampIndex width (⌊u⌋ + 1))) (Int.fract u)
  mix (row ⌊v⌋) (row (⌊v⌋ + 1)) (Int.fract v)

variable {n width height : ℕ} {texel : ℕ → ℕ → ℚ} {c s t : ℚ}

theorem clampIndex_lt (hn : 0 < n) (i : ℤ) : clampIndex n i < n := by
  rw [clampIndex]
  omega

@[simp] theorem mix_self (a t : ℚ) : mix a a t = a := by
  rw [mix]
  ring

/-- A clamped index is an index that was asked for, or nearer to the point. -/
theorem abs_clampIndex_sub_le (hn : 0 < n) {x : ℚ} (h0 : 0 ≤ x) (hx : x ≤ n) {i : ℤ}
    {r : ℚ} (hr : 1 / 2 ≤ r) (hi : |(i : ℚ) + 1 / 2 - x| ≤ r) :
    |(clampIndex n i : ℚ) + 1 / 2 - x| ≤ r := by
  rw [abs_le] at hi ⊢
  have hcast : ((clampIndex n i : ℕ) : ℚ) = ((max 0 (min i (n - 1)) : ℤ) : ℚ) := by
    rw [clampIndex]
    exact_mod_cast Int.toNat_of_nonneg (le_max_left 0 _)
  rw [hcast]
  rcases le_total i 0 with hneg | hpos
  · have hmin : max 0 (min i ((n : ℤ) - 1)) = 0 := by omega
    have hi0 : (i : ℚ) ≤ 0 := by exact_mod_cast hneg
    rw [hmin, Int.cast_zero]
    constructor
    · linarith
    · linarith
  · rcases le_total i ((n : ℤ) - 1) with hin | hout
    · have hmin : max 0 (min i ((n : ℤ) - 1)) = i := by omega
      rw [hmin]
      exact hi
    · have hmin : max 0 (min i ((n : ℤ) - 1)) = (n : ℤ) - 1 := by omega
      have hin : ((n : ℚ) - 1) ≤ i := by exact_mod_cast hout
      rw [hmin]
      push_cast
      constructor
      · linarith
      · linarith

/-- The two indices of a linear filter lie at most one away. -/
theorem abs_floor_sub_le (x : ℚ) :
    |(⌊x - 1 / 2⌋ : ℚ) + 1 / 2 - x| ≤ 1 ∧ |((⌊x - 1 / 2⌋ + 1 : ℤ) : ℚ) + 1 / 2 - x| ≤ 1 := by
  have hlow := Int.floor_le (x - 1 / 2)
  have hhigh := Int.lt_floor_add_one (x - 1 / 2)
  rw [abs_le, abs_le]
  push_cast
  refine ⟨⟨?_, ?_⟩, ?_, ?_⟩
  all_goals linarith

/-- **A sample where all texels near the point are alike.** -/
theorem linear_eq_of_near (hw : 0 < width) (hh : 0 < height)
    (hs : 0 ≤ s ∧ s ≤ 1) (ht : 0 ≤ t ∧ t ≤ 1)
    (hnear : ∀ y < height, ∀ x < width, |(y : ℚ) + 1 / 2 - t * height| ≤ 1 →
      |(x : ℚ) + 1 / 2 - s * width| ≤ 1 → texel y x = c) :
    linear width height texel s t = c := by
  have hwq : (0 : ℚ) ≤ width := Nat.cast_nonneg _
  have hhq : (0 : ℚ) ≤ height := Nat.cast_nonneg _
  have hu0 : 0 ≤ s * width := mul_nonneg hs.1 hwq
  have hu1 : s * width ≤ width := mul_le_of_le_one_left hwq hs.2
  have hv0 : 0 ≤ t * height := mul_nonneg ht.1 hhq
  have hv1 : t * height ≤ height := mul_le_of_le_one_left hhq ht.2
  obtain ⟨hx, hx'⟩ := abs_floor_sub_le (s * width)
  obtain ⟨hy, hy'⟩ := abs_floor_sub_le (t * height)
  have hone : (1 : ℚ) / 2 ≤ 1 := by norm_num
  have htexel : ∀ i j : ℤ, |(i : ℚ) + 1 / 2 - s * width| ≤ 1 →
      |(j : ℚ) + 1 / 2 - t * height| ≤ 1 →
      texel (clampIndex height j) (clampIndex width i) = c := fun i j hi hj =>
    hnear _ (clampIndex_lt hh j) _ (clampIndex_lt hw i)
      (abs_clampIndex_sub_le hh hv0 hv1 hone hj) (abs_clampIndex_sub_le hw hu0 hu1 hone hi)
  rw [linear]
  dsimp only
  rw [htexel _ _ hx hy, htexel _ _ hx' hy, htexel _ _ hx hy', htexel _ _ hx' hy', mix_self,
    mix_self]

end Sampling
