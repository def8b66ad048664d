import Mathlib.Algebra.Order.Floor.Ring
import Mathlib.Data.Int.Log
import Mathlib.Tactic.Linarith
import Mathlib.Tactic.Ring

/-!
# Binary floating point

A binary floating point number is an integer of a fixed number of digits, scaled by a power
of two. An operation on such numbers is the exact operation, followed by a rounding to the
nearest of them (`FloatingPoint.Format.round`), where of two that are equally near the one
with the even significand is taken. So all that a program with floating point operations
needs in order to be followed are the exact numbers, and this one function.

The scale of a number comes from its logarithm, but not below a least one, which is that of
the subnormal numbers (`FloatingPoint.Format.exponent`). There is no greatest one here: a
number too large for the format stays what it is, where a program would go on with an infinity.

## Main results

* `FloatingPoint.Format.monotone_round` – the rounding keeps the order;
* `FloatingPoint.Format.round_of_representable` – and every number of the format;
* `FloatingPoint.Format.abs_round_sub_le` – it moves a number by at most half the distance
  of its neighbours;
* `FloatingPoint.Format.round_le_of_lt_midpoint`,
  `FloatingPoint.Format.le_round_of_midpoint_lt` – on which side a number is rounded.
-/

namespace FloatingPoint

variable {K : Type*} [Field K] [LinearOrder K] [IsStrictOrderedRing K] [FloorRing K]

/-! ### The nearest integer -/

/-- The nearest integer; between two of them, the even one. -/
def nearestEven (q : K) : ℤ :=
  if q - ⌊q⌋ < 1 / 2 then ⌊q⌋
  else if 1 / 2 < q - ⌊q⌋ then ⌊q⌋ + 1
  else ⌊q⌋ + ⌊q⌋ % 2

@[simp] theorem nearestEven_intCast (n : ℤ) : nearestEven (n : K) = n := by
  simp [nearestEven]

omit [IsStrictOrderedRing K] in
/-- It is one of the two integers around. -/
theorem nearestEven_mem (q : K) : ⌊q⌋ ≤ nearestEven q ∧ nearestEven q ≤ ⌊q⌋ + 1 := by
  rw [nearestEven]
  split_ifs <;> omega

/-- **It is at most a half away.** -/
theorem abs_nearestEven_sub_le (q : K) : |(nearestEven q : K) - q| ≤ 1 / 2 := by
  have hlow := Int.floor_le q
  have hhigh := Int.lt_floor_add_one q
  rw [nearestEven, abs_le]
  split_ifs with hbelow habove
  · constructor <;> linarith
  · push_cast
    constructor <;> linarith
  · rcases Int.emod_two_eq_zero_or_one ⌊q⌋ with h | h
    all_goals
      rw [h]
      push_cast
      constructor <;> linarith

/-- **It keeps the order.** -/
theorem nearestEven_mono {q r : K} (hqr : q ≤ r) : nearestEven q ≤ nearestEven r := by
  rcases (Int.floor_mono hqr).eq_or_lt with hfloor | hfloor
  · -- between the same two integers, the farther from the lower one is not rounded below
    rw [nearestEven, nearestEven, ← hfloor]
    split_ifs with h₁ h₂ h₃ h₄ h₅ h₆ <;> first | omega | (exfalso; linarith)
  · exact (nearestEven_mem q).2.trans (by linarith [(nearestEven_mem r).1])

/-- A number that is not above an integer is not rounded above it. -/
theorem nearestEven_le {q : K} {n : ℤ} (h : q ≤ n) : nearestEven q ≤ n :=
  (nearestEven_mono h).trans_eq (nearestEven_intCast n)

theorem le_nearestEven {q : K} {n : ℤ} (h : (n : K) ≤ q) : n ≤ nearestEven q :=
  (nearestEven_intCast n).symm.trans_le (nearestEven_mono h)

/-- Below the middle of two integers it is the lower one, at most. -/
theorem nearestEven_le_of_lt {q : K} {n : ℤ} (h : q < n + 1 / 2) : nearestEven q ≤ n := by
  obtain ⟨-, hhigh⟩ := abs_le.1 (abs_nearestEven_sub_le q)
  have hlt : (nearestEven q : K) < (n + 1 : ℤ) := by
    push_cast
    linarith
  exact Int.lt_add_one_iff.1 (by exact_mod_cast hlt)

/-- Above the middle of two integers it is the upper one, at least. -/
theorem lt_nearestEven_of_lt {q : K} {n : ℤ} (h : (n : K) + 1 / 2 < q) : n < nearestEven q := by
  obtain ⟨hlow, -⟩ := abs_le.1 (abs_nearestEven_sub_le q)
  have hlt : (n : K) < nearestEven q := by linarith
  exact_mod_cast hlt

/-- **The two signs are rounded alike.** -/
theorem nearestEven_neg (q : K) : nearestEven (-q) = -nearestEven q := by
  have hlow := Int.floor_le q
  have hhigh := Int.lt_floor_add_one q
  rcases lt_trichotomy (q - ⌊q⌋) (1 / 2) with h | h | h
  · have hq : nearestEven q = ⌊q⌋ := if_pos h
    rw [hq]
    refine le_antisymm (nearestEven_le ?_) (Int.le_of_sub_one_lt (lt_nearestEven_of_lt ?_))
    all_goals
      push_cast
      linarith
  · -- half way between the same two integers, seen from below
    have hfloor : ⌊-q⌋ = -⌊q⌋ - 1 := by
      rw [Int.floor_eq_iff]
      push_cast
      constructor <;> linarith
    have hhalf : -q - ((-⌊q⌋ - 1 : ℤ) : K) = 1 / 2 := by
      push_cast
      linarith
    rw [nearestEven, nearestEven, hfloor, hhalf, h, if_neg (lt_irrefl _), if_neg (lt_irrefl _),
      if_neg (lt_irrefl _), if_neg (lt_irrefl _)]
    omega
  · have hq : nearestEven q = ⌊q⌋ + 1 := by rw [nearestEven, if_neg h.not_gt, if_pos h]
    rw [hq]
    refine le_antisymm (nearestEven_le_of_lt ?_) (le_nearestEven ?_)
    all_goals
      push_cast
      linarith

/-! ### The numbers of a format -/

/-- A format: how many digits a number has, and the exponent of the last digit of the smallest
numbers. -/
structure Format where
  /-- The number of digits of a significand. -/
  precision : ℕ
  /-- The least exponent of a last digit. -/
  minExponent : ℤ
  precision_pos : 0 < precision

/-- The format of the type `double`. -/
def binary64 : Format := ⟨53, -1074, by decide⟩

namespace Format

variable (F : Format)

/-- A number of the format: a significand that has room, and an exponent. -/
def Representable (q : K) : Prop :=
  ∃ m e : ℤ, |m| < 2 ^ F.precision ∧ F.minExponent ≤ e ∧ q = m * 2 ^ e

/-- The exponent of the last digit of a number. -/
def exponent (q : K) : ℤ := max F.minExponent (Int.log 2 |q| + 1 - F.precision)

/-- The distance between the numbers of the format, where a number lies. -/
def spacing (q : K) : K := 2 ^ F.exponent q

/-- **The rounding**: the nearest number of the format, and of two of them the one with the even
significand. -/
def round (q : K) : K := nearestEven (q / F.spacing q) * F.spacing q

variable {F}

theorem spacing_pos (q : K) : 0 < F.spacing q := zpow_pos two_pos _

omit [IsStrictOrderedRing K] in
@[simp] theorem exponent_neg (q : K) : F.exponent (-q) = F.exponent q := by
  rw [exponent, abs_neg, exponent]

@[simp] theorem round_neg (q : K) : F.round (-q) = -F.round q := by
  rw [round, spacing, exponent_neg, ← spacing, neg_div, nearestEven_neg, Int.cast_neg, neg_mul,
    round]

/-- **Half the distance to the neighbours** is the error. -/
theorem abs_round_sub_le (q : K) : |F.round q - q| ≤ F.spacing q / 2 := by
  have hpos := spacing_pos (F := F) q
  have hscaled : F.round q - q =
      (nearestEven (q / F.spacing q) - q / F.spacing q) * F.spacing q := by
    rw [sub_mul, div_mul_cancel₀ _ hpos.ne', round]
  calc |F.round q - q| = |(nearestEven (q / F.spacing q) : K) - q / F.spacing q| * F.spacing q := by
        rw [hscaled, abs_mul, abs_of_pos hpos]
    _ ≤ 1 / 2 * F.spacing q := mul_le_mul_of_nonneg_right (abs_nearestEven_sub_le _) hpos.le
    _ = F.spacing q / 2 := by ring

/-- A power of two is a whole number of smaller ones. -/
theorem exists_intCast_mul_zpow (m : ℤ) {d e : ℤ} (h : d ≤ e) :
    ∃ n : ℤ, (m : K) * 2 ^ e = n * 2 ^ d := by
  obtain ⟨k, rfl⟩ := Int.le.dest h
  refine ⟨m * 2 ^ k, ?_⟩
  rw [zpow_add₀ two_pos.ne', zpow_natCast]
  push_cast
  ring

/-- A number is not rounded beyond a number above it whose digits all count there. -/
theorem round_le_of_le {q : K} {m e : ℤ} (he : F.exponent q ≤ e) (h : q ≤ m * 2 ^ e) :
    F.round q ≤ m * 2 ^ e := by
  obtain ⟨n, hn⟩ := exists_intCast_mul_zpow (K := K) m he
  rw [hn] at h ⊢
  have hpos := spacing_pos (F := F) q
  have hle : nearestEven (q / F.spacing q) ≤ n := nearestEven_le ((div_le_iff₀ hpos).2 h)
  exact mul_le_mul_of_nonneg_right (by exact_mod_cast hle) hpos.le

theorem le_round_of_le {q : K} {m e : ℤ} (he : F.exponent q ≤ e) (h : m * 2 ^ e ≤ q) :
    m * 2 ^ e ≤ F.round q := by
  have hneg := round_le_of_le (q := -q) (m := -m) ((exponent_neg q).trans_le he)
    (by push_cast; linarith)
  rw [round_neg] at hneg
  push_cast at hneg
  linarith

@[simp] theorem round_zero : F.round (0 : K) = 0 := by
  rw [round, zero_div, ← Int.cast_zero, nearestEven_intCast, Int.cast_zero, zero_mul]

theorem exponent_le_exponent {q r : K} (hq : 0 < q) (hqr : q ≤ r) :
    F.exponent q ≤ F.exponent r := by
  have hlog : Int.log 2 q ≤ Int.log 2 r := Int.log_mono_right hq hqr
  rw [exponent, exponent, abs_of_pos hq, abs_of_pos (hq.trans_le hqr)]
  exact max_le_max_left _ (by omega)

theorem round_le_round_of_pos {q r : K} (hq : 0 < q) (hqr : q ≤ r) : F.round q ≤ F.round r := by
  have hr : 0 < r := hq.trans_le hqr
  have hpos := spacing_pos (F := F) r
  rcases (exponent_le_exponent (F := F) hq hqr).eq_or_lt with heq | hlt
  · have hspacing : F.spacing q = F.spacing r := congrArg (fun e : ℤ => (2 : K) ^ e) heq
    have hle : nearestEven (q / F.spacing r) ≤ nearestEven (r / F.spacing r) :=
      nearestEven_mono (div_le_div_of_nonneg_right hqr hpos.le)
    rw [round, round, hspacing]
    exact mul_le_mul_of_nonneg_right (by exact_mod_cast hle) hpos.le
  · -- a power of two lies between the two, and all of its digits count on both sides
    have hprecision := F.precision_pos
    have hexp : F.exponent r = Int.log 2 r + 1 - F.precision := by
      have hmin : F.minExponent ≤ F.exponent q := le_max_left _ _
      have hr' : F.exponent r = max F.minExponent (Int.log 2 r + 1 - F.precision) := by
        rw [exponent, abs_of_pos hr]
      omega
    have hlog : Int.log 2 q < Int.log 2 r := by
      have hle : Int.log 2 |q| + 1 - F.precision ≤ F.exponent q := le_max_right _ _
      rw [abs_of_pos hq] at hle
      omega
    have hbelow : q ≤ ((1 : ℤ) : K) * 2 ^ Int.log 2 r := by
      rw [Int.cast_one, one_mul]
      exact ((Int.lt_zpow_iff_log_lt one_lt_two hq).2 hlog).le
    have habove : ((1 : ℤ) : K) * 2 ^ Int.log 2 r ≤ r := by
      rw [Int.cast_one, one_mul]
      exact Int.zpow_log_le_self one_lt_two hr
    exact (round_le_of_le (by omega) hbelow).trans (le_round_of_le (by omega) habove)

theorem round_nonneg {q : K} (hq : 0 ≤ q) : 0 ≤ F.round q := by
  have h := le_round_of_le (F := F) (q := q) (m := 0) le_rfl (by
    rw [Int.cast_zero, zero_mul]
    exact hq)
  rwa [Int.cast_zero, zero_mul] at h

/-- **The rounding keeps the order.** -/
theorem monotone_round : Monotone (F.round : K → K) := by
  intro q r hqr
  rcases lt_or_ge 0 q with hq | hq
  · exact round_le_round_of_pos hq hqr
  · rcases lt_or_ge r 0 with hr | hr
    · have hneg := round_le_round_of_pos (F := F) (neg_pos.2 hr) (neg_le_neg hqr)
      rw [round_neg, round_neg] at hneg
      exact neg_le_neg_iff.1 hneg
    · have hneg := round_nonneg (F := F) (neg_nonneg.2 hq)
      rw [round_neg, neg_nonneg] at hneg
      exact hneg.trans (round_nonneg hr)

theorem log_lt_of_abs_lt {q : K} (hq : q ≠ 0) {k : ℤ} (h : |q| < 2 ^ k) : Int.log 2 |q| < k :=
  (Int.lt_zpow_iff_log_lt one_lt_two (abs_pos.2 hq)).1 h

/-- **The rounding keeps the numbers of the format.** -/
theorem round_of_representable {q : K} (h : F.Representable q) : F.round q = q := by
  obtain ⟨m, e, hm, he, rfl⟩ := h
  by_cases hzero : (m : K) * 2 ^ e = 0
  · rw [hzero, round_zero]
  · have hlt : |(m : K) * 2 ^ e| < 2 ^ ((F.precision : ℤ) + e) := by
      have hpow : (0 : K) < 2 ^ e := zpow_pos two_pos _
      rw [abs_mul, abs_of_pos hpow, zpow_add₀ two_ne_zero, zpow_natCast]
      exact mul_lt_mul_of_pos_right (by exact_mod_cast hm) hpow
    have hexp : F.exponent ((m : K) * 2 ^ e) ≤ e :=
      max_le he (by have := log_lt_of_abs_lt hzero hlt; omega)
    exact le_antisymm (round_le_of_le hexp le_rfl) (le_round_of_le hexp le_rfl)

/-- A number of the format, with a significand that may be the first one that has no room. -/
theorem round_intCast_mul_zpow {m e : ℤ} (hm : |m| ≤ 2 ^ F.precision) (he : F.minExponent ≤ e) :
    F.round ((m : K) * 2 ^ e) = m * 2 ^ e := by
  rcases hm.lt_or_eq with hlt | heq
  · exact round_of_representable ⟨m, e, hlt, he, rfl⟩
  · have hsign : |m.sign| < (2 : ℤ) ^ F.precision := by
      have hone : (1 : ℤ) < 2 ^ F.precision := one_lt_pow₀ one_lt_two F.precision_pos.ne'
      rcases Int.sign_trichotomy m with h | h | h <;> rw [h] <;> simp [hone]
    refine round_of_representable ⟨m.sign, F.precision + e, hsign, by omega, ?_⟩
    have hm' : (m : K) = m.sign * 2 ^ F.precision := by
      exact_mod_cast (Int.sign_mul_abs m).symm.trans (congrArg _ heq)
    rw [hm', zpow_add₀ two_ne_zero, zpow_natCast, mul_assoc]

/-- The integers that have room are numbers of the format. -/
theorem round_intCast (h : F.minExponent ≤ 0) {n : ℤ} (hn : |n| ≤ 2 ^ F.precision) :
    F.round (n : K) = n := by
  have hround := round_intCast_mul_zpow (K := K) hn h
  rwa [zpow_zero, mul_one] at hround

/-- **The error below a power of two.** -/
theorem abs_round_sub_le_of_lt {q : K} {k : ℤ} (hk : F.minExponent ≤ k)
    (h : |q| < 2 ^ (F.precision + k)) : |F.round q - q| ≤ 2 ^ k / 2 := by
  by_cases hzero : q = 0
  · rw [hzero, round_zero, sub_zero, abs_zero]
    exact (half_pos (zpow_pos two_pos k)).le
  · have hexp : F.exponent q ≤ k :=
      max_le hk (by have := log_lt_of_abs_lt hzero h; omega)
    have hspacing : F.spacing q ≤ 2 ^ k := zpow_le_zpow_right₀ one_le_two hexp
    exact (abs_round_sub_le q).trans (by linarith)

/-! ### Between two neighbours -/

section Midpoint

variable {q : K} {m e : ℤ}

/-- The digits of a number between two neighbours of full length are those of the lower one. -/
theorem exponent_of_between (hm : 2 ^ (F.precision - 1) ≤ m) (hm' : m < 2 ^ F.precision)
    (he : F.minExponent ≤ e) (hlow : m * 2 ^ e ≤ q) (hhigh : q < (m + 1) * 2 ^ e) :
    F.exponent q = e := by
  have hpow : (0 : K) < 2 ^ e := zpow_pos two_pos _
  have hprecision := F.precision_pos
  have hbelow : (2 : K) ^ ((F.precision : ℤ) - 1 + e) ≤ q := by
    refine le_trans ?_ hlow
    rw [zpow_add₀ two_ne_zero, ← Int.natCast_pred_of_pos hprecision, zpow_natCast]
    exact mul_le_mul_of_nonneg_right (by exact_mod_cast hm) hpow.le
  have habove : q < (2 : K) ^ ((F.precision : ℤ) + e) := by
    refine hhigh.trans_le ?_
    rw [zpow_add₀ two_ne_zero, zpow_natCast]
    exact mul_le_mul_of_nonneg_right (by exact_mod_cast hm') hpow.le
  have hq : 0 < q := (zpow_pos two_pos _).trans_le hbelow
  have hlog : (F.precision : ℤ) - 1 + e ≤ Int.log 2 q :=
    (Int.zpow_le_iff_le_log one_lt_two hq).1 (by exact_mod_cast hbelow)
  have hlog' : Int.log 2 q < F.precision + e :=
    (Int.lt_zpow_iff_log_lt one_lt_two hq).1 (by exact_mod_cast habove)
  rw [exponent, abs_of_pos hq]
  omega

/-- **Below the middle** of two neighbours a number is rounded to the lower one, at most. -/
theorem round_le_of_lt_midpoint (hm : 2 ^ (F.precision - 1) ≤ m) (hm' : m < 2 ^ F.precision)
    (he : F.minExponent ≤ e) (h : q < (m + 1 / 2) * 2 ^ e) : F.round q ≤ m * 2 ^ e := by
  have hpow : (0 : K) < 2 ^ e := zpow_pos two_pos _
  rcases le_or_gt q (m * 2 ^ e) with hq | hq
  · refine (monotone_round hq).trans_eq (round_intCast_mul_zpow ?_ he)
    rw [abs_of_nonneg (le_trans (by positivity) hm)]
    exact hm'.le
  · have hhigh : q < (m + 1) * 2 ^ e :=
      h.trans (mul_lt_mul_of_pos_right (by linarith [one_half_lt_one (α := K)]) hpow)
    have hspacing : F.spacing q = 2 ^ e := by
      rw [spacing, exponent_of_between hm hm' he hq.le hhigh]
    have hle : nearestEven (q / 2 ^ e) ≤ m := nearestEven_le_of_lt ((div_lt_iff₀ hpow).2 h)
    rw [round, hspacing]
    exact mul_le_mul_of_nonneg_right (by exact_mod_cast hle) hpow.le

/-- **Above the middle** of two neighbours a number is rounded to the upper one, at least. -/
theorem le_round_of_midpoint_lt (hm : 2 ^ (F.precision - 1) ≤ m) (hm' : m < 2 ^ F.precision)
    (he : F.minExponent ≤ e) (h : (m + 1 / 2) * 2 ^ e < q) : (m + 1) * 2 ^ e ≤ F.round q := by
  have hpow : (0 : K) < 2 ^ e := zpow_pos two_pos _
  have hnonneg : 0 ≤ m := le_trans (by positivity) hm
  rcases lt_or_ge q ((m + 1) * 2 ^ e) with hq | hq
  · have hlow : m * 2 ^ e ≤ q :=
      ((mul_lt_mul_of_pos_right (by linarith [one_half_pos (α := K)]) hpow).trans h).le
    have hspacing : F.spacing q = 2 ^ e := by rw [spacing, exponent_of_between hm hm' he hlow hq]
    have hlt : m < nearestEven (q / 2 ^ e) := lt_nearestEven_of_lt ((lt_div_iff₀ hpow).2 h)
    rw [round, hspacing]
    exact mul_le_mul_of_nonneg_right (by exact_mod_cast hlt) hpow.le
  · have hup : F.round (((m + 1 : ℤ) : K) * 2 ^ e) = ((m + 1 : ℤ) : K) * 2 ^ e :=
      round_intCast_mul_zpow (by rw [abs_of_nonneg (by omega)]; exact hm') he
    push_cast at hup
    exact hup.symm.trans_le (monotone_round hq)

end Midpoint

end Format

end FloatingPoint
