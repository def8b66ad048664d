import Mathlib.Data.Rat.Floor
import DisplayBridge.Lib.FloatingPoint
import DisplayBridge.Lib.LittleEndian

/-!
# The trapping part of Swift

A Swift program stops the process when a subscript is out of range, when an
integer conversion does not fit its target, when fixed-width arithmetic
overflows, or when a `nil` is force-unwrapped. A model that silently reads a
default there cannot say that a program never traps. So everything that can trap
is a computation in `Swift.Traps`, where `none` is the trap, and the
conversions, the arithmetic of `Int` and the accesses to `Data` below return
into it.

## What is modelled

* `Swift.exactly` – the range check behind every integer conversion, and the
  conversions and the arithmetic of `Int` made from it;
* `Swift.truncate` – the rounding towards zero a conversion from a floating
  point number makes first. A `Double` is the rational number it stands for;
* `Swift.divDouble`, `Swift.subDouble`, `Swift.mulDouble` – the arithmetic of
  `Double`, which rounds. It has no infinity: a result that is too large for the
  format stays finite, and lies outside the range of every conversion as an
  infinity does;
* `Swift.FixedWidthInteger` – the integer types that have a bit pattern of a
  whole number of bytes;
* `Swift.addIndex`, `Swift.subscript`, `Swift.slice` – walking over an array;
* `Swift.Data` – a byte buffer *with a start index*: the slice `dropFirst`
  returns keeps the indices of the buffer it was cut from, so its subscripts do
  not start at zero.
-/

namespace Swift

/-- A computation that may stop the process: `none` is the trap. -/
abbrev Traps (α : Type) : Type := Option α

/-- **A loop traps exactly if a turn does**, in the state it finds. -/
theorem foldlM_ne_none_iff {σ α : Type} {f : σ → α → Traps σ} {s : σ} {l : List α} :
    l.foldlM f s ≠ none ↔
      ∀ pre a post s', l = pre ++ a :: post → pre.foldlM f s = some s' → f s' a ≠ none := by
  induction l generalizing s with
  | nil => exact iff_of_true (Option.some_ne_none s) fun pre a post s' h => absurd h.symm (by simp)
  | cons b l ih =>
    rw [List.foldlM_cons]
    cases hb : f s b with
    | none =>
      refine iff_of_false (fun h => h rfl) fun h => ?_
      exact h [] b l s rfl rfl hb
    | some s₁ =>
      rw [Option.bind_eq_bind, Option.bind_some, ih]
      constructor
      · rintro h (_ | ⟨c, pre⟩) a post s' heq hs'
        · obtain ⟨rfl, rfl⟩ := List.cons.inj heq
          obtain rfl : s = s' := Option.some.inj hs'
          rw [hb]
          exact Option.some_ne_none _
        · obtain ⟨rfl, rfl⟩ := List.cons.inj heq
          rw [List.foldlM_cons, hb] at hs'
          exact h pre a post s' rfl hs'
      · intro h pre a post s' heq hs'
        refine h (b :: pre) a post s' (congrArg (b :: ·) heq) ?_
        rw [List.foldlM_cons, hb]
        exact hs'

/-! ### Integers -/

/-- The conversion to an integer type with the given range. -/
def exactly (lo hi x : ℤ) : Traps ℤ := if lo ≤ x ∧ x ≤ hi then some x else none

/-- A value of the 64-bit type `Int`. -/
def toInt (x : ℤ) : Traps ℤ := exactly (-2 ^ 63) (2 ^ 63 - 1) x

/-- The sum of two values of type `Int`. -/
def addInt (x y : ℤ) : Traps ℤ := toInt (x + y)

/-- The difference of two values of type `Int`. -/
def subInt (x y : ℤ) : Traps ℤ := toInt (x - y)

theorem exactly_of_mem {lo hi x : ℤ} (h : lo ≤ x ∧ x ≤ hi) : exactly lo hi x = some x :=
  if_pos h

theorem exactly_eq_some_iff {lo hi x y : ℤ} :
    exactly lo hi x = some y ↔ (lo ≤ x ∧ x ≤ hi) ∧ x = y := by
  by_cases h : lo ≤ x ∧ x ≤ hi
  · rw [exactly, if_pos h, Option.some_inj]
    exact (and_iff_right h).symm
  · rw [exactly, if_neg h]
    exact iff_of_false (Option.some_ne_none y).symm fun hboth => h hboth.1

theorem mem_of_exactly {lo hi x y : ℤ} (h : exactly lo hi x = some y) : lo ≤ x ∧ x ≤ hi :=
  (exactly_eq_some_iff.1 h).1

theorem isSome_exactly_iff {lo hi x : ℤ} : (exactly lo hi x).isSome ↔ lo ≤ x ∧ x ≤ hi := by
  constructor
  · intro h
    obtain ⟨y, hy⟩ := Option.isSome_iff_exists.1 h
    exact mem_of_exactly hy
  · intro h
    rw [exactly_of_mem h]
    rfl

theorem toInt_of_mem {x : ℤ} (h1 : -2 ^ 63 ≤ x) (h2 : x < 2 ^ 63) : toInt x = some x :=
  exactly_of_mem ⟨h1, by omega⟩

theorem addInt_of_mem {x y : ℤ} (h1 : -2 ^ 63 ≤ x + y) (h2 : x + y < 2 ^ 63) :
    addInt x y = some (x + y) :=
  toInt_of_mem h1 h2

theorem subInt_of_mem {x y : ℤ} (h1 : -2 ^ 63 ≤ x - y) (h2 : x - y < 2 ^ 63) :
    subInt x y = some (x - y) :=
  toInt_of_mem h1 h2

/-! ### Floating point -/

/-- The `Double` nearest to a number. -/
def double (q : ℚ) : ℚ := FloatingPoint.binary64.round q

/-- The quotient of two values of type `Double`. -/
def divDouble (x y : ℚ) : ℚ := double (x / y)

/-- The difference of two values of type `Double`. -/
def subDouble (x y : ℚ) : ℚ := double (x - y)

/-- The product of two values of type `Double`. -/
def mulDouble (x y : ℚ) : ℚ := double (x * y)

theorem monotone_double : Monotone double := FloatingPoint.Format.monotone_round

theorem double_neg (q : ℚ) : double (-q) = -double q := FloatingPoint.Format.round_neg q

/-- **The integers up to `2 ^ 53` are values of type `Double`.** -/
theorem double_intCast {n : ℤ} (h : |n| ≤ 2 ^ 53) : double n = n :=
  FloatingPoint.Format.round_intCast (F := FloatingPoint.binary64) (by decide) h

/-- So are their products with powers of two. -/
theorem double_mul_zpow {m e : ℤ} (hm : |m| < 2 ^ 53) (he : -1074 ≤ e) :
    double (m * 2 ^ e) = m * 2 ^ e :=
  FloatingPoint.Format.round_of_representable (F := FloatingPoint.binary64) ⟨m, e, hm, he, rfl⟩

theorem le_double {q : ℚ} {n : ℤ} (hn : |n| ≤ 2 ^ 53) (h : n ≤ q) : n ≤ double q :=
  (double_intCast hn).symm.trans_le (monotone_double h)

theorem double_le {q : ℚ} {n : ℤ} (hn : |n| ≤ 2 ^ 53) (h : q ≤ n) : double q ≤ n :=
  (monotone_double h).trans_eq (double_intCast hn)

/-- A number between two integers that are values of type `Double` is rounded to one between
the two. -/
theorem double_mem {q : ℚ} {lo hi : ℤ} (hlo : |lo| ≤ 2 ^ 53) (hhi : |hi| ≤ 2 ^ 53)
    (h : lo ≤ q ∧ q ≤ hi) : lo ≤ double q ∧ double q ≤ hi :=
  ⟨le_double hlo h.1, double_le hhi h.2⟩

/-- **The error of a rounding**, below a power of two. -/
theorem abs_double_sub_le {q : ℚ} {k : ℤ} (hk : -1074 ≤ k) (h : |q| < 2 ^ (53 + k)) :
    |double q - q| ≤ 2 ^ k / 2 :=
  FloatingPoint.Format.abs_round_sub_le_of_lt (F := FloatingPoint.binary64) hk h

/-- Below the middle of two neighbours a number is rounded to the lower one, at most. -/
theorem double_le_of_lt_midpoint {q : ℚ} {m e : ℤ} (hm : 2 ^ 52 ≤ m ∧ m < 2 ^ 53)
    (he : -1074 ≤ e) (h : q < (m + 1 / 2) * 2 ^ e) : double q ≤ m * 2 ^ e :=
  FloatingPoint.Format.round_le_of_lt_midpoint (F := FloatingPoint.binary64) hm.1 hm.2 he h

/-- Above the middle it is rounded to the upper one, at least. -/
theorem le_double_of_midpoint_lt {q : ℚ} {m e : ℤ} (hm : 2 ^ 52 ≤ m ∧ m < 2 ^ 53)
    (he : -1074 ≤ e) (h : (m + 1 / 2) * 2 ^ e < q) : (m + 1) * 2 ^ e ≤ double q :=
  FloatingPoint.Format.le_round_of_midpoint_lt (F := FloatingPoint.binary64) hm.1 hm.2 he h

/-- Rounding towards zero. -/
def truncate (q : ℚ) : ℤ := q.num.tdiv q.den

/-- On the nonnegative numbers, rounding towards zero is the floor. -/
theorem truncate_of_nonneg {q : ℚ} (h : 0 ≤ q) : truncate q = ⌊q⌋ := by
  have hnum : 0 ≤ q.num := Rat.num_nonneg.mpr h
  rw [truncate, Int.tdiv_eq_ediv_of_nonneg hnum, Rat.floor_def']

theorem truncate_neg (q : ℚ) : truncate (-q) = -truncate q := by
  rw [truncate, truncate, Rat.neg_num, Rat.neg_den, Int.neg_tdiv]

/-- What is rounded towards zero is below a positive bound exactly if the number is. -/
theorem truncate_lt_iff {q : ℚ} {n : ℤ} (hn : 0 < n) : truncate q < n ↔ q < n := by
  have hn' : (0 : ℚ) < n := by exact_mod_cast hn
  rcases le_or_gt 0 q with hq | hq
  · rw [truncate_of_nonneg hq, Int.floor_lt]
  · have hle : truncate q ≤ 0 := by
      rw [← neg_nonneg, ← truncate_neg, truncate_of_nonneg (by linarith)]
      exact Int.floor_nonneg.2 (by linarith)
    exact iff_of_true (hle.trans_lt hn) (hq.trans hn')

/-- It is not below a bound that is not positive from just above the next one on. -/
theorem le_truncate_iff {q : ℚ} {n : ℤ} (hn : n ≤ 0) : n ≤ truncate q ↔ (n : ℚ) - 1 < q := by
  have hflip : n ≤ truncate q ↔ truncate (-q) < 1 - n := by
    rw [truncate_neg]
    omega
  rw [hflip, truncate_lt_iff (by omega), Int.cast_sub, Int.cast_one, neg_lt, neg_sub]

/-- The conversion `UInt32(x)` of a floating point number. -/
def uint32OfDouble (q : ℚ) : Traps UInt32 :=
  (exactly 0 (2 ^ 32 - 1) (truncate q)).map fun x => UInt32.ofNat x.toNat

/-- **A number becomes a `UInt32` exactly if it is above `-1` and below `2 ^ 32`.** -/
theorem isSome_uint32OfDouble_iff {q : ℚ} :
    (uint32OfDouble q).isSome ↔ -1 < q ∧ q < 2 ^ 32 := by
  have hlo : -1 < q ↔ ((0 : ℤ) : ℚ) - 1 < q := by norm_num
  have hhi : q < 2 ^ 32 ↔ q < (2 ^ 32 : ℤ) := by norm_num
  rw [uint32OfDouble, Option.isSome_map, isSome_exactly_iff, hlo, hhi,
    ← le_truncate_iff le_rfl, ← truncate_lt_iff (by norm_num), Int.le_sub_one_iff]

theorem uint32OfDouble_eq_none {q : ℚ} (h : q ≤ -1 ∨ 2 ^ 32 ≤ q) : uint32OfDouble q = none := by
  rw [← Option.not_isSome_iff_eq_none, isSome_uint32OfDouble_iff]
  rintro ⟨hlo, hhi⟩
  rcases h with h | h
  · exact h.not_gt hlo
  · exact h.not_gt hhi

/-- What a number that is not negative becomes. -/
theorem uint32OfDouble_eq_some {q : ℚ} {v : UInt32} (h : uint32OfDouble q = some v) (hq : 0 ≤ q) :
    v = UInt32.ofNat ⌊q⌋.toNat := by
  obtain ⟨x, hx, rfl⟩ := Option.map_eq_some_iff.1 h
  rw [← truncate_of_nonneg hq, (exactly_eq_some_iff.1 hx).2]

/-- The conversion `Int16(x)` of a floating point number. -/
def int16OfDouble (q : ℚ) : Traps Int16 :=
  (exactly (-2 ^ 15) (2 ^ 15 - 1) (truncate q)).map Int16.ofInt

theorem toInt_of_int16OfDouble {q : ℚ} {v : Int16} (h : int16OfDouble q = some v) :
    v.toInt = truncate q := by
  obtain ⟨n, hn, rfl⟩ := Option.map_eq_some_iff.1 h
  obtain ⟨⟨hlo, hhi⟩, rfl⟩ := exactly_eq_some_iff.1 hn
  exact Int16.toInt_ofInt_of_le hlo (by omega)

/-- **A number that is not negative becomes zero exactly below one.** -/
theorem int16OfDouble_eq_zero_iff {q : ℚ} {v : Int16} (h : int16OfDouble q = some v)
    (hq : 0 ≤ q) : v = 0 ↔ q < 1 := by
  have hnonneg : 0 ≤ v.toInt := by
    rw [toInt_of_int16OfDouble h, truncate_of_nonneg hq]
    exact Int.floor_nonneg.2 hq
  have hone : q < 1 ↔ v.toInt < 1 := by
    rw [toInt_of_int16OfDouble h, truncate_lt_iff one_pos, Int.cast_one]
  rw [hone, ← Int16.toInt_inj, Int16.toInt_zero]
  omega

/-- The conversion `Int(x)` of a floating point number. -/
def intOfDouble (q : ℚ) : Traps ℤ := toInt (truncate q)

/-- **A number becomes an `Int` exactly if it is above `-2 ^ 63 - 1` and below `2 ^ 63`.** -/
theorem isSome_intOfDouble_iff {q : ℚ} :
    (intOfDouble q).isSome ↔ -2 ^ 63 - 1 < q ∧ q < 2 ^ 63 := by
  have hlo : -2 ^ 63 - 1 < q ↔ ((-2 ^ 63 : ℤ) : ℚ) - 1 < q := by norm_num
  have hhi : q < 2 ^ 63 ↔ q < (2 ^ 63 : ℤ) := by norm_num
  rw [intOfDouble, toInt, isSome_exactly_iff, hlo, hhi, ← le_truncate_iff (by norm_num),
    ← truncate_lt_iff (by norm_num), Int.le_sub_one_iff]

/-- A number is rounded below `2 ^ 63` exactly below the middle of it and its neighbour. -/
theorem double_lt_two_pow_iff {q : ℚ} : double q < 2 ^ 63 ↔ q < 2 ^ 63 - 512 := by
  constructor
  · contrapose!
    intro h
    have hmid : double (2 ^ 63 - 512) = 2 ^ 63 := by decide +kernel
    exact hmid.symm.trans_le (monotone_double h)
  · intro h
    have hlast : ((2 ^ 53 - 1 : ℤ) : ℚ) * 2 ^ (10 : ℤ) < 2 ^ 63 := by norm_num
    have hmid : q < ((2 ^ 53 - 1 : ℤ) + 1 / 2 : ℚ) * 2 ^ (10 : ℤ) := by
      norm_num at h ⊢
      exact h
    exact (double_le_of_lt_midpoint (by norm_num) (by norm_num) hmid).trans_lt hlast

/-- It is rounded above `-2 ^ 63 - 1` exactly if it is rounded to `-2 ^ 63` at least. -/
theorem neg_two_pow_sub_one_lt_double_iff {q : ℚ} :
    -2 ^ 63 - 1 < double q ↔ -2 ^ 63 - 1024 ≤ q := by
  constructor
  · contrapose!
    intro h
    have hnext : ((2 ^ 52 : ℤ) + 1 : ℚ) * 2 ^ (11 : ℤ) > 2 ^ 63 + 1 := by norm_num
    have hmid : ((2 ^ 52 : ℤ) + 1 / 2 : ℚ) * 2 ^ (11 : ℤ) < -q := by
      norm_num at h ⊢
      linarith
    have hfar := le_double_of_midpoint_lt (by norm_num) (by norm_num) hmid
    rw [double_neg] at hfar
    linarith
  · intro h
    have hmid : double (-2 ^ 63 - 1024) = -2 ^ 63 := by decide +kernel
    have hle := monotone_double h
    rw [hmid] at hle
    linarith

/-- **A rounded number becomes an `Int`** exactly if it is closer to the range of `Int` than to
the values of type `Double` outside. -/
theorem isSome_intOfDouble_double_iff {q : ℚ} :
    (intOfDouble (double q)).isSome ↔ -2 ^ 63 - 1024 ≤ q ∧ q < 2 ^ 63 - 512 := by
  rw [isSome_intOfDouble_iff, double_lt_two_pow_iff, neg_two_pow_sub_one_lt_double_iff]

theorem intOfDouble_eq_some {q : ℚ} {n : ℤ} (h : intOfDouble q = some n) : n = truncate q :=
  (exactly_eq_some_iff.1 h).2.symm

/-- The conversion `Int16(x)` of a `UInt16`. -/
def int16OfUInt16 (x : UInt16) : Traps Int16 :=
  (exactly (-2 ^ 15) (2 ^ 15 - 1) x.toNat).map Int16.ofInt

/-- The conversion `UInt32(x)` of an `Int`. -/
def uint32OfInt (x : ℤ) : Traps UInt32 :=
  (exactly 0 (2 ^ 32 - 1) x).map fun x => UInt32.ofNat x.toNat

theorem uint32OfInt_natCast {n : ℕ} (h : n < 2 ^ 32) : uint32OfInt n = some (UInt32.ofNat n) := by
  rw [uint32OfInt, exactly_of_mem ⟨by omega, by omega⟩, Option.map_some, Int.toNat_natCast]

/-- The conversion `Int64(x)` of a `UInt64`. -/
def int64OfUInt64 (x : UInt64) : Traps ℤ := exactly (-2 ^ 63) (2 ^ 63 - 1) x.toNat

/-- The conversion `Int16(clamping: x)`, which cannot trap. -/
def int16Clamping (x : ℤ) : Int16 := Int16.ofInt (max (-2 ^ 15) (min (2 ^ 15 - 1) x))

/-- The addition of two `UInt64`. -/
def addUInt64 (x y : UInt64) : Traps UInt64 :=
  if x.toNat + y.toNat < 2 ^ 64 then some (x + y) else none

/-- **A 64-bit unsigned value is a signed one exactly below the sign bit.** -/
theorem int64OfUInt64_eq_none {x : UInt64} : int64OfUInt64 x = none ↔ 2 ^ 63 ≤ x.toNat := by
  simp only [int64OfUInt64, exactly, ite_eq_right_iff, reduceCtorEq, imp_false]
  omega

/-! ### Fixed-width integers -/

/-- An integer type of a whole number of bytes, seen through its bit pattern. -/
class FixedWidthInteger (T : Type) where
  /-- The number of bytes of a value. -/
  size : ℕ
  /-- The bit pattern of a value, as a natural number. -/
  bitPattern : T → ℕ
  /-- The value with a given bit pattern. -/
  ofBitPattern : ℕ → T
  /-- A value is determined by its bit pattern. -/
  ofBitPattern_bitPattern : ∀ v, ofBitPattern (bitPattern v) = v
  /-- A bit pattern fits the bytes of the type. -/
  bitPattern_lt : ∀ v, bitPattern v < 256 ^ size

instance : FixedWidthInteger UInt16 where
  size := 2
  bitPattern := UInt16.toNat
  ofBitPattern := UInt16.ofNat
  ofBitPattern_bitPattern _ := UInt16.ofNat_toNat
  bitPattern_lt v := v.toNat_lt

instance : FixedWidthInteger UInt32 where
  size := 4
  bitPattern := UInt32.toNat
  ofBitPattern := UInt32.ofNat
  ofBitPattern_bitPattern _ := UInt32.ofNat_toNat
  bitPattern_lt v := v.toNat_lt

instance : FixedWidthInteger UInt64 where
  size := 8
  bitPattern := UInt64.toNat
  ofBitPattern := UInt64.ofNat
  ofBitPattern_bitPattern _ := UInt64.ofNat_toNat
  bitPattern_lt v := v.toNat_lt

instance : FixedWidthInteger Int16 where
  size := 2
  bitPattern v := v.toUInt16.toNat
  ofBitPattern n := (UInt16.ofNat n).toInt16
  ofBitPattern_bitPattern v := by rw [UInt16.ofNat_toNat, Int16.toInt16_toUInt16]
  bitPattern_lt v := v.toUInt16.toNat_lt

/-- The bytes of a value in memory, on a little-endian machine. -/
def leBytes {T : Type} [FixedWidthInteger T] (v : T) : List UInt8 :=
  LittleEndian.bytes (FixedWidthInteger.size T) (FixedWidthInteger.bitPattern v)

/-- The value whose bytes are given. -/
def ofLEBytes (T : Type) [FixedWidthInteger T] (bs : List UInt8) : T :=
  FixedWidthInteger.ofBitPattern (LittleEndian.value bs)

/-- **The bytes of a value spell it.** -/
@[simp] theorem ofLEBytes_leBytes {T : Type} [FixedWidthInteger T] (v : T) :
    ofLEBytes T (leBytes v) = v := by
  rw [ofLEBytes, leBytes, LittleEndian.value_bytes_of_lt (FixedWidthInteger.bitPattern_lt v),
    FixedWidthInteger.ofBitPattern_bitPattern]

@[simp] theorem length_leBytes {T : Type} [FixedWidthInteger T] (v : T) :
    (leBytes v).length = FixedWidthInteger.size T :=
  LittleEndian.length_bytes _ _

/-! ### Arrays -/

/-- The sum of two values of type `Int` that are not negative. -/
def addIndex (i k : ℕ) : Traps ℕ := (addInt i k).map Int.toNat

/-- The operator `&&`, which looks at its second operand only if the first is true. -/
def and (a b : Traps Bool) : Traps Bool := do if ← a then b else return false

/-- The subscript `xs[i]` of an array. -/
def subscript {α : Type} (xs : List α) (i : ℕ) : Traps α := xs[i]?

/-- The slice `xs[lo ..< hi]` of an array. -/
def slice {α : Type} (xs : List α) (lo hi : ℕ) : Traps (List α) :=
  if lo ≤ hi ∧ hi ≤ xs.length then some ((xs.drop lo).take (hi - lo)) else none

/-- The forced `baseAddress` of some bytes; there is none without bytes. -/
def baseAddress (bs : List UInt8) : Traps Unit := if bs = [] then none else some ()

theorem addIndex_of_lt {i k : ℕ} (h : i + k < 2 ^ 63) : addIndex i k = some (i + k) := by
  rw [addIndex, addInt_of_mem (by omega) (by omega), Option.map_some, ← Int.natCast_add,
    Int.toNat_natCast]

theorem baseAddress_of_ne_nil {bs : List UInt8} (h : bs ≠ []) : baseAddress bs = some () :=
  if_neg h

/-! ### Byte buffers -/

/-- A byte buffer, whose indices run from `startIndex`. -/
structure Data where
  startIndex : ℕ
  bytes : List UInt8
deriving DecidableEq, Repr

namespace Data

variable (d : Data)

/-- The number of bytes. -/
def count : ℕ := d.bytes.length

/-- The index past the last byte. -/
def endIndex : ℕ := d.startIndex + d.count

/-- `Data(bytes)`: a fresh buffer, indexed from zero. -/
def ofBytes (bs : List UInt8) : Data := ⟨0, bs⟩

/-- `Data(count: n)`: a fresh buffer of zero bytes. -/
def zeros (n : ℕ) : Data := ofBytes (List.replicate n 0)

/-- The subscript `d[i]`. -/
def byteAt (i : ℕ) : Traps UInt8 :=
  if d.startIndex ≤ i then d.bytes[i - d.startIndex]? else none

/-- The assignment `d[i] = b`. -/
def set (i : ℕ) (b : UInt8) : Traps Data :=
  if d.startIndex ≤ i ∧ i < d.endIndex then
    some { d with bytes := d.bytes.set (i - d.startIndex) b }
  else none

/-- `d.dropFirst(k)`: a slice of the same storage, with its indices. -/
def dropFirst (k : ℕ) : Data := ⟨d.startIndex + min k d.count, d.bytes.drop k⟩

/-- `d.copyBytes(to:from: lo ..< hi)`: the bytes of an index range. -/
def copyBytes (lo hi : ℕ) : Traps (List UInt8) :=
  if d.startIndex ≤ lo ∧ lo ≤ hi ∧ hi ≤ d.endIndex then
    some ((d.bytes.drop (lo - d.startIndex)).take (hi - lo))
  else none

/-- `d.append(other)`. -/
def append (other : Data) : Data := { d with bytes := d.bytes ++ other.bytes }

@[simp] theorem count_dropFirst (k : ℕ) : (d.dropFirst k).count = d.count - k := by
  simp [dropFirst, count]

/-- **A subscript counted from the start index** reads the byte at that
offset, wherever the indices start. -/
theorem byteAt_startIndex_add (i : ℕ) : d.byteAt (d.startIndex + i) = d.bytes[i]? := by
  simp [byteAt]

/-- **A range counted from the start index** copies the bytes at those offsets. -/
theorem copyBytes_startIndex_add {i n : ℕ} (h : i + n ≤ d.count) :
    d.copyBytes (d.startIndex + i) (d.startIndex + i + n) = some ((d.bytes.drop i).take n) := by
  have hcond : d.startIndex ≤ d.startIndex + i ∧ d.startIndex + i ≤ d.startIndex + i + n ∧
      d.startIndex + i + n ≤ d.endIndex := by
    rw [endIndex]
    omega
  rw [copyBytes, if_pos hcond]
  congr 3 <;> omega

end Data

end Swift
