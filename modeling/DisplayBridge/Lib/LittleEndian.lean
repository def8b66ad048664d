import Mathlib.Tactic.Ring
import Mathlib.Tactic.NormNum

/-!
# Little-endian byte strings

A natural number cut into a fixed number of bytes, least significant first, and
put together again. Everything a packed wire format says about a multi-byte
field is said with these two maps: `LittleEndian.bytes` drops what does not fit,
`LittleEndian.value` never does, and reading gives back what was written if it
fitted (`LittleEndian.value_bytes_of_lt`).
-/

namespace LittleEndian

/-- The `w` little-endian bytes of a number; what does not fit is dropped. -/
def bytes : ℕ → ℕ → List UInt8
  | 0, _ => []
  | w + 1, n => UInt8.ofNat (n % 256) :: bytes w (n / 256)

/-- The number a little-endian byte string spells. -/
def value : List UInt8 → ℕ
  | [] => 0
  | b :: bs => b.toNat + 256 * value bs

@[simp] theorem bytes_zero (n : ℕ) : bytes 0 n = [] := rfl

@[simp] theorem bytes_succ (w n : ℕ) :
    bytes (w + 1) n = UInt8.ofNat (n % 256) :: bytes w (n / 256) := rfl

@[simp] theorem value_nil : value [] = 0 := rfl

@[simp] theorem value_cons (b : UInt8) (bs : List UInt8) :
    value (b :: bs) = b.toNat + 256 * value bs := rfl

@[simp] theorem length_bytes (w n : ℕ) : (bytes w n).length = w := by
  induction w generalizing n with
  | zero => rfl
  | succ w ih => simp [ih]

/-- Reading back what was written gives the number modulo the width. -/
theorem value_bytes (w n : ℕ) : value (bytes w n) = n % 256 ^ w := by
  induction w generalizing n with
  | zero => simp [Nat.mod_one]
  | succ w ih =>
    have hb : (UInt8.ofNat (n % 256)).toNat = n % 256 := by
      rw [UInt8.toNat_ofNat']
      omega
    rw [bytes_succ, value_cons, hb, ih, pow_succ', Nat.mod_mul]

/-- **A number that fits is read back as it was written.** -/
theorem value_bytes_of_lt {w n : ℕ} (h : n < 256 ^ w) : value (bytes w n) = n := by
  rw [value_bytes, Nat.mod_eq_of_lt h]

end LittleEndian
