import Mathlib.Data.List.GetD
import Mathlib.Data.Nat.Bits
import Mathlib.Tactic.Ring

/-!
# Bit strings and the codes of a bit-oriented syntax

A syntax written bit by bit – headers of video streams are – is a list of
elements, each with a code: a fixed number of bits (`Bits.bitsOf`), an unsigned
Exp-Golomb code (`Bits.ueBits`) or a signed one (`Bits.seBits`), all with the
most significant bit first. A decoder is a `Bits.Reader`: it takes bits from the
front of a list and may fail.

For each code there is one lemma, and it has the same shape for all of them: the
reader, run on the code followed by anything, gives the value back and leaves
exactly what followed (`Bits.run_u`, `Bits.run_ue`, `Bits.run_se`). Because
nothing is said about what follows, these lemmas chain, and reading a whole
header back is rewriting with them from left to right.

Bytes come in at the end: `Bits.pack` cuts a bit string into bytes, `Bits.toBits`
spells bytes out, and on whole numbers of bytes the two are inverse
(`Bits.toBits_pack`).
-/

namespace Bits

/-! ### The codes -/

/-- The `n` low bits of `v`, most significant first. -/
def bitsOf : ℕ → ℕ → List Bool
  | 0, _ => []
  | n + 1, v => v.testBit n :: bitsOf n v

@[simp] theorem length_bitsOf (n v : ℕ) : (bitsOf n v).length = n := by
  induction n with
  | zero => rfl
  | succ n ih => rw [bitsOf, List.length_cons, ih]

theorem getElem_bitsOf (n v : ℕ) {k : ℕ} (hk : k < (bitsOf n v).length) :
    (bitsOf n v)[k] = v.testBit (n - 1 - k) := by
  induction n generalizing k with
  | zero => cases hk
  | succ n ih =>
    cases k with
    | zero => rfl
    | succ k =>
      have hk' : k < (bitsOf n v).length := by simpa [bitsOf] using hk
      have hidx : n + 1 - 1 - (k + 1) = n - 1 - k := by omega
      rw [hidx, ← ih hk']
      rfl

/-- The Exp-Golomb code of `v`: as many zeros as `v + 1` has bits after its
first, then `v + 1`. -/
def ueBits (v : ℕ) : List Bool :=
  List.replicate (v + 1).log2 false ++ bitsOf ((v + 1).log2 + 1) (v + 1)

@[simp] theorem length_ueBits (v : ℕ) : (ueBits v).length = 2 * (v + 1).log2 + 1 := by
  simp only [ueBits, List.length_append, List.length_replicate, length_bitsOf]
  ring

/-- The rank of an integer in the order 0, 1, -1, 2, -2, …. -/
def seRank (v : ℤ) : ℕ := if 0 < v then (2 * v - 1).toNat else (-2 * v).toNat

/-- The signed Exp-Golomb code. -/
def seBits (v : ℤ) : List Bool := ueBits (seRank v)

/-! ### Readers -/

/-- A decoder: it takes bits from the front of the list, or fails. -/
abbrev Reader := StateT (List Bool) Option

/-- One bit. -/
def bit : Reader Bool
  | [] => none
  | b :: l => some (b, l)

/-- `n` bits, most significant first. -/
def u : ℕ → Reader ℕ
  | 0 => pure 0
  | n + 1 => do
    let b ← bit
    let v ← u n
    return v + 2 ^ n * b.toNat

/-- Skips zeros and the one that ends them, and counts the zeros. -/
def leadingZeros : Reader ℕ
  | [] => none
  | true :: l => some (0, l)
  | false :: l => (leadingZeros l).map fun p => (p.1 + 1, p.2)

/-- An unsigned Exp-Golomb code. -/
def ue : Reader ℕ := do
  let k ← leadingZeros
  let v ← u k
  return v + 2 ^ k - 1

/-- The integer of a given rank in the order 0, 1, -1, 2, -2, …. -/
def seValue (k : ℕ) : ℤ := if k % 2 = 1 then ((k + 1) / 2 : ℕ) else -((k / 2 : ℕ) : ℤ)

/-- A signed Exp-Golomb code. -/
def se : Reader ℤ := do
  let k ← ue
  return seValue k

/-- An element that is there under a condition only, and is inferred to be `d`
otherwise. -/
def present {α : Type} (c : Prop) [Decidable c] (r : Reader α) (d : α) : Reader α :=
  if c then r else pure d

/-- The same element a number of times. -/
def times {α : Type} (r : Reader α) : ℕ → Reader (List α)
  | 0 => pure []
  | n + 1 => do
    let a ← r
    let as ← times r n
    return a :: as

/-- A bit that must have the given value. -/
def fixed (b : Bool) : Reader Unit
  | [] => none
  | c :: l => if c = b then some ((), l) else none

/-- Zeros, a number of times. -/
def skipZeros : ℕ → Reader Unit
  | 0 => pure ()
  | n + 1 => do
    fixed false
    skipZeros n

/-- The end of a bit-oriented syntax: a one, and zeros up to the next byte
boundary. The bits read are those of a whole number of bytes, so the boundary is
where the number of bits left is a multiple of eight. -/
def stop : Reader Unit := do
  fixed true
  let l ← get
  skipZeros (l.length % 8)

/-- Reads all of the bits, or fails. -/
def readAll {α : Type} (r : Reader α) (l : List Bool) : Option α :=
  match r.run l with
  | some (a, []) => some a
  | _ => none

/-! ### Reading the codes back -/

section Run

variable {α β : Type} (rest : List Bool)

@[simp] theorem run_bit (b : Bool) : bit.run (b :: rest) = some (b, rest) := rfl

theorem run_bind_some {r : Reader α} {f : α → Reader β} {l l' : List Bool} {a : α}
    (h : r.run l = some (a, l')) : (r >>= f).run l = (f a).run l' := by
  rw [StateT.run_bind, h]
  rfl

/-- **Fixed width**: the reader gives the low bits of the value back. -/
theorem run_u (n v : ℕ) : (u n).run (bitsOf n v ++ rest) = some (v % 2 ^ n, rest) := by
  induction n with
  | zero => simp [u, bitsOf, Nat.mod_one]
  | succ n ih =>
    rw [u, bitsOf, List.cons_append, run_bind_some (run_bit _ _), run_bind_some ih,
      Nat.mod_pow_succ, ← Nat.toNat_testBit]
    rfl

theorem run_leadingZeros (k : ℕ) :
    leadingZeros.run (List.replicate k false ++ true :: rest) = some (k, rest) := by
  induction k with
  | zero => rfl
  | succ k ih =>
    have h : leadingZeros.run (List.replicate (k + 1) false ++ true :: rest) =
        (leadingZeros.run (List.replicate k false ++ true :: rest)).map
          fun p => (p.1 + 1, p.2) := rfl
    rw [h, ih]
    rfl

/-- **Unsigned Exp-Golomb**: the reader gives the value back. -/
theorem run_ue (v : ℕ) : ue.run (ueBits v ++ rest) = some (v, rest) := by
  have hpos : v + 1 ≠ 0 := Nat.succ_ne_zero v
  have hlow : 2 ^ (v + 1).log2 ≤ v + 1 := Nat.log2_self_le hpos
  have hhigh : v + 1 < 2 ^ ((v + 1).log2 + 1) := Nat.lt_log2_self
  rw [ueBits, bitsOf, Nat.testBit_log2 hpos, List.append_assoc, ue, List.cons_append,
    run_bind_some (run_leadingZeros _ _), run_bind_some (run_u rest _ _)]
  -- what is left after the leading one is the rest of `v + 1`
  have hmod : (v + 1) % 2 ^ (v + 1).log2 = v + 1 - 2 ^ (v + 1).log2 := by
    rw [Nat.pow_succ] at hhigh
    rw [Nat.mod_eq_sub_mod hlow, Nat.mod_eq_of_lt (by omega)]
  have hval : (v + 1) % 2 ^ (v + 1).log2 + 2 ^ (v + 1).log2 - 1 = v := by omega
  rw [hval]
  rfl

theorem seValue_seRank (v : ℤ) : seValue (seRank v) = v := by
  unfold seValue seRank
  by_cases h : 0 < v
  · rw [if_pos h, if_pos (by omega)]
    omega
  · rw [if_neg h, if_neg (by omega)]
    omega

/-- **Signed Exp-Golomb**: the reader gives the value back. -/
theorem run_se (v : ℤ) : se.run (seBits v ++ rest) = some (v, rest) := by
  rw [seBits, se, run_bind_some (run_ue rest _), seValue_seRank]
  rfl

@[simp] theorem run_fixed_self (b : Bool) : (fixed b).run (b :: rest) = some ((), rest) :=
  if_pos rfl

theorem run_skipZeros (k : ℕ) :
    (skipZeros k).run (List.replicate k false ++ rest) = some ((), rest) := by
  induction k with
  | zero => rfl
  | succ k ih =>
    rw [skipZeros, List.replicate_succ, List.cons_append, run_bind_some (run_fixed_self _ _), ih]

end Run

/-! ### The end of a syntax -/

/-- What ends a bit string of `n` bits. -/
def stopBits (n : ℕ) : List Bool := true :: List.replicate (7 - n % 8) false

@[simp] theorem length_stopBits (n : ℕ) : (stopBits n).length = 8 - n % 8 := by
  rw [stopBits, List.length_cons, List.length_replicate]
  omega

/-- **The end is found**: a reader that has consumed everything before the stop
bit ends with what stands behind the last byte. -/
theorem run_stop_append (n : ℕ) (rest : List Bool) (h : rest.length % 8 = 0) :
    stop.run (stopBits n ++ rest) = some ((), rest) := by
  rw [stopBits, List.cons_append, stop, run_bind_some (run_fixed_self _ _)]
  have hget : ∀ l : List Bool, (get : Reader (List Bool)).run l = some (l, l) := fun _ => rfl
  have hlen : (List.replicate (7 - n % 8) false ++ rest).length % 8 = 7 - n % 8 := by
    rw [List.length_append, List.length_replicate]
    omega
  rw [run_bind_some (hget _), hlen, run_skipZeros]

theorem run_stop (n : ℕ) : stop.run (stopBits n) = some ((), []) := by
  have h := run_stop_append n [] rfl
  rwa [List.append_nil] at h

/-! ### Reading one element of many

The same facts in the form in which they chain: the reader of one element,
followed by the rest of the reader. -/

section Bind

variable {α β : Type} (rest : List Bool)

theorem run_u_bind (n v : ℕ) (f : ℕ → Reader α) :
    (u n >>= f).run (bitsOf n v ++ rest) = (f (v % 2 ^ n)).run rest :=
  run_bind_some (run_u rest n v)

theorem run_ue_bind (v : ℕ) (f : ℕ → Reader α) :
    (ue >>= f).run (ueBits v ++ rest) = (f v).run rest :=
  run_bind_some (run_ue rest v)

theorem run_se_bind (v : ℤ) (f : ℤ → Reader α) :
    (se >>= f).run (seBits v ++ rest) = (f v).run rest :=
  run_bind_some (run_se rest v)

theorem run_stop_bind (n : ℕ) (f : Unit → Reader α) :
    (stop >>= f).run (stopBits n) = (f ()).run [] :=
  run_bind_some (run_stop n)

theorem present_bind_pos {c : Prop} [Decidable c] (h : c) (r : Reader α) (d : α)
    (f : α → Reader β) : present c r d >>= f = r >>= f := by
  rw [present, if_pos h]

theorem present_bind_neg {c : Prop} [Decidable c] (h : ¬ c) (r : Reader α) (d : α)
    (f : α → Reader β) : present c r d >>= f = f d := by
  rw [present, if_neg h, pure_bind]

end Bind

/-! ### Reading everything -/

theorem readAll_eq_some {α : Type} {r : Reader α} {l : List Bool} {a : α} :
    readAll r l = some a ↔ r.run l = some (a, []) := by
  unfold readAll
  constructor
  · intro h
    split at h
    · next a' heq =>
      rw [heq, Option.some_injective _ h]
    · cases h
  · intro h
    rw [h]

theorem readAll_eq_none {α : Type} {r : Reader α} {l : List Bool} (h : r.run l = none) :
    readAll r l = none := by
  unfold readAll
  rw [h]

/-! ### Bytes -/

/-- The byte made of the bits `8 * i`, …, `8 * i + 7`; bits that are not there
are zeros. -/
def byteAt (l : List Bool) (i : ℕ) : UInt8 :=
  UInt8.ofNat (Nat.ofBits fun j : Fin 8 => l.getD (8 * i + (7 - j)) false)

theorem testBit_byteAt (l : List Bool) (i : ℕ) {j : ℕ} (hj : j < 8) :
    (byteAt l i).toNat.testBit j = l.getD (8 * i + (7 - j)) false := by
  have hlt : Nat.ofBits (fun j : Fin 8 => l.getD (8 * i + (7 - j)) false) < 2 ^ 8 :=
    Nat.ofBits_lt_two_pow _
  rw [byteAt, UInt8.toNat_ofNat', Nat.mod_eq_of_lt hlt, Nat.testBit_ofBits_lt _ j hj]

theorem getD_concat (l : List Bool) (b : Bool) (k : ℕ) :
    (l ++ [b]).getD k false =
      if k = l.length then b else l.getD k false := by
  rcases lt_trichotomy k l.length with h | h | h
  · rw [if_neg h.ne, List.getD_append _ _ _ _ h]
  · subst h
    rw [if_pos rfl, List.getD_append_right _ _ _ _ le_rfl, Nat.sub_self]
    rfl
  · rw [if_neg h.ne', List.getD_eq_default _ _ (by simp; omega), List.getD_eq_default _ _ h.le]

/-- One more bit changes one byte, by an OR with that bit in its place. -/
theorem byteAt_concat (l : List Bool) (b : Bool) (i : ℕ) :
    byteAt (l ++ [b]) i =
      if i = l.length / 8 then
        byteAt l i ||| UInt8.ofNat (b.toNat <<< (7 - l.length % 8))
      else byteAt l i := by
  refine UInt8.toNat_inj.1 (Nat.eq_of_testBit_eq fun j => ?_)
  by_cases hj : j < 8
  · rw [testBit_byteAt _ i hj, getD_concat]
    by_cases hi : i = l.length / 8
    · have hbit : b.toNat <<< (7 - l.length % 8) < 2 ^ 8 := by
        rw [Nat.shiftLeft_eq]
        calc b.toNat * 2 ^ (7 - l.length % 8)
            ≤ 1 * 2 ^ 7 := Nat.mul_le_mul (Bool.toNat_le b)
              (Nat.pow_le_pow_right (by decide) (Nat.sub_le _ _))
          _ < 2 ^ 8 := by decide
      rw [if_pos hi, UInt8.toNat_or, Nat.testBit_or, testBit_byteAt _ i hj, UInt8.toNat_ofNat',
        Nat.mod_eq_of_lt hbit, Nat.testBit_shiftLeft]
      -- the new bit is the first one behind the old ones
      by_cases hk : 8 * i + (7 - j) = l.length
      · rw [if_pos hk, hk, List.getD_eq_default _ _ le_rfl, Bool.false_or]
        have h₀ : j - (7 - l.length % 8) = 0 := by omega
        have h₁ : 7 - l.length % 8 ≤ j := by omega
        rw [h₀]
        cases b <;> simp [h₁]
      · rw [if_neg hk]
        by_cases h₁ : 7 - l.length % 8 ≤ j
        · have h₂ : j - (7 - l.length % 8) ≠ 0 := by omega
          have h₃ : b.toNat.testBit (j - (7 - l.length % 8)) = false := by
            refine Nat.testBit_lt_two_pow (lt_of_lt_of_le (Bool.toNat_lt b) ?_)
            exact Nat.le_self_pow h₂ 2
          rw [h₃, Bool.and_false, Bool.or_false]
        · rw [decide_eq_false h₁, Bool.false_and, Bool.or_false]
    · rw [if_neg hi, if_neg (by omega), testBit_byteAt _ i hj]
  · have hbig : 2 ^ 8 ≤ 2 ^ j := Nat.pow_le_pow_right (by decide) (by omega)
    rw [Nat.testBit_lt_two_pow (lt_of_lt_of_le (UInt8.toNat_lt _) hbig),
      Nat.testBit_lt_two_pow (lt_of_lt_of_le (UInt8.toNat_lt _) hbig)]

/-- A bit string as bytes, the last one filled with zeros. -/
def pack (l : List Bool) : List UInt8 := (List.range ((l.length + 7) / 8)).map (byteAt l)

/-- The bits of bytes. -/
def toBits (bytes : List UInt8) : List Bool := bytes.flatMap fun b => bitsOf 8 b.toNat

theorem toBits_append (a b : List UInt8) : toBits (a ++ b) = toBits a ++ toBits b :=
  List.flatMap_append

/-- Bytes have eight bits. -/
theorem length_toBits (bytes : List UInt8) : (toBits bytes).length = 8 * bytes.length := by
  induction bytes with
  | nil => rfl
  | cons b bytes ih =>
    rw [toBits, List.flatMap_cons, ← toBits, List.length_append, length_bitsOf, ih,
      List.length_cons]
    ring

theorem bitsOf_byteAt_zero (l : List Bool) (h : 8 ≤ l.length) :
    bitsOf 8 (byteAt l 0).toNat = l.take 8 := by
  refine List.ext_getElem (by simp [h]) ?_
  intro k hk _
  have hk8 : k < 8 := by simpa using hk
  have hidx : 8 * 0 + (7 - (8 - 1 - k)) = k := by omega
  rw [getElem_bitsOf, testBit_byteAt l 0 (by omega), hidx, List.getElem_take,
    List.getD_eq_getElem _ _ (by omega)]

theorem byteAt_drop (l : List Bool) (i : ℕ) : byteAt (l.drop 8) i = byteAt l (i + 1) := by
  have h : ∀ j : Fin 8, (l.drop 8).getD (8 * i + (7 - j)) false =
      l.getD (8 * (i + 1) + (7 - j)) false := by
    intro j
    rw [List.getD_eq_getElem?_getD, List.getD_eq_getElem?_getD, List.getElem?_drop]
    congr 2
    ring
  simp only [byteAt, h]

/-- **Packing loses nothing** on a whole number of bytes. -/
theorem toBits_pack {l : List Bool} (h : l.length % 8 = 0) : toBits (pack l) = l := by
  obtain ⟨n, hn⟩ : ∃ n, l.length = 8 * n := ⟨l.length / 8, by omega⟩
  induction n generalizing l with
  | zero =>
    rw [List.length_eq_zero_iff.1 (by omega : l.length = 0)]
    rfl
  | succ n ih =>
    have hdrop : (l.drop 8).length = 8 * n := by
      rw [List.length_drop]
      omega
    have hpack : pack l = byteAt l 0 :: pack (l.drop 8) := by
      have h₁ : (l.length + 7) / 8 = n + 1 := by omega
      have h₂ : ((l.drop 8).length + 7) / 8 = n := by omega
      rw [pack, pack, h₁, h₂, List.range_succ_eq_map, List.map_cons, List.map_map]
      congr 1
      exact List.map_congr_left fun i _ => (byteAt_drop l i).symm
    calc toBits (pack l)
        = bitsOf 8 (byteAt l 0).toNat ++ toBits (pack (l.drop 8)) := by
          rw [hpack, toBits, List.flatMap_cons, ← toBits]
      _ = l.take 8 ++ l.drop 8 := by
          rw [bitsOf_byteAt_zero l (by omega), ih (by omega) hdrop]
      _ = l := List.take_append_drop 8 l

end Bits
