import DisplayBridge.Lib.Bits
import DisplayBridge.Lib.H265

/-!
# The bit writer of the sender

The bit stream writer of `encoder.c` and the escaping of what it wrote: a buffer
zeroed at the start, a byte position and a bit position, and writes that OR one
bit after the other into the buffer.

The writer is a sequence of updates in place, but all it ever does is append.
This is one equation: a writer that has written the bits `l` *is*
`DisplayBridge.Bitstream.ofBits`, and each operation takes the writer that has
written `l` to the one that has written `l` and the code of the element
(`DisplayBridge.bsWrite_ofBits`, `DisplayBridge.bsWriteUe_ofBits`,
`DisplayBridge.bsWriteSe_ofBits`). Everything a header function writes is
computed by rewriting with these, and read back by the lemmas of `Bits`.

The last two steps of every header function are the trailing bits and the
escaping; `DisplayBridge.toBits_unescape_finish` says what a decoder sees of
them.
-/

namespace DisplayBridge

open Bits

/-- `bitstream_t`. -/
structure Bitstream where
  buf : List UInt8
  capacity : ℕ
  bytePos : ℕ
  bitPos : ℕ
deriving DecidableEq

/-! ### Writing -/

/-- `bs_init`. -/
def bsInit (capacity : ℕ) : Bitstream := ⟨List.replicate capacity 0, capacity, 0, 0⟩

/-- The body of the loop of `bs_write`. -/
def Bitstream.put (bs : Bitstream) (bit : ℕ) : Bitstream :=
  let buf := bs.buf.modify bs.bytePos (· ||| UInt8.ofNat (bit <<< (7 - bs.bitPos)))
  if bs.bitPos + 1 = 8 then ⟨buf, bs.capacity, bs.bytePos + 1, 0⟩
  else ⟨buf, bs.capacity, bs.bytePos, bs.bitPos + 1⟩

/-- `bs_write`, from bit `n - 1` of the value down to bit 0. -/
def bsWrite (bs : Bitstream) (value : UInt32) : ℕ → Bitstream
  | 0 => bs
  -- most significant bit first
  | i + 1 => bsWrite (bs.put (value.toNat >>> i &&& 1)) value i

/-- `bs_write1`. -/
def bsWrite1 (bs : Bitstream) (bit : UInt32) : Bitstream := bsWrite bs (bit &&& 1) 1

/-- The loop of `bs_write_ue` that counts the bits of the value. -/
def countBits (tmp : ℕ) : ℕ := if tmp = 0 then 0 else countBits (tmp >>> 1) + 1
termination_by tmp
decreasing_by
  rw [Nat.shiftRight_one]
  omega

/-- `bs_write_ue`. -/
def bsWriteUe (bs : Bitstream) (value : UInt32) : Bitstream :=
  let v := value + 1
  let bits := countBits v.toNat
  -- one zero less than the value has bits, then the value
  let bs := (List.range (bits - 1)).foldl (fun bs _ => bsWrite1 bs 0) bs
  bsWrite bs v bits

/-- `bs_write_se`. -/
def bsWriteSe (bs : Bitstream) (value : ℤ) : Bitstream :=
  let mapped := if value > 0 then UInt32.ofInt (2 * value - 1) else UInt32.ofInt (-2 * value)
  bsWriteUe bs mapped

/-- The loop of `bs_trailing_bits`, with at most the given number of turns. -/
def padLoop (bs : Bitstream) : ℕ → Bitstream
  | 0 => bs
  | k + 1 => if bs.bitPos ≠ 0 then padLoop (bsWrite1 bs 0) k else bs

/-- `bs_trailing_bits`. Its loop ends within seven turns, because each moves the
bit position up by one (`DisplayBridge.bsTrailingBits_ofBits`). -/
def bsTrailingBits (bs : Bitstream) : Bitstream := padLoop (bsWrite1 bs 1) 7

/-- `bs_bytes_written`. -/
def bsBytesWritten (bs : Bitstream) : ℕ := bs.bytePos + if bs.bitPos > 0 then 1 else 0

/-- The loop of `add_emulation_prevention`, with the number of zero bytes just
written. -/
def escapeFrom (zeros : ℕ) : List UInt8 → List UInt8
  | [] => []
  | b :: bs =>
    -- the inserted byte ends the run of zeros
    if zeros ≥ 2 ∧ b ≤ 0x03 then 0x03 :: b :: escapeFrom (if b = 0x00 then 0 + 1 else 0) bs
    else b :: escapeFrom (if b = 0x00 then zeros + 1 else 0) bs

/-- `add_emulation_prevention`. -/
def addEmulationPrevention (src : List UInt8) : List UInt8 := escapeFrom 0 src

/-- The end of every header function: trailing bits, and the bytes written so
far, escaped. -/
def finish (bs : Bitstream) : List UInt8 :=
  let bs := bsTrailingBits bs
  let rawLen := bsBytesWritten bs
  addEmulationPrevention (bs.buf.take rawLen)

/-! ### The writer that has written given bits -/

/-- The writer that has written the bits `l`. -/
def Bitstream.ofBits (capacity : ℕ) (l : List Bool) : Bitstream where
  buf := (List.range capacity).map (byteAt l)
  capacity := capacity
  bytePos := l.length / 8
  bitPos := l.length % 8

open Bitstream (ofBits)

theorem bsInit_eq (capacity : ℕ) : bsInit capacity = ofBits capacity [] := by
  have hzero : ∀ i, byteAt [] i = 0 := by
    intro i
    refine UInt8.toNat_inj.1 (Nat.eq_of_testBit_eq fun j => ?_)
    by_cases hj : j < 8
    · rw [testBit_byteAt _ i hj]
      simp
    · rw [UInt8.toNat_zero, Nat.zero_testBit]
      exact Nat.testBit_lt_two_pow (lt_of_lt_of_le (UInt8.toNat_lt _)
        (Nat.pow_le_pow_right (by decide) (by omega)))
  have hbuf : (List.range capacity).map (byteAt []) = List.replicate capacity 0 := by
    refine List.ext_getElem (by simp) ?_
    intro i _ _
    rw [List.getElem_map, List.getElem_replicate, hzero]
  rw [bsInit, ofBits, hbuf]
  rfl

/-- **One bit**: the writer appends it. -/
theorem put_ofBits (capacity : ℕ) (l : List Bool) (b : Bool) :
    (ofBits capacity l).put b.toNat = ofBits capacity (l ++ [b]) := by
  have hbuf : (ofBits capacity l).buf.modify (l.length / 8)
      (· ||| UInt8.ofNat (b.toNat <<< (7 - l.length % 8))) =
      (ofBits capacity (l ++ [b])).buf := by
    refine List.ext_getElem (by simp [ofBits]) ?_
    intro i hi _
    simp only [ofBits, List.getElem_modify, List.getElem_map, List.getElem_range, byteAt_concat]
    by_cases h : i = l.length / 8
    · rw [if_pos h.symm, if_pos h]
    · rw [if_neg (Ne.symm h), if_neg h]
  have hlen : (l ++ [b]).length = l.length + 1 := by simp
  -- the positions are quotient and remainder of the length, before and after
  have hpos : ∀ buf, (if l.length % 8 + 1 = 8 then
      (⟨buf, capacity, l.length / 8 + 1, 0⟩ : Bitstream)
      else ⟨buf, capacity, l.length / 8, l.length % 8 + 1⟩) =
      ⟨buf, capacity, (l ++ [b]).length / 8, (l ++ [b]).length % 8⟩ := by
    intro buf
    rw [hlen]
    split
    · congr 1 <;> omega
    · congr 1 <;> omega
  have := hpos (ofBits capacity (l ++ [b])).buf
  rw [← hbuf] at this
  exact this.trans (by rw [hbuf]; rfl)

/-- **`bs_write`** appends the low bits of the value. -/
theorem bsWrite_ofBits (capacity : ℕ) (l : List Bool) (value : UInt32) (n : ℕ) :
    bsWrite (ofBits capacity l) value n = ofBits capacity (l ++ bitsOf n value.toNat) := by
  induction n generalizing l with
  | zero => rw [bsWrite, bitsOf, List.append_nil]
  | succ n ih =>
    have hbit : value.toNat >>> n &&& 1 = (value.toNat.testBit n).toNat := by
      rw [Nat.toNat_testBit, Nat.and_one_is_mod, Nat.shiftRight_eq_div_pow]
    rw [bsWrite, hbit, put_ofBits, ih, List.append_assoc]
    rfl

theorem bsWrite1_ofBits (capacity : ℕ) (l : List Bool) (bit : UInt32) :
    bsWrite1 (ofBits capacity l) bit = ofBits capacity (l ++ bitsOf 1 bit.toNat) := by
  have hbit : bitsOf 1 (bit &&& 1).toNat = bitsOf 1 bit.toNat := by
    rw [UInt32.toNat_and]
    simp [bitsOf]
  rw [bsWrite1, bsWrite_ofBits, hbit]

/-- A loop that writes single bits appends all of them. -/
theorem foldl_bsWrite1_ofBits {α : Type} (capacity : ℕ) (f : α → UInt32) (as : List α)
    (l : List Bool) :
    as.foldl (fun bs a => bsWrite1 bs (f a)) (ofBits capacity l) =
      ofBits capacity (l ++ as.flatMap fun a => bitsOf 1 (f a).toNat) := by
  induction as generalizing l with
  | nil => simp
  | cons a as ih =>
    rw [List.foldl_cons, bsWrite1_ofBits, ih, List.flatMap_cons, List.append_assoc]

theorem countBits_eq {v : ℕ} (hv : v ≠ 0) : countBits v = v.log2 + 1 := by
  induction v using Nat.strong_induction_on with
  | _ v ih =>
    rw [countBits, if_neg hv, Nat.shiftRight_one, Nat.log2_def]
    by_cases h : 2 ≤ v
    · rw [if_pos h, ih (v / 2) (by omega) (by omega)]
    · rw [if_neg h, show v / 2 = 0 by omega, countBits, if_pos rfl]

/-- **`bs_write_ue`** appends the Exp-Golomb code of every value but the largest
one, for which `value + 1` wraps. -/
theorem bsWriteUe_ofBits (capacity : ℕ) (l : List Bool) {value : UInt32}
    (h : value.toNat + 1 < 2 ^ 32) :
    bsWriteUe (ofBits capacity l) value = ofBits capacity (l ++ ueBits value.toNat) := by
  have hv : (value + 1).toNat = value.toNat + 1 := by
    rw [UInt32.toNat_add]
    exact Nat.mod_eq_of_lt h
  have hzeros : ∀ n, (List.range n).flatMap (fun _ => bitsOf 1 (0 : UInt32).toNat) =
      List.replicate n false := by
    intro n
    induction n with
    | zero => rfl
    | succ n ih =>
      rw [List.range_succ, List.flatMap_append, ih, List.replicate_succ']
      rfl
  rw [bsWriteUe]
  simp only [hv]
  rw [countBits_eq (Nat.succ_ne_zero _), foldl_bsWrite1_ofBits capacity (fun _ => 0), hzeros,
    bsWrite_ofBits, hv, List.append_assoc, Nat.add_sub_cancel]
  rfl

theorem toNat_uint32OfInt (x : ℤ) : (UInt32.ofInt x).toNat = (x % 2 ^ 32).toNat := by
  rw [UInt32.ofInt, UInt32.toNat_ofNat']
  exact Nat.mod_eq_of_lt (by omega)

/-- **`bs_write_se`** appends the signed Exp-Golomb code of every value whose
double fits an `int`. -/
theorem bsWriteSe_ofBits (capacity : ℕ) (l : List Bool) {value : ℤ} (h : value.natAbs < 2 ^ 30) :
    bsWriteSe (ofBits capacity l) value = ofBits capacity (l ++ seBits value) := by
  have hmapped : (if value > 0 then UInt32.ofInt (2 * value - 1)
      else UInt32.ofInt (-2 * value)).toNat = seRank value := by
    unfold seRank
    by_cases hv : 0 < value
    · rw [if_pos hv, if_pos hv, toNat_uint32OfInt, Int.emod_eq_of_lt (by omega) (by omega)]
    · rw [if_neg hv, if_neg hv, toNat_uint32OfInt, Int.emod_eq_of_lt (by omega) (by omega)]
  have hrank : seRank value < 2 ^ 31 := by
    unfold seRank
    split <;> omega
  rw [bsWriteSe, seBits, ← hmapped]
  exact bsWriteUe_ofBits capacity l (by omega)

/-! ### Trailing bits -/

theorem padLoop_ofBits (capacity : ℕ) (k : ℕ) (l : List Bool)
    (h : (l.length + k) % 8 = 0) (hk : k < 8) :
    ∀ turns, k ≤ turns →
      padLoop (ofBits capacity l) turns = ofBits capacity (l ++ List.replicate k false) := by
  induction k generalizing l with
  | zero =>
    intro turns _
    have hpos : (ofBits capacity l).bitPos = 0 := h
    cases turns with
    | zero => rw [padLoop, List.replicate_zero, List.append_nil]
    | succ turns => rw [padLoop, if_neg (not_not.2 hpos), List.replicate_zero, List.append_nil]
  | succ k ih =>
    intro turns hturns
    obtain ⟨turns, rfl⟩ : ∃ t, turns = t + 1 := ⟨turns - 1, by omega⟩
    have hpos : (ofBits capacity l).bitPos ≠ 0 := by
      change l.length % 8 ≠ 0
      omega
    have hlen : (l ++ bitsOf 1 (0 : UInt32).toNat).length = l.length + 1 := by simp
    rw [padLoop, if_pos hpos, bsWrite1_ofBits,
      ih _ (by rw [hlen]; omega) (by omega) turns (by omega), List.append_assoc]
    rfl

/-- **`bs_trailing_bits`** appends the one and the zeros up to the next byte
boundary. -/
theorem bsTrailingBits_ofBits (capacity : ℕ) (l : List Bool) :
    bsTrailingBits (ofBits capacity l) = ofBits capacity (l ++ stopBits l.length) := by
  have hlen : (l ++ bitsOf 1 (1 : UInt32).toNat).length = l.length + 1 := by simp
  rw [bsTrailingBits, bsWrite1_ofBits,
    padLoop_ofBits capacity (7 - l.length % 8) _ (by rw [hlen]; omega) (by omega) 7 (by omega),
    List.append_assoc]
  rfl

theorem length_append_stopBits (l : List Bool) :
    (l ++ stopBits l.length).length = 8 * (l.length / 8 + 1) := by
  rw [List.length_append, length_stopBits]
  omega

/-- After the trailing bits, the bytes written are the bits and the trailing bits. -/
theorem bsBytesWritten_ofBits (capacity : ℕ) (l : List Bool) :
    bsBytesWritten (ofBits capacity (l ++ stopBits l.length)) = l.length / 8 + 1 := by
  have hlen := length_append_stopBits l
  change (l ++ stopBits l.length).length / 8 +
    (if (l ++ stopBits l.length).length % 8 > 0 then 1 else 0) = _
  have hmod : (l ++ stopBits l.length).length % 8 = 0 := by omega
  rw [hmod, hlen, if_neg (lt_irrefl 0)]
  omega

/-- A writer that has written whole bytes has them at the front of its buffer. -/
theorem take_ofBits {capacity k : ℕ} {l : List Bool} (h : l.length = 8 * k) (hk : k ≤ capacity) :
    (ofBits capacity l).buf.take k = pack l := by
  have hcount : (l.length + 7) / 8 = k := by omega
  rw [pack, hcount, ofBits, List.map_take.symm, List.take_range, min_eq_left hk]

/-! ### Escaping -/

theorem unescapeFrom_escapeFrom (zeros : ℕ) (src : List UInt8) :
    H265.unescapeFrom zeros (escapeFrom zeros src) = src := by
  induction src generalizing zeros with
  | nil => rfl
  | cons b src ih =>
    rw [escapeFrom]
    by_cases h : zeros ≥ 2 ∧ b ≤ 0x03
    · rw [if_pos h, H265.unescapeFrom, if_pos ⟨h.1, rfl⟩, H265.unescapeFrom,
        if_neg (fun hb => absurd hb.1 (by decide)), ih]
    · have hb : ¬ (2 ≤ zeros ∧ b = 3) := by
        rintro ⟨hz, rfl⟩
        exact h ⟨hz, by decide⟩
      rw [if_neg h, H265.unescapeFrom, if_neg hb, ih]

/-- **Escaping loses nothing.** -/
theorem unescape_addEmulationPrevention (src : List UInt8) :
    H265.unescape (addEmulationPrevention src) = src :=
  unescapeFrom_escapeFrom 0 src

/-- Escaping at most doubles the length. -/
theorem length_escapeFrom_le (zeros : ℕ) (src : List UInt8) :
    (escapeFrom zeros src).length ≤ 2 * src.length := by
  induction src generalizing zeros with
  | nil => exact le_rfl
  | cons b src ih =>
    rw [escapeFrom]
    split
    · have hrest := ih (if b = 0x00 then 0 + 1 else 0)
      simp only [List.length_cons]
      omega
    · have hrest := ih (if b = 0x00 then zeros + 1 else 0)
      simp only [List.length_cons]
      omega

/-- Escaping keeps the last byte. -/
theorem getLast?_escapeFrom (zeros : ℕ) (src : List UInt8) :
    (escapeFrom zeros src).getLast? = src.getLast? := by
  induction src generalizing zeros with
  | nil => rfl
  | cons b src ih =>
    have hcons : ∀ l : List UInt8, l.getLast? = src.getLast? →
        (b :: l).getLast? = (b :: src).getLast? := by
      intro l hl
      rw [List.getLast?_cons, List.getLast?_cons, hl]
    rw [escapeFrom]
    split
    · rw [List.getLast?_cons_cons]
      exact hcons _ (ih _)
    · exact hcons _ (ih _)

/-- A byte that is no zero does not complete a run of zeros. -/
theorem not_infix_zeros_append {b c : UInt8} {l : List UInt8} {zeros : ℕ} (hzeros : zeros ≤ 2)
    (hb : b ≠ 0) (hbc : zeros = 2 → b ≠ c) (h : ¬ [0, 0, c] <:+: l) :
    ¬ [0, 0, c] <:+: List.replicate zeros 0 ++ b :: l := by
  have h₀ : ¬ [0, 0, c] <:+: b :: l := by
    rw [List.infix_cons_iff, List.cons_prefix_cons]
    rintro (⟨hbad, -⟩ | hbad)
    · exact hb hbad.symm
    · exact h hbad
  have h₁ : ¬ [0, 0, c] <:+: 0 :: b :: l := by
    rw [List.infix_cons_iff, List.cons_prefix_cons, List.cons_prefix_cons]
    rintro (⟨-, hbad, -⟩ | hbad)
    · exact hb hbad.symm
    · exact h₀ hbad
  have h₂ : b ≠ c → ¬ [0, 0, c] <:+: 0 :: 0 :: b :: l := by
    intro hbc
    rw [List.infix_cons_iff, List.cons_prefix_cons, List.cons_prefix_cons, List.cons_prefix_cons]
    rintro (⟨-, -, hbad, -⟩ | hbad)
    · exact hbc hbad.symm
    · exact h₁ hbad
  rcases Nat.lt_or_ge zeros 1 with hzero | hpos
  · obtain rfl : zeros = 0 := by omega
    exact h₀
  · rcases Nat.lt_or_ge zeros 2 with hone | htwo
    · obtain rfl : zeros = 1 := by omega
      exact h₁
    · obtain rfl : zeros = 2 := by omega
      exact h₂ (hbc rfl)

/-- **An escaped sequence has no two zeros before a byte below 3**, not even with the
zeros that were written before it. -/
theorem not_infix_escapeFrom {c : UInt8} (hc : c < 3) (zeros : ℕ) (hzeros : zeros ≤ 2)
    (src : List UInt8) : ¬ [0, 0, c] <:+: List.replicate zeros 0 ++ escapeFrom zeros src := by
  induction src generalizing zeros with
  | nil =>
    intro h
    have hlen := h.length_le
    rw [escapeFrom, List.append_nil, List.length_replicate] at hlen
    simp only [List.length_cons, List.length_nil] at hlen
    omega
  | cons b src ih =>
    rw [escapeFrom]
    by_cases hescape : zeros ≥ 2 ∧ b ≤ 0x03
    · -- the byte that is put in breaks the run
      have hrest : ¬ [0, 0, c] <:+: b :: escapeFrom (if b = 0x00 then 0 + 1 else 0) src := by
        by_cases hb : b = 0
        · rw [if_pos hb, hb]
          exact ih 1 (by omega)
        · rw [if_neg hb]
          exact not_infix_zeros_append (Nat.zero_le 2) hb (by omega) (ih 0 (Nat.zero_le 2))
      have hthree : (3 : UInt8) ≠ c := (UInt8.ne_of_lt hc).symm
      rw [if_pos hescape]
      exact not_infix_zeros_append hzeros (by decide) (fun _ => hthree) hrest
    · rw [if_neg hescape]
      by_cases hb : b = 0
      · -- one zero more, and there are not two yet
        have hone : zeros < 2 := by
          by_contra hno
          exact hescape ⟨by omega, hb ▸ by decide⟩
        have hrun : List.replicate zeros 0 ++ b :: escapeFrom (zeros + 1) src =
            List.replicate (zeros + 1) 0 ++ escapeFrom (zeros + 1) src := by
          rw [hb, List.replicate_succ', List.append_assoc]
          rfl
        rw [if_pos hb, hrun]
        exact ih (zeros + 1) (by omega)
      · have hbc : zeros = 2 → b ≠ c := by
          rintro hz rfl
          exact hescape ⟨hz.ge, UInt8.le_of_lt hc⟩
        rw [if_neg hb]
        exact not_infix_zeros_append hzeros hb hbc (ih 0 (Nat.zero_le 2))

/-- **Emulation prevention is effective, and can be undone**: no two zeros stand before a
byte below 3, and a decoder that drops what was put in has the bytes back. -/
theorem emulationPrevention_invertible (src : List UInt8) :
    (∀ c : UInt8, c < 3 → ¬ [0, 0, c] <:+: addEmulationPrevention src) ∧
      H265.unescape (addEmulationPrevention src) = src := by
  refine ⟨fun c hc => ?_, unescape_addEmulationPrevention src⟩
  exact not_infix_escapeFrom hc 0 (Nat.zero_le 2) src

/-! ### What a header function returns -/

/-- The bytes of a header before they are escaped: its bits, and the trailing bits. -/
def rbsp (l : List Bool) : List UInt8 := pack (l ++ stopBits l.length)

theorem toBits_rbsp (l : List Bool) : toBits (rbsp l) = l ++ stopBits l.length := by
  refine toBits_pack ?_
  rw [length_append_stopBits]
  omega

theorem length_rbsp (l : List Bool) : (rbsp l).length = l.length / 8 + 1 := by
  rw [rbsp, pack, List.length_map, List.length_range, length_append_stopBits]
  omega

/-- **The last byte is not zero**, because the stop bit is in it. -/
theorem getLast?_rbsp (l : List Bool) : (rbsp l).getLast? ≠ some 0 := by
  intro h
  obtain ⟨init, hinit⟩ := List.getLast?_eq_some_iff.1 h
  have hbits : l ++ stopBits l.length = toBits init ++ List.replicate 8 false := by
    rw [← toBits_rbsp, hinit, toBits, List.flatMap_append]
    rfl
  have hlen : l.length + (8 - l.length % 8) = (toBits init).length + 8 := by
    have := congrArg List.length hbits
    rwa [List.length_append, length_stopBits, List.length_append, List.length_replicate] at this
  -- the stop bit stands behind the bits, and in the last byte
  have hstop : (l ++ stopBits l.length)[l.length]? = some true := by
    rw [List.getElem?_append_right le_rfl, Nat.sub_self]
    rfl
  rw [hbits, List.getElem?_append_right (by omega), List.getElem?_replicate] at hstop
  split at hstop
  · cases hstop
  · cases hstop

/-- **What a header function returns**: the bytes of its bits, escaped – when they fit
the buffer. -/
theorem finish_ofBits {capacity : ℕ} {l : List Bool} (h : l.length < 8 * capacity) :
    finish (ofBits capacity l) = addEmulationPrevention (rbsp l) := by
  have htake : (ofBits capacity (l ++ stopBits l.length)).buf.take (l.length / 8 + 1) = rbsp l :=
    take_ofBits (length_append_stopBits l) (by omega)
  rw [finish, bsTrailingBits_ofBits, bsBytesWritten_ofBits, htake]

/-- **What a decoder sees of a header**: the bits written, and the trailing bits. -/
theorem toBits_unescape_finish {capacity : ℕ} {l : List Bool} (h : l.length < 8 * capacity) :
    toBits (H265.unescape (finish (ofBits capacity l))) = l ++ stopBits l.length := by
  rw [finish_ofBits h, unescape_addEmulationPrevention, toBits_rbsp]

end DisplayBridge
