import DisplayBridge.Lib.AnnexB
import DisplayBridge.Lib.LittleEndian
import Mathlib.Data.List.Infix

/-!
# Two ways to keep units apart

A file or a network connection carries bytes, and what is to be carried are units of
several bytes each. There are two formats for a video: the byte stream format, where
a start code stands before each unit (`AnnexB.byteStream`), and the format of the
file containers, where its length does (`LengthPrefix.join`).

A length says where its unit ends, whatever the unit contains. A start code does not:
a unit must not look like the beginning of the next one, and it must not end in a
zero, which the longer start code would take away from it. These are the conditions
`AnnexB.Clean`, and under them the stream is cut back into its units
(`AnnexB.chunks_byteStream`). That the lengths give them back is
`LengthPrefix.split_join`.

A writer of start codes may put any number of zeros before each of them. One zero can
belong to the start code, and what is left of the others stays with the unit before
it (`AnnexB.chunks_paddedStream`).
-/

namespace AnnexB

/-! ### Start codes -/

/-- The two start codes. -/
def code : Bool → List UInt8
  | true => [0, 0, 0, 1]
  | false => [0, 0, 1]

/-- The units, each behind a start code of its own choice. -/
def byteStream (units : List (Bool × List UInt8)) : List UInt8 :=
  units.flatMap fun unit => code unit.1 ++ unit.2

/-- Bytes that a stream can carry as one unit. -/
structure Clean (bs : List UInt8) : Prop where
  noZeros : ¬ [0, 0, 0] <:+: bs
  noCode : ¬ [0, 0, 1] <:+: bs
  last : bs.getLast? ≠ some 0

instance (bs : List UInt8) : Decidable (Clean bs) :=
  decidable_of_iff (¬ [0, 0, 0] <:+: bs ∧ ¬ [0, 0, 1] <:+: bs ∧ bs.getLast? ≠ some 0)
    ⟨fun h => ⟨h.1, h.2.1, h.2.2⟩, fun h => ⟨h.noZeros, h.noCode, h.last⟩⟩

variable {b : UInt8} {bs : List UInt8} {n : ℕ}

/-- Both start codes begin with two zeros, and go on with a zero or a one. -/
theorem exists_of_startCode (h : startCode bs = some n) :
    ∃ c r, bs = 0 :: 0 :: c :: r ∧ (c = 0 ∨ c = 1) := by
  unfold startCode at h
  split at h
  · next r => exact ⟨0, 1 :: r, rfl, .inl rfl⟩
  · next r => exact ⟨1, r, rfl, .inr rfl⟩
  · cases h

theorem Clean.tail (h : Clean (b :: bs)) : Clean bs := by
  have hsuffix : bs <:+: b :: bs := (List.suffix_cons b bs).isInfix
  refine ⟨fun hz => h.noZeros (hz.trans hsuffix), fun hc => h.noCode (hc.trans hsuffix), ?_⟩
  cases bs with
  | nil => exact (Option.some_ne_none 0).symm
  | cons c bs =>
    rw [← List.getLast?_cons_cons (a := b)]
    exact h.last

/-- A byte that is no zero can be put before a clean unit. -/
theorem Clean.cons (hb : b ≠ 0) (h : Clean bs) : Clean (b :: bs) := by
  have hpart : ∀ c, ¬ [0, 0, c] <:+: bs → ¬ [0, 0, c] <:+: b :: bs := by
    intro c hc
    rw [List.infix_cons_iff, List.cons_prefix_cons]
    rintro (⟨hbad, -⟩ | hbad)
    · exact hb hbad.symm
    · exact hc hbad
  refine ⟨hpart 0 h.noZeros, hpart 1 h.noCode, ?_⟩
  cases bs with
  | nil => exact fun hlast => hb (Option.some.inj hlast)
  | cons c bs =>
    rw [List.getLast?_cons_cons]
    exact h.last

/-- **No start code begins inside a clean unit**, whatever stands behind it. -/
theorem Clean.startCode_append (h : Clean (b :: bs)) (rest : List UInt8) :
    startCode (b :: bs ++ rest) = none := by
  refine Option.eq_none_iff_forall_ne_some.2 fun n hn => ?_
  obtain ⟨c, r, heq, hc⟩ := exists_of_startCode hn
  obtain ⟨rfl, heq₁⟩ := List.cons.inj heq
  -- neither of the two zeros is the last byte, so all three bytes are in the unit
  cases bs with
  | nil => exact h.last rfl
  | cons b₁ bs =>
    obtain ⟨rfl, heq₂⟩ := List.cons.inj heq₁
    cases bs with
    | nil => exact h.last rfl
    | cons b₂ l =>
      obtain ⟨rfl, -⟩ := List.cons.inj heq₂
      have hpart : [0, 0, b₂] <:+: 0 :: 0 :: b₂ :: l := (List.prefix_append [0, 0, b₂] l).isInfix
      rcases hc with rfl | rfl
      · exact h.noZeros hpart
      · exact h.noCode hpart

/-- A clean unit is cut off as a whole. -/
theorem Clean.chunks_append (h : Clean bs) (rest : List UInt8) :
    chunks (bs ++ rest) = (bs ++ (chunks rest).1, (chunks rest).2) := by
  induction bs with
  | nil => rfl
  | cons b bs ih =>
    have hnone : startCode (b :: (bs ++ rest)) = none := h.startCode_append rest
    rw [List.cons_append, chunks_cons hnone, ih h.tail]
    rfl

theorem chunks_code_append (long : Bool) (rest : List UInt8) :
    chunks (code long ++ rest) = ([], (chunks rest).1 :: (chunks rest).2) := by
  cases long with
  | true => exact chunks_of_startCode (n := 4) rfl
  | false => exact chunks_of_startCode (n := 3) rfl

/-- **A stream of clean units is cut back into them**, whichever start codes were
chosen. -/
theorem chunks_byteStream {units : List (Bool × List UInt8)} (h : ∀ unit ∈ units, Clean unit.2) :
    chunks (byteStream units) = ([], units.map Prod.snd) := by
  induction units with
  | nil => rfl
  | cons unit units ih =>
    have hunit : Clean unit.2 := h unit List.mem_cons_self
    have hrest := ih fun u hu => h u (List.mem_cons_of_mem _ hu)
    have hcons : byteStream (unit :: units) = code unit.1 ++ (unit.2 ++ byteStream units) := by
      rw [byteStream, List.flatMap_cons, List.append_assoc]
      rfl
    rw [hcons, chunks_code_append, hunit.chunks_append, hrest, List.append_nil, List.map_cons]

/-- A start code has three bytes at least. -/
theorem length_code (long : Bool) : 3 ≤ (code long).length := by
  cases long with
  | true => exact Nat.le_succ 3
  | false => exact le_rfl

/-! ### Padding -/

/-- The zeros before a start code that are read as a part of it: the first one makes
the shorter start code the longer one. -/
def slack : Bool → ℕ
  | true => 0
  | false => 1

/-- A unit with the start code before it, and some zeros before that. -/
structure Padded where
  zeros : ℕ
  long : Bool
  unit : List UInt8
deriving DecidableEq, Repr

/-- The unit without the padding. -/
def Padded.plain (u : Padded) : Bool × List UInt8 := (u.long, u.unit)

/-- Units with zeros before their start codes, and zeros at the end. -/
def paddedStream : List Padded → ℕ → List UInt8
  | [], trailing => List.replicate trailing 0
  | u :: us, trailing =>
    List.replicate u.zeros 0 ++ (code u.long ++ (u.unit ++ paddedStream us trailing))

/-- The zeros a padded stream begins with and no start code takes. -/
def surplus : List Padded → ℕ → ℕ
  | [], trailing => trailing
  | u :: _, _ => u.zeros - slack u.long

/-- The units, each with the zeros behind it that no start code takes. -/
def paddedUnits : List Padded → ℕ → List (List UInt8)
  | [], _ => []
  | u :: us, trailing =>
    (u.unit ++ List.replicate (surplus us trailing) 0) :: paddedUnits us trailing

variable {us : List Padded} {trailing : ℕ}

/-- A zero with three more behind it is left out of every start code. -/
theorem startCode_zero_cons (z : ℕ) (bs : List UInt8) :
    startCode (0 :: (List.replicate z 0 ++ 0 :: 0 :: 0 :: bs)) = none := by
  rcases z with _ | _ | _ | z <;> rfl

/-- Zeros before a start code are left over, except for those the code takes. -/
theorem chunks_zeros_code (z : ℕ) (long : Bool) (rest : List UInt8) :
    chunks (List.replicate z 0 ++ (code long ++ rest)) =
      (List.replicate (z - slack long) 0, (chunks rest).1 :: (chunks rest).2) := by
  have hlong : ∀ z, chunks (List.replicate z 0 ++ (code true ++ rest)) =
      (List.replicate z 0, (chunks rest).1 :: (chunks rest).2) := by
    intro z
    induction z with
    | zero => exact chunks_code_append true rest
    | succ z ih =>
      have hnone : startCode (0 :: (List.replicate z 0 ++ (code true ++ rest))) = none :=
        startCode_zero_cons z (1 :: rest)
      rw [List.replicate_succ, List.cons_append, chunks_cons hnone, ih]
  cases long with
  | true => exact hlong z
  | false =>
    cases z with
    | zero => exact chunks_code_append false rest
    | succ z =>
      -- the last of the zeros makes the start code the longer one
      have hcode : List.replicate (z + 1) 0 ++ (code false ++ rest) =
          List.replicate z 0 ++ (code true ++ rest) := by
        rw [List.replicate_succ', List.append_assoc]
        rfl
      rw [hcode, hlong z]
      rfl

/-- Without a start code behind them, zeros are left over. -/
theorem chunks_replicate_zero (z : ℕ) : chunks (List.replicate z 0) = (List.replicate z 0, []) := by
  induction z with
  | zero => rfl
  | succ z ih =>
    have hnone : startCode (0 :: List.replicate z 0) = none := by
      rcases z with _ | _ | _ | z <;> rfl
    rw [List.replicate_succ, chunks_cons hnone, ih]

/-- **A padded stream is cut into its units**, but each keeps the zeros behind it that
no start code takes. -/
theorem chunks_paddedStream (h : ∀ u ∈ us, Clean u.unit) :
    chunks (paddedStream us trailing) =
      (List.replicate (surplus us trailing) 0, paddedUnits us trailing) := by
  induction us with
  | nil => exact chunks_replicate_zero trailing
  | cons u us ih =>
    have hunit : Clean u.unit := h u List.mem_cons_self
    have hrest := ih fun v hv => h v (List.mem_cons_of_mem _ hv)
    rw [paddedStream, chunks_zeros_code, hunit.chunks_append, hrest]
    rfl

/-- Padding does not make a stream shorter. -/
theorem length_byteStream_le (us : List Padded) (trailing : ℕ) :
    (byteStream (us.map Padded.plain)).length ≤ (paddedStream us trailing).length := by
  induction us with
  | nil => exact Nat.zero_le _
  | cons u us ih =>
    have hcons : byteStream ((u :: us).map Padded.plain) =
        code u.long ++ (u.unit ++ byteStream (us.map Padded.plain)) := by
      rw [byteStream, List.map_cons, List.flatMap_cons, List.append_assoc]
      rfl
    rw [hcons, paddedStream]
    simp only [List.length_append, List.length_replicate]
    omega

/-- **The padding is left out of the units exactly if** none of it is at the end, and
before every start code but the first there is no more of it than the code takes. -/
theorem paddedUnits_eq_iff :
    paddedUnits us trailing = us.map Padded.unit ↔
      us = [] ∨ (∀ u ∈ us.tail, u.zeros ≤ slack u.long) ∧ trailing = 0 := by
  induction us with
  | nil => exact iff_of_true rfl (.inl rfl)
  | cons u us ih =>
    have hzeros : u.unit ++ List.replicate (surplus us trailing) 0 = u.unit ↔
        surplus us trailing = 0 := by
      rw [List.append_right_eq_self, List.replicate_eq_nil_iff]
    rw [paddedUnits, List.map_cons, List.cons_eq_cons, hzeros, ih, List.tail_cons]
    cases us with
    | nil => simp [surplus]
    | cons v us => simp [surplus, Nat.sub_eq_zero_iff_le, and_assoc]

end AnnexB

/-! ### Lengths -/

namespace LengthPrefix

/-- A unit behind its length, of `w` bytes and most significant byte first. -/
def frame (w : ℕ) (unit : List UInt8) : List UInt8 :=
  (LittleEndian.bytes w unit.length).reverse ++ unit

/-- The units, each behind its length. -/
def join (w : ℕ) (units : List (List UInt8)) : List UInt8 := units.flatMap (frame w)

/-- Reads the units back: a length, and as many bytes as it says. -/
def split (w : ℕ) (bs : List UInt8) : Option (List (List UInt8)) :=
  if bs = [] then some []
  else if 0 < w ∧ w ≤ bs.length then
    let length := LittleEndian.value (bs.take w).reverse
    let rest := bs.drop w
    if length ≤ rest.length then (split w (rest.drop length)).map (rest.take length :: ·)
    else none
  else none
termination_by bs.length
decreasing_by
  rw [List.length_drop, List.length_drop]
  omega

variable {w : ℕ} {unit : List UInt8}

theorem length_frame (w : ℕ) (unit : List UInt8) : (frame w unit).length = w + unit.length := by
  rw [frame, List.length_append, List.length_reverse, LittleEndian.length_bytes]

/-- One unit is read off. -/
theorem split_frame_append (hw : 0 < w) (h : unit.length < 256 ^ w) (rest : List UInt8) :
    split w (frame w unit ++ rest) = (split w rest).map (unit :: ·) := by
  have hlen : ((LittleEndian.bytes w unit.length).reverse).length = w := by
    rw [List.length_reverse, LittleEndian.length_bytes]
  have hframe : frame w unit ++ rest =
      (LittleEndian.bytes w unit.length).reverse ++ (unit ++ rest) := List.append_assoc _ _ _
  have htake : (frame w unit ++ rest).take w = (LittleEndian.bytes w unit.length).reverse := by
    rw [hframe, List.take_left' hlen]
  have hdrop : (frame w unit ++ rest).drop w = unit ++ rest := by rw [hframe, List.drop_left' hlen]
  have hlong : w ≤ (frame w unit ++ rest).length := by
    rw [List.length_append, length_frame]
    omega
  have hne : frame w unit ++ rest ≠ [] := List.ne_nil_of_length_pos (by omega)
  have hfits : unit.length ≤ (unit ++ rest).length := by
    rw [List.length_append]
    exact Nat.le_add_right _ _
  rw [split, if_neg hne, if_pos ⟨hw, hlong⟩]
  simp only [htake, hdrop, List.reverse_reverse, LittleEndian.value_bytes_of_lt h, if_pos hfits,
    List.take_left, List.drop_left]

/-- **The lengths give the units back.** -/
theorem split_join (hw : 0 < w) {units : List (List UInt8)}
    (h : ∀ unit ∈ units, unit.length < 256 ^ w) : split w (join w units) = some units := by
  induction units with
  | nil =>
    rw [join, List.flatMap_nil, split]
    exact if_pos rfl
  | cons unit units ih =>
    have hrest := ih fun u hu => h u (List.mem_cons_of_mem _ hu)
    rw [join] at hrest ⊢
    rw [List.flatMap_cons, split_frame_append hw (h unit List.mem_cons_self), hrest]
    rfl

end LengthPrefix
