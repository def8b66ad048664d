import Mathlib.Data.List.Basic
import Mathlib.Data.Nat.Basic
import Mathlib.Order.Basic

/-!
# Byte streams cut by start codes

In the byte stream format of Annex B of H.265, the units of a stream are kept apart
by start codes, `00 00 01` or `00 00 00 01`. Read from the left, a stream is cut
wherever a start code begins, and the longer one is taken where both could be
(`AnnexB.startCode`). What this leaves – the bytes before the first start code, and
those behind each of them – is `AnnexB.chunks`; where the start codes are is
`AnnexB.marks`.

Both are read off the stream byte by byte, without an index. A parser that walks
over a buffer finds the marks first and cuts the buffer afterwards, and the chunks
are what it gets (`AnnexB.cuts_marks`). Put together again, the start codes and the
chunks are the buffer (`AnnexB.take_stop_append_glue`), and no chunk has a start code
left in it (`AnnexB.not_infix_chunks`).
-/

namespace AnnexB

/-- The length of the start code a stream begins with. -/
def startCode : List UInt8 → Option ℕ
  | 0 :: 0 :: 0 :: 1 :: _ => some 4
  | 0 :: 0 :: 1 :: _ => some 3
  | _ => none

/-- The bytes before the first start code, and those behind each of them. -/
def chunks : List UInt8 → List UInt8 × List (List UInt8)
  | 0 :: 0 :: 0 :: 1 :: bs => ([], (chunks bs).1 :: (chunks bs).2)
  | 0 :: 0 :: 1 :: bs => ([], (chunks bs).1 :: (chunks bs).2)
  | b :: bs => (b :: (chunks bs).1, (chunks bs).2)
  | [] => ([], [])

/-- A start code: where it is, and where what is behind it starts. -/
structure Mark where
  offset : ℕ
  start : ℕ
deriving DecidableEq, Repr

/-- The start codes of a stream that is at a place of a buffer. -/
def marks : ℕ → List UInt8 → List Mark
  | i, 0 :: 0 :: 0 :: 1 :: bs => ⟨i, i + 4⟩ :: marks (i + 4) bs
  | i, 0 :: 0 :: 1 :: bs => ⟨i, i + 3⟩ :: marks (i + 3) bs
  | i, _ :: bs => marks (i + 1) bs
  | _, [] => []

variable {b : UInt8} {bs : List UInt8} {n : ℕ}

/-! ### At a start code, and elsewhere -/

/-- A start code is three or four bytes of the stream. -/
theorem startCode_eq_some (h : startCode bs = some n) : 3 ≤ n ∧ n ≤ 4 ∧ n ≤ bs.length := by
  unfold startCode at h
  split at h
  · obtain rfl : 4 = n := Option.some.inj h
    refine ⟨by omega, by omega, ?_⟩
    simp only [List.length_cons]
    omega
  · obtain rfl : 3 = n := Option.some.inj h
    refine ⟨by omega, by omega, ?_⟩
    simp only [List.length_cons]
    omega
  · cases h

theorem chunks_of_startCode (h : startCode bs = some n) :
    chunks bs = ([], (chunks (bs.drop n)).1 :: (chunks (bs.drop n)).2) := by
  unfold startCode at h
  split at h
  · obtain rfl : 4 = n := Option.some.inj h
    rfl
  · obtain rfl : 3 = n := Option.some.inj h
    rfl
  · cases h

theorem chunks_cons (h : startCode (b :: bs) = none) :
    chunks (b :: bs) = (b :: (chunks bs).1, (chunks bs).2) := by
  unfold startCode at h
  split at h
  · cases h
  · cases h
  · next h₄ h₃ =>
    exact chunks.eq_3 b bs (fun l hb hl => h₄ l (by rw [hb, hl]))
      fun l hb hl => h₃ l (by rw [hb, hl])

theorem marks_of_startCode (i : ℕ) (h : startCode bs = some n) :
    marks i bs = ⟨i, i + n⟩ :: marks (i + n) (bs.drop n) := by
  unfold startCode at h
  split at h
  · obtain rfl : 4 = n := Option.some.inj h
    rfl
  · obtain rfl : 3 = n := Option.some.inj h
    rfl
  · cases h

theorem marks_cons (i : ℕ) (h : startCode (b :: bs) = none) :
    marks i (b :: bs) = marks (i + 1) bs := by
  unfold startCode at h
  split at h
  · cases h
  · cases h
  · next h₄ h₃ =>
    exact marks.eq_3 i b bs (fun l hb hl => h₄ l (by rw [hb, hl]))
      fun l hb hl => h₃ l (by rw [hb, hl])

/-- There is no start code in less than three bytes. -/
theorem marks_of_short (i : ℕ) (h : bs.length < 3) : marks i bs = [] := by
  induction bs generalizing i with
  | nil => rfl
  | cons b bs ih =>
    have hcode : startCode (b :: bs) = none := by
      rw [Option.eq_none_iff_forall_ne_some]
      intro n hn
      have := startCode_eq_some hn
      omega
    rw [marks_cons i hcode]
    exact ih (i + 1) (Nat.lt_of_succ_lt h)

/-- **The induction along a stream**: over a start code, or over one byte. -/
theorem induction_on {P : List UInt8 → Prop} (bs : List UInt8) (nil : P [])
    (cut : ∀ bs n, startCode bs = some n → P (bs.drop n) → P bs)
    (skip : ∀ b bs, startCode (b :: bs) = none → P bs → P (b :: bs)) : P bs := by
  induction hlen : bs.length using Nat.strongRecOn generalizing bs with
  | _ k ih =>
    cases hcode : startCode bs with
    | some n =>
      have hn := startCode_eq_some hcode
      refine cut bs n hcode (ih (bs.drop n).length ?_ _ rfl)
      rw [List.length_drop]
      omega
    | none =>
      cases bs with
      | nil => exact nil
      | cons b bs =>
        refine skip b bs hcode (ih bs.length ?_ bs rfl)
        rw [← hlen, List.length_cons]
        exact Nat.lt_succ_self _

/-- No chunk is longer than the stream. -/
theorem length_chunks_le (bs : List UInt8) :
    (chunks bs).1.length ≤ bs.length ∧ ∀ c ∈ (chunks bs).2, c.length ≤ bs.length := by
  induction bs using induction_on with
  | nil => exact ⟨le_rfl, fun c hc => absurd hc List.not_mem_nil⟩
  | cut bs n hcode ih =>
    have hdrop : (bs.drop n).length ≤ bs.length := by
      rw [List.length_drop]
      exact Nat.sub_le _ _
    rw [chunks_of_startCode hcode]
    refine ⟨Nat.zero_le _, fun c hc => ?_⟩
    rcases List.mem_cons.1 hc with rfl | hc
    · exact ih.1.trans hdrop
    · exact (ih.2 c hc).trans hdrop
  | skip b bs hcode ih =>
    rw [chunks_cons hcode]
    refine ⟨Nat.succ_le_succ ih.1, fun c hc => ?_⟩
    exact (ih.2 c hc).trans (Nat.le_succ _)

/-! ### Cutting a buffer -/

/-- Where what is behind a start code ends: at the next one, or with the buffer. -/
def stop (count : ℕ) : List Mark → ℕ
  | [] => count
  | m :: _ => m.offset

/-- The pieces of a buffer behind some start codes. -/
def cuts (buf : List UInt8) : List Mark → List (List UInt8)
  | [] => []
  | m :: ms => (buf.drop m.start).take (stop buf.length ms - m.start) :: cuts buf ms

/-- The start codes are in the buffer. -/
theorem marks_le (i : ℕ) (bs : List UInt8) :
    ∀ m ∈ marks i bs, i ≤ m.offset ∧ m.offset ≤ m.start ∧ m.start ≤ i + bs.length := by
  induction bs using induction_on generalizing i with
  | nil => exact fun m hm => absurd hm List.not_mem_nil
  | cut bs n hcode ih =>
    have hn := startCode_eq_some hcode
    rw [marks_of_startCode i hcode]
    intro m hm
    rcases List.mem_cons.1 hm with rfl | hm
    · dsimp only
      omega
    · have hlater := ih (i + n) m hm
      rw [List.length_drop] at hlater
      omega
  | skip b bs hcode ih =>
    rw [marks_cons i hcode]
    intro m hm
    have hlater := ih (i + 1) m hm
    rw [List.length_cons]
    omega

theorem length_marks_le (i : ℕ) (bs : List UInt8) : (marks i bs).length ≤ bs.length := by
  induction bs using induction_on generalizing i with
  | nil => exact le_rfl
  | cut bs n hcode ih =>
    have hn := startCode_eq_some hcode
    have hrest := ih (i + n)
    rw [List.length_drop] at hrest
    rw [marks_of_startCode i hcode, List.length_cons]
    omega
  | skip b bs hcode ih =>
    rw [marks_cons i hcode]
    exact (ih (i + 1)).trans (Nat.le_succ _)

theorem stop_marks (i : ℕ) (bs : List UInt8) :
    i ≤ stop (i + bs.length) (marks i bs) ∧ stop (i + bs.length) (marks i bs) ≤ i + bs.length := by
  have hmarks := marks_le i bs
  cases hm : marks i bs with
  | nil => exact ⟨Nat.le_add_right _ _, le_rfl⟩
  | cons m ms =>
    have hfirst := hmarks m (hm ▸ List.mem_cons_self)
    exact ⟨hfirst.1, hfirst.2.1.trans hfirst.2.2⟩

theorem length_of_drop {buf : List UInt8} {i : ℕ} (h : buf.drop i = bs) :
    bs.length = buf.length - i := by
  rw [← h, List.length_drop]

/-- Where a stream is at a place of a buffer, what is behind its first byte is at the
next one. -/
theorem drop_of_cons {buf : List UInt8} {i : ℕ} (h : buf.drop i = b :: bs) :
    buf.drop (i + 1) = bs := by
  rw [← List.drop_drop, h, List.drop_one, List.tail_cons]

/-- A byte that is no start code belongs to the piece it stands in. -/
theorem take_stop_cons {buf : List UInt8} {i : ℕ} (h : buf.drop i = b :: bs) :
    (b :: bs).take (stop buf.length (marks (i + 1) bs) - i) =
      b :: bs.take (stop buf.length (marks (i + 1) bs) - (i + 1)) := by
  have hlen : bs.length + 1 = buf.length - i := length_of_drop h
  have hstop := (stop_marks (i + 1) bs).1
  rw [show i + 1 + bs.length = buf.length by omega] at hstop
  rw [show stop buf.length (marks (i + 1) bs) - i =
    stop buf.length (marks (i + 1) bs) - (i + 1) + 1 by omega, List.take_succ_cons]

/-- **Cutting a buffer at its start codes gives the chunks.** -/
theorem cuts_marks {buf : List UInt8} {i : ℕ} {bs : List UInt8} (h : buf.drop i = bs)
    (hi : i ≤ buf.length) :
    (chunks bs).1 = bs.take (stop buf.length (marks i bs) - i) ∧
      (chunks bs).2 = cuts buf (marks i bs) := by
  induction bs using induction_on generalizing i with
  | nil => exact ⟨List.take_nil.symm, rfl⟩
  | cut bs n hcode ih =>
    have hn := startCode_eq_some hcode
    have hlen := length_of_drop h
    have hdrop : buf.drop (i + n) = bs.drop n := by rw [← h, List.drop_drop]
    obtain ⟨hfirst, hrest⟩ := ih hdrop (by omega)
    rw [chunks_of_startCode hcode, marks_of_startCode i hcode]
    constructor
    · rw [stop, Nat.sub_self]
      rfl
    · rw [cuts, hdrop, ← hfirst, ← hrest]
  | skip b bs hcode ih =>
    have hlen : bs.length + 1 = buf.length - i := length_of_drop h
    obtain ⟨hfirst, hrest⟩ := ih (drop_of_cons h) (by omega)
    rw [chunks_cons hcode, marks_cons i hcode]
    refine ⟨?_, hrest⟩
    rw [take_stop_cons h, ← hfirst]

/-! ### Putting a buffer together again -/

/-- The bytes of a start code. -/
def Mark.bytes (m : Mark) (buf : List UInt8) : List UInt8 :=
  (buf.drop m.offset).take (m.start - m.offset)

/-- Each start code, and the piece behind it. -/
def glue (buf : List UInt8) (ms : List Mark) : List UInt8 :=
  (List.zipWith (fun m piece => m.bytes buf ++ piece) ms (cuts buf ms)).flatten

theorem startCode_take (h : startCode bs = some n) :
    bs.take n = [0, 0, 1] ∨ bs.take n = [0, 0, 0, 1] := by
  unfold startCode at h
  split at h
  · obtain rfl : 4 = n := Option.some.inj h
    exact .inr rfl
  · obtain rfl : 3 = n := Option.some.inj h
    exact .inl rfl
  · cases h

theorem bytes_mk {buf : List UInt8} {i : ℕ} (h : buf.drop i = bs) (n : ℕ) :
    Mark.bytes ⟨i, i + n⟩ buf = bs.take n := by
  rw [Mark.bytes, Nat.add_sub_cancel_left, h]

/-- Where a mark is, there is a start code. -/
theorem bytes_of_mem_marks {buf : List UInt8} {i : ℕ} (h : buf.drop i = bs) :
    ∀ m ∈ marks i bs, m.bytes buf = [0, 0, 1] ∨ m.bytes buf = [0, 0, 0, 1] := by
  induction bs using induction_on generalizing i with
  | nil => exact fun m hm => absurd hm List.not_mem_nil
  | cut bs n hcode ih =>
    have hdrop : buf.drop (i + n) = bs.drop n := by rw [← h, List.drop_drop]
    rw [marks_of_startCode i hcode]
    refine List.forall_mem_cons.2 ⟨?_, ih hdrop⟩
    rw [bytes_mk h]
    exact startCode_take hcode
  | skip b bs hcode ih =>
    rw [marks_cons i hcode]
    exact ih (drop_of_cons h)

/-- The start codes are in order, and none begins before the one before it has ended. -/
theorem pairwise_marks (i : ℕ) (bs : List UInt8) :
    (marks i bs).Pairwise fun m m' => m.start ≤ m'.offset := by
  induction bs using induction_on generalizing i with
  | nil => exact List.Pairwise.nil
  | cut bs n hcode ih =>
    rw [marks_of_startCode i hcode]
    exact List.pairwise_cons.2 ⟨fun m hm => (marks_le (i + n) (bs.drop n) m hm).1, ih (i + n)⟩
  | skip b bs hcode ih =>
    rw [marks_cons i hcode]
    exact ih (i + 1)

/-- **The start codes and the pieces make up the buffer**: nothing is lost, and nothing
is there twice. -/
theorem take_stop_append_glue {buf : List UInt8} {i : ℕ} (h : buf.drop i = bs)
    (hi : i ≤ buf.length) :
    bs.take (stop buf.length (marks i bs) - i) ++ glue buf (marks i bs) = bs := by
  induction bs using induction_on generalizing i with
  | nil =>
    rw [List.take_nil, List.nil_append]
    rfl
  | cut bs n hcode ih =>
    have hn := startCode_eq_some hcode
    have hlen := length_of_drop h
    have hdrop : buf.drop (i + n) = bs.drop n := by rw [← h, List.drop_drop]
    have hrest := ih hdrop (by omega)
    have hglue : glue buf (⟨i, i + n⟩ :: marks (i + n) (bs.drop n)) =
        bs.take n ++ ((bs.drop n).take (stop buf.length (marks (i + n) (bs.drop n)) - (i + n)) ++
          glue buf (marks (i + n) (bs.drop n))) := by
      rw [glue, cuts, List.zipWith_cons_cons, List.flatten_cons, bytes_mk h, hdrop,
        List.append_assoc]
      rfl
    rw [marks_of_startCode i hcode, stop, Nat.sub_self, List.take_zero, List.nil_append, hglue,
      hrest, List.take_append_drop]
  | skip b bs hcode ih =>
    have hlen : bs.length + 1 = buf.length - i := length_of_drop h
    have hrest := ih (drop_of_cons h) (by omega)
    rw [marks_cons i hcode, take_stop_cons h, List.cons_append, hrest]

/-! ### Nothing is left to cut -/

/-- What is before the first start code is the beginning of the stream. -/
theorem chunks_fst_prefix (bs : List UInt8) : (chunks bs).1 <+: bs := by
  induction bs using induction_on with
  | nil => exact List.prefix_rfl
  | cut bs n hcode ih =>
    rw [chunks_of_startCode hcode]
    exact List.nil_prefix
  | skip b bs hcode ih =>
    rw [chunks_cons hcode]
    exact List.cons_prefix_cons.2 ⟨rfl, ih⟩

/-- **There is no start code in a chunk.** -/
theorem not_infix_chunks (bs : List UInt8) :
    ¬ [0, 0, 1] <:+: (chunks bs).1 ∧ ∀ c ∈ (chunks bs).2, ¬ [0, 0, 1] <:+: c := by
  induction bs using induction_on with
  | nil =>
    exact ⟨mt List.infix_nil.1 (List.cons_ne_nil _ _), fun c hc => absurd hc List.not_mem_nil⟩
  | cut bs n hcode ih =>
    rw [chunks_of_startCode hcode]
    exact ⟨mt List.infix_nil.1 (List.cons_ne_nil _ _), List.forall_mem_cons.2 ih⟩
  | skip b bs hcode ih =>
    rw [chunks_cons hcode]
    refine ⟨fun h => ?_, ih.2⟩
    rcases List.infix_cons_iff.1 h with hprefix | hinfix
    -- the chunk begins as the stream does, and the stream with no start code
    · obtain ⟨rest, hrest⟩ := hprefix.trans (List.cons_prefix_cons.2 ⟨rfl, chunks_fst_prefix bs⟩)
      rw [← hrest] at hcode
      cases hcode
    · exact ih.1 hinfix

end AnnexB
