import DisplayBridge.PackedHeaders
import DisplayBridge.Ubuntu.EscapeLength
import DisplayBridge.Ubuntu.SliceHeader
import DisplayBridge.Ubuntu.SyntaxElements

/-!
# The buffers of the header functions

A header function of `encoder.c` writes to a buffer of its own, escapes what it has
written into a buffer of its caller, and the caller copies it into a third one. None of
the five sizes is ever checked.

So here the writer is followed with the bytes it touches (`DisplayBridge.bsWriteTouched`
and what is built on it). A write of any size moves the writer on by as many bits,
touches no byte behind its new position and changes none that it does not touch
(`DisplayBridge.Advances`); an Exp-Golomb code has 63 bits at most, whatever the 32-bit
value is. A header is a list of syntax elements, and how far the writer can come depends
on their kinds only (`DisplayBridge.headerBuffer_holds`). With the worst case of the
escaping this is far less than any of the buffers holds
(`DisplayBridge.headerBuffers_hold`).
-/

namespace DisplayBridge

/-! ### The bytes a write touches -/

/-- `bs_bits_written`. -/
def bsBitsWritten (bs : Bitstream) : ℕ := bs.bytePos * 8 + bs.bitPos

/-- The places of the buffer that `bs_write` touches: one for each bit. -/
def bsWriteTouched (bs : Bitstream) (value : UInt32) : ℕ → List ℕ
  | 0 => []
  | i + 1 => bs.bytePos :: bsWriteTouched (bs.put (value.toNat >>> i &&& 1)) value i

/-- Those that `bs_write1` touches. -/
def bsWrite1Touched (bs : Bitstream) (bit : UInt32) : List ℕ := bsWriteTouched bs (bit &&& 1) 1

/-- Those that writes one after the other touch. -/
def touchedAlong {α : Type} (write : Bitstream → α → Bitstream)
    (touched : Bitstream → α → List ℕ) : Bitstream → List α → List ℕ
  | _, [] => []
  | bs, a :: as => touched bs a ++ touchedAlong write touched (write bs a) as

/-- Those that `bs_write_ue` touches. -/
def bsWriteUeTouched (bs : Bitstream) (value : UInt32) : List ℕ :=
  let v := value + 1
  let bits := countBits v.toNat
  let zeros := List.range (bits - 1)
  touchedAlong (fun bs _ => bsWrite1 bs 0) (fun bs _ => bsWrite1Touched bs 0) bs zeros ++
    bsWriteTouched (zeros.foldl (fun bs _ => bsWrite1 bs 0) bs) v bits

/-- Those that `bs_write_se` touches. -/
def bsWriteSeTouched (bs : Bitstream) (value : ℤ) : List ℕ :=
  let mapped := if value > 0 then UInt32.ofInt (2 * value - 1) else UInt32.ofInt (-2 * value)
  bsWriteUeTouched bs mapped

/-- Those that the loop of `bs_trailing_bits` touches. -/
def padLoopTouched (bs : Bitstream) : ℕ → List ℕ
  | 0 => []
  | k + 1 =>
    if bs.bitPos ≠ 0 then bsWrite1Touched bs 0 ++ padLoopTouched (bsWrite1 bs 0) k else []

/-- Those that `bs_trailing_bits` touches. -/
def bsTrailingBitsTouched (bs : Bitstream) : List ℕ :=
  bsWrite1Touched bs 1 ++ padLoopTouched (bsWrite1 bs 1) 7

/-- Those that an element touches. -/
def SyntaxElement.touched (bs : Bitstream) : SyntaxElement → List ℕ
  | .u n value => bsWriteTouched bs value n
  | .ue value => bsWriteUeTouched bs value
  | .se value => bsWriteSeTouched bs value

/-- Those that a header function touches: its elements, and the trailing bits. -/
def headerTouched (capacity : ℕ) (es : List SyntaxElement) : List ℕ :=
  touchedAlong SyntaxElement.write SyntaxElement.touched (bsInit capacity) es ++
    bsTrailingBitsTouched (writeElements (bsInit capacity) es)

/-! ### How far a write gets -/

/-- The writer moves on by at most `n` bits, touches no byte behind its new position, and
changes none that it does not touch. -/
structure Advances (bs bs' : Bitstream) (touched : List ℕ) (n : ℕ) : Prop where
  le : bsBitsWritten bs ≤ bsBitsWritten bs'
  upTo : bsBitsWritten bs' ≤ bsBitsWritten bs + n
  bitPos : bs'.bitPos < 8
  inside : ∀ p ∈ touched, p * 8 < bsBitsWritten bs'
  untouched : ∀ p ∉ touched, bs'.buf[p]? = bs.buf[p]?

variable {bs bs' bs'' : Bitstream} {touched touched' : List ℕ} {m n : ℕ}

theorem Advances.refl (h : bs.bitPos < 8) : Advances bs bs [] 0 :=
  ⟨le_rfl, le_rfl, h, fun _ hp => absurd hp List.not_mem_nil, fun _ _ => rfl⟩

theorem Advances.trans (h : Advances bs bs' touched n) (h' : Advances bs' bs'' touched' m) :
    Advances bs bs'' (touched ++ touched') (n + m) := by
  refine ⟨h.le.trans h'.le, ?_, h'.bitPos, fun p hp => ?_, fun p hp => ?_⟩
  · have hfirst := h.upTo
    have hsecond := h'.upTo
    omega
  · rcases List.mem_append.1 hp with hp | hp
    · exact (h.inside p hp).trans_le h'.le
    · exact h'.inside p hp
  · rw [List.mem_append, not_or] at hp
    exact (h'.untouched p hp.2).trans (h.untouched p hp.1)

theorem Advances.mono (h : Advances bs bs' touched n) (hnm : n ≤ m) :
    Advances bs bs' touched m :=
  ⟨h.le, h.upTo.trans (Nat.add_le_add_left hnm _), h.bitPos, h.inside, h.untouched⟩

/-- **One bit.** -/
theorem advances_put (h : bs.bitPos < 8) (bit : ℕ) : Advances bs (bs.put bit) [bs.bytePos] 1 := by
  have hbits : bsBitsWritten (bs.put bit) = bsBitsWritten bs + 1 ∧ (bs.put bit).bitPos < 8 := by
    rw [Bitstream.put]
    split
    · next hfull =>
      refine ⟨?_, Nat.zero_lt_succ 7⟩
      simp only [bsBitsWritten]
      omega
    · next hroom =>
      refine ⟨?_, by dsimp only; omega⟩
      simp only [bsBitsWritten]
      omega
  refine ⟨by omega, by omega, hbits.2, fun p hp => ?_, fun p hp => ?_⟩
  · rw [List.mem_singleton.1 hp, hbits.1, bsBitsWritten]
    omega
  · have hne : bs.bytePos ≠ p := fun hsame => hp (List.mem_singleton.2 hsame.symm)
    rw [Bitstream.put]
    split <;> exact List.getElem?_modify_ne _ _ hne

theorem advances_bsWrite (h : bs.bitPos < 8) (value : UInt32) (n : ℕ) :
    Advances bs (bsWrite bs value n) (bsWriteTouched bs value n) n := by
  induction n generalizing bs with
  | zero => exact .refl h
  | succ n ih =>
    have hput := advances_put h (value.toNat >>> n &&& 1)
    exact (hput.trans (ih hput.bitPos)).mono (Nat.add_comm 1 n).le

theorem advances_bsWrite1 (h : bs.bitPos < 8) (bit : UInt32) :
    Advances bs (bsWrite1 bs bit) (bsWrite1Touched bs bit) 1 :=
  advances_bsWrite h (bit &&& 1) 1

/-- **Writes one after the other**: what they move the writer on adds up. -/
theorem advances_foldl {α : Type} {write : Bitstream → α → Bitstream}
    {touched : Bitstream → α → List ℕ} (size : α → ℕ)
    (hwrite : ∀ bs a, bs.bitPos < 8 → Advances bs (write bs a) (touched bs a) (size a))
    (h : bs.bitPos < 8) (as : List α) :
    Advances bs (as.foldl write bs) (touchedAlong write touched bs as) (as.map size).sum := by
  induction as generalizing bs with
  | nil => exact .refl h
  | cons a as ih =>
    have hfirst := hwrite bs a h
    rw [List.map_cons, List.sum_cons]
    exact hfirst.trans (ih hfirst.bitPos)

/-- The value of an Exp-Golomb code has 32 bits at most. -/
theorem countBits_le (v : UInt32) : countBits v.toNat ≤ 32 := by
  by_cases hv : v.toNat = 0
  · rw [hv, countBits, if_pos rfl]
    exact Nat.zero_le 32
  · rw [countBits_eq hv]
    exact (Nat.log2_lt hv).2 v.toNat_lt

/-- **An Exp-Golomb code**: 63 bits at most. -/
theorem advances_bsWriteUe (h : bs.bitPos < 8) (value : UInt32) :
    Advances bs (bsWriteUe bs value) (bsWriteUeTouched bs value) 63 := by
  have hbits := countBits_le (value + 1)
  have hzeros := advances_foldl (fun _ => 1) (fun bs _ hbs => advances_bsWrite1 hbs 0) h
    (List.range (countBits (value + 1).toNat - 1))
  refine (hzeros.trans (advances_bsWrite hzeros.bitPos (value + 1) _)).mono ?_
  rw [List.map_const', List.sum_replicate_nat, List.length_range]
  omega

theorem advances_padLoop (h : bs.bitPos < 8) (turns : ℕ) :
    Advances bs (padLoop bs turns) (padLoopTouched bs turns) turns := by
  induction turns generalizing bs with
  | zero => exact .refl h
  | succ turns ih =>
    rw [padLoop, padLoopTouched]
    split
    · have hfirst := advances_bsWrite1 h 0
      exact (hfirst.trans (ih hfirst.bitPos)).mono (Nat.add_comm 1 turns).le
    · exact (Advances.refl h).mono (Nat.zero_le _)

theorem advances_bsTrailingBits (h : bs.bitPos < 8) :
    Advances bs (bsTrailingBits bs) (bsTrailingBitsTouched bs) 8 :=
  (advances_bsWrite1 h 1).trans (advances_padLoop (advances_bsWrite1 h 1).bitPos 7)

/-! ### Headers -/

/-- How many bits an element of the kind has at most. -/
def ElementKind.maxBits : ElementKind → ℕ
  | .u n => n
  | .ue => 63
  | .se => 63

theorem advances_write (h : bs.bitPos < 8) (e : SyntaxElement) :
    Advances bs (e.write bs) (e.touched bs) e.kind.maxBits := by
  cases e with
  | u n value => exact advances_bsWrite h value n
  | ue value => exact advances_bsWriteUe h value
  | se value => exact advances_bsWriteUe h _

/-- How many bits some elements have at most. -/
def maxBits (es : List SyntaxElement) : ℕ := (es.map fun e => e.kind.maxBits).sum

/-- What the elements and the trailing bits do. -/
theorem advances_header (capacity : ℕ) (es : List SyntaxElement) :
    Advances (bsInit capacity) (bsTrailingBits (writeElements (bsInit capacity) es))
      (headerTouched capacity es) (maxBits es + 8) := by
  have helements : Advances (bsInit capacity) (writeElements (bsInit capacity) es) _ (maxBits es) :=
    advances_foldl (fun e => e.kind.maxBits) (fun _ e hbs => advances_write hbs e)
      (Nat.zero_lt_succ 7) es
  exact helements.trans (advances_bsTrailingBits helements.bitPos)

/-- **No other byte is changed**: outside of those it touches, a header function leaves its
buffer as it was at the start. -/
theorem getElem?_header_of_notMem {capacity : ℕ} {es : List SyntaxElement} {p : ℕ}
    (hp : p ∉ headerTouched capacity es) :
    (bsTrailingBits (writeElements (bsInit capacity) es)).buf[p]? =
      (List.replicate capacity (0 : UInt8))[p]? :=
  (advances_header capacity es).untouched p hp

/-- **Any header whose elements leave room for the trailing bits**: it touches no byte
outside its buffer, and what it returns is not much longer than half as long again as the
bytes written. -/
theorem headerBuffer_holds {capacity : ℕ} {es : List SyntaxElement}
    (h : maxBits es + 8 ≤ 8 * capacity) :
    (∀ p ∈ headerTouched capacity es, p < capacity) ∧
      (finish (writeElements (bsInit capacity) es)).length * 2 ≤ 3 * (maxBits es / 8 + 2) := by
  have hzero : bsBitsWritten (bsInit capacity) = 0 := rfl
  have hall := advances_header capacity es
  have hupTo := hall.upTo
  constructor
  · intro p hp
    have hinside := hall.inside p hp
    omega
  · set bs := bsTrailingBits (writeElements (bsInit capacity) es) with hbs
    have hbitPos := hall.bitPos
    have hwritten : bsBytesWritten bs * 8 < bsBitsWritten bs + 8 := by
      rw [bsBytesWritten, bsBitsWritten]
      split <;> omega
    have hlength := length_addEmulationPrevention_le (bs.buf.take (bsBytesWritten bs))
    have htake : (bs.buf.take (bsBytesWritten bs)).length ≤ bsBytesWritten bs :=
      (List.length_take_le _ _)
    rw [finish, ← hbs]
    omega

/-! ### The four headers -/

/-- The two ways to write one bit. -/
theorem bsWrite1_eq (bs : Bitstream) (bit : UInt32) : bsWrite1 bs bit = bsWrite bs bit 1 := by
  have hbit : (bit &&& 1).toNat >>> 0 &&& 1 = bit.toNat >>> 0 &&& 1 := by
    rw [UInt32.toNat_and]
    simp
  rw [bsWrite1, bsWrite, bsWrite, hbit]
  rfl

open SyntaxElement (u ue se)

/-- The elements of `write_profile_tier_level`. -/
def profileTierLevelElements : List SyntaxElement :=
  [u 2 0, u 1 0, u 5 1] ++
    (List.range 32).map (fun i => u 1 (if i = 1 ∨ i = 2 then 1 else 0)) ++
    [u 1 1, u 1 0, u 1 1, u 1 1] ++ (List.range 44).map (fun _ => u 1 0) ++ [u 8 120]

/-- The elements of `write_vps`. -/
def vpsElements (enc : DbEncoder) : List SyntaxElement :=
  [u 4 0, u 1 1, u 1 1, u 6 0, u 3 0, u 1 1, u 16 0xFFFF] ++ profileTierLevelElements ++
    [u 1 0, ue 1, ue 0, ue 0, u 6 0, ue 0, u 1 1, u 32 1, u 32 (UInt32.ofInt enc.fps),
      u 1 0, ue 0, u 1 0]

/-- The elements of the conformance window. -/
def windowElements (enc : DbEncoder) (aw ah : ℤ) : List SyntaxElement :=
  if aw ≠ enc.width ∨ ah ≠ enc.height then
    [u 1 1, ue 0, ue (UInt32.ofInt ((aw - enc.width).tdiv 2)), ue 0,
      ue (UInt32.ofInt ((ah - enc.height).tdiv 2))]
  else [u 1 0]

/-- The elements of `write_sps`. -/
def spsElements (enc : DbEncoder) : List SyntaxElement :=
  let aw := align enc.width hevcCtuSize
  let ah := align enc.height hevcCtuSize
  [u 4 0, u 3 0, u 1 1] ++ profileTierLevelElements ++
    [ue 0, ue 1, ue (UInt32.ofInt aw), ue (UInt32.ofInt ah)] ++ windowElements enc aw ah ++
    [ue 0, ue 0, ue 8, u 1 0, ue 1, ue 0, ue 0, ue 0, ue 3, ue 0, ue 3, ue 2, ue 2,
      u 1 0, u 1 1, u 1 0, u 1 0, ue 0, u 1 0, u 1 0, u 1 1, u 1 0, u 1 0]

/-- The elements of `write_pps`. -/
def ppsElements : List SyntaxElement :=
  [ue 0, ue 0, u 1 0, u 1 0, u 3 0, u 1 0, u 1 0, ue 0, ue 0, se 0, u 1 0, u 1 0,
    u 1 1, ue 0, se 0, se 0, u 1 0, u 1 0, u 1 0, u 1 0, u 1 0, u 1 0, u 1 1, u 1 1,
    u 1 0, u 1 0, se 0, se 0, u 1 0, u 1 0, ue 0, u 1 0, u 1 0]

/-- The elements of `write_slice_header`. -/
def sliceHeaderElements (enc : DbEncoder) (isIdr : Bool) : List SyntaxElement :=
  if isIdr then [u 1 1, u 1 0, ue 0, ue 2, se 0]
  else [u 1 1, ue 0, ue 1, u 12 enc.gopPosition.toUInt32, u 1 0, ue 1, ue 0, ue 0, u 1 1,
    u 1 0, se 0]

theorem writeElements_append (bs : Bitstream) (es es' : List SyntaxElement) :
    writeElements bs (es ++ es') = writeElements (writeElements bs es) es' :=
  List.foldl_append

/-- Elements that are written in a loop. -/
theorem writeElements_map {α : Type} (bs : Bitstream) (f : α → SyntaxElement) (as : List α) :
    writeElements bs (as.map f) = as.foldl (fun bs a => (f a).write bs) bs :=
  List.foldl_map

theorem writeElements_nil (bs : Bitstream) : writeElements bs [] = bs := rfl

theorem writeElements_cons (bs : Bitstream) (e : SyntaxElement) (es : List SyntaxElement) :
    writeElements bs (e :: es) = writeElements (e.write bs) es := rfl

theorem writeProfileTierLevel_eq (bs : Bitstream) :
    writeProfileTierLevel bs = writeElements bs profileTierLevelElements := by
  simp only [profileTierLevelElements, writeElements_append, writeElements_map,
    writeElements_cons, writeElements_nil, SyntaxElement.write, writeProfileTierLevel, bsWrite1_eq]

theorem writeVps_eq_finish (enc : DbEncoder) :
    writeVps enc = finish (writeElements (bsInit 256) (vpsElements enc)) := by
  simp only [vpsElements, writeElements_append, writeElements_cons, writeElements_nil,
    SyntaxElement.write, writeVps, writeProfileTierLevel_eq, bsWrite1_eq]

theorem writeConformanceWindow_eq (bs : Bitstream) (enc : DbEncoder) (aw ah : ℤ) :
    writeConformanceWindow bs enc aw ah = writeElements bs (windowElements enc aw ah) := by
  rw [writeConformanceWindow, windowElements]
  simp only [bsWrite1_eq]
  split <;> rfl

theorem writeSps_eq_finish (enc : DbEncoder) :
    writeSps enc = finish (writeElements (bsInit 512) (spsElements enc)) := by
  simp only [spsElements, writeElements_append, writeElements_cons, writeElements_nil,
    SyntaxElement.write, writeSps, writeProfileTierLevel_eq, writeConformanceWindow_eq,
    bsWrite1_eq]

theorem writePps_eq_finish : writePps = finish (writeElements (bsInit 256) ppsElements) := by
  simp only [ppsElements, writeElements_cons, writeElements_nil, SyntaxElement.write, writePps,
    bsWrite1_eq]

theorem writeSliceHeader_eq_finish (enc : DbEncoder) (isIdr : Bool) :
    writeSliceHeader enc isIdr =
      finish (writeElements (bsInit 256) (sliceHeaderElements enc isIdr)) := by
  cases isIdr with
  | true =>
    simp only [sliceHeaderElements, if_true, writeElements_cons, writeElements_nil,
      SyntaxElement.write, writeSliceHeader, bsWrite1_eq, Bool.not_true, Bool.false_eq_true,
      if_false]
  | false =>
    simp only [sliceHeaderElements, Bool.false_eq_true, if_false, writeElements_cons,
      writeElements_nil, SyntaxElement.write, writeSliceHeader, bsWrite1_eq, Bool.not_false,
      if_true]

/-! ### What they need -/

@[simp] theorem maxBits_nil : maxBits [] = 0 := rfl

@[simp] theorem maxBits_cons (e : SyntaxElement) (es : List SyntaxElement) :
    maxBits (e :: es) = e.kind.maxBits + maxBits es := by
  rw [maxBits, List.map_cons, List.sum_cons, maxBits]

@[simp] theorem maxBits_append (es es' : List SyntaxElement) :
    maxBits (es ++ es') = maxBits es + maxBits es' := by
  rw [maxBits, List.map_append, List.sum_append, maxBits, maxBits]

@[simp] theorem maxBits_u (n : ℕ) (value : UInt32) : (SyntaxElement.u n value).kind.maxBits = n :=
  rfl

@[simp] theorem maxBits_ue (value : UInt32) : (SyntaxElement.ue value).kind.maxBits = 63 := rfl

@[simp] theorem maxBits_se (value : ℤ) : (SyntaxElement.se value).kind.maxBits = 63 := rfl

@[simp] theorem maxBits_profileTierLevelElements : maxBits profileTierLevelElements = 96 := by
  decide

theorem maxBits_windowElements_le (enc : DbEncoder) (aw ah : ℤ) :
    maxBits (windowElements enc aw ah) ≤ 253 := by
  rw [windowElements]
  split <;> simp

theorem maxBits_sliceHeaderElements_le (enc : DbEncoder) (isIdr : Bool) :
    maxBits (sliceHeaderElements enc isIdr) ≤ 394 := by
  cases isIdr <;> simp [sliceHeaderElements]

/-- A header function keeps to its buffers: it writes the elements to one of `capacity`
bytes without touching anything else, and returns no more than `body` bytes. -/
structure HeaderFits (capacity body : ℕ) (es : List SyntaxElement) (returned : List UInt8) :
    Prop where
  written : returned = finish (writeElements (bsInit capacity) es)
  inside : ∀ p ∈ headerTouched capacity es, p < capacity
  fits : returned.length ≤ body

theorem headerFits {capacity body : ℕ} {es : List SyntaxElement} {returned : List UInt8} (most : ℕ)
    (hwritten : returned = finish (writeElements (bsInit capacity) es)) (hmost : maxBits es ≤ most)
    (hcapacity : most + 8 ≤ 8 * capacity) (hbody : 3 * (most / 8 + 2) ≤ 2 * body) :
    HeaderFits capacity body es returned := by
  obtain ⟨hinside, hlength⟩ := headerBuffer_holds (show maxBits es + 8 ≤ 8 * capacity by omega)
  refine ⟨hwritten, hinside, ?_⟩
  rw [hwritten]
  omega

/-- **The header functions overflow no buffer**, whatever the encoder is: none of them
writes outside its `raw_buf`, what they return fits the `nalu_body` it is returned in, and
put together behind their start codes the headers fit `combined`. -/
theorem headerBuffers_hold (enc : DbEncoder) (isIdr : Bool) :
    HeaderFits 256 512 (vpsElements enc) (writeVps enc) ∧
      HeaderFits 512 512 (spsElements enc) (writeSps enc) ∧
      HeaderFits 256 512 ppsElements writePps ∧
      HeaderFits 256 256 (sliceHeaderElements enc isIdr) (writeSliceHeader enc isIdr) ∧
      (packedSequenceHeaders enc).length ≤ 2048 ∧
      (writeStartCodeAndNaluHeader (nalUnitType isIdr) 1 ++ writeSliceHeader enc isIdr).length ≤
        512 := by
  have hwindow := maxBits_windowElements_le enc (align enc.width hevcCtuSize)
    (align enc.height hevcCtuSize)
  have hslice : HeaderFits 256 256 (sliceHeaderElements enc isIdr) (writeSliceHeader enc isIdr) :=
    headerFits 394 (writeSliceHeader_eq_finish enc isIdr) (maxBits_sliceHeaderElements_le enc isIdr)
      (by decide) (by decide)
  refine ⟨headerFits 517 (writeVps_eq_finish enc) ?_ (by decide) (by decide),
    headerFits 1440 (writeSps_eq_finish enc) ?_ (by decide) (by decide),
    headerFits 800 writePps_eq_finish ?_ (by decide) (by decide), hslice,
    (length_packedSequenceHeaders_le enc).2.2.2, ?_⟩
  · simp [vpsElements]
  · simp only [spsElements, maxBits_append, maxBits_cons, maxBits_nil, maxBits_u, maxBits_ue,
      maxBits_profileTierLevelElements]
    omega
  · simp [ppsElements]
  · have hstart : (writeStartCodeAndNaluHeader (nalUnitType isIdr) 1).length = 6 := rfl
    have hbody := hslice.fits
    rw [List.length_append]
    omega

end DisplayBridge
