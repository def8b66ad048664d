import DisplayBridge.Ubuntu.Conversion

/-!
# What fits the conversion buffer

The conversion buffer is allocated when the encoder is initialised, with
`width * height * 3 / 2` bytes, and nothing checks the size of the picture: the three
divisions by two – of the size of the buffer, of the number of chroma rows, and of the columns
that the chroma loop goes over – round each in its own way.

* An odd **height** does no harm: the chroma rows are `height / 2` of them, rounded
  down, on the side of the conversion and on the side of the copy.
* An odd **width** does: the loop over the columns takes the last one too, and stores the
  second byte of its pair behind the row. In the last chroma row this may be behind the
  buffer.

So a picture fits (`DisplayBridge.PixelEncoder.ConvBufFits`) exactly if its width is even, or
there is no chroma row at all (`DisplayBridge.convBufFits_iff`).
-/

namespace DisplayBridge

/-- **Every index into the buffer is one**, for every frame that is converted and every image it
is copied to; and a chroma pair is stored into the row of `width` bytes that its line of
the picture has. -/
def PixelEncoder.ConvBufFits (enc : PixelEncoder) : Prop :=
  ∀ (call : BgrxCall) (image : VAImage), (enc.convertBgrx call).convBuf ≠ none →
    let width := enc.width.toNat
    let height := enc.height.toNat
    (∀ s ∈ bgrxToNv12 call.bgrx call.stride width height,
      s.1 < (enc.convertBgrx call).convBufSize.toNat) ∧
    (∀ m ∈ copyNv12 enc.toDbEncoder (UInt32.ofInt enc.width) image,
      m.2 < (enc.convertBgrx call).convBufSize.toNat) ∧
    ∀ y < height, HasChroma height y → ∀ s ∈ chromaRow call.bgrx call.stride width height y,
      width * height + y / 2 * width ≤ s.1 ∧ s.1 < width * height + y / 2 * width + width

section Fits

variable {width height : ℤ} {enc : PixelEncoder}

/-- The size of the buffer, without the conversions. -/
theorem toNat_convBufNeeded (hwidth : 0 < width) (hheight : 0 < height)
    (harea : width * height * 3 < 2 ^ 31) :
    (convBufNeeded width height).toNat = width.toNat * height.toNat * 3 / 2 := by
  have hle : width ≤ width * height := le_mul_of_one_le_right hwidth.le hheight
  have hle' : height ≤ width * height := le_mul_of_one_le_left hheight.le hwidth
  have hprod : ((width.toNat * height.toNat : ℕ) : ℤ) = width * height := by
    rw [Nat.cast_mul, Int.toNat_of_nonneg hwidth.le, Int.toNat_of_nonneg hheight.le]
  rw [convBufNeeded, UInt64.toNat_div, UInt64.toNat_mul, UInt64.toNat_mul,
    toNat_uint64OfInt hwidth.le (by omega), toNat_uint64OfInt hheight.le (by omega)]
  change width.toNat * height.toNat % 2 ^ 64 * 3 % 2 ^ 64 / 2 = _
  omega

/-- The buffer of a frame that is converted. -/
theorem PixelEncoder.Ready.toNat_convBufSize (h : enc.Ready width height) (hwidth : 0 < width)
    (hheight : 0 < height) {call : BgrxCall} (hbuf : (enc.convertBgrx call).convBuf ≠ none) :
    (enc.convertBgrx call).convBufSize.toNat = width.toNat * height.toNat * 3 / 2 := by
  rw [(h.convertBgrx call).convBuf_eq.resolve_left hbuf]
  exact toNat_convBufNeeded hwidth hheight h.area_lt

/-- The chroma rows end in the buffer. -/
theorem chroma_lt {width height v x : ℕ} (hv : v < height / 2) (hx : x < width) :
    width * height + (v * width + x) < width * height * 3 / 2 := by
  have hplace := place_lt hv hx
  have hrows : height / 2 * width * 2 ≤ width * height := by
    calc height / 2 * width * 2 = width * (height / 2 * 2) := by ring
      _ ≤ width * height := Nat.mul_le_mul_left width (Nat.div_mul_le_self height 2)
  omega

/-- **What fits**: with an even width, and with a single line. -/
theorem PixelEncoder.Ready.convBufFits (h : enc.Ready width height) (hwidth : 0 < width)
    (hheight : 0 < height) (hfits : Even width.toNat ∨ height.toNat / 2 = 0) :
    enc.ConvBufFits := by
  intro call image hbuf
  have hsize := h.toNat_convBufSize hwidth hheight hbuf
  dsimp only
  rw [hsize, h.width_eq, h.height_eq]
  have hluma : ∀ {y x : ℕ}, y < height.toNat → x < width.toNat →
      y * width.toNat + x < width.toNat * height.toNat * 3 / 2 := by
    intro y x hy hx
    have hplace := place_lt hy hx
    rw [Nat.mul_comm height.toNat] at hplace
    omega
  -- where there is a chroma row, its pairs are stored into it
  have hchroma : ∀ {v : ℕ} {s : ℕ × UInt8}, v < height.toNat / 2 →
      s ∈ chromaRow call.bgrx call.stride width.toNat height.toNat (2 * v) →
      ∃ x < width.toNat, s.1 = width.toNat * height.toNat + (v * width.toNat + x) :=
    fun hv hs => fst_of_mem_chromaRow (hfits.resolve_right (by omega)) hs
  refine ⟨fun s hs => ?_, fun m hm => ?_, fun y _ hy s hs => ?_⟩
  · rcases mem_bgrxToNv12.1 hs with ⟨y, hy, hs⟩ | ⟨v, hv, hs⟩
    · obtain ⟨x, hx, rfl⟩ := mem_lumaRow.1 hs
      exact hluma hy hx
    · obtain ⟨x, hx, hfst⟩ := hchroma hv hs
      rw [hfst]
      exact chroma_lt hv hx
  · rw [← h.width_eq, h.mem_copyNv12 hwidth hheight] at hm
    rcases hm with ⟨y, hy, x, hx, rfl⟩ | ⟨v, hv, x, hx, rfl⟩
    · exact hluma hy hx
    · rw [Nat.add_assoc]
      exact chroma_lt hv hx
  · obtain ⟨v, hv, rfl⟩ := hasChroma_iff.1 hy
    obtain ⟨x, hx, hfst⟩ := hchroma hv hs
    rw [Nat.mul_div_cancel_left v two_pos, hfst]
    omega

/-- Where `malloc` answers, there is a buffer. -/
theorem PixelEncoder.convertBgrx_convBuf (enc : PixelEncoder) {call : BgrxCall}
    (hfresh : call.fresh ≠ none) : (enc.convertBgrx call).convBuf ≠ none := by
  obtain ⟨mem, hmem⟩ := Option.ne_none_iff_exists'.1 hfresh
  have hensure : (enc.ensureConvBuf call.fresh).convBuf ≠ none := by
    unfold PixelEncoder.ensureConvBuf
    dsimp only
    split
    · rw [hmem]
      exact Option.some_ne_none mem
    · next hcond => exact fun hnone => hcond (Or.inr hnone)
  exact fun hnone => hensure (Option.map_eq_none_iff.1 hnone)

/-- **What does not fit**: with an odd width, the last pair of the first chroma row leaves it. -/
theorem PixelEncoder.Ready.not_convBufFits (h : enc.Ready width height) (hodd : Odd width.toNat)
    (hrows : 0 < height.toNat / 2) : ¬enc.ConvBufFits := by
  intro hfits
  let call : BgrxCall := ⟨fun _ => 0, 0, some fun _ => 0⟩
  have hrow := (hfits call ⟨0, 0, fun _ => 0, fun _ => 0⟩
    (enc.convertBgrx_convBuf (Option.some_ne_none _))).2.2
  rw [h.width_eq, h.height_eq] at hrow
  obtain ⟨n, hn⟩ := hodd
  have hlast : (width.toNat * height.toNat + 2 * 0 / 2 * width.toNat + (2 * n + 1),
      UInt8.ofInt (pixelAt call.bgrx call.stride (2 * 0) (2 * n)).cr) ∈
      chromaRow call.bgrx call.stride width.toNat height.toNat (2 * 0) :=
    mem_chromaRow.2 ⟨n, by omega, Or.inr rfl⟩
  have hin := (hrow (2 * 0) (by omega) (hasChroma_iff.2 ⟨0, hrows, rfl⟩) _ hlast).2
  omega

end Fits

/-- **A picture fits the conversion buffer if its width is even or it is a single line**, and only
then: for every size that an encoder can be initialised for, and whatever frames the encoder
has seen before. -/
theorem convBufFits_iff {width height bitrateKbps fps : ℤ} {surfaces : List VASurfaceID}
    {codedBuf : UInt32} {fresh : Option (ℕ → UInt8)} {enc₀ enc : PixelEncoder}
    (hinit : pixelEncoderInit width height bitrateKbps fps surfaces codedBuf fresh = some enc₀)
    (earlier : List BgrxCall) (henc : earlier.foldl PixelEncoder.convertBgrx enc₀ = enc)
    (hwidth : 1 ≤ width) (hheight : 1 ≤ height) :
    enc.ConvBufFits ↔ Even width ∨ height = 1 := by
  have hready : enc.Ready width height := henc ▸ (pixelEncoderInit_ready hinit).foldl earlier
  have hparity : Even width ↔ Even width.toNat := by
    rw [← Int.even_coe_nat, Int.toNat_of_nonneg (by omega)]
  constructor
  · intro hfits
    by_contra hodd
    rw [not_or, hparity, Nat.not_even_iff_odd] at hodd
    exact hready.not_convBufFits hodd.1 (by omega) hfits
  · intro hcond
    refine hready.convBufFits hwidth hheight (hcond.imp hparity.1 fun hone => ?_)
    rw [hone]
    rfl

/-- An encoder for the target size, right after its start. -/
def targetEncoder : PixelEncoder :=
  { dbEncoderInit 2880 1800 15000 60 [0, 1, 2, 3] 4 with
    codedBufSize := 7776000
    convBuf := some fun _ => 0
    convBufSize := 7776000 }

theorem targetEncoder_convBufFits : targetEncoder.ConvBufFits := by
  have hinit : pixelEncoderInit 2880 1800 15000 60 [0, 1, 2, 3] 4 (some fun _ => 0) =
      some targetEncoder := rfl
  exact (convBufFits_iff hinit [] rfl (by decide) (by decide)).2 (Or.inl (by decide))

/-- An encoder for pictures of three columns and two lines. -/
def oddEncoder : PixelEncoder :=
  { dbEncoderInit 3 2 15000 60 [0, 1, 2, 3] 4 with
    codedBufSize := 4 * 1024 * 1024
    convBuf := some fun _ => 0
    convBufSize := 9 }

/-- With three columns, the last byte is stored behind the nine bytes of the buffer. -/
theorem not_convBufFits_oddEncoder :
    pixelEncoderInit 3 2 15000 60 [0, 1, 2, 3] 4 (some fun _ => 0) = some oddEncoder ∧
      (9, 128) ∈ bgrxToNv12 (fun _ => 0) 12 3 2 ∧ oddEncoder.convBufSize.toNat = 9 ∧
      ¬oddEncoder.ConvBufFits := by
  have hinit : pixelEncoderInit 3 2 15000 60 [0, 1, 2, 3] 4 (some fun _ => 0) =
      some oddEncoder := rfl
  exact ⟨hinit, by decide, rfl,
    (pixelEncoderInit_ready hinit).not_convBufFits (by decide) (by decide)⟩

end DisplayBridge
