import DisplayBridge.Lib.Writes
import DisplayBridge.Ubuntu.Encoder
import Mathlib.Algebra.Group.Int.Even
import Mathlib.Algebra.Order.Ring.Int
import Mathlib.Algebra.Order.Ring.Nat

/-!
# From a BGRx frame to the surface of the encoder

On the path through the CPU a frame is copied twice: `db_encoder_encode_bgrx` converts it
into `conv_buf`, a picture in NV12 whose rows are as long as the picture is wide, and
`db_encoder_encode_nv12` copies that picture row by row into the image of a surface, whose
planes and pitches the driver chooses. Both are loops that only store, so they are laid out as
the list of their stores (`DisplayBridge.bgrxToNv12`, and `DisplayBridge.copyNv12` for
which byte goes where).

## What the loops have to get right

* **No byte is stored twice.** The luma rows fill the first `width * height` bytes; the
  chroma pairs are stored on the even rows only, behind them. The pairs go over the
  columns two by two, so they stay in their row if the width is even
  (`DisplayBridge.bgrxToNv12_functional`); with an odd width the last one of a row
  stores its second byte into the next row, or behind the buffer.
* **The two sides agree on the place of the chroma plane.** The conversion computes it in
  64 bits, the copy in 32. That a picture of `3 * width * height` or more than `2 ^ 31` bytes
  is never encoded is up to `calc_coded_buf_size`, which computes this product in an
  `int` when the encoder is initialised.
-/

namespace DisplayBridge

/-! ### The colours of a pixel -/

/-- The bytes of a BGRx pixel that are read. -/
structure Pixel where
  b : UInt8
  g : UInt8
  r : UInt8
deriving DecidableEq

/-- `((66 * r + 129 * g + 25 * b + 128) >> 8) + 16`. -/
def Pixel.y (p : Pixel) : ℤ :=
  ((66 * p.r.toNat + 129 * p.g.toNat + 25 * p.b.toNat + 128 : ℤ) >>> (8 : ℕ)) + 16

/-- `((-38 * r - 74 * g + 112 * b + 128) >> 8) + 128`. -/
def Pixel.cb (p : Pixel) : ℤ :=
  ((-38 * p.r.toNat - 74 * p.g.toNat + 112 * p.b.toNat + 128 : ℤ) >>> (8 : ℕ)) + 128

/-- `((112 * r - 94 * g - 18 * b + 128) >> 8) + 128`. -/
def Pixel.cr (p : Pixel) : ℤ :=
  ((112 * p.r.toNat - 94 * p.g.toNat - 18 * p.b.toNat + 128 : ℤ) >>> (8 : ℕ)) + 128

/-- **Luma stays in its range.** -/
theorem Pixel.y_mem (p : Pixel) : 16 ≤ p.y ∧ p.y ≤ 235 := by
  have hr := p.r.toNat_lt
  have hg := p.g.toNat_lt
  have hb := p.b.toNat_lt
  rw [Pixel.y, Int.shiftRight_eq_div_pow]
  omega

/-- **Chroma stays in its range**: the sum may be negative, and the shift rounds it down. -/
theorem Pixel.cb_mem (p : Pixel) : 16 ≤ p.cb ∧ p.cb ≤ 240 := by
  have hr := p.r.toNat_lt
  have hg := p.g.toNat_lt
  have hb := p.b.toNat_lt
  rw [Pixel.cb, Int.shiftRight_eq_div_pow]
  omega

theorem Pixel.cr_mem (p : Pixel) : 16 ≤ p.cr ∧ p.cr ≤ 240 := by
  have hr := p.r.toNat_lt
  have hg := p.g.toNat_lt
  have hb := p.b.toNat_lt
  rw [Pixel.cr, Int.shiftRight_eq_div_pow]
  omega

/-- The cast to `uint8_t` keeps what fits. -/
theorem toNat_uint8OfInt {x : ℤ} (h₀ : 0 ≤ x) (h₁ : x < 256) : ((UInt8.ofInt x).toNat : ℤ) = x := by
  rw [UInt8.ofInt, UInt8.toNat_ofNat']
  omega

theorem Pixel.toNat_y (p : Pixel) : ((UInt8.ofInt p.y).toNat : ℤ) = p.y := by
  obtain ⟨hlow, hhigh⟩ := p.y_mem
  exact toNat_uint8OfInt (by omega) (by omega)

theorem Pixel.toNat_cb (p : Pixel) : ((UInt8.ofInt p.cb).toNat : ℤ) = p.cb := by
  obtain ⟨hlow, hhigh⟩ := p.cb_mem
  exact toNat_uint8OfInt (by omega) (by omega)

theorem Pixel.toNat_cr (p : Pixel) : ((UInt8.ofInt p.cr).toNat : ℤ) = p.cr := by
  obtain ⟨hlow, hhigh⟩ := p.cr_mem
  exact toNat_uint8OfInt (by omega) (by omega)

/-! ### `db_encoder_encode_bgrx` -/

/-- Where `src_row[x * 4 + k]` is in the frame. -/
def bgrxOffset (stride : UInt32) (y x k : ℕ) : ℕ := y * stride.toNat + (x * 4 + k)

/-- `b`, `g` and `r` of the loops. -/
def pixelAt (bgrx : ℕ → UInt8) (stride : UInt32) (y x : ℕ) : Pixel where
  b := bgrx (bgrxOffset stride y x 0)
  g := bgrx (bgrxOffset stride y x 1)
  r := bgrx (bgrxOffset stride y x 2)

/-- The loop over the columns of luma. -/
def lumaRow (bgrx : ℕ → UInt8) (stride : UInt32) (width y : ℕ) : List (ℕ × UInt8) :=
  (List.range width).map fun x => (y * width + x, UInt8.ofInt (pixelAt bgrx stride y x).y)

/-- The columns of `for (int x = 0; x < width; x += 2)`. -/
def chromaColumns (width : ℕ) : List ℕ := List.range' 0 ((width + 1) / 2) 2

/-- The loop over the columns of chroma. -/
def chromaRow (bgrx : ℕ → UInt8) (stride : UInt32) (width height y : ℕ) : List (ℕ × UInt8) :=
  (chromaColumns width).flatMap fun x =>
    [(width * height + y / 2 * width + x, UInt8.ofInt (pixelAt bgrx stride y x).cb),
      (width * height + y / 2 * width + (x + 1), UInt8.ofInt (pixelAt bgrx stride y x).cr)]

/-- `(y & 1) == 0 && y / 2 < height / 2`. -/
def HasChroma (height y : ℕ) : Prop := y &&& 1 = 0 ∧ y / 2 < height / 2

instance (height y : ℕ) : Decidable (HasChroma height y) :=
  inferInstanceAs (Decidable (_ ∧ _))

/-- The loop over the rows: what is stored into `conv_buf`. -/
def bgrxToNv12 (bgrx : ℕ → UInt8) (stride : UInt32) (width height : ℕ) : List (ℕ × UInt8) :=
  (List.range height).flatMap fun y =>
    lumaRow bgrx stride width y ++
      if HasChroma height y then chromaRow bgrx stride width height y else []

/-! ### `db_encoder_encode_nv12` -/

/-- The fields of `VAImage` that are used: its two names, and where its planes are. -/
structure VAImage where
  imageId : UInt32
  buf : UInt32
  offsets : Fin 3 → UInt32
  pitches : Fin 3 → UInt32

/-- The byte of the luma of a pixel. -/
def VAImage.lumaAt (image : VAImage) (y x : ℕ) : ℕ :=
  (image.offsets 0).toNat + y * (image.pitches 0).toNat + x

/-- A byte in a row of the chroma plane. -/
def VAImage.chromaAt (image : VAImage) (v x : ℕ) : ℕ :=
  (image.offsets 1).toNat + v * (image.pitches 1).toNat + x

/-- An image for a picture of a size: its planes have rows of at least the width, and no byte
of a row of one plane is one of the other. -/
structure VAImage.Holds (image : VAImage) (width height : ℕ) : Prop where
  luma : width ≤ (image.pitches 0).toNat
  chroma : width ≤ (image.pitches 1).toNat
  disjoint : ∀ y < height, ∀ x < width, ∀ v < height / 2, ∀ x' < width,
    image.lumaAt y x ≠ image.chromaAt v x'

/-- A loop of `memcpy`s over rows: where each byte goes, and where it comes from. -/
def copyRows (src stride dst pitch width rows : ℕ) : List (ℕ × ℕ) :=
  (List.range rows).flatMap fun y =>
    (List.range width).map fun x => (dst + y * pitch + x, src + y * stride + x)

/-- The two copy loops. The place of the chroma plane is computed in 32 bits. -/
def copyNv12 (enc : DbEncoder) (stride : UInt32) (image : VAImage) : List (ℕ × ℕ) :=
  copyRows 0 stride.toNat (image.offsets 0).toNat (image.pitches 0).toNat
      enc.width.toNat enc.height.toNat ++
    copyRows (stride * UInt32.ofInt enc.height).toNat stride.toNat
      (image.offsets 1).toNat (image.pitches 1).toNat enc.width.toNat (enc.height.toNat / 2)

/-! ### The encoder with its conversion buffer -/

/-- The result of an `int` operation, which has to be one. -/
def cInt (x : ℤ) : Option ℤ := if -2 ^ 31 ≤ x ∧ x < 2 ^ 31 then some x else none

/-- `calc_coded_buf_size`. -/
def calcCodedBufSize (width height : ℤ) : Option ℤ := do
  let area ← cInt (width * height)
  let size ← cInt (area * 3)
  let size := size.tdiv 2
  return if size < 4 * 1024 * 1024 then 4 * 1024 * 1024 else size

/-- `(size_t)width * height * 3 / 2`. -/
def convBufNeeded (width height : ℤ) : UInt64 := UInt64.ofInt width * UInt64.ofInt height * 3 / 2

/-- `db_encoder_t` with its buffers: `conv_buf` is `none` where it is `NULL`, and else what
stands in it. -/
structure PixelEncoder extends DbEncoder where
  codedBufSize : ℤ
  convBuf : Option (ℕ → UInt8)
  convBufSize : UInt64

/-- `db_encoder_init`, where the driver answers; `fresh` is the answer of `malloc`. -/
def pixelEncoderInit (width height bitrateKbps fps : ℤ) (surfaces : List VASurfaceID)
    (codedBuf : UInt32) (fresh : Option (ℕ → UInt8)) : Option PixelEncoder := do
  let codedBufSize ← calcCodedBufSize width height
  let convBuf ← fresh
  return { dbEncoderInit width height bitrateKbps fps surfaces codedBuf with
    codedBufSize := codedBufSize
    convBuf := some convBuf
    convBufSize := convBufNeeded width height }

/-- A frame in the memory of the CPU, and the answer of a `malloc` while it is encoded. -/
structure BgrxCall where
  bgrx : ℕ → UInt8
  stride : UInt32
  fresh : Option (ℕ → UInt8)

/-- The first lines of `db_encoder_encode_bgrx`, up to the conversion. -/
def PixelEncoder.ensureConvBuf (enc : PixelEncoder) (fresh : Option (ℕ → UInt8)) :
    PixelEncoder :=
  let needed := convBufNeeded enc.width enc.height
  if needed > enc.convBufSize ∨ enc.convBuf = none then
    match fresh with
    | none => { enc with convBuf := none, convBufSize := 0 }
    | some convBuf => { enc with convBuf := some convBuf, convBufSize := needed }
  else enc

instance (enc : PixelEncoder) : Decidable (enc.convBuf = none) :=
  decidable_of_iff (enc.convBuf.isNone = true) Option.isNone_iff_eq_none

/-- `db_encoder_encode_bgrx` up to its call of `db_encoder_encode_nv12`. -/
def PixelEncoder.convertBgrx (enc : PixelEncoder) (call : BgrxCall) : PixelEncoder :=
  let enc := enc.ensureConvBuf call.fresh
  { enc with
    convBuf := enc.convBuf.map fun mem =>
      Writes.perform mem (bgrxToNv12 call.bgrx call.stride enc.width.toNat enc.height.toNat) }

/-- What the copy loops of `db_encoder_encode_nv12` make of the mapped image. -/
def copyToSurface (enc : DbEncoder) (nv12 : ℕ → UInt8) (stride : UInt32) (image : VAImage)
    (surface : ℕ → UInt8) : ℕ → UInt8 :=
  Writes.perform surface ((copyNv12 enc stride image).map fun m => (m.1, nv12 m.2))

/-- The surface after `db_encoder_encode_bgrx`; `none` where there was no memory. -/
def PixelEncoder.encodeBgrx (enc : PixelEncoder) (call : BgrxCall) (image : VAImage)
    (surface : ℕ → UInt8) : Option (ℕ → UInt8) :=
  (enc.convertBgrx call).convBuf.map fun nv12 =>
    copyToSurface enc.toDbEncoder nv12 (UInt32.ofInt enc.width) image surface

/-! ### Places in a plane -/

/-- In rows of a pitch that holds them, a place belongs to one row and one column. -/
theorem place_inj {pitch y x y' x' : ℕ} (hx : x < pitch) (hx' : x' < pitch)
    (h : y * pitch + x = y' * pitch + x') : y = y' ∧ x = x' := by
  have hrow : ∀ {a b : ℕ}, b < pitch → (a * pitch + b) / pitch = a := by
    intro a b hb
    rw [Nat.add_comm, Nat.add_mul_div_right _ _ (by omega), Nat.div_eq_of_lt hb, Nat.zero_add]
  have hy : y = y' := by rw [← hrow hx (a := y), h, hrow hx']
  subst hy
  exact ⟨rfl, Nat.add_left_cancel h⟩

/-- The rows before the end fill the bytes before the end. -/
theorem place_lt {pitch rows y x : ℕ} (hy : y < rows) (hx : x < pitch) :
    y * pitch + x < rows * pitch := by
  calc y * pitch + x < y * pitch + pitch := Nat.add_lt_add_left hx _
    _ = (y + 1) * pitch := (Nat.succ_mul y pitch).symm
    _ ≤ rows * pitch := Nat.mul_le_mul_right pitch hy

/-! ### The stores of the conversion -/

section Stored

variable {bgrx : ℕ → UInt8} {stride : UInt32} {width height : ℕ}

theorem mem_chromaColumns {x : ℕ} :
    x ∈ chromaColumns width ↔ ∃ u < (width + 1) / 2, x = 2 * u := by
  rw [chromaColumns, List.mem_range']
  simp only [Nat.zero_add]

theorem mem_lumaRow {y : ℕ} {s : ℕ × UInt8} :
    s ∈ lumaRow bgrx stride width y ↔
      ∃ x < width, s = (y * width + x, UInt8.ofInt (pixelAt bgrx stride y x).y) := by
  rw [lumaRow, List.mem_map]
  simp only [List.mem_range, eq_comm]

theorem mem_chromaRow {y : ℕ} {s : ℕ × UInt8} :
    s ∈ chromaRow bgrx stride width height y ↔ ∃ u < (width + 1) / 2,
      s = (width * height + y / 2 * width + 2 * u,
          UInt8.ofInt (pixelAt bgrx stride y (2 * u)).cb) ∨
        s = (width * height + y / 2 * width + (2 * u + 1),
          UInt8.ofInt (pixelAt bgrx stride y (2 * u)).cr) := by
  rw [chromaRow, List.mem_flatMap]
  constructor
  · rintro ⟨x, hx, hs⟩
    obtain ⟨u, hu, rfl⟩ := mem_chromaColumns.1 hx
    rw [List.mem_cons, List.mem_singleton] at hs
    exact ⟨u, hu, hs⟩
  · rintro ⟨u, hu, hs⟩
    refine ⟨2 * u, mem_chromaColumns.2 ⟨u, hu, rfl⟩, ?_⟩
    rw [List.mem_cons, List.mem_singleton]
    exact hs

/-- The rows with chroma are the first even ones. -/
theorem hasChroma_iff {y : ℕ} : HasChroma height y ↔ ∃ v < height / 2, y = 2 * v := by
  rw [HasChroma, Nat.and_one_is_mod]
  constructor
  · rintro ⟨heven, hlt⟩
    exact ⟨y / 2, hlt, by omega⟩
  · rintro ⟨v, hv, rfl⟩
    omega

/-- **What the conversion stores**: a byte of luma for every pixel, and a pair of chroma for every
second column of every second row. -/
theorem mem_bgrxToNv12 {s : ℕ × UInt8} :
    s ∈ bgrxToNv12 bgrx stride width height ↔
      (∃ y < height, s ∈ lumaRow bgrx stride width y) ∨
        ∃ v < height / 2, s ∈ chromaRow bgrx stride width height (2 * v) := by
  simp only [bgrxToNv12, List.mem_flatMap, List.mem_range, List.mem_append]
  constructor
  · rintro ⟨y, hy, hs | hs⟩
    · exact Or.inl ⟨y, hy, hs⟩
    · by_cases hchroma : HasChroma height y
      · rw [if_pos hchroma] at hs
        obtain ⟨v, hv, rfl⟩ := hasChroma_iff.1 hchroma
        exact Or.inr ⟨v, hv, hs⟩
      · rw [if_neg hchroma] at hs
        exact absurd hs List.not_mem_nil
  · rintro (⟨y, hy, hs⟩ | ⟨v, hv, hs⟩)
    · exact ⟨y, hy, Or.inl hs⟩
    · have hchroma : HasChroma height (2 * v) := hasChroma_iff.2 ⟨v, hv, rfl⟩
      refine ⟨2 * v, by omega, Or.inr ?_⟩
      rw [if_pos hchroma]
      exact hs

/-- Luma is stored before the chroma plane. -/
theorem fst_lt_of_mem_lumaRow {y : ℕ} (hy : y < height) {s : ℕ × UInt8}
    (hs : s ∈ lumaRow bgrx stride width y) : s.1 < width * height := by
  obtain ⟨x, hx, rfl⟩ := mem_lumaRow.1 hs
  rw [Nat.mul_comm width]
  exact place_lt hy hx

/-- With an even width, the pairs of a chroma row are stored into that row. -/
theorem fst_of_mem_chromaRow (heven : Even width) {v : ℕ} {s : ℕ × UInt8}
    (hs : s ∈ chromaRow bgrx stride width height (2 * v)) :
    ∃ x < width, s.1 = width * height + (v * width + x) := by
  obtain ⟨n, rfl⟩ := heven
  obtain ⟨u, hu, rfl | rfl⟩ := mem_chromaRow.1 hs
  · refine ⟨2 * u, by omega, ?_⟩
    rw [Nat.mul_div_cancel_left v two_pos, Nat.add_assoc]
  · refine ⟨2 * u + 1, by omega, ?_⟩
    rw [Nat.mul_div_cancel_left v two_pos, Nat.add_assoc]

/-- **No byte is stored twice** if the width is even: the stores to one place agree. -/
theorem bgrxToNv12_functional (heven : Even width) {s t : ℕ × UInt8}
    (hs : s ∈ bgrxToNv12 bgrx stride width height)
    (ht : t ∈ bgrxToNv12 bgrx stride width height) (hst : s.1 = t.1) : s.2 = t.2 := by
  have hnext : ∀ {v : ℕ} {s : ℕ × UInt8}, s ∈ chromaRow bgrx stride width height (2 * v) →
      width * height ≤ s.1 := by
    intro v s hs
    obtain ⟨x, _, hx⟩ := fst_of_mem_chromaRow heven hs
    omega
  rcases mem_bgrxToNv12.1 hs with ⟨y, hy, hs⟩ | ⟨v, hv, hs⟩ <;>
    rcases mem_bgrxToNv12.1 ht with ⟨y', hy', ht⟩ | ⟨v', hv', ht⟩
  · obtain ⟨x, hx, rfl⟩ := mem_lumaRow.1 hs
    obtain ⟨x', hx', rfl⟩ := mem_lumaRow.1 ht
    obtain ⟨rfl, rfl⟩ := place_inj hx hx' hst
    rfl
  · have := fst_lt_of_mem_lumaRow hy hs
    have := hnext ht
    omega
  · have := fst_lt_of_mem_lumaRow hy' ht
    have := hnext hs
    omega
  · -- two chroma stores: first the row, then the pair and its byte
    obtain ⟨x, hx, hsx⟩ := fst_of_mem_chromaRow heven hs
    obtain ⟨x', hx', htx⟩ := fst_of_mem_chromaRow heven ht
    obtain ⟨rfl, -⟩ := @place_inj width v x v' x' hx hx' (by omega)
    obtain ⟨u, _, rfl | rfl⟩ := mem_chromaRow.1 hs <;>
      obtain ⟨u', _, rfl | rfl⟩ := mem_chromaRow.1 ht
    · obtain rfl : u = u' := by dsimp only at hst; omega
      rfl
    · dsimp only at hst
      omega
    · dsimp only at hst
      omega
    · obtain rfl : u = u' := by dsimp only at hst; omega
      rfl

end Stored

/-! ### The picture in the conversion buffer -/

/-- **A picture of some colours**: each byte is the value of its pixel, and chroma is that of the
first pixel of a square. -/
structure IsPictureOf (colour : ℕ → ℕ → Pixel) (width height : ℕ) (nv12 : ℕ → UInt8) : Prop where
  luma : ∀ y < height, ∀ x < width, ((nv12 (y * width + x)).toNat : ℤ) = (colour y x).y
  cb : ∀ v < height / 2, ∀ u < width / 2,
    ((nv12 (width * height + v * width + 2 * u)).toNat : ℤ) = (colour (2 * v) (2 * u)).cb
  cr : ∀ v < height / 2, ∀ u < width / 2,
    ((nv12 (width * height + v * width + (2 * u + 1))).toNat : ℤ) = (colour (2 * v) (2 * u)).cr

section Picture

variable {bgrx : ℕ → UInt8} {stride : UInt32} {width height : ℕ}

/-- **The picture holds what the conversion has stored.** -/
theorem perform_bgrxToNv12 (heven : Even width) (mem : ℕ → UInt8) {s : ℕ × UInt8}
    (hs : s ∈ bgrxToNv12 bgrx stride width height) :
    Writes.perform mem (bgrxToNv12 bgrx stride width height) s.1 = s.2 :=
  Writes.perform_of_mem (a := s.1) (b := s.2) hs fun _ ht hts =>
    bgrxToNv12_functional heven ht hs hts

theorem luma_mem_bgrxToNv12 {y x : ℕ} (hy : y < height) (hx : x < width) :
    (y * width + x, UInt8.ofInt (pixelAt bgrx stride y x).y) ∈
      bgrxToNv12 bgrx stride width height :=
  mem_bgrxToNv12.2 (Or.inl ⟨y, hy, mem_lumaRow.2 ⟨x, hx, rfl⟩⟩)

theorem cb_mem_bgrxToNv12 {v u : ℕ} (hv : v < height / 2) (hu : u < (width + 1) / 2) :
    (width * height + v * width + 2 * u, UInt8.ofInt (pixelAt bgrx stride (2 * v) (2 * u)).cb) ∈
      bgrxToNv12 bgrx stride width height := by
  refine mem_bgrxToNv12.2 (Or.inr ⟨v, hv, mem_chromaRow.2 ⟨u, hu, Or.inl ?_⟩⟩)
  rw [Nat.mul_div_cancel_left v two_pos]

theorem cr_mem_bgrxToNv12 {v u : ℕ} (hv : v < height / 2) (hu : u < (width + 1) / 2) :
    (width * height + v * width + (2 * u + 1),
      UInt8.ofInt (pixelAt bgrx stride (2 * v) (2 * u)).cr) ∈
      bgrxToNv12 bgrx stride width height := by
  refine mem_bgrxToNv12.2 (Or.inr ⟨v, hv, mem_chromaRow.2 ⟨u, hu, Or.inr ?_⟩⟩)
  rw [Nat.mul_div_cancel_left v two_pos]

/-- **The conversion makes the picture of the frame**, read as BGRx. -/
theorem isPictureOf_bgrxToNv12 (heven : Even width) (mem : ℕ → UInt8) :
    IsPictureOf (pixelAt bgrx stride) width height
      (Writes.perform mem (bgrxToNv12 bgrx stride width height)) := by
  have hbyte := @perform_bgrxToNv12 bgrx stride width height heven mem
  refine ⟨fun y hy x hx => ?_, fun v hv u hu => ?_, fun v hv u hu => ?_⟩
  · rw [hbyte (luma_mem_bgrxToNv12 hy hx), Pixel.toNat_y]
  · rw [hbyte (cb_mem_bgrxToNv12 hv (by omega)), Pixel.toNat_cb]
  · rw [hbyte (cr_mem_bgrxToNv12 hv (by omega)), Pixel.toNat_cr]

/-- With an even width, every byte of a chroma row is stored. -/
theorem chroma_mem_bgrxToNv12 (heven : Even width) {v x : ℕ} (hv : v < height / 2)
    (hx : x < width) :
    ∃ b, (width * height + v * width + x, b) ∈ bgrxToNv12 bgrx stride width height := by
  obtain ⟨n, rfl⟩ := heven
  rcases Nat.even_or_odd' x with ⟨u, rfl | rfl⟩
  · exact ⟨_, cb_mem_bgrxToNv12 hv (by omega)⟩
  · exact ⟨_, cr_mem_bgrxToNv12 hv (by omega)⟩

end Picture

/-! ### The copy to the surface -/

theorem mem_copyRows {src stride dst pitch width rows : ℕ} {m : ℕ × ℕ} :
    m ∈ copyRows src stride dst pitch width rows ↔
      ∃ y < rows, ∃ x < width, m = (dst + y * pitch + x, src + y * stride + x) := by
  simp only [copyRows, List.mem_flatMap, List.mem_map, List.mem_range, eq_comm]

/-- The rows of one plane do not overlap. -/
theorem copyRows_functional {src stride dst pitch width rows : ℕ} (hpitch : width ≤ pitch)
    {m m' : ℕ × ℕ} (hm : m ∈ copyRows src stride dst pitch width rows)
    (hm' : m' ∈ copyRows src stride dst pitch width rows) (hdst : m.1 = m'.1) : m.2 = m'.2 := by
  obtain ⟨y, _, x, hx, rfl⟩ := mem_copyRows.1 hm
  obtain ⟨y', _, x', hx', rfl⟩ := mem_copyRows.1 hm'
  dsimp only at hdst ⊢
  obtain ⟨rfl, rfl⟩ := @place_inj pitch y x y' x' (by omega) (by omega) (by omega)
  rfl

/-! ### What initialising the encoder promises -/

/-- An encoder that was initialised for a size: the `int` product of `calc_coded_buf_size` was one,
and the conversion buffer is missing or as large as the size needs. -/
structure PixelEncoder.Ready (enc : PixelEncoder) (width height : ℤ) : Prop where
  width_eq : enc.width = width
  height_eq : enc.height = height
  area_lt : width * height * 3 < 2 ^ 31
  convBuf_eq : enc.convBuf = none ∨ enc.convBufSize = convBufNeeded width height

theorem cInt_eq_some {x y : ℤ} (h : cInt x = some y) : y = x ∧ -2 ^ 31 ≤ x ∧ x < 2 ^ 31 := by
  unfold cInt at h
  split at h
  · next hrange => exact ⟨(Option.some.inj h).symm, hrange⟩
  · exact absurd h.symm (Option.some_ne_none y)

theorem area_lt_of_calcCodedBufSize {width height size : ℤ}
    (h : calcCodedBufSize width height = some size) : width * height * 3 < 2 ^ 31 := by
  obtain ⟨area, harea, h⟩ := Option.bind_eq_some_iff.1 h
  obtain ⟨product, hproduct, -⟩ := Option.bind_eq_some_iff.1 h
  obtain ⟨rfl, -⟩ := cInt_eq_some harea
  exact (cInt_eq_some hproduct).2.2

section Init

variable {width height bitrateKbps fps : ℤ} {surfaces : List VASurfaceID} {codedBuf : UInt32}
  {fresh : Option (ℕ → UInt8)} {enc : PixelEncoder}

theorem pixelEncoderInit_ready
    (h : pixelEncoderInit width height bitrateKbps fps surfaces codedBuf fresh = some enc) :
    enc.Ready width height := by
  obtain ⟨size, hsize, h⟩ := Option.bind_eq_some_iff.1 h
  obtain ⟨mem, -, h⟩ := Option.bind_eq_some_iff.1 h
  obtain rfl := Option.some.inj h
  exact ⟨rfl, rfl, area_lt_of_calcCodedBufSize hsize, Or.inr rfl⟩

theorem pixelEncoderInit_codedBuf
    (h : pixelEncoderInit width height bitrateKbps fps surfaces codedBuf fresh = some enc) :
    enc.codedBuf = codedBuf := by
  obtain ⟨size, -, h⟩ := Option.bind_eq_some_iff.1 h
  obtain ⟨mem, -, h⟩ := Option.bind_eq_some_iff.1 h
  obtain rfl := Option.some.inj h
  rfl

theorem PixelEncoder.Ready.ensureConvBuf (h : enc.Ready width height)
    (fresh : Option (ℕ → UInt8)) : (enc.ensureConvBuf fresh).Ready width height := by
  have hneeded : convBufNeeded enc.width enc.height = convBufNeeded width height := by
    rw [h.width_eq, h.height_eq]
  unfold PixelEncoder.ensureConvBuf
  dsimp only
  split
  · cases fresh with
    | none => exact ⟨h.width_eq, h.height_eq, h.area_lt, Or.inl rfl⟩
    | some mem => exact ⟨h.width_eq, h.height_eq, h.area_lt, Or.inr hneeded⟩
  · exact h

theorem PixelEncoder.Ready.convertBgrx (h : enc.Ready width height) (call : BgrxCall) :
    (enc.convertBgrx call).Ready width height := by
  obtain ⟨hw, hh, harea, hbuf⟩ := h.ensureConvBuf call.fresh
  refine ⟨hw, hh, harea, hbuf.imp (fun hnone => ?_) id⟩
  unfold PixelEncoder.convertBgrx
  dsimp only
  rw [hnone, Option.map_none]

/-- Frames that were encoded before change nothing about it. -/
theorem PixelEncoder.Ready.foldl (h : enc.Ready width height) (earlier : List BgrxCall) :
    (earlier.foldl PixelEncoder.convertBgrx enc).Ready width height := by
  induction earlier generalizing enc with
  | nil => exact h
  | cons call earlier ih => exact ih (h.convertBgrx call)

end Init

/-! ### From the frame to the surface -/

section Surface

variable {width height : ℤ} {enc : PixelEncoder} {image : VAImage}

/-- **The place of the chroma plane**, computed in 32 bits, is the one of the conversion. -/
theorem PixelEncoder.Ready.chromaPlace (h : enc.Ready width height) (hwidth : 0 < width)
    (hheight : 0 < height) :
    (UInt32.ofInt enc.width * UInt32.ofInt enc.height).toNat =
      enc.width.toNat * enc.height.toNat := by
  obtain ⟨hw, hh, harea, -⟩ := h
  rw [hw, hh]
  have hle : width ≤ width * height := le_mul_of_one_le_right hwidth.le hheight
  have hle' : height ≤ width * height := le_mul_of_one_le_left hheight.le hwidth
  have hcast : ∀ {x : ℤ}, 0 < x → x < 2 ^ 31 → (UInt32.ofInt x).toNat = x.toNat := by
    intro x h₀ h₁
    rw [UInt32.ofInt, UInt32.toNat_ofNat']
    omega
  rw [UInt32.toNat_mul, hcast hwidth (by omega), hcast hheight (by omega)]
  have hprod : ((width.toNat * height.toNat : ℕ) : ℤ) = width * height := by
    rw [Nat.cast_mul, Int.toNat_of_nonneg hwidth.le, Int.toNat_of_nonneg hheight.le]
  exact Nat.mod_eq_of_lt (by omega)

/-- The stride of the conversion, as the copy gets it. -/
theorem PixelEncoder.Ready.toNat_stride (h : enc.Ready width height) (hwidth : 0 < width)
    (hheight : 0 < height) : (UInt32.ofInt enc.width).toNat = enc.width.toNat := by
  have hle : width ≤ width * height := le_mul_of_one_le_right hwidth.le hheight
  have harea := h.area_lt
  rw [h.width_eq, UInt32.ofInt, UInt32.toNat_ofNat']
  omega

/-- **What the copy moves**: rows of the luma, then rows of the chroma. -/
theorem PixelEncoder.Ready.mem_copyNv12 (h : enc.Ready width height) (hwidth : 0 < width)
    (hheight : 0 < height) {m : ℕ × ℕ} :
    m ∈ copyNv12 enc.toDbEncoder (UInt32.ofInt enc.width) image ↔
      (∃ y < height.toNat, ∃ x < width.toNat,
        m = (image.lumaAt y x, y * width.toNat + x)) ∨
      ∃ v < height.toNat / 2, ∃ x < width.toNat,
        m = (image.chromaAt v x, width.toNat * height.toNat + v * width.toNat + x) := by
  rw [copyNv12, List.mem_append, mem_copyRows, mem_copyRows, h.toNat_stride hwidth hheight,
    h.chromaPlace hwidth hheight, h.width_eq, h.height_eq]
  simp only [Nat.zero_add, VAImage.lumaAt, VAImage.chromaAt]

/-- **No byte of the surface is stored twice.** -/
theorem copyNv12_functional (himage : image.Holds enc.width.toNat enc.height.toNat)
    {stride : UInt32} {m m' : ℕ × ℕ} (hm : m ∈ copyNv12 enc.toDbEncoder stride image)
    (hm' : m' ∈ copyNv12 enc.toDbEncoder stride image) (hdst : m.1 = m'.1) : m.2 = m'.2 := by
  rw [copyNv12, List.mem_append] at hm hm'
  rcases hm with hm | hm <;> rcases hm' with hm' | hm'
  · exact copyRows_functional himage.luma hm hm' hdst
  · obtain ⟨y, hy, x, hx, rfl⟩ := mem_copyRows.1 hm
    obtain ⟨v, hv, x', hx', rfl⟩ := mem_copyRows.1 hm'
    exact absurd hdst (himage.disjoint y hy x hx v hv x' hx')
  · obtain ⟨v, hv, x', hx', rfl⟩ := mem_copyRows.1 hm
    obtain ⟨y, hy, x, hx, rfl⟩ := mem_copyRows.1 hm'
    exact absurd hdst.symm (himage.disjoint y hy x hx v hv x' hx')
  · exact copyRows_functional himage.chroma hm hm' hdst

/-- A byte that is moved arrives. -/
theorem copyToSurface_apply (himage : image.Holds enc.width.toNat enc.height.toNat)
    {stride : UInt32} {m : ℕ × ℕ} (hm : m ∈ copyNv12 enc.toDbEncoder stride image)
    (nv12 surface : ℕ → UInt8) :
    copyToSurface enc.toDbEncoder nv12 stride image surface m.1 = nv12 m.2 := by
  refine Writes.perform_of_mem (List.mem_map.2 ⟨m, hm, rfl⟩) ?_
  rintro s hs hfst
  obtain ⟨m', hm', rfl⟩ := List.mem_map.1 hs
  rw [copyNv12_functional himage hm' hm hfst]

theorem PixelEncoder.Ready.ensureConvBuf_sizes (h : enc.Ready width height)
    (fresh : Option (ℕ → UInt8)) :
    (enc.ensureConvBuf fresh).width = width ∧ (enc.ensureConvBuf fresh).height = height :=
  ⟨(h.ensureConvBuf fresh).width_eq, (h.ensureConvBuf fresh).height_eq⟩

/-- **The picture on its way**: the conversion makes the picture of the frame, and the copy
moves it to the surface. -/
theorem PixelEncoder.Ready.encodeBgrx_picture (h : enc.Ready width height)
    (heven : Even width.toNat) (himage : image.Holds width.toNat height.toNat)
    {call : BgrxCall} {surface surface' : ℕ → UInt8}
    (hencode : enc.encodeBgrx call image surface = some surface') :
    ∃ nv12, IsPictureOf (pixelAt call.bgrx call.stride) width.toNat height.toNat nv12 ∧
      ∀ m ∈ copyNv12 enc.toDbEncoder (UInt32.ofInt enc.width) image, surface' m.1 = nv12 m.2 := by
  obtain ⟨nv12, hnv12, rfl⟩ := Option.map_eq_some_iff.1 hencode
  obtain ⟨mem, -, hmem⟩ := Option.map_eq_some_iff.1 hnv12
  obtain ⟨hw, hh⟩ := h.ensureConvBuf_sizes call.fresh
  refine ⟨nv12, ?_, fun m hm => ?_⟩
  · rw [← hmem, hw, hh]
    exact isPictureOf_bgrxToNv12 heven mem
  · rw [← h.width_eq, ← h.height_eq] at himage
    exact copyToSurface_apply himage hm nv12 surface

end Surface

/-- **A BGRx frame reaches the surface**: for every initialised encoder, whatever frames
it has encoded before, every byte of the surface that belongs to the picture is the
fixed-point formula of its pixel, in its range, and every byte of the conversion buffer that
is copied was stored by the conversion of this frame. -/
theorem bgrx_reaches_surface {width height bitrateKbps fps : ℤ} {surfaces : List VASurfaceID}
    {codedBuf : UInt32} {fresh : Option (ℕ → UInt8)} {enc₀ enc : PixelEncoder}
    (hinit : pixelEncoderInit width height bitrateKbps fps surfaces codedBuf fresh = some enc₀)
    (earlier : List BgrxCall) (henc : earlier.foldl PixelEncoder.convertBgrx enc₀ = enc)
    (hwidth : 0 < width) (hheight : 0 < height) (heven : Even width)
    (call : BgrxCall) {image : VAImage} (himage : image.Holds width.toNat height.toNat)
    {surface surface' : ℕ → UInt8}
    (hencode : enc.encodeBgrx call image surface = some surface') :
    (∀ y < height.toNat, ∀ x < width.toNat,
      ((surface' (image.lumaAt y x)).toNat : ℤ) = (pixelAt call.bgrx call.stride y x).y ∧
      16 ≤ (surface' (image.lumaAt y x)).toNat ∧ (surface' (image.lumaAt y x)).toNat ≤ 235) ∧
    (∀ v < height.toNat / 2, ∀ u < width.toNat / 2,
      ((surface' (image.chromaAt v (2 * u))).toNat : ℤ) =
        (pixelAt call.bgrx call.stride (2 * v) (2 * u)).cb ∧
      ((surface' (image.chromaAt v (2 * u + 1))).toNat : ℤ) =
        (pixelAt call.bgrx call.stride (2 * v) (2 * u)).cr ∧
      (∀ x ∈ [2 * u, 2 * u + 1], 16 ≤ (surface' (image.chromaAt v x)).toNat ∧
        (surface' (image.chromaAt v x)).toNat ≤ 240)) ∧
    ∀ m ∈ copyNv12 enc.toDbEncoder (UInt32.ofInt enc.width) image,
      ∃ b, (m.2, b) ∈ bgrxToNv12 call.bgrx call.stride width.toNat height.toNat := by
  have hready : enc.Ready width height := henc ▸ (pixelEncoderInit_ready hinit).foldl earlier
  have heven' : Even width.toNat := by
    obtain ⟨n, rfl⟩ := heven
    exact ⟨n.toNat, by omega⟩
  have hmove := @PixelEncoder.Ready.mem_copyNv12 _ _ _ image hready hwidth hheight
  obtain ⟨nv12, hpicture, hmoved⟩ := hready.encodeBgrx_picture heven' himage hencode
  refine ⟨fun y hy x hx => ?_, fun v hv u hu => ?_, fun m hm => ?_⟩
  · have hluma := hpicture.luma y hy x hx
    have hrange := (pixelAt call.bgrx call.stride y x).y_mem
    rw [hmoved _ (hmove.2 (Or.inl ⟨y, hy, x, hx, rfl⟩))]
    dsimp only
    omega
  · have hcb := hpicture.cb v hv u hu
    have hcr := hpicture.cr v hv u hu
    have hbrange := (pixelAt call.bgrx call.stride (2 * v) (2 * u)).cb_mem
    have hrrange := (pixelAt call.bgrx call.stride (2 * v) (2 * u)).cr_mem
    have hbmoved := hmoved _ (hmove.2 (Or.inr ⟨v, hv, 2 * u, by omega, rfl⟩))
    have hrmoved := hmoved _ (hmove.2 (Or.inr ⟨v, hv, 2 * u + 1, by omega, rfl⟩))
    dsimp only at hbmoved hrmoved
    refine ⟨by rw [hbmoved, hcb], by rw [hrmoved, hcr], ?_⟩
    intro x hx
    rw [List.mem_cons, List.mem_singleton] at hx
    rcases hx with rfl | rfl
    · rw [hbmoved]
      omega
    · rw [hrmoved]
      omega
  · rcases hmove.1 hm with ⟨y, hy, x, hx, rfl⟩ | ⟨v, hv, x, hx, rfl⟩
    · exact ⟨_, luma_mem_bgrxToNv12 hy hx⟩
    · exact chroma_mem_bgrxToNv12 heven' hv hx

/-- A red and three black pixels, in rows of eight bytes. -/
def redCorner : BgrxCall where
  bgrx o := if o = 2 then 255 else 0
  stride := 8
  fresh := none

/-- Two rows of luma with a pitch of four bytes, and a row of chroma behind them. -/
def smallImage : VAImage where
  imageId := 5
  buf := 6
  offsets i := if i = 0 then 0 else 8
  pitches _ := 4

theorem smallImage_holds : smallImage.Holds (2 : ℤ).toNat (2 : ℤ).toNat :=
  ⟨by decide, by decide, by decide⟩

/-- An encoder for this size, right after its start. -/
def smallEncoder : PixelEncoder :=
  { dbEncoderInit 2 2 15000 60 [0, 1, 2, 3] 4 with
    codedBufSize := 4 * 1024 * 1024
    convBuf := some fun _ => 0
    convBufSize := 6 }

theorem bgrx_reaches_surface_redCorner :
    (smallEncoder.encodeBgrx redCorner smallImage fun _ => 0).map
      (fun surface => ((surface 0).toNat, (surface 8).toNat, (surface 9).toNat)) =
        some (82, 90, 240) := by
  have hinit : pixelEncoderInit 2 2 15000 60 [0, 1, 2, 3] 4 (some fun _ => 0) =
      some smallEncoder := rfl
  obtain ⟨surface, hencode⟩ : ∃ surface,
      smallEncoder.encodeBgrx redCorner smallImage (fun _ => 0) = some surface := ⟨_, rfl⟩
  obtain ⟨hluma, hchroma, -⟩ := bgrx_reaches_surface hinit [] rfl (by decide) (by decide)
    (by decide) redCorner smallImage_holds hencode
  have hy : ((surface 0).toNat : ℤ) = 82 := (hluma 0 (by decide) 0 (by decide)).1
  have hcb : ((surface 8).toNat : ℤ) = 90 := (hchroma 0 (by decide) 0 (by decide)).1
  have hcr : ((surface 9).toNat : ℤ) = 240 := (hchroma 0 (by decide) 0 (by decide)).2.1
  rw [hencode, Option.map_some]
  congr 2
  · exact_mod_cast hy
  · congr 1
    · exact_mod_cast hcb
    · exact_mod_cast hcr

end DisplayBridge
