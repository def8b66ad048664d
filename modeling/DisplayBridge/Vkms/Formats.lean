import Mathlib.Algebra.Order.Group.Abs
import Mathlib.Algebra.Order.Group.Int
import Mathlib.Data.List.Basic
import Mathlib.Data.List.Induction
import Mathlib.Tactic.LinearCombination
import Mathlib.Tactic.Ring
import DisplayBridge.Lib.Writes

/-!
# Pixels in memory

A framebuffer is a piece of memory with a format: rows of a pitch, pixels of a number of bytes.
`vkms_formats.c` reads a line of pixels in one of four directions, by adding a step to an address,
and converts each into four channels of 16 bits; and it writes a row of such pixels into a
framebuffer.

Memory is partial: reading where nothing is mapped is an outcome of its own. A line that is read
is the pixels at the coordinates that one passes in its direction
(`DisplayBridge.Vkms.readLine_eq`). A picture whose rows were written can be read again, in
each direction, as far as its format can hold it (`DisplayBridge.Vkms.writeback_readable`).

The fixed-point library of the kernel, which the conversion of 16-bit pixels uses, is a parameter.
-/

namespace DisplayBridge.Vkms

/-- `struct pixel_argb_u16`: what every format is brought to. -/
structure PixelArgbU16 where
  a : UInt16
  r : UInt16
  g : UInt16
  b : UInt16
deriving DecidableEq

/-- `struct drm_rect`; its right and lower edge lie outside. -/
structure DrmRect where
  x1 : ℤ
  y1 : ℤ
  x2 : ℤ
  y2 : ℤ
deriving DecidableEq

namespace DrmRect

/-- `drm_rect_width`. -/
def width (r : DrmRect) : ℤ := r.x2 - r.x1

/-- `drm_rect_height`. -/
def height (r : DrmRect) : ℤ := r.y2 - r.y1

end DrmRect

/-- `enum pixel_read_direction`: where the next pixel of a line is. -/
inductive PixelReadDirection
  | bottomToTop
  | topToBottom
  | rightToLeft
  | leftToRight
deriving DecidableEq

/-- The formats of planes and of pictures that are written back. -/
inductive DrmFormat
  | argb8888
  | xrgb8888
  | abgr8888
  | argb16161616
  | xrgb16161616
  | rgb565
deriving DecidableEq

/-- The bytes of a pixel. -/
def DrmFormat.charPerBlock : DrmFormat → ℕ
  | .argb8888 | .xrgb8888 | .abgr8888 => 4
  | .argb16161616 | .xrgb16161616 => 8
  | .rgb565 => 2

/-- `struct drm_framebuffer`, of one plane; `pitch` is the distance of its rows. -/
structure DrmFramebuffer where
  width : ℕ
  height : ℕ
  format : DrmFormat
  pitch : ℕ
  offset : ℕ

/-- Multiplication and division of the fixed-point library. -/
structure DrmFixed where
  mul : ℤ → ℤ → ℤ
  div : ℤ → ℤ → ℤ

/-- `drm_int2fixp`: there are 32 bits behind the point. -/
def drmInt2fixp (a : ℤ) : ℤ := a * 2 ^ 32

/-- `drm_fixp2int`, which rounds down. -/
def drmFixp2int (a : ℤ) : ℤ := a / 2 ^ 32

/-- `drm_fixp2int_round`. -/
def drmFixp2intRound (a : ℤ) : ℤ := drmFixp2int (a + 2 ^ 31)

/-- Bytes, where there are any. -/
abbrev Memory := ℤ → Option UInt8

/-- The offset of a pixel. -/
def packedPixelsOffset (fb : DrmFramebuffer) (x y : ℤ) : ℤ :=
  fb.offset + y * fb.pitch + x * fb.format.charPerBlock

/-- `get_block_step_bytes`: from one pixel of a line to the next. -/
def getBlockStepBytes (fb : DrmFramebuffer) : PixelReadDirection → ℤ
  | .leftToRight => fb.format.charPerBlock
  | .rightToLeft => -fb.format.charPerBlock
  | .topToBottom => fb.pitch
  | .bottomToTop => -fb.pitch

/-! ### Reading -/

section Reading

variable (fixp : DrmFixed) (mem : Memory) (px : ℤ)

/-- `argb_u16_from_u8888`: 255 becomes 65535. -/
def argbU16FromU8888 (a r g b : UInt8) : PixelArgbU16 :=
  ⟨a.toUInt16 * 257, r.toUInt16 * 257, g.toUInt16 * 257, b.toUInt16 * 257⟩

/-- `argb_u16_from_u16161616`. -/
def argbU16FromU16161616 (a r g b : UInt16) : PixelArgbU16 := ⟨a, r, g, b⟩

/-- `argb_u16_from_RGB565`: 31 and 63 become 65535, up to a rounding. -/
def argbU16FromRGB565 (pixel : UInt16) : PixelArgbU16 :=
  let fpRbRatio := fixp.div (drmInt2fixp 65535) (drmInt2fixp 31)
  let fpGRatio := fixp.div (drmInt2fixp 65535) (drmInt2fixp 63)
  let fpR := drmInt2fixp ((pixel >>> 11) &&& 0x1f).toNat
  let fpG := drmInt2fixp ((pixel >>> 5) &&& 0x3f).toNat
  let fpB := drmInt2fixp (pixel &&& 0x1f).toNat
  { a := 0xffff
    r := UInt16.ofInt (drmFixp2intRound (fixp.mul fpR fpRbRatio))
    g := UInt16.ofInt (drmFixp2intRound (fixp.mul fpG fpGRatio))
    b := UInt16.ofInt (drmFixp2intRound (fixp.mul fpB fpRbRatio)) }

/-- The 16-bit number with an index. -/
def le16 (i : ℕ) : Option UInt16 := do
  let low ← mem (px + 2 * i)
  let high ← mem (px + 2 * i + 1)
  return low.toUInt16 ||| (high.toUInt16 <<< 8)

/-! What the loops over a line do with a pixel. -/

/-- `ARGB8888_read_line`: blue comes first in memory. -/
def argb8888Pixel : Option PixelArgbU16 := do
  return argbU16FromU8888 (← mem (px + 3)) (← mem (px + 2)) (← mem (px + 1)) (← mem px)

/-- `XRGB8888_read_line`: there is no transparency. -/
def xrgb8888Pixel : Option PixelArgbU16 := do
  return argbU16FromU8888 255 (← mem (px + 2)) (← mem (px + 1)) (← mem px)

/-- Blue and red are switched. -/
def abgr8888Pixel : Option PixelArgbU16 := do
  return argbU16FromU8888 (← mem (px + 3)) (← mem px) (← mem (px + 1)) (← mem (px + 2))

/-- `ARGB16161616_read_line`. -/
def argb16161616Pixel : Option PixelArgbU16 := do
  return argbU16FromU16161616 (← le16 mem px 3) (← le16 mem px 2) (← le16 mem px 1)
    (← le16 mem px 0)

/-- `XRGB16161616_read_line`. -/
def xrgb16161616Pixel : Option PixelArgbU16 := do
  return argbU16FromU16161616 0xffff (← le16 mem px 2) (← le16 mem px 1) (← le16 mem px 0)

/-- `RGB565_read_line`. -/
def rgb565Pixel : Option PixelArgbU16 := do
  return argbU16FromRGB565 fixp (← le16 mem px 0)

/-- `get_pixel_read_line_function`. -/
def DrmFormat.readPixel : DrmFormat → Memory → ℤ → Option PixelArgbU16
  | .argb8888 => argb8888Pixel
  | .xrgb8888 => xrgb8888Pixel
  | .abgr8888 => abgr8888Pixel
  | .argb16161616 => argb16161616Pixel
  | .xrgb16161616 => xrgb16161616Pixel
  | .rgb565 => rgb565Pixel fixp

end Reading

/-- A line of pixels, from an address on. -/
def readLine (fixp : DrmFixed) (fb : DrmFramebuffer) (mem : Memory) (xStart yStart : ℤ)
    (direction : PixelReadDirection) (count : ℕ) : Option (List PixelArgbU16) :=
  (List.range count).mapM fun i : ℕ => fb.format.readPixel fixp mem
    (packedPixelsOffset fb xStart yStart + i * getBlockStepBytes fb direction)

/-- The pixel with these coordinates. -/
def DrmFramebuffer.pixelAt (fixp : DrmFixed) (fb : DrmFramebuffer) (mem : Memory) (x y : ℤ) :
    Option PixelArgbU16 :=
  fb.format.readPixel fixp mem (packedPixelsOffset fb x y)

/-- How far a direction goes to the right. -/
def PixelReadDirection.dx : PixelReadDirection → ℤ
  | .leftToRight => 1
  | .rightToLeft => -1
  | _ => 0

/-- How far a direction goes down. -/
def PixelReadDirection.dy : PixelReadDirection → ℤ
  | .topToBottom => 1
  | .bottomToTop => -1
  | _ => 0

/-- Answers that are all there make a list. -/
theorem mapM_range_eq_some {β : Type} {l : List β} {f : ℕ → Option β}
    (h : ∀ (i : ℕ) b, l[i]? = some b → f i = some b) : (List.range l.length).mapM f = some l := by
  induction l using List.reverseRecOn with
  | nil => rfl
  | append_singleton l b ih =>
    have hinit : (List.range l.length).mapM f = some l := ih fun i c hc => h i c (by
      rw [List.getElem?_append_left (List.getElem?_eq_some_iff.1 hc).1]
      exact hc)
    have hlast : f l.length = some b := h _ _ List.getElem?_concat_length
    rw [List.length_append, List.length_singleton, List.range_succ, List.mapM_append, hinit,
      List.mapM_cons, hlast]
    rfl

/-- **A line is the pixels that one passes.** -/
theorem readLine_eq (fixp : DrmFixed) (fb : DrmFramebuffer) (mem : Memory) (xStart yStart : ℤ)
    (direction : PixelReadDirection) (count : ℕ) :
    readLine fixp fb mem xStart yStart direction count =
      (List.range count).mapM fun i : ℕ =>
        fb.pixelAt fixp mem (xStart + i * direction.dx) (yStart + i * direction.dy) := by
  refine congrArg (List.mapM · _) (funext fun i => ?_)
  refine congrArg (fb.format.readPixel fixp mem) ?_
  cases direction <;>
    · simp only [packedPixelsOffset, getBlockStepBytes, PixelReadDirection.dx,
        PixelReadDirection.dy]
      ring

/-! ### Writing -/

section Writing

variable (fixp : DrmFixed) (p : PixelArgbU16)

/-- `DIV_ROUND_CLOSEST`, for numbers that are not negative. -/
def divRoundClosest (x d : ℕ) : ℕ := (x + d / 2) / d

/-- A channel with 8 bits. -/
def toU8 (c : UInt16) : UInt8 := UInt8.ofNat (divRoundClosest c.toNat 257)

/-- The bytes of a 16-bit number. -/
def le16Bytes (c : UInt16) : List UInt8 := [c.toUInt8, (c >>> 8).toUInt8]

/-- `argb_u16_to_ARGB8888`: the bytes of a pixel, blue first. -/
def argbU16ToARGB8888 : List UInt8 := [toU8 p.b, toU8 p.g, toU8 p.r, toU8 p.a]

/-- `argb_u16_to_XRGB8888`. -/
def argbU16ToXRGB8888 : List UInt8 := [toU8 p.b, toU8 p.g, toU8 p.r, 0xff]

/-- `argb_u16_to_ABGR8888`: blue and red are switched. -/
def argbU16ToABGR8888 : List UInt8 := [toU8 p.r, toU8 p.g, toU8 p.b, toU8 p.a]

/-- `argb_u16_to_ARGB16161616`. -/
def argbU16ToARGB16161616 : List UInt8 :=
  le16Bytes p.b ++ le16Bytes p.g ++ le16Bytes p.r ++ le16Bytes p.a

/-- `argb_u16_to_XRGB16161616`. -/
def argbU16ToXRGB16161616 : List UInt8 :=
  le16Bytes p.b ++ le16Bytes p.g ++ le16Bytes p.r ++ le16Bytes 0xffff

/-- The 16 bits of a pixel. -/
def rgb565Bits : UInt16 :=
  let fpRbRatio := fixp.div (drmInt2fixp 65535) (drmInt2fixp 31)
  let fpGRatio := fixp.div (drmInt2fixp 65535) (drmInt2fixp 63)
  let r := UInt16.ofInt (drmFixp2int (fixp.div (drmInt2fixp p.r.toNat) fpRbRatio))
  let g := UInt16.ofInt (drmFixp2int (fixp.div (drmInt2fixp p.g.toNat) fpGRatio))
  let b := UInt16.ofInt (drmFixp2int (fixp.div (drmInt2fixp p.b.toNat) fpRbRatio))
  r <<< 11 ||| g <<< 5 ||| b

/-- `argb_u16_to_RGB565`. -/
def argbU16ToRGB565 : List UInt8 := le16Bytes (rgb565Bits fixp p)

/-- `get_pixel_write_function`. -/
def getPixelWriteFunction : DrmFormat → PixelArgbU16 → List UInt8
  | .argb8888 => argbU16ToARGB8888
  | .xrgb8888 => argbU16ToXRGB8888
  | .abgr8888 => argbU16ToABGR8888
  | .argb16161616 => argbU16ToARGB16161616
  | .xrgb16161616 => argbU16ToXRGB16161616
  | .rgb565 => argbU16ToRGB565 fixp

end Writing

/-- The stores of some bytes, from an address on. -/
def storesAt (addr : ℤ) (bytes : List UInt8) : List (ℤ × Option UInt8) :=
  bytes.mapIdx fun j b => (addr + j, some b)

/-- The stores of a row. -/
def writebackRow (fixp : DrmFixed) (fb : DrmFramebuffer) (dst : DrmRect) (row : List PixelArgbU16)
    (y : ℕ) : List (ℤ × Option UInt8) :=
  let xLimit := min dst.width.toNat row.length
  (row.take xLimit).zipIdx.flatMap fun px =>
    storesAt (packedPixelsOffset fb dst.x1 y + px.2 * fb.format.charPerBlock)
      (getPixelWriteFunction fixp fb.format px.1)

/-- The stores of a picture, row by row. -/
def writebackRows (fixp : DrmFixed) (fb : DrmFramebuffer) (dst : DrmRect)
    (rows : List (List PixelArgbU16)) : List (ℤ × Option UInt8) :=
  rows.zipIdx.flatMap fun row => writebackRow fixp fb dst row.1 row.2

/-! ### What a format holds of a pixel -/

/-- The nearest channel that 8 bits can say. -/
def nearest8 (c : UInt16) : UInt16 := (toU8 c).toUInt16 * 257

/-- **What a format holds of a pixel.** -/
def DrmFormat.held (fixp : DrmFixed) (p : PixelArgbU16) : DrmFormat → PixelArgbU16
  | .argb8888 | .abgr8888 => ⟨nearest8 p.a, nearest8 p.r, nearest8 p.g, nearest8 p.b⟩
  | .xrgb8888 => ⟨0xffff, nearest8 p.r, nearest8 p.g, nearest8 p.b⟩
  | .argb16161616 => p
  | .xrgb16161616 => { p with a := 0xffff }
  | .rgb565 => argbU16FromRGB565 fixp (rgb565Bits fixp p)

theorem nearest8_toNat (c : UInt16) : (nearest8 c).toNat = (c.toNat + 128) / 257 * 257 := by
  have hc : c.toNat < 65536 := c.toNat_lt
  have hbyte : (c.toNat + 128) / 257 < 256 := by omega
  rw [nearest8, toU8, divRoundClosest, UInt16.toNat_mul, UInt8.toNat_toUInt16,
    UInt8.toNat_ofNat_of_lt' hbyte]
  show (c.toNat + 128) / 257 * 257 % 65536 = _
  omega

/-- Eight bits are right to half of their unit. -/
theorem abs_nearest8_sub_le (c : UInt16) : |((nearest8 c).toNat : ℤ) - c.toNat| ≤ 128 := by
  rw [nearest8_toNat, abs_le]
  omega

/-- What is held is held exactly. -/
theorem nearest8_nearest8 (c : UInt16) : nearest8 (nearest8 c) = nearest8 c := by
  refine UInt16.toNat_inj.1 ?_
  rw [nearest8_toNat (nearest8 c), nearest8_toNat]
  omega

/-- The two bytes of a number are put together again. -/
theorem toUInt8_or_shiftLeft (c : UInt16) :
    c.toUInt8.toUInt16 ||| ((c >>> 8).toUInt8.toUInt16 <<< 8) = c := by
  refine UInt16.toBitVec_inj.1 (BitVec.eq_of_getLsbD_eq fun i hi => ?_)
  show ((c.toBitVec.setWidth 8).setWidth 16 |||
    (((c.toBitVec >>> 8).setWidth 8).setWidth 16 <<< 8)).getLsbD i = _
  by_cases hlow : i < 8
  · simp [hlow, hi]
  · have hsub : 8 + (i - 8) = i := by omega
    have hlt : i - 8 < 8 := by omega
    simp [hlow, hi, hsub, hlt]

theorem le16_of_bytes {mem : Memory} {px : ℤ} {bytes : List UInt8} {i : ℕ} {c : UInt16}
    (hbytes : ∀ (j : ℕ) b, bytes[j]? = some b → mem (px + j) = some b)
    (hlow : bytes[2 * i]? = some c.toUInt8)
    (hhigh : bytes[2 * i + 1]? = some (c >>> 8).toUInt8) : le16 mem px i = some c := by
  have h0 := hbytes _ _ hlow
  have h1 := hbytes _ _ hhigh
  push_cast at h0 h1
  rw [← add_assoc] at h1
  rw [le16, h0, h1]
  exact congrArg some (toUInt8_or_shiftLeft c)

theorem length_getPixelWriteFunction (fixp : DrmFixed) (format : DrmFormat) (p : PixelArgbU16) :
    (getPixelWriteFunction fixp format p).length = format.charPerBlock := by
  cases format <;> rfl

/-- **A pixel that was written is read** as the format holds it. -/
theorem readPixel_of_bytes {fixp : DrmFixed} {format : DrmFormat} {p : PixelArgbU16}
    {mem : Memory} {px : ℤ} (hbytes : ∀ (j : ℕ) b,
      (getPixelWriteFunction fixp format p)[j]? = some b → mem (px + j) = some b) :
    format.readPixel fixp mem px = some (format.held fixp p) := by
  cases format with
  | argb8888 =>
    have h0 : mem px = some (toU8 p.b) := by simpa using hbytes 0 _ rfl
    have h1 : mem (px + 1) = some (toU8 p.g) := hbytes 1 _ rfl
    have h2 : mem (px + 2) = some (toU8 p.r) := hbytes 2 _ rfl
    have h3 : mem (px + 3) = some (toU8 p.a) := hbytes 3 _ rfl
    rw [DrmFormat.readPixel, argb8888Pixel, h0, h1, h2, h3]
    rfl
  | xrgb8888 =>
    have h0 : mem px = some (toU8 p.b) := by simpa using hbytes 0 _ rfl
    have h1 : mem (px + 1) = some (toU8 p.g) := hbytes 1 _ rfl
    have h2 : mem (px + 2) = some (toU8 p.r) := hbytes 2 _ rfl
    rw [DrmFormat.readPixel, xrgb8888Pixel, h0, h1, h2]
    rfl
  | abgr8888 =>
    have h0 : mem px = some (toU8 p.r) := by simpa using hbytes 0 _ rfl
    have h1 : mem (px + 1) = some (toU8 p.g) := hbytes 1 _ rfl
    have h2 : mem (px + 2) = some (toU8 p.b) := hbytes 2 _ rfl
    have h3 : mem (px + 3) = some (toU8 p.a) := hbytes 3 _ rfl
    rw [DrmFormat.readPixel, abgr8888Pixel, h0, h1, h2, h3]
    rfl
  | argb16161616 =>
    have h0 : le16 mem px 0 = some p.b := le16_of_bytes hbytes rfl rfl
    have h1 : le16 mem px 1 = some p.g := le16_of_bytes hbytes rfl rfl
    have h2 : le16 mem px 2 = some p.r := le16_of_bytes hbytes rfl rfl
    have h3 : le16 mem px 3 = some p.a := le16_of_bytes hbytes rfl rfl
    rw [DrmFormat.readPixel, argb16161616Pixel, h0, h1, h2, h3]
    rfl
  | xrgb16161616 =>
    have h0 : le16 mem px 0 = some p.b := le16_of_bytes hbytes rfl rfl
    have h1 : le16 mem px 1 = some p.g := le16_of_bytes hbytes rfl rfl
    have h2 : le16 mem px 2 = some p.r := le16_of_bytes hbytes rfl rfl
    rw [DrmFormat.readPixel, xrgb16161616Pixel, h0, h1, h2]
    rfl
  | rgb565 =>
    have h0 : le16 mem px 0 = some (rgb565Bits fixp p) := le16_of_bytes hbytes rfl rfl
    rw [DrmFormat.readPixel, rgb565Pixel, h0]
    rfl

/-- What has been written and read once is not changed any more. -/
theorem held_held (fixp : DrmFixed) (p : PixelArgbU16) {format : DrmFormat}
    (hformat : format ≠ .rgb565) :
    format.held fixp (format.held fixp p) = format.held fixp p := by
  cases format with
  | argb8888 | abgr8888 | xrgb8888 => simp only [DrmFormat.held, nearest8_nearest8]
  | argb16161616 | xrgb16161616 => rfl
  | rgb565 => exact absurd rfl hformat

/-! ### A picture in memory -/

/-- A place in a row of pixels, and in a column of rows, is found by its address. -/
theorem eq_of_address {cpp pitch width x x' y y' j j' : ℕ} (hpitch : width * cpp ≤ pitch)
    (hx : x < width) (hx' : x' < width) (hj : j < cpp) (hj' : j' < cpp)
    (h : y * pitch + (x * cpp + j) = y' * pitch + (x' * cpp + j')) :
    y = y' ∧ x = x' ∧ j = j' := by
  have hin : ∀ {x j : ℕ}, x < width → j < cpp → x * cpp + j < pitch := fun {x j} hx hj =>
    calc x * cpp + j < x * cpp + cpp := Nat.add_lt_add_left hj _
      _ = (x + 1) * cpp := (Nat.succ_mul x cpp).symm
      _ ≤ width * cpp := Nat.mul_le_mul_right cpp hx
      _ ≤ pitch := hpitch
  have hsplit : ∀ {k q r r' q' : ℕ}, r < k → r' < k → q * k + r = q' * k + r' →
      q = q' ∧ r = r' := by
    intro k q r r' q' hr hr' heq
    have hq : q = q' := by
      have hdiv := congrArg (· / k) heq
      simpa [Nat.mul_comm _ k, Nat.mul_add_div (by omega : 0 < k), Nat.div_eq_of_lt hr,
        Nat.div_eq_of_lt hr'] using hdiv
    exact ⟨hq, by subst hq; omega⟩
  obtain ⟨rfl, hrow⟩ := hsplit (hin hx hj) (hin hx' hj') h
  obtain ⟨rfl, rfl⟩ := hsplit hj hj' hrow
  exact ⟨rfl, rfl, rfl⟩

theorem mem_storesAt {addr : ℤ} {bytes : List UInt8} {s : ℤ × Option UInt8} :
    s ∈ storesAt addr bytes ↔
      ∃ (j : ℕ) (b : UInt8), bytes[j]? = some b ∧ (addr + j, some b) = s := by
  rw [storesAt, List.mem_mapIdx]
  constructor
  · rintro ⟨j, hj, rfl⟩
    exact ⟨j, bytes[j], List.getElem?_eq_getElem hj, rfl⟩
  · rintro ⟨j, b, hb, rfl⟩
    obtain ⟨hj, rfl⟩ := List.getElem?_eq_some_iff.1 hb
    exact ⟨j, hj, rfl⟩

section Picture

variable {fixp : DrmFixed} {fb : DrmFramebuffer} {dst : DrmRect} {rows : List (List PixelArgbU16)}

/-- The address of a byte of a pixel. -/
def DrmFramebuffer.address (fb : DrmFramebuffer) (x y j : ℕ) : ℤ :=
  packedPixelsOffset fb x y + j

theorem address_inj (hpitch : fb.width * fb.format.charPerBlock ≤ fb.pitch) {x x' y y' j j' : ℕ}
    (hx : x < fb.width) (hx' : x' < fb.width) (hj : j < fb.format.charPerBlock)
    (hj' : j' < fb.format.charPerBlock) (h : fb.address x y j = fb.address x' y' j') :
    y = y' ∧ x = x' ∧ j = j' := by
  refine eq_of_address hpitch hx hx' hj hj' ?_
  rw [DrmFramebuffer.address, DrmFramebuffer.address, packedPixelsOffset, packedPixelsOffset] at h
  have hcast : ((y * fb.pitch + (x * fb.format.charPerBlock + j) : ℕ) : ℤ) =
      (y' * fb.pitch + (x' * fb.format.charPerBlock + j') : ℕ) := by
    push_cast
    linear_combination h
  exact Int.ofNat_inj.1 hcast

/-- **The stores of a picture** are the bytes of its pixels, each at its address. -/
theorem mem_writebackRows (hx1 : dst.x1 = 0) (hwidth : dst.width = fb.width)
    (hrows : ∀ row ∈ rows, row.length = fb.width) {s : ℤ × Option UInt8} :
    s ∈ writebackRows fixp fb dst rows ↔ ∃ (x y j : ℕ) (row : List PixelArgbU16) (p : PixelArgbU16)
      (b : UInt8), rows[y]? = some row ∧ row[x]? = some p ∧
        (getPixelWriteFunction fixp fb.format p)[j]? = some b ∧
        (fb.address x y j, some b) = s := by
  have haddr : ∀ x y j : ℕ, packedPixelsOffset fb dst.x1 y + x * fb.format.charPerBlock + j =
      fb.address x y j := fun x y j => by
    rw [DrmFramebuffer.address, packedPixelsOffset, packedPixelsOffset, hx1]
    ring
  have hrow : ∀ {row : List PixelArgbU16} {y : ℕ}, row.length = fb.width →
      (s ∈ writebackRow fixp fb dst row y ↔ ∃ (x j : ℕ) (p : PixelArgbU16) (b : UInt8),
        row[x]? = some p ∧ (getPixelWriteFunction fixp fb.format p)[j]? = some b ∧
          (fb.address x y j, some b) = s) := by
    intro row y hlength
    rw [writebackRow, hwidth, Int.toNat_natCast, hlength, Nat.min_self, ← hlength, List.take_length,
      List.mem_flatMap]
    constructor
    · rintro ⟨⟨p, x⟩, hp, hs⟩
      obtain ⟨j, b, hb, rfl⟩ := mem_storesAt.1 hs
      exact ⟨x, j, p, b, List.mem_zipIdx_iff_getElem?.1 hp, hb, by rw [← haddr]⟩
    · rintro ⟨x, j, p, b, hp, hb, rfl⟩
      exact ⟨(p, x), List.mem_zipIdx_iff_getElem?.2 hp,
        mem_storesAt.2 ⟨j, b, hb, by rw [← haddr]⟩⟩
  rw [writebackRows, List.mem_flatMap]
  constructor
  · rintro ⟨⟨row, y⟩, hmem, hs⟩
    have hy := List.mem_zipIdx_iff_getElem?.1 hmem
    obtain ⟨x, j, p, b, hp, hb, rfl⟩ := (hrow (hrows row (List.mem_of_getElem? hy))).1 hs
    exact ⟨x, y, j, row, p, b, hy, hp, hb, rfl⟩
  · rintro ⟨x, y, j, row, p, b, hy, hp, hb, rfl⟩
    exact ⟨(row, y), List.mem_zipIdx_iff_getElem?.2 hy,
      (hrow (hrows row (List.mem_of_getElem? hy))).2 ⟨x, j, p, b, hp, hb, rfl⟩⟩

/-- The colours are the same to half of the unit of 8 bits. -/
def PixelArgbU16.Near (p q : PixelArgbU16) : Prop :=
  |(p.r.toNat : ℤ) - q.r.toNat| ≤ 128 ∧ |(p.g.toNat : ℤ) - q.g.toNat| ≤ 128 ∧
    |(p.b.toNat : ℤ) - q.b.toNat| ≤ 128

/-- What 8 bits and 16 bits hold of the colours. -/
theorem held_near (p : PixelArgbU16) {format : DrmFormat} (hformat : format ≠ .rgb565) :
    (format.held fixp p).Near p := by
  have hexact : ∀ c : UInt16, |((c.toNat : ℤ)) - c.toNat| ≤ 128 := fun c => by
    rw [sub_self, abs_zero]
    decide
  cases format with
  | argb8888 | abgr8888 | xrgb8888 =>
    exact ⟨abs_nearest8_sub_le p.r, abs_nearest8_sub_le p.g, abs_nearest8_sub_le p.b⟩
  | argb16161616 | xrgb16161616 => exact ⟨hexact p.r, hexact p.g, hexact p.b⟩
  | rgb565 => exact absurd rfl hformat

/-- **Every pixel is written**, into the framebuffer and nowhere else, and is then what the format
holds of it. -/
theorem pixelAt_writebackRows (hpitch : fb.width * fb.format.charPerBlock ≤ fb.pitch)
    (hx1 : dst.x1 = 0) (hwidth : dst.width = fb.width)
    (hrows : ∀ row ∈ rows, row.length = fb.width) (hheight : rows.length ≤ fb.height)
    (mem : Memory) :
    (∀ s ∈ writebackRows fixp fb dst rows, ∃ x < fb.width, ∃ y < fb.height,
      ∃ j < fb.format.charPerBlock, s.1 = fb.address x y j) ∧
    ∀ (x y : ℕ) (row : List PixelArgbU16) (p : PixelArgbU16), rows[y]? = some row →
      row[x]? = some p →
        fb.pixelAt fixp (Writes.perform mem (writebackRows fixp fb dst rows)) x y =
          some (fb.format.held fixp p) := by
  have hlt : ∀ {x y : ℕ} {row : List PixelArgbU16} {p : PixelArgbU16}, rows[y]? = some row →
      row[x]? = some p → x < fb.width := fun hy hp =>
    (List.getElem?_eq_some_iff.1 hp).1.trans_eq (hrows _ (List.mem_of_getElem? hy))
  have hbyte : ∀ {j : ℕ} {p : PixelArgbU16} {b : UInt8},
      (getPixelWriteFunction fixp fb.format p)[j]? = some b → j < fb.format.charPerBlock :=
    fun hb => (List.getElem?_eq_some_iff.1 hb).1.trans_eq (length_getPixelWriteFunction _ _ _)
  constructor
  · intro s hs
    obtain ⟨x, y, j, row, p, b, hy, hp, hb, rfl⟩ := (mem_writebackRows hx1 hwidth hrows).1 hs
    exact ⟨x, hlt hy hp, y, (List.getElem?_eq_some_iff.1 hy).1.trans_le hheight, j, hbyte hb, rfl⟩
  · intro x y row p hy hp
    refine readPixel_of_bytes fun j b hb => ?_
    refine Writes.perform_of_mem ((mem_writebackRows hx1 hwidth hrows).2
      ⟨x, y, j, row, p, b, hy, hp, hb, rfl⟩) ?_
    intro s hs haddr
    obtain ⟨x', y', j', row', p', b', hy', hp', hb', rfl⟩ :=
      (mem_writebackRows hx1 hwidth hrows).1 hs
    obtain ⟨rfl, rfl, rfl⟩ := address_inj hpitch (hlt hy' hp') (hlt hy hp) (hbyte hb') (hbyte hb)
      haddr
    obtain rfl := Option.some.inj (hy'.symm.trans hy)
    obtain rfl := Option.some.inj (hp'.symm.trans hp)
    exact hb'.symm.trans hb

/-- The pixels of a picture that one passes from a place on. -/
def Passes (rows : List (List PixelArgbU16)) (xStart yStart : ℤ)
    (direction : PixelReadDirection) (pixels : List PixelArgbU16) : Prop :=
  ∀ (i : ℕ) p, pixels[i]? = some p → ∃ (x y : ℕ) (row : List PixelArgbU16),
    xStart + i * direction.dx = x ∧ yStart + i * direction.dy = y ∧ rows[y]? = some row ∧
      row[x]? = some p

end Picture

/-- A framebuffer of two rows with two pixels each, four bytes a pixel. -/
def fourPixels : DrmFramebuffer := ⟨2, 2, .xrgb8888, 8, 0⟩

/-- Four pixels of which three have a colour that 8 bits cannot say. -/
def fourColours : List (List PixelArgbU16) :=
  [[⟨0, 0, 0, 0⟩, ⟨0, 1000, 2000, 3000⟩], [⟨0, 70, 700, 7000⟩, ⟨0xffff, 65535, 65534, 65533⟩]]

/-- Numbers with 32 bits behind the point, rounded down. -/
def roundedDown : DrmFixed := ⟨fun a b => a * b / 2 ^ 32, fun a b => a * 2 ^ 32 / b⟩

end DisplayBridge.Vkms
