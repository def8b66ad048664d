import DisplayBridge.Lib.Sampling

/-!
# The renderer

A decoded picture is drawn by one triangle that is larger than the screen. The vertex shader
makes its three corners from their numbers alone (`DisplayBridge.vertexShader`), so that every
pixel of the drawable lies in it and is given its own place in the picture
(`DisplayBridge.vertexShader_covers`). The fragment shader samples both planes of the
picture there and converts from BT.601 in video range, which is what the sender converts to
– the comment at the head of the file still says BT.709 – and the result is stored in eight
bits a channel.

The shaders compute in floating point; here they compute with rationals.
-/

namespace DisplayBridge

/-! ### The triangle -/

/-- `VertexOut`; the last two coordinates of the position are constant. -/
structure VertexOut where
  position : ℚ × ℚ
  texCoord : ℚ × ℚ
deriving DecidableEq

/-- `vertexShader`. -/
def vertexShader (vid : UInt32) : VertexOut :=
  let texCoord : ℚ × ℚ := (((vid <<< 1) &&& 2).toNat, (vid &&& 2).toNat)
  { position := (texCoord.1 * 2 + -1, texCoord.2 * -2 + 1), texCoord := texCoord }

/-- How near a point is to each of the corners. -/
structure Weights where
  first : ℚ
  second : ℚ
  third : ℚ
  sum : first + second + third = 1

/-- The point is in the triangle. -/
def Weights.Inside (w : Weights) : Prop := 0 ≤ w.first ∧ 0 ≤ w.second ∧ 0 ≤ w.third

/-- What the rasteriser makes of a value of the corners. -/
def Weights.interpolate (w : Weights) (value : VertexOut → ℚ × ℚ) : ℚ × ℚ :=
  (w.first * (value (vertexShader 0)).1 + w.second * (value (vertexShader 1)).1 +
      w.third * (value (vertexShader 2)).1,
    w.first * (value (vertexShader 0)).2 + w.second * (value (vertexShader 1)).2 +
      w.third * (value (vertexShader 2)).2)

/-- The centre of a pixel of the drawable, between 0 and 1. -/
def pixelCentre (size i : ℕ) : ℚ := (i + 1 / 2) / size

/-- The place of a pixel in normalised device coordinates, whose second axis points up. -/
def devicePosition (width height px py : ℕ) : ℚ × ℚ :=
  (2 * pixelCentre width px - 1, 1 - 2 * pixelCentre height py)

theorem pixelCentre_mem {size i : ℕ} (hi : i < size) :
    0 ≤ pixelCentre size i ∧ pixelCentre size i ≤ 1 := by
  have hsize : (0 : ℚ) < size := by exact_mod_cast (by omega : 0 < size)
  have hlast : (i : ℚ) + 1 ≤ size := by exact_mod_cast hi
  have hi0 : (0 : ℚ) ≤ i := Nat.cast_nonneg i
  rw [pixelCentre]
  constructor
  · exact div_nonneg (by linarith) hsize.le
  · rw [div_le_one hsize]
    linarith

theorem vertexShader_corners :
    vertexShader 0 = ⟨(-1, 1), (0, 0)⟩ ∧ vertexShader 1 = ⟨(3, 1), (2, 0)⟩ ∧
      vertexShader 2 = ⟨(-1, -3), (0, 2)⟩ := by
  have h0 : (((0 : UInt32) <<< 1) &&& 2).toNat = 0 ∧ ((0 : UInt32) &&& 2).toNat = 0 := by decide
  have h1 : (((1 : UInt32) <<< 1) &&& 2).toNat = 2 ∧ ((1 : UInt32) &&& 2).toNat = 0 := by decide
  have h2 : (((2 : UInt32) <<< 1) &&& 2).toNat = 0 ∧ ((2 : UInt32) &&& 2).toNat = 2 := by decide
  rw [vertexShader, vertexShader, vertexShader, h0.1, h0.2, h1.1, h1.2, h2.1, h2.2]
  norm_num

/-- **The triangle covers the screen**: every pixel lies in it, and is given its own place in
the picture. -/
theorem vertexShader_covers {width height px py : ℕ} (hx : px < width) (hy : py < height) :
    (∃ w : Weights, w.Inside ∧
      w.interpolate VertexOut.position = devicePosition width height px py) ∧
    ∀ w : Weights, w.interpolate VertexOut.position = devicePosition width height px py →
      w.interpolate VertexOut.texCoord = (pixelCentre width px, pixelCentre height py) := by
  obtain ⟨h0, h1, h2⟩ := vertexShader_corners
  obtain ⟨hx0, hx1⟩ := pixelCentre_mem hx
  obtain ⟨hy0, hy1⟩ := pixelCentre_mem hy
  constructor
  · refine ⟨⟨1 - pixelCentre width px / 2 - pixelCentre height py / 2,
      pixelCentre width px / 2, pixelCentre height py / 2, by ring⟩, ⟨?_, ?_, ?_⟩, ?_⟩
    · show 0 ≤ 1 - pixelCentre width px / 2 - pixelCentre height py / 2
      linarith
    · exact div_nonneg hx0 zero_le_two
    · exact div_nonneg hy0 zero_le_two
    · rw [Weights.interpolate, h0, h1, h2, devicePosition, Prod.mk.injEq]
      constructor
      all_goals
        dsimp only
        ring
  · intro w hw
    have hsum := w.sum
    rw [Weights.interpolate, h0, h1, h2, devicePosition, Prod.mk.injEq] at hw
    rw [Weights.interpolate, h0, h1, h2, Prod.mk.injEq]
    dsimp only at hw ⊢
    constructor
    · linarith [hw.1]
    · linarith [hw.2]

/-! ### The colours -/

/-- A colour; between 0 and 1, or what an output of the shader is stored as. -/
structure Rgb (α : Type) where
  r : α
  g : α
  b : α
deriving DecidableEq

/-- What a texel of a texture with eight bits a channel is read as. -/
def unorm (texel : UInt8) : ℚ := texel.toNat / 255

/-- What a value between 0 and 1 is stored as. -/
def toUnorm (x : ℚ) : ℤ := ⌊x * 255 + 1 / 2⌋

/-- `saturate`. -/
def saturate (x : ℚ) : ℚ := max 0 (min 1 x)

/-- `fragmentShader`, from its three samples on. -/
def fragmentShader (y cb cr : ℚ) : Rgb ℚ :=
  -- video range to full range
  let y := (y - 16 / 255) * (255 / 219)
  let cb := (cb - 128 / 255) * (255 / 224)
  let cr := (cr - 128 / 255) * (255 / 224)
  { r := saturate (y + 1402 / 1000 * cr)
    g := saturate (y - 344136 / 1000000 * cb - 714136 / 1000000 * cr)
    b := saturate (y + 1772 / 1000 * cb) }

/-- A decoded picture: its two planes, the second of which has two bytes a texel. -/
structure PixelBuffer where
  width : ℕ
  height : ℕ
  luma : ℕ → ℕ → UInt8
  uvWidth : ℕ
  uvHeight : ℕ
  cb : ℕ → ℕ → UInt8
  cr : ℕ → ℕ → UInt8

/-- The two textures, sampled at a point. -/
def PixelBuffer.sample (buf : PixelBuffer) (s t : ℚ) : Rgb ℚ :=
  fragmentShader
    (Sampling.linear buf.width buf.height (fun y x => unorm (buf.luma y x)) s t)
    (Sampling.linear buf.uvWidth buf.uvHeight (fun y x => unorm (buf.cb y x)) s t)
    (Sampling.linear buf.uvWidth buf.uvHeight (fun y x => unorm (buf.cr y x)) s t)

/-- `draw`: the pixel of a drawable of a size. -/
def PixelBuffer.draw (buf : PixelBuffer) (width height px py : ℕ) : Rgb ℤ :=
  let colour := buf.sample (pixelCentre width px) (pixelCentre height py)
  { r := toUnorm colour.r, g := toUnorm colour.g, b := toUnorm colour.b }

end DisplayBridge
