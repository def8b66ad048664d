import DisplayBridge.Mac.MetalRenderer
import DisplayBridge.Ubuntu.Conversion

/-!
# Colours from one screen to the other

The sender converts a BGRx frame to NV12 with integers (`DisplayBridge.bgrxToNv12`); the
receiver converts back in a shader (`DisplayBridge.fragmentShader`). In between, chroma is
taken from one pixel of four and spread again by a linear filter, so a colour survives
where it has room: if all pixels around the place that is shown have one colour, what is
shown differs from it by at most two levels of red and green and three of blue
(`DisplayBridge.colour_shown`), on a drawable of any size. The codec is taken to lose
nothing: the planes of the decoded picture are the ones that were encoded.

The bound is that of the rounding. Luma and chroma are rounded to within half a level of
what BT.601 in eight bits makes of a colour (`DisplayBridge.Pixel.y_near`), the eight-bit
coefficients are a little off, and the shader multiplies what is wrong by at most two. A grey
has no chroma, which rounding keeps exactly (`DisplayBridge.Pixel.shown_of_grey`).
-/

namespace DisplayBridge

open Sampling

variable {p : Pixel}

/-! ### One pixel -/

/-- A sum of 256ths is rounded to within half a level. -/
theorem abs_rounded_sub_le (n : ℤ) : |256 * (((n + 128) >>> (8 : ℕ) : ℤ) : ℚ) - n| ≤ 128 := by
  have hlow : 256 * ((n + 128) >>> (8 : ℕ)) ≤ n + 128 := by
    rw [Int.shiftRight_eq_div_pow]
    omega
  have hhigh : n ≤ 256 * ((n + 128) >>> (8 : ℕ)) + 128 := by
    rw [Int.shiftRight_eq_div_pow]
    omega
  have hlow : 256 * (((n + 128) >>> (8 : ℕ) : ℤ) : ℚ) ≤ n + 128 := by exact_mod_cast hlow
  have hhigh : (n : ℚ) ≤ 256 * (((n + 128) >>> (8 : ℕ) : ℤ) : ℚ) + 128 := by
    exact_mod_cast hhigh
  rw [abs_le]
  constructor
  all_goals linarith

theorem Pixel.y_near (p : Pixel) :
    |256 * ((p.y : ℚ) - 16) - (66 * p.r.toNat + 129 * p.g.toNat + 25 * p.b.toNat)| ≤ 128 := by
  have h := abs_rounded_sub_le (66 * p.r.toNat + 129 * p.g.toNat + 25 * p.b.toNat)
  rw [Pixel.y, Int.cast_add]
  push_cast at h ⊢
  rwa [add_sub_cancel_right]

theorem Pixel.cb_near (p : Pixel) :
    |256 * ((p.cb : ℚ) - 128) - (-38 * p.r.toNat - 74 * p.g.toNat + 112 * p.b.toNat)| ≤ 128 := by
  have h := abs_rounded_sub_le (-38 * p.r.toNat - 74 * p.g.toNat + 112 * p.b.toNat)
  rw [Pixel.cb, Int.cast_add]
  push_cast at h ⊢
  rwa [add_sub_cancel_right]

theorem Pixel.cr_near (p : Pixel) :
    |256 * ((p.cr : ℚ) - 128) - (112 * p.r.toNat - 94 * p.g.toNat - 18 * p.b.toNat)| ≤ 128 := by
  have h := abs_rounded_sub_le (112 * p.r.toNat - 94 * p.g.toNat - 18 * p.b.toNat)
  rw [Pixel.cr, Int.cast_add]
  push_cast at h ⊢
  rwa [add_sub_cancel_right]

/-- The channels of a pixel are bytes. -/
theorem toNat_mem (b : UInt8) : (0 : ℚ) ≤ b.toNat ∧ (b.toNat : ℚ) ≤ 255 := by
  have hb : b.toNat ≤ 255 := Nat.le_of_lt_succ b.toNat_lt
  exact ⟨Nat.cast_nonneg _, by exact_mod_cast hb⟩

/-- **A value is shown** within its error and half a level, whatever the saturation does. -/
theorem abs_toUnorm_saturate_sub_le {x e : ℚ} {level : UInt8}
    (h : |x * 255 - level.toNat| ≤ e) :
    |(toUnorm (saturate x) : ℚ) - level.toNat| ≤ e + 1 / 2 := by
  obtain ⟨h0, h1⟩ := toNat_mem level
  rw [abs_le] at h
  have hsat : |saturate x * 255 - level.toNat| ≤ e := by
    rw [abs_le, saturate]
    rcases le_total x 0 with hneg | hpos
    · rw [min_eq_right (by linarith), max_eq_left hneg]
      constructor
      all_goals linarith
    · rcases le_total x 1 with hin | hout
      · rw [min_eq_right hin, max_eq_right hpos]
        exact h
      · rw [min_eq_left hout, max_eq_right zero_le_one]
        constructor
        all_goals linarith
  have hlow := Int.floor_le (saturate x * 255 + 1 / 2)
  have hhigh := Int.lt_floor_add_one (saturate x * 255 + 1 / 2)
  rw [abs_le] at hsat ⊢
  rw [toUnorm]
  constructor
  · linarith [hsat.1]
  · linarith [hsat.2]

/-- What `draw` stores of a pixel whose colour was encoded alone. -/
def Pixel.shown (p : Pixel) : Rgb ℤ :=
  let colour := fragmentShader (p.y / 255) (p.cb / 255) (p.cr / 255)
  { r := toUnorm colour.r, g := toUnorm colour.g, b := toUnorm colour.b }

/-- The colour that is shown is near the colour it was. -/
structure Near (shown : Rgb ℤ) (p : Pixel) : Prop where
  r : |shown.r - p.r.toNat| ≤ 2
  g : |shown.g - p.g.toNat| ≤ 2
  b : |shown.b - p.b.toNat| ≤ 3

/-- An error of levels is a whole number. -/
theorem abs_sub_le_of_lt {a : ℤ} {b : ℕ} {n : ℕ} (h : |(a : ℚ) - b| < n + 1) :
    |a - b| ≤ n := by
  have h : |a - b| < n + 1 := by exact_mod_cast h
  omega

/-- **A colour is kept**, up to two levels of red and green and three of blue. -/
theorem Pixel.shown_near (p : Pixel) : Near p.shown p := by
  have hy := abs_le.1 p.y_near
  have hcb := abs_le.1 p.cb_near
  have hcr := abs_le.1 p.cr_near
  obtain ⟨hr0, hr1⟩ := toNat_mem p.r
  obtain ⟨hg0, hg1⟩ := toNat_mem p.g
  obtain ⟨hb0, hb1⟩ := toNat_mem p.b
  -- the three errors, without saturation
  have hr : |((p.y / 255 - 16 / 255) * (255 / 219) + 1402 / 1000 *
      ((p.cr / 255 - 128 / 255) * (255 / 224)) : ℚ) * 255 - p.r.toNat| ≤ 2 := by
    rw [abs_le]
    constructor
    all_goals linarith
  have hg : |((p.y / 255 - 16 / 255) * (255 / 219) - 344136 / 1000000 *
      ((p.cb / 255 - 128 / 255) * (255 / 224)) - 714136 / 1000000 *
      ((p.cr / 255 - 128 / 255) * (255 / 224)) : ℚ) * 255 - p.g.toNat| ≤ 2 := by
    rw [abs_le]
    constructor
    all_goals linarith
  have hb : |((p.y / 255 - 16 / 255) * (255 / 219) + 1772 / 1000 *
      ((p.cb / 255 - 128 / 255) * (255 / 224)) : ℚ) * 255 - p.b.toNat| ≤ 3 := by
    rw [abs_le]
    constructor
    all_goals linarith
  constructor
  · exact abs_sub_le_of_lt (lt_of_le_of_lt (abs_toUnorm_saturate_sub_le hr) (by norm_num))
  · exact abs_sub_le_of_lt (lt_of_le_of_lt (abs_toUnorm_saturate_sub_le hg) (by norm_num))
  · exact abs_sub_le_of_lt (lt_of_le_of_lt (abs_toUnorm_saturate_sub_le hb) (by norm_num))

/-- A grey has no chroma. -/
theorem Pixel.chroma_of_grey (hg : p.g = p.r) (hb : p.b = p.r) : p.cb = 128 ∧ p.cr = 128 := by
  rw [Pixel.cb, Pixel.cr, hg, hb, Int.shiftRight_eq_div_pow, Int.shiftRight_eq_div_pow]
  omega

/-- **A grey stays grey**, within one level. -/
theorem Pixel.shown_of_grey (hg : p.g = p.r) (hb : p.b = p.r) :
    p.shown.g = p.shown.r ∧ p.shown.b = p.shown.r ∧ |p.shown.r - p.r.toNat| ≤ 1 := by
  obtain ⟨hcb, hcr⟩ := Pixel.chroma_of_grey hg hb
  have hy := abs_le.1 p.y_near
  obtain ⟨hr0, hr1⟩ := toNat_mem p.r
  rw [hg, hb] at hy
  rw [Pixel.shown, hcb, hcr, fragmentShader]
  dsimp only
  have hr : |((p.y / 255 - 16 / 255) * (255 / 219) + 1402 / 1000 *
      ((((128 : ℤ) : ℚ) / 255 - 128 / 255) * (255 / 224)) : ℚ) * 255 - p.r.toNat| ≤ 3 / 4 := by
    push_cast
    rw [abs_le]
    constructor
    all_goals linarith
  refine ⟨?_, ?_, ?_⟩
  · norm_num
  · norm_num
  · exact abs_sub_le_of_lt (lt_of_le_of_lt (abs_toUnorm_saturate_sub_le hr) (by norm_num))

/-! ### The picture -/

/-- What a codec that loses nothing makes of the picture in the conversion buffer. -/
def decoded (nv12 : ℕ → UInt8) (width height : ℕ) : PixelBuffer where
  width := width
  height := height
  luma y x := nv12 (y * width + x)
  uvWidth := width / 2
  uvHeight := height / 2
  cb v u := nv12 (width * height + v * width + 2 * u)
  cr v u := nv12 (width * height + v * width + (2 * u + 1))

/-- All pixels around the place that a pixel of the drawable shows have one colour. -/
def FlatAround (colour : ℕ → ℕ → Pixel) (width height : ℕ) (s t : ℚ) (p : Pixel) : Prop :=
  ∀ y < height, ∀ x < width, |(y : ℚ) + 1 / 2 - t * height| ≤ 5 / 2 →
    |(x : ℚ) + 1 / 2 - s * width| ≤ 5 / 2 → colour y x = p

variable {colour : ℕ → ℕ → Pixel} {nv12 : ℕ → UInt8} {width height W H px py : ℕ} {s t : ℚ}

theorem unorm_eq {b : UInt8} {n : ℤ} (h : (b.toNat : ℤ) = n) : unorm b = n / 255 := by
  rw [unorm, ← h, Int.cast_natCast]

/-- A chroma texel comes from a pixel nearby. -/
theorem abs_twice_sub_le {u : ℕ} (heven : Even width)
    (hu : |(u : ℚ) + 1 / 2 - s * (width / 2 : ℕ)| ≤ 1) :
    |((2 * u : ℕ) : ℚ) + 1 / 2 - s * width| ≤ 5 / 2 := by
  obtain ⟨n, rfl⟩ := heven
  have hhalf : (n + n) / 2 = n := by omega
  rw [hhalf, abs_le] at hu
  rw [abs_le]
  push_cast at hu ⊢
  constructor
  all_goals linarith

/-- The samples are those of the colour. -/
theorem sample_decoded (hpicture : IsPictureOf colour width height nv12)
    (hweven : Even width) (hheven : Even height) (hw : 0 < width) (hh : 0 < height)
    (hs : 0 ≤ s ∧ s ≤ 1) (ht : 0 ≤ t ∧ t ≤ 1)
    (hflat : FlatAround colour width height s t p) :
    (decoded nv12 width height).sample s t =
      fragmentShader (p.y / 255) (p.cb / 255) (p.cr / 255) := by
  have hluma : Sampling.linear width height (fun y x => unorm (nv12 (y * width + x))) s t =
      p.y / 255 := by
    refine linear_eq_of_near hw hh hs ht fun y hy x hx hynear hxnear => ?_
    rw [unorm_eq (hpicture.luma y hy x hx),
      hflat y hy x hx (hynear.trans (by norm_num)) (hxnear.trans (by norm_num))]
  have hchroma : ∀ v < height / 2, ∀ u < width / 2,
      |(v : ℚ) + 1 / 2 - t * (height / 2 : ℕ)| ≤ 1 →
      |(u : ℚ) + 1 / 2 - s * (width / 2 : ℕ)| ≤ 1 → colour (2 * v) (2 * u) = p := by
    intro v hv u hu hvnear hunear
    exact hflat _ (by omega) _ (by omega) (abs_twice_sub_le hheven hvnear)
      (abs_twice_sub_le hweven hunear)
  have hw2 : 0 < width / 2 := by
    obtain ⟨n, rfl⟩ := hweven
    omega
  have hh2 : 0 < height / 2 := by
    obtain ⟨n, rfl⟩ := hheven
    omega
  have hcb : Sampling.linear (width / 2) (height / 2)
      (fun v u => unorm (nv12 (width * height + v * width + 2 * u))) s t = p.cb / 255 := by
    refine linear_eq_of_near hw2 hh2 hs ht fun v hv u hu hvnear hunear => ?_
    rw [unorm_eq (hpicture.cb v hv u hu), hchroma v hv u hu hvnear hunear]
  have hcr : Sampling.linear (width / 2) (height / 2)
      (fun v u => unorm (nv12 (width * height + v * width + (2 * u + 1)))) s t = p.cr / 255 := by
    refine linear_eq_of_near hw2 hh2 hs ht fun v hv u hu hvnear hunear => ?_
    rw [unorm_eq (hpicture.cr v hv u hu), hchroma v hv u hu hvnear hunear]
  rw [PixelBuffer.sample, decoded]
  dsimp only
  rw [hluma, hcb, hcr]

/-- **A colour that has room is shown as it was**: a frame of even size is converted by the
sender and drawn by the receiver, on a drawable of any size. Where all pixels around the place
that is shown have one colour, red and green are shown within two levels of it and blue
within three, and a grey is shown as a grey, within one level. -/
theorem colour_shown {bgrx : ℕ → UInt8} {stride : UInt32} (hw : 0 < width) (hh : 0 < height)
    (hweven : Even width) (hheven : Even height) (mem : ℕ → UInt8) (hx : px < W) (hy : py < H)
    (hflat : FlatAround (pixelAt bgrx stride) width height (pixelCentre W px) (pixelCentre H py)
      p) :
    let shown := (decoded (Writes.perform mem (bgrxToNv12 bgrx stride width height))
      width height).draw W H px py
    Near shown p ∧ (p.g = p.r → p.b = p.r →
      shown.g = shown.r ∧ shown.b = shown.r ∧ |shown.r - p.r.toNat| ≤ 1) := by
  intro shown
  have hshown : shown = p.shown := by
    have hsample := sample_decoded (isPictureOf_bgrxToNv12 hweven mem) hweven hheven hw hh
      (pixelCentre_mem hx) (pixelCentre_mem hy) hflat
    rw [Pixel.shown, ← hsample]
    rfl
  rw [hshown]
  exact ⟨p.shown_near, Pixel.shown_of_grey⟩

/-- A red frame. -/
def redFrame (o : ℕ) : UInt8 := if o % 4 = 2 then 255 else 0

theorem pixelAt_redFrame (y x : ℕ) : pixelAt redFrame 8 y x = ⟨0, 0, 255⟩ := by
  have hstride : (8 : UInt32).toNat = 8 := rfl
  have hb : (y * 8 + (x * 4 + 0)) % 4 ≠ 2 := by omega
  have hg : (y * 8 + (x * 4 + 1)) % 4 ≠ 2 := by omega
  have hr : (y * 8 + (x * 4 + 2)) % 4 = 2 := by omega
  rw [pixelAt, redFrame, redFrame, redFrame, bgrxOffset, bgrxOffset, bgrxOffset, hstride,
    if_neg hb, if_neg hg, if_pos hr]

theorem colour_shown_redFrame :
    Near ((decoded (Writes.perform (fun _ => 0) (bgrxToNv12 redFrame 8 2 2)) 2 2).draw 3 3 1 1)
      ⟨0, 0, 255⟩ :=
  (colour_shown (by decide) (by decide) (by decide) (by decide) (fun _ => 0)
    (by decide) (by decide) fun y _ x _ _ _ => pixelAt_redFrame y x).1

end DisplayBridge
