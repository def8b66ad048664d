import DisplayBridge.Lib.H265
import Mathlib.Data.Int.ModEq

/-!
# The state of the encoder

The fields of `db_encoder_t` that decide what is encoded, and the two functions
that only touch these: the end of `db_encoder_init`, and `db_encoder_force_idr`.
The handles of the hardware are left out, and so is the buffer of the pixel
conversion.

A picture is an IDR picture when the frame counter is a multiple of the IDR
interval, and its picture order count is the remainder – both are
`DisplayBridge.DbEncoder.gopPosition`. The counter is a 64-bit one and the
interval a C `int`, converted to 64 bits by the `%` that combines them.
-/

namespace DisplayBridge

/-- A surface of the driver. -/
abbrev VASurfaceID := UInt32

/-- `VA_INVALID_ID`. -/
def vaInvalidId : VASurfaceID := 0xFFFFFFFF

/-- `HEVC_CTU_SIZE`. -/
def hevcCtuSize : ℤ := 64

/-- `DB_ENCODER_SURFACE_POOL`. -/
def dbEncoderSurfacePool : ℕ := 4

/-- `ALIGN(x, a)`: the sum with its low bits cleared, for a power of two `a`. -/
def align (x a : ℤ) : ℤ := (x + a - 1) / a * a

/-- `db_encoder_t`. -/
structure DbEncoder where
  reconSurfaces : List VASurfaceID
  numReconSurfaces : ℕ
  currentReconIdx : ℕ
  codedBuf : UInt32
  width : ℤ
  height : ℤ
  bitrateKbps : ℤ
  fps : ℤ
  frameCount : UInt64
  idrInterval : ℤ
deriving DecidableEq

/-- `frame_count % idr_interval`. -/
def gopPosition (frameCount : UInt64) (idrInterval : ℤ) : UInt64 :=
  frameCount % UInt64.ofInt idrInterval

/-- The position of the next frame in its group of pictures. -/
def DbEncoder.gopPosition (enc : DbEncoder) : UInt64 :=
  DisplayBridge.gopPosition enc.frameCount enc.idrInterval

/-- A successful `db_encoder_init`; the driver chooses the surfaces and the
buffer. -/
def dbEncoderInit (width height bitrateKbps fps : ℤ) (surfaces : List VASurfaceID)
    (codedBuf : UInt32) : DbEncoder where
  reconSurfaces := surfaces
  numReconSurfaces := dbEncoderSurfacePool
  currentReconIdx := 0
  codedBuf := codedBuf
  width := width
  height := height
  bitrateKbps := bitrateKbps
  fps := fps
  frameCount := 0
  idrInterval := fps * 2

/-- The encoder of the sender right after its start, with the surfaces 0 to 3. -/
def firstEncoder : DbEncoder := dbEncoderInit 2880 1800 15000 60 [0, 1, 2, 3] 4

/-- The surface at a place of the pool. -/
def DbEncoder.surfaceAt (enc : DbEncoder) (i : ℕ) : VASurfaceID :=
  enc.reconSurfaces.getD i vaInvalidId

/-- The surface the next picture is reconstructed on, in `encode_surface`. -/
def DbEncoder.reconSurface (enc : DbEncoder) : VASurfaceID := enc.surfaceAt enc.currentReconIdx

/-- `prev_recon` of `encode_surface`. -/
def DbEncoder.prevRecon (enc : DbEncoder) : ℕ :=
  (enc.currentReconIdx + enc.numReconSurfaces - 1) % enc.numReconSurfaces

/-- The surface the next picture is predicted from, in `encode_surface`. -/
def DbEncoder.refSurface (enc : DbEncoder) (isIdr : Bool) : VASurfaceID :=
  if isIdr then vaInvalidId else enc.surfaceAt enc.prevRecon

/-- `db_encoder_force_idr`. -/
def dbEncoderForceIdr (enc : DbEncoder) : DbEncoder :=
  let remainder := enc.gopPosition
  if remainder ≠ 0 then
    -- up to the next multiple of the interval
    { enc with frameCount := enc.frameCount + (UInt64.ofInt enc.idrInterval - remainder) }
  else enc

/-! ### Aligned sizes -/

/-- An aligned size is a multiple of the block size, also after its conversion to
32 bits. -/
theorem align_mod (x : ℤ) : (align x hevcCtuSize % 2 ^ 32).toNat % 64 = 0 := by
  rw [align, hevcCtuSize]
  omega

/-- What aligning adds is less than the block size. -/
theorem align_sub (x : ℤ) : 0 ≤ align x hevcCtuSize - x ∧ align x hevcCtuSize - x < 64 := by
  rw [align, hevcCtuSize]
  omega

/-! ### Forcing an IDR picture -/

/-- The next multiple of the interval, which `db_encoder_force_idr` would jump to,
fits the 64-bit counter. -/
def DbEncoder.HasRoom (enc : DbEncoder) : Prop :=
  enc.gopPosition ≠ 0 →
    enc.frameCount.toNat + (enc.idrInterval.toNat - enc.gopPosition.toNat) < 2 ^ 64

instance (enc : DbEncoder) : Decidable enc.HasRoom :=
  inferInstanceAs (Decidable (enc.gopPosition ≠ 0 →
    enc.frameCount.toNat + (enc.idrInterval.toNat - enc.gopPosition.toNat) < 2 ^ 64))

theorem toNat_uint64OfInt {x : ℤ} (h₀ : 0 ≤ x) (h₁ : x < 2 ^ 64) :
    (UInt64.ofInt x).toNat = x.toNat := by
  rw [UInt64.ofInt, UInt64.toNat_ofNat', Int.emod_eq_of_lt h₀ h₁]
  exact Nat.mod_eq_of_lt (by omega)

theorem toNat_gopPosition (frameCount : UInt64) {idrInterval : ℤ} (h₀ : 0 < idrInterval)
    (h₁ : idrInterval < 2 ^ 31) :
    (gopPosition frameCount idrInterval).toNat = frameCount.toNat % idrInterval.toNat := by
  rw [gopPosition, UInt64.toNat_mod, toNat_uint64OfInt h₀.le (by omega)]

/-- The next multiple of the interval, which `db_encoder_force_idr` jumps to, is one of
the counter too: it is no larger than `2 ^ 64`, which is zero again. -/
def DbEncoder.Lands (enc : DbEncoder) : Prop :=
  enc.gopPosition ≠ 0 →
    enc.frameCount.toNat + (enc.idrInterval.toNat - enc.gopPosition.toNat) ≤ 2 ^ 64

instance (enc : DbEncoder) : Decidable enc.Lands :=
  inferInstanceAs (Decidable (enc.gopPosition ≠ 0 →
    enc.frameCount.toNat + (enc.idrInterval.toNat - enc.gopPosition.toNat) ≤ 2 ^ 64))

theorem DbEncoder.HasRoom.lands {enc : DbEncoder} (h : enc.HasRoom) : enc.Lands :=
  fun hpos => (h hpos).le

/-- Where `db_encoder_force_idr` jumps to: the next multiple, in 64 bits. -/
theorem toNat_frameCount_forceIdr {enc : DbEncoder} (h₀ : 0 < enc.idrInterval)
    (h₁ : enc.idrInterval < 2 ^ 31) (hpos : enc.gopPosition ≠ 0) :
    (dbEncoderForceIdr enc).frameCount.toNat =
      (enc.frameCount.toNat + (enc.idrInterval.toNat - enc.gopPosition.toNat)) % 2 ^ 64 := by
  have hmod : enc.gopPosition.toNat = enc.frameCount.toNat % enc.idrInterval.toNat :=
    toNat_gopPosition enc.frameCount h₀ h₁
  have hN := toNat_uint64OfInt h₀.le (by omega : enc.idrInterval < 2 ^ 64)
  have hlt : enc.gopPosition.toNat < enc.idrInterval.toNat := by
    rw [hmod]
    exact Nat.mod_lt _ (by omega)
  have hsub : (UInt64.ofInt enc.idrInterval - enc.gopPosition).toNat =
      enc.idrInterval.toNat - enc.gopPosition.toNat := by
    rw [UInt64.toNat_sub_of_le _ _ (UInt64.le_iff_toNat_le.2 (by omega)), hN]
  unfold dbEncoderForceIdr
  rw [if_pos hpos]
  change (enc.frameCount + (UInt64.ofInt enc.idrInterval - enc.gopPosition)).toNat = _
  rw [UInt64.toNat_add, hsub]

/-- **The next picture is an IDR picture** once one has been forced, exactly if the
counter can stand at the next multiple. -/
theorem gopPosition_forceIdr_iff {enc : DbEncoder} (h₀ : 0 < enc.idrInterval)
    (h₁ : enc.idrInterval < 2 ^ 31) : (dbEncoderForceIdr enc).gopPosition = 0 ↔ enc.Lands := by
  by_cases hpos : enc.gopPosition = 0
  · have hsame : dbEncoderForceIdr enc = enc := if_neg (not_not.2 hpos)
    rw [hsame]
    exact iff_of_true hpos fun hne => absurd hpos hne
  · have hmod : enc.gopPosition.toNat = enc.frameCount.toNat % enc.idrInterval.toNat :=
      toNat_gopPosition enc.frameCount h₀ h₁
    have hcount := toNat_frameCount_forceIdr h₀ h₁ hpos
    have hnext : (dbEncoderForceIdr enc).gopPosition.toNat =
        (dbEncoderForceIdr enc).frameCount.toNat % enc.idrInterval.toNat := by
      obtain ⟨frameCount, heq⟩ : ∃ n, dbEncoderForceIdr enc = { enc with frameCount := n } :=
        ⟨_, if_pos hpos⟩
      rw [heq]
      exact toNat_gopPosition frameCount h₀ h₁
    have hzero : (dbEncoderForceIdr enc).gopPosition = 0 ↔
        (dbEncoderForceIdr enc).gopPosition.toNat = 0 := UInt64.toNat_inj.symm
    -- the counter and what is missing to the next multiple add up to that multiple
    have hsum : enc.frameCount.toNat + (enc.idrInterval.toNat - enc.gopPosition.toNat) =
        enc.idrInterval.toNat * (enc.frameCount.toNat / enc.idrInterval.toNat + 1) := by
      have hlt : enc.gopPosition.toNat < enc.idrInterval.toNat := by
        rw [hmod]
        exact Nat.mod_lt _ (by omega)
      have := Nat.div_add_mod enc.frameCount.toNat enc.idrInterval.toNat
      rw [Nat.mul_add, Nat.mul_one]
      omega
    have hbound := enc.frameCount.toNat_lt
    rw [hzero, hnext, hcount]
    constructor
    · intro hdvd _
      by_contra hover
      -- behind the overflow the counter is below the interval, and not zero
      have hover' : (enc.frameCount.toNat + (enc.idrInterval.toNat - enc.gopPosition.toNat)) %
          2 ^ 64 = enc.frameCount.toNat + (enc.idrInterval.toNat - enc.gopPosition.toNat) -
            2 ^ 64 := by
        omega
      rw [hover', Nat.mod_eq_of_lt (by omega)] at hdvd
      omega
    · intro hlands
      rcases (hlands hpos).lt_or_eq with hlt | heq
      · rw [Nat.mod_eq_of_lt hlt, hsum, Nat.mul_mod_right]
      · rw [heq, Nat.mod_self, Nat.zero_mod]

theorem gopPosition_forceIdr {enc : DbEncoder} (h₀ : 0 < enc.idrInterval)
    (h₁ : enc.idrInterval < 2 ^ 31) (hroom : enc.HasRoom) :
    (dbEncoderForceIdr enc).gopPosition = 0 :=
  (gopPosition_forceIdr_iff h₀ h₁).2 hroom.lands

/-- Forcing an IDR picture moves the counter and nothing else. -/
theorem forceIdr_eq (enc : DbEncoder) :
    ∃ frameCount, dbEncoderForceIdr enc = { enc with frameCount := frameCount } := by
  unfold dbEncoderForceIdr
  by_cases hpos : enc.gopPosition ≠ 0
  · exact ⟨_, if_pos hpos⟩
  · exact ⟨enc.frameCount, if_neg hpos⟩

end DisplayBridge
