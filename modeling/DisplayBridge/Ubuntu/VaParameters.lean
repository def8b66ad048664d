import DisplayBridge.Ubuntu.SliceHeader

/-!
# The parameter sets and the driver

The hardware encodes the blocks, and is told how by the buffers `fill_seq_param` and
`fill_pic_param` fill. A decoder is told by the parameter sets, which `encoder.c`
writes itself. The two are filled in by hand, element by element in one place and
field by field in another, and a picture comes out right if both say the same.

They do (`DisplayBridge.parameterSets_match`): each of the three parameter sets is
read to its end by the syntax of the standard, the size they code is the size the
driver is given, what is left of it behind the conformance window is the size of the
screen, and whatever stands in both places is the same. What the sets are was computed
in `DisplayBridge.vpsOf`, `DisplayBridge.spsOf` and `DisplayBridge.ppsOf`, so all that
is left to show is about sizes.

The driver takes the size in 16 bits. The last one that fits and is a multiple of the
block size is 65472.
-/

namespace DisplayBridge

open Bits H265

/-! ### The driver -/

/-- `VAEncSequenceParameterBufferHEVC`. -/
structure VAEncSequenceParameterBufferHEVC where
  generalProfileIdc : ℕ
  generalLevelIdc : ℕ
  generalTierFlag : ℕ
  intraPeriod : UInt32
  intraIdrPeriod : UInt32
  ipPeriod : UInt32
  bitsPerSecond : UInt32
  picWidthInLumaSamples : UInt16
  picHeightInLumaSamples : UInt16
  chromaFormatIdc : ℕ
  separateColourPlaneFlag : ℕ
  bitDepthLumaMinus8 : ℕ
  bitDepthChromaMinus8 : ℕ
  scalingListEnabledFlag : ℕ
  strongIntraSmoothingEnabledFlag : ℕ
  ampEnabledFlag : ℕ
  sampleAdaptiveOffsetEnabledFlag : ℕ
  pcmEnabledFlag : ℕ
  pcmLoopFilterDisabledFlag : ℕ
  spsTemporalMvpEnabledFlag : ℕ
  lowDelaySeq : ℕ
  hierachicalFlag : ℕ
  log2MinLumaCodingBlockSizeMinus3 : ℕ
  log2DiffMaxMinLumaCodingBlockSize : ℕ
  log2MinTransformBlockSizeMinus2 : ℕ
  log2DiffMaxMinTransformBlockSize : ℕ
  maxTransformHierarchyDepthInter : ℕ
  maxTransformHierarchyDepthIntra : ℕ
  vuiParametersPresentFlag : ℕ
deriving DecidableEq

/-- `fill_seq_param`. -/
def fillSeqParam (enc : DbEncoder) : VAEncSequenceParameterBufferHEVC where
  generalProfileIdc := 1
  generalLevelIdc := 120
  generalTierFlag := 0
  intraPeriod := UInt32.ofInt enc.idrInterval
  intraIdrPeriod := UInt32.ofInt enc.idrInterval
  ipPeriod := 1
  bitsPerSecond := UInt32.ofInt enc.bitrateKbps * 1000
  picWidthInLumaSamples := UInt16.ofInt (align enc.width hevcCtuSize)
  picHeightInLumaSamples := UInt16.ofInt (align enc.height hevcCtuSize)
  chromaFormatIdc := 1
  separateColourPlaneFlag := 0
  bitDepthLumaMinus8 := 0
  bitDepthChromaMinus8 := 0
  scalingListEnabledFlag := 0
  strongIntraSmoothingEnabledFlag := 1
  ampEnabledFlag := 1
  sampleAdaptiveOffsetEnabledFlag := 0
  pcmEnabledFlag := 0
  pcmLoopFilterDisabledFlag := 1
  spsTemporalMvpEnabledFlag := 0
  lowDelaySeq := 1
  hierachicalFlag := 0
  log2MinLumaCodingBlockSizeMinus3 := 0
  log2DiffMaxMinLumaCodingBlockSize := 3
  log2MinTransformBlockSizeMinus2 := 0
  log2DiffMaxMinTransformBlockSize := 3
  maxTransformHierarchyDepthInter := 2
  maxTransformHierarchyDepthIntra := 2
  vuiParametersPresentFlag := 0

/-! ### What both say -/

/-- A profile and level the driver was told. -/
structure ProfileMatches (ptl : ProfileTierLevel) (seq : VAEncSequenceParameterBufferHEVC) :
    Prop where
  generalProfileIdc : ptl.generalProfileIdc = seq.generalProfileIdc
  generalTierFlag : ptl.generalTierFlag = seq.generalTierFlag
  generalLevelIdc : ptl.generalLevelIdc = seq.generalLevelIdc

/-- A sequence parameter set that says what the driver was told: the elements that are
present in both. -/
structure SpsMatches (sps : Sps) (seq : VAEncSequenceParameterBufferHEVC) : Prop where
  profile : ProfileMatches sps.profileTierLevel seq
  picWidthInLumaSamples : sps.picWidthInLumaSamples = seq.picWidthInLumaSamples.toNat
  picHeightInLumaSamples : sps.picHeightInLumaSamples = seq.picHeightInLumaSamples.toNat
  chromaFormatIdc : sps.chromaFormatIdc = seq.chromaFormatIdc
  separateColourPlaneFlag : sps.separateColourPlaneFlag = seq.separateColourPlaneFlag
  bitDepthLumaMinus8 : sps.bitDepthLumaMinus8 = seq.bitDepthLumaMinus8
  bitDepthChromaMinus8 : sps.bitDepthChromaMinus8 = seq.bitDepthChromaMinus8
  scalingListEnabledFlag : sps.scalingListEnabledFlag = seq.scalingListEnabledFlag
  strongIntraSmoothingEnabledFlag :
    sps.strongIntraSmoothingEnabledFlag = seq.strongIntraSmoothingEnabledFlag
  ampEnabledFlag : sps.ampEnabledFlag = seq.ampEnabledFlag
  sampleAdaptiveOffsetEnabledFlag :
    sps.sampleAdaptiveOffsetEnabledFlag = seq.sampleAdaptiveOffsetEnabledFlag
  pcmEnabledFlag : sps.pcmEnabledFlag = seq.pcmEnabledFlag
  spsTemporalMvpEnabledFlag : sps.spsTemporalMvpEnabledFlag = seq.spsTemporalMvpEnabledFlag
  log2MinLumaCodingBlockSizeMinus3 :
    sps.log2MinLumaCodingBlockSizeMinus3 = seq.log2MinLumaCodingBlockSizeMinus3
  log2DiffMaxMinLumaCodingBlockSize :
    sps.log2DiffMaxMinLumaCodingBlockSize = seq.log2DiffMaxMinLumaCodingBlockSize
  log2MinLumaTransformBlockSizeMinus2 :
    sps.log2MinLumaTransformBlockSizeMinus2 = seq.log2MinTransformBlockSizeMinus2
  log2DiffMaxMinLumaTransformBlockSize :
    sps.log2DiffMaxMinLumaTransformBlockSize = seq.log2DiffMaxMinTransformBlockSize
  maxTransformHierarchyDepthInter :
    sps.maxTransformHierarchyDepthInter = seq.maxTransformHierarchyDepthInter
  maxTransformHierarchyDepthIntra :
    sps.maxTransformHierarchyDepthIntra = seq.maxTransformHierarchyDepthIntra
  vuiParametersPresentFlag : sps.vuiParametersPresentFlag = seq.vuiParametersPresentFlag

/-- A picture parameter set that says what the driver was told about a picture. -/
structure PpsMatches (pps : Pps) (pic : VAEncPictureParameterBufferHEVC) : Prop where
  ppsPicParameterSetId : pps.ppsPicParameterSetId = pic.slicePicParameterSetId
  initQp : 26 + pps.initQpMinus26 = pic.picInitQp
  cuQpDeltaEnabledFlag : pps.cuQpDeltaEnabledFlag = pic.cuQpDeltaEnabledFlag
  diffCuQpDeltaDepth : pps.diffCuQpDeltaDepth = pic.diffCuQpDeltaDepth
  ppsCbQpOffset : pps.ppsCbQpOffset = pic.ppsCbQpOffset
  ppsCrQpOffset : pps.ppsCrQpOffset = pic.ppsCrQpOffset
  numRefIdxL0DefaultActiveMinus1 :
    pps.numRefIdxL0DefaultActiveMinus1 = pic.numRefIdxL0DefaultActiveMinus1
  numRefIdxL1DefaultActiveMinus1 :
    pps.numRefIdxL1DefaultActiveMinus1 = pic.numRefIdxL1DefaultActiveMinus1
  log2ParallelMergeLevelMinus2 :
    pps.log2ParallelMergeLevelMinus2 = pic.log2ParallelMergeLevelMinus2
  dependentSliceSegmentsEnabledFlag :
    pps.dependentSliceSegmentsEnabledFlag = pic.dependentSliceSegmentsEnabledFlag
  signDataHidingEnabledFlag : pps.signDataHidingEnabledFlag = pic.signDataHidingEnabledFlag
  constrainedIntraPredFlag : pps.constrainedIntraPredFlag = pic.constrainedIntraPredFlag
  transformSkipEnabledFlag : pps.transformSkipEnabledFlag = pic.transformSkipEnabledFlag
  weightedPredFlag : pps.weightedPredFlag = pic.weightedPredFlag
  weightedBipredFlag : pps.weightedBipredFlag = pic.weightedBipredFlag
  transquantBypassEnabledFlag : pps.transquantBypassEnabledFlag = pic.transquantBypassEnabledFlag
  tilesEnabledFlag : pps.tilesEnabledFlag = pic.tilesEnabledFlag
  entropyCodingSyncEnabledFlag :
    pps.entropyCodingSyncEnabledFlag = pic.entropyCodingSyncEnabledFlag
  ppsLoopFilterAcrossSlicesEnabledFlag :
    pps.ppsLoopFilterAcrossSlicesEnabledFlag = pic.ppsLoopFilterAcrossSlicesEnabledFlag
  scalingListDataPresentFlag :
    pps.ppsScalingListDataPresentFlag = pic.scalingListDataPresentFlag

/-! ### Sizes -/

/-- A width or a height the driver can be given: even, and in 16 bits after it was
aligned. -/
structure IsSize (x : ℤ) : Prop where
  lower : 2 ≤ x
  upper : x ≤ 65472
  even : x % 2 = 0

instance (x : ℤ) : Decidable (IsSize x) :=
  decidable_of_iff (2 ≤ x ∧ x ≤ 65472 ∧ x % 2 = 0)
    ⟨fun h => ⟨h.1, h.2.1, h.2.2⟩, fun h => ⟨h.lower, h.upper, h.even⟩⟩

theorem toNat_uint16OfInt (x : ℤ) : (UInt16.ofInt x).toNat = (x % 2 ^ 16).toNat := by
  rw [UInt16.ofInt, UInt16.toNat_ofNat']
  exact Nat.mod_eq_of_lt (by omega)

/-- The aligned size is the same in 32 bits and in 16. -/
theorem IsSize.toNat_align {x : ℤ} (h : IsSize x) :
    (align x hevcCtuSize % 2 ^ 32).toNat = align x hevcCtuSize ∧
      (UInt16.ofInt (align x hevcCtuSize)).toNat = align x hevcCtuSize := by
  obtain ⟨hlower, hupper, -⟩ := h
  rw [toNat_uint16OfInt, align, hevcCtuSize]
  omega

/-- **What is cut off is what was added**, because the size is even. -/
theorem IsSize.crop {x : ℤ} (h : IsSize x) :
    (align x hevcCtuSize % 2 ^ 32).toNat -
      2 * (0 + (((align x hevcCtuSize - x) / 2).toNat : ℤ)) = x := by
  obtain ⟨hlower, hupper, heven⟩ := h
  rw [align, hevcCtuSize]
  omega

variable {enc : DbEncoder}

theorem croppedWidth_spsOf (h : IsSize enc.width) : (spsOf enc).croppedWidth = enc.width :=
  h.crop

theorem croppedHeight_spsOf (h : IsSize enc.height) : (spsOf enc).croppedHeight = enc.height :=
  h.crop

/-! ### All three sets -/

theorem spsMatches_spsOf (hwidth : IsSize enc.width) (hheight : IsSize enc.height) :
    SpsMatches (spsOf enc) (fillSeqParam enc) := by
  obtain ⟨hwidth₃₂, hwidth₁₆⟩ := hwidth.toNat_align
  obtain ⟨hheight₃₂, hheight₁₆⟩ := hheight.toNat_align
  refine ⟨⟨rfl, rfl, rfl⟩, ?_, ?_, rfl, rfl, rfl, rfl, rfl, rfl, rfl, rfl, rfl, rfl, rfl, rfl, rfl,
    rfl, rfl, rfl, rfl⟩
  · exact Int.natCast_inj.1 (hwidth₃₂.trans hwidth₁₆.symm)
  · exact Int.natCast_inj.1 (hheight₃₂.trans hheight₁₆.symm)

theorem ppsMatches_ppsOf (enc : DbEncoder) (reconSurface refSurface : VASurfaceID)
    (isIdr : Bool) : PpsMatches ppsOf (fillPicParam enc reconSurface refSurface isIdr) := by
  constructor <;> rfl

/-- **The parameter sets mean what the driver was told.** They are read to their ends; the
size they code is the aligned one, and what is shown of it is the size of the screen;
a second has as many ticks as frames; and what the driver is told as well it is told the
same. -/
theorem parameterSets_match (hwidth : IsSize enc.width) (hheight : IsSize enc.height)
    (hfps : 1 ≤ enc.fps ∧ enc.fps < 2 ^ 31) :
    ∃ vps sps pps,
      readAll videoParameterSet (toBits (unescape (writeVps enc))) = some vps ∧
      readAll seqParameterSet (toBits (unescape (writeSps enc))) = some sps ∧
      readAll picParameterSet (toBits (unescape writePps)) = some pps ∧
      sps.picWidthInLumaSamples = align enc.width 64 ∧
      sps.picHeightInLumaSamples = align enc.height 64 ∧
      sps.croppedWidth = enc.width ∧ sps.croppedHeight = enc.height ∧
      (∃ timing, vps.vpsTimingInfo = some timing ∧ timing.vpsNumUnitsInTick = 1 ∧
        timing.vpsTimeScale = enc.fps) ∧
      ProfileMatches vps.profileTierLevel (fillSeqParam enc) ∧ SpsMatches sps (fillSeqParam enc) ∧
      ∀ reconSurface refSurface isIdr,
        PpsMatches pps (fillPicParam enc reconSurface refSurface isIdr) := by
  have hscale : ((enc.fps % 2 ^ 32).toNat : ℤ) = enc.fps := by omega
  exact ⟨vpsOf enc, spsOf enc, ppsOf, videoParameterSet_writeVps enc, seqParameterSet_writeSps enc,
    picParameterSet_writePps, hwidth.toNat_align.1, hheight.toNat_align.1,
    croppedWidth_spsOf hwidth, croppedHeight_spsOf hheight, ⟨_, rfl, rfl, hscale⟩,
    ⟨rfl, rfl, rfl⟩, spsMatches_spsOf hwidth hheight, ppsMatches_ppsOf enc⟩

theorem parameterSets_match_first :
    ∃ sps pps,
      readAll seqParameterSet (toBits (unescape (writeSps firstEncoder))) = some sps ∧
      readAll picParameterSet (toBits (unescape writePps)) = some pps ∧
      sps.picHeightInLumaSamples = 1856 ∧ sps.croppedHeight = 1800 ∧
      SpsMatches sps (fillSeqParam firstEncoder) := by
  have hwidth : IsSize firstEncoder.width := by decide
  obtain ⟨vps, sps, pps, -, hsps, hpps, -, hheight, -, hcropped, -, -, hmatch, -⟩ :=
    parameterSets_match hwidth (by decide) (by decide)
  exact ⟨sps, pps, hsps, hpps, Int.natCast_inj.1 hheight, hcropped, hmatch⟩

end DisplayBridge
