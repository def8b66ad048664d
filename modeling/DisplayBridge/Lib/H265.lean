import DisplayBridge.Lib.Bits
import Mathlib.Data.Nat.Log

/-!
# The header syntax of H.265

The part of the H.265 bit stream syntax that comes before the coded blocks: the
escaping of a NAL unit (7.3.1.1), the profile and level (7.3.3), the video
parameter set (7.3.2.1), the sequence parameter set (7.3.2.2), the picture
parameter set (7.3.2.3) and the slice segment header (7.3.6.1), each as a
`Bits.Reader` that goes through the elements in the order of the standard, with
the presence condition of each.

What is left out is what needs a table of its own: temporal layers, layer sets,
buffering models, scaling lists, PCM blocks, tiles and entry points, weighted
prediction, list modification, long-term references, usability information,
prediction of one reference picture set from another, dependent slices, and the
extensions. Each of these stands behind an element of its own, and the reader
fails where that element is not zero (`H265.absent`) instead of misreading what
follows.

Fields keep the names of the standard. One that is absent has the value the
standard infers.
-/

namespace H265

open Bits

/-! ### Escaping -/

/-- The payload of a NAL unit, with the number of zero bytes just read: a `03`
after two zero bytes is an emulation prevention byte and is dropped. -/
def unescapeFrom (zeros : ℕ) : List UInt8 → List UInt8
  | [] => []
  | b :: bs =>
    if 2 ≤ zeros ∧ b = 3 then unescapeFrom 0 bs
    else b :: unescapeFrom (if b = 0 then zeros + 1 else 0) bs

/-- The payload of a NAL unit. -/
def unescape (bs : List UInt8) : List UInt8 := unescapeFrom 0 bs

/-! ### Elements and flags -/

/-- Something this reader does not cover, behind a flag. -/
def absent (flag : ℕ) : Reader Unit := if flag = 0 then pure () else failure

theorem absent_bind {α : Type} {flag : ℕ} (h : flag = 0) (f : Unit → Reader α) :
    absent flag >>= f = f () := by
  rw [absent, if_pos h, pure_bind]

/-! ### Profile, tier and level -/

/-- `profile_tier_level( 1, 0 )`. -/
structure ProfileTierLevel where
  generalProfileSpace : ℕ
  generalTierFlag : ℕ
  generalProfileIdc : ℕ
  generalProfileCompatibilityFlags : ℕ
  generalProgressiveSourceFlag : ℕ
  generalInterlacedSourceFlag : ℕ
  generalNonPackedConstraintFlag : ℕ
  generalFrameOnlyConstraintFlag : ℕ
  generalReserved44Bits : ℕ
  generalLevelIdc : ℕ
deriving DecidableEq

/-- `profile_tier_level( 1, 0 )`. -/
def profileTierLevel : Reader ProfileTierLevel := do
  let generalProfileSpace ← u 2
  let generalTierFlag ← u 1
  let generalProfileIdc ← u 5
  let generalProfileCompatibilityFlags ← u 32
  let generalProgressiveSourceFlag ← u 1
  let generalInterlacedSourceFlag ← u 1
  let generalNonPackedConstraintFlag ← u 1
  let generalFrameOnlyConstraintFlag ← u 1
  let generalReserved44Bits ← u 44
  let generalLevelIdc ← u 8
  return {
    generalProfileSpace, generalTierFlag, generalProfileIdc, generalProfileCompatibilityFlags,
    generalProgressiveSourceFlag, generalInterlacedSourceFlag, generalNonPackedConstraintFlag,
    generalFrameOnlyConstraintFlag, generalReserved44Bits, generalLevelIdc }

/-! ### The video parameter set -/

/-- The clock of a stream: how many ticks it makes in a second, and how many of them
are one unit. -/
structure VpsTiming where
  vpsNumUnitsInTick : ℕ
  vpsTimeScale : ℕ
  vpsPocProportionalToTimingFlag : ℕ
  vpsNumTicksPocDiffOneMinus1 : ℕ
  vpsNumHrdParameters : ℕ
deriving DecidableEq

/-- The timing information of a video parameter set. -/
def vpsTiming : Reader VpsTiming := do
  let vpsNumUnitsInTick ← u 32
  let vpsTimeScale ← u 32
  let vpsPocProportionalToTimingFlag ← u 1
  let vpsNumTicksPocDiffOneMinus1 ← present (vpsPocProportionalToTimingFlag = 1) ue 0
  let vpsNumHrdParameters ← ue
  absent vpsNumHrdParameters
  return {
    vpsNumUnitsInTick, vpsTimeScale, vpsPocProportionalToTimingFlag,
    vpsNumTicksPocDiffOneMinus1, vpsNumHrdParameters }

/-- `video_parameter_set_rbsp( )`, of a stream with one layer and one temporal
layer. -/
structure Vps where
  vpsVideoParameterSetId : ℕ
  vpsBaseLayerInternalFlag : ℕ
  vpsBaseLayerAvailableFlag : ℕ
  vpsMaxLayersMinus1 : ℕ
  vpsMaxSubLayersMinus1 : ℕ
  vpsTemporalIdNestingFlag : ℕ
  vpsReserved0xffff16bits : ℕ
  profileTierLevel : ProfileTierLevel
  vpsSubLayerOrderingInfoPresentFlag : ℕ
  vpsMaxDecPicBufferingMinus1 : ℕ
  vpsMaxNumReorderPics : ℕ
  vpsMaxLatencyIncreasePlus1 : ℕ
  vpsMaxLayerId : ℕ
  vpsNumLayerSetsMinus1 : ℕ
  vpsTimingInfo : Option VpsTiming
  vpsExtensionFlag : ℕ
deriving DecidableEq

/-- The video parameter set, up to and including its trailing bits. -/
def videoParameterSet : Reader Vps := do
  let vpsVideoParameterSetId ← u 4
  let vpsBaseLayerInternalFlag ← u 1
  let vpsBaseLayerAvailableFlag ← u 1
  let vpsMaxLayersMinus1 ← u 6
  let vpsMaxSubLayersMinus1 ← u 3
  absent vpsMaxSubLayersMinus1
  let vpsTemporalIdNestingFlag ← u 1
  let vpsReserved0xffff16bits ← u 16
  let profileTierLevel ← profileTierLevel
  -- once for the one temporal layer, whatever the flag says
  let vpsSubLayerOrderingInfoPresentFlag ← u 1
  let vpsMaxDecPicBufferingMinus1 ← ue
  let vpsMaxNumReorderPics ← ue
  let vpsMaxLatencyIncreasePlus1 ← ue
  let vpsMaxLayerId ← u 6
  let vpsNumLayerSetsMinus1 ← ue
  absent vpsNumLayerSetsMinus1
  let vpsTimingInfoPresentFlag ← u 1
  let vpsTimingInfo ← present (vpsTimingInfoPresentFlag = 1) (some <$> vpsTiming) none
  let vpsExtensionFlag ← u 1
  absent vpsExtensionFlag
  stop
  return {
    vpsVideoParameterSetId, vpsBaseLayerInternalFlag, vpsBaseLayerAvailableFlag,
    vpsMaxLayersMinus1, vpsMaxSubLayersMinus1, vpsTemporalIdNestingFlag,
    vpsReserved0xffff16bits, profileTierLevel, vpsSubLayerOrderingInfoPresentFlag,
    vpsMaxDecPicBufferingMinus1, vpsMaxNumReorderPics, vpsMaxLatencyIncreasePlus1,
    vpsMaxLayerId, vpsNumLayerSetsMinus1, vpsTimingInfo, vpsExtensionFlag }

/-! ### Reference picture sets -/

/-- A short-term reference picture set: for each picture before, and each
picture after, the element `delta_poc_s0_minus1` (`_s1_`) and the flag that it
is used by the current picture. -/
structure RefPicSet where
  negative : List (ℕ × ℕ)
  positive : List (ℕ × ℕ)
deriving DecidableEq

/-- One picture of a set: its distance to the one before, and whether it is used. -/
def refPicSetEntry : Reader (ℕ × ℕ) := do
  let deltaPocMinus1 ← ue
  let usedByCurrPicFlag ← u 1
  return (deltaPocMinus1, usedByCurrPicFlag)

/-- `st_ref_pic_set( stRpsIdx )`. -/
def refPicSet (stRpsIdx : ℕ) : Reader RefPicSet := do
  let interRefPicSetPredictionFlag ← present (stRpsIdx ≠ 0) (u 1) 0
  absent interRefPicSetPredictionFlag
  let numNegativePics ← ue
  let numPositivePics ← ue
  let negative ← times refPicSetEntry numNegativePics
  let positive ← times refPicSetEntry numPositivePics
  return { negative, positive }

/-- `st_ref_pic_set( i )` for `i` from `i` on, a number of times. -/
def refPicSets (i : ℕ) : ℕ → Reader (List RefPicSet)
  | 0 => pure []
  | n + 1 => do
    let rps ← refPicSet i
    let sets ← refPicSets (i + 1) n
    return rps :: sets

theorem refPicSets_zero_bind {α : Type} (i : ℕ) (f : List RefPicSet → Reader α) :
    refPicSets i 0 >>= f = f [] :=
  pure_bind [] f

/-- The order count of each picture before the current one, relative to it: a
running sum, each step back being one more than the element says. -/
def deltaPocs (start : ℤ) : List (ℕ × ℕ) → List ℤ
  | [] => []
  | (d, _) :: ps => (start - (d + 1)) :: deltaPocs (start - (d + 1)) ps

/-- `DeltaPocS0`. -/
def RefPicSet.deltaPocS0 (rps : RefPicSet) : List ℤ := deltaPocs 0 rps.negative

/-! ### The sequence parameter set -/

/-- The part of the picture that is shown: what is cut off on each side, in units
of two samples for 4:2:0. -/
structure ConformanceWindow where
  conformanceWindowFlag : ℕ
  confWinLeftOffset : ℕ
  confWinRightOffset : ℕ
  confWinTopOffset : ℕ
  confWinBottomOffset : ℕ
deriving DecidableEq

/-- The part of the picture that is shown. -/
def conformanceWindow : Reader ConformanceWindow := do
  let conformanceWindowFlag ← u 1
  let confWinLeftOffset ← present (conformanceWindowFlag = 1) ue 0
  let confWinRightOffset ← present (conformanceWindowFlag = 1) ue 0
  let confWinTopOffset ← present (conformanceWindowFlag = 1) ue 0
  let confWinBottomOffset ← present (conformanceWindowFlag = 1) ue 0
  return {
    conformanceWindowFlag, confWinLeftOffset, confWinRightOffset, confWinTopOffset,
    confWinBottomOffset }

/-- `seq_parameter_set_rbsp( )`, of a stream with one temporal layer. -/
structure Sps where
  spsVideoParameterSetId : ℕ
  spsMaxSubLayersMinus1 : ℕ
  spsTemporalIdNestingFlag : ℕ
  profileTierLevel : ProfileTierLevel
  spsSeqParameterSetId : ℕ
  chromaFormatIdc : ℕ
  separateColourPlaneFlag : ℕ
  picWidthInLumaSamples : ℕ
  picHeightInLumaSamples : ℕ
  conformanceWindow : ConformanceWindow
  bitDepthLumaMinus8 : ℕ
  bitDepthChromaMinus8 : ℕ
  log2MaxPicOrderCntLsbMinus4 : ℕ
  spsSubLayerOrderingInfoPresentFlag : ℕ
  spsMaxDecPicBufferingMinus1 : ℕ
  spsMaxNumReorderPics : ℕ
  spsMaxLatencyIncreasePlus1 : ℕ
  log2MinLumaCodingBlockSizeMinus3 : ℕ
  log2DiffMaxMinLumaCodingBlockSize : ℕ
  log2MinLumaTransformBlockSizeMinus2 : ℕ
  log2DiffMaxMinLumaTransformBlockSize : ℕ
  maxTransformHierarchyDepthInter : ℕ
  maxTransformHierarchyDepthIntra : ℕ
  scalingListEnabledFlag : ℕ
  ampEnabledFlag : ℕ
  sampleAdaptiveOffsetEnabledFlag : ℕ
  pcmEnabledFlag : ℕ
  shortTermRefPicSets : List RefPicSet
  longTermRefPicsPresentFlag : ℕ
  spsTemporalMvpEnabledFlag : ℕ
  strongIntraSmoothingEnabledFlag : ℕ
  vuiParametersPresentFlag : ℕ
  spsExtensionPresentFlag : ℕ
deriving DecidableEq

/-- The sequence parameter set, up to and including its trailing bits. -/
def seqParameterSet : Reader Sps := do
  let spsVideoParameterSetId ← u 4
  let spsMaxSubLayersMinus1 ← u 3
  absent spsMaxSubLayersMinus1
  let spsTemporalIdNestingFlag ← u 1
  let profileTierLevel ← profileTierLevel
  let spsSeqParameterSetId ← ue
  let chromaFormatIdc ← ue
  let separateColourPlaneFlag ← present (chromaFormatIdc = 3) (u 1) 0
  let picWidthInLumaSamples ← ue
  let picHeightInLumaSamples ← ue
  let conformanceWindow ← conformanceWindow
  let bitDepthLumaMinus8 ← ue
  let bitDepthChromaMinus8 ← ue
  let log2MaxPicOrderCntLsbMinus4 ← ue
  -- with one temporal layer the three elements are there once, whatever the flag says
  let spsSubLayerOrderingInfoPresentFlag ← u 1
  let spsMaxDecPicBufferingMinus1 ← ue
  let spsMaxNumReorderPics ← ue
  let spsMaxLatencyIncreasePlus1 ← ue
  let log2MinLumaCodingBlockSizeMinus3 ← ue
  let log2DiffMaxMinLumaCodingBlockSize ← ue
  let log2MinLumaTransformBlockSizeMinus2 ← ue
  let log2DiffMaxMinLumaTransformBlockSize ← ue
  let maxTransformHierarchyDepthInter ← ue
  let maxTransformHierarchyDepthIntra ← ue
  let scalingListEnabledFlag ← u 1
  absent scalingListEnabledFlag
  let ampEnabledFlag ← u 1
  let sampleAdaptiveOffsetEnabledFlag ← u 1
  let pcmEnabledFlag ← u 1
  absent pcmEnabledFlag
  let numShortTermRefPicSets ← ue
  let shortTermRefPicSets ← refPicSets 0 numShortTermRefPicSets
  let longTermRefPicsPresentFlag ← u 1
  absent longTermRefPicsPresentFlag
  let spsTemporalMvpEnabledFlag ← u 1
  let strongIntraSmoothingEnabledFlag ← u 1
  let vuiParametersPresentFlag ← u 1
  absent vuiParametersPresentFlag
  let spsExtensionPresentFlag ← u 1
  absent spsExtensionPresentFlag
  stop
  return {
    spsVideoParameterSetId, spsMaxSubLayersMinus1, spsTemporalIdNestingFlag, profileTierLevel,
    spsSeqParameterSetId, chromaFormatIdc, separateColourPlaneFlag, picWidthInLumaSamples,
    picHeightInLumaSamples, conformanceWindow, bitDepthLumaMinus8, bitDepthChromaMinus8,
    log2MaxPicOrderCntLsbMinus4, spsSubLayerOrderingInfoPresentFlag,
    spsMaxDecPicBufferingMinus1, spsMaxNumReorderPics, spsMaxLatencyIncreasePlus1,
    log2MinLumaCodingBlockSizeMinus3, log2DiffMaxMinLumaCodingBlockSize,
    log2MinLumaTransformBlockSizeMinus2, log2DiffMaxMinLumaTransformBlockSize,
    maxTransformHierarchyDepthInter, maxTransformHierarchyDepthIntra, scalingListEnabledFlag,
    ampEnabledFlag, sampleAdaptiveOffsetEnabledFlag, pcmEnabledFlag, shortTermRefPicSets,
    longTermRefPicsPresentFlag, spsTemporalMvpEnabledFlag, strongIntraSmoothingEnabledFlag,
    vuiParametersPresentFlag, spsExtensionPresentFlag }

/-- `ChromaArrayType`. -/
def Sps.chromaArrayType (sps : Sps) : ℕ :=
  if sps.separateColourPlaneFlag = 0 then sps.chromaFormatIdc else 0

/-- `PicSizeInCtbsY`. -/
def Sps.picSizeInCtbs (sps : Sps) : ℕ :=
  let ctb := 2 ^ (sps.log2MinLumaCodingBlockSizeMinus3 + 3 + sps.log2DiffMaxMinLumaCodingBlockSize)
  ((sps.picWidthInLumaSamples + ctb - 1) / ctb) * ((sps.picHeightInLumaSamples + ctb - 1) / ctb)

/-- `SubWidthC`: how many luma samples there are to a chroma sample in a row. -/
def Sps.subWidthC (sps : Sps) : ℕ :=
  if sps.chromaFormatIdc = 1 ∨ sps.chromaFormatIdc = 2 then 2 else 1

/-- `SubHeightC`. -/
def Sps.subHeightC (sps : Sps) : ℕ := if sps.chromaFormatIdc = 1 then 2 else 1

/-- The width of the part of the picture that is shown. -/
def Sps.croppedWidth (sps : Sps) : ℤ :=
  sps.picWidthInLumaSamples - sps.subWidthC *
    (sps.conformanceWindow.confWinLeftOffset + sps.conformanceWindow.confWinRightOffset)

/-- The height of the part of the picture that is shown. -/
def Sps.croppedHeight (sps : Sps) : ℤ :=
  sps.picHeightInLumaSamples - sps.subHeightC *
    (sps.conformanceWindow.confWinTopOffset + sps.conformanceWindow.confWinBottomOffset)

/-! ### The picture parameter set -/

/-- `pic_parameter_set_rbsp( )`. -/
structure Pps where
  ppsPicParameterSetId : ℕ
  ppsSeqParameterSetId : ℕ
  dependentSliceSegmentsEnabledFlag : ℕ
  outputFlagPresentFlag : ℕ
  numExtraSliceHeaderBits : ℕ
  signDataHidingEnabledFlag : ℕ
  cabacInitPresentFlag : ℕ
  numRefIdxL0DefaultActiveMinus1 : ℕ
  numRefIdxL1DefaultActiveMinus1 : ℕ
  initQpMinus26 : ℤ
  constrainedIntraPredFlag : ℕ
  transformSkipEnabledFlag : ℕ
  cuQpDeltaEnabledFlag : ℕ
  diffCuQpDeltaDepth : ℕ
  ppsCbQpOffset : ℤ
  ppsCrQpOffset : ℤ
  ppsSliceChromaQpOffsetsPresentFlag : ℕ
  weightedPredFlag : ℕ
  weightedBipredFlag : ℕ
  transquantBypassEnabledFlag : ℕ
  tilesEnabledFlag : ℕ
  entropyCodingSyncEnabledFlag : ℕ
  ppsLoopFilterAcrossSlicesEnabledFlag : ℕ
  deblockingFilterControlPresentFlag : ℕ
  deblockingFilterOverrideEnabledFlag : ℕ
  ppsDeblockingFilterDisabledFlag : ℕ
  ppsBetaOffsetDiv2 : ℤ
  ppsTcOffsetDiv2 : ℤ
  ppsScalingListDataPresentFlag : ℕ
  listsModificationPresentFlag : ℕ
  log2ParallelMergeLevelMinus2 : ℕ
  sliceSegmentHeaderExtensionPresentFlag : ℕ
  ppsExtensionPresentFlag : ℕ
deriving DecidableEq

/-- The picture parameter set, up to and including its trailing bits. -/
def picParameterSet : Reader Pps := do
  let ppsPicParameterSetId ← ue
  let ppsSeqParameterSetId ← ue
  let dependentSliceSegmentsEnabledFlag ← u 1
  let outputFlagPresentFlag ← u 1
  let numExtraSliceHeaderBits ← u 3
  let signDataHidingEnabledFlag ← u 1
  let cabacInitPresentFlag ← u 1
  let numRefIdxL0DefaultActiveMinus1 ← ue
  let numRefIdxL1DefaultActiveMinus1 ← ue
  let initQpMinus26 ← se
  let constrainedIntraPredFlag ← u 1
  let transformSkipEnabledFlag ← u 1
  let cuQpDeltaEnabledFlag ← u 1
  let diffCuQpDeltaDepth ← present (cuQpDeltaEnabledFlag = 1) ue 0
  let ppsCbQpOffset ← se
  let ppsCrQpOffset ← se
  let ppsSliceChromaQpOffsetsPresentFlag ← u 1
  let weightedPredFlag ← u 1
  let weightedBipredFlag ← u 1
  let transquantBypassEnabledFlag ← u 1
  let tilesEnabledFlag ← u 1
  let entropyCodingSyncEnabledFlag ← u 1
  absent tilesEnabledFlag
  let ppsLoopFilterAcrossSlicesEnabledFlag ← u 1
  let deblockingFilterControlPresentFlag ← u 1
  let deblockingFilterOverrideEnabledFlag ←
    present (deblockingFilterControlPresentFlag = 1) (u 1) 0
  let ppsDeblockingFilterDisabledFlag ←
    present (deblockingFilterControlPresentFlag = 1) (u 1) 0
  let ppsBetaOffsetDiv2 ← present
    (deblockingFilterControlPresentFlag = 1 ∧ ppsDeblockingFilterDisabledFlag = 0) se 0
  let ppsTcOffsetDiv2 ← present
    (deblockingFilterControlPresentFlag = 1 ∧ ppsDeblockingFilterDisabledFlag = 0) se 0
  let ppsScalingListDataPresentFlag ← u 1
  absent ppsScalingListDataPresentFlag
  let listsModificationPresentFlag ← u 1
  let log2ParallelMergeLevelMinus2 ← ue
  let sliceSegmentHeaderExtensionPresentFlag ← u 1
  let ppsExtensionPresentFlag ← u 1
  absent ppsExtensionPresentFlag
  stop
  return {
    ppsPicParameterSetId, ppsSeqParameterSetId, dependentSliceSegmentsEnabledFlag,
    outputFlagPresentFlag, numExtraSliceHeaderBits, signDataHidingEnabledFlag,
    cabacInitPresentFlag, numRefIdxL0DefaultActiveMinus1, numRefIdxL1DefaultActiveMinus1,
    initQpMinus26, constrainedIntraPredFlag, transformSkipEnabledFlag, cuQpDeltaEnabledFlag,
    diffCuQpDeltaDepth, ppsCbQpOffset, ppsCrQpOffset, ppsSliceChromaQpOffsetsPresentFlag,
    weightedPredFlag, weightedBipredFlag, transquantBypassEnabledFlag, tilesEnabledFlag,
    entropyCodingSyncEnabledFlag, ppsLoopFilterAcrossSlicesEnabledFlag,
    deblockingFilterControlPresentFlag, deblockingFilterOverrideEnabledFlag,
    ppsDeblockingFilterDisabledFlag, ppsBetaOffsetDiv2, ppsTcOffsetDiv2,
    ppsScalingListDataPresentFlag, listsModificationPresentFlag, log2ParallelMergeLevelMinus2,
    sliceSegmentHeaderExtensionPresentFlag, ppsExtensionPresentFlag }

/-! ### The slice segment header -/

/-- The elements that place a picture in time: all of them are absent, and
inferred, in a picture that resets the decoder. -/
structure SliceOrder where
  slicePicOrderCntLsb : ℕ
  shortTermRefPicSet : RefPicSet
  sliceTemporalMvpEnabledFlag : ℕ
deriving DecidableEq

/-- What is inferred in an IDR picture. -/
def SliceOrder.idr : SliceOrder := ⟨0, ⟨[], []⟩, 0⟩

/-- The order count of a slice, and its reference pictures. -/
def sliceOrder (sps : Sps) : Reader SliceOrder := do
  let slicePicOrderCntLsb ← u (sps.log2MaxPicOrderCntLsbMinus4 + 4)
  let numSets := sps.shortTermRefPicSets.length
  let shortTermRefPicSetSpsFlag ← u 1
  let shortTermRefPicSetIdx ←
    present (shortTermRefPicSetSpsFlag = 1 ∧ 1 < numSets) (u (Nat.clog 2 numSets)) 0
  let shortTermRefPicSet ← present (shortTermRefPicSetSpsFlag = 0) (refPicSet numSets)
    (sps.shortTermRefPicSets.getD shortTermRefPicSetIdx ⟨[], []⟩)
  let sliceTemporalMvpEnabledFlag ← present (sps.spsTemporalMvpEnabledFlag = 1) (u 1) 0
  return { slicePicOrderCntLsb, shortTermRefPicSet, sliceTemporalMvpEnabledFlag }

/-- The beginning of the slice segment header of a picture that resets nothing, in one
slice: up to the elements that place it in time. -/
def sliceSegmentOrder (sps : Sps) (pps : Pps) : Reader SliceOrder := do
  let firstSliceSegmentInPicFlag ← u 1
  absent (1 - firstSliceSegmentInPicFlag)
  let _slicePicParameterSetId ← ue
  let _ ← u pps.numExtraSliceHeaderBits
  let _sliceType ← ue
  let _picOutputFlag ← present (pps.outputFlagPresentFlag = 1) (u 1) 1
  let _colourPlaneId ← present (sps.separateColourPlaneFlag = 1) (u 2) 0
  sliceOrder sps

/-- The elements of a slice that predicts from other pictures. -/
structure SlicePrediction where
  numRefIdxL0ActiveMinus1 : ℕ
  numRefIdxL1ActiveMinus1 : ℕ
  mvdL1ZeroFlag : ℕ
  cabacInitFlag : ℕ
  collocatedFromL0Flag : ℕ
  collocatedRefIdx : ℕ
  fiveMinusMaxNumMergeCand : ℕ
deriving DecidableEq

/-- What is inferred in a slice that predicts from no other picture. -/
def SlicePrediction.intra : SlicePrediction := ⟨0, 0, 0, 0, 1, 0, 0⟩

/-- `NumPicTotalCurr`, without long-term references. -/
def RefPicSet.numPicTotalCurr (rps : RefPicSet) : ℕ :=
  (rps.negative ++ rps.positive).countP fun e => e.2 = 1

/-- What a slice is predicted from. -/
def slicePrediction (pps : Pps) (sliceType : ℕ) (order : SliceOrder) :
    Reader SlicePrediction := do
  let numRefIdxActiveOverrideFlag ← u 1
  let numRefIdxL0ActiveMinus1 ← present (numRefIdxActiveOverrideFlag = 1) ue
    pps.numRefIdxL0DefaultActiveMinus1
  let numRefIdxL1ActiveMinus1 ← present (numRefIdxActiveOverrideFlag = 1 ∧ sliceType = 0) ue
    pps.numRefIdxL1DefaultActiveMinus1
  absent (if pps.listsModificationPresentFlag = 1 ∧
    1 < order.shortTermRefPicSet.numPicTotalCurr then 1 else 0)
  let mvdL1ZeroFlag ← present (sliceType = 0) (u 1) 0
  let cabacInitFlag ← present (pps.cabacInitPresentFlag = 1) (u 1) 0
  let collocatedFromL0Flag ←
    present (order.sliceTemporalMvpEnabledFlag = 1 ∧ sliceType = 0) (u 1) 1
  let collocatedRefIdx ← present (order.sliceTemporalMvpEnabledFlag = 1 ∧
    (collocatedFromL0Flag = 1 ∧ 0 < numRefIdxL0ActiveMinus1 ∨
      collocatedFromL0Flag = 0 ∧ 0 < numRefIdxL1ActiveMinus1)) ue 0
  absent (if pps.weightedPredFlag = 1 ∧ sliceType = 1 ∨
    pps.weightedBipredFlag = 1 ∧ sliceType = 0 then 1 else 0)
  let fiveMinusMaxNumMergeCand ← ue
  return {
    numRefIdxL0ActiveMinus1, numRefIdxL1ActiveMinus1, mvdL1ZeroFlag, cabacInitFlag,
    collocatedFromL0Flag, collocatedRefIdx, fiveMinusMaxNumMergeCand }

/-- The elements of the quantisation and of the loop filters. -/
structure SliceFilter where
  sliceQpDelta : ℤ
  sliceCbQpOffset : ℤ
  sliceCrQpOffset : ℤ
  sliceDeblockingFilterDisabledFlag : ℕ
  sliceBetaOffsetDiv2 : ℤ
  sliceTcOffsetDiv2 : ℤ
  sliceLoopFilterAcrossSlicesEnabledFlag : ℕ
deriving DecidableEq

/-- The quantisation of a slice, and its filters. -/
def sliceFilter (pps : Pps) (sliceSaoLumaFlag sliceSaoChromaFlag : ℕ) : Reader SliceFilter := do
  let sliceQpDelta ← se
  let sliceCbQpOffset ← present (pps.ppsSliceChromaQpOffsetsPresentFlag = 1) se 0
  let sliceCrQpOffset ← present (pps.ppsSliceChromaQpOffsetsPresentFlag = 1) se 0
  let deblockingFilterOverrideFlag ←
    present (pps.deblockingFilterOverrideEnabledFlag = 1) (u 1) 0
  let sliceDeblockingFilterDisabledFlag ← present (deblockingFilterOverrideFlag = 1) (u 1)
    pps.ppsDeblockingFilterDisabledFlag
  let sliceBetaOffsetDiv2 ← present
    (deblockingFilterOverrideFlag = 1 ∧ sliceDeblockingFilterDisabledFlag = 0) se
    pps.ppsBetaOffsetDiv2
  let sliceTcOffsetDiv2 ← present
    (deblockingFilterOverrideFlag = 1 ∧ sliceDeblockingFilterDisabledFlag = 0) se
    pps.ppsTcOffsetDiv2
  let sliceLoopFilterAcrossSlicesEnabledFlag ← present
    (pps.ppsLoopFilterAcrossSlicesEnabledFlag = 1 ∧
      (sliceSaoLumaFlag = 1 ∨ sliceSaoChromaFlag = 1 ∨ sliceDeblockingFilterDisabledFlag = 0))
    (u 1) pps.ppsLoopFilterAcrossSlicesEnabledFlag
  return {
    sliceQpDelta, sliceCbQpOffset, sliceCrQpOffset, sliceDeblockingFilterDisabledFlag,
    sliceBetaOffsetDiv2, sliceTcOffsetDiv2, sliceLoopFilterAcrossSlicesEnabledFlag }

/-- `slice_segment_header( )`. -/
structure SliceHeader where
  firstSliceSegmentInPicFlag : ℕ
  noOutputOfPriorPicsFlag : ℕ
  slicePicParameterSetId : ℕ
  sliceSegmentAddress : ℕ
  sliceType : ℕ
  picOutputFlag : ℕ
  colourPlaneId : ℕ
  order : SliceOrder
  sliceSaoLumaFlag : ℕ
  sliceSaoChromaFlag : ℕ
  prediction : SlicePrediction
  filter : SliceFilter
deriving DecidableEq

/-- The slice segment header of a NAL unit of the given type, up to and including
the byte alignment that ends it. -/
def sliceSegmentHeader (sps : Sps) (pps : Pps) (nalUnitType : ℕ) : Reader SliceHeader := do
  let firstSliceSegmentInPicFlag ← u 1
  let noOutputOfPriorPicsFlag ← present (16 ≤ nalUnitType ∧ nalUnitType ≤ 23) (u 1) 0
  let slicePicParameterSetId ← ue
  let dependentSliceSegmentFlag ← present
    (firstSliceSegmentInPicFlag = 0 ∧ pps.dependentSliceSegmentsEnabledFlag = 1) (u 1) 0
  absent dependentSliceSegmentFlag
  let sliceSegmentAddress ← present (firstSliceSegmentInPicFlag = 0)
    (u (Nat.clog 2 sps.picSizeInCtbs)) 0
  let _ ← u pps.numExtraSliceHeaderBits
  let sliceType ← ue
  let picOutputFlag ← present (pps.outputFlagPresentFlag = 1) (u 1) 1
  let colourPlaneId ← present (sps.separateColourPlaneFlag = 1) (u 2) 0
  let order ← present (nalUnitType ≠ 19 ∧ nalUnitType ≠ 20) (sliceOrder sps) SliceOrder.idr
  let sliceSaoLumaFlag ← present (sps.sampleAdaptiveOffsetEnabledFlag = 1) (u 1) 0
  let sliceSaoChromaFlag ← present
    (sps.sampleAdaptiveOffsetEnabledFlag = 1 ∧ sps.chromaArrayType ≠ 0) (u 1) 0
  let prediction ← present (sliceType = 0 ∨ sliceType = 1)
    (slicePrediction pps sliceType order) SlicePrediction.intra
  let filter ← sliceFilter pps sliceSaoLumaFlag sliceSaoChromaFlag
  absent pps.entropyCodingSyncEnabledFlag
  absent pps.sliceSegmentHeaderExtensionPresentFlag
  stop
  return {
    firstSliceSegmentInPicFlag, noOutputOfPriorPicsFlag, slicePicParameterSetId,
    sliceSegmentAddress, sliceType, picOutputFlag, colourPlaneId, order, sliceSaoLumaFlag,
    sliceSaoChromaFlag, prediction, filter }

end H265
