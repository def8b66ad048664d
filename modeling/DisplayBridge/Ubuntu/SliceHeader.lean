import DisplayBridge.Ubuntu.ParameterSets

/-!
# The slice header of the sender

`write_slice_header` writes the header of every frame, and next to it
`fill_pic_param` and `fill_slice_param` tell the driver what the frame is. The
three are filled in by hand, one beside the other; that they agree is
`DisplayBridge.SliceHeaderConforms`: a decoder that follows the standard, with the
parameter sets the same encoder writes, reads the header to its end and finds in
it what the driver was told.

They do not agree. The parameter sets make two elements present that the writer
leaves out: the size of the merge list in a P slice, and in every slice the flag
that the loop filter crosses slice borders – `pps_loop_filter_across_slices_enabled_flag`
is 1 and deblocking is not disabled, so nothing is inferred. A decoder does not
notice where they are missing. It takes them out of the bits that follow
(`DisplayBridge.toBits_writeSliceHeader`): the stop bit is the loop filter flag of
an IDR slice; in a P slice the quantiser offset is the merge list, the stop bit
is the quantiser offset, and the first bit of padding is the flag. Then there is
no stop bit left to end the header (`DisplayBridge.not_sliceHeaderConforms`).

These two elements are all that is missing: with them the header is read to its
end, and says what the driver was told
(`DisplayBridge.exists_header_matches`).
-/

namespace DisplayBridge

open Bits H265
open Bitstream (ofBits)

/-! ### What the driver is told -/

/-- `VAPictureHEVC`. -/
structure VAPictureHEVC where
  pictureId : VASurfaceID
  picOrderCnt : Int32
  flags : UInt32
deriving DecidableEq

/-- `VA_PICTURE_HEVC_INVALID`. -/
def vaPictureHevcInvalid : UInt32 := 0x00000001

/-- `VA_PICTURE_HEVC_RPS_ST_CURR_BEFORE`. -/
def vaPictureHevcRpsStCurrBefore : UInt32 := 0x00000010

/-- The entry of an unused place of a reference list. -/
def VAPictureHEVC.unused : VAPictureHEVC := ⟨vaInvalidId, 0, vaPictureHevcInvalid⟩

/-- `(int32_t)(n % idr_interval)` of a frame number. -/
def pocOf (frameCount : UInt64) (idrInterval : ℤ) : Int32 :=
  (gopPosition frameCount idrInterval).toUInt32.toInt32

/-- The list of fifteen references, the first of which is the previous frame
unless the picture is an IDR picture. -/
def referenceList (enc : DbEncoder) (refSurface : VASurfaceID) (isIdr : Bool) :
    List VAPictureHEVC :=
  let unused := List.replicate 15 VAPictureHEVC.unused
  if !isIdr && refSurface != vaInvalidId then
    unused.set 0
      ⟨refSurface, pocOf (enc.frameCount - 1) enc.idrInterval, vaPictureHevcRpsStCurrBefore⟩
  else unused

/-- `VAEncPictureParameterBufferHEVC`. -/
structure VAEncPictureParameterBufferHEVC where
  decodedCurrPic : VAPictureHEVC
  referenceFrames : List VAPictureHEVC
  codedBuf : UInt32
  collocatedRefPicIndex : ℕ
  lastPicture : ℕ
  picInitQp : ℕ
  diffCuQpDeltaDepth : ℕ
  ppsCbQpOffset : ℤ
  ppsCrQpOffset : ℤ
  numTileColumnsMinus1 : ℕ
  numTileRowsMinus1 : ℕ
  log2ParallelMergeLevelMinus2 : ℕ
  ctuMaxBitsizeAllowed : ℕ
  numRefIdxL0DefaultActiveMinus1 : ℕ
  numRefIdxL1DefaultActiveMinus1 : ℕ
  slicePicParameterSetId : ℕ
  nalUnitType : ℕ
  idrPicFlag : ℕ
  codingType : ℕ
  referencePicFlag : ℕ
  dependentSliceSegmentsEnabledFlag : ℕ
  signDataHidingEnabledFlag : ℕ
  constrainedIntraPredFlag : ℕ
  transformSkipEnabledFlag : ℕ
  cuQpDeltaEnabledFlag : ℕ
  weightedPredFlag : ℕ
  weightedBipredFlag : ℕ
  transquantBypassEnabledFlag : ℕ
  tilesEnabledFlag : ℕ
  entropyCodingSyncEnabledFlag : ℕ
  loopFilterAcrossTilesEnabledFlag : ℕ
  ppsLoopFilterAcrossSlicesEnabledFlag : ℕ
  scalingListDataPresentFlag : ℕ
  screenContentFlag : ℕ
  enableGpuWeightedPrediction : ℕ
  noOutputOfPriorPicsFlag : ℕ
deriving DecidableEq

/-- The type of the NAL unit: `IDR_W_RADL` or `TRAIL_R`. -/
def nalUnitType (isIdr : Bool) : ℕ := if isIdr then 19 else 1

/-- `fill_pic_param`. -/
def fillPicParam (enc : DbEncoder) (reconSurface refSurface : VASurfaceID) (isIdr : Bool) :
    VAEncPictureParameterBufferHEVC where
  decodedCurrPic := ⟨reconSurface, pocOf enc.frameCount enc.idrInterval, 0⟩
  referenceFrames := referenceList enc refSurface isIdr
  codedBuf := enc.codedBuf
  collocatedRefPicIndex := 0xFF
  lastPicture := 0
  picInitQp := 26
  diffCuQpDeltaDepth := 0
  ppsCbQpOffset := 0
  ppsCrQpOffset := 0
  numTileColumnsMinus1 := 0
  numTileRowsMinus1 := 0
  log2ParallelMergeLevelMinus2 := 0
  ctuMaxBitsizeAllowed := 0
  numRefIdxL0DefaultActiveMinus1 := 0
  numRefIdxL1DefaultActiveMinus1 := 0
  slicePicParameterSetId := 0
  nalUnitType := nalUnitType isIdr
  idrPicFlag := if isIdr then 1 else 0
  codingType := if isIdr then 1 else 2
  referencePicFlag := 1
  dependentSliceSegmentsEnabledFlag := 0
  signDataHidingEnabledFlag := 0
  constrainedIntraPredFlag := 0
  transformSkipEnabledFlag := 0
  cuQpDeltaEnabledFlag := 1
  weightedPredFlag := 0
  weightedBipredFlag := 0
  transquantBypassEnabledFlag := 0
  tilesEnabledFlag := 0
  entropyCodingSyncEnabledFlag := 0
  loopFilterAcrossTilesEnabledFlag := 1
  ppsLoopFilterAcrossSlicesEnabledFlag := 1
  scalingListDataPresentFlag := 0
  screenContentFlag := 0
  enableGpuWeightedPrediction := 0
  noOutputOfPriorPicsFlag := 0

/-- `VAEncSliceParameterBufferHEVC`. -/
structure VAEncSliceParameterBufferHEVC where
  sliceSegmentAddress : ℕ
  numCtuInSlice : ℤ
  sliceType : ℕ
  slicePicParameterSetId : ℕ
  numRefIdxL0ActiveMinus1 : ℕ
  numRefIdxL1ActiveMinus1 : ℕ
  refPicList0 : List VAPictureHEVC
  refPicList1 : List VAPictureHEVC
  maxNumMergeCand : ℕ
  sliceQpDelta : ℤ
  sliceCbQpOffset : ℤ
  sliceCrQpOffset : ℤ
  sliceBetaOffsetDiv2 : ℤ
  sliceTcOffsetDiv2 : ℤ
  lastSliceOfPicFlag : ℕ
  dependentSliceSegmentFlag : ℕ
  sliceTemporalMvpEnabledFlag : ℕ
  sliceSaoLumaFlag : ℕ
  sliceSaoChromaFlag : ℕ
  numRefIdxActiveOverrideFlag : ℕ
  mvdL1ZeroFlag : ℕ
  cabacInitFlag : ℕ
  sliceDeblockingFilterDisabledFlag : ℕ
  sliceLoopFilterAcrossSlicesEnabledFlag : ℕ
  collocatedFromL0Flag : ℕ
deriving DecidableEq

/-- `fill_slice_param`. -/
def fillSliceParam (enc : DbEncoder) (refSurface : VASurfaceID) (isIdr : Bool) :
    VAEncSliceParameterBufferHEVC where
  sliceSegmentAddress := 0
  numCtuInSlice := (align enc.width hevcCtuSize).tdiv hevcCtuSize *
    (align enc.height hevcCtuSize).tdiv hevcCtuSize
  sliceType := if isIdr then 2 else 1
  slicePicParameterSetId := 0
  numRefIdxL0ActiveMinus1 := 0
  numRefIdxL1ActiveMinus1 := 0
  refPicList0 := referenceList enc refSurface isIdr
  refPicList1 := List.replicate 15 VAPictureHEVC.unused
  maxNumMergeCand := 5
  sliceQpDelta := 0
  sliceCbQpOffset := 0
  sliceCrQpOffset := 0
  sliceBetaOffsetDiv2 := 0
  sliceTcOffsetDiv2 := 0
  lastSliceOfPicFlag := 1
  dependentSliceSegmentFlag := 0
  sliceTemporalMvpEnabledFlag := 0
  sliceSaoLumaFlag := 0
  sliceSaoChromaFlag := 0
  numRefIdxActiveOverrideFlag := 0
  mvdL1ZeroFlag := 0
  cabacInitFlag := 0
  sliceDeblockingFilterDisabledFlag := 0
  sliceLoopFilterAcrossSlicesEnabledFlag := 1
  collocatedFromL0Flag := 1

/-! ### What the header says -/

/-- `write_slice_header`. -/
def writeSliceHeader (enc : DbEncoder) (isIdr : Bool) : List UInt8 :=
  let bs := bsInit 256
  let bs := bsWrite1 bs 1 -- first_slice_segment_in_pic_flag
  let bs := if isIdr then bsWrite1 bs 0 else bs -- no_output_of_prior_pics_flag
  let bs := bsWriteUe bs 0 -- slice_pic_parameter_set_id
  let bs := bsWriteUe bs (if isIdr then 2 else 1) -- slice_type
  let bs :=
    if !isIdr then
      let poc := enc.gopPosition.toUInt32
      let bs := bsWrite bs poc 12 -- pic_order_cnt_lsb
      let bs := bsWrite1 bs 0 -- short_term_ref_pic_set_sps_flag
      let bs := bsWriteUe bs 1 -- num_negative_pics
      let bs := bsWriteUe bs 0 -- num_positive_pics
      let bs := bsWriteUe bs 0 -- delta_poc_s0_minus1[0]
      bsWrite1 bs 1 -- used_by_curr_pic_s0_flag[0]
    else bs
  let bs := if !isIdr then bsWrite1 bs 0 else bs -- num_ref_idx_active_override_flag
  let bs := bsWriteSe bs 0 -- slice_qp_delta
  finish bs

/-- A slice header says what the driver was told about the same frame: the type
of the slice, the order count, one reference – the picture just before – or none,
the size of the merge list, the quantiser and the loop filter. -/
structure HeaderMatches (hdr : SliceHeader) (isIdr : Bool)
    (slice : VAEncSliceParameterBufferHEVC) (pic : VAEncPictureParameterBufferHEVC) : Prop where
  sliceType : hdr.sliceType = slice.sliceType
  slicePicParameterSetId : hdr.slicePicParameterSetId = slice.slicePicParameterSetId
  sliceSegmentAddress : hdr.sliceSegmentAddress = slice.sliceSegmentAddress
  picOrderCntLsb :
    (hdr.order.slicePicOrderCntLsb : ℤ) = pic.decodedCurrPic.picOrderCnt.toInt % 2 ^ 12
  deltaPocS0 : hdr.order.shortTermRefPicSet.deltaPocS0 = if isIdr then [] else [-1]
  numPicTotalCurr : hdr.order.shortTermRefPicSet.numPicTotalCurr = if isIdr then 0 else 1
  maxNumMergeCand : isIdr = false →
    5 - (hdr.prediction.fiveMinusMaxNumMergeCand : ℤ) = slice.maxNumMergeCand
  sliceQpDelta : hdr.filter.sliceQpDelta = slice.sliceQpDelta
  sliceLoopFilterAcrossSlicesEnabledFlag :
    hdr.filter.sliceLoopFilterAcrossSlicesEnabledFlag =
      slice.sliceLoopFilterAcrossSlicesEnabledFlag

/-- **The header is conforming**: under the parameter sets of the same encoder it
is read to its very end, and says what the driver was told. -/
def SliceHeaderConforms (enc : DbEncoder) (isIdr : Bool) : Prop :=
  ∃ sps pps hdr,
    readAll seqParameterSet (toBits (unescape (writeSps enc))) = some sps ∧
    readAll picParameterSet (toBits (unescape writePps)) = some pps ∧
    readAll (sliceSegmentHeader sps pps (nalUnitType isIdr))
      (toBits (unescape (writeSliceHeader enc isIdr))) = some hdr ∧
    HeaderMatches hdr isIdr (fillSliceParam enc (enc.refSurface isIdr) isIdr)
      (fillPicParam enc enc.reconSurface (enc.refSurface isIdr) isIdr)

/-! ### The header with nothing missing -/

/-- The header of an IDR slice, with the given loop filter flag. -/
def idrBits (loopFilter : ℕ) : List Bool :=
  bitsOf 1 1 ++ (bitsOf 1 0 ++ (ueBits 0 ++ (ueBits 2 ++ (seBits 0 ++ bitsOf 1 loopFilter))))

/-- The order count and the references of a P slice. -/
def orderBits (poc : ℕ) : List Bool :=
  bitsOf 12 poc ++ (bitsOf 1 0 ++ (ueBits 1 ++ (ueBits 0 ++ (ueBits 0 ++ bitsOf 1 1))))

/-- The header of a P slice, with the given order count, merge list and loop
filter flag. -/
def trailBits (poc loopFilter : ℕ) : List Bool :=
  bitsOf 1 1 ++ (ueBits 0 ++ (ueBits 1 ++ (orderBits poc ++
    (bitsOf 1 0 ++ (ueBits 0 ++ (seBits 0 ++ bitsOf 1 loopFilter))))))

/-- The header without its stop bit, when nothing is missing in it. -/
def headerBits (isIdr : Bool) (poc loopFilter : ℕ) : List Bool :=
  if isIdr then idrBits loopFilter else trailBits poc loopFilter

/-- What a decoder reads in it. -/
def headerOf (isIdr : Bool) (poc loopFilter : ℕ) : SliceHeader where
  firstSliceSegmentInPicFlag := 1
  noOutputOfPriorPicsFlag := 0
  slicePicParameterSetId := 0
  sliceSegmentAddress := 0
  sliceType := if isIdr then 2 else 1
  picOutputFlag := 1
  colourPlaneId := 0
  order := if isIdr then SliceOrder.idr else ⟨poc % 2 ^ 12, ⟨[(0, 1)], []⟩, 0⟩
  sliceSaoLumaFlag := 0
  sliceSaoChromaFlag := 0
  prediction := if isIdr then SlicePrediction.intra else ⟨0, 0, 0, 0, 1, 0, 0⟩
  filter := ⟨0, 0, 0, 0, 0, 0, loopFilter % 2⟩

theorem run_refPicSet_bind {α : Type} (rest : List Bool) (f : RefPicSet → Reader α) :
    (refPicSet 0 >>= f).run (ueBits 1 ++ (ueBits 0 ++ (ueBits 0 ++ (bitsOf 1 1 ++ rest)))) =
      (f ⟨[(0, 1)], []⟩).run rest := by
  refine run_bind_some ?_
  rw [refPicSet]
  simp (disch := simp) only [↓present_bind_neg, ↓absent_bind, ↓run_ue_bind, ↓run_u_bind, times,
    refPicSetEntry, bind_assoc, pure_bind]
  rfl

theorem run_sliceOrder_bind {α : Type} (enc : DbEncoder) (poc : ℕ) (rest : List Bool)
    (f : SliceOrder → Reader α) :
    (sliceOrder (spsOf enc) >>= f).run (orderBits poc ++ rest) =
      (f ⟨poc % 2 ^ 12, ⟨[(0, 1)], []⟩, 0⟩).run rest := by
  have hbits : u ((spsOf enc).log2MaxPicOrderCntLsbMinus4 + 4) = u 12 := rfl
  have hsets : (spsOf enc).shortTermRefPicSets.length = 0 := rfl
  refine run_bind_some ?_
  rw [sliceOrder, hbits, hsets, orderBits]
  simp only [List.append_assoc]
  simp (disch := simp [spsOf]) only [↓run_u_bind, ↓run_refPicSet_bind, ↓present_bind_pos,
    ↓present_bind_neg]
  rfl

theorem run_slicePrediction_bind {α : Type} {order : SliceOrder}
    (horder : order.sliceTemporalMvpEnabledFlag = 0) (rest : List Bool)
    (f : SlicePrediction → Reader α) :
    (slicePrediction ppsOf 1 order >>= f).run (bitsOf 1 0 ++ (ueBits 0 ++ rest)) =
      (f ⟨0, 0, 0, 0, 1, 0, 0⟩).run rest := by
  refine run_bind_some ?_
  rw [slicePrediction]
  simp (disch := simp [ppsOf, horder]) only [↓run_u_bind, ↓run_ue_bind, ↓present_bind_neg,
    ↓absent_bind]
  rfl

theorem run_sliceFilter_bind {α : Type} (loopFilter : ℕ) (rest : List Bool)
    (f : SliceFilter → Reader α) :
    (sliceFilter ppsOf 0 0 >>= f).run (seBits 0 ++ (bitsOf 1 loopFilter ++ rest)) =
      (f ⟨0, 0, 0, 0, 0, 0, loopFilter % 2⟩).run rest := by
  refine run_bind_some ?_
  rw [sliceFilter]
  simp (disch := simp [ppsOf]) only [↓run_u_bind, ↓run_se_bind, ↓present_bind_pos,
    ↓present_bind_neg]
  rfl

/-- **The header with nothing missing is read**, up to its stop bit. -/
theorem run_sliceSegmentHeader (enc : DbEncoder) (isIdr : Bool) (poc loopFilter : ℕ)
    (rest : List Bool) :
    (sliceSegmentHeader (spsOf enc) ppsOf (nalUnitType isIdr)).run
        (headerBits isIdr poc loopFilter ++ rest) =
      (stop >>= fun _ => pure (headerOf isIdr poc loopFilter)).run rest := by
  have hextra : u ppsOf.numExtraSliceHeaderBits = pure 0 := rfl
  have hsync : absent ppsOf.entropyCodingSyncEnabledFlag = pure () := rfl
  have hext : absent ppsOf.sliceSegmentHeaderExtensionPresentFlag = pure () := rfl
  rw [sliceSegmentHeader, hextra, hsync, hext]
  cases isIdr with
  | true =>
    simp only [headerBits, idrBits, List.append_assoc, if_true]
    simp (disch := simp [spsOf, ppsOf, nalUnitType]) only [↓run_u_bind, ↓run_ue_bind, ↓pure_bind,
      ↓present_bind_pos, ↓present_bind_neg, ↓absent_bind, ↓run_sliceFilter_bind]
    rfl
  | false =>
    simp only [headerBits, trailBits, List.append_assoc, Bool.false_eq_true, if_false]
    simp (disch := simp [spsOf, ppsOf, nalUnitType]) only [↓run_u_bind, ↓run_ue_bind, ↓pure_bind,
      ↓present_bind_pos, ↓present_bind_neg, ↓absent_bind, ↓run_sliceOrder_bind,
      ↓run_slicePrediction_bind, ↓run_sliceFilter_bind]
    rfl

/-- An order count is the position of its frame, converted to an `int`. -/
theorem toInt_pocOf (frameCount : UInt64) (idrInterval : ℤ) :
    (pocOf frameCount idrInterval).toInt =
      if 2 * (gopPosition frameCount idrInterval).toUInt32.toNat < 2 ^ 32 then
        ((gopPosition frameCount idrInterval).toUInt32.toNat : ℤ)
      else (gopPosition frameCount idrInterval).toUInt32.toNat - (2 ^ 32 : ℕ) := by
  have htoInt : (pocOf frameCount idrInterval).toInt =
      (gopPosition frameCount idrInterval).toUInt32.toBitVec.toInt := rfl
  rw [htoInt, BitVec.toInt_eq_toNat_cond]
  rfl

/-- Its low bits survive the conversion. -/
theorem pocOf_mod (frameCount : UInt64) (idrInterval : ℤ) :
    (pocOf frameCount idrInterval).toInt % 2 ^ 12 =
      ((gopPosition frameCount idrInterval).toUInt32.toNat % 2 ^ 12 : ℕ) := by
  rw [toInt_pocOf]
  split <;> omega

/-- **These two elements are all that is missing.** With them the header of every
frame is read to its end, and it says what the driver was told – the picture being
an IDR picture exactly where `encode_surface` makes it one. -/
theorem exists_header_matches (enc : DbEncoder) (isIdr : Bool)
    (hidr : isIdr = decide (enc.gopPosition = 0)) :
    ∃ hdr, readAll (sliceSegmentHeader (spsOf enc) ppsOf (nalUnitType isIdr))
        (headerBits isIdr enc.gopPosition.toUInt32.toNat 1 ++
          stopBits (headerBits isIdr enc.gopPosition.toUInt32.toNat 1).length) = some hdr ∧
      HeaderMatches hdr isIdr (fillSliceParam enc (enc.refSurface isIdr) isIdr)
        (fillPicParam enc enc.reconSurface (enc.refSurface isIdr) isIdr) := by
  refine ⟨headerOf isIdr enc.gopPosition.toUInt32.toNat 1, ?_, ?_⟩
  · rw [readAll_eq_some, run_sliceSegmentHeader, run_stop_bind]
    rfl
  · have hpoc := pocOf_mod enc.frameCount enc.idrInterval
    cases isIdr with
    | true =>
      have hzero : gopPosition enc.frameCount enc.idrInterval = 0 := of_decide_eq_true hidr.symm
      rw [hzero] at hpoc
      exact ⟨rfl, rfl, rfl, hpoc.symm, rfl, rfl, nofun, rfl, rfl⟩
    | false => exact ⟨rfl, rfl, rfl, hpoc.symm, rfl, rfl, fun _ => rfl, rfl, rfl⟩

/-! ### The header as it is written -/

/-- **What a decoder takes the header for.** The missing elements are read out of
the bits behind them, and what is left is the rest of the padding. -/
theorem toBits_writeSliceHeader (enc : DbEncoder) (isIdr : Bool) :
    toBits (unescape (writeSliceHeader enc isIdr)) =
      headerBits isIdr enc.gopPosition.toUInt32.toNat (if isIdr then 1 else 0) ++
        if isIdr then [] else List.replicate 4 false := by
  cases isIdr with
  | true =>
    simp only [writeSliceHeader, if_true, Bool.not_true, Bool.false_eq_true, if_false, bsInit_eq,
      bsWrite1_ofBits, bsWriteUe_ofBits, bsWriteSe_ofBits, List.nil_append, UInt32.reduceToNat,
      Nat.reduceAdd, Nat.reducePow, Nat.reduceLT, Int.natAbs_zero]
    -- the stop bit of the writer is the loop filter flag
    rw [toBits_unescape_finish (by decide), headerBits, if_pos rfl, List.append_nil]
    decide
  | false =>
    -- the quantiser offset and the trailing bits, in the eyes of a decoder
    have htail : seBits 0 ++ stopBits 26 =
        ueBits 0 ++ (seBits 0 ++ (bitsOf 1 0 ++ List.replicate 4 false)) := by
      decide
    simp only [writeSliceHeader, Bool.false_eq_true, if_false, Bool.not_false, if_true, bsInit_eq,
      bsWrite_ofBits, bsWrite1_ofBits, bsWriteUe_ofBits, bsWriteSe_ofBits, List.nil_append,
      UInt32.reduceToNat, Nat.reduceAdd, Nat.reducePow, Nat.reduceLT, Int.natAbs_zero]
    have hlen : (bitsOf 1 1 ++ ueBits 0 ++ ueBits 1 ++ bitsOf 12 enc.gopPosition.toUInt32.toNat ++
        bitsOf 1 0 ++ ueBits 1 ++ ueBits 0 ++ ueBits 0 ++ bitsOf 1 1 ++ bitsOf 1 0 ++
        seBits 0).length = 26 := by
      have h₀ : (ueBits 0).length = 1 := by decide
      have h₁ : (ueBits 1).length = 3 := by decide
      have h₂ : (seBits 0).length = 1 := by decide
      simp only [List.length_append, length_bitsOf, h₀, h₁, h₂]
    rw [toBits_unescape_finish (by rw [hlen]; decide), hlen]
    simp only [headerBits, Bool.false_eq_true, if_false, trailBits, orderBits, List.append_assoc,
      htail]

/-- **No slice header is read.** The reader finds no stop bit. -/
theorem readAll_writeSliceHeader (enc : DbEncoder) (isIdr : Bool) :
    readAll (sliceSegmentHeader (spsOf enc) ppsOf (nalUnitType isIdr))
      (toBits (unescape (writeSliceHeader enc isIdr))) = none := by
  refine readAll_eq_none ?_
  rw [toBits_writeSliceHeader, run_sliceSegmentHeader]
  cases isIdr with
  | true => rfl
  | false => rfl

/-- What a conforming header would be read under: the parameter sets are read, and
there is no other way to read them. -/
theorem SliceHeaderConforms.exists_header {enc : DbEncoder} {isIdr : Bool}
    (h : SliceHeaderConforms enc isIdr) :
    ∃ hdr, readAll (sliceSegmentHeader (spsOf enc) ppsOf (nalUnitType isIdr))
      (toBits (unescape (writeSliceHeader enc isIdr))) = some hdr := by
  obtain ⟨sps, pps, hdr, hsps, hpps, hhdr, -⟩ := h
  rw [seqParameterSet_writeSps] at hsps
  rw [picParameterSet_writePps] at hpps
  obtain rfl : spsOf enc = sps := Option.some_injective _ hsps
  obtain rfl : ppsOf = pps := Option.some_injective _ hpps
  exact ⟨hdr, hhdr⟩

/-- **No frame has a conforming slice header**, in whatever state the encoder is. -/
theorem not_sliceHeaderConforms (enc : DbEncoder) (isIdr : Bool) :
    ¬ SliceHeaderConforms enc isIdr := by
  intro h
  obtain ⟨hdr, hhdr⟩ := h.exists_header
  rw [readAll_writeSliceHeader] at hhdr
  cases hhdr

/-- The first two frames of a stream, an IDR picture and one predicted from it. -/
theorem not_sliceHeaderConforms_first_two :
    ¬ SliceHeaderConforms (dbEncoderInit 2880 1800 15000 60 [0, 1, 2, 3] 4) true ∧
      ¬ SliceHeaderConforms
        { dbEncoderInit 2880 1800 15000 60 [0, 1, 2, 3] 4 with frameCount := 1 } false := by
  constructor
  · intro h
    obtain ⟨hdr, hhdr⟩ := h.exists_header
    exact Option.some_ne_none hdr (hhdr.symm.trans (readAll_writeSliceHeader _ _))
  · intro h
    obtain ⟨hdr, hhdr⟩ := h.exists_header
    exact Option.some_ne_none hdr (hhdr.symm.trans (readAll_writeSliceHeader _ _))

end DisplayBridge
